import TrafficFabric.Protocol
import TrafficFabric.Service

/-!
# The snapshot file

A snapshot is an envelope of 60 bytes and a payload.  The envelope holds the
magic, the format version, the length and the CRC-32 of the payload, the time
of writing and a digest of 32 bytes; the payload holds the durable part of the
authority and the records of the catalog.

The format has a codec of its own.  Its reader says only whether a field could
be read; what a failure means is decided where the field is read.  Nothing of a
refused file is handed on.
-/

namespace TrafficFabric

open Lib

section Digest

/-- Mixes a byte into a lane of the digest. -/
def mixLane (byte : UInt8) (lane : UInt64) : UInt64 :=
  let salt : UInt64 := 0x9E3779B97F4A7C15
  let salted := byte.toUInt64 + salt + (lane <<< 6) + (lane >>> 2)
  let mixed : UInt64 := (lane ^^^ salted) * 0xFF51AFD7ED558CCD
  mixed ^^^ (mixed >>> 33)

/-- Mixes the next lane into the lane at the index. -/
def finishLane (lanes : List UInt64) (index : Nat) : List UInt64 :=
  let mixed : UInt64 := (lanes.getD index 0 ^^^ lanes.getD ((index + 1) % 4) 0) * 0xC4CEB9FE1A85EC53
  lanes.set index (mixed ^^^ (mixed >>> 29))

def digestPayload (data : Text) : Text :=
  let lanes :=
    data.zipIdx.foldl (fun lanes (byte, index) => lanes.modify (index % 4) (mixLane byte))
      [0x243F6A8885A308D3, 0x13198A2E03707344, 0xA4093822299F31D0, 0x082EFA98EC4E6C89]
  let lanes := (List.range 2).foldl (fun lanes _ => (List.range 4).foldl finishLane lanes) lanes
  let out := lanes.flatMap putU64
  -- The length is folded into the first eight bytes only.
  List.zipWith (· ^^^ ·) (out.take 8) (putU64 data.length.toUInt64) ++ out.drop 8

end Digest

section Values

/-- The values of each enumeration in the order of their numbers. -/
def collectiveClasses : List CollectiveClass :=
  [.unknown, .allReduce, .allGather, .reduceScatter, .broadcast, .gather, .scatter, .allToAll,
    .pointToPoint, .barrierOnly, .sendRecvGrouped, .reduce, .scan, .sendRecvSplit,
    .unknownVendor]

def algorithmHints : List AlgorithmHint :=
  [.unspecified, .ring, .tree, .doubleBinaryTree, .hierarchical, .recursiveDoubling,
    .rabenseifner, .butterfly, .direct, .pipeline, .ringChunked, .vendorSpecific]

def collectiveScopes : List CollectiveScope :=
  [.unspecified, .intraNode, .interNode, .crossRack, .crossPod, .hybrid]

def collectiveStates : List CollectiveState :=
  [.unregistered, .registered, .planning, .active, .draining, .completed, .cancelled, .retired,
    .timedOut]

def linkClasses : List LinkClass :=
  [.unspecified, .intraNode, .interNode, .interRack, .interPod, .oversubscribed]

def trafficClasses : List TrafficClass :=
  [.unclassified, .latencyCritical, .controlPlane, .bulkData, .bestEffortBulk, .background,
    .isolated, .probe]

def isolationModes : List IsolationMode :=
  [.shared, .classIsolated, .dedicatedPath]

end Values

namespace SnapWriter

/-- A text is cut at its bound. -/
def string (value : Text) (maxBytes : Nat) : Text :=
  let value := value.take maxBytes
  putU32 value.length.toUInt32 ++ value

def boolean (value : Bool) : Text :=
  [if value then 1 else 0]

def enumeration {α : Type} [DecidableEq α] (values : List α) (value : α) : Text :=
  [(values.idxOf value).toUInt8]

/-- The number of the items and the items one after another. -/
def counted {α : Type} (item : α → Text) (items : List α) : Text :=
  putU32 items.length.toUInt32 ++ items.flatMap item

end SnapWriter

/-- A reader of the payload: a value and the bytes after it, or nothing. -/
abbrev SnapReader :=
  StateT Text Option

namespace SnapReader

variable {α : Type}

def take (count : Nat) : SnapReader Text :=
  fun data => if data.length < count then none else some (data.take count, data.drop count)

def u8 : SnapReader UInt8
  | [] => none
  | byte :: rest => some (byte, rest)

def u32 : SnapReader UInt32 := do
  return readU32 (← take 4)

def u64 : SnapReader UInt64 := do
  return readU64 (← take 8)

def identity : SnapReader Identity := do
  return ⟨← u64, ← u64⟩

def sequence : SnapReader Sequence := do
  return ⟨← u64⟩

def string (maxBytes : Nat) : SnapReader Text := do
  let length ← u32
  if maxBytes < length.toNat then
    failure
  take length.toNat

def boolean : SnapReader Bool := do
  let raw ← u8
  if 1 < raw then
    failure
  return raw == 1

def enumeration (values : List α) : SnapReader α := do
  let raw ← u8
  match values[raw.toNat]? with
  | none => failure
  | some value => return value

def count (max : Nat) : SnapReader Nat := do
  let value ← u32
  if max < value.toNat then
    failure
  return value.toNat

def many (item : SnapReader α) : Nat → SnapReader (List α)
  | 0 => return []
  | count + 1 => do
      let first ← item
      return first :: (← many item count)

/-- A bounded number of items and the items one after another. -/
def counted (max : Nat) (item : SnapReader α) : SnapReader (List α) := do
  many item (← count max)

/-- A fixed number of items. -/
def vector (item : SnapReader α) : (count : Nat) → SnapReader (Vector α count)
  | 0 => return #v[]
  | count + 1 => do
      let before ← vector item count
      return before.push (← item)

end SnapReader

section Fields

def writeMetadata (metadata : Metadata) : Text :=
  SnapWriter.counted
    (fun entry =>
      SnapWriter.string entry.1 Limits.metadataKeyBytesMax ++
        SnapWriter.string entry.2 Limits.metadataValueBytesMax)
    metadata.entries

/-- Sets the entries that are read, one after another. -/
def readEntries : Nat → Metadata → SnapReader Metadata
  | 0, metadata => return metadata
  | count + 1, metadata => do
      let key ← SnapReader.string Limits.metadataKeyBytesMax
      let value ← SnapReader.string Limits.metadataValueBytesMax
      match metadata.set key value with
      | none => failure
      | some metadata => readEntries count metadata

def readMetadata : SnapReader Metadata := do
  readEntries (← SnapReader.count Limits.metadataEntriesMax) {}

def writePhase (phase : CollectivePhase) : Text :=
  putU64 phase.phaseIndex.value ++ SnapWriter.string phase.label Limits.labelBytesMax ++
    SnapWriter.boolean phase.synchronizationPoint ++ putU32 phase.stepCount

def readPhase : SnapReader CollectivePhase := do
  let phaseIndex ← SnapReader.sequence
  let label ← SnapReader.string Limits.labelBytesMax
  let synchronizationPoint ← SnapReader.boolean
  let stepCount ← SnapReader.u32
  return { phaseIndex, label, synchronizationPoint, stepCount }

def writeStep (step : CollectiveStep) : Text :=
  putU64 step.phaseIndex.value ++ putU64 step.stepIndex.value ++
    SnapWriter.enumeration algorithmHints step.hint ++
    SnapWriter.boolean step.synchronizationPoint

def readStep : SnapReader CollectiveStep := do
  let phaseIndex ← SnapReader.sequence
  let stepIndex ← SnapReader.sequence
  let hint ← SnapReader.enumeration algorithmHints
  let synchronizationPoint ← SnapReader.boolean
  return { phaseIndex, stepIndex, hint, synchronizationPoint }

def writeDefinition (definition : CollectiveDefinition) : Text :=
  putIdentity definition.id ++ putIdentity definition.generation ++
    SnapWriter.enumeration collectiveClasses definition.collectiveClass ++
    SnapWriter.enumeration algorithmHints definition.algorithmHint ++
    SnapWriter.enumeration collectiveScopes definition.scope ++
    SnapWriter.string definition.label Limits.labelBytesMax ++
    putIdentity definition.originNode ++ putIdentity definition.fabric ++
    SnapWriter.counted putIdentity definition.participants ++
    SnapWriter.counted writePhase definition.phases ++
    SnapWriter.counted writeStep definition.steps ++
    writeMetadata definition.metadata ++
    SnapWriter.boolean definition.declaresBarrierSemantics ++
    putU64 definition.logicalBytes ++ putU64 definition.registrationSequence.value

def readDefinition : SnapReader CollectiveDefinition := do
  let id ← SnapReader.identity
  let generation ← SnapReader.identity
  let collectiveClass ← SnapReader.enumeration collectiveClasses
  let algorithmHint ← SnapReader.enumeration algorithmHints
  let scope ← SnapReader.enumeration collectiveScopes
  let label ← SnapReader.string Limits.labelBytesMax
  let originNode ← SnapReader.identity
  let fabric ← SnapReader.identity
  let participants ← SnapReader.counted Limits.participantsMaxPerCollective SnapReader.identity
  let phases ← SnapReader.counted Limits.phasesMaxPerCollective readPhase
  let steps ← SnapReader.counted (Limits.phasesMaxPerCollective * Limits.stepsMaxPerPhase) readStep
  let metadata ← readMetadata
  let declaresBarrierSemantics ← SnapReader.boolean
  let logicalBytes ← SnapReader.u64
  let registrationSequence ← SnapReader.sequence
  return {
    id, generation, collectiveClass, algorithmHint, scope, label, originNode, fabric,
    participants, phases, steps, metadata, declaresBarrierSemantics, logicalBytes,
    registrationSequence }

def writeRecord (record : CollectiveRecord) : Text :=
  writeDefinition record.definition ++
    SnapWriter.enumeration collectiveStates record.state ++
    putIdentity record.currentAttempt ++ putU64 record.attemptTransferBytes ++
    putU64 record.attemptSequence.value ++ putU64 record.registrationSequence.value ++
    putU64 record.lastMutationSequence.value ++ putU64 record.registeredMonotonicMs ++
    putU64 record.lastMutatedMonotonicMs ++ putU32 record.generationAncestryDepth

def readRecord : SnapReader CollectiveRecord := do
  let definition ← readDefinition
  let state ← SnapReader.enumeration collectiveStates
  let currentAttempt ← SnapReader.identity
  let attemptTransferBytes ← SnapReader.u64
  let attemptSequence ← SnapReader.sequence
  let registrationSequence ← SnapReader.sequence
  let lastMutationSequence ← SnapReader.sequence
  let registeredMonotonicMs ← SnapReader.u64
  let lastMutatedMonotonicMs ← SnapReader.u64
  let generationAncestryDepth ← SnapReader.u32
  return {
    definition, state, currentAttempt, attemptTransferBytes, attemptSequence,
    registrationSequence, lastMutationSequence, registeredMonotonicMs,
    lastMutatedMonotonicMs, generationAncestryDepth }

def writeNode (node : TopologyNode) : Text :=
  putIdentity node.id ++ putIdentity node.rack ++
    SnapWriter.boolean node.acceleratorAttached ++ putU32 node.acceleratorCount

def readNode : SnapReader TopologyNode := do
  let id ← SnapReader.identity
  let rack ← SnapReader.identity
  let acceleratorAttached ← SnapReader.boolean
  let acceleratorCount ← SnapReader.u32
  return { id, rack, acceleratorAttached, acceleratorCount }

def writeLink (link : TopologyLink) : Text :=
  putIdentity link.id ++ putIdentity link.a ++ putIdentity link.b ++
    SnapWriter.enumeration linkClasses link.linkClass ++ putU64 link.capacityBps ++
    putU32 link.lanes ++ SnapWriter.boolean link.sharedOversubscribed

def readLink : SnapReader TopologyLink := do
  let id ← SnapReader.identity
  let a ← SnapReader.identity
  let b ← SnapReader.identity
  let linkClass ← SnapReader.enumeration linkClasses
  let capacityBps ← SnapReader.u64
  let lanes ← SnapReader.u32
  let sharedOversubscribed ← SnapReader.boolean
  return { id, a, b, linkClass, capacityBps, lanes, sharedOversubscribed }

def writeTopology (topology : TopologyEvidence) : Text :=
  putIdentity topology.generation ++ putU64 topology.capturedMonotonicMs ++
    SnapWriter.boolean topology.synthetic ++ SnapWriter.counted writeNode topology.nodes ++
    SnapWriter.counted writeLink topology.links

def readTopology : SnapReader TopologyEvidence := do
  let generation ← SnapReader.identity
  let capturedMonotonicMs ← SnapReader.u64
  let synthetic ← SnapReader.boolean
  let nodes ← SnapReader.counted Limits.topologyNodesMax readNode
  let links ← SnapReader.counted Limits.topologyLinksMax readLink
  return { generation, capturedMonotonicMs, synthetic, nodes, links }

def writeResponse (table : CongestionResponseTable) : Text :=
  (List.finRange CongestionResponseTable.bucketCount).flatMap fun index =>
    putU32 (table.utilizationBps.get index) ++ putU32 (table.rateNumeratorPerMille.get index)

def readResponse : SnapReader CongestionResponseTable := do
  let buckets ←
    SnapReader.vector (do return (← SnapReader.u32, ← SnapReader.u32))
      CongestionResponseTable.bucketCount
  return {
    utilizationBps := buckets.map Prod.fst
    rateNumeratorPerMille := buckets.map Prod.snd }

def writeClassPolicy (entry : TrafficClassPolicy) : Text :=
  SnapWriter.enumeration trafficClasses entry.trafficClass ++ putU64 entry.priority ++
    putU64 entry.minimumBandwidthBps ++ putU64 entry.maximumBandwidthBps ++
    putU64 entry.burstBytes ++ SnapWriter.boolean entry.requiresSimultaneousStart ++
    SnapWriter.boolean entry.requiresEvidenceFreshness ++
    SnapWriter.enumeration isolationModes entry.isolation

def readClassPolicy : SnapReader TrafficClassPolicy := do
  let trafficClass ← SnapReader.enumeration trafficClasses
  let priority ← SnapReader.u64
  let minimumBandwidthBps ← SnapReader.u64
  let maximumBandwidthBps ← SnapReader.u64
  let burstBytes ← SnapReader.u64
  let requiresSimultaneousStart ← SnapReader.boolean
  let requiresEvidenceFreshness ← SnapReader.boolean
  let isolation ← SnapReader.enumeration isolationModes
  return {
    trafficClass, priority, minimumBandwidthBps, maximumBandwidthBps, burstBytes,
    requiresSimultaneousStart, requiresEvidenceFreshness, isolation }

def writeCollectivePolicy (entry : CollectiveClassPolicy) : Text :=
  SnapWriter.enumeration collectiveClasses entry.collectiveClass ++
    SnapWriter.enumeration trafficClasses entry.trafficClass ++
    SnapWriter.boolean entry.admitWhenUnknownSemantics ++
    SnapWriter.boolean entry.allowMemberOverride ++ putU64 entry.freshnessRequirementMs

def readCollectivePolicy : SnapReader CollectiveClassPolicy := do
  let collectiveClass ← SnapReader.enumeration collectiveClasses
  let trafficClass ← SnapReader.enumeration trafficClasses
  let admitWhenUnknownSemantics ← SnapReader.boolean
  let allowMemberOverride ← SnapReader.boolean
  let freshnessRequirementMs ← SnapReader.u64
  return {
    collectiveClass, trafficClass, admitWhenUnknownSemantics, allowMemberOverride,
    freshnessRequirementMs }

def writePolicy (policy : TrafficPolicy) : Text :=
  putIdentity policy.generation ++ putU64 policy.defaultMaximumBandwidthBps ++
    putU64 policy.burstMultiplierPerMille ++ writeResponse policy.congestionResponse ++
    SnapWriter.counted writeClassPolicy policy.classPolicies ++
    SnapWriter.counted writeCollectivePolicy policy.collectivePolicies

def readPolicy : SnapReader TrafficPolicy := do
  let generation ← SnapReader.identity
  let defaultMaximumBandwidthBps ← SnapReader.u64
  let burstMultiplierPerMille ← SnapReader.u64
  let congestionResponse ← readResponse
  let classPolicies ← SnapReader.counted 16 readClassPolicy
  let collectivePolicies ← SnapReader.counted 16 readCollectivePolicy
  return {
    generation, defaultMaximumBandwidthBps, burstMultiplierPerMille, congestionResponse,
    classPolicies, collectivePolicies }

end Fields

def snapshotFormatVersion : UInt32 := 1
def snapshotMagic : UInt32 := 0x43544653
def snapshotEnvelopeBytes : Nat := 60
def snapshotDigestBytes : Nat := 32

section Encoding

/-- Why a record must not be written, if it must not. -/
def recordFault (record : CollectiveRecord) : Option Status :=
  if record.definition.id.isNone || record.definition.generation.isNone then
    some (.error .persistenceImpossibleState
      (text "refusing to persist a collective without an identity or generation"))
  else if record.definition.participants.isEmpty then
    some (.error .persistenceImpossibleState
      (text "refusing to persist a collective with no participants"))
  else if Limits.participantsMaxPerCollective < record.definition.participants.length then
    some (.error .persistenceImpossibleState
      (text "refusing to persist a collective beyond the participant bound"))
  else if record.state = .unregistered then
    some (.error .persistenceImpossibleState
      (text "refusing to persist an unregistered collective"))
  else
    none

/-- Why contents must not be written, if they must not. -/
def contentsFault (contents : SnapshotContents) : Option Status :=
  if contents.authority.policyGeneration.isSome ∧
      contents.authority.policy.validate.isOk = false then
    some (.error .persistenceImpossibleState
      (text "refusing to persist an invalid policy: " ++
        contents.authority.policy.validate.message))
  else if contents.authority.topologyGeneration.isSome ∧
      contents.authority.topology.validate.isOk = false then
    some (.error .persistenceImpossibleState
      (text "refusing to persist an invalid topology: " ++
        contents.authority.topology.validate.message))
  else if Limits.snapshotCollectivesMax < contents.records.length then
    some (.error .persistenceTooLarge
      (text "snapshot holds more collectives than the format bound"))
  else
    contents.records.findSome? recordFault

def encodePayload (contents : SnapshotContents) : Text :=
  putU32 snapshotFormatVersion ++ putU64 contents.writtenMonotonicMs ++
    putIdentity contents.authority.lastEpoch ++
    putIdentity contents.authority.policyGeneration ++
    putIdentity contents.authority.topologyGeneration ++
    putU64 contents.authority.restartCount ++
    SnapWriter.boolean contents.authority.topologyGeneration.isSome ++
    (if contents.authority.topologyGeneration.isSome then
      writeTopology contents.authority.topology
    else
      []) ++
    SnapWriter.boolean contents.authority.policyGeneration.isSome ++
    (if contents.authority.policyGeneration.isSome then
      writePolicy contents.authority.policy
    else
      []) ++
    SnapWriter.counted writeRecord contents.records

def encodeSnapshot (contents : SnapshotContents) : Except Status Text :=
  match contentsFault contents with
  | some status => .error status
  | none =>
    let payload := encodePayload contents
    require (payload.length ≤ Limits.snapshotBytesMax)
      (.error .persistenceTooLarge (text "encoded snapshot exceeds the size bound")) <|
    let envelope :=
      putU32 snapshotMagic ++ putU32 snapshotFormatVersion ++
        putU64 payload.length.toUInt64 ++ putU32 (crc32 payload) ++
        putU64 contents.writtenMonotonicMs ++ digestPayload payload
    require (envelope.length = snapshotEnvelopeBytes)
      (.error .internalInvariant (text "snapshot envelope has an unexpected size")) <|
    .ok (envelope ++ payload)

end Encoding

section Decoding

/-- A decoder of the payload: a value and the bytes after it, or why the file is refused. -/
abbrev SnapDecoder :=
  StateT Text (Except Status)

/-- A field that cannot be read refuses the file. -/
def SnapReader.orRefuse {α : Type} (reader : SnapReader α) (refusal : Status) : SnapDecoder α :=
  fun data =>
    match reader data with
    | none => .error refusal
    | some result => .ok result

def payloadIncomplete : Status :=
  .error .persistenceTruncated (text "snapshot payload is incomplete")

/-- The topology section, which is there exactly when it is announced. -/
def decodeTopology (generation : TopologyGeneration) : SnapDecoder (Option TopologyEvidence) := do
  if ← SnapReader.boolean.orRefuse payloadIncomplete then
    let topology ← readTopology.orRefuse
      (.error .persistenceCorrupt (text "snapshot topology section is malformed"))
    if topology.generation ≠ generation then
      throw (.error .persistenceImpossibleState
        (text "snapshot topology generation disagrees with the durable record"))
    return some topology
  else
    if generation.isSome then
      throw (.error .persistenceImpossibleState
        (text "snapshot claims a topology generation but carries no topology"))
    return none

/-- The policy section, which is there exactly when it is announced. -/
def decodePolicy (generation : PolicyGeneration) : SnapDecoder (Option TrafficPolicy) := do
  if ← SnapReader.boolean.orRefuse payloadIncomplete then
    let policy ← readPolicy.orRefuse
      (.error .persistenceCorrupt (text "snapshot policy section is malformed"))
    if policy.validate.isOk = false then
      throw (.error .persistenceImpossibleState
        (text "snapshot policy is not usable: " ++ policy.validate.message))
    if policy.generation ≠ generation then
      throw (.error .persistenceImpossibleState
        (text "snapshot policy generation disagrees with the durable record"))
    return some policy
  else
    if generation.isSome then
      throw (.error .persistenceImpossibleState
        (text "snapshot claims a policy generation but carries no policy"))
    return none

/-- A topology is checked only after the policy section has been read. -/
def checkDecodedTopology : Option TopologyEvidence → SnapDecoder Unit
  | none => return
  | some topology => do
      if topology.validate.isOk = false then
        throw (.error .persistenceImpossibleState
          (text "snapshot topology is not usable: " ++ topology.validate.message))

def decodeRecords : SnapDecoder (List CollectiveRecord) := do
  let count ← (SnapReader.count Limits.snapshotCollectivesMax).orRefuse
    (.error .persistenceCorrupt (text "snapshot collective count is out of range"))
  (SnapReader.many readRecord count).orRefuse
    (.error .persistenceCorrupt (text "snapshot collective section is malformed"))

def decodePayload (written : UInt64) : SnapDecoder SnapshotContents := do
  let format ← SnapReader.u32.orRefuse payloadIncomplete
  if format ≠ snapshotFormatVersion then
    throw (.error .persistenceVersionUnsupported (text "snapshot payload version is not supported"))
  let writtenMonotonicMs ← SnapReader.u64.orRefuse payloadIncomplete
  if writtenMonotonicMs ≠ written then
    throw (.error .persistenceCorrupt
      (text "snapshot envelope and payload disagree about the write time"))
  let lastEpoch ← SnapReader.identity.orRefuse payloadIncomplete
  let policyGeneration ← SnapReader.identity.orRefuse payloadIncomplete
  let topologyGeneration ← SnapReader.identity.orRefuse payloadIncomplete
  let restartCount ← SnapReader.u64.orRefuse payloadIncomplete
  let topology ← decodeTopology topologyGeneration
  let policy ← decodePolicy policyGeneration
  checkDecodedTopology topology
  let records ← decodeRecords
  if (← get) ≠ [] then
    throw (.error .persistenceCorrupt (text "snapshot payload carries trailing bytes"))
  return {
    writtenMonotonicMs
    authority :=
      { lastEpoch, policyGeneration, topologyGeneration, restartCount
        topology := topology.getD {}
        policy := policy.getD {} }
    records }

/-- The fields of the envelope before the digest. -/
structure SnapshotEnvelope where
  magic : UInt32
  formatVersion : UInt32
  payloadBytes : UInt64
  payloadCrc32 : UInt32
  writtenMonotonicMs : UInt64

def readEnvelope : SnapReader SnapshotEnvelope := do
  let magic ← SnapReader.u32
  let formatVersion ← SnapReader.u32
  let payloadBytes ← SnapReader.u64
  let payloadCrc32 ← SnapReader.u32
  let writtenMonotonicMs ← SnapReader.u64
  return { magic, formatVersion, payloadBytes, payloadCrc32, writtenMonotonicMs }

/-- The payload of a file whose envelope matches it, with the time of writing. -/
def openEnvelope (bytes : Text) : Except Status (UInt64 × Text) :=
  require (snapshotEnvelopeBytes ≤ bytes.length)
    (.error .persistenceTruncated (text "snapshot is shorter than its envelope")) <|
  require (bytes.length ≤ Limits.snapshotBytesMax + snapshotEnvelopeBytes)
    (.error .persistenceTooLarge (text "snapshot exceeds the size bound")) <|
  match readEnvelope (bytes.take snapshotEnvelopeBytes) with
  | none => .error (.error .persistenceTruncated (text "snapshot envelope is incomplete"))
  | some (envelope, rest) =>
    require (envelope.magic = snapshotMagic)
      (.error .persistenceCorrupt (text "snapshot magic does not match this format")) <|
    require (envelope.formatVersion = snapshotFormatVersion)
      (.error .persistenceVersionUnsupported (text "snapshot format version is not supported")) <|
    require (envelope.payloadBytes.toNat ≤ Limits.snapshotBytesMax)
      (.error .persistenceTooLarge (text "snapshot payload exceeds the size bound")) <|
    require (envelope.payloadBytes.toNat = bytes.length - snapshotEnvelopeBytes)
      (.error .persistenceTruncated
        (text "snapshot payload length disagrees with the file size")) <|
    let payload := bytes.drop snapshotEnvelopeBytes
    require (crc32 payload = envelope.payloadCrc32)
      (.error .persistenceIntegrityMismatch (text "snapshot payload CRC32 does not match")) <|
    match SnapReader.take snapshotDigestBytes rest with
    | none => .error (.error .persistenceTruncated (text "snapshot digest is incomplete"))
    | some (digest, _) =>
      require (digest = digestPayload payload)
        (.error .persistenceIntegrityMismatch
          (text "snapshot digest does not match its payload")) <|
      .ok (envelope.writtenMonotonicMs, payload)

def decodeSnapshot (bytes : Text) : Except Status SnapshotContents :=
  match openEnvelope bytes with
  | .error status => .error status
  | .ok (written, payload) => (decodePayload written payload).map Prod.fst

end Decoding

inductive LoadDisposition where
  | loaded
  | missing
  | rejectedCorrupt
  | rejectedTruncated
  | rejectedIntegrity
  | rejectedVersion
  | rejectedOversized
  | rejectedImpossible
  | rejectedIo
deriving DecidableEq, Repr

/-- What opening and reading a file finds; a failed read may have found some bytes. -/
inductive SnapshotFile where
  | absent
  | whole (bytes : Text)
  | failed (bytes : Text)
deriving DecidableEq, Repr

namespace SnapshotStore

/-- The disposition of a file that the decoder refuses. -/
def dispositionOf : ErrorCode → LoadDisposition
  | .persistenceTruncated => .rejectedTruncated
  | .persistenceIntegrityMismatch => .rejectedIntegrity
  | .persistenceVersionUnsupported => .rejectedVersion
  | .persistenceTooLarge => .rejectedOversized
  | .persistenceImpossibleState => .rejectedImpossible
  | _ => .rejectedCorrupt

def oversized : LoadDisposition × Text :=
  (.rejectedOversized, text "snapshot file exceeds the size bound")

/-- Loads the file at the path, or says why there is nothing to load. -/
def load (path : Text) (file : SnapshotFile) :
    Except (LoadDisposition × Text) SnapshotContents :=
  require (path ≠ []) (.rejectedIo, text "no snapshot path is configured") <|
  match file with
  | .absent => .error (.missing, text "snapshot file is absent")
  | .failed bytes =>
    require (bytes.length ≤ Limits.snapshotBytesMax + snapshotEnvelopeBytes) oversized <|
    .error (.rejectedIo, text "snapshot file could not be read completely")
  | .whole bytes =>
    require (bytes.length ≤ Limits.snapshotBytesMax + snapshotEnvelopeBytes) oversized <|
    match decodeSnapshot bytes with
    | .error status => .error (dispositionOf status.code, status.message)
    | .ok contents => .ok contents

/-- The bytes a save writes: the contents, stamped with the time of the save. -/
def save (path : Text) (contents : SnapshotContents) (now : UInt64) : Except Status Text :=
  require (path ≠ [])
    (.error .persistenceDirectoryUnavailable (text "no snapshot path is configured")) <|
  encodeSnapshot { contents with writtenMonotonicMs := now }

end SnapshotStore

end TrafficFabric
