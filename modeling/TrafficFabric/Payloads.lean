import TrafficFabric.Coordinator
import TrafficFabric.Persistence

/-!
# The request payloads

Each request has a codec of its own.  The writers put booleans, enumerations
and counted lists as the snapshot does, but never cut a text.  The readers state
why a field is refused: a short payload, a text or a count beyond its bound, a
value that the enumeration does not list.

Some decoders put lists into their canonical order.  A registration drops
repeated participants and refuses repeated phases and steps; an observation is
sorted by identity and its repetitions are left to its validation.
-/

namespace TrafficFabric

open Lib

namespace Reader

variable {α : Type}

def u8 : Reader UInt8 := do
  return byteAt (← take 1) 0

def identity : Reader Identity := do
  return ⟨← u64, ← u64⟩

def sequence : Reader Sequence := do
  return ⟨← u64⟩

def boolean : Reader Bool := do
  let raw ← u8
  if 1 < raw then
    throw (.error .decodeInvalidBoolean (text "boolean field carried a value other than 0 or 1"))
  return raw == 1

/-- A value of the enumeration, or the refusal of a number that it does not list. -/
def enumeration (values : List α) (undefined : Status) : Reader α := do
  let raw ← u8
  match values[raw.toNat]? with
  | none => throw undefined
  | some value => return value

def count (max : Nat) : Reader Nat := do
  let value ← u32
  if max < value.toNat then
    throw (.error .decodeCountOutOfRange (text "collection count exceeds its bound"))
  return value.toNat

def many (item : Reader α) : Nat → Reader (List α)
  | 0 => return []
  | count + 1 => do
      let first ← item
      return first :: (← many item count)

/-- A bounded number of items and the items one after another. -/
def counted (max : Nat) (item : Reader α) : Reader (List α) := do
  many item (← count max)

/-- A fixed number of items. -/
def vector (item : Reader α) : (count : Nat) → Reader (Vector α count)
  | 0 => return #v[]
  | count + 1 => do
      let before ← vector item count
      return before.push (← item)

end Reader

section Enumerations

def flowPatterns : List FlowPattern :=
  [.unspecified, .ring, .chain, .treeUp, .treeDown, .star, .fullMesh, .neighborExchange,
    .pairwiseDisjoint, .pipeline, .custom]

def flowDirections : List FlowDirection :=
  [.unknown, .unidirectional, .bidirectional]

def participantStates : List ParticipantState :=
  [.unspecified, .advertised, .live, .suspect, .expired, .fenced, .retired]

def congestionLevels : List CongestionLevel :=
  [.unknown, .none, .low, .moderate, .high, .severe]

inductive EvidenceKindTag where
  | none
  | capacity
  | congestion
  | topology
  | policy
deriving DecidableEq, Repr

def evidenceKinds : List EvidenceKindTag :=
  [.none, .capacity, .congestion, .topology, .policy]

def EvidencePayload.kind : EvidencePayload → EvidenceKindTag
  | .none => .none
  | .capacity _ => .capacity
  | .congestion _ => .congestion
  | .topology _ => .topology
  | .policy _ => .policy

end Enumerations

namespace Writer

/-- Booleans, enumerations and counted lists are put as in a snapshot. -/
abbrev boolean := SnapWriter.boolean

abbrev enumeration {α : Type} [DecidableEq α] (values : List α) (value : α) : Text :=
  SnapWriter.enumeration values value

abbrev counted {α : Type} (item : α → Text) (items : List α) : Text :=
  SnapWriter.counted item items

end Writer

/-- The refusal of a number that an enumeration does not list. -/
def undefinedEnum (message : Text) : Status :=
  .error .decodeInvalidEnum message

section Definition

def encodePhase (phase : CollectivePhase) : Text :=
  putU64 phase.phaseIndex.value ++ writeString phase.label ++
    Writer.boolean phase.synchronizationPoint ++ putU32 phase.stepCount

def decodePhase : Reader CollectivePhase := do
  let phaseIndex ← Reader.sequence
  let label ← Reader.string Limits.labelBytesMax
  let synchronizationPoint ← Reader.boolean
  let stepCount ← Reader.u32
  return { phaseIndex, label, synchronizationPoint, stepCount }

def encodeStep (step : CollectiveStep) : Text :=
  putU64 step.phaseIndex.value ++ putU64 step.stepIndex.value ++
    Writer.enumeration algorithmHints step.hint ++ Writer.boolean step.synchronizationPoint

def decodeStep : Reader CollectiveStep := do
  let phaseIndex ← Reader.sequence
  let stepIndex ← Reader.sequence
  let hint ← Reader.enumeration algorithmHints
    (undefinedEnum (text "step algorithm hint is not defined by this version"))
  let synchronizationPoint ← Reader.boolean
  return { phaseIndex, stepIndex, hint, synchronizationPoint }

def encodeMetadata (metadata : Metadata) : Text :=
  Writer.counted (fun entry => writeString entry.1 ++ writeString entry.2) metadata.entries

/-- Sets the entries that are read, one after another. -/
def decodeEntries : Nat → Metadata → Reader Metadata
  | 0, metadata => return metadata
  | count + 1, metadata => do
      let key ← Reader.string Limits.metadataKeyBytesMax
      let value ← Reader.string Limits.metadataValueBytesMax
      match metadata.set key value with
      | none => throw (.error .decodeDuplicateEntry (text "metadata carries a duplicate key"))
      | some metadata => decodeEntries count metadata

def decodeMetadata : Reader Metadata := do
  decodeEntries (← Reader.count Limits.metadataEntriesMax) {}

/-- The participants of a definition; there has to be one. -/
def decodeParticipants : Reader (List ParticipantId) := do
  let participants ← Reader.count Limits.participantsMaxPerCollective
  if participants = 0 then
    throw (.error .decodeEmptyRequiredField
      (text "a collective definition must name its participants"))
  Reader.many Reader.identity participants

def encodeDefinition (value : CollectiveDefinition) : Text :=
  putIdentity value.id ++ putIdentity value.generation ++
    Writer.enumeration collectiveClasses value.collectiveClass ++
    Writer.enumeration algorithmHints value.algorithmHint ++
    Writer.enumeration collectiveScopes value.scope ++ writeString value.label ++
    putIdentity value.originNode ++ putIdentity value.fabric ++
    Writer.counted putIdentity value.participants ++ Writer.counted encodePhase value.phases ++
    Writer.counted encodeStep value.steps ++ encodeMetadata value.metadata ++
    Writer.boolean value.declaresBarrierSemantics ++ putU64 value.logicalBytes ++
    putU64 value.registrationSequence.value

def decodeDefinition : Reader CollectiveDefinition := do
  let id ← Reader.identity
  let generation ← Reader.identity
  let collectiveClass ← Reader.enumeration collectiveClasses
    (undefinedEnum (text "collective class is not defined by this version"))
  let algorithmHint ← Reader.enumeration algorithmHints
    (undefinedEnum (text "algorithm hint is not defined by this version"))
  let scope ← Reader.enumeration collectiveScopes
    (undefinedEnum (text "collective scope is not defined by this version"))
  let label ← Reader.string Limits.labelBytesMax
  let originNode ← Reader.identity
  let fabric ← Reader.identity
  let participants ← decodeParticipants
  let phases ← Reader.counted Limits.phasesMaxPerCollective decodePhase
  let steps ← Reader.counted (Limits.phasesMaxPerCollective * Limits.stepsMaxPerPhase) decodeStep
  let metadata ← decodeMetadata
  let declaresBarrierSemantics ← Reader.boolean
  let logicalBytes ← Reader.u64
  let registrationSequence ← Reader.sequence
  return {
    id, generation, collectiveClass, algorithmHint, scope, label, originNode, fabric,
    participants, phases, steps, metadata, declaresBarrierSemantics, logicalBytes,
    registrationSequence }

def encodeRegisterCollective (definition : CollectiveDefinition) : Text :=
  encodeDefinition definition

/-- The order of the steps: by phase, then within the phase. -/
def stepLess (a b : CollectiveStep) : Bool :=
  if a.phaseIndex ≠ b.phaseIndex then decide (a.phaseIndex < b.phaseIndex)
  else decide (a.stepIndex < b.stepIndex)

/-- Two neighbours of the list are related. -/
def hasAdjacent {α : Type} (related : α → α → Bool) : List α → Bool
  | a :: b :: rest => related a b || hasAdjacent related (b :: rest)
  | _ => false

/-- The lists of a definition in canonical order; a repeated phase or step is refused. -/
def canonicalizeDefinition (definition : CollectiveDefinition) :
    Except Status CollectiveDefinition :=
  let phases := definition.phases.insertionSort (fun a b => a.phaseIndex.value ≤ b.phaseIndex.value)
  let steps := definition.steps.insertionSort (fun a b => stepLess b a = false)
  require (hasAdjacent (fun a b => a.phaseIndex == b.phaseIndex) phases = false)
    (.error .decodeDuplicateEntry (text "collective definition states the same phase twice")) <|
  require (hasAdjacent (fun a b => a.phaseIndex == b.phaseIndex && a.stepIndex == b.stepIndex)
      steps = false)
    (.error .decodeDuplicateEntry (text "collective definition states the same step twice")) <|
  .ok
    { definition with
      participants := canonicalizeParticipants definition.participants
      phases := phases
      steps := steps }

def decodeRegisterCollective (payload : Text) : Except Status CollectiveDefinition :=
  (Reader.decodeOne decodeDefinition payload).bind canonicalizeDefinition

end Definition

section Planning

def encodeInstance (value : CollectiveInstance) : Text :=
  putIdentity value.id ++ putIdentity value.generation ++ putIdentity value.attempt ++
    putU64 value.attemptSequence.value

def decodeInstance : Reader CollectiveInstance := do
  let id ← Reader.identity
  let generation ← Reader.identity
  let attempt ← Reader.identity
  let attemptSequence ← Reader.sequence
  return { id, generation, attempt, attemptSequence }

def encodeEdge (edge : FlowEdge) : Text :=
  putIdentity edge.source ++ putIdentity edge.destination ++ putU64 edge.logicalBytes ++
    putU64 edge.stepIndex.value ++ Writer.enumeration algorithmHints edge.hint ++
    Writer.boolean edge.crossesRack

def decodeEdge : Reader FlowEdge := do
  let source ← Reader.identity
  let destination ← Reader.identity
  let logicalBytes ← Reader.u64
  let stepIndex ← Reader.sequence
  let hint ← Reader.enumeration algorithmHints
    (undefinedEnum (text "edge algorithm hint is not defined by this version"))
  let crossesRack ← Reader.boolean
  return { source, destination, logicalBytes, stepIndex, hint, crossesRack }

def encodeFlowGroupPlan (value : FlowGroupPlan) : Text :=
  encodeInstance value.collectiveInstance ++
    Writer.enumeration collectiveClasses value.collectiveClass ++
    Writer.enumeration flowPatterns value.pattern ++
    Writer.enumeration flowDirections value.direction ++ putU64 value.planSequence.value ++
    Writer.boolean value.requiresSimultaneousStart ++ Writer.counted encodeEdge value.edges

def decodeFlowGroupPlan : Reader FlowGroupPlan := do
  let collectiveInstance ← decodeInstance
  let collectiveClass ← Reader.enumeration collectiveClasses
    (undefinedEnum (text "collective class is not defined by this version"))
  let pattern ← Reader.enumeration flowPatterns
    (undefinedEnum (text "flow pattern is not defined by this version"))
  let direction ← Reader.enumeration flowDirections
    (undefinedEnum (text "flow direction is not defined by this version"))
  let planSequence ← Reader.sequence
  let requiresSimultaneousStart ← Reader.boolean
  let edges ← Reader.counted Limits.edgesMaxPerFlowGroup decodeEdge
  return {
    collectiveInstance, collectiveClass, pattern, direction, edges, planSequence,
    requiresSimultaneousStart }

/-- The plan travels only when the request says that it has one. -/
def encodePlanSection (value : DecisionRequest) : Text :=
  if value.hasFlowGroupPlan then encodeFlowGroupPlan value.plan else []

def decodePlanSection (hasFlowGroupPlan : Bool) : Reader FlowGroupPlan :=
  if hasFlowGroupPlan then decodeFlowGroupPlan else return {}

def encodeDecisionRequest (value : DecisionRequest) : Text :=
  putIdentity value.session ++ encodeInstance value.collectiveInstance ++
    putIdentity value.observedTopologyGeneration ++ putIdentity value.observedPolicyGeneration ++
    putIdentity value.observedEpoch ++ putIdentity value.observedCapacityGeneration ++
    putIdentity value.observedCongestionGeneration ++ Writer.boolean value.hasFlowGroupPlan ++
    encodePlanSection value ++ Writer.boolean value.hasRequestedClass ++
    Writer.enumeration trafficClasses value.requestedClass ++ putU64 value.requestedTransferBytes

def decodeDecisionRequest : Reader DecisionRequest := do
  let session ← Reader.identity
  let collectiveInstance ← decodeInstance
  let observedTopologyGeneration ← Reader.identity
  let observedPolicyGeneration ← Reader.identity
  let observedEpoch ← Reader.identity
  let observedCapacityGeneration ← Reader.identity
  let observedCongestionGeneration ← Reader.identity
  let hasFlowGroupPlan ← Reader.boolean
  let plan ← decodePlanSection hasFlowGroupPlan
  let hasRequestedClass ← Reader.boolean
  let requestedClass ← Reader.enumeration trafficClasses
    (undefinedEnum (text "requested traffic class is not defined by this version"))
  let requestedTransferBytes ← Reader.u64
  return {
    session, collectiveInstance, observedTopologyGeneration, observedPolicyGeneration,
    observedEpoch, observedCapacityGeneration, observedCongestionGeneration, hasFlowGroupPlan,
    plan, hasRequestedClass, requestedClass, requestedTransferBytes }

def encodePlanFlowGroup (request : DecisionRequest) : Text :=
  encodeDecisionRequest request

def decodePlanFlowGroup (payload : Text) : Except Status DecisionRequest :=
  Reader.decodeOne decodeDecisionRequest payload

end Planning

section Evidence

def encodeLinkCapacity (entry : LinkCapacity) : Text :=
  putIdentity entry.link ++ putU64 entry.provisionedBps ++ putU64 entry.availableBps ++
    putU32 entry.utilizationBps ++ Writer.boolean entry.oversubscribed ++
    putU32 entry.oversubscriptionRatioPerMille

def decodeLinkCapacity : Reader LinkCapacity := do
  let link ← Reader.identity
  let provisionedBps ← Reader.u64
  let availableBps ← Reader.u64
  let utilizationBps ← Reader.u32
  let oversubscribed ← Reader.boolean
  let oversubscriptionRatioPerMille ← Reader.u32
  return {
    link, provisionedBps, availableBps, utilizationBps, oversubscribed,
    oversubscriptionRatioPerMille }

def encodeCapacity (value : CapacityEvidence) : Text :=
  putIdentity value.generation ++ putIdentity value.topologyGeneration ++
    putU64 value.capturedMonotonicMs ++ Writer.boolean value.synthetic ++
    Writer.counted encodeLinkCapacity value.links

def decodeCapacity : Reader CapacityEvidence := do
  let generation ← Reader.identity
  let topologyGeneration ← Reader.identity
  let capturedMonotonicMs ← Reader.u64
  let synthetic ← Reader.boolean
  let links ← Reader.counted Limits.topologyLinksMax decodeLinkCapacity
  let evidence : CapacityEvidence :=
    { generation, topologyGeneration, links, capturedMonotonicMs, synthetic }
  return evidence.canonicalize

def encodeLinkCongestion (entry : LinkCongestion) : Text :=
  putIdentity entry.link ++ putU32 entry.utilizationBps ++ putU32 entry.queueDepthBytes ++
    putU32 entry.ecnMarksPerMille ++ putU32 entry.pfcPausePerMille ++
    Writer.enumeration congestionLevels entry.level

def decodeLinkCongestion : Reader LinkCongestion := do
  let link ← Reader.identity
  let utilizationBps ← Reader.u32
  let queueDepthBytes ← Reader.u32
  let ecnMarksPerMille ← Reader.u32
  let pfcPausePerMille ← Reader.u32
  let level ← Reader.enumeration congestionLevels
    (undefinedEnum (text "congestion level is not defined by this version"))
  return { link, utilizationBps, queueDepthBytes, ecnMarksPerMille, pfcPausePerMille, level }

def encodeCongestion (value : CongestionEvidence) : Text :=
  putIdentity value.generation ++ putIdentity value.topologyGeneration ++
    putU64 value.capturedMonotonicMs ++ putU64 value.validForMs ++
    Writer.boolean value.synthetic ++ Writer.counted encodeLinkCongestion value.links

def decodeCongestion : Reader CongestionEvidence := do
  let generation ← Reader.identity
  let topologyGeneration ← Reader.identity
  let capturedMonotonicMs ← Reader.u64
  let validForMs ← Reader.u64
  let synthetic ← Reader.boolean
  let links ← Reader.counted Limits.topologyLinksMax decodeLinkCongestion
  let evidence : CongestionEvidence :=
    { generation, topologyGeneration, links, capturedMonotonicMs, validForMs, synthetic }
  return evidence.canonicalize

/-- A topology is put as in a snapshot. -/
def encodeTopology (value : TopologyEvidence) : Text :=
  writeTopology value

def decodeNode : Reader TopologyNode := do
  let id ← Reader.identity
  let rack ← Reader.identity
  let acceleratorAttached ← Reader.boolean
  let acceleratorCount ← Reader.u32
  return { id, rack, acceleratorAttached, acceleratorCount }

def decodeLink : Reader TopologyLink := do
  let id ← Reader.identity
  let a ← Reader.identity
  let b ← Reader.identity
  let linkClass ← Reader.enumeration linkClasses
    (undefinedEnum (text "link class is not defined by this version"))
  let capacityBps ← Reader.u64
  let lanes ← Reader.u32
  let sharedOversubscribed ← Reader.boolean
  return { id, a, b, linkClass, capacityBps, lanes, sharedOversubscribed }

/-- The topology of a payload; the section of a snapshot is read otherwise. -/
def Protocol.decodeTopology : Reader TopologyEvidence := do
  let generation ← Reader.identity
  let capturedMonotonicMs ← Reader.u64
  let synthetic ← Reader.boolean
  let nodes ← Reader.counted Limits.topologyNodesMax decodeNode
  let links ← Reader.counted Limits.topologyLinksMax decodeLink
  let topology : TopologyEvidence := { generation, nodes, links, capturedMonotonicMs, synthetic }
  return topology.canonicalize

/-- A policy is put as in a snapshot. -/
def encodeTrafficPolicy (value : TrafficPolicy) : Text :=
  writePolicy value

def decodeResponse : Reader CongestionResponseTable := do
  let buckets ←
    Reader.vector (do return (← Reader.u32, ← Reader.u32)) CongestionResponseTable.bucketCount
  return {
    utilizationBps := buckets.map Prod.fst
    rateNumeratorPerMille := buckets.map Prod.snd }

def decodeClassPolicy : Reader TrafficClassPolicy := do
  let trafficClass ← Reader.enumeration trafficClasses
    (undefinedEnum (text "traffic class is not defined by this version"))
  let priority ← Reader.u64
  let minimumBandwidthBps ← Reader.u64
  let maximumBandwidthBps ← Reader.u64
  let burstBytes ← Reader.u64
  let requiresSimultaneousStart ← Reader.boolean
  let requiresEvidenceFreshness ← Reader.boolean
  let isolation ← Reader.enumeration isolationModes
    (undefinedEnum (text "isolation mode is not defined by this version"))
  return {
    trafficClass, priority, minimumBandwidthBps, maximumBandwidthBps, burstBytes,
    requiresSimultaneousStart, requiresEvidenceFreshness, isolation }

def decodeCollectivePolicy : Reader CollectiveClassPolicy := do
  let collectiveClass ← Reader.enumeration collectiveClasses
    (undefinedEnum (text "collective class is not defined by this version"))
  let trafficClass ← Reader.enumeration trafficClasses
    (undefinedEnum (text "traffic class is not defined by this version"))
  let admitWhenUnknownSemantics ← Reader.boolean
  let allowMemberOverride ← Reader.boolean
  let freshnessRequirementMs ← Reader.u64
  return {
    collectiveClass, trafficClass, admitWhenUnknownSemantics, allowMemberOverride,
    freshnessRequirementMs }

def decodeTrafficPolicy : Reader TrafficPolicy := do
  let generation ← Reader.identity
  let defaultMaximumBandwidthBps ← Reader.u64
  let burstMultiplierPerMille ← Reader.u64
  let congestionResponse ← decodeResponse
  let classPolicies ← Reader.counted 16 decodeClassPolicy
  let collectivePolicies ← Reader.counted 16 decodeCollectivePolicy
  return {
    generation, defaultMaximumBandwidthBps, burstMultiplierPerMille, congestionResponse,
    classPolicies, collectivePolicies }

/-- A payload that states no kind is not written. -/
def encodeEvidence (value : EvidencePayload) : Except Status Text :=
  let tag := Writer.enumeration evidenceKinds value.kind
  match value with
  | .none => .error (.error .decodeInvalidTag (text "evidence payload states no evidence kind"))
  | .capacity evidence => .ok (tag ++ encodeCapacity evidence)
  | .congestion evidence => .ok (tag ++ encodeCongestion evidence)
  | .topology evidence => .ok (tag ++ encodeTopology evidence)
  | .policy policy => .ok (tag ++ encodeTrafficPolicy policy)

def decodeEvidenceOf : EvidenceKindTag → Reader EvidencePayload
  | .none => throw (.error .decodeInvalidTag (text "evidence payload states no evidence kind"))
  | .capacity => return .capacity (← decodeCapacity)
  | .congestion => return .congestion (← decodeCongestion)
  | .topology => return .topology (← Protocol.decodeTopology)
  | .policy => return .policy (← decodeTrafficPolicy)

def decodeEvidence (payload : Text) : Except Status EvidencePayload :=
  Reader.decodeOne
    (do
      let kind ← Reader.enumeration evidenceKinds
        (.error .decodeInvalidTag (text "evidence kind is not defined by this version"))
      decodeEvidenceOf kind)
    payload

def encodeInstallPolicy (policy : TrafficPolicy) : Text :=
  encodeTrafficPolicy policy

def decodeInstallPolicy (payload : Text) : Except Status TrafficPolicy :=
  Reader.decodeOne decodeTrafficPolicy payload

end Evidence

section Fixed

def encodeHeartbeat (value : HeartbeatPayload) : Text :=
  putIdentity value.participant ++ putIdentity value.incarnation ++
    Writer.enumeration participantStates value.state ++ putIdentity value.node ++
    putU64 value.clientClockMs

def decodeHeartbeat (payload : Text) : Except Status HeartbeatPayload :=
  Reader.decodeOne
    (do
      let participant ← Reader.identity
      let incarnation ← Reader.identity
      let state ← Reader.enumeration participantStates
        (undefinedEnum (text "participant state is not defined by this version"))
      let node ← Reader.identity
      let clientClockMs ← Reader.u64
      return { participant, incarnation, state, node, clientClockMs })
    payload

def encodeBeginAttempt (value : BeginAttemptPayload) : Text :=
  putIdentity value.id ++ putIdentity value.generation ++ putIdentity value.attempt ++
    putU64 value.transferBytes

def decodeBeginAttempt (payload : Text) : Except Status BeginAttemptPayload :=
  Reader.decodeOne
    (do
      let id ← Reader.identity
      let generation ← Reader.identity
      let attempt ← Reader.identity
      let transferBytes ← Reader.u64
      return { id, generation, attempt, transferBytes })
    payload

def encodeLifecycle (value : LifecyclePayload) : Text :=
  putIdentity value.id ++ putIdentity value.generation ++ putIdentity value.attempt ++
    writeString value.reason

def decodeLifecycle (payload : Text) : Except Status LifecyclePayload :=
  Reader.decodeOne
    (do
      let id ← Reader.identity
      let generation ← Reader.identity
      let attempt ← Reader.identity
      let reason ← Reader.string Limits.reasonDetailBytesMax
      return { id, generation, attempt, reason })
    payload

def encodeInspectRequest (value : InspectRequestPayload) : Text :=
  [value.subject] ++ putIdentity value.id ++ putU32 value.offset ++ putU32 value.limit

def decodeInspectRequest (payload : Text) : Except Status InspectRequestPayload :=
  Reader.decodeOne
    (do
      let subject ← Reader.u8
      let id ← Reader.identity
      let offset ← Reader.u32
      let limit ← Reader.u32
      if Limits.inspectionPageMax < limit.toNat then
        throw (.error .decodeCountOutOfRange (text "inspection page size exceeds the bound"))
      return { subject, id, offset, limit })
    payload

def encodeExplainRequest (value : ExplainRequestPayload) : Text :=
  putIdentity value.id ++ putIdentity value.attempt ++ putU64 value.correlation ++
    Writer.boolean value.hasCorrelation

def decodeExplainRequest (payload : Text) : Except Status ExplainRequestPayload :=
  Reader.decodeOne
    (do
      let id ← Reader.identity
      let attempt ← Reader.identity
      let correlation ← Reader.u64
      let hasCorrelation ← Reader.boolean
      return { id, attempt, correlation, hasCorrelation })
    payload

end Fixed

/-- The decoders that a coordinator uses. -/
def wireDecoders : RequestDecoders where
  heartbeat := decodeHeartbeat
  registerCollective := decodeRegisterCollective
  beginAttempt := decodeBeginAttempt
  planFlowGroup := decodePlanFlowGroup
  lifecycle := decodeLifecycle
  evidence := decodeEvidence
  inspectRequest := decodeInspectRequest
  explainRequest := decodeExplainRequest
  installPolicy := decodeInstallPolicy

end TrafficFabric
