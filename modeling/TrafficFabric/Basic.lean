import TrafficFabric.Identity

/-!
# Limits, error codes and reason chains

The hard resource bounds, the closed set of error codes, and the two ways an
operation explains itself: a status, which is a code and a message, and a
reason chain, which is a bounded list of machine readable steps.

Text is a string of bytes, as on the wire.  Labels and metadata come from
peers and need not be valid in any encoding.
-/

namespace TrafficFabric

namespace Limits

def sessionsMax : Nat := 32
def participantsMaxPerCollective : Nat := 4096
def edgesMaxPerFlowGroup : Nat := 65536
def phasesMaxPerCollective : Nat := 64
def stepsMaxPerPhase : Nat := 1024
def collectivesMaxLive : Nat := 1000000
def peersMax : Nat := 65536
def topologyNodesMax : Nat := 65536
def topologyLinksMax : Nat := 262144
def metadataEntriesMax : Nat := 16
def metadataKeyBytesMax : Nat := 64
def metadataValueBytesMax : Nat := 256
def reasonChainMax : Nat := 32
def reasonDetailBytesMax : Nat := 256
def labelBytesMax : Nat := 128
def inspectionPageMax : Nat := 4096
def decisionHistoryDefaultCapacity : Nat := 4096
def decisionHistoryCapacityMax : Nat := 2 ^ 20
def tokenBucketsMax : Nat := 4096
def protocolMajor : Nat := 1
def protocolMinor : Nat := 0
def framePayloadMaxBytes : Nat := 2 ^ 20
def ioBufferBytes : Nat := 64 * 2 ^ 10
def snapshotBytesMax : Nat := 64 * 2 ^ 20
def snapshotCollectivesMax : Nat := 200000

end Limits

/-- A byte string. -/
abbrev Text := List UInt8

/-- The bytes of a literal of the source. -/
def text (s : String) : Text :=
  s.toUTF8.toList

theorem length_toList_loop (bytes : ByteArray) (index : Nat) (front : List UInt8)
    (h : index ≤ bytes.size) :
    (ByteArray.toList.loop bytes index front).length = front.length + (bytes.size - index) := by
  fun_induction ByteArray.toList.loop bytes index front with
  | case1 index front hmore ih =>
    rw [ih (by omega), List.length_cons]
    omega
  | case2 index front hend =>
    rw [List.length_reverse]
    omega

theorem length_text (s : String) : (text s).length = s.utf8ByteSize := by
  unfold text ByteArray.toList
  rw [length_toList_loop _ _ _ (Nat.zero_le _)]
  simp

inductive ErrorCode where
  | ok
  | frameTruncatedHeader
  | frameTruncatedPayload
  | frameMagicMismatch
  | frameVersionUnsupported
  | frameLengthOutOfRange
  | frameIntegrityMismatch
  | frameTrailingGarbage
  | frameKindUnknown
  | frameFlagsInvalid
  | frameLengthArithmeticOverflow
  | envelopeSessionUnknown
  | envelopeSessionMismatch
  | envelopeIncarnationStale
  | envelopeEpochStale
  | envelopeEpochUnknown
  | envelopeIdentityMismatch
  | envelopeProvenanceRejected
  | envelopeReplayed
  | envelopeSequenceRegression
  | decodeTruncated
  | decodeTrailingBytes
  | decodeInvalidTag
  | decodeInvalidEnum
  | decodeInvalidBoolean
  | decodeInvalidString
  | decodeLengthOutOfRange
  | decodeCountOutOfRange
  | decodeMessageTooLarge
  | decodeDuplicateEntry
  | decodeNonCanonical
  | decodeArithmeticOverflow
  | decodeEmptyRequiredField
  | validationParticipantUnset
  | validationParticipantDuplicate
  | validationParticipantCountOutOfRange
  | validationEdgeUnset
  | validationEdgeSelfLoop
  | validationEdgeDuplicate
  | validationEdgeEndpointNotParticipant
  | validationEdgeCountOutOfRange
  | validationPhaseOutOfRange
  | validationStepOutOfRange
  | validationClassUnknownRejected
  | validationMetadataLimit
  | validationLabelTooLong
  | validationGenerationUnset
  | validationAttemptUnset
  | validationRateInvalid
  | validationPolicyMissing
  | validationTopologyMissing
  | validationNodeUnknown
  | validationCapacityNegative
  | validationReasonChainTooLong
  | stateCollectiveUnknown
  | stateCollectiveRetired
  | stateCollectiveCancelled
  | stateGenerationRegression
  | stateAttemptRegression
  | stateDuplicateRegistration
  | stateNotLive
  | stateShuttingDown
  | stateCapacityExceeded
  | statePhaseRegression
  | statePlanMissing
  | persistenceOpenFailed
  | persistenceReadFailed
  | persistenceWriteFailed
  | persistenceRenameFailed
  | persistenceTooLarge
  | persistenceCorrupt
  | persistenceVersionUnsupported
  | persistenceIntegrityMismatch
  | persistenceTruncated
  | persistenceImpossibleState
  | persistenceDirectoryUnavailable
  | transportSocketFailed
  | transportBindFailed
  | transportListenFailed
  | transportConnectFailed
  | transportSendFailed
  | transportReceiveFailed
  | transportClosed
  | transportTimeout
  | transportAddressInvalid
  | transportNotStarted
  | transportSessionLimit
  | admissionRateLimited
  | admissionBucketCapacity
  | admissionBucketUnset
  | admissionClockRegression
  | completionStaleAttempt
  | completionStaleGeneration
  | completionRetired
  | completionCancelled
  | completionUnknownCollective
  | completionDuplicate
  | internalInvariant
  | internalUnsupported
deriving DecidableEq, Repr

/-- One machine readable step of an explanation. -/
structure Reason where
  code : Text := []
  detail : Text := []
  subject : Identity := {}
deriving DecidableEq, Repr

/-- Ordered evidence for an outcome, never longer than its hard bound. -/
abbrev ReasonChain := List Reason

namespace ReasonChain

/--
Appends a reason.  A chain at its bound is left alone, a long detail is cut,
and an empty code is spelled out.
-/
def add
    (chain : ReasonChain) (code detail : Text)
    (subject : Identity := {}) : ReasonChain :=
  if Limits.reasonChainMax ≤ chain.length then
    chain
  else
    chain ++
      [{ code := if code.isEmpty then text "unspecified" else code
         detail := detail.take Limits.reasonDetailBytesMax
         subject := subject }]

/-- Appends an already built reason. -/
def addReason (chain : ReasonChain) (reason : Reason) : ReasonChain :=
  add chain reason.code reason.detail reason.subject

end ReasonChain

/-- A code and a message. -/
structure Status where
  code : ErrorCode := .ok
  message : Text := []
deriving DecidableEq, Repr

namespace Status

def ok : Status := {}

def error (code : ErrorCode) (message : Text) : Status :=
  ⟨code, message⟩

def isOk (status : Status) : Bool :=
  status.code == .ok

@[simp] theorem isOk_ok : ok.isOk = true := by
  rfl

@[simp] theorem isOk_eq_true_iff (status : Status) : status.isOk = true ↔ status.code = .ok := by
  simp [isOk]

@[simp] theorem isOk_eq_false_iff (status : Status) : status.isOk = false ↔ status.code ≠ .ok := by
  simp [isOk]

@[simp] theorem code_error (code : ErrorCode) (message : Text) :
    (error code message).code = code := by
  rfl

/-- A chain of checks passes when the first of them and the others do. -/
theorem isOk_check_iff {fault : Prop} [Decidable fault] {failure rest : Status}
    (hfailure : failure.isOk = false) :
    (if fault then failure else rest).isOk = true ↔ ¬ fault ∧ rest.isOk = true := by
  split
  · rename_i hfault
    simp only [hfailure, hfault, Bool.false_eq_true, not_true_eq_false, false_and]
  · rename_i hfault
    exact (and_iff_right hfault).symm

/-- A check that is a status of its own. -/
theorem isOk_checked_iff {status rest : Status} :
    (if status.isOk = false then status else rest).isOk = true ↔
      status.isOk = true ∧ rest.isOk = true := by
  cases hstatus : status.isOk with
  | true => simp only [Bool.true_eq_false, if_false, true_and]
  | false => simp only [if_true, hstatus, Bool.false_eq_true, false_and]

end Status

end TrafficFabric
