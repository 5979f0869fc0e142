import TrafficFabric.HeartbeatAnswer
import TrafficFabric.Explanations
import TrafficFabric.SnapshotCodec

/-!
# The response payloads

An acknowledgement is a few fields and a chain of reasons; its encoder fails
only on a chain beyond the bound.  A decision carries the flow group it was made
for with all of its edges, the participants of the group and once more those of
the collective.

No encoder looks at the size of what it writes.  The bound on a frame is met by
the encoder of the frame or not at all.
-/

namespace TrafficFabric

open Lib

section Reasons

def encodeReason (reason : Reason) : Text :=
  writeString reason.code ++ writeString reason.detail ++ putIdentity reason.subject

def encodeReasonChain (value : ReasonChain) : Except Status Text :=
  if Limits.reasonChainMax < value.length then
    .error (.error .validationReasonChainTooLong (text "reason chain exceeds its bound"))
  else
    .ok (Writer.counted encodeReason value)

/-- Fields and the reasons behind them. -/
def encodeWithReasons (fields : Text) (reasons : ReasonChain) : Except Status Text :=
  (encodeReasonChain reasons).map fun chain => fields ++ chain

end Reasons

section Decisions

def encodeFlowGroup (value : FlowGroup) : Text :=
  putIdentity value.id ++ putIdentity value.collectiveInstance.id ++
    putIdentity value.collectiveInstance.generation ++
    putIdentity value.collectiveInstance.attempt ++
    Writer.enumeration collectiveClasses value.collectiveClass ++
    Writer.enumeration flowPatterns value.pattern ++
    Writer.enumeration flowDirections value.direction ++ Writer.counted encodeEdge value.edges ++
    Writer.counted putIdentity value.participants ++ putU64 value.totalLogicalBytes ++
    putU32 value.maxFanOut ++ putU32 value.maxFanIn ++ putU32 value.crossRackEdgeCount ++
    Writer.boolean value.requiresSimultaneousStart ++ putU64 value.planSequence.value

/-- The flow group and the instance of the pacing intent are the decision's own. -/
def encodePacing (value : DecisionRecord) : Text :=
  Writer.enumeration pacingModes value.pacing.mode ++ putIdentity value.flowGroup ++
    putIdentity value.collectiveInstance.id ++ putIdentity value.collectiveInstance.generation ++
    putIdentity value.collectiveInstance.attempt ++ putU64 value.pacing.admittedBandwidthBps ++
    putU64 value.pacing.ceilingBandwidthBps ++ putU64 value.pacing.burstBytes ++
    putU64 value.pacing.utilizationBps ++ putU64 value.pacing.releaseAfterMonotonicMs

def encodeSync (value : SyncSensitivity) : Text :=
  Writer.enumeration syncKinds value.kind ++ Writer.enumeration syncBases value.basis ++
    Writer.boolean value.latencyCritical ++ Writer.boolean value.allMembersMustArrive ++
    Writer.boolean value.completionOrderingMatters ++ putU32 value.barrierMemberCount ++
    putU64 value.maximumSkewMicros

/-- Everything a decision states before its reasons. -/
def encodeDecisionFields (value : DecisionRecord) : Text :=
  encodeInstance value.collectiveInstance ++
    Writer.enumeration collectiveClasses value.collectiveClass ++
    Writer.enumeration algorithmHints value.algorithmHint ++
    Writer.enumeration outcomes value.outcome ++ Writer.enumeration authorityAxes value.axis ++
    putU32 value.code.raw.toUInt32 ++ putIdentity value.flowGroup ++
    Writer.boolean value.flowGroupConstructed ++ encodeFlowGroup value.group ++
    Writer.counted putIdentity value.participants ++
    Writer.enumeration trafficClasses value.trafficClass ++ putU64 value.priority ++
    Writer.enumeration isolationModes value.isolation ++ encodePacing value ++
    encodeSync value.sync ++ putIdentity value.collectiveGeneration ++
    putIdentity value.topologyGeneration ++ putIdentity value.policyGeneration ++
    putIdentity value.capacityGeneration ++ putIdentity value.congestionGeneration ++
    putIdentity value.epoch ++ Writer.boolean value.congestionEvidenceUsed ++
    Writer.boolean value.capacityEvidenceUsed ++ Writer.boolean value.allMembersLive ++
    putU64 value.phaseIndex.value ++ putU64 value.stepIndex.value

def encodeDecisionRecord (value : DecisionRecord) : Except Status Text :=
  (encodeWithReasons (encodeDecisionFields value) value.reasons).map fun front =>
    front ++ putU64 value.decidedMonotonicMs ++ putU64 value.decisionSequence.value

end Decisions

section Payloads

def registrationResults : List RegistrationResult :=
  [.registered, .generationAdvanced, .unchanged, .rejectedInvalid, .rejectedTerminal,
    .rejectedCapacity]

structure RegisterAckPayload where
  id : CollectiveId := {}
  generation : CollectiveGeneration := {}
  result : RegistrationResult := .registered
  registrationSequence : Sequence := {}
  reasons : ReasonChain := []
deriving DecidableEq, Repr

structure AttemptAckPayload where
  id : CollectiveId := {}
  attempt : CollectiveAttemptId := {}
  previousAttempt : CollectiveAttemptId := {}
  state : CollectiveState := .unregistered
  reasons : ReasonChain := []
deriving DecidableEq, Repr

structure LifecycleAckPayload where
  id : CollectiveId := {}
  state : CollectiveState := .unregistered
  reasons : ReasonChain := []
deriving DecidableEq, Repr

structure EvidenceAckPayload where
  kind : EvidenceKindTag := .none
  result : UInt8 := 0
  generation : EvidenceGeneration := {}
  reasons : ReasonChain := []
deriving DecidableEq, Repr

structure InspectResponsePayload where
  subject : UInt8 := 0
  body : Text := []
  truncated : Bool := false
deriving DecidableEq, Repr

structure ExplainResponsePayload where
  found : Bool := false
  decision : DecisionRecord := {}
  explanation : Text := []
deriving DecidableEq, Repr

structure InstallPolicyAckPayload where
  generation : PolicyGeneration := {}
  result : UInt8 := 0
  reasons : ReasonChain := []
deriving DecidableEq, Repr

structure ErrorPayload where
  code : ErrorCode := .ok
  message : Text := []
  reasons : ReasonChain := []
deriving DecidableEq, Repr

def encodeHeartbeatAck (value : HeartbeatAckPayload) : Except Status Text :=
  encodeWithReasons
    (putIdentity value.participant ++ putIdentity value.incarnation ++
      Writer.enumeration participantStates value.state ++ putU64 value.expiresAtMonotonicMs ++
      Writer.boolean value.accepted)
    value.reasons

def encodeRegisterAck (value : RegisterAckPayload) : Except Status Text :=
  encodeWithReasons
    (putIdentity value.id ++ putIdentity value.generation ++
      Writer.enumeration registrationResults value.result ++
      putU64 value.registrationSequence.value)
    value.reasons

def encodeAttemptAck (value : AttemptAckPayload) : Except Status Text :=
  encodeWithReasons
    (putIdentity value.id ++ putIdentity value.attempt ++ putIdentity value.previousAttempt ++
      Writer.enumeration collectiveStates value.state)
    value.reasons

def encodeLifecycleAck (value : LifecycleAckPayload) : Except Status Text :=
  encodeWithReasons
    (putIdentity value.id ++ Writer.enumeration collectiveStates value.state) value.reasons

def encodeEvidenceAck (value : EvidenceAckPayload) : Except Status Text :=
  encodeWithReasons
    (Writer.enumeration evidenceKinds value.kind ++ [value.result] ++ putIdentity value.generation)
    value.reasons

def encodeInspectResponse (value : InspectResponsePayload) : Text :=
  [value.subject] ++ writeString value.body ++ Writer.boolean value.truncated

def encodeExplainResponse (value : ExplainResponsePayload) : Except Status Text :=
  (encodeDecisionRecord value.decision).map fun decision =>
    Writer.boolean value.found ++ decision ++ writeString value.explanation

def encodeInstallPolicyAck (value : InstallPolicyAckPayload) : Except Status Text :=
  encodeWithReasons (putIdentity value.generation ++ [value.result]) value.reasons

def encodeError (value : ErrorPayload) : Except Status Text :=
  encodeWithReasons (putU32 value.code.raw.toUInt32 ++ writeString value.message) value.reasons

end Payloads

/-- What a request is answered with where it is not answered by an error. -/
inductive ResponsePayload where
  | heartbeatAck (ack : HeartbeatAckPayload)
  | registerAck (ack : RegisterAckPayload)
  | attemptAck (ack : AttemptAckPayload)
  | flowGroupDecision (decision : DecisionRecord)
  | lifecycleAck (ack : LifecycleAckPayload)
  | evidenceAck (ack : EvidenceAckPayload)
  | inspectResponse (response : InspectResponsePayload)
  | explainResponse (response : ExplainResponsePayload)
  | installPolicyAck (ack : InstallPolicyAckPayload)
  | shutdownAck (response : InspectResponsePayload)
deriving DecidableEq, Repr

namespace ResponsePayload

def kind : ResponsePayload → MessageKind
  | .heartbeatAck _ => .heartbeatAck
  | .registerAck _ => .registerAck
  | .attemptAck _ => .attemptAck
  | .flowGroupDecision _ => .flowGroupDecision
  | .lifecycleAck _ => .lifecycleAck
  | .evidenceAck _ => .evidenceAck
  | .inspectResponse _ => .inspectResponse
  | .explainResponse _ => .explainResponse
  | .installPolicyAck _ => .installPolicyAck
  | .shutdownAck _ => .shutdownAck

def encode : ResponsePayload → Except Status Text
  | .heartbeatAck ack => encodeHeartbeatAck ack
  | .registerAck ack => encodeRegisterAck ack
  | .attemptAck ack => encodeAttemptAck ack
  | .flowGroupDecision decision => encodeDecisionRecord decision
  | .lifecycleAck ack => encodeLifecycleAck ack
  | .evidenceAck ack => encodeEvidenceAck ack
  | .inspectResponse response => .ok (encodeInspectResponse response)
  | .explainResponse response => encodeExplainResponse response
  | .installPolicyAck ack => encodeInstallPolicyAck ack
  | .shutdownAck response => .ok (encodeInspectResponse response)

/-- The reasons that the encoder of the payload checks; an inspection has none. -/
def reasons : ResponsePayload → ReasonChain
  | .heartbeatAck ack => ack.reasons
  | .registerAck ack => ack.reasons
  | .attemptAck ack => ack.reasons
  | .flowGroupDecision decision => decision.reasons
  | .lifecycleAck ack => ack.reasons
  | .evidenceAck ack => ack.reasons
  | .explainResponse response => response.decision.reasons
  | .installPolicyAck ack => ack.reasons
  | .inspectResponse _ | .shutdownAck _ => []

end ResponsePayload

section Sizes

def Reason.bytes (reason : Reason) : Nat :=
  24 + reason.code.length + reason.detail.length

def ReasonChain.bytes (chain : ReasonChain) : Nat :=
  (chain.map Reason.bytes).sum

def FlowGroup.bytes (group : FlowGroup) : Nat :=
  50 * group.edges.length + 16 * group.participants.length

/-- The size of a decision: its fixed fields, the group, the participants and the reasons. -/
def DecisionRecord.bytes (decision : DecisionRecord) : Nat :=
  456 + decision.group.bytes + 16 * decision.participants.length + decision.reasons.bytes

/-- The size of an encoded payload. -/
def ResponsePayload.bytes : ResponsePayload → Nat
  | .heartbeatAck ack => 46 + ack.reasons.bytes
  | .registerAck ack => 45 + ack.reasons.bytes
  | .attemptAck ack => 53 + ack.reasons.bytes
  | .flowGroupDecision decision => decision.bytes
  | .lifecycleAck ack => 21 + ack.reasons.bytes
  | .evidenceAck ack => 22 + ack.reasons.bytes
  | .inspectResponse response => 6 + response.body.length
  | .explainResponse response => 5 + response.decision.bytes + response.explanation.length
  | .installPolicyAck ack => 21 + ack.reasons.bytes
  | .shutdownAck response => 6 + response.body.length

@[simp] theorem length_writeString (value : Text) :
    (writeString value).length = 4 + value.length := by
  simp [writeString]

theorem length_encodeReason (reason : Reason) : (encodeReason reason).length = reason.bytes := by
  simp only [encodeReason, List.length_append, length_writeString, length_putIdentity, Reason.bytes]
  omega

@[simp] theorem length_encodeEdge (edge : FlowEdge) : (encodeEdge edge).length = 50 := by
  simp [encodeEdge]

theorem length_encodeFlowGroup (group : FlowGroup) :
    (encodeFlowGroup group).length = 104 + group.bytes := by
  simp only [encodeFlowGroup, List.length_append, length_putIdentity, length_putU64,
    length_putU32, length_boolean, length_enumeration, length_counted_const length_encodeEdge,
    length_counted_const length_putIdentity, FlowGroup.bytes]
  omega

@[simp] theorem length_encodeInstance (value : CollectiveInstance) :
    (encodeInstance value).length = 56 := by
  simp [encodeInstance]

@[simp] theorem length_encodePacing (decision : DecisionRecord) :
    (encodePacing decision).length = 105 := by
  simp [encodePacing]

@[simp] theorem length_encodeSync (value : SyncSensitivity) : (encodeSync value).length = 17 := by
  simp [encodeSync]

theorem length_encodeDecisionFields (decision : DecisionRecord) :
    (encodeDecisionFields decision).length =
      436 + decision.group.bytes + 16 * decision.participants.length := by
  unfold encodeDecisionFields
  simp only [List.length_append, length_encodeInstance, length_encodePacing, length_encodeSync,
    length_putIdentity, length_putU64, length_putU32, length_boolean, length_enumeration,
    length_encodeFlowGroup]
  rw [length_counted_const length_putIdentity]
  omega

/-- Fields with a chain within its bound are encoded, with the size of both. -/
theorem encodeWithReasons_of_bounded {reasons : ReasonChain} (fields : Text)
    (h : reasons.length ≤ Limits.reasonChainMax) :
    ∃ bytes, encodeWithReasons fields reasons = .ok bytes ∧
      bytes.length = fields.length + 4 + reasons.bytes := by
  refine ⟨fields ++ Writer.counted encodeReason reasons, ?_, ?_⟩
  · rw [encodeWithReasons, encodeReasonChain, if_neg (Nat.not_lt.mpr h)]
    rfl
  · rw [List.length_append, length_counted fun reason _ => length_encodeReason reason,
      ReasonChain.bytes]
    omega

theorem encodeWithReasons_of_unbounded {reasons : ReasonChain} (fields : Text)
    (h : Limits.reasonChainMax < reasons.length) :
    encodeWithReasons fields reasons =
      .error (.error .validationReasonChainTooLong (text "reason chain exceeds its bound")) := by
  rw [encodeWithReasons, encodeReasonChain, if_pos h]
  rfl

theorem encodeDecisionRecord_of_bounded {decision : DecisionRecord}
    (h : decision.reasons.length ≤ Limits.reasonChainMax) :
    ∃ bytes, encodeDecisionRecord decision = .ok bytes ∧ bytes.length = decision.bytes := by
  obtain ⟨front, hfront, hlength⟩ := encodeWithReasons_of_bounded (encodeDecisionFields decision) h
  refine ⟨_, by rw [encodeDecisionRecord, hfront]; rfl, ?_⟩
  rw [List.length_append, List.length_append, length_putU64, length_putU64, hlength,
    length_encodeDecisionFields, DecisionRecord.bytes]
  omega

theorem length_encodeInspectResponse (response : InspectResponsePayload) :
    (encodeInspectResponse response).length = 6 + response.body.length := by
  simp only [encodeInspectResponse, List.length_append, List.length_singleton,
    length_writeString, length_boolean]
  omega

/-- A payload whose reasons are within their bound is encoded. -/
theorem ResponsePayload.encode_of_bounded {payload : ResponsePayload}
    (h : payload.reasons.length ≤ Limits.reasonChainMax) :
    ∃ bytes, payload.encode = .ok bytes ∧ bytes.length = payload.bytes := by
  -- An acknowledgement is its fields and its chain.
  have hack : ∀ {fields : Text} {reasons : ReasonChain} {size : Nat},
      reasons.length ≤ Limits.reasonChainMax → fields.length + 4 = size →
      ∃ bytes, encodeWithReasons fields reasons = .ok bytes ∧
        bytes.length = size + reasons.bytes := by
    rintro fields reasons size hbounded rfl
    exact encodeWithReasons_of_bounded fields hbounded
  cases payload with
  | heartbeatAck | registerAck | attemptAck => exact hack h (by simp)
  | flowGroupDecision decision => exact encodeDecisionRecord_of_bounded h
  | lifecycleAck | evidenceAck => exact hack h (by simp)
  | inspectResponse response => exact ⟨_, rfl, length_encodeInspectResponse response⟩
  | explainResponse response =>
    obtain ⟨bytes, hbytes, hlength⟩ := encodeDecisionRecord_of_bounded h
    refine ⟨_, by rw [encode, encodeExplainResponse, hbytes]; rfl, ?_⟩
    rw [List.length_append, List.length_append, length_boolean, length_writeString, hlength,
      ResponsePayload.bytes]
    omega
  | installPolicyAck ack => exact hack h (by simp)
  | shutdownAck response => exact ⟨_, rfl, length_encodeInspectResponse response⟩

/-- A payload with too many reasons is refused by its encoder. -/
theorem ResponsePayload.encode_of_unbounded {payload : ResponsePayload}
    (h : Limits.reasonChainMax < payload.reasons.length) :
    payload.encode =
      .error (.error .validationReasonChainTooLong (text "reason chain exceeds its bound")) := by
  cases payload with
  | flowGroupDecision decision =>
    have hrefused := encodeWithReasons_of_unbounded (encodeDecisionFields decision) h
    rw [encode, encodeDecisionRecord]
    exact congrArg (Except.map _) hrefused
  | explainResponse response =>
    have hrefused := encodeWithReasons_of_unbounded (encodeDecisionFields response.decision) h
    rw [encode, encodeExplainResponse, encodeDecisionRecord]
    exact congrArg (fun bytes => (Except.map _ bytes).map _) hrefused
  | inspectResponse | shutdownAck => exact absurd h (by simp [reasons])
  | _ => exact encodeWithReasons_of_unbounded _ h

end Sizes

end TrafficFabric
