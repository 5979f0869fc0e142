import TrafficFabric.Decision
import TrafficFabric.Lib.Checks

/-!
# The decision engine

A pure function of a frozen snapshot, a request and a definition.  Its checks
run in a fixed order: the collective generation, the plan, the authority chain,
the topology, the semantics, the evidence and last the rate.  Each check either
ends the evaluation with a record that names an axis and a reason, or hands the
record on.
-/

namespace TrafficFabric

open Lib

/-- The record of a refusal. -/
def refused
    (record : DecisionRecord) (outcome : Outcome) (axis : AuthorityAxis) (code : ErrorCode)
    (reason detail : Text) (subject : Identity) : DecisionRecord :=
  { record with
    outcome := outcome
    axis := axis
    code := code
    reasons := record.reasons.add reason detail subject }

@[simp] theorem refused_outcome (record : DecisionRecord) (outcome : Outcome) (axis : AuthorityAxis)
    (code : ErrorCode) (reason detail : Text) (subject : Identity) :
    (refused record outcome axis code reason detail subject).outcome = outcome := by
  rfl

def makeRecord
    (request : DecisionRequest) (definition : CollectiveDefinition) : DecisionRecord :=
  { collectiveInstance := request.collectiveInstance
    collectiveClass := definition.collectiveClass
    algorithmHint := definition.algorithmHint
    collectiveGeneration := definition.generation
    participants := definition.participants }

/-- Time since the capture; a capture in the future has age zero. -/
def evidenceAge (now captured : UInt64) : UInt64 :=
  if captured ≤ now then now - captured else 0

/-- An observed generation is acceptable when unset or current. -/
def observedIsCurrent (observed current : Identity) : Prop :=
  observed.isSome = true → observed = current

instance (observed current : Identity) : Decidable (observedIsCurrent observed current) :=
  inferInstanceAs (Decidable (_ → _))

/-- A participant with no record, not live, or at its expiry. -/
def participantNotLive (snapshot : EvaluationSnapshot) (participant : ParticipantId) : Bool :=
  match snapshot.findPeer participant with
  | none => true
  | some liveness =>
    liveness.state != .live || decide (liveness.expiresAtMonotonicMs ≤ snapshot.nowMonotonicMs)

/-- The first eight participants that withhold authority. -/
def notLiveParticipants
    (snapshot : EvaluationSnapshot) (participants : List ParticipantId) : List ParticipantId :=
  (participants.filter (participantNotLive snapshot)).take 8

/-- The refusal that lists the participants without authority. -/
def refusedNotLive
    (snapshot : EvaluationSnapshot) (request : DecisionRequest) (record : DecisionRecord) :
    DecisionRecord :=
  let record :=
    refused { record with allMembersLive := false } .rejectedStale .participantLiveness
      .envelopeIncarnationStale (text "participant_not_live")
      (text "the participant set is not fully live; membership has not been re-established")
      request.collectiveInstance.id
  { record with
    reasons := (notLiveParticipants snapshot record.participants).foldl
      (fun chain participant =>
        chain.add (text "participant_without_authority")
          (text "participant holds no current liveness evidence") participant)
      record.reasons }

/-- The last part of the chain: the topology axis and the participants. -/
def applyTopologyAndLiveness
    (snapshot : EvaluationSnapshot) (request : DecisionRequest) (record : DecisionRecord)
    (policy : TrafficPolicy) :
    Except DecisionRecord (DecisionRecord × TrafficPolicy × TopologyEvidence) :=
  require (observedIsCurrent request.observedTopologyGeneration snapshot.topologyGeneration)
    (refused record .rejectedStale .topologyGeneration .validationTopologyMissing
      (text "rejected_stale") (text "request named a topology generation that is no longer current")
      request.observedTopologyGeneration) <|
  let missing :=
    refused record .rejectedStale .topologyGeneration .validationTopologyMissing
      (text "rejected_stale") (text "no topology evidence is installed")
      request.collectiveInstance.id
  match snapshot.topology with
  | none => .error missing
  | some topology =>
    require (snapshot.topologyGeneration.isNone = false) missing <|
    require (notLiveParticipants snapshot record.participants = [])
      (refusedNotLive snapshot request record) <|
    .ok
      ({ record with
          allMembersLive := true
          reasons := record.reasons.add (text "authority_current")
            (text "epoch, policy, topology, evidence and participant liveness all support this request")
            request.collectiveInstance.id },
        policy, topology)

/--
The ordered authority rules.  The policy and the topology found installed are
handed on with the record, since the caller reads both.

The capacity and the congestion axis are compared only while an observation is
installed; the other three are compared always.
-/
def applyAuthorityChain
    (snapshot : EvaluationSnapshot) (request : DecisionRequest) (record : DecisionRecord) :
    Except DecisionRecord (DecisionRecord × TrafficPolicy × TopologyEvidence) :=
  require (observedIsCurrent request.observedEpoch snapshot.epoch)
    (refused record .rejectedStale .coordinatorEpoch .envelopeEpochStale
      (text "rejected_stale") (text "request named a coordinator epoch that is no longer current")
      request.observedEpoch) <|
  require (observedIsCurrent request.observedPolicyGeneration snapshot.policyGeneration)
    (refused record .rejectedStale .policyGeneration .validationPolicyMissing
      (text "rejected_policy") (text "request named a policy generation that is no longer current")
      request.observedPolicyGeneration) <|
  let missing :=
    refused record .rejectedPolicy .policyGeneration .validationPolicyMissing
      (text "rejected_policy") (text "no traffic policy is installed")
      request.collectiveInstance.id
  match snapshot.policy with
  | none => .error missing
  | some policy =>
    require (snapshot.policyGeneration.isNone = false) missing <|
    require (snapshot.capacity.isSome = true → snapshot.capacityGeneration.isSome = true →
        observedIsCurrent request.observedCapacityGeneration snapshot.capacityGeneration)
      (refused record .rejectedStale .capacityEvidence .validationCapacityNegative
        (text "rejected_stale")
        (text "request named a capacity evidence generation that is no longer current")
        request.observedCapacityGeneration) <|
    require (snapshot.congestion.isSome = true → snapshot.congestionGeneration.isSome = true →
        observedIsCurrent request.observedCongestionGeneration snapshot.congestionGeneration)
      (refused record .rejectedStale .congestionEvidence .validationRateInvalid
        (text "rejected_stale")
        (text "request named a congestion evidence generation that is no longer current")
        request.observedCongestionGeneration) <|
    applyTopologyAndLiveness snapshot request record policy

/-- Why a topology is not current, if it is not. -/
def topologyStaleness
    (snapshot : EvaluationSnapshot) (evidence : TopologyEvidence) : Option Text :=
  if evidence.generation ≠ snapshot.topologyGeneration then
    some (text "topology evidence generation does not match the installed generation")
  else if snapshot.freshness.topologyMaxAgeMs <
      evidenceAge snapshot.nowMonotonicMs evidence.capturedMonotonicMs then
    some (text "topology evidence is older than the freshness bound")
  else
    none

/-- A participant with a record whose node the topology does not list. -/
def participantNodeMissing
    (snapshot : EvaluationSnapshot) (topology : TopologyEvidence)
    (participant : ParticipantId) : Bool :=
  match snapshot.findPeer participant with
  | none => false
  | some liveness => (topology.findNode liveness.node).isNone

/-- The topology is current and lists the node of every participant. -/
def checkTopology
    (snapshot : EvaluationSnapshot) (topology : TopologyEvidence) (record : DecisionRecord) :
    Except DecisionRecord Unit :=
  match topologyStaleness snapshot topology with
  | some detail =>
    .error (refused record .rejectedStale .topologyGeneration .validationTopologyMissing
      (text "topology_not_current") detail snapshot.topologyGeneration)
  | none =>
    match record.participants.find? (participantNodeMissing snapshot topology) with
    | some firstMissing =>
      .error (refused record .requiresReplan .plan .validationNodeUnknown
        (text "topology_missing_participant_node")
        (text "a live participant is not present in the current topology evidence")
        firstMissing)
    | none => .ok ()

/-- The class a request is classified into before the policy states it. -/
def selectedClass
    (request : DecisionRequest) (collectivePolicy : CollectiveClassPolicy) : TrafficClass :=
  if request.hasRequestedClass then request.requestedClass else collectivePolicy.trafficClass

/-- The checks on the meaning of the collective and the class it receives. -/
def checkSemantics
    (request : DecisionRequest) (definition : CollectiveDefinition) (policy : TrafficPolicy)
    (record : DecisionRecord) :
    Except DecisionRecord (CollectiveClassPolicy × TrafficClassPolicy) :=
  let subject := request.collectiveInstance.id
  match policy.findCollective definition.collectiveClass with
  | none =>
    .error (refused record .rejectedPolicy .semantics .validationPolicyMissing
      (text "policy_missing_collective_class")
      (text "the installed policy does not state a rate for this collective class") subject)
  | some collectivePolicy =>
    require (isKnownCollectiveClass definition.collectiveClass = true)
      (refused record .rejectedPolicy .semantics .validationClassUnknownRejected
        (text "unknown_semantics_rejected")
        (text "the collective class is not understood by this runtime; unknown semantics never receive a traffic class, and no default grants one")
        subject) <|
    require (request.hasRequestedClass = true → collectivePolicy.allowMemberOverride = true)
      (refused record .rejectedPolicy .semantics .validationClassUnknownRejected
        (text "class_override_not_permitted")
        (text "the policy does not permit a member to request a traffic class for this collective class")
        subject) <|
    require (request.hasRequestedClass = true →
        trafficClassIsClassified request.requestedClass = true)
      (refused record .rejectedPolicy .semantics .validationClassUnknownRejected
        (text "requested_class_unclassified")
        (text "an unclassified traffic class is never granted, not even on request") subject) <|
    let trafficClass := selectedClass request collectivePolicy
    require (trafficClassIsClassified trafficClass = true)
      (refused { record with trafficClass := trafficClass, priority := 0 }
        .unknownSemantics .semantics .validationClassUnknownRejected
        (text "unknown_semantics")
        (text "no traffic treatment is defined for this collective class; UNKNOWN is not a weaker version of SUPPORTED")
        subject) <|
    match policy.findClass trafficClass with
    | none =>
      .error (refused record .rejectedPolicy .policyGeneration .validationPolicyMissing
        (text "policy_missing_traffic_class")
        (text "the installed policy does not define this traffic class") subject)
    | some classPolicy => .ok (collectivePolicy, classPolicy)

/-- Binds the record to the class and to the generations of the snapshot. -/
def bindRecord
    (snapshot : EvaluationSnapshot) (trafficClass : TrafficClass)
    (classPolicy : TrafficClassPolicy) (record : DecisionRecord) : DecisionRecord :=
  { record with
    trafficClass := trafficClass
    priority := classPolicy.priority
    isolation := classPolicy.isolation
    policyGeneration := snapshot.policyGeneration
    topologyGeneration := snapshot.topologyGeneration
    epoch := snapshot.epoch }

/-- An installed congestion observation within the bounds of both sides. -/
def congestionIsFresh
    (snapshot : EvaluationSnapshot) (collectivePolicy : CollectiveClassPolicy) : Bool :=
  match snapshot.congestion with
  | none => true
  | some congestion =>
    decide (evidenceAge snapshot.nowMonotonicMs congestion.capturedMonotonicMs ≤
      min congestion.validForMs collectivePolicy.freshnessRequirementMs)

def checkEvidence
    (snapshot : EvaluationSnapshot) (request : DecisionRequest)
    (collectivePolicy : CollectiveClassPolicy) (classPolicy : TrafficClassPolicy)
    (record : DecisionRecord) : Except DecisionRecord Unit :=
  require (classPolicy.requiresEvidenceFreshness = true →
      snapshot.congestionObservationAvailable = true)
    (refused record .requiresReplan .congestionEvidence .validationRateInvalid
      (text "congestion_evidence_required")
      (text "the traffic class requires current congestion evidence and none is installed")
      request.collectiveInstance.id) <|
  require (classPolicy.requiresEvidenceFreshness = true →
      congestionIsFresh snapshot collectivePolicy = true)
    (refused record .requiresReplan .congestionEvidence .validationRateInvalid
      (text "congestion_evidence_stale")
      (text "congestion evidence is older than the freshness bound for this class; it must be revalidated rather than assumed")
      snapshot.congestionGeneration) <|
  .ok ()

structure PacingComputation where
  availableBps : UInt64 := 0
  proposedBps : UInt64 := 0
  admittedBps : UInt64 := 0
  ceilingBps : UInt64 := 0
  burstBytes : UInt64 := 0
  utilizationBps : UInt64 := 0
  responsePerMille : UInt32 := 1000
  capacityUsed : Bool := false
  congestionUsed : Bool := false
  code : ErrorCode := .ok
  reasonCode : Text := []
  reasonDetail : Text := []
deriving DecidableEq, Repr

/-- The bandwidth a fresh capacity observation offers, and whether it has links. -/
def observedCapacity (snapshot : EvaluationSnapshot) : UInt64 × Bool :=
  match snapshot.capacity with
  | none => (0, false)
  | some capacity =>
    if snapshot.capacityGeneration.isSome = true ∧
        capacity.topologyGeneration = snapshot.topologyGeneration ∧
        evidenceAge snapshot.nowMonotonicMs capacity.capturedMonotonicMs ≤
          snapshot.freshness.capacityMaxAgeMs then
      (capacity.links.foldl (fun sum entry => sum + entry.availableBps) 0,
        !capacity.links.isEmpty)
    else
      (0, false)

/-- The highest utilization among the observed links. -/
def worstUtilization (links : List LinkCongestion) : UInt32 :=
  links.foldl (fun worst entry => max worst entry.utilizationBps) 0

/-- The worst utilization of a fresh congestion observation, and whether it has links. -/
def observedCongestion
    (snapshot : EvaluationSnapshot) (collectivePolicy : CollectiveClassPolicy) : UInt64 × Bool :=
  let ageBoundMs :=
    if collectivePolicy.freshnessRequirementMs = 0 then snapshot.freshness.congestionMaxAgeMs
    else collectivePolicy.freshnessRequirementMs
  match snapshot.congestion with
  | none => (0, false)
  | some congestion =>
    if snapshot.congestionGeneration.isSome = true ∧
        congestion.topologyGeneration = snapshot.topologyGeneration ∧
        evidenceAge snapshot.nowMonotonicMs congestion.capturedMonotonicMs ≤
          min congestion.validForMs ageBoundMs then
      ((worstUtilization congestion.links).toUInt64, !congestion.links.isEmpty)
    else
      (0, false)

/-- The rate numerator of the bucket the utilization falls into. -/
def responsePerMille (table : CongestionResponseTable) (utilizationBps : UInt64) : UInt32 :=
  let bucket :=
    (table.utilizationBps.toList.takeWhile
      (fun boundary => decide (boundary.toUInt64 ≤ utilizationBps))).length
  table.rateNumeratorPerMille.get ⟨min bucket 4, by omega⟩

/-- A share of a rate in thousandths, divided first so that it does not overflow. -/
def perMille (rate numerator : UInt64) : UInt64 :=
  (rate / 1000) * numerator + ((rate % 1000) * numerator) / 1000

/-- The rate between the floor and the ceiling of the class. -/
def admittedRate (classPolicy : TrafficClassPolicy) (proposedBps : UInt64) : UInt64 :=
  let admitted :=
    if proposedBps < classPolicy.minimumBandwidthBps then classPolicy.minimumBandwidthBps
    else proposedBps
  if classPolicy.maximumBandwidthBps ≠ unlimitedRate then
    min admitted classPolicy.maximumBandwidthBps
  else
    admitted

/-- The burst derived from the rate, cut by a burst the class states. -/
def admittedBurst
    (policy : TrafficPolicy) (classPolicy : TrafficClassPolicy) (admitted : UInt64) : UInt64 :=
  if admitted = unlimitedRate then
    0
  else
    let burst := perMille admitted policy.burstMultiplierPerMille
    if classPolicy.burstBytes ≠ 0 ∧ classPolicy.burstBytes < burst then
      classPolicy.burstBytes
    else
      burst

/-- The rate computation behind a pacing intent. -/
def computePacing
    (snapshot : EvaluationSnapshot) (policy : TrafficPolicy)
    (classPolicy : TrafficClassPolicy) (collectivePolicy : CollectiveClassPolicy) :
    PacingComputation :=
  let (available, capacityUsed) := observedCapacity snapshot
  let (utilization, congestionUsed) := observedCongestion snapshot collectivePolicy
  let response := responsePerMille policy.congestionResponse utilization
  let ceiling := classPolicy.maximumBandwidthBps
  let limit := if available ≠ 0 then min ceiling available else ceiling
  let proposed := perMille limit response.toUInt64
  let admitted := admittedRate classPolicy proposed
  let computation : PacingComputation :=
    { availableBps := available
      proposedBps := proposed
      admittedBps := admitted
      ceilingBps := ceiling
      burstBytes := admittedBurst policy classPolicy admitted
      utilizationBps := utilization
      responsePerMille := response
      capacityUsed := capacityUsed
      congestionUsed := congestionUsed }
  if available ≠ 0 ∧ proposed < classPolicy.minimumBandwidthBps then
    { computation with
      code := .admissionRateLimited
      reasonCode := text "capacity_below_class_floor"
      reasonDetail := text "observed capacity under current congestion cannot honor the minimum bandwidth of this traffic class" }
  else if capacityUsed || congestionUsed then
    { computation with
      reasonCode := text "rate_selected_from_evidence"
      reasonDetail := text "admitted rate is bounded by the class ceiling, observed capacity and congestion response" }
  else
    { computation with
      reasonCode := text "rate_selected_from_policy"
      reasonDetail := text "no dynamic evidence was available; the class ceiling was used conservatively" }

def pacingMode (classPolicy : TrafficClassPolicy) : PacingMode :=
  if classPolicy.trafficClass = .isolated then .shaped
  else if classPolicy.requiresEvidenceFreshness then .tokenBucket
  else if classPolicy.trafficClass = .bulkData then .rateLimited
  else .immediate

/-- The reasons a grant states after its outcome. -/
def grantReasons
    (request : DecisionRequest) (pacing : PacingComputation) (sync : SyncSensitivity)
    (chain : ReasonChain) : ReasonChain :=
  let subject := request.collectiveInstance.id
  let chain := chain.add pacing.reasonCode pacing.reasonDetail subject
  let chain :=
    if sync.kind ≠ .none then
      chain.add (text "sync_sensitivity_" ++ sync.kind.toText)
        (text "synchronization sensitivity derived from " ++ sync.basis.toText) subject
    else
      chain
  if request.hasRequestedClass then
    chain.add (text "member_class_override_honored")
      (text "the policy permits this collective class to be overridden by a member request") subject
  else
    chain

/-- The record of a grant. -/
def granted
    (snapshot : EvaluationSnapshot) (request : DecisionRequest)
    (definition : CollectiveDefinition) (policy : TrafficPolicy)
    (classPolicy : TrafficClassPolicy) (pacing : PacingComputation)
    (record : DecisionRecord) : DecisionRecord :=
  let sync := deriveSyncSensitivity definition record.group policy
  let isolated := classPolicy.trafficClass = .isolated
  let chain :=
    if isolated then
      record.reasons.add (text "isolated_class_admitted")
        (text "the collective is admitted into an isolated traffic class; it is never multiplexed with other classes")
        request.collectiveInstance.id
    else
      record.reasons.add (text "admitted")
        (text "traffic treatment is permitted for this generation set")
        request.collectiveInstance.id
  { record with
    outcome := if isolated then .isolatedClass else .admitted
    capacityGeneration := snapshot.capacityGeneration
    congestionGeneration := snapshot.congestionGeneration
    capacityEvidenceUsed := pacing.capacityUsed
    congestionEvidenceUsed := pacing.congestionUsed
    pacing :=
      { record.pacing with
        mode := pacingMode classPolicy
        flowGroup := record.flowGroup
        collectiveInstance := record.collectiveInstance
        admittedBandwidthBps := pacing.admittedBps
        ceilingBandwidthBps := pacing.ceilingBps
        burstBytes := pacing.burstBytes
        utilizationBps := pacing.utilizationBps
        releaseAfterMonotonicMs := 0 }
    sync := sync
    reasons := grantReasons request pacing sync chain }

/-- The first two checks: the collective generation, then the plan. -/
def checkPlan
    (request : DecisionRequest) (definition : CollectiveDefinition) (record : DecisionRecord) :
    Except DecisionRecord DecisionRecord :=
  require (request.collectiveInstance.generation = definition.generation)
    (refused record .rejectedStale .collectiveGeneration .completionStaleGeneration
      (text "rejected_stale")
      (text "request bound a collective generation that is not the current generation")
      request.collectiveInstance.generation) <|
  require (request.hasFlowGroupPlan = true)
    (refused record .requiresReplan .plan .statePlanMissing (text "requires_replan")
      (text "no planned communication edges were supplied; a participant list alone never authorizes fabric traffic")
      request.collectiveInstance.id) <|
  -- The definition, not the requester, decides what the group is.
  match constructFlowGroup
      { request.plan with collectiveClass := definition.collectiveClass }
      definition.participants with
  | .error status =>
    .error (refused record .requiresReplan .plan status.code (text "plan_rejected")
      status.message request.collectiveInstance.id)
  | .ok group =>
    .ok { record with
      group := group
      flowGroup := group.id
      flowGroupConstructed := true }

/-- The checks after the authority chain, up to the grant. -/
def evaluateTreatment
    (snapshot : EvaluationSnapshot) (request : DecisionRequest)
    (definition : CollectiveDefinition) (policy : TrafficPolicy) (topology : TopologyEvidence)
    (record : DecisionRecord) : Except DecisionRecord DecisionRecord :=
  (checkTopology snapshot topology record).bind fun _ =>
  (checkSemantics request definition policy record).bind fun (collectivePolicy, classPolicy) =>
  let record := bindRecord snapshot (selectedClass request collectivePolicy) classPolicy record
  (checkEvidence snapshot request collectivePolicy classPolicy record).bind fun _ =>
  let pacing := computePacing snapshot policy classPolicy collectivePolicy
  require (pacing.code = .ok)
    (refused record .rejectedCapacity .capacityEvidence pacing.code
      pacing.reasonCode pacing.reasonDetail request.collectiveInstance.id) <|
  .ok (granted snapshot request definition policy classPolicy pacing record)

/-- The evaluation as a sequence of checks: a refusal or a grant. -/
def evaluateChecks
    (snapshot : EvaluationSnapshot) (request : DecisionRequest)
    (definition : CollectiveDefinition) : Except DecisionRecord DecisionRecord :=
  let record := { makeRecord request definition with decidedMonotonicMs := snapshot.nowMonotonicMs }
  (checkPlan request definition record).bind fun record =>
  (applyAuthorityChain snapshot request record).bind fun (record, policy, topology) =>
  evaluateTreatment snapshot request definition policy topology record

/-- Evaluates one request against a snapshot. -/
def evaluate
    (snapshot : EvaluationSnapshot) (request : DecisionRequest)
    (definition : CollectiveDefinition) : DecisionRecord :=
  match evaluateChecks snapshot request definition with
  | .error record => record
  | .ok record => record

end TrafficFabric
