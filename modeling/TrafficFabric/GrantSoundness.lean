import TrafficFabric.ServiceEffects
import TrafficFabric.Lookups

/-!
# Grants of the service

A decision of the service that grants is the evaluation of the engine with
further reasons: admission either keeps the outcome or replaces it by one that
withholds authority.  What the engine checked against the snapshot is read back
as a statement about the tables of the service, since the lookups of the
snapshot are exact in every reachable state.
-/

namespace TrafficFabric

open Lib CoordinatorService

/-- The instance is the open attempt of the current generation of a registered collective. -/
def CoordinatorService.IsCurrent
    (s : CoordinatorService) (collectiveInstance : CollectiveInstance) : Prop :=
  ∃ record, s.catalog.find collectiveInstance.id = some record ∧
    record.definition.generation = collectiveInstance.generation ∧
    record.currentAttempt.isNone = false ∧
    record.currentAttempt = collectiveInstance.attempt ∧
    collectiveStateIsTerminal record.state = false

/-- The request is for a current attempt. -/
def CoordinatorService.PlansCurrent (s : CoordinatorService) (request : DecisionRequest) : Prop :=
  s.IsCurrent request.collectiveInstance

section Inversion

variable {service : CoordinatorService} {context : ServiceRequestContext}
variable {request : DecisionRequest}

variable {record : CollectiveRecord} {decision : DecisionRecord}

/-- What the lifecycle of a collective asks of a request. -/
theorem lifecycleCheck_eq_ok_iff :
    service.lifecycleCheck context request = .ok record ↔
      service.catalog.find request.collectiveInstance.id = some record ∧
      record.definition.generation = request.collectiveInstance.generation ∧
      record.currentAttempt.isNone = false ∧
      record.currentAttempt = request.collectiveInstance.attempt ∧
      collectiveStateIsTerminal record.state = false := by
  unfold lifecycleCheck
  split
  · rename_i hunknown
    simp [hunknown]
  · rename_i found hfound
    rw [require_eq_ok_iff, require_eq_ok_iff, require_eq_ok_iff, hfound]
    simp only [Except.ok.injEq, Option.some.injEq]
    constructor
    · rintro ⟨hgeneration, ⟨hset, hattempt⟩, hstate, rfl⟩
      exact ⟨rfl, hgeneration, hset, hattempt, hstate⟩
    · rintro ⟨rfl, hgeneration, hset, hattempt, hstate⟩
      exact ⟨hgeneration, ⟨hset, hattempt⟩, hstate, rfl⟩

theorem plansCurrent_of_ok (h : service.lifecycleCheck context request = .ok record) :
    service.PlansCurrent request := by
  exact ⟨record, lifecycleCheck_eq_ok_iff.mp h⟩

theorem not_plansCurrent_of_error (h : service.lifecycleCheck context request = .error decision) :
    ¬ service.PlansCurrent request := by
  rintro ⟨record, hcurrent⟩
  cases h.symm.trans (lifecycleCheck_eq_ok_iff.mpr hcurrent)

/-- A collective that passes the lifecycle can be activated. -/
theorem setState_active_isOk (h : service.lifecycleCheck context request = .ok record)
    (now : UInt64) :
    (service.catalog.setState request.collectiveInstance.id .active now).1.isOk = true := by
  obtain ⟨hfind, _, _, _, hopen⟩ := lifecycleCheck_eq_ok_iff.mp h
  simp [CollectiveCatalog.setState, hfind, hopen]

/-- How the lifecycle refuses: as stale, with an axis, a code and a reason of its own. -/
structure LifecycleRefusal
    (context : ServiceRequestContext) (request : DecisionRequest) (decision : DecisionRecord) :
    Prop where
  outcome : decision.outcome = .rejectedStale
  axis : decision.axis ≠ .none
  code : decision.code ≠ .ok ∧ decision.code ≠ .admissionBucketCapacity
  bare : decision.group = {} ∧ decision.participants = []
  unpaced : decision.collectiveInstance = request.collectiveInstance ∧ decision.pacing = {}
  reasons : ∃ literal detail, literal.utf8ByteSize ≤ 64 ∧
    decision.reasons = ReasonChain.add [] (text literal) detail request.collectiveInstance.id

theorem lifecycleCheck_refuses (service : CoordinatorService) (context : ServiceRequestContext)
    (request : DecisionRequest) :
    Refuses (LifecycleRefusal context request) (service.lifecycleCheck context request) := by
  have hrefusal : ∀ {collectiveClass axis code detail} {literal : String},
      axis ≠ .none ∧ code ≠ .ok ∧ code ≠ .admissionBucketCapacity ∧ literal.utf8ByteSize ≤ 64 →
      LifecycleRefusal context request (lifecycleRefusal context request
        collectiveClass axis code (text literal) detail) :=
    fun ⟨haxis, hcode, hother, hlength⟩ =>
      ⟨rfl, haxis, ⟨hcode, hother⟩, ⟨rfl, rfl⟩, ⟨rfl, rfl⟩, _, _, hlength, rfl⟩
  unfold lifecycleCheck
  split
  · exact refuses_error (hrefusal (by decide))
  · refine refuses_require (hrefusal (by decide)) (refuses_require (hrefusal (by decide))
      (refuses_require (hrefusal ?_) (refuses_ok _ _)))
    split <;> decide

/-- Admission only ever adds reasons to a decision that still grants afterwards. -/
theorem applyAdmission_grants {result : AdmissionResult} {now : UInt64} {counters : ServiceCounters}
    (h : outcomeGrantsAuthority (applyAdmission result now decision counters).1.outcome = true) :
    ∃ reasons,
      (applyAdmission result now decision counters).1 = { decision with reasons := reasons } := by
  unfold applyAdmission at h ⊢
  cases hanswer : result.outcome with
  | granted => exact ⟨_, rfl⟩
  | notApplicable => exact ⟨_, rfl⟩
  | rateLimited | clockRegression | bucketTableFull => simp [hanswer, outcomeGrantsAuthority] at h

theorem releaseGrant_grants {now : UInt64}
    (h : outcomeGrantsAuthority (service.releaseGrant now decision).1.outcome = true) :
    ∃ reasons, (service.releaseGrant now decision).1 = { decision with reasons := reasons } := by
  simp only [releaseGrant] at h ⊢
  split
  · rename_i hrefused
    simp [hrefused, outcomeGrantsAuthority] at h
  · rename_i hactivated
    rw [if_neg hactivated] at h
    exact applyAdmission_grants h

/-- A settled decision that grants is a granting evaluation with further reasons. -/
theorem settleDecision_grants
    (h : outcomeGrantsAuthority (service.settleDecision context request record).1.outcome = true) :
    outcomeGrantsAuthority (evaluatedDecision service context request record).outcome = true ∧
      ∃ reasons, (service.settleDecision context request record).1 =
        { evaluatedDecision service context request record with reasons := reasons } := by
  rw [settleDecision_eq] at h ⊢
  simp only at h ⊢
  by_cases hgrants :
      outcomeGrantsAuthority (evaluatedDecision service context request record).outcome = true
  · rw [if_pos hgrants] at h ⊢
    exact ⟨hgrants, releaseGrant_grants h⟩
  · rw [if_neg hgrants] at h
    exact absurd h hgrants

/-- What a plan that returned a decision went through. -/
theorem planFlowGroup_returns (h : (service.planFlowGroup context request).2.1 = some decision) :
    service.lifecycleCheck context request = .error decision ∨
      ∃ record, service.lifecycleCheck context request = .ok record ∧
        decision = (service.settleDecision context request record).1 := by
  cases planFlowGroup_result service context request with
  | refused status _ _ result =>
    rw [result] at h
    cases h
  | stale refusal _ lifecycle result =>
    rw [result] at h
    exact .inl (Option.some.inj h ▸ lifecycle)
  | settled record _ lifecycle result =>
    rw [result] at h
    exact .inr ⟨record, lifecycle, (Option.some.inj h).symm⟩

/-- A plan that grants passed the lifecycle and is a granting evaluation with further reasons. -/
theorem planFlowGroup_grants (h : (service.planFlowGroup context request).2.1 = some decision)
    (hgrants : outcomeGrantsAuthority decision.outcome = true) :
    ∃ record reasons,
      service.lifecycleCheck context request = .ok record ∧
      outcomeGrantsAuthority (evaluatedDecision service context request record).outcome = true ∧
      decision = { evaluatedDecision service context request record with reasons := reasons } := by
  rcases planFlowGroup_returns h with hrefused | ⟨record, hrecord, rfl⟩
  · have hstale := (lifecycleCheck_refuses service context request decision hrefused).outcome
    simp [hstale, outcomeGrantsAuthority] at hgrants
  · obtain ⟨hevaluated, reasons, hdecision⟩ := settleDecision_grants hgrants
    exact ⟨record, reasons, hrecord, hevaluated, hdecision⟩

end Inversion

/-- The checks a plan that is admitted went through, and the class its decision names. -/
theorem planFlowGroup_grantChecks {service : CoordinatorService} {context : ServiceRequestContext}
    {request : DecisionRequest} {decision : DecisionRecord}
    (hplan : (service.planFlowGroup context request).2.1 = some decision)
    (hgrants : decision.outcome = .admitted ∨ decision.outcome = .isolatedClass) :
    ∃ record reasons policy topology collectivePolicy classPolicy group,
      service.lifecycleCheck context request = .ok record ∧
      GrantChecks (service.authority.snapshot context.nowMonotonicMs) request
        (effectiveDefinition record) policy topology collectivePolicy
        classPolicy ∧
      evaluate (service.authority.snapshot context.nowMonotonicMs) request
          (effectiveDefinition record) =
        grantRecord (service.authority.snapshot context.nowMonotonicMs) request
          (effectiveDefinition record) group policy collectivePolicy
          classPolicy ∧
      decision.trafficClass = selectedClass request collectivePolicy ∧
      decision = { evaluatedDecision service context request record with reasons := reasons } := by
  have hauthority : outcomeGrantsAuthority decision.outcome = true := by
    rcases hgrants with h | h <;> rw [h] <;> rfl
  obtain ⟨record, reasons, hlifecycle, hevaluated, rfl⟩ := planFlowGroup_grants hplan hauthority
  obtain ⟨policy, topology, collectivePolicy, classPolicy, group, hchecks, hrecord⟩ :=
    evaluate_eq_grantRecord hevaluated
  refine ⟨record, reasons, policy, topology, collectivePolicy, classPolicy, group, hlifecycle,
    hchecks, hrecord, ?_, rfl⟩
  simp only [evaluatedDecision, hrecord]
  rfl

/--
What a grant rests on at the instant of the call: the record of the collective,
the evidence installed, the live participants and the treatment the policy
states; and what the decision binds.
-/
structure GrantBasis
    (service : CoordinatorService) (context : ServiceRequestContext)
    (request : DecisionRequest) (decision : DecisionRecord)
    (record : CollectiveRecord) (policy : TrafficPolicy) (topology : TopologyEvidence)
    (collectivePolicy : CollectiveClassPolicy) (classPolicy : TrafficClassPolicy) : Prop where
  registered : service.catalog.find request.collectiveInstance.id = some record
  nonTerminal : collectiveStateIsTerminal record.state = false
  generation : request.collectiveInstance.generation = record.definition.generation
  attempt : request.collectiveInstance.attempt = record.currentAttempt
  attemptSet : record.currentAttempt ≠ Identity.none
  planned : request.hasFlowGroupPlan = true
  planValid : (validateFlowGroupPlan request.plan record.definition.participants).isOk = true
  policyInstalled : service.authority.policy = some policy
  topologyInstalled : service.authority.topology = some topology
  topologyFresh :
    evidenceAge context.nowMonotonicMs topology.capturedMonotonicMs ≤
      service.authority.freshness.topologyMaxAgeMs
  live : ∀ p ∈ record.definition.participants, ∃ peer,
    service.authority.peers.find p = some peer ∧ peer.state = .live ∧
      context.nowMonotonicMs < peer.expiresAtMonotonicMs ∧
      ∃ node ∈ topology.nodes, node.id = peer.node
  known : isKnownCollectiveClass record.definition.collectiveClass = true
  collective : policy.findCollective record.definition.collectiveClass = some collectivePolicy
  trafficClass : policy.findClass decision.trafficClass = some classPolicy
  classified : trafficClassIsClassified decision.trafficClass = true
  chosen :
    decision.trafficClass = collectivePolicy.trafficClass ∨
      (request.hasRequestedClass = true ∧ collectivePolicy.allowMemberOverride = true ∧
        decision.trafficClass = request.requestedClass)
  epochObserved : observedIsCurrent request.observedEpoch service.authority.epoch
  policyObserved :
    observedIsCurrent request.observedPolicyGeneration service.authority.policyGeneration
  topologyObserved :
    observedIsCurrent request.observedTopologyGeneration service.authority.topologyGeneration
  congestionFresh :
    classPolicy.requiresEvidenceFreshness = true → ∃ congestion,
      service.authority.congestion = some congestion ∧
      evidenceAge context.nowMonotonicMs congestion.capturedMonotonicMs ≤
        min congestion.validForMs collectivePolicy.freshnessRequirementMs
  bindsInstance : decision.collectiveInstance = request.collectiveInstance
  bindsCollective : decision.collectiveGeneration = record.definition.generation
  bindsPolicy : decision.policyGeneration = policy.generation
  bindsTopology : decision.topologyGeneration = topology.generation
  bindsEpoch : decision.epoch = service.authority.epoch

section Reading

variable {collectivePolicy : CollectiveClassPolicy} {topology : TopologyEvidence}

/-- The volume of an attempt changes nothing else of the definition. -/
theorem effectiveDefinition_same (record : CollectiveRecord) :
    (effectiveDefinition record).participants =
        record.definition.participants ∧
      (effectiveDefinition record).generation = record.definition.generation ∧
      (effectiveDefinition record).collectiveClass = record.definition.collectiveClass := by
  unfold effectiveDefinition
  split <;> exact ⟨rfl, rfl, rfl⟩

/-- A participant the engine takes for live has a live record on a node of the topology. -/
theorem live_of_checks {s : AuthorityState} {now : UInt64} {p : ParticipantId}
    (hpeers : PeersCoherent s) (hevidence : EvidenceCoherent s)
    (hinstalled : s.topology = some topology)
    (hlive : participantNotLive (s.snapshot now) p = false)
    (hnode : participantNodeMissing (s.snapshot now) topology p = false) :
    ∃ peer, s.peers.find p = some peer ∧ peer.state = .live ∧
      now < peer.expiresAtMonotonicMs ∧ ∃ node ∈ topology.nodes, node.id = peer.node := by
  unfold participantNotLive at hlive
  unfold participantNodeMissing at hnode
  rw [hpeers.findPeer_snapshot] at hlive hnode
  cases hpeer : s.peers.find p with
  | none => simp [hpeer] at hlive
  | some peer =>
    simp only [hpeer, Bool.or_eq_false_iff, bne_eq_false_iff_eq, decide_eq_false_iff_not,
      UInt64.not_le] at hlive
    simp only [hpeer] at hnode
    obtain ⟨node, hfound⟩ : ∃ node, topology.findNode peer.node = some node := by
      simpa [Option.isNone_eq_false_iff, Option.isSome_iff_exists] using hnode
    obtain ⟨hmem, hid⟩ := (hevidence.findNode_eq_some_iff hinstalled peer.node node).mp hfound
    exact ⟨peer, rfl, hlive.1, hlive.2, node, hmem, hid⟩

/-- A topology that is not stale is within the freshness bound. -/
theorem topologyFresh_of_not_stale {snapshot : EvaluationSnapshot}
    (h : topologyStaleness snapshot topology = none) :
    evidenceAge snapshot.nowMonotonicMs topology.capturedMonotonicMs ≤
      snapshot.freshness.topologyMaxAgeMs := by
  unfold topologyStaleness at h
  split_ifs at h with _ hage
  exact UInt64.not_lt.mp hage

/-- Fresh congestion evidence that is available is installed and within its bounds. -/
theorem congestionFresh_of_checks {s : AuthorityState} {now : UInt64}
    (havailable : (s.snapshot now).congestionObservationAvailable = true)
    (hfresh : congestionIsFresh (s.snapshot now) collectivePolicy = true) :
    ∃ congestion, s.congestion = some congestion ∧
      evidenceAge now congestion.capturedMonotonicMs ≤
        min congestion.validForMs collectivePolicy.freshnessRequirementMs := by
  obtain ⟨congestion, hcongestion⟩ := Option.isSome_iff_exists.mp havailable
  have hsnapshot : (s.snapshot now).congestion = some congestion := hcongestion
  refine ⟨congestion, hcongestion, ?_⟩
  unfold congestionIsFresh at hfresh
  rw [hsnapshot] at hfresh
  exact of_decide_eq_true hfresh

/-- The class selected is the policy's, or the requested one that the policy allows. -/
theorem selectedClass_chosen {request : DecisionRequest}
    (hallowed : request.hasRequestedClass = true → collectivePolicy.allowMemberOverride = true) :
    selectedClass request collectivePolicy = collectivePolicy.trafficClass ∨
      (request.hasRequestedClass = true ∧ collectivePolicy.allowMemberOverride = true ∧
        selectedClass request collectivePolicy = request.requestedClass) := by
  cases hrequested : request.hasRequestedClass with
  | false => exact .inl (by simp [selectedClass, hrequested])
  | true => exact .inr ⟨rfl, hallowed hrequested, by simp [selectedClass, hrequested]⟩

end Reading

/--
A plan of a reachable service that is admitted, outright or into an isolated
class, has a full basis at the instant of the call, and its decision binds it.
-/
theorem planFlowGroup_grant_sound {service : CoordinatorService} {context : ServiceRequestContext}
    {request : DecisionRequest} {decision : DecisionRecord} (hs : ServiceReachable service)
    (hplan : (service.planFlowGroup context request).2.1 = some decision)
    (hgrants : decision.outcome = .admitted ∨ decision.outcome = .isolatedClass) :
    ∃ record policy topology collectivePolicy classPolicy,
      GrantBasis service context request decision record policy topology collectivePolicy
        classPolicy := by
  have hpeers := reachable_peersCoherent hs.authority
  have hevidence := reachable_evidenceCoherent hs.authority
  obtain ⟨record, reasons, policy, topology, collectivePolicy, classPolicy, group, hlifecycle,
    hchecks, hrecord, hclassBound, rfl⟩ := planFlowGroup_grantChecks hplan hgrants
  obtain ⟨hregistered, hgeneration, hset, hattempt, hstate⟩ :=
    lifecycleCheck_eq_ok_iff.mp hlifecycle
  obtain ⟨hparticipants, hdefGeneration, hclass⟩ := effectiveDefinition_same record
  refine ⟨record, policy, topology, collectivePolicy, classPolicy, ?_⟩
  exact
    { registered := hregistered
      nonTerminal := hstate
      generation := hgeneration.symm
      attempt := hattempt.symm
      attemptSet := by simpa using hset
      planned := hchecks.planned
      planValid := hparticipants ▸ hchecks.planValid
      policyInstalled := hchecks.policyInstalled
      topologyInstalled := hchecks.topologyInstalled
      topologyFresh := topologyFresh_of_not_stale hchecks.topologyCurrent
      live := by
        intro p hp
        rw [← hparticipants] at hp
        exact live_of_checks hpeers hevidence hchecks.topologyInstalled
          (hchecks.live p hp) (hchecks.nodes p hp)
      known := hclass ▸ hchecks.known
      collective := hclass ▸ hchecks.collective
      trafficClass := hclassBound ▸ hchecks.trafficClass
      classified := hclassBound ▸ hchecks.classified
      chosen := hclassBound ▸ selectedClass_chosen hchecks.overrideAllowed
      epochObserved := hchecks.epoch
      policyObserved := hchecks.policyObserved
      topologyObserved := hchecks.topologyObserved
      congestionFresh := fun hrequired =>
        congestionFresh_of_checks (hchecks.congestionInstalled hrequired)
          (hchecks.congestionFresh hrequired)
      bindsInstance := rfl
      bindsCollective := by
        simp only [evaluatedDecision, hrecord]
        exact hdefGeneration
      bindsPolicy := by
        simp only [evaluatedDecision, hrecord]
        exact (hevidence.policy policy hchecks.policyInstalled).1.symm
      bindsTopology := by
        simp only [evaluatedDecision, hrecord]
        exact (hevidence.topology topology hchecks.topologyInstalled).1.symm
      bindsEpoch := by
        simp only [evaluatedDecision, hrecord]
        rfl }

namespace TwoMembers

/-- A minted identity with the given high half. -/
def minted (value : UInt64) (set : value ≠ 0) : Minted where
  id := ⟨value, 0⟩
  set := by simpa [Identity.none] using set

/-- What the random source draws for the epoch, session 41 and its incarnation. -/
def epochDraw : Minted :=
  minted 100 (by decide)

def sessionDraw : Minted :=
  minted 41 (by decide)

def incarnationDraw : Minted :=
  minted 42 (by decide)

/-- The draw of a congestion observation that names its own generation. -/
def congestionDraw : Minted :=
  minted 52 (by decide)

/-- A request under session 41 at the given time. -/
def context (now : UInt64) : ServiceRequestContext where
  session := ⟨41, 0⟩
  incarnation := ⟨42, 0⟩
  nowMonotonicMs := now

def definition : CollectiveDefinition where
  id := ⟨31, 0⟩
  generation := ⟨32, 0⟩
  collectiveClass := .allReduce
  participants := [⟨1, 0⟩, ⟨2, 0⟩]

def attempt : CollectiveInstance where
  id := ⟨31, 0⟩
  generation := ⟨32, 0⟩
  attempt := ⟨33, 0⟩

/-- A request for one edge between the two members. -/
def request : DecisionRequest where
  collectiveInstance := attempt
  hasFlowGroupPlan := true
  plan :=
    { collectiveInstance := attempt
      edges := [{ source := ⟨1, 0⟩, destination := ⟨2, 0⟩, stepIndex := ⟨1⟩ }] }

/-- Boots the service and opens session 41. -/
def boot : List ServiceOp :=
  [ .start [epochDraw], .openSession (text "members") 1 sessionDraw incarnationDraw ]

/-- Installs the evidence, publishes both members and opens the attempt. -/
def setup : List ServiceOp :=
  boot ++
  [ .installPolicy (context 2) (TrafficPolicy.standard ⟨5, 0⟩) (minted 50 (by decide)) [],
    .ingestTopology (context 2) { generation := ⟨6, 0⟩, nodes := [{ id := ⟨21, 0⟩ }] }
      (minted 51 (by decide)) [],
    .ingestCongestion (context 2)
      { generation := ⟨7, 0⟩
        topologyGeneration := ⟨6, 0⟩
        capturedMonotonicMs := 2
        validForMs := 2000 }
      congestionDraw [],
    .publishParticipant (context 3) ⟨1, 0⟩ ⟨11, 0⟩ ⟨21, 0⟩ .live,
    .publishParticipant (context 3) ⟨2, 0⟩ ⟨12, 0⟩ ⟨21, 0⟩ .live,
    .registerCollective (context 4) definition,
    .beginAttempt (context 5) ⟨31, 0⟩ ⟨32, 0⟩ ⟨33, 0⟩ 0 ]

def service : CoordinatorService :=
  run serviceStep (.create {}) setup

theorem service_reachable : ServiceReachable service := by
  exact ⟨{}, setup, rfl⟩

/-- Once everything is in place, the plan is admitted. -/
theorem service_admits :
    ∃ decision, (service.planFlowGroup (context 10) request).2.1 = some decision ∧
      decision.outcome = .admitted := by
  have houtcome : (service.planFlowGroup (context 10) request).2.1.map DecisionRecord.outcome =
      some .admitted := by
    decide
  simpa using houtcome

end TwoMembers

open TwoMembers in
/-- The two members are admitted once everything is in place. -/
theorem planFlowGroup_grants_two_members :
    ∃ decision, (service.planFlowGroup (context 10) request).2.1 = some decision ∧
      decision.outcome = .admitted ∧
      ∃ record policy topology collectivePolicy classPolicy,
        GrantBasis service (context 10) request decision record policy topology
          collectivePolicy classPolicy := by
  obtain ⟨decision, hplan, hadmitted⟩ := service_admits
  exact ⟨decision, hplan, hadmitted,
    planFlowGroup_grant_sound service_reachable hplan (.inl hadmitted)⟩

end TrafficFabric
