import TrafficFabric.Engine

/-!
# When the engine grants

A refusal never grants, and a grant is exactly a request that passes every
check.  The checks are stated over the snapshot, the request and the
definition, in the order the engine makes them.
-/

namespace TrafficFabric

open Lib

/-- The two outcomes that grant authority. -/
theorem outcomeGrantsAuthority_eq_true_iff (value : Outcome) :
    outcomeGrantsAuthority value = true ↔ value = .admitted ∨ value = .isolatedClass := by
  simp [outcomeGrantsAuthority]

/-- The record withholds authority. -/
def Withholds (record : DecisionRecord) : Prop :=
  outcomeGrantsAuthority record.outcome = false

/-- A grant has one of the two granting outcomes. -/
theorem granted_outcome (snapshot : EvaluationSnapshot) (request : DecisionRequest)
    (definition : CollectiveDefinition) (policy : TrafficPolicy) (classPolicy : TrafficClassPolicy)
    (pacing : PacingComputation) (record : DecisionRecord) :
    outcomeGrantsAuthority
      (granted snapshot request definition policy classPolicy pacing record).outcome = true := by
  unfold granted
  simp only
  split <;> rfl

/--
The floor of the class can be honored: either no fresh capacity is observed, or
the observed capacity under the congestion response reaches it.
-/
def FloorHonored
    (snapshot : EvaluationSnapshot) (policy : TrafficPolicy)
    (classPolicy : TrafficClassPolicy) (collectivePolicy : CollectiveClassPolicy) : Prop :=
  (observedCapacity snapshot).1 ≠ 0 →
    classPolicy.minimumBandwidthBps ≤
      perMille (min classPolicy.maximumBandwidthBps (observedCapacity snapshot).1)
        (responsePerMille policy.congestionResponse
          (observedCongestion snapshot collectivePolicy).1).toUInt64

instance
    (snapshot : EvaluationSnapshot) (policy : TrafficPolicy)
    (classPolicy : TrafficClassPolicy) (collectivePolicy : CollectiveClassPolicy) :
    Decidable (FloorHonored snapshot policy classPolicy collectivePolicy) :=
  inferInstanceAs (Decidable (_ → _))

theorem computePacing_code_eq_ok_iff (snapshot : EvaluationSnapshot) (policy : TrafficPolicy)
    (classPolicy : TrafficClassPolicy) (collectivePolicy : CollectiveClassPolicy) :
    (computePacing snapshot policy classPolicy collectivePolicy).code = .ok ↔
      FloorHonored snapshot policy classPolicy collectivePolicy := by
  unfold computePacing FloorHonored
  simp only
  by_cases havailable : (observedCapacity snapshot).1 = 0
  · simp only [havailable, ne_eq, not_true_eq_false, false_and, if_false, false_implies, iff_true]
    split <;> rfl
  · simp only [havailable, ne_eq, not_false_eq_true, true_and, if_true, true_implies]
    split
    · rename_i hbelow
      simp [UInt64.not_le.mpr hbelow]
    · rename_i hreached
      have hle := UInt64.not_lt.mp hreached
      split <;> simp [hle]

/--
Everything a grant rests on: the evidence found installed, the treatment it
selects, and the checks on them.
-/
structure GrantChecks
    (snapshot : EvaluationSnapshot) (request : DecisionRequest)
    (definition : CollectiveDefinition) (policy : TrafficPolicy) (topology : TopologyEvidence)
    (collectivePolicy : CollectiveClassPolicy) (classPolicy : TrafficClassPolicy) : Prop where
  generation : request.collectiveInstance.generation = definition.generation
  planned : request.hasFlowGroupPlan = true
  planValid : (validateFlowGroupPlan request.plan definition.participants).isOk = true
  epoch : observedIsCurrent request.observedEpoch snapshot.epoch
  policyObserved : observedIsCurrent request.observedPolicyGeneration snapshot.policyGeneration
  policyInstalled : snapshot.policy = some policy
  policySet : snapshot.policyGeneration.isNone = false
  capacityObserved :
    snapshot.capacity.isSome = true → snapshot.capacityGeneration.isSome = true →
      observedIsCurrent request.observedCapacityGeneration snapshot.capacityGeneration
  congestionObserved :
    snapshot.congestion.isSome = true → snapshot.congestionGeneration.isSome = true →
      observedIsCurrent request.observedCongestionGeneration snapshot.congestionGeneration
  topologyObserved :
    observedIsCurrent request.observedTopologyGeneration snapshot.topologyGeneration
  topologyInstalled : snapshot.topology = some topology
  topologySet : snapshot.topologyGeneration.isNone = false
  live : ∀ p ∈ definition.participants, participantNotLive snapshot p = false
  topologyCurrent : topologyStaleness snapshot topology = none
  nodes : ∀ p ∈ definition.participants, participantNodeMissing snapshot topology p = false
  collective : policy.findCollective definition.collectiveClass = some collectivePolicy
  known : isKnownCollectiveClass definition.collectiveClass = true
  overrideAllowed : request.hasRequestedClass = true → collectivePolicy.allowMemberOverride = true
  requestedClassified :
    request.hasRequestedClass = true → trafficClassIsClassified request.requestedClass = true
  classified : trafficClassIsClassified (selectedClass request collectivePolicy) = true
  trafficClass : policy.findClass (selectedClass request collectivePolicy) = some classPolicy
  congestionInstalled :
    classPolicy.requiresEvidenceFreshness = true → snapshot.congestionObservationAvailable = true
  congestionFresh :
    classPolicy.requiresEvidenceFreshness = true →
      congestionIsFresh snapshot collectivePolicy = true
  floor : FloorHonored snapshot policy classPolicy collectivePolicy

/-- The list of participants without authority is empty exactly when all are live. -/
theorem notLiveParticipants_eq_nil_iff (snapshot : EvaluationSnapshot)
    (participants : List ParticipantId) :
    notLiveParticipants snapshot participants = [] ↔
      ∀ p ∈ participants, participantNotLive snapshot p = false := by
  unfold notLiveParticipants
  rw [List.take_eq_nil_iff]
  simp [List.filter_eq_nil_iff]

section Passing

variable {snapshot : EvaluationSnapshot} {request : DecisionRequest}
variable {definition : CollectiveDefinition}

variable {record result : DecisionRecord} {policy : TrafficPolicy} {topology : TopologyEvidence}
variable {collectivePolicy : CollectiveClassPolicy} {classPolicy : TrafficClassPolicy}

/-- What passes the first two checks, and the record it leaves. -/
theorem checkPlan_eq_ok_iff :
    checkPlan request definition record = .ok result ↔
      request.collectiveInstance.generation = definition.generation ∧
      request.hasFlowGroupPlan = true ∧
      ∃ group,
        constructFlowGroup { request.plan with collectiveClass := definition.collectiveClass }
          definition.participants = .ok group ∧
        result =
          { record with
            group := group
            flowGroup := group.id
            flowGroupConstructed := true } := by
  unfold checkPlan
  rw [require_eq_ok_iff, require_eq_ok_iff]
  refine and_congr_right fun _ => and_congr_right fun _ => ?_
  split
  · rename_i status hstatus
    simp [hstatus]
  · rename_i group hgroup
    simp [hgroup, eq_comm]

/-- The record after the authority chain. -/
def authorityRecord (request : DecisionRequest) (record : DecisionRecord) : DecisionRecord :=
  { record with
    allMembersLive := true
    reasons := record.reasons.add (text "authority_current")
      (text "epoch, policy, topology, evidence and participant liveness all support this request")
      request.collectiveInstance.id }

theorem applyTopologyAndLiveness_eq_ok_iff
    {policy' : TrafficPolicy} :
    applyTopologyAndLiveness snapshot request record policy = .ok (result, policy', topology) ↔
      observedIsCurrent request.observedTopologyGeneration snapshot.topologyGeneration ∧
      snapshot.topology = some topology ∧
      snapshot.topologyGeneration.isNone = false ∧
      (∀ p ∈ record.participants, participantNotLive snapshot p = false) ∧
      result = authorityRecord request record ∧ policy' = policy := by
  unfold applyTopologyAndLiveness
  rw [require_eq_ok_iff]
  refine and_congr_right fun _ => ?_
  simp only
  split
  · rename_i hnone
    simp [hnone]
  · rename_i found hfound
    rw [require_eq_ok_iff, require_eq_ok_iff, notLiveParticipants_eq_nil_iff, hfound]
    simp only [Except.ok.injEq, Prod.mk.injEq, Option.some.injEq]
    constructor
    · rintro ⟨hset, hlive, rfl, rfl, rfl⟩
      exact ⟨rfl, hset, hlive, rfl, rfl⟩
    · rintro ⟨rfl, hset, hlive, rfl, rfl⟩
      exact ⟨hset, hlive, rfl, rfl, rfl⟩

theorem applyAuthorityChain_eq_ok_iff :
    applyAuthorityChain snapshot request record = .ok (result, policy, topology) ↔
      observedIsCurrent request.observedEpoch snapshot.epoch ∧
      observedIsCurrent request.observedPolicyGeneration snapshot.policyGeneration ∧
      snapshot.policy = some policy ∧
      snapshot.policyGeneration.isNone = false ∧
      (snapshot.capacity.isSome = true → snapshot.capacityGeneration.isSome = true →
        observedIsCurrent request.observedCapacityGeneration snapshot.capacityGeneration) ∧
      (snapshot.congestion.isSome = true → snapshot.congestionGeneration.isSome = true →
        observedIsCurrent request.observedCongestionGeneration snapshot.congestionGeneration) ∧
      observedIsCurrent request.observedTopologyGeneration snapshot.topologyGeneration ∧
      snapshot.topology = some topology ∧
      snapshot.topologyGeneration.isNone = false ∧
      (∀ p ∈ record.participants, participantNotLive snapshot p = false) ∧
      result = authorityRecord request record := by
  unfold applyAuthorityChain
  rw [require_eq_ok_iff, require_eq_ok_iff]
  refine and_congr_right fun _ => and_congr_right fun _ => ?_
  simp only
  split
  · rename_i hnone
    simp [hnone]
  · rename_i found hfound
    rw [require_eq_ok_iff, require_eq_ok_iff, require_eq_ok_iff,
      applyTopologyAndLiveness_eq_ok_iff, hfound]
    simp only [Option.some.injEq]
    constructor
    · rintro ⟨hset, hcap, hcon, hobs, htop, htset, hlive, hresult, rfl⟩
      exact ⟨rfl, hset, hcap, hcon, hobs, htop, htset, hlive, hresult⟩
    · rintro ⟨rfl, hset, hcap, hcon, hobs, htop, htset, hlive, hresult⟩
      exact ⟨hset, hcap, hcon, hobs, htop, htset, hlive, hresult, rfl⟩

theorem checkTopology_eq_ok_iff :
    checkTopology snapshot topology record = .ok () ↔
      topologyStaleness snapshot topology = none ∧
      ∀ p ∈ record.participants, participantNodeMissing snapshot topology p = false := by
  unfold checkTopology
  split
  · rename_i detail hstale
    simp [hstale]
  · rename_i hcurrent
    split
    · rename_i missing hmissing
      have hbad := List.find?_some hmissing
      have hmem := List.mem_of_find?_eq_some hmissing
      simp only [reduceCtorEq, hcurrent, true_and, false_iff, not_forall]
      exact ⟨missing, hmem, by simp [hbad]⟩
    · rename_i hnone
      simpa [hcurrent] using hnone

theorem checkSemantics_eq_ok_iff :
    checkSemantics request definition policy record = .ok (collectivePolicy, classPolicy) ↔
      policy.findCollective definition.collectiveClass = some collectivePolicy ∧
      isKnownCollectiveClass definition.collectiveClass = true ∧
      (request.hasRequestedClass = true → collectivePolicy.allowMemberOverride = true) ∧
      (request.hasRequestedClass = true → trafficClassIsClassified request.requestedClass = true) ∧
      trafficClassIsClassified (selectedClass request collectivePolicy) = true ∧
      policy.findClass (selectedClass request collectivePolicy) = some classPolicy := by
  unfold checkSemantics
  simp only
  split
  · rename_i hnone
    simp [hnone]
  · rename_i found hfound
    rw [require_eq_ok_iff, require_eq_ok_iff, require_eq_ok_iff, require_eq_ok_iff, hfound]
    constructor
    · rintro ⟨hknown, hoverride, hrequested, hclassified, hclass⟩
      split at hclass
      · cases hclass
      · rename_i entry hentry
        cases hclass
        exact ⟨rfl, hknown, hoverride, hrequested, hclassified, hentry⟩
    · rintro ⟨hsame, hknown, hoverride, hrequested, hclassified, hclass⟩
      cases hsame
      exact ⟨hknown, hoverride, hrequested, hclassified, by rw [hclass]⟩

theorem checkEvidence_eq_ok_iff :
    checkEvidence snapshot request collectivePolicy classPolicy record = .ok () ↔
      (classPolicy.requiresEvidenceFreshness = true →
        snapshot.congestionObservationAvailable = true) ∧
      (classPolicy.requiresEvidenceFreshness = true →
        congestionIsFresh snapshot collectivePolicy = true) := by
  unfold checkEvidence
  rw [require_eq_ok_iff, require_eq_ok_iff]
  simp

/-- The record the engine starts from. -/
def initialRecord
    (snapshot : EvaluationSnapshot) (request : DecisionRequest)
    (definition : CollectiveDefinition) : DecisionRecord :=
  { makeRecord request definition with decidedMonotonicMs := snapshot.nowMonotonicMs }

end Passing

/--
How the engine refuses with a record it has built so far.  Most refusals state a
reason of the engine's own; the others pass on the code of a plan or of a rate,
list the participants without authority or name an unclassified class.
-/
inductive Refusal
    (snapshot : EvaluationSnapshot) (request : DecisionRequest)
    (definition : CollectiveDefinition) (base : DecisionRecord) : DecisionRecord → Prop
  | stated {outcome : Outcome} {axis : AuthorityAxis} {code : ErrorCode} {literal : String}
      (detail : Text) (subject : Identity)
      (named : outcomeGrantsAuthority outcome = false ∧ outcome ≠ .unknownSemantics ∧
        axis ≠ .none ∧ code ≠ .ok ∧ code ≠ .admissionBucketCapacity ∧
        literal.utf8ByteSize ≤ 64) :
      Refusal snapshot request definition base
        (refused base outcome axis code (text literal) detail subject)
  | plan (status : Status) (subject : Identity)
      (invalid : constructFlowGroup
        { request.plan with collectiveClass := definition.collectiveClass }
        definition.participants = .error status) :
      Refusal snapshot request definition base
        (refused base .requiresReplan .plan status.code (text "plan_rejected") status.message
          subject)
  | notLive : Refusal snapshot request definition base (refusedNotLive snapshot request base)
  | unclassified {value : TrafficClass} (detail : Text) (subject : Identity)
      (unclassified : trafficClassIsClassified value = false) :
      Refusal snapshot request definition base
        (refused { base with trafficClass := value, priority := 0 } .unknownSemantics .semantics
          .validationClassUnknownRejected (text "unknown_semantics") detail subject)
  | rate (policy : TrafficPolicy) (classPolicy : TrafficClassPolicy)
      (collectivePolicy : CollectiveClassPolicy) (subject : Identity)
      (missed : (computePacing snapshot policy classPolicy collectivePolicy).code ≠ .ok) :
      Refusal snapshot request definition base
        (refused base .rejectedCapacity .capacityEvidence
          (computePacing snapshot policy classPolicy collectivePolicy).code
          (computePacing snapshot policy classPolicy collectivePolicy).reasonCode
          (computePacing snapshot policy classPolicy collectivePolicy).reasonDetail subject)

section Refusals

variable (snapshot : EvaluationSnapshot) (request : DecisionRequest)
variable (definition : CollectiveDefinition) (record : DecisionRecord)

theorem checkPlan_refusal :
    Refuses (Refusal snapshot request definition record) (checkPlan request definition record) := by
  refine refuses_require (.stated _ _ (by decide)) (refuses_require (.stated _ _ (by decide)) ?_)
  split
  · rename_i status hinvalid
    exact refuses_error (.plan status _ hinvalid)
  · exact refuses_ok _ _

theorem applyAuthorityChain_refusal :
    Refuses (Refusal snapshot request definition record)
      (applyAuthorityChain snapshot request record) := by
  refine refuses_require (.stated _ _ (by decide)) (refuses_require (.stated _ _ (by decide)) ?_)
  simp only
  split
  · exact refuses_error (.stated _ _ (by decide))
  refine refuses_require (.stated _ _ (by decide)) (refuses_require (.stated _ _ (by decide))
    (refuses_require (.stated _ _ (by decide)) (refuses_require (.stated _ _ (by decide)) ?_)))
  simp only
  split
  · exact refuses_error (.stated _ _ (by decide))
  · exact refuses_require (.stated _ _ (by decide)) (refuses_require .notLive (refuses_ok _ _))

theorem checkTopology_refusal (topology : TopologyEvidence) :
    Refuses (Refusal snapshot request definition record)
      (checkTopology snapshot topology record) := by
  unfold checkTopology
  split
  · exact refuses_error (.stated _ _ (by decide))
  · split
    · exact refuses_error (.stated _ _ (by decide))
    · exact refuses_ok _ _

theorem checkSemantics_refusal (policy : TrafficPolicy) :
    Refuses (Refusal snapshot request definition record)
      (checkSemantics request definition policy record) := by
  unfold checkSemantics
  simp only
  split
  · exact refuses_error (.stated _ _ (by decide))
  refine refuses_require (.stated _ _ (by decide)) (refuses_require (.stated _ _ (by decide))
    (refuses_require (.stated _ _ (by decide)) (refuses_require_of_not ?_ ?_)))
  · intro hclass
    exact .unclassified _ _ (Bool.eq_false_iff.mpr hclass)
  · split
    · exact refuses_error (.stated _ _ (by decide))
    · exact refuses_ok _ _

theorem checkEvidence_refusal (collectivePolicy : CollectiveClassPolicy)
    (classPolicy : TrafficClassPolicy) :
    Refuses (Refusal snapshot request definition record)
      (checkEvidence snapshot request collectivePolicy classPolicy record) := by
  exact refuses_require (.stated _ _ (by decide))
    (refuses_require (.stated _ _ (by decide)) (refuses_ok _ _))

/-- The records a request that has a plan goes through before it is granted. -/
inductive StageReached (planned : DecisionRecord) : DecisionRecord → Prop
  | planned : StageReached planned planned
  | current : StageReached planned (authorityRecord request planned)
  | bound (trafficClass : TrafficClass) (classPolicy : TrafficClassPolicy) :
      StageReached planned
        (bindRecord snapshot trafficClass classPolicy (authorityRecord request planned))

/-- Every way in which the engine refuses: for the plan, or with a record that has one. -/
inductive EngineRefusal : DecisionRecord → Prop
  | early {refusal : DecisionRecord}
      (failed : checkPlan request definition (initialRecord snapshot request definition) =
        .error refusal)
      (refuses : Refusal snapshot request definition (initialRecord snapshot request definition)
        refusal) :
      EngineRefusal refusal
  | late {planned base refusal : DecisionRecord}
      (passed : checkPlan request definition (initialRecord snapshot request definition) =
        .ok planned)
      (reached : StageReached snapshot request planned base)
      (refuses : Refusal snapshot request definition base refusal) :
      EngineRefusal refusal

theorem evaluateChecks_refusal :
    Refuses (EngineRefusal snapshot request definition)
      (evaluateChecks snapshot request definition) := by
  intro refusal hrefused
  cases hplan : checkPlan request definition (initialRecord snapshot request definition) with
  | error early =>
    have hsame : evaluateChecks snapshot request definition = .error early := by
      change (checkPlan request definition (initialRecord snapshot request definition)).bind _ = _
      rw [hplan]
      rfl
    cases hrefused.symm.trans hsame
    exact .early hplan (checkPlan_refusal _ _ _ _ _ hplan)
  | ok planned =>
    have hrest : Refuses (EngineRefusal snapshot request definition)
        ((applyAuthorityChain snapshot request planned).bind fun passed =>
          evaluateTreatment snapshot request definition passed.2.1 passed.2.2 passed.1) := by
      refine refuses_bind (fun _ hchain => .late hplan .planned
        (applyAuthorityChain_refusal snapshot request definition planned _ hchain)) ?_
      rintro ⟨record, policy, topology⟩ hchain
      obtain ⟨-, -, -, -, -, -, -, -, -, -, rfl⟩ := applyAuthorityChain_eq_ok_iff.mp hchain
      refine refuses_bind (fun _ hfailed => .late hplan .current
        (checkTopology_refusal snapshot request definition _ topology _ hfailed)) ?_
      intro _ _
      refine refuses_bind (fun _ hfailed => .late hplan .current
        (checkSemantics_refusal snapshot request definition _ policy _ hfailed)) ?_
      rintro ⟨collectivePolicy, classPolicy⟩ _
      refine refuses_bind (fun _ hfailed => .late hplan (.bound _ classPolicy)
        (checkEvidence_refusal snapshot request definition _ collectivePolicy classPolicy _
          hfailed)) ?_
      intro _ _
      exact refuses_require_of_not
        (fun hmissed => .late hplan (.bound _ classPolicy) (.rate _ _ _ _ hmissed))
        (refuses_ok _ _)
    refine hrest refusal ?_
    rw [← hrefused]
    change _ = (checkPlan request definition (initialRecord snapshot request definition)).bind _
    rw [hplan]
    rfl

variable {snapshot request definition}

theorem EngineRefusal.refuses {refusal : DecisionRecord}
    (h : EngineRefusal snapshot request definition refusal) :
    ∃ base, Refusal snapshot request definition base refusal := by
  cases h with
  | early _ refuses | late _ _ refuses => exact ⟨_, refuses⟩

variable (snapshot request definition)

/-- Every early return of the engine withholds authority. -/
theorem evaluateChecks_refuses :
    Refuses Withholds (evaluateChecks snapshot request definition) := by
  intro refusal hrefused
  obtain ⟨base, hrefusal⟩ :=
    (evaluateChecks_refusal snapshot request definition refusal hrefused).refuses
  cases hrefusal with
  | stated _ _ named => exact named.1
  | _ => rfl

end Refusals

section Granting

variable {snapshot : EvaluationSnapshot} {request : DecisionRequest}
variable {definition : CollectiveDefinition}

/-- The record a passing request is granted with. -/
def grantRecord
    (snapshot : EvaluationSnapshot) (request : DecisionRequest)
    (definition : CollectiveDefinition) (group : FlowGroup) (policy : TrafficPolicy)
    (collectivePolicy : CollectiveClassPolicy) (classPolicy : TrafficClassPolicy) :
    DecisionRecord :=
  granted snapshot request definition policy classPolicy
    (computePacing snapshot policy classPolicy collectivePolicy)
    (bindRecord snapshot (selectedClass request collectivePolicy) classPolicy
      (authorityRecord request
        { initialRecord snapshot request definition with
          group := group
          flowGroup := group.id
          flowGroupConstructed := true }))

/-- The engine passes a request exactly when all checks hold, and grants this record. -/
theorem evaluateChecks_eq_ok_iff {result : DecisionRecord} :
    evaluateChecks snapshot request definition = .ok result ↔
      ∃ policy topology collectivePolicy classPolicy group,
        GrantChecks snapshot request definition policy topology collectivePolicy classPolicy ∧
        constructFlowGroup { request.plan with collectiveClass := definition.collectiveClass }
          definition.participants = .ok group ∧
        result =
          grantRecord snapshot request definition group policy collectivePolicy classPolicy := by
  unfold evaluateChecks
  rw [bind_eq_ok_iff]
  constructor
  · rintro ⟨planned, hplan, hrest⟩
    obtain ⟨hgeneration, hplanned, group, hgroup, rfl⟩ := checkPlan_eq_ok_iff.mp hplan
    obtain ⟨⟨record, policy, topology⟩, hchain, hrest⟩ := bind_eq_ok_iff.mp hrest
    obtain ⟨hepoch, hpolicyObs, hpolicy, hpolicySet, hcap, hcon, htopObs, htop, htopSet,
      hlive, rfl⟩ := applyAuthorityChain_eq_ok_iff.mp hchain
    obtain ⟨_, htopology, hrest⟩ := bind_eq_ok_iff.mp hrest
    obtain ⟨hcurrent, hnodes⟩ := checkTopology_eq_ok_iff.mp htopology
    obtain ⟨⟨collectivePolicy, classPolicy⟩, hsemantics, hrest⟩ := bind_eq_ok_iff.mp hrest
    obtain ⟨hcollective, hknown, hoverride, hrequested, hclassified, hclass⟩ :=
      checkSemantics_eq_ok_iff.mp hsemantics
    obtain ⟨_, hevidence, hrest⟩ := bind_eq_ok_iff.mp hrest
    obtain ⟨hinstalled, hfresh⟩ := checkEvidence_eq_ok_iff.mp hevidence
    obtain ⟨hfloor, hresult⟩ := require_eq_ok_iff.mp hrest
    refine ⟨policy, topology, collectivePolicy, classPolicy, group, ?_, hgroup, ?_⟩
    · exact
        { generation := hgeneration
          planned := hplanned
          planValid := by
            simpa only [validateFlowGroupPlan_collectiveClass] using
              (constructFlowGroup_isOk_iff _ _).mp ⟨group, hgroup⟩
          epoch := hepoch
          policyObserved := hpolicyObs
          policyInstalled := hpolicy
          policySet := hpolicySet
          capacityObserved := hcap
          congestionObserved := hcon
          topologyObserved := htopObs
          topologyInstalled := htop
          topologySet := htopSet
          live := hlive
          topologyCurrent := hcurrent
          nodes := hnodes
          collective := hcollective
          known := hknown
          overrideAllowed := hoverride
          requestedClassified := hrequested
          classified := hclassified
          trafficClass := hclass
          congestionInstalled := hinstalled
          congestionFresh := hfresh
          floor := (computePacing_code_eq_ok_iff _ _ _ _).mp hfloor }
    · exact (Except.ok.inj hresult).symm
  · rintro ⟨policy, topology, collectivePolicy, classPolicy, group, h, hgroup, rfl⟩
    refine ⟨_, checkPlan_eq_ok_iff.mpr ⟨h.generation, h.planned, group, hgroup, rfl⟩, ?_⟩
    refine bind_eq_ok_iff.mpr ⟨(_, policy, topology), applyAuthorityChain_eq_ok_iff.mpr
      ⟨h.epoch, h.policyObserved, h.policyInstalled, h.policySet, h.capacityObserved,
        h.congestionObserved, h.topologyObserved, h.topologyInstalled, h.topologySet,
        h.live, rfl⟩, ?_⟩
    refine bind_eq_ok_iff.mpr ⟨(), checkTopology_eq_ok_iff.mpr ⟨h.topologyCurrent, h.nodes⟩, ?_⟩
    refine bind_eq_ok_iff.mpr ⟨(collectivePolicy, classPolicy), checkSemantics_eq_ok_iff.mpr
      ⟨h.collective, h.known, h.overrideAllowed, h.requestedClassified, h.classified,
        h.trafficClass⟩, ?_⟩
    refine bind_eq_ok_iff.mpr ⟨(), checkEvidence_eq_ok_iff.mpr
      ⟨h.congestionInstalled, h.congestionFresh⟩, ?_⟩
    exact require_eq_ok_iff.mpr ⟨(computePacing_code_eq_ok_iff _ _ _ _).mpr h.floor, rfl⟩

/-- The engine grants exactly the requests that pass every check. -/
theorem evaluate_grants_iff :
    outcomeGrantsAuthority (evaluate snapshot request definition).outcome = true ↔
      ∃ policy topology collectivePolicy classPolicy,
        GrantChecks snapshot request definition policy topology collectivePolicy classPolicy := by
  unfold evaluate
  split
  · rename_i record hrefused
    have hwithheld : outcomeGrantsAuthority record.outcome = false :=
      evaluateChecks_refuses snapshot request definition record hrefused
    simp only [hwithheld, Bool.false_eq_true, false_iff, not_exists]
    intro policy topology collectivePolicy classPolicy h
    obtain ⟨group, hgroup⟩ :=
      (constructFlowGroup_isOk_iff
        { request.plan with collectiveClass := definition.collectiveClass }
        definition.participants).mpr
        (by simpa only [validateFlowGroupPlan_collectiveClass] using h.planValid)
    rw [evaluateChecks_eq_ok_iff.mpr
      ⟨policy, topology, collectivePolicy, classPolicy, group, h, hgroup, rfl⟩] at hrefused
    cases hrefused
  · rename_i record hpassed
    obtain ⟨policy, topology, collectivePolicy, classPolicy, group, h, _, rfl⟩ :=
      evaluateChecks_eq_ok_iff.mp hpassed
    exact iff_of_true (granted_outcome _ _ _ _ _ _ _)
      ⟨policy, topology, collectivePolicy, classPolicy, h⟩

/-- An evaluation grants only what passed every check. -/
theorem evaluateChecks_of_grants
    (h : outcomeGrantsAuthority (evaluate snapshot request definition).outcome = true) :
    evaluateChecks snapshot request definition = .ok (evaluate snapshot request definition) := by
  unfold evaluate at h ⊢
  cases hchecks : evaluateChecks snapshot request definition with
  | error record =>
    have hwithheld : outcomeGrantsAuthority record.outcome = false :=
      evaluateChecks_refuses snapshot request definition record hchecks
    simp [hchecks, hwithheld] at h
  | ok record => rfl

/-- The record of a granting evaluation, with the checks it rests on. -/
theorem evaluate_eq_grantRecord
    (h : outcomeGrantsAuthority (evaluate snapshot request definition).outcome = true) :
    ∃ policy topology collectivePolicy classPolicy group,
      GrantChecks snapshot request definition policy topology collectivePolicy classPolicy ∧
      evaluate snapshot request definition =
        grantRecord snapshot request definition group policy collectivePolicy classPolicy := by
  obtain ⟨policy, topology, collectivePolicy, classPolicy, group, hgrant, _, hrecord⟩ :=
    evaluateChecks_eq_ok_iff.mp (evaluateChecks_of_grants h)
  exact ⟨policy, topology, collectivePolicy, classPolicy, group, hgrant, hrecord⟩

end Granting

end TrafficFabric
