import TrafficFabric.Settled

/-!
# The order of evaluation

The checks of the engine as lists of conditions, each with the outcome and the
axis it reports.  The engine follows its own list: whatever fails, it answers
with the first failing check.

The documented order is a second list of the same conditions.  It compares the
generations a request observed before it looks for a policy, the topology first,
and it compares an observed capacity or congestion generation also when no such
observation is installed.  The two lists answer differently when several
checks fail at once.
-/

namespace TrafficFabric

open Lib

/-- An outcome that withholds authority, and the axis it names. -/
abbrev Verdict := Outcome × AuthorityAxis

/-- What a decision refuses with; nothing for a grant. -/
def DecisionRecord.verdict (record : DecisionRecord) : Option Verdict :=
  if outcomeGrantsAuthority record.outcome then none else some (record.outcome, record.axis)

section Lists

variable (snapshot : EvaluationSnapshot) (request : DecisionRequest)
variable (definition : CollectiveDefinition)

/-- The entry the installed policy has for the collective. -/
def statedCollective : Option CollectiveClassPolicy :=
  snapshot.policy.bind fun policy => policy.findCollective definition.collectiveClass

/-- The treatment the installed policy states: the entry of the collective and of its class. -/
def statedTreatment : Option (TrafficPolicy × CollectiveClassPolicy × TrafficClassPolicy) :=
  snapshot.policy.bind fun policy =>
    (policy.findCollective definition.collectiveClass).bind fun collectivePolicy =>
      (policy.findClass (selectedClass request collectivePolicy)).map fun classPolicy =>
        (policy, collectivePolicy, classPolicy)

/-- The collective generation, then the plan. -/
def planChecks : List (Check Verdict) :=
  [ ⟨request.collectiveInstance.generation = definition.generation,
      (.rejectedStale, .collectiveGeneration)⟩,
    ⟨request.hasFlowGroupPlan, (.requiresReplan, .plan)⟩,
    ⟨(validateFlowGroupPlan request.plan definition.participants).isOk, (.requiresReplan, .plan)⟩ ]

def epochCheck : Check Verdict :=
  ⟨observedIsCurrent request.observedEpoch snapshot.epoch, (.rejectedStale, .coordinatorEpoch)⟩

def policyObservedCheck : Check Verdict :=
  ⟨observedIsCurrent request.observedPolicyGeneration snapshot.policyGeneration,
    (.rejectedStale, .policyGeneration)⟩

def topologyObservedCheck : Check Verdict :=
  ⟨observedIsCurrent request.observedTopologyGeneration snapshot.topologyGeneration,
    (.rejectedStale, .topologyGeneration)⟩

def capacityObservedCheck : Check Verdict :=
  ⟨observedIsCurrent request.observedCapacityGeneration snapshot.capacityGeneration,
    (.rejectedStale, .capacityEvidence)⟩

def congestionObservedCheck : Check Verdict :=
  ⟨observedIsCurrent request.observedCongestionGeneration snapshot.congestionGeneration,
    (.rejectedStale, .congestionEvidence)⟩

/-- The comparison of capacity generations, made only under an installed observation. -/
def capacityComparedCheck : Check Verdict :=
  ⟨snapshot.capacity.isSome = true → snapshot.capacityGeneration.isSome = true →
      observedIsCurrent request.observedCapacityGeneration snapshot.capacityGeneration,
    (.rejectedStale, .capacityEvidence)⟩

/-- The comparison of congestion generations, made only under an installed observation. -/
def congestionComparedCheck : Check Verdict :=
  ⟨snapshot.congestion.isSome = true → snapshot.congestionGeneration.isSome = true →
      observedIsCurrent request.observedCongestionGeneration snapshot.congestionGeneration,
    (.rejectedStale, .congestionEvidence)⟩

def policyInstalledCheck : Check Verdict :=
  ⟨snapshot.policy.isSome && !snapshot.policyGeneration.isNone,
    (.rejectedPolicy, .policyGeneration)⟩

def topologyInstalledCheck : Check Verdict :=
  ⟨snapshot.topology.isSome && !snapshot.topologyGeneration.isNone,
    (.rejectedStale, .topologyGeneration)⟩

/-- The participants are live, and the topology is fresh and lists their nodes. -/
def membershipChecks : List (Check Verdict) :=
  [ ⟨definition.participants.all fun p => !participantNotLive snapshot p,
      (.rejectedStale, .participantLiveness)⟩,
    ⟨snapshot.topology.all fun topology => (topologyStaleness snapshot topology).isNone,
      (.rejectedStale, .topologyGeneration)⟩,
    ⟨snapshot.topology.all fun topology =>
        definition.participants.all fun p => !participantNodeMissing snapshot topology p,
      (.requiresReplan, .plan)⟩ ]

/-- The policy defines a treatment of the collective, under its override rules. -/
def semanticsChecks : List (Check Verdict) :=
  [ ⟨(statedCollective snapshot definition).isSome, (.rejectedPolicy, .semantics)⟩,
    ⟨isKnownCollectiveClass definition.collectiveClass, (.rejectedPolicy, .semantics)⟩,
    ⟨(statedCollective snapshot definition).all fun collectivePolicy =>
        !request.hasRequestedClass || collectivePolicy.allowMemberOverride,
      (.rejectedPolicy, .semantics)⟩,
    ⟨!request.hasRequestedClass || trafficClassIsClassified request.requestedClass,
      (.rejectedPolicy, .semantics)⟩,
    ⟨(statedCollective snapshot definition).all fun collectivePolicy =>
        trafficClassIsClassified (selectedClass request collectivePolicy),
      (.unknownSemantics, .semantics)⟩,
    ⟨(statedTreatment snapshot request definition).isSome, (.rejectedPolicy, .policyGeneration)⟩ ]

/-- Congestion evidence the class requires is installed and fresh. -/
def evidenceChecks : List (Check Verdict) :=
  [ ⟨(statedTreatment snapshot request definition).all fun (_, _, classPolicy) =>
        !classPolicy.requiresEvidenceFreshness || snapshot.congestionObservationAvailable,
      (.requiresReplan, .congestionEvidence)⟩,
    ⟨(statedTreatment snapshot request definition).all fun (_, collectivePolicy, classPolicy) =>
        !classPolicy.requiresEvidenceFreshness || congestionIsFresh snapshot collectivePolicy,
      (.requiresReplan, .congestionEvidence)⟩ ]

/-- The floor of the class can be honored. -/
def floorCheck : Check Verdict :=
  ⟨(statedTreatment snapshot request definition).all fun (policy, collectivePolicy, classPolicy) =>
      FloorHonored snapshot policy classPolicy collectivePolicy,
    (.rejectedCapacity, .capacityEvidence)⟩

/-- Everything after the installed policy and topology. -/
def laterChecks : List (Check Verdict) :=
  membershipChecks snapshot definition ++
    (semanticsChecks snapshot request definition ++
      (evidenceChecks snapshot request definition ++ [floorCheck snapshot request definition]))

/-- What is checked once a collective has a class. -/
def treatmentChecks : List (Check Verdict) :=
  (semanticsChecks snapshot request definition).drop 5 ++
    (evidenceChecks snapshot request definition ++ [floorCheck snapshot request definition])

/-- The authority checks in the order the engine makes them. -/
def authorityChecks : List (Check Verdict) :=
  [ epochCheck snapshot request,
    policyObservedCheck snapshot request,
    policyInstalledCheck snapshot,
    capacityComparedCheck snapshot request,
    congestionComparedCheck snapshot request,
    topologyObservedCheck snapshot request,
    topologyInstalledCheck snapshot ]

/-- The authority checks in the documented order. -/
def documentedAuthorityChecks : List (Check Verdict) :=
  [ epochCheck snapshot request,
    policyObservedCheck snapshot request,
    topologyObservedCheck snapshot request,
    capacityObservedCheck snapshot request,
    congestionObservedCheck snapshot request,
    policyInstalledCheck snapshot,
    topologyInstalledCheck snapshot ]

/-- The checks of the engine, in its order. -/
def engineChecks : List (Check Verdict) :=
  planChecks request definition ++
    (authorityChecks snapshot request ++ laterChecks snapshot request definition)

/-- The checks in the documented order. -/
def documentedChecks : List (Check Verdict) :=
  planChecks request definition ++
    (documentedAuthorityChecks snapshot request ++ laterChecks snapshot request definition)

end Lists

section Engine

variable {record : DecisionRecord} {policy : TrafficPolicy} {topology : TopologyEvidence}

/-- What a refusal of the engine reports. -/
def reported (record : DecisionRecord) : Verdict :=
  (record.outcome, record.axis)

variable {snapshot : EvaluationSnapshot} {request : DecisionRequest}
variable {definition : CollectiveDefinition}

theorem checkPlan_follows (record : DecisionRecord) :
    Follows reported (checkPlan request definition record) (planChecks request definition) := by
  unfold checkPlan planChecks
  refine follows_require decide_eq_true_iff rfl fun _ => ?_
  refine follows_require Iff.rfl rfl fun _ => ?_
  cases hgroup : constructFlowGroup
      { request.plan with collectiveClass := definition.collectiveClass }
      definition.participants with
  | error status =>
    have hinvalid : (validateFlowGroupPlan request.plan definition.participants).isOk = false := by
      rw [Bool.eq_false_iff]
      intro hvalid
      obtain ⟨group, hok⟩ := (constructFlowGroup_isOk_iff
        { request.plan with collectiveClass := definition.collectiveClass }
        definition.participants).mpr hvalid
      rw [hgroup] at hok
      cases hok
    exact follows_error hinvalid rfl
  | ok group =>
    have hvalid : (validateFlowGroupPlan request.plan definition.participants).isOk = true := by
      rw [← validateFlowGroupPlan_collectiveClass request.plan definition.participants
        definition.collectiveClass]
      exact (constructFlowGroup_isOk_iff _ _).mp ⟨group, hgroup⟩
    show firstFailure [_] = none
    rw [firstFailure_cons, hvalid]
    rfl

/-- The last part of the authority chain with the check of the participants. -/
theorem applyTopologyAndLiveness_follows
    (hparticipants : record.participants = definition.participants) :
    Follows reported (applyTopologyAndLiveness snapshot request record policy)
      [ topologyObservedCheck snapshot request, topologyInstalledCheck snapshot,
        ⟨definition.participants.all fun p => !participantNotLive snapshot p,
          (.rejectedStale, .participantLiveness)⟩ ] := by
  unfold applyTopologyAndLiveness
  refine follows_require decide_eq_true_iff rfl fun _ => ?_
  simp only
  cases htopology : snapshot.topology with
  | none => exact follows_error (by simp [topologyInstalledCheck, htopology]) rfl
  | some topology =>
    refine follows_require (by simp [topologyInstalledCheck, htopology]) rfl fun _ => ?_
    refine follows_require ?_ rfl fun _ => follows_ok _ _
    rw [notLiveParticipants_eq_nil_iff, hparticipants]
    simp

theorem applyAuthorityChain_follows
    (hparticipants : record.participants = definition.participants) :
    Follows reported (applyAuthorityChain snapshot request record)
      (authorityChecks snapshot request ++
        [ ⟨definition.participants.all fun p => !participantNotLive snapshot p,
            (.rejectedStale, .participantLiveness)⟩ ]) := by
  unfold applyAuthorityChain authorityChecks
  refine follows_require decide_eq_true_iff rfl fun _ => ?_
  refine follows_require decide_eq_true_iff rfl fun _ => ?_
  simp only
  cases hpolicy : snapshot.policy with
  | none => exact follows_error (by simp [policyInstalledCheck, hpolicy]) rfl
  | some policy =>
    refine follows_require (by simp [policyInstalledCheck, hpolicy]) rfl fun _ => ?_
    refine follows_require decide_eq_true_iff rfl fun _ => ?_
    refine follows_require decide_eq_true_iff rfl fun _ => ?_
    exact applyTopologyAndLiveness_follows hparticipants

theorem checkTopology_follows (hparticipants : record.participants = definition.participants)
    (hinstalled : snapshot.topology = some topology) :
    Follows reported (checkTopology snapshot topology record)
      (membershipChecks snapshot definition).tail := by
  unfold checkTopology membershipChecks
  rw [hinstalled]
  cases hstale : topologyStaleness snapshot topology with
  | some detail => exact follows_error (by simp [hstale]) rfl
  | none =>
    have hcurrent : ∀ checks : List (Check Verdict),
        firstFailure (⟨(some topology).all fun topology =>
            (topologyStaleness snapshot topology).isNone,
          (.rejectedStale, .topologyGeneration)⟩ :: checks) = firstFailure checks := by
      intro checks
      simp [firstFailure_cons, hstale]
    rw [hparticipants]
    cases hmissing : definition.participants.find? (participantNodeMissing snapshot topology) with
    | some missing =>
      have hbad := List.find?_some hmissing
      have hmem := List.mem_of_find?_eq_some hmissing
      have hfails : ((some topology).all fun topology =>
          definition.participants.all fun p =>
            !participantNodeMissing snapshot topology p) = false := by
        simp only [Option.all_some, List.all_eq_false]
        exact ⟨missing, hmem, by simp [hbad]⟩
      show firstFailure [_, _] = some (reported _)
      rw [hcurrent, firstFailure_cons, hfails]
      rfl
    | none =>
      have hpass : ((some topology).all fun topology =>
          definition.participants.all fun p =>
            !participantNodeMissing snapshot topology p) = true := by
        simpa using hmissing
      show firstFailure [_, _] = none
      rw [hcurrent, firstFailure_cons, hpass]
      rfl

theorem checkSemantics_follows (hinstalled : snapshot.policy = some policy) :
    Follows reported (checkSemantics request definition policy record)
      (semanticsChecks snapshot request definition) := by
  unfold checkSemantics semanticsChecks
  simp only
  cases hcollective : policy.findCollective definition.collectiveClass with
  | none => exact follows_error (by simp [statedCollective, hinstalled, hcollective]) rfl
  | some collectivePolicy =>
    have hstated : statedCollective snapshot definition = some collectivePolicy := by
      simp [statedCollective, hinstalled, hcollective]
    have htreatment : statedTreatment snapshot request definition =
        (policy.findClass (selectedClass request collectivePolicy)).map fun classPolicy =>
          (policy, collectivePolicy, classPolicy) := by
      simp [statedTreatment, hinstalled, hcollective]
    rw [hstated, htreatment]
    have hpresent : ∀ (x : Except DecisionRecord (CollectiveClassPolicy × TrafficClassPolicy))
        (checks : List (Check Verdict)), Follows reported x checks →
        Follows reported x (⟨(some collectivePolicy).isSome, (.rejectedPolicy, .semantics)⟩ ::
          checks) := by
      intro x checks h
      exact h
    refine hpresent _ _ ?_
    refine follows_require Iff.rfl rfl fun _ => ?_
    refine follows_require (by simp [imp_iff_not_or]) rfl fun _ => ?_
    refine follows_require (by simp [imp_iff_not_or]) rfl fun _ => ?_
    refine follows_require (by simp) rfl fun _ => ?_
    cases hclass : policy.findClass (selectedClass request collectivePolicy) with
    | none => exact follows_error rfl rfl
    | some classPolicy => rfl

theorem checkEvidence_follows {collectivePolicy : CollectiveClassPolicy}
    {classPolicy : TrafficClassPolicy}
    (htreatment : statedTreatment snapshot request definition =
      some (policy, collectivePolicy, classPolicy)) :
    Follows reported (checkEvidence snapshot request collectivePolicy classPolicy record)
      (evidenceChecks snapshot request definition) := by
  unfold checkEvidence evidenceChecks
  rw [htreatment]
  refine follows_require (by simp [imp_iff_not_or]) rfl fun _ => ?_
  exact follows_require (by simp [imp_iff_not_or]) rfl fun _ => follows_ok _ _

/-- The checks after the authority chain, in the order the engine makes them. -/
theorem evaluateTreatment_follows (hparticipants : record.participants = definition.participants)
    (hpolicy : snapshot.policy = some policy) (htopology : snapshot.topology = some topology) :
    Follows reported (evaluateTreatment snapshot request definition policy topology record)
      ((membershipChecks snapshot definition).tail ++
        (semanticsChecks snapshot request definition ++
          (evidenceChecks snapshot request definition ++
            [floorCheck snapshot request definition]))) := by
  refine follows_bind (checkTopology_follows hparticipants htopology) fun _ _ => ?_
  refine follows_bind (checkSemantics_follows hpolicy) ?_
  rintro ⟨collectivePolicy, classPolicy⟩ hsemantics
  obtain ⟨hcollective, -, -, -, -, hclass⟩ := checkSemantics_eq_ok_iff.mp hsemantics
  have htreatment : statedTreatment snapshot request definition =
      some (policy, collectivePolicy, classPolicy) := by
    simp [statedTreatment, hpolicy, hcollective, hclass]
  refine follows_bind (checkEvidence_follows htreatment) fun _ _ => ?_
  refine follows_require ?_ rfl fun _ => follows_ok _ _
  rw [computePacing_code_eq_ok_iff]
  simp [floorCheck, htreatment]

/-- The engine follows its list of checks. -/
theorem evaluateChecks_follows (snapshot : EvaluationSnapshot) (request : DecisionRequest)
    (definition : CollectiveDefinition) :
    Follows reported (evaluateChecks snapshot request definition)
      (engineChecks snapshot request definition) := by
  refine follows_bind (checkPlan_follows _) ?_
  intro planned hplan
  obtain ⟨-, -, group, -, rfl⟩ := checkPlan_eq_ok_iff.mp hplan
  -- The chain ends with the participants, the first of the checks listed after it.
  have hlist : authorityChecks snapshot request ++ laterChecks snapshot request definition =
      (authorityChecks snapshot request ++
        [ ⟨definition.participants.all fun p => !participantNotLive snapshot p,
            (.rejectedStale, .participantLiveness)⟩ ]) ++
      ((membershipChecks snapshot definition).tail ++
        (semanticsChecks snapshot request definition ++
          (evidenceChecks snapshot request definition ++
            [floorCheck snapshot request definition]))) := by
    rfl
  rw [hlist]
  refine follows_bind (applyAuthorityChain_follows rfl) ?_
  rintro ⟨record, policy, topology⟩ hchain
  obtain ⟨-, -, hpolicy, -, -, -, -, htopology, -, -, rfl⟩ :=
    applyAuthorityChain_eq_ok_iff.mp hchain
  exact evaluateTreatment_follows rfl hpolicy htopology

/-- The engine answers with the first of its checks that fails, and grants when none does. -/
theorem evaluate_verdict (snapshot : EvaluationSnapshot) (request : DecisionRequest)
    (definition : CollectiveDefinition) :
    (evaluate snapshot request definition).verdict =
      firstFailure (engineChecks snapshot request definition) := by
  have hfollows := evaluateChecks_follows snapshot request definition
  unfold evaluate
  cases hchecks : evaluateChecks snapshot request definition with
  | error record =>
    rw [hchecks] at hfollows
    have hwithheld : outcomeGrantsAuthority record.outcome = false :=
      evaluateChecks_refuses snapshot request definition record hchecks
    have hfirst : firstFailure (engineChecks snapshot request definition) =
        some (reported record) := hfollows
    simp only [DecisionRecord.verdict, hwithheld, hfirst]
    rfl
  | ok record =>
    rw [hchecks] at hfollows
    obtain ⟨policy, topology, collectivePolicy, classPolicy, group, -, -, rfl⟩ :=
      evaluateChecks_eq_ok_iff.mp hchecks
    have hnone : firstFailure (engineChecks snapshot request definition) = none := hfollows
    rw [hnone]
    exact if_pos (granted_outcome _ _ _ _ _ _ _)

/-- None of them reports on the meaning of the collective. -/
theorem treatmentChecks_report {verdict : Verdict}
    (h : firstFailure (treatmentChecks snapshot request definition) = some verdict) :
    verdict.1 ≠ .unknownSemantics ∧ verdict.2 ≠ .semantics := by
  obtain ⟨check, hmem, -, rfl⟩ := firstFailure_eq_some h
  simp only [treatmentChecks, semanticsChecks, evidenceChecks, List.drop_succ_cons,
    List.drop_zero, List.cons_append, List.nil_append, List.mem_cons, List.not_mem_nil,
    or_false] at hmem
  rcases hmem with h | h | h | h <;> subst h <;> exact ⟨nofun, nofun⟩

/-- A request refused for capacity has a treatment whose floor is not honored. -/
theorem floor_not_honored_of_rejectedCapacity
    (h : (evaluate snapshot request definition).outcome = .rejectedCapacity) :
    ∃ policy collectivePolicy classPolicy,
      statedTreatment snapshot request definition = some (policy, collectivePolicy, classPolicy) ∧
      ¬ FloorHonored snapshot policy classPolicy collectivePolicy := by
  have hverdict := evaluate_verdict snapshot request definition
  rw [DecisionRecord.verdict, h] at hverdict
  obtain ⟨check, hmem, hfails, hreport⟩ := firstFailure_eq_some hverdict.symm
  -- No other check reports a lack of capacity.
  have hfloor : check = floorCheck snapshot request definition := by
    simp only [engineChecks, planChecks, authorityChecks, laterChecks, membershipChecks,
      semanticsChecks, evidenceChecks, List.cons_append, List.nil_append, List.mem_cons,
      List.not_mem_nil, or_false] at hmem
    rcases hmem with h | h | h | h | h | h | h | h | h | h | h | h | h | h | h | h | h | h | h | h |
        h | h <;> subst h <;> first | rfl | cases hreport
  rw [hfloor] at hfails
  cases htreatment : statedTreatment snapshot request definition with
  | none => simp [floorCheck, htreatment] at hfails
  | some treatment =>
    obtain ⟨policy, collectivePolicy, classPolicy⟩ := treatment
    refine ⟨policy, collectivePolicy, classPolicy, rfl, ?_⟩
    simpa [floorCheck, htreatment] using hfails

end Engine

section Documented

variable (snapshot : EvaluationSnapshot) (request : DecisionRequest)
variable (definition : CollectiveDefinition)

/-- The checks both orders begin with. -/
def openingChecks : List (Check Verdict) :=
  planChecks request definition ++
    [epochCheck snapshot request, policyObservedCheck snapshot request]

/-- What the engine checks after the opening. -/
def engineRest : List (Check Verdict) :=
  (authorityChecks snapshot request).drop 2 ++ laterChecks snapshot request definition

/-- What the documented order checks after the opening. -/
def documentedRest : List (Check Verdict) :=
  (documentedAuthorityChecks snapshot request).drop 2 ++ laterChecks snapshot request definition

/--
The first outdated generation among topology, capacity and congestion is the
one the engine reports: a policy is installed, the engine compares that
generation, and no comparison it makes earlier fails.
-/
def ComparedInOrder : Prop :=
  if (topologyObservedCheck snapshot request).holds = false then
    (policyInstalledCheck snapshot).holds = true ∧
      (capacityComparedCheck snapshot request).holds = true ∧
      (congestionComparedCheck snapshot request).holds = true
  else if (capacityObservedCheck snapshot request).holds = false then
    (policyInstalledCheck snapshot).holds = true ∧
      (capacityComparedCheck snapshot request).holds = false
  else if (congestionObservedCheck snapshot request).holds = false then
    (policyInstalledCheck snapshot).holds = true ∧
      (congestionComparedCheck snapshot request).holds = false
  else
    True

variable {snapshot : EvaluationSnapshot} {request : DecisionRequest}
variable {definition : CollectiveDefinition}

/-- An observed generation that is current passes the guarded comparison as well. -/
theorem capacityCompared_of_observed (h : (capacityObservedCheck snapshot request).holds = true) :
    (capacityComparedCheck snapshot request).holds = true := by
  have hcurrent := of_decide_eq_true h
  exact decide_eq_true fun _ _ => hcurrent

theorem congestionCompared_of_observed
    (h : (congestionObservedCheck snapshot request).holds = true) :
    (congestionComparedCheck snapshot request).holds = true := by
  have hcurrent := of_decide_eq_true h
  exact decide_eq_true fun _ _ => hcurrent

/-- No later check reports an observed generation of capacity or congestion. -/
theorem laterChecks_report {verdict : Verdict}
    (h : firstFailure (laterChecks snapshot request definition) = some verdict) :
    verdict ≠ (.rejectedStale, .capacityEvidence) ∧
      verdict ≠ (.rejectedStale, .congestionEvidence) := by
  obtain ⟨check, hmem, -, rfl⟩ := firstFailure_eq_some h
  simp only [laterChecks, membershipChecks, semanticsChecks, evidenceChecks, floorCheck,
    List.cons_append, List.nil_append, List.mem_cons, List.not_mem_nil, or_false] at hmem
  rcases hmem with h | h | h | h | h | h | h | h | h | h | h | h <;> subst h <;> simp

/-- After the opening the two orders agree exactly when the comparisons are made in order. -/
theorem firstFailure_rest_iff (snapshot : EvaluationSnapshot) (request : DecisionRequest)
    (definition : CollectiveDefinition) :
    firstFailure (engineRest snapshot request definition) =
        firstFailure (documentedRest snapshot request definition) ↔
      ComparedInOrder snapshot request := by
  have hlater : ∀ verdict,
      firstFailure (laterChecks snapshot request definition) = some verdict →
      verdict ≠ (.rejectedStale, .capacityEvidence) ∧
        verdict ≠ (.rejectedStale, .congestionEvidence) :=
    fun _ => laterChecks_report
  have hcapacity := @capacityCompared_of_observed snapshot request
  have hcongestion := @congestionCompared_of_observed snapshot request
  simp only [engineRest, documentedRest, authorityChecks, documentedAuthorityChecks,
    List.drop_succ_cons, List.drop_zero, List.cons_append, List.nil_append, firstFailure_cons,
    ComparedInOrder]
  generalize firstFailure (laterChecks snapshot request definition) = later at hlater
  generalize hT : (topologyObservedCheck snapshot request).holds = topologyObserved
  generalize hC : (capacityObservedCheck snapshot request).holds = capacityObserved at hcapacity
  generalize hG :
    (congestionObservedCheck snapshot request).holds = congestionObserved at hcongestion
  generalize (capacityComparedCheck snapshot request).holds = capacityCompared at hcapacity
  generalize (congestionComparedCheck snapshot request).holds = congestionCompared at hcongestion
  generalize (policyInstalledCheck snapshot).holds = policyInstalled
  generalize (topologyInstalledCheck snapshot).holds = topologyInstalled
  -- The cases follow the documented order: which observed generation is outdated first.
  cases topologyObserved with
  | false =>
    cases policyInstalled <;> cases capacityCompared <;> cases congestionCompared <;>
      simp [topologyObservedCheck, capacityComparedCheck, congestionComparedCheck,
        policyInstalledCheck]
  | true =>
    cases capacityObserved with
    | false =>
      cases policyInstalled <;> cases capacityCompared <;> cases congestionCompared <;>
        cases topologyInstalled <;> cases later <;>
        simp_all [topologyInstalledCheck, capacityObservedCheck, capacityComparedCheck,
          congestionComparedCheck, policyInstalledCheck]
    | true =>
      obtain rfl := hcapacity rfl
      cases congestionObserved with
      | false =>
        cases policyInstalled <;> cases congestionCompared <;>
          cases topologyInstalled <;> cases later <;>
          simp_all [topologyInstalledCheck, congestionObservedCheck,
            congestionComparedCheck, policyInstalledCheck]
      | true =>
        obtain rfl := hcongestion rfl
        simp

/--
The answer of the engine is the one of the documented order exactly when the
request fails in the opening checks already, or the observed generations are
compared in order.
-/
theorem evaluate_documented_order_iff (snapshot : EvaluationSnapshot) (request : DecisionRequest)
    (definition : CollectiveDefinition) :
    (evaluate snapshot request definition).verdict =
        firstFailure (documentedChecks snapshot request definition) ↔
      ((∀ check ∈ openingChecks snapshot request definition, check.holds = true) →
        ComparedInOrder snapshot request) := by
  have hengine : engineChecks snapshot request definition =
      openingChecks snapshot request definition ++ engineRest snapshot request definition := by
    rfl
  have hdocumented : documentedChecks snapshot request definition =
      openingChecks snapshot request definition ++ documentedRest snapshot request definition := by
    rfl
  rw [evaluate_verdict, hengine, hdocumented, firstFailure_append, firstFailure_append,
    ← firstFailure_eq_none_iff, ← firstFailure_rest_iff snapshot request definition]
  cases firstFailure (openingChecks snapshot request definition) <;> simp

end Documented

namespace OutdatedTwice

/-- A snapshot with an installed capacity observation. -/
def snapshot : EvaluationSnapshot :=
  Settled.snapshot (TrafficPolicy.standard ⟨5, 0⟩) ⟨6, 0⟩
    (some { generation := ⟨7, 0⟩, topologyGeneration := ⟨6, 0⟩ })
    (some (Settled.quiet ⟨6, 0⟩))

/-- A request that names an outdated topology and an outdated capacity generation. -/
def request : DecisionRequest :=
  { Settled.request none with
    observedTopologyGeneration := ⟨60, 0⟩
    observedCapacityGeneration := ⟨70, 0⟩ }

end OutdatedTwice

open OutdatedTwice in
/-- The documented order reports the topology, the engine the capacity. -/
theorem evaluate_reports_capacity_before_topology :
    (evaluate snapshot request (Settled.definition .allReduce)).verdict =
        some (.rejectedStale, .capacityEvidence) ∧
      firstFailure (documentedChecks snapshot request (Settled.definition .allReduce)) =
        some (.rejectedStale, .topologyGeneration) := by
  decide

end TrafficFabric
