import TrafficFabric.Explained
import TrafficFabric.Brevity

/-!
# The size of a decision

A decision carries the flow group of its plan and the participants of its
collective, whatever its outcome: the group is attached before the authority
chain is walked, and no later check takes it off again.  Only a refusal by the
lifecycle, or of the plan itself, is without one.

What an encoded decision takes is therefore known from the request and the
collective up to its reasons.  These are the reasons of the evaluation on the
state before the request, with those of admission where the plan is granted.
-/

namespace TrafficFabric

open Lib CoordinatorService AdmissionController

/-- A decision about the group and the participants. -/
structure DecisionRecord.Carries
    (group : FlowGroup) (participants : List ParticipantId) (decision : DecisionRecord) :
    Prop where
  group : decision.group = group
  participants : decision.participants = participants

section Engine

variable {record : DecisionRecord} {group : FlowGroup} {participants : List ParticipantId}

variable {snapshot : EvaluationSnapshot} {request : DecisionRequest}
variable {definition : CollectiveDefinition}

/-- A refusal adds reasons and leaves the rest of the record. -/
theorem Refusal.carries {refusal : DecisionRecord}
    (h : Refusal snapshot request definition record refusal)
    (hbase : record.Carries group participants) : refusal.Carries group participants := by
  cases h <;> exact ⟨hbase.group, hbase.participants⟩

theorem StageReached.carries {planned : DecisionRecord}
    (h : StageReached snapshot request planned record)
    (hplanned : planned.Carries group participants) : record.Carries group participants := by
  cases h <;> exact ⟨hplanned.group, hplanned.participants⟩

variable (snapshot request definition)

/-- The endpoints of the edges of a plan, each of them once. -/
def FlowGroupPlan.endpoints (plan : FlowGroupPlan) : List ParticipantId :=
  canonicalizeParticipants
    ((sortEdges plan.edges).flatMap (fun edge => [edge.source, edge.destination]))

/-- What the group of a plan takes in a decision: nothing where the plan does not validate. -/
def groupBytes (request : DecisionRequest) (members : List ParticipantId) : Nat :=
  if request.hasFlowGroupPlan = true ∧
      (validateFlowGroupPlan request.plan members).isOk = true then
    50 * request.plan.edges.length + 16 * request.plan.endpoints.length
  else
    0

/-- The group has the edges of the plan and their endpoints. -/
theorem constructFlowGroup_bytes {plan : FlowGroupPlan} {allowed : List ParticipantId}
    (h : constructFlowGroup plan allowed = .ok group) :
    group.bytes = 50 * plan.edges.length + 16 * plan.endpoints.length := by
  unfold constructFlowGroup at h
  simp only at h
  split at h
  · cases h
  · cases h
    simp only [FlowGroup.bytes, FlowGroupPlan.endpoints, sortEdges, List.length_insertionSort]

/-- An evaluation carries the group of the plan where that validates, and the participants. -/
theorem evaluate_carries
    (hgeneration : request.collectiveInstance.generation = definition.generation) :
    ∃ group, (evaluate snapshot request definition).Carries group definition.participants ∧
      group.bytes = groupBytes request definition.participants ∧
      (group = {} ∨ constructFlowGroup
        { request.plan with collectiveClass := definition.collectiveClass }
        definition.participants = .ok group) := by
  have hbytes : ∀ {group}, request.hasFlowGroupPlan = true →
      constructFlowGroup { request.plan with collectiveClass := definition.collectiveClass }
        definition.participants = .ok group →
      group.bytes = groupBytes request definition.participants := by
    intro group hhas hgroup
    have hvalid := (constructFlowGroup_isOk_iff _ _).mp ⟨group, hgroup⟩
    rw [groupBytes, if_pos ⟨hhas, hvalid⟩, constructFlowGroup_bytes hgroup]
    rfl
  unfold evaluate
  cases hchecks : evaluateChecks snapshot request definition with
  | error refusal =>
    cases evaluateChecks_refusal snapshot request definition refusal hchecks with
    | early failed refuses =>
      refine ⟨{}, refuses.carries ⟨rfl, rfl⟩, ?_, .inl rfl⟩
      rw [groupBytes, if_neg]
      · rfl
      rintro ⟨hhas, hvalid⟩
      obtain ⟨group, hgroup⟩ := (constructFlowGroup_isOk_iff
        { request.plan with collectiveClass := definition.collectiveClass }
        definition.participants).mpr hvalid
      cases failed.symm.trans (checkPlan_eq_ok_iff.mpr ⟨hgeneration, hhas, group, hgroup, rfl⟩)
    | late passed reached refuses =>
      obtain ⟨-, hhas, group, hgroup, rfl⟩ := checkPlan_eq_ok_iff.mp passed
      exact ⟨group, refuses.carries (reached.carries ⟨rfl, rfl⟩),
        hbytes hhas hgroup, .inr hgroup⟩
  | ok grant =>
    obtain ⟨policy, topology, collectivePolicy, classPolicy, group, hgrant, hgroup, rfl⟩ :=
      evaluateChecks_eq_ok_iff.mp hchecks
    exact ⟨group, ⟨rfl, rfl⟩, hbytes hgrant.planned hgroup, .inr hgroup⟩

end Engine

section Service

variable (service : CoordinatorService) (context : ServiceRequestContext)
variable {decision : DecisionRecord} {group : FlowGroup} {participants : List ParticipantId}
variable {request : DecisionRequest}

theorem applyAdmission_carries (result : AdmissionResult) (now : UInt64)
    (counters : ServiceCounters) (h : decision.Carries group participants) :
    (applyAdmission result now decision counters).1.Carries group participants := by
  unfold applyAdmission
  cases result.outcome <;> exact ⟨h.group, h.participants⟩

theorem applyAdmission_reasons (result : AdmissionResult) (now : UInt64)
    (decision : DecisionRecord) (counters : ServiceCounters) :
    (applyAdmission result now decision counters).1.reasons =
      result.reasons.foldl ReasonChain.addReason decision.reasons := by
  unfold applyAdmission
  cases result.outcome <;> rfl

/-- The reasons of an evaluation, with those of admission where it grants. -/
def settledReasons (request : DecisionRequest) (record : CollectiveRecord) : ReasonChain :=
  let decision := evaluatedDecision service context request record
  if outcomeGrantsAuthority decision.outcome then
    (service.admission.admitDecision decision context.nowMonotonicMs).1.reasons.foldl
      ReasonChain.addReason decision.reasons
  else
    decision.reasons

/-- The activation of a grant does not fail after the lifecycle check. -/
theorem settleDecision_carries {record : CollectiveRecord}
    (hlifecycle : service.lifecycleCheck context request = .ok record)
    (h : (evaluatedDecision service context request record).Carries group participants) :
    (service.settleDecision context request record).1.Carries group participants ∧
      (service.settleDecision context request record).1.reasons =
        settledReasons service context request record := by
  have hstored : ¬ (service.catalog.setState
      (evaluatedDecision service context request record).collectiveInstance.id .active
      context.nowMonotonicMs).1.isOk = false :=
    ne_false_of_eq_true (setState_active_isOk hlifecycle context.nowMonotonicMs)
  rw [settleDecision_eq, settledReasons]
  simp only
  split
  · simp only [releaseGrant, if_neg hstored]
    exact ⟨applyAdmission_carries _ _ _ h, applyAdmission_reasons _ _ _ _⟩
  · exact ⟨h, rfl⟩

/-- The request reaches a decision, and is not answered by an error. -/
def PlanDecided (request : DecisionRequest) : Prop :=
  (service.checkPlanContext context).isOk = true ∧ (validateDecisionRequest request).isOk = true

instance (request : DecisionRequest) : Decidable (PlanDecided service context request) :=
  inferInstanceAs (Decidable (_ ∧ _))

/-- The size of the decision on a request, without its reasons. -/
def decisionBytes (request : DecisionRequest) : Nat :=
  match service.lifecycleCheck context request with
  | .error _ => 456
  | .ok record =>
    let members := record.definition.participants
    456 + groupBytes request members + 16 * members.length

/-- The reasons of the decision on a request, as the state before it gives them. -/
def planReasons (request : DecisionRequest) : ReasonChain :=
  match service.lifecycleCheck context request with
  | .error refusal => refusal.reasons
  | .ok record => settledReasons service context request record

theorem lifecycleCheck_carries (request : DecisionRequest) :
    Refuses (DecisionRecord.Carries {} []) (service.lifecycleCheck context request) := by
  intro refusal hrefused
  exact ⟨(lifecycleCheck_refuses service context request refusal hrefused).bare.1,
    (lifecycleCheck_refuses service context request refusal hrefused).bare.2⟩

/-- The decision on a request has the size that the request and the state before give it. -/
theorem planFlowGroup_bytes (h : PlanDecided service context request) :
    ∃ decision,
      (service.planFlowGroup context request).1.isOk = true ∧
      (service.planFlowGroup context request).2.1 = some decision ∧
      decision.reasons = planReasons service context request ∧ decision.reasons.Explains ∧
      decision.bytes = decisionBytes service context request + decision.reasons.bytes := by
  obtain ⟨hchecked, hvalidated⟩ := h
  have hchecked' : ¬ (service.checkPlanContext context).isOk = false := by simp [hchecked]
  have hvalidated' : ¬ (validateDecisionRequest request).isOk = false := by simp [hvalidated]
  unfold planFlowGroup decisionBytes planReasons
  simp only
  rw [if_neg hchecked', if_neg hvalidated']
  cases hlifecycle : service.lifecycleCheck context request with
  | error refusal =>
    have hcarries := lifecycleCheck_carries service context request refusal hlifecycle
    refine ⟨refusal, rfl, rfl, rfl, (lifecycleCheck_explained refusal hlifecycle).reasons, ?_⟩
    simp [DecisionRecord.bytes, FlowGroup.bytes, hcarries.group, hcarries.participants]
  | ok record =>
    obtain ⟨hparticipants, hgeneration, -⟩ := effectiveDefinition_same record
    have hcurrent := (lifecycleCheck_eq_ok_iff.mp hlifecycle).2.1
    obtain ⟨group, hevaluated, hbytes, -⟩ := evaluate_carries
      (service.authority.snapshot context.nowMonotonicMs) request
      (effectiveDefinition record) (hcurrent.symm.trans hgeneration.symm)
    obtain ⟨hcarries, hreasons⟩ := settleDecision_carries service context hlifecycle
      ⟨hevaluated.group, hevaluated.participants⟩
    refine ⟨_, rfl, rfl, hreasons, (settleDecision_explained record).reasons, ?_⟩
    rw [DecisionRecord.bytes, hcarries.group, hcarries.participants, hbytes, hparticipants]

/-- A request that does not reach a decision is refused with a short message. -/
theorem planFlowGroup_refused (h : ¬ PlanDecided service context request) :
    (service.planFlowGroup context request).1.isOk = false ∧
      (service.planFlowGroup context request).1.Brief := by
  unfold planFlowGroup
  simp only
  split
  · rename_i hchecked
    exact ⟨hchecked, checkPlanContext_brief service context⟩
  · rename_i hchecked
    split
    · rename_i hvalidated
      exact ⟨hvalidated, validateDecisionRequest_brief request⟩
    · rename_i hvalidated
      exact absurd ⟨by simpa using hchecked, by simpa using hvalidated⟩ h

end Service

end TrafficFabric
