import TrafficFabric.DecisionCounters
import TrafficFabric.RejectedPlans

/-!
# What the buckets are held for

A full table turns a plan away, and it is full only when as many other groups
hold buckets as the limit allows.  A bucket is made for a plan of a current
attempt, but nothing gives it back when that attempt ends: only a stop clears
the table.

The groups are followed with the instance their last standing plan was for.  As
long as no operation names a collective that a bucket is held for, and none
replaces the catalog, every bucket is held for a current attempt.
-/

namespace TrafficFabric

open Lib

section Codes

/-- The decision does not report a full table. -/
def SparesTable (decision : DecisionRecord) : Prop :=
  decision.code ≠ .admissionBucketCapacity

theorem validateEdges_code (allowed : List ParticipantId) (seen : List UInt64)
    (edges : List FlowEdge) :
    (validateEdges allowed seen edges).code ≠ .admissionBucketCapacity := by
  induction edges generalizing seen with
  | nil => exact nofun
  | cons _ _ ih =>
    unfold validateEdges
    split_ifs
    all_goals first | exact ih _ | decide

theorem validateFlowGroupPlan_code (plan : FlowGroupPlan) (allowed : List ParticipantId) :
    (validateFlowGroupPlan plan allowed).code ≠ .admissionBucketCapacity := by
  unfold validateFlowGroupPlan
  split_ifs
  all_goals first | exact validateEdges_code _ _ _ | decide

theorem computePacing_code (snapshot : EvaluationSnapshot) (policy : TrafficPolicy)
    (classPolicy : TrafficClassPolicy) (collectivePolicy : CollectiveClassPolicy) :
    (computePacing snapshot policy classPolicy collectivePolicy).code ≠
      .admissionBucketCapacity := by
  simp only [computePacing, apply_ite PacingComputation.code]
  split_ifs <;> exact nofun

variable (snapshot : EvaluationSnapshot) (request : DecisionRequest)
variable (definition : CollectiveDefinition)

/-- No refusal of the engine reports a full table. -/
theorem evaluateChecks_code : Refuses SparesTable (evaluateChecks snapshot request definition) := by
  intro refusal hrefused
  obtain ⟨base, hrefusal⟩ :=
    (evaluateChecks_refusal snapshot request definition refusal hrefused).refuses
  cases hrefusal with
  | stated _ _ named => exact named.2.2.2.2.1
  | plan status _ invalid =>
    unfold constructFlowGroup at invalid
    simp only at invalid
    split at invalid
    · cases invalid
      exact validateFlowGroupPlan_code _ _
    · cases invalid
  | rate _ _ _ _ _ => exact computePacing_code _ _ _ _
  | _ => exact nofun

theorem evaluate_code : SparesTable (evaluate snapshot request definition) := by
  unfold evaluate
  cases hchecks : evaluateChecks snapshot request definition with
  | error record => exact evaluateChecks_code snapshot request definition record hchecks
  | ok record =>
    obtain ⟨policy, topology, collectivePolicy, classPolicy, group, -, -, rfl⟩ :=
      evaluateChecks_eq_ok_iff.mp hchecks
    exact nofun

end Codes

section Admission

variable {controller : AdmissionController} {decision : DecisionRecord} {now : UInt64}

/-- Admission touches the bucket of the decision's group at most. -/
theorem admitDecision_find_of_ne {group : FlowGroupId} (hne : group ≠ decision.flowGroup) :
    (controller.admitDecision decision now).2.buckets.find group =
      controller.buckets.find group := by
  unfold AdmissionController.admitDecision
  split_ifs
  · rfl
  · rfl
  · rfl
  · rfl
  · simp only [AdmissionController.draw]
    split
    · rfl
    · exact KeyMap.find_assign_of_ne _ _ hne

/-- A full table is left as it is. -/
theorem admitDecision_of_full
    (h : (controller.admitDecision decision now).1.outcome = .bucketTableFull) :
    (controller.admitDecision decision now).2 = controller := by
  have hanswer : controller.answerTo ⟨decision, now⟩ = .bucketTableFull := h
  obtain ⟨hdraws, hnone, hfull⟩ := answerTo_full_iff.mp hanswer
  rw [show controller.admitDecision decision now = controller.draw decision now from
    admitDecision_of_draws hdraws]
  simp only [AdmissionController.draw]
  exact congrArg Prod.snd (if_pos ⟨hnone, hfull⟩)

theorem applyAdmission_flowGroup (result : AdmissionResult) (now : UInt64)
    (decision : DecisionRecord) (counters : ServiceCounters) :
    (CoordinatorService.applyAdmission result now decision counters).1.flowGroup =
      decision.flowGroup := by
  unfold CoordinatorService.applyAdmission
  split <;> rfl

/-- Only a full table makes admission report one. -/
theorem applyAdmission_code {result : AdmissionResult} {counters : ServiceCounters}
    (hroom : result.outcome ≠ .bucketTableFull) (h : SparesTable decision) :
    SparesTable (CoordinatorService.applyAdmission result now decision counters).1 := by
  unfold CoordinatorService.applyAdmission
  cases hanswer : result.outcome with
  | granted => exact h
  | notApplicable => exact h
  | rateLimited => exact nofun
  | clockRegression => exact nofun
  | bucketTableFull => exact absurd hanswer hroom

end Admission

section Plans

variable (s : CoordinatorService) (context : ServiceRequestContext) (request : DecisionRequest)

/-- What a plan does to the table: nothing, unless it stands, and then only for its group. -/
inductive PlanBuckets : Prop
  | refused
      (returned : (s.planFlowGroup context request).2.1 = none)
      (admission : (s.planFlowGroup context request).2.2.admission = s.admission)
  | turnedDown (decision : DecisionRecord)
      (returned : (s.planFlowGroup context request).2.1 = some decision)
      (outcome : decision.outcome.turnsDown = true)
      (admission : (s.planFlowGroup context request).2.2.admission = s.admission)
      (code : decision.code = .admissionBucketCapacity →
        s.admission.buckets.find decision.flowGroup = none ∧ s.admission.Full)
  | stands (decision : DecisionRecord)
      (returned : (s.planFlowGroup context request).2.1 = some decision)
      (outcome : decision.outcome.turnsDown = false)
      (current : s.PlansCurrent request)
      (others : ∀ group, group ≠ decision.flowGroup →
        (s.planFlowGroup context request).2.2.admission.buckets.find group =
          s.admission.buckets.find group)
      (code : SparesTable decision)

theorem planFlowGroup_granted_buckets {record : CollectiveRecord}
    (h : s.grants context request record) : PlanBuckets s context request := by
  obtain ⟨-, hdecision, hadmission⟩ := planFlowGroup_of_grants h
  have hgranted : outcomeGrantsAuthority (planCall s context request record).decision.outcome =
    true := h.2.2.2
  by_cases hfull : (s.admission.admitDecision (planCall s context request record).decision
      context.nowMonotonicMs).1.outcome = .bucketTableFull
  · refine .turnedDown _ hdecision ((turnsDown_applyAdmission_iff hgranted _ _).mpr hfull)
      (hadmission.trans (admitDecision_of_full hfull)) fun _ => ?_
    rw [applyAdmission_flowGroup]
    exact (answerTo_full_iff.mp hfull).2
  · refine .stands _ hdecision ?_ (plansCurrent_of_ok h.2.2.1) ?_ ?_
    · exact Bool.eq_false_iff.mpr fun hdown =>
        hfull ((turnsDown_applyAdmission_iff hgranted _ _).mp hdown)
    · intro group hne
      rw [applyAdmission_flowGroup] at hne
      rw [hadmission]
      exact admitDecision_find_of_ne hne
    · exact applyAdmission_code hfull (evaluate_code _ _ _)

theorem planFlowGroup_buckets : PlanBuckets s context request := by
  cases planFlowGroup_result s context request with
  | refused status _ _ result => exact .refused (by rw [result]) (by rw [result])
  | stale decision accepts lifecycle result =>
    refine .turnedDown decision (by rw [result]) ?_ (by rw [result]) ?_
    · rw [(lifecycleCheck_refuses s context request decision lifecycle).outcome]
      rfl
    · exact fun hcode => absurd hcode
        (lifecycleCheck_refuses s context request decision lifecycle).code.2
  | settled record accepts lifecycle result =>
    by_cases hgrants :
        outcomeGrantsAuthority (evaluatedDecision s context request record).outcome = true
    · exact planFlowGroup_granted_buckets s context request
        ⟨accepts.1, accepts.2, lifecycle, hgrants⟩
    · have hsettled := settleDecision_eq s context request record
      simp only [if_neg hgrants] at hsettled
      rw [hsettled] at result
      refine .turnedDown _ (by rw [result]) ?_ (by rw [result]; rfl) ?_
      · have hdown := evaluate_turnsDown (Bool.not_eq_true _ ▸ hgrants)
        rcases hdown with hrejection | hreplan
        · exact Bool.or_eq_true_iff.mpr (.inl hrejection)
        · exact Bool.or_eq_true_iff.mpr (.inr (beq_iff_eq.mpr hreplan))
      · exact fun hcode => absurd hcode (evaluate_code _ _ _)

/-- A plan leaves every current attempt current. -/
theorem isCurrent_planned {s : CoordinatorService} {collectiveInstance : CollectiveInstance}
    (h : s.IsCurrent collectiveInstance) (context : ServiceRequestContext)
    (request : DecisionRequest) :
    (serviceStep s (.planFlowGroup context request)).IsCurrent collectiveInstance := by
  obtain ⟨record, hfind, hgeneration, hset, hattempt, hopen⟩ := h
  by_cases hgrants : ∃ record, s.grants context request record
  · obtain ⟨planned, hplanned⟩ := hgrants
    have hstores := planFlowGroup_stores hplanned collectiveInstance.id
    split at hstores
    · rename_i hsame
      have hfound := (lifecycleCheck_eq_ok_iff.mp hplanned.2.2.1).1
      rw [← hsame, hfind] at hfound
      cases hfound
      exact ⟨_, hstores, hgeneration, hset, hattempt, rfl⟩
    · exact ⟨record, hstores.trans hfind, hgeneration, hset, hattempt, hopen⟩
  · have hkept := keepsRecords_of_not_grants (fun record hrecord => hgrants ⟨record, hrecord⟩)
      collectiveInstance.id
    exact ⟨record, hkept.trans hfind, hgeneration, hset, hattempt, hopen⟩

end Plans

section Held

variable {s : CoordinatorService} {op : ServiceOp} {id : CollectiveId}

/-- The operation names the collective to register, attempt or end it, or replaces the catalog. -/
def ServiceOp.Disturbs (id : CollectiveId) : ServiceOp → Prop
  | .restore _ _ _ => True
  | .registerCollective _ definition => definition.id = id
  | .beginAttempt _ other _ _ _ => other = id
  | .cancelCollective _ other _ _ _ => other = id
  | .retireCollective _ other _ _ _ => other = id
  | _ => False

theorem endTrace_touches {state : CollectiveState} {context : ServiceRequestContext}
    {other : CollectiveId} {generation : CollectiveGeneration} {attempt : CollectiveAttemptId}
    {action : CatalogOp} (hmem : action ∈ endTrace s state context other generation attempt)
    (htouches : action.Touches id) : other = id := by
  unfold endTrace at hmem
  split at hmem
  · cases hmem
  · split_ifs at hmem
    · cases List.mem_singleton.mp hmem
      exact htouches
    · cases hmem

/-- Apart from a plan, only an operation that disturbs a collective touches its record. -/
theorem disturbs_of_touches (hplan : ∀ context request, op ≠ .planFlowGroup context request)
    {action : CatalogOp} (hmem : action ∈ catalogTrace s op) (htouches : action.Touches id) :
    op.Disturbs id := by
  cases op with
  | restore path contents now => trivial
  | registerCollective =>
    simp only [catalogTrace] at hmem
    split_ifs at hmem
    · cases List.mem_singleton.mp hmem
      exact htouches
    · cases hmem
  | beginAttempt context other generation attempt bytes =>
    simp only [catalogTrace] at hmem
    split at hmem
    · cases hmem
    · split_ifs at hmem
      · rw [List.mem_cons, List.mem_singleton] at hmem
        rcases hmem with rfl | rfl <;> exact htouches
      · cases hmem
  | cancelCollective | retireCollective =>
    exact endTrace_touches hmem htouches
  | planFlowGroup context request => exact absurd rfl (hplan context request)
  | _ => cases hmem

/-- A collective that is not disturbed keeps its record. -/
theorem serviceStep_find_of_not_disturbs
    (hplan : ∀ context request, op ≠ .planFlowGroup context request) (h : ¬ op.Disturbs id) :
    (serviceStep s op).catalog.find id = s.catalog.find id := by
  rw [serviceStep_simulates_catalog s op]
  have hstep : ∀ (catalog : CollectiveCatalog) action, ¬ action.Touches id →
      catalog.find id = s.catalog.find id →
        (catalogStep catalog action).find id = s.catalog.find id :=
    fun _ _ hspared hfind => (catalogStep_find_of_not_touches hspared).trans hfind
  have hspared : ∀ action ∈ catalogTrace s op, ¬ action.Touches id :=
    fun action hmem htouches => h (disturbs_of_touches hplan hmem htouches)
  exact (along_of_forall _ hspared).invariant hstep rfl

/-- The instance the last standing plan of each group was for. -/
abbrev Holders := KeyMap FlowGroupId CollectiveInstance

/-- A plan that stands holds its group for its instance. -/
def holdersAfter (s : CoordinatorService) (context : ServiceRequestContext)
    (request : DecisionRequest) (holders : Holders) : Holders :=
  match (s.planFlowGroup context request).2.1 with
  | none => holders
  | some decision =>
    if decision.outcome.turnsDown then holders
    else holders.assign decision.flowGroup request.collectiveInstance

/-- The service with what its groups are held for; a stop gives all of them back. -/
def heldStep (held : CoordinatorService × Holders) (op : ServiceOp) :
    CoordinatorService × Holders :=
  (serviceStep held.1 op,
    match op with
    | .planFlowGroup context request => holdersAfter held.1 context request held.2
    | .stop _ => if held.1.running then ∅ else held.2
    | _ => held.2)

theorem heldStep_service (held : CoordinatorService × Holders) (op : ServiceOp) :
    (heldStep held op).1 = serviceStep held.1 op := by
  rfl

/-- Every group with a bucket is held for a current attempt. -/
def HeldByCurrent (held : CoordinatorService × Holders) : Prop :=
  ∀ group, held.1.admission.buckets.find group ≠ none →
    ∃ collectiveInstance, held.2.find group = some collectiveInstance ∧
      held.1.IsCurrent collectiveInstance

/-- No collective that a bucket is held for is disturbed. -/
def SparesHolders (held : CoordinatorService × Holders) (op : ServiceOp) : Prop :=
  ∀ group collectiveInstance, held.1.admission.buckets.find group ≠ none →
    held.2.find group = some collectiveInstance → ¬ op.Disturbs collectiveInstance.id

theorem heldByCurrent_plan {holders : Holders} (h : HeldByCurrent (s, holders))
    (context : ServiceRequestContext) (request : DecisionRequest) :
    HeldByCurrent (heldStep (s, holders) (.planFlowGroup context request)) := by
  intro group hbucket
  simp only [heldStep, holdersAfter] at hbucket ⊢
  have hkept : s.admission.buckets.find group ≠ none →
      ∃ collectiveInstance, holders.find group = some collectiveInstance ∧
        (serviceStep s (.planFlowGroup context request)).IsCurrent collectiveInstance := by
    intro hheld
    obtain ⟨collectiveInstance, hholder, hcurrent⟩ := h group hheld
    exact ⟨collectiveInstance, hholder, isCurrent_planned hcurrent context request⟩
  cases planFlowGroup_buckets s context request with
  | refused returned admission =>
    rw [returned]
    exact hkept (admission ▸ hbucket)
  | turnedDown decision returned outcome admission _ =>
    rw [returned]
    simp only [outcome, if_true]
    exact hkept (admission ▸ hbucket)
  | stands decision returned outcome current others _ =>
    rw [returned]
    simp only [outcome, Bool.false_eq_true, if_false]
    by_cases hgroup : group = decision.flowGroup
    · subst hgroup
      exact ⟨request.collectiveInstance, KeyMap.find_assign_self _ _ _,
        isCurrent_planned current context request⟩
    · rw [KeyMap.find_assign_of_ne _ _ hgroup]
      exact hkept (others group hgroup ▸ hbucket)

theorem stop_clears_buckets (h : s.StopsBy op) (group : FlowGroupId) :
    (serviceStep s op).admission.buckets.find group = none := by
  obtain ⟨now, rfl, hrunning⟩ := h
  simp [serviceStep, CoordinatorService.stop, hrunning, AdmissionController.clear]

/-- Apart from plans and stops, an operation leaves the buckets and what they are held for. -/
theorem heldStep_other {holders : Holders}
    (hplan : ∀ context request, op ≠ .planFlowGroup context request) (hstop : ¬ s.StopsBy op) :
    (heldStep (s, holders) op).1.admission = s.admission ∧
      (heldStep (s, holders) op).2 = holders := by
  constructor
  · cases serviceStep_tableChange s hplan with
    | kept admission _ _ => exact admission
    | reset _ admission _ _ => exact admission
    | cleared stops _ _ _ => exact absurd stops hstop
    | resized _ admission _ _ => exact admission
  · cases op with
    | stop now => refine if_neg fun hrunning => hstop ⟨now, rfl, hrunning⟩
    | planFlowGroup context request => exact absurd rfl (hplan context request)
    | _ => rfl

/-- An operation that spares what the buckets are held for leaves them held. -/
theorem heldByCurrent_step (held : CoordinatorService × Holders) (op : ServiceOp)
    (hspares : SparesHolders held op) (h : HeldByCurrent held) :
    HeldByCurrent (heldStep held op) := by
  obtain ⟨s, holders⟩ := held
  by_cases hplan : ∃ context request, op = .planFlowGroup context request
  · obtain ⟨context, request, rfl⟩ := hplan
    exact heldByCurrent_plan h context request
  · have hother : ∀ context request, op ≠ .planFlowGroup context request :=
      fun context request hop => hplan ⟨context, request, hop⟩
    intro group hbucket
    by_cases hstop : s.StopsBy op
    · exact absurd (stop_clears_buckets hstop group) hbucket
    · obtain ⟨hadmission, hholders⟩ := @heldStep_other s op holders hother hstop
      rw [hadmission] at hbucket
      rw [hholders]
      obtain ⟨collectiveInstance, hholder, record, hfind, hrest⟩ := h group hbucket
      have hfound := @serviceStep_find_of_not_disturbs s op collectiveInstance.id hother
        (hspares group collectiveInstance hbucket hholder)
      exact ⟨collectiveInstance, hholder, record, hfound.trans hfind, hrest⟩

end Held

/--
In a run in which no operation disturbs a collective that a bucket is held for, a
plan is answered with a full table only when as many other groups hold buckets as
the limit allows, each of them for a current attempt.
-/
theorem full_table_held_by_current (config : ServiceConfig) (ops : List ServiceOp)
    (hspares : Along heldStep SparesHolders (CoordinatorService.create config, ∅) ops)
    (context : ServiceRequestContext) (request : DecisionRequest) (decision : DecisionRecord)
    (hplan : ((run serviceStep (CoordinatorService.create config) ops).planFlowGroup context
      request).2.1 = some decision) (hcode : decision.code = .admissionBucketCapacity) :
    let s := run serviceStep (CoordinatorService.create config) ops
    let holders := (run heldStep (CoordinatorService.create config, ∅) ops).2
    s.admission.buckets.find decision.flowGroup = none ∧
      s.admission.buckets.size = Limits.tokenBucketsMax ∧
      ∀ group, s.admission.buckets.find group ≠ none →
        ∃ collectiveInstance, holders.find group = some collectiveInstance ∧
          s.IsCurrent collectiveInstance := by
  have hservice : (run heldStep (CoordinatorService.create config, ∅) ops).1 =
      run serviceStep (.create config) ops :=
    run_view heldStep_service _ ops
  have hheld : HeldByCurrent (run heldStep (CoordinatorService.create config, ∅) ops) :=
    hspares.invariant heldByCurrent_step fun group hbucket => absurd (KeyMap.find_empty _) hbucket
  have hbounded : ServiceReachable (run serviceStep (.create config) ops) :=
    ⟨config, ops, rfl⟩
  unfold HeldByCurrent at hheld
  rw [hservice] at hheld
  generalize run serviceStep (.create config) ops = s at *
  obtain ⟨-, hbounds⟩ := hbounded.ledgerCoherent
  cases planFlowGroup_buckets s context request with
  | refused returned _ => cases returned.symm.trans hplan
  | stands other returned _ _ _ code =>
    cases returned.symm.trans hplan
    exact absurd hcode code
  | turnedDown other returned _ _ code =>
    cases returned.symm.trans hplan
    obtain ⟨hnone, hfull⟩ := code hcode
    refine ⟨hnone, Nat.le_antisymm hbounds.fits ?_, hheld⟩
    rw [AdmissionController.Full, hbounds.capacity] at hfull
    exact hfull

section Filled

/-- What the groups are held for are instances of plans among the operations. -/
def PlannedBy (ops : List ServiceOp) (held : CoordinatorService × Holders) : Prop :=
  ∀ group collectiveInstance, held.2.find group = some collectiveInstance →
    ∃ context request, .planFlowGroup context request ∈ ops ∧
      request.collectiveInstance = collectiveInstance

theorem plannedBy_step {ops : List ServiceOp} {held : CoordinatorService × Holders}
    (h : PlannedBy ops held) (op : ServiceOp) : PlannedBy (ops ++ [op]) (heldStep held op) := by
  intro group collectiveInstance hfind
  have hbefore : held.2.find group = some collectiveInstance →
      ∃ context request, .planFlowGroup context request ∈ ops ++ [op] ∧
        request.collectiveInstance = collectiveInstance := by
    intro hheld
    obtain ⟨context, request, hmem, hsame⟩ := h group collectiveInstance hheld
    exact ⟨context, request, List.mem_append_left _ hmem, hsame⟩
  cases op with
  | planFlowGroup context request =>
    simp only [heldStep, holdersAfter] at hfind
    split at hfind
    · exact hbefore hfind
    · split_ifs at hfind
      · exact hbefore hfind
      · rw [KeyMap.find_assign] at hfind
        split_ifs at hfind
        · exact ⟨context, request, List.mem_append_right _ List.mem_cons_self,
            Option.some.inj hfind⟩
        · exact hbefore hfind
  | stop now =>
    simp only [heldStep] at hfind
    split_ifs at hfind
    · cases hfind
    · exact hbefore hfind
  | _ => exact hbefore hfind

theorem plannedBy_run (s : CoordinatorService) (ops : List ServiceOp) :
    PlannedBy ops (run heldStep (s, ∅) ops) := by
  have hinit : PlannedBy [] (s, ∅) := by
    intro group collectiveInstance hfind
    cases hfind
  refine run_history ?_ hinit ops
  exact fun past op h => plannedBy_step h op

def NoBuckets (held : CoordinatorService × Holders) : Prop :=
  ∀ group, held.1.admission.buckets.find group = none

/-- Before a bucket is made there is nothing to disturb. -/
theorem along_sparesHolders_of_no_plan (config : ServiceConfig) {ops : List ServiceOp}
    (h : ∀ op ∈ ops, ∀ context request, op ≠ .planFlowGroup context request) :
    Along heldStep SparesHolders (CoordinatorService.create config, ∅) ops := by
  have hstep : ∀ held op, (∀ context request, op ≠ .planFlowGroup context request) →
      NoBuckets held → SparesHolders held op ∧ NoBuckets (heldStep held op) := by
    rintro ⟨s, holders⟩ op hother hnone
    refine ⟨fun group _ hbucket => absurd (hnone group) hbucket, fun group => ?_⟩
    by_cases hstop : s.StopsBy op
    · exact stop_clears_buckets hstop group
    · rw [(heldStep_other hother hstop).1]
      exact hnone group
  exact along_of_invariant hstep (fun _ => KeyMap.find_empty _) h

namespace TwoMembers

/-- The plans that fill the table. -/
def fillingPlans : List ServiceOp :=
  setup ++ volumes.map fun bytes => .planFlowGroup (context 10) (bulkRequest ⟨33, 0⟩ bytes)

theorem along_fillingPlans :
    Along heldStep SparesHolders (CoordinatorService.create {}, ∅) fillingPlans := by
  have hplans : ∀ op ∈ volumes.map fun bytes =>
      ServiceOp.planFlowGroup (context 10) (bulkRequest ⟨33, 0⟩ bytes), ∀ id, ¬ op.Disturbs id := by
    intro op hop id
    obtain ⟨bytes, -, rfl⟩ := List.mem_map.mp hop
    exact fun hdisturbs => hdisturbs
  rw [fillingPlans, along_append]
  refine ⟨along_sparesHolders_of_no_plan {} (by simp [setup, boot]), ?_⟩
  generalize volumes.map (fun bytes =>
    ServiceOp.planFlowGroup (context 10) (bulkRequest ⟨33, 0⟩ bytes)) = plans at hplans ⊢
  exact (along_of_forall _ hplans).mono fun _ _ hspared _ _ _ _ => hspared _

/-- The next volume makes a group that is not in the table. -/
theorem next_group_new : bulkGroup ⟨33, 0⟩ 4096 ∉ volumes.map (bulkGroup ⟨33, 0⟩) := by
  have hapart : (List.range Limits.tokenBucketsMax).all
      (fun number => volumeDigest number != volumeDigest 4096) = true := by
    decide +kernel
  intro hmem
  rw [volumes, List.map_map, List.mem_map] at hmem
  obtain ⟨number, hnumber, hsame⟩ := hmem
  have hdiffers := List.all_eq_true.mp hapart number hnumber
  rw [List.mem_range, Limits.tokenBucketsMax] at hnumber
  have hword : number.toUInt64.toNat = number := Nat.mod_eq_of_lt (by omega)
  have hdigest := congrArg (fun group => group.hi.toNat) hsame
  rw [Function.comp_apply, toNat_digest_first, toNat_digest_first, hword] at hdigest
  rw [hdigest] at hdiffers
  simp at hdiffers

end TwoMembers

open TwoMembers in
/-- The first plan beyond the table finds it full, with every bucket held for its own attempt. -/
theorem next_plan_finds_table_held :
    let s := run serviceStep (CoordinatorService.create {}) fillingPlans
    let holders := (run heldStep (CoordinatorService.create {}, ∅) fillingPlans).2
    ∃ decision, (s.planFlowGroup (context 10) (bulkRequest ⟨33, 0⟩ 4096)).2.1 = some decision ∧
      decision.code = .admissionBucketCapacity ∧
      s.admission.buckets.size = Limits.tokenBucketsMax ∧
      ∀ group, s.admission.buckets.find group ≠ none →
        ∃ collectiveInstance, holders.find group = some collectiveInstance ∧
          s.IsCurrent collectiveInstance := by
  have hfilled := table_filled
  have hrun : run serviceStep (.create {}) fillingPlans =
      run serviceStep service
        (volumes.map fun bytes => .planFlowGroup (context 10) (bulkRequest ⟨33, 0⟩ bytes)) :=
    run_append ..
  have hheld := full_table_held_by_current {} fillingPlans along_fillingPlans (context 10)
    (bulkRequest ⟨33, 0⟩ 4096)
  rw [hrun] at hheld ⊢
  generalize run serviceStep service
    (volumes.map fun bytes => .planFlowGroup (context 10) (bulkRequest ⟨33, 0⟩ bytes)) = s
    at hfilled hheld ⊢
  obtain ⟨⟨record, hopen⟩, hfull, hothers⟩ := hfilled
  have hunavailable : ¬ BucketAvailable s (bulkRequest ⟨33, 0⟩ 4096) := by
    rintro (hroom | ⟨found, hfound, hbucket⟩)
    · exact hroom hfull
    · obtain rfl : found = record := Option.some.inj (hfound.symm.trans hopen.found)
      rw [hopen.planGroup_eq] at hbucket
      exact hbucket (hothers _ next_group_new)
  obtain ⟨⟨decision, hplan, -, hcode⟩, -⟩ :=
    rejected_of_unavailable (hopen.asks bulkGranted_first 4096) hunavailable
  exact ⟨decision, hplan, hcode, (hheld decision hplan hcode).2⟩

open TwoMembers in
/--
Once the table is full of buckets of an attempt and another attempt takes its
place, the plan of the new attempt is rejected for a full table none of whose
buckets is held for a current attempt.
-/
theorem superseded_attempt_fills_table :
    let s := run serviceStep (CoordinatorService.create {}) crowdedPlans
    let holders := (run heldStep (CoordinatorService.create {}, ∅) crowdedPlans).2
    (∃ decision, (s.planFlowGroup (context 10) (bulkRequest ⟨34, 0⟩ 0)).2.1 = some decision ∧
        decision.code = .admissionBucketCapacity) ∧
      ∀ group collectiveInstance, holders.find group = some collectiveInstance →
        ¬ s.IsCurrent collectiveInstance := by
  have hcrowded := crowdedPlans_unavailable
  have hplanned := plannedBy_run (CoordinatorService.create {}) crowdedPlans
  unfold PlannedBy at hplanned
  generalize run serviceStep (.create {}) crowdedPlans = s at hcrowded ⊢
  obtain ⟨hunavailable, record, hopen, -⟩ := hcrowded
  obtain ⟨⟨decision, hplan, -, hcode⟩, -⟩ :=
    rejected_of_unavailable (hopen.asks bulkGranted_second 0) hunavailable
  refine ⟨⟨decision, hplan, hcode⟩, ?_⟩
  rintro group collectiveInstance hholder ⟨found, hfound, -, -, hattempt, -⟩
  obtain ⟨context', request, hmem, rfl⟩ := hplanned group collectiveInstance hholder
  have hfirst : request.collectiveInstance = { TwoMembers.attempt with attempt := ⟨33, 0⟩ } := by
    simp only [crowdedPlans, List.mem_append, List.mem_map, List.mem_singleton] at hmem
    rcases hmem with (hsetup | ⟨bytes, -, hop⟩) | hop
    · simp [setup, boot] at hsetup
    · cases hop
      rfl
    · cases hop
  rw [hfirst] at hfound hattempt
  obtain rfl : found = record := Option.some.inj (hfound.symm.trans hopen.found)
  rw [hopen.attempt] at hattempt
  cases hattempt

end Filled

end TrafficFabric
