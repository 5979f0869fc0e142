import TrafficFabric.EvaluationOrder
import TrafficFabric.Unclassified
import TrafficFabric.GrantSoundness
import TrafficFabric.Ledger

/-!
# The counters of plans

The service counts the plans it decides, and counts each of them as admitted,
rejected, limited, deferred or to be planned again.  A plan that the lifecycle
turns away returns a decision and counts as a rejection, but not among the
decisions; and a collective without a traffic class counts as two rejections.

Every other plan is counted once on both sides, so these two are exactly what
upsets the balance, apart from a counter that wraps.
-/

namespace TrafficFabric

open Lib CoordinatorService

section Semantics

variable (snapshot : EvaluationSnapshot) (request : DecisionRequest)
variable (definition : CollectiveDefinition)

/-- The checks the engine makes before it looks at the class a collective is given. -/
def preludeChecks : List (Check Verdict) :=
  planChecks request definition ++
    (authorityChecks snapshot request ++
      (membershipChecks snapshot definition ++
        (semanticsChecks snapshot request definition).take 4))

/-- The request asks for no class and gets as far as an entry that gives none. -/
def MeetsUnclassified : Prop :=
  firstFailure (preludeChecks snapshot request definition) = none ∧
    request.hasRequestedClass = false ∧
    ∃ entry, statedCollective snapshot definition = some entry ∧ entry.trafficClass = .unclassified

/-- The class a collective is given, the check that comes next. -/
def classifiedCheck : Check Verdict :=
  ⟨(statedCollective snapshot definition).all fun collectivePolicy =>
      trafficClassIsClassified (selectedClass request collectivePolicy),
    (.unknownSemantics, .semantics)⟩

theorem engineChecks_eq :
    engineChecks snapshot request definition =
      preludeChecks snapshot request definition ++
        classifiedCheck snapshot request definition ::
          treatmentChecks snapshot request definition := by
  rfl

variable {snapshot request definition}

theorem preludeChecks_report {verdict : Verdict}
    (h : firstFailure (preludeChecks snapshot request definition) = some verdict) :
    verdict.1 ≠ .unknownSemantics := by
  obtain ⟨check, hmem, -, rfl⟩ := firstFailure_eq_some h
  simp only [preludeChecks, planChecks, authorityChecks, membershipChecks, semanticsChecks,
    List.take_succ_cons, List.take_zero, List.cons_append, List.nil_append, List.mem_cons,
    List.not_mem_nil, or_false] at hmem
  rcases hmem with h | h | h | h | h | h | h | h | h | h | h | h | h | h | h | h | h <;>
    subst h <;> intro hsame <;> cases hsame

/-- Past the prelude the class is missing exactly when none is asked for and none is given. -/
theorem classifiedCheck_fails_iff
    (h : firstFailure (preludeChecks snapshot request definition) = none) :
    (classifiedCheck snapshot request definition).holds = false ↔
      request.hasRequestedClass = false ∧
        ∃ entry, statedCollective snapshot definition = some entry ∧
          entry.trafficClass = .unclassified := by
  have hmem : (⟨!request.hasRequestedClass || trafficClassIsClassified request.requestedClass,
      (.rejectedPolicy, .semantics)⟩ : Check Verdict) ∈
        preludeChecks snapshot request definition := by
    simp only [preludeChecks, semanticsChecks, List.mem_append]
    exact .inr (.inr (.inr (by simp)))
  have hrequested := firstFailure_eq_none_iff.mp h _ hmem
  unfold classifiedCheck
  cases hstated : statedCollective snapshot definition with
  | none => simp
  | some entry =>
    cases hasked : request.hasRequestedClass with
    | false => simp [selectedClass, hasked, trafficClassIsClassified]
    | true =>
      rw [hasked] at hrequested
      simpa [selectedClass, hasked] using hrequested

/-- The engine knows no semantics exactly for such requests. -/
theorem evaluate_unknownSemantics_iff :
    (evaluate snapshot request definition).outcome = .unknownSemantics ↔
      MeetsUnclassified snapshot request definition := by
  have hverdict := evaluate_verdict snapshot request definition
  have houtcome : (evaluate snapshot request definition).outcome = .unknownSemantics ↔
      (firstFailure (engineChecks snapshot request definition)).map Prod.fst =
        some .unknownSemantics := by
    rw [← hverdict, DecisionRecord.verdict]
    cases (evaluate snapshot request definition).outcome <;> simp [outcomeGrantsAuthority]
  rw [houtcome, engineChecks_eq, firstFailure_append]
  unfold MeetsUnclassified
  cases hprelude : firstFailure (preludeChecks snapshot request definition) with
  | some verdict => simp [preludeChecks_report hprelude]
  | none =>
    rw [← classifiedCheck_fails_iff hprelude, Option.none_or, firstFailure_cons]
    cases hclass : (classifiedCheck snapshot request definition).holds with
    | false => simp [classifiedCheck]
    | true =>
      cases htreatment : firstFailure (treatmentChecks snapshot request definition) with
      | none => simp
      | some verdict => simp [(treatmentChecks_report htreatment).1]

/-- What the engine does not grant it rejects, or asks to be planned again. -/
theorem evaluate_turnsDown
    (h : outcomeGrantsAuthority (evaluate snapshot request definition).outcome = false) :
    outcomeIsRejection (evaluate snapshot request definition).outcome = true ∨
      (evaluate snapshot request definition).outcome = .requiresReplan := by
  have hverdict := evaluate_verdict snapshot request definition
  rw [DecisionRecord.verdict, h] at hverdict
  obtain ⟨check, hmem, -, hreport⟩ := firstFailure_eq_some hverdict.symm
  have hlisted : outcomeIsRejection check.report.1 = true ∨ check.report.1 = .requiresReplan := by
    simp only [engineChecks, planChecks, authorityChecks, laterChecks, membershipChecks,
      semanticsChecks, evidenceChecks, List.cons_append, List.nil_append, List.mem_cons,
      List.not_mem_nil, or_false] at hmem
    rcases hmem with h | h | h | h | h | h | h | h | h | h | h | h | h | h | h | h | h | h | h | h |
      h | h <;> subst h <;> simp [outcomeIsRejection, epochCheck, policyObservedCheck,
        policyInstalledCheck, capacityComparedCheck, congestionComparedCheck,
        topologyObservedCheck, topologyInstalledCheck, floorCheck]
  rwa [hreport] at hlisted

end Semantics

section Tally

namespace PlanTally

/-- A plan is counted among the decisions. -/
def decided (tally : PlanTally) : PlanTally :=
  { tally with decisions := tally.decisions + 1 }

/-- A plan is counted as many times among the rejections. -/
def rejected (times : UInt64) (tally : PlanTally) : PlanTally :=
  { tally with rejections := tally.rejections + times }

/-- A plan is counted once by the way it was settled. -/
inductive Settles (tally : PlanTally) : PlanTally → Prop
  | admitted : Settles tally { tally with admissions := tally.admissions + 1 }
  | rejected : Settles tally (tally.rejected 1)
  | rateLimited : Settles tally { tally with rateLimited := tally.rateLimited + 1 }
  | deferred : Settles tally { tally with deferred := tally.deferred + 1 }
  | replanned : Settles tally { tally with replans := tally.replans + 1 }

/-- The decisions are as many as the plans, and as many as the plans counted by their settling. -/
structure Balanced (tally : PlanTally) (plans : Nat) : Prop where
  decisions : tally.decisions.toNat = plans
  settled : tally.decisions.toNat = tally.admissions.toNat + tally.rejections.toNat +
    tally.rateLimited.toNat + tally.deferred.toNat + tally.replans.toNat

variable {tally tally' : PlanTally} {plans : Nat}

theorem balanced_iff :
    tally.Balanced plans ↔
      tally.decisions.toNat = plans ∧
        tally.decisions.toNat = tally.admissions.toNat + tally.rejections.toNat +
          tally.rateLimited.toNat + tally.deferred.toNat + tally.replans.toNat := by
  exact ⟨fun h => ⟨h.1, h.2⟩, fun h => ⟨h.1, h.2⟩⟩

/-- A plan counted once on both sides keeps the balance until the counter wraps. -/
theorem Balanced.settled_iff (h : tally.Balanced plans) (hsettles : tally.Settles tally') :
    tally'.decided.Balanced (plans + 1) ↔ tally.decisions.toNat + 1 < 2 ^ 64 := by
  obtain ⟨hdecisions, hsettled⟩ := h
  have hone : (1 : UInt64).toNat = 1 := rfl
  have hbound := tally.decisions.toNat_lt
  cases hsettles <;>
    simp only [balanced_iff, decided, rejected, UInt64.toNat_add, hone] <;>
    omega

theorem Balanced.not_rejected_twice (h : tally.Balanced plans) :
    ¬ (tally.rejected 2).decided.Balanced (plans + 1) := by
  obtain ⟨hdecisions, hsettled⟩ := h
  have hone : (1 : UInt64).toNat = 1 := rfl
  have htwo : (2 : UInt64).toNat = 2 := rfl
  have hbound := tally.decisions.toNat_lt
  simp only [balanced_iff, decided, rejected, UInt64.toNat_add, hone, htwo]
  omega

theorem Balanced.not_undecided (h : tally.Balanced plans)
    (htally : tally'.decisions = tally.decisions) : ¬ tally'.Balanced (plans + 1) := by
  intro hafter
  have hbefore := h.decisions
  have hcount := hafter.decisions
  rw [htally] at hcount
  omega

end PlanTally

end Tally

section Plans

variable {s : CoordinatorService} {context : ServiceRequestContext} {request : DecisionRequest}
  {record : CollectiveRecord}

/-- Admission has an answer for every grant of a constructed group. -/
theorem admitDecision_applies {controller : AdmissionController} {decision : DecisionRecord}
    (hgrants : outcomeGrantsAuthority decision.outcome = true)
    (hgroup : decision.flowGroupConstructed = true) (now : UInt64) :
    (controller.admitDecision decision now).1.outcome ≠ .notApplicable := by
  unfold AdmissionController.admitDecision
  rw [if_neg (by simp [hgrants, hgroup])]
  unfold AdmissionController.draw AdmissionController.consumeResult
  simp only
  split_ifs <;> intro h <;> cases h

theorem evaluate_flowGroupConstructed {snapshot : EvaluationSnapshot}
    {definition : CollectiveDefinition}
    (h : outcomeGrantsAuthority (evaluate snapshot request definition).outcome = true) :
    (evaluate snapshot request definition).flowGroupConstructed = true := by
  obtain ⟨_, _, _, _, group, -, hrecord⟩ := evaluate_eq_grantRecord h
  rw [hrecord]
  rfl

/-- Whatever admission answers to a grant is counted once. -/
theorem applyAdmission_settles {result : AdmissionResult} (h : result.outcome ≠ .notApplicable)
    (now : UInt64) (decision : DecisionRecord) (counters : ServiceCounters) :
    counters.planTally.Settles (applyAdmission result now decision counters).2.planTally := by
  unfold applyAdmission
  cases hanswer : result.outcome with
  | granted => exact .admitted
  | rateLimited => exact .rateLimited
  | clockRegression => exact .deferred
  | bucketTableFull => exact .rejected
  | notApplicable => exact absurd hanswer h

theorem countRefusal_settles {decision : DecisionRecord}
    (hcounted : outcomeIsRejection decision.outcome = true ∨ decision.outcome = .requiresReplan)
    (hknown : decision.outcome ≠ .unknownSemantics) (counters : ServiceCounters) :
    counters.planTally.Settles (countRefusal decision counters).planTally := by
  unfold countRefusal
  rcases hcounted with hrejection | hreplan
  · rw [if_pos hrejection]
    simp only [if_neg hknown]
    exact .rejected
  · rw [hreplan]
    exact .replanned

/-- A settled plan is counted once, or as two rejections when it states no class. -/
theorem settleDecision_tally (h : s.lifecycleCheck context request = .ok record) :
    let unclassified := MeetsUnclassified (s.authority.snapshot context.nowMonotonicMs) request
      (effectiveDefinition record)
    let tally := (s.settleDecision context request record).2.counters.planTally
    (unclassified ∧ tally = s.counters.planTally.rejected 2) ∨
      (¬ unclassified ∧ s.counters.planTally.Settles tally) := by
  intro unclassified tally
  have hunknown : (evaluatedDecision s context request record).outcome = .unknownSemantics ↔
      unclassified := evaluate_unknownSemantics_iff
  have hsettled := settleDecision_eq s context request record
  simp only at hsettled
  by_cases hgrants :
      outcomeGrantsAuthority (evaluatedDecision s context request record).outcome = true
  · right
    refine ⟨fun hmeets => ?_, ?_⟩
    · rw [hunknown.mpr hmeets] at hgrants
      cases hgrants
    · have hstored : ¬ (s.catalog.setState
          (evaluatedDecision s context request record).collectiveInstance.id .active
          context.nowMonotonicMs).1.isOk = false :=
        ne_false_of_eq_true (setState_active_isOk h context.nowMonotonicMs)
      rw [if_pos hgrants] at hsettled
      simp only [tally, hsettled, releaseGrant, if_neg hstored]
      exact applyAdmission_settles
        (admitDecision_applies hgrants (evaluate_flowGroupConstructed hgrants) _) _ _ _
  · rw [if_neg hgrants] at hsettled
    have hcounted := evaluate_turnsDown (Bool.not_eq_true _ ▸ hgrants)
    by_cases hmeets : unclassified
    · left
      refine ⟨hmeets, ?_⟩
      simp only [tally, hsettled, countRefusal]
      rw [hunknown.mpr hmeets]
      rfl
    · right
      refine ⟨hmeets, ?_⟩
      simp only [tally, hsettled]
      exact countRefusal_settles hcounted (fun hsame => hmeets (hunknown.mp hsame)) _

end Plans

section Runs

/-- The plan is for a collective that its policy leaves without a class, and asks for none. -/
def CoordinatorService.PlansUnclassified (s : CoordinatorService)
    (context : ServiceRequestContext) (request : DecisionRequest) : Prop :=
  ∃ record, s.catalog.find request.collectiveInstance.id = some record ∧
    MeetsUnclassified (s.authority.snapshot context.nowMonotonicMs) request
      (CoordinatorService.effectiveDefinition record)

/-- The service with the number of plans that succeeded since the counters were reset. -/
def countedStep (counted : CoordinatorService × Nat) (op : ServiceOp) : CoordinatorService × Nat :=
  (serviceStep counted.1 op,
    match op with
    | .resetCounters => 0
    | .planFlowGroup context request =>
      if (counted.1.planFlowGroup context request).1.isOk then counted.2 + 1 else counted.2
    | _ => counted.2)

theorem countedStep_service (counted : CoordinatorService × Nat) (op : ServiceOp) :
    (countedStep counted op).1 = serviceStep counted.1 op := by
  rfl

/-- How many plans succeeded since the counters were last reset. -/
def plansSinceReset (s : CoordinatorService) (ops : List ServiceOp) : Nat :=
  (run countedStep (s, 0) ops).2

def CountersBalanced (counted : CoordinatorService × Nat) : Prop :=
  counted.1.counters.planTally.Balanced counted.2

/-- A plan that is decided is current and has a class, and the counter of decisions has room. -/
def KeepsBalance (s : CoordinatorService) (op : ServiceOp) : Prop :=
  ∀ context request, op = .planFlowGroup context request → s.AcceptsPlan context request →
    s.PlansCurrent request ∧ ¬ s.PlansUnclassified context request ∧
      s.counters.decisions.toNat + 1 < 2 ^ 64

theorem keepsBalance_plan_iff {s : CoordinatorService} {context : ServiceRequestContext}
    {request : DecisionRequest} :
    KeepsBalance s (.planFlowGroup context request) ↔
      (s.AcceptsPlan context request →
        s.PlansCurrent request ∧ ¬ s.PlansUnclassified context request ∧
          s.counters.decisions.toNat + 1 < 2 ^ 64) := by
  constructor
  · exact fun h => h context request rfl
  · rintro h _ _ ⟨⟩
    exact h

theorem countersBalanced_plan_iff {s : CoordinatorService} {plans : Nat}
    (h : CountersBalanced (s, plans)) (context : ServiceRequestContext)
    (request : DecisionRequest) :
    CountersBalanced (countedStep (s, plans) (.planFlowGroup context request)) ↔
      KeepsBalance s (.planFlowGroup context request) := by
  rw [keepsBalance_plan_iff]
  unfold CountersBalanced countedStep at *
  simp only [serviceStep]
  cases planFlowGroup_result s context request with
  | refused status refuses failed result =>
    rw [result, failed]
    exact iff_of_true h fun accepts => absurd accepts refuses
  | stale decision accepts lifecycle result =>
    rw [result]
    refine iff_of_false ?_ fun hkeeps => not_plansCurrent_of_error lifecycle (hkeeps accepts).1
    exact h.not_undecided rfl
  | settled record accepts lifecycle result =>
    rw [result, forall_prop_of_true accepts, and_iff_right (plansCurrent_of_ok lifecycle)]
    have hfind := (lifecycleCheck_eq_ok_iff.mp lifecycle).1
    have hclass : s.PlansUnclassified context request ↔
        MeetsUnclassified (s.authority.snapshot context.nowMonotonicMs) request
          (effectiveDefinition record) := by
      simp [CoordinatorService.PlansUnclassified, hfind]
    rw [hclass]
    change ((s.settleDecision context request record).2.counters.planTally.decided).Balanced
      (plans + 1) ↔ _
    rcases settleDecision_tally lifecycle with ⟨hmeets, htally⟩ | ⟨hclassified, hsettles⟩
    · rw [htally]
      exact iff_of_false h.not_rejected_twice fun hkeeps => hkeeps.1 hmeets
    · rw [and_iff_right hclassified]
      exact h.settled_iff hsettles

/-- From balanced counters an operation leads to balanced ones exactly when it keeps the balance. -/
theorem countersBalanced_step_iff (counted : CoordinatorService × Nat) (op : ServiceOp)
    (h : CountersBalanced counted) :
    CountersBalanced (countedStep counted op) ↔ KeepsBalance counted.1 op := by
  obtain ⟨s, plans⟩ := counted
  by_cases hplan : ∃ context request, op = .planFlowGroup context request
  · obtain ⟨context, request, rfl⟩ := hplan
    exact countersBalanced_plan_iff h context request
  · have hother : ∀ context request, op ≠ .planFlowGroup context request :=
      fun context request hop => hplan ⟨context, request, hop⟩
    refine iff_of_true ?_ fun context request hop => absurd hop (hother context request)
    by_cases hreset : op = .resetCounters
    · subst hreset
      exact ⟨rfl, rfl⟩
    · have hcount : (countedStep (s, plans) op).2 = plans := by
        cases op <;> first | rfl | exact absurd rfl hreset | exact absurd rfl (hother _ _)
      have htally : (serviceStep s op).counters.planTally = s.counters.planTally := by
        cases serviceStep_tableChange s hother with
        | kept _ _ tally => exact tally
        | reset resets _ _ _ => exact absurd resets hreset
        | cleared _ _ _ tally => exact tally
        | resized _ _ _ tally => exact tally
      unfold CountersBalanced at h ⊢
      rw [hcount]
      exact htally ▸ h

/--
The counters of plans add up after every operation of a run exactly when every
plan that is decided is for a current attempt of a collective with a class, and
the counter of decisions does not wrap.
-/
theorem decision_counters_balanced_iff (config : ServiceConfig) (ops : List ServiceOp) :
    (∀ before, before <+: ops →
        (run serviceStep (CoordinatorService.create config) before).counters.planTally.Balanced
          (plansSinceReset (CoordinatorService.create config) before)) ↔
      Along serviceStep KeepsBalance (CoordinatorService.create config) ops := by
  have hknown : ∀ (_ : CoordinatorService × Nat) (_ : ServiceOp), True → True := fun _ _ h => h
  have hstep : ∀ counted op, True → CountersBalanced counted →
      (CountersBalanced (countedStep counted op) ↔ KeepsBalance counted.1 op) :=
    fun counted op _ h => countersBalanced_step_iff counted op h
  have hinit : CountersBalanced (CoordinatorService.create config, 0) := ⟨rfl, rfl⟩
  have hcounted := forall_prefix_iff_along hknown hstep trivial hinit ops
  rw [along_view_iff countedStep_service] at hcounted
  simpa only [CountersBalanced, plansSinceReset, run_view countedStep_service] using hcounted

namespace TwoMembers

/-- The attempt of the two members under a policy that leaves its collective without a class. -/
def unclassified : List ServiceOp :=
  boot ++
  [ .installPolicy (context 2) Promoted.policy congestionDraw [],
    .ingestTopology (context 2) { generation := ⟨6, 0⟩, nodes := [{ id := ⟨21, 0⟩ }] }
      congestionDraw [],
    .publishParticipant (context 3) ⟨1, 0⟩ ⟨11, 0⟩ ⟨21, 0⟩ .live,
    .publishParticipant (context 3) ⟨2, 0⟩ ⟨12, 0⟩ ⟨21, 0⟩ .live,
    .registerCollective (context 4) definition,
    .beginAttempt (context 5) ⟨31, 0⟩ ⟨32, 0⟩ ⟨33, 0⟩ 0 ]

end TwoMembers

open TwoMembers in
/--
A plan of a collective without a class counts as one decision and two rejections;
a plan of a collective that is not registered as a rejection and no decision.
-/
theorem plans_miscounted :
    let classless := (run serviceStep (CoordinatorService.create {}) unclassified).planFlowGroup
      (context 10) request
    let unregistered := (run serviceStep (CoordinatorService.create {}) boot).planFlowGroup
      (context 10) request
    (classless.1.isOk = true ∧ classless.2.2.counters.decisions = 1 ∧
        classless.2.2.counters.rejections = 2) ∧
      unregistered.1.isOk = true ∧ unregistered.2.2.counters.decisions = 0 ∧
        unregistered.2.2.counters.rejections = 1 := by
  decide +kernel

end Runs

end TrafficFabric
