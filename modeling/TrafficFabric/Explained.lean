import TrafficFabric.Ledger
import TrafficFabric.GrantSoundness

/-!
# Explained decisions

A decision leaves the service at one of the four lifecycle refusals, at one of
the checks of the engine, or as a grant that admission has answered.  Whichever
it is, it carries at least one reason and no more than the bound allows, a
rejection names an axis and a code, and unknown semantics name no treatment.

The engine hands one record from check to check.  What has to be carried along
is only that its chain is within the bound: a refusal and a grant add a reason
of their own.
-/

namespace TrafficFabric

open Lib ReasonChain

namespace ReasonChain

/-- At least one reason, and no more than the bound. -/
structure Explains (chain : ReasonChain) : Prop where
  given : chain ≠ []
  bounded : chain.length ≤ Limits.reasonChainMax

/-- A reason added within the bound leaves a chain that explains. -/
theorem explains_add {chain : ReasonChain} (h : chain.length ≤ Limits.reasonChainMax)
    (code detail : Text) (subject : Identity) : (chain.add code detail subject).Explains := by
  unfold add
  split
  · rename_i hfull
    refine ⟨?_, h⟩
    -- The bound is positive, so a full chain has an entry.
    rintro rfl
    exact absurd hfull (by decide)
  · rename_i hroom
    refine ⟨by simp, ?_⟩
    rw [List.length_append, List.length_singleton]
    exact Nat.not_le.mp hroom

theorem Explains.foldl_add {α : Type} {chain : ReasonChain} {extend : ReasonChain → α → ReasonChain}
    (hextend : ∀ chain x, chain.Explains → (extend chain x).Explains) (h : chain.Explains)
    (xs : List α) : (xs.foldl extend chain).Explains := by
  exact run_invariant hextend h xs

end ReasonChain

/-- What a decision of any outcome states about itself. -/
structure DecisionRecord.Explained (decision : DecisionRecord) : Prop where
  reasons : decision.reasons.Explains
  rejection : outcomeIsRejection decision.outcome = true →
    decision.axis ≠ .none ∧ decision.code ≠ .ok
  unclassified : decision.outcome = .unknownSemantics →
    trafficClassIsClassified decision.trafficClass = false

section Engine

variable {record : DecisionRecord}

theorem refusedNotLive_explained (snapshot : EvaluationSnapshot) (request : DecisionRequest)
    (h : record.reasons.length ≤ Limits.reasonChainMax) :
    (refusedNotLive snapshot request record).Explained where
  reasons := by
    refine ReasonChain.Explains.foldl_add ?_ (explains_add h _ _ _) _
    intro chain participant hchain
    exact explains_add hchain.bounded _ _ _
  rejection := fun _ => ⟨nofun, nofun⟩
  unclassified := nofun

variable {snapshot : EvaluationSnapshot} {request : DecisionRequest}
variable {definition : CollectiveDefinition}

/-- A refusal adds its reason, and its axis and its code fit its outcome. -/
theorem Refusal.explained {refusal : DecisionRecord}
    (h : Refusal snapshot request definition record refusal)
    (hbase : record.reasons.length ≤ Limits.reasonChainMax) : refusal.Explained := by
  have hreasons := fun reason detail subject =>
    explains_add hbase reason detail subject
  cases h with
  | stated _ _ named =>
    obtain ⟨-, hclass, haxis, hcode, -⟩ := named
    exact ⟨hreasons _ _ _, fun _ => ⟨haxis, hcode⟩, fun hunknown => absurd hunknown hclass⟩
  | plan =>
    -- A plan is refused for a replan, which is no rejection; its code is the plan's.
    exact ⟨hreasons _ _ _, nofun, nofun⟩
  | notLive => exact refusedNotLive_explained snapshot request hbase
  | unclassified _ _ unclassified =>
    exact ⟨hreasons _ _ _, fun _ => ⟨nofun, nofun⟩, fun _ => unclassified⟩
  | rate _ _ _ subject missed => exact ⟨hreasons _ _ _, fun _ => ⟨nofun, missed⟩, nofun⟩

variable (snapshot request definition)

/-- A grant states its outcome first and adds to it. -/
theorem granted_explained (policy : TrafficPolicy) (classPolicy : TrafficClassPolicy)
    (pacing : PacingComputation) (h : record.reasons.length ≤ Limits.reasonChainMax) :
    (granted snapshot request definition policy classPolicy pacing record).Explained := by
  have hgrants := granted_outcome snapshot request definition policy classPolicy pacing record
  refine ⟨?_, ?_, ?_⟩
  · simp only [granted, grantReasons]
    have hopening : ReasonChain.Explains
        (if classPolicy.trafficClass = .isolated then
          record.reasons.add (text "isolated_class_admitted")
            (text "the collective is admitted into an isolated traffic class; it is never multiplexed with other classes")
            request.collectiveInstance.id
        else
          record.reasons.add (text "admitted")
            (text "traffic treatment is permitted for this generation set")
            request.collectiveInstance.id) := by
      split <;> exact explains_add h _ _ _
    have hpaced := explains_add hopening.bounded pacing.reasonCode
      pacing.reasonDetail request.collectiveInstance.id
    split
    · refine explains_add ?_ _ _ _
      split
      · exact (explains_add hpaced.bounded _ _ _).bounded
      · exact hpaced.bounded
    · split
      · exact explains_add hpaced.bounded _ _ _
      · exact hpaced
  · intro hrejection
    generalize (granted snapshot request definition policy classPolicy pacing record).outcome =
      outcome at hgrants hrejection
    cases outcome <;> simp [outcomeGrantsAuthority, outcomeIsRejection] at hgrants hrejection
  · intro hunknown
    rw [hunknown] at hgrants
    cases hgrants

theorem reasons_reached {planned : DecisionRecord}
    (h : StageReached snapshot request planned record) (hempty : planned.reasons = []) :
    record.reasons.length ≤ Limits.reasonChainMax := by
  have hcurrent : (authorityRecord request planned).reasons.length ≤ Limits.reasonChainMax :=
    (explains_add (by rw [hempty]; decide) _ _ _).bounded
  cases h with
  | planned =>
    rw [hempty]
    decide
  | current => exact hcurrent
  | bound _ _ => exact hcurrent

/-- The evaluation of any request is explained. -/
theorem evaluate_explained : (evaluate snapshot request definition).Explained := by
  unfold evaluate
  cases hchecks : evaluateChecks snapshot request definition with
  | error refusal =>
    cases evaluateChecks_refusal snapshot request definition refusal hchecks with
    | early _ refuses => exact refuses.explained (Nat.zero_le _)
    | late passed reached refuses =>
      obtain ⟨-, -, group, -, rfl⟩ := checkPlan_eq_ok_iff.mp passed
      exact refuses.explained (reasons_reached snapshot request reached rfl)
  | ok grant =>
    obtain ⟨policy, topology, collectivePolicy, classPolicy, group, -, -, rfl⟩ :=
      evaluateChecks_eq_ok_iff.mp hchecks
    have hempty : (initialRecord snapshot request definition).reasons.length ≤
        Limits.reasonChainMax := Nat.zero_le _
    exact granted_explained snapshot request definition policy classPolicy _
      (explains_add hempty _ _ _).bounded

end Engine

section Service

variable {service : CoordinatorService} {context : ServiceRequestContext}
variable {request : DecisionRequest}

theorem lifecycleCheck_explained :
    Refuses DecisionRecord.Explained (service.lifecycleCheck context request) := by
  intro refusal hrefused
  have hstale := lifecycleCheck_refuses service context request refusal hrefused
  obtain ⟨literal, detail, -, hreasons⟩ := hstale.reasons
  refine ⟨?_, fun _ => ⟨hstale.axis, hstale.code.1⟩, ?_⟩
  · rw [hreasons]
    exact explains_add (Nat.zero_le _) _ _ _
  · rw [hstale.outcome]
    exact nofun

/-- Admission adds its reasons, and names an axis and a code where it rejects. -/
theorem applyAdmission_explained {decision : DecisionRecord} (result : AdmissionResult)
    (now : UInt64) (counters : ServiceCounters) (h : decision.Explained) :
    (CoordinatorService.applyAdmission result now decision counters).1.Explained := by
  have hreasons : ReasonChain.Explains
      (result.reasons.foldl addReason decision.reasons) := by
    refine ReasonChain.Explains.foldl_add ?_ h.reasons _
    intro chain reason hchain
    exact explains_add hchain.bounded _ _ _
  unfold CoordinatorService.applyAdmission
  cases result.outcome with
  | granted | notApplicable => exact ⟨hreasons, h.rejection, h.unclassified⟩
  | rateLimited | clockRegression => exact ⟨hreasons, nofun, nofun⟩
  | bucketTableFull => exact ⟨hreasons, fun _ => ⟨nofun, nofun⟩, nofun⟩

theorem releaseGrant_explained {decision : DecisionRecord} (now : UInt64) (h : decision.Explained) :
    (service.releaseGrant now decision).1.Explained := by
  simp only [CoordinatorService.releaseGrant]
  split
  · rename_i hfailed
    exact ⟨explains_add h.reasons.bounded _ _ _,
      fun _ => ⟨by rintro ⟨⟩, (Status.isOk_eq_false_iff _).mp hfailed⟩, by rintro ⟨⟩⟩
  · exact applyAdmission_explained _ now _ h

theorem settleDecision_explained (record : CollectiveRecord) :
    (service.settleDecision context request record).1.Explained := by
  have hevaluated := evaluate_explained (service.authority.snapshot context.nowMonotonicMs)
    request (CoordinatorService.effectiveDefinition record)
  have hbound : (evaluatedDecision service context request record).Explained :=
    ⟨hevaluated.reasons, hevaluated.rejection, hevaluated.unclassified⟩
  rw [settleDecision_eq]
  simp only
  split
  · exact releaseGrant_explained context.nowMonotonicMs hbound
  · exact hbound

/-- A plan that succeeds returns a decision. -/
theorem planFlowGroup_returns_of_isOk (h : (service.planFlowGroup context request).1.isOk = true) :
    ∃ decision, (service.planFlowGroup context request).2.1 = some decision := by
  cases planFlowGroup_result service context request with
  | refused status _ failed result =>
    rw [result, failed] at h
    cases h
  | stale _ _ _ result | settled _ _ _ result => exact ⟨_, by rw [result]⟩

/--
Every plan that succeeds returns an explained decision and keeps it in the
history under the next ordinal, with no field changed but the sequence.
-/
theorem planFlowGroup_explained (hreach : ServiceReachable service)
    (context : ServiceRequestContext) (request : DecisionRequest)
    (hok : (service.planFlowGroup context request).1.isOk = true) :
    let planned := service.planFlowGroup context request
    ∃ decision, planned.2.1 = some decision ∧ decision.Explained ∧
      planned.2.2.history.nextOrdinal = service.history.nextOrdinal + 1 ∧
      planned.2.2.history.slot service.history.nextOrdinal =
        some { decision with decisionSequence := ⟨service.history.nextOrdinal⟩ } := by
  intro planned
  obtain ⟨decision, hdecision⟩ := planFlowGroup_returns_of_isOk hok
  have hrecords := planFlowGroup_records service hdecision
  refine ⟨decision, hdecision, ?_, hrecords.nextOrdinal,
    hrecords.slot hreach.ledgerCoherent.history⟩
  rcases planFlowGroup_returns hdecision with hrefused | ⟨record, _, rfl⟩
  · exact lifecycleCheck_explained decision hrefused
  · exact settleDecision_explained record

end Service

open TwoMembers in
/-- The first decision of the two members is kept under the first ordinal. -/
theorem twoMembers_plan_explained :
    let planned := service.planFlowGroup (context 10) request
    ∃ decision, planned.2.1 = some decision ∧ decision.Explained ∧
      planned.2.2.history.nextOrdinal = service.history.nextOrdinal + 1 ∧
      planned.2.2.history.slot service.history.nextOrdinal =
        some { decision with decisionSequence := ⟨service.history.nextOrdinal⟩ } := by
  exact planFlowGroup_explained service_reachable (context 10) request (by decide)

end TrafficFabric
