import TrafficFabric.SessionTable
import TrafficFabric.DurableCatalog
import TrafficFabric.AuthorityCoherence
import TrafficFabric.GrantSoundness

/-!
# Which operations change the durable state

The durable state is the export of the catalog with the installed policy and
topology.  Apart from a restore, an operation changes it either by applying a
change that its answer reports, which also marks the change, or by planning: a
grant activates the collective's record without marking anything.
-/

namespace TrafficFabric

open Lib CoordinatorService

/-- What a snapshot of the service would hold of definitions, policy and topology. -/
structure DurableState where
  records : List CollectiveRecord
  policy : Option TrafficPolicy
  topology : Option TopologyEvidence

def CoordinatorService.durableState (service : CoordinatorService) : DurableState where
  records := service.catalog.exportAll
  policy := service.authority.policy
  topology := service.authority.topology

section Descriptions

/-- The operation leaves the installed policy and topology. -/
def AuthorityOp.keepsDescriptions : AuthorityOp → Bool
  | .installPolicy _ | .installTopology _ | .restoreDurable _ _ => false
  | _ => true

/-- The installed policy and topology of both states agree. -/
def SameDescriptions (s s' : AuthorityState) : Prop :=
  s'.policy = s.policy ∧ s'.topology = s.topology

theorem authorityStep_descriptions {s : AuthorityState} {op : AuthorityOp}
    (h : op.keepsDescriptions = true) : SameDescriptions s (authorityStep s op) := by
  have heffect := authorityStep_effect s op
  generalize authorityStep s op = s' at heffect
  cases heffect with
  | policy | topology | restored => cases h
  | peers _ _ rest =>
    obtain ⟨peers, highest, rfl⟩ := rest
    exact ⟨rfl, rfl⟩
  | _ => exact ⟨rfl, rfl⟩

theorem run_descriptions {s : AuthorityState} {ops : List AuthorityOp}
    (h : ∀ op ∈ ops, op.keepsDescriptions = true) :
    SameDescriptions s (run authorityStep s ops) := by
  have hstep : ∀ (s' : AuthorityState) (op : AuthorityOp), op.keepsDescriptions = true →
      SameDescriptions s s' → SameDescriptions s (authorityStep s' op) := by
    intro s' op hop hs
    obtain ⟨hpolicy, htopology⟩ := authorityStep_descriptions (s := s') hop
    exact ⟨hpolicy.trans hs.1, htopology.trans hs.2⟩
  exact Along.invariant hstep (along_of_forall s h) ⟨rfl, rfl⟩

end Descriptions

section Unapplied

variable (s : CoordinatorService)

variable {op : ServiceOp} {context : ServiceRequestContext} {reasons : ReasonChain}
  {definition : CollectiveDefinition}
variable {generation : CollectiveGeneration} {attempt : CollectiveAttemptId}

/-- An operation that hands on no installation leaves the policy and the topology. -/
theorem serviceStep_descriptions (h : ∀ a, Hands op a → a.keepsDescriptions = true) :
    SameDescriptions s.authority (serviceStep s op).authority := by
  rw [serviceStep_simulates_authority s op]
  exact run_descriptions fun a ha => h a (hands_of_mem_authorityTrace ha)

theorem ingestTopology_unapplied {evidence : TopologyEvidence} {minted : Minted}
    (h : s.applies (.ingestTopology context evidence minted reasons) = false) :
    SameDescriptions s.authority
      (serviceStep s (.ingestTopology context evidence minted reasons)).authority := by
  simp only [applies, ingestTopology] at h
  simp only [serviceStep, ingestTopology]
  split
  · exact ⟨rfl, rfl⟩
  · rename_i hchecked
    rw [if_neg hchecked] at h
    rcases installTopology_cases s.authority
      { evidence with
        generation := statedOrMinted evidence.generation minted }
      with ⟨hrefused, hsame⟩ | ⟨_, _, _, hinstalled⟩
    · simp only [if_neg hrefused, hsame]
      exact ⟨rfl, rfl⟩
    · rw [hinstalled] at h
      cases h

theorem installPolicy_unapplied {policy : TrafficPolicy} {minted : Minted}
    (h : s.applies (.installPolicy context policy minted reasons) = false) :
    SameDescriptions s.authority
      (serviceStep s (.installPolicy context policy minted reasons)).authority := by
  simp only [applies, installPolicy] at h
  simp only [serviceStep, installPolicy]
  split
  · exact ⟨rfl, rfl⟩
  · rename_i hchecked
    rw [if_neg hchecked] at h
    rcases installPolicy_cases s.authority
      { policy with generation := statedOrMinted policy.generation minted }
      with ⟨hrefused, hsame⟩ | ⟨_, _, _, hinstalled⟩
    · simp only [if_neg hrefused, hsame]
      exact ⟨rfl, rfl⟩
    · rw [hinstalled] at h
      cases h

/-- A registration that reports neither a new record nor an advance stores nothing. -/
theorem registerDefinition_unapplied {catalog : CollectiveCatalog} {now : UInt64}
    (hnew : (catalog.registerDefinition definition now).1.result ≠ .registered)
    (hadvanced : (catalog.registerDefinition definition now).1.result ≠ .generationAdvanced) :
    (catalog.registerDefinition definition now).2 = catalog := by
  have hresult := registerDefinition_result catalog definition now
  generalize catalog.registerDefinition definition now = result at hresult hnew hadvanced
  cases hresult with
  | rejected | unchanged => rfl
  | registered _ _ _ result => exact absurd result hnew
  | advanced _ _ _ _ _ result => exact absurd result hadvanced

theorem registerCollective_outcome
    (hopen : s.running = true ∧ s.sessions.find context.session ≠ none) :
    (s.registerCollective context definition).2.1 =
      (s.catalog.registerDefinition definition context.nowMonotonicMs).1 := by
  simp only [registerCollective, hopen.1, hopen.2, Bool.true_eq_false, if_false]
  split <;> rfl

theorem registerCollective_unapplied
    (h : s.applies (.registerCollective context definition) = false) :
    (serviceStep s (.registerCollective context definition)).catalog = s.catalog := by
  rw [(serviceStep_effect s _).catalog, catalogTrace]
  split_ifs with hopen
  · simp only [applies, registerCollective_outcome s hopen] at h
    refine registerDefinition_unapplied ?_ ?_
    · intro hresult
      rw [hresult] at h
      cases h
    · intro hresult
      rw [hresult] at h
      cases h
  · rfl

theorem beginAttempt_unapplied {id : CollectiveId} {bytes : UInt64}
    (h : (s.beginAttempt context id generation attempt bytes).1.isOk = false) :
    (s.beginAttempt context id generation attempt bytes).2.2.catalog = s.catalog := by
  have hresult := beginAttempt_result s context id generation attempt bytes
  generalize s.beginAttempt context id generation attempt bytes = result at hresult h ⊢
  cases hresult with
  | refused _ _ _ refuses => exact refuses.catalog
  | opened => cases h

theorem endCollective_unapplied {texts : CoordinatorService.EndingTexts} {id : CollectiveId}
    (hcode : ∀ state, texts.terminalCode state ≠ .ok)
    (h : (s.endCollective texts context id generation attempt reasons).1.isOk = false) :
    (s.endCollective texts context id generation attempt reasons).2.2.2.catalog = s.catalog := by
  have hresult := endCollective_result s context id generation attempt hcode reasons
  generalize s.endCollective texts context id generation attempt reasons = result at hresult h ⊢
  cases hresult with
  | refused _ _ refuses => exact refuses.catalog
  | ended => cases h

/-- The operation changes the file of the snapshot, or the durable state from it. -/
def ServiceOp.concernsFile : ServiceOp → Bool
  | .configurePersistence _ _ | .restore _ _ _ => true
  | _ => false

/-- Apart from plans and restores, what is not applied leaves the catalog. -/
theorem catalog_of_unapplied (hop : op.concernsFile = false)
    (hplan : ∀ context request, op ≠ .planFlowGroup context request) (h : s.applies op = false) :
    (serviceStep s op).catalog = s.catalog := by
  cases op with
  | restore | configurePersistence => cases hop
  | planFlowGroup context request => exact absurd rfl (hplan context request)
  | registerCollective => exact registerCollective_unapplied s h
  | beginAttempt => exact beginAttempt_unapplied s h
  | cancelCollective =>
    exact endCollective_unapplied s cancelTexts_terminalCode h
  | retireCollective =>
    exact endCollective_unapplied s (fun _ => nofun) h
  | _ => exact serviceStep_simulates_catalog s _

/-- Apart from restores, what is not applied leaves the policy and the topology. -/
theorem descriptions_of_unapplied (hop : op.concernsFile = false) (h : s.applies op = false) :
    SameDescriptions s.authority (serviceStep s op).authority := by
  cases op with
  | restore | configurePersistence => cases hop
  | ingestTopology => exact ingestTopology_unapplied s h
  | installPolicy => exact installPolicy_unapplied s h
  | _ =>
    refine serviceStep_descriptions s ?_
    intro a ha
    cases ha <;> rfl

end Unapplied

section Activation

variable {s : CoordinatorService} {context : ServiceRequestContext} {request : DecisionRequest}
  {record : CollectiveRecord}

/-- The record of the collective once its activation is stored. -/
def activatedRecord (s : CoordinatorService) (now : UInt64) (record : CollectiveRecord) :
    CollectiveRecord :=
  { record with
    state := .active
    lastMutatedMonotonicMs := now
    lastMutationSequence := s.catalog.mutationSequence.next }

theorem activatedRecord_eq_self_iff (now : UInt64) :
    activatedRecord s now record = record ↔
      record.state = .active ∧ record.lastMutatedMonotonicMs = now ∧
        record.lastMutationSequence = s.catalog.mutationSequence.next := by
  cases record
  simp only [activatedRecord, CollectiveRecord.mk.injEq, true_and, and_true]
  grind

/-- A grant stores the activated record and nothing else. -/
theorem find_setState_active (h : s.lifecycleCheck context request = .ok record)
    (id : CollectiveId) :
    (s.catalog.setState request.collectiveInstance.id .active context.nowMonotonicMs).2.find id =
      if id = request.collectiveInstance.id then
        some (activatedRecord s context.nowMonotonicMs record)
      else
        s.catalog.find id := by
  obtain ⟨hfind, _, _, _, hterminal⟩ := lifecycleCheck_eq_ok_iff.mp h
  unfold CollectiveCatalog.setState
  rw [hfind]
  simp only [hterminal, Bool.false_eq_true, false_and, if_false]
  exact KeyMap.find_assign _ _ _ _

/-- The plan passes its checks and the engine grants it. -/
def CoordinatorService.grants
    (s : CoordinatorService) (context : ServiceRequestContext) (request : DecisionRequest)
    (record : CollectiveRecord) : Prop :=
  (s.checkPlanContext context).isOk = true ∧ (validateDecisionRequest request).isOk = true ∧
    s.lifecycleCheck context request = .ok record ∧
    outcomeGrantsAuthority
      (evaluate (s.authority.snapshot context.nowMonotonicMs) request
        (CoordinatorService.effectiveDefinition record)).outcome = true

theorem planTrace_of_grants (h : s.grants context request record) :
    planTrace s context request =
      [.setState request.collectiveInstance.id .active context.nowMonotonicMs] := by
  obtain ⟨hcontext, hrequest, hlifecycle, houtcome⟩ := h
  unfold planTrace
  rw [if_pos ⟨hcontext, hrequest⟩, hlifecycle]
  exact if_pos houtcome

theorem planTrace_of_not_grants (h : ∀ record, ¬ s.grants context request record) :
    planTrace s context request = [] := by
  unfold planTrace
  split_ifs with hchecks
  · split
    · rfl
    · rename_i record hlifecycle
      exact if_neg fun houtcome => h record ⟨hchecks.1, hchecks.2, hlifecycle, houtcome⟩
  · rfl

/-- A plan changes the durable state exactly when it grants and the activation is news. -/
theorem planFlowGroup_durableState_eq_iff (hs : ServiceReachable s) :
    (serviceStep s (.planFlowGroup context request)).durableState = s.durableState ↔
      ∀ record, s.grants context request record →
        activatedRecord s context.nowMonotonicMs record = record := by
  have hkeyed := hs.keyed
  have hkeyed' : Keyed (serviceStep s (.planFlowGroup context request)).catalog :=
    (hs.run [.planFlowGroup context request]).keyed
  have hauthority : (serviceStep s (.planFlowGroup context request)).authority = s.authority :=
    (serviceStep_sameAccess s rfl).authority
  have hcatalog := (serviceStep_effect s (.planFlowGroup context request)).catalog
  have hexport :
      (serviceStep s (.planFlowGroup context request)).durableState = s.durableState ↔
        ∀ id, (serviceStep s (.planFlowGroup context request)).catalog.find id =
          s.catalog.find id := by
    rw [← hkeyed.exportAll_eq_iff hkeyed']
    simp [durableState, hauthority]
  rw [hexport]
  by_cases hgrants : ∃ record, s.grants context request record
  · obtain ⟨record, hrecord⟩ := hgrants
    have hlifecycle := hrecord.2.2.1
    have hfind := (lifecycleCheck_eq_ok_iff.mp hlifecycle).1
    rw [catalogTrace, planTrace_of_grants hrecord] at hcatalog
    rw [hcatalog]
    simp only [run_cons, run_nil, catalogStep, find_setState_active hlifecycle]
    constructor
    · intro hsame other hother
      cases hlifecycle.symm.trans hother.2.2.1
      have hid := hsame request.collectiveInstance.id
      rw [if_pos rfl, hfind] at hid
      exact Option.some.inj hid
    · intro hsame id
      split_ifs with hid
      · rw [hid, hfind, hsame record hrecord]
      · rfl
  · rw [not_exists] at hgrants
    rw [catalogTrace, planTrace_of_not_grants hgrants] at hcatalog
    rw [hcatalog]
    constructor
    · intro _ record hrecord
      exact absurd hrecord (hgrants record)
    · intro _ id
      rfl

end Activation

section Marks

/-- A plan is granted while no change is marked, and its activation changes the record. -/
def CoordinatorService.activatesUnmarked (s : CoordinatorService) : ServiceOp → Prop
  | .planFlowGroup context request =>
    s.persistenceDirty = false ∧ ∃ record, s.grants context request record ∧
      (record.state ≠ .active ∨ record.lastMutatedMonotonicMs ≠ context.nowMonotonicMs ∨
        record.lastMutationSequence ≠ s.catalog.mutationSequence.next)
  | _ => False

theorem usesFile_of_applies {s : CoordinatorService} {op : ServiceOp} (h : s.applies op = true) :
    op.usesFile = false := by
  cases op with
  | stop | completeSave | flush | configurePersistence | restore => cases h
  | _ => rfl

theorem plan_marked_iff {s : CoordinatorService} (hs : ServiceReachable s)
    (context : ServiceRequestContext) (request : DecisionRequest) :
    ((serviceStep s (.planFlowGroup context request)).durableState ≠ s.durableState →
        (serviceStep s (.planFlowGroup context request)).persistenceDirty = true) ↔
      ¬ s.activatesUnmarked (.planFlowGroup context request) := by
  have hdirty : (serviceStep s (.planFlowGroup context request)).persistenceDirty =
      s.persistenceDirty :=
    congrArg Durability.dirty (serviceStep_durability s rfl)
  rw [hdirty, ne_eq, planFlowGroup_durableState_eq_iff hs]
  simp only [activatedRecord_eq_self_iff, activatesUnmarked]
  cases s.persistenceDirty with
  | true => simp
  | false =>
    simp only [Bool.false_eq_true, imp_false, not_not, true_and, not_exists, not_and]
    refine forall_congr' fun record => imp_congr_right fun _ => ?_
    simp only [not_or, not_not]

/-- Every operation that changes the durable state leaves it marked, except a grant that
activates a record while nothing is marked. -/
theorem durable_changes_marked_iff {s : CoordinatorService} {op : ServiceOp}
    (hs : ServiceReachable s) (hop : op.concernsFile = false) :
    ((serviceStep s op).durableState ≠ s.durableState →
        (serviceStep s op).persistenceDirty = true) ↔
      ¬ s.activatesUnmarked op := by
  by_cases hplan : ∃ context request, op = .planFlowGroup context request
  · obtain ⟨context, request, rfl⟩ := hplan
    exact plan_marked_iff hs context request
  · have hnever : ¬ s.activatesUnmarked op := by
      cases op with
      | planFlowGroup context request => exact absurd ⟨context, request, rfl⟩ hplan
      | _ => exact id
    refine iff_of_true ?_ hnever
    intro hchanged
    by_contra hunmarked
    have happlies : s.applies op = false := by
      by_contra happlied
      have happlied' : s.applies op = true := by simpa using happlied
      have hmarked := serviceStep_durability s (usesFile_of_applies happlied')
      rw [happlied', markedIf_true] at hmarked
      exact hunmarked (congrArg Durability.dirty hmarked)
    have hcatalog := catalog_of_unapplied s hop (by simpa using hplan) happlies
    obtain ⟨hpolicy, htopology⟩ := descriptions_of_unapplied s hop happlies
    refine hchanged ?_
    simp only [durableState, hcatalog, hpolicy, htopology]

end Marks

namespace TwoMembers

/-- The service with a path, once everything in place has been flushed. -/
def allFlushed : CoordinatorService :=
  run serviceStep (.create {})
    ([.configurePersistence [112] 0] ++ setup ++ [.flush 8, .completeSave 4])

theorem allFlushed_reachable : ServiceReachable allFlushed := by
  exact ⟨{}, _, rfl⟩

end TwoMembers

open TwoMembers in
/-- A granted plan activates a record, and nothing marks the change. -/
theorem grant_changes_unmarked :
    ServiceReachable allFlushed ∧ allFlushed.persistencePath ≠ [] ∧
      (serviceStep allFlushed (.planFlowGroup (context 10) request)).durableState ≠
        allFlushed.durableState ∧
      (serviceStep allFlushed (.planFlowGroup (context 10) request)).persistenceDirty = false := by
  refine ⟨allFlushed_reachable, by decide, ?_, by decide⟩
  intro hsame
  have hstates := congrArg (fun state => state.records.map CollectiveRecord.state) hsame
  exact absurd hstates (by decide)

open TwoMembers in
/-- A cancellation in the same state is marked. -/
theorem durable_changes_marked_of_cancellation :
    allFlushed.persistenceDirty = false ∧
      (serviceStep allFlushed
        (.cancelCollective (context 10) ⟨31, 0⟩ ⟨32, 0⟩ ⟨33, 0⟩ [])).persistenceDirty = true := by
  refine ⟨by decide, (durable_changes_marked_iff allFlushed_reachable rfl).mpr id ?_⟩
  intro hsame
  have hstates := congrArg (fun state => state.records.map CollectiveRecord.state) hsame
  exact absurd hstates (by decide)

end TrafficFabric
