import TrafficFabric.HistoryRing
import TrafficFabric.GrantSoundness

/-!
# Decisions under a correlation value

A plan under a session and a correlation value can be explained later by that
value: an index leads from the value to the ordinal of its decision.  Two things
are weaker than the index suggests.  A decision the lifecycle turned away is
recorded but not indexed, and a binding that finds the index as large as the
history drops the whole index first.

Both are decided by the state a plan meets, and together they say exactly when a
decision that is still retained is explained, as long as the ordinals have not
wrapped.
-/

namespace TrafficFabric

open Lib

/-- The request comes under a session and a correlation value. -/
def ServiceRequestContext.Correlated (context : ServiceRequestContext) : Prop :=
  context.session.isSome = true ∧ context.correlation ≠ 0

/-- The plan binds the correlation value of its context. -/
def CoordinatorService.BindsBy (s : CoordinatorService) (context : ServiceRequestContext)
    (request : DecisionRequest) : Prop :=
  s.AcceptsPlan context request ∧ s.PlansCurrent request ∧ context.Correlated

section Plans

variable (s : CoordinatorService) (context : ServiceRequestContext) (request : DecisionRequest)

/-- What a plan does to the history. -/
inductive PlanHistory : Prop
  | kept
      (refuses : ¬ s.AcceptsPlan context request)
      (returned : (s.planFlowGroup context request).2.1 = none)
      (history : (s.planFlowGroup context request).2.2.history = s.history)
  | recorded (decision : DecisionRecord)
      (accepts : s.AcceptsPlan context request)
      (unbound : ¬ s.BindsBy context request)
      (returned : (s.planFlowGroup context request).2.1 = some decision)
      (history : (s.planFlowGroup context request).2.2.history = (s.history.record decision).2)
  | bound (decision : DecisionRecord)
      (binds : s.BindsBy context request)
      (returned : (s.planFlowGroup context request).2.1 = some decision)
      (history : (s.planFlowGroup context request).2.2.history =
        (s.history.record decision).2.bindCorrelation context.correlation s.history.nextOrdinal)

theorem planFlowGroup_history : PlanHistory s context request := by
  cases planFlowGroup_result s context request with
  | refused status refuses _ result => exact .kept refuses (by rw [result]) (by rw [result])
  | stale decision accepts lifecycle result =>
    refine .recorded decision accepts ?_ (by rw [result]) (by rw [result])
    exact fun hbinds => not_plansCurrent_of_error lifecycle hbinds.2.1
  | settled record accepts lifecycle result =>
    have hkept := (settleDecision_ledger s context request record).1
    by_cases hcorrelated : context.Correlated
    · refine .bound _ ⟨accepts, plansCurrent_of_ok lifecycle, hcorrelated⟩ (by rw [result]) ?_
      rw [result, ← hkept]
      exact if_pos hcorrelated
    · refine .recorded _ accepts (fun hbinds => hcorrelated hbinds.2.2) (by rw [result]) ?_
      rw [result, ← hkept]
      exact if_neg hcorrelated

end Plans

section Conditions

/-- A plan is not decided under the last ordinal a word can hold. -/
def Unwrapped (s : CoordinatorService) (op : ServiceOp) : Prop :=
  ∀ context request, op = .planFlowGroup context request → s.AcceptsPlan context request →
    s.history.nextOrdinal.toNat + 1 < 2 ^ 64

/-- A binding finds room in the index. -/
def KeepsIndex (s : CoordinatorService) (op : ServiceOp) : Prop :=
  ∀ context request, op = .planFlowGroup context request → s.BindsBy context request →
    s.history.correlations.size < s.history.capacity

/-- The operation is no stop that takes effect and no plan under the correlation value. -/
def SparesCorrelation (correlation : UInt64) (s : CoordinatorService) (op : ServiceOp) : Prop :=
  ¬ s.StopsBy op ∧
    ∀ context request, op = .planFlowGroup context request → context.correlation ≠ correlation

end Conditions

section Index

/-- The history retains a tail of the log, below the word size, and the index names its entries. -/
structure DecisionHistory.Indexes
    (history : DecisionHistory) (log : List DecisionRecord) (dropped : Nat) : Prop where
  retains : history.Retains log dropped
  unwrapped : log.length + 1 < 2 ^ 64
  issued : ∀ key ordinal, history.correlations.find key = some ordinal → ordinal.toNat ≤ log.length

namespace DecisionHistory.Indexes

variable {history : DecisionHistory} {log : List DecisionRecord} {dropped : Nat}

theorem empty (capacity : Nat) :
    Indexes { capacity := capacity } [] 0 where
  retains := Retains.empty capacity
  unwrapped := by decide
  issued := by
    intro key ordinal hfind
    cases hfind

theorem setCapacity (h : history.Indexes log dropped) (hcoherent : history.Coherent)
    (capacity : Nat) : ∃ dropped', (history.setCapacity capacity).Indexes log dropped' := by
  obtain ⟨dropped', hretains⟩ := h.retains.step hcoherent (.setCapacity capacity)
  exact ⟨dropped', hretains, h.unwrapped, h.issued⟩

theorem record (h : history.Indexes log dropped) (hcoherent : history.Coherent)
    (hroom : history.nextOrdinal.toNat + 1 < 2 ^ 64) (decision : DecisionRecord) :
    ∃ dropped', (history.record decision).2.Indexes (log ++ [decision]) dropped' := by
  obtain ⟨dropped', hretains⟩ := h.retains.step hcoherent (.record decision)
  rw [h.retains.toNat_next h.unwrapped] at hroom
  refine ⟨dropped', hretains, ?_, ?_⟩
  · rw [List.length_append]
    exact hroom
  · intro key ordinal hfind
    have hissued := h.issued key ordinal hfind
    rw [List.length_append]
    omega

theorem bindCorrelation (h : history.Indexes log dropped) {ordinal : UInt64}
    (hordinal : ordinal.toNat ≤ log.length) (correlation : UInt64) :
    (history.bindCorrelation correlation ordinal).Indexes log dropped := by
  unfold DecisionHistory.bindCorrelation
  split
  · exact h
  · refine ⟨⟨h.retains.tail, h.retains.newest, h.retains.first, h.retains.next,
      h.retains.evicted⟩, h.unwrapped, ?_⟩
    intro key found hfind
    simp only [KeyMap.find_assign] at hfind
    split at hfind
    · cases hfind
      exact hordinal
    · split at hfind
      · cases hfind
      · exact h.issued key found hfind

/-- An entry of the log is found under its ordinal until it is evicted. -/
theorem findCorrelation_eq_ok_iff (h : history.Indexes log dropped) {ordinal : UInt64}
    {record : DecisionRecord} (hentry : (numbered log)[ordinal.toNat - 1]? = some record)
    (hretained : history.firstOrdinal ≤ ordinal) (correlation : UInt64) :
    history.findCorrelation correlation = .ok record ↔
      history.correlations.find ⟨correlation, 0⟩ = some ordinal := by
  have hpositive : ∀ found, history.firstOrdinal ≤ found → 1 ≤ found.toNat := by
    intro found hfound
    have hfirst := UInt64.le_iff_toNat_le.mp hfound
    rw [h.retains.toNat_first h.unwrapped] at hfirst
    omega
  have hstored : ∀ found, history.firstOrdinal ≤ found → ∀ entry,
      (numbered log)[found.toNat - 1]? = some entry → entry.decisionSequence = ⟨found⟩ := by
    intro found hfound entry hplace
    rw [getElem?_numbered, Option.map_eq_some_iff] at hplace
    obtain ⟨decision, _, rfl⟩ := hplace
    have hset := hpositive found hfound
    rw [numberedAt, show found.toNat - 1 + 1 = found.toNat by omega]
    simp
  have hslot : ∀ found, history.firstOrdinal ≤ found →
      history.slot found = (numbered log)[found.toNat - 1]? :=
    fun found hfound => h.retains.slot_eq h.unwrapped hfound
  unfold DecisionHistory.findCorrelation
  constructor
  · intro hfound
    cases hindex : history.correlations.find ⟨correlation, 0⟩ with
    | none =>
      rw [hindex] at hfound
      cases hfound
    | some found =>
      rw [hindex] at hfound
      simp only at hfound
      split_ifs at hfound with _ hevicted
      have hle : history.firstOrdinal ≤ found := UInt64.not_lt.mp hevicted
      rw [← DecisionHistory.slot, hslot found hle] at hfound
      cases hplace : (numbered log)[found.toNat - 1]? with
      | none =>
        rw [hplace] at hfound
        cases hfound
      | some entry =>
        rw [hplace] at hfound
        cases hfound
        have hsame := (hstored found hle record hplace).symm.trans
          (hstored ordinal hretained record hentry)
        exact congrArg (fun sequence => some sequence.value) hsame
  · intro hindex
    have hissued := h.issued _ _ hindex
    have hnext : ¬ history.nextOrdinal ≤ ordinal := by
      rw [UInt64.le_iff_toNat_le, h.retains.toNat_next h.unwrapped]
      omega
    rw [hindex]
    simp only
    rw [if_neg hnext, if_neg (UInt64.not_lt.mpr hretained), ← DecisionHistory.slot,
      hslot ordinal hretained, hentry]

end DecisionHistory.Indexes

variable {s : CoordinatorService} {log : List DecisionRecord} {dropped : Nat}

/-- An operation starts the log afresh when it stops the service; otherwise it only adds to it. -/
theorem DecisionHistory.Indexes.step (h : s.history.Indexes log dropped)
    (hcoherent : s.history.Coherent) {op : ServiceOp} (hunwrapped : Unwrapped s op) :
    (s.StopsBy op ∧ (serviceStep s op).history.Indexes [] 0) ∨
      ∃ later dropped', (serviceStep s op).history.Indexes (log ++ later) dropped' := by
  by_cases hplan : ∃ context request, op = .planFlowGroup context request
  · right
    obtain ⟨context, request, rfl⟩ := hplan
    simp only [serviceStep]
    cases planFlowGroup_history s context request with
    | kept _ _ history =>
      rw [history]
      exact ⟨[], dropped, by rwa [List.append_nil]⟩
    | recorded decision accepts _ _ history =>
      rw [history]
      exact ⟨[decision], h.record hcoherent (hunwrapped context request rfl accepts) decision⟩
    | bound decision binds _ history =>
      rw [history]
      obtain ⟨dropped', hrecorded⟩ :=
        h.record hcoherent (hunwrapped context request rfl binds.1) decision
      refine ⟨[decision], dropped', hrecorded.bindCorrelation ?_ context.correlation⟩
      rw [h.retains.toNat_next h.unwrapped, List.length_append]
      exact Nat.le_refl _
  · cases serviceStep_tableChange s (fun context request hop => hplan ⟨context, request, hop⟩) with
    | kept _ history | reset _ _ history =>
      rw [history]
      exact .inr ⟨[], dropped, by rwa [List.append_nil]⟩
    | cleared stops _ history _ =>
      rw [history]
      exact .inl ⟨stops, .empty _⟩
    | resized capacity _ history _ =>
      rw [history]
      obtain ⟨dropped', hresized⟩ := h.setCapacity hcoherent capacity
      exact .inr ⟨[], dropped', by rwa [List.append_nil]⟩

/-- The tables are coherent, and the index names entries of some log. -/
def Indexed (s : CoordinatorService) : Prop :=
  LedgerCoherent s ∧ ∃ log dropped, s.history.Indexes log dropped

theorem indexed_step (s : CoordinatorService) (op : ServiceOp) (hunwrapped : Unwrapped s op)
    (h : Indexed s) : Indexed (serviceStep s op) := by
  obtain ⟨hcoherent, log, dropped, hindexes⟩ := h
  refine ⟨serviceStep_ledgerCoherent s op hcoherent, ?_⟩
  rcases hindexes.step hcoherent.history hunwrapped with ⟨-, hempty⟩ | ⟨later, dropped', hlater⟩
  · exact ⟨[], 0, hempty⟩
  · exact ⟨log ++ later, dropped', hlater⟩

theorem indexed_create (config : ServiceConfig) : Indexed (CoordinatorService.create config) := by
  have hcoherent := DecisionHistory.Coherent.init.setCapacity config.decisionHistoryCapacity
  obtain ⟨dropped, hindexes⟩ := (DecisionHistory.Indexes.empty _).setCapacity
    DecisionHistory.Coherent.init config.decisionHistoryCapacity
  exact ⟨⟨hcoherent, AdmissionController.bounded_init⟩, [], dropped, hindexes⟩

/-- The log has the record under the ordinal. -/
def Logged (ordinal : UInt64) (record : DecisionRecord) (s : CoordinatorService) : Prop :=
  LedgerCoherent s ∧ ∃ log dropped, s.history.Indexes log dropped ∧
    (numbered log)[ordinal.toNat - 1]? = some record

/-- What is logged stays logged until a stop. -/
theorem logged_step {ordinal : UInt64} {record : DecisionRecord} (s : CoordinatorService)
    (op : ServiceOp) (hmeets : Unwrapped s op ∧ ¬ s.StopsBy op) (h : Logged ordinal record s) :
    Logged ordinal record (serviceStep s op) := by
  obtain ⟨hcoherent, log, dropped, hindexes, hentry⟩ := h
  refine ⟨serviceStep_ledgerCoherent s op hcoherent, ?_⟩
  rcases hindexes.step hcoherent.history hmeets.1 with ⟨hstops, -⟩ | ⟨later, dropped', hlater⟩
  · exact absurd hstops hmeets.2
  · refine ⟨log ++ later, dropped', hlater, ?_⟩
    have hwithin : ordinal.toNat - 1 < log.length := by
      rw [← length_numbered]
      exact (List.getElem?_eq_some_iff.mp hentry).1
    rw [getElem?_numbered, List.getElem?_append_left hwithin, ← getElem?_numbered]
    exact hentry

/-- A plan logs its decision under the ordinal that was next. -/
theorem logged_plan {context : ServiceRequestContext} {request : DecisionRequest}
    {decision : DecisionRecord} (hunwrapped : Unwrapped s (.planFlowGroup context request))
    (h : Indexed s) (hplan : (s.planFlowGroup context request).2.1 = some decision) :
    Logged s.history.nextOrdinal { decision with decisionSequence := ⟨s.history.nextOrdinal⟩ }
      (serviceStep s (.planFlowGroup context request)) := by
  obtain ⟨hcoherent, log, dropped, hindexes⟩ := h
  refine ⟨serviceStep_ledgerCoherent s _ hcoherent, log ++ [decision], ?_⟩
  have hnext := hindexes.retains.toNat_next hindexes.unwrapped
  have hentry : (numbered (log ++ [decision]))[s.history.nextOrdinal.toNat - 1]? =
      some { decision with decisionSequence := ⟨s.history.nextOrdinal⟩ } := by
    rw [hnext, numbered_concat, List.getElem?_append_right (by simp), length_numbered,
      hindexes.retains.next]
    simp [numberedAt]
  simp only [serviceStep]
  cases planFlowGroup_history s context request with
  | kept _ returned _ => cases returned.symm.trans hplan
  | recorded other accepts _ returned history =>
    cases returned.symm.trans hplan
    obtain ⟨dropped', hrecorded⟩ := hindexes.record hcoherent.history
      (hunwrapped context request rfl accepts) decision
    exact ⟨dropped', history ▸ hrecorded, hentry⟩
  | bound other binds returned history =>
    cases returned.symm.trans hplan
    obtain ⟨dropped', hrecorded⟩ := hindexes.record hcoherent.history
      (hunwrapped context request rfl binds.1) decision
    refine ⟨dropped', history ▸ hrecorded.bindCorrelation ?_ context.correlation, hentry⟩
    rw [hnext, List.length_append]
    exact Nat.le_refl _

end Index

section Bindings

/-- The index leads from the correlation value to the ordinal. -/
def BoundTo (correlation ordinal : UInt64) (s : CoordinatorService) : Prop :=
  s.history.correlations.find ⟨correlation, 0⟩ = some ordinal

variable {s : CoordinatorService}

theorem find_bindCorrelation_of_ne {history : DecisionHistory} {correlation other : UInt64}
    (hset : other ≠ 0) (hother : other ≠ correlation) (ordinal found : UInt64) :
    (history.bindCorrelation other ordinal).correlations.find ⟨correlation, 0⟩ = some found ↔
      history.correlations.find ⟨correlation, 0⟩ = some found ∧
        history.correlations.size < history.capacity := by
  have hkey : (⟨correlation, 0⟩ : Identity) ≠ ⟨other, 0⟩ := by
    intro hsame
    exact hother (congrArg Identity.hi hsame).symm
  rw [DecisionHistory.bindCorrelation, if_neg hset]
  simp only
  rw [KeyMap.find_assign_of_ne _ _ hkey]
  split
  · rename_i hfull
    simp [Nat.not_lt.mpr hfull]
  · rename_i hroom
    simp [Nat.not_le.mp hroom]

/-- A binding survives an operation that spares it exactly when the index is kept. -/
theorem boundTo_step_iff {correlation ordinal : UInt64} (s : CoordinatorService) (op : ServiceOp)
    (hspares : SparesCorrelation correlation s op) :
    BoundTo correlation ordinal (serviceStep s op) ↔
      BoundTo correlation ordinal s ∧ KeepsIndex s op := by
  unfold BoundTo
  by_cases hplan : ∃ context request, op = .planFlowGroup context request
  · obtain ⟨context, request, rfl⟩ := hplan
    have hkeeps : KeepsIndex s (.planFlowGroup context request) ↔
        (s.BindsBy context request → s.history.correlations.size < s.history.capacity) :=
      ⟨fun h => h context request rfl, fun h _ _ hop => by cases hop; exact h⟩
    rw [hkeeps]
    simp only [serviceStep]
    cases planFlowGroup_history s context request with
    | kept refuses _ history =>
      rw [history]
      exact (and_iff_left fun hbinds => absurd hbinds.1 refuses).symm
    | recorded decision _ unbound _ history =>
      rw [history]
      exact (and_iff_left fun hbinds => absurd hbinds unbound).symm
    | bound decision binds _ history =>
      rw [history, find_bindCorrelation_of_ne binds.2.2.2 (hspares.2 context request rfl),
        forall_prop_of_true binds]
      rfl
  · have hkeeps : KeepsIndex s op := fun context request hop => absurd ⟨context, request, hop⟩ hplan
    rw [and_iff_left hkeeps]
    cases serviceStep_tableChange s (fun context request hop => hplan ⟨context, request, hop⟩) with
    | kept _ history _ => rw [history]
    | reset _ _ history _ => rw [history]
    | cleared stops _ _ _ => exact absurd stops hspares.1
    | resized capacity _ history _ =>
      rw [history]
      rfl

/-- A plan binds the next ordinal to its correlation value exactly when it is current. -/
theorem boundTo_plan_iff {context : ServiceRequestContext} {request : DecisionRequest}
    {decision : DecisionRecord} (h : Indexed s) (hcorrelated : context.Correlated)
    (hplan : (s.planFlowGroup context request).2.1 = some decision) :
    BoundTo context.correlation s.history.nextOrdinal
        (serviceStep s (.planFlowGroup context request)) ↔
      s.PlansCurrent request := by
  obtain ⟨-, log, dropped, hindexes⟩ := h
  unfold BoundTo
  simp only [serviceStep]
  cases planFlowGroup_history s context request with
  | kept _ returned _ => cases returned.symm.trans hplan
  | recorded other accepts unbound _ history =>
    rw [history]
    refine ⟨fun hfind => ?_, fun hcurrent => absurd ⟨accepts, hcurrent, hcorrelated⟩ unbound⟩
    -- What the index held before names earlier ordinals only.
    have hissued := hindexes.issued _ _ hfind
    rw [hindexes.retains.toNat_next hindexes.unwrapped] at hissued
    omega
  | bound other binds _ history =>
    rw [history, DecisionHistory.bindCorrelation, if_neg hcorrelated.2]
    exact iff_of_true (KeyMap.find_assign_self _ _ _) binds.2.1

end Bindings

section Explained

theorem explainCorrelation_eq_some_iff {s : CoordinatorService} {correlation : UInt64}
    {record : DecisionRecord} :
    (s.explainCorrelation correlation).1 = some record ↔
      s.history.findCorrelation correlation = .ok record := by
  unfold CoordinatorService.explainCorrelation
  cases s.history.findCorrelation correlation with
  | ok found => simp
  | error status => simp

/--
A plan under a session and a correlation value returned a decision.  As long as
the decision is retained and no later plan used the value, the value explains the
decision exactly when the plan named a current attempt and no later binding found
the index full.
-/
theorem correlated_decision_explained_iff (config : ServiceConfig) (before after : List ServiceOp)
    (context : ServiceRequestContext) (request : DecisionRequest) (decision : DecisionRecord)
    (hcorrelated : context.Correlated)
    (hplan : ((run serviceStep (CoordinatorService.create config) before).planFlowGroup context
      request).2.1 = some decision)
    (hunwrapped : Along serviceStep Unwrapped (CoordinatorService.create config)
      (before ++ .planFlowGroup context request :: after))
    (hspares : Along serviceStep (SparesCorrelation context.correlation)
      (run serviceStep (CoordinatorService.create config)
        (before ++ [.planFlowGroup context request])) after)
    (hretained : (run serviceStep (CoordinatorService.create config)
        (before ++ .planFlowGroup context request :: after)).history.firstOrdinal ≤
      (run serviceStep (CoordinatorService.create config) before).history.nextOrdinal) :
    ((run serviceStep (CoordinatorService.create config)
          (before ++ .planFlowGroup context request :: after)).explainCorrelation
        context.correlation).1 =
        some { decision with
          decisionSequence :=
            ⟨(run serviceStep (CoordinatorService.create config) before).history.nextOrdinal⟩ } ↔
      (run serviceStep (CoordinatorService.create config) before).PlansCurrent request ∧
        Along serviceStep KeepsIndex
          (run serviceStep (CoordinatorService.create config)
            (before ++ [.planFlowGroup context request])) after := by
  obtain ⟨hbefore, hdecided, hafter⟩ := (along_append ..).mp hunwrapped
  have hindexed := hbefore.invariant indexed_step (indexed_create config)
  rw [run_append, run_cons] at hretained ⊢
  rw [run_append, run_cons, run_nil] at hspares ⊢
  generalize run serviceStep (.create config) before = s at *
  have hlogged := logged_plan hdecided hindexed hplan
  have hmeets : Along serviceStep (fun s op => Unwrapped s op ∧ ¬ s.StopsBy op)
      (serviceStep s (.planFlowGroup context request)) after :=
    hafter.and (hspares.mono fun _ _ h => h.1)
  obtain ⟨-, log, dropped, hindexes, hentry⟩ := hmeets.invariant logged_step hlogged
  rw [explainCorrelation_eq_some_iff, hindexes.findCorrelation_eq_ok_iff hentry hretained,
    ← boundTo_plan_iff hindexed hcorrelated hplan]
  exact inv_run_iff_along boundTo_step_iff hspares

namespace TwoMembers

/-- A request under session 41 and a correlation value. -/
def correlated (now correlation : UInt64) : ServiceRequestContext :=
  { context now with correlation := correlation }

/-- A plan under correlation value 8, after another one under 7. -/
def laterPlan : ServiceOp :=
  .planFlowGroup (correlated 11 8) request

end TwoMembers

theorem unwrapped_of_ordinal {s : CoordinatorService} (h : s.history.nextOrdinal.toNat + 1 < 2 ^ 64)
    (op : ServiceOp) : Unwrapped s op := by
  exact fun _ _ _ _ => h

open TwoMembers in
/-- The plan of the two members is explained by its value, also after a plan under another. -/
theorem first_plan_explained :
    ∃ decision, (service.planFlowGroup (correlated 10 7) request).2.1 = some decision ∧
      ((run serviceStep (CoordinatorService.create {})
          (setup ++ .planFlowGroup (correlated 10 7) request :: [laterPlan])).explainCorrelation
        7).1 = some { decision with decisionSequence := ⟨service.history.nextOrdinal⟩ } := by
  have hreturned : (service.planFlowGroup (correlated 10 7) request).2.1.isSome = true := by
    decide +kernel
  obtain ⟨decision, hplan⟩ := Option.isSome_iff_exists.mp hreturned
  refine ⟨decision, hplan, ?_⟩
  have hsetup : Along serviceStep Unwrapped (CoordinatorService.create {}) setup := by
    refine (along_of_forall (P := fun op => ∀ context request,
      op ≠ .planFlowGroup context request) _ ?_).mono ?_
    · simp [setup, boot]
    · exact fun _ _ hother context request hop => absurd hop (hother context request)
  refine (correlated_decision_explained_iff {} setup [laterPlan] (correlated 10 7) request decision
    ⟨by decide, by decide⟩ hplan ?_ ?_ (by decide +kernel)).mpr ⟨?_, ?_, trivial⟩
  · refine (along_append ..).mpr ⟨hsetup, ?_, ?_, trivial⟩
    · exact unwrapped_of_ordinal (by decide +kernel) _
    · exact unwrapped_of_ordinal (by decide +kernel) _
  · refine ⟨⟨?_, ?_⟩, trivial⟩
    · rintro ⟨now, hstop, -⟩
      cases hstop
    · intro context request hop
      cases hop
      decide
  · obtain ⟨record, hrecord⟩ : ∃ record,
        service.lifecycleCheck (correlated 10 7) request = .ok record := ⟨_, rfl⟩
    exact plansCurrent_of_ok hrecord
  · intro context request _ _
    decide +kernel

open TwoMembers in
/--
A plan for a collective that is not registered returns a decision and records it,
but its correlation value explains nothing.
-/
theorem unregistered_decision_unexplained :
    let planned := (run serviceStep (CoordinatorService.create {}) boot).planFlowGroup
      (correlated 10 7) request
    planned.1.isOk = true ∧ planned.2.1.isSome = true ∧
      planned.2.2.history.records.length = 1 ∧ (planned.2.2.explainCorrelation 7).1 = none := by
  decide +kernel

end Explained

end TrafficFabric
