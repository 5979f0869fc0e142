import TrafficFabric.GrantSoundness
import TrafficFabric.Records

/-!
# The lifecycle of a collective

The catalog alone lets a terminal record move to another terminal state.  The
service never asks for that: each of its operations looks at the record before
it touches the catalog, and what it then performs either names another
collective or is a registration, which the catalog refuses for a terminal one.
A terminal record is therefore kept, whole, by every operation but a restore.
-/

namespace TrafficFabric

open Lib

section Catalog

variable {catalog : CollectiveCatalog} {id : CollectiveId}

/-- A terminal record is never registered again. -/
theorem registerDefinition_of_terminal {record : CollectiveRecord}
    {definition : CollectiveDefinition} (now : UInt64)
    (hrecord : catalog.find definition.id = some record)
    (hterminal : collectiveStateIsTerminal record.state = true) :
    (catalog.registerDefinition definition now).2 = catalog := by
  simp only [CollectiveCatalog.registerDefinition]
  split
  · rfl
  · simp [hrecord, CollectiveCatalog.registerExisting, hterminal]

end Catalog

/-- An operation of the catalog that leaves terminal records alone. -/
def CatalogOp.Spares (id : CollectiveId) (op : CatalogOp) : Prop :=
  ¬ op.Touches id ∨ ∃ definition now, op = .registerDefinition definition now

theorem catalogStep_keeps_terminal {catalog : CollectiveCatalog} {id : CollectiveId}
    {record : CollectiveRecord} {op : CatalogOp} (hspares : op.Spares id)
    (hterminal : collectiveStateIsTerminal record.state = true)
    (hrecord : catalog.find id = some record) : (catalogStep catalog op).find id = some record := by
  by_cases htouches : op.Touches id
  · rcases hspares with hnot | ⟨definition, now, rfl⟩
    · exact absurd htouches hnot
    · cases htouches
      simp only [catalogStep]
      rw [registerDefinition_of_terminal now hrecord hterminal]
      exact hrecord
  · rw [catalogStep_find_of_not_touches htouches]
    exact hrecord

def ServiceOp.isRestore : ServiceOp → Bool
  | .restore _ _ _ => true
  | _ => false

section Service

variable {service : CoordinatorService} {id : CollectiveId} {record : CollectiveRecord}

/-- Ending a collective does not touch one that has ended. -/
theorem endTrace_spares {other : CollectiveId} (state : CollectiveState)
    (context : ServiceRequestContext) (generation : CollectiveGeneration)
    (attempt : CollectiveAttemptId) (hrecord : service.catalog.find id = some record)
    (hterminal : collectiveStateIsTerminal record.state = true) :
    ∀ op ∈ endTrace service state context other generation attempt, op.Spares id := by
  intro op hop
  unfold endTrace at hop
  split at hop
  · simp at hop
  · rename_i found hfound
    split at hop
    · rename_i hguards
      simp only [List.mem_singleton] at hop
      subst hop
      refine .inl ?_
      rintro rfl
      rw [hrecord] at hfound
      cases hfound
      simp [hterminal] at hguards
    · simp at hop

/-- A plan never activates a collective that has ended. -/
theorem planTrace_spares (context : ServiceRequestContext) (request : DecisionRequest)
    (hrecord : service.catalog.find id = some record)
    (hterminal : collectiveStateIsTerminal record.state = true) :
    ∀ op ∈ planTrace service context request, op.Spares id := by
  intro op hop
  unfold planTrace at hop
  split at hop
  · split at hop
    · simp at hop
    · rename_i found hfound
      split at hop
      · simp only [List.mem_singleton] at hop
        subst hop
        refine .inl ?_
        rintro rfl
        obtain ⟨hfind, _, _, _, hopen⟩ := lifecycleCheck_eq_ok_iff.mp hfound
        rw [hrecord] at hfind
        cases hfind
        simp [hterminal] at hopen
      · simp at hop
  · simp at hop

/-- Whatever an operation other than a restore does to the catalog spares what has ended. -/
theorem catalogTrace_spares {op : ServiceOp} (hop : op.isRestore = false)
    (hrecord : service.catalog.find id = some record)
    (hterminal : collectiveStateIsTerminal record.state = true) :
    ∀ a ∈ catalogTrace service op, a.Spares id := by
  intro a ha
  cases op with
  | restore => simp [ServiceOp.isRestore] at hop
  | registerCollective context definition =>
    simp only [catalogTrace] at ha
    split at ha
    · simp only [List.mem_singleton] at ha
      exact .inr ⟨definition, _, ha⟩
    · simp at ha
  | beginAttempt context other generation attempt bytes =>
    simp only [catalogTrace] at ha
    split at ha
    · simp at ha
    · rename_i found hfound
      split at ha
      · rename_i hguards
        have hother : other ≠ id := by
          rintro rfl
          rw [hrecord] at hfound
          cases hfound
          simp [hterminal] at hguards
        simp only [List.mem_cons, List.not_mem_nil, or_false] at ha
        rcases ha with rfl | rfl
        · exact .inl hother
        · exact .inl hother
      · simp at ha
  | cancelCollective context _ generation attempt | retireCollective context _ generation attempt =>
    exact endTrace_spares _ context generation attempt hrecord hterminal a ha
  | planFlowGroup context request => exact planTrace_spares context request hrecord hterminal a ha
  | _ => simp [catalogTrace] at ha

/-- One operation other than a restore keeps a terminal record. -/
theorem serviceStep_keeps_terminal {op : ServiceOp} (hop : op.isRestore = false)
    (hterminal : collectiveStateIsTerminal record.state = true)
    (hrecord : service.catalog.find id = some record) :
    (serviceStep service op).catalog.find id = some record := by
  rw [serviceStep_simulates_catalog service op]
  have hspares : Along catalogStep (fun _ a => a.Spares id) service.catalog
      (catalogTrace service op) :=
    along_of_forall service.catalog (catalogTrace_spares hop hrecord hterminal)
  have hkeeps : ∀ (catalog : CollectiveCatalog) (a : CatalogOp), a.Spares id →
      catalog.find id = some record → (catalogStep catalog a).find id = some record :=
    fun _ _ ha hfind => catalogStep_keeps_terminal ha hterminal hfind
  exact hspares.invariant hkeeps hrecord

/-- A plan for a collective that has ended is at most a stale rejection. -/
theorem planFlowGroup_of_terminal {context : ServiceRequestContext} {request : DecisionRequest}
    {decision : DecisionRecord}
    (hrecord : service.catalog.find request.collectiveInstance.id = some record)
    (hterminal : collectiveStateIsTerminal record.state = true)
    (hplan : (service.planFlowGroup context request).2.1 = some decision) :
    decision.outcome = .rejectedStale := by
  rcases planFlowGroup_returns hplan with hrefused | ⟨found, hfound, _⟩
  · exact (lifecycleCheck_refuses service context request decision hrefused).outcome
  · obtain ⟨hfind, _, _, _, hopen⟩ := lifecycleCheck_eq_ok_iff.mp hfound
    rw [hrecord] at hfind
    cases hfind
    simp [hterminal] at hopen

end Service

/--
Terminal states absorb.  Along every run without a restore a terminal record
stays exactly as it is, and no plan for its collective is admitted, isolated,
rate limited or deferred.
-/
theorem terminal_record_absorbs {service : CoordinatorService} {id : CollectiveId}
    {record : CollectiveRecord} {ops : List ServiceOp} (hops : ∀ op ∈ ops, op.isRestore = false)
    (hrecord : service.catalog.find id = some record)
    (hterminal : collectiveStateIsTerminal record.state = true) :
    (run serviceStep service ops).catalog.find id = some record ∧
      ∀ context request decision,
        request.collectiveInstance.id = id →
        ((run serviceStep service ops).planFlowGroup context request).2.1 = some decision →
        decision.outcome ≠ .admitted ∧ decision.outcome ≠ .isolatedClass ∧
          decision.outcome ≠ .rateLimited ∧ decision.outcome ≠ .deferred := by
  have hmeets : Along serviceStep (fun _ op => op.isRestore = false) service ops :=
    along_of_forall service hops
  have hkeeps : ∀ (s : CoordinatorService) (op : ServiceOp), op.isRestore = false →
      s.catalog.find id = some record → (serviceStep s op).catalog.find id = some record :=
    fun _ _ hop hfind => serviceStep_keeps_terminal hop hterminal hfind
  have hkept : (run serviceStep service ops).catalog.find id = some record :=
    hmeets.invariant hkeeps hrecord
  refine ⟨hkept, ?_⟩
  rintro context request decision rfl hplan
  have hstale := planFlowGroup_of_terminal hkept hterminal hplan
  simp [hstale]

open TwoMembers in
/-- The collective of two members, once cancelled, is neither planned nor retired. -/
theorem terminal_record_absorbs_cancelled :
    let s := run serviceStep service [.cancelCollective (context 11) ⟨31, 0⟩ ⟨32, 0⟩ ⟨33, 0⟩ []]
    let t := run serviceStep s [.retireCollective (context 12) ⟨31, 0⟩ ⟨32, 0⟩ ⟨33, 0⟩ []]
    ∃ record, s.catalog.find ⟨31, 0⟩ = some record ∧ record.state = .cancelled ∧
      t.catalog.find ⟨31, 0⟩ = some record ∧
      ∀ decision, (t.planFlowGroup (context 13) request).2.1 = some decision →
        decision.outcome ≠ .admitted := by
  intro s t
  obtain ⟨record, hrecord, hcancelled⟩ :
      ∃ record, s.catalog.find ⟨31, 0⟩ = some record ∧ record.state = .cancelled := by
    have hstate : (s.catalog.find ⟨31, 0⟩).map CollectiveRecord.state = some .cancelled := by
      decide
    simpa using hstate
  have hterminal : collectiveStateIsTerminal record.state = true := by
    rw [hcancelled]
    rfl
  have hops : ∀ op ∈ [ServiceOp.retireCollective (context 12) ⟨31, 0⟩ ⟨32, 0⟩ ⟨33, 0⟩ []],
      op.isRestore = false := by
    decide
  obtain ⟨hkept, hplans⟩ := terminal_record_absorbs hops hrecord hterminal
  exact ⟨record, hrecord, hcancelled, hkept,
    fun decision hplan => (hplans (context 13) request decision rfl hplan).1⟩

end TrafficFabric
