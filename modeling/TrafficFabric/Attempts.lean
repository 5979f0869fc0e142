import TrafficFabric.Lifecycle
import TrafficFabric.Records

/-!
# Superseded attempts

A record names its current attempt and nothing of the ones before.  Opening an
attempt compares the new identity with the current one only, so an identity
that was replaced can be opened a second time, and a request bound to it is
granted again.  A restored snapshot can bring an old attempt back as well.

Along a run in which no such request and no such snapshot names a replaced
attempt, a replaced attempt never returns.
-/

namespace TrafficFabric

open Lib CollectiveCatalog

/-- The generation of a collective with its current attempt. -/
def CollectiveCatalog.attemptOf (catalog : CollectiveCatalog) (id : CollectiveId) :
    Option (CollectiveGeneration × CollectiveAttemptId) :=
  (catalog.find id).map fun record => (record.definition.generation, record.currentAttempt)

/-- The attempt is the current one of this generation of the collective. -/
def CurrentAttempt
    (catalog : CollectiveCatalog) (id : CollectiveId) (generation : CollectiveGeneration)
    (attempt : CollectiveAttemptId) : Prop :=
  catalog.attemptOf id = some (generation, attempt) ∧ attempt.isSome = true

instance (catalog : CollectiveCatalog) (id : CollectiveId) (generation : CollectiveGeneration)
    (attempt : CollectiveAttemptId) :
    Decidable (CurrentAttempt catalog id generation attempt) :=
  inferInstanceAs (Decidable (_ ∧ _))

/-- At most one attempt is current. -/
theorem CurrentAttempt.unique {catalog : CollectiveCatalog} {id : CollectiveId}
    {generation : CollectiveGeneration} {attempt attempt' : CollectiveAttemptId}
    (h : CurrentAttempt catalog id generation attempt)
    (h' : CurrentAttempt catalog id generation attempt') : attempt = attempt' := by
  have hsame := h.1.symm.trans h'.1
  simpa using hsame

section Catalog

variable {id : CollectiveId} {generation : CollectiveGeneration}
variable {attempt : CollectiveAttemptId}

/-- The operation may make the attempt current in this generation. -/
def CatalogOp.Brings
    (id : CollectiveId) (generation : CollectiveGeneration) (attempt : CollectiveAttemptId)
    (catalog : CollectiveCatalog) : CatalogOp → Prop
  | .beginAttempt other opened _ =>
    other = id ∧ opened = attempt ∧ (catalog.attemptOf id).map Prod.fst = some generation
  | .load records =>
    ∃ record ∈ records, record.definition.id = id ∧
      record.definition.generation = generation ∧ record.currentAttempt = attempt
  | _ => False

/-- No other operation makes an attempt current. -/
theorem catalogStep_currentAttempt (catalog : CollectiveCatalog) (op : CatalogOp)
    (hbrings : ¬ op.Brings id generation attempt catalog)
    (h : ¬ CurrentAttempt catalog id generation attempt) :
    ¬ CurrentAttempt (catalogStep catalog op) id generation attempt := by
  rintro ⟨hcurrent, hset⟩
  unfold attemptOf at hcurrent
  cases catalogStep_recordChange catalog id op with
  | kept record =>
    rw [record] at hcurrent
    exact h ⟨hcurrent, hset⟩
  | registered _ _ _ _ _ after =>
    -- A new record has no attempt, and neither has an advanced one.
    rw [after] at hcurrent
    simp [newRecord] at hcurrent
    simp [← hcurrent.2, Identity.none] at hset
  | advanced _ _ _ _ _ _ after =>
    rw [after] at hcurrent
    simp [advancedRecord] at hcurrent
    simp [← hcurrent.2, Identity.none] at hset
  | begun _ _ _ _ called before after definition current =>
    subst called
    rw [after] at hcurrent
    simp only [Option.map_some, Option.some.injEq, Prod.mk.injEq, definition, current] at hcurrent
    refine hbrings ⟨rfl, hcurrent.2, ?_⟩
    simp [attemptOf, before, hcurrent.1]
  | edited _ _ before after definition current =>
    rw [after] at hcurrent
    refine h ⟨?_, hset⟩
    simpa [attemptOf, before, definition, current] using hcurrent
  | loaded records called after _ =>
    subst called
    obtain ⟨record, hfind, hpair⟩ := Option.map_eq_some_iff.mp hcurrent
    obtain ⟨hmem, hid⟩ := after record hfind
    simp only [Prod.mk.injEq] at hpair
    exact hbrings ⟨record, hmem, hid, hpair.1, hpair.2⟩
  | cleared called after =>
    rw [after] at hcurrent
    cases hcurrent

end Catalog

/-- An operation of the service whose caller or file names the attempt in this generation. -/
def ServiceOp.Names
    (id : CollectiveId) (generation : CollectiveGeneration) (attempt : CollectiveAttemptId) :
    ServiceOp → Prop
  | .beginAttempt _ other generation' attempt' _ =>
    other = id ∧ generation' = generation ∧ attempt' = attempt
  | .restore _ contents _ =>
    ∃ record ∈ contents.records, record.definition.id = id ∧
      record.definition.generation = generation ∧ record.currentAttempt = attempt
  | _ => False

section Service

variable {id : CollectiveId} {generation : CollectiveGeneration}
variable {attempt : CollectiveAttemptId}
variable {context : ServiceRequestContext} {service : CoordinatorService}

/-- Ending or planning a collective opens no attempt. -/
theorem endTrace_setState {state : CollectiveState} {other : CollectiveId}
    {generation' : CollectiveGeneration} {attempt' : CollectiveAttemptId} {a : CatalogOp}
    (ha : a ∈ endTrace service state context other generation' attempt') :
    a = .setState other state context.nowMonotonicMs := by
  unfold endTrace at ha
  split at ha
  · simp at ha
  · split at ha
    · simpa using ha
    · simp at ha

theorem planTrace_setState {request : DecisionRequest} {a : CatalogOp}
    (ha : a ∈ planTrace service context request) :
    a = .setState request.collectiveInstance.id .active context.nowMonotonicMs := by
  unfold planTrace at ha
  split at ha
  · split at ha
    · simp at ha
    · split at ha
      · simpa using ha
      · simp at ha
  · simp at ha

/-- Changes of state bring no attempt back. -/
theorem along_of_setState (catalog : CollectiveCatalog) {actions : List CatalogOp}
    (h : ∀ a ∈ actions, ∃ other state now, a = .setState other state now) :
    Along catalogStep (fun catalog a => ¬ a.Brings id generation attempt catalog)
      catalog actions := by
  have hnever : ∀ a ∈ actions, ∀ catalog, ¬ a.Brings id generation attempt catalog := by
    intro a ha catalog
    obtain ⟨other, state, now, rfl⟩ := h a ha
    exact not_false
  exact (along_of_forall catalog hnever).mono fun catalog a hbrings => hbrings catalog

/-- What a service operation does to the catalog brings back only what it names. -/
theorem catalogTrace_brings (service : CoordinatorService) {op : ServiceOp}
    (hnames : ¬ op.Names id generation attempt) :
    Along catalogStep (fun catalog a => ¬ a.Brings id generation attempt catalog)
      service.catalog (catalogTrace service op) := by
  cases op with
  | restore path contents now =>
    simp only [catalogTrace]
    split
    · exact ⟨hnames, trivial⟩
    · trivial
  | registerCollective context definition =>
    simp only [catalogTrace]
    split
    · exact ⟨not_false, trivial⟩
    · trivial
  | beginAttempt context other generation' attempt' bytes =>
    simp only [catalogTrace]
    split
    · trivial
    · rename_i record hfind
      split
      · rename_i hguards
        refine ⟨?_, not_false, trivial⟩
        rintro ⟨rfl, rfl, hgeneration⟩
        refine hnames ⟨rfl, ?_, rfl⟩
        simpa [attemptOf, hfind, hguards.2.1] using hgeneration
      · trivial
  | cancelCollective context other generation' attempt' reasons
  | retireCollective =>
    exact along_of_setState _ fun a ha => ⟨_, _, _, endTrace_setState ha⟩
  | planFlowGroup =>
    exact along_of_setState _ fun a ha => ⟨_, _, _, planTrace_setState ha⟩
  | _ => trivial

/-- One operation that does not name the attempt does not make it current. -/
theorem serviceStep_currentAttempt (service : CoordinatorService) {op : ServiceOp}
    (hnames : ¬ op.Names id generation attempt)
    (h : ¬ CurrentAttempt service.catalog id generation attempt) :
    ¬ CurrentAttempt (serviceStep service op).catalog id generation attempt := by
  rw [serviceStep_simulates_catalog service op]
  exact (catalogTrace_brings service hnames).invariant catalogStep_currentAttempt h

end Service

section Runs

/-- At some moment of the run the attempt was the current one of this generation. -/
def WasCurrent
    (service : CoordinatorService) (ops : List ServiceOp) (id : CollectiveId)
    (generation : CollectiveGeneration) (attempt : CollectiveAttemptId) : Prop :=
  ∃ first, first <+: ops ∧
    CurrentAttempt (run serviceStep service first).catalog id generation attempt

/-- The attempt was current and later another attempt of the same generation was. -/
def Superseded
    (service : CoordinatorService) (ops : List ServiceOp) (id : CollectiveId)
    (generation : CollectiveGeneration) (attempt : CollectiveAttemptId) : Prop :=
  ∃ later other, later <+: ops ∧ WasCurrent service later id generation attempt ∧
    other ≠ attempt ∧
    CurrentAttempt (run serviceStep service later).catalog id generation other

/-- The caller or the file of the operation names an attempt the run has replaced. -/
def Recalls (service : CoordinatorService) (past : List ServiceOp) (op : ServiceOp) : Prop :=
  ∃ id generation attempt,
    Superseded service past id generation attempt ∧ op.Names id generation attempt

variable {service : CoordinatorService} {id : CollectiveId}
variable {generation : CollectiveGeneration} {attempt : CollectiveAttemptId}

/-- While nothing has happened nothing has been replaced. -/
theorem not_superseded_nil : ¬ Superseded service [] id generation attempt := by
  rintro ⟨later, other, hlater, ⟨first, hfirst, hcurrent⟩, hother, hreplaced⟩
  cases List.prefix_nil.mp hlater
  cases List.prefix_nil.mp hfirst
  exact hother (hreplaced.unique hcurrent)

/-- An attempt replaced by the end of a run was so before the last operation, or is by it. -/
theorem Superseded.of_append {past : List ServiceOp} {op : ServiceOp}
    (h : Superseded service (past ++ [op]) id generation attempt) :
    Superseded service past id generation attempt ∨
      ¬ CurrentAttempt (run serviceStep service (past ++ [op])).catalog id generation attempt := by
  obtain ⟨later, other, hlater, hwas, hother, hreplaced⟩ := h
  rcases List.prefix_concat_iff.mp hlater with hall | hpast
  · subst hall
    exact .inr fun hcurrent => hother (hreplaced.unique hcurrent)
  · exact .inl ⟨later, other, hpast, hwas, hother, hreplaced⟩

/-- Along a run that recalls no replaced attempt, none of them is current at its end. -/
theorem not_current_of_superseded {ops : List ServiceOp}
    (hops : EachAction (fun past op => ¬ Recalls service past op) ops) :
    ∀ id generation attempt, Superseded service ops id generation attempt →
      ¬ CurrentAttempt (run serviceStep service ops).catalog id generation attempt := by
  let Inv (past : List ServiceOp) : Prop :=
    ∀ id generation attempt, Superseded service past id generation attempt →
      ¬ CurrentAttempt (run serviceStep service past).catalog id generation attempt
  have hinit : Inv [] := fun _ _ _ hsuperseded => absurd hsuperseded not_superseded_nil
  have hstep : ∀ past op, ¬ Recalls service past op → Inv past → Inv (past ++ [op]) := by
    intro past op hrecalls ih id generation attempt hsuperseded
    rcases hsuperseded.of_append with hbefore | hnow
    · rw [run_append]
      refine serviceStep_currentAttempt _ ?_ (ih id generation attempt hbefore)
      exact fun hnames => hrecalls ⟨id, generation, attempt, hbefore, hnames⟩
    · exact hnow
  exact hops.invariant hstep hinit

/-- A request for an attempt that is not current is granted nothing. -/
theorem planFlowGroup_of_not_current {context : ServiceRequestContext} {request : DecisionRequest}
    {decision : DecisionRecord}
    (hcurrent : ¬ CurrentAttempt service.catalog request.collectiveInstance.id
      request.collectiveInstance.generation request.collectiveInstance.attempt)
    (hplan : (service.planFlowGroup context request).2.1 = some decision) :
    outcomeGrantsAuthority decision.outcome = false := by
  by_contra hgrants
  rw [Bool.not_eq_false] at hgrants
  obtain ⟨record, _, hlifecycle, _, _⟩ := planFlowGroup_grants hplan hgrants
  obtain ⟨hfind, hgeneration, hset, hattempt, _⟩ := lifecycleCheck_eq_ok_iff.mp hlifecycle
  refine hcurrent ⟨?_, ?_⟩
  · simp [attemptOf, hfind, hgeneration, hattempt]
  · rw [← hattempt]
    simpa using hset

end Runs

/--
A superseded attempt never returns.  Along every run in which no opened attempt
and no restored record names an attempt that its generation had replaced, a
replaced attempt is not current, and no plan bound to it is admitted, outright
or into an isolated class.
-/
theorem superseded_attempt_stays_out {service : CoordinatorService} {ops : List ServiceOp}
    {id : CollectiveId} {generation : CollectiveGeneration} {attempt : CollectiveAttemptId}
    (hops : EachAction (fun past op => ¬ Recalls service past op) ops)
    (hsuperseded : Superseded service ops id generation attempt) :
    ¬ CurrentAttempt (run serviceStep service ops).catalog id generation attempt ∧
      ∀ context request decision,
        request.collectiveInstance.id = id →
        request.collectiveInstance.generation = generation →
        request.collectiveInstance.attempt = attempt →
        ((run serviceStep service ops).planFlowGroup context request).2.1 = some decision →
        decision.outcome ≠ .admitted ∧ decision.outcome ≠ .isolatedClass := by
  have hcurrent := not_current_of_superseded hops id generation attempt hsuperseded
  refine ⟨hcurrent, ?_⟩
  rintro context request decision rfl rfl rfl hplan
  have hrefused := planFlowGroup_of_not_current hcurrent hplan
  constructor <;> intro houtcome <;> simp [houtcome, outcomeGrantsAuthority] at hrefused

namespace TwoMembers

/-- Opens the attempt with the given identity at the given time. -/
def openAttemptOp (value now : UInt64) : ServiceOp :=
  .beginAttempt (context now) ⟨31, 0⟩ ⟨32, 0⟩ ⟨value, 0⟩ 0

theorem attempt_superseded (later : List ServiceOp) :
    Superseded service (openAttemptOp 34 6 :: later) ⟨31, 0⟩ ⟨32, 0⟩ ⟨33, 0⟩ := by
  refine ⟨[openAttemptOp 34 6], ⟨34, 0⟩, ?_, ⟨[], ?_, by decide⟩, by decide, by decide⟩
  · exact List.cons_prefix_cons.mpr ⟨rfl, List.nil_prefix⟩
  · exact List.nil_prefix

end TwoMembers

open TwoMembers in
/-- An attempt that was replaced is opened again, and a plan bound to it is admitted. -/
theorem superseded_attempt_reopened :
    let ops := [openAttemptOp 34 6, openAttemptOp 33 7]
    let s := run serviceStep service ops
    ServiceReachable service ∧
      Superseded service ops ⟨31, 0⟩ ⟨32, 0⟩ ⟨33, 0⟩ ∧
      CurrentAttempt s.catalog ⟨31, 0⟩ ⟨32, 0⟩ ⟨33, 0⟩ ∧
      request.collectiveInstance.attempt = ⟨33, 0⟩ ∧
      ∃ decision, (s.planFlowGroup (context 10) request).2.1 = some decision ∧
        decision.outcome = .admitted := by
  intro ops s
  have houtcome : (s.planFlowGroup (context 10) request).2.1.map DecisionRecord.outcome =
      some .admitted := by
    decide
  exact ⟨service_reachable, attempt_superseded _, by decide, rfl, by simpa using houtcome⟩

open TwoMembers in
/-- Once a fresh attempt is opened, the one before is neither current nor planned. -/
theorem superseded_attempt_stays_out_of_fresh :
    let s := run serviceStep service [openAttemptOp 34 6]
    CurrentAttempt s.catalog ⟨31, 0⟩ ⟨32, 0⟩ ⟨34, 0⟩ ∧
      ¬ CurrentAttempt s.catalog ⟨31, 0⟩ ⟨32, 0⟩ ⟨33, 0⟩ ∧
      ∀ decision, (s.planFlowGroup (context 10) request).2.1 = some decision →
        decision.outcome ≠ .admitted := by
  intro s
  have hops : EachAction (fun past op => ¬ Recalls service past op) [openAttemptOp 34 6] := by
    refine ⟨?_, trivial⟩
    rintro ⟨id, generation, attempt, hsuperseded, _⟩
    exact not_superseded_nil hsuperseded
  obtain ⟨hout, hplans⟩ := superseded_attempt_stays_out hops (attempt_superseded [])
  refine ⟨by decide, hout, ?_⟩
  intro decision hplan
  exact (hplans (context 10) request decision rfl rfl rfl hplan).1

end TrafficFabric
