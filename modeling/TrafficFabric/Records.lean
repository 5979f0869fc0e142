import TrafficFabric.Catalog
import TrafficFabric.Lib.Run

/-!
# What an operation does to the record of a collective

One relation lists everything an operation of the catalog can do to the record
of one collective: leave it, create it, advance its generation, open an attempt,
edit its state or volume, or replace it by what a load brings.  The results on
attempts and on generations are read off this relation.
-/

namespace TrafficFabric

open Lib CollectiveCatalog

/-- The operation may change the record of the collective. -/
def CatalogOp.Touches (id : CollectiveId) : CatalogOp → Prop
  | .registerDefinition definition _ => definition.id = id
  | .beginAttempt other _ _ => other = id
  | .setState other _ _ => other = id
  | .setAttemptTransferBytes other _ => other = id
  | .load _ => True
  | .clear => True

section Effects

variable (catalog : CollectiveCatalog)

/-- The catalog takes the definition: it is valid, and its collective is open or there is room. -/
def Registers (definition : CollectiveDefinition) : Prop :=
  (validateDefinition definition).isOk = true ∧
    match catalog.find definition.id with
    | none => catalog.records.size < catalog.capacity.toNat
    | some record => collectiveStateIsTerminal record.state = false

def RegistrationResult.isRejection : RegistrationResult → Bool
  | .rejectedInvalid => true
  | .rejectedTerminal => true
  | .rejectedCapacity => true
  | _ => false

/-- The catalog with a record stored by the next mutation. -/
def CollectiveCatalog.stored
    (id : CollectiveId) (record : CollectiveRecord) : CollectiveCatalog :=
  { catalog with
    records := catalog.records.assign id record
    mutationSequence := catalog.mutationSequence.next }

/-- What a registration returns: it is rejected, repeats the record, creates or advances it. -/
inductive RegisterResult (definition : CollectiveDefinition) (now : UInt64) :
    RegistrationOutcome × CollectiveCatalog → Prop
  | rejected
      (outcome : RegistrationOutcome)
      (closed : ¬ Registers catalog definition)
      (result : outcome.result.isRejection = true) :
      RegisterResult definition now (outcome, catalog)
  | unchanged
      (outcome : RegistrationOutcome) (record : CollectiveRecord)
      (registers : Registers catalog definition)
      (found : catalog.find definition.id = some record)
      (equivalent : definitionsEquivalent record.definition definition = true)
      (result : outcome.result = .unchanged)
      (generation : outcome.generation = record.definition.generation) :
      RegisterResult definition now (outcome, catalog)
  | registered
      (outcome : RegistrationOutcome)
      (registers : Registers catalog definition)
      (absent : catalog.find definition.id = none)
      (result : outcome.result = .registered)
      (generation : outcome.generation = (CollectiveCatalog.newRecord definition
        catalog.mutationSequence.next now).definition.generation) :
      RegisterResult definition now (outcome,
        { catalog with
          records := catalog.records.emplace definition.id
            (CollectiveCatalog.newRecord definition catalog.mutationSequence.next now)
          mutationSequence := catalog.mutationSequence.next })
  | advanced
      (outcome : RegistrationOutcome) (record : CollectiveRecord)
      (registers : Registers catalog definition)
      (found : catalog.find definition.id = some record)
      (changed : definitionsEquivalent record.definition definition = false)
      (result : outcome.result = .generationAdvanced)
      (generation : outcome.generation = (CollectiveCatalog.advancedRecord record definition
        catalog.mutationSequence.next now).definition.generation) :
      RegisterResult definition now (outcome,
        catalog.stored definition.id
          (CollectiveCatalog.advancedRecord record definition catalog.mutationSequence.next now))

theorem registerDefinition_result (definition : CollectiveDefinition) (now : UInt64) :
    RegisterResult catalog definition now (catalog.registerDefinition definition now) := by
  unfold registerDefinition
  simp only
  split
  · rename_i hinvalid
    exact .rejected _ (fun h => by simp [h.1] at hinvalid) rfl
  rename_i hvalid
  have hvalid := (Bool.not_eq_false _).mp hvalid
  cases hfind : catalog.find definition.id with
  | none =>
    simp only [registerNew]
    split
    · rename_i hfull
      refine .rejected _ (fun h => ?_) rfl
      rw [Registers, hfind] at h
      exact absurd h.2 (Nat.not_lt.mpr hfull)
    · rename_i hroom
      refine .registered _ ⟨hvalid, ?_⟩ hfind rfl rfl
      rw [hfind]
      exact Nat.lt_of_not_le hroom
  | some record =>
    simp only [registerExisting]
    split
    · rename_i hterminal
      refine .rejected _ (fun h => ?_) rfl
      rw [Registers, hfind] at h
      simp [hterminal] at h
    · rename_i hopen
      have hregisters : Registers catalog definition := by
        refine ⟨hvalid, ?_⟩
        rw [hfind]
        exact Bool.eq_false_iff.mpr hopen
      split
      · rename_i hequivalent
        exact .unchanged _ record hregisters hfind hequivalent rfl rfl
      · rename_i hchanged
        exact .advanced _ record hregisters hfind (Bool.eq_false_iff.mpr hchanged) rfl rfl

/-- A registration is rejected and changes nothing, or the catalog takes it. -/
theorem registerDefinition_cases (definition : CollectiveDefinition) (now : UInt64) :
    ((catalog.registerDefinition definition now).1.result.isRejection = true ∧
        (catalog.registerDefinition definition now).2 = catalog ∧
        ¬ Registers catalog definition) ∨
      ((catalog.registerDefinition definition now).1.result.isRejection = false ∧
        Registers catalog definition) := by
  have hresult := registerDefinition_result catalog definition now
  generalize catalog.registerDefinition definition now = result at hresult
  cases hresult with
  | rejected _ closed result => exact .inl ⟨result, rfl, closed⟩
  | unchanged _ _ registers _ _ result => exact .inr ⟨by rw [result]; rfl, registers⟩
  | registered _ registers _ result => exact .inr ⟨by rw [result]; rfl, registers⟩
  | advanced _ _ registers _ _ result => exact .inr ⟨by rw [result]; rfl, registers⟩

/-- Everything an operation can do to the catalog. -/
inductive CatalogEffect : CatalogOp → CollectiveCatalog → Prop
  | same (op : CatalogOp) : CatalogEffect op catalog
  | registered
      (definition : CollectiveDefinition) (now : UInt64)
      (registers : Registers catalog definition)
      (absent : catalog.find definition.id = none) :
      CatalogEffect (.registerDefinition definition now)
        { catalog with
          records := catalog.records.emplace definition.id
            (CollectiveCatalog.newRecord definition catalog.mutationSequence.next now)
          mutationSequence := catalog.mutationSequence.next }
  | advanced
      (definition : CollectiveDefinition) (now : UInt64) (record : CollectiveRecord)
      (registers : Registers catalog definition)
      (found : catalog.find definition.id = some record) :
      CatalogEffect (.registerDefinition definition now)
        (catalog.stored definition.id
          (CollectiveCatalog.advancedRecord record definition catalog.mutationSequence.next now))
  | begun
      (id : CollectiveId) (attempt : CollectiveAttemptId) (now : UInt64)
      (record : CollectiveRecord)
      (found : catalog.find id = some record) :
      CatalogEffect (.beginAttempt id attempt now)
        (catalog.mutate id
          { record with
            currentAttempt := attempt
            attemptSequence := record.attemptSequence.next
            state := .planning }
          now)
  | moved
      (id : CollectiveId) (state : CollectiveState) (now : UInt64) (record : CollectiveRecord)
      (found : catalog.find id = some record) :
      CatalogEffect (.setState id state now) (catalog.mutate id { record with state := state } now)
  | declared
      (id : CollectiveId) (bytes : UInt64) (record : CollectiveRecord)
      (found : catalog.find id = some record) :
      CatalogEffect (.setAttemptTransferBytes id bytes)
        { catalog with
          records := catalog.records.assign id { record with attemptTransferBytes := bytes } }
  | loaded
      (records : List CollectiveRecord) (staged : KeyMap CollectiveId CollectiveRecord)
      (highest : UInt64)
      (fits : records.length ≤ catalog.capacity.toNat)
      (stages : CollectiveCatalog.stage ∅ 0 records = .ok (staged, highest)) :
      CatalogEffect (.load records)
        { catalog with records := staged, mutationSequence := ⟨highest⟩ }
  | cleared : CatalogEffect .clear catalog.clear

theorem catalogStep_effect (op : CatalogOp) :
    CatalogEffect catalog op (catalogStep catalog op) := by
  cases op with
  | registerDefinition definition now =>
    have hresult := registerDefinition_result catalog definition now
    rw [catalogStep]
    generalize catalog.registerDefinition definition now = result at hresult
    cases hresult with
    | rejected | unchanged => exact .same _
    | registered _ registers absent => exact .registered definition now registers absent
    | advanced _ record registers found => exact .advanced definition now record registers found
  | beginAttempt id attempt now =>
    simp only [catalogStep, beginAttempt]
    split
    · exact .same _
    cases hfind : catalog.find id with
    | none => exact .same _
    | some record =>
      simp only
      split_ifs
      · exact .same _
      · exact .same _
      · exact .begun id attempt now record hfind
  | setState id state now =>
    simp only [catalogStep, setState]
    cases hfind : catalog.find id with
    | none => exact .same _
    | some record =>
      simp only
      split
      · exact .same _
      · exact .moved id state now record hfind
  | setAttemptTransferBytes id bytes =>
    simp only [catalogStep, setAttemptTransferBytes]
    cases hfind : catalog.find id with
    | none => exact .same _
    | some record => exact .declared id bytes record hfind
  | load records =>
    simp only [catalogStep, CollectiveCatalog.load]
    split
    · exact .same _
    · rename_i hfits
      cases hstage : stage ∅ 0 records with
      | error status => exact .same _
      | ok staged => exact .loaded records staged.1 staged.2 (Nat.not_lt.mp hfits) hstage
  | clear => exact .cleared

variable {catalog} {id : CollectiveId}

/-- A new record is found under its identity and leaves the others. -/
theorem find_emplace_of_absent {key : CollectiveId} (record : CollectiveRecord)
    (h : catalog.find key = none) :
    (catalog.records.emplace key record).find id =
      if id = key then some record else catalog.find id := by
  have habsent : catalog.records.find key = none := h
  simp [KeyMap.find_emplace, habsent, CollectiveCatalog.find]

/-- An operation that names another collective leaves this one. -/
theorem catalogStep_find_of_not_touches {op : CatalogOp} (h : ¬ op.Touches id) :
    (catalogStep catalog op).find id = catalog.find id := by
  have heffect := catalogStep_effect catalog op
  generalize catalogStep catalog op = catalog' at heffect
  cases heffect with
  | same => rfl
  | registered _ _ _ absent => exact (find_emplace_of_absent _ absent).trans (if_neg (Ne.symm h))
  | advanced | begun | moved | declared => exact KeyMap.find_assign_of_ne _ _ (Ne.symm h)
  | loaded | cleared => exact absurd trivial h

end Effects

/-- The mutation sequence a load leaves: the highest one its records carry. -/
def highestSequence (records : List CollectiveRecord) : UInt64 :=
  records.foldl
    (fun highest record =>
      max (max highest record.registrationSequence.value) record.lastMutationSequence.value)
    0

/-- What one operation of the catalog does to the record of one collective. -/
inductive RecordChange
    (catalog catalog' : CollectiveCatalog) (op : CatalogOp) (id : CollectiveId) : Prop
  | kept (record : catalog'.find id = catalog.find id)
  | registered
      (definition : CollectiveDefinition) (now : UInt64)
      (called : op = .registerDefinition definition now)
      (names : definition.id = id)
      (before : catalog.find id = none)
      (after : catalog'.find id =
        some (CollectiveCatalog.newRecord definition catalog.mutationSequence.next now))
      (sequence : catalog'.mutationSequence = catalog.mutationSequence.next)
  | advanced
      (definition : CollectiveDefinition) (now : UInt64) (record : CollectiveRecord)
      (called : op = .registerDefinition definition now)
      (names : definition.id = id)
      (before : catalog.find id = some record)
      (after : catalog'.find id =
        some (CollectiveCatalog.advancedRecord record definition catalog.mutationSequence.next now))
      (sequence : catalog'.mutationSequence = catalog.mutationSequence.next)
  | begun
      (attempt : CollectiveAttemptId) (now : UInt64) (record record' : CollectiveRecord)
      (called : op = .beginAttempt id attempt now)
      (before : catalog.find id = some record)
      (after : catalog'.find id = some record')
      (definition : record'.definition = record.definition)
      (current : record'.currentAttempt = attempt)
  | edited
      (record record' : CollectiveRecord)
      (before : catalog.find id = some record)
      (after : catalog'.find id = some record')
      (definition : record'.definition = record.definition)
      (current : record'.currentAttempt = record.currentAttempt)
  | loaded
      (records : List CollectiveRecord)
      (called : op = .load records)
      (after : ∀ record, catalog'.find id = some record →
        record ∈ records ∧ record.definition.id = id)
      (sequence : catalog'.mutationSequence = ⟨highestSequence records⟩)
  | cleared
      (called : op = .clear)
      (after : catalog'.find id = none)

section Changes

variable {staged' staged : KeyMap CollectiveId CollectiveRecord} {records : List CollectiveRecord}

/-- A staged record comes from the list, under its own identity. -/
theorem stage_find {highest highest' : UInt64} {id : CollectiveId} {record : CollectiveRecord}
    (h : stage staged highest records = .ok (staged', highest'))
    (hfind : staged'.find id = some record) :
    staged.find id = some record ∨ (record ∈ records ∧ record.definition.id = id) := by
  induction records generalizing staged highest with
  | nil =>
    simp only [stage, Except.ok.injEq, Prod.mk.injEq] at h
    exact .inl (h.1 ▸ hfind)
  | cons first rest ih =>
    simp only [stage] at h
    split at h
    · cases h
    · rcases ih h with hstaged | ⟨hrest, hid⟩
      · rw [KeyMap.find_emplace] at hstaged
        split at hstaged
        · rename_i hfirst
          cases hstaged
          exact .inr ⟨by simp, hfirst.1.symm⟩
        · exact .inl hstaged
      · exact .inr ⟨by simp [hrest], hid⟩

/-- A staging that succeeds has gone through every sequence of the list. -/
theorem stage_highest {highest highest' : UInt64}
    (h : stage staged highest records = .ok (staged', highest')) :
    highest' = records.foldl
      (fun highest record =>
        max (max highest record.registrationSequence.value) record.lastMutationSequence.value)
      highest := by
  induction records generalizing staged highest with
  | nil =>
    simp only [stage, Except.ok.injEq, Prod.mk.injEq] at h
    exact h.2.symm
  | cons _ _ ih =>
    simp only [stage] at h
    split at h
    · cases h
    · exact ih h

theorem catalogStep_recordChange (catalog : CollectiveCatalog) (id : CollectiveId)
    (op : CatalogOp) : RecordChange catalog (catalogStep catalog op) op id := by
  by_cases htouches : op.Touches id
  · have heffect := catalogStep_effect catalog op
    generalize catalogStep catalog op = catalog' at heffect
    cases heffect with
    | same => exact .kept rfl
    | registered definition now _ absent =>
      cases htouches
      exact .registered definition now rfl rfl absent
        ((find_emplace_of_absent _ absent).trans (if_pos rfl)) rfl
    | advanced definition now record _ found =>
      cases htouches
      exact .advanced definition now record rfl rfl found (KeyMap.find_assign_self _ _ _) rfl
    | begun _ attempt now record found =>
      cases htouches
      exact .begun attempt now record _ rfl found (KeyMap.find_assign_self _ _ _) rfl rfl
    | moved _ _ _ record found | declared _ _ record found =>
      cases htouches
      exact .edited record _ found (KeyMap.find_assign_self _ _ _) rfl rfl
    | loaded records _ _ _ stages =>
      refine .loaded records rfl (fun record hfind => ?_)
        (congrArg Sequence.mk (stage_highest stages))
      exact (stage_find stages hfind).resolve_left (by simp)
    | cleared => exact .cleared rfl rfl
  · exact .kept (catalogStep_find_of_not_touches htouches)

end Changes

section Loading

/-- What the catalog asks of one record of a batch. -/
def LoadableRecord (record : CollectiveRecord) : Prop :=
  (validateDefinition record.definition).isOk = true ∧
    record.definition.generation.isNone = false ∧ record.state ≠ .unregistered

instance (record : CollectiveRecord) : Decidable (LoadableRecord record) :=
  inferInstanceAs (Decidable (_ ∧ _ ∧ _))

/-- A batch within the capacity, of usable records, with no identity twice. -/
def Loadable (capacity : UInt32) (records : List CollectiveRecord) : Prop :=
  records.length ≤ capacity.toNat ∧ (∀ record ∈ records, LoadableRecord record) ∧
    (records.map fun record => record.definition.id).Nodup

instance (capacity : UInt32) (records : List CollectiveRecord) :
    Decidable (Loadable capacity records) :=
  inferInstanceAs (Decidable (_ ∧ _ ∧ _))

theorem loadFault_isOk_iff (staged : KeyMap CollectiveId CollectiveRecord)
    (record : CollectiveRecord) :
    (loadFault staged record).isOk = true ↔
      LoadableRecord record ∧ staged.find record.definition.id = none := by
  rw [← Option.not_isSome_iff_eq_none]
  unfold loadFault LoadableRecord
  simp only
  split_ifs <;> simp_all

/-- A refused staging names a fault. -/
theorem stage_error {staged : KeyMap CollectiveId CollectiveRecord} {highest : UInt64}
    {records : List CollectiveRecord} {status : Status}
    (h : stage staged highest records = .error status) : status.isOk = false := by
  induction records generalizing staged highest with
  | nil => cases h
  | cons first rest ih =>
    simp only [stage] at h
    split at h
    · rename_i hfault
      cases h
      exact hfault
    · exact ih h

/-- Staging succeeds exactly on usable records with identities that are new to it. -/
theorem stage_isOk_iff (staged : KeyMap CollectiveId CollectiveRecord) (highest : UInt64)
    (records : List CollectiveRecord) :
    (∃ result, stage staged highest records = .ok result) ↔
      (∀ record ∈ records, LoadableRecord record ∧ staged.find record.definition.id = none) ∧
        (records.map fun record => record.definition.id).Nodup := by
  induction records generalizing staged highest with
  | nil => simp [stage]
  | cons first rest ih =>
    have hfault := loadFault_isOk_iff staged first
    simp only [stage, List.forall_mem_cons, List.map_cons, List.nodup_cons]
    cases hok : (loadFault staged first).isOk with
    | false =>
      have hrefused : ¬ (LoadableRecord first ∧ staged.find first.definition.id = none) :=
        fun h => by simp [hfault.mpr h] at hok
      simp [hrefused]
    | true =>
      obtain ⟨hfirst, hnew⟩ := hfault.mp hok
      -- After the first record is staged, only its own identity is taken in addition.
      have hfind : ∀ record : CollectiveRecord,
          (staged.emplace first.definition.id first).find record.definition.id = none ↔
            record.definition.id ≠ first.definition.id ∧
              staged.find record.definition.id = none := by
        intro record
        rw [KeyMap.find_emplace]
        by_cases hsame : record.definition.id = first.definition.id
        · simp [hsame, hnew]
        · simp [hsame]
      rw [if_neg (by simp), ih]
      simp only [hfind, hfirst, hnew, List.mem_map, not_exists, not_and, and_self, true_and]
      constructor
      · rintro ⟨hrest, hnodup⟩
        exact ⟨fun record hmem => ⟨(hrest record hmem).1, (hrest record hmem).2.2⟩,
          fun record hmem => (hrest record hmem).2.1, hnodup⟩
      · rintro ⟨hrest, hapart, hnodup⟩
        exact ⟨fun record hmem =>
          ⟨(hrest record hmem).1, hapart record hmem, (hrest record hmem).2⟩, hnodup⟩

theorem load_isOk_iff (catalog : CollectiveCatalog) (records : List CollectiveRecord) :
    (catalog.load records).1.isOk = true ↔ Loadable catalog.capacity records := by
  have hstage := stage_isOk_iff ∅ 0 records
  unfold CollectiveCatalog.load Loadable
  split
  · rename_i hlarge
    simp [hlarge]
  · rename_i hwithin
    rw [Nat.not_lt] at hwithin
    cases hstaged : stage ∅ 0 records with
    | ok result =>
      have hrecords := hstage.mp ⟨result, hstaged⟩
      simp only [Status.isOk_ok, true_iff]
      exact ⟨hwithin, fun record hmem => (hrecords.1 record hmem).1, hrecords.2⟩
    | error status =>
      have hrefused : ¬ ((∀ record ∈ records, LoadableRecord record) ∧
          (records.map fun record => record.definition.id).Nodup) := by
        rintro ⟨hrecords, hnodup⟩
        obtain ⟨result, hok⟩ := hstage.mpr
          ⟨fun record hmem => ⟨hrecords record hmem, KeyMap.find_empty _⟩, hnodup⟩
        rw [hstaged] at hok
        cases hok
      simp [stage_error hstaged, hrefused]

end Loading

end TrafficFabric
