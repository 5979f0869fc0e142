import TrafficFabric.DurableCatalog

/-!
# The records and the counter of the catalog

One relation lists what an operation does to the catalog as a whole.  Every
record of a reachable service is one that a load accepts: its definition has
been checked, it has a generation, and nothing the service does takes a
registration back.

Every mutation takes the next value of one counter and writes it into the
record that it changes.  While the counter does not turn over, it is the
highest sequence that any record carries: the value that a load computes from
the records alone.
-/

namespace TrafficFabric

open Lib CollectiveCatalog

section Highest

theorem uint64_max_le_iff (a b c : UInt64) : max a b ≤ c ↔ a ≤ c ∧ b ≤ c := by
  change (if a ≤ b then b else a) ≤ c ↔ _
  split
  · rename_i hle
    exact ⟨fun h => ⟨UInt64.le_trans hle h, h⟩, fun h => h.2⟩
  · rename_i hnot
    have hle : b ≤ a := UInt64.le_of_lt (UInt64.not_le.mp hnot)
    exact ⟨fun h => ⟨h, UInt64.le_trans hle h⟩, fun h => h.1⟩

theorem uint64_max_eq_or (a b : UInt64) : max a b = a ∨ max a b = b := by
  change (if a ≤ b then b else a) = a ∨ (if a ≤ b then b else a) = b
  split
  · exact .inr rfl
  · exact .inl rfl

/-- The sequences a record carries are at most the value. -/
def SequencesLe (value : UInt64) (record : CollectiveRecord) : Prop :=
  record.registrationSequence.value ≤ value ∧ record.lastMutationSequence.value ≤ value

/-- The record carries the value. -/
def Carries (value : UInt64) (record : CollectiveRecord) : Prop :=
  record.registrationSequence.value = value ∨ record.lastMutationSequence.value = value

theorem foldl_highest_le_iff (records : List CollectiveRecord) (start value : UInt64) :
    records.foldl
        (fun highest record =>
          max (max highest record.registrationSequence.value) record.lastMutationSequence.value)
        start ≤ value ↔
      start ≤ value ∧ ∀ record ∈ records, SequencesLe value record := by
  induction records generalizing start with
  | nil => simp
  | cons _ _ ih =>
    rw [List.foldl_cons, ih, uint64_max_le_iff, uint64_max_le_iff, List.forall_mem_cons,
      SequencesLe, and_assoc, and_assoc, and_assoc]

theorem foldl_highest_carried (records : List CollectiveRecord) (start : UInt64) :
    let highest := records.foldl
      (fun highest record =>
        max (max highest record.registrationSequence.value) record.lastMutationSequence.value)
      start
    highest = start ∨ ∃ record ∈ records, Carries highest record := by
  induction records generalizing start with
  | nil => exact .inl rfl
  | cons first rest ih =>
    simp only [List.foldl_cons]
    rcases ih (max (max start first.registrationSequence.value)
      first.lastMutationSequence.value) with hstart | ⟨record, hrecord, hcarries⟩
    · rcases uint64_max_eq_or (max start first.registrationSequence.value)
        first.lastMutationSequence.value with hmax | hlast
      · rcases uint64_max_eq_or start first.registrationSequence.value with hold | hregistered
        · exact .inl (hstart.trans (hmax.trans hold))
        · refine .inr ⟨first, List.mem_cons_self, .inl ?_⟩
          exact (hstart.trans (hmax.trans hregistered)).symm
      · exact .inr ⟨first, List.mem_cons_self, .inr (hstart.trans hlast).symm⟩
    · exact .inr ⟨record, List.mem_cons_of_mem _ hrecord, hcarries⟩

/-- The highest sequence is the bound that is carried, or zero. -/
theorem highestSequence_eq_iff (records : List CollectiveRecord) (value : UInt64) :
    highestSequence records = value ↔
      (∀ record ∈ records, SequencesLe value record) ∧
        (value = 0 ∨ ∃ record ∈ records, Carries value record) := by
  have hbounds : ∀ value, highestSequence records ≤ value ↔
      ∀ record ∈ records, SequencesLe value record := by
    intro value
    rw [highestSequence, foldl_highest_le_iff]
    exact and_iff_right (UInt64.zero_le)
  constructor
  · rintro rfl
    exact ⟨(hbounds _).mp (UInt64.le_refl _), foldl_highest_carried records 0⟩
  · rintro ⟨hle, hcarried⟩
    refine UInt64.le_antisymm ((hbounds value).mpr hle) ?_
    rcases hcarried with rfl | ⟨record, hrecord, hcarries⟩
    · exact UInt64.zero_le
    · obtain ⟨hregistered, hmutated⟩ := (hbounds _).mp (UInt64.le_refl _) record hrecord
      rcases hcarries with rfl | rfl
      · exact hregistered
      · exact hmutated

end Highest

section Loading

variable {staged staged' : KeyMap CollectiveId CollectiveRecord} {highest highest' : UInt64}
  {records : List CollectiveRecord}

/-- A staging keeps what is staged. -/
theorem stage_keeps {id : CollectiveId} {record : CollectiveRecord}
    (h : stage staged highest records = .ok (staged', highest'))
    (hfind : staged.find id = some record) : staged'.find id = some record := by
  induction records generalizing staged highest with
  | nil =>
    simp only [stage, Except.ok.injEq, Prod.mk.injEq] at h
    rw [← h.1]
    exact hfind
  | cons _ _ ih =>
    simp only [stage] at h
    split at h
    · cases h
    · refine ih h ?_
      rw [KeyMap.find_emplace, if_neg, hfind]
      rintro ⟨rfl, hnone⟩
      rw [hnone] at hfind
      cases hfind

/-- Every record of the list is staged under its identity. -/
theorem find_of_mem_stage {record : CollectiveRecord}
    (h : stage staged highest records = .ok (staged', highest')) (hrecord : record ∈ records) :
    staged'.find record.definition.id = some record := by
  induction records generalizing staged highest with
  | nil => cases hrecord
  | cons first rest ih =>
    simp only [stage] at h
    split at h
    · cases h
    · rename_i hfault
      rcases List.mem_cons.mp hrecord with rfl | hrest
      · have hnew := ((loadFault_isOk_iff staged record).mp (by simpa using hfault)).2
        refine stage_keeps h ?_
        rw [KeyMap.find_emplace, if_pos ⟨rfl, hnew⟩]
      · exact ih h hrest

variable {catalog : CollectiveCatalog}

/-- After a load, the lookups find the records of the list and no others. -/
theorem load_find_iff (h : (catalog.load records).1.isOk = true) (id : CollectiveId)
    (record : CollectiveRecord) :
    (catalog.load records).2.find id = some record ↔
      record ∈ records ∧ record.definition.id = id := by
  unfold CollectiveCatalog.load at h ⊢
  split at h
  · cases h
  · rename_i hwithin
    rw [if_neg hwithin]
    cases hstage : stage ∅ 0 records with
    | error status =>
      rw [hstage] at h
      rw [stage_error hstage] at h
      cases h
    | ok result =>
      obtain ⟨staged, highest⟩ := result
      constructor
      · intro hfind
        exact (stage_find hstage hfind).resolve_left (by simp)
      · rintro ⟨hrecord, rfl⟩
        exact find_of_mem_stage hstage hrecord

theorem load_mutationSequence (h : (catalog.load records).1.isOk = true) :
    (catalog.load records).2.mutationSequence = ⟨highestSequence records⟩ := by
  unfold CollectiveCatalog.load at h ⊢
  split at h
  · cases h
  · rename_i hwithin
    rw [if_neg hwithin]
    cases hstage : stage ∅ 0 records with
    | error status =>
      rw [hstage] at h
      rw [stage_error hstage] at h
      cases h
    | ok result => exact congrArg Sequence.mk (stage_highest hstage)

end Loading

section Changes

variable {definition : CollectiveDefinition}

/-- The operations that take the next value of the counter, if they apply. -/
def CatalogOp.mutates : CatalogOp → Bool
  | .registerDefinition _ _ | .beginAttempt _ _ _ | .setState _ _ _ => true
  | _ => false

/-- The operation does not take a registration back. -/
def CatalogOp.keepsRegistered : CatalogOp → Bool
  | .setState _ state _ => state ≠ .unregistered
  | _ => true

/-- The record is a new registration, or it goes on from the record before. -/
inductive RecordNext (before : Option CollectiveRecord) (sequence : Sequence)
    (keeps : Bool) (record : CollectiveRecord) : Prop
  | registered
      (loadable : LoadableRecord record)
      (registered : record.registrationSequence = sequence)
  | continued
      (old : CollectiveRecord)
      (found : before = some old)
      (definition : record.definition = old.definition)
      (registered : record.registrationSequence = old.registrationSequence)
      (state : keeps = true → record.state ≠ .unregistered)

/-- What an operation does to the catalog. -/
inductive CatalogChange (catalog : CollectiveCatalog) : CatalogOp → CollectiveCatalog → Prop
  | same (op : CatalogOp) : CatalogChange catalog op catalog
  | stored
      (op : CatalogOp) (catalog' : CollectiveCatalog)
      (id : CollectiveId) (record : CollectiveRecord)
      (mutates : op.mutates = true)
      (sequence : catalog'.mutationSequence = catalog.mutationSequence.next)
      (finds : ∀ k, catalog'.find k = if k = id then some record else catalog.find k)
      (next : RecordNext (catalog.find id) catalog.mutationSequence.next op.keepsRegistered record)
      (mutated : record.lastMutationSequence = catalog.mutationSequence.next) :
      CatalogChange catalog op catalog'
  | edited
      (op : CatalogOp) (catalog' : CollectiveCatalog)
      (id : CollectiveId) (record : CollectiveRecord) (bytes : UInt64)
      (found : catalog.find id = some record)
      (sequence : catalog'.mutationSequence = catalog.mutationSequence)
      (finds : ∀ k, catalog'.find k =
        if k = id then some { record with attemptTransferBytes := bytes } else catalog.find k) :
      CatalogChange catalog op catalog'
  | loaded
      (records : List CollectiveRecord)
      (accepted : (catalog.load records).1.isOk = true) :
      CatalogChange catalog (.load records) (catalog.load records).2
  | cleared : CatalogChange catalog .clear catalog.clear

theorem mintGeneration_set (seed : UInt64) : (mintGeneration seed).isNone = false := by
  unfold mintGeneration
  generalize (IdentityMinter.ofSeed seed).next.1 = minted
  cases hnone : minted.isNone with
  | true =>
    simp only [hnone, if_true]
    rfl
  | false => simp only [hnone, Bool.false_eq_true, if_false]

/-- Neither the generation nor the sequence of a definition is checked. -/
theorem validateDefinition_stamped (definition : CollectiveDefinition)
    (generation : CollectiveGeneration) (sequence : Sequence) :
    validateDefinition
        { definition with generation := generation, registrationSequence := sequence } =
      validateDefinition definition := by
  rfl

theorem newRecord_loadable (sequence : Sequence) (now : UInt64)
    (h : (validateDefinition definition).isOk = true) :
    LoadableRecord (newRecord definition sequence now) := by
  have hset : (if definition.generation.isNone then
      mintGeneration (sequence.value ^^^ 0xC0FFEE)
    else definition.generation).isNone = false := by
    split
    · exact mintGeneration_set _
    · rename_i hset
      exact Bool.eq_false_of_not_eq_true hset
  unfold newRecord
  -- The generation is a variable from here on, so that nothing evaluates the minter.
  generalize (if definition.generation.isNone then
      mintGeneration (sequence.value ^^^ 0xC0FFEE)
    else definition.generation) = generation at hset ⊢
  refine ⟨?_, hset, by simp⟩
  simp only [validateDefinition_stamped, h]

theorem advancedRecord_loadable (record : CollectiveRecord) (sequence : Sequence) (now : UInt64)
    (h : (validateDefinition definition).isOk = true) :
    LoadableRecord (advancedRecord record definition sequence now) := by
  have hset := mintGeneration_set (sequence.value ^^^ 0xBEEF)
  unfold advancedRecord
  generalize mintGeneration (sequence.value ^^^ 0xBEEF) = generation at hset ⊢
  refine ⟨?_, hset, by simp⟩
  simp only [validateDefinition_stamped, h]

variable {catalog : CollectiveCatalog}

/-- A mutation of a stored record that keeps its definition and its registration. -/
theorem mutate_change {op : CatalogOp} {id : CollectiveId} {record record' : CollectiveRecord}
    (now : UInt64) (hop : op.mutates = true) (hfind : catalog.find id = some record)
    (hdefinition : record'.definition = record.definition)
    (hregistered : record'.registrationSequence = record.registrationSequence)
    (hstate : op.keepsRegistered = true → record'.state ≠ .unregistered) :
    CatalogChange catalog op (catalog.mutate id record' now) := by
  exact .stored _ _ id _ hop rfl (fun k => KeyMap.find_assign _ _ _ _)
    (.continued record hfind hdefinition hregistered hstate) rfl

theorem catalogStep_change (catalog : CollectiveCatalog) (op : CatalogOp) :
    CatalogChange catalog op (catalogStep catalog op) := by
  have heffect := catalogStep_effect catalog op
  generalize hstep : catalogStep catalog op = catalog' at heffect
  cases heffect with
  | same => exact .same _
  | registered definition now registers absent =>
    have hloadable := newRecord_loadable catalog.mutationSequence.next now registers.1
    have hsequences : (newRecord definition catalog.mutationSequence.next
        now).registrationSequence = catalog.mutationSequence.next ∧
      (newRecord definition catalog.mutationSequence.next
        now).lastMutationSequence = catalog.mutationSequence.next := ⟨rfl, rfl⟩
    -- The record is a variable from here on, so that nothing evaluates the minter.
    generalize newRecord definition catalog.mutationSequence.next now = record
      at hloadable hsequences
    exact .stored _ _ definition.id record rfl rfl (fun _ => find_emplace_of_absent _ absent)
      (.registered hloadable hsequences.1) hsequences.2
  | advanced definition now old registers found =>
    have hloadable := advancedRecord_loadable old catalog.mutationSequence.next now registers.1
    have hsequences : (advancedRecord old definition
        catalog.mutationSequence.next now).registrationSequence = catalog.mutationSequence.next ∧
      (advancedRecord old definition catalog.mutationSequence.next
        now).lastMutationSequence = catalog.mutationSequence.next := ⟨rfl, rfl⟩
    generalize advancedRecord old definition catalog.mutationSequence.next
      now = record at hloadable hsequences
    exact .stored _ _ definition.id record rfl rfl (fun _ => KeyMap.find_assign _ _ _ _)
      (.registered hloadable hsequences.1) hsequences.2
  | begun _ _ now _ found => exact mutate_change now rfl found rfl rfl (by simp)
  | moved _ _ now _ found =>
    exact mutate_change now rfl found rfl rfl (by simp [CatalogOp.keepsRegistered])
  | declared id bytes record found =>
    exact .edited _ _ id record bytes found rfl (fun _ => KeyMap.find_assign _ _ _ _)
  | loaded records staged highest fits stages =>
    have hload : catalog.load records =
        (Status.ok, { catalog with records := staged, mutationSequence := ⟨highest⟩ }) := by
      rw [CollectiveCatalog.load, if_neg (Nat.not_lt.mpr fits), stages]
    have hchange : CatalogChange catalog (.load records) _ := .loaded records (by rw [hload]; rfl)
    rwa [hload] at hchange
  | cleared => exact .cleared

end Changes

section Records

/-- Every record is one that a load accepts. -/
def AllLoadable (catalog : CollectiveCatalog) : Prop :=
  ∀ id record, catalog.find id = some record → LoadableRecord record

variable {catalog : CollectiveCatalog}

theorem AllLoadable.step {op : CatalogOp} (h : AllLoadable catalog)
    (hop : op.keepsRegistered = true) : AllLoadable (catalogStep catalog op) := by
  intro k found hfound
  have hchange := catalogStep_change catalog op
  generalize catalogStep catalog op = catalog' at hchange hfound
  cases hchange with
  | same => exact h k found hfound
  | stored _ _ id record _ _ hfinds hnext _ =>
    rw [hfinds] at hfound
    split at hfound
    · cases hfound
      cases hnext with
      | registered hloadable _ => exact hloadable
      | continued old hold hdefinition _ hstate =>
        obtain ⟨hvalid, hset, _⟩ := h id old hold
        exact ⟨hdefinition ▸ hvalid, hdefinition ▸ hset, hstate hop⟩
    · exact h k found hfound
  | edited _ _ id record bytes hrecord _ hfinds =>
    rw [hfinds] at hfound
    split at hfound
    · cases hfound
      exact h id record hrecord
    · exact h k found hfound
  | loaded records hload =>
    have hmember := ((load_find_iff hload k found).mp hfound).1
    exact ((load_isOk_iff catalog records).mp hload).2.1 found hmember
  | cleared => cases hfound

theorem endTrace_keepsRegistered {s : CoordinatorService} {state : CollectiveState}
    {context : ServiceRequestContext} {id : CollectiveId} {generation : CollectiveGeneration}
    {attempt : CollectiveAttemptId} (hstate : state ≠ .unregistered) :
    ∀ op ∈ endTrace s state context id generation attempt, op.keepsRegistered = true := by
  intro op hop
  unfold endTrace at hop
  split at hop
  · cases hop
  · rw [List.mem_ite_nil_right, List.mem_singleton] at hop
    rw [hop.2]
    simpa [CatalogOp.keepsRegistered] using hstate

/-- The service takes no registration back. -/
theorem catalogTrace_keepsRegistered (s : CoordinatorService) (op : ServiceOp) :
    ∀ a ∈ catalogTrace s op, a.keepsRegistered = true := by
  intro a ha
  cases op with
  | restore | registerCollective =>
    simp only [catalogTrace, List.mem_ite_nil_right, List.mem_singleton] at ha
    rw [ha.2]
    rfl
  | beginAttempt =>
    simp only [catalogTrace] at ha
    split at ha
    · cases ha
    · rw [List.mem_ite_nil_right, List.mem_pair] at ha
      rcases ha.2 with rfl | rfl
      · rfl
      · rfl
  | cancelCollective | retireCollective =>
    exact endTrace_keepsRegistered (by decide) a ha
  | planFlowGroup =>
    simp only [catalogTrace, planTrace] at ha
    rw [List.mem_ite_nil_right] at ha
    have hmem := ha.2
    split at hmem
    · cases hmem
    · rw [List.mem_ite_nil_right, List.mem_singleton] at hmem
      rw [hmem.2]
      rfl
  | _ => cases ha

/-- Every record of a reachable service is one that a load accepts. -/
theorem ServiceReachable.allLoadable {s : CoordinatorService} (h : ServiceReachable s) :
    AllLoadable s.catalog := by
  obtain ⟨config, hreach⟩ := h
  have hstep : ∀ (s : CoordinatorService) (op : ServiceOp), AllLoadable s.catalog →
      AllLoadable (serviceStep s op).catalog := by
    intro s op hs
    have hcatalog := serviceStep_simulates_catalog s op
    rw [hcatalog]
    have htrace : Along catalogStep (fun _ op => op.keepsRegistered = true) s.catalog
        (catalogTrace s op) := along_of_forall _ (catalogTrace_keepsRegistered s op)
    exact htrace.invariant (fun _ _ hop h => h.step hop) hs
  refine hreach.invariant ?_ hstep
  intro id record hfind
  cases hfind

end Records

section Counting

/-- The counter is the highest sequence that a record carries. -/
structure CatalogCounted (catalog : CollectiveCatalog) : Prop where
  bounded : ∀ id record, catalog.find id = some record →
    SequencesLe catalog.mutationSequence.value record
  carried : catalog.mutationSequence.value = 0 ∨
    ∃ id record, catalog.find id = some record ∧ Carries catalog.mutationSequence.value record

/-- The operation does not take the counter over its last value. -/
def CatalogOp.Counts (catalog : CollectiveCatalog) (op : CatalogOp) : Prop :=
  op.mutates = true → catalog.mutationSequence < catalog.mutationSequence.next

namespace CatalogCounted

variable {catalog catalog' : CollectiveCatalog}

theorem empty (hrecords : ∀ id, catalog.find id = none)
    (hsequence : catalog.mutationSequence.value = 0) : CatalogCounted catalog := by
  refine ⟨?_, .inl hsequence⟩
  intro id record hfind
  rw [hrecords] at hfind
  cases hfind

/-- A catalog in which one record was stored under the next sequence. -/
theorem stored {id : CollectiveId} {record : CollectiveRecord} {keeps : Bool}
    (h : CatalogCounted catalog)
    (hcounts : catalog.mutationSequence < catalog.mutationSequence.next)
    (hsequence : catalog'.mutationSequence = catalog.mutationSequence.next)
    (hfinds : ∀ k, catalog'.find k = if k = id then some record else catalog.find k)
    (hnext : RecordNext (catalog.find id) catalog.mutationSequence.next keeps record)
    (hmutated : record.lastMutationSequence = catalog.mutationSequence.next) :
    CatalogCounted catalog' := by
  have hle : catalog.mutationSequence.value ≤ catalog.mutationSequence.next.value :=
    UInt64.le_of_lt hcounts
  have hregistered : record.registrationSequence.value ≤ catalog.mutationSequence.next.value := by
    cases hnext with
    | registered _ hregistered =>
      rw [hregistered]
      exact UInt64.le_refl _
    | continued old hold _ hregistered _ =>
      rw [hregistered]
      exact UInt64.le_trans (h.bounded id old hold).1 hle
  refine ⟨?_, .inr ⟨id, record, by rw [hfinds, if_pos rfl], .inr (by rw [hmutated, hsequence])⟩⟩
  intro k found hfound
  rw [hsequence]
  rw [hfinds] at hfound
  split at hfound
  · cases hfound
    exact ⟨hregistered, by rw [hmutated]; exact UInt64.le_refl _⟩
  · obtain ⟨hregistered', hmutated'⟩ := h.bounded k found hfound
    exact ⟨UInt64.le_trans hregistered' hle, UInt64.le_trans hmutated' hle⟩

/-- The volume of an attempt is no part of what is counted. -/
theorem edited {id : CollectiveId} {record : CollectiveRecord} {bytes : UInt64}
    (h : CatalogCounted catalog) (hrecord : catalog.find id = some record)
    (hsequence : catalog'.mutationSequence = catalog.mutationSequence)
    (hfinds : ∀ k, catalog'.find k =
      if k = id then some { record with attemptTransferBytes := bytes } else catalog.find k) :
    CatalogCounted catalog' := by
  refine ⟨?_, ?_⟩
  · intro k found hfound
    rw [hsequence]
    rw [hfinds] at hfound
    split at hfound
    · cases hfound
      exact h.bounded id record hrecord
    · exact h.bounded k found hfound
  · rw [hsequence]
    refine h.carried.imp_right ?_
    rintro ⟨k, carrier, hcarrier, hcarries⟩
    by_cases hk : k = id
    · subst hk
      cases hrecord.symm.trans hcarrier
      exact ⟨k, { record with attemptTransferBytes := bytes },
        (hfinds k).trans (if_pos rfl), hcarries⟩
    · exact ⟨k, carrier, by rw [hfinds, if_neg hk, hcarrier], hcarries⟩

theorem loaded {records : List CollectiveRecord} (hload : (catalog.load records).1.isOk = true) :
    CatalogCounted (catalog.load records).2 := by
  have hfind := load_find_iff hload
  obtain ⟨hbounded, hcarried⟩ := (highestSequence_eq_iff records _).mp rfl
  have hsequence := load_mutationSequence hload
  refine ⟨?_, ?_⟩
  · intro id record hrecord
    rw [hsequence]
    exact hbounded record ((hfind id record).mp hrecord).1
  · rw [hsequence]
    refine hcarried.imp_right ?_
    rintro ⟨record, hrecord, hcarries⟩
    exact ⟨_, record, (hfind _ record).mpr ⟨hrecord, rfl⟩, hcarries⟩

theorem step {op : CatalogOp} (h : CatalogCounted catalog) (hop : op.Counts catalog) :
    CatalogCounted (catalogStep catalog op) := by
  have hchange := catalogStep_change catalog op
  generalize catalogStep catalog op = catalog' at hchange ⊢
  cases hchange with
  | same => exact h
  | stored _ _ _ _ hmutates hsequence hfinds hnext hmutated =>
    exact h.stored (hop hmutates) hsequence hfinds hnext hmutated
  | edited _ _ _ _ _ hrecord hsequence hfinds => exact h.edited hrecord hsequence hfinds
  | loaded records hload => exact loaded hload
  | cleared => exact .empty (fun id => KeyMap.find_empty id) rfl

/-- The counter is what a load computes from the exported records. -/
theorem highest_exportAll (h : CatalogCounted catalog) :
    highestSequence catalog.exportAll = catalog.mutationSequence.value := by
  rw [highestSequence_eq_iff]
  refine ⟨?_, h.carried.imp_right ?_⟩
  · intro record hrecord
    obtain ⟨id, hfind⟩ := (mem_exportAll_iff record).mp hrecord
    exact h.bounded id record hfind
  · rintro ⟨id, record, hfind, hcarries⟩
    exact ⟨record, (mem_exportAll_iff record).mpr ⟨id, hfind⟩, hcarries⟩

end CatalogCounted

/-- The operations of the service that may mutate the catalog. -/
def ServiceOp.mutatesCatalog : ServiceOp → Bool
  | .registerCollective _ _ | .beginAttempt _ _ _ _ _ | .cancelCollective _ _ _ _ _
  | .retireCollective _ _ _ _ _ | .planFlowGroup _ _ => true
  | _ => false

/-- The operation does not mutate a catalog whose counter is at its last value. -/
def ServiceOp.KeepsCounting (s : CoordinatorService) (op : ServiceOp) : Prop :=
  op.mutatesCatalog = true → s.catalog.mutationSequence < s.catalog.mutationSequence.next

instance (s : CoordinatorService) (op : ServiceOp) : Decidable (op.KeepsCounting s) :=
  inferInstanceAs (Decidable (_ → _))

variable {s : CoordinatorService}

theorem endTrace_counts {state : CollectiveState} {context : ServiceRequestContext}
    {id : CollectiveId} {generation : CollectiveGeneration} {attempt : CollectiveAttemptId}
    (hcounts : s.catalog.mutationSequence < s.catalog.mutationSequence.next) :
    Along catalogStep CatalogOp.Counts s.catalog
      (endTrace s state context id generation attempt) := by
  unfold endTrace
  split
  · trivial
  · split
    · exact ⟨fun _ => hcounts, trivial⟩
    · trivial

/-- What an operation does to the catalog counts on. -/
theorem catalogTrace_counts {op : ServiceOp} (h : op.KeepsCounting s) :
    Along catalogStep CatalogOp.Counts s.catalog (catalogTrace s op) := by
  cases op with
  | restore path contents now =>
    simp only [catalogTrace]
    split
    · exact ⟨Bool.false_ne_true.elim, trivial⟩
    · trivial
  | registerCollective context definition =>
    simp only [catalogTrace]
    split
    · exact ⟨fun _ => h rfl, trivial⟩
    · trivial
  | beginAttempt context id generation attempt bytes =>
    simp only [catalogTrace]
    split
    · trivial
    · split
      · exact ⟨fun _ => h rfl, Bool.false_ne_true.elim, trivial⟩
      · trivial
  | cancelCollective | retireCollective => exact endTrace_counts (h rfl)
  | planFlowGroup context request =>
    simp only [catalogTrace, planTrace]
    split
    · split
      · trivial
      · split
        · exact ⟨fun _ => h rfl, trivial⟩
        · trivial
    · trivial
  | _ => trivial

theorem serviceStep_catalogCounted (s : CoordinatorService) (op : ServiceOp)
    (hop : op.KeepsCounting s) (h : CatalogCounted s.catalog) :
    CatalogCounted (serviceStep s op).catalog := by
  have hcatalog := serviceStep_simulates_catalog s op
  rw [hcatalog]
  exact (catalogTrace_counts hop).invariant (fun _ _ hop h => h.step hop) h

/-- In every run in which the counter counts, it is the highest sequence of a record. -/
theorem run_catalogCounted {config : ServiceConfig} {ops : List ServiceOp}
    (hops : Along serviceStep (fun s op => ServiceOp.KeepsCounting s op)
      (CoordinatorService.create config) ops) :
    CatalogCounted (run serviceStep (.create config) ops).catalog := by
  exact hops.invariant (fun s op hop h => serviceStep_catalogCounted s op hop h)
    (.empty (fun id => KeyMap.find_empty id) rfl)

end Counting

end TrafficFabric
