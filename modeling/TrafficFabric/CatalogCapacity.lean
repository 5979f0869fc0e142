import TrafficFabric.SnapshotSize
import TrafficFabric.Retained

/-!
# The capacity of the catalog

A registration that finds the catalog full is answered that the bound on live
collectives has been reached and that definitions should be retired first.  What
is compared with the bound is the number of records, and ending a collective
keeps its record: a catalog full of ended collectives stays full.
-/

namespace TrafficFabric

open Lib

/-- The number of records that are not terminal. -/
def CollectiveCatalog.liveCount (catalog : CollectiveCatalog) : Nat :=
  catalog.records.values.countP fun record => !collectiveStateIsTerminal record.state

/-- The registration is answered that the catalog is full. -/
def RefusedForCapacity (s : CoordinatorService) (context : ServiceRequestContext)
    (definition : CollectiveDefinition) : Prop :=
  (s.registerCollective context definition).2.1.result = .rejectedCapacity

section Counting

variable {catalog : CollectiveCatalog}

theorem length_values (catalog : CollectiveCatalog) :
    catalog.records.values.length = catalog.records.size := by
  exact List.length_map _

theorem liveCount_le (catalog : CollectiveCatalog) : catalog.liveCount ≤ catalog.records.size := by
  rw [← length_values]
  exact List.countP_le_length

/-- All records count as live exactly when none of them is terminal. -/
theorem liveCount_eq_size_iff :
    catalog.liveCount = catalog.records.size ↔
      ∀ id record, catalog.find id = some record →
        collectiveStateIsTerminal record.state = false := by
  rw [← length_values, CollectiveCatalog.liveCount, List.countP_eq_length]
  constructor
  · intro h id record hfind
    simpa using h record ((KeyMap.mem_values_iff _ _).mpr ⟨id, hfind⟩)
  · intro h record hmem
    obtain ⟨id, hfind⟩ := (KeyMap.mem_values_iff _ _).mp hmem
    simpa using h id record hfind

end Counting

section Registration

variable {s : CoordinatorService} {context : ServiceRequestContext}
  {definition : CollectiveDefinition}

/-- A new, usable definition is refused for capacity when as many records are stored. -/
theorem refusedForCapacity_iff (hvalid : (validateDefinition definition).isOk = true)
    (hnew : s.catalog.find definition.id = none) :
    RefusedForCapacity s context definition ↔
      MayRegister context s ∧ s.catalog.capacity.toNat ≤ s.catalog.records.size := by
  have houtcome : s.catalog.registerDefinition definition context.nowMonotonicMs =
      s.catalog.registerNew definition context.nowMonotonicMs := by
    simp only [CollectiveCatalog.registerDefinition, hvalid, hnew, Bool.true_eq_false, if_false]
  unfold RefusedForCapacity MayRegister CoordinatorService.registerCollective
  by_cases hrunning : s.running = true
  · by_cases hsession : s.sessions.find context.session = none
    · simp [hrunning, hsession]
    · simp only [hrunning, hsession, Bool.true_eq_false, if_false, houtcome, ne_eq,
        not_false_eq_true, and_self, true_and]
      by_cases hfull : s.catalog.capacity.toNat ≤ s.catalog.records.size
      · simp [CollectiveCatalog.registerNew, hfull, CollectiveCatalog.rejected]
      · simp [CollectiveCatalog.registerNew, hfull]
  · simp [hrunning]

end Registration

/--
Whatever the service has been through, a new and valid definition is refused for
capacity only when as many records are live, exactly as long as the caller may
not register, the catalog has room or no record is terminal.
-/
theorem capacity_refusal_live_iff (config : ServiceConfig) (ops : List ServiceOp)
    (context : ServiceRequestContext) (definition : CollectiveDefinition)
    (hvalid : (validateDefinition definition).isOk = true)
    (hnew : (run serviceStep (CoordinatorService.create config) ops).catalog.find definition.id =
      none) :
    let s := run serviceStep (CoordinatorService.create config) ops
    (RefusedForCapacity s context definition →
        s.catalog.capacity.toNat ≤ s.catalog.liveCount) ↔
      ¬ MayRegister context s ∨ s.catalog.records.size < s.catalog.capacity.toNat ∨
        ∀ id record, s.catalog.find id = some record →
          collectiveStateIsTerminal record.state = false := by
  intro s
  have hbound : s.catalog.records.size ≤ s.catalog.capacity.toNat :=
    ServiceReachable.catalog_le ⟨config, ops, rfl⟩
  have hcount : s.catalog.liveCount ≤ s.catalog.records.size := liveCount_le s.catalog
  have hrefused : RefusedForCapacity s context definition ↔
      MayRegister context s ∧ s.catalog.capacity.toNat ≤ s.catalog.records.size :=
    refusedForCapacity_iff hvalid hnew
  rw [hrefused, ← liveCount_eq_size_iff]
  by_cases hcaller : MayRegister context s
  · simp only [hcaller, true_and, not_true_eq_false, false_or]
    omega
  · simp [hcaller]

namespace TwoMembers

/-- The collective of the two members is registered and retired at once. -/
def retired : List ServiceOp :=
  boot ++
  [ .registerCollective (context 4) definition,
    .retireCollective (context 4) ⟨31, 0⟩ ⟨32, 0⟩ {} [] ]

/-- As many more definitions as a catalog of the default capacity has room for. -/
def filled : List ServiceOp :=
  retired ++
    ((List.range (Limits.collectivesMaxLive - 1)).map numbered).map
      (.registerCollective (context 4))

theorem id_numbered_ne (index : Nat) : (numbered index).id ≠ definition.id := by
  intro hsame
  have hlo : (1 : UInt64) = 0 := congrArg Identity.lo hsame
  exact absurd hlo (by decide)

/-- The retired collective is the only one. -/
theorem find_retired (index : Nat) :
    (run serviceStep (.create {}) retired).catalog.find (numbered index).id =
      none := by
  obtain ⟨record, hrecords⟩ : ∃ record : CollectiveRecord,
      (run serviceStep (.create {}) retired).catalog.records =
        KeyMap.assign ∅ definition.id record := ⟨_, rfl⟩
  rw [CollectiveCatalog.find, hrecords, KeyMap.find_assign_of_ne _ _ (id_numbered_ne index),
    KeyMap.find_empty]

theorem id_numbered_notMem {count : Nat} (hcount : count < 2 ^ 64) :
    (numbered count).id ∉ ((List.range count).map numbered).map CollectiveDefinition.id := by
  rw [List.map_map]
  intro hmem
  obtain ⟨index, hindex, hsame⟩ := List.mem_map.mp hmem
  rw [List.mem_range] at hindex
  exact hindex.ne (id_numbered_inj (hindex.trans hcount) hcount hsame)

/-- The retired collective has an identity of its own. -/
theorem id_definition_notMem (count : Nat) :
    definition.id ∉ ((List.range count).map numbered).map CollectiveDefinition.id := by
  rw [List.map_map]
  intro hmem
  obtain ⟨index, -, hsame⟩ := List.mem_map.mp hmem
  exact id_numbered_ne index hsame

/-- Once the numbered definitions have taken the room left by a retired one, the next is refused. -/
theorem refused_after_filling {s : CoordinatorService} {count : Nat}
    (hcaller : MayRegister (context 4) s)
    (hnew : ∀ index, s.catalog.find (numbered index).id = none)
    (hretired : (s.catalog.find definition.id).map CollectiveRecord.state = some .retired)
    (hcount : count < 2 ^ 64) (hroom : s.catalog.records.size + count = s.catalog.capacity.toNat) :
    let s' := run serviceStep s
      (((List.range count).map numbered).map (.registerCollective (context 4)))
    s'.catalog.find (numbered count).id = none ∧
      RefusedForCapacity s' (context 4) (numbered count) ∧
      s'.catalog.liveCount < s'.catalog.capacity.toNat := by
  intro s'
  obtain ⟨hsize, hcaller', hcapacity, hkept⟩ :=
    registrations_numbered hcaller hnew hcount.le hroom.le
  have hfree : s'.catalog.find (numbered count).id = none :=
    (hkept _ (id_numbered_notMem hcount)).trans (hnew count)
  have hfull : s'.catalog.records.size = s'.catalog.capacity.toNat := by
    rw [hsize, hroom, hcapacity]
  refine ⟨hfree, ?_, ?_⟩
  · exact (refusedForCapacity_iff (validateDefinition_numbered count) hfree).mpr
      ⟨hcaller', hfull.ge⟩
  · rw [← hfull]
    refine lt_of_le_of_ne (liveCount_le s'.catalog) ?_
    intro hlive
    rw [← hkept _ (id_definition_notMem count), Option.map_eq_some_iff] at hretired
    obtain ⟨record, hfind, hstate⟩ := hretired
    have hterminal := liveCount_eq_size_iff.mp hlive _ _ hfind
    rw [hstate] at hterminal
    exact absurd hterminal (by decide)

/--
With one collective retired and the rest of the catalog taken, the next
definition is new and refused, with fewer records live than the capacity.
-/
theorem filled_refuses :
    let s := run serviceStep (.create {}) filled
    let next := numbered (Limits.collectivesMaxLive - 1)
    s.catalog.find next.id = none ∧ RefusedForCapacity s (context 4) next ∧
      s.catalog.liveCount < s.catalog.capacity.toNat := by
  have hcaller : MayRegister (context 4)
      (run serviceStep (.create {}) retired) := by
    unfold MayRegister
    decide
  have hretired : ((run serviceStep (.create {}) retired).catalog.find
      definition.id).map CollectiveRecord.state = some .retired := by
    decide
  have hroom : (run serviceStep (.create {}) retired).catalog.records.size +
      (Limits.collectivesMaxLive - 1) =
        (run serviceStep (.create {}) retired).catalog.capacity.toNat := by
    decide
  rw [filled, run_append]
  exact refused_after_filling hcaller find_retired hretired (by decide) hroom

/-- The full catalog that refuses the next definition holds a terminal record. -/
theorem refused_beside_retired :
    let s := run serviceStep (CoordinatorService.create {}) filled
    RefusedForCapacity s (context 4) (numbered (Limits.collectivesMaxLive - 1)) ∧
      ¬ ∀ id record, s.catalog.find id = some record →
        collectiveStateIsTerminal record.state = false := by
  obtain ⟨hnew, hrefused, hlive⟩ := filled_refuses
  refine ⟨hrefused, fun hnone => hlive.not_ge ?_⟩
  exact (capacity_refusal_live_iff {} filled (context 4) _ (validateDefinition_numbered _)
    hnew).mpr (.inr (.inr hnone)) hrefused

end TwoMembers

open TwoMembers in
/-- A retired record keeps its place: the next definition is refused with the capacity not live. -/
theorem retired_record_fills_catalog :
    let s := run serviceStep (CoordinatorService.create {}) filled
    let next := TwoMembers.numbered (Limits.collectivesMaxLive - 1)
    (validateDefinition next).isOk = true ∧ s.catalog.find next.id = none ∧
      RefusedForCapacity s (context 4) next ∧
      s.catalog.liveCount < s.catalog.capacity.toNat := by
  exact ⟨validateDefinition_numbered _, filled_refuses⟩

end TrafficFabric
