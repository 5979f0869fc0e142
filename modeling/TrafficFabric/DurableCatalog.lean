import TrafficFabric.Records
import TrafficFabric.ServiceEffects
import TrafficFabric.Lookups

/-!
# The catalog as it is exported

Every record of a reachable catalog is stored under the identity its
definition carries.  The export, which sorts the records by that identity,
therefore lists each of them once, and two catalogs have the same export
exactly when their lookups agree.
-/

namespace TrafficFabric

open Lib

section Keys

variable {service : CoordinatorService}

/-- Every record is stored under the identity of its definition. -/
def Keyed (catalog : CollectiveCatalog) : Prop :=
  ∀ id record, catalog.find id = some record → record.definition.id = id

theorem advancedRecord_id (record : CollectiveRecord) (definition : CollectiveDefinition)
    (sequence : Sequence) (now : UInt64) :
    (CollectiveCatalog.advancedRecord record definition sequence now).definition.id =
      definition.id := by
  -- The fields are named first, so that the minted generation is not evaluated.
  cases definition
  rfl

theorem catalogStep_keyed (catalog : CollectiveCatalog) (op : CatalogOp) (h : Keyed catalog) :
    Keyed (catalogStep catalog op) := by
  intro id record hfind
  cases catalogStep_recordChange catalog id op with
  | kept hkept => exact h id record (hkept ▸ hfind)
  | registered _ _ _ hnames _ hafter =>
    rw [← Option.some.inj (hafter.symm.trans hfind)]
    exact hnames
  | advanced _ _ _ _ hnames _ hafter =>
    rw [← Option.some.inj (hafter.symm.trans hfind), advancedRecord_id]
    exact hnames
  | begun _ _ old _ _ hbefore hafter hdefinition | edited old _ hbefore hafter hdefinition =>
    rw [← Option.some.inj (hafter.symm.trans hfind), hdefinition]
    exact h id old hbefore
  | loaded _ _ hafter => exact (hafter record hfind).2
  | cleared hcalled hafter => cases hafter.symm.trans hfind

/-- The catalog of a reachable service is a reachable catalog. -/
theorem ServiceReachable.catalog (h : ServiceReachable service) :
    Reachable catalogStep {} service.catalog := by
  obtain ⟨config, hconfig⟩ := h
  exact serviceStep_simulates_catalog.reachable hconfig

theorem ServiceReachable.keyed (h : ServiceReachable service) : Keyed service.catalog := by
  refine h.catalog.invariant ?_ catalogStep_keyed
  intro id record hfind
  cases hfind

end Keys

section Export

variable {catalog catalog' : CollectiveCatalog}

theorem mem_exportAll_iff (record : CollectiveRecord) :
    record ∈ catalog.exportAll ↔ ∃ id, catalog.find id = some record := by
  rw [CollectiveCatalog.exportAll, List.mem_insertionSort]
  exact KeyMap.mem_values_iff catalog.records record

/-- The identities of the stored records are the keys. -/
theorem Keyed.ids_nodup (h : Keyed catalog) :
    (catalog.records.values.map fun record => record.definition.id).Nodup := by
  have hkeys : (catalog.records.values.map fun record => record.definition.id) =
      catalog.records.entries.keys := by
    unfold KeyMap.values List.keys
    rw [List.map_map]
    refine List.map_congr_left ?_
    rintro ⟨id, record⟩ hentry
    exact h id record ((KeyMap.find_eq_some_iff_mem catalog.records id record).mpr hentry)
  rw [hkeys]
  exact catalog.records.nodupKeys

theorem Keyed.exportAll_ascending (h : Keyed catalog) :
    StrictlyAscending (fun record => record.definition.id) catalog.exportAll := by
  exact sortById_strictlyAscending h.ids_nodup

/-- A lookup finds the record of the export that has the identity. -/
theorem Keyed.find_eq_some_iff (h : Keyed catalog) (id : CollectiveId) (record : CollectiveRecord) :
    catalog.find id = some record ↔ record ∈ catalog.exportAll ∧ record.definition.id = id := by
  rw [mem_exportAll_iff]
  constructor
  · intro hfind
    exact ⟨⟨id, hfind⟩, h id record hfind⟩
  · rintro ⟨⟨key, hfind⟩, rfl⟩
    rw [h key record hfind]
    exact hfind

theorem Keyed.exportAll_eq_iff (h : Keyed catalog) (h' : Keyed catalog') :
    catalog'.exportAll = catalog.exportAll ↔ ∀ id, catalog'.find id = catalog.find id := by
  constructor
  · intro hexport id
    ext record
    rw [h'.find_eq_some_iff, h.find_eq_some_iff, hexport]
  · intro hfind
    have hirrefl : Std.Irrefl fun a b : CollectiveRecord => a.definition.id < b.definition.id :=
      ⟨fun a => lt_irrefl a.definition.id⟩
    have hantisymm :
        Std.Antisymm fun a b : CollectiveRecord => a.definition.id < b.definition.id :=
      ⟨fun _ _ hlt hgt => absurd hlt (lt_asymm hgt)⟩
    refine List.Pairwise.eq_of_mem_iff h'.exportAll_ascending h.exportAll_ascending ?_
    intro record
    rw [mem_exportAll_iff, mem_exportAll_iff]
    exact exists_congr fun id => by rw [hfind]

end Export

end TrafficFabric
