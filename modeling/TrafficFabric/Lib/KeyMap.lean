import Mathlib.Data.List.AList

/-!
# Finite keyed maps

A finite map is an association list whose keys are pairwise distinct.  The
carrier is Mathlib's AList; this file fixes its non-dependent form and adds
the operations a keyed table needs beyond it: the number of entries, an insert
that keeps an existing entry, a pass over all values, and the list of values.

Every table operation is characterized by what a lookup returns afterwards, so
that a proof about a table never unfolds its list of entries.
-/

namespace TrafficFabric
namespace Lib

universe u v

/-- A finite map from keys to values. -/
abbrev KeyMap (K : Type u) (V : Type v) :=
  AList (fun _ : K => V)

namespace KeyMap

variable {K : Type u} {V : Type v} [DecidableEq K]

/-- The value stored under a key. -/
def find (m : KeyMap K V) (k : K) : Option V :=
  AList.lookup k m

/-- Stores a value, replacing whatever the key held. -/
def assign (m : KeyMap K V) (k : K) (x : V) : KeyMap K V :=
  AList.insert k x m

/-- Stores a value only under a key that holds none. -/
def emplace (m : KeyMap K V) (k : K) (x : V) : KeyMap K V :=
  if (find m k).isSome then m else assign m k x

/-- Removes a key. -/
def remove (m : KeyMap K V) (k : K) : KeyMap K V :=
  AList.erase k m

/-- Number of stored entries. -/
def size (m : KeyMap K V) : Nat :=
  m.entries.length

/-- The stored values, in no particular order. -/
def values (m : KeyMap K V) : List V :=
  m.entries.map Sigma.snd

/-- Rewrites every stored value in place. -/
def mapValues (f : V → V) (m : KeyMap K V) : KeyMap K V where
  entries := m.entries.map (fun e => ⟨e.1, f e.2⟩)
  nodupKeys := by
    have hkeys :
        (m.entries.map (fun e => (⟨e.1, f e.2⟩ : Sigma fun _ : K => V))).keys = m.entries.keys := by
      simp [List.keys, Function.comp_def]
    rw [List.NodupKeys, hkeys]
    exact m.nodupKeys

@[simp] theorem find_empty (k : K) : find (∅ : KeyMap K V) k = none := by
  exact AList.lookup_empty k

@[simp] theorem find_assign_self (m : KeyMap K V) (k : K) (x : V) :
    find (assign m k x) k = some x := by
  exact AList.lookup_insert m

theorem find_assign_of_ne (m : KeyMap K V) {k k' : K} (x : V) (hne : k' ≠ k) :
    find (assign m k x) k' = find m k' := by
  exact AList.lookup_insert_ne hne

theorem find_assign (m : KeyMap K V) (k k' : K) (x : V) :
    find (assign m k x) k' = if k' = k then some x else find m k' := by
  by_cases h : k' = k
  · subst h
    simp
  · rw [if_neg h, find_assign_of_ne m x h]

@[simp] theorem find_remove_self (m : KeyMap K V) (k : K) : find (remove m k) k = none := by
  exact AList.lookup_erase k m

theorem find_remove_of_ne (m : KeyMap K V) {k k' : K} (hne : k' ≠ k) :
    find (remove m k) k' = find m k' := by
  exact AList.lookup_erase_ne hne

/-- Seen through a function of its values, an assigned map is an updated function. -/
theorem map_find_assign {W : Type*} (f : V → W) (m : KeyMap K V) (k : K) (x : V) :
    (fun k' => (find (assign m k x) k').map f) =
      Function.update (fun k' => (find m k').map f) k (some (f x)) := by
  funext k'
  by_cases hk : k' = k
  · subst hk
    simp
  · simp [Function.update_of_ne hk, find_assign_of_ne m x hk]

theorem map_find_remove {W : Type*} (f : V → W) (m : KeyMap K V) (k : K) :
    (fun k' => (find (remove m k) k').map f) =
      Function.update (fun k' => (find m k').map f) k none := by
  funext k'
  by_cases hk : k' = k
  · subst hk
    simp
  · simp [Function.update_of_ne hk, find_remove_of_ne m hk]

theorem find_emplace (m : KeyMap K V) (k k' : K) (x : V) :
    find (emplace m k x) k' = if k' = k ∧ find m k = none then some x else find m k' := by
  unfold emplace
  cases hk : find m k with
  | none => simp [find_assign]
  | some y => simp

/-- A new key adds one entry. -/
theorem size_emplace_of_none (m : KeyMap K V) {k : K} (x : V) (h : find m k = none) :
    size (emplace m k x) = size m + 1 := by
  have hnew : k ∉ m := AList.lookup_eq_none.mp h
  simp [size, emplace, h, assign, AList.insert_of_notMem hnew]

/-- A lookup succeeds exactly on the stored entries. -/
theorem find_eq_some_iff_mem (m : KeyMap K V) (k : K) (x : V) :
    find m k = some x ↔ (⟨k, x⟩ : Sigma fun _ : K => V) ∈ m.entries := by
  exact AList.mem_lookup_iff

@[simp] theorem find_mapValues (f : V → V) (m : KeyMap K V) (k : K) :
    find (mapValues f m) k = (find m k).map f := by
  ext y
  simp only [Option.map_eq_some_iff, find_eq_some_iff_mem, mapValues,
    List.mem_map, Sigma.mk.injEq, heq_eq_eq]
  constructor
  · rintro ⟨⟨k', x⟩, hmem, rfl, rfl⟩
    exact ⟨x, hmem, rfl⟩
  · rintro ⟨x, hmem, rfl⟩
    exact ⟨⟨k, x⟩, hmem, rfl, rfl⟩

/-- The values are exactly what the lookups return. -/
theorem mem_values_iff (m : KeyMap K V) (x : V) : x ∈ values m ↔ ∃ k, find m k = some x := by
  simp only [values, List.mem_map, find_eq_some_iff_mem]
  constructor
  · rintro ⟨⟨k, y⟩, hmem, rfl⟩
    exact ⟨k, hmem⟩
  · rintro ⟨k, hmem⟩
    exact ⟨⟨k, x⟩, hmem, rfl⟩

theorem mem_keys_iff (m : KeyMap K V) (k : K) : k ∈ m.keys ↔ find m k ≠ none := by
  rw [← AList.mem_keys, ← AList.lookup_isSome, Option.isSome_iff_ne_none]
  exact Iff.rfl

section Size

variable {m : KeyMap K V}

omit [DecidableEq K] in
@[simp] theorem size_empty : size (∅ : KeyMap K V) = 0 := by
  rfl

omit [DecidableEq K] in
@[simp] theorem length_keys (m : KeyMap K V) : m.keys.length = size m := by
  simp [AList.keys, List.keys, size]

omit [DecidableEq K] in
@[simp] theorem size_mapValues (f : V → V) (m : KeyMap K V) : size (mapValues f m) = size m := by
  simp [size, mapValues]

/-- A map is no larger than a list of keys that covers it. -/
theorem size_le_length {keys : List K} (h : ∀ k, find m k ≠ none → k ∈ keys) :
    size m ≤ keys.length := by
  have hsub : m.keys ⊆ keys := fun k hk => h k ((mem_keys_iff m k).mp hk)
  rw [← length_keys]
  exact (List.subperm_of_subset m.keys_nodup hsub).length_le

/-- A map that holds no key beyond those of another one is no larger. -/
theorem size_le_of_find {m' : KeyMap K V} (h : ∀ k, find m k ≠ none → find m' k ≠ none) :
    size m ≤ size m' := by
  rw [← length_keys m']
  exact size_le_length fun k hk => (mem_keys_iff m' k).mpr (h k hk)

/-- Storing under a key that is held adds no entry. -/
theorem size_assign_of_found {k : K} (x : V) (h : find m k ≠ none) :
    size (assign m k x) ≤ size m := by
  refine size_le_of_find fun k' hk' => ?_
  by_cases heq : k' = k
  · exact heq ▸ h
  · rwa [find_assign_of_ne m x heq] at hk'

/-- Storing under a key that is not held adds one entry. -/
theorem size_assign_of_none (m : KeyMap K V) {k : K} (x : V) (h : find m k = none) :
    size (assign m k x) = size m + 1 := by
  have hsame : emplace m k x = assign m k x := by
    simp [emplace, h]
  rw [← hsame, size_emplace_of_none m x h]

/-- A bound that leaves room for the key is kept by storing under it. -/
theorem size_assign_le_of_room {k : K} {bound : Nat} (x : V) (hbound : size m ≤ bound)
    (hroom : find m k ≠ none ∨ size m < bound) : size (assign m k x) ≤ bound := by
  by_cases h : find m k = none
  · rw [size_assign_of_none m x h]
    rcases hroom with hheld | hlt
    · exact absurd h hheld
    · exact hlt
  · exact Nat.le_trans (size_assign_of_found x h) hbound

end Size

end KeyMap

end Lib
end TrafficFabric
