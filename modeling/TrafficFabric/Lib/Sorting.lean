import Mathlib.Algebra.Ring.Nat
import Mathlib.Data.List.Sort
import Mathlib.Data.List.Destutter
import Mathlib.Data.Prod.Lex

/-!
# Sorting by a rank

A comparator that goes through fields one after another is the order of a rank,
the tuple of the fields.  What it sorts to depends only on the items, as soon
as items of one rank are one item.  A sorted list without its repeated
neighbours depends only on its members.
-/

namespace TrafficFabric
namespace Lib

section Ranks

variable {α β : Type} [LinearOrder β]

/-- The relation is the order of the rank. -/
def Ranks (le : α → α → Prop) (rank : α → β) : Prop :=
  ∀ a b, le a b ↔ rank a ≤ rank b

variable {le : α → α → Prop} [DecidableRel le] {rank : α → β} {items other : List α}

theorem Ranks.pairwise_insertionSort (h : Ranks le rank) (items : List α) :
    (items.insertionSort le).Pairwise fun a b => rank a ≤ rank b := by
  have : Std.Total le := ⟨fun a b => by
    rw [h, h]
    exact le_total _ _⟩
  have : IsTrans α le := ⟨fun a b c hab hbc => by
    rw [h] at hab hbc ⊢
    exact hab.trans hbc⟩
  exact (List.pairwise_insertionSort le items).imp fun hle => (h _ _).mp hle

/-- Items of different ranks come out strictly ascending. -/
theorem Ranks.pairwise_lt_insertionSort (h : Ranks le rank) (hnodup : (items.map rank).Nodup) :
    (items.insertionSort le).Pairwise fun a b => rank a < rank b := by
  have hdistinct : (items.insertionSort le).Pairwise fun a b => rank a ≠ rank b :=
    List.pairwise_map.mp (((List.perm_insertionSort le items).map rank).nodup_iff.mpr hnodup)
  exact ((h.pairwise_insertionSort items).and hdistinct).imp
    fun hboth => lt_of_le_of_ne hboth.1 hboth.2

/-- The order in which the items arrive is lost, if no two of them share a rank. -/
theorem Ranks.insertionSort_eq_of_perm (h : Ranks le rank) (hperm : items.Perm other)
    (hdistinct : ∀ a ∈ items, ∀ b ∈ items, rank a = rank b → a = b) :
    items.insertionSort le = other.insertionSort le := by
  have hfirst := List.perm_insertionSort le items
  have hsecond := List.perm_insertionSort le other
  refine List.Perm.eq_of_pairwise ?_ (h.pairwise_insertionSort items)
    (h.pairwise_insertionSort other) (hfirst.trans (hperm.trans hsecond.symm))
  intro a b ha hb hab hba
  exact hdistinct a (hfirst.mem_iff.mp ha) b (hperm.mem_iff.mpr (hsecond.mem_iff.mp hb))
    (le_antisymm hab hba)

/-- A sorted list ascends strictly when no two neighbours share a rank. -/
theorem pairwise_lt_of_neighbours (hsorted : items.Pairwise fun a b => rank a ≤ rank b)
    (hchain : items.IsChain fun a b => rank a ≠ rank b) :
    items.Pairwise fun a b => rank a < rank b := by
  have hranks : (items.map rank).IsChain (· ≤ ·) :=
    List.isChain_iff_pairwise.mpr (List.pairwise_map.mpr hsorted)
  have hdistinct : (items.map rank).IsChain (· ≠ ·) := (List.isChain_map rank).mpr hchain
  apply List.pairwise_map.mp
  rw [← List.isChain_iff_pairwise]
  rw [List.isChain_iff_forall_rel_of_append_cons_cons] at hranks hdistinct ⊢
  intro a b front back hsplit
  exact lt_of_le_of_ne (hranks hsplit) (hdistinct hsplit)

/-- Comparing a first field, and the rest where it agrees, is a lexicographic comparison. -/
theorem compareFirst_iff {γ : Type} [DecidableEq γ] {f : γ → β} {x y : γ} {less : Prop}
    [Decidable less] {rest : Bool} (hinjective : Function.Injective f) (hless : less ↔ f x < f y) :
    (if x ≠ y then decide less else rest) = true ↔ f x < f y ∨ f x = f y ∧ rest = true := by
  by_cases hsame : x = y
  · subst hsame
    simp
  · have hne : f x ≠ f y := fun heq => hsame (hinjective heq)
    simp [hsame, hne, hless]

end Ranks

section Neighbours

variable {α : Type} {items other : List α}

theorem mem_destutter_ne_iff [DecidableEq α] {a : α} : a ∈ items.destutter (· ≠ ·) ↔ a ∈ items := by
  cases items with
  | nil => simp
  | cons first rest =>
    rw [List.destutter_cons']
    induction rest generalizing first with
    | nil => simp
    | cons second rest ih =>
      by_cases hsame : first = second
      · subst hsame
        rw [List.destutter'_cons_neg _ (not_not.mpr rfl), ih]
        simp
      · rw [List.destutter'_cons_pos _ hsame]
        simp only [List.mem_cons, ih]

variable [LinearOrder α]

theorem pairwise_lt_destutter (hsorted : items.Pairwise (· ≤ ·)) :
    (items.destutter (· ≠ ·)).Pairwise (· < ·) := by
  exact pairwise_lt_of_neighbours
    (hsorted.sublist (List.destutter_sublist (· ≠ ·) items))
    (List.isChain_destutter (· ≠ ·) items)

/-- Sorted and without repetitions, a list is given by its members. -/
theorem destutter_insertionSort_eq (hmembers : ∀ a, a ∈ items ↔ a ∈ other) :
    (items.insertionSort (· ≤ ·)).destutter (· ≠ ·) =
      (other.insertionSort (· ≤ ·)).destutter (· ≠ ·) := by
  refine (pairwise_lt_destutter (List.pairwise_insertionSort _ items)).eq_of_mem_iff
    (pairwise_lt_destutter (List.pairwise_insertionSort _ other)) ?_
  intro a
  rw [mem_destutter_ne_iff, mem_destutter_ne_iff, List.mem_insertionSort, List.mem_insertionSort]
  exact hmembers a

end Neighbours

end Lib
end TrafficFabric
