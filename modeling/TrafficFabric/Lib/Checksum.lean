import Mathlib.Tactic.Common
import Mathlib.Logic.Function.Basic
import Mathlib.Data.List.Basic

/-!
# Changes of one token and running checksums

Two lists that differ in one place agree before it and after it, and so do the
parts taken from their fronts and what is left of them.

A running checksum folds one token after another into a state.  When every
token maps distinct states to distinct states, and distinct tokens take one
state to distinct states, two inputs that differ in one place have distinct
checksums, at any length and in any place.
-/

namespace TrafficFabric
namespace Lib

section Change

variable {β : Type} {position n : Nat} {l l' : List β}

/-- The second list is the first with the token at the position changed. -/
def DifferAt (position : Nat) (l l' : List β) : Prop :=
  ∃ front back a b, l = front ++ a :: back ∧ l' = front ++ b :: back ∧ b ≠ a ∧
    front.length = position

theorem differAt_set {a b : β} (h : l[position]? = some a) (hne : b ≠ a) :
    DifferAt position l (l.set position b) := by
  obtain ⟨hlt, hget⟩ := List.getElem?_eq_some_iff.mp h
  refine ⟨l.take position, l.drop (position + 1), a, b, ?_, ?_, hne, ?_⟩
  · rw [← hget, ← List.drop_eq_getElem_cons hlt, List.take_append_drop]
  · rw [List.set_eq_take_append_cons_drop, if_pos hlt]
  · rw [List.length_take, Nat.min_eq_left (Nat.le_of_lt hlt)]

theorem DifferAt.ne (h : DifferAt position l l') : l' ≠ l := by
  obtain ⟨front, back, a, b, rfl, rfl, hne, -⟩ := h
  simpa using hne

theorem DifferAt.length (h : DifferAt position l l') : l'.length = l.length := by
  obtain ⟨front, back, a, b, rfl, rfl, -, -⟩ := h
  simp

theorem DifferAt.lt_length (h : DifferAt position l l') : position < l.length := by
  obtain ⟨front, back, a, b, rfl, rfl, -, rfl⟩ := h
  simp

theorem DifferAt.take (h : DifferAt position l l') (hn : position < n) :
    DifferAt position (l.take n) (l'.take n) := by
  obtain ⟨front, back, a, b, rfl, rfl, hne, rfl⟩ := h
  obtain ⟨more, rfl⟩ : ∃ more, n = front.length + (more + 1) := ⟨n - front.length - 1, by omega⟩
  exact ⟨front, back.take more, a, b, List.take_length_add_append _,
    List.take_length_add_append _, hne, rfl⟩

theorem DifferAt.take_eq (h : DifferAt position l l') (hn : n ≤ position) :
    l'.take n = l.take n := by
  obtain ⟨front, back, a, b, rfl, rfl, -, rfl⟩ := h
  rw [List.take_append_of_le_length hn, List.take_append_of_le_length hn]

theorem DifferAt.drop (h : DifferAt position l l') (hn : n ≤ position) :
    DifferAt (position - n) (l.drop n) (l'.drop n) := by
  obtain ⟨front, back, a, b, rfl, rfl, hne, rfl⟩ := h
  exact ⟨front.drop n, back, a, b, List.drop_append_of_le_length hn,
    List.drop_append_of_le_length hn, hne, List.length_drop⟩

theorem DifferAt.drop_eq (h : DifferAt position l l') (hn : position < n) :
    l'.drop n = l.drop n := by
  obtain ⟨front, back, a, b, rfl, rfl, -, rfl⟩ := h
  obtain ⟨more, rfl⟩ : ∃ more, n = front.length + (more + 1) := ⟨n - front.length - 1, by omega⟩
  simp

end Change

section Fold

variable {σ β : Type} {step : σ → β → σ}

theorem foldl_injective (hstate : ∀ token, Function.Injective fun state => step state token)
    (tokens : List β) : Function.Injective fun state => tokens.foldl step state := by
  induction tokens with
  | nil => exact fun _ _ h => h
  | cons token rest ih =>
    intro s s' h
    exact hstate token (ih h)

/-- One changed token changes the checksum. -/
theorem DifferAt.foldl_ne (hstate : ∀ token, Function.Injective fun state => step state token)
    (htoken : ∀ state, Function.Injective (step state)) {position : Nat} {l l' : List β}
    (h : DifferAt position l l') (state : σ) : l'.foldl step state ≠ l.foldl step state := by
  obtain ⟨front, back, a, b, rfl, rfl, hne, -⟩ := h
  rw [List.foldl_append, List.foldl_append, List.foldl_cons, List.foldl_cons]
  intro hsame
  exact hne (htoken _ (foldl_injective hstate back hsame))

end Fold

end Lib
end TrafficFabric
