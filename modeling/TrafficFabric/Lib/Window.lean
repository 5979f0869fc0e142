import Mathlib.Data.List.Basic

/-!
# Bounded windows

A window keeps the newest entries, the oldest first, and at most a fixed number
of them.  An entry with fewer newer ones than the bound is still in it.

Against the log of everything that was pushed, a window is what is left of the
log once its oldest entries are gone.
-/

namespace TrafficFabric
namespace Lib

universe u

variable {α : Type u}

/-- Appends an entry; where that exceeds the bound the oldest entry gives way. -/
def pushWindow (bound : Nat) (window : List α) (entry : α) : List α :=
  let extended := window ++ [entry]
  if bound < extended.length then extended.tail else extended

/-- A push keeps the bound. -/
theorem length_pushWindow_le {bound : Nat} {window : List α} (entry : α)
    (h : window.length ≤ bound) : (pushWindow bound window entry).length ≤ bound := by
  simp only [pushWindow]
  split
  · rw [List.length_tail, List.length_append, List.length_singleton]
    omega
  · rename_i hfits
    exact Nat.not_lt.mp hfits

/-- The entry is in the window, with at most so many newer ones. -/
def Recent (newer : Nat) (entry : α) (window : List α) : Prop :=
  ∃ before after, window = before ++ entry :: after ∧ after.length ≤ newer

theorem Recent.mem {newer : Nat} {entry : α} {window : List α} (h : Recent newer entry window) :
    entry ∈ window := by
  obtain ⟨before, after, rfl, _⟩ := h
  simp

theorem Recent.mono {newer newer' : Nat} {entry : α} {window : List α}
    (h : Recent newer entry window) (hle : newer ≤ newer') : Recent newer' entry window := by
  obtain ⟨before, after, hsplit, hafter⟩ := h
  exact ⟨before, after, hsplit, Nat.le_trans hafter hle⟩

theorem recent_zero_iff {entry : α} {window : List α} :
    Recent 0 entry window ↔ window.getLast? = some entry := by
  constructor
  · rintro ⟨before, after, rfl, hafter⟩
    have hnil : after = [] := List.length_eq_zero_iff.mp (Nat.le_zero.mp hafter)
    simp [hnil]
  · intro h
    obtain ⟨before, rfl⟩ := List.getLast?_eq_some_iff.mp h
    exact ⟨before, [], rfl, Nat.le_refl 0⟩

/-- The entry pushed last is the newest. -/
theorem recent_pushWindow_self {bound : Nat} (window : List α) (entry : α) (hbound : 0 < bound) :
    Recent 0 entry (pushWindow bound window entry) := by
  simp only [pushWindow]
  split
  · rename_i hfull
    cases window with
    | nil =>
      simp only [List.nil_append, List.length_singleton] at hfull
      omega
    | cons oldest rest => exact ⟨rest, [], rfl, Nat.le_refl 0⟩
  · exact ⟨window, [], rfl, Nat.le_refl 0⟩

/-- A push makes every other entry older by one; below the bound none of them is lost. -/
theorem Recent.push {bound newer : Nat} {entry : α} {window : List α} (pushed : α)
    (h : Recent newer entry window) (hbound : newer + 1 < bound) :
    Recent (newer + 1) entry (pushWindow bound window pushed) := by
  obtain ⟨before, after, rfl, hafter⟩ := h
  have hlength : (after ++ [pushed]).length ≤ newer + 1 := by
    simpa using hafter
  simp only [pushWindow]
  split
  · rename_i hfull
    cases before with
    | nil =>
      -- The entry would be the oldest one, but then the window is not full.
      simp only [List.nil_append, List.length_append, List.length_cons, List.length_nil]
        at hfull hlength
      omega
    | cons oldest rest => exact ⟨rest, after ++ [pushed], by simp, hlength⟩
  · exact ⟨before, after ++ [pushed], by simp, hlength⟩

/-- The window is the log without its oldest entries. -/
structure TailOf (log : List α) (dropped : Nat) (window : List α) : Prop where
  within : dropped ≤ log.length
  drop : window = log.drop dropped

namespace TailOf

variable {log window : List α} {dropped : Nat}

theorem nil :
    TailOf ([] : List α) 0 [] where
  within := Nat.le_refl 0
  drop := rfl

theorem push (h : TailOf log dropped window) (entry : α) :
    TailOf (log ++ [entry]) dropped (window ++ [entry]) where
  within := by
    have hwithin := h.within
    rw [List.length_append]
    omega
  drop := by
    rw [h.drop, List.drop_append_of_le_length h.within]

theorem length_eq (h : TailOf log dropped window) : log.length = dropped + window.length := by
  have hwithin := h.within
  rw [h.drop, List.length_drop]
  omega

/-- Giving up the oldest entries of the window leaves a shorter tail. -/
theorem shrink (h : TailOf log dropped window) {excess : Nat} (hexcess : excess ≤ window.length) :
    TailOf log (dropped + excess) (window.drop excess) where
  within := by
    have hlength := h.length_eq
    omega
  drop := by
    rw [h.drop, List.drop_drop]

theorem getElem?_eq (h : TailOf log dropped window) (index : Nat) :
    window[index]? = log[dropped + index]? := by
  rw [h.drop, List.getElem?_drop]

theorem isSuffix (h : TailOf log dropped window) : window <:+ log := by
  rw [h.drop]
  exact List.drop_suffix dropped log

end TailOf

end Lib
end TrafficFabric
