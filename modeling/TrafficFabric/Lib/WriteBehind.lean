import Mathlib.Logic.Function.Basic
import TrafficFabric.Lib.Run

/-!
# Write-behind storage

A state in memory is changed version by version and copied out to storage by
any number of writers.  A writer captures the current version, replaces what is
stored by its capture, and completes; the completion declares memory clean when
the captured version is still the current one.  Other writers and changes may
come in between.

Nothing here keeps a writer from replacing a newer version by the older one it
captured.  When no replacement does, and a change never goes back to an earlier
version, memory that is declared clean is the stored version.
-/

namespace TrafficFabric
namespace Lib

universe u v

/-- A writer before and after its replacement of the stored version. -/
inductive Writer (V : Type u) where
  | captured (version : V)
  | written (version : V)

@[ext] structure WriteBehind (V : Type u) (K : Type v) where
  version : V
  dirty : Bool
  stored : V
  writers : K → Option (Writer V)

inductive WriteAction (K : Type v) where
  | change
  | capture (k : K)
  | replace (k : K)
  | complete (k : K)
  | abandon (k : K)

/-- The action neither makes a new version nor gives up a capture. -/
def WriteAction.keepsSettled {K : Type v} : WriteAction K → Bool
  | .change | .abandon _ => false
  | _ => true

namespace WriteBehind

section Storage

variable {V : Type u} {K : Type v} [DecidableEq V] [DecidableEq K] {actions : List (WriteAction K)}

def step (next : V → V) (w : WriteBehind V K) : WriteAction K → WriteBehind V K
  | .change => { w with version := next w.version, dirty := true }
  | .capture k => { w with writers := Function.update w.writers k (some (.captured w.version)) }
  | .replace k =>
    match w.writers k with
    | some (.captured version) =>
      { w with
        stored := version
        writers := Function.update w.writers k (some (.written version)) }
    | _ => w
  | .complete k =>
    match w.writers k with
    | some (.written version) =>
      { w with
        dirty := if w.version = version then false else w.dirty
        writers := Function.update w.writers k none }
    | _ => w
  | .abandon k => { w with writers := Function.update w.writers k none }

variable [LE V] [Std.IsPartialOrder V]

/-- A change goes to a later version, and a replacement does not go back to an earlier one. -/
def InOrder (next : V → V) (w : WriteBehind V K) : WriteAction K → Prop
  | .change => w.version ≤ next w.version
  | .replace k => ∀ version, w.writers k = some (.captured version) → w.stored ≤ version
  | _ => True

/-- Nothing is ahead of memory or behind what was written, and clean memory is stored. -/
structure Sound (w : WriteBehind V K) : Prop where
  stored_le : w.stored ≤ w.version
  captured_le : ∀ k version, w.writers k = some (.captured version) → version ≤ w.version
  written_le : ∀ k version, w.writers k = some (.written version) → version ≤ w.stored
  clean : w.dirty = false → w.stored = w.version

variable {next : V → V} {w : WriteBehind V K}

omit [DecidableEq V] [DecidableEq K] [Std.IsPartialOrder V] in
theorem sound_of_no_writers (hstored : w.stored ≤ w.version)
    (hclean : w.dirty = false → w.stored = w.version) (h : ∀ k, w.writers k = none) : w.Sound where
  stored_le := hstored
  captured_le k version hk := by
    rw [h k] at hk
    cases hk
  written_le k version hk := by
    rw [h k] at hk
    cases hk
  clean := hclean

omit [DecidableEq V] [LE V] [Std.IsPartialOrder V] in
/-- A writer after one writer was set is that one, or was there before. -/
theorem writer_after_update {writers : K → Option (Writer V)} {j k : K} {x y : Option (Writer V)}
    (h : Function.update writers k x j = y) : x = y ∨ writers j = y := by
  by_cases hjk : j = k
  · subst hjk
    exact .inl (by simpa using h)
  · exact .inr (by simpa [Function.update_of_ne hjk] using h)

theorem Sound.change (h : w.Sound) (horder : w.version ≤ next w.version) :
    (w.step next .change).Sound where
  stored_le := Std.le_trans h.stored_le horder
  captured_le k version hk := Std.le_trans (h.captured_le k version hk) horder
  written_le := h.written_le
  clean hclean := by cases hclean

theorem Sound.capture (h : w.Sound) (k : K) : (w.step next (.capture k)).Sound := by
  refine ⟨h.stored_le, ?_, ?_, h.clean⟩
  · intro j version hj
    rcases writer_after_update hj with hnew | hold
    · cases hnew
      exact Std.le_refl _
    · exact h.captured_le j version hold
  · intro j version hj
    rcases writer_after_update hj with hnew | hold
    · cases hnew
    · exact h.written_le j version hold

theorem Sound.replace (h : w.Sound) {k : K}
    (horder : ∀ version, w.writers k = some (.captured version) → w.stored ≤ version) :
    (w.step next (.replace k)).Sound := by
  simp only [WriteBehind.step]
  split
  · rename_i version hk
    have hle : version ≤ w.version := h.captured_le k version hk
    have hstored : w.stored ≤ version := horder version hk
    refine ⟨hle, ?_, ?_, ?_⟩
    · intro j other hj
      rcases writer_after_update hj with hnew | hold
      · cases hnew
      · exact h.captured_le j other hold
    · intro j other hj
      rcases writer_after_update hj with hnew | hold
      · cases hnew
        exact Std.le_refl _
      · exact Std.le_trans (h.written_le j other hold) hstored
    · intro hclean
      -- Clean memory was stored already, so the replacement wrote the same version.
      exact Std.le_antisymm hle (h.clean hclean ▸ hstored)
  · exact h

omit [DecidableEq V] [Std.IsPartialOrder V] in
theorem Sound.withdraw (h : w.Sound) (k : K) :
    ({ w with writers := Function.update w.writers k none } : WriteBehind V K).Sound := by
  refine ⟨h.stored_le, ?_, ?_, h.clean⟩
  · intro j version hj
    exact h.captured_le j version ((writer_after_update hj).resolve_left (by simp))
  · intro j version hj
    exact h.written_le j version ((writer_after_update hj).resolve_left (by simp))

theorem Sound.complete (h : w.Sound) (k : K) : (w.step next (.complete k)).Sound := by
  simp only [WriteBehind.step]
  split
  · rename_i version hk
    obtain ⟨hstored, hcaptured, hwritten, hclean⟩ := h.withdraw k
    refine ⟨hstored, hcaptured, hwritten, ?_⟩
    intro hdirty
    by_cases hcurrent : w.version = version
    · exact Std.le_antisymm h.stored_le (hcurrent ▸ h.written_le k version hk)
    · simp only [hcurrent, if_false] at hdirty
      exact hclean hdirty
  · exact h

/-- An action in order keeps the storage sound. -/
theorem Sound.step {action : WriteAction K} (h : w.Sound) (horder : InOrder next w action) :
    (w.step next action).Sound := by
  cases action with
  | change => exact h.change horder
  | capture k => exact h.capture k
  | replace k => exact h.replace horder
  | complete k => exact h.complete k
  | abandon k => exact h.withdraw k

/-- An action in order takes neither the stored nor the current version back. -/
theorem le_step {action : WriteAction K} (horder : InOrder next w action) :
    w.stored ≤ (w.step next action).stored ∧ w.version ≤ (w.step next action).version := by
  cases action with
  | change => exact ⟨Std.le_refl _, horder⟩
  | capture k => exact ⟨Std.le_refl _, Std.le_refl _⟩
  | replace k =>
    simp only [WriteBehind.step]
    split
    · rename_i version hk
      exact ⟨horder version hk, Std.le_refl _⟩
    · exact ⟨Std.le_refl _, Std.le_refl _⟩
  | complete k =>
    simp only [WriteBehind.step]
    split <;> exact ⟨Std.le_refl _, Std.le_refl _⟩
  | abandon k => exact ⟨Std.le_refl _, Std.le_refl _⟩

/-- Actions in order keep the storage sound and take no version back. -/
theorem Sound.run (h : w.Sound) (horder : Along (WriteBehind.step next) (InOrder next) w actions) :
    (Lib.run (WriteBehind.step next) w actions).Sound ∧
      w.stored ≤ (Lib.run (WriteBehind.step next) w actions).stored ∧
      w.version ≤ (Lib.run (WriteBehind.step next) w actions).version := by
  let Inv (w' : WriteBehind V K) : Prop := w'.Sound ∧ w.stored ≤ w'.stored ∧ w.version ≤ w'.version
  have hstep : ∀ w' action, InOrder next w' action → Inv w' → Inv (w'.step next action) := by
    rintro w' action hin ⟨hsound, hstored, hversion⟩
    obtain ⟨hstored', hversion'⟩ := le_step hin
    exact ⟨hsound.step hin, Std.le_trans hstored hstored', Std.le_trans hversion hversion'⟩
  have hend : Inv (Lib.run (WriteBehind.step next) w actions) :=
    horder.invariant hstep ⟨h, Std.le_refl _, Std.le_refl _⟩
  exact hend

/-- The current version is stored, or a writer that has not replaced yet has captured it. -/
def Settled (w : WriteBehind V K) : Prop :=
  w.stored = w.version ∨ ∃ k, w.writers k = some (.captured w.version)

omit [LE V] [Std.IsPartialOrder V] in
/-- A capture settles the current version. -/
theorem settled_capture (next : V → V) (w : WriteBehind V K) (k : K) :
    (w.step next (.capture k)).Settled := by
  exact .inr ⟨k, Function.update_self k _ _⟩

/-- Replacements in order and completions keep the current version settled. -/
theorem Settled.replace (h : w.Settled) (hsound : w.Sound) {k : K}
    (horder : ∀ version, w.writers k = some (.captured version) → w.stored ≤ version) :
    (w.step next (.replace k)).Settled := by
  simp only [WriteBehind.step]
  split
  · rename_i version hk
    have hle : version ≤ w.version := hsound.captured_le k version hk
    rcases h with hstored | ⟨j, hj⟩
    · exact .inl (Std.le_antisymm hle (hstored ▸ horder version hk))
    · by_cases hjk : j = k
      · subst hjk
        rw [hk] at hj
        cases hj
        exact .inl rfl
      · refine .inr ⟨j, ?_⟩
        rw [← hj]
        exact Function.update_of_ne hjk _ _
  · exact h

omit [LE V] [Std.IsPartialOrder V] in
theorem Settled.complete (h : w.Settled) (k : K) : (w.step next (.complete k)).Settled := by
  simp only [WriteBehind.step]
  split
  · rename_i version hk
    refine h.imp_right ?_
    rintro ⟨j, hj⟩
    have hjk : j ≠ k := by
      rintro rfl
      rw [hk] at hj
      cases hj
    exact ⟨j, (Function.update_of_ne hjk _ _).trans hj⟩
  · exact h

/-- Actions in order that make no new version and give up no capture keep it settled. -/
theorem Settled.run (h : w.Settled) (hsound : w.Sound)
    (horder : Along (WriteBehind.step next) (InOrder next) w actions)
    (hkeeps : ∀ action ∈ actions, action.keepsSettled = true) :
    (Lib.run (WriteBehind.step next) w actions).Settled := by
  induction actions generalizing w with
  | nil => exact h
  | cons action actions ih =>
    obtain ⟨hfirst, hrest⟩ := List.forall_mem_cons.mp hkeeps
    refine ih ?_ (hsound.step horder.1) horder.2 hrest
    cases action with
    | change | abandon => cases hfirst
    | capture k => exact settled_capture next w k
    | replace k => exact h.replace hsound horder.1
    | complete k => exact h.complete k

end Storage

end WriteBehind

end Lib
end TrafficFabric
