import Mathlib.Data.List.Basic
import Mathlib.Data.List.Induction

/-!
# Runs of a deterministic machine

A machine is a step function on a state and an action.  Everything the
environment decides (clocks, minted identities, file contents, the order in
which callers get the lock) is part of the action, so a run is a list of
actions and its final state is a fold.

The rules below are the only inductions over runs in the development:

* an invariant of the steps is an invariant of the run;
* the same for runs whose every step meets a side condition;
* the converse of it, where the condition is exact, for all states of the run or
  for its last one;
* the same for what relates the state to the actions performed so far;
* actions that each add an entry under a key of their own add as many entries;
* a machine that simulates another one, action list by action list, inherits
  every invariant of the machine it simulates.
-/

namespace TrafficFabric
namespace Lib

universe u v w x

section Run

variable {S : Type u} {A : Type v}

variable {step : S → A → S} {s : S} {Inv : S → Prop} {Meets : S → A → Prop} {actions : List A}

/-- The state after performing the actions in order. -/
def run (step : S → A → S) (s : S) (actions : List A) : S :=
  actions.foldl step s

@[simp] theorem run_nil (step : S → A → S) (s : S) : run step s [] = s := by
  rfl

@[simp] theorem run_cons (step : S → A → S) (s : S) (a : A) (actions : List A) :
    run step s (a :: actions) = run step (step s a) actions := by
  rfl

@[simp] theorem run_append (step : S → A → S) (s : S) (before after : List A) :
    run step s (before ++ after) = run step (run step s before) after := by
  exact List.foldl_append

/-- The states some run from the initial state ends in. -/
def Reachable (step : S → A → S) (init : S) (s : S) : Prop :=
  ∃ actions : List A, run step init actions = s

theorem Reachable.init (step : S → A → S) (init : S) : Reachable step init init := by
  exact ⟨[], rfl⟩

theorem Reachable.run {init : S} (h : Reachable step init s) (actions : List A) :
    Reachable step init (run step s actions) := by
  obtain ⟨before, rfl⟩ := h
  exact ⟨before ++ actions, run_append step init before actions⟩

/-- What every step preserves, every run preserves. -/
theorem run_invariant (hstep : ∀ s a, Inv s → Inv (step s a)) (hs : Inv s) (actions : List A) :
    Inv (run step s actions) := by
  induction actions generalizing s with
  | nil => exact hs
  | cons a actions ih => exact ih (hstep s a hs)

/--
While there is room, an action that meets its condition adds one entry under a
key that has none, and the other keys without an entry keep none.
-/
def AddsEntries {B : Type w} {K : Type x} (step : S → A → S) (act : B → A) (key : B → K)
    (size : S → Nat) (fresh : S → K → Prop) (limit : Nat) (Meets : B → Prop)
    (Inv : S → Prop) : Prop :=
  ∀ s b, Meets b → Inv s → fresh s (key b) → size s < limit →
    Inv (step s (act b)) ∧ size (step s (act b)) = size s + 1 ∧
      ∀ k, k ≠ key b → fresh s k → fresh (step s (act b)) k

/-- Such actions add as many entries as there are, when their keys differ. -/
theorem AddsEntries.run {B : Type w} {K : Type x} {act : B → A} {key : B → K} {size : S → Nat}
    {fresh : S → K → Prop} {limit : Nat} {Meets : B → Prop}
    (hstep : AddsEntries step act key size fresh limit Meets Inv) {items : List B} (hs : Inv s)
    (hmeets : ∀ b ∈ items, Meets b) (hdistinct : (items.map key).Nodup)
    (hfresh : ∀ b ∈ items, fresh s (key b)) (hroom : size s + items.length ≤ limit) :
    Inv (Lib.run step s (items.map act)) ∧
      size (Lib.run step s (items.map act)) = size s + items.length ∧
      ∀ k, k ∉ items.map key → fresh s k → fresh (Lib.run step s (items.map act)) k := by
  induction items generalizing s with
  | nil => exact ⟨hs, rfl, fun _ _ hk => hk⟩
  | cons first rest ih =>
    rw [List.map_cons, List.nodup_cons] at hdistinct
    rw [List.length_cons] at hroom
    rw [List.forall_mem_cons] at hmeets hfresh
    obtain ⟨hnext, hsize, hothers⟩ := hstep s first hmeets.1 hs hfresh.1 (by omega)
    have hfresh' : ∀ b ∈ rest, fresh (step s (act first)) (key b) := by
      intro b hb
      refine hothers (key b) (fun hsame => ?_) (hfresh.2 b hb)
      exact hdistinct.1 (hsame ▸ List.mem_map_of_mem hb)
    obtain ⟨hlast, htotal, hkeys⟩ := ih hnext hmeets.2 hdistinct.2 hfresh' (by omega)
    refine ⟨hlast, ?_, ?_⟩
    · rw [List.map_cons, run_cons, htotal, hsize, List.length_cons]
      omega
    · intro k hk hfree
      rw [List.map_cons, List.mem_cons, not_or] at hk
      exact hkeys k hk.2 (hothers k hk.1 hfree)

/-- What holds initially and is preserved by every step is always so. -/
theorem Reachable.invariant {init : S} (hinit : Inv init) (hstep : ∀ s a, Inv s → Inv (step s a))
    {s : S} (h : Reachable step init s) : Inv s := by
  obtain ⟨actions, rfl⟩ := h
  exact run_invariant hstep hinit actions

/-- Every step of the run meets a condition on its state and its action. -/
def Along (step : S → A → S) (Meets : S → A → Prop) :
    S → List A → Prop
  | _, [] => True
  | s, a :: actions => Meets s a ∧ Along step Meets (step s a) actions

instance Along.decidable
    (step : S → A → S) (Meets : S → A → Prop) [∀ s a, Decidable (Meets s a)] :
    ∀ s actions, Decidable (Along step Meets s actions)
  | _, [] => isTrue trivial
  | s, a :: actions =>
    have := Along.decidable step Meets (step s a) actions
    inferInstanceAs (Decidable (Meets s a ∧ Along step Meets (step s a) actions))

@[simp] theorem along_nil (step : S → A → S) (Meets : S → A → Prop) (s : S) :
    Along step Meets s [] := by
  trivial

@[simp] theorem along_cons (step : S → A → S) (Meets : S → A → Prop) (s : S) (a : A)
    (actions : List A) :
    Along step Meets s (a :: actions) ↔ Meets s a ∧ Along step Meets (step s a) actions := by
  exact Iff.rfl

theorem along_append (step : S → A → S) (Meets : S → A → Prop) (s : S) (before after : List A) :
    Along step Meets s (before ++ after) ↔
      Along step Meets s before ∧ Along step Meets (run step s before) after := by
  induction before generalizing s with
  | nil => simp
  | cons _ _ ih => simp [ih, and_assoc]

/-- What every step meeting the condition preserves, such runs preserve. -/
theorem Along.invariant (hstep : ∀ s a, Meets s a → Inv s → Inv (step s a))
    (hmeets : Along step Meets s actions) (hs : Inv s) : Inv (run step s actions) := by
  induction actions generalizing s with
  | nil => exact hs
  | cons a actions ih => exact ih hmeets.2 (hstep s a hmeets.1 hs)

/-- A condition on the actions alone is met along the run of such actions. -/
theorem along_of_forall {P : A → Prop} (s : S) (h : ∀ a ∈ actions, P a) :
    Along step (fun _ a => P a) s actions := by
  induction actions generalizing s with
  | nil => trivial
  | cons a actions ih => exact ⟨h a (by simp), ih _ (fun b hb => h b (by simp [hb]))⟩

/-- The same where the actions keep an invariant from which the condition follows. -/
theorem along_of_invariant {P : A → Prop} (hstep : ∀ s a, P a → Inv s → Meets s a ∧ Inv (step s a))
    (hs : Inv s) (h : ∀ a ∈ actions, P a) : Along step Meets s actions := by
  induction actions generalizing s with
  | nil => trivial
  | cons a actions ih =>
    rw [List.forall_mem_cons] at h
    obtain ⟨hmeets, hnext⟩ := hstep s a h.1 hs
    exact ⟨hmeets, ih hnext h.2⟩

theorem Along.mono {Meets' : S → A → Prop} (himp : ∀ s a, Meets s a → Meets' s a)
    (h : Along step Meets s actions) : Along step Meets' s actions := by
  induction actions generalizing s with
  | nil => trivial
  | cons a actions ih => exact ⟨himp s a h.1, ih h.2⟩

theorem Along.and {Meets' : S → A → Prop} (h : Along step Meets s actions)
    (h' : Along step Meets' s actions) :
    Along step (fun s a => Meets s a ∧ Meets' s a) s actions := by
  induction actions generalizing s with
  | nil => trivial
  | cons _ _ ih => exact ⟨⟨h.1, h'.1⟩, ih h.2 h'.2⟩

/-- A condition on a view of the state is met along the run of the machine that is viewed. -/
theorem along_view_iff {T : Type w} {outer : S → A → S} {inner : T → A → T} {view : S → T}
    (hview : ∀ s a, view (outer s a) = inner (view s) a) (Meets : T → A → Prop) (s : S)
    (actions : List A) :
    Along outer (fun s a => Meets (view s) a) s actions ↔ Along inner Meets (view s) actions := by
  induction actions generalizing s with
  | nil => exact Iff.rfl
  | cons _ _ ih => rw [along_cons, along_cons, ih, hview]

/-- A view that commutes with the steps commutes with the runs. -/
theorem run_view {T : Type w} {outer : S → A → S} {inner : T → A → T} {view : S → T}
    (hview : ∀ s a, view (outer s a) = inner (view s) a) (s : S) (actions : List A) :
    view (run outer s actions) = run inner (view s) actions := by
  induction actions generalizing s with
  | nil => rfl
  | cons _ _ ih => rw [run_cons, run_cons, ih, hview]

/--
Where a step condition is exactly what keeps the invariant, the runs that meet
it are exactly those all of whose states satisfy the invariant.
-/
theorem forall_prefix_iff_along {Known : S → Prop} (hknown : ∀ s a, Known s → Known (step s a))
    (hstep : ∀ s a, Known s → Inv s → (Inv (step s a) ↔ Meets s a)) (hs : Known s) (hinv : Inv s)
    (actions : List A) :
    (∀ before, before <+: actions → Inv (run step s before)) ↔ Along step Meets s actions := by
  induction actions generalizing s with
  | nil => simp [hinv]
  | cons a actions ih =>
    constructor
    · intro h
      have hfirst : Inv (step s a) := h [a] (by simp)
      refine ⟨(hstep s a hs hinv).mp hfirst, ?_⟩
      refine (ih (hknown s a hs) hfirst).mp ?_
      intro before hbefore
      exact h (a :: before) (List.cons_prefix_cons.mpr ⟨rfl, hbefore⟩)
    · rintro ⟨hmeets, hrest⟩ before hbefore
      have hfirst : Inv (step s a) := (hstep s a hs hinv).mpr hmeets
      cases before with
      | nil => exact hinv
      | cons b before =>
        obtain ⟨rfl, htail⟩ := List.cons_prefix_cons.mp hbefore
        exact (ih (hknown s b hs) hfirst).mpr hrest before htail

/--
Where a step has the property afterwards exactly when it had it before and meets
the condition, so does a run.
-/
theorem inv_run_iff_along {Side : S → A → Prop}
    (hstep : ∀ s a, Side s a → (Inv (step s a) ↔ Inv s ∧ Meets s a))
    (hside : Along step Side s actions) :
    Inv (run step s actions) ↔ Inv s ∧ Along step Meets s actions := by
  induction actions generalizing s with
  | nil => simp
  | cons a actions ih => rw [run_cons, ih hside.2, hstep s a hside.1, along_cons, and_assoc]

/-- The machine that only notes its actions. -/
def noteAction (past : List A) (a : A) : List A :=
  past ++ [a]

theorem run_noteAction (past actions : List A) : run noteAction past actions = past ++ actions := by
  induction actions generalizing past with
  | nil => simp
  | cons _ _ ih => simp [ih, noteAction]

/-- Every action of a run meets a condition on the actions before it. -/
def EachAction (Meets : List A → A → Prop) (actions : List A) : Prop :=
  Along noteAction Meets [] actions

/-- What every action meeting the condition preserves of the past, such runs preserve. -/
theorem EachAction.invariant {Meets : List A → A → Prop} {Inv : List A → Prop}
    (hstep : ∀ past a, Meets past a → Inv past → Inv (past ++ [a])) (hinit : Inv [])
    (h : EachAction Meets actions) : Inv actions := by
  have hend : Inv (run noteAction [] actions) := Along.invariant hstep h hinit
  rwa [run_noteAction] at hend

/-- What relates the state to the actions so far, and every step preserves, every run preserves. -/
theorem run_history {Inv : List A → S → Prop}
    (hstep : ∀ before a, Inv before (run step s before) →
      Inv (before ++ [a]) (step (run step s before) a)) (hs : Inv [] s) (actions : List A) :
    Inv actions (run step s actions) := by
  induction actions using List.reverseRecOn with
  | nil => exact hs
  | append_singleton before a ih =>
    rw [run_append]
    exact hstep before a ih

/-- Some action of the run, in the state it meets, is such an event. -/
def Occurs (step : S → A → S) (Event : S → A → Prop) (s : S) (actions : List A) : Prop :=
  ∃ before a after, actions = before ++ a :: after ∧ Event (run step s before) a

theorem Occurs.append {Event : S → A → Prop} (h : Occurs step Event s actions) (later : List A) :
    Occurs step Event s (actions ++ later) := by
  obtain ⟨before, a, after, rfl, hevent⟩ := h
  exact ⟨before, a, after ++ later, by simp, hevent⟩

/-- The last action of a run is the event. -/
theorem occurs_last {Event : S → A → Prop} {a : A} (h : Event (run step s actions) a) :
    Occurs step Event s (actions ++ [a]) := by
  exact ⟨actions, a, [], rfl, h⟩

end Run

section Simulation

variable {S : Type u} {A : Type v} {T : Type w} {B : Type x} {trace : S → A → List B}

/--
A step of the outer machine, seen through a view of its state, is a list of
actions of the inner machine.
-/
def Simulates
    (outer : S → A → S) (inner : T → B → T)
    (view : S → T) (trace : S → A → List B) : Prop :=
  ∀ s a, view (outer s a) = run inner (view s) (trace s a)

/-- The inner actions of a whole outer run. -/
def traceRun
    (outer : S → A → S) (trace : S → A → List B) :
    S → List A → List B
  | _, [] => []
  | s, a :: actions => trace s a ++ traceRun outer trace (outer s a) actions

/-- A simulated step lifts to whole runs. -/
theorem Simulates.run {outer : S → A → S} {inner : T → B → T} {view : S → T}
    (h : Simulates outer inner view trace) (s : S) (actions : List A) :
    view (run outer s actions) = run inner (view s) (traceRun outer trace s actions) := by
  induction actions generalizing s with
  | nil => rfl
  | cons a actions ih => rw [run_cons, ih, traceRun, run_append, h s a]

/-- The view of a reachable state is reachable. -/
theorem Simulates.reachable {outer : S → A → S} {inner : T → B → T} {view : S → T}
    (h : Simulates outer inner view trace) {init s : S} (hs : Reachable outer init s) :
    Reachable inner (view init) (view s) := by
  obtain ⟨actions, rfl⟩ := hs
  exact ⟨traceRun outer trace init actions, (h.run init actions).symm⟩

end Simulation

end Lib
end TrafficFabric
