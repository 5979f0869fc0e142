import Mathlib.Tactic.Common

/-!
# Sequences of checks

A computation that may refuse early is an Except whose error is what it
returns on refusal.  Success of a sequence of checks is success of each one in
turn, and a property of every possible refusal is proved check by check.

A list of checks states the order on its own: what it reports is the report of
the first one that fails.  A computation follows the list when it refuses with
that report, and succeeds when nothing fails.
-/

namespace TrafficFabric
namespace Lib

universe u v

section Checks

variable {ε : Type u} {α β : Type v} {condition : Prop}

/-- Continue when the condition holds, refuse with the given answer otherwise. -/
def require (condition : Prop) [Decidable condition] (refusal : ε) (next : Except ε α) :
    Except ε α :=
  if condition then next else .error refusal

theorem require_eq_ok_iff [Decidable condition] {refusal : ε} {next : Except ε α} {a : α} :
    require condition refusal next = .ok a ↔ condition ∧ next = .ok a := by
  unfold require
  split <;> simp_all

theorem require_pos [Decidable condition] {refusal : ε} {next : Except ε α} (h : condition) :
    require condition refusal next = next := by
  exact if_pos h

theorem require_neg [Decidable condition] {refusal : ε} {next : Except ε α} (h : ¬ condition) :
    require condition refusal next = .error refusal := by
  exact if_neg h

theorem bind_eq_ok_iff {x : Except ε α} {f : α → Except ε β} {b : β} :
    x.bind f = .ok b ↔ ∃ a, x = .ok a ∧ f a = .ok b := by
  cases x <;> simp [Except.bind]

theorem map_eq_ok_iff {x : Except ε α} {f : α → β} {b : β} :
    x.map f = .ok b ↔ ∃ a, x = .ok a ∧ f a = b := by
  cases x <;> simp [Except.map]

/-- What follows a check is only looked at on the values it passes on. -/
theorem bind_congr {x : Except ε α} {f g : α → Except ε β} (h : ∀ a, x = .ok a → f a = g a) :
    x.bind f = x.bind g := by
  cases x with
  | error refusal => rfl
  | ok a => exact h a rfl

theorem bind_map {γ : Type v} (x : Except ε α) (f : α → β) (g : β → Except ε γ) :
    (x.map f).bind g = x.bind fun a => g (f a) := by
  cases x <;> rfl

theorem map_require [Decidable condition] (refusal : ε) (next : Except ε α) (f : α → β) :
    (require condition refusal next).map f = require condition refusal (next.map f) := by
  unfold require
  split <;> rfl

/-- Every refusal of the computation has the property. -/
def Refuses (P : ε → Prop) (x : Except ε α) : Prop :=
  ∀ refusal, x = .error refusal → P refusal

theorem refuses_ok (P : ε → Prop) (a : α) : Refuses P (.ok a : Except ε α) := by
  intro refusal h
  cases h

theorem refuses_error {P : ε → Prop} {refusal : ε} (h : P refusal) :
    Refuses P (.error refusal : Except ε α) := by
  intro other heq
  cases heq
  exact h

/-- The refusal of a check may be judged knowing that the check failed. -/
theorem refuses_require_of_not {P : ε → Prop} [Decidable condition] {refusal : ε}
    {next : Except ε α} (hrefusal : ¬ condition → P refusal) (hnext : Refuses P next) :
    Refuses P (require condition refusal next) := by
  unfold require
  split
  · exact hnext
  · rename_i hfailed
    exact refuses_error (hrefusal hfailed)

theorem refuses_require {P : ε → Prop} [Decidable condition] {refusal : ε} {next : Except ε α}
    (hrefusal : P refusal) (hnext : Refuses P next) :
    Refuses P (require condition refusal next) := by
  exact refuses_require_of_not (fun _ => hrefusal) hnext

theorem refuses_bind {P : ε → Prop} {x : Except ε α} {f : α → Except ε β} (hx : Refuses P x)
    (hf : ∀ a, x = .ok a → Refuses P (f a)) : Refuses P (x.bind f) := by
  cases x with
  | error e => exact refuses_error (hx e rfl)
  | ok a => exact hf a rfl

end Checks

section Order

universe w

/-- A condition, and what is reported when it is the first one to fail. -/
structure Check (ρ : Type w) where
  holds : Bool
  report : ρ

variable {ρ : Type w}

/-- The report of the first check that fails. -/
def firstFailure : List (Check ρ) → Option ρ
  | [] => none
  | check :: rest => if check.holds then firstFailure rest else some check.report

@[simp] theorem firstFailure_nil : firstFailure ([] : List (Check ρ)) = none := by
  rfl

theorem firstFailure_cons (check : Check ρ) (rest : List (Check ρ)) :
    firstFailure (check :: rest) =
      if check.holds then firstFailure rest else some check.report := by
  rfl

theorem firstFailure_append (front back : List (Check ρ)) :
    firstFailure (front ++ back) = (firstFailure front).or (firstFailure back) := by
  induction front with
  | nil => simp
  | cons check rest ih =>
    rw [List.cons_append, firstFailure_cons, firstFailure_cons, ih]
    split <;> simp

theorem firstFailure_eq_none_iff {checks : List (Check ρ)} :
    firstFailure checks = none ↔ ∀ check ∈ checks, check.holds = true := by
  induction checks with
  | nil => simp
  | cons check rest ih =>
    rw [firstFailure_cons, List.forall_mem_cons, ← ih]
    cases check.holds <;> simp

/-- What a list reports is the report of one of its checks that fails. -/
theorem firstFailure_eq_some {checks : List (Check ρ)} {report : ρ}
    (h : firstFailure checks = some report) :
    ∃ check ∈ checks, check.holds = false ∧ check.report = report := by
  induction checks with
  | nil => simp at h
  | cons check rest ih =>
    rw [firstFailure_cons] at h
    split at h
    · obtain ⟨found, hmem, hfound⟩ := ih h
      exact ⟨found, List.mem_cons_of_mem _ hmem, hfound⟩
    · rename_i hfails
      exact ⟨check, List.mem_cons_self, Bool.eq_false_iff.mpr hfails, Option.some.inj h⟩

variable {ε : Type u} {α β : Type v} {view : ε → ρ}

/-- The computation refuses with the report of the list, and succeeds without one. -/
def Follows (view : ε → ρ) (x : Except ε α) (checks : List (Check ρ)) : Prop :=
  match x with
  | .error refusal => firstFailure checks = some (view refusal)
  | .ok _ => firstFailure checks = none

theorem follows_ok (view : ε → ρ) (a : α) : Follows view (.ok a : Except ε α) [] := by
  rfl

/-- A refusal follows every list whose first check fails with its report. -/
theorem follows_error {refusal : ε} {check : Check ρ} {checks : List (Check ρ)}
    (hfails : check.holds = false) (hreport : view refusal = check.report) :
    Follows view (.error refusal : Except ε α) (check :: checks) := by
  show firstFailure (check :: checks) = some (view refusal)
  rw [firstFailure_cons, hfails, hreport]
  rfl

theorem follows_require {condition : Prop} [Decidable condition] {refusal : ε} {next : Except ε α}
    {check : Check ρ} {checks : List (Check ρ)} (hholds : check.holds = true ↔ condition)
    (hreport : view refusal = check.report) (hnext : condition → Follows view next checks) :
    Follows view (require condition refusal next) (check :: checks) := by
  by_cases h : condition
  · rw [require_pos h]
    have hrest := hnext h
    unfold Follows at hrest ⊢
    rw [firstFailure_cons, hholds.mpr h]
    exact hrest
  · rw [require_neg h]
    exact follows_error (Bool.eq_false_iff.mpr fun hpass => h (hholds.mp hpass)) hreport

theorem follows_bind {x : Except ε α} {f : α → Except ε β} {front back : List (Check ρ)}
    (hx : Follows view x front) (hf : ∀ a, x = .ok a → Follows view (f a) back) :
    Follows view (x.bind f) (front ++ back) := by
  cases x with
  | error refusal =>
    show firstFailure (front ++ back) = some (view refusal)
    have hfront : firstFailure front = some (view refusal) := hx
    rw [firstFailure_append, hfront]
    rfl
  | ok a =>
    have hfront : firstFailure front = none := hx
    have hback := hf a rfl
    show Follows view (f a) (front ++ back)
    unfold Follows at hback ⊢
    rw [firstFailure_append, hfront, Option.none_or]
    exact hback

end Order

end Lib
end TrafficFabric
