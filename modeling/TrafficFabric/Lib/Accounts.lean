import TrafficFabric.Lib.Run

/-!
# Accounts over a run

A machine spends and a ledger beside it earns, both driven by the same actions.
When no single action spends more than the balance of the machine and what the
ledger earns by it, no run does either: the inequality of one step telescopes.
-/

namespace TrafficFabric
namespace Lib

universe u v w

section Accounts

variable {S : Type u} {T : Type v} {A : Type w} {Related : S → T → Prop}

/-- The amount added up over the actions of a run. -/
def tally (step : S → A → S) (amount : S → A → Nat) : S → List A → Nat
  | _, [] => 0
  | s, a :: actions => amount s a + tally step amount (step s a) actions

@[simp] theorem tally_nil (step : S → A → S) (amount : S → A → Nat) (s : S) :
    tally step amount s [] = 0 := by
  rfl

@[simp] theorem tally_cons (step : S → A → S) (amount : S → A → Nat) (s : S) (a : A)
    (actions : List A) :
    tally step amount s (a :: actions) = amount s a + tally step amount (step s a) actions := by
  rfl

/-- Two machines related step by step stay related. -/
theorem run_related {stepS : S → A → S} {stepT : T → A → T} {Meets : A → Prop}
    (hstep : ∀ s t a, Meets a → Related s t → Related (stepS s a) (stepT t a)) {s : S} {t : T}
    {actions : List A} (hmeets : ∀ a ∈ actions, Meets a) (h : Related s t) :
    Related (run stepS s actions) (run stepT t actions) := by
  induction actions generalizing s t with
  | nil => exact h
  | cons a actions ih =>
    rw [run_cons, run_cons]
    rw [List.forall_mem_cons] at hmeets
    exact ih hmeets.2 (hstep s t a hmeets.1 h)

/-- What a run spends, with the balance it leaves, was there before or was earned by it. -/
theorem tally_add_balance_le {stepS : S → A → S} {stepT : T → A → T} {Meets : A → Prop}
    {balance : S → Nat} {spent : S → A → Nat} {earned : T → A → Nat}
    (hstep : ∀ s t a, Meets a → Related s t → Related (stepS s a) (stepT t a))
    (hspent : ∀ s t a, Meets a → Related s t →
      spent s a + balance (stepS s a) ≤ balance s + earned t a) {s : S} {t : T} {actions : List A}
    (hmeets : ∀ a ∈ actions, Meets a) (h : Related s t) :
    tally stepS spent s actions + balance (run stepS s actions) ≤
      balance s + tally stepT earned t actions := by
  induction actions generalizing s t with
  | nil => simp
  | cons a actions ih =>
    rw [List.forall_mem_cons] at hmeets
    have hfirst := hspent s t a hmeets.1 h
    have hrest := ih hmeets.2 (hstep s t a hmeets.1 h)
    rw [tally_cons, tally_cons, run_cons]
    omega

end Accounts

end Lib
end TrafficFabric
