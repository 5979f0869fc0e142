import Mathlib.Algebra.Ring.Nat
import Mathlib.Algebra.BigOperators.Group.List.Basic
import Mathlib.Algebra.Order.Floor.Div
import Mathlib.Tactic.Common

/-!
# Scaled products of machine words

A product of two words divided by a scale can be computed in halves: the
quotient and the remainder of the first factor are scaled on their own.  Over
the natural numbers the halves give the exact result.  In 64 bit words they do
as long as the second factor is at most the scale, and a product that wraps is
found out by dividing it back.
-/

namespace TrafficFabric
namespace Lib

/-- Quotient and remainder scaled on their own make up the scaled product. -/
theorem div_mul_add_mod_mul_div (x d k : Nat) : x / d * k + x % d * k / d = x * k / d := by
  rcases Nat.eq_zero_or_pos d with rfl | hd
  · simp
  · have hsplit : x * k = d * (x / d * k) + x % d * k := by
      calc x * k = (d * (x / d) + x % d) * k := by rw [Nat.div_add_mod]
        _ = d * (x / d * k) + x % d * k := by rw [Nat.add_mul, Nat.mul_assoc]
    rw [hsplit, Nat.mul_add_div hd]

/-- A share of at most the whole is at most the amount. -/
theorem mul_div_le_of_le {x d k : Nat} (hk : k ≤ d) : x * k / d ≤ x := by
  refine Nat.div_le_of_le_mul ?_
  rw [Nat.mul_comm d x]
  exact Nat.mul_le_mul_left x hk

/--
The scaled product in halves, with the product of the remainder as a word.
An overflow of the first half can be found out; one of this product is not.
-/
def wordShare (x k d : Nat) : Nat :=
  x / d * k + x % d * k % 2 ^ 64 / d

@[simp] theorem wordShare_zero (x d : Nat) : wordShare x 0 d = 0 := by
  simp [wordShare]

theorem wordShare_eq {x k d : Nat} (h : x % d * k < 2 ^ 64) : wordShare x k d = x * k / d := by
  rw [wordShare, Nat.mod_eq_of_lt h, div_mul_add_mod_mul_div]

/-- A wrapped product loses, it never adds. -/
theorem wordShare_le (x k d : Nat) : wordShare x k d ≤ x * k / d := by
  rw [← div_mul_add_mod_mul_div, wordShare]
  exact Nat.add_le_add_left (Nat.div_le_div_right (Nat.mod_le _ _)) _

/-- The quotient rounded up is the least factor that reaches the dividend. -/
theorem lt_div_add_pred_iff {x d k : Nat} (hd : 0 < d) : k < (x + d - 1) / d ↔ d * k < x := by
  rw [← Nat.ceilDiv_eq_add_pred_div, ← not_le, ceilDiv_le_iff_le_mul hd, not_le]

section Words

theorem toNat_mul_of_lt {x y : UInt64} (h : x.toNat * y.toNat < 2 ^ 64) :
    (x * y).toNat = x.toNat * y.toNat := by
  rw [UInt64.toNat_mul, Nat.mod_eq_of_lt h]

theorem toNat_add_of_lt {x y : UInt64} (h : x.toNat + y.toNat < 2 ^ 64) :
    (x + y).toNat = x.toNat + y.toNat := by
  rw [UInt64.toNat_add, Nat.mod_eq_of_lt h]

theorem toNat_min (x y : UInt64) : (min x y).toNat = min x.toNat y.toNat := by
  rw [show min x y = if x ≤ y then x else y from rfl]
  split
  · rename_i h
    exact (Nat.min_eq_left (UInt64.le_iff_toNat_le.mp h)).symm
  · rename_i h
    have hle := UInt64.le_iff_toNat_le.mp (UInt64.le_of_lt (UInt64.not_le.mp h))
    exact (Nat.min_eq_right hle).symm

theorem word_le_min_iff {x y z : UInt64} : x ≤ min y z ↔ x ≤ y ∧ x ≤ z := by
  simp only [UInt64.le_iff_toNat_le, toNat_min, Nat.le_min]

theorem toNat_max (x y : UInt64) : (max x y).toNat = max x.toNat y.toNat := by
  rw [show max x y = if x ≤ y then y else x from rfl]
  split
  · rename_i h
    exact (Nat.max_eq_right (UInt64.le_iff_toNat_le.mp h)).symm
  · rename_i h
    have hle := UInt64.le_iff_toNat_le.mp (UInt64.le_of_lt (UInt64.not_le.mp h))
    exact (Nat.max_eq_left hle).symm

/-- Dividing a product back gives the factor exactly when the product did not wrap. -/
theorem mul_div_eq_iff {q e : UInt64} (he : e ≠ 0) :
    q * e / e = q ↔ q.toNat * e.toNat < 2 ^ 64 := by
  have hpos : 0 < e.toNat := by
    rw [Nat.pos_iff_ne_zero]
    intro hzero
    exact he (UInt64.toNat_inj.mp hzero)
  rw [← UInt64.toNat_inj, UInt64.toNat_div, UInt64.toNat_mul]
  constructor
  · intro h
    have hback : q.toNat * e.toNat ≤ q.toNat * e.toNat % 2 ^ 64 := by
      calc q.toNat * e.toNat = (q.toNat * e.toNat % 2 ^ 64) / e.toNat * e.toNat := by rw [h]
        _ ≤ q.toNat * e.toNat % 2 ^ 64 := Nat.div_mul_le_self _ _
    exact Nat.lt_of_le_of_lt hback (Nat.mod_lt _ (Nat.two_pow_pos 64))
  · intro h
    rw [Nat.mod_eq_of_lt h, Nat.mul_div_cancel _ hpos]

/-- The scaled product of words, with the bounds that keep each step from wrapping. -/
structure ExactShare (x k d : UInt64) : Prop where
  whole : (x / d).toNat * k.toNat < 2 ^ 64
  part : (x % d).toNat * k.toNat < 2 ^ 64
  sum : (x / d * k).toNat + (x % d * k / d).toNat < 2 ^ 64
  value : (x / d * k + x % d * k / d).toNat = x.toNat * k.toNat / d.toNat

/-- A share of at most the whole is computed without wrapping. -/
theorem exactShare {x k d : UInt64} (hpos : 0 < d) (hk : k ≤ d)
    (hscale : d.toNat * d.toNat ≤ 2 ^ 64) : ExactShare x k d := by
  have hd : 0 < d.toNat := UInt64.lt_iff_toNat_lt.mp hpos
  have hkd : k.toNat ≤ d.toNat := UInt64.le_iff_toNat_le.mp hk
  have hexact := div_mul_add_mod_mul_div x.toNat d.toNat k.toNat
  have hshare : x.toNat * k.toNat / d.toNat ≤ x.toNat := mul_div_le_of_le hkd
  have hx := x.toNat_lt
  have hwhole : (x / d).toNat * k.toNat < 2 ^ 64 := by
    rw [UInt64.toNat_div]
    calc x.toNat / d.toNat * k.toNat ≤ x.toNat * k.toNat / d.toNat :=
          hexact ▸ Nat.le_add_right _ _
      _ ≤ x.toNat := hshare
      _ < 2 ^ 64 := hx
  have hpart : (x % d).toNat * k.toNat < 2 ^ 64 := by
    rw [UInt64.toNat_mod]
    calc x.toNat % d.toNat * k.toNat ≤ x.toNat % d.toNat * d.toNat := Nat.mul_le_mul_left _ hkd
      _ < d.toNat * d.toNat := Nat.mul_lt_mul_of_pos_right (Nat.mod_lt _ hd) hd
      _ ≤ 2 ^ 64 := hscale
  have hwholeValue : (x / d * k).toNat = x.toNat / d.toNat * k.toNat := by
    rw [toNat_mul_of_lt hwhole, UInt64.toNat_div]
  have hpartValue : (x % d * k / d).toNat = x.toNat % d.toNat * k.toNat / d.toNat := by
    rw [UInt64.toNat_div, toNat_mul_of_lt hpart, UInt64.toNat_mod]
  have hsum : (x / d * k).toNat + (x % d * k / d).toNat < 2 ^ 64 := by
    rw [hwholeValue, hpartValue, hexact]
    exact Nat.lt_of_le_of_lt hshare hx
  refine ⟨hwhole, hpart, hsum, ?_⟩
  rw [toNat_add_of_lt hsum, hwholeValue, hpartValue, hexact]

/-- A running sum of words is the exact sum, modulo the size of a word. -/
theorem toNat_foldl_add {α : Type} (f : α → UInt64) (items : List α) :
    ∀ start : UInt64,
      (items.foldl (fun sum x => sum + f x) start).toNat =
        (start.toNat + (items.map fun x => (f x).toNat).sum) % 2 ^ 64 := by
  induction items with
  | nil =>
    intro start
    simp [Nat.mod_eq_of_lt start.toNat_lt]
  | cons _ _ ih =>
    intro start
    rw [List.foldl_cons, ih, UInt64.toNat_add, Nat.mod_add_mod, List.map_cons, List.sum_cons,
      Nat.add_assoc]

end Words

end Lib
end TrafficFabric
