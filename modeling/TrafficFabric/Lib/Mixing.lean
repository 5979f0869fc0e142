import Mathlib.Logic.Function.Basic

/-!
# Injective word operations

The steps a finaliser of a hash or of a generator is made of.  Adding a word,
multiplying by a word that has an inverse, and combining a word with its own
right shift lose nothing, so a finaliser composed of them is injective.

Where a digest may lose something, finitely many values of it are told apart by
computation: their residues are marked in one number, whose bits are the table.
-/

namespace TrafficFabric
namespace Lib

theorem add_word_injective (c : UInt64) : Function.Injective fun x : UInt64 => x + c := by
  intro x y h
  exact (UInt64.add_left_inj c).mp h

theorem mul_word_injective {c inverse : UInt64} (h : c * inverse = 1) :
    Function.Injective fun x : UInt64 => x * c := by
  intro x y hxy
  calc
    x = x * c * inverse := by rw [UInt64.mul_assoc, h, UInt64.mul_one]
    _ = y * c * inverse := congrArg (· * inverse) hxy
    _ = y := by rw [UInt64.mul_assoc, h, UInt64.mul_one]

/-- A word is determined by its combination with its own right shift. -/
theorem xor_shift_injective {w k : Nat} (hk : 0 < k) :
    Function.Injective fun x : BitVec w => x ^^^ (x >>> k) := by
  intro x y h
  -- From the top bit down: a bit of the combination is the bit and one that is known already.
  have hbits : ∀ n i, w - i ≤ n → x.getLsbD i = y.getLsbD i := by
    intro n
    induction n with
    | zero =>
      intro i hi
      rw [BitVec.getLsbD_of_ge x i (by omega), BitVec.getLsbD_of_ge y i (by omega)]
    | succ n ih =>
      intro i hi
      have hbit := congrArg (fun z => z.getLsbD i) h
      simp only [BitVec.getLsbD_xor, BitVec.getLsbD_ushiftRight] at hbit
      rw [ih (k + i) (by omega)] at hbit
      simpa using hbit
  exact BitVec.eq_of_getLsbD_eq fun i _ => hbits w i (by omega)

theorem xor_shift_word_injective {k : UInt64} (hk : 0 < (k.toBitVec % 64).toNat) :
    Function.Injective fun x : UInt64 => x ^^^ (x >>> k) := by
  intro x y h
  have hbits := congrArg UInt64.toBitVec h
  simp only [UInt64.toBitVec_xor, UInt64.toBitVec_shiftRight] at hbits
  exact UInt64.toBitVec_inj.mp (xor_shift_injective hk hbits)

section Marking

/-- Marks the residues of the numbers in turn; a residue that is marked already fails. -/
def marksApart (modulus : Nat) : List Nat → Nat → Bool
  | [], _ => true
  | number :: rest, marks =>
    !marks.testBit (number % modulus) &&
      marksApart modulus rest (marks ||| 1 <<< (number % modulus))

/-- Numbers that are marked apart differ, and none of them was marked before. -/
theorem nodup_of_marksApart {modulus marks : Nat} {numbers : List Nat}
    (h : marksApart modulus numbers marks = true) :
    numbers.Nodup ∧ ∀ number ∈ numbers, marks.testBit (number % modulus) = false := by
  induction numbers generalizing marks with
  | nil => exact ⟨.nil, fun _ hnone => absurd hnone List.not_mem_nil⟩
  | cons first rest ih =>
    rw [marksApart, Bool.and_eq_true, Bool.not_eq_true'] at h
    obtain ⟨hrest, hunmarked⟩ := ih h.2
    have hkept : ∀ number ∈ rest, marks.testBit (number % modulus) = false ∧
        number % modulus ≠ first % modulus := by
      intro number hnumber
      have hboth := hunmarked number hnumber
      rw [Nat.testBit_or, Bool.or_eq_false_iff, Nat.one_shiftLeft, Nat.testBit_two_pow,
        decide_eq_false_iff_not] at hboth
      exact ⟨hboth.1, fun hsame => hboth.2 hsame.symm⟩
    refine ⟨List.nodup_cons.mpr ⟨fun hfirst => (hkept first hfirst).2 rfl, hrest⟩, ?_⟩
    intro number hnumber
    rcases List.mem_cons.mp hnumber with rfl | hlater
    · exact h.1
    · exact (hkept number hlater).1

end Marking

end Lib
end TrafficFabric
