import Mathlib.Algebra.Ring.Nat
import Mathlib.Tactic.Common
import Mathlib.Data.List.Basic

/-!
# Words in little-endian bytes

A word of a fixed number of bytes is written with its least significant byte
first.  Writing and reading are inverse to each other: a word below the bound
is read back from its bytes, and any bytes are those of the word they make up.
-/

namespace TrafficFabric
namespace Lib

/-- The bytes of a word, the least significant one first. -/
def wordBytes : Nat → Nat → List UInt8
  | 0, _ => []
  | width + 1, word => word.toUInt8 :: wordBytes width (word / 256)

/-- The word that bytes make up. -/
def wordOf : List UInt8 → Nat
  | [] => 0
  | byte :: rest => byte.toNat + 256 * wordOf rest

section Words

variable (width word : Nat)

theorem wordOf_wordBytes : wordOf (wordBytes width word) = word % 256 ^ width := by
  induction width generalizing word with
  | zero => simp [wordBytes, wordOf, Nat.mod_one]
  | succ width ih =>
    rw [wordBytes, wordOf, ih, Nat.pow_succ', Nat.mod_mul]
    simp

theorem wordBytes_wordOf (bytes : List UInt8) : wordBytes bytes.length (wordOf bytes) = bytes := by
  induction bytes with
  | nil => rfl
  | cons byte rest ih =>
    have hbyte : byte.toNat < 256 := byte.toNat_lt
    have hhigh : (byte.toNat + 256 * wordOf rest) / 256 = wordOf rest := by
      omega
    have hlow : (byte.toNat + 256 * wordOf rest).toUInt8 = byte := by
      apply UInt8.toNat_inj.mp
      simp only [UInt8.toNat_ofNat']
      omega
    rw [List.length_cons, wordBytes, wordOf, hhigh, hlow, ih]

theorem wordOf_lt (bytes : List UInt8) : wordOf bytes < 256 ^ bytes.length := by
  induction bytes with
  | nil => simp [wordOf]
  | cons byte rest ih =>
    have hbyte : byte.toNat < 256 := byte.toNat_lt
    rw [wordOf, List.length_cons, Nat.pow_succ']
    omega

end Words

end Lib
end TrafficFabric
