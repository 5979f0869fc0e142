import Mathlib.Logic.Function.Iterate
import TrafficFabric.Lib.Checksum

/-!
# Shift registers with feedback

A register moves towards its low end and adds a polynomial whenever a one falls
out.  The move is linear over exclusive or, and when the polynomial has its top
bit set it loses nothing.  Up to as many bits as the register has can be added
to it at once instead of one before each move, so two messages that differ only
in a window of that width leave different registers behind.
-/

namespace TrafficFabric
namespace Lib

section Move

variable {w : Nat} (poly : BitVec w)

/-- One move of the register. -/
def shift (register : BitVec w) : BitVec w :=
  register >>> 1 ^^^ if register.getLsbD 0 then poly else 0

theorem shift_xor (a b : BitVec w) : shift poly (a ^^^ b) = shift poly a ^^^ shift poly b := by
  have hcancel : a >>> 1 ^^^ poly ^^^ (b >>> 1 ^^^ poly) = a >>> 1 ^^^ b >>> 1 := by
    rw [BitVec.xor_assoc, BitVec.xor_comm (b >>> 1), ← BitVec.xor_assoc poly, BitVec.xor_self,
      BitVec.zero_xor]
  unfold shift
  rw [BitVec.ushiftRight_xor_distrib, BitVec.getLsbD_xor]
  cases a.getLsbD 0 <;> cases b.getLsbD 0
  · simp
  · simp [BitVec.xor_assoc]
  · simp [BitVec.xor_assoc, BitVec.xor_comm (b >>> 1)]
  · simp [hcancel]

theorem shift_iterate_xor (n : Nat) (a b : BitVec w) :
    (shift poly)^[n] (a ^^^ b) = (shift poly)^[n] a ^^^ (shift poly)^[n] b := by
  induction n generalizing a b with
  | zero => rfl
  | succ n ih =>
    rw [Function.iterate_succ_apply, shift_xor, ih]
    rfl

/-- A register whose top bit is free comes back when it is moved up first. -/
theorem shift_shiftLeft {a : BitVec w} (h : a.msb = false) : shift poly (a <<< 1) = a := by
  rw [BitVec.msb_eq_getLsbD_last] at h
  apply BitVec.eq_of_getLsbD_eq
  intro i hi
  have hlow : (a <<< 1).getLsbD 0 = false := by simp
  simp only [shift, hlow, Bool.false_eq_true, if_false, BitVec.xor_zero, BitVec.ofNat_eq_ofNat,
    BitVec.getLsbD_ushiftRight, BitVec.getLsbD_shiftLeft]
  rcases Nat.lt_or_ge (1 + i) w with hlt | hge
  · simp [hlt]
  · obtain rfl : i = w - 1 := by omega
    simp [h]

/-- The part above the low bits only moves down. -/
theorem shift_iterate_shiftLeft {n : Nat} {a : BitVec w}
    (h : ∀ i, w ≤ i + n → a.getLsbD i = false) : (shift poly)^[n] (a <<< n) = a := by
  induction n with
  | zero => simp
  | succ n ih =>
    have hfree : (a <<< n).msb = false := by
      rw [BitVec.msb_eq_getLsbD_last, BitVec.getLsbD_shiftLeft, h _ (by omega), Bool.and_false]
    rw [Function.iterate_succ_apply, BitVec.shiftLeft_add, shift_shiftLeft poly hfree]
    exact ih fun i hi => h i (by omega)

variable {poly}

theorem shift_injective (hpoly : poly.msb = true) : Function.Injective (shift poly) := by
  have hzero : ∀ a : BitVec w, shift poly a = 0 → a = 0 := by
    intro a h
    have hlow : a.getLsbD 0 = false := by
      by_contra hone
      rw [Bool.not_eq_false] at hone
      -- What is moved has a free top bit, so it cannot cancel the polynomial.
      have hmsb := congrArg BitVec.msb h
      simp [shift, hone, hpoly, BitVec.msb_ushiftRight] at hmsb
    simp only [shift, hlow, Bool.false_eq_true, if_false, BitVec.xor_zero, BitVec.ofNat_eq_ofNat]
      at h
    apply BitVec.eq_of_getLsbD_eq
    intro i hi
    cases i with
    | zero => simpa using hlow
    | succ i => simpa [Nat.add_comm] using congrArg (BitVec.getLsbD · i) h
  intro a b h
  have hsum : shift poly (a ^^^ b) = 0 := by
    rw [shift_xor, h, BitVec.xor_self]
    rfl
  exact BitVec.xor_eq_zero_iff.mp (hzero _ hsum)

end Move

section Message

variable {w : Nat} (poly : BitVec w)

/-- Takes in one bit of a message: it is added at the low end before the register moves. -/
def feed (register : BitVec w) (bit : Bool) : BitVec w :=
  shift poly (register ^^^ (BitVec.ofBool bit).setWidth w)

/-- The bits of a message as a word, the first of them lowest. -/
def word (w : Nat) : List Bool → BitVec w
  | [] => 0
  | bit :: rest => (BitVec.ofBool bit).setWidth w ^^^ word w rest <<< 1

theorem getLsbD_word (bits : List Bool) {i : Nat} (hi : i < w) :
    (word w bits).getLsbD i = bits[i]?.getD false := by
  induction bits generalizing i with
  | nil => simp [word]
  | cons _ _ ih =>
    cases i with
    | zero => simp [word, hi]
    | succ i =>
      have hrest : i < w := Nat.lt_of_succ_lt hi
      rw [List.getElem?_cons_succ, ← ih hrest]
      simp [word, hi, BitVec.getLsbD_eq_getElem hrest]

theorem word_inj {bits other : List Bool} (hlength : bits.length = other.length)
    (hwidth : bits.length ≤ w) (h : word w bits = word w other) : bits = other := by
  apply List.ext_getElem hlength
  intro i hi hi'
  have hbit := congrArg (BitVec.getLsbD · i) h
  simp only [getLsbD_word _ (Nat.lt_of_lt_of_le hi hwidth), List.getElem?_eq_getElem hi,
    List.getElem?_eq_getElem hi', Option.getD_some] at hbit
  exact hbit

/-- Bits that fit the register may be added at once. -/
theorem foldl_feed {bits : List Bool} (h : bits.length ≤ w) (register : BitVec w) :
    bits.foldl (feed poly) register = (shift poly)^[bits.length] (register ^^^ word w bits) := by
  induction bits generalizing register with
  | nil => simp [word]
  | cons bit rest ih =>
    rw [List.length_cons] at h
    have hfree : (word w rest).msb = false := by
      rw [BitVec.msb_eq_getLsbD_last, getLsbD_word rest (by omega),
        List.getElem?_eq_none (by omega), Option.getD_none]
    rw [List.foldl_cons, ih (by omega), List.length_cons, Function.iterate_succ_apply, word,
      ← BitVec.xor_assoc, shift_xor, shift_shiftLeft poly hfree]
    rfl

/-- Two messages of one length that differ at most within a window of the given width. -/
def DifferWithin (start width : Nat) (l l' : List Bool) : Prop :=
  l.length = l'.length ∧ ∀ i, l[i]? ≠ l'[i]? → start ≤ i ∧ i < start + width

/-- Around the window the two messages agree. -/
theorem DifferWithin.split {start width : Nat} {l l' : List Bool}
    (h : DifferWithin start width l l') :
    ∃ front middle middle' back, l = front ++ (middle ++ back) ∧ l' = front ++ (middle' ++ back) ∧
      middle.length = middle'.length ∧ middle.length ≤ width := by
  obtain ⟨hlength, hwindow⟩ := h
  have hfront : l.take start = l'.take start := by
    apply List.ext_getElem?
    intro i
    rw [List.getElem?_take, List.getElem?_take]
    split
    · by_contra hdiffer
      have := hwindow i hdiffer
      omega
    · rfl
  have hback : (l.drop start).drop width = (l'.drop start).drop width := by
    apply List.ext_getElem?
    intro i
    rw [List.drop_drop, List.drop_drop, List.getElem?_drop, List.getElem?_drop]
    by_contra hdiffer
    have := hwindow _ hdiffer
    omega
  refine ⟨l.take start, (l.drop start).take width, (l'.drop start).take width,
    (l.drop start).drop width, ?_, ?_, ?_, List.length_take_le _ _⟩
  · rw [List.take_append_drop, List.take_append_drop]
  · rw [hfront, hback, List.take_append_drop, List.take_append_drop]
  · simp only [List.length_take, List.length_drop, hlength]

variable {poly}

/-- Messages that differ within as many bits as the register has leave different registers. -/
theorem DifferWithin.foldl_feed_ne {start : Nat} {l l' : List Bool} (hpoly : poly.msb = true)
    (h : DifferWithin start w l l') (hne : l ≠ l') (register : BitVec w) :
    l.foldl (feed poly) register ≠ l'.foldl (feed poly) register := by
  obtain ⟨front, middle, middle', back, rfl, rfl, hlength, hwidth⟩ := h.split
  intro hsame
  simp only [List.foldl_append] at hsame
  have hstate : ∀ bit, Function.Injective fun register => feed poly register bit := by
    intro bit a b hab
    exact (BitVec.xor_left_inj _).mp (shift_injective hpoly hab)
  -- Behind the window the moves lose nothing, and inside it the bits may be added at once.
  have hmiddle := foldl_injective hstate back hsame
  generalize front.foldl (feed poly) register = register at hmiddle
  rw [foldl_feed poly hwidth, foldl_feed poly (hlength ▸ hwidth), ← hlength] at hmiddle
  have hword := (BitVec.xor_right_inj _).mp ((shift_injective hpoly).iterate _ hmiddle)
  exact hne (by rw [word_inj hlength hwidth hword])

end Message

end Lib
end TrafficFabric
