import TrafficFabric.Protocol
import TrafficFabric.Lib.LittleEndian
import TrafficFabric.Lib.ShiftRegister

/-!
# Words on the wire

Every integer of the protocol and of the snapshot file is a little-endian word,
and the writers and readers of the three widths are inverse to each other.

A step of the checksum through the table is eight moves of a shift register, so
the checksum is the one that takes the message in bit by bit.  The polynomial
has its top bit set; a change within any 32 consecutive bits, in particular a
change of one byte, changes the checksum of the whole.
-/

namespace TrafficFabric

open Lib

section Words

theorem putU16_eq (value : UInt16) : putU16 value = wordBytes 2 value.toNat := by
  have hlow : value.toUInt8 = value.toNat.toUInt8 := by
    apply UInt8.toNat_inj.mp
    simp
  have hhigh : (value >>> 8).toUInt8 = (value.toNat / 256).toUInt8 := by
    apply UInt8.toNat_inj.mp
    simp [Nat.shiftRight_eq_div_pow]
  rw [putU16, hlow, hhigh]
  rfl

theorem putU32_eq (value : UInt32) : putU32 value = wordBytes 4 value.toNat := by
  have hbyte : ∀ shift : UInt32,
      (value >>> shift).toUInt8 = (value.toNat / 2 ^ (shift.toNat % 32)).toUInt8 := by
    intro shift
    apply UInt8.toNat_inj.mp
    simp [Nat.shiftRight_eq_div_pow]
  simp only [putU32, hbyte, wordBytes, Nat.div_div_eq_div_mul]
  simp [List.range_succ]

theorem putU64_eq (value : UInt64) : putU64 value = wordBytes 8 value.toNat := by
  have hbyte : ∀ shift : UInt64,
      (value >>> shift).toUInt8 = (value.toNat / 2 ^ (shift.toNat % 64)).toUInt8 := by
    intro shift
    apply UInt8.toNat_inj.mp
    simp [Nat.shiftRight_eq_div_pow]
  simp only [putU64, hbyte, wordBytes, Nat.div_div_eq_div_mul]
  simp [List.range_succ]

@[simp] theorem length_putU16 (value : UInt16) : (putU16 value).length = 2 := by
  rfl

@[simp] theorem length_putU32 (value : UInt32) : (putU32 value).length = 4 := by
  rfl

@[simp] theorem length_putU64 (value : UInt64) : (putU64 value).length = 8 := by
  rfl

@[simp] theorem length_putIdentity (value : Identity) : (putIdentity value).length = 16 := by
  rfl

/-- One more byte at the low end of a word. -/
theorem push_byte32 (high : UInt32) (byte : UInt8) :
    ((high <<< 8) ||| byte.toUInt32).toNat = (byte.toNat + 256 * high.toNat) % 2 ^ 32 := by
  have hbyte := byte.toNat_lt
  have hshift : high.toNat <<< 8 % 2 ^ 32 = (high.toNat % 2 ^ 24) <<< 8 := by
    simp only [Nat.shiftLeft_eq]
    omega
  rw [UInt32.toNat_or, UInt32.toNat_shiftLeft, UInt8.toNat_toUInt32,
    show (8 : UInt32).toNat % 32 = 8 from rfl, hshift, ← Nat.shiftLeft_add_eq_or_of_lt hbyte,
    Nat.shiftLeft_eq]
  omega

theorem push_byte64 (high : UInt64) (byte : UInt8) :
    ((high <<< 8) ||| byte.toUInt64).toNat = (byte.toNat + 256 * high.toNat) % 2 ^ 64 := by
  have hbyte := byte.toNat_lt
  have hshift : high.toNat <<< 8 % 2 ^ 64 = (high.toNat % 2 ^ 56) <<< 8 := by
    simp only [Nat.shiftLeft_eq]
    omega
  rw [UInt64.toNat_or, UInt64.toNat_shiftLeft, UInt8.toNat_toUInt64,
    show (8 : UInt64).toNat % 64 = 8 from rfl, hshift, ← Nat.shiftLeft_add_eq_or_of_lt hbyte,
    Nat.shiftLeft_eq]
  omega

variable {data : Text}

theorem readU16_toNat (h : 2 ≤ data.length) : (readU16 data).toNat = wordOf (data.take 2) := by
  match data, h with
  | a :: b :: rest, _ =>
    have ha := a.toNat_lt
    have hb := b.toNat_lt
    have hshift : b.toNat <<< 8 % 2 ^ 16 = b.toNat <<< 8 := by
      simp only [Nat.shiftLeft_eq]
      omega
    simp only [readU16, byteAt, List.getD_cons_zero, List.getD_cons_succ, UInt16.toNat_or,
      UInt16.toNat_shiftLeft, UInt8.toNat_toUInt16]
    rw [show (8 : UInt16).toNat % 16 = 8 from rfl, hshift, Nat.or_comm,
      ← Nat.shiftLeft_add_eq_or_of_lt ha, Nat.shiftLeft_eq]
    simp [wordOf]
    omega

theorem readU32_toNat (h : 4 ≤ data.length) : (readU32 data).toNat = wordOf (data.take 4) := by
  match data, h with
  | a :: b :: c :: d :: rest, _ =>
    have hbound := wordOf_lt [a, b, c, d]
    simp only [readU32, List.foldl_cons, List.foldl_nil, push_byte32, byteAt,
      List.getD_cons_succ, List.getD_cons_zero, List.take_succ_cons, List.take_zero, wordOf,
      List.length_cons, List.length_nil, UInt32.toNat_zero] at hbound ⊢
    omega

theorem readU64_toNat (h : 8 ≤ data.length) : (readU64 data).toNat = wordOf (data.take 8) := by
  match data, h with
  | a :: b :: c :: d :: e :: f :: g :: i :: rest, _ =>
    have hbound := wordOf_lt [a, b, c, d, e, f, g, i]
    simp only [readU64, List.foldl_cons, List.foldl_nil, push_byte64, byteAt,
      List.getD_cons_succ, List.getD_cons_zero, List.take_succ_cons, List.take_zero, wordOf,
      List.length_cons, List.length_nil, UInt64.toNat_zero] at hbound ⊢
    omega

@[simp] theorem readU16_putU16 (value : UInt16) (rest : Text) :
    readU16 (putU16 value ++ rest) = value := by
  apply UInt16.toNat_inj.mp
  rw [readU16_toNat (by simp), List.take_left' (length_putU16 value), putU16_eq, wordOf_wordBytes]
  exact Nat.mod_eq_of_lt value.toNat_lt

@[simp] theorem readU32_putU32 (value : UInt32) (rest : Text) :
    readU32 (putU32 value ++ rest) = value := by
  apply UInt32.toNat_inj.mp
  rw [readU32_toNat (by simp), List.take_left' (length_putU32 value), putU32_eq, wordOf_wordBytes]
  exact Nat.mod_eq_of_lt value.toNat_lt

@[simp] theorem readU64_putU64 (value : UInt64) (rest : Text) :
    readU64 (putU64 value ++ rest) = value := by
  apply UInt64.toNat_inj.mp
  rw [readU64_toNat (by simp), List.take_left' (length_putU64 value), putU64_eq, wordOf_wordBytes]
  exact Nat.mod_eq_of_lt value.toNat_lt

theorem putU32_injective : Function.Injective putU32 := by
  intro value value' h
  rw [← readU32_putU32 value [], h, readU32_putU32]

theorem putU64_injective : Function.Injective putU64 := by
  intro value value' h
  rw [← readU64_putU64 value [], h, readU64_putU64]

theorem wordBytes_of_take {width : Nat} (h : width ≤ data.length) :
    wordBytes width (wordOf (data.take width)) = data.take width := by
  have hwidth : (data.take width).length = width := by
    rw [List.length_take, Nat.min_eq_left h]
  have hbytes := wordBytes_wordOf (data.take width)
  rwa [hwidth] at hbytes

theorem putU16_readU16 (h : 2 ≤ data.length) : putU16 (readU16 data) = data.take 2 := by
  rw [putU16_eq, readU16_toNat h, wordBytes_of_take h]

theorem putU32_readU32 (h : 4 ≤ data.length) : putU32 (readU32 data) = data.take 4 := by
  rw [putU32_eq, readU32_toNat h, wordBytes_of_take h]

theorem putU64_readU64 (h : 8 ≤ data.length) : putU64 (readU64 data) = data.take 8 := by
  rw [putU64_eq, readU64_toNat h, wordBytes_of_take h]

@[simp] theorem readIdentity_putIdentity (value : Identity) (rest : Text) :
    readIdentity (putIdentity value ++ rest) = value := by
  simp [readIdentity, putIdentity, List.append_assoc, List.drop_left' (length_putU64 value.hi)]

theorem putIdentity_readIdentity (h : 16 ≤ data.length) :
    putIdentity (readIdentity data) = data.take 16 := by
  have hlow : 8 ≤ (data.drop 8).length := by
    rw [List.length_drop]
    omega
  rw [putIdentity, readIdentity, putU64_readU64 (by omega), putU64_readU64 hlow, ← List.take_add]

end Words

section Checksum

/-- The bits of a message, each byte from its least significant bit on. -/
def messageBits (data : Text) : List Bool :=
  data.flatMap fun byte => (List.range 8).map byte.toNat.testBit

/-- Takes in one bit: the register moves down, and the polynomial is added when the bits differ. -/
def crcBitStep (crc : UInt32) (bit : Bool) : UInt32 :=
  if (decide (crc &&& 1 ≠ 0) ^^ bit) = true then (crc >>> 1) ^^^ 0xEDB88320 else crc >>> 1

/-- The reference checksum, bit by bit from a register of ones. -/
def crc32Reference (data : Text) : UInt32 :=
  ~~~((messageBits data).foldl crcBitStep (~~~0))

theorem and_one_ne_zero_iff (value : UInt32) :
    value &&& 1 ≠ 0 ↔ value.toBitVec.getLsbD 0 = true := by
  have hlow : value.toBitVec.getLsbD 0 = decide (value.toNat % 2 = 1) := Nat.testBit_zero _
  rw [hlow, ne_eq, ← UInt32.toNat_inj, UInt32.toNat_and]
  simp [Nat.and_one_is_mod]

theorem toBitVec_crcBitStep (crc : UInt32) (bit : Bool) :
    (crcBitStep crc bit).toBitVec = feed 0xEDB88320 crc.toBitVec bit := by
  have hlow : (crc.toBitVec ^^^ (BitVec.ofBool bit).setWidth 32).getLsbD 0 =
      (decide (crc &&& 1 ≠ 0) ^^ bit) := by
    simp [and_one_ne_zero_iff]
  have hrest : (crc.toBitVec ^^^ (BitVec.ofBool bit).setWidth 32) >>> 1 = crc.toBitVec >>> 1 := by
    cases bit <;> simp [BitVec.ushiftRight_xor_distrib]
  rw [feed, shift, hlow, hrest, crcBitStep]
  split <;> simp

/-- One step of the checksum. -/
def crcStep (crc : UInt32) (byte : UInt8) : UInt32 :=
  crcTable ((crc ^^^ byte.toUInt32) &&& 0xFF) ^^^ (crc >>> 8)

theorem toBitVec_crcTable (index : UInt32) :
    (crcTable index).toBitVec = (shift 0xEDB88320)^[8] index.toBitVec := by
  have hmove : Function.Semiconj UInt32.toBitVec
      (fun value => if value &&& 1 ≠ 0 then (value >>> 1) ^^^ 0xEDB88320 else value >>> 1)
      (shift 0xEDB88320) := by
    intro value
    rw [shift]
    simp only [and_one_ne_zero_iff]
    split <;> simp
  rw [crcTable, List.foldl_const]
  exact hmove.iterate_right 8 index

/-- A step through the table adds the byte and moves the register eight times. -/
theorem toBitVec_crcStep (crc : UInt32) (byte : UInt8) :
    (crcStep crc byte).toBitVec =
      (shift 0xEDB88320)^[8] (crc.toBitVec ^^^ byte.toUInt32.toBitVec) := by
  have hbyte : byte.toUInt32.toBitVec >>> 8 = 0 := by
    apply BitVec.eq_of_toNat_eq
    have := byte.toNat_lt
    simp [Nat.shiftRight_eq_div_pow]
    omega
  have hrest : crc.toBitVec >>> 8 = (crc.toBitVec ^^^ byte.toUInt32.toBitVec) >>> 8 := by
    rw [BitVec.ushiftRight_xor_distrib, hbyte, BitVec.ofNat_eq_ofNat, BitVec.xor_zero]
  have hmask : ∀ i < 32, (0xFF#32).getLsbD i = decide (i < 8) := by decide
  have hparts : ∀ x : BitVec 32, (x &&& 0xFF#32) ^^^ (x >>> 8) <<< 8 = x := by
    intro x
    apply BitVec.eq_of_getLsbD_eq
    intro i hi
    rw [BitVec.getLsbD_xor, BitVec.getLsbD_and, hmask i hi, BitVec.getLsbD_shiftLeft,
      BitVec.getLsbD_ushiftRight]
    rcases Nat.lt_or_ge i 8 with hlow | hhigh
    · simp [hlow]
    · simp [hi, Nat.not_lt.mpr hhigh, Nat.add_sub_cancel' hhigh]
  have hfree : ∀ (x : BitVec 32) i, 32 ≤ i + 8 → (x >>> 8).getLsbD i = false := by
    intro x i hi
    rw [BitVec.getLsbD_ushiftRight, BitVec.getLsbD_of_ge _ _ (by omega)]
  calc (crcStep crc byte).toBitVec
    _ = (shift 0xEDB88320)^[8] ((crc.toBitVec ^^^ byte.toUInt32.toBitVec) &&& 0xFF#32) ^^^
          crc.toBitVec >>> 8 := by
        simp [crcStep, toBitVec_crcTable]
    _ = (shift 0xEDB88320)^[8] (crc.toBitVec ^^^ byte.toUInt32.toBitVec) := by
        rw [hrest, ← shift_iterate_shiftLeft 0xEDB88320 (hfree _), ← shift_iterate_xor, hparts]

theorem crcStep_injective_state (byte : UInt8) :
    Function.Injective fun crc => crcStep crc byte := by
  intro crc crc' h
  have hmoved := congrArg UInt32.toBitVec h
  simp only [toBitVec_crcStep] at hmoved
  exact UInt32.toBitVec_inj.mp
    ((BitVec.xor_left_inj _).mp ((shift_injective (by decide)).iterate 8 hmoved))

theorem crcStep_injective_byte (crc : UInt32) : Function.Injective (crcStep crc) := by
  intro byte byte' h
  have hmoved := congrArg UInt32.toBitVec h
  simp only [toBitVec_crcStep] at hmoved
  have hwide := (BitVec.xor_right_inj _).mp ((shift_injective (by decide)).iterate 8 hmoved)
  apply UInt8.toNat_inj.mp
  simpa using congrArg BitVec.toNat hwide

/-- One changed byte changes the checksum, at any length and in any place. -/
theorem crc32_ne_of_differAt {position : Nat} {data damaged : Text}
    (h : DifferAt position data damaged) : crc32 damaged ≠ crc32 data := by
  intro hsame
  exact h.foldl_ne crcStep_injective_state crcStep_injective_byte _ (UInt32.not_inj.mp hsame)

theorem word_byteBits (byte : UInt8) :
    word 32 ((List.range 8).map byte.toNat.testBit) = byte.toUInt32.toBitVec := by
  apply BitVec.eq_of_getLsbD_eq
  intro i hi
  rw [getLsbD_word _ hi]
  have hbit : byte.toUInt32.toBitVec.getLsbD i = byte.toNat.testBit i := by
    simp [hi]
    rfl
  rw [hbit]
  rcases Nat.lt_or_ge i 8 with hlow | hhigh
  · simp [hlow]
  · have hbound : byte.toNat < 2 ^ i :=
      Nat.lt_of_lt_of_le byte.toNat_lt (Nat.pow_le_pow_right (by decide) hhigh)
    simp [hhigh, Nat.testBit_lt_two_pow hbound]

theorem messageBits_injective : Function.Injective messageBits := by
  intro data
  induction data with
  | nil =>
    intro other h
    cases other with
    | nil => rfl
    | cons => simp [messageBits] at h
  | cons byte rest ih =>
    intro other h
    cases other with
    | nil => simp [messageBits] at h
    | cons byte' rest' =>
      obtain ⟨hbits, hrest⟩ := List.append_inj h (by simp)
      have hbyte := congrArg (word 32) hbits
      rw [word_byteBits, word_byteBits] at hbyte
      have hsame : byte = byte' := by
        apply UInt8.toNat_inj.mp
        simpa using congrArg BitVec.toNat hbyte
      rw [hsame, ih hrest]

/-- The checksum and the bitwise one run the same register. -/
theorem toBitVec_crc32 (data : Text) :
    (data.foldl crcStep (~~~0)).toBitVec =
      (messageBits data).foldl (feed 0xEDB88320) (~~~0 : UInt32).toBitVec := by
  rw [messageBits, List.foldl_flatMap]
  refine (List.foldl_hom UInt32.toBitVec ?_).symm
  intro crc byte
  rw [foldl_feed _ (by simp), word_byteBits, toBitVec_crcStep]
  simp

/--
The checksum through the table is the bitwise one, and two different messages of
one length that differ only within 32 consecutive bits have different checksums.
-/
theorem crc32_bitwise_and_bursts :
    (∀ data, crc32 data = crc32Reference data) ∧
      ∀ (start : Nat) (data damaged : Text), data ≠ damaged →
        DifferWithin start 32 (messageBits data) (messageBits damaged) →
          crc32 data ≠ crc32 damaged := by
  constructor
  · intro data
    refine congrArg (~~~ ·) (UInt32.toBitVec_inj.mp ((toBitVec_crc32 data).trans ?_))
    exact List.foldl_hom UInt32.toBitVec fun crc bit => (toBitVec_crcBitStep crc bit).symm
  · intro start data damaged hne hwindow hsame
    have hregister := congrArg UInt32.toBitVec (UInt32.not_inj.mp hsame)
    have hpoly : (0xEDB88320 : BitVec 32).msb = true := by
      decide
    refine hwindow.foldl_feed_ne hpoly (messageBits_injective.ne hne) (~~~0 : UInt32).toBitVec ?_
    rw [← toBitVec_crc32, ← toBitVec_crc32]
    exact hregister

/-- A burst over the border of two bytes. -/
theorem burst_detected : crc32 [0x00, 0x00] ≠ crc32 [0xFE, 0x7F] := by
  refine crc32_bitwise_and_bursts.2 1 _ _ (by decide) ⟨by decide, ?_⟩
  intro i hdiffer
  have hshort : i < 16 := by
    by_contra hlong
    exact hdiffer (by rw [List.getElem?_eq_none, List.getElem?_eq_none] <;>
      simpa [messageBits] using hlong)
  rcases Nat.eq_zero_or_pos i with rfl | hpos
  · exact absurd rfl hdiffer
  · omega

example : crc32 (text "123456789") = 0xCBF43926 := by
  decide +kernel

end Checksum

section Changes

variable {position : Nat} {data damaged : Text}

/-- A changed word reads differently. -/
theorem readU16_ne_of_differAt (h : DifferAt position data damaged) (hdata : 2 ≤ data.length)
    (hposition : position < 2) : readU16 damaged ≠ readU16 data := by
  intro hsame
  apply (h.take hposition).ne
  rw [← putU16_readU16 (h.length ▸ hdata), hsame, putU16_readU16 hdata]

theorem readU32_ne_of_differAt (h : DifferAt position data damaged) (hdata : 4 ≤ data.length)
    (hposition : position < 4) : readU32 damaged ≠ readU32 data := by
  intro hsame
  apply (h.take hposition).ne
  rw [← putU32_readU32 (h.length ▸ hdata), hsame, putU32_readU32 hdata]

end Changes

end TrafficFabric
