import TrafficFabric.SnapshotCodec
import TrafficFabric.Lib.Checksum

/-!
# Snapshot files

A snapshot file is its payload behind an envelope that is a function of the
payload and the time of writing, and the payload repeats that time at its
front.  The decoder opens exactly the files of this form.

Damage to one byte is therefore always found: in the payload by the CRC, which
the envelope still holds, and in the envelope because the payload determines
it.  A file that was cut or that goes on has the wrong length in its envelope.
-/

namespace TrafficFabric

open Lib SnapReader

section Envelope

/-- Steps that keep the number of lanes keep it over any number of them. -/
theorem length_foldl_lanes {β : Type} {step : List UInt64 → β → List UInt64}
    (hstep : ∀ lanes b, (step lanes b).length = lanes.length) (items : List β)
    (lanes : List UInt64) : (items.foldl step lanes).length = lanes.length := by
  induction items generalizing lanes with
  | nil => rfl
  | cons _ _ ih => rw [List.foldl_cons, ih, hstep]

theorem length_digestPayload (payload : Text) :
    (digestPayload payload).length = snapshotDigestBytes := by
  have hfinish : ∀ lanes index, (finishLane lanes index).length = lanes.length := by
    intro lanes index
    rw [finishLane, List.length_set]
  have hbytes : ∀ lanes : List UInt64, (lanes.flatMap putU64).length = lanes.length * 8 := by
    intro lanes
    simp [List.length_flatMap]
  unfold digestPayload
  simp only [List.length_append, List.length_zipWith, List.length_take, List.length_drop,
    length_putU64, hbytes]
  rw [length_foldl_lanes fun lanes _ => length_foldl_lanes hfinish _ lanes,
    length_foldl_lanes fun _ _ => List.length_modify _ _ _]
  rfl

/-- A size within the bound is written as it is. -/
theorem toNat_size {size : Nat} (h : size ≤ Limits.snapshotBytesMax) :
    size.toUInt64.toNat = size := by
  rw [Limits.snapshotBytesMax] at h
  exact Nat.mod_eq_of_lt (by omega)

/-- The envelope of a payload. -/
def snapshotEnvelope (written : UInt64) (payload : Text) : Text :=
  putU32 snapshotMagic ++ putU32 snapshotFormatVersion ++ putU64 payload.length.toUInt64 ++
    putU32 (crc32 payload) ++ putU64 written ++ digestPayload payload

@[simp] theorem length_snapshotEnvelope (written : UInt64) (payload : Text) :
    (snapshotEnvelope written payload).length = snapshotEnvelopeBytes := by
  simp [snapshotEnvelope, length_digestPayload, snapshotDigestBytes, snapshotEnvelopeBytes]

/-- The envelope holds the length and the CRC of its payload. -/
theorem envelope_determines {written written' : UInt64} {payload payload' : Text}
    (h : snapshotEnvelope written payload = snapshotEnvelope written' payload') :
    payload.length.toUInt64 = payload'.length.toUInt64 ∧ crc32 payload = crc32 payload' := by
  simp only [snapshotEnvelope, List.append_assoc, List.append_cancel_left_eq] at h
  obtain ⟨hlength, hrest⟩ := List.append_inj h (by simp)
  obtain ⟨hcrc, -⟩ := List.append_inj hrest (by simp)
  exact ⟨putU64_injective hlength, putU32_injective hcrc⟩

theorem encodeSnapshot_eq_ok_iff {contents : SnapshotContents} {bytes : Text} :
    encodeSnapshot contents = .ok bytes ↔
      contentsFault contents = none ∧
        (encodePayload contents).length ≤ Limits.snapshotBytesMax ∧
        bytes =
          snapshotEnvelope contents.writtenMonotonicMs (encodePayload contents) ++
            encodePayload contents := by
  unfold encodeSnapshot
  cases hfault : contentsFault contents with
  | some status => simp
  | none =>
    have hlength := length_snapshotEnvelope contents.writtenMonotonicMs (encodePayload contents)
    rw [snapshotEnvelope] at hlength
    simp only [require_eq_ok_iff, hlength, true_and, Except.ok.injEq]
    exact and_congr_right fun _ => eq_comm

end Envelope

section Readers

variable {data rest : Text}

theorem take_eq_some_iff {count : Nat} {bytes : Text} :
    take count data = some (bytes, rest) ↔ bytes.length = count ∧ data = bytes ++ rest := by
  change (if data.length < count then none
    else some (data.take count, data.drop count)) = some (bytes, rest) ↔ _
  split_ifs with hshort
  · simp only [false_iff, not_and]
    rintro hlength rfl
    rw [List.length_append] at hshort
    omega
  · simp only [Option.some.injEq, Prod.mk.injEq]
    constructor
    · rintro ⟨rfl, rfl⟩
      exact ⟨List.length_take_of_le (Nat.not_lt.mp hshort), (List.take_append_drop _ _).symm⟩
    · rintro ⟨hlength, rfl⟩
      exact ⟨List.take_left' hlength, List.drop_left' hlength⟩

theorem u32_eq_some_iff {value : UInt32} :
    u32 data = some (value, rest) ↔ data = putU32 value ++ rest := by
  constructor
  · intro h
    obtain ⟨⟨bytes, left⟩, htake, hread⟩ := Option.bind_eq_some_iff.mp h
    obtain ⟨hlength, rfl⟩ := take_eq_some_iff.mp htake
    cases hread
    rw [putU32_readU32 (by omega), List.take_of_length_le (by omega)]
  · rintro rfl
    exact reads_u32 value rest

theorem u64_eq_some_iff {value : UInt64} :
    u64 data = some (value, rest) ↔ data = putU64 value ++ rest := by
  constructor
  · intro h
    obtain ⟨⟨bytes, left⟩, htake, hread⟩ := Option.bind_eq_some_iff.mp h
    obtain ⟨hlength, rfl⟩ := take_eq_some_iff.mp htake
    cases hread
    rw [putU64_readU64 (by omega), List.take_of_length_le (by omega)]
  · rintro rfl
    exact reads_u64 value rest

/-- The envelope's fields, as they are written. -/
def SnapshotEnvelope.bytes (envelope : SnapshotEnvelope) : Text :=
  putU32 envelope.magic ++ putU32 envelope.formatVersion ++ putU64 envelope.payloadBytes ++
    putU32 envelope.payloadCrc32 ++ putU64 envelope.writtenMonotonicMs

theorem readEnvelope_eq_some_iff {envelope : SnapshotEnvelope} :
    readEnvelope data = some (envelope, rest) ↔ data = envelope.bytes ++ rest := by
  constructor
  · intro h
    obtain ⟨⟨magic, data₁⟩, hmagic, h⟩ := Option.bind_eq_some_iff.mp h
    obtain ⟨⟨version, data₂⟩, hversion, h⟩ := Option.bind_eq_some_iff.mp h
    obtain ⟨⟨payloadBytes, data₃⟩, hbytes, h⟩ := Option.bind_eq_some_iff.mp h
    obtain ⟨⟨crc, data₄⟩, hcrc, h⟩ := Option.bind_eq_some_iff.mp h
    obtain ⟨⟨written, data₅⟩, hwritten, h⟩ := Option.bind_eq_some_iff.mp h
    cases h
    rw [u32_eq_some_iff.mp hmagic, u32_eq_some_iff.mp hversion, u64_eq_some_iff.mp hbytes,
      u32_eq_some_iff.mp hcrc, u64_eq_some_iff.mp hwritten]
    simp only [SnapshotEnvelope.bytes, List.append_assoc]
  · rintro rfl
    have hreads : Reads readEnvelope envelope.bytes envelope := by
      rw [SnapshotEnvelope.bytes]
      simp only [List.append_assoc]
      refine (reads_u32 _).bind ?_
      refine (reads_u32 _).bind ?_
      refine (reads_u64 _).bind ?_
      refine (reads_u32 _).bind ?_
      exact (reads_u64 _).last
    exact hreads rest

end Readers

section Opening

variable {bytes payload : Text} {written : UInt64}

/-- The files that the envelope check opens are the payloads behind their envelopes. -/
theorem openEnvelope_eq_ok_iff :
    openEnvelope bytes = .ok (written, payload) ↔
      payload.length ≤ Limits.snapshotBytesMax ∧
        bytes = snapshotEnvelope written payload ++ payload := by
  constructor
  · intro h
    obtain ⟨hlong, h⟩ := require_eq_ok_iff.mp h
    obtain ⟨hbounded, h⟩ := require_eq_ok_iff.mp h
    cases henvelope : readEnvelope (bytes.take snapshotEnvelopeBytes) with
    | none =>
      rw [henvelope] at h
      cases h
    | some found =>
      obtain ⟨envelope, rest⟩ := found
      rw [henvelope] at h
      obtain ⟨hmagic, h⟩ := require_eq_ok_iff.mp h
      obtain ⟨hversion, h⟩ := require_eq_ok_iff.mp h
      obtain ⟨hsize, h⟩ := require_eq_ok_iff.mp h
      obtain ⟨hlength, h⟩ := require_eq_ok_iff.mp h
      obtain ⟨hcrc, h⟩ := require_eq_ok_iff.mp h
      cases hdigest : take snapshotDigestBytes rest with
      | none =>
        rw [hdigest] at h
        cases h
      | some taken =>
        obtain ⟨digest, left⟩ := taken
        rw [hdigest] at h
        obtain ⟨hsame, h⟩ := require_eq_ok_iff.mp h
        cases h
        have hfields := readEnvelope_eq_some_iff.mp henvelope
        obtain ⟨hdigestLength, hrest⟩ := take_eq_some_iff.mp hdigest
        have hleft : left = [] := by
          have hcount := congrArg List.length hfields
          simp only [hrest, List.length_take, List.length_append, SnapshotEnvelope.bytes,
            length_putU32, length_putU64, hdigestLength] at hcount
          simp only [snapshotEnvelopeBytes, snapshotDigestBytes] at hcount hlong
          exact List.eq_nil_of_length_eq_zero (by omega)
        have hcount : (bytes.drop snapshotEnvelopeBytes).length.toUInt64 =
            envelope.payloadBytes := by
          rw [List.length_drop, ← hlength]
          exact UInt64.ofNat_toNat
        refine ⟨by rw [List.length_drop]; omega, ?_⟩
        rw [snapshotEnvelope, hcount, ← hmagic, ← hversion, hcrc, ← hsame]
        calc
          bytes = bytes.take snapshotEnvelopeBytes ++ bytes.drop snapshotEnvelopeBytes :=
            (List.take_append_drop _ _).symm
          _ = _ := by
            rw [hfields, hrest, hleft, List.append_nil]
            rfl
  · rintro ⟨hpayload, rfl⟩
    have hcount : payload.length.toUInt64.toNat = payload.length := toNat_size hpayload
    have hlength := length_snapshotEnvelope written payload
    have htotal :
        (snapshotEnvelope written payload ++ payload).length =
          snapshotEnvelopeBytes + payload.length := by
      rw [List.length_append, hlength]
    have hread : readEnvelope (snapshotEnvelope written payload) =
        some (⟨snapshotMagic, snapshotFormatVersion, payload.length.toUInt64, crc32 payload,
          written⟩, digestPayload payload) :=
      readEnvelope_eq_some_iff.mpr rfl
    have hdigest : take snapshotDigestBytes (digestPayload payload) =
        some (digestPayload payload, []) :=
      take_eq_some_iff.mpr ⟨length_digestPayload payload, (List.append_nil _).symm⟩
    unfold openEnvelope
    rw [List.take_left' hlength, List.drop_left' hlength, hread, htotal]
    simp only [require_eq_ok_iff, hcount, hdigest, true_and, and_true]
    refine ⟨?_, ?_, hpayload, ?_⟩ <;> omega

end Opening

section Stamps

variable {payload rest : Text} {written : UInt64} {contents : SnapshotContents}

theorem orRefuse_eq_ok_iff {α : Type} {reader : SnapReader α} {refusal : Status} {data : Text}
    {found : α × Text} : (reader.orRefuse refusal) data = .ok found ↔ reader data = some found := by
  unfold orRefuse
  cases reader data <;> simp

/-- A payload that is decoded starts with the version and the time of writing. -/
theorem stamp_of_decodePayload (h : decodePayload written payload = .ok (contents, rest)) :
    ∃ more, payload = putU32 snapshotFormatVersion ++ putU64 written ++ more := by
  obtain ⟨⟨version, data₁⟩, hversion, h⟩ := bind_eq_ok_iff.mp h
  have hfront := u32_eq_some_iff.mp (orRefuse_eq_ok_iff.mp hversion)
  by_cases hknown : version = snapshotFormatVersion
  · subst hknown
    simp only [ne_eq, not_true_eq_false, if_false] at h
    obtain ⟨⟨stamp, data₂⟩, hstamp, h⟩ := bind_eq_ok_iff.mp h
    have hnext := u64_eq_some_iff.mp (orRefuse_eq_ok_iff.mp hstamp)
    by_cases hsame : stamp = written
    · exact ⟨data₂, by rw [hfront, hnext, hsame, List.append_assoc]⟩
    · simp only [hsame, not_false_eq_true, if_true] at h
      cases h
  · simp only [ne_eq, hknown, not_false_eq_true, if_true] at h
    cases h

theorem stamp_of_encodePayload (contents : SnapshotContents) :
    ∃ more, encodePayload contents =
      putU32 snapshotFormatVersion ++ putU64 contents.writtenMonotonicMs ++ more := by
  rw [encodePayload]
  simp only [List.append_assoc]
  exact ⟨_, rfl⟩

end Stamps

section Damage

variable {contents : SnapshotContents}

/-- The bytes are a stamped payload of a legal size behind its envelope. -/
structure SnapshotFormed (bytes payload : Text) (written : UInt64) : Prop where
  size : payload.length ≤ Limits.snapshotBytesMax
  whole : bytes = snapshotEnvelope written payload ++ payload
  stamp : ∃ more, payload = putU32 snapshotFormatVersion ++ putU64 written ++ more

theorem formed_of_encodeSnapshot {bytes : Text} (h : encodeSnapshot contents = .ok bytes) :
    SnapshotFormed bytes (encodePayload contents) contents.writtenMonotonicMs := by
  obtain ⟨-, hsize, hwhole⟩ := encodeSnapshot_eq_ok_iff.mp h
  exact ⟨hsize, hwhole, stamp_of_encodePayload contents⟩

theorem formed_of_decodeSnapshot {bytes : Text} (h : decodeSnapshot bytes = .ok contents) :
    ∃ written payload, SnapshotFormed bytes payload written := by
  unfold decodeSnapshot at h
  cases hopen : openEnvelope bytes with
  | error status =>
    rw [hopen] at h
    cases h
  | ok opened =>
    obtain ⟨written, payload⟩ := opened
    rw [hopen] at h
    obtain ⟨⟨found, rest⟩, hpayload, -⟩ := map_eq_ok_iff.mp h
    obtain ⟨hsize, hwhole⟩ := openEnvelope_eq_ok_iff.mp hopen
    exact ⟨written, payload, hsize, hwhole, stamp_of_decodePayload hpayload⟩

namespace SnapshotFormed

variable {bytes bytes' payload payload' : Text} {written written' : UInt64}

theorem take_eq (h : SnapshotFormed bytes payload written) :
    bytes.take snapshotEnvelopeBytes = snapshotEnvelope written payload := by
  rw [h.whole, List.take_left' (length_snapshotEnvelope written payload)]

theorem drop_eq (h : SnapshotFormed bytes payload written) :
    bytes.drop snapshotEnvelopeBytes = payload := by
  rw [h.whole, List.drop_left' (length_snapshotEnvelope written payload)]

/-- The time of writing is in the payload. -/
theorem written_eq (h : SnapshotFormed bytes payload written)
    (h' : SnapshotFormed bytes' payload written') : written = written' := by
  obtain ⟨more, hmore⟩ := h.stamp
  obtain ⟨more', hmore'⟩ := h'.stamp
  rw [hmore, List.append_assoc, List.append_assoc] at hmore'
  have hstamp : readU64 (putU64 written ++ more) = readU64 (putU64 written' ++ more') :=
    congrArg readU64 (List.append_cancel_left hmore')
  rwa [readU64_putU64, readU64_putU64] at hstamp

/-- No formed file differs from another in one byte. -/
theorem not_differAt (h : SnapshotFormed bytes payload written)
    (h' : SnapshotFormed bytes' payload' written') (position : Nat) :
    ¬ DifferAt position bytes bytes' := by
  intro hdiffer
  by_cases hposition : position < snapshotEnvelopeBytes
  · -- The payloads agree, and so do the envelopes that they determine.
    have hpayload : payload' = payload := by
      rw [← h.drop_eq, ← h'.drop_eq]
      exact hdiffer.drop_eq hposition
    subst hpayload
    have hwritten : written = written' := h.written_eq h'
    subst hwritten
    exact hdiffer.ne (h'.whole.trans h.whole.symm)
  · -- The envelopes agree, and only one of the payloads has the CRC in it.
    have hlate : snapshotEnvelopeBytes ≤ position := Nat.not_lt.mp hposition
    have hpayload := hdiffer.drop hlate
    rw [h.drop_eq, h'.drop_eq] at hpayload
    have henvelope := hdiffer.take_eq hlate
    rw [h.take_eq, h'.take_eq] at henvelope
    exact crc32_ne_of_differAt hpayload (envelope_determines henvelope).2

/-- No formed file goes on after another. -/
theorem eq_nil_of_append {more : Text} (h : SnapshotFormed bytes payload written)
    (h' : SnapshotFormed (bytes ++ more) payload' written') : more = [] := by
  have hwhole : bytes.length = snapshotEnvelopeBytes + payload.length := by
    rw [h.whole, List.length_append, length_snapshotEnvelope]
  have hwhole' : bytes.length + more.length = snapshotEnvelopeBytes + payload'.length := by
    rw [← List.length_append, h'.whole, List.length_append, length_snapshotEnvelope]
  have henvelope : snapshotEnvelope written payload = snapshotEnvelope written' payload' := by
    rw [← h.take_eq, ← h'.take_eq, List.take_append_of_le_length (by omega)]
  have hsame : payload.length = payload'.length := by
    have hword := congrArg UInt64.toNat (envelope_determines henvelope).1
    rwa [toNat_size h.size, toNat_size h'.size] at hword
  exact List.eq_nil_of_length_eq_zero (by omega)

end SnapshotFormed

/-- Every file with one byte changed, a part cut off its end or anything added to its
end is refused. -/
theorem snapshot_damage_detected {contents : SnapshotContents} {bytes : Text}
    (h : encodeSnapshot contents = .ok bytes) :
    (∀ position damaged, DifferAt position bytes damaged →
      ∃ status, decodeSnapshot damaged = .error status) ∧
    (∀ part cut, bytes = part ++ cut → cut ≠ [] → ∃ status, decodeSnapshot part = .error status) ∧
    (∀ more, more ≠ [] → ∃ status, decodeSnapshot (bytes ++ more) = .error status) := by
  have hformed := formed_of_encodeSnapshot h
  have hrefused : ∀ other,
      (∀ written payload, ¬ SnapshotFormed other payload written) →
        ∃ status, decodeSnapshot other = .error status := by
    intro other hnot
    cases hdecode : decodeSnapshot other with
    | error status => exact ⟨status, rfl⟩
    | ok found =>
      obtain ⟨written, payload, hother⟩ := formed_of_decodeSnapshot hdecode
      exact absurd hother (hnot written payload)
  refine ⟨?_, ?_, ?_⟩
  · intro position damaged hdiffer
    exact hrefused damaged fun written payload hother =>
      hformed.not_differAt hother position hdiffer
  · intro part cut hcut hne
    subst hcut
    exact hrefused part fun written payload hother => hne (hother.eq_nil_of_append hformed)
  · intro more hne
    exact hrefused (bytes ++ more) fun written payload hother =>
      hne (hformed.eq_nil_of_append hother)

/-- A snapshot of one collective. -/
def oneRecord : SnapshotContents :=
  { writtenMonotonicMs := 7
    records :=
      [ { definition := { id := ⟨31, 0⟩, generation := ⟨32, 0⟩, participants := [⟨1, 0⟩] }
          state := .registered } ] }

theorem first_snapshot_damage_detected :
    ∃ bytes, encodeSnapshot oneRecord = .ok bytes ∧
      (∀ position damaged, DifferAt position bytes damaged →
        ∃ status, decodeSnapshot damaged = .error status) ∧
      (∀ part cut, bytes = part ++ cut → cut ≠ [] →
        ∃ status, decodeSnapshot part = .error status) ∧
      (∀ more, more ≠ [] → ∃ status, decodeSnapshot (bytes ++ more) = .error status) := by
  have hencode : encodeSnapshot oneRecord = .ok _ :=
    encodeSnapshot_eq_ok_iff.mpr ⟨by decide, by decide +kernel, rfl⟩
  exact ⟨_, hencode, snapshot_damage_detected hencode⟩

end Damage

end TrafficFabric
