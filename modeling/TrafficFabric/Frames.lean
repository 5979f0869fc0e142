import TrafficFabric.Encoding

/-!
# Frames and their bytes

The header of a frame is ten fields at fixed places.  That the first 44 bytes
of some data are the header of a frame is the same as that each field, read at
its place, is the frame's.  Decoding therefore accepts exactly the encodings: it
returns a frame and a number of bytes when that many bytes are there and are
what the frame encodes to.

The two checksums detect every change of one byte of what they cover, and the
remaining bytes of the header are compared exactly, except for the identity of
the session: a changed session is the encoding of another frame.
-/

namespace TrafficFabric

open Lib

/-- The body of a frame: its envelope and its payload. -/
def frameBody (frame : Frame) : Text :=
  encodeEnvelope frame.envelope ++ frame.payload

/-- The header of a frame with the given body. -/
def frameHeader (frame : Frame) (body : Text) : Text :=
  checkedHeader frame body ++ putU32 (crc32 (checkedHeader frame body)) ++ putU16 0 ++
    putIdentity frame.envelope.session

/-- The frames that can be encoded. -/
structure FrameLegal (frame : Frame) : Prop where
  kind : messageKindIsKnown frame.kind = true
  flags : frame.flags &&& ~~~flagKnownMask = 0
  payload : frame.payload.length ≤ Limits.framePayloadMaxBytes

section Headers

variable (frame : Frame) (body : Text)

@[simp] theorem length_encodeEnvelope (envelope : Envelope) :
    (encodeEnvelope envelope).length = envelopeBytes := by
  rfl

@[simp] theorem length_checkedHeader : (checkedHeader frame body).length = 22 := by
  rfl

@[simp] theorem length_frameHeader : (frameHeader frame body).length = headerBytes := by
  simp [frameHeader, headerBytes]

theorem length_frameBody : (frameBody frame).length = envelopeBytes + frame.payload.length := by
  simp [frameBody]

theorem encodeFrame_eq_ok_iff {bytes : Text} :
    encodeFrame frame = .ok bytes ↔
      FrameLegal frame ∧ bytes = frameHeader frame (frameBody frame) ++ frameBody frame := by
  have hlength := length_frameHeader frame (frameBody frame)
  unfold encodeFrame
  split_ifs with hkind hflags hpayload hoverflow
  · simp only [false_iff]
    rintro ⟨hlegal, -⟩
    simp [hlegal.kind] at hkind
  · simp only [false_iff]
    rintro ⟨hlegal, -⟩
    exact hflags hlegal.flags
  · simp only [false_iff]
    rintro ⟨hlegal, -⟩
    exact absurd hlegal.payload (Nat.not_le.mpr hpayload)
  · simp only [Limits.framePayloadMaxBytes, envelopeBytes] at hpayload hoverflow
    omega
  · have hlegal : FrameLegal frame :=
      ⟨by simpa using hkind, by simpa using hflags, Nat.not_lt.mp hpayload⟩
    change (if (frameHeader frame (frameBody frame)).length ≠ headerBytes then _
      else Except.ok (frameHeader frame (frameBody frame) ++ frameBody frame)) = .ok bytes ↔ _
    rw [if_neg (not_not.mpr hlength)]
    simp only [Except.ok.injEq, hlegal, true_and]
    exact ⟨Eq.symm, Eq.symm⟩

/-- What the fields at the front of the data say. -/
structure HeaderFields (data : Text) : Prop where
  magic : readU32 data = frameMagic
  size : readU16 (data.drop 4) = headerBytes.toUInt16
  kind : readU16 (data.drop 6) = frame.kind
  flags : readU16 (data.drop 8) = frame.flags
  major : readU16 (data.drop 10) = Limits.protocolMajor.toUInt16
  minor : readU16 (data.drop 12) = Limits.protocolMinor.toUInt16
  bodyBytes : readU32 (data.drop 14) = body.length.toUInt32
  bodyCrc : readU32 (data.drop 18) = crc32 body
  headerCrc : readU32 (data.drop 22) = crc32 (data.take 22)
  reserved : readU16 (data.drop 26) = 0
  session : readIdentity (data.drop 28) = frame.envelope.session

/-- The fields of a header that is there. -/
theorem headerFields_of_header (rest : Text) :
    HeaderFields frame body (frameHeader frame body ++ rest) := by
  have hchecked : (frameHeader frame body ++ rest).take 22 = checkedHeader frame body := by
    simp [frameHeader, List.append_assoc]
  constructor
  case headerCrc =>
    rw [hchecked]
    simp [frameHeader, List.append_assoc]
  all_goals
    simp [frameHeader, checkedHeader, List.append_assoc, List.drop_append, List.drop_eq_nil_of_le]

variable {frame body} {data : Text}

theorem HeaderFields.checked (h : HeaderFields frame body data)
    (hdata : headerBytes ≤ data.length) : checkedHeader frame body = data.take 22 := by
  rw [headerBytes] at hdata
  have h16 : ∀ i, i + 2 ≤ 44 → putU16 (readU16 (data.drop i)) = (data.drop i).take 2 := by
    intro i hi
    exact putU16_readU16 (by rw [List.length_drop]; omega)
  have h32 : ∀ i, i + 4 ≤ 44 → putU32 (readU32 (data.drop i)) = (data.drop i).take 4 := by
    intro i hi
    exact putU32_readU32 (by rw [List.length_drop]; omega)
  rw [checkedHeader, ← h.magic, ← h.size, ← h.kind, ← h.flags, ← h.major, ← h.minor,
    ← h.bodyBytes, ← h.bodyCrc, h16 4 (by decide), h16 6 (by decide), h16 8 (by decide),
    h16 10 (by decide), h16 12 (by decide), h32 14 (by decide), h32 18 (by decide),
    putU32_readU32 (by omega)]
  simp only [← List.take_add]

/-- A header all of whose fields are there is there. -/
theorem HeaderFields.header (h : HeaderFields frame body data) (hdata : headerBytes ≤ data.length) :
    frameHeader frame body = data.take headerBytes := by
  have hlength : 44 ≤ data.length := hdata
  rw [frameHeader, h.checked hdata, ← h.headerCrc, ← h.reserved, ← h.session,
    putU32_readU32 (by rw [List.length_drop]; omega),
    putU16_readU16 (by rw [List.length_drop]; omega),
    putIdentity_readIdentity (by rw [List.length_drop]; omega)]
  simp only [← List.take_add]
  rfl

end Headers

section Decoding

variable {data : Text} {frame : Frame} {consumed : Nat}

theorem decodeEnvelope_eq_ok_iff {session : SessionId} {body : Text} {envelope : Envelope} :
    decodeEnvelope session body = .ok envelope ↔
      envelopeBytes ≤ body.length ∧ envelope.session = session ∧
        encodeEnvelope envelope = body.take envelopeBytes := by
  unfold decodeEnvelope
  split
  · rename_i hshort
    simp only [reduceCtorEq, false_iff, not_and]
    intro hlong
    exact absurd hlong (Nat.not_le.mpr hshort)
  · rename_i hlong
    rw [Nat.not_lt] at hlong
    have hbytes : 48 ≤ body.length := hlong
    constructor
    · rintro ⟨⟩
      refine ⟨hlong, rfl, ?_⟩
      rw [encodeEnvelope, putIdentity_readIdentity (by omega),
        putIdentity_readIdentity (by rw [List.length_drop]; omega),
        putU64_readU64 (by rw [List.length_drop]; omega),
        putU64_readU64 (by rw [List.length_drop]; omega)]
      simp only [← List.take_add]
      rfl
    · rintro ⟨-, hsession, hencoded⟩
      have hbody : body = encodeEnvelope envelope ++ body.drop envelopeBytes := by
        rw [hencoded, List.take_append_drop]
      rw [hbody]
      simp only [encodeEnvelope, List.append_assoc, readIdentity_putIdentity]
      simp [List.drop_append, List.drop_eq_nil_of_le, ← hsession]

theorem encodeFrame_of_decodeFrame (h : decodeFrame data = .ok (frame, consumed)) :
    consumed ≤ data.length ∧ encodeFrame frame = .ok (data.take consumed) := by
  simp only [decodeFrame, require_eq_ok_iff] at h
  obtain ⟨-, hheader, hmagic, hsize, hcrc, hmajor, hminor, hreserved, hflags, hkind, hleast,
    hmost, hwhole, hbodyCrc, h⟩ := h
  set bodyBytes := (readU32 (data.drop 14)).toNat with hbodyBytes
  set body := (data.drop headerBytes).take bodyBytes with hbody
  have hlength : body.length = bodyBytes := by
    rw [hbody, List.length_take, List.length_drop]
    omega
  obtain ⟨envelope, henvelope, hframe⟩ := map_eq_ok_iff.mp h
  obtain ⟨-, hsession, hencoded⟩ := decodeEnvelope_eq_ok_iff.mp henvelope
  cases hframe
  have hpayload : frameBody
      { kind := readU16 (data.drop 6), flags := readU16 (data.drop 8), envelope := envelope,
        payload := body.drop envelopeBytes } = body := by
    rw [frameBody, hencoded, List.take_append_drop]
  refine ⟨hwhole, (encodeFrame_eq_ok_iff _).mpr ⟨⟨hkind, hflags, ?_⟩, ?_⟩⟩
  · rw [List.length_drop, hlength]
    exact Nat.sub_le_of_le_add hmost
  · rw [hpayload, List.take_add, ← hbody]
    congr 1
    refine (HeaderFields.header ?_ hheader).symm
    refine ⟨hmagic, hsize, rfl, rfl, ?_, ?_, ?_, hbodyCrc.symm, hcrc.symm, hreserved, hsession.symm⟩
    · exact UInt16.toNat_inj.mp hmajor
    · exact UInt16.toNat_inj.mp (Nat.le_zero.mp hminor)
    · rw [hlength, hbodyBytes]
      exact (UInt32.ofNat_toNat).symm

/-- Behind the header of a legal frame, only the body is left to be checked. -/
theorem decodeFrame_of_header (hlegal : FrameLegal frame) (rest : Text) :
    decodeFrame (frameHeader frame (frameBody frame) ++ rest) =
      require ((frameBody frame).length ≤ rest.length)
        (.error .frameTruncatedPayload (text "frame body is incomplete"))
        (require (crc32 (rest.take (frameBody frame).length) = crc32 (frameBody frame))
          (.error .frameIntegrityMismatch (text "frame body CRC32 does not match"))
          ((decodeEnvelope frame.envelope.session (rest.take (frameBody frame).length)).map
            fun envelope =>
              ({ kind := frame.kind
                 flags := frame.flags
                 envelope := envelope
                 payload := (rest.take (frameBody frame).length).drop envelopeBytes },
                headerBytes + (frameBody frame).length))) := by
  set body := frameBody frame with hbody
  have hlength : body.length = envelopeBytes + frame.payload.length := length_frameBody frame
  have hpayload : frame.payload.length ≤ Limits.framePayloadMaxBytes := hlegal.payload
  have hword : body.length.toUInt32.toNat = body.length := by
    rw [Limits.framePayloadMaxBytes] at hpayload
    rw [hlength, envelopeBytes]
    exact Nat.mod_eq_of_lt (by omega)
  have hfields := headerFields_of_header frame body rest
  have hfront : (frameHeader frame body ++ rest).length = headerBytes + rest.length := by
    simp
  simp only [decodeFrame, hfields.bodyBytes, hword, hfields.bodyCrc, hfields.headerCrc,
    hfields.magic, hfields.size, hfields.kind, hfields.flags, hfields.major, hfields.minor,
    hfields.reserved, hfields.session, hfront, List.drop_left' (length_frameHeader frame body),
    Nat.add_le_add_iff_left]
  rw [require_pos (by rw [headerBytes]; omega), require_pos (Nat.le_add_right _ _),
    require_pos trivial, require_pos trivial, require_pos trivial, require_pos (by decide),
    require_pos (by decide), require_pos trivial, require_pos hlegal.flags,
    require_pos hlegal.kind, require_pos (by omega), require_pos (by omega)]

theorem decodeFrame_of_encodeFrame {bytes : Text} (h : encodeFrame frame = .ok bytes)
    (rest : Text) : decodeFrame (bytes ++ rest) = .ok (frame, bytes.length) := by
  obtain ⟨hlegal, rfl⟩ := (encodeFrame_eq_ok_iff frame).mp h
  have henvelope : decodeEnvelope frame.envelope.session (frameBody frame) =
      .ok frame.envelope := by
    refine decodeEnvelope_eq_ok_iff.mpr ⟨?_, rfl, ?_⟩
    · rw [length_frameBody]
      exact Nat.le_add_right _ _
    · rw [frameBody, List.take_left' (length_encodeEnvelope _)]
  rw [List.append_assoc, decodeFrame_of_header hlegal, List.take_left' rfl,
    require_pos (by simp), require_pos rfl, henvelope]
  simp [Except.map, frameBody, List.drop_left' (length_encodeEnvelope _)]

/-- Decoding accepts exactly the encodings: the bytes it uses are those of the frame. -/
theorem decodeFrame_eq_ok_iff :
    decodeFrame data = .ok (frame, consumed) ↔
      consumed ≤ data.length ∧ encodeFrame frame = .ok (data.take consumed) := by
  constructor
  · exact encodeFrame_of_decodeFrame
  · rintro ⟨hconsumed, hencoded⟩
    have hdecoded := decodeFrame_of_encodeFrame hencoded (data.drop consumed)
    rwa [List.take_append_drop, List.length_take, Nat.min_eq_left hconsumed] at hdecoded

end Decoding

section Damage

variable {data damaged : Text} {frame other : Frame} {position consumed : Nat}

/-- What a decoded frame says of the two checksums and of the reserved field. -/
structure FrameChecks (data : Text) : Prop where
  header : headerBytes ≤ data.length
  headerCrc : readU32 (data.drop 22) = crc32 (data.take 22)
  reserved : readU16 (data.drop 26) = 0
  bodyCrc : readU32 (data.drop 18) =
    crc32 ((data.drop headerBytes).take (readU32 (data.drop 14)).toNat)

theorem frameChecks_of_decodeFrame (h : decodeFrame data = .ok (frame, consumed)) :
    FrameChecks data := by
  simp only [decodeFrame, require_eq_ok_iff] at h
  obtain ⟨-, hheader, -, -, hcrc, -, -, hreserved, -, -, -, -, -, hbodyCrc, -⟩ := h
  exact ⟨hheader, hcrc.symm, hreserved, hbodyCrc.symm⟩

theorem consumed_of_decodeFrame (h : decodeFrame data = .ok (frame, consumed)) :
    consumed = headerBytes + (readU32 (data.drop 14)).toNat := by
  simp only [decodeFrame, require_eq_ok_iff] at h
  obtain ⟨-, -, -, -, -, -, -, -, -, -, -, -, -, -, h⟩ := h
  obtain ⟨envelope, -, hframe⟩ := map_eq_ok_iff.mp h
  cases hframe
  rfl

/-- The checks of a frame do not survive a change of a byte before the session. -/
theorem not_frameChecks_of_header_damage (hchecks : FrameChecks data)
    (h : DifferAt position data damaged) (hposition : position < 28) : ¬ FrameChecks damaged := by
  intro hdamaged
  have hdata : 44 ≤ data.length := hchecks.header
  by_cases hchecked : position < 22
  · -- the checksum of the header covers the byte
    apply crc32_ne_of_differAt (h.take hchecked)
    rw [← hdamaged.headerCrc, h.drop_eq hchecked, hchecks.headerCrc]
  · rw [Nat.not_lt] at hchecked
    have htail : DifferAt (position - 22) (data.drop 22) (damaged.drop 22) := h.drop hchecked
    by_cases hstored : position < 26
    · -- the byte is in the stored checksum
      apply readU32_ne_of_differAt htail (by rw [List.length_drop]; omega) (by omega)
      rw [hdamaged.headerCrc, h.take_eq hchecked, hchecks.headerCrc]
    · rw [Nat.not_lt] at hstored
      apply readU16_ne_of_differAt (h.drop hstored) (by rw [List.length_drop]; omega) (by omega)
      rw [hdamaged.reserved, hchecks.reserved]

/-- Nor a change of a byte of the body. -/
theorem not_frameChecks_of_body_damage (hchecks : FrameChecks data)
    (h : DifferAt position data damaged) (hbody : headerBytes ≤ position)
    (hwhole : position < headerBytes + (readU32 (data.drop 14)).toNat) : ¬ FrameChecks damaged := by
  intro hdamaged
  have hdata : 44 ≤ data.length := hchecks.header
  have hplace : 44 ≤ position := hbody
  have hfield : ∀ i, i + 4 ≤ 44 → readU32 (damaged.drop i) = readU32 (data.drop i) := by
    intro i hi
    have hagree : (damaged.drop i).take 4 = (data.drop i).take 4 := by
      rw [List.take_drop, List.take_drop, h.take_eq (by omega)]
    apply UInt32.toNat_inj.mp
    rw [readU32_toNat (by rw [List.length_drop, h.length]; omega), hagree,
      readU32_toNat (by rw [List.length_drop]; omega)]
  apply crc32_ne_of_differAt ((h.drop hbody).take (n := (readU32 (data.drop 14)).toNat) (by omega))
  rw [← hfield 14 (by decide), ← hdamaged.bodyCrc, hfield 18 (by decide), hfield 14 (by decide),
    hchecks.bodyCrc]

/-- A changed session identity makes the encoding of another frame. -/
theorem encodeFrame_of_session_damage (hencoded : encodeFrame frame = .ok data)
    (h : DifferAt position data damaged) (hfirst : 28 ≤ position) (hlast : position < headerBytes) :
    encodeFrame
        { frame with
          envelope := { frame.envelope with session := readIdentity (damaged.drop 28) } } =
      .ok damaged := by
  obtain ⟨hlegal, hdata⟩ := (encodeFrame_eq_ok_iff frame).mp hencoded
  have hlength : 44 ≤ damaged.length := by
    rw [h.length, hdata, List.length_append, length_frameHeader]
    exact Nat.le_add_right _ _
  have hfront : damaged.take 28 = checkedHeader frame (frameBody frame) ++
      putU32 (crc32 (checkedHeader frame (frameBody frame))) ++ putU16 0 := by
    rw [h.take_eq hfirst, hdata, frameHeader, List.append_assoc _ _ (frameBody frame)]
    exact List.take_left' rfl
  have hbody : damaged.drop headerBytes = frameBody frame := by
    rw [h.drop_eq hlast, hdata, List.drop_left' (length_frameHeader _ _)]
  have hsession : putIdentity (readIdentity (damaged.drop 28)) = (damaged.drop 28).take 16 :=
    putIdentity_readIdentity (by rw [List.length_drop]; omega)
  refine (encodeFrame_eq_ok_iff _).mpr ⟨⟨hlegal.kind, hlegal.flags, hlegal.payload⟩, ?_⟩
  calc
    damaged = damaged.take headerBytes ++ damaged.drop headerBytes :=
      (List.take_append_drop _ _).symm
    _ = damaged.take 28 ++ (damaged.drop 28).take 16 ++ frameBody frame := by
      rw [hbody, ← List.take_add]
      rfl
    _ = checkedHeader frame (frameBody frame) ++
          putU32 (crc32 (checkedHeader frame (frameBody frame))) ++ putU16 0 ++
          putIdentity (readIdentity (damaged.drop 28)) ++ frameBody frame := by
      rw [hfront, hsession]

/--
A change of one byte of an encoded frame is detected exactly when the byte is
not one of the sixteen of the session identity.
-/
theorem frame_damage_detected_iff (hencoded : encodeFrame frame = .ok data)
    (h : DifferAt position data damaged) :
    (∃ status, decodeFrame damaged = .error status) ↔ ¬ (28 ≤ position ∧ position < 44) := by
  have hdecoded : decodeFrame data = .ok (frame, data.length) := by
    simpa using decodeFrame_of_encodeFrame hencoded []
  have hchecks : FrameChecks data := frameChecks_of_decodeFrame hdecoded
  constructor
  · rintro ⟨status, hrefused⟩ ⟨hfirst, hlast⟩
    have hother := decodeFrame_of_encodeFrame
      (encodeFrame_of_session_damage hencoded h hfirst hlast) []
    rw [List.append_nil, hrefused] at hother
    cases hother
  · intro hplace
    cases hdamaged : decodeFrame damaged with
    | error status => exact ⟨status, rfl⟩
    | ok found =>
      exfalso
      have hkept : FrameChecks damaged := frameChecks_of_decodeFrame hdamaged
      by_cases hheader : position < 28
      · exact not_frameChecks_of_header_damage hchecks h hheader hkept
      · have hbody : headerBytes ≤ position := by
          rw [headerBytes]
          omega
        have hwhole : position < headerBytes + (readU32 (data.drop 14)).toNat :=
          consumed_of_decodeFrame hdecoded ▸ h.lt_length
        exact not_frameChecks_of_body_damage hchecks h hbody hwhole hkept

/-- The bytes of the hello frame. -/
def helloBytes : Text :=
  frameHeader helloFrame (frameBody helloFrame) ++ frameBody helloFrame

theorem encodeFrame_helloFrame : encodeFrame helloFrame = .ok helloBytes := by
  exact (encodeFrame_eq_ok_iff _).mpr ⟨⟨by decide, by decide, by decide⟩, rfl⟩

set_option maxRecDepth 2048 in
/-- A hello whose first session byte is changed is accepted, under another session. -/
theorem session_damage_lands :
    encodeFrame helloFrame = .ok helloBytes ∧
      DifferAt 28 helloBytes (helloBytes.set 28 77) ∧
      decodeFrame (helloBytes.set 28 77) =
        .ok ({ helloFrame with envelope := { session := ⟨77, 0⟩ } }, helloBytes.length) := by
  refine ⟨encodeFrame_helloFrame, differAt_set (a := 0) ?_ (by decide), ?_⟩
  · decide +kernel
  · decide +kernel

set_option maxRecDepth 2048 in
/-- A hello whose kind is changed is refused. -/
theorem frame_damage_detected_of_kind :
    DifferAt 6 helloBytes (helloBytes.set 6 3) ∧
      ∃ status, decodeFrame (helloBytes.set 6 3) = .error status := by
  have hdiffer : DifferAt 6 helloBytes (helloBytes.set 6 3) :=
    differAt_set (a := 1) (by decide +kernel) (by decide)
  exact ⟨hdiffer, (frame_damage_detected_iff encodeFrame_helloFrame hdiffer).mpr (by decide)⟩

end Damage

end TrafficFabric
