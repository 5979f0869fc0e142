import TrafficFabric.Frames
import TrafficFabric.Transport

/-!
# Streams of frames

A stream of frames reaches a connection in reads that know nothing of where a
frame ends.  A call of the receive loop reads until a whole frame stands at the
front of the buffer and leaves what lies behind it for the next call.

Until then the buffer is a proper part of the front of an encoded frame, which
decodes to nothing but a truncation, and it is too short to reach the bound of
the loop: that bound lies one read and a header above the largest payload, and
a read of 48 bytes makes up for the envelope.
-/

namespace TrafficFabric

open Lib

/-- The number of bytes a decoding reports as used; a refused one uses none. -/
def decodeConsumed (data : Text) : Nat :=
  match decodeFrame data with
  | .ok (_, consumed) => consumed
  | .error _ => 0

section Parts

variable {frame : Frame} {bytes : Text}

/-- A proper part of the front of an encoded frame decodes to a truncation. -/
theorem decodeFrame_of_part (hencoded : encodeFrame frame = .ok bytes) {part more : Text}
    (hbytes : bytes = part ++ more) (hpart : part ≠ []) (hmore : more ≠ []) :
    ∃ status, decodeFrame part = .error status ∧ Connection.isTruncation status = true := by
  obtain ⟨hlegal, hwhole⟩ := (encodeFrame_eq_ok_iff frame).mp hencoded
  have hlength : part.length + more.length = headerBytes + (frameBody frame).length := by
    rw [← List.length_append, ← hbytes, hwhole, List.length_append, length_frameHeader]
  have hpositive : 0 < more.length := List.length_pos_iff.mpr hmore
  by_cases hheader : headerBytes ≤ part.length
  · have hfront : part = frameHeader frame (frameBody frame) ++ part.drop headerBytes := by
      have htaken : part.take headerBytes = bytes.take headerBytes := by
        rw [hbytes, List.take_append_of_le_length hheader]
      rw [hwhole, List.take_left' (length_frameHeader _ _)] at htaken
      rw [← htaken, List.take_append_drop]
    refine ⟨.error .frameTruncatedPayload (text "frame body is incomplete"), ?_, by
      simp [Connection.isTruncation]⟩
    rw [hfront, decodeFrame_of_header hlegal, require_neg]
    rw [List.length_drop]
    omega
  · refine ⟨.error .frameTruncatedHeader (text "frame header is incomplete"), ?_, by
      simp [Connection.isTruncation]⟩
    have hsome : part.length ≠ 0 := by simpa using hpart
    rw [decodeFrame, require_pos hsome, require_neg hheader]

/-- An encoded frame is no longer than the header, the envelope and the largest payload. -/
theorem length_le_of_encodeFrame (hencoded : encodeFrame frame = .ok bytes) :
    bytes.length ≤ headerBytes + envelopeBytes + Limits.framePayloadMaxBytes := by
  obtain ⟨hlegal, rfl⟩ := (encodeFrame_eq_ok_iff frame).mp hencoded
  have hpayload := hlegal.payload
  rw [List.length_append, length_frameHeader, length_frameBody]
  omega

end Parts

namespace Connection

/--
One call of the receive loop.  Each read finds the next bytes of the stream;
after the last of them the peer has closed the connection.
-/
def receiveFrame (connection : Connection) :
    List Text → Except Status (Frame × Connection × List Text)
  | [] =>
    match connection.receivePass .peerClosed with
    | .frame frame connection => .ok (frame, connection, [])
    | .ended status => .error status
    -- a closed peer never leaves the loop waiting
    | .waiting _ => .error (.error .transportClosed (text "peer closed the connection"))
  | read :: reads =>
    match connection.receivePass (.bytes read) with
    | .frame frame connection => .ok (frame, connection, read :: reads)
    | .ended status => .error status
    | .waiting connection => receiveFrame connection reads

/-- A number of calls, one after another. -/
def receiveFrames :
    Nat → Connection → List Text → Except Status (List Frame × Connection × List Text)
  | 0, connection, reads => .ok ([], connection, reads)
  | count + 1, connection, reads => do
      let (frame, connection, reads) ← connection.receiveFrame reads
      let (frames, connection, reads) ← receiveFrames count connection reads
      return (frame :: frames, connection, reads)

end Connection

/-- The concatenated encodings of frames. -/
def encodeFrames : List Frame → Except Status Text
  | [] => .ok []
  | frame :: frames => do
      let bytes ← encodeFrame frame
      return bytes ++ (← encodeFrames frames)

section Receiving

variable {connection : Connection} {frame : Frame} {bytes more : Text}

/-- A pass over a buffer that begins with a whole frame returns the frame. -/
theorem receivePass_of_whole (hencoded : encodeFrame frame = .ok bytes)
    (hbuffer : connection.readBuffer = bytes ++ more) (arrival : Arrival) :
    connection.receivePass arrival = .frame frame { connection with readBuffer := more } := by
  have hdecoded : decodeFrame connection.readBuffer = .ok (frame, bytes.length) := by
    rw [hbuffer]
    exact decodeFrame_of_encodeFrame hencoded more
  have hsome : connection.readBuffer ≠ [] := by
    intro hempty
    rw [hempty] at hdecoded
    cases hdecoded
  simp only [Connection.receivePass, if_neg hsome, hdecoded]
  rw [hbuffer, List.drop_left]

/-- A pass over a part of a frame takes the next read into the buffer. -/
theorem receivePass_of_part (hencoded : encodeFrame frame = .ok (connection.readBuffer ++ more))
    (hmore : more ≠ []) (hopen : connection.released = false)
    (hcapacity : envelopeBytes ≤ connection.readCapacity) {read : Text} (hread : read ≠ [])
    (hsize : read.length ≤ connection.readCapacity) :
    connection.receivePass (.bytes read) =
      .waiting { connection with readBuffer := connection.readBuffer ++ read } := by
  have hbound : ¬ connection.readCapacity + Limits.framePayloadMaxBytes + headerBytes ≤
      connection.readBuffer.length := by
    have hmost := length_le_of_encodeFrame hencoded
    have hpositive : 0 < more.length := List.length_pos_iff.mpr hmore
    rw [List.length_append] at hmost
    omega
  have hraw : connection.receiveRaw (.bytes read) = .ok read := by
    simp [Connection.receiveRaw, hopen, List.take_of_length_le hsize, hread]
  have hmoreRead : connection.readMore (.bytes read) =
      .waiting { connection with readBuffer := connection.readBuffer ++ read } := by
    simp only [Connection.readMore, if_neg hbound, hraw]
  unfold Connection.receivePass
  split
  · exact hmoreRead
  · rename_i hsome
    obtain ⟨status, hrefused, htruncated⟩ := decodeFrame_of_part hencoded rfl hsome hmore
    simp only [hrefused, htruncated, if_true, hmoreRead]

/--
One call returns the next frame of the stream.  The induction is on the reads
still to come; the buffer and these reads always make up the rest of the stream.
-/
theorem receiveFrame_of_stream (hencoded : encodeFrame frame = .ok bytes)
    (hopen : connection.released = false) (hcapacity : envelopeBytes ≤ connection.readCapacity)
    {reads : List Text} (hreads : ∀ read ∈ reads, read ≠ [] ∧ read.length ≤ connection.readCapacity)
    (hstream : connection.readBuffer ++ reads.flatten = bytes ++ more) :
    ∃ buffer left, connection.receiveFrame reads =
        .ok (frame, { connection with readBuffer := buffer }, left) ∧
      buffer ++ left.flatten = more ∧ ∀ read ∈ left, read ∈ reads := by
  induction reads generalizing connection with
  | nil =>
    rw [List.flatten_nil, List.append_nil] at hstream
    refine ⟨more, [], ?_, by simp, by simp⟩
    simp only [Connection.receiveFrame, receivePass_of_whole hencoded hstream]
  | cons read reads ih =>
    by_cases hwhole : bytes.length ≤ connection.readBuffer.length
    · obtain ⟨buffer, hbuffer, hrest⟩ : ∃ buffer, connection.readBuffer = bytes ++ buffer ∧
          buffer ++ (read :: reads).flatten = more := by
        obtain ⟨buffer, hbuffer⟩ :=
          List.prefix_of_prefix_length_le ⟨more, rfl⟩ ⟨_, hstream⟩ hwhole
        refine ⟨buffer, hbuffer.symm, ?_⟩
        rw [← hbuffer, List.append_assoc] at hstream
        exact List.append_cancel_left hstream
      refine ⟨buffer, read :: reads, ?_, hrest, fun _ h => h⟩
      simp only [Connection.receiveFrame, receivePass_of_whole hencoded hbuffer]
    · obtain ⟨missing, hmissing⟩ :=
        List.prefix_of_prefix_length_le ⟨_, hstream⟩ ⟨more, rfl⟩ (by omega)
      have hlack : missing ≠ [] := by
        rintro rfl
        rw [List.append_nil] at hmissing
        exact hwhole (Nat.le_of_eq (congrArg List.length hmissing.symm))
      obtain ⟨hsome, hsize⟩ := hreads read List.mem_cons_self
      have hpass := receivePass_of_part (hmissing ▸ hencoded) hlack hopen hcapacity hsome hsize
      obtain ⟨buffer, left, hreceived, hrest, hleft⟩ :=
        @ih { connection with readBuffer := connection.readBuffer ++ read } hopen hcapacity
          (fun next hnext => hreads next (List.mem_cons_of_mem read hnext))
          (by rw [← hstream, List.flatten_cons, ← List.append_assoc])
      refine ⟨buffer, left, ?_, hrest, fun r hr => List.mem_cons_of_mem read (hleft r hr)⟩
      simp only [Connection.receiveFrame, hpass]
      exact hreceived

/-- As many calls as there are frames return the frames and use up the stream. -/
theorem receiveFrames_of_stream {frames : List Frame} (hencoded : encodeFrames frames = .ok bytes)
    (hopen : connection.released = false) (hcapacity : envelopeBytes ≤ connection.readCapacity)
    {reads : List Text} (hreads : ∀ read ∈ reads, read ≠ [] ∧ read.length ≤ connection.readCapacity)
    (hstream : connection.readBuffer ++ reads.flatten = bytes) :
    connection.receiveFrames frames.length reads =
      .ok (frames, { connection with readBuffer := [] }, []) := by
  induction frames generalizing connection bytes reads with
  | nil =>
    cases hencoded
    obtain ⟨hbuffer, hflatten⟩ := List.append_eq_nil_iff.mp hstream
    have hnone : reads = [] := by
      apply List.eq_nil_iff_forall_not_mem.mpr
      intro read hread
      exact (hreads read hread).1 (List.flatten_eq_nil_iff.mp hflatten read hread)
    subst hnone
    rw [← hbuffer]
    rfl
  | cons _ _ ih =>
    obtain ⟨first, hfirst, hencoded⟩ := bind_eq_ok_iff.mp hencoded
    obtain ⟨rest, hrest, hencoded⟩ := bind_eq_ok_iff.mp hencoded
    cases hencoded
    obtain ⟨buffer, left, hreceived, hmore, hleft⟩ :=
      receiveFrame_of_stream hfirst hopen hcapacity hreads hstream
    have hothers := @ih { connection with readBuffer := buffer } rest hrest hopen
      hcapacity left (fun read hread => hreads read (hleft read hread)) hmore
    simp only [List.length_cons, Connection.receiveFrames, hreceived, bind, Except.bind, hothers]
    rfl

/-- At the end of the stream the next call reports that the peer has closed. -/
theorem receiveFrame_at_end (hempty : connection.readBuffer = [])
    (hopen : connection.released = false) :
    connection.receiveFrame [] =
      .error (.error .transportClosed (text "peer closed the connection")) := by
  have hbound : ¬ connection.readCapacity + Limits.framePayloadMaxBytes + headerBytes ≤
      connection.readBuffer.length := by
    simp [hempty, headerBytes]
  simp only [Connection.receiveFrame, Connection.receivePass, if_pos hempty,
    Connection.readMore, if_neg hbound, Connection.receiveRaw, hopen]
  simp [hempty]

/--
Streams of frames reassemble exactly.  Whatever the reads of at least 48 bytes
of capacity cut a stream into, the calls return its frames in order, and only
the call after the last one reports the end.  Every proper part of the front of
an encoded frame decodes to a truncation that uses no bytes, and whatever
decodes is the encoding of what it decodes to.
-/
theorem frame_streams_reassemble :
    (∀ (frames : List Frame) (reads : List Text) (capacity : Nat),
      encodeFrames frames = .ok reads.flatten →
      (∀ read ∈ reads, read ≠ [] ∧ read.length ≤ capacity) →
      48 ≤ capacity →
      ∃ connection,
        Connection.receiveFrames frames.length { readCapacity := capacity } reads =
          .ok (frames, connection, []) ∧
        connection.receiveFrame [] =
          .error (.error .transportClosed (text "peer closed the connection"))) ∧
    (∀ (frame : Frame) (part more : Text),
      encodeFrame frame = .ok (part ++ more) → part ≠ [] → more ≠ [] →
      ∃ status, decodeFrame part = .error status ∧
        (status.code = .frameTruncatedHeader ∨ status.code = .frameTruncatedPayload) ∧
        decodeConsumed part = 0) ∧
    (∀ (data : Text) (frame : Frame) (consumed : Nat),
      decodeFrame data = .ok (frame, consumed) →
      encodeFrame frame = .ok (data.take consumed)) := by
  refine ⟨?_, ?_, ?_⟩
  · intro frames reads capacity hencoded hreads hcapacity
    refine ⟨{ readCapacity := capacity }, ?_, receiveFrame_at_end rfl rfl⟩
    exact @receiveFrames_of_stream { readCapacity := capacity } _ _ hencoded rfl hcapacity _
      hreads rfl
  · intro frame part more hencoded hpart hmore
    obtain ⟨status, hrefused, htruncated⟩ := decodeFrame_of_part hencoded rfl hpart hmore
    refine ⟨status, hrefused, ?_, by simp [decodeConsumed, hrefused]⟩
    simpa [Connection.isTruncation] using htruncated
  · intro data frame consumed hdecoded
    exact (decodeFrame_eq_ok_iff.mp hdecoded).2

/-- Two hellos in three reads, the second of them with the end of one and the front of the other. -/
theorem hello_stream_reassembles :
    let tagged : Frame := { helloFrame with envelope := { session := ⟨77, 0⟩ } }
    let bytes := frameHeader tagged (frameBody tagged) ++ frameBody tagged
    ∃ connection,
      Connection.receiveFrames 2 { readCapacity := 96 }
          [helloBytes.take 64, helloBytes.drop 64 ++ bytes.take 50, bytes.drop 50] =
        .ok ([helloFrame, tagged], connection, []) ∧
      connection.receiveFrame [] =
        .error (.error .transportClosed (text "peer closed the connection")) := by
  intro tagged bytes
  have htagged : encodeFrame tagged = .ok bytes :=
    (encodeFrame_eq_ok_iff _).mpr ⟨⟨by decide, by decide, by decide⟩, rfl⟩
  have hencoded : encodeFrames [helloFrame, tagged] = .ok (helloBytes ++ bytes) := by
    simp [encodeFrames, encodeFrame_helloFrame, htagged, bind, Except.bind, pure, Except.pure]
  refine frame_streams_reassemble.1 [helloFrame, tagged] _ 96 ?_ (by decide) (by decide)
  rw [hencoded]
  nth_rewrite 1 [← helloBytes.take_append_drop 64, ← bytes.take_append_drop 50]
  simp only [List.flatten_cons, List.flatten_nil, List.append_nil, List.append_assoc]

end Receiving

end TrafficFabric
