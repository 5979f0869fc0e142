import TrafficFabric.Protocol

/-!
# The receiving side of a connection

A connection keeps the bytes that have arrived and not been used.  A pass of
the receive loop first decodes a frame from the front of these bytes, and only
when they are too few does it read more.  What a read finds is decided by the
peer and the operating system, so it is an input of the pass.

Shutting a socket down keeps its descriptor and leaves the received bytes where
they are: the loop still decodes what is buffered, and the operating system may
still deliver what was on its way.  Only a release for teardown makes a read
fail.
-/

namespace TrafficFabric

/-- What one read of the socket finds. -/
inductive Arrival where
  | idle
  | bytes (available : Text)
  | peerClosed
  | failed (message : Text)
deriving DecidableEq, Repr

structure Connection where
  readBuffer : Text := []
  readCapacity : Nat := Limits.ioBufferBytes
  shutDown : Bool := false
  released : Bool := false
deriving DecidableEq, Repr

namespace Connection

def shutdownSocket (connection : Connection) : Connection :=
  if connection.released then connection else { connection with shutDown := true }

def releaseForTeardown (connection : Connection) : Connection :=
  { connection with released := true }

/-- One read of at most the capacity. -/
def receiveRaw (connection : Connection) (arrival : Arrival) : Except Status Text :=
  if connection.released then
    .error (.error .transportClosed (text "connection is closed"))
  else
    match arrival with
    | .idle => .error (.error .transportTimeout (text "no bytes arrived within the poll interval"))
    | .bytes available =>
      let received := available.take connection.readCapacity
      if received = [] then
        .error (.error .transportClosed (text "peer closed the connection"))
      else
        .ok received
    | .peerClosed => .error (.error .transportClosed (text "peer closed the connection"))
    | .failed message => .error (.error .transportReceiveFailed message)

/-- Whether a decoding failed only because bytes are missing. -/
def isTruncation (status : Status) : Bool :=
  status.code == .frameTruncatedHeader || status.code == .frameTruncatedPayload

/-- What a pass of the receive loop leads to. -/
inductive Received where
  | frame (frame : Frame) (connection : Connection)
  | waiting (connection : Connection)
  | ended (status : Status)
deriving DecidableEq, Repr

/-- Reads more bytes into a buffer that holds no whole frame. -/
def readMore (connection : Connection) (arrival : Arrival) : Received :=
  if connection.readCapacity + Limits.framePayloadMaxBytes + headerBytes ≤
      connection.readBuffer.length then
    .ended (.error .frameLengthOutOfRange
      (text "receive buffer exceeded its bound without a frame"))
  else
    match connection.receiveRaw arrival with
    | .ok received => .waiting { connection with readBuffer := connection.readBuffer ++ received }
    | .error status =>
      if status.code = .transportTimeout then
        .waiting connection
      else if status.code = .transportClosed ∧ connection.readBuffer ≠ [] then
        .ended (.error .frameTruncatedPayload (text "peer closed the connection mid frame"))
      else
        .ended status

/-- One pass of the receive loop: a buffered frame first, more bytes otherwise. -/
def receivePass (connection : Connection) (arrival : Arrival) : Received :=
  if connection.readBuffer = [] then
    connection.readMore arrival
  else
    match decodeFrame connection.readBuffer with
    | .ok (frame, consumed) =>
      .frame frame { connection with readBuffer := connection.readBuffer.drop consumed }
    | .error status => if isTruncation status then connection.readMore arrival else .ended status

/-- A whole frame is at the front of the buffer. -/
def HoldsFrame (connection : Connection) : Prop :=
  ∃ frame consumed, decodeFrame connection.readBuffer = .ok (frame, consumed)

instance (connection : Connection) : Decidable connection.HoldsFrame :=
  match h : decodeFrame connection.readBuffer with
  | .ok (frame, consumed) => isTrue ⟨frame, consumed, h⟩
  | .error _ => isFalse (by simp [HoldsFrame, h])

/-- Reading more returns no frame: it waits, with the bytes it found, or it ends. -/
theorem readMore_cases (connection : Connection) (arrival : Arrival) :
    connection.readMore arrival = .waiting connection ∨
      (∃ received, connection.receiveRaw arrival = .ok received ∧
        connection.readMore arrival =
          .waiting { connection with readBuffer := connection.readBuffer ++ received }) ∨
      ∃ status, connection.readMore arrival = .ended status := by
  unfold readMore
  split
  · exact .inr (.inr ⟨_, rfl⟩)
  · cases hraw : connection.receiveRaw arrival with
    | ok received => exact .inr (.inl ⟨received, rfl, rfl⟩)
    | error status =>
      simp only
      split
      · exact .inl rfl
      · split
        · exact .inr (.inr ⟨_, rfl⟩)
        · exact .inr (.inr ⟨_, rfl⟩)

/-- Everything a pass of the receive loop can lead to. -/
theorem receivePass_cases (connection : Connection) (arrival : Arrival) :
    (∃ frame consumed, decodeFrame connection.readBuffer = .ok (frame, consumed) ∧
        connection.receivePass arrival =
          .frame frame { connection with readBuffer := connection.readBuffer.drop consumed }) ∨
      (¬ connection.HoldsFrame ∧
        (connection.receivePass arrival = .waiting connection ∨
          (∃ received, connection.receiveRaw arrival = .ok received ∧
            connection.receivePass arrival =
              .waiting { connection with readBuffer := connection.readBuffer ++ received }) ∨
          ∃ status, connection.receivePass arrival = .ended status)) := by
  unfold receivePass HoldsFrame
  split
  · rename_i hempty
    refine .inr ⟨?_, readMore_cases connection arrival⟩
    rintro ⟨frame, consumed, hdecoded⟩
    rw [hempty] at hdecoded
    cases hdecoded
  · cases hdecoded : decodeFrame connection.readBuffer with
    | ok decoded => exact .inl ⟨decoded.1, decoded.2, rfl, rfl⟩
    | error status =>
      refine .inr ⟨by simp, ?_⟩
      simp only
      split
      · exact readMore_cases connection arrival
      · exact .inr (.inr ⟨status, rfl⟩)

end Connection

end TrafficFabric
