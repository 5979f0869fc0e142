import TrafficFabric.Basic
import TrafficFabric.Lib.Checks

/-!
# The framed wire protocol

A frame is a 44 byte header and a body: the 48 bytes of the envelope and the
payload.  Every integer is little endian.  The header is protected by a CRC-32
of its first 22 bytes and the body by one of its own; the session identity in
the last 16 bytes of the header is covered by neither.

A decoder reads one frame from the front of a buffer and reports how many bytes
it used.  A buffer that is only too short is told apart from one that can never
become a frame.
-/

namespace TrafficFabric

open Lib

section Integers

/-- The byte at an index that the caller has checked to be within the data. -/
def byteAt (data : Text) (index : Nat) : UInt8 :=
  data.getD index 0

def putU16 (value : UInt16) : Text :=
  [value.toUInt8, (value >>> 8).toUInt8]

def putU32 (value : UInt32) : Text :=
  (List.range 4).map fun index => (value >>> (UInt32.ofNat (index * 8))).toUInt8

def putU64 (value : UInt64) : Text :=
  (List.range 8).map fun index => (value >>> (UInt64.ofNat (index * 8))).toUInt8

def readU16 (data : Text) : UInt16 :=
  (byteAt data 0).toUInt16 ||| ((byteAt data 1).toUInt16 <<< 8)

def readU32 (data : Text) : UInt32 :=
  [3, 2, 1, 0].foldl (fun value index => (value <<< 8) ||| (byteAt data index).toUInt32) 0

def readU64 (data : Text) : UInt64 :=
  [7, 6, 5, 4, 3, 2, 1, 0].foldl
    (fun value index => (value <<< 8) ||| (byteAt data index).toUInt64) 0

def putIdentity (value : Identity) : Text :=
  putU64 value.hi ++ putU64 value.lo

def readIdentity (data : Text) : Identity :=
  ⟨readU64 data, readU64 (data.drop 8)⟩

end Integers

section Checksum

/-- One entry of the table of the reflected polynomial. -/
def crcTable (index : UInt32) : UInt32 :=
  (List.range 8).foldl
    (fun value _ =>
      if value &&& 1 ≠ 0 then (value >>> 1) ^^^ 0xEDB88320 else value >>> 1)
    index

def crc32Update (crc : UInt32) (data : Text) : UInt32 :=
  ~~~(data.foldl
    (fun crc byte => crcTable ((crc ^^^ byte.toUInt32) &&& 0xFF) ^^^ (crc >>> 8))
    (~~~crc))

def crc32 (data : Text) : UInt32 :=
  crc32Update 0 data

end Checksum

inductive MessageKind where
  | invalid
  | hello
  | helloAck
  | heartbeat
  | registerCollective
  | registerAck
  | beginAttempt
  | attemptAck
  | planFlowGroup
  | flowGroupDecision
  | cancelCollective
  | retireCollective
  | lifecycleAck
  | ingestEvidence
  | evidenceAck
  | inspectRequest
  | inspectResponse
  | explainRequest
  | explainResponse
  | errorResponse
  | installPolicy
  | installPolicyAck
  | heartbeatAck
  | shutdown
  | shutdownAck
deriving DecidableEq, Repr

namespace MessageKind

/-- The kinds in the order of their wire values. -/
def all : List MessageKind :=
  [.invalid, .hello, .helloAck, .heartbeat, .registerCollective, .registerAck, .beginAttempt,
    .attemptAck, .planFlowGroup, .flowGroupDecision, .cancelCollective, .retireCollective,
    .lifecycleAck, .ingestEvidence, .evidenceAck, .inspectRequest, .inspectResponse,
    .explainRequest, .explainResponse, .errorResponse, .installPolicy, .installPolicyAck,
    .heartbeatAck, .shutdown, .shutdownAck]

/-- The kind of a wire value; a value that is not defined is the invalid kind. -/
def ofRaw (raw : UInt16) : MessageKind :=
  all.getD raw.toNat .invalid

def toRaw (kind : MessageKind) : UInt16 :=
  (all.idxOf kind).toUInt16

end MessageKind

/-- Every value from 1 to 24 is a defined kind. -/
def messageKindIsKnown (raw : UInt16) : Bool :=
  decide (0 < raw) && decide (raw < 25)

def frameMagic : UInt32 := 0x46544331
def headerBytes : Nat := 44
def envelopeBytes : Nat := 48
def flagRequest : UInt16 := 0x0001
def flagResponse : UInt16 := 0x0002
def flagFinal : UInt16 := 0x0004
def flagKnownMask : UInt16 := flagRequest ||| flagResponse ||| flagFinal

/-- What a frame says about its sender. -/
structure Envelope where
  session : SessionId := {}
  incarnation : BootIncarnation := {}
  epoch : CoordinatorEpoch := {}
  frameSequence : Sequence := {}
  correlation : UInt64 := 0
deriving DecidableEq, Repr

structure Frame where
  kind : UInt16 := 0
  flags : UInt16 := 0
  envelope : Envelope := {}
  payload : Text := []
deriving DecidableEq, Repr

section Frames

/-- The envelope at the front of the body; the session travels in the header. -/
def encodeEnvelope (envelope : Envelope) : Text :=
  putIdentity envelope.incarnation ++ putIdentity envelope.epoch ++
    putU64 envelope.frameSequence.value ++ putU64 envelope.correlation

def decodeEnvelope (session : SessionId) (body : Text) : Except Status Envelope :=
  if body.length < envelopeBytes then
    .error (.error .decodeTruncated (text "frame envelope is incomplete"))
  else
    .ok
      { session := session
        incarnation := readIdentity body
        epoch := readIdentity (body.drop 16)
        frameSequence := ⟨readU64 (body.drop 32)⟩
        correlation := readU64 (body.drop 40) }

/-- The 22 bytes of the header that its checksum covers. -/
def checkedHeader (frame : Frame) (body : Text) : Text :=
  putU32 frameMagic ++ putU16 headerBytes.toUInt16 ++ putU16 frame.kind ++ putU16 frame.flags ++
    putU16 Limits.protocolMajor.toUInt16 ++ putU16 Limits.protocolMinor.toUInt16 ++
    putU32 body.length.toUInt32 ++ putU32 (crc32 body)

def encodeFrame (frame : Frame) : Except Status Text :=
  if messageKindIsKnown frame.kind = false then
    .error (.error .frameKindUnknown (text "cannot encode an unknown message kind"))
  else if frame.flags &&& ~~~flagKnownMask ≠ 0 then
    .error (.error .frameFlagsInvalid (text "frame flags carry bits this version does not define"))
  else if Limits.framePayloadMaxBytes < frame.payload.length then
    .error (.error .frameLengthOutOfRange (text "frame payload exceeds the size bound"))
  else if 0xFFFFFFFF - envelopeBytes < frame.payload.length then
    .error (.error .frameLengthArithmeticOverflow
      (text "frame length would overflow the header field"))
  else
    let body := encodeEnvelope frame.envelope ++ frame.payload
    let checked := checkedHeader frame body
    let header := checked ++ putU32 (crc32 checked) ++ putU16 0 ++
      putIdentity frame.envelope.session
    if header.length ≠ headerBytes then
      .error (.error .internalInvariant (text "frame header has an unexpected size"))
    else
      .ok (header ++ body)

/-- Decodes one frame from the front of the data and reports the bytes it used. -/
def decodeFrame (data : Text) : Except Status (Frame × Nat) :=
  require (data.length ≠ 0) (.error .transportClosed (text "no bytes are available")) <|
  require (headerBytes ≤ data.length)
    (.error .frameTruncatedHeader (text "frame header is incomplete")) <|
  require (readU32 data = frameMagic)
    (.error .frameMagicMismatch (text "frame magic does not match this protocol")) <|
  require (readU16 (data.drop 4) = headerBytes.toUInt16)
    (.error .frameLengthOutOfRange (text "frame header size field is not the defined size")) <|
  let kind := readU16 (data.drop 6)
  let flags := readU16 (data.drop 8)
  let major := readU16 (data.drop 10)
  let minor := readU16 (data.drop 12)
  let bodyBytes := (readU32 (data.drop 14)).toNat
  let bodyCrc := readU32 (data.drop 18)
  let headerCrc := readU32 (data.drop 22)
  let reserved := readU16 (data.drop 26)
  require (crc32 (data.take 22) = headerCrc)
    (.error .frameIntegrityMismatch (text "frame header CRC32 does not match")) <|
  require (major.toNat = Limits.protocolMajor)
    (.error .frameVersionUnsupported (text "frame protocol major version is not supported")) <|
  require (minor.toNat ≤ Limits.protocolMinor)
    (.error .frameVersionUnsupported
      (text "frame protocol minor version is newer than this build")) <|
  require (reserved = 0) (.error .frameFlagsInvalid (text "frame reserved field must be zero")) <|
  require (flags &&& ~~~flagKnownMask = 0)
    (.error .frameFlagsInvalid (text "frame flags carry bits this version does not define")) <|
  require (messageKindIsKnown kind = true)
    (.error .frameKindUnknown (text "frame kind is not defined by this version")) <|
  require (envelopeBytes ≤ bodyBytes)
    (.error .frameLengthOutOfRange
      (text "frame body is shorter than the envelope it must carry")) <|
  require (bodyBytes ≤ Limits.framePayloadMaxBytes + envelopeBytes)
    (.error .frameLengthOutOfRange (text "frame body exceeds the size bound")) <|
  require (headerBytes + bodyBytes ≤ data.length)
    (.error .frameTruncatedPayload (text "frame body is incomplete")) <|
  let body := (data.drop headerBytes).take bodyBytes
  require (crc32 body = bodyCrc)
    (.error .frameIntegrityMismatch (text "frame body CRC32 does not match")) <|
  (decodeEnvelope (readIdentity (data.drop 28)) body).map fun envelope =>
    ({ kind := kind
       flags := flags
       envelope := envelope
       payload := body.drop envelopeBytes },
      headerBytes + bodyBytes)

end Frames

/-- A decoder of a payload: the bytes still to be read, or why they cannot be. -/
abbrev Reader :=
  StateT Text (Except Status)

namespace Reader

/-- The next bytes of a payload. -/
def take (count : Nat) : Reader Text :=
  fun data =>
    if data.length < count then
      .error (.error .decodeTruncated (text "payload ended before the field was complete"))
    else
      .ok (data.take count, data.drop count)

def u32 : Reader UInt32 := do
  return readU32 (← take 4)

def u64 : Reader UInt64 := do
  return readU64 (← take 8)

def string (maxBytes : Nat) : Reader Text := do
  let length ← u32
  if maxBytes < length.toNat then
    throw (.error .decodeLengthOutOfRange (text "string field exceeds its bound"))
  take length.toNat

/-- Decodes a whole payload; nothing may be left. -/
def decodeOne {α : Type} (decode : Reader α) (payload : Text) : Except Status α :=
  match decode payload with
  | .error status => .error status
  | .ok (value, rest) =>
    if rest = [] then
      .ok value
    else
      .error (.error .decodeTrailingBytes (text "payload carried trailing bytes"))

end Reader

def writeString (value : Text) : Text :=
  putU32 value.length.toUInt32 ++ value

structure HelloPayload where
  clientLabel : Text := []
  clientVersion : Text := []
  clientBootMonotonicMs : UInt64 := 0
deriving DecidableEq, Repr

def encodeHello (value : HelloPayload) : Text :=
  writeString value.clientLabel ++ writeString value.clientVersion ++
    putU64 value.clientBootMonotonicMs

def decodeHello (payload : Text) : Except Status HelloPayload :=
  Reader.decodeOne
    (do
      let clientLabel ← Reader.string Limits.labelBytesMax
      let clientVersion ← Reader.string Limits.labelBytesMax
      let clientBootMonotonicMs ← Reader.u64
      return { clientLabel, clientVersion, clientBootMonotonicMs })
    payload

/-- A hello frame through the wire. -/
def helloFrame : Frame where
  kind := MessageKind.hello.toRaw
  flags := flagRequest
  payload := encodeHello { clientLabel := [112, 49], clientBootMonotonicMs := 7 }

set_option maxRecDepth 2048 in
example : ((encodeFrame helloFrame).bind decodeFrame).map Prod.fst = .ok helloFrame := by
  decide +kernel

example :
    decodeHello helloFrame.payload =
      .ok { clientLabel := [112, 49], clientBootMonotonicMs := 7 } := by
  decide

end TrafficFabric
