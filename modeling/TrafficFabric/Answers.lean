import TrafficFabric.Responses
import TrafficFabric.Frames

/-!
# Answers

The handler answers a frame through one of three senders: an error with a reason
of its own, an error with the reasons of a validation, or a payload.  A payload
that cannot be encoded is replaced by an error.  The frame that results is
counted as failed when it does not fit the bound on a frame, and nothing takes
its place.

The session thread keeps only the kind of an answer, or its error.  Here the
answer is computed with everything it says.  How an inspection is rendered is a
parameter, since its text is cut before it is sent.
-/

namespace TrafficFabric

open Lib

/-- What the handler hands to a sender. -/
inductive Answer where
  | error (code : ErrorCode) (message : Text)
  | explained (code : ErrorCode) (message : Text) (reasons : ReasonChain)
  | typed (payload : ResponsePayload)
deriving DecidableEq, Repr

/-- The frames written to a connection, as long as its writes succeed. -/
structure Outbox where
  nextSequence : UInt64 := 0
  sent : List Frame := []
  sendFailures : UInt64 := 0
deriving DecidableEq, Repr

namespace Outbox

def sendFrame (outbox : Outbox) (response : Frame) : Outbox :=
  match encodeFrame response with
  | .ok _ => { outbox with sent := outbox.sent ++ [response] }
  | .error _ => { outbox with sendFailures := outbox.sendFailures + 1 }

end Outbox

namespace CoordinatorHandler

section Senders

variable (state : ConnectionState) (request : Frame)

/-- A response to the request, under the session of the connection. -/
def responseFrame (kind : MessageKind) (sequence : UInt64) (body : Text) : Frame where
  kind := kind.toRaw
  flags := flagResponse ||| flagFinal
  envelope :=
    { session := state.session
      incarnation := state.incarnation
      epoch := state.epoch
      frameSequence := ⟨sequence⟩
      correlation := request.envelope.correlation }
  payload := body

def sendBody (kind : MessageKind) (body : Text) (outbox : Outbox) : Outbox :=
  let sequence := outbox.nextSequence + 1
  Outbox.sendFrame { outbox with nextSequence := sequence }
    (responseFrame state request kind sequence body)

def reasonsFrom (code : ErrorCode) (message : Text) : ReasonChain :=
  ReasonChain.add [] code.toText message

def sendError (code : ErrorCode) (message : Text) (outbox : Outbox) : Outbox :=
  match encodeError { code, message, reasons := reasonsFrom code message } with
  | .ok body => sendBody state request .errorResponse body outbox
  -- A chain of one reason is always encoded, so this is not reached.
  | .error _ => outbox

def sendErrorWithReasons
    (code : ErrorCode) (message : Text) (reasons : ReasonChain) (outbox : Outbox) : Outbox :=
  match encodeError { code, message, reasons } with
  | .ok body => sendBody state request .errorResponse body outbox
  | .error status => sendError state request status.code status.message outbox

def sendTyped (payload : ResponsePayload) (outbox : Outbox) : Outbox :=
  match payload.encode with
  | .ok body => sendBody state request payload.kind body outbox
  | .error status => sendError state request status.code status.message outbox

def send (answer : Answer) (outbox : Outbox) : Outbox :=
  match answer with
  | .error code message => sendError state request code message outbox
  | .explained code message reasons =>
    sendErrorWithReasons state request code message reasons outbox
  | .typed payload => sendTyped state request payload outbox

end Senders

/-- The text of an inspection, cut at half of a frame. -/
def inspectResponse (subject : UInt8) (body : Text) : InspectResponsePayload :=
  if Limits.framePayloadMaxBytes / 2 < body.length then
    { subject := subject, body := body.take (Limits.framePayloadMaxBytes / 2), truncated := true }
  else
    { subject := subject, body := body }

def explainResponse
    (service : CoordinatorService) (payload : ExplainRequestPayload) : ExplainResponsePayload :=
  let (decision, explanation) :=
    if payload.hasCorrelation then service.explainCorrelation payload.correlation
    else service.explain payload.id payload.attempt
  { found := decision.isSome, decision := decision.getD {}, explanation := explanation }

/-- A failed operation that gave no reasons is answered with its own status as the reason. -/
def reasonsOr
    (status : Status) (subject : Identity) (reasons : ReasonChain) : ReasonChain :=
  if status.isOk = false ∧ reasons = [] then
    reasons.add status.code.toText status.message subject
  else
    reasons

def registerAck
    (service : CoordinatorService) (context : ServiceRequestContext)
    (definition : CollectiveDefinition) : RegisterAckPayload :=
  let (status, outcome, _) := service.registerCollective context definition
  { id := definition.id
    generation := outcome.generation
    result := outcome.result
    registrationSequence := if outcome.created then ⟨1⟩ else ⟨0⟩
    -- A failed registration adds its status also to reasons that are given.
    reasons :=
      if status.isOk = false then
        outcome.reasons.add status.code.toText status.message definition.id
      else
        outcome.reasons }

def attemptAck
    (service : CoordinatorService) (context : ServiceRequestContext)
    (payload : BeginAttemptPayload) : AttemptAckPayload :=
  let (status, outcome, _) :=
    service.beginAttempt context payload.id payload.generation payload.attempt payload.transferBytes
  { id := payload.id
    attempt := payload.attempt
    previousAttempt := outcome.previousAttempt
    state := outcome.state
    reasons := reasonsOr status payload.id outcome.reasons }

/-- The acknowledgement of an ended collective. -/
def lifecycleAck
    (id : CollectiveId)
    (ended : Status × Option CollectiveState × ReasonChain × CoordinatorService) :
    LifecycleAckPayload :=
  let (status, state, reasons, _) := ended
  { id := id
    state := state.getD .unregistered
    reasons := reasonsOr status id reasons }

/-- The acknowledgement of evidence; a kind that is not defined changes nothing. -/
def evidenceAck
    (service : CoordinatorService) (context : ServiceRequestContext) (minted : Minted)
    (payload : EvidencePayload) : EvidenceAckPayload :=
  let acknowledge (outcome : CoordinatorService.IngestOutcome) : EvidenceAckPayload :=
    { kind := payload.kind
      generation := outcome.generation.getD {}
      result := if outcome.status.isOk then 0 else 1
      reasons :=
        if outcome.status.code ≠ .ok ∧ outcome.reasons = [] then
          outcome.reasons.add outcome.status.code.toText (text "evidence ingestion failed")
        else
          outcome.reasons }
  match payload with
  | .capacity evidence => acknowledge (service.ingestCapacity context evidence minted []).1
  | .congestion evidence => acknowledge (service.ingestCongestion context evidence minted []).1
  | .topology evidence => acknowledge (service.ingestTopology context evidence minted []).1
  | .policy policy => acknowledge (service.installPolicy context policy minted []).1
  | .none =>
    { reasons := ReasonChain.add [] (text "evidence_kind_unknown")
        (text "the evidence kind is not defined by this version") }

def installPolicyAck
    (service : CoordinatorService) (context : ServiceRequestContext) (minted : Minted)
    (policy : TrafficPolicy) : InstallPolicyAckPayload :=
  let outcome := (service.installPolicy context policy minted []).1
  { generation := outcome.generation.getD {}
    result := if outcome.status.isOk then 0 else 1
    reasons := reasonsOr outcome.status {} outcome.reasons }

/-- How an inspection is rendered. -/
abbrev Renderer := CoordinatorService → InspectRequestPayload → Text

/--
The answer to a decoded request.  The operations that other threads perform
before a heartbeat takes its second look are an input.
-/
def requestAnswer
    (render : Renderer) (service : CoordinatorService) (between : List ServiceOp)
    (context : ServiceRequestContext) (minted : Minted) : Request → Answer
  | .heartbeat payload =>
    match (answerHeartbeat service between context payload).1 with
    | .ok ack => .typed (.heartbeatAck ack)
    | .error status => .error status.code status.message
  | .registerCollective definition => .typed (.registerAck (registerAck service context definition))
  | .beginAttempt payload => .typed (.attemptAck (attemptAck service context payload))
  | .planFlowGroup request =>
    let (status, decision, _) := service.planFlowGroup context request
    if status.isOk then .typed (.flowGroupDecision (decision.getD {}))
    else .error status.code status.message
  | .cancelCollective payload =>
    .typed (.lifecycleAck (lifecycleAck payload.id
      (service.cancelCollective context payload.id payload.generation payload.attempt [])))
  | .retireCollective payload =>
    .typed (.lifecycleAck (lifecycleAck payload.id
      (service.retireCollective context payload.id payload.generation payload.attempt [])))
  | .ingestEvidence payload => .typed (.evidenceAck (evidenceAck service context minted payload))
  | .inspect payload =>
    .typed (.inspectResponse (inspectResponse payload.subject (render service payload)))
  | .explain payload => .typed (.explainResponse (explainResponse service payload))
  | .installPolicy policy =>
    .typed (.installPolicyAck (installPolicyAck service context minted policy))
  | .shutdown =>
    .typed (.shutdownAck
      { subject := 255
        body := text "shutdown acknowledged; no new work will be accepted" })

/-- The answer to a frame of an established session that is not dispatched. -/
def establishedAnswer
    (state : ConnectionState) (service : CoordinatorService) (frame : Frame) (now : UInt64) :
    Option Answer :=
  if frame.envelope.session ≠ state.session ∨
      frame.envelope.incarnation ≠ state.incarnation then
    some (.error .envelopeSessionMismatch
      (text "the frame names a session or boot incarnation that this connection does not own"))
  else
    let (status, reasons, _) := service.validateEnvelope (envelopeView frame) now []
    if status.isOk = false then
      some (.explained status.code status.message reasons)
    else if messageRequiresRequest (.ofRaw frame.kind) = true ∧
        frame.flags &&& flagRequest = 0 then
      some (.error .frameFlagsInvalid (text "this message kind must be sent as a request"))
    else
      none

/-- The answer to a dispatched frame. -/
def dispatchAnswer
    (decoders : RequestDecoders) (render : Renderer) (service : CoordinatorService)
    (between : List ServiceOp) (frame : Frame) (context : ServiceRequestContext)
    (minted : Minted) : Answer :=
  match MessageKind.ofRaw frame.kind with
  | .hello =>
    .error .envelopeProvenanceRejected
      (text "a second hello on an established session is refused")
  | kind =>
    match decodeRequest decoders frame.payload kind with
    | none =>
      .error .frameKindUnknown (text "the frame kind is not valid on an established session")
    | some (.error status) => .error status.code status.message
    | some (.ok request) => requestAnswer render service between context minted request

theorem dispatchAnswer_of_ne_hello {decoders : RequestDecoders} {render : Renderer}
    {service : CoordinatorService} {between : List ServiceOp} {frame : Frame}
    {context : ServiceRequestContext} {minted : Minted}
    (h : MessageKind.ofRaw frame.kind ≠ .hello) :
    dispatchAnswer decoders render service between frame context minted =
      match decodeRequest decoders frame.payload (.ofRaw frame.kind) with
      | none =>
        .error .frameKindUnknown (text "the frame kind is not valid on an established session")
      | some (.error status) => .error status.code status.message
      | some (.ok request) => requestAnswer render service between context minted request := by
  unfold dispatchAnswer
  split
  · exact absurd ‹_› h
  · rfl

/-- What other threads do to the service while a frame is processed. -/
structure Interference where
  beforeDispatch : List ServiceOp := []
  beforeAnswer : List ServiceOp := []

/-- The service a frame is dispatched to: its envelope is validated, then others had the lock. -/
def dispatchedService
    (service : CoordinatorService) (others : Interference) (frame : Frame) (now : UInt64) :
    CoordinatorService :=
  run serviceStep (serviceStep service (.validateEnvelope (envelopeView frame) now []))
    others.beforeDispatch

/-- The answer to a frame of an established session. -/
def frameAnswer
    (decoders : RequestDecoders) (render : Renderer) (state : ConnectionState)
    (service : CoordinatorService) (others : Interference) (frame : Frame) (now : UInt64)
    (minted : Minted) : Answer :=
  match establishedAnswer state service frame now with
  | some answer => answer
  | none =>
    dispatchAnswer decoders render (dispatchedService service others frame now)
      others.beforeAnswer frame (requestContext frame now) minted

/-- Processes a frame of an established session that stays in the session table. -/
def processFrame
    (decoders : RequestDecoders) (render : Renderer) (state : ConnectionState)
    (service : CoordinatorService) (others : Interference) (frame : Frame) (now : UInt64)
    (minted : Minted) (outbox : Outbox) : Outbox :=
  send state frame (frameAnswer decoders render state service others frame now minted) outbox

end CoordinatorHandler

open CoordinatorHandler

section Sending

/-- The size of an encoded error. -/
def errorBytes (message : Text) (reasons : ReasonChain) : Nat :=
  12 + message.length + reasons.bytes

/-- The size of the error that takes the place of a chain beyond its bound. -/
def overlongBytes : Nat :=
  let message := text "reason chain exceeds its bound"
  errorBytes message (reasonsFrom .validationReasonChainTooLong message)

/-- The size of the payload that an answer is sent in. -/
def Answer.bytes : Answer → Nat
  | .error code message => errorBytes message (reasonsFrom code message)
  | .explained _ message reasons =>
    if reasons.length ≤ Limits.reasonChainMax then errorBytes message reasons
    else overlongBytes
  | .typed payload =>
    if payload.reasons.length ≤ Limits.reasonChainMax then payload.bytes else overlongBytes

theorem Answer.bytes_typed_of_bounded (payload : ResponsePayload)
    (h : payload.reasons.length ≤ Limits.reasonChainMax) :
    (Answer.typed payload).bytes = payload.bytes := by
  exact if_pos h

theorem Answer.bytes_typed_of_unbounded (payload : ResponsePayload)
    (h : ¬ payload.reasons.length ≤ Limits.reasonChainMax) :
    (Answer.typed payload).bytes = overlongBytes := by
  exact if_neg h

/-- One frame was written, behind those before. -/
def Outbox.Answered (before after : Outbox) : Prop :=
  ∃ response, after.sent = before.sent ++ [response]

variable (state : ConnectionState) (request : Frame) (outbox : Outbox)

theorem encodeError_of_bounded (payload : ErrorPayload)
    (h : payload.reasons.length ≤ Limits.reasonChainMax) :
    ∃ body, encodeError payload = .ok body ∧
      body.length = errorBytes payload.message payload.reasons := by
  obtain ⟨body, hbody, hlength⟩ := encodeWithReasons_of_bounded
    (putU32 payload.code.raw.toUInt32 ++ writeString payload.message) h
  refine ⟨body, hbody, ?_⟩
  rw [hlength, List.length_append, length_putU32, length_writeString, errorBytes]
  omega

/-- An error with a reason of its own always reaches the encoder of the frame. -/
theorem sendError_eq_sendBody (code : ErrorCode) (message : Text) :
    ∃ body, body.length = errorBytes message (reasonsFrom code message) ∧
      sendError state request code message outbox =
        sendBody state request .errorResponse body outbox := by
  have hone : (reasonsFrom code message).length ≤ Limits.reasonChainMax := by
    change 1 ≤ Limits.reasonChainMax
    decide
  obtain ⟨body, hbody, hlength⟩ :=
    encodeError_of_bounded { code, message, reasons := reasonsFrom code message } hone
  refine ⟨body, hlength, ?_⟩
  rw [sendError, hbody]

theorem messageKindIsKnown_kind (payload : ResponsePayload) :
    messageKindIsKnown payload.kind.toRaw = true := by
  cases payload <;> rfl

/-- Every answer reaches the encoder of the frame as one body. -/
theorem send_eq_sendBody (answer : Answer) :
    ∃ kind body, messageKindIsKnown (MessageKind.toRaw kind) = true ∧
      body.length = answer.bytes ∧
      send state request answer outbox = sendBody state request kind body outbox := by
  have hrefused := sendError_eq_sendBody state request outbox
  cases answer with
  | error code message =>
    obtain ⟨body, hlength, hsent⟩ := hrefused code message
    exact ⟨.errorResponse, body, by decide, hlength, hsent⟩
  | explained code message reasons =>
    simp only [send, sendErrorWithReasons, Answer.bytes]
    by_cases hbounded : reasons.length ≤ Limits.reasonChainMax
    · obtain ⟨body, hbody, hlength⟩ := encodeError_of_bounded { code, message, reasons } hbounded
      refine ⟨.errorResponse, body, by decide, ?_, ?_⟩
      · rw [if_pos hbounded, hlength]
      · rw [hbody]
    · obtain ⟨body, hlength, hsent⟩ := hrefused .validationReasonChainTooLong
        (text "reason chain exceeds its bound")
      refine ⟨.errorResponse, body, by decide, ?_, ?_⟩
      · rw [if_neg hbounded, hlength]
        rfl
      · rw [encodeError, encodeWithReasons_of_unbounded _ (Nat.not_le.mp hbounded)]
        exact hsent
  | typed payload =>
    simp only [send, sendTyped]
    by_cases hbounded : payload.reasons.length ≤ Limits.reasonChainMax
    · obtain ⟨body, hbody, hlength⟩ := ResponsePayload.encode_of_bounded hbounded
      refine ⟨payload.kind, body, messageKindIsKnown_kind payload, ?_, ?_⟩
      · rw [Answer.bytes_typed_of_bounded payload hbounded, hlength]
      · rw [hbody]
    · obtain ⟨body, hlength, hsent⟩ := hrefused .validationReasonChainTooLong
        (text "reason chain exceeds its bound")
      refine ⟨.errorResponse, body, by decide, ?_, ?_⟩
      · rw [Answer.bytes_typed_of_unbounded payload hbounded, hlength]
        rfl
      · rw [ResponsePayload.encode_of_unbounded (Nat.not_le.mp hbounded)]
        exact hsent

/-- A body is written as one frame when it fits, and counted as failed when it does not. -/
theorem sent_sendBody {kind : MessageKind} (body : Text)
    (h : messageKindIsKnown kind.toRaw = true) :
    (sendBody state request kind body outbox).sent =
      outbox.sent ++
        if body.length ≤ Limits.framePayloadMaxBytes then
          [responseFrame state request kind (outbox.nextSequence + 1) body]
        else
          [] := by
  have hflags : (flagResponse ||| flagFinal) &&& ~~~flagKnownMask = 0 := by decide
  rw [sendBody, Outbox.sendFrame]
  by_cases hfits : body.length ≤ Limits.framePayloadMaxBytes
  · have hlegal : FrameLegal
        (responseFrame state request kind (outbox.nextSequence + 1) body) :=
      ⟨h, hflags, hfits⟩
    rw [if_pos hfits, (encodeFrame_eq_ok_iff _).mpr ⟨hlegal, rfl⟩]
  · rw [if_neg hfits]
    cases hencoded : encodeFrame
        (responseFrame state request kind (outbox.nextSequence + 1) body) with
    | error status => simp
    | ok bytes => exact absurd ((encodeFrame_eq_ok_iff _).mp hencoded).1.payload hfits

/-- An answer is sent exactly when its payload is within the bound on a frame. -/
theorem send_answered_iff (answer : Answer) :
    outbox.Answered (send state request answer outbox) ↔
      answer.bytes ≤ Limits.framePayloadMaxBytes := by
  obtain ⟨kind, body, hkind, hlength, hsent⟩ := send_eq_sendBody state request outbox answer
  rw [Outbox.Answered, hsent, sent_sendBody state request outbox body hkind, hlength]
  split
  · rename_i hfits
    exact iff_of_true ⟨_, rfl⟩ hfits
  · rename_i hlong
    refine iff_of_false ?_ hlong
    rintro ⟨response, hresponse⟩
    simp at hresponse

end Sending

end TrafficFabric
