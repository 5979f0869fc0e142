import TrafficFabric.ServiceEffects
import TrafficFabric.Transport

/-!
# The networked coordinator

Every accepted connection is served by a thread of its own.  The thread opens a
session, receives frames one after another, hands each to the handler, and
closes the session when receiving ends.  The handler keeps what it knows of a
connection in a table keyed by the connection; only the connection's own thread
touches that entry, so the entry is kept with the thread here.

The threads share the service and its lock.  A turn of a thread is what it does
up to the next point at which another thread may get that lock: the validation
of an envelope and the operation a frame is dispatched to are two turns.

The decoders of the request payloads are parameters.  A reply is recorded with
its kind, or with its error code and message; whether the peer receives it is
not part of the state.
-/

namespace TrafficFabric

open Lib

/-- What the handler knows of a connection. -/
structure ConnectionState where
  session : SessionId := {}
  incarnation : BootIncarnation := {}
  epoch : CoordinatorEpoch := {}
  peerLabel : Text := []
  openedMonotonicMs : UInt64 := 0
  hellosPending : Nat := 1
  rejected : Bool := false
deriving DecidableEq, Repr

structure CoordinatorConfig where
  maxSessions : Nat := Limits.sessionsMax
  readBufferBytes : Nat := Limits.ioBufferBytes
  service : ServiceConfig := {}
  persistOnMutation : Bool := false
deriving DecidableEq, Repr

inductive Reply where
  | error (code : ErrorCode) (message : Text)
  | explained (code : ErrorCode) (message : Text) (reasons : ReasonChain)
  | typed (kind : MessageKind)
deriving DecidableEq, Repr

section Requests

structure HeartbeatPayload where
  participant : ParticipantId := {}
  incarnation : BootIncarnation := {}
  state : ParticipantState := .live
  node : NodeId := {}
  clientClockMs : UInt64 := 0
deriving DecidableEq, Repr

structure BeginAttemptPayload where
  id : CollectiveId := {}
  generation : CollectiveGeneration := {}
  attempt : CollectiveAttemptId := {}
  transferBytes : UInt64 := 0
deriving DecidableEq, Repr

structure LifecyclePayload where
  id : CollectiveId := {}
  generation : CollectiveGeneration := {}
  attempt : CollectiveAttemptId := {}
  reason : Text := []
deriving DecidableEq, Repr

/-- Evidence of one kind; only the part that the kind names is carried. -/
inductive EvidencePayload where
  | none
  | capacity (evidence : CapacityEvidence)
  | congestion (evidence : CongestionEvidence)
  | topology (evidence : TopologyEvidence)
  | policy (policy : TrafficPolicy)
deriving DecidableEq, Repr

structure InspectRequestPayload where
  subject : UInt8 := 0
  id : CollectiveId := {}
  offset : UInt32 := 0
  limit : UInt32 := 64
deriving DecidableEq, Repr

structure ExplainRequestPayload where
  id : CollectiveId := {}
  attempt : CollectiveAttemptId := {}
  correlation : UInt64 := 0
  hasCorrelation : Bool := false
deriving DecidableEq, Repr

/-- The decoders of the request payloads. -/
structure RequestDecoders where
  heartbeat : Text → Except Status HeartbeatPayload
  registerCollective : Text → Except Status CollectiveDefinition
  beginAttempt : Text → Except Status BeginAttemptPayload
  planFlowGroup : Text → Except Status DecisionRequest
  lifecycle : Text → Except Status LifecyclePayload
  evidence : Text → Except Status EvidencePayload
  inspectRequest : Text → Except Status InspectRequestPayload
  explainRequest : Text → Except Status ExplainRequestPayload
  installPolicy : Text → Except Status TrafficPolicy

/-- A decoded request. -/
inductive Request where
  | heartbeat (payload : HeartbeatPayload)
  | registerCollective (definition : CollectiveDefinition)
  | beginAttempt (payload : BeginAttemptPayload)
  | planFlowGroup (request : DecisionRequest)
  | cancelCollective (payload : LifecyclePayload)
  | retireCollective (payload : LifecyclePayload)
  | ingestEvidence (payload : EvidencePayload)
  | inspect (payload : InspectRequestPayload)
  | explain (payload : ExplainRequestPayload)
  | installPolicy (policy : TrafficPolicy)
  | shutdown

/-- The request a frame of the kind carries; the other kinds carry none. -/
def decodeRequest (decoders : RequestDecoders) (payload : Text) :
    MessageKind → Option (Except Status Request)
  | .heartbeat => some ((decoders.heartbeat payload).map .heartbeat)
  | .registerCollective => some ((decoders.registerCollective payload).map .registerCollective)
  | .beginAttempt => some ((decoders.beginAttempt payload).map .beginAttempt)
  | .planFlowGroup => some ((decoders.planFlowGroup payload).map .planFlowGroup)
  | .cancelCollective => some ((decoders.lifecycle payload).map .cancelCollective)
  | .retireCollective => some ((decoders.lifecycle payload).map .retireCollective)
  | .ingestEvidence => some ((decoders.evidence payload).map .ingestEvidence)
  | .inspectRequest => some ((decoders.inspectRequest payload).map .inspect)
  | .explainRequest => some ((decoders.explainRequest payload).map .explain)
  | .installPolicy => some ((decoders.installPolicy payload).map .installPolicy)
  | .shutdown => some (.ok .shutdown)
  | _ => none

namespace Request

/-- The service operation a request asks for, if it asks for one. -/
def op (context : ServiceRequestContext) (minted : Minted) : Request → Option ServiceOp
  | .heartbeat payload =>
    some (.publishParticipant context payload.participant payload.incarnation payload.node
      payload.state)
  | .registerCollective definition => some (.registerCollective context definition)
  | .beginAttempt payload =>
    some (.beginAttempt context payload.id payload.generation payload.attempt
      payload.transferBytes)
  | .planFlowGroup request => some (.planFlowGroup context request)
  | .cancelCollective payload =>
    some (.cancelCollective context payload.id payload.generation payload.attempt [])
  | .retireCollective payload =>
    some (.retireCollective context payload.id payload.generation payload.attempt [])
  | .ingestEvidence .none => none
  | .ingestEvidence (.capacity evidence) => some (.ingestCapacity context evidence minted [])
  | .ingestEvidence (.congestion evidence) => some (.ingestCongestion context evidence minted [])
  | .ingestEvidence (.topology evidence) => some (.ingestTopology context evidence minted [])
  | .ingestEvidence (.policy policy) => some (.installPolicy context policy minted [])
  | .inspect _ => none
  | .explain _ => none
  | .installPolicy policy => some (.installPolicy context policy minted [])
  | .shutdown => none

/-- A failed heartbeat and a failed plan are answered by an error, every other request by its
own acknowledgement. -/
def reply (service : CoordinatorService) (context : ServiceRequestContext) : Request → Reply
  | .heartbeat payload =>
    let status := (service.publishParticipant context payload.participant payload.incarnation
      payload.node payload.state).1
    if status.isOk then .typed .heartbeatAck else .error status.code status.message
  | .planFlowGroup request =>
    let status := (service.planFlowGroup context request).1
    if status.isOk then .typed .flowGroupDecision else .error status.code status.message
  | .registerCollective _ => .typed .registerAck
  | .beginAttempt _ => .typed .attemptAck
  | .cancelCollective _ => .typed .lifecycleAck
  | .retireCollective _ => .typed .lifecycleAck
  | .ingestEvidence _ => .typed .evidenceAck
  | .inspect _ => .typed .inspectResponse
  | .explain _ => .typed .explainResponse
  | .installPolicy _ => .typed .installPolicyAck
  | .shutdown => .typed .shutdownAck

/-- The requests after which the snapshot is written when that is configured. -/
def persists : Request → Bool
  | .registerCollective _ => true
  | .beginAttempt _ => true
  | .cancelCollective _ => true
  | .retireCollective _ => true
  | .ingestEvidence _ => true
  | .installPolicy _ => true
  | _ => false

end Request

end Requests

/-- The kinds that must be sent as a request. -/
def messageRequiresRequest : MessageKind → Bool
  | .heartbeat => true
  | .registerCollective => true
  | .beginAttempt => true
  | .planFlowGroup => true
  | .cancelCollective => true
  | .retireCollective => true
  | .ingestEvidence => true
  | .inspectRequest => true
  | .explainRequest => true
  | .installPolicy => true
  | .shutdown => true
  | _ => false

/-- Where a session thread is between two turns. -/
inductive Phase where
  | opening
  | ready
  | receiving
  | received (frame : Frame)
  | dispatching (frame : Frame) (context : ServiceRequestContext)
  | persisting (reply : Reply)
  | saving (pending : PendingSave) (reply : Reply)
  | replying (reply : Reply)
  | closing (reason : Status)
  | done
deriving DecidableEq, Repr

/-- A session thread: its connection, where it is, and what the handler knows of it. -/
structure Worker where
  connection : Connection := {}
  phase : Phase := .opening
  entry : Option ConnectionState := none
deriving DecidableEq, Repr

/-- The address of a connection object; no two connections of a run share one. -/
abbrev ConnectionKey := Nat

/-- What happens to a connection, as far as it can be observed. -/
inductive Event where
  | opened (key : ConnectionKey) (session : SessionId)
  | greeted (key : ConnectionKey)
  | refused (key : ConnectionKey)
  | dispatched (key : ConnectionKey) (context : ServiceRequestContext) (sequence : Sequence)
  | sent (key : ConnectionKey) (reply : Reply)
deriving DecidableEq, Repr

/-- What the threads share. -/
structure Shared where
  config : CoordinatorConfig := {}
  service : CoordinatorService := {}
  listening : Bool := false
  shutdownRequested : Bool := false
  staleFrames : UInt64 := 0
  malformedFrames : UInt64 := 0
  protocolViolations : UInt64 := 0
  log : List Event := []

namespace Shared

/-- Records an event; the newest comes first. -/
def note (shared : Shared) (event : Event) : Shared :=
  { shared with log := event :: shared.log }

def countStale (shared : Shared) : Shared :=
  { shared with staleFrames := shared.staleFrames + 1 }

def countMalformed (shared : Shared) : Shared :=
  { shared with malformedFrames := shared.malformedFrames + 1 }

def countViolation (shared : Shared) : Shared :=
  { shared with protocolViolations := shared.protocolViolations + 1 }

end Shared

/-- A thread after a turn, with what it shares. -/
abbrev Turn := Shared × Worker

namespace CoordinatorHandler

variable (key : ConnectionKey) (shared : Shared) (worker : Worker)

/-- The thread goes back to the top of its loop. -/
def resume (shared : Shared) (worker : Worker) : Turn :=
  (shared, { worker with phase := .ready })

/-- The handler shuts the socket down and drops the frame. -/
def refuse (shared : Shared) (worker : Worker) : Turn :=
  resume (shared.note (.refused key)) { worker with connection := worker.connection.shutdownSocket }

/-- Mints a session for a new connection, or marks the connection rejected. -/
def onOpen (now : UInt64) (id incarnation : Minted) : Turn :=
  let (status, binding, service) :=
    shared.service.openSession (text "pending-handshake") now id incarnation
  if status.isOk = false then
    resume { shared with service := service }
      { worker with
        entry := some { session := {}, rejected := true }
        connection := worker.connection.shutdownSocket }
  else
    resume (({ shared with service := service } : Shared).note (.opened key binding.id))
      { worker with
        entry := some
          { session := binding.id
            incarnation := binding.incarnation
            epoch := binding.epoch
            hellosPending := 1
            openedMonotonicMs := now } }

/-- The first frame of a connection has to be a hello. -/
def onHello (state : ConnectionState) (frame : Frame) : Turn :=
  if frame.kind ≠ MessageKind.hello.toRaw then
    refuse key
      (shared.countViolation.note (.sent key (.error .envelopeSessionUnknown
        (text "the first frame of a session must be a hello"))))
      worker
  else
    match decodeHello frame.payload with
    | .error status =>
      refuse key
        (shared.countMalformed.note (.sent key (.error status.code status.message))) worker
    | .ok hello =>
      resume ((shared.note (.greeted key)).note (.sent key (.typed .helloAck)))
        { worker with
          entry := some { state with hellosPending := 0, peerLabel := hello.clientLabel } }

def envelopeView (frame : Frame) : EnvelopeView where
  session := frame.envelope.session
  incarnation := frame.envelope.incarnation
  epoch := frame.envelope.epoch
  frameSequence := frame.envelope.frameSequence
  correlation := frame.envelope.correlation

def requestContext (frame : Frame) (now : UInt64) : ServiceRequestContext where
  session := frame.envelope.session
  incarnation := frame.envelope.incarnation
  epoch := frame.envelope.epoch
  nowMonotonicMs := now
  correlation := frame.envelope.correlation

/-- The refusals of an envelope that close the connection. -/
def closesConnection (code : ErrorCode) : Bool :=
  code == .envelopeSessionUnknown || code == .envelopeSessionMismatch ||
    code == .envelopeIncarnationStale

/-- A frame of an established session: its owner, its envelope, its direction. -/
def onEstablished (state : ConnectionState) (frame : Frame) (now : UInt64) : Turn :=
  if frame.envelope.session ≠ state.session ∨
      frame.envelope.incarnation ≠ state.incarnation then
    refuse key
      (shared.countViolation.note (.sent key (.error .envelopeSessionMismatch
        (text "the frame names a session or boot incarnation that this connection does not own"))))
      worker
  else
    let (status, reasons, service) := shared.service.validateEnvelope (envelopeView frame) now []
    if status.isOk = false then
      let shared :=
        shared.countStale.note (.sent key (.explained status.code status.message reasons))
      if closesConnection status.code then refuse key shared worker else resume shared worker
    else
      let shared := { shared with service := service }
      if messageRequiresRequest (.ofRaw frame.kind) = true ∧ frame.flags &&& flagRequest = 0 then
        resume
          (shared.countViolation.note (.sent key (.error .frameFlagsInvalid
            (text "this message kind must be sent as a request"))))
          worker
      else
        (shared, { worker with phase := .dispatching frame (requestContext frame now) })

/-- What the handler does with a frame, up to its dispatch. -/
def onFrame (frame : Frame) (now : UInt64) : Turn :=
  match worker.entry with
  | none => refuse key shared worker
  | some state =>
    if state.rejected then
      refuse key shared worker
    else if state.hellosPending ≠ 0 then
      onHello key shared worker state frame
    else
      onEstablished key shared worker state frame now

/-- A reply of a dispatched frame that carries no decodable request. -/
def answer (reply : Reply) (shared : Shared) (worker : Worker) : Turn :=
  (shared, { worker with phase := .replying reply })

/-- Performs a decoded request; a durable one is written to the snapshot before its reply. -/
def perform (context : ServiceRequestContext) (minted : Minted) (request : Request) : Turn :=
  let reply := request.reply shared.service context
  let service :=
    match request.op context minted with
    | none => shared.service
    | some op => serviceStep shared.service op
  ({ shared with
      service := service
      shutdownRequested :=
        match request with
        | .shutdown => true
        | _ => shared.shutdownRequested },
    { worker with
      phase :=
        if request.persists && shared.config.persistOnMutation then .persisting reply
        else .replying reply })

def dispatch
    (decoders : RequestDecoders) (frame : Frame) (context : ServiceRequestContext)
    (minted : Minted) : Turn :=
  match worker.entry with
  | none => resume shared worker
  | some _ =>
    let shared := shared.note (.dispatched key context frame.envelope.frameSequence)
    match MessageKind.ofRaw frame.kind with
    | .hello =>
      answer (.error .envelopeProvenanceRejected
        (text "a second hello on an established session is refused"))
        shared.countViolation worker
    | kind =>
      match decodeRequest decoders frame.payload kind with
      | none =>
        answer (.error .frameKindUnknown
          (text "the frame kind is not valid on an established session"))
          shared.countMalformed worker
      | some (.error status) =>
        answer (.error status.code status.message) shared.countMalformed worker
      | some (.ok request) => perform shared worker context minted request

/-- Forgets the connection and closes its session. -/
def onClose (now : UInt64) : Turn :=
  let session := (worker.entry.map ConnectionState.session).getD {}
  ({ shared with
      service :=
        if session.isSome then (shared.service.closeSession session now).2 else shared.service },
    { worker with
      connection := worker.connection.shutdownSocket
      entry := none
      phase := .done })

end CoordinatorHandler

/-- What a turn of a session thread needs from outside. -/
inductive TurnInput where
  | none
  | opened (now : UInt64) (id incarnation : Minted)
  | arrived (arrival : Arrival)
  | clock (now : UInt64)
  | minted (generation : Minted)
  | saved (success : Bool)

/--
One turn of a session thread.  An input that does not fit the phase of the
thread leaves it where it is.
-/
def turn
    (decoders : RequestDecoders) (key : ConnectionKey) (shared : Shared) (worker : Worker)
    (input : TurnInput) : Turn :=
  match worker.phase, input with
  | .opening, .opened now id incarnation =>
    CoordinatorHandler.onOpen key shared worker now id incarnation
  | .ready, .none =>
    if shared.listening then
      (shared, { worker with phase := .receiving })
    else
      (shared,
        { worker with
          phase := .closing (.error .transportClosed (text "the server is shutting down")) })
  | .receiving, .arrived arrival =>
    match worker.connection.receivePass arrival with
    | .frame frame connection =>
      (shared, { worker with connection := connection, phase := .received frame })
    | .waiting connection => (shared, { worker with connection := connection })
    | .ended status => (shared, { worker with phase := .closing status })
  | .received frame, .clock now => CoordinatorHandler.onFrame key shared worker frame now
  | .dispatching frame context, .minted generation =>
    CoordinatorHandler.dispatch key shared worker decoders frame context generation
  | .persisting reply, .clock now =>
    let (_, pending, service) := shared.service.flush now
    ({ shared with service := service },
      { worker with
        phase :=
          match pending with
          | some pending => .saving pending reply
          | none => .replying reply })
  | .saving pending reply, .saved success =>
    ({ shared with
        service :=
          if success then shared.service.completeSave pending.capturedSequence
          else shared.service },
      { worker with phase := .replying reply })
  | .replying reply, .none => CoordinatorHandler.resume (shared.note (.sent key reply)) worker
  | .closing _, .clock now => CoordinatorHandler.onClose shared worker now
  | _, _ => (shared, worker)

/-- The coordinator with every connection it has accepted. -/
structure CoordinatorServer where
  shared : Shared := {}
  workers : KeyMap ConnectionKey Worker := ∅
  acceptedTotal : UInt64 := 0
  rejectedTotal : UInt64 := 0

/-- What the environment of the coordinator does. -/
inductive ServerOp where
  | listen
  | accept (key : ConnectionKey)
  | turn (key : ConnectionKey) (input : TurnInput)
  | service (op : ServiceOp)
  | shutdown

namespace CoordinatorServer

def create (config : CoordinatorConfig) : CoordinatorServer :=
  { shared := { config := config, service := CoordinatorService.create config.service } }

/-- The connections that have not finished. -/
def sessionCount (server : CoordinatorServer) : Nat :=
  (server.workers.values.filter fun worker => worker.phase != .done).length

/-- The session bound of the transport, between one and the hard limit. -/
def sessionBound (server : CoordinatorServer) : Nat :=
  if server.shared.config.maxSessions = 0 then 1
  else min server.shared.config.maxSessions Limits.sessionsMax

def listen (server : CoordinatorServer) : CoordinatorServer :=
  if server.shared.listening then
    server
  else
    { server with
      shared := { server.shared with listening := true }
      acceptedTotal := 0
      rejectedTotal := 0 }

/-- Serves a new connection, or closes it at once when the bound is reached. -/
def accept (server : CoordinatorServer) (key : ConnectionKey) : CoordinatorServer :=
  if server.shared.listening = false ∨ server.workers.find key ≠ none then
    server
  else if server.sessionBound ≤ server.sessionCount then
    { server with rejectedTotal := server.rejectedTotal + 1 }
  else
    { server with
      workers := server.workers.assign key
        { connection := { readCapacity := server.shared.config.readBufferBytes } }
      acceptedTotal := server.acceptedTotal + 1 }

/-- Stops accepting and releases every connection. -/
def shutdown (server : CoordinatorServer) : CoordinatorServer :=
  if server.shared.listening = false then
    server
  else
    { server with
      shared := { server.shared with listening := false }
      workers := server.workers.mapValues fun worker =>
        { worker with connection := worker.connection.releaseForTeardown } }

end CoordinatorServer

/-- The coordinator after one step of its environment. -/
def serverStep (decoders : RequestDecoders) (server : CoordinatorServer) :
    ServerOp → CoordinatorServer
  | .listen => server.listen
  | .accept key => server.accept key
  | .turn key input =>
    match server.workers.find key with
    | none => server
    | some worker =>
      let (shared, worker) := turn decoders key server.shared worker input
      { server with shared := shared, workers := server.workers.assign key worker }
  | .service op =>
    { server with
      shared := { server.shared with service := serviceStep server.shared.service op } }
  | .shutdown => server.shutdown

end TrafficFabric
