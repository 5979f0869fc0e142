import TrafficFabric.Authority
import TrafficFabric.Catalog
import TrafficFabric.Admission

/-!
# The coordinator service

Sessions, participants, collectives, decisions and evidence behind one lock.
Each public operation is a function of the state; an operation that releases
the lock around a file write is two such functions, one for each locked
section, since other calls may run between them.

Not every operation checks its caller.  The evidence operations and the policy
installation verify the whole context, planning verifies it when a session is
named, registration asks for a known session, and the remaining ones verify
nothing of it, although a publication binds the record to the session it names.
-/

namespace TrafficFabric

open Lib

structure EnvelopeView where
  session : SessionId := {}
  incarnation : BootIncarnation := {}
  epoch : CoordinatorEpoch := {}
  frameSequence : Sequence := {}
  correlation : UInt64 := 0
deriving DecidableEq, Repr

/-- A session, every identity of which the coordinator minted. -/
structure SessionBinding where
  id : SessionId := {}
  incarnation : BootIncarnation := {}
  epoch : CoordinatorEpoch := {}
  peerLabel : Text := []
  openedMonotonicMs : UInt64 := 0
  lastFrameMonotonicMs : UInt64 := 0
  lastFrameSequence : Sequence := {}
  framesReceived : UInt64 := 0
  framesRejected : UInt64 := 0
  acceptedParticipants : UInt64 := 0
deriving DecidableEq, Repr

structure AttemptOutcome where
  id : CollectiveId := {}
  attempt : CollectiveAttemptId := {}
  previousAttempt : CollectiveAttemptId := {}
  state : CollectiveState := .unregistered
  reasons : ReasonChain := []
deriving DecidableEq, Repr

structure ServiceRequestContext where
  session : SessionId := {}
  incarnation : BootIncarnation := {}
  epoch : CoordinatorEpoch := {}
  nowMonotonicMs : UInt64 := 0
  correlation : UInt64 := 0
deriving DecidableEq, Repr

structure ServiceConfig where
  decisionHistoryCapacity : Nat := Limits.decisionHistoryDefaultCapacity
  participantTtlMs : UInt64 := 3000
  sessionIdleTtlMs : UInt64 := 30000
  congestionValidForMs : UInt64 := 2000
  coordinatorLabel : Text := text "ctf-coordinator"
deriving DecidableEq, Repr

structure ServiceCounters where
  sessionsOpened : UInt64 := 0
  sessionsClosed : UInt64 := 0
  registrations : UInt64 := 0
  generationAdvances : UInt64 := 0
  decisions : UInt64 := 0
  admissions : UInt64 := 0
  rejections : UInt64 := 0
  rateLimited : UInt64 := 0
  deferred : UInt64 := 0
  replans : UInt64 := 0
  fences : UInt64 := 0
  evidenceIngests : UInt64 := 0
  rejectionsStale : UInt64 := 0
  cancellations : UInt64 := 0
  retirements : UInt64 := 0
  staleCompletionsRejected : UInt64 := 0
  persists : UInt64 := 0
  restores : UInt64 := 0
deriving DecidableEq, Repr

structure CoordinatorService where
  config : ServiceConfig := {}
  authority : AuthorityState := {}
  catalog : CollectiveCatalog := {}
  history : DecisionHistory := {}
  admission : AdmissionController := {}
  counters : ServiceCounters := {}
  sessions : KeyMap SessionId SessionBinding := ∅
  mutationSequence : UInt64 := 0
  persistenceDirty : Bool := false
  running : Bool := false
  persistencePath : Text := []
  lastFlushMonotonicMs : UInt64 := 0

/-- What a snapshot file holds. -/
structure SnapshotContents where
  writtenMonotonicMs : UInt64 := 0
  authority : DurableAuthority := {}
  records : List CollectiveRecord := []
deriving DecidableEq, Repr

/-- A file write that was prepared under the lock and runs without it. -/
structure PendingSave where
  contents : SnapshotContents
  path : Text
  capturedSequence : UInt64
deriving DecidableEq, Repr

namespace CoordinatorService

/-- Saturating time since an event, as the idle sweep computes it. -/
def ageMs (now since : UInt64) : UInt64 :=
  if since ≤ now then now - since else 0

/-- A service of the given configuration, before it starts. -/
def create (config : ServiceConfig) : CoordinatorService :=
  { config := config
    history := DecisionHistory.setCapacity {} config.decisionHistoryCapacity }

def markDurableMutation (service : CoordinatorService) : CoordinatorService :=
  { service with
    mutationSequence := service.mutationSequence + 1
    persistenceDirty := true }

/-- Boots the authority.  The call has not returned while no draw is usable. -/
def start
    (service : CoordinatorService) (draws : List Minted) :
    Option (Status × CoordinatorService) :=
  if service.running then
    some (.error .stateDuplicateRegistration (text "the coordinator is already running"), service)
  else
    let last := service.authority.epoch
    (service.authority.bootDraw last draws).map fun _ =>
      (Status.ok,
        { service with
          authority := (service.authority.beginBoot last draws).setFreshnessPolicy
            { congestionMaxAgeMs := service.config.congestionValidForMs }
          running := true })

/-- The snapshot of the durable state, captured for a write. -/
def prepareSave (service : CoordinatorService) (nowMonotonicMs : UInt64) : PendingSave :=
  { contents :=
      { writtenMonotonicMs := nowMonotonicMs
        authority := service.authority.durableSnapshot
        records := service.catalog.exportAll }
    path := service.persistencePath
    capturedSequence := service.mutationSequence }

/-- Fences the participants of each session in turn. -/
def expireSessions
    (authority : AuthorityState) (nowMonotonicMs : UInt64) (sessions : List SessionId) :
    AuthorityState :=
  sessions.foldl (fun state session => (state.expireSession session nowMonotonicMs).2) authority

/-- The locked part of a stop, with the write it leaves to do. -/
def stop
    (service : CoordinatorService) (nowMonotonicMs : UInt64) :
    Status × Option PendingSave × CoordinatorService :=
  if service.running = false then
    (.error .stateNotLive (text "the coordinator is not running"), none, service)
  else
    let stopped :=
      { service with
        running := false
        authority :=
          (expireSessions service.authority nowMonotonicMs
            service.sessions.keys).invalidateDynamicEvidence
        sessions := ∅
        history := service.history.clear
        admission := service.admission.clear }
    (Status.ok,
      if stopped.persistenceDirty = true ∧ stopped.persistencePath ≠ [] then
        some (stopped.prepareSave nowMonotonicMs)
      else
        none,
      stopped)

/-- The locked part after a successful write: a later mutation keeps the state dirty. -/
def completeSave (service : CoordinatorService) (capturedSequence : UInt64) :
    CoordinatorService :=
  { service with
    persistenceDirty :=
      if service.mutationSequence = capturedSequence then false else service.persistenceDirty
    counters := { service.counters with persists := service.counters.persists + 1 } }

def flush
    (service : CoordinatorService) (nowMonotonicMs : UInt64) :
    Status × Option PendingSave × CoordinatorService :=
  if service.persistencePath = [] then
    (.error .persistenceDirectoryUnavailable (text "no persistence path is configured"),
      none, service)
  else if service.persistenceDirty = false then
    (Status.ok, none, service)
  else
    (Status.ok, some (service.prepareSave nowMonotonicMs),
      { service with lastFlushMonotonicMs := nowMonotonicMs })

def configurePersistence
    (service : CoordinatorService) (path : Text) (nowMonotonicMs : UInt64) :
    CoordinatorService :=
  { service with
    persistencePath := path
    persistenceDirty := false
    lastFlushMonotonicMs := nowMonotonicMs }

/-- Opens a session under two freshly minted identities. -/
def openSession
    (service : CoordinatorService) (peerLabel : Text) (nowMonotonicMs : UInt64)
    (id incarnation : Minted) : Status × SessionBinding × CoordinatorService :=
  if service.running = false then
    (.error .stateShuttingDown (text "the coordinator is not accepting sessions"), {}, service)
  else if Limits.sessionsMax ≤ service.sessions.size then
    (.error .transportSessionLimit (text "the session limit has been reached"), {}, service)
  else
    let binding : SessionBinding :=
      { id := id.id
        incarnation := incarnation.id
        epoch := service.authority.epoch
        peerLabel := peerLabel.take Limits.labelBytesMax
        openedMonotonicMs := nowMonotonicMs
        lastFrameMonotonicMs := nowMonotonicMs }
    (Status.ok, binding,
      { service with
        sessions := service.sessions.emplace id.id binding
        counters :=
          { service.counters with sessionsOpened := service.counters.sessionsOpened + 1 } })

/-- The checks of an envelope against its binding, with the reasons they add. -/
def checkBinding
    (epoch : CoordinatorEpoch) (binding : SessionBinding) (envelope : EnvelopeView)
    (reasons : ReasonChain) : Status × ReasonChain :=
  if envelope.epoch.isNone = true ∨ envelope.epoch ≠ epoch then
    (.error .envelopeEpochStale (text "stale coordinator epoch"),
      reasons.add (text "envelope_epoch_stale")
        (text "the frame names a coordinator epoch that is not current; a restart invalidates every earlier authority")
        envelope.epoch)
  else if envelope.incarnation.isNone then
    (.error .envelopeIncarnationStale (text "missing boot incarnation"),
      reasons.add (text "envelope_incarnation_missing")
        (text "the frame carries no boot incarnation"))
  else if envelope.incarnation < binding.incarnation then
    (.error .envelopeIncarnationStale (text "fenced boot incarnation"),
      reasons.add (text "envelope_incarnation_fenced")
        (text "the frame comes from a boot incarnation that has been fenced")
        envelope.incarnation)
  else if envelope.incarnation ≠ binding.incarnation then
    (.error .envelopeSessionMismatch (text "boot incarnation does not match this session"), reasons)
  else if envelope.frameSequence.isUnset then
    (.error .envelopeSequenceRegression (text "missing frame sequence"),
      reasons.add (text "envelope_sequence_missing") (text "the frame carries no sequence number"))
  else if envelope.frameSequence.value ≤ binding.lastFrameSequence.value then
    (.error .envelopeReplayed (text "frame sequence did not advance"),
      reasons.add (text "envelope_sequence_regression")
        (text "the frame sequence did not advance; replays and reordered frames are refused")
        envelope.session)
  else
    (Status.ok, reasons)

/-- Accepts a frame of a session only in strictly increasing sequence. -/
def validateEnvelope
    (service : CoordinatorService) (envelope : EnvelopeView) (nowMonotonicMs : UInt64)
    (reasons : ReasonChain) : Status × ReasonChain × CoordinatorService :=
  if envelope.session.isNone then
    (.error .envelopeSessionUnknown (text "the frame carries no session identity"),
      reasons.add (text "envelope_session_missing")
        (text "the frame carries no session identity"), service)
  else
    match service.sessions.find envelope.session with
    | none =>
      (.error .envelopeSessionUnknown (text "unknown session"),
        reasons.add (text "envelope_session_unknown")
          (text "the session is not known to this coordinator") envelope.session, service)
    | some binding =>
      let (status, reasons) := checkBinding service.authority.epoch binding envelope reasons
      if status.isOk = false then
        (status, reasons, service)
      else
        (Status.ok, reasons,
          { service with
            sessions := service.sessions.assign envelope.session
              { binding with
                lastFrameSequence := envelope.frameSequence
                lastFrameMonotonicMs := nowMonotonicMs
                framesReceived := binding.framesReceived + 1 } })

/-- Fences what a session published and forgets the session. -/
def dropSession
    (service : CoordinatorService) (session : SessionId) (nowMonotonicMs : UInt64) :
    CoordinatorService :=
  let (expired, authority) := service.authority.expireSession session nowMonotonicMs
  { service with
    authority := authority
    sessions := service.sessions.remove session
    counters :=
      { service.counters with
        fences := service.counters.fences + expired.toUInt64
        sessionsClosed := service.counters.sessionsClosed + 1 } }

def closeSession
    (service : CoordinatorService) (session : SessionId) (nowMonotonicMs : UInt64) :
    Status × CoordinatorService :=
  if service.sessions.find session = none then
    (.error .envelopeSessionUnknown (text "unknown session"), service)
  else
    (Status.ok, service.dropSession session nowMonotonicMs)

/-- The sessions without a frame for longer than the idle bound, ascending. -/
def idleSessions (service : CoordinatorService) (nowMonotonicMs : UInt64) : List SessionId :=
  ((service.sessions.entries.filter (fun entry =>
      decide (service.config.sessionIdleTtlMs <
        ageMs nowMonotonicMs entry.2.lastFrameMonotonicMs))).map Sigma.fst).insertionSort (· ≤ ·)

def sweepIdleSessions
    (service : CoordinatorService) (nowMonotonicMs : UInt64) : Nat × CoordinatorService :=
  let stale := service.idleSessions nowMonotonicMs
  (stale.length, stale.foldl (fun s session => s.dropSession session nowMonotonicMs) service)

/-- The record a publication writes; only a live one outlasts its own instant. -/
def publication
    (service : CoordinatorService) (context : ServiceRequestContext)
    (participant : ParticipantId) (incarnation : BootIncarnation) (node : NodeId)
    (state : ParticipantState) : PeerLiveness :=
  { participant := participant
    incarnation := incarnation
    state := state
    node := node
    boundSession := context.session
    lastSeenMonotonicMs := context.nowMonotonicMs
    expiresAtMonotonicMs :=
      if participantStateHoldsAuthority state then
        context.nowMonotonicMs + service.config.participantTtlMs
      else
        context.nowMonotonicMs }

def countFence (service : CoordinatorService) : CoordinatorService :=
  { service with counters := { service.counters with fences := service.counters.fences + 1 } }

/-- Counts an accepted participant on the session named, when it is open. -/
def countParticipant (service : CoordinatorService) (session : SessionId) : CoordinatorService :=
  match service.sessions.find session with
  | none => service
  | some binding =>
    { service with
      sessions := service.sessions.assign session
        { binding with acceptedParticipants := binding.acceptedParticipants + 1 } }

/--
Publishes a participant.  A refusal other than fencing is an error for a live
publication only; any other state reports success although nothing was stored.
-/
def publishParticipant
    (service : CoordinatorService) (context : ServiceRequestContext)
    (participant : ParticipantId) (incarnation : BootIncarnation) (node : NodeId)
    (state : ParticipantState) : Status × CoordinatorService :=
  if participant.isNone || incarnation.isNone then
    (.error .validationParticipantUnset (text "participant or incarnation identity is unset"),
      service)
  else
    let (published, authority) :=
      service.authority.publishLiveness
        (service.publication context participant incarnation node state)
    let stored := { service with authority := authority }
    if published = .fencedStaleIncarnation then
      (.error .envelopeIncarnationStale
        (text "a newer boot incarnation for this participant has already been observed"),
        stored.countFence)
    else if participantStateHoldsAuthority state = false then
      (Status.ok, stored)
    else if published = .rejectedCapacity then
      (.error .stateCapacityExceeded (text "the participant table is full"), stored)
    else
      (Status.ok, stored.countParticipant context.session)

def heartbeat
    (service : CoordinatorService) (context : ServiceRequestContext)
    (participant : ParticipantId) (incarnation : BootIncarnation) :
    Status × CoordinatorService :=
  if participant.isNone || incarnation.isNone then
    (.error .validationParticipantUnset (text "participant or incarnation identity is unset"),
      service)
  else
    let (accepted, authority) :=
      service.authority.heartbeat participant incarnation context.nowMonotonicMs
        service.config.participantTtlMs
    let stored := { service with authority := authority }
    if accepted then
      (Status.ok, stored)
    else
      (.error .envelopeIncarnationStale
        (text "the heartbeat comes from a boot incarnation that has been fenced"),
        stored.countFence)

def registerCollective
    (service : CoordinatorService) (context : ServiceRequestContext)
    (definition : CollectiveDefinition) :
    Status × RegistrationOutcome × CoordinatorService :=
  if service.running = false then
    (.error .stateShuttingDown (text "the coordinator is not running"), {}, service)
  else if service.sessions.find context.session = none then
    (.error .envelopeSessionUnknown (text "unknown session"), {}, service)
  else
    let (outcome, catalog) := service.catalog.registerDefinition definition context.nowMonotonicMs
    let stored := { service with catalog := catalog }
    let counters := service.counters
    match outcome.result with
    | .registered =>
      (Status.ok, outcome,
        markDurableMutation
          { stored with
            counters := { counters with registrations := counters.registrations + 1 } })
    | .generationAdvanced =>
      (Status.ok, outcome,
        markDurableMutation
          { stored with
            counters :=
              { counters with
                registrations := counters.registrations + 1
                generationAdvances := counters.generationAdvances + 1 } })
    | .unchanged => (Status.ok, outcome, stored)
    | .rejectedCapacity =>
      (.error .stateCapacityExceeded (text "the live collective bound has been reached"),
        outcome, stored)
    | .rejectedTerminal =>
      (.error .stateCollectiveRetired
        (text "the collective is terminal; a durable definition is never resurrected"),
        outcome, stored)
    | .rejectedInvalid =>
      (.error .validationClassUnknownRejected (text "the definition was rejected"),
        outcome, stored)

def countStaleCompletion (service : CoordinatorService) : CoordinatorService :=
  { service with
    counters :=
      { service.counters with
        staleCompletionsRejected := service.counters.staleCompletionsRejected + 1 } }

/-- Opens the attempt in the catalog and stores its declared volume. -/
def openAttempt
    (service : CoordinatorService) (id : CollectiveId) (attempt : CollectiveAttemptId)
    (transferBytes nowMonotonicMs : UInt64) : Status × AttemptOutcome × CoordinatorService :=
  let outcome : AttemptOutcome := { id := id, attempt := attempt }
  let (status, previous, catalog) := service.catalog.beginAttempt id attempt nowMonotonicMs
  if status.isOk = false then
    (status,
      { outcome with
        reasons := outcome.reasons.add (text "attempt_rejected") status.message id }, service)
  else
    let catalog := catalog.setAttemptTransferBytes id transferBytes
    (Status.ok,
      { outcome with
        previousAttempt := previous
        state := ((catalog.find id).map CollectiveRecord.state).getD .planning
        reasons := outcome.reasons.add (text "attempt_begun")
          (text "a new attempt was opened; every decision bound to the previous attempt is now stale")
          id },
      markDurableMutation { service with catalog := catalog })

def beginAttempt
    (service : CoordinatorService) (context : ServiceRequestContext) (id : CollectiveId)
    (generation : CollectiveGeneration) (attempt : CollectiveAttemptId)
    (transferBytes : UInt64) : Status × AttemptOutcome × CoordinatorService :=
  let outcome : AttemptOutcome := { id := id, attempt := attempt }
  if service.running = false then
    (.error .stateShuttingDown (text "the coordinator is not running"), {}, service)
  else
    match service.catalog.find id with
    | none =>
      (.error .completionUnknownCollective (text "collective is not registered"),
        { outcome with
          reasons := outcome.reasons.add (text "collective_unknown")
            (text "no durable definition exists for this identity") id },
        service.countStaleCompletion)
    | some record =>
      if record.definition.generation ≠ generation then
        (.error .completionStaleGeneration (text "collective generation is stale"),
          { outcome with
            state := record.state
            reasons := outcome.reasons.add (text "attempt_generation_stale")
              (text "the attempt names a collective generation that is not current") id },
          service.countStaleCompletion)
      else if collectiveStateIsTerminal record.state then
        (.error
          (if record.state = .cancelled then .completionCancelled else .completionRetired)
          (text "collective is terminal"),
          { outcome with
            state := record.state
            reasons := outcome.reasons.add (text "collective_terminal")
              (text "a cancelled, retired or completed collective never resumes") id },
          service.countStaleCompletion)
      else
        service.openAttempt id attempt transferBytes context.nowMonotonicMs

/-- An attempt that is set on both sides and differs from the current one. -/
def attemptIsStale (record : CollectiveRecord) (attempt : CollectiveAttemptId) : Bool :=
  record.currentAttempt.isSome && attempt.isSome && record.currentAttempt != attempt

/-- What ending a collective says, and how a terminal one is refused. -/
structure EndingTexts where
  state : CollectiveState
  generationStale : Text × Text
  terminal : Text
  terminalCode : CollectiveState → ErrorCode
  attemptStale : Text × Text
  failed : Text
  done : Text × Text
  count : ServiceCounters → ServiceCounters

/--
Ends a collective.  The state it leaves is returned when the collective is
terminal, whether before or after the call; otherwise the caller's value stays.
-/
def endCollective
    (texts : EndingTexts) (service : CoordinatorService) (context : ServiceRequestContext)
    (id : CollectiveId) (generation : CollectiveGeneration) (attempt : CollectiveAttemptId)
    (reasons : ReasonChain) :
    Status × Option CollectiveState × ReasonChain × CoordinatorService :=
  match service.catalog.find id with
  | none =>
    (.error .completionUnknownCollective (text "collective is not registered"), none,
      reasons.add (text "collective_unknown")
        (text "no durable definition exists for this identity") id, service)
  | some record =>
    if record.definition.generation ≠ generation then
      (.error .completionStaleGeneration (text "collective generation is stale"), none,
        reasons.add texts.generationStale.1 texts.generationStale.2 id,
        service.countStaleCompletion)
    else if collectiveStateIsTerminal record.state then
      (.error (texts.terminalCode record.state) (text "collective is already terminal"),
        some record.state,
        reasons.add texts.terminal (text "the collective is already terminal") id, service)
    else if attemptIsStale record attempt then
      (.error .completionStaleAttempt (text "attempt is stale"), none,
        reasons.add texts.attemptStale.1 texts.attemptStale.2 id,
        service.countStaleCompletion)
    else
      let (status, catalog) := service.catalog.setState id texts.state context.nowMonotonicMs
      if status.isOk = false then
        (status, none, reasons.add texts.failed status.message id, service)
      else
        (Status.ok, some texts.state, reasons.add texts.done.1 texts.done.2 id,
          markDurableMutation
            { service with catalog := catalog, counters := texts.count service.counters })

def cancelTexts : EndingTexts where
  state := .cancelled
  generationStale :=
    (text "cancellation_generation_stale",
      text "the cancellation names a generation that is not current; it is refused rather than applied to the wrong generation")
  terminal := text "cancellation_terminal"
  terminalCode := fun state =>
    if state = .cancelled then .completionDuplicate else .completionRetired
  attemptStale :=
    (text "cancellation_attempt_stale",
      text "the cancellation names an attempt that is no longer current")
  failed := text "cancellation_failed"
  done :=
    (text "cancelled",
      text "the collective is cancelled; a later completion for any earlier generation or attempt cannot restore it")
  count := fun counters => { counters with cancellations := counters.cancellations + 1 }

def retireTexts : EndingTexts where
  state := .retired
  generationStale :=
    (text "retirement_generation_stale",
      text "the retirement names a generation that is not current")
  terminal := text "retirement_terminal"
  terminalCode := fun _ => .completionDuplicate
  attemptStale :=
    (text "retirement_attempt_stale",
      text "the retirement names an attempt that is no longer current")
  failed := text "retirement_failed"
  done := (text "retired", text "the durable definition is retired and never resurrected")
  count := fun counters => { counters with retirements := counters.retirements + 1 }

def cancelCollective := endCollective cancelTexts

def retireCollective := endCollective retireTexts

/-- What planning checks of its caller: nothing unless a session is named. -/
def checkPlanContext
    (service : CoordinatorService) (context : ServiceRequestContext) : Status :=
  if service.running = false then
    .error .stateShuttingDown (text "the coordinator is not running")
  else if context.session.isSome then
    match service.sessions.find context.session with
    | none => .error .envelopeSessionUnknown (text "unknown session")
    | some binding =>
      if binding.incarnation ≠ context.incarnation then
        .error .envelopeSessionMismatch (text "session incarnation does not match")
      else if context.epoch.isSome = true ∧ context.epoch ≠ service.authority.epoch then
        .error .envelopeEpochStale (text "stale coordinator epoch")
      else
        Status.ok
  else
    Status.ok

/-- A decision the service takes itself, before any evidence is read. -/
def lifecycleRefusal
    (context : ServiceRequestContext) (request : DecisionRequest)
    (collectiveClass : CollectiveClass) (axis : AuthorityAxis) (code : ErrorCode)
    (reason detail : Text) : DecisionRecord :=
  { collectiveInstance := request.collectiveInstance
    collectiveClass := collectiveClass
    outcome := .rejectedStale
    axis := axis
    code := code
    decidedMonotonicMs := context.nowMonotonicMs
    reasons := ReasonChain.add [] reason detail request.collectiveInstance.id }

/-- Why the lifecycle of the collective refuses the request, if it does. -/
def lifecycleCheck
    (service : CoordinatorService) (context : ServiceRequestContext)
    (request : DecisionRequest) : Except DecisionRecord CollectiveRecord :=
  match service.catalog.find request.collectiveInstance.id with
  | none =>
    .error (lifecycleRefusal context request .unknown .collectiveGeneration
      .completionUnknownCollective (text "collective_unknown")
      (text "no durable definition exists for this identity; a decision requires a registered collective"))
  | some record =>
    let collectiveClass := record.definition.collectiveClass
    require (record.definition.generation = request.collectiveInstance.generation)
      (lifecycleRefusal context request collectiveClass .collectiveGeneration
        .completionStaleGeneration (text "collective_generation_stale")
        (text "the request names a generation that is not current; membership or semantics changed and every earlier decision is stale")) <|
    require (record.currentAttempt.isNone = false ∧
        record.currentAttempt = request.collectiveInstance.attempt)
      (lifecycleRefusal context request collectiveClass .attemptGeneration
        .completionStaleAttempt (text "attempt_stale")
        (text "the request names an attempt that is not the current attempt of this generation; flow group authority cannot be reused across attempts")) <|
    require (collectiveStateIsTerminal record.state = false)
      (lifecycleRefusal context request collectiveClass .lifecycle
        (if record.state = .cancelled then .completionCancelled else .completionRetired)
        (text "collective_terminal")
        (text "the collective is " ++ record.state.toText ++
          text "; it cannot be restored by a later completion")) <|
    .ok record

/-- A terminal refusal does not count as stale; the other lifecycle refusals do. -/
def countLifecycleRefusal
    (decision : DecisionRecord) (counters : ServiceCounters) : ServiceCounters :=
  { counters with
    rejections := counters.rejections + 1
    rejectionsStale :=
      if decision.axis = .lifecycle then counters.rejectionsStale
      else counters.rejectionsStale + 1
    staleCompletionsRejected := counters.staleCompletionsRejected + 1 }

/-- The definition with the volume of the attempt where it states none. -/
def effectiveDefinition (record : CollectiveRecord) : CollectiveDefinition :=
  if record.definition.logicalBytes = 0 ∧ record.attemptTransferBytes ≠ 0 then
    { record.definition with logicalBytes := record.attemptTransferBytes }
  else
    record.definition

/-- The timing answer of admission applied to a grant. -/
def applyAdmission
    (result : AdmissionResult) (nowMonotonicMs : UInt64) (decision : DecisionRecord)
    (counters : ServiceCounters) : DecisionRecord × ServiceCounters :=
  let decision :=
    { decision with reasons := result.reasons.foldl ReasonChain.addReason decision.reasons }
  match result.outcome with
  | .granted => (decision, { counters with admissions := counters.admissions + 1 })
  | .rateLimited =>
    ({ decision with
        pacing :=
          { decision.pacing with releaseAfterMonotonicMs := nowMonotonicMs + result.waitMs }
        outcome := .rateLimited
        code := .admissionRateLimited },
      { counters with rateLimited := counters.rateLimited + 1 })
  | .clockRegression =>
    ({ decision with
        pacing := { decision.pacing with releaseAfterMonotonicMs := 0 }
        outcome := .deferred
        code := .admissionClockRegression },
      { counters with deferred := counters.deferred + 1 })
  | .bucketTableFull =>
    ({ decision with
        outcome := .rejectedCapacity
        axis := .capacityEvidence
        code := .admissionBucketCapacity },
      { counters with rejections := counters.rejections + 1 })
  | .notApplicable => (decision, counters)

/-- Activates the collective of a grant and asks admission when to release it. -/
def releaseGrant
    (service : CoordinatorService) (nowMonotonicMs : UInt64) (decision : DecisionRecord) :
    DecisionRecord × CoordinatorService :=
  let id := decision.collectiveInstance.id
  let (advanced, catalog) := service.catalog.setState id .active nowMonotonicMs
  if advanced.isOk = false then
    (refused decision .rejectedStale .lifecycle advanced.code (text "activation_failed")
      advanced.message id, service)
  else
    let (result, admission) := service.admission.admitDecision decision nowMonotonicMs
    let (decision, counters) := applyAdmission result nowMonotonicMs decision service.counters
    (decision, { service with catalog := catalog, admission := admission, counters := counters })

/-- Unknown semantics counts as two rejections. -/
def countRefusal (decision : DecisionRecord) (counters : ServiceCounters) : ServiceCounters :=
  if outcomeIsRejection decision.outcome then
    { counters with
      rejections := counters.rejections + (if decision.outcome = .unknownSemantics then 2 else 1)
      rejectionsStale :=
        counters.rejectionsStale + (if decision.outcome = .rejectedStale then 1 else 0) }
  else if outcomeRequiresReplan decision.outcome then
    { counters with replans := counters.replans + 1 }
  else
    counters

/-- Evaluates the request against the authority and settles the outcome. -/
def settleDecision
    (service : CoordinatorService) (context : ServiceRequestContext)
    (request : DecisionRequest) (record : CollectiveRecord) :
    DecisionRecord × CoordinatorService :=
  let evaluated :=
    { evaluate (service.authority.snapshot context.nowMonotonicMs) request
        (effectiveDefinition record) with
      collectiveInstance := request.collectiveInstance }
  if outcomeGrantsAuthority evaluated.outcome then
    service.releaseGrant context.nowMonotonicMs evaluated
  else
    (evaluated, { service with counters := countRefusal evaluated service.counters })

/-- Stores a decision under the caller's correlation value, if it has one. -/
def recordDecision
    (service : CoordinatorService) (context : ServiceRequestContext)
    (decision : DecisionRecord) : CoordinatorService :=
  let (ordinal, history) := service.history.record decision
  { service with
    counters := { service.counters with decisions := service.counters.decisions + 1 }
    history :=
      if context.session.isSome = true ∧ context.correlation ≠ 0 then
        history.bindCorrelation context.correlation ordinal
      else
        history }

/-- Plans a flow group.  A refused context or request returns no decision. -/
def planFlowGroup
    (service : CoordinatorService) (context : ServiceRequestContext)
    (request : DecisionRequest) : Status × Option DecisionRecord × CoordinatorService :=
  let checked := service.checkPlanContext context
  let validated := validateDecisionRequest request
  if checked.isOk = false then
    (checked, none, service)
  else if validated.isOk = false then
    (validated, none, service)
  else
    match service.lifecycleCheck context request with
    | .error decision =>
      (Status.ok, some decision,
        { service with
          counters := countLifecycleRefusal decision service.counters
          history := (service.history.record decision).2 })
    | .ok record =>
      let (decision, service) := service.settleDecision context request record
      (Status.ok, some decision, service.recordDecision context decision)

/-- Whether the caller is a current session on the current epoch. -/
def checkContext
    (service : CoordinatorService) (context : ServiceRequestContext) (reasons : ReasonChain) :
    Status × ReasonChain :=
  match service.sessions.find context.session with
  | none =>
    (.error .envelopeSessionUnknown (text "unknown session"),
      reasons.add (text "session_unknown")
        (text "the request does not come from a session this coordinator owns")
        context.session)
  | some binding =>
    if context.incarnation.isNone = true ∨ binding.incarnation ≠ context.incarnation then
      (.error .envelopeSessionMismatch (text "session incarnation does not match"),
        reasons.add (text "session_incarnation_mismatch")
          (text "the request carries a boot incarnation that this session does not own")
          context.incarnation)
    else if context.epoch.isSome = true ∧ context.epoch ≠ service.authority.epoch then
      (.error .envelopeEpochStale (text "stale coordinator epoch"),
        reasons.add (text "epoch_stale")
          (text "the request names a coordinator epoch that is not current; a restart invalidates every earlier authority")
          context.epoch)
    else
      (Status.ok, reasons)

/-- The generation stated, or the minted one where none is. -/
def statedOrMinted (generation : Identity) (minted : Minted) : Identity :=
  if generation.isNone then minted.id else generation

def countIngest (service : CoordinatorService) : CoordinatorService :=
  { service with
    counters := { service.counters with evidenceIngests := service.counters.evidenceIngests + 1 } }

/-- What an evidence operation returns: its status, the generation in force, the reasons. -/
structure IngestOutcome where
  status : Status
  generation : Option Identity := none
  reasons : ReasonChain
deriving DecidableEq, Repr

/-- How an installation that is not the policy's is answered. -/
def observationAnswer
    (kind : Text) (installed stale invalid : Text) (invalidCode : ErrorCode)
    (evidence invalidSubject : Identity) (reasons : ReasonChain) :
    InstallResult → Status × ReasonChain
  | .installed => (Status.ok, reasons.add (kind ++ text "_installed") installed evidence)
  | .rejectedOlderGeneration =>
    (.error .envelopeEpochStale (kind ++ text " generation is not newer"),
      reasons.add (kind ++ text "_generation_stale") stale evidence)
  | .rejectedInvalid =>
    (.error invalidCode (kind ++ text " evidence rejected"),
      reasons.add (kind ++ text "_invalid") invalid invalidSubject)
  | .rejectedOversized | .rejectedSameGeneration =>
    (.error .decodeCountOutOfRange (kind ++ text " evidence too large"),
      reasons.add (kind ++ text "_oversized")
        (text "the " ++ kind ++ text " observation exceeds the accepted bound") evidence)

def ingestCapacity
    (service : CoordinatorService) (context : ServiceRequestContext)
    (evidence : CapacityEvidence) (minted : Minted) (reasons : ReasonChain) :
    IngestOutcome × CoordinatorService :=
  let (status, reasons) := service.checkContext context reasons
  if status.isOk = false then
    ({ status := status, reasons := reasons }, service)
  else
    let evidence := { evidence with generation := statedOrMinted evidence.generation minted }
    let (result, authority) := service.authority.installCapacity evidence
    let (status, reasons) :=
      observationAnswer (text "capacity")
        (text "capacity observation installed for the current topology")
        (text "a newer capacity observation is already installed; an older one is refused")
        (text "the capacity observation does not match the current topology or is malformed")
        .validationTopologyMissing evidence.generation evidence.topologyGeneration reasons result
    ({ status := status, generation := some authority.capacityGeneration, reasons := reasons },
      countIngest { service with authority := authority })

def ingestCongestion
    (service : CoordinatorService) (context : ServiceRequestContext)
    (evidence : CongestionEvidence) (minted : Minted) (reasons : ReasonChain) :
    IngestOutcome × CoordinatorService :=
  let (status, reasons) := service.checkContext context reasons
  if status.isOk = false then
    ({ status := status, reasons := reasons }, service)
  else
    let evidence :=
      { evidence with
        generation := statedOrMinted evidence.generation minted
        validForMs := min evidence.validForMs service.config.congestionValidForMs }
    let (result, authority) := service.authority.installCongestion evidence
    let (status, reasons) :=
      observationAnswer (text "congestion")
        (text "congestion observation installed for the current topology")
        (text "a newer congestion observation is already installed; an older one is refused")
        (text "the congestion observation does not match the current topology or is malformed")
        .validationTopologyMissing evidence.generation evidence.topologyGeneration reasons result
    ({ status := status, generation := some authority.congestionGeneration, reasons := reasons },
      countIngest { service with authority := authority })

def ingestTopology
    (service : CoordinatorService) (context : ServiceRequestContext)
    (evidence : TopologyEvidence) (minted : Minted) (reasons : ReasonChain) :
    IngestOutcome × CoordinatorService :=
  let (status, reasons) := service.checkContext context reasons
  if status.isOk = false then
    ({ status := status, reasons := reasons }, service)
  else
    let evidence := { evidence with generation := statedOrMinted evidence.generation minted }
    let (result, authority) := service.authority.installTopology evidence
    let (status, reasons) :=
      observationAnswer (text "topology")
        (text "topology installed; capacity and congestion observations were dropped because they describe a previous topology")
        (text "a newer topology is already installed; an older one is refused")
        (text "the topology observation is malformed")
        .validationNodeUnknown evidence.generation evidence.generation reasons result
    let stored := countIngest { service with authority := authority }
    ({ status := status, generation := some authority.topologyGeneration, reasons := reasons },
      if result = .installed then stored.markDurableMutation else stored)

/-- How an installation of a policy is answered; the subject is the generation in force. -/
def policyAnswer (inForce : PolicyGeneration) (reasons : ReasonChain) :
    InstallResult → Status × ReasonChain
  | .installed =>
    (Status.ok,
      reasons.add (text "policy_installed")
        (text "traffic policy installed; earlier decisions bound to a previous policy generation are now stale")
        inForce)
  | .rejectedSameGeneration =>
    (.error .envelopeEpochStale (text "policy generation is already installed"),
      reasons.add (text "policy_generation_reused")
        (text "the policy generation equals the one already installed; a different policy under the same generation would make two incompatible decisions indistinguishable")
        inForce)
  | .rejectedOlderGeneration =>
    (.error .envelopeEpochStale (text "policy generation is superseded"),
      reasons.add (text "policy_generation_superseded")
        (text "this policy generation has already been superseded by a newer one") inForce)
  | .rejectedOversized | .rejectedInvalid =>
    (.error .validationPolicyMissing (text "traffic policy rejected"),
      reasons.add (text "policy_rejected")
        (text "the traffic policy is not internally consistent"))

def installPolicy
    (service : CoordinatorService) (context : ServiceRequestContext)
    (policy : TrafficPolicy) (minted : Minted) (reasons : ReasonChain) :
    IngestOutcome × CoordinatorService :=
  let (status, reasons) := service.checkContext context reasons
  if status.isOk = false then
    ({ status := status, reasons := reasons }, service)
  else
    let policy := { policy with generation := statedOrMinted policy.generation minted }
    let (result, authority) := service.authority.installPolicy policy
    let (status, reasons) := policyAnswer authority.policyGeneration reasons result
    let stored := { service with authority := authority }
    ({ status := status, generation := some authority.policyGeneration, reasons := reasons },
      if result = .installed then stored.markDurableMutation else stored)

/--
Restores a snapshot that was read from a file.  The authority is restored before
the catalog is loaded, so a refused catalog leaves the restored authority.
-/
def restore
    (service : CoordinatorService) (path : Text) (contents : SnapshotContents)
    (nowMonotonicMs : UInt64) : Status × CoordinatorService :=
  let (status, authority) := service.authority.restoreDurable contents.authority nowMonotonicMs
  if status.isOk = false then
    (status, service)
  else
    let (status, catalog) := service.catalog.load contents.records
    if status.isOk = false then
      (status, { service with authority := authority })
    else
      (Status.ok,
        { service with
          authority := authority
          catalog := catalog
          persistencePath := path
          persistenceDirty := false
          counters := { service.counters with restores := service.counters.restores + 1 } })

def resetCounters (service : CoordinatorService) : CoordinatorService :=
  { service with counters := {} }

def setConfig (service : CoordinatorService) (config : ServiceConfig) : CoordinatorService :=
  { service with
    config := config
    history := service.history.setCapacity config.decisionHistoryCapacity }

end CoordinatorService

end TrafficFabric
