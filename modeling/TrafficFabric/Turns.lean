import TrafficFabric.Coordinator
import TrafficFabric.SessionTable

/-!
# What a turn of a session thread does

A turn performs a list of service operations, so the networked coordinator
simulates the service it serves, and every invariant of the service holds of
the service behind the network.

One relation lists everything a turn can do to its thread and to the log: send
replies, refuse a frame and shut the socket down, open a session, complete the
handshake, accept the envelope of a frame, or dispatch a frame.  The results on
whole runs of the coordinator are read off this relation and off the fact that
the sequence of an open session never decreases.
-/

namespace TrafficFabric

open Lib CoordinatorService CoordinatorHandler CoordinatorServer

section Envelopes

/-- What an accepted envelope says of the binding it was checked against. -/
theorem newer_of_checkBinding {epoch : CoordinatorEpoch} {binding : SessionBinding}
    {envelope : EnvelopeView} {reasons : ReasonChain}
    (h : (checkBinding epoch binding envelope reasons).1.isOk = true) :
    binding.lastFrameSequence.value < envelope.frameSequence.value := by
  unfold checkBinding at h
  split_ifs at h with hepoch hunset hfenced hforeign hmissing hreplayed
  case neg => exact UInt64.not_le.mp hreplayed
  all_goals exact absurd h (by simp)

variable (service : CoordinatorService) (envelope : EnvelopeView) (now : UInt64)
    (reasons : ReasonChain)

/-- The envelopes whose refusal closes the connection. -/
def EnvelopeCloses (service : CoordinatorService) (envelope : EnvelopeView) : Prop :=
  envelope.session = Identity.none ∨
    service.sessions.find envelope.session = none ∨
    ∃ binding, service.sessions.find envelope.session = some binding ∧
      envelope.epoch ≠ Identity.none ∧ envelope.epoch = service.authority.epoch ∧
      (envelope.incarnation = Identity.none ∨ envelope.incarnation ≠ binding.incarnation)

theorem checkBinding_closes_iff (epoch : CoordinatorEpoch) (binding : SessionBinding) :
    closesConnection
        (checkBinding epoch binding envelope reasons).1.code = true ↔
      envelope.epoch ≠ Identity.none ∧ envelope.epoch = epoch ∧
        (envelope.incarnation = Identity.none ∨ envelope.incarnation ≠ binding.incarnation) := by
  unfold checkBinding
  simp only [Identity.isNone_eq_true_iff]
  by_cases hepoch : envelope.epoch = Identity.none ∨ envelope.epoch ≠ epoch
  · have hstale : ¬ (envelope.epoch ≠ Identity.none ∧ envelope.epoch = epoch) := by
      rw [not_and_or, not_not]
      exact hepoch
    rw [if_pos hepoch, ← and_assoc, iff_false_right (fun h => hstale h.1)]
    simp [closesConnection]
  · rw [if_neg hepoch]
    obtain ⟨hset, hcurrent⟩ := not_or.mp hepoch
    rw [and_iff_right hset, and_iff_right (not_not.mp hcurrent)]
    split_ifs with hunset hfenced hforeign hmissing hreplayed
    · simp [closesConnection, hunset]
    · simp [closesConnection, ne_of_lt hfenced]
    all_goals simp [closesConnection, Status.ok, hunset, hforeign]

/-- The refusals that close the connection, read off the service and the envelope. -/
theorem validateEnvelope_closes_iff :
    closesConnection
        (service.validateEnvelope envelope now reasons).1.code = true ↔
      EnvelopeCloses service envelope := by
  unfold EnvelopeCloses
  simp only [validateEnvelope]
  split
  · rename_i hnone
    simp [closesConnection, Identity.isNone_eq_true_iff _ |>.mp hnone]
  · rename_i hsome
    have hsession : envelope.session ≠ Identity.none := by simpa using hsome
    cases hbinding : service.sessions.find envelope.session with
    | none => simp [closesConnection]
    | some binding =>
      have hchecked := checkBinding_closes_iff envelope reasons service.authority.epoch binding
      simp only [hsession, reduceCtorEq, Option.some.injEq, false_or, exists_eq_left', ← hchecked]
      split
      · rfl
      · rename_i hok
        simp only [Bool.not_eq_false, Status.isOk_eq_true_iff] at hok
        rw [hok]
        rfl

end Envelopes

section Simulation

variable (decoders : RequestDecoders) (key : ConnectionKey) (shared : Shared) (worker : Worker)

namespace CoordinatorHandler

/-- The service operations the handling of a frame performs, up to its dispatch. -/
def frameTrace (frame : Frame) (now : UInt64) : List ServiceOp :=
  match worker.entry with
  | none => []
  | some state =>
    if state.rejected = false ∧ state.hellosPending = 0 ∧
        frame.envelope.session = state.session ∧
        frame.envelope.incarnation = state.incarnation then
      [.validateEnvelope (envelopeView frame) now []]
    else
      []

/-- The service operations the dispatch of a frame performs. -/
def dispatchTrace
    (frame : Frame) (context : ServiceRequestContext) (minted : Minted) : List ServiceOp :=
  match worker.entry, decodeRequest decoders frame.payload (.ofRaw frame.kind) with
  | some _, some (.ok request) => (request.op context minted).toList
  | _, _ => []

/-- The service operations of the end of a connection. -/
def closeTrace (now : UInt64) : List ServiceOp :=
  let session := (worker.entry.map ConnectionState.session).getD {}
  if session.isSome then [.closeSession session now] else []

theorem onOpen_service (now : UInt64) (id incarnation : Minted) :
    (onOpen key shared worker now id incarnation).1.service =
      serviceStep shared.service (.openSession (text "pending-handshake") now id incarnation) := by
  simp only [onOpen]
  split <;> rfl

theorem onHello_service (state : ConnectionState) (frame : Frame) :
    (onHello key shared worker state frame).1.service = shared.service := by
  unfold onHello
  split
  · rfl
  · split <;> rfl

/-- A frame of the connection's own session costs one validation, whatever follows from it. -/
theorem onEstablished_service (state : ConnectionState) (frame : Frame) (now : UInt64)
    (howned : frame.envelope.session = state.session ∧
      frame.envelope.incarnation = state.incarnation) :
    (onEstablished key shared worker state frame now).1.service =
      serviceStep shared.service (.validateEnvelope (envelopeView frame) now []) := by
  simp only [onEstablished, howned, ne_eq, not_true_eq_false, or_self, if_false, serviceStep]
  rcases validateEnvelope_cases shared.service (envelopeView frame) now [] with
    ⟨hrefused, hkept⟩ | ⟨haccepted, _⟩
  · rw [if_pos hrefused, hkept]
    split <;> rfl
  · rw [if_neg (by simp only [haccepted, Bool.true_eq_false, not_false_eq_true])]
    split <;> rfl

theorem onFrame_service (frame : Frame) (now : UInt64) :
    (onFrame key shared worker frame now).1.service =
      run serviceStep shared.service (frameTrace worker frame now) := by
  unfold onFrame frameTrace
  cases worker.entry with
  | none => rfl
  | some state =>
    simp only
    split
    · rename_i hrejected
      simp [hrejected, refuse, resume, Shared.note]
    · rename_i haccepted
      split
      · rename_i hpending
        simp [hpending, onHello_service]
      · rename_i hestablished
        split
        · rename_i howned
          exact onEstablished_service key shared worker state frame now howned.2.2
        · rename_i hforeign
          have hdiffers : frame.envelope.session ≠ state.session ∨
              frame.envelope.incarnation ≠ state.incarnation := by
            by_contra hsame
            rw [not_or, not_not, not_not] at hsame
            exact hforeign ⟨by simpa using haccepted, by simpa using hestablished, hsame⟩
          rw [onEstablished, if_pos hdiffers]
          rfl

theorem perform_service (context : ServiceRequestContext) (minted : Minted) (request : Request) :
    (perform shared worker context minted request).1.service =
      run serviceStep shared.service (request.op context minted).toList := by
  unfold perform
  cases request.op context minted <;> rfl

theorem dispatch_service (frame : Frame) (context : ServiceRequestContext) (minted : Minted) :
    (dispatch key shared worker decoders frame context minted).1.service =
      run serviceStep shared.service (dispatchTrace decoders worker frame context minted) := by
  unfold dispatch dispatchTrace
  cases worker.entry with
  | none => rfl
  | some state =>
    simp only
    split
    · rename_i hhello
      rw [hhello]
      rfl
    · split
      · rename_i hdecoded
        rw [hdecoded]
        rfl
      · rename_i status hdecoded
        rw [hdecoded]
        rfl
      · rename_i request hdecoded
        rw [hdecoded]
        exact perform_service _ worker context minted request

end CoordinatorHandler

/-- The service operations of a turn. -/
def turnTrace (input : TurnInput) : List ServiceOp :=
  match worker.phase, input with
  | .opening, .opened now id incarnation =>
    [.openSession (text "pending-handshake") now id incarnation]
  | .received frame, .clock now => CoordinatorHandler.frameTrace worker frame now
  | .dispatching frame context, .minted generation =>
    CoordinatorHandler.dispatchTrace decoders worker frame context generation
  | .persisting _, .clock now => [.flush now]
  | .saving pending _, .saved true => [.completeSave pending.capturedSequence]
  | .closing _, .clock now => CoordinatorHandler.closeTrace worker now
  | _, _ => []

theorem turn_service (input : TurnInput) :
    (turn decoders key shared worker input).1.service =
      run serviceStep shared.service (turnTrace decoders worker input) := by
  unfold turn turnTrace
  -- an input that does not fit the phase performs no operation
  cases worker.phase <;> cases input <;> try rfl
  case opening.opened now id incarnation =>
    exact onOpen_service key shared worker now id incarnation
  case ready.none =>
    simp only
    split <;> rfl
  case receiving.arrived arrival =>
    simp only
    split <;> rfl
  case received.clock frame now =>
    exact onFrame_service key shared worker frame now
  case dispatching.minted frame context generation =>
    exact dispatch_service decoders key shared worker frame context generation
  case saving.saved pending reply success =>
    cases success <;> rfl
  case closing.clock reason now =>
    simp only [onClose, closeTrace]
    split <;> rfl

/-- The service operations of a step of the coordinator. -/
def serverTrace (server : CoordinatorServer) : ServerOp → List ServiceOp
  | .turn key input =>
    match server.workers.find key with
    | none => []
    | some worker => turnTrace decoders worker input
  | .service op => [op]
  | _ => []

/-- The networked coordinator performs service operations and no others. -/
theorem serverStep_simulates_service :
    Simulates (serverStep decoders) serviceStep (fun server => server.shared.service)
      (serverTrace decoders) := by
  intro server op
  cases op with
  | listen =>
    simp only [serverStep, serverTrace, CoordinatorServer.listen]
    split <;> rfl
  | accept key =>
    simp only [serverStep, serverTrace, accept]
    split_ifs <;> rfl
  | turn key input =>
    simp only [serverStep, serverTrace]
    cases server.workers.find key with
    | none => rfl
    | some worker => exact turn_service decoders key server.shared worker input
  | service op => rfl
  | shutdown =>
    simp only [serverStep, serverTrace, shutdown]
    split <;> rfl

/-- Whatever the network does, the service behind it is in a state its own operations reach. -/
theorem serviceReachable_of_reachable {config : CoordinatorConfig} {server : CoordinatorServer}
    (h : Reachable (serverStep decoders) (.create config) server) :
    ServiceReachable server.shared.service := by
  exact ⟨config.service, (serverStep_simulates_service decoders).reachable h⟩

end Simulation

section Sequences

variable {fresh : List SessionId} {op : ServiceOp}

/-- The session identities an operation mints. -/
def ServiceOp.mints : ServiceOp → List SessionId
  | .openSession _ _ id _ => [id.id]
  | _ => []

def TurnInput.mints : TurnInput → List SessionId
  | .opened _ id _ => [id.id]
  | _ => []

def ServerOp.mints : ServerOp → List SessionId
  | .turn _ input => input.mints
  | .service op => op.mints
  | _ => []

/-- Every open session is newly minted, or was open with a sequence no greater. -/
def SessionsAdvance (s s' : CoordinatorService) (fresh : List SessionId) : Prop :=
  ∀ k binding', s'.sessions.find k = some binding' →
    k ∈ fresh ∨ ∃ binding, s.sessions.find k = some binding ∧
      binding.lastFrameSequence.value ≤ binding'.lastFrameSequence.value

theorem SessionsAdvance.refl (s : CoordinatorService) (fresh : List SessionId) :
    SessionsAdvance s s fresh := by
  intro k binding hbinding
  exact .inr ⟨binding, hbinding, UInt64.le_refl _⟩

theorem SessionsAdvance.trans {s s' s'' : CoordinatorService} (h : SessionsAdvance s s' fresh)
    (h' : SessionsAdvance s' s'' fresh) : SessionsAdvance s s'' fresh := by
  intro k binding'' hbinding''
  rcases h' k binding'' hbinding'' with hfresh | ⟨binding', hbinding', hle'⟩
  · exact .inl hfresh
  · rcases h k binding' hbinding' with hfresh | ⟨binding, hbinding, hle⟩
    · exact .inl hfresh
    · exact .inr ⟨binding, hbinding, UInt64.le_trans hle hle'⟩

theorem serviceStep_sessionsAdvance (s : CoordinatorService) (hmints : op.mints ⊆ fresh) :
    SessionsAdvance s (serviceStep s op) fresh := by
  intro k binding' hbinding'
  cases serviceStep_sessionChange s op k with
  | kept session => exact .inr ⟨binding', session ▸ hbinding', UInt64.le_refl _⟩
  | opened _ _ _ _ called named =>
    subst called
    exact .inl (hmints (by simp [ServiceOp.mints, named]))
  | advanced _ _ _ binding _ _ before checked session =>
    rw [session] at hbinding'
    cases hbinding'
    exact .inr ⟨binding, before, UInt64.le_of_lt (newer_of_checkBinding checked)⟩
  | counted binding before session =>
    rw [session] at hbinding'
    cases hbinding'
    exact .inr ⟨binding, before, UInt64.le_refl _⟩
  | dropped _ session =>
    rw [session] at hbinding'
    cases hbinding'

theorem run_sessionsAdvance (s : CoordinatorService) {ops : List ServiceOp}
    (hmints : ∀ op ∈ ops, op.mints ⊆ fresh) : SessionsAdvance s (run serviceStep s ops) fresh := by
  induction ops generalizing s with
  | nil => exact .refl s fresh
  | cons op ops ih =>
    have hfirst := serviceStep_sessionsAdvance s (hmints op (by simp))
    exact hfirst.trans (ih (serviceStep s op) fun op' hop' => hmints op' (by simp [hop']))

/-- A request mints no session. -/
theorem Request.op_mints {context : ServiceRequestContext} {minted : Minted} {request : Request}
    (h : request.op context minted = some op) : op.mints = [] := by
  cases request with
  | ingestEvidence payload => cases payload <;> cases h <;> rfl
  | _ => cases h <;> rfl

/-- The operations of a turn mint what its input brings. -/
theorem turnTrace_mints {decoders : RequestDecoders} {worker : Worker} {input : TurnInput}
    (hop : op ∈ turnTrace decoders worker input) : op.mints ⊆ input.mints := by
  unfold turnTrace at hop
  split at hop
  · rw [List.mem_singleton.mp hop]
    exact List.Subset.refl _
  · unfold frameTrace at hop
    split at hop
    · cases hop
    · rw [List.mem_ite_nil_right, List.mem_singleton] at hop
      rw [hop.2]
      exact List.nil_subset _
  · unfold dispatchTrace at hop
    split at hop
    · rw [Request.op_mints (Option.mem_toList.mp hop)]
      exact List.nil_subset _
    · cases hop
  · rw [List.mem_singleton.mp hop]
    exact List.nil_subset _
  · rw [List.mem_singleton.mp hop]
    exact List.nil_subset _
  · simp only [closeTrace, List.mem_ite_nil_right, List.mem_singleton] at hop
    rw [hop.2]
    exact List.nil_subset _
  · cases hop

theorem serverStep_sessionsAdvance (decoders : RequestDecoders) (server : CoordinatorServer)
    (step : ServerOp) :
    SessionsAdvance server.shared.service (serverStep decoders server step).shared.service
      step.mints := by
  have hservice := serverStep_simulates_service decoders server step
  simp only at hservice
  rw [hservice]
  refine run_sessionsAdvance _ ?_
  intro op hop
  cases step with
  | turn =>
    simp only [serverTrace] at hop
    split at hop
    · cases hop
    · exact turnTrace_mints hop
  | service op' =>
    rw [List.mem_singleton.mp hop]
    exact List.Subset.refl _
  | _ => cases hop

end Sequences

section Threads

/-- The frames on which the handler closes the connection. -/
def ClosesOn (service : CoordinatorService) (worker : Worker) (frame : Frame) : Prop :=
  match worker.entry with
  | none => True
  | some state =>
    state.rejected = true ∨
      (state.hellosPending ≠ 0 ∧
        (frame.kind ≠ MessageKind.hello.toRaw ∨
          ∃ status, decodeHello frame.payload = .error status)) ∨
      (state.hellosPending = 0 ∧
        (frame.envelope.session ≠ state.session ∨
          frame.envelope.incarnation ≠ state.incarnation ∨
          EnvelopeCloses service (CoordinatorHandler.envelopeView frame)))

/-- The thread is no nearer to a handshake than before. -/
structure KeepsHandshake (worker worker' : Worker) : Prop where
  opening : worker'.phase = .opening → worker.phase = .opening
  entry : ∀ state, worker'.entry = some state → state.rejected = false → worker.entry = some state

/-- The thread holds no new frame to dispatch. -/
def KeepsDispatch (worker worker' : Worker) : Prop :=
  ∀ frame context, worker'.phase = .dispatching frame context →
    worker.phase = .dispatching frame context

/-- Everything a turn can do to its thread and to the log. -/
inductive TurnChange
    (key : ConnectionKey) (shared : Shared) (worker : Worker) (input : TurnInput) :
    Turn → Prop
  | idle {shared' : Shared} {worker' : Worker}
      (replies : List Reply)
      (log : shared'.log = replies.map (.sent key) ++ shared.log)
      (handshake : KeepsHandshake worker worker')
      (dispatch : KeepsDispatch worker worker') :
      TurnChange key shared worker input (shared', worker')
  | refused {shared' : Shared}
      (frame : Frame) (replies : List Reply)
      (phase : worker.phase = .received frame)
      (closes : ClosesOn shared.service worker frame)
      (log : shared'.log = .refused key :: (replies.map (.sent key) ++ shared.log)) :
      TurnChange key shared worker input
        (shared', { worker with connection := worker.connection.shutdownSocket, phase := .ready })
  | opened {shared' : Shared} {worker' : Worker}
      (now : UInt64) (id incarnation : Minted) (state : ConnectionState)
      (phase : worker.phase = .opening)
      (called : input = .opened now id incarnation)
      (log : shared'.log = .opened key id.id :: shared.log)
      (phase' : worker'.phase = .ready)
      (entry' : worker'.entry = some state)
      (named : state.session = id.id)
      (pending : state.hellosPending = 1) :
      TurnChange key shared worker input (shared', worker')
  | greeted {shared' : Shared} {worker' : Worker}
      (state state' : ConnectionState) (reply : Reply)
      (entry : worker.entry = some state)
      (accepted : state.rejected = false)
      (received : ∃ frame, worker.phase = .received frame)
      (log : shared'.log = .sent key reply :: .greeted key :: shared.log)
      (phase' : worker'.phase = .ready)
      (entry' : worker'.entry = some state')
      (named : state'.session = state.session) :
      TurnChange key shared worker input (shared', worker')
  | validated {shared' : Shared}
      (frame : Frame) (now : UInt64) (state : ConnectionState) (binding : SessionBinding)
      (phase : worker.phase = .received frame)
      (entry : worker.entry = some state)
      (accepted : state.rejected = false)
      (established : state.hellosPending = 0)
      (owned : frame.envelope.session = state.session)
      (log : shared'.log = shared.log)
      (before : shared.service.sessions.find state.session = some binding)
      (newer : binding.lastFrameSequence.value < frame.envelope.frameSequence.value)
      (after : ∀ binding', shared'.service.sessions.find state.session = some binding' →
        binding'.lastFrameSequence = frame.envelope.frameSequence) :
      TurnChange key shared worker input
        (shared',
          { worker with
            phase := .dispatching frame (CoordinatorHandler.requestContext frame now) })
  | dispatched {shared' : Shared} {worker' : Worker}
      (frame : Frame) (context : ServiceRequestContext)
      (phase : worker.phase = .dispatching frame context)
      (log : shared'.log = .dispatched key context frame.envelope.frameSequence :: shared.log)
      (entry' : worker'.entry = worker.entry)
      (reply : Reply)
      (phase' : worker'.phase = .replying reply ∨ worker'.phase = .persisting reply) :
      TurnChange key shared worker input (shared', worker')

/-- A turn that changes neither the log nor the handshake, and ends in a plain phase. -/
theorem TurnChange.quiet {key : ConnectionKey} {shared shared' : Shared} {worker worker' : Worker}
    {input : TurnInput} (log : shared'.log = shared.log) (entry' : worker'.entry = worker.entry)
    (opening : worker'.phase ≠ .opening) (dispatch : KeepsDispatch worker worker') :
    TurnChange key shared worker input (shared', worker') := by
  refine .idle [] log ⟨fun h => absurd h opening, ?_⟩ dispatch
  intro state hstate _
  exact entry' ▸ hstate

namespace CoordinatorHandler

variable (key : ConnectionKey) (shared : Shared) (worker : Worker)

theorem onOpen_change (now : UInt64) (id incarnation : Minted) (hphase : worker.phase = .opening) :
    TurnChange key shared worker (.opened now id incarnation)
      (onOpen key shared worker now id incarnation) := by
  simp only [onOpen]
  split
  · refine .idle [] rfl ⟨?_, ?_⟩ ?_
    · nofun
    · rintro state ⟨⟩ haccepted
      cases haccepted
    · nofun
  · rename_i hopened
    have hid : (shared.service.openSession (text "pending-handshake") now id incarnation).2.1.id =
        id.id := by
      unfold openSession at hopened ⊢
      split_ifs at hopened ⊢ <;> simp_all
    exact .opened now id incarnation _ hphase rfl (by simp only [Shared.note, hid]) rfl rfl hid rfl

theorem onHello_change (state : ConnectionState) (frame : Frame) (now : UInt64)
    (hphase : worker.phase = .received frame) (hentry : worker.entry = some state)
    (haccepted : state.rejected = false) (hpending : state.hellosPending ≠ 0) :
    TurnChange key shared worker (.clock now) (onHello key shared worker state frame) := by
  have hcloses : ∀ h : frame.kind ≠ MessageKind.hello.toRaw ∨
      ∃ status, decodeHello frame.payload = .error status,
      ClosesOn shared.service worker frame := by
    intro h
    simp only [ClosesOn, hentry]
    exact .inr (.inl ⟨hpending, h⟩)
  unfold onHello
  split
  · rename_i hkind
    exact .refused frame [_] hphase (hcloses (.inl hkind)) rfl
  · split
    · rename_i status hmalformed
      exact .refused frame [_] hphase (hcloses (.inr ⟨status, hmalformed⟩)) rfl
    · exact .greeted state _ _ hentry haccepted ⟨frame, hphase⟩ rfl rfl rfl rfl

theorem onEstablished_change (state : ConnectionState) (frame : Frame) (now : UInt64)
    (hphase : worker.phase = .received frame) (hentry : worker.entry = some state)
    (haccepted : state.rejected = false) (hestablished : state.hellosPending = 0) :
    TurnChange key shared worker (.clock now)
      (onEstablished key shared worker state frame now) := by
  have hcloses : ∀ h : frame.envelope.session ≠ state.session ∨
      frame.envelope.incarnation ≠ state.incarnation ∨
      EnvelopeCloses shared.service (envelopeView frame),
      ClosesOn shared.service worker frame := by
    intro h
    simp only [ClosesOn, hentry]
    exact .inr (.inr ⟨hestablished, h⟩)
  simp only [onEstablished]
  split
  · rename_i hforeign
    refine .refused frame [_] hphase (hcloses ?_) rfl
    rw [← or_assoc]
    exact .inl hforeign
  · rename_i howned
    rw [not_or, not_not, not_not] at howned
    rcases validateEnvelope_cases shared.service (envelopeView frame) now [] with
      ⟨hrefused, hkept⟩ | ⟨hvalid, binding, hbefore, hchecked, hafter⟩
    · rw [if_pos hrefused]
      split
      · rename_i hcode
        refine .refused frame [_] hphase (hcloses (.inr (.inr ?_))) rfl
        exact (validateEnvelope_closes_iff shared.service _ now []).mp hcode
      · exact .idle [_] rfl ⟨nofun, fun _ h _ => h⟩ nofun
    · rw [if_neg (by simp only [hvalid, Bool.true_eq_false, not_false_eq_true])]
      have hsession : (envelopeView frame).session = state.session := howned.1
      rw [hsession] at hbefore
      split
      · exact .idle [_] rfl ⟨nofun, fun _ h _ => h⟩ nofun
      · refine .validated frame now state binding hphase hentry haccepted hestablished howned.1 rfl
          hbefore (newer_of_checkBinding hchecked) ?_
        intro binding' hbinding'
        simp only [hafter, hsession, KeyMap.find_assign_self, Option.some.injEq] at hbinding'
        rw [← hbinding']
        rfl

theorem onFrame_change (frame : Frame) (now : UInt64) (hphase : worker.phase = .received frame) :
    TurnChange key shared worker (.clock now) (onFrame key shared worker frame now) := by
  unfold onFrame
  cases hentry : worker.entry with
  | none => exact .refused frame [] hphase (by simp [ClosesOn, hentry]) rfl
  | some state =>
    simp only
    split
    · rename_i hrejected
      exact .refused frame [] hphase (by simp [ClosesOn, hentry, hrejected]) rfl
    · rename_i haccepted
      rw [Bool.not_eq_true] at haccepted
      split
      · rename_i hpending
        exact onHello_change key shared worker state frame now hphase hentry haccepted hpending
      · rename_i hestablished
        exact onEstablished_change key shared worker state frame now hphase hentry haccepted
          (not_not.mp hestablished)

/-- Handling a frame leaves the thread ready, or with this frame to dispatch. -/
theorem onFrame_settled (frame : Frame) (now : UInt64) :
    let after := onFrame key shared worker frame now
    after.1.config = shared.config ∧ after.1.shutdownRequested = shared.shutdownRequested ∧
      (after.2.phase = .ready ∨ ∃ context, after.2.phase = .dispatching frame context) := by
  unfold onFrame
  split
  · exact ⟨rfl, rfl, .inl rfl⟩
  · split_ifs
    · exact ⟨rfl, rfl, .inl rfl⟩
    · unfold onHello
      split
      · exact ⟨rfl, rfl, .inl rfl⟩
      · split <;> exact ⟨rfl, rfl, .inl rfl⟩
    · simp only [onEstablished]
      split_ifs
      · exact ⟨rfl, rfl, .inl rfl⟩
      · exact ⟨rfl, rfl, .inl rfl⟩
      · exact ⟨rfl, rfl, .inl rfl⟩
      · exact ⟨rfl, rfl, .inl rfl⟩
      · exact ⟨rfl, rfl, .inr ⟨_, rfl⟩⟩

theorem perform_change (frame : Frame) (context : ServiceRequestContext) (minted : Minted)
    (request : Request) (hphase : worker.phase = .dispatching frame context) :
    TurnChange key shared worker (.minted minted)
      (perform (shared.note (.dispatched key context frame.envelope.frameSequence)) worker
        context minted request) := by
  refine .dispatched frame context hphase rfl rfl (request.reply shared.service context) ?_
  simp only
  split
  · exact .inr rfl
  · exact .inl rfl

theorem dispatch_change (decoders : RequestDecoders) (frame : Frame)
    (context : ServiceRequestContext) (minted : Minted)
    (hphase : worker.phase = .dispatching frame context) :
    TurnChange key shared worker (.minted minted)
      (dispatch key shared worker decoders frame context minted) := by
  unfold dispatch
  cases hentry : worker.entry with
  | none => exact .quiet rfl rfl nofun nofun
  | some state =>
    simp only
    split
    · exact .dispatched frame context hphase rfl rfl _ (.inl rfl)
    · split
      · exact .dispatched frame context hphase rfl rfl _ (.inl rfl)
      · exact .dispatched frame context hphase rfl rfl _ (.inl rfl)
      · exact perform_change key shared worker frame context minted _ hphase

end CoordinatorHandler

/-- Everything a turn of a session thread can do. -/
theorem turn_change (decoders : RequestDecoders) (key : ConnectionKey) (shared : Shared)
    (worker : Worker) (input : TurnInput) :
    TurnChange key shared worker input (turn decoders key shared worker input) := by
  have hsame : TurnChange key shared worker input (shared, worker) :=
    .idle [] rfl ⟨id, fun _ h _ => h⟩ fun _ _ h => h
  unfold turn
  cases hphase : worker.phase <;> cases input <;> try exact hsame
  case opening.opened now id incarnation =>
    exact onOpen_change key shared worker now id incarnation hphase
  case ready.none =>
    simp only
    split <;> exact .quiet rfl rfl nofun nofun
  case receiving.arrived arrival =>
    simp only
    split
    · exact .quiet rfl rfl nofun nofun
    · exact .quiet rfl rfl (by simp) (by simp [KeepsDispatch])
    · exact .quiet rfl rfl nofun nofun
  case received.clock frame now =>
    exact onFrame_change key shared worker frame now hphase
  case dispatching.minted frame context generation =>
    exact dispatch_change key shared worker decoders frame context generation hphase
  case persisting.clock reply now =>
    simp only
    split <;> exact .quiet rfl rfl nofun nofun
  case saving.saved pending reply success =>
    exact .quiet rfl rfl nofun nofun
  case replying.none reply =>
    exact .idle [reply] rfl ⟨nofun, fun _ h _ => h⟩ nofun
  case closing.clock reason now =>
    exact .idle [] rfl ⟨nofun, nofun⟩ nofun

/-- No turn changes the configuration or takes back that a shutdown was asked for. -/
theorem turn_settings (decoders : RequestDecoders) (key : ConnectionKey) (shared : Shared)
    (worker : Worker) (input : TurnInput) :
    (turn decoders key shared worker input).1.config = shared.config ∧
      (shared.shutdownRequested = true →
        (turn decoders key shared worker input).1.shutdownRequested = true) := by
  unfold turn
  cases worker.phase <;> cases input <;> try exact ⟨rfl, id⟩
  case opening.opened now id incarnation =>
    simp only [onOpen]
    split <;> exact ⟨rfl, fun h => h⟩
  case ready.none | receiving.arrived =>
    simp only
    split <;> exact ⟨rfl, id⟩
  case received.clock frame now =>
    obtain ⟨hconfig, hflag, -⟩ := onFrame_settled key shared worker frame now
    exact ⟨hconfig, hflag.trans⟩
  case dispatching.minted frame context generation =>
    simp only [dispatch]
    split
    · exact ⟨rfl, id⟩
    · split
      · exact ⟨rfl, id⟩
      · split
        · exact ⟨rfl, id⟩
        · exact ⟨rfl, id⟩
        · refine ⟨rfl, fun h => ?_⟩
          simp only [perform]
          split
          · rfl
          · exact h

/-- The thread of a connection; one that was not accepted is still to be opened. -/
def CoordinatorServer.thread (server : CoordinatorServer) (key : ConnectionKey) : Worker :=
  (server.workers.find key).getD {}

/-- A step of the coordinator is a turn of one thread, or it leaves the log and the threads. -/
inductive ServerChange
    (decoders : RequestDecoders) (server server' : CoordinatorServer) (step : ServerOp) : Prop
  | steady
      (log : server'.shared.log = server.shared.log)
      (phase : ∀ key, (server'.thread key).phase = (server.thread key).phase)
      (entry : ∀ key, (server'.thread key).entry = (server.thread key).entry)
  | turned
      (key : ConnectionKey) (input : TurnInput)
      (called : step = .turn key input)
      (next : (server'.shared, server'.thread key) =
        turn decoders key server.shared (server.thread key) input)
      (others : ∀ k, k ≠ key → server'.thread k = server.thread k)

theorem serverStep_change (decoders : RequestDecoders) (server : CoordinatorServer)
    (step : ServerOp) : ServerChange decoders server (serverStep decoders server step) step := by
  cases step with
  | listen =>
    simp only [serverStep, CoordinatorServer.listen]
    split <;> exact .steady rfl (fun _ => rfl) fun _ => rfl
  | accept key =>
    simp only [serverStep, accept]
    split_ifs with hclosed hfull
    · exact .steady rfl (fun _ => rfl) fun _ => rfl
    · exact .steady rfl (fun _ => rfl) fun _ => rfl
    · have hnew : server.workers.find key = none := not_not.mp (not_or.mp hclosed).2
      refine .steady rfl ?_ ?_ <;>
        · intro k
          by_cases hk : k = key
          · subst hk
            simp [thread, hnew]
          · simp [thread, KeyMap.find_assign_of_ne _ _ hk]
  | turn key input =>
    simp only [serverStep]
    cases hworker : server.workers.find key with
    | none => exact .steady rfl (fun _ => rfl) fun _ => rfl
    | some worker =>
      refine .turned key input rfl ?_ ?_
      · simp [thread, hworker]
      · intro k hk
        simp [thread, KeyMap.find_assign_of_ne _ _ hk]
  | service op => exact .steady rfl (fun _ => rfl) fun _ => rfl
  | shutdown =>
    simp only [serverStep, shutdown]
    split
    · exact .steady rfl (fun _ => rfl) fun _ => rfl
    · refine .steady rfl ?_ ?_ <;>
        · intro k
          simp only [thread, KeyMap.find_mapValues]
          cases server.workers.find k <;> rfl

end Threads

end TrafficFabric
