import TrafficFabric.Handshake
import TrafficFabric.HeartbeatAnswer

/-!
# Work after a shutdown request

A shutdown request is answered by an acknowledgement and recorded in a flag that
the host of the coordinator may read.  No handler reads it: a frame that arrives
afterwards is handled as before.

New work therefore ends with the acknowledgement exactly as far as the peers send
none.  A frame received after the acknowledgement is followed through the turns
of its thread, whatever the other threads do in between; if it asks for no
operation of the service, none of these turns changes what the coordinator keeps.
-/

namespace TrafficFabric

open Lib CoordinatorHandler

/-- The event is the answer to a shutdown request. -/
def Event.acknowledgesShutdown : Event → Bool
  | .sent _ (.typed .shutdownAck) => true
  | _ => false

/-- A shutdown request has been recorded and answered. -/
def Shared.ShutdownAnswered (shared : Shared) : Prop :=
  shared.shutdownRequested = true ∧ ∃ event ∈ shared.log, event.acknowledgesShutdown = true

instance (shared : Shared) : Decidable shared.ShutdownAnswered :=
  inferInstanceAs (Decidable (_ ∧ _))

/-- The two states keep the same collectives, policy, evidence and participants. -/
structure SameWork (s s' : CoordinatorService) : Prop where
  catalog : s'.catalog = s.catalog
  policy : s'.authority.policy = s.authority.policy
  topology : s'.authority.topology = s.authority.topology
  capacity : s'.authority.capacity = s.authority.capacity
  congestion : s'.authority.congestion = s.authority.congestion
  generations :
    s'.authority.policyGeneration = s.authority.policyGeneration ∧
      s'.authority.topologyGeneration = s.authority.topologyGeneration ∧
      s'.authority.capacityGeneration = s.authority.capacityGeneration ∧
      s'.authority.congestionGeneration = s.authority.congestionGeneration
  peers : s'.authority.peers = s.authority.peers

namespace Phase

/-- The thread is handling a frame it has received. -/
def handles : Phase → Bool
  | .received _ => true
  | .dispatching _ _ => true
  | .persisting _ => true
  | .saving _ _ => true
  | .replying _ => true
  | _ => false

/-- The frame of the thread, as long as its request has not been performed. -/
def frame? : Phase → Option Frame
  | .received frame => some frame
  | .dispatching frame _ => some frame
  | _ => none

end Phase

/-- The requests that ask for an operation of the service. -/
def Request.asksForWork : Request → Bool
  | .heartbeat _ => true
  | .registerCollective _ => true
  | .beginAttempt _ => true
  | .planFlowGroup _ => true
  | .cancelCollective _ => true
  | .retireCollective _ => true
  | .ingestEvidence .none => false
  | .ingestEvidence _ => true
  | .inspect _ => false
  | .explain _ => false
  | .installPolicy _ => true
  | .shutdown => false

theorem Request.op_eq_none_iff (request : Request) (context : ServiceRequestContext)
    (minted : Minted) : request.op context minted = none ↔ request.asksForWork = false := by
  cases request with
  | ingestEvidence payload => cases payload <;> simp [op, asksForWork]
  | _ => simp [op, asksForWork]

/-- The frame carries a request that asks for an operation of the service. -/
def Frame.asksForWork (decoders : RequestDecoders) (frame : Frame) : Bool :=
  match decodeRequest decoders frame.payload (.ofRaw frame.kind) with
  | some (.ok request) => request.asksForWork
  | _ => false

/-- The frame a receiving thread has found, if it has found one. -/
def Connection.Received.frame? : Connection.Received → Option Frame
  | .frame found _ => some found
  | _ => none

section Property

variable (decoders : RequestDecoders)

/-- A turn that handles a frame changes nothing the coordinator keeps and grants no plan. -/
structure TurnWithoutWork
    (server : CoordinatorServer) (key : ConnectionKey) (input : TurnInput) : Prop where
  kept : SameWork server.shared.service
    (serverStep decoders server (.turn key input)).shared.service
  ungranted : ∀ frame context request decision,
    (server.thread key).phase = .dispatching frame context →
    decodeRequest decoders frame.payload (.ofRaw frame.kind) = some (.ok (.planFlowGroup request)) →
    (server.shared.service.planFlowGroup context request).2.1 = some decision →
    outcomeGrantsAuthority decision.outcome = false

/--
Once a shutdown request is answered, every turn of a thread that handles a frame
it began to receive afterwards is without work, whatever happens in between.
-/
def ShutdownEndsWork (server : CoordinatorServer) (ops : List ServerOp) : Prop :=
  ∀ before key arrival between input after,
    ops = before ++ .turn key (.arrived arrival) :: between ++ .turn key input :: after →
    (run (serverStep decoders) server before).shared.ShutdownAnswered →
    ((run (serverStep decoders) server before).thread key).phase = .receiving →
    ((run (serverStep decoders) server
      (before ++ .turn key (.arrived arrival) :: between)).thread key).phase.handles = true →
    TurnWithoutWork decoders
      (run (serverStep decoders) server (before ++ .turn key (.arrived arrival) :: between))
      key input

/-- After the answer to a shutdown request, no frame is received that asks for work. -/
def ReceivesNoWork (server : CoordinatorServer) : ServerOp → Prop
  | .turn key (.arrived arrival) =>
    server.shared.ShutdownAnswered → (server.thread key).phase = .receiving →
      ∀ frame ∈ ((server.thread key).connection.receivePass arrival).frame?,
        frame.asksForWork decoders = false
  | _ => True

instance (server : CoordinatorServer) (op : ServerOp) :
    Decidable (ReceivesNoWork decoders server op) := by
  cases op with
  | turn key input => cases input <;> unfold ReceivesNoWork <;> infer_instance
  | _ => exact isTrue trivial

end Property

section Answered

variable (decoders : RequestDecoders) (key : ConnectionKey)

/-- The log only grows. -/
theorem TurnChange.log_mono {shared : Shared} {worker : Worker} {input : TurnInput} {result : Turn}
    {event : Event} (h : TurnChange key shared worker input result) (hevent : event ∈ shared.log) :
    event ∈ result.1.log := by
  cases h with
  | idle _ log | refused _ _ _ _ log | opened _ _ _ _ _ _ log | greeted _ _ _ _ _ _ log =>
    simp [log, hevent]
  | validated _ _ _ _ _ _ _ _ _ log _ _ _ => simpa [log] using hevent
  | dispatched _ _ _ log _ _ _ => simp [log, hevent]

/-- An answered shutdown request stays answered. -/
theorem serverStep_shutdownAnswered {server : CoordinatorServer} (op : ServerOp)
    (h : server.shared.ShutdownAnswered) :
    (serverStep decoders server op).shared.ShutdownAnswered := by
  obtain ⟨hflag, answer, hanswer, hacknowledges⟩ := h
  have hlog : answer ∈ (serverStep decoders server op).shared.log := by
    cases serverStep_change decoders server op with
    | steady log _ _ => rwa [log]
    | turned key input _ next _ =>
      have hchange := turn_change decoders key server.shared (server.thread key) input
      rw [← next] at hchange
      exact hchange.log_mono key hanswer
  refine ⟨?_, answer, hlog, hacknowledges⟩
  cases op with
  | listen =>
    simp only [serverStep, CoordinatorServer.listen]
    split <;> exact hflag
  | accept key =>
    simp only [serverStep, CoordinatorServer.accept]
    split_ifs <;> exact hflag
  | turn key input =>
    simp only [serverStep]
    split
    · exact hflag
    · exact (turn_settings decoders key _ _ input).2 hflag
  | service op => exact hflag
  | shutdown =>
    simp only [serverStep, CoordinatorServer.shutdown]
    split <;> exact hflag

end Answered

section Frames

variable {decoders : RequestDecoders} {key : ConnectionKey} {shared : Shared} {worker : Worker}

/-- A frame in the hands of a thread was there before the turn, or the turn received it. -/
theorem turn_frame {input : TurnInput} {frame : Frame}
    (h : (turn decoders key shared worker input).2.phase.frame? = some frame) :
    worker.phase.frame? = some frame ∨
      ∃ arrival, worker.phase = .receiving ∧ input = .arrived arrival ∧
        (worker.connection.receivePass arrival).frame? = some frame := by
  unfold turn at h
  cases hphase : worker.phase <;> cases input <;> rw [hphase] at h <;>
    try (simp only [hphase] at h; exact .inl h)
  case opening.opened now id incarnation =>
    simp only [onOpen] at h
    split at h <;> cases h
  case ready.none =>
    simp only at h
    split at h <;> cases h
  case receiving.arrived arrival =>
    simp only at h
    split at h
    · rename_i received connection hpass
      cases h
      exact .inr ⟨arrival, rfl, rfl, by rw [hpass]; rfl⟩
    · cases h
    · cases h
  case received.clock held now =>
    simp only at h
    rcases (onFrame_settled key shared worker held now).2.2 with hready | ⟨context, hdispatching⟩
    · rw [hready] at h
      cases h
    · rw [hdispatching] at h
      cases h
      exact .inl rfl
  case dispatching.minted held context generation =>
    simp only [dispatch] at h
    split at h
    · cases h
    · split at h
      · cases h
      · split at h
        · cases h
        · cases h
        · simp only [perform] at h
          split at h <;> cases h
  case persisting.clock reply now =>
    simp only at h
    split at h <;> cases h

/-- What holds of a thread that has received no work since the answer. -/
def FreeOfWork (decoders : RequestDecoders) (key : ConnectionKey) (server : CoordinatorServer) :
    Prop :=
  server.shared.ShutdownAnswered ∧
    ∀ frame, (server.thread key).phase.frame? = some frame → frame.asksForWork decoders = false

/-- As long as no work is received, the thread stays free of it. -/
theorem serverStep_freeOfWork (server : CoordinatorServer) (op : ServerOp)
    (hop : ReceivesNoWork decoders server op) (h : FreeOfWork decoders key server) :
    FreeOfWork decoders key (serverStep decoders server op) := by
  refine ⟨serverStep_shutdownAnswered decoders op h.1, ?_⟩
  intro frame hframe
  cases serverStep_change decoders server op with
  | steady _ phase _ =>
    rw [phase key] at hframe
    exact h.2 frame hframe
  | turned turning input called next others =>
    by_cases hkey : key = turning
    · subst hkey
      have hthread : (serverStep decoders server op).thread key =
          (turn decoders key server.shared (server.thread key) input).2 :=
        congrArg Prod.snd next
      rw [hthread] at hframe
      rcases turn_frame hframe with hheld | ⟨arrival, hreceiving, rfl, hfound⟩
      · exact h.2 frame hheld
      · subst called
        exact hop h.1 hreceiving frame hfound
    · rw [others key hkey] at hframe
      exact h.2 frame hframe

end Frames

section Turns

variable {decoders : RequestDecoders} {key : ConnectionKey}

/-- The operations of the service that a frame without work can lead to. -/
def ServiceOp.housekeeps : ServiceOp → Bool
  | .validateEnvelope _ _ _ => true
  | .flush _ => true
  | .completeSave _ => true
  | _ => false

theorem serviceStep_sameWork {s : CoordinatorService} {op : ServiceOp} (h : op.housekeeps = true) :
    (serviceStep s op).catalog = s.catalog ∧ (serviceStep s op).authority = s.authority := by
  rw [serviceStep_simulates_catalog s op, serviceStep_simulates_authority s op]
  cases op with
  | validateEnvelope => exact ⟨rfl, rfl⟩
  | flush now => exact ⟨rfl, rfl⟩
  | completeSave captured => exact ⟨rfl, rfl⟩
  | _ => cases h

theorem run_sameWork {s : CoordinatorService} {ops : List ServiceOp}
    (h : ∀ op ∈ ops, op.housekeeps = true) : SameWork s (run serviceStep s ops) := by
  have hstep : ∀ t op, op.housekeeps = true →
      t.catalog = s.catalog ∧ t.authority = s.authority →
      (serviceStep t op).catalog = s.catalog ∧ (serviceStep t op).authority = s.authority := by
    intro t op hop ht
    obtain ⟨hcatalog, hauthority⟩ := serviceStep_sameWork (s := t) hop
    exact ⟨hcatalog.trans ht.1, hauthority.trans ht.2⟩
  obtain ⟨hcatalog, hauthority⟩ := (along_of_forall s h).invariant hstep ⟨rfl, rfl⟩
  constructor
  · exact hcatalog
  all_goals simp [hauthority]

/-- A thread that handles a frame without work only validates and persists. -/
theorem turnTrace_housekeeps {worker : Worker} {input : TurnInput}
    (hhandles : worker.phase.handles = true)
    (hfree : ∀ frame, worker.phase.frame? = some frame → frame.asksForWork decoders = false)
    (op : ServiceOp) (hop : op ∈ turnTrace decoders worker input) : op.housekeeps = true := by
  unfold turnTrace at hop
  cases hphase : worker.phase with
  | received frame =>
    rw [hphase] at hop
    cases input with
    | clock now =>
      simp only [frameTrace] at hop
      split at hop
      · cases hop
      · split at hop
        · cases List.mem_singleton.mp hop
          rfl
        · cases hop
    | _ => cases hop
  | dispatching frame context =>
    rw [hphase] at hop hfree
    cases input with
    | minted generation =>
      simp only [dispatchTrace] at hop
      split at hop
      · rename_i request _ hdecoded
        have hidle : request.asksForWork = false := by
          have hframe := hfree frame rfl
          rwa [Frame.asksForWork, hdecoded] at hframe
        rw [(request.op_eq_none_iff context generation).mpr hidle] at hop
        cases hop
      · cases hop
    | _ => cases hop
  | persisting reply =>
    rw [hphase] at hop
    cases input with
    | clock now =>
      cases List.mem_singleton.mp hop
      rfl
    | _ => cases hop
  | saving =>
    rw [hphase] at hop
    cases input with
    | saved success =>
      cases success with
      | true =>
        cases List.mem_singleton.mp hop
        rfl
      | false => cases hop
    | _ => cases hop
  | replying reply =>
    rw [hphase] at hop
    cases input <;> cases hop
  | _ =>
    rw [hphase] at hhandles
    cases hhandles

/-- A turn of a thread that is free of work is without work. -/
theorem FreeOfWork.turnWithoutWork {server : CoordinatorServer} (h : FreeOfWork decoders key server)
    (hhandles : (server.thread key).phase.handles = true) (input : TurnInput) :
    TurnWithoutWork decoders server key input where
  kept := by
    have htrace : (serverStep decoders server (.turn key input)).shared.service =
        run serviceStep server.shared.service (serverTrace decoders server (.turn key input)) :=
      serverStep_simulates_service decoders server (.turn key input)
    rw [htrace]
    refine run_sameWork fun op hop => ?_
    simp only [serverTrace] at hop
    cases hworker : server.workers.find key with
    | none =>
      rw [hworker] at hop
      cases hop
    | some worker =>
      have hthread : server.thread key = worker := by
        simp [CoordinatorServer.thread, hworker]
      rw [hworker] at hop
      rw [hthread] at hhandles
      exact turnTrace_housekeeps hhandles (hthread ▸ h.2) op hop
  ungranted := by
    intro frame context request decision hphase hdecoded _
    have hidle := h.2 frame (by rw [hphase]; rfl)
    rw [Frame.asksForWork, hdecoded] at hidle
    cases hidle

/--
Along every run in which no frame that asks for work is received after the
answer to a shutdown request, the request ends new work.
-/
theorem shutdown_ends_work (decoders : RequestDecoders) (server : CoordinatorServer)
    (ops : List ServerOp) (h : Along (serverStep decoders) (ReceivesNoWork decoders) server ops) :
    ShutdownEndsWork decoders server ops := by
  rintro before key arrival between input after rfl hanswered hreceiving hhandles
  rw [List.append_assoc, along_append, List.cons_append, ← List.cons_append, along_append] at h
  have hstart : FreeOfWork decoders key (run (serverStep decoders) server before) := by
    refine ⟨hanswered, ?_⟩
    intro frame hframe
    rw [hreceiving] at hframe
    cases hframe
  have hfree := h.2.1.invariant serverStep_freeOfWork hstart
  rw [← run_append] at hfree
  exact hfree.turnWithoutWork hhandles input

end Turns

namespace OneConnection

open TwoMembers

/-- A hello and a shutdown request arrive; the request is answered and the thread receives. -/
def shutdownAnswered : List ServerOp :=
  accepted ++
    [.turn 1 (.arrived (wire [helloFrame, requestFrame .shutdown 1 []]))] ++
    handled 2 ++ [.turn 1 .none] ++ handled 3 ++
    [.turn 1 (.minted firstDraw), .turn 1 .none, .turn 1 .none]

/-- A frame arrives and is validated. -/
def arrives (frame : Frame) : List ServerOp :=
  [.turn 1 (.arrived (wire [frame])), .turn 1 (.arrived .idle), .turn 1 (.clock 4)]

def dispatches : ServerOp :=
  .turn 1 (.minted secondDraw)

def lateHeartbeat : Frame :=
  requestFrame .heartbeat 2 (encodeHeartbeat (heartbeat .live))

def lateInspection : Frame :=
  inspectFrame 2

set_option maxRecDepth 4096 in
theorem shutdownAnswered_receives :
    let server := run (serverStep wireDecoders) (.create {}) shutdownAnswered
    server.shared.ShutdownAnswered ∧ (server.thread 1).phase = .receiving := by
  decide +kernel

end OneConnection

open OneConnection in
set_option maxRecDepth 4096 in
/-- An inspection that follows the answered shutdown request is handled without work. -/
theorem shutdown_ends_work_of_inspection :
    TurnWithoutWork wireDecoders
      (run (serverStep wireDecoders) (CoordinatorServer.create {})
        (shutdownAnswered ++ arrives lateInspection))
      1 (.minted (TwoMembers.minted 61 (by decide))) := by
  have hruns := shutdown_ends_work wireDecoders (CoordinatorServer.create {})
    (shutdownAnswered ++ arrives lateInspection ++ [dispatches]) (by decide +kernel)
  exact hruns shutdownAnswered 1 _ _ _ [] rfl shutdownAnswered_receives.1
    shutdownAnswered_receives.2 (by decide +kernel)

open OneConnection in
set_option maxRecDepth 4096 in
/-- A heartbeat that follows the answered shutdown request is stored. -/
theorem heartbeat_accepted_after_shutdown :
    ¬ ShutdownEndsWork wireDecoders (CoordinatorServer.create {})
      (shutdownAnswered ++ arrives lateHeartbeat ++ [dispatches]) := by
  intro h
  have hturn := h shutdownAnswered 1 _ _ _ [] rfl shutdownAnswered_receives.1
    shutdownAnswered_receives.2 (by decide +kernel)
  have hfound := congrArg (fun peers => (peers.find ⟨1, 0⟩).isSome) hturn.kept.peers
  revert hfound
  decide +kernel

end TrafficFabric
