import TrafficFabric.Acknowledgement

/-!
# Stopping the coordinator

A stop first stops the service: under its lock it is marked as not running, its
sessions are dropped and, where something is marked, the durable state is
captured; the capture is written without the lock.  Only then is the transport
shut down and every session thread joined.

A request that was received before is still dispatched.  Registrations and
attempts ask whether the service runs, and evidence and policies ask for a
session; a cancellation and a retirement ask for neither, so they may commit
after the capture.  What they change is in the file when the stop returns only
if their own threads write it.
-/

namespace TrafficFabric

open Lib CoordinatorService CoordinatorHandler WriteBehind

/-- How far a stop has come. -/
inductive StopPhase where
  | serving
  | saving (pending : PendingSave) (replaced : Bool)
  | stopped (status : Status)
  | joining (status : Status)
deriving DecidableEq

/-- A coordinator with its snapshot file and its stop. -/
structure StoppingServer where
  system : PersistingServer
  stop : StopPhase := .serving

inductive StoppingOp where
  | system (op : PersistingOp)
  | stopService (now : UInt64)
  | replaceFile
  | completeSave (status : Status)
  | shutdown

namespace StoppingServer

variable (decoders : RequestDecoders) (s : StoppingServer)

def service : CoordinatorService :=
  s.system.service

/-- The coordinator after an operation on its service that the file is not part of. -/
def serve (op : ServiceOp) : PersistingServer :=
  { s.system with server := serverStep decoders s.system.server (.service op) }

/-- The locked part of the service's stop. -/
def stopService (now : UInt64) : StoppingServer where
  system := s.serve decoders (.stop now)
  stop :=
    match s.service.stop now with
    | (_, some pending, _) => .saving pending false
    | (status, none, _) => .stopped status

/-- The save of the stop replaces the file, if what was captured can be encoded. -/
def replaceFile : StoppingServer :=
  match s.stop with
  | .saving pending false =>
    if pending.encodes then
      { s with
        system := { s.system with file := some pending }
        stop := .saving pending true }
    else
      s
  | _ => s

/-- The save of the stop reports success exactly when it has replaced the file. -/
def completeSave (status : Status) : StoppingServer :=
  match s.stop with
  | .saving pending replaced =>
    if status.isOk = replaced then
      { system :=
          if replaced then s.serve decoders (.completeSave pending.capturedSequence)
          else s.system
        stop := .stopped status }
    else
      s
  | _ => s

/-- Stops accepting and releases the connections; the joins of the threads follow. -/
def shutdown : StoppingServer :=
  match s.stop with
  | .stopped status =>
    { s with
      system := { s.system with server := serverStep decoders s.system.server .shutdown }
      stop := .joining status }
  | _ => s

/-- The stop returns: its transport is down and every session thread has ended. -/
def Returns (status : Status) : Prop :=
  s.stop = .joining status ∧ ∀ worker ∈ s.system.server.workers.values, worker.phase = .done

instance (status : Status) : Decidable (s.Returns status) :=
  inferInstanceAs (Decidable (_ ∧ _))

end StoppingServer

def stoppingStep (decoders : RequestDecoders) (s : StoppingServer) : StoppingOp → StoppingServer
  | .system op => { s with system := persistingStep decoders s.system op }
  | .stopService now =>
    match s.stop with
    | .serving => s.stopService decoders now
    | _ => s
  | .replaceFile => s.replaceFile
  | .completeSave status => s.completeSave decoders status
  | .shutdown => s.shutdown decoders

section Commits

/-- The requests that ask neither whether the service runs nor for a session. -/
def Request.endsCollective : Request → Bool
  | .cancelCollective _ | .retireCollective _ => true
  | _ => false

/-- The frame that is about to be dispatched ends a collective. -/
def Phase.endsCollective (decoders : RequestDecoders) : Phase → Bool
  | .dispatching frame _ =>
    match decodeRequest decoders frame.payload (.ofRaw frame.kind) with
    | some (.ok request) => request.endsCollective
    | _ => false
  | _ => false

/-- The operations that may change a stopped service, or start it again. -/
def ServiceOp.affectsStopped : ServiceOp → Bool
  | .start _ | .cancelCollective _ _ _ _ _ | .retireCollective _ _ _ _ _ => true
  | _ => false

variable {s : CoordinatorService}

/-- A stopped service applies nothing but the end of a collective. -/
theorem applies_of_stopped {op : ServiceOp} (hcoherent : SessionsCoherent s)
    (hstopped : s.running = false) (hop : op.affectsStopped = false) : s.applies op = false := by
  have hsessions := hcoherent.running hstopped
  cases op with
  | start | cancelCollective | retireCollective => cases hop
  | registerCollective => simp [applies, registerCollective, hstopped]
  | beginAttempt => simp [applies, beginAttempt, hstopped]
  | ingestTopology =>
    simp [applies, ingestTopology, checkContext, hsessions]
  | installPolicy =>
    simp [applies, installPolicy, checkContext, hsessions]
  | _ => rfl

/-- The request's operation ends a collective only if the request does. -/
theorem Request.op_affectsStopped {context : ServiceRequestContext} {minted : Minted}
    {request : Request} {op : ServiceOp} (hop : request.op context minted = some op)
    (h : request.endsCollective = false) : op.affectsStopped = false := by
  cases request with
  | cancelCollective | retireCollective => cases h
  | ingestEvidence payload => cases payload <;> cases hop <;> rfl
  | _ =>
    cases hop
    try rfl

/-- A stopped service stays so unless it is started. -/
theorem run_stopped {ops : List ServiceOp} (h : s.running = false)
    (hops : ∀ op ∈ ops, ∀ draws, op ≠ .start draws) : (run serviceStep s ops).running = false := by
  have hstep : ∀ (s : CoordinatorService) (op : ServiceOp), (∀ draws, op ≠ .start draws) →
      s.running = false → (serviceStep s op).running = false := by
    intro s op hop hstopped
    by_cases hstop : ∃ now, op = .stop now
    · obtain ⟨now, rfl⟩ := hstop
      simp [serviceStep, CoordinatorService.stop, hstopped]
    · rw [serviceStep_running_eq s hop (not_exists.mp hstop)]
      exact hstopped
  exact Along.invariant hstep (along_of_forall s hops) h

end Commits

section Accounts

/-- The writer that a stop is. -/
def StopPhase.writer : StopPhase → Option (Writer UInt64)
  | .saving pending replaced =>
    some (if replaced then .written pending.capturedSequence
      else .captured pending.capturedSequence)
  | _ => none

/-- The save of the stop that has not replaced the file yet. -/
def StopPhase.pendingSave : StopPhase → Option PendingSave
  | .saving pending false => some pending
  | _ => none

def StopPhase.failed : StopPhase → Bool
  | .stopped status | .joining status => !status.isOk
  | _ => false

namespace StoppingServer

variable {op : StoppingOp} {s' : StoppingServer} {key : ConnectionKey}

/-- The session threads and the stop as the writers of one storage. -/
def storage (s : StoppingServer) : WriteBehind UInt64 (Option ConnectionKey) :=
  s.system.storage s.stop.writer

/-- The stop has captured nothing yet or has failed, or a thread is about to flush. -/
def Owing (s : StoppingServer) : Prop :=
  s.stop = .serving ∨ s.stop.failed = true ∨ ∃ key reply, s.system.phase key = .persisting reply

/--
The step does not put an older capture in the place of a newer one, its save
succeeds, the mutation sequence does not turn over, and once the service has
been stopped nothing ends a collective, unless the coordinator persists its
mutations, and nothing starts the service again.
-/
def StopsInOrder (decoders : RequestDecoders) (s : StoppingServer) (op : StoppingOp) : Prop :=
  s.service.mutationSequence < s.service.mutationSequence + 1 ∧
    match op with
    | .system (.replace key) =>
      ∀ pending ∈ (s.system.phase key).pendingSave,
        s.system.replaced key = false → s.system.stored ≤ pending.capturedSequence
    | .system (.server (.turn _ (.saved success))) => success = true
    | .system (.server (.turn key (.minted _))) =>
      s.stop = .serving ∨ s.system.server.shared.config.persistOnMutation = true ∨
        (s.system.phase key).endsCollective decoders = false
    | .system (.server (.service action)) => s.stop = .serving ∨ action.affectsStopped = false
    | .replaceFile => ∀ pending ∈ s.stop.pendingSave, s.system.stored ≤ pending.capturedSequence
    | .completeSave status => status.isOk = true
    | _ => True

instance (decoders : RequestDecoders) (s : StoppingServer) (op : StoppingOp) :
    Decidable (s.StopsInOrder decoders op) := by
  unfold StopsInOrder
  split <;> infer_instance

variable {decoders : RequestDecoders} {s : StoppingServer}

theorem StopsInOrder.saves {op : PersistingOp} (h : s.StopsInOrder decoders (.system op))
    (key : ConnectionKey) : SavesInOrder key s.system op := by
  refine ⟨h.1, ?_⟩
  have hrest := h.2
  cases op with
  | replace k => exact hrest
  | server op =>
    cases op with
    | turn k input =>
      cases input with
      | saved success => exact fun _ => hrest
      | _ => trivial
    | _ => trivial

/-- What holds between the steps of a run in order. -/
structure Settles (s : StoppingServer) : Prop where
  path : s.service.persistencePath ≠ []
  coherent : SessionsCoherent s.service
  halted : s.stop ≠ .serving → s.service.running = false
  sound : s.storage.Sound
  since_le : s.system.since ≤ s.system.stored
  settled : s.Owing ∨ s.storage.Settled

/-- What a step does to the storage. -/
def writes (decoders : RequestDecoders) (s : StoppingServer) :
    StoppingOp → List (WriteAction (Option ConnectionKey))
  | .system op => s.system.writes decoders op
  | .stopService now =>
    match s.stop with
    | .serving => if (s.service.stop now).2.1.isSome then [.capture none] else []
    | _ => []
  | .replaceFile =>
    match s.stop with
    | .saving pending false => if pending.encodes then [.replace none] else []
    | _ => []
  | .completeSave status =>
    match s.stop with
    | .saving _ replaced =>
      if status.isOk = replaced then
        if replaced then [.complete none] else [.abandon none]
      else
        []
    | _ => []
  | .shutdown => []

/-- What a step does to the service. -/
def serviceTrace (decoders : RequestDecoders) (s : StoppingServer) : StoppingOp → List ServiceOp
  | .system (.server (.turn key input)) =>
    if s.system.fits key input then serverTrace decoders s.system.server (.turn key input)
    else []
  | .system (.server (.service op)) => if op.usesFile then [] else [op]
  | .stopService now =>
    match s.stop with
    | .serving => [.stop now]
    | _ => []
  | .completeSave status =>
    match s.stop with
    | .saving pending true => if status.isOk then [.completeSave pending.capturedSequence] else []
    | _ => []
  | _ => []

/-- Everything a step can do. -/
inductive StopChange (decoders : RequestDecoders) (s : StoppingServer) :
    StoppingOp → StoppingServer → Prop
  | same (op : StoppingOp)
      (writes : s.writes decoders op = [])
      (trace : s.serviceTrace decoders op = []) :
      StopChange decoders s op s
  | system (op : PersistingOp) :
      StopChange decoders s (.system op) { s with system := persistingStep decoders s.system op }
  | stopped (now : UInt64) (serving : s.stop = .serving) :
      StopChange decoders s (.stopService now) (s.stopService decoders now)
  | replaced (pending : PendingSave)
      (saving : s.stop = .saving pending false)
      (encodes : pending.encodes = true) :
      StopChange decoders s .replaceFile
        { s with
          system := { s.system with file := some pending }
          stop := .saving pending true }
  | failed (pending : PendingSave) (status : Status)
      (saving : s.stop = .saving pending false)
      (reports : status.isOk = false) :
      StopChange decoders s (.completeSave status) { s with stop := .stopped status }
  | completed (pending : PendingSave) (status : Status)
      (saving : s.stop = .saving pending true)
      (reports : status.isOk = true) :
      StopChange decoders s (.completeSave status)
        { system := s.serve decoders (.completeSave pending.capturedSequence)
          stop := .stopped status }
  | shut (status : Status) (down : s.stop = .stopped status) :
      StopChange decoders s .shutdown
        { s with
          system := { s.system with server := serverStep decoders s.system.server .shutdown }
          stop := .joining status }

theorem stoppingStep_change (decoders : RequestDecoders) (s : StoppingServer) (op : StoppingOp) :
    s.StopChange decoders op (stoppingStep decoders s op) := by
  cases op with
  | system op => exact .system op
  | stopService now =>
    simp only [stoppingStep]
    split
    · exact .stopped now ‹_›
    · exact .same _ (by simp only [writes]) (by simp only [serviceTrace])
  | replaceFile =>
    simp only [stoppingStep, replaceFile]
    split
    · rename_i pending hsaving
      split
      · exact .replaced pending hsaving ‹_›
      · exact .same _ (by simp [writes, *]) rfl
    · exact .same _ (by simp only [writes]) rfl
  | completeSave status =>
    simp only [stoppingStep, completeSave]
    split
    · rename_i pending replaced hsaving
      split
      · rename_i hreports
        subst hreports
        cases hok : status.isOk with
        | true => exact .completed pending status (hok ▸ hsaving) hok
        | false => exact .failed pending status (hok ▸ hsaving) hok
      · rename_i hreports
        refine .same _ (by simp [writes, hsaving, hreports]) ?_
        cases replaced <;> simp_all [serviceTrace]
    · rename_i hnot
      refine .same _ (by simp only [writes]) ?_
      simp only [serviceTrace]
      split
      · exact (hnot _ _ ‹_›).elim
      · rfl
  | shutdown =>
    simp only [stoppingStep, shutdown]
    split
    · exact .shut _ ‹_›
    · exact .same _ rfl rfl

/-- An operation on the service leaves the threads and the file where they are. -/
theorem serve_storage (op : ServiceOp) (other : Option (Writer UInt64)) :
    (s.serve decoders op).storage other =
      { s.system.storage other with
        version := (serviceStep s.service op).mutationSequence
        dirty := (serviceStep s.service op).persistenceDirty } := by
  exact PersistingServer.storage_of_threads s.system other
    (serverStep_phase decoders s.system.server (.service op) nofun)

theorem stopService_storage {now : UInt64} (hserving : s.stop = .serving) :
    (s.stopService decoders now).storage =
      run (step (· + 1)) s.storage (s.writes decoders (.stopService now)) := by
  obtain ⟨hdurability, hsequence⟩ := stop_captures s.service now
  have hserved : ∀ other, (s.serve decoders (.stop now)).storage other =
      s.system.storage other := by
    intro other
    rw [serve_storage]
    exact WriteBehind.ext (congrArg Durability.sequence hdurability)
      (congrArg Durability.dirty hdurability) rfl rfl
  simp only [storage, stopService, writes, hserving, hserved]
  rcases hstop : s.service.stop now with ⟨status, _ | pending, stopped⟩
  · rfl
  · have hcaptured : pending.capturedSequence = s.service.mutationSequence :=
      hsequence pending (by rw [hstop]; rfl)
    simp only [StopPhase.writer, hcaptured]
    exact WriteBehind.ext rfl rfl rfl (s.system.update_other _ _).symm

/-- Every step is its trace on the storage. -/
theorem stoppingStep_simulates_storage :
    Simulates (stoppingStep decoders) (step (· + 1)) storage (writes decoders) := by
  intro s op
  have hchange := stoppingStep_change decoders s op
  generalize stoppingStep decoders s op = s' at hchange ⊢
  cases hchange with
  | same op hwrites _ => rw [hwrites, run_nil]
  | system op => exact PersistingServer.persistingStep_simulates_storage decoders _ s.system op
  | stopped now hserving => exact stopService_storage hserving
  | replaced pending hsaving hencodes =>
    simp only [storage, writes, hsaving, hencodes, if_true]
    exact WriteBehind.ext rfl rfl rfl (s.system.update_other _ _).symm
  | failed _ _ hsaving hreports =>
    simp only [storage, writes, hsaving, hreports, if_true]
    exact WriteBehind.ext rfl rfl rfl (s.system.update_other _ _).symm
  | completed _ _ hsaving hreports =>
    simp only [storage, writes, hsaving, hreports, if_true, serve_storage]
    exact WriteBehind.ext rfl rfl rfl (s.system.update_other _ _).symm
  | shut status hstopped =>
    simp only [storage, writes, hstopped]
    exact PersistingServer.others_storage decoders s.system none nofun rfl

/-- A step in order acts on the storage in order. -/
theorem StopsInOrder.writes (h : s.StopsInOrder decoders op) :
    Along (step (· + 1)) (WriteBehind.InOrder (· + 1)) s.storage (s.writes decoders op) := by
  cases op with
  | system op => exact writes_inOrder (h.saves 0) s.stop.writer
  | stopService now =>
    simp only [StoppingServer.writes]
    split
    · split <;> simp [WriteBehind.InOrder]
    · trivial
  | replaceFile =>
    simp only [StoppingServer.writes]
    split
    · rename_i pending hsaving
      split
      · refine ⟨?_, trivial⟩
        intro version hwriter
        simp only [storage, PersistingServer.storage, hsaving, StopPhase.writer] at hwriter
        cases hwriter
        exact h.2 pending (by rw [hsaving]; rfl)
      · trivial
    · trivial
  | completeSave status =>
    simp only [StoppingServer.writes]
    split
    · split_ifs <;> simp [WriteBehind.InOrder]
    · trivial
  | shutdown => trivial

/-- A flush captures what is current, unless the file has it. -/
theorem Settles.flush_settles {reply : Reply} (h : s.Settles)
    (hphase : s.system.phase key = .persisting reply) (now : UInt64) :
    (stoppingStep decoders s (.system (.server (.turn key (.clock now))))).storage.Settled := by
  rw [stoppingStep_simulates_storage]
  simp only [writes, PersistingServer.writes, PersistingServer.turnWrites, hphase]
  split
  · exact settled_capture (· + 1) s.storage (some key)
  · rename_i hnone
    have hclean : s.service.persistenceDirty = false := by
      by_contra hdirty
      refine hnone ?_
      have hpath : s.system.service.persistencePath ≠ [] := h.path
      have hdirty' : s.system.service.persistenceDirty = true := by
        simpa [service] using hdirty
      simp [flush, hpath, hdirty']
    exact .inl (h.sound.clean hclean)

/-- A thread that is about to flush still is, or has captured what is current. -/
theorem Settles.persisting_step {op : PersistingOp} {reply : Reply} (h : s.Settles)
    (hphase : s.system.phase key = .persisting reply) :
    (persistingStep decoders s.system op).phase key = .persisting reply ∨
      (stoppingStep decoders s (.system op)).storage.Settled := by
  by_cases hturn : ∃ input, op = .server (.turn key input)
  · obtain ⟨input, rfl⟩ := hturn
    by_cases hclock : ∃ now, input = .clock now
    · obtain ⟨now, rfl⟩ := hclock
      exact .inr (h.flush_settles hphase now)
    · refine .inl ?_
      simp only [persistingStep]
      cases hfits : s.system.fits key input with
      | false => simpa [PersistingServer.turn, hfits] using hphase
      | true =>
        rw [PersistingServer.turn_of_fits decoders s.system key hfits]
        have hthread : (s.system.server.thread key).phase = .persisting reply := hphase
        cases (serverStep_turn_effect decoders s.system.server key input).1 with
        | quiet _ hsame _ =>
          rcases hsame with hsame | ⟨hbefore, _⟩
          · exact hsame.trans hthread
          · rw [hthread] at hbefore
            cases hbefore
        | dispatched _ _ _ hother =>
          rw [hthread] at hother
          cases hother
        | flushed _ now _ hcalled => exact absurd ⟨now, hcalled⟩ hclock
        | saved _ _ _ hother | sent _ hother =>
          rw [hthread] at hother
          cases hother
  · refine .inl ?_
    have hothers := (persistingStep_change decoders s.system op).others (not_exists.mp hturn)
    exact hothers.1.trans hphase

/-- A dispatch in a stopped service applies nothing, unless it ends a collective. -/
theorem Settles.dispatch_applies_nothing {frame : Frame} {context : ServiceRequestContext}
    {minted : Minted} (h : s.Settles) (hstopped : s.stop ≠ .serving)
    (hphase : s.system.phase key = .dispatching frame context)
    (hends : (s.system.phase key).endsCollective decoders = false) :
    dispatchApplies decoders s.system.server.shared
      (s.system.server.thread key) frame context minted = false := by
  rw [hphase] at hends
  unfold dispatchApplies dispatchTrace
  split
  · rename_i state request hentry hdecoded
    simp only [Phase.endsCollective, hdecoded] at hends
    cases hop : request.op context minted with
    | none => rfl
    | some op =>
      have hquiet : s.system.server.shared.service.applies op = false :=
        applies_of_stopped h.coherent (h.halted hstopped) (Request.op_affectsStopped hop hends)
      simpa using hquiet
  · rfl

/-- In order, the only action of a step that does not keep the storage settled is a change. -/
theorem StopsInOrder.keepsSettled {op : PersistingOp} (h : s.StopsInOrder decoders (.system op)) :
    ∀ action ∈ s.system.writes decoders op, action = .change ∨ action.keepsSettled = true := by
  intro action haction
  cases op with
  | replace key =>
    simp only [PersistingServer.writes] at haction
    split at haction
    · rw [List.mem_ite_nil_right, List.mem_singleton] at haction
      rw [haction.2]
      exact .inr rfl
    · cases haction
  | server op =>
    cases op with
    | turn key input =>
      simp only [PersistingServer.writes, PersistingServer.turnWrites] at haction
      split at haction
      · rw [List.mem_ite_nil_right, List.mem_singleton] at haction
        exact .inl haction.2
      · rw [List.mem_ite_nil_right, List.mem_singleton] at haction
        rw [haction.2]
        exact .inr rfl
      · rename_i success hphase
        have hsuccess : success = true := h.2
        rw [hsuccess, List.mem_ite_nil_right, if_pos rfl, List.mem_singleton] at haction
        rw [haction.2]
        exact .inr rfl
      · cases haction
    | service action' =>
      simp only [PersistingServer.writes] at haction
      rw [List.mem_ite_nil_right, List.mem_singleton] at haction
      exact .inl haction.2
    | _ => cases haction

/-- Once the service is stopped, only a dispatch whose thread will flush makes a change. -/
theorem Settles.persisting_of_change {op : PersistingOp} (h : s.Settles)
    (horder : s.StopsInOrder decoders (.system op)) (hstopped : s.stop ≠ .serving)
    (hchange : .change ∈ s.system.writes decoders op) :
    ∃ key reply, (persistingStep decoders s.system op).phase key = .persisting reply := by
  cases op with
  | replace key =>
    simp only [PersistingServer.writes] at hchange
    split at hchange
    · rw [List.mem_ite_nil_right, List.mem_singleton] at hchange
      cases hchange.2
    · cases hchange
  | server op =>
    cases op with
    | turn key input =>
      simp only [PersistingServer.writes, PersistingServer.turnWrites] at hchange
      split at hchange
      · rename_i frame context generation hphase
        rw [List.mem_ite_nil_right] at hchange
        have happlies := hchange.1
        have hpersists : s.system.server.shared.config.persistOnMutation = true := by
          rcases horder.2 with hserving | hpersists | hends
          · exact absurd hserving hstopped
          · exact hpersists
          · rw [h.dispatch_applies_nothing hstopped hphase hends] at happlies
            cases happlies
        have hthread : (s.system.server.thread key).phase = .dispatching frame context := hphase
        have hfits : s.system.fits key (.minted generation) = true := rfl
        simp only [persistingStep, PersistingServer.turn_of_fits decoders s.system key hfits]
        cases (serverStep_turn_effect decoders s.system.server key (.minted generation)).1 with
        | quiet _ _ hidle =>
          rw [hthread] at hidle
          cases hidle
        | dispatched _ _ _ hphase' hcalled _ _ hpersisting =>
          cases hcalled
          cases hthread.symm.trans hphase'
          obtain ⟨reply, hreply⟩ := hpersisting hpersists happlies
          exact ⟨key, reply, hreply⟩
        | flushed _ _ _ hcalled | saved _ _ _ _ hcalled | sent _ _ hcalled => cases hcalled
      · rw [List.mem_ite_nil_right, List.mem_singleton] at hchange
        cases hchange.2
      · split_ifs at hchange
        · cases List.mem_singleton.mp hchange
        · cases List.mem_singleton.mp hchange
        · cases hchange
      · cases hchange
    | service action =>
      simp only [PersistingServer.writes] at hchange
      rw [List.mem_ite_nil_right] at hchange
      have hquiet : s.system.service.applies action = false :=
        applies_of_stopped h.coherent (h.halted hstopped) (horder.2.resolve_left hstopped)
      rw [hquiet] at hchange
      cases hchange.1.2
    | _ => cases hchange

/-- A step of the coordinator in order leaves a stop that owes or that is settled. -/
theorem Settles.system_settled {op : PersistingOp} (h : s.Settles)
    (horder : s.StopsInOrder decoders (.system op)) :
    (stoppingStep decoders s (.system op)).Owing ∨
      (stoppingStep decoders s (.system op)).storage.Settled := by
  by_cases hserving : s.stop = .serving
  · exact .inl (.inl hserving)
  · rcases h.settled with (hnot | hfailed | ⟨key, reply, hphase⟩) | hsettled
    · exact absurd hnot hserving
    · exact .inl (.inr (.inl hfailed))
    · refine (h.persisting_step hphase).imp_left ?_
      intro hphase'
      exact .inr (.inr ⟨key, reply, hphase'⟩)
    · by_cases hchange : .change ∈ s.system.writes decoders op
      · exact .inl (.inr (.inr (h.persisting_of_change horder hserving hchange)))
      · refine .inr ?_
        rw [stoppingStep_simulates_storage]
        refine hsettled.run h.sound horder.writes ?_
        intro action haction
        exact (horder.keepsSettled action haction).resolve_left fun heq => hchange (heq ▸ haction)

/-- The stop of the service captures what is current, unless the file has it. -/
theorem Settles.stopService_settled (h : s.Settles) (hserving : s.stop = .serving) (now : UInt64) :
    (s.stopService decoders now).Owing ∨ (s.stopService decoders now).storage.Settled := by
  rw [stopService_storage hserving]
  simp only [writes, hserving]
  split
  · exact .inr (settled_capture (· + 1) s.storage none)
  · rename_i hnone
    cases hrunning : s.service.running with
    | false =>
      refine .inl (.inr (.inl ?_))
      simp [stopService, CoordinatorService.stop, hrunning, StopPhase.failed, Status.isOk]
    | true =>
      have hclean : s.service.persistenceDirty = false := by
        by_contra hdirty
        refine hnone ?_
        have hdirty' : s.service.persistenceDirty = true := by
          simpa using hdirty
        simp [CoordinatorService.stop, hrunning, h.path, hdirty']
      exact .inr (.inl (h.sound.clean hclean))

/-- Apart from the steps of the coordinator, no step moves a thread. -/
theorem StopChange.phase (h : s.StopChange decoders op s') (hop : ∀ action, op ≠ .system action)
    (key : ConnectionKey) : s'.system.phase key = s.system.phase key := by
  cases h with
  | same | replaced | failed => rfl
  | system action => exact (hop action rfl).elim
  | stopped now => exact serverStep_phase decoders s.system.server (.service (.stop now)) nofun key
  | completed pending =>
    exact serverStep_phase decoders s.system.server
      (.service (.completeSave pending.capturedSequence)) nofun key
  | shut => exact serverStep_phase decoders s.system.server .shutdown nofun key

/-- Behind the stop of the service, what is owed stays so. -/
theorem StopChange.owing (h : s.StopChange decoders op s') (hop : ∀ action, op ≠ .system action)
    (hstopped : s.stop ≠ .serving) (howing : s.Owing) : s'.Owing := by
  rcases howing with hserving | hfailed | ⟨key, reply, hphase⟩
  · exact absurd hserving hstopped
  · refine .inr (.inl ?_)
    cases h with
    | same => exact hfailed
    | system action => exact (hop action rfl).elim
    | stopped now hserving => exact absurd hserving hstopped
    | replaced _ hsaving | failed _ _ hsaving | completed _ _ hsaving =>
      rw [hsaving] at hfailed
      cases hfailed
    | shut status hdown =>
      rw [hdown] at hfailed
      exact hfailed
  · exact .inr (.inr ⟨key, reply, (h.phase hop key).trans hphase⟩)

/-- In order, a step of the stop leaves it owing or settled. -/
theorem Settles.stop_settled (h : s.Settles) (horder : s.StopsInOrder decoders op)
    (hchange : s.StopChange decoders op s')
    (hstorage : s'.storage = run (step (· + 1)) s.storage (s.writes decoders op))
    (hop : ∀ action, op ≠ .system action) : s'.Owing ∨ s'.storage.Settled := by
  by_cases hserving : s.stop = .serving
  · cases hchange with
    | same => exact h.settled
    | system action => exact (hop action rfl).elim
    | stopped now => exact h.stopService_settled hserving now
    | replaced _ hother | failed _ _ hother | completed _ _ hother | shut _ hother =>
      rw [hserving] at hother
      cases hother
  · refine h.settled.imp (hchange.owing hop hserving) ?_
    intro hsettled
    rw [hstorage]
    refine hsettled.run h.sound horder.writes ?_
    cases hchange with
    | same _ hwrites => simp [hwrites]
    | system action => exact (hop action rfl).elim
    | stopped now hnot => exact absurd hnot hserving
    | replaced _ hsaving hencodes => simp [writes, hsaving, hencodes, WriteAction.keepsSettled]
    | failed _ _ _ hreports =>
      rw [horder.2] at hreports
      cases hreports
    | completed _ _ hsaving hreports => simp [writes, hsaving, hreports, WriteAction.keepsSettled]
    | shut => simp [writes]

/-- A coordinator with its stop performs service operations and no others. -/
theorem stoppingStep_simulates_service :
    Simulates (stoppingStep decoders) serviceStep service (serviceTrace decoders) := by
  intro s op
  have hserver := serverStep_simulates_service decoders s.system.server
  have hchange := stoppingStep_change decoders s op
  generalize stoppingStep decoders s op = s' at hchange ⊢
  cases hchange with
  | same _ _ htrace => rw [htrace, run_nil]
  | system op =>
    cases op with
    | replace key =>
      simp only [persistingStep, PersistingServer.replaceFile, serviceTrace]
      split
      · split <;> rfl
      · rfl
    | server op =>
      cases op with
      | turn key input =>
        simp only [persistingStep, PersistingServer.turn, serviceTrace]
        split
        · exact hserver (.turn key input)
        · rfl
      | service action =>
        simp only [persistingStep, serviceTrace]
        split <;> rfl
      | listen => exact hserver .listen
      | accept key => exact hserver (.accept key)
      | shutdown => exact hserver .shutdown
  | stopped now hserving =>
    simp only [serviceTrace, hserving]
    rfl
  | replaced => rfl
  | failed _ _ hsaving => simp only [serviceTrace, hsaving, run_nil, service]
  | completed _ _ hsaving hreports =>
    simp only [serviceTrace, hsaving, hreports]
    rfl
  | shut => exact hserver .shutdown

/-- The turn of a thread never starts the service. -/
theorem ne_start_of_mem_turnTrace {worker : Worker} {input : TurnInput} {op : ServiceOp}
    (hop : op ∈ turnTrace decoders worker input) (draws : List Minted) : op ≠ .start draws := by
  rintro rfl
  unfold turnTrace at hop
  split at hop
  · cases List.mem_singleton.mp hop
  · unfold frameTrace at hop
    split at hop
    · cases hop
    · rw [List.mem_ite_nil_right, List.mem_singleton] at hop
      cases hop.2
  · unfold dispatchTrace at hop
    split at hop
    · rename_i request _ _
      have hrequest := Option.mem_toList.mp hop
      cases request with
      | ingestEvidence payload => cases payload <;> cases hrequest
      | _ => cases hrequest
    · cases hop
  · cases List.mem_singleton.mp hop
  · cases List.mem_singleton.mp hop
  · simp only [closeTrace, List.mem_ite_nil_right, List.mem_singleton] at hop
    cases hop.2
  · cases hop

/-- In order, nothing starts a service that has been stopped. -/
theorem StopsInOrder.ne_start {action : ServiceOp} (h : s.StopsInOrder decoders op)
    (hstopped : s.stop ≠ .serving) (haction : action ∈ s.serviceTrace decoders op)
    (draws : List Minted) : action ≠ .start draws := by
  cases op with
  | system op =>
    cases op with
    | replace key => cases haction
    | server op =>
      cases op with
      | turn =>
        simp only [serviceTrace, serverTrace] at haction
        rw [List.mem_ite_nil_right] at haction
        have hmem := haction.2
        split at hmem
        · cases hmem
        · exact ne_start_of_mem_turnTrace hmem draws
      | service action' =>
        have hends := h.2.resolve_left hstopped
        simp only [serviceTrace] at haction
        rw [List.mem_ite_nil_left, List.mem_singleton] at haction
        rintro rfl
        rw [← haction.2] at hends
        cases hends
      | _ => cases haction
  | stopService now =>
    simp only [serviceTrace] at haction
    cases haction
  | completeSave status =>
    simp only [serviceTrace] at haction
    split at haction
    · rw [List.mem_ite_nil_right, List.mem_singleton] at haction
      rw [haction.2]
      simp
    · cases haction
  | _ => cases haction

/-- The path and the starting point of the file stay as they are. -/
theorem StopChange.setting (h : s.StopChange decoders op s') :
    s'.service.persistencePath = s.service.persistencePath ∧
      s'.system.since = s.system.since := by
  cases h with
  | same | replaced | failed | completed => exact ⟨rfl, rfl⟩
  | system op => exact (persistingStep_change decoders s.system op).setting.2
  | stopped now => exact ⟨congrArg Durability.path (stop_captures s.service now).durability, rfl⟩
  | shut => exact ⟨served_path s.system.server (by simp) (by simp), rfl⟩

theorem run_since (decoders : RequestDecoders) (s : StoppingServer) (ops : List StoppingOp) :
    (run (stoppingStep decoders) s ops).system.since = s.system.since := by
  have hstep : ∀ s' op, s'.system.since = s.system.since →
      (stoppingStep decoders s' op).system.since = s.system.since :=
    fun s' op h => (stoppingStep_change decoders s' op).setting.2.trans h
  exact run_invariant hstep rfl ops

/-- Only the stop of the service ends its serving. -/
theorem StopChange.serving (h : s.StopChange decoders op s') (hserving : s.stop = .serving)
    (hop : ∀ now, op ≠ .stopService now) : s'.stop = .serving := by
  cases h with
  | same | system => exact hserving
  | stopped now => exact (hop now rfl).elim
  | replaced _ hother | failed _ _ hother | completed _ _ hother | shut _ hother =>
    rw [hserving] at hother
    cases hother

/-- Once the service has been stopped it does not run. -/
theorem Settles.halted_step (h : s.Settles) (horder : s.StopsInOrder decoders op)
    (hstopped : (stoppingStep decoders s op).stop ≠ .serving) :
    (stoppingStep decoders s op).service.running = false := by
  rw [stoppingStep_simulates_service]
  by_cases hserving : s.stop = .serving
  · by_cases hop : ∃ now, op = .stopService now
    · obtain ⟨now, rfl⟩ := hop
      simp only [serviceTrace, hserving, run_cons, run_nil, serviceStep, CoordinatorService.stop]
      split
      · assumption
      · rfl
    · have hchange := stoppingStep_change decoders s op
      exact absurd (hchange.serving hserving (not_exists.mp hop)) hstopped
  · exact run_stopped (h.halted hserving) fun action haction => horder.ne_start hserving haction

/-- A step in order keeps the accounts. -/
theorem Settles.step (h : s.Settles) (horder : s.StopsInOrder decoders op) :
    (stoppingStep decoders s op).Settles := by
  have hchange := stoppingStep_change decoders s op
  have hstorage : (stoppingStep decoders s op).storage =
      run (WriteBehind.step (· + 1)) s.storage (s.writes decoders op) :=
    stoppingStep_simulates_storage s op
  obtain ⟨hsound, hstored, _⟩ := h.sound.run horder.writes
  rw [← hstorage] at hsound hstored
  obtain ⟨hpath, hsince⟩ := hchange.setting
  refine ⟨hpath ▸ h.path, ?_, h.halted_step horder, hsound, ?_, ?_⟩
  · rw [stoppingStep_simulates_service]
    exact run_invariant serviceStep_sessionsCoherent h.coherent _
  · rw [hsince]
    exact UInt64.le_trans h.since_le hstored
  · by_cases hop : ∃ action, op = .system action
    · obtain ⟨action, rfl⟩ := hop
      exact h.system_settled horder
    · exact h.stop_settled horder hchange hstorage (not_exists.mp hop)

/-- Before any request is in progress nothing is being written. -/
theorem settles_start {server : CoordinatorServer} {since : UInt64}
    (hcoherent : SessionsCoherent server.shared.service)
    (hpath : server.shared.service.persistencePath ≠ [])
    (hsince : since ≤ server.shared.service.mutationSequence)
    (hclean : server.shared.service.persistenceDirty = false →
      since = server.shared.service.mutationSequence)
    (hidle : ∀ key, (server.thread key).phase.reports = false) :
    Settles { system := { server := server, since := since } } := by
  refine ⟨hpath, hcoherent, fun hnot => absurd rfl hnot, ?_, UInt64.le_refl _, .inl (.inl rfl)⟩
  exact WriteBehind.sound_of_no_writers hsince hclean (PersistingServer.no_writers hidle)

/-- When a stop returns every thread has ended. -/
theorem Returns.phase {status : Status} (h : s.Returns status) (key : ConnectionKey) :
    s.system.phase key = .done ∨ s.system.phase key = .opening := by
  unfold PersistingServer.phase CoordinatorServer.thread
  cases hworker : s.system.server.workers.find key with
  | none => exact .inr rfl
  | some worker => exact .inl (h.2 worker ((KeyMap.mem_values_iff _ _).mpr ⟨key, hworker⟩))

/-- When a stop returns with success, the file has the current version. -/
theorem Settles.stored_of_returns {status : Status} (h : s.Settles) (hreturns : s.Returns status)
    (hok : status.isOk = true) : s.system.stored = s.service.mutationSequence := by
  have hended : ∀ key, s.system.phase key = .done ∨ s.system.phase key = .opening := hreturns.phase
  rcases h.settled with (hserving | hfailed | ⟨key, reply, hphase⟩) | hstored | ⟨key, hwriter⟩
  · rw [hreturns.1] at hserving
    cases hserving
  · rw [hreturns.1] at hfailed
    simp [StopPhase.failed, hok] at hfailed
  · rcases hended key with hdone | hopening
    · rw [hdone] at hphase
      cases hphase
    · rw [hopening] at hphase
      cases hphase
  · exact hstored
  · cases key with
    | none => simp [storage, PersistingServer.storage, hreturns.1, StopPhase.writer] at hwriter
    | some key =>
      have hnone : s.storage.writers (some key) = none := by
        refine Phase.writer_of_reports _ ?_
        rcases hended key with hdone | hopening
        · rw [hdone]
          rfl
        · rw [hopening]
          rfl
      rw [hnone] at hwriter
      cases hwriter

end StoppingServer

end Accounts

namespace OneConnection

open TwoMembers

def cancelFrame : Frame :=
  requestFrame .cancelCollective 2 (encodeLifecycle { id := ⟨31, 0⟩, generation := ⟨32, 0⟩ })

/-- The collective of connection 1 is registered and its cancellation about to be dispatched. -/
def leaving : List ServerOp :=
  accepted ++
    [ .service (.configurePersistence [112] 1),
      .turn 1 (.arrived (wire [helloFrame, registerFrame, cancelFrame])) ] ++
    handled 2 ++ [.turn 1 .none] ++ handled 3 ++
    [.turn 1 (.minted firstDraw), .turn 1 .none, .turn 1 .none] ++ handled 4

def stopping : CoordinatorServer :=
  run (serverStep wireDecoders) (.create {}) leaving

/-- The coordinator and its file, which has nothing yet. -/
def stoppable : StoppingServer where
  system := { server := stopping, since := 0 }

/-- The cancellation commits and is answered. -/
def cancelled : List StoppingOp :=
  [.system (.server (.turn 1 (.minted secondDraw))), .system (.server (.turn 1 .none))]

/-- The service is stopped and its save succeeds. -/
def serviceStopped : List StoppingOp :=
  [.stopService 5, .replaceFile, .completeSave Status.ok]

/-- The transport is shut down and the thread of connection 1 ends. -/
def joined : List StoppingOp :=
  [.shutdown, .system (.server (.turn 1 .none)), .system (.server (.turn 1 (.clock 6)))]

end OneConnection

end TrafficFabric
