import TrafficFabric.Flush
import TrafficFabric.Persistence
import TrafficFabric.Turns

/-!
# The coordinator with its snapshot file

When it is so configured, the coordinator flushes after a request that may have
changed durable state and before it answers.  It does not look at the outcome
of the flush: the answer is sent whether the save succeeded or not.

The coordinator is followed here together with its file.  A save replaces the
file and reports its success later, and each thread owes the mutation that its
next reply reports as applied.  Through the mutation sequence, the coordinator
with its file is write-behind storage whose writers are the session threads.
-/

namespace TrafficFabric

open Lib CoordinatorHandler

/-- Between the dispatch of a request and its reply. -/
def Phase.reports : Phase → Bool
  | .persisting _ => true
  | .saving _ _ => true
  | .replying _ => true
  | _ => false

/-- The turns that may change the durability of the service. -/
def Phase.works : Phase → TurnInput → Bool
  | .dispatching _ _, .minted _ => true
  | .persisting _, .clock _ => true
  | .saving _ _, .saved _ => true
  | _, _ => false

theorem Phase.works_cases {phase : Phase} {input : TurnInput} (h : phase.works input = true) :
    (∃ frame context generation,
        phase = .dispatching frame context ∧ input = .minted generation) ∨
      (∃ reply now, phase = .persisting reply ∧ input = .clock now) ∨
      ∃ pending reply success, phase = .saving pending reply ∧ input = .saved success := by
  unfold Phase.works at h
  split at h
  · exact .inl ⟨_, _, _, rfl, rfl⟩
  · exact .inr (.inl ⟨_, _, rfl, rfl⟩)
  · exact .inr (.inr ⟨_, _, _, rfl, rfl⟩)
  · cases h

section Turns

variable (decoders : RequestDecoders) (key : ConnectionKey) (shared : Shared) (worker : Worker)
variable {context : ServiceRequestContext} {minted : Minted}

/-- The dispatch of the frame applies a durable change. -/
def CoordinatorHandler.dispatchApplies
    (frame : Frame) (context : ServiceRequestContext) (minted : Minted) : Bool :=
  (CoordinatorHandler.dispatchTrace decoders worker frame context minted).any shared.service.applies

/-- What a turn does to the durability of the service and to the phase of its thread. -/
inductive TurnEffect (input : TurnInput) (after : Turn) : Prop
  | quiet
      (durability : after.1.service.durability = shared.service.durability)
      (phase : after.2.phase = worker.phase ∨
        worker.phase.reports = false ∧ after.2.phase.reports = false)
      (idle : worker.phase.works input = false)
  | dispatched
      (frame : Frame) (context : ServiceRequestContext) (minted : Minted)
      (phase : worker.phase = .dispatching frame context)
      (called : input = .minted minted)
      (durability : after.1.service.durability = shared.service.markedIf
        (CoordinatorHandler.dispatchApplies decoders shared worker frame context minted))
      (saves : ∀ pending reply, after.2.phase ≠ .saving pending reply)
      (persists : shared.config.persistOnMutation = true →
        CoordinatorHandler.dispatchApplies decoders shared worker frame context minted = true →
        ∃ reply, after.2.phase = .persisting reply)
  | flushed
      (reply : Reply) (now : UInt64)
      (phase : worker.phase = .persisting reply)
      (called : input = .clock now)
      (service : after.1.service = (shared.service.flush now).2.2)
      (phase' : after.2.phase =
        match (shared.service.flush now).2.1 with
        | some pending => .saving pending reply
        | none => .replying reply)
  | saved
      (pending : PendingSave) (reply : Reply) (success : Bool)
      (phase : worker.phase = .saving pending reply)
      (called : input = .saved success)
      (service : after.1.service =
        if success then shared.service.completeSave pending.capturedSequence else shared.service)
      (phase' : after.2.phase = .replying reply)
  | sent
      (reply : Reply)
      (phase : worker.phase = .replying reply)
      (called : input = .none)
      (durability : after.1.service.durability = shared.service.durability)
      (phase' : after.2.phase = .ready)

/-- A request that asks for a durable change is one that is persisted. -/
theorem Request.persists_of_applies {service : CoordinatorService} {request : Request}
    (h : (request.op context minted).toList.any service.applies = true) :
    request.persists = true := by
  cases request with
  | ingestEvidence payload => rfl
  | _ => first | rfl | simp [Request.op, CoordinatorService.applies] at h

theorem Request.op_usesFile {request : Request} {op : ServiceOp}
    (h : request.op context minted = some op) : op.usesFile = false := by
  cases request with
  | ingestEvidence payload =>
    cases payload with
    | none => cases h
    | _ =>
      cases h
      rfl
  | _ =>
    cases h
    try rfl

/-- A request marks a mutation exactly when its operation applies a change. -/
theorem perform_durability (context : ServiceRequestContext) (minted : Minted) (request : Request) :
    (perform shared worker context minted request).1.service.durability =
      shared.service.markedIf ((request.op context minted).toList.any shared.service.applies) := by
  rw [perform_service]
  cases hop : request.op context minted with
  | none => rfl
  | some op =>
    have hdurability := serviceStep_durability shared.service (Request.op_usesFile hop)
    simpa using hdurability

theorem dispatch_effect {frame : Frame} (hphase : worker.phase = .dispatching frame context) :
    TurnEffect decoders shared worker (.minted minted)
      (dispatch key shared worker decoders frame context minted) := by
  refine .dispatched frame context minted hphase rfl ?_ ?_ ?_
  · rw [dispatch_service]
    unfold dispatchApplies
    cases htrace : dispatchTrace decoders worker frame context minted with
    | nil => rfl
    | cons op rest =>
      -- The trace of a dispatch is the operation of its request.
      unfold dispatchTrace at htrace
      split at htrace
      · rename_i request _ _
        rw [← htrace, ← perform_service shared worker context minted]
        exact perform_durability shared worker context minted request
      · cases htrace
  · intro pending reply
    unfold dispatch
    split
    · simp [resume]
    · simp only
      split
      · simp [answer]
      · split
        · simp [answer]
        · simp [answer]
        · simp only [perform]
          split <;> simp
  · intro hpersist happlies
    unfold dispatchApplies dispatchTrace at happlies
    split at happlies
    · rename_i state request hentry hdecoded
      have hpersists := Request.persists_of_applies happlies
      refine ⟨request.reply shared.service context, ?_⟩
      unfold dispatch
      rw [hentry]
      simp only
      split
      · rename_i hhello
        rw [hhello] at hdecoded
        cases hdecoded
      · rw [hdecoded]
        simp [perform, Shared.note, hpersists, hpersist]
    · cases happlies

/-- Operations that apply nothing and do not use the file leave the durability. -/
theorem run_durability (s : CoordinatorService) (ops : List ServiceOp)
    (hops : ∀ op ∈ ops, op.usesFile = false ∧ ∀ s : CoordinatorService, s.applies op = false) :
    (run serviceStep s ops).durability = s.durability := by
  induction ops generalizing s with
  | nil => rfl
  | cons op ops ih =>
    obtain ⟨⟨huses, happlies⟩, hrest⟩ := List.forall_mem_cons.mp hops
    rw [run_cons, ih (serviceStep s op) hrest, serviceStep_durability s huses, happlies s]
    rfl

/-- Everything a turn can do to the durability of the service and the phase of its thread. -/
theorem turn_effect (input : TurnInput) :
    TurnEffect decoders shared worker input (turn decoders key shared worker input) := by
  have hservice := turn_service decoders key shared worker input
  unfold turnTrace at hservice
  unfold turn at hservice ⊢
  split
  · rename_i now id incarnation hphase
    simp only [hphase] at hservice
    refine .quiet ?_ (.inr ⟨by rw [hphase]; rfl, ?_⟩) (by rw [hphase]; rfl)
    · rw [hservice]
      exact run_durability _ _ (by simp [ServiceOp.usesFile, CoordinatorService.applies])
    · simp only [onOpen]
      split <;> rfl
  · rename_i hphase
    split <;> exact .quiet rfl (.inr ⟨by rw [hphase]; rfl, rfl⟩) (by rw [hphase]; rfl)
  · rename_i arrival hphase
    split
    · exact .quiet rfl (.inr ⟨by rw [hphase]; rfl, rfl⟩) (by rw [hphase]; rfl)
    · exact .quiet rfl (.inl rfl) (by rw [hphase]; rfl)
    · exact .quiet rfl (.inr ⟨by rw [hphase]; rfl, rfl⟩) (by rw [hphase]; rfl)
  · rename_i frame now hphase
    simp only [hphase] at hservice
    refine .quiet ?_ (.inr ⟨by rw [hphase]; rfl, ?_⟩) (by rw [hphase]; rfl)
    swap
    · rcases (onFrame_settled key shared worker frame now).2.2 with hready | ⟨context, hdispatching⟩
      · rw [hready]
        rfl
      · rw [hdispatching]
        rfl
    rw [hservice]
    refine run_durability _ _ ?_
    intro op hop
    unfold frameTrace at hop
    split at hop
    · cases hop
    · split at hop
      · cases List.mem_singleton.mp hop
        exact ⟨rfl, fun _ => rfl⟩
      · cases hop
  · rename_i frame context generation hphase
    exact dispatch_effect decoders key shared worker hphase
  · rename_i reply now hphase
    exact .flushed reply now hphase rfl rfl rfl
  · rename_i pending reply success hphase
    exact .saved pending reply success hphase rfl rfl rfl
  · rename_i reply hphase
    exact .sent reply hphase rfl rfl rfl
  · rename_i reason now hphase
    simp only [hphase] at hservice
    refine .quiet ?_ (.inr ⟨by rw [hphase]; rfl, rfl⟩) (by rw [hphase]; rfl)
    rw [hservice]
    refine run_durability _ _ ?_
    intro op hop
    simp only [closeTrace, List.mem_ite_nil_right, List.mem_singleton] at hop
    cases hop.2
    exact ⟨rfl, fun _ => rfl⟩
  · -- An input that does not fit the phase changes nothing.
    rename_i hminted hclock hsaved _ _
    refine .quiet rfl (.inl rfl) ?_
    rw [← Bool.not_eq_true]
    intro hworks
    rcases Phase.works_cases hworks with ⟨frame, context, generation, hphase, hinput⟩ |
      ⟨reply, now, hphase, hinput⟩ | ⟨pending, reply, success, hphase, hinput⟩
    · exact hminted frame context generation hphase hinput
    · exact hclock reply now hphase hinput
    · exact hsaved pending reply success hphase hinput

/-- What a turn of a thread does to the coordinator. -/
theorem serverStep_turn_effect (server : CoordinatorServer) (key : ConnectionKey)
    (input : TurnInput) :
    let server' := serverStep decoders server (.turn key input)
    TurnEffect decoders server.shared (server.thread key) input
        (server'.shared, server'.thread key) ∧
      server'.shared.config = server.shared.config ∧
      ∀ k, k ≠ key → server'.thread k = server.thread k := by
  simp only [serverStep]
  cases hworker : server.workers.find key with
  | none =>
    have hphase : (server.thread key).phase = .opening := by
      simp [CoordinatorServer.thread, hworker]
    exact ⟨.quiet rfl (.inl rfl) (by rw [hphase]; rfl), rfl, fun _ _ => rfl⟩
  | some worker =>
    refine ⟨?_, (turn_settings decoders key server.shared worker input).1, ?_⟩
    · have heffect := turn_effect decoders key server.shared worker input
      simpa [CoordinatorServer.thread, hworker] using heffect
    · intro k hk
      simp [CoordinatorServer.thread, KeyMap.find_assign_of_ne _ _ hk]

/-- The steps of the environment that are not turns leave the threads where they are. -/
theorem serverStep_phase (server : CoordinatorServer) (op : ServerOp)
    (hop : ∀ key input, op ≠ .turn key input) (key : ConnectionKey) :
    ((serverStep decoders server op).thread key).phase = (server.thread key).phase := by
  cases serverStep_change decoders server op with
  | steady _ phase => exact phase key
  | turned key input called => exact (hop key input called).elim

end Turns

section Machine

/-- A coordinator with its snapshot file. -/
structure PersistingServer where
  server : CoordinatorServer
  /-- The mutation sequence when the file was configured. -/
  since : UInt64
  /-- The save the file was written from, if one has replaced it since. -/
  file : Option PendingSave := none
  /-- The threads whose save has replaced the file and has not reported yet. -/
  replaced : ConnectionKey → Bool := fun _ => false
  /-- The mutation that the next reply of a thread reports as applied. -/
  owed : ConnectionKey → Option UInt64 := fun _ => none

inductive PersistingOp where
  | server (op : ServerOp)
  | replace (key : ConnectionKey)

/-- The snapshot store can encode what was captured. -/
def PendingSave.encodes (pending : PendingSave) : Bool :=
  (SnapshotStore.save pending.path pending.contents pending.contents.writtenMonotonicMs).isOk

namespace PersistingServer

/-- Before any request is in progress. -/
def create (server : CoordinatorServer) : PersistingServer where
  server := server
  since := server.shared.service.mutationSequence

variable (decoders : RequestDecoders) (system : PersistingServer) (key : ConnectionKey)

def service : CoordinatorService :=
  system.server.shared.service

/-- Where the thread of a connection is. -/
def phase : Phase :=
  (system.server.thread key).phase

/-- What a thread owes after a turn: a dispatch incurs a debt, a reply discharges it. -/
def owedAfter (input : TurnInput) : Option UInt64 :=
  match system.phase key, input with
  | .dispatching frame context, .minted generation =>
    if CoordinatorHandler.dispatchApplies decoders system.server.shared
        (system.server.thread key) frame context generation then
      some (system.service.mutationSequence + 1)
    else
      none
  | .replying _, .none => none
  | _, _ => system.owed key

/-- The thread's save replaces the file in one step, if what was captured can be encoded;
`SavingServer` has its file operations. -/
def replaceFile : PersistingServer :=
  match system.phase key with
  | .saving pending _ =>
    if pending.encodes && !system.replaced key then
      { system with
        file := some pending
        replaced := Function.update system.replaced key true }
    else
      system
  | _ => system

/-- A save reports success exactly when it has replaced the file. -/
def fits : TurnInput → Bool
  | .saved success => success == system.replaced key
  | _ => true

def replacedAfter (input : TurnInput) : Bool :=
  if (system.phase key).works input then false else system.replaced key

def turn (input : TurnInput) : PersistingServer :=
  if system.fits key input then
    { system with
      server := serverStep decoders system.server (.turn key input)
      replaced := Function.update system.replaced key (system.replacedAfter key input)
      owed := Function.update system.owed key (system.owedAfter decoders key input) }
  else
    system

end PersistingServer

/--
One step of the coordinator or of a save.  The environment performs no
operation on the file of its own.
-/
def persistingStep (decoders : RequestDecoders) (system : PersistingServer) :
    PersistingOp → PersistingServer
  | .replace key => system.replaceFile key
  | .server (.turn key input) => system.turn decoders key input
  | .server (.service op) =>
    if op.usesFile then system
    else { system with server := serverStep decoders system.server (.service op) }
  | .server op => { system with server := serverStep decoders system.server op }

/-- Everything a step can do. -/
inductive PersistingChange (decoders : RequestDecoders) (system : PersistingServer) :
    PersistingOp → PersistingServer → Prop
  | same (op : PersistingOp) : PersistingChange decoders system op system
  | replaced
      (key : ConnectionKey) (pending : PendingSave) (reply : Reply)
      (phase : system.phase key = .saving pending reply)
      (encodes : pending.encodes = true)
      (fresh : system.replaced key = false) :
      PersistingChange decoders system (.replace key)
        { system with
          file := some pending
          replaced := Function.update system.replaced key true }
  | turned
      (key : ConnectionKey) (input : TurnInput)
      (fits : system.fits key input = true) :
      PersistingChange decoders system (.server (.turn key input)) (system.turn decoders key input)
  | served
      (op : ServerOp)
      (stays : ∀ key input, op ≠ .turn key input)
      (service : ∀ action, op = .service action → action.usesFile = false) :
      PersistingChange decoders system (.server op)
        { system with server := serverStep decoders system.server op }

theorem persistingStep_change (decoders : RequestDecoders) (system : PersistingServer)
    (op : PersistingOp) :
    PersistingChange decoders system op (persistingStep decoders system op) := by
  cases op with
  | replace key =>
    simp only [persistingStep, PersistingServer.replaceFile]
    split
    · rename_i pending reply hphase
      split
      · rename_i hwrites
        rw [Bool.and_eq_true, Bool.not_eq_true'] at hwrites
        exact .replaced key pending reply hphase hwrites.1 hwrites.2
      · exact .same _
    · exact .same _
  | server op =>
    cases op with
    | turn key input =>
      cases hfits : system.fits key input with
      | true => exact .turned key input hfits
      | false =>
        simp only [persistingStep, PersistingServer.turn, hfits]
        exact .same _
    | service op =>
      simp only [persistingStep]
      split
      · exact .same _
      · rename_i hfile
        refine .served (.service op) nofun ?_
        rintro action ⟨⟩
        simpa using hfile
    | listen => exact .served .listen nofun (by simp)
    | accept key => exact .served (.accept key) nofun (by simp)
    | shutdown => exact .served .shutdown nofun (by simp)

end Machine

section Storage

variable (decoders : RequestDecoders) (system : PersistingServer) (key : ConnectionKey)
  (other : Option (Writer UInt64))

def Phase.writer (replaced : Bool) : Phase → Option (Writer UInt64)
  | .saving pending _ =>
    some (if replaced then .written pending.capturedSequence
      else .captured pending.capturedSequence)
  | _ => none

theorem Phase.writer_of_not_saving {phase : Phase} (replaced : Bool)
    (h : ∀ pending reply, phase ≠ .saving pending reply) : phase.writer replaced = none := by
  cases phase with
  | saving pending reply => exact (h pending reply rfl).elim
  | _ => rfl

theorem Phase.writer_of_reports {phase : Phase} (replaced : Bool) (h : phase.reports = false) :
    phase.writer replaced = none := by
  refine Phase.writer_of_not_saving replaced ?_
  rintro pending reply rfl
  cases h

namespace PersistingServer

variable {input : TurnInput}

/-- The mutation sequence the file was written from. -/
def stored : UInt64 :=
  (system.file.map PendingSave.capturedSequence).getD system.since

/-- The coordinator and its file as write-behind storage, with a writer beside the threads. -/
def storage : WriteBehind UInt64 (Option ConnectionKey) where
  version := system.service.mutationSequence
  dirty := system.service.persistenceDirty
  stored := system.stored
  writers
    | none => other
    | some key => (system.phase key).writer (system.replaced key)

/-- Before any request is in progress no thread writes. -/
theorem no_writers {system : PersistingServer} (h : ∀ key, (system.phase key).reports = false)
    (key : Option ConnectionKey) : (system.storage none).writers key = none := by
  cases key with
  | none => rfl
  | some key => exact Phase.writer_of_reports _ (h key)

/-- What is done to the writer beside the threads is seen on it alone. -/
theorem update_other (other' : Option (Writer UInt64)) :
    Function.update (system.storage other).writers none other' =
      (system.storage other').writers := by
  funext k
  cases k with
  | none => exact Function.update_self _ _ _
  | some k => exact Function.update_of_ne (Option.some_ne_none k) _ _

/-- Where the other threads stay as they are, so do their writers. -/
theorem writers_of_others {system' : PersistingServer}
    (hothers : ∀ k, k ≠ key →
      system'.phase k = system.phase k ∧ system'.replaced k = system.replaced k) :
    (system'.storage other).writers = Function.update (system.storage other).writers (some key)
      ((system'.phase key).writer (system'.replaced key)) := by
  funext k
  rcases eq_or_ne k (some key) with rfl | hk
  · rw [Function.update_self]
    rfl
  · rw [Function.update_of_ne hk]
    cases k with
    | none => rfl
    | some k =>
      obtain ⟨hphase, hreplaced⟩ := hothers k (by simpa using hk)
      simp only [storage, hphase, hreplaced]

/-- What a turn does to the storage. -/
def turnWrites (input : TurnInput) : List (WriteAction (Option ConnectionKey)) :=
  match system.phase key, input with
  | .dispatching frame context, .minted generation =>
    if CoordinatorHandler.dispatchApplies decoders system.server.shared
        (system.server.thread key) frame context generation then
      [.change]
    else
      []
  | .persisting _, .clock now =>
    if (system.service.flush now).2.1.isSome then [.capture (some key)] else []
  | .saving _ _, .saved success =>
    if success = system.replaced key then
      if success then [.complete (some key)] else [.abandon (some key)]
    else
      []
  | _, _ => []

/-- What a step does to the storage. -/
def writes : PersistingOp → List (WriteAction (Option ConnectionKey))
  | .replace key =>
    match system.phase key with
    | .saving pending _ => if pending.encodes then [.replace (some key)] else []
    | _ => []
  | .server (.turn key input) => system.turnWrites decoders key input
  | .server (.service op) =>
    if op.usesFile = false ∧ system.service.applies op = true then [.change] else []
  | .server _ => []

/-- A thread that does not work on the file acts on nothing. -/
theorem turnWrites_of_idle (h : (system.phase key).works input = false) :
    system.turnWrites decoders key input = [] := by
  unfold turnWrites
  split
  · rename_i frame context generation hphase
    rw [hphase] at h
    cases h
  · rename_i reply now hphase
    rw [hphase] at h
    cases h
  · rename_i pending reply success hphase
    rw [hphase] at h
    cases h
  · rfl

theorem turn_of_fits (hfits : system.fits key input = true) :
    system.turn decoders key input =
      { system with
        server := serverStep decoders system.server (.turn key input)
        replaced := Function.update system.replaced key (system.replacedAfter key input)
        owed := Function.update system.owed key (system.owedAfter decoders key input) } := by
  simp [turn, hfits]

/-- A turn changes the durability of the service and the writer of its own thread only. -/
theorem turn_storage_eq {durability : Durability} {writer : Option (Writer UInt64)}
    (hfits : system.fits key input = true) (hdurability :
      (serverStep decoders system.server (.turn key input)).shared.service.durability = durability)
    (hwriter : ((serverStep decoders system.server (.turn key input)).thread key).phase.writer
      (system.replacedAfter key input) = writer) :
    (system.turn decoders key input).storage other =
      { version := durability.sequence
        dirty := durability.dirty
        stored := system.stored
        writers := Function.update (system.storage other).writers (some key) writer } := by
  subst hdurability hwriter
  rw [turn_of_fits decoders system key hfits]
  refine WriteBehind.ext rfl rfl rfl ((writers_of_others system key other ?_).trans ?_)
  · intro k hk
    have hothers := (serverStep_turn_effect decoders system.server key input).2.2 k hk
    exact ⟨congrArg Worker.phase hothers, Function.update_of_ne hk _ _⟩
  · simp only [Function.update_self]
    rfl

theorem dispatched_storage {frame : Frame} {context : ServiceRequestContext} {generation : Minted}
    (hphase : system.phase key = .dispatching frame context)
    (hdurability : (serverStep decoders system.server
        (.turn key (.minted generation))).shared.service.durability =
      system.service.markedIf (dispatchApplies decoders system.server.shared
        (system.server.thread key) frame context generation))
    (hsaves : ∀ pending reply, ((serverStep decoders system.server
      (.turn key (.minted generation))).thread key).phase ≠ .saving pending reply) :
    (system.turn decoders key (.minted generation)).storage other =
      run (WriteBehind.step (· + 1)) (system.storage other)
        (system.turnWrites decoders key (.minted generation)) := by
  have hbefore : (system.storage other).writers (some key) = none := by
    simp [storage, hphase, Phase.writer]
  have hafter := Phase.writer_of_not_saving (system.replacedAfter key (.minted generation)) hsaves
  rw [turn_storage_eq decoders system key other rfl hdurability (hafter.trans hbefore.symm),
    Function.update_eq_self]
  simp only [turnWrites, hphase]
  cases dispatchApplies decoders system.server.shared
      (system.server.thread key) frame context generation with
  | true => rfl
  | false => rfl

theorem flushed_storage {reply : Reply} {now : UInt64}
    (hphase : system.phase key = .persisting reply)
    (hservice : (serverStep decoders system.server (.turn key (.clock now))).shared.service =
      (system.service.flush now).2.2)
    (hphase' : ((serverStep decoders system.server (.turn key (.clock now))).thread key).phase =
      match (system.service.flush now).2.1 with
      | some pending => .saving pending reply
      | none => .replying reply) :
    (system.turn decoders key (.clock now)).storage other =
      run (WriteBehind.step (· + 1)) (system.storage other)
        (system.turnWrites decoders key (.clock now)) := by
  obtain ⟨hdurability, hsequence⟩ := flush_captures system.service now
  rw [← hservice] at hdurability
  have hreplaced : system.replacedAfter key (.clock now) = false := by
    simp [replacedAfter, hphase, Phase.works]
  simp only [turnWrites, hphase]
  cases hpending : (system.service.flush now).2.1 with
  | none =>
    rw [hpending] at hphase'
    have hbefore : (system.storage other).writers (some key) = none := by
      simp [storage, hphase, Phase.writer]
    have hafter : ((serverStep decoders system.server (.turn key (.clock now))).thread
        key).phase.writer (system.replacedAfter key (.clock now)) =
          (system.storage other).writers (some key) := by
      rw [hphase', hbefore]
      rfl
    rw [turn_storage_eq decoders system key other rfl hdurability hafter, Function.update_eq_self]
    rfl
  | some pending =>
    rw [hpending] at hphase'
    have hsequence' : pending.capturedSequence = system.service.mutationSequence :=
      hsequence pending hpending
    have hafter : ((serverStep decoders system.server (.turn key (.clock now))).thread
        key).phase.writer (system.replacedAfter key (.clock now)) =
          some (.captured system.service.mutationSequence) := by
      rw [hphase', hreplaced, ← hsequence']
      rfl
    rw [turn_storage_eq decoders system key other rfl hdurability hafter]
    rfl

theorem saved_storage {pending : PendingSave} {reply : Reply} {success : Bool}
    (hfits : system.fits key (.saved success) = true)
    (hphase : system.phase key = .saving pending reply)
    (hservice : (serverStep decoders system.server (.turn key (.saved success))).shared.service =
      if success then system.service.completeSave pending.capturedSequence else system.service)
    (hphase' : ((serverStep decoders system.server (.turn key (.saved success))).thread
      key).phase = .replying reply) :
    (system.turn decoders key (.saved success)).storage other =
      run (WriteBehind.step (· + 1)) (system.storage other)
        (system.turnWrites decoders key (.saved success)) := by
  have hsuccess : success = system.replaced key := by
    simpa [fits] using hfits
  have hafter : ((serverStep decoders system.server (.turn key (.saved success))).thread
      key).phase.writer (system.replacedAfter key (.saved success)) = none := by
    rw [hphase']
    rfl
  rw [turn_storage_eq decoders system key other hfits (congrArg _ hservice) hafter]
  simp only [turnWrites, hphase, hsuccess, if_true]
  cases hreplaced : system.replaced key with
  | true =>
    have hwriter : (system.storage other).writers (some key) =
        some (.written pending.capturedSequence) := by
      simp [storage, hphase, hreplaced, Phase.writer]
    simp only [run_cons, run_nil, if_true, WriteBehind.step, hwriter]
    rfl
  | false => rfl

/-- A turn that works on nothing and leaves the writer is nothing on the storage. -/
theorem idle_storage (hfits : system.fits key input = true)
    (hidle : (system.phase key).works input = false)
    (hdurability : (serverStep decoders system.server (.turn key input)).shared.service.durability =
      system.service.durability)
    (hwriter : ((serverStep decoders system.server (.turn key input)).thread key).phase.writer
      (system.replaced key) = (system.phase key).writer (system.replaced key)) :
    (system.turn decoders key input).storage other =
      run (WriteBehind.step (· + 1)) (system.storage other)
        (system.turnWrites decoders key input) := by
  have hreplaced : system.replacedAfter key input = system.replaced key := by
    simp [replacedAfter, hidle]
  rw [← hreplaced] at hwriter
  rw [turnWrites_of_idle decoders system key hidle, run_nil,
    turn_storage_eq decoders system key other hfits hdurability hwriter, hreplaced]
  exact WriteBehind.ext rfl rfl rfl (Function.update_eq_self _ _)

/-- A turn is its trace on the storage. -/
theorem turn_storage (input : TurnInput) :
    (system.turn decoders key input).storage other =
      run (WriteBehind.step (· + 1)) (system.storage other)
        (system.turnWrites decoders key input) := by
  cases hfits : system.fits key input with
  | false =>
    cases input with
    | saved success =>
      have hwrites : system.turnWrites decoders key (.saved success) = [] := by
        have hunfit : ¬ success = system.replaced key := by
          simpa [fits] using hfits
        unfold turnWrites
        split <;> simp_all
      rw [hwrites]
      simp [turn, hfits]
    | _ => cases hfits
  | true =>
    cases (serverStep_turn_effect decoders system.server key input).1 with
    | quiet hdurability hphase hidle =>
      refine idle_storage decoders system key other hfits hidle hdurability ?_
      rcases hphase with hsame | ⟨hbefore, hafter⟩
      · exact congrArg (Phase.writer _) hsame
      · rw [Phase.writer_of_reports _ hafter]
        exact (Phase.writer_of_reports _ hbefore).symm
    | dispatched _ _ _ hphase called hdurability hsaves =>
      subst called
      exact dispatched_storage decoders system key other hphase hdurability hsaves
    | flushed _ _ hphase called hservice hphase' =>
      subst called
      exact flushed_storage decoders system key other hphase hservice hphase'
    | saved _ _ _ hphase called hservice hphase' =>
      subst called
      exact saved_storage decoders system key other hfits hphase hservice hphase'
    | sent reply hphase called hdurability hphase' =>
      subst called
      have hidle : (system.phase key).works .none = false := by
        simp [phase, hphase, Phase.works]
      refine idle_storage decoders system key other hfits hidle hdurability ?_
      simp only at hphase'
      simp [phase, hphase, hphase', Phase.writer]

theorem replaceFile_storage :
    (system.replaceFile key).storage other =
      run (WriteBehind.step (· + 1)) (system.storage other)
        (system.writes decoders (.replace key)) := by
  unfold replaceFile
  simp only [writes]
  cases hphase : system.phase key with
  | saving pending reply =>
    have hwriter : (system.storage other).writers (some key) =
        some (if system.replaced key then .written pending.capturedSequence
          else .captured pending.capturedSequence) := by
      simp [storage, hphase, Phase.writer]
    cases hencodes : pending.encodes with
    | false => simp [hencodes]
    | true =>
      cases hreplaced : system.replaced key with
      | true =>
        rw [hreplaced] at hwriter
        simp [hencodes, WriteBehind.step, hwriter]
      | false =>
        rw [hreplaced] at hwriter
        simp only [hencodes, Bool.not_false, Bool.and_self, if_true, run_cons, run_nil,
          WriteBehind.step, hwriter]
        refine WriteBehind.ext rfl rfl rfl ((writers_of_others system key other ?_).trans ?_)
        · exact fun k hk => ⟨rfl, Function.update_of_ne hk _ _⟩
        · have hafter : ({ system with
              file := some pending
              replaced := Function.update system.replaced key true } :
                PersistingServer).phase key = .saving pending reply := hphase
          simp only [hafter, Function.update_self]
          rfl
  | _ => rfl

/-- A step of the environment that performs no turn leaves the writers where they are. -/
theorem storage_of_threads {server : CoordinatorServer}
    (hphase : ∀ k, (server.thread k).phase = system.phase k) :
    ({ system with server := server } : PersistingServer).storage other =
      { system.storage other with
        version := server.shared.service.mutationSequence
        dirty := server.shared.service.persistenceDirty } := by
  refine WriteBehind.ext rfl rfl rfl ?_
  funext k
  cases k with
  | none => rfl
  | some k => exact congrArg (Phase.writer _) (hphase k)

/-- A step of the environment that performs no service operation is nothing on the storage. -/
theorem others_storage {op : ServerOp} (hop : ∀ key input, op ≠ .turn key input)
    (htrace : serverTrace decoders system.server op = []) :
    ({ system with
      server := serverStep decoders system.server op } : PersistingServer).storage other =
      system.storage other := by
  have hservice := serverStep_simulates_service decoders system.server op
  rw [htrace] at hservice
  rw [storage_of_threads system other (serverStep_phase decoders system.server op hop)]
  exact WriteBehind.ext (congrArg CoordinatorService.mutationSequence hservice)
    (congrArg CoordinatorService.persistenceDirty hservice) rfl rfl

/-- Every step is its trace on the storage. -/
theorem persistingStep_simulates_storage :
    Simulates (persistingStep decoders) (WriteBehind.step (· + 1)) (storage · other)
      (writes decoders) := by
  intro system op
  cases op with
  | replace key => exact replaceFile_storage decoders system key other
  | server op =>
    cases op with
    | turn key input => exact turn_storage decoders system key other input
    | service op =>
      cases huses : op.usesFile with
      | true => simp [persistingStep, writes, huses]
      | false =>
        have hdurability := serviceStep_durability system.service huses
        have hmarked := markedIf_storage (w := system.storage other) (s := system.service) rfl rfl
          (system.service.applies op)
        rw [← hdurability] at hmarked
        have hstorage := storage_of_threads system other
          (serverStep_phase decoders system.server (ServerOp.service op) nofun)
        simp only [persistingStep, writes, huses, Bool.false_eq_true, if_false, true_and]
        exact hstorage.trans hmarked
    | listen | accept | shutdown => exact others_storage decoders system other nofun rfl

end PersistingServer

end Storage

end TrafficFabric
