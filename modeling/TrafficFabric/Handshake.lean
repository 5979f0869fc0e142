import TrafficFabric.GrantSoundness
import TrafficFabric.Lib.Chronicle
import TrafficFabric.Payloads
import TrafficFabric.Turns

/-!
# Handshake and replay

Two invariants carry the result.  The first ties a connection to its session:
a session identity was opened for one connection only, a connection opened one
session only, and what the handler knows of a connection agrees with the log.
The second ties the log to the sequences: an open session has reached every
sequence dispatched for it, and a frame that waits for its dispatch has a
sequence above all of these.

Only the connection's own thread validates frames of its session, so two
threads never wait for a dispatch of one session.
-/

namespace TrafficFabric

open Lib

/-- The threads of the coordinator by the connections they serve. -/
abbrev Threads := ConnectionKey → Worker

/-- What a turn does to its own thread it does to every thread, if nothing at all counts. -/
theorem forall_threads {P : ConnectionKey → Worker → Worker → Prop} {threads threads' : Threads}
    {key : ConnectionKey} (hothers : ∀ k, k ≠ key → threads' k = threads k)
    (hsame : ∀ k worker, P k worker worker) (hown : P key (threads key) (threads' key))
    (k : ConnectionKey) : P k (threads k) (threads' k) := by
  by_cases hk : k = key
  · exact hk ▸ hown
  · rw [hothers k hk]
    exact hsame k (threads k)

section Ownership

variable {worker' : Worker}

/-- The log, the threads and the minted identities agree on who owns which session. -/
structure Owned (minted : List SessionId) (log : List Event) (threads : Threads) : Prop where
  issued : ∀ key session, .opened key session ∈ log → session ∈ minted
  started : ∀ key session, .opened key session ∈ log → (threads key).phase ≠ .opening
  single : ∀ key session session', .opened key session ∈ log → .opened key session' ∈ log →
    session = session'
  owner : ∀ key key' session, .opened key session ∈ log → .opened key' session ∈ log → key = key'
  entry : ∀ key state, (threads key).entry = some state → state.rejected = false →
    .opened key state.session ∈ log ∧ (state.hellosPending = 0 → .greeted key ∈ log)

variable {minted : List SessionId} {log : List Event} {threads threads' : Threads}

theorem Owned.nil (hidle : ∀ key, (threads key).entry = none) :
    Owned [] [] threads where
  issued := by simp
  started := by simp
  single := by simp
  owner := by simp
  entry key state hstate := by simp [hidle] at hstate

/--
The thread opens no session, and what it knows of its connection it knew
before or learns by the greeting of the session's owner.
-/
structure Follows
    (log events : List Event) (key : ConnectionKey) (worker worker' : Worker) : Prop where
  opening : worker'.phase = .opening → worker.phase = .opening
  entry : ∀ state, worker'.entry = some state → state.rejected = false →
    worker.entry = some state ∨ (.opened key state.session ∈ log ∧ .greeted key ∈ events)

theorem Follows.of_keeps {log events : List Event} {key : ConnectionKey} {worker : Worker}
    (h : KeepsHandshake worker worker') :
    Follows log events key worker worker' where
  opening := h.opening
  entry state hstate haccepted := .inl (h.entry state hstate haccepted)

theorem Follows.of_entry {log events : List Event} {key : ConnectionKey} {worker : Worker}
    (hopening : worker'.phase = .opening → worker.phase = .opening)
    (hentry : worker'.entry = worker.entry) :
    Follows log events key worker worker' where
  opening := hopening
  entry _ hstate _ := .inl (hentry ▸ hstate)

/-- Steps that open no session. -/
theorem Owned.extend (h : Owned minted log threads) (events : List Event)
    (hevents : ∀ key session, .opened key session ∉ events)
    (hthreads : ∀ key, Follows log events key (threads key) (threads' key))
    (fresh : List SessionId) : Owned (minted ++ fresh) (events ++ log) threads' := by
  have hopened : ∀ {key session}, .opened key session ∈ events ++ log →
      .opened key session ∈ log := by
    intro key session hmem
    exact (List.mem_append.mp hmem).resolve_left (hevents key session)
  refine ⟨?_, ?_, ?_, ?_, ?_⟩
  · intro key session hmem
    exact List.mem_append_left _ (h.issued key session (hopened hmem))
  · intro key session hmem hphase
    exact h.started key session (hopened hmem) ((hthreads key).opening hphase)
  · intro key session session' hmem hmem'
    exact h.single key session session' (hopened hmem) (hopened hmem')
  · intro key key' session hmem hmem'
    exact h.owner key key' session (hopened hmem) (hopened hmem')
  · intro key state hstate haccepted
    rcases (hthreads key).entry state hstate haccepted with hknown | ⟨hopen, hgreeted⟩
    · obtain ⟨hopen, hgreeted⟩ := h.entry key state hknown haccepted
      exact ⟨List.mem_append_right _ hopen, fun hzero => List.mem_append_right _ (hgreeted hzero)⟩
    · exact ⟨List.mem_append_right _ hopen, fun _ => List.mem_append_left _ hgreeted⟩

variable {key : ConnectionKey}

/-- A thread opens a session under an identity that was not minted before. -/
theorem Owned.opened (h : Owned minted log threads) {session : SessionId} {state : ConnectionState}
    (hfresh : session ∉ minted) (hphase : (threads key).phase = .opening)
    (hphase' : (threads' key).phase = .ready) (hentry' : (threads' key).entry = some state)
    (hnamed : state.session = session) (hpending : state.hellosPending = 1)
    (hothers : ∀ k, k ≠ key → threads' k = threads k) :
    Owned (minted ++ [session]) (.opened key session :: log) threads' := by
  have hnone : ∀ session, .opened key session ∉ log :=
    fun session hmem => h.started key session hmem hphase
  have hunused : ∀ key, .opened key session ∉ log :=
    fun key hmem => hfresh (h.issued key session hmem)
  have hcases : ∀ {k σ}, .opened k σ ∈ Event.opened key session :: log →
      (k = key ∧ σ = session) ∨ .opened k σ ∈ log := by
    intro k σ hmem
    rcases List.mem_cons.mp hmem with heq | hold
    · cases heq
      exact .inl ⟨rfl, rfl⟩
    · exact .inr hold
  refine ⟨?_, ?_, ?_, ?_, ?_⟩
  · intro k σ hmem
    rcases hcases hmem with ⟨_, rfl⟩ | hold
    · simp
    · exact List.mem_append_left _ (h.issued k σ hold)
  · intro k σ hmem
    rcases hcases hmem with ⟨rfl, _⟩ | hold
    · simp [hphase']
    · have hk : k ≠ key := by
        rintro rfl
        exact hnone σ hold
      rw [hothers k hk]
      exact h.started k σ hold
  · intro k σ σ' hmem hmem'
    rcases hcases hmem with ⟨rfl, rfl⟩ | hold
    · rcases hcases hmem' with ⟨_, rfl⟩ | hold'
      · rfl
      · exact absurd hold' (hnone σ')
    · rcases hcases hmem' with ⟨rfl, _⟩ | hold'
      · exact absurd hold (hnone σ)
      · exact h.single k σ σ' hold hold'
  · intro k k' σ hmem hmem'
    rcases hcases hmem with ⟨rfl, rfl⟩ | hold
    · rcases hcases hmem' with ⟨rfl, _⟩ | hold'
      · rfl
      · exact absurd hold' (hunused k')
    · rcases hcases hmem' with ⟨_, rfl⟩ | hold'
      · exact absurd hold (hunused k)
      · exact h.owner k k' σ hold hold'
  · intro k state' hstate' haccepted
    by_cases hk : k = key
    · subst hk
      rw [hentry'] at hstate'
      cases hstate'
      exact ⟨by simp [hnamed], by simp [hpending]⟩
    · rw [hothers k hk] at hstate'
      obtain ⟨hopen, hgreeted⟩ := h.entry k state' hstate' haccepted
      exact ⟨List.mem_cons_of_mem _ hopen, fun hzero => List.mem_cons_of_mem _ (hgreeted hzero)⟩

/-- One turn, which mints no identity minted before. -/
theorem Owned.turn {shared shared' : Shared} {input : TurnInput}
    (h : Owned minted shared.log threads) (hfresh : ∀ session ∈ input.mints, session ∉ minted)
    (hchange : TurnChange key shared (threads key) input (shared', worker'))
    (hown : threads' key = worker') (hothers : ∀ k, k ≠ key → threads' k = threads k) :
    Owned (minted ++ input.mints) shared'.log threads' := by
  have hlift : ∀ {events}, Follows shared.log events key (threads key) worker' →
      ∀ k, Follows shared.log events k (threads k) (threads' k) := by
    intro events hfollows
    exact forall_threads hothers (fun k worker => .of_entry id rfl) (hown ▸ hfollows)
  cases hchange with
  | idle _ log handshake =>
    rw [log]
    exact h.extend _ (by simp) (hlift (.of_keeps handshake)) _
  | refused _ _ _ _ log =>
    rw [log, ← List.cons_append]
    exact h.extend _ (by simp) (hlift (.of_entry nofun rfl)) _
  | opened _ id _ _ phase called log phase' entry' named pending =>
    subst called hown
    rw [log]
    exact h.opened (hfresh id.id (by simp [TurnInput.mints])) phase phase' entry' named pending
      hothers
  | greeted state _ reply entry accepted _ log phase' entry' named =>
    rw [log]
    refine h.extend [.sent key reply, .greeted key] (by simp) (hlift ⟨?_, ?_⟩) _
    · intro hopening
      rw [phase'] at hopening
      cases hopening
    · intro known hknown haccepted
      rw [entry'] at hknown
      cases hknown
      exact .inr ⟨named ▸ (h.entry key state entry accepted).1, by simp⟩
  | validated _ _ _ _ _ _ _ _ _ log =>
    rw [log]
    exact h.extend [] (by simp) (hlift (.of_entry nofun rfl)) _
  | dispatched frame context phase log entry' reply phase' =>
    rw [log]
    refine h.extend [_] (by simp) (hlift (.of_entry ?_ entry')) _
    intro hopening
    rw [hopening] at phase'
    rcases phase' with habsurd | habsurd <;> cases habsurd

/-- One step of the coordinator. -/
theorem Owned.step {decoders : RequestDecoders} {server server' : CoordinatorServer}
    {step : ServerOp} (h : Owned minted server.shared.log server.thread)
    (hfresh : ∀ session ∈ step.mints, session ∉ minted)
    (hchange : ServerChange decoders server server' step) :
    Owned (minted ++ step.mints) server'.shared.log server'.thread := by
  cases hchange with
  | steady log phase entry =>
    rw [log]
    refine h.extend [] (by simp) ?_ _
    intro k
    exact .of_entry (fun hopening => phase k ▸ hopening) (entry k)
  | turned key input called next others =>
    subst called
    have hchange := turn_change decoders key server.shared (server.thread key) input
    rw [← next] at hchange
    exact h.turn hfresh hchange rfl others

end Ownership

section Sequences

/--
A frame may be dispatched on a connection that has been greeted, under the
session opened for it, with a sequence above all dispatched for that session.
-/
def DispatchAllowed (past : List Event) : Event → Prop
  | .dispatched key context sequence =>
    .greeted key ∈ past ∧
      .opened key context.session ∈ past ∧
      ∀ key' context' sequence', .dispatched key' context' sequence' ∈ past →
        context'.session = context.session → sequence'.value < sequence.value
  | _ => True

/-- An open session has reached the sequence. -/
def Reached (service : CoordinatorService) (session : SessionId) (sequence : Sequence) : Prop :=
  ∀ binding, service.sessions.find session = some binding →
    sequence.value ≤ binding.lastFrameSequence.value

theorem Reached.advance {service service' : CoordinatorService} {session : SessionId}
    {sequence : Sequence} {fresh : List SessionId} (h : Reached service session sequence)
    (hadvance : SessionsAdvance service service' fresh) (hold : session ∉ fresh) :
    Reached service' session sequence := by
  intro binding' hbinding'
  rcases hadvance session binding' hbinding' with hfresh | ⟨binding, hbinding, hle⟩
  · exact absurd hfresh hold
  · exact UInt64.le_trans (h binding hbinding) hle

/-- The log, the threads and the session table agree on the sequences dispatched so far. -/
structure Sequenced
    (service : CoordinatorService) (log : List Event) (threads : Threads) : Prop where
  spent : ∀ key context sequence, .dispatched key context sequence ∈ log →
    .opened key context.session ∈ log ∧ Reached service context.session sequence
  pending : ∀ key frame context, (threads key).phase = .dispatching frame context →
    DispatchAllowed log (.dispatched key context frame.envelope.frameSequence) ∧
      Reached service context.session frame.envelope.frameSequence
  allowed : EachAllowed DispatchAllowed log

variable {minted fresh : List SessionId} {service service' : CoordinatorService}
variable {log : List Event} {threads threads' : Threads}

theorem Sequenced.nil
    (hidle : ∀ key frame context, (threads key).phase ≠ .dispatching frame context) :
    Sequenced service [] threads where
  spent := by simp
  pending key frame context hphase := absurd hphase (hidle key frame context)
  allowed := trivial

/-- The service moves on under identities not minted before. -/
theorem Sequenced.advance (h : Sequenced service log threads) (howned : Owned minted log threads)
    (hadvance : SessionsAdvance service service' fresh)
    (hfresh : ∀ session ∈ fresh, session ∉ minted) : Sequenced service' log threads := by
  have hold : ∀ {key session}, .opened key session ∈ log → session ∉ fresh := by
    intro key session hopened hmem
    exact hfresh session hmem (howned.issued key session hopened)
  refine ⟨?_, ?_, h.allowed⟩
  · intro key context sequence hmem
    obtain ⟨hopened, hreached⟩ := h.spent key context sequence hmem
    exact ⟨hopened, hreached.advance hadvance (hold hopened)⟩
  · intro key frame context hphase
    obtain ⟨hallowed, hreached⟩ := h.pending key frame context hphase
    exact ⟨hallowed, hreached.advance hadvance (hold hallowed.2.1)⟩

/-- Events that are no dispatch leave a dispatch allowed. -/
theorem DispatchAllowed.extend {key : ConnectionKey} {context : ServiceRequestContext}
    {sequence : Sequence} (h : DispatchAllowed log (.dispatched key context sequence))
    {events : List Event}
    (hevents : ∀ key context sequence, .dispatched key context sequence ∉ events) :
    DispatchAllowed (events ++ log) (.dispatched key context sequence) := by
  obtain ⟨hgreeted, hopened, hsequence⟩ := h
  refine ⟨List.mem_append_right _ hgreeted, List.mem_append_right _ hopened, ?_⟩
  intro key' context' sequence' hmem
  exact hsequence key' context' sequence'
    ((List.mem_append.mp hmem).resolve_left (hevents key' context' sequence'))

/-- Steps that dispatch nothing and leave no new frame to dispatch. -/
theorem Sequenced.extend (h : Sequenced service log threads) (events : List Event)
    (hevents : ∀ key context sequence, .dispatched key context sequence ∉ events)
    (hthreads : ∀ key, KeepsDispatch (threads key) (threads' key)) :
    Sequenced service (events ++ log) threads' := by
  refine ⟨?_, ?_, ?_⟩
  · intro key context sequence hmem
    have hpast := (List.mem_append.mp hmem).resolve_left (hevents key context sequence)
    obtain ⟨hopened, hreached⟩ := h.spent key context sequence hpast
    exact ⟨List.mem_append_right _ hopened, hreached⟩
  · intro key frame context hphase
    obtain ⟨hallowed, hreached⟩ := h.pending key frame context (hthreads key frame context hphase)
    exact ⟨hallowed.extend hevents, hreached⟩
  · refine h.allowed.append ?_
    intro event hevent past
    cases event with
    | dispatched key context sequence => exact absurd hevent (hevents key context sequence)
    | _ => trivial

variable {key : ConnectionKey} {frame : Frame} {context : ServiceRequestContext}

/-- A frame is left to dispatch that the log allows and the session has reached. -/
theorem Sequenced.validated (h : Sequenced service log threads)
    (hphase' : (threads' key).phase = .dispatching frame context)
    (hothers : ∀ k, k ≠ key → threads' k = threads k)
    (hallowed : DispatchAllowed log (.dispatched key context frame.envelope.frameSequence))
    (hreached : Reached service context.session frame.envelope.frameSequence) :
    Sequenced service log threads' := by
  refine ⟨h.spent, ?_, h.allowed⟩
  intro k frame' context' hphase
  by_cases hk : k = key
  · subst hk
    rw [hphase'] at hphase
    cases hphase
    exact ⟨hallowed, hreached⟩
  · rw [hothers k hk] at hphase
    exact h.pending k frame' context' hphase

/-- The frame that waited is dispatched; no other thread waits for this session. -/
theorem Sequenced.dispatched (h : Sequenced service log threads) (howned : Owned minted log threads)
    (hphase : (threads key).phase = .dispatching frame context)
    (hphase' : ∀ frame context, (threads' key).phase ≠ .dispatching frame context)
    (hothers : ∀ k, k ≠ key → threads' k = threads k) :
    Sequenced service (.dispatched key context frame.envelope.frameSequence :: log) threads' := by
  obtain ⟨hallowed, hreached⟩ := h.pending key frame context hphase
  refine ⟨?_, ?_, hallowed, h.allowed⟩
  · intro k context' sequence hmem
    rcases List.mem_cons.mp hmem with heq | hpast
    · cases heq
      exact ⟨List.mem_cons_of_mem _ hallowed.2.1, hreached⟩
    · obtain ⟨hopened, hreached'⟩ := h.spent k context' sequence hpast
      exact ⟨List.mem_cons_of_mem _ hopened, hreached'⟩
  · intro k frame' context' hwaits
    have hk : k ≠ key := by
      rintro rfl
      exact hphase' frame' context' hwaits
    rw [hothers k hk] at hwaits
    obtain ⟨⟨hgreeted, hopened, hsequence⟩, hreached'⟩ := h.pending k frame' context' hwaits
    refine ⟨⟨List.mem_cons_of_mem _ hgreeted, List.mem_cons_of_mem _ hopened, ?_⟩, hreached'⟩
    intro k' context'' sequence hmem hsame
    rcases List.mem_cons.mp hmem with heq | hpast
    · cases heq
      rw [← hsame] at hopened
      exact absurd (howned.owner k key _ hopened hallowed.2.1) hk
    · exact hsequence k' context'' sequence hpast hsame

/-- One turn, which mints no identity minted before. -/
theorem Sequenced.turn {shared shared' : Shared} {input : TurnInput} {worker' : Worker}
    (h : Sequenced shared.service shared.log threads) (howned : Owned minted shared.log threads)
    (hadvance : SessionsAdvance shared.service shared'.service fresh)
    (hfresh : ∀ session ∈ fresh, session ∉ minted)
    (hchange : TurnChange key shared (threads key) input (shared', worker'))
    (hown : threads' key = worker') (hothers : ∀ k, k ≠ key → threads' k = threads k) :
    Sequenced shared'.service shared'.log threads' := by
  have hadvanced := h.advance howned hadvance hfresh
  have hlift : KeepsDispatch (threads key) worker' →
      ∀ k, KeepsDispatch (threads k) (threads' k) := by
    intro hkeeps
    refine forall_threads (P := fun _ => KeepsDispatch) hothers ?_ (hown ▸ hkeeps)
    intro k worker frame context
    exact id
  cases hchange with
  | idle _ log _ dispatch =>
    rw [log]
    exact hadvanced.extend _ (by simp) (hlift dispatch)
  | refused _ _ _ _ log =>
    rw [log, ← List.cons_append]
    exact hadvanced.extend _ (by simp) (hlift nofun)
  | opened _ _ _ _ _ _ log phase' =>
    rw [log]
    exact hadvanced.extend [_] (by simp) (hlift (by simp [KeepsDispatch, phase']))
  | greeted _ _ _ _ _ _ log phase' =>
    rw [log]
    exact hadvanced.extend [_, _] (by simp) (hlift (by simp [KeepsDispatch, phase']))
  | validated frame now state binding phase entry accepted established owned log before newer after =>
    obtain ⟨hopened, hgreeted⟩ := howned.entry key state entry accepted
    have hsession : (CoordinatorHandler.requestContext frame now).session = state.session := owned
    rw [log]
    refine hadvanced.validated (by rw [hown]) hothers ⟨hgreeted established, ?_, ?_⟩ ?_
    · rw [hsession]
      exact hopened
    · intro key' context' sequence' hmem hsame
      have hreached := (h.spent key' context' sequence' hmem).2
      rw [hsame, hsession] at hreached
      exact UInt64.lt_of_le_of_lt (hreached binding before) newer
    · intro binding' hbinding'
      rw [hsession] at hbinding'
      rw [after binding' hbinding']
      exact UInt64.le_refl _
  | dispatched frame context phase log entry' reply phase' =>
    rw [log]
    refine hadvanced.dispatched howned phase ?_ hothers
    intro frame' context' hphase
    rw [hown] at hphase
    rw [hphase] at phase'
    rcases phase' with habsurd | habsurd <;> cases habsurd

/-- One step of the coordinator. -/
theorem Sequenced.step {decoders : RequestDecoders} {server : CoordinatorServer} {step : ServerOp}
    (h : Sequenced server.shared.service server.shared.log server.thread)
    (howned : Owned minted server.shared.log server.thread)
    (hfresh : ∀ session ∈ step.mints, session ∉ minted) :
    Sequenced (serverStep decoders server step).shared.service
      (serverStep decoders server step).shared.log (serverStep decoders server step).thread := by
  have hadvance := serverStep_sessionsAdvance decoders server step
  cases serverStep_change decoders server step with
  | steady log phase entry =>
    rw [log]
    refine (h.advance howned hadvance hfresh).extend [] (by simp) ?_
    intro k frame context hphase
    exact phase k ▸ hphase
  | turned key input called next others =>
    have hchange := turn_change decoders key server.shared (server.thread key) input
    rw [← next] at hchange
    exact h.turn howned hadvance hfresh hchange rfl others

end Sequences

section Runs

/-- Both invariants hold after every run whose minted session identities are distinct. -/
theorem owned_and_sequenced (decoders : RequestDecoders) (config : CoordinatorConfig)
    (steps : List ServerOp) (hminted : (steps.flatMap ServerOp.mints).Nodup) :
    let server := run (serverStep decoders) (.create config) steps
    Owned (steps.flatMap ServerOp.mints) server.shared.log server.thread ∧
      Sequenced server.shared.service server.shared.log server.thread := by
  let Inv (steps : List ServerOp) (server : CoordinatorServer) : Prop :=
    (steps.flatMap ServerOp.mints).Nodup →
      Owned (steps.flatMap ServerOp.mints) server.shared.log server.thread ∧
        Sequenced server.shared.service server.shared.log server.thread
  have hinit : Inv [] (CoordinatorServer.create config) :=
    fun _ => ⟨.nil fun _ => rfl, .nil fun _ => nofun⟩
  have hstep : ∀ before server step, Inv before server →
      Inv (before ++ [step]) (serverStep decoders server step) := by
    intro before server step hinv hnodup
    rw [List.flatMap_append, List.flatMap_singleton] at hnodup ⊢
    obtain ⟨hbefore, _, hdisjoint⟩ := List.nodup_append.mp hnodup
    obtain ⟨howned, hsequenced⟩ := hinv hbefore
    have hfresh : ∀ session ∈ step.mints, session ∉ before.flatMap ServerOp.mints :=
      fun session hnew hold => hdisjoint session hold session hnew rfl
    exact ⟨howned.step hfresh (serverStep_change decoders server step),
      hsequenced.step howned hfresh⟩
  exact run_history (fun before step => hstep before _ step) hinit steps hminted

/--
Over any interleaving of any connections whose minted session identities are
distinct: a frame is dispatched only after the hello of its connection, under
the one session opened for that connection, and with a sequence above every
sequence dispatched for that session before; and an envelope that is refused
leaves the service with its session table as it was.
-/
theorem handshake_and_replay_safe (decoders : RequestDecoders) (config : CoordinatorConfig)
    (steps : List ServerOp) (hminted : (steps.flatMap ServerOp.mints).Nodup) :
    let server := run (serverStep decoders) (CoordinatorServer.create config) steps
    (∀ past key context sequence,
      .dispatched key context sequence :: past <:+ server.shared.log →
        .greeted key ∈ past ∧
        .opened key context.session ∈ past ∧
        (∀ session, .opened key session ∈ server.shared.log → session = context.session) ∧
        ∀ key' context' sequence', .dispatched key' context' sequence' ∈ past →
          context'.session = context.session → sequence'.value < sequence.value) ∧
    ∀ envelope now reasons,
      (server.shared.service.validateEnvelope envelope now reasons).1.isOk = false →
        (server.shared.service.validateEnvelope envelope now reasons).2.2 =
          server.shared.service := by
  intro server
  obtain ⟨howned, hsequenced⟩ := owned_and_sequenced decoders config steps hminted
  refine ⟨?_, ?_⟩
  · intro past key context sequence hevent
    obtain ⟨hgreeted, hopened, hsequence⟩ := hsequenced.allowed.allowed_at hevent
    refine ⟨hgreeted, hopened, ?_, hsequence⟩
    intro session hsession
    have hlogged := hevent.subset (List.mem_cons_of_mem _ hopened)
    exact howned.single key session context.session hsession hlogged
  · intro envelope now reasons hrefused
    rcases validateEnvelope_cases server.shared.service envelope now reasons with
      ⟨_, hkept⟩ | ⟨haccepted, _⟩
    · exact hkept
    · exact absurd hrefused (by simp only [haccepted, Bool.true_eq_false, not_false_eq_true])

end Runs

namespace OneConnection

open TwoMembers

/-- A request of session 41 in the first epoch. -/
def requestFrame (kind : MessageKind) (sequence : UInt64) (payload : Text) : Frame where
  kind := kind.toRaw
  flags := flagRequest
  envelope :=
    { session := ⟨41, 0⟩
      incarnation := ⟨42, 0⟩
      epoch := ⟨100, 0⟩
      frameSequence := ⟨sequence⟩ }
  payload := payload

def inspectFrame (sequence : UInt64) : Frame :=
  requestFrame .inspectRequest sequence (encodeInspectRequest {})

/-- Frames as they arrive in one read. -/
def wire (frames : List Frame) : Arrival :=
  .bytes (frames.flatMap fun frame => (encodeFrame frame).toOption.getD [])

/-- The coordinator serves connection 1 under session 41. -/
def accepted : List ServerOp :=
  [ .listen,
    .service (.start [epochDraw]),
    .accept 1,
    .turn 1 (.opened 1 sessionDraw incarnationDraw),
    .turn 1 .none ]

/-- The thread decodes the next frame it has received and hands it to the handler. -/
def handled (now : UInt64) : List ServerOp :=
  [.turn 1 (.arrived .idle), .turn 1 (.clock now)]

/-- What the random source draws for the first request and for the second. -/
def firstDraw : Minted :=
  minted 60 (by decide)

def secondDraw : Minted :=
  minted 61 (by decide)

/-- A hello and a request arrive in one read; the request is dispatched. -/
def greeted : List ServerOp :=
  accepted ++ [.turn 1 (.arrived (wire [helloFrame, inspectFrame 1]))] ++ handled 2 ++
    [.turn 1 .none] ++ handled 3 ++ [.turn 1 (.minted firstDraw)]

end OneConnection

open OneConnection in
set_option maxRecDepth 2048 in
/-- The request behind the hello is dispatched under the session of its connection. -/
theorem handshake_and_replay_safe_on_greeted :
    ∃ past context,
      .dispatched 1 context ⟨1⟩ :: past <:+
          (run (serverStep wireDecoders) (CoordinatorServer.create {}) greeted).shared.log ∧
        .greeted 1 ∈ past ∧ .opened 1 context.session ∈ past := by
  have hsafe := handshake_and_replay_safe wireDecoders {} greeted (by decide +kernel)
  have hnewest : ((run (serverStep wireDecoders) (.create {})
      greeted).shared.log.drop 0).head? = some (.dispatched 1
        { session := ⟨41, 0⟩, incarnation := ⟨42, 0⟩, epoch := ⟨100, 0⟩, nowMonotonicMs := 3 }
        ⟨1⟩) := by
    decide +kernel
  have hevent := suffix_of_head?_drop 0 hnewest
  obtain ⟨hgreeted, hopened, _⟩ := hsafe.1 _ 1 _ ⟨1⟩ hevent
  exact ⟨_, _, hevent, hgreeted, hopened⟩

end TrafficFabric
