import TrafficFabric.Handshake

/-!
# What follows a refusal

A frame that closes its connection makes the handler shut the socket down.
This neither ends the receive loop nor drops what has been received, so a whole
frame behind the refused one is still decoded and handled: it can complete the
handshake that was refused, and it can be dispatched.

Where the loop finds no whole frame on a refused connection, nothing of that
connection is greeted or dispatched any more.
-/

namespace TrafficFabric

open Lib

/-- A connection is greeted, and a frame dispatched, only where no frame was refused. -/
def FollowsNoRefusal (past : List Event) : Event → Prop
  | .greeted key => .refused key ∉ past
  | .dispatched key _ _ => .refused key ∉ past
  | _ => True

/-- The thread holds no frame and no reply. -/
def Phase.betweenFrames : Phase → Bool
  | .ready => true
  | .receiving => true
  | .closing _ => true
  | .done => true
  | _ => false

/-- The receive loop finds no whole frame in the buffer of a refused connection. -/
def FindsNoRefusedFrame (server : CoordinatorServer) : ServerOp → Prop
  | .turn key (.arrived _) =>
    (server.thread key).phase = .receiving → .refused key ∈ server.shared.log →
      ¬ (server.thread key).connection.HoldsFrame
  | _ => True

instance (server : CoordinatorServer) (step : ServerOp) :
    Decidable (FindsNoRefusedFrame server step) := by
  unfold FindsNoRefusedFrame
  split <;> infer_instance

/-- A thread between two frames that finds none stays between frames and notes nothing. -/
theorem turn_of_betweenFrames (decoders : RequestDecoders) (key : ConnectionKey) (shared : Shared)
    {worker : Worker} {input : TurnInput} (hbetween : worker.phase.betweenFrames = true)
    (hnone : ∀ arrival, input = .arrived arrival → worker.phase = .receiving →
      ¬ worker.connection.HoldsFrame) :
    (turn decoders key shared worker input).1.log = shared.log ∧
      (turn decoders key shared worker input).2.phase.betweenFrames = true := by
  unfold turn
  cases hphase : worker.phase with
  | ready =>
    cases input with
    | none =>
      simp only
      split <;> exact ⟨rfl, rfl⟩
    | _ => exact ⟨rfl, hbetween⟩
  | receiving =>
    cases input with
    | arrived arrival =>
      rcases worker.connection.receivePass_cases arrival with
        ⟨frame, consumed, hdecoded, _⟩ | ⟨_, hpass | ⟨received, _, hpass⟩ | ⟨status, hpass⟩⟩
      · exact absurd ⟨frame, consumed, hdecoded⟩ (hnone arrival rfl hphase)
      · simp [hpass, Phase.betweenFrames]
      · simp [hpass, Phase.betweenFrames]
      · simp [hpass, Phase.betweenFrames]
    | _ => exact ⟨rfl, hbetween⟩
  | closing reason =>
    cases input with
    | clock now => exact ⟨rfl, rfl⟩
    | _ => exact ⟨rfl, hbetween⟩
  | done => exact ⟨rfl, hbetween⟩
  | _ => simp [hphase, Phase.betweenFrames] at hbetween

/-- A refused connection is between frames, and the log keeps the rule. -/
structure Silenced (log : List Event) (threads : Threads) : Prop where
  between : ∀ key, .refused key ∈ log → (threads key).phase.betweenFrames = true
  allowed : EachAllowed FollowsNoRefusal log

section Steps

variable {log : List Event} {threads threads' : Threads} {key : ConnectionKey}

/-- Steps that refuse nothing, note allowed events and leave the refused connections. -/
theorem Silenced.extend (h : Silenced log threads) (events : List Event)
    (hevents : ∀ k, .refused k ∉ events) (hallowed : EachAllowed FollowsNoRefusal (events ++ log))
    (hthreads : ∀ k, .refused k ∈ log → threads' k = threads k) :
    Silenced (events ++ log) threads' := by
  refine ⟨?_, hallowed⟩
  intro k hmem
  have hpast := (List.mem_append.mp hmem).resolve_left (hevents k)
  rw [hthreads k hpast]
  exact h.between k hpast

/-- Replies are always allowed. -/
theorem eachAllowed_replies (key : ConnectionKey) (replies : List Reply)
    (h : EachAllowed FollowsNoRefusal log) :
    EachAllowed FollowsNoRefusal (replies.map (.sent key) ++ log) := by
  refine h.append ?_
  intro event hevent past
  obtain ⟨reply, _, rfl⟩ := List.mem_map.mp hevent
  trivial

/-- A turn of a connection that was not refused before. -/
theorem Silenced.turn {shared shared' : Shared} {input : TurnInput} {worker' : Worker}
    (h : Silenced shared.log threads) (hunrefused : .refused key ∉ shared.log)
    (hchange : TurnChange key shared (threads key) input (shared', worker'))
    (hown : threads' key = worker') (hothers : ∀ k, k ≠ key → threads' k = threads k) :
    Silenced shared'.log threads' := by
  have hthreads : ∀ k, .refused k ∈ shared.log → threads' k = threads k := by
    intro k hrefused
    refine hothers k ?_
    rintro rfl
    exact hunrefused hrefused
  cases hchange with
  | idle replies log =>
    rw [log]
    exact h.extend _ (by simp) (eachAllowed_replies key replies h.allowed) hthreads
  | refused frame replies phase closes log =>
    have hreplied := h.extend (replies.map (.sent key)) (by simp)
      (eachAllowed_replies key replies h.allowed) hthreads
    rw [log]
    refine ⟨?_, trivial, hreplied.allowed⟩
    intro k hmem
    rcases List.mem_cons.mp hmem with heq | hpast
    · cases heq
      rw [hown]
      rfl
    · exact hreplied.between k hpast
  | opened now id incarnation state phase called log phase' entry' named pending =>
    rw [log]
    exact h.extend [_] (by simp) ⟨trivial, h.allowed⟩ hthreads
  | greeted state state' reply entry accepted received log phase' entry' named =>
    rw [log]
    exact h.extend [_, _] (by simp) ⟨trivial, hunrefused, h.allowed⟩ hthreads
  | validated _ _ _ _ _ _ _ _ _ log =>
    rw [log]
    exact h.extend [] (by simp) h.allowed hthreads
  | dispatched _ _ _ log =>
    rw [log]
    exact h.extend [_] (by simp) ⟨hunrefused, h.allowed⟩ hthreads

/-- One step of the coordinator that finds no frame on a refused connection. -/
theorem Silenced.step {decoders : RequestDecoders} {server : CoordinatorServer} {step : ServerOp}
    (h : Silenced server.shared.log server.thread) (hmeets : FindsNoRefusedFrame server step) :
    Silenced (serverStep decoders server step).shared.log
      (serverStep decoders server step).thread := by
  cases serverStep_change decoders server step with
  | steady log phase entry =>
    rw [log]
    refine ⟨?_, h.allowed⟩
    intro k hrefused
    rw [phase k]
    exact h.between k hrefused
  | turned key input called next others =>
    subst called
    by_cases hrefused : .refused key ∈ server.shared.log
    · have hnone : ∀ arrival, input = .arrived arrival →
          (server.thread key).phase = .receiving →
          ¬ (server.thread key).connection.HoldsFrame := by
        rintro arrival rfl hphase
        exact hmeets hphase hrefused
      obtain ⟨hlog, hphase⟩ :=
        turn_of_betweenFrames decoders key server.shared (h.between key hrefused) hnone
      rw [← next] at hlog hphase
      rw [hlog]
      refine ⟨?_, h.allowed⟩
      intro k hk
      by_cases hkey : k = key
      · exact hkey ▸ hphase
      · rw [others k hkey]
        exact h.between k hk
    · have hchange := turn_change decoders key server.shared (server.thread key) input
      rw [← next] at hchange
      exact h.turn hrefused hchange rfl others

end Steps

/--
In every run in which the receive loop finds no whole frame on a refused
connection, no connection is greeted and no frame of it dispatched after a
frame of it was refused.
-/
theorem nothing_follows_refusal (decoders : RequestDecoders) (config : CoordinatorConfig)
    {steps : List ServerOp}
    (hmeets : Along (serverStep decoders) FindsNoRefusedFrame (CoordinatorServer.create config)
      steps) {past : List Event} {key : ConnectionKey} {event : Event}
    (hevent : event :: past <:+
      (run (serverStep decoders) (CoordinatorServer.create config) steps).shared.log)
    (hkind : event = .greeted key ∨
      ∃ context sequence, event = .dispatched key context sequence) : .refused key ∉ past := by
  have hinit : Silenced (CoordinatorServer.create config).shared.log
      (CoordinatorServer.create config).thread :=
    ⟨by simp [CoordinatorServer.create], trivial⟩
  have hstep : ∀ server step, FindsNoRefusedFrame server step →
      Silenced server.shared.log server.thread →
      Silenced (serverStep decoders server step).shared.log
        (serverStep decoders server step).thread :=
    fun server step hstep hsilenced => hsilenced.step hstep
  have hfollows := (hmeets.invariant hstep hinit).allowed.allowed_at hevent
  rcases hkind with rfl | ⟨context, sequence, rfl⟩
  · exact hfollows
  · exact hfollows

namespace OneConnection

open TwoMembers

/-- A request of a session the connection does not own. -/
def foreignFrame : Frame :=
  { inspectFrame 1 with envelope := { (inspectFrame 1).envelope with session := ⟨77, 0⟩ } }

/-- A request and a hello arrive in one read; the request is no hello. -/
def helloBehindRefusal : List ServerOp :=
  accepted ++ [.turn 1 (.arrived (wire [inspectFrame 1, helloFrame]))] ++ handled 2 ++
    [.turn 1 .none] ++ handled 3

/-- A hello, a foreign request and an own one arrive in one read. -/
def requestBehindRefusal : List ServerOp :=
  accepted ++ [.turn 1 (.arrived (wire [helloFrame, foreignFrame, inspectFrame 1]))] ++
    handled 2 ++ [.turn 1 .none] ++ handled 3 ++ [.turn 1 .none] ++ handled 4 ++
    [.turn 1 (.minted firstDraw)]

/-- A hello and a foreign request arrive in one read, and nothing behind them. -/
def nothingBehindRefusal : List ServerOp :=
  accepted ++ [.turn 1 (.arrived (wire [helloFrame, foreignFrame]))] ++ handled 2 ++
    [.turn 1 .none] ++ handled 3 ++ [.turn 1 .none, .turn 1 (.arrived .idle)]

end OneConnection

open OneConnection in
set_option maxRecDepth 2048 in
/--
The connection is refused for a first frame that is no hello and greeted for
the hello behind it; and a request behind a foreign one is dispatched.
-/
theorem refused_connection_greeted_and_dispatched :
    (∃ past,
      .greeted 1 :: past <:+
          (run (serverStep wireDecoders) (CoordinatorServer.create {}) helloBehindRefusal).shared.log ∧
        .refused 1 ∈ past) ∧
      ∃ past context sequence,
        .dispatched 1 context sequence :: past <:+
            (run (serverStep wireDecoders) (CoordinatorServer.create {})
              requestBehindRefusal).shared.log ∧
          .refused 1 ∈ past := by
  refine ⟨⟨_, suffix_of_head?_drop 1 ?_, ?_⟩,
    ⟨_, { session := ⟨41, 0⟩, incarnation := ⟨42, 0⟩, epoch := ⟨100, 0⟩, nowMonotonicMs := 4 }, ⟨1⟩,
      suffix_of_head?_drop 0 ?_, ?_⟩⟩
  all_goals decide +kernel

open OneConnection in
set_option maxRecDepth 2048 in
/-- The connection is greeted before the refusal, and nothing comes after the refusal. -/
theorem nothing_follows_refusal_of_nothing_behind :
    ∃ past,
      .greeted 1 :: past <:+
          (run (serverStep wireDecoders) (CoordinatorServer.create {})
            nothingBehindRefusal).shared.log ∧
        .refused 1 ∉ past ∧
        .refused 1 ∈ (run (serverStep wireDecoders) (CoordinatorServer.create {})
          nothingBehindRefusal).shared.log := by
  have hgreeted : ((run (serverStep wireDecoders) (.create {})
      nothingBehindRefusal).shared.log.drop 3).head? = some (.greeted 1) := by
    decide +kernel
  have hevent := suffix_of_head?_drop 3 hgreeted
  refine ⟨_, hevent, ?_, by decide +kernel⟩
  exact nothing_follows_refusal wireDecoders {} (by decide +kernel) hevent (.inl rfl)

end TrafficFabric
