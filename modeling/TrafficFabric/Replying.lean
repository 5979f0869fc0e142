import TrafficFabric.Answers
import TrafficFabric.Handshake

/-!
# The turns of a thread and the answer to its frame

The answer to a frame is a function of the service, of the frame and of what
others do to the service in between.  A session thread takes two turns over it:
one validates the frame, the other dispatches it, and other threads may step
between them.  Of the answer the thread keeps the kind, or the error.
-/

namespace TrafficFabric

open Lib CoordinatorHandler

/-- What the session thread keeps of an answer. -/
def Answer.reply : Answer → Reply
  | .error code message => .error code message
  | .explained code message reasons => .explained code message reasons
  | .typed payload => .typed payload.kind

section Turns

variable (decoders : RequestDecoders) (render : Renderer) (key : ConnectionKey) (shared : Shared)
variable (worker : Worker)

/-- A frame is replied to at once, or it is validated and is to be dispatched. -/
theorem onEstablished_answers (state : ConnectionState) (frame : Frame) (now : UInt64) :
    let after := onEstablished key shared worker state frame now
    match establishedAnswer state shared.service frame now with
    | some answer => .sent key answer.reply :: shared.log <:+ after.1.log
    | none =>
      after.1.service = dispatchedService shared.service {} frame now ∧
        after.2 = { worker with phase := .dispatching frame (requestContext frame now) } := by
  simp only [onEstablished, establishedAnswer]
  split_ifs
  · exact List.suffix_cons ..
  · exact List.suffix_cons ..
  · exact List.suffix_rfl
  · exact List.suffix_rfl
  · exact ⟨rfl, rfl⟩

/-- A request is replied to by the kind of its answer, whatever happens before it is given. -/
theorem requestAnswer_reply (service : CoordinatorService) (between : List ServiceOp)
    (context : ServiceRequestContext) (minted : Minted) (request : Request) :
    (requestAnswer render service between context minted request).reply =
      request.reply service context := by
  cases request with
  | heartbeat payload =>
    simp only [requestAnswer, Request.reply, answerHeartbeat]
    split_ifs <;> rfl
  | planFlowGroup request =>
    simp only [requestAnswer, Request.reply]
    split <;> rfl
  | _ => rfl

/-- A dispatched frame leaves its thread with the reply of its answer. -/
theorem dispatch_replies {state : ConnectionState} (between : List ServiceOp) (frame : Frame)
    (context : ServiceRequestContext) (minted : Minted) (h : worker.entry = some state) :
    let answer := dispatchAnswer decoders render shared.service between frame context minted
    (dispatch key shared worker decoders frame context minted).2.phase ∈
      [.replying answer.reply, .persisting answer.reply] := by
  unfold dispatch
  rw [h]
  simp only
  split
  · rename_i hhello
    simp only [dispatchAnswer, hhello]
    exact .head _
  · rename_i hother
    rw [dispatchAnswer_of_ne_hello hother]
    cases decodeRequest decoders frame.payload (.ofRaw frame.kind) with
    | none => exact .head _
    | some decoded =>
      cases decoded with
      | error status => exact .head _
      | ok request =>
        simp only [perform, requestAnswer_reply]
        split
        · exact .tail _ (.head _)
        · exact .head _

/-- A connection that was accepted takes its turn. -/
theorem serverStep_turn (server : CoordinatorServer) (input : TurnInput)
    (h : (server.thread key).phase ≠ .opening) :
    ((serverStep decoders server (.turn key input)).shared,
        (serverStep decoders server (.turn key input)).thread key) =
      turn decoders key server.shared (server.thread key) input := by
  simp only [serverStep]
  cases hworker : server.workers.find key with
  | none => exact absurd (by simp [CoordinatorServer.thread, hworker]) h
  | some worker => simp [CoordinatorServer.thread, hworker]

/-- The steps of others leave the thread of a connection where it is. -/
theorem run_others (server : CoordinatorServer) {others : List ServerOp}
    (hothers : ∀ op ∈ others, ∀ input, op ≠ .turn key input) :
    let thread := (run (serverStep decoders) server others).thread key
    (thread.phase, thread.entry) = ((server.thread key).phase, (server.thread key).entry) := by
  have hstep : ∀ s op, (∀ input, op ≠ .turn key input) →
      ((s.thread key).phase, (s.thread key).entry) =
        ((server.thread key).phase, (server.thread key).entry) →
      (((serverStep decoders s op).thread key).phase,
          ((serverStep decoders s op).thread key).entry) =
        ((server.thread key).phase, (server.thread key).entry) := by
    intro s op hop hsame
    cases serverStep_change decoders s op with
    | steady _ phase entry => rwa [phase key, entry key]
    | turned k input called _ others =>
      have hk : key ≠ k := by
        rintro rfl
        exact hop input called
      rwa [others key hk]
  exact (along_of_forall server hothers).invariant hstep rfl

end Turns

namespace OneConnection

/-- The request behind the hello is received and not handled yet. -/
def inspecting : CoordinatorServer :=
  run (serverStep wireDecoders) (.create {}) greeted.dropLast.dropLast

def inspectingState : ConnectionState :=
  (inspecting.thread 1).entry.getD {}

end OneConnection

end TrafficFabric
