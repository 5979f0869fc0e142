import TrafficFabric.SessionTable
import TrafficFabric.GrantSoundness
import TrafficFabric.Lib.WriteBehind

/-!
# Concurrent flushes

A flush captures the durable state under the lock, replaces the file without
it, and takes the lock again to declare the state clean if no mutation has come
in between.  So does a stop.  Two flushes may replace the file in the order
opposite to their captures, and each looks at its own capture only.

The service with its file is write-behind storage, with the mutation sequence
as the version: it satisfies what that library proves of replacements in order.
-/

namespace TrafficFabric

open Lib WriteBehind

/-- A flush between its locked parts, before and after it has replaced the file. -/
inductive FlushPhase where
  | captured (pending : PendingSave)
  | replaced (pending : PendingSave)

/-- The service, the save its file was written from, and the flushes in progress. -/
structure FlushSystem where
  service : CoordinatorService
  file : PendingSave
  flushes : KeyMap Nat FlushPhase := ∅

/-- What a thread does next; a flush and a stop are named by the number of their call. -/
inductive FlushOp where
  | operate (op : ServiceOp)
  | flush (call : Nat) (nowMonotonicMs : UInt64)
  | stop (call : Nat) (nowMonotonicMs : UInt64)
  | replace (call : Nat)
  | complete (call : Nat)

namespace FlushSystem

/-- The locked part of a flush or of a stop, with the write that it leaves to do. -/
def captured
    (system : FlushSystem) (call : Nat) (pending : Option PendingSave)
    (service : CoordinatorService) : FlushSystem :=
  { system with
    service := service
    flushes :=
      match pending with
      | none => system.flushes
      | some pending => system.flushes.assign call (.captured pending) }

end FlushSystem

/--
One atomic step.  The operations on the file itself have steps of their own; a
call that is still in progress does not begin again.
-/
def flushStep (system : FlushSystem) : FlushOp → FlushSystem
  | .operate op =>
    if op.usesFile then system
    else { system with service := serviceStep system.service op }
  | .flush call now =>
    if (system.flushes.find call).isSome then system
    else
      let (_, pending, service) := system.service.flush now
      system.captured call pending service
  | .stop call now =>
    if (system.flushes.find call).isSome then system
    else
      let (_, pending, service) := system.service.stop now
      system.captured call pending service
  | .replace call =>
    match system.flushes.find call with
    | some (.captured pending) =>
      { system with
        file := pending
        flushes := system.flushes.assign call (.replaced pending) }
    | _ => system
  | .complete call =>
    match system.flushes.find call with
    | some (.replaced pending) =>
      { system with
        service := system.service.completeSave pending.capturedSequence
        flushes := system.flushes.remove call }
    | _ => system

section Simulation

def FlushPhase.writer : FlushPhase → Writer UInt64
  | .captured pending => .captured pending.capturedSequence
  | .replaced pending => .written pending.capturedSequence

/-- The system as write-behind storage. -/
def FlushSystem.storage (system : FlushSystem) : WriteBehind UInt64 Nat where
  version := system.service.mutationSequence
  dirty := system.service.persistenceDirty
  stored := system.file.capturedSequence
  writers := fun call => (system.flushes.find call).map FlushPhase.writer

/-- What a step does to the storage. -/
def flushTrace (system : FlushSystem) : FlushOp → List (WriteAction Nat)
  | .operate op => if op.usesFile = false ∧ system.service.applies op = true then [.change] else []
  | .flush call now =>
    if (system.flushes.find call).isNone ∧ (system.service.flush now).2.1.isSome then
      [.capture call]
    else
      []
  | .stop call now =>
    if (system.flushes.find call).isNone ∧ (system.service.stop now).2.1.isSome then
      [.capture call]
    else
      []
  | .replace call => [.replace call]
  | .complete call => [.complete call]

/-- What a flush and a stop capture: the current sequence, if anything. -/
structure Captures
    (s s' : CoordinatorService) (pending : Option PendingSave) : Prop where
  durability : s'.durability = s.durability
  sequence : ∀ save ∈ pending, save.capturedSequence = s.mutationSequence

theorem flush_captures (s : CoordinatorService) (now : UInt64) :
    Captures s (s.flush now).2.2 (s.flush now).2.1 := by
  unfold CoordinatorService.flush
  split_ifs
  · exact ⟨rfl, by simp⟩
  · exact ⟨rfl, by simp⟩
  · refine ⟨rfl, ?_⟩
    rintro save ⟨⟩
    rfl

theorem stop_captures (s : CoordinatorService) (now : UInt64) :
    Captures s (s.stop now).2.2 (s.stop now).2.1 := by
  unfold CoordinatorService.stop
  split
  · exact ⟨rfl, by simp⟩
  · refine ⟨rfl, ?_⟩
    intro save hsave
    simp only [Option.mem_def] at hsave
    split at hsave
    · cases hsave
      rfl
    · cases hsave

theorem captured_storage (system : FlushSystem) (call : Nat) {pending : Option PendingSave}
    {service : CoordinatorService} (h : Captures system.service service pending) :
    (system.captured call pending service).storage =
      run (step (· + 1)) system.storage (if pending.isSome then [.capture call] else []) := by
  obtain ⟨hdurability, hsequence⟩ := h
  have hversion : service.mutationSequence = system.service.mutationSequence :=
    congrArg Durability.sequence hdurability
  have hdirty : service.persistenceDirty = system.service.persistenceDirty :=
    congrArg Durability.dirty hdurability
  cases pending with
  | none => simp [FlushSystem.captured, FlushSystem.storage, hversion, hdirty]
  | some save =>
    have hcaptured : save.capturedSequence = system.service.mutationSequence := hsequence save rfl
    simp [FlushSystem.captured, FlushSystem.storage, hversion, hdirty, step,
      KeyMap.map_find_assign, FlushPhase.writer, hcaptured]

/-- On the storage, an operation that applies a change is one, and any other is nothing. -/
theorem markedIf_storage {K : Type} [DecidableEq K] {s : CoordinatorService}
    {w : WriteBehind UInt64 K} (hversion : w.version = s.mutationSequence)
    (hdirty : w.dirty = s.persistenceDirty) (applied : Bool) :
    { w with
      version := (s.markedIf applied).sequence
      dirty := (s.markedIf applied).dirty } =
      run (step (· + 1)) w (if applied then [.change] else []) := by
  cases applied with
  | true => simp [step, Durability.mark, CoordinatorService.durability, hversion]
  | false => simp [CoordinatorService.durability, ← hversion, ← hdirty]

theorem operate_storage (system : FlushSystem) (op : ServiceOp) :
    (flushStep system (.operate op)).storage =
      run (step (· + 1)) system.storage (flushTrace system (.operate op)) := by
  cases huses : op.usesFile with
  | true => simp [flushStep, flushTrace, huses]
  | false =>
    have hdurability := serviceStep_durability system.service huses
    have hmarked := markedIf_storage (w := system.storage) (s := system.service) rfl rfl
      (system.service.applies op)
    rw [← hdurability] at hmarked
    simp only [flushStep, flushTrace, huses, Bool.false_eq_true, if_false, true_and]
    exact hmarked

/-- Every step of the system is its trace on the storage. -/
theorem flushStep_simulates_storage :
    Simulates flushStep (step (· + 1)) FlushSystem.storage flushTrace := by
  intro system op
  cases op with
  | operate op => exact operate_storage system op
  | flush call now =>
    simp only [flushStep, flushTrace]
    cases hbusy : system.flushes.find call with
    | some phase => simp
    | none => simpa using captured_storage system call (flush_captures system.service now)
  | stop call now =>
    simp only [flushStep, flushTrace]
    cases hbusy : system.flushes.find call with
    | some phase => simp
    | none => simpa using captured_storage system call (stop_captures system.service now)
  | replace call =>
    simp only [flushStep, flushTrace, run_cons, run_nil, step]
    cases hphase : system.flushes.find call with
    | none => simp [FlushSystem.storage, hphase]
    | some phase =>
      cases phase with
      | captured pending =>
        simp [FlushSystem.storage, hphase, FlushPhase.writer, KeyMap.map_find_assign]
      | replaced pending => simp [FlushSystem.storage, hphase, FlushPhase.writer]
  | complete call =>
    simp only [flushStep, flushTrace, run_cons, run_nil, step]
    cases hphase : system.flushes.find call with
    | none => simp [FlushSystem.storage, hphase]
    | some phase =>
      cases phase with
      | captured pending => simp [FlushSystem.storage, hphase, FlushPhase.writer]
      | replaced pending =>
        simp only [FlushSystem.storage, hphase, Option.map_some, FlushPhase.writer,
          KeyMap.map_find_remove, CoordinatorService.completeSave]
        rfl

end Simulation

section Order

/--
The step does not put an older capture in the place of a newer one, and it does
not turn the mutation sequence over.
-/
def ReplacesInOrder (system : FlushSystem) : FlushOp → Prop
  | .operate op =>
    op.usesFile = false → system.service.applies op = true →
      system.service.mutationSequence < system.service.mutationSequence + 1
  | .replace call =>
    ∀ pending, system.flushes.find call = some (.captured pending) →
      system.file.capturedSequence ≤ pending.capturedSequence
  | _ => True

/-- A step in order acts on the storage in order. -/
theorem flushTrace_inOrder {system : FlushSystem} {op : FlushOp}
    (horder : ReplacesInOrder system op) :
    Along (step (· + 1)) (WriteBehind.InOrder (· + 1)) system.storage (flushTrace system op) := by
  cases op with
  | operate op =>
    simp only [flushTrace]
    split
    · rename_i hchange
      exact ⟨UInt64.le_of_lt (horder hchange.1 hchange.2), trivial⟩
    · trivial
  | flush | stop =>
    simp only [flushTrace]
    split
    · exact ⟨trivial, trivial⟩
    · trivial
  | replace call =>
    refine ⟨?_, trivial⟩
    intro version hwriter
    obtain ⟨phase, hphase, hversion⟩ := Option.map_eq_some_iff.mp hwriter
    cases phase with
    | captured pending =>
      cases hversion
      exact horder pending hphase
    | replaced pending => cases hversion
  | complete call => exact ⟨trivial, trivial⟩

/--
A clean flag means a current file.  From a file that holds the current durable
state and no flush in progress, along every interleaving of operations, flushes
and stops that replaces in order, the file was written from a capture of the
current mutation sequence whenever the flag is clear.
-/
theorem clean_flag_means_current_file {system : FlushSystem} {ops : List FlushOp}
    (hcurrent : system.file.capturedSequence = system.service.mutationSequence)
    (hidle : ∀ call, system.flushes.find call = none)
    (hops : Along flushStep ReplacesInOrder system ops)
    (hclean : (run flushStep system ops).service.persistenceDirty = false) :
    (run flushStep system ops).file.capturedSequence =
      (run flushStep system ops).service.mutationSequence := by
  have hinit : system.storage.Sound :=
    WriteBehind.sound_of_no_writers (UInt64.le_of_eq hcurrent) (fun _ => hcurrent)
      (by simp [FlushSystem.storage, hidle])
  have hstep : ∀ s op, ReplacesInOrder s op → s.storage.Sound →
      (flushStep s op).storage.Sound := by
    intro s op horder hsound
    rw [flushStep_simulates_storage s op]
    exact (hsound.run (flushTrace_inOrder horder)).1
  have hend : (run flushStep system ops).storage.Sound := hops.invariant hstep hinit
  exact hend.clean hclean

namespace TwoMembers

/-- A started service with a configured path and nothing to save. -/
def configured : CoordinatorService :=
  run serviceStep (.create {}) (boot ++ [.configurePersistence [112] 3])

/-- Its file holds its durable state. -/
def flushed : FlushSystem where
  service := configured
  file := configured.prepareSave 3

def registers : FlushOp :=
  .operate (.registerCollective (context 4) definition)

def opensAttempt : FlushOp :=
  .operate (.beginAttempt (context 6) ⟨31, 0⟩ ⟨32, 0⟩ ⟨33, 0⟩ 0)

/-- The first flush captures before the attempt is opened and replaces after the second. -/
def crossed : List FlushOp :=
  [ registers, .flush 1 5, opensAttempt, .flush 2 7, .replace 2, .complete 2, .replace 1,
    .complete 1 ]

end TwoMembers

open TwoMembers in
/-- Two flushes that cross leave a clean flag and a file without the last mutation. -/
theorem clean_flag_with_stale_file :
    let s := run flushStep flushed crossed
    ServiceReachable flushed.service ∧
      flushed.service.persistenceDirty = false ∧
      flushed.file.capturedSequence = flushed.service.mutationSequence ∧
      s.service.persistenceDirty = false ∧
      (∀ call, s.flushes.find call = none) ∧
      s.file.capturedSequence = 1 ∧ s.service.mutationSequence = 2 := by
  intro s
  have hkeys : s.flushes.keys = [] := by
    decide
  refine ⟨⟨{}, _, rfl⟩, by decide, by decide, by decide, ?_, by decide, by decide⟩
  intro call
  by_contra hbusy
  have hmem : call ∈ s.flushes.keys := (KeyMap.mem_keys_iff s.flushes call).mpr hbusy
  simp [hkeys] at hmem

open TwoMembers in
/-- One flush after a registration leaves a clean flag and a current file. -/
theorem clean_flag_means_current_file_of_one_flush :
    let s := run flushStep flushed [registers, .flush 1 5, .replace 1, .complete 1]
    s.service.persistenceDirty = false ∧ s.file.capturedSequence = s.service.mutationSequence := by
  intro s
  have hclean : s.service.persistenceDirty = false := by
    decide
  have hops : Along flushStep ReplacesInOrder flushed
      [registers, .flush 1 5, .replace 1, .complete 1] := by
    refine ⟨fun _ _ => by decide, trivial, ?_, trivial, trivial⟩
    intro pending _
    have hfirst : (run flushStep flushed [registers, .flush 1 5]).file.capturedSequence = 0 := by
      decide
    exact hfirst ▸ UInt64.zero_le
  exact ⟨hclean, clean_flag_means_current_file (by decide) KeyMap.find_empty hops hclean⟩

end Order

end TrafficFabric
