import TrafficFabric.Handshake
import TrafficFabric.PersistingServer

/-!
# Acknowledgements and durability

A reply that reports a durable change stands between its flush and its sending.
While the saves of its thread succeed and no save puts an older capture in the
place of a newer one, the file contains the change by then: a flush that finds
nothing to write finds it in the file, and one that writes captures it.  A save
is one replacement of the file here.
-/

namespace TrafficFabric

open Lib CoordinatorServer

section Order

variable {decoders : RequestDecoders} {system : PersistingServer} {key : ConnectionKey}

/-- The save a thread has in progress. -/
def Phase.pendingSave : Phase → Option PendingSave
  | .saving pending _ => some pending
  | _ => none

/--
The step does not put an older capture in the place of a newer one, the saves
of the thread succeed, and the mutation sequence does not turn over.
-/
def SavesInOrder (key : ConnectionKey) (system : PersistingServer) (op : PersistingOp) : Prop :=
  system.service.mutationSequence < system.service.mutationSequence + 1 ∧
    match op with
    | .replace k =>
      ∀ pending ∈ (system.phase k).pendingSave,
        system.replaced k = false → system.stored ≤ pending.capturedSequence
    | .server (.turn k (.saved success)) => k = key → success = true
    | _ => True

instance (key : ConnectionKey) (system : PersistingServer) (op : PersistingOp) :
    Decidable (SavesInOrder key system op) := by
  unfold SavesInOrder
  split <;> infer_instance

/-- A step in order acts on the storage in order. -/
theorem writes_inOrder {op : PersistingOp} (h : SavesInOrder key system op)
    (other : Option (Writer UInt64)) :
    Along (WriteBehind.step (· + 1)) (WriteBehind.InOrder (· + 1)) (system.storage other)
      (system.writes decoders op) := by
  have hchange : WriteBehind.InOrder (· + 1) (system.storage other) .change := UInt64.le_of_lt h.1
  cases op with
  | replace k =>
    simp only [PersistingServer.writes]
    cases hphase : system.phase k with
    | saving pending reply =>
      simp only
      split
      · refine ⟨?_, trivial⟩
        intro version hwriter
        simp only [PersistingServer.storage, hphase, Phase.writer] at hwriter
        cases hreplaced : system.replaced k with
        | true => simp [hreplaced] at hwriter
        | false =>
          simp only [hreplaced] at hwriter
          cases hwriter
          exact h.2 pending (by rw [hphase]; rfl) hreplaced
      · trivial
    | _ => trivial
  | server op =>
    cases op with
    | turn k input =>
      simp only [PersistingServer.writes, PersistingServer.turnWrites]
      split
      · split
        · exact ⟨hchange, trivial⟩
        · trivial
      · split <;> simp [WriteBehind.InOrder]
      · split_ifs <;> simp [WriteBehind.InOrder]
      · trivial
    | service op =>
      simp only [PersistingServer.writes]
      split
      · exact ⟨hchange, trivial⟩
      · trivial
    | _ => trivial

end Order

section Debts

variable {decoders : RequestDecoders} {system : PersistingServer} {key : ConnectionKey}
variable {mutation : UInt64} {op : PersistingOp} {system' : PersistingServer}

/-- Where the mutation of a reply is: in memory, in the capture of its save, in the file. -/
def Phase.Covers (version stored mutation : UInt64) : Phase → Prop
  | .persisting _ => mutation ≤ version
  | .saving pending _ => mutation ≤ pending.capturedSequence
  | .replying _ => mutation ≤ stored
  | _ => False

theorem Phase.Covers.mono {version version' stored stored' : UInt64} {phase : Phase}
    (h : phase.Covers version stored mutation) (hversion : version ≤ version')
    (hstored : stored ≤ stored') : phase.Covers version' stored' mutation := by
  cases phase with
  | persisting reply => exact UInt64.le_trans h hversion
  | saving => exact h
  | replying reply => exact UInt64.le_trans h hstored
  | _ => exact h

theorem Phase.Covers.reports {version stored : UInt64} {phase : Phase}
    (h : phase.Covers version stored mutation) : phase.reports = true := by
  cases phase with
  | persisting reply => rfl
  | saving => rfl
  | replying reply => rfl
  | _ => exact h.elim

/-- What holds between the steps of a run in order. -/
structure Accounts (key : ConnectionKey) (system : PersistingServer) : Prop where
  persists : system.server.shared.config.persistOnMutation = true
  path : system.service.persistencePath ≠ []
  sound : (system.storage none).Sound
  since_le : system.since ≤ system.stored
  owes : ∀ mutation, system.owed key = some mutation →
    system.since < mutation ∧
      (system.phase key).Covers system.service.mutationSequence system.stored mutation

/-- A thread that works on nothing incurs no debt. -/
theorem owed_of_idle {input : TurnInput} (hidle : (system.phase key).works input = false)
    (howed : system.owedAfter decoders key input = some mutation) :
    system.owed key = some mutation := by
  unfold PersistingServer.owedAfter at howed
  split at howed
  · rename_i frame context generation hphase
    rw [hphase] at hidle
    cases hidle
  · cases howed
  · exact howed

/-- A dispatch that applies a change owes it, and the change is in memory. -/
theorem dispatched_owes {frame : Frame} {context : ServiceRequestContext} {generation : Minted}
    (h : Accounts key system)
    (hnext : system.service.mutationSequence < system.service.mutationSequence + 1)
    (hphase : system.phase key = .dispatching frame context)
    (howed : system.owedAfter decoders key (.minted generation) = some mutation) :
    CoordinatorHandler.dispatchApplies decoders system.server.shared
        (system.server.thread key) frame context generation = true ∧
      mutation = system.service.mutationSequence + 1 ∧ system.since < mutation := by
  simp only [PersistingServer.owedAfter, hphase, Option.ite_none_right_eq_some,
    Option.some.injEq] at howed
  obtain ⟨happlies, rfl⟩ := howed
  have hle : system.since ≤ system.service.mutationSequence :=
    UInt64.le_trans h.since_le h.sound.stored_le
  exact ⟨happlies, rfl, UInt64.lt_of_le_of_lt hle hnext⟩

/-- A flush that finds nothing to write finds everything in the file. -/
theorem Accounts.stored_of_nothing_pending {now : UInt64} (h : Accounts key system)
    (hnone : (system.service.flush now).2.1 = none) :
    system.stored = system.service.mutationSequence := by
  unfold CoordinatorService.flush at hnone
  split_ifs at hnone with hpath hclean
  · exact (h.path hpath).elim
  · exact h.sound.clean hclean

/-- What is in memory is in the capture of a flush, or in the file already. -/
theorem Accounts.flushed_covers {reply : Reply} {now : UInt64} (h : Accounts key system)
    (hmemory : mutation ≤ system.service.mutationSequence) (version : UInt64) :
    Phase.Covers version system.stored mutation
      (match (system.service.flush now).2.1 with
      | some pending => .saving pending reply
      | none => .replying reply) := by
  cases hpending : (system.service.flush now).2.1 with
  | none =>
    have hstored := h.stored_of_nothing_pending hpending
    exact UInt64.le_trans hmemory (UInt64.le_of_eq hstored.symm)
  | some pending =>
    have hcaptured := (flush_captures system.service now).sequence pending hpending
    exact UInt64.le_trans hmemory (UInt64.le_of_eq hcaptured.symm)

/-- What a save captured is in the file once the save has replaced it. -/
theorem Accounts.captured_le_stored {pending : PendingSave} {reply : Reply}
    (h : Accounts key system) (hphase : system.phase key = .saving pending reply)
    (hreplaced : system.replaced key = true) : pending.capturedSequence ≤ system.stored := by
  have hwriter : (system.storage none).writers (some key) =
      some (.written pending.capturedSequence) := by
    simp [PersistingServer.storage, hphase, hreplaced, Phase.writer]
  exact h.sound.written_le (some key) pending.capturedSequence hwriter

/-- The debt of a thread is covered after its turn. -/
theorem Accounts.turn_owes {input : TurnInput} (h : Accounts key system)
    (hnext : system.service.mutationSequence < system.service.mutationSequence + 1)
    (hsaved : ∀ success, input = .saved success → success = true)
    (howed : (system.turn decoders key input).owed key = some mutation) :
    system.since < mutation ∧ ((system.turn decoders key input).phase key).Covers
      (system.turn decoders key input).service.mutationSequence system.stored mutation := by
  cases hfits : system.fits key input with
  | false =>
    simp only [PersistingServer.turn, hfits] at howed ⊢
    exact h.owes mutation howed
  | true =>
    rw [PersistingServer.turn_of_fits decoders system key hfits] at howed ⊢
    simp only [Function.update_self] at howed
    simp only [PersistingServer.phase, PersistingServer.service]
    cases (serverStep_turn_effect decoders system.server key input).1 with
    | quiet hdurability hphase hidle =>
      obtain ⟨hsince, hcovers⟩ := h.owes mutation (owed_of_idle hidle howed)
      have hversion := congrArg Durability.sequence hdurability
      rcases hphase with hsame | ⟨hbefore, _⟩
      · simp only at hsame
        rw [hsame]
        exact ⟨hsince, hcovers.mono (UInt64.le_of_eq hversion.symm) (UInt64.le_refl _)⟩
      · exact absurd hcovers.reports (by simpa [PersistingServer.phase] using hbefore)
    | dispatched _ _ _ hphase called hdurability _ hpersists =>
      subst called
      obtain ⟨happlies, rfl, hsince⟩ := dispatched_owes h hnext hphase howed
      obtain ⟨reply, hphase'⟩ := hpersists h.persists happlies
      rw [happlies] at hdurability
      have hversion := congrArg Durability.sequence hdurability
      simp only at hphase'
      rw [hphase']
      exact ⟨hsince, UInt64.le_of_eq hversion.symm⟩
    | flushed _ _ hphase called _ hphase' =>
      subst called
      have howed' : system.owed key = some mutation := by
        simpa [PersistingServer.owedAfter, PersistingServer.phase, hphase] using howed
      obtain ⟨hsince, hcovers⟩ := h.owes mutation howed'
      have hmemory : mutation ≤ system.service.mutationSequence := by
        simpa [PersistingServer.phase, hphase, Phase.Covers] using hcovers
      simp only at hphase'
      rw [hphase']
      exact ⟨hsince, h.flushed_covers hmemory _⟩
    | saved pending _ success hphase called _ hphase' =>
      subst called
      cases hsaved success rfl
      have howed' : system.owed key = some mutation := by
        simpa [PersistingServer.owedAfter, PersistingServer.phase, hphase] using howed
      obtain ⟨hsince, hcovers⟩ := h.owes mutation howed'
      have hcaptured : mutation ≤ pending.capturedSequence := by
        simpa [PersistingServer.phase, hphase, Phase.Covers] using hcovers
      -- A save that reports success has replaced the file.
      have hreplaced : system.replaced key = true := by
        simpa [PersistingServer.fits] using hfits
      have hwritten : pending.capturedSequence ≤ system.stored :=
        h.captured_le_stored hphase hreplaced
      simp only at hphase'
      rw [hphase']
      exact ⟨hsince, UInt64.le_trans hcaptured hwritten⟩
    | sent _ hphase called =>
      subst called
      simp [PersistingServer.owedAfter, PersistingServer.phase, hphase] at howed

theorem serverStep_config (server : CoordinatorServer) (op : ServerOp) :
    (serverStep decoders server op).shared.config = server.shared.config := by
  cases op with
  | listen =>
    simp only [serverStep, CoordinatorServer.listen]
    split <;> rfl
  | accept k =>
    simp only [serverStep, accept]
    split_ifs <;> rfl
  | turn k input => exact (serverStep_turn_effect decoders server k input).2.1
  | service op => rfl
  | shutdown =>
    simp only [serverStep, shutdown]
    split <;> rfl

theorem turn_path (server : CoordinatorServer) (k : ConnectionKey) (input : TurnInput) :
    (serverStep decoders server (.turn k input)).shared.service.persistencePath =
      server.shared.service.persistencePath := by
  cases (serverStep_turn_effect decoders server k input).1 with
  | quiet hdurability _ _ => exact congrArg Durability.path hdurability
  | dispatched _ _ _ _ _ hdurability =>
    exact (congrArg Durability.path hdurability).trans (markedIf_path _ _)
  | flushed reply now _ _ hservice _ =>
    have hcaptures := flush_captures server.shared.service now
    rw [← hservice] at hcaptures
    exact congrArg Durability.path hcaptures.durability
  | saved pending reply success _ _ hservice _ =>
    simp only at hservice
    rw [hservice]
    split <;> rfl
  | sent reply _ _ hdurability _ => exact congrArg Durability.path hdurability

/-- A service operation that does not use the file keeps its path. -/
theorem served_path (server : CoordinatorServer) {op : ServerOp}
    (hstays : ∀ k input, op ≠ .turn k input)
    (hfile : ∀ action, op = .service action → action.usesFile = false) :
    (serverStep decoders server op).shared.service.persistencePath =
      server.shared.service.persistencePath := by
  cases op with
  | turn k input => exact (hstays k input rfl).elim
  | service action =>
    have hdurability := serviceStep_durability server.shared.service (hfile action rfl)
    exact (congrArg Durability.path hdurability).trans (markedIf_path _ _)
  | listen =>
    simp only [serverStep, CoordinatorServer.listen]
    split <;> rfl
  | accept k =>
    simp only [serverStep, accept]
    split_ifs <;> rfl
  | shutdown =>
    simp only [serverStep, shutdown]
    split <;> rfl

/-- The configuration, the path and the starting point of a system stay as they are. -/
theorem PersistingChange.setting (h : PersistingChange decoders system op system') :
    system'.server.shared.config = system.server.shared.config ∧
      system'.service.persistencePath = system.service.persistencePath ∧
      system'.since = system.since := by
  cases h with
  | same | replaced => exact ⟨rfl, rfl, rfl⟩
  | turned k input hfits =>
    rw [PersistingServer.turn_of_fits decoders system k hfits]
    exact ⟨serverStep_config system.server (.turn k input), turn_path system.server k input, rfl⟩
  | served op hstays hfile =>
    exact ⟨serverStep_config system.server op, served_path system.server hstays hfile, rfl⟩

/-- Unless the thread has a turn, it stays where it is and owes what it owed. -/
theorem PersistingChange.others (h : PersistingChange decoders system op system')
    (hother : ∀ input, op ≠ .server (.turn key input)) :
    system'.phase key = system.phase key ∧ system'.owed key = system.owed key := by
  cases h with
  | same op => exact ⟨rfl, rfl⟩
  | replaced => exact ⟨rfl, rfl⟩
  | turned k input hfits =>
    have hk : key ≠ k := by
      rintro rfl
      exact hother input rfl
    have hothers := (serverStep_turn_effect decoders system.server k input).2.2 key hk
    rw [PersistingServer.turn_of_fits decoders system k hfits]
    exact ⟨congrArg Worker.phase hothers, Function.update_of_ne hk _ _⟩
  | served op hstays hfile => exact ⟨serverStep_phase decoders system.server op hstays key, rfl⟩

/-- A step in order keeps the accounts. -/
theorem Accounts.step (h : Accounts key system) (horder : SavesInOrder key system op) :
    Accounts key (persistingStep decoders system op) := by
  have hwrites : Along (WriteBehind.step (· + 1)) (WriteBehind.InOrder (· + 1))
      (system.storage none) (system.writes decoders op) := writes_inOrder horder none
  obtain ⟨hsound, hstored, hversion⟩ := h.sound.run hwrites
  rw [← PersistingServer.persistingStep_simulates_storage decoders none system op]
    at hsound hstored hversion
  have hchange := persistingStep_change decoders system op
  obtain ⟨hconfig, hpath, hsince⟩ := hchange.setting
  refine ⟨hconfig ▸ h.persists, hpath ▸ h.path, hsound, ?_, ?_⟩
  · rw [hsince]
    exact UInt64.le_trans h.since_le hstored
  · intro mutation howed
    rw [hsince]
    by_cases hturn : ∃ input, op = .server (.turn key input)
    · obtain ⟨input, rfl⟩ := hturn
      have hsaved : ∀ success, input = .saved success → success = true := by
        rintro success rfl
        exact horder.2 rfl
      obtain ⟨hlater, hcovers⟩ := h.turn_owes horder.1 hsaved howed
      exact ⟨hlater, hcovers.mono (UInt64.le_refl _) hstored⟩
    · obtain ⟨hphase, howed'⟩ := hchange.others (not_exists.mp hturn)
      rw [howed'] at howed
      obtain ⟨hlater, hcovers⟩ := h.owes mutation howed
      rw [hphase]
      exact ⟨hlater, hcovers.mono hversion hstored⟩

end Debts

section Acknowledgements

/-- The file was written from a capture that has the mutation. -/
def PersistingServer.Contains (system : PersistingServer) (mutation : UInt64) : Prop :=
  ∃ save ∈ system.file, mutation ≤ save.capturedSequence

variable {decoders : RequestDecoders} {system : PersistingServer} {key : ConnectionKey}

theorem contains_of_le_stored {mutation : UInt64} (hsince : system.since < mutation)
    (hstored : mutation ≤ system.stored) : system.Contains mutation := by
  unfold PersistingServer.stored at hstored
  cases hfile : system.file with
  | none =>
    rw [hfile] at hstored
    exact (UInt64.not_le.mpr hsince hstored).elim
  | some save =>
    rw [hfile] at hstored
    exact ⟨save, hfile, hstored⟩

theorem not_contains_of_stored_lt {mutation : UInt64} (h : system.stored < mutation) :
    ¬ system.Contains mutation := by
  rintro ⟨save, hfile, hle⟩
  have hstored : system.stored = save.capturedSequence := by
    simp [PersistingServer.stored, Option.mem_def.mp hfile]
  exact UInt64.not_le.mpr (hstored ▸ h) hle

/-- Before any request is in progress nothing is owed and nothing is being written. -/
theorem accounts_create {server : CoordinatorServer}
    (hpersist : server.shared.config.persistOnMutation = true)
    (hpath : server.shared.service.persistencePath ≠ [])
    (hidle : ∀ k, (server.thread k).phase.reports = false) :
    Accounts key (PersistingServer.create server) := by
  refine ⟨hpersist, hpath, ?_, UInt64.le_refl _, nofun⟩
  exact WriteBehind.sound_of_no_writers (UInt64.le_refl _) (fun _ => rfl)
    (PersistingServer.no_writers hidle)

end Acknowledgements

namespace OneConnection

open TwoMembers

def registerFrame : Frame :=
  requestFrame .registerCollective 1 (encodeRegisterCollective definition)

/-- Where connection 1 is the only one, the threads are idle if its thread is. -/
theorem idle_of_keys {server : CoordinatorServer} (hidle : (server.thread 1).phase.reports = false)
    (hkeys : server.workers.keys = [1]) (k : ConnectionKey) :
    (server.thread k).phase.reports = false := by
  by_cases hk : k = 1
  · rw [hk]
    exact hidle
  · have hnone : server.workers.find k = none := by
      by_contra hsome
      have hmem := (KeyMap.mem_keys_iff server.workers k).mpr hsome
      simp [hkeys, hk] at hmem
    simp [thread, hnone, Phase.reports]

end OneConnection

end TrafficFabric
