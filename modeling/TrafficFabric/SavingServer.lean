import TrafficFabric.Acknowledgement
import TrafficFabric.SnapshotWriting

/-!
# Acknowledgements and the files of the saves

A save writes the temporary file beside the snapshot and renames it, and other
threads have turns between its file operations.  The coordinator with its files
refines the one whose saves replace the file in one step: the rename is that
replacement, and no other operation of a save reaches the file.

That the file then holds what the save has captured takes more than the order of
the saves.  They share the name of the temporary file, and a save that opens it
empties what another one is about to rename.
-/

namespace TrafficFabric

open Lib CoordinatorServer

/-- What the snapshot store writes for a capture. -/
def PendingSave.encoded (pending : PendingSave) : Except Status Text :=
  SnapshotStore.save pending.path pending.contents pending.contents.writtenMonotonicMs

/-- A coordinator with its files, and where the save of each thread stands. -/
structure SavingServer where
  system : PersistingServer
  files : Files Text UInt8
  progress : ConnectionKey → SavePhase := fun _ => .ready

inductive SavingOp where
  | server (op : ServerOp)
  | act (key : ConnectionKey) (action : SaveAction)

namespace SavingServer

variable (s : SavingServer) (key : ConnectionKey)

/-- The save of a thread with its path, once the capture is encoded. -/
def save : Option (Text × Save) :=
  match s.system.phase key with
  | .saving pending _ =>
    match pending.encoded with
    | .ok bytes => some (pending.path, { bytes := bytes, phase := s.progress key })
    | .error _ => none
  | _ => none

/-- The operation is the rename of a file that was written and closed. -/
def renames (action : SaveAction) : Bool :=
  match s.save key with
  | some (path, save) => save.phase == .closed && (save.act path s.files action).2 == .ended
  | none => false

/-- A file operation of a save; the rename replaces the file. -/
def act (action : SaveAction) : SavingServer :=
  match s.save key with
  | some (path, save) =>
    { system := if s.renames key action then s.system.replaceFile key else s.system
      files := (save.act path s.files action).1
      progress := Function.update s.progress key (save.act path s.files action).2 }
  | none => s

/-- A save reports its outcome when it has ended, or could not be encoded. -/
def accepts : ServerOp → Bool
  | .turn key (.saved success) =>
    s.system.fits key (.saved success) && (s.save key).all fun save => save.2.phase == .ended
  | _ => true

/-- A thread that is in a save stays where it is until the save reports. -/
def progressAfter : ServerOp → ConnectionKey → SavePhase
  | .turn key input =>
    Function.update s.progress key
      (match s.system.phase key, input with
      | .saving _ _, .saved _ => .ready
      | .saving _ _, _ => s.progress key
      | _, _ => .ready)
  | _ => s.progress

/-- What a step is to the coordinator whose saves replace the file in one step. -/
def trace : SavingOp → List PersistingOp
  | .act key action => if s.renames key action then [.replace key] else []
  | .server op => if s.accepts op then [.server op] else []

end SavingServer

/-- One step of the coordinator or one file operation of a save. -/
def savingServerStep (decoders : RequestDecoders) (s : SavingServer) : SavingOp → SavingServer
  | .act key action => s.act key action
  | .server op =>
    if s.accepts op then
      { s with
        system := persistingStep decoders s.system (.server op)
        progress := s.progressAfter op }
    else
      s

section Files

variable {decoders : RequestDecoders} {s : SavingServer} {key : ConnectionKey} {path : Text}

theorem savingServerStep_simulates :
    Simulates (savingServerStep decoders) (persistingStep decoders) SavingServer.system
      SavingServer.trace := by
  intro s op
  cases op with
  | act key action =>
    simp only [savingServerStep, SavingServer.act, SavingServer.trace]
    cases hsave : s.save key with
    | none => simp [SavingServer.renames, hsave]
    | some save => cases s.renames key action <;> rfl
  | server op =>
    simp only [savingServerStep, SavingServer.trace]
    split <;> rfl

theorem save_eq_some_iff {save : Save} :
    s.save key = some (path, save) ↔
      ∃ pending reply, s.system.phase key = .saving pending reply ∧ pending.path = path ∧
        pending.encoded = .ok save.bytes ∧ save.phase = s.progress key := by
  unfold SavingServer.save
  cases hphase : s.system.phase key with
  | saving pending reply =>
    cases hbytes : pending.encoded with
    | error status => simp [hbytes]
    | ok bytes =>
      simp only [hbytes, Option.some.injEq, Prod.mk.injEq]
      constructor
      · rintro ⟨hpath, rfl⟩
        exact ⟨pending, reply, rfl, hpath, hbytes, rfl⟩
      · rintro ⟨_, _, ⟨⟩, hpath, hok, hprogress⟩
        cases hbytes.symm.trans hok
        exact ⟨hpath, by rw [← hprogress]⟩
  | _ => simp

/-- What holds of saves that open the temporary file one at a time. -/
structure Filed (path : Text) (s : SavingServer) : Prop where
  configured : s.system.service.persistencePath = path
  paths : ∀ k other save, s.save k = some (other, save) → other = path
  replaced : ∀ k other save, s.save k = some (other, save) → s.system.replaced k = true →
    save.phase = .ended
  turns : TakeTurns path s.files fun k => (s.save k).map Prod.snd
  stored : ∀ pending ∈ s.system.file, pending.path = path ∧
    ∃ bytes, pending.encoded = .ok bytes ∧ s.files.read path = some bytes

/-- The save of a thread goes on as it was, or has not begun to write. -/
def KeepsSave (path : Text) (s s' : SavingServer) (k : ConnectionKey) : Prop :=
  ∀ other save, s'.save k = some (other, save) →
    s.save k = some (other, save) ∧ s'.system.replaced k = s.system.replaced k ∨
      other = path ∧ save.phase = .ready ∧ s'.system.replaced k = false

/-- A step that operates on no file keeps the files of the saves. -/
theorem Filed.of_threads {s' : SavingServer} (h : Filed path s) (hfiles : s'.files = s.files)
    (hfile : s'.system.file = s.system.file)
    (hpath : s'.system.service.persistencePath = s.system.service.persistencePath)
    (hthreads : ∀ k, KeepsSave path s s' k) : Filed path s' := by
  refine ⟨hpath.trans h.configured, ?_, ?_, ?_, ?_⟩
  · intro k other save hsave
    rcases hthreads k other save hsave with ⟨hsame, -⟩ | ⟨hnamed, -⟩
    · exact h.paths k other save hsame
    · exact hnamed
  · intro k other save hsave hreplaced
    rcases hthreads k other save hsave with ⟨hsame, hkept⟩ | ⟨-, -, hnot⟩
    · exact h.replaced k other save hsame (hkept ▸ hreplaced)
    · rw [hnot] at hreplaced
      cases hreplaced
  · rw [hfiles]
    refine h.turns.keep fun k save hsave huses => ?_
    obtain ⟨⟨other, _⟩, hsome, rfl⟩ := Option.map_eq_some_iff.mp hsave
    rcases hthreads k other _ hsome with ⟨hsame, -⟩ | ⟨-, hready, -⟩
    · exact Option.map_eq_some_iff.mpr ⟨_, hsame, rfl⟩
    · rw [hready] at huses
      cases huses
  · rw [hfiles, hfile]
    exact h.stored

/-- A capture is made for the configured path. -/
theorem flush_path {service : CoordinatorService} {now : UInt64} {pending : PendingSave}
    (h : (service.flush now).2.1 = some pending) : pending.path = service.persistencePath := by
  unfold CoordinatorService.flush at h
  split_ifs at h
  cases h
  rfl

/-- A turn leaves the save of its thread, ends it, or captures for a new one. -/
theorem Filed.turn (h : Filed path s) {input : TurnInput}
    (hfits : s.system.fits key input = true) :
    KeepsSave path s
      { s with
        system := persistingStep decoders s.system (.server (.turn key input))
        progress := s.progressAfter (.turn key input) } key := by
  intro other save hsave
  obtain ⟨pending, reply, hphase, rfl, hbytes, hprogress⟩ := save_eq_some_iff.mp hsave
  simp only [persistingStep, PersistingServer.turn_of_fits decoders s.system key hfits,
    Function.update_self, SavingServer.progressAfter] at hphase hprogress ⊢
  cases (serverStep_turn_effect decoders s.system.server key input).1 with
  | quiet _ hsame hidle =>
    rcases hsame with hsame | ⟨-, hquiet⟩
    · have hbefore : s.system.phase key = .saving pending reply := hsame.symm.trans hphase
      refine .inl ⟨save_eq_some_iff.mpr ⟨pending, reply, hbefore, rfl, hbytes, ?_⟩, if_neg ?_⟩
      · rw [hprogress, hbefore]
        cases input with
        | saved success =>
          rw [show (s.system.server.thread key).phase = _ from hbefore] at hidle
          cases hidle
        | _ => rfl
      · exact ne_true_of_eq_false hidle
    · have hreports : false = true := hquiet.symm.trans (congrArg Phase.reports hphase)
      cases hreports
  | dispatched _ _ _ _ _ _ hsaves _ => exact absurd hphase (hsaves pending reply)
  | flushed reply' now hpersisting called _ hafter =>
    subst called
    have hbefore : s.system.phase key = .persisting reply' := hpersisting
    have hcaptured := hafter.symm.trans hphase
    split at hcaptured
    · rename_i captured hflush
      cases hcaptured
      refine .inr ⟨(flush_path hflush).trans h.configured, ?_, ?_⟩
      · rw [hprogress, hbefore]
      · simp [PersistingServer.replacedAfter, hbefore, Phase.works]
    · cases hcaptured
  | saved _ _ _ _ _ _ hafter | sent _ _ _ _ hafter => cases hafter.symm.trans hphase

/-- Apart from the replacement, a step keeps the file, and what the other threads have replaced. -/
theorem PersistingChange.file_kept {system system' : PersistingServer} {op : PersistingOp}
    (h : PersistingChange decoders system op system') (hop : ∀ k, op ≠ .replace k) :
    system'.file = system.file ∧
      ∀ k, (∀ input, op ≠ .server (.turn k input)) → system'.replaced k = system.replaced k := by
  cases h with
  | same op => exact ⟨rfl, fun _ _ => rfl⟩
  | replaced k => exact absurd rfl (hop k)
  | turned k input hfits =>
    rw [PersistingServer.turn_of_fits decoders system k hfits]
    refine ⟨rfl, fun j hj => Function.update_of_ne ?_ _ _⟩
    rintro rfl
    exact hj input rfl
  | served op _ _ => exact ⟨rfl, fun _ _ => rfl⟩

/-- The steps of the coordinator operate on no file. -/
theorem Filed.server (h : Filed path s) (op : ServerOp) :
    Filed path (savingServerStep decoders s (.server op)) := by
  simp only [savingServerStep]
  split
  · rename_i haccepts
    have hchange := persistingStep_change decoders s.system (.server op)
    obtain ⟨hfile, hreplaced⟩ := hchange.file_kept nofun
    refine h.of_threads rfl hfile hchange.setting.2.1 fun k => ?_
    by_cases hturn : ∃ input, op = .turn k input
    · obtain ⟨input, rfl⟩ := hturn
      refine h.turn ?_
      cases input with
      | saved success => exact ((Bool.and_eq_true _ _).mp haccepts).1
      | _ => rfl
    · have hother : ∀ input, PersistingOp.server op ≠ .server (.turn k input) :=
        fun input hop => hturn ⟨input, PersistingOp.server.inj hop⟩
      have hprogress : s.progressAfter op k = s.progress k := by
        cases op with
        | turn j input =>
          refine Function.update_of_ne ?_ _ _
          rintro rfl
          exact hturn ⟨input, rfl⟩
        | _ => rfl
      intro other save hsave
      unfold SavingServer.save at hsave
      simp only [(hchange.others hother).1, hprogress] at hsave
      exact .inl ⟨hsave, hreplaced k hother⟩
  · exact h

/-- What a thread is doing does not depend on the file. -/
theorem replaceFile_threads (system : PersistingServer) (k : ConnectionKey) :
    (system.replaceFile key).phase k = system.phase k ∧
      (system.replaceFile key).service = system.service ∧
      (k ≠ key → (system.replaceFile key).replaced k = system.replaced k) := by
  unfold PersistingServer.replaceFile
  split
  · split
    · exact ⟨rfl, rfl, fun hk => Function.update_of_ne hk _ _⟩
    · exact ⟨rfl, rfl, fun _ => rfl⟩
  · exact ⟨rfl, rfl, fun _ => rfl⟩

/-- A file operation leaves what the threads are doing, and what the others have replaced. -/
theorem act_threads (s : SavingServer) (action : SaveAction) (k : ConnectionKey) :
    (s.act key action).system.phase k = s.system.phase k ∧
      (s.act key action).system.service = s.system.service ∧
      (k ≠ key → (s.act key action).system.replaced k = s.system.replaced k) := by
  unfold SavingServer.act
  split
  · dsimp only
    split
    · exact replaceFile_threads s.system k
    · exact ⟨rfl, rfl, fun _ => rfl⟩
  · exact ⟨rfl, rfl, fun _ => rfl⟩

section Saving

variable {save : Save} (hsave : s.save key = some (path, save)) (action : SaveAction)
include hsave

theorem act_of_save :
    s.act key action =
      { system := if s.renames key action then s.system.replaceFile key else s.system
        files := (save.act path s.files action).1
        progress := Function.update s.progress key (save.act path s.files action).2 } := by
  rw [SavingServer.act, hsave]

theorem renames_iff :
    s.renames key action = true ↔
      save.phase = .closed ∧ (save.act path s.files action).2 = .ended := by
  simp [SavingServer.renames, hsave]

/-- The save goes on by the operation, and those of the others stay where they are. -/
theorem save_act :
    (s.act key action).save key =
        some (path, { save with phase := (save.act path s.files action).2 }) ∧
      ∀ k, k ≠ key → (s.act key action).save k = s.save k := by
  constructor
  · obtain ⟨pending, reply, hphase, hpath, hbytes, -⟩ := save_eq_some_iff.mp hsave
    refine save_eq_some_iff.mpr
      ⟨pending, reply, (act_threads s action key).1.trans hphase, hpath, hbytes, ?_⟩
    simp [act_of_save hsave]
  · intro k hk
    unfold SavingServer.save
    rw [(act_threads s action k).1, act_of_save hsave]
    simp [hk]

end Saving

/-- A file operation of a save, which opens the temporary file only where no save uses it. -/
theorem Filed.act (h : Filed path s) {action : SaveAction}
    (hopens : ∀ granted, action = .openTemporary granted →
      ∀ k other save, s.save k = some (other, save) → save.phase.usesTemporary = false) :
    Filed path (s.act key action) := by
  cases hsave : s.save key with
  | none =>
    rw [SavingServer.act, hsave]
    exact h
  | some named =>
    obtain ⟨other, save⟩ := named
    obtain rfl := h.paths key other save hsave
    have hthreads := @act_threads key s action
    have hact := act_of_save hsave action
    have hrenames := renames_iff hsave action
    obtain ⟨hown, hothers⟩ := save_act hsave action
    have hfiles : (s.act key action).files = (save.act other s.files action).1 := by
      rw [hact]
    have hcurrent : (s.save key).map Prod.snd = some save := by
      rw [hsave]
      rfl
    have hread := (act_saveEffect h.turns.apart (h.turns.placed key save hcurrent) action).target
    refine ⟨?_, ?_, ?_, ?_, ?_⟩
    · rw [(hthreads key).2.1]
      exact h.configured
    · intro k named save' hsave'
      by_cases hk : k = key
      · subst hk
        cases hown.symm.trans hsave'
        rfl
      · exact h.paths k named save' (hothers k hk ▸ hsave')
    · intro k named save' hsave' hreplaced
      by_cases hk : k = key
      · subst hk
        cases hown.symm.trans hsave'
        by_cases hrenamed : s.renames k action = true
        · exact (hrenames.mp hrenamed).2
        · rw [hact, if_neg hrenamed] at hreplaced
          have hended : save.phase = .ended := h.replaced k other save hsave hreplaced
          simp [Save.act, hended]
      · exact h.replaced k named save' (hothers k hk ▸ hsave') ((hthreads k).2.2 hk ▸ hreplaced)
    · rw [hfiles]
      refine h.turns.act hcurrent ?_ ?_ ?_
      · intro granted hopen k found hfound
        obtain ⟨⟨named, _⟩, hsome, rfl⟩ := Option.map_eq_some_iff.mp hfound
        exact hopens granted hopen k named _ hsome
      · rw [hown]
        rfl
      · intro k hk
        rw [hothers k hk]
    · rw [hfiles]
      intro stored hstored
      by_cases hrenamed : s.renames key action = true
      · -- The rename puts the capture in the place of the file, which the save has not done yet.
        rw [if_pos (hrenames.mp hrenamed)] at hread
        have hunreplaced : s.system.replaced key = false := by
          by_contra hreplaced
          have hended := h.replaced key other save hsave (by simpa using hreplaced)
          cases (hrenames.mp hrenamed).1.symm.trans hended
        obtain ⟨pending, reply, hphase, hpath, hbytes, -⟩ := save_eq_some_iff.mp hsave
        have hencodes : pending.encodes = true := congrArg Except.isOk hbytes
        have hfile : (s.act key action).system.file = some pending := by
          simp [hact, hrenamed, PersistingServer.replaceFile, hphase, hencodes, hunreplaced]
        cases hfile.symm.trans hstored
        exact ⟨hpath, save.bytes, hbytes, hread⟩
      · rw [if_neg fun hboth => hrenamed (hrenames.mpr hboth)] at hread
        rw [hact, if_neg hrenamed] at hstored
        rw [hread]
        exact h.stored stored hstored

end Files

section Acknowledgements

/--
The saves are in order, and none opens the temporary file while another is
between its open and its end.
-/
def SavesAlone (decoders : RequestDecoders) (key : ConnectionKey) (s : SavingServer)
    (op : SavingOp) : Prop :=
  Along (persistingStep decoders) (SavesInOrder key) s.system (s.trace op) ∧
    match op with
    | .act _ (.openTemporary _) =>
      ∀ k ∈ s.system.server.workers.keys, (s.progress k).usesTemporary = false
    | _ => True

instance (decoders : RequestDecoders) (key : ConnectionKey) (s : SavingServer) (op : SavingOp) :
    Decidable (SavesAlone decoders key s op) := by
  unfold SavesAlone
  refine @instDecidableAnd _ _ inferInstance ?_
  split <;> infer_instance

/-- The file at the snapshot's path is one that has the mutation. -/
def SavingServer.Contains (s : SavingServer) (mutation : UInt64) : Prop :=
  ∃ pending ∈ s.system.file, mutation ≤ pending.capturedSequence ∧
    ∃ bytes, pending.encoded = .ok bytes ∧ s.files.read pending.path = some bytes

variable {decoders : RequestDecoders} {s : SavingServer} {key : ConnectionKey} {path : Text}

theorem filed_step (h : Filed path s) {op : SavingOp} (hop : SavesAlone decoders key s op) :
    Filed path (savingServerStep decoders s op) := by
  cases op with
  | server op => exact h.server op
  | act =>
    refine h.act ?_
    rintro granted rfl j other save hsave
    obtain ⟨pending, reply, hphase, -, -, hprogress⟩ := save_eq_some_iff.mp hsave
    rw [hprogress]
    refine hop.2 j ((KeyMap.mem_keys_iff s.system.server.workers j).mpr fun hnone => ?_)
    simp [PersistingServer.phase, thread, hnone] at hphase

theorem filed_create {server : CoordinatorServer} {files : Files Text UInt8}
    (hidle : ∀ k, (server.thread k).phase.reports = false)
    (hapart : files.Apart (temporaryPath server.shared.service.persistencePath)
      server.shared.service.persistencePath) :
    Filed server.shared.service.persistencePath { system := .create server, files := files } := by
  have hnone : ∀ k,
      ({ system := .create server, files := files } : SavingServer).save k = none := by
    intro k
    by_contra hsome
    obtain ⟨named, hsave⟩ := Option.ne_none_iff_exists'.mp hsome
    obtain ⟨pending, reply, hphase, -⟩ := save_eq_some_iff.mp hsave
    have hreports : false = true := (hidle k).symm.trans (congrArg Phase.reports hphase)
    cases hreports
  refine ⟨rfl, ?_, ?_, ⟨hapart, ?_, ?_⟩, nofun⟩ <;> simp [hnone]

/-- What the file was written from is what it holds. -/
theorem Filed.contains_iff (h : Filed path s) {mutation : UInt64} :
    s.Contains mutation ↔ s.system.Contains mutation := by
  constructor
  · rintro ⟨pending, hfile, hle, -⟩
    exact ⟨pending, hfile, hle⟩
  · rintro ⟨pending, hfile, hle⟩
    obtain ⟨rfl, hbytes⟩ := h.stored pending hfile
    exact ⟨pending, hfile, hle, hbytes⟩

/-- The thread sends its reply once its save has reported, whatever the report. -/
theorem reported_turn {pending : PendingSave} {reply : Reply} {success : Bool}
    (hphase : s.system.phase key = .saving pending reply)
    (haccepts : s.accepts (.turn key (.saved success)) = true) :
    let s' := savingServerStep decoders s (.server (.turn key (.saved success)))
    s'.system.phase key = .replying reply ∧ s'.system.owed key = s.system.owed key ∧
      s'.system.file = s.system.file := by
  have hfits : s.system.fits key (.saved success) = true :=
    ((Bool.and_eq_true _ _).mp haccepts).1
  simp only [savingServerStep, haccepts, if_true, persistingStep,
    PersistingServer.turn_of_fits decoders s.system key hfits]
  refine ⟨?_, ?_, trivial⟩
  · cases (serverStep_turn_effect decoders s.system.server key (.saved success)).1 with
    | quiet _ _ hidle =>
      rw [show (s.system.server.thread key).phase = _ from hphase] at hidle
      cases hidle
    | saved _ _ _ hphase' _ _ hafter =>
      cases hphase'.symm.trans hphase
      exact hafter
    | dispatched _ _ _ _ called | flushed _ _ _ called | sent _ _ called => cases called
  · simp [PersistingServer.owedAfter, hphase]

end Acknowledgements

namespace OneConnection

open TwoMembers OverlappingSaves

/-- The registration of connection 1 is about to be dispatched. -/
def requested : List ServerOp :=
  accepted ++
    [ .service (.configurePersistence path 1),
      .turn 1 (.arrived (wire [helloFrame, registerFrame])) ] ++
    handled 2 ++ [.turn 1 .none] ++ handled 3

def persisting : CoordinatorServer :=
  run (serverStep wireDecoders) (.create { persistOnMutation := true }) requested

def persistent : SavingServer where
  system := .create persisting
  files := noFiles

/-- The registration is applied and its flush captures it. -/
def captured : List SavingOp :=
  [.server (.turn 1 (.minted firstDraw)), .server (.turn 1 (.clock 4))]

def failedSave : List SavingOp :=
  captured ++ [.act 1 (.openTemporary false), .server (.turn 1 (.saved false))]

/-- The temporary file is written and closed. -/
def written : List SavingOp :=
  [.act 1 (.openTemporary true), .act 1 (.write 4096), .act 1 (.close true)]

def renamed : List SavingOp :=
  [.act 1 (.rename true), .server (.turn 1 (.saved true))]

/-- A second connection registers the collective again, and its flush captures. -/
def registeredAgain : List SavingOp :=
  [ .server (.accept 2),
    .server (.turn 2 (.opened 5 (minted 45 (by decide)) (minted 46 (by decide)))),
    .server (.turn 2 .none),
    .server (.turn 2 (.arrived (wire
      [ helloFrame,
        { registerFrame with
          envelope :=
            { registerFrame.envelope with session := ⟨45, 0⟩, incarnation := ⟨46, 0⟩ } } ]))),
    .server (.turn 2 (.arrived .idle)),
    .server (.turn 2 (.clock 6)),
    .server (.turn 2 .none),
    .server (.turn 2 (.arrived .idle)),
    .server (.turn 2 (.clock 7)),
    .server (.turn 2 (.minted secondDraw)),
    .server (.turn 2 (.clock 8)) ]

/-- The second save opens the temporary file that the first one is about to rename. -/
def overlappingSaves : List SavingOp :=
  captured ++ registeredAgain ++ written ++ [.act 2 (.openTemporary true)] ++ renamed

end OneConnection

end TrafficFabric
