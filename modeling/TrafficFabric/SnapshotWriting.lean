import TrafficFabric.Snapshots
import TrafficFabric.Lib.Files
import TrafficFabric.Lib.Run

/-!
# Writing a snapshot file

A save encodes its contents, opens the temporary file beside the target,
writes, closes and renames it over the target, and removes it where something
fails.  Saves are calls that run side by side: each has its own descriptor and
its own offset, and a step is one of the file operations of one of them, or a
crash of the process.

The temporary file has one name for all saves of a path.  As long as no save
opens it while another is between its open and its end, the file at the target
is always the file of the start or the whole encoding of a save.  Two saves
that overlap share the file: the second open empties what the first one is
about to rename.
-/

namespace TrafficFabric

open Lib

/-- The name of the temporary file beside the target. -/
def temporaryPath (path : Text) : Text :=
  path ++ text ".tmp"

/-- Where a save stands in write_all. -/
inductive SavePhase where
  | ready
  -- The file is open, with the bytes written so far; a failed write or flush
  -- still closes the file, which may write what is buffered.
  | writing (file written : Nat) (failed : Bool)
  | closed
  | removing
  | ended
deriving DecidableEq, Repr

/-- The save is between its open of the temporary file and its end. -/
def SavePhase.usesTemporary : SavePhase → Bool
  | .writing .. | .closed | .removing => true
  | .ready | .ended => false

/-- A save that has encoded its contents. -/
structure Save where
  bytes : Text
  phase : SavePhase := .ready
deriving DecidableEq, Repr

/-- The saves of a path, in the order in which they began, and the files. -/
structure Saving where
  files : Files Text UInt8
  saves : List Save := []

/-- The file operations of a save; what the system decides is part of them. -/
inductive SaveAction where
  | openTemporary (granted : Bool)
  | write (count : Nat)
  | failWriting
  | close (granted : Bool)
  | rename (granted : Bool)
  | remove
deriving DecidableEq, Repr

inductive SavingStep where
  | begin (contents : SnapshotContents) (now : UInt64)
  | act (save : Nat) (action : SaveAction)
  | crash
deriving DecidableEq, Repr

section Steps

variable (path : Text)

/-- The files and the save's phase after an operation; one that is not due does nothing. -/
def Save.act (save : Save) (files : Files Text UInt8) (action : SaveAction) :
    Files Text UInt8 × SavePhase :=
  match save.phase, action with
  | .ready, .openTemporary granted =>
    if granted then
      (files.openTruncate (temporaryPath path),
        .writing (files.opened (temporaryPath path)) 0 false)
    else
      (files, .ended)
  | .writing file written failed, .write count =>
    let chunk := (save.bytes.drop written).take count
    (files.write file written chunk, .writing file (written + chunk.length) failed)
  | .writing file written _, .failWriting => (files, .writing file written true)
  | .writing file written failed, .close granted =>
    if failed then
      (files, .removing)
    else if written < save.bytes.length then
      -- The write has not returned yet.
      (files, .writing file written failed)
    else if granted then
      (files, .closed)
    else
      (files, .removing)
  | .closed, .rename granted =>
    if granted ∧ (files.names (temporaryPath path)).isSome then
      (files.rename (temporaryPath path) path, .ended)
    else
      (files, .removing)
  | .removing, .remove => (files.remove (temporaryPath path), .ended)
  | phase, _ => (files, phase)

def savingStep (s : Saving) : SavingStep → Saving
  | .begin contents now =>
    match SnapshotStore.save path contents now with
    | .error _ => s
    | .ok bytes => { s with saves := s.saves ++ [{ bytes }] }
  | .act index action =>
    match s.saves[index]? with
    | none => s
    | some save =>
      { files := (save.act path s.files action).1
        saves := s.saves.set index { save with phase := (save.act path s.files action).2 } }
  | .crash => { s with saves := s.saves.map fun save => { save with phase := .ended } }

/-- No save opens the temporary file while another is between its open and its end. -/
def OpensAlone (s : Saving) : SavingStep → Prop
  | .act _ (.openTemporary _) => ∀ save ∈ s.saves, save.phase.usesTemporary = false
  | _ => True

instance (s : Saving) (step : SavingStep) : Decidable (OpensAlone s step) := by
  unfold OpensAlone
  split <;> infer_instance

end Steps

theorem ne_temporaryPath (path : Text) : path ≠ temporaryPath path := by
  intro h
  have hnone : text ".tmp" = [] := List.append_right_eq_self.mp h.symm
  exact absurd hnone (by decide +kernel)

/-- A save that is written has an envelope. -/
theorem save_ne_nil {path bytes : Text} {contents : SnapshotContents} {now : UInt64}
    (h : SnapshotStore.save path contents now = .ok bytes) : bytes ≠ [] := by
  obtain ⟨-, h⟩ := require_eq_ok_iff.mp h
  obtain ⟨-, -, rfl⟩ := encodeSnapshot_eq_ok_iff.mp h
  intro hnil
  have hlength := length_snapshotEnvelope now
    (encodePayload { contents with writtenMonotonicMs := now })
  rw [(List.append_eq_nil_iff.mp hnil).1] at hlength
  cases hlength

section Operations

variable {path : Text} {files : Files Text UInt8} {save : Save}

/-- The temporary file holds what the save has written. -/
def Save.Placed (path : Text) (files : Files Text UInt8) (save : Save) : Prop :=
  match save.phase with
  | .writing file written _ =>
    written ≤ save.bytes.length ∧ files.names (temporaryPath path) = some file ∧
      files.contents file = save.bytes.take written
  | .closed =>
    ∃ file, files.names (temporaryPath path) = some file ∧ files.contents file = save.bytes
  | .ready | .removing | .ended => True

theorem placed_of_unused (h : save.phase.usesTemporary = false) : save.Placed path files := by
  unfold Save.Placed
  cases hphase : save.phase with
  | ready | ended => trivial
  | writing | closed | removing =>
    rw [hphase] at h
    cases h

/-- What an operation of a placed save leaves: it is still placed, and the target is
as before unless the operation is the rename of the save's file. -/
structure SaveEffect (path : Text) (files : Files Text UInt8) (save : Save)
    (result : Files Text UInt8 × SavePhase) : Prop where
  apart : result.1.Apart (temporaryPath path) path
  placed : ({ save with phase := result.2 } : Save).Placed path result.1
  target : result.1.read path =
    if save.phase = .closed ∧ result.2 = .ended then some save.bytes else files.read path

/-- A phase that needs nothing of the files is reached without touching them. -/
theorem saveEffect_leave (hapart : files.Apart (temporaryPath path) path) {phase : SavePhase}
    (hphase : phase = .removing ∨ phase = .ended ∧ save.phase ≠ .closed) :
    SaveEffect path files save (files, phase) := by
  rcases hphase with rfl | ⟨rfl, hopen⟩
  · exact ⟨hapart, trivial, by simp⟩
  · exact ⟨hapart, trivial, by simp [hopen]⟩

theorem saveEffect_openTemporary (hapart : files.Apart (temporaryPath path) path) :
    SaveEffect path files save
      (files.openTruncate (temporaryPath path),
        .writing (files.opened (temporaryPath path)) 0 false) where
  apart := hapart.openTruncate (ne_temporaryPath path)
  placed := ⟨Nat.zero_le _, Files.names_openTruncate, by
    rw [List.take_zero]
    exact Files.contents_openTruncate⟩
  target := by simpa using hapart.read_openTruncate (ne_temporaryPath path)

/-- A write goes on where the file ends. -/
theorem saveEffect_write (hapart : files.Apart (temporaryPath path) path) {file written : Nat}
    {failed : Bool} (hphase : save.phase = .writing file written failed)
    (hplaced : save.Placed path files) (count : Nat) :
    SaveEffect path files save
      (files.write file written ((save.bytes.drop written).take count),
        .writing file (written + ((save.bytes.drop written).take count).length) failed) := by
  unfold Save.Placed at hplaced
  rw [hphase] at hplaced
  obtain ⟨hwritten, hnames, hcontents⟩ := hplaced
  have hend : (files.contents file).length = written := by
    rw [hcontents, List.length_take_of_le hwritten]
  have htaken : ((save.bytes.drop written).take count).length ≤ save.bytes.length - written := by
    rw [List.length_take, List.length_drop]
    exact Nat.min_le_right _ _
  refine ⟨hapart, ⟨?_, hnames, ?_⟩, ?_⟩
  · change written + ((save.bytes.drop written).take count).length ≤ save.bytes.length
    omega
  · have hoverlay : overlay (files.contents file) written ((save.bytes.drop written).take count) =
        files.contents file ++ (save.bytes.drop written).take count := by
      rw [← hend, overlay_end]
    rw [Files.contents_write, hoverlay, hcontents, List.take_add]
    congr 1
    rw [List.length_take, List.take_eq_take_min]
  · simpa using Files.read_write_of_ne (hapart file hnames) _ _

theorem saveEffect_rename (hapart : files.Apart (temporaryPath path) path)
    (hphase : save.phase = .closed) (hplaced : save.Placed path files) :
    SaveEffect path files save (files.rename (temporaryPath path) path, .ended) := by
  unfold Save.Placed at hplaced
  rw [hphase] at hplaced
  obtain ⟨file, hnames, hcontents⟩ := hplaced
  refine ⟨hapart.rename hnames (ne_temporaryPath path), trivial, ?_⟩
  rw [if_pos ⟨hphase, rfl⟩, hapart.read_rename hnames (ne_temporaryPath path), hcontents]

theorem saveEffect_remove (hphase : save.phase = .removing) :
    SaveEffect path files save (files.remove (temporaryPath path), .ended) where
  apart := Files.apart_remove
  placed := trivial
  target := by simpa [hphase] using Files.read_remove_of_ne (ne_temporaryPath path)

theorem act_saveEffect (hapart : files.Apart (temporaryPath path) path)
    (hplaced : save.Placed path files) (action : SaveAction) :
    SaveEffect path files save (save.act path files action) := by
  have hstays : SaveEffect path files save (files, save.phase) := by
    refine ⟨hapart, hplaced, (if_neg ?_).symm⟩
    rintro ⟨hclosed, hended⟩
    cases hclosed.symm.trans hended
  unfold Save.act
  split
  · next hphase =>
      split_ifs
      · exact saveEffect_openTemporary hapart
      · exact saveEffect_leave hapart (.inr ⟨rfl, by simp [hphase]⟩)
  · next hphase =>
      exact saveEffect_write hapart hphase hplaced _
  · next hphase =>
      unfold Save.Placed at hplaced
      rw [hphase] at hplaced
      exact ⟨hapart, hplaced, by simp⟩
  · next file written failed granted hphase =>
      rw [hphase] at hstays
      unfold Save.Placed at hplaced
      rw [hphase] at hplaced
      split_ifs with hfailed hopen
      · exact saveEffect_leave hapart (.inl rfl)
      · exact hstays
      · obtain ⟨hwritten, hnames, hcontents⟩ := hplaced
        rw [List.take_of_length_le (Nat.not_lt.mp hopen)] at hcontents
        exact ⟨hapart, ⟨file, hnames, hcontents⟩, by simp⟩
      · exact saveEffect_leave hapart (.inl rfl)
  · next hphase =>
      split_ifs
      · exact saveEffect_rename hapart hphase hplaced
      · exact saveEffect_leave hapart (.inl rfl)
  · next hphase =>
      exact saveEffect_remove hphase
  · exact hstays

/-- A save that does not use the temporary file changes nothing unless it opens it. -/
theorem act_of_unused (h : save.phase.usesTemporary = false) {action : SaveAction}
    (haction : ∀ granted, action ≠ .openTemporary granted) :
    save.act path files action = (files, save.phase) := by
  cases hphase : save.phase with
  | ready =>
    cases action with
    | openTemporary granted => exact absurd rfl (haction granted)
    | write | failWriting | close | rename | remove => simp [Save.act, hphase]
  | ended => simp [Save.act, hphase]
  | writing | closed | removing =>
    rw [hphase] at h
    cases h

/-- Saves that open the temporary file one at a time, each under a key of its own. -/
structure TakeTurns {K : Type} (path : Text) (files : Files Text UInt8)
    (saves : K → Option Save) : Prop where
  apart : files.Apart (temporaryPath path) path
  placed : ∀ k save, saves k = some save → save.Placed path files
  alone : ∀ i j save other, saves i = some save → saves j = some other →
    save.phase.usesTemporary = true → other.phase.usesTemporary = true → i = j

section Turns

variable {K : Type} {saves saves' : K → Option Save}

/-- Saves that do not use the temporary file come and go. -/
theorem TakeTurns.keep (h : TakeTurns path files saves)
    (hkeep : ∀ k save, saves' k = some save → save.phase.usesTemporary = true →
      saves k = some save) : TakeTurns path files saves' := by
  refine ⟨h.apart, ?_, ?_⟩
  · intro k save hsave
    cases huses : save.phase.usesTemporary with
    | true => exact h.placed k save (hkeep k save hsave huses)
    | false => exact placed_of_unused huses
  · intro i j save other hsave hother huses huses'
    exact h.alone i j save other (hkeep i save hsave huses) (hkeep j other hother huses') huses
      huses'

/-- An operation of a save, which opens the temporary file only where no save uses it. -/
theorem TakeTurns.act {k : K} {action : SaveAction} (h : TakeTurns path files saves)
    (hsave : saves k = some save)
    (hopens : ∀ granted, action = .openTemporary granted →
      ∀ j other, saves j = some other → other.phase.usesTemporary = false)
    (hown : saves' k = some { save with phase := (save.act path files action).2 })
    (hothers : ∀ j, j ≠ k → saves' j = saves j) :
    TakeTurns path (save.act path files action).1 saves' := by
  by_cases hidle : save.phase.usesTemporary = false ∧ ∀ granted, action ≠ .openTemporary granted
  · have hnothing : save.act path files action = (files, save.phase) :=
      act_of_unused hidle.1 hidle.2
    rw [hnothing] at hown ⊢
    refine h.keep fun j other hother _ => ?_
    by_cases hj : j = k
    · rw [hj] at hother ⊢
      exact hsave.trans (hown.symm.trans hother)
    · exact hothers j hj ▸ hother
  -- The save uses the temporary file or opens it, so no other save does.
  have hunused : ∀ j other, saves' j = some other → j ≠ k → other.phase.usesTemporary = false := by
    intro j other hother hj
    rw [hothers j hj] at hother
    by_contra huses
    rw [Bool.not_eq_false] at huses
    refine hidle ⟨?_, fun granted hopen => ?_⟩
    · by_contra hown
      exact hj (h.alone j k other save hother hsave huses (by simpa using hown))
    · rw [hopens granted hopen j other hother] at huses
      cases huses
  have heffect := act_saveEffect h.apart (h.placed k save hsave) action
  refine ⟨heffect.apart, ?_, ?_⟩
  · intro j other hother
    by_cases hj : j = k
    · subst hj
      cases hown.symm.trans hother
      exact heffect.placed
    · exact placed_of_unused (hunused j other hother hj)
  · have hkey : ∀ j other, saves' j = some other → other.phase.usesTemporary = true → j = k := by
      intro j other hother huses
      by_contra hj
      rw [hunused j other hother hj] at huses
      cases huses
    intro i j one other hone hother huses huses'
    rw [hkey i one hone huses, hkey j other hother huses']

end Turns

end Operations

section Runs

variable {path : Text} {start : Files Text UInt8} {s : Saving}

/-- The file at the target is the file of the start or the whole file of a save. -/
def TargetWhole (path : Text) (start : Files Text UInt8) (s : Saving) : Prop :=
  ∀ bytes, s.files.read path = some bytes →
    start.read path = some bytes ∨ bytes ∈ s.saves.map Save.bytes

/-- An operation of a save leaves the bytes of the saves as they are. -/
theorem map_bytes_set {saves : List Save} {index : Nat} {save : Save}
    (h : saves[index]? = some save) (phase : SavePhase) :
    (saves.set index { save with phase }).map Save.bytes = saves.map Save.bytes := by
  have hbytes : (saves.map Save.bytes)[index]? = some save.bytes := by
    rw [List.getElem?_map, h]
    rfl
  obtain ⟨hindex, hget⟩ := List.getElem?_eq_some_iff.mp hbytes
  rw [List.map_set]
  change (saves.map Save.bytes).set index save.bytes = _
  rw [← hget, List.set_getElem_self]

/-- What holds of saves that open the temporary file one at a time. -/
structure InTurn (path : Text) (start : Files Text UInt8) (s : Saving) : Prop where
  whole : TargetWhole path start s
  turns : TakeTurns path s.files fun index : Nat => s.saves[index]?

/-- A save begins without touching a file. -/
theorem InTurn.begin (h : InTurn path start s) (bytes : Text) :
    InTurn path start { s with saves := s.saves ++ [{ bytes := bytes }] } := by
  refine ⟨?_, h.turns.keep ?_⟩
  · intro found hread
    rw [List.map_append]
    exact (h.whole found hread).imp_right (List.mem_append_left _)
  · intro j other hother huses
    rw [List.getElem?_append] at hother
    split at hother
    · exact hother
    · have hlast := List.mem_singleton.mp (List.mem_of_getElem? hother)
      rw [hlast] at huses
      cases huses

/-- A crash leaves the files as they are. -/
theorem InTurn.crash (h : InTurn path start s) :
    InTurn path start
      { s with saves := s.saves.map fun save => { save with phase := .ended } } := by
  refine ⟨?_, h.turns.keep ?_⟩
  · intro bytes hread
    rw [List.map_map]
    exact h.whole bytes hread
  · intro j other hother huses
    obtain ⟨old, -, rfl⟩ := List.mem_map.mp (List.mem_of_getElem? hother)
    cases huses

/-- A save that uses the temporary file is the only one, and so is one that opens it. -/
theorem InTurn.step {step : SavingStep} (hstep : OpensAlone s step) (h : InTurn path start s) :
    InTurn path start (savingStep path s step) := by
  cases step with
  | begin contents now =>
    cases hbytes : SnapshotStore.save path contents now with
    | error status => simpa only [savingStep, hbytes] using h
    | ok bytes => simpa only [savingStep, hbytes] using h.begin bytes
  | crash => exact h.crash
  | act index action =>
    cases hsave : s.saves[index]? with
    | none => simpa only [savingStep, hsave] using h
    | some save =>
      simp only [savingStep, hsave]
      obtain ⟨hindex, -⟩ := List.getElem?_eq_some_iff.mp hsave
      refine ⟨?_, h.turns.act hsave ?_ ?_ ?_⟩
      · intro bytes hread
        rw [map_bytes_set hsave]
        rw [(act_saveEffect h.turns.apart (h.turns.placed index save hsave) action).target] at hread
        split at hread
        · cases hread
          exact .inr (List.mem_map_of_mem (List.mem_of_getElem? hsave))
        · exact h.whole bytes hread
      · rintro granted rfl j other hother
        exact hstep other (List.mem_of_getElem? hother)
      · exact List.getElem?_set_self hindex
      · intro j hj
        exact List.getElem?_set_ne (Ne.symm hj)

/-- Every save has begun in the steps, with the encoding of its contents. -/
def Begun (path : Text) (steps : List SavingStep) (s : Saving) : Prop :=
  ∀ bytes ∈ s.saves.map Save.bytes, ∃ contents now, .begin contents now ∈ steps ∧
    SnapshotStore.save path contents now = .ok bytes

theorem run_begun (start : Files Text UInt8) (steps : List SavingStep) :
    Begun path steps (run (savingStep path) { files := start } steps) := by
  refine run_history ?_ ?_ steps
  · intro before step hbefore
    generalize run (savingStep path) { files := start } before = s at hbefore ⊢
    have hkept : Begun path (before ++ [step]) s := by
      intro bytes hbytes
      obtain ⟨contents, now, hmem, hsave⟩ := hbefore bytes hbytes
      exact ⟨contents, now, List.mem_append_left _ hmem, hsave⟩
    cases step with
    | begin contents now =>
      cases hsave : SnapshotStore.save path contents now with
      | error status => simpa only [savingStep, hsave] using hkept
      | ok bytes =>
        intro found hfound
        simp only [savingStep, hsave, List.map_append, List.map_singleton] at hfound
        rcases List.mem_append.mp hfound with hold | hnew
        · exact hkept found hold
        · rw [List.mem_singleton.mp hnew]
          exact ⟨contents, now, by simp, hsave⟩
    | crash =>
      intro bytes hbytes
      simp only [savingStep, List.map_map] at hbytes
      exact hkept bytes hbytes
    | act index action =>
      cases hsave : s.saves[index]? with
      | none => simpa only [savingStep, hsave] using hkept
      | some save =>
        intro bytes hbytes
        simp only [savingStep, hsave, map_bytes_set hsave] at hbytes
        exact hkept bytes hbytes
  · intro bytes hbytes
    cases hbytes

/-- While saves open the temporary file one at a time, also across crashes, the file at
the target is always the one of the start or the whole encoding of a save. -/
theorem target_whole_of_opensAlone {path : Text} {start : Files Text UInt8}
    {steps : List SavingStep} (hapart : start.Apart (temporaryPath path) path)
    (hsteps : Along (savingStep path) OpensAlone { files := start } steps) :
    ∀ before, before <+: steps →
      ∀ bytes, (run (savingStep path) { files := start } before).files.read path = some bytes →
        start.read path = some bytes ∨
          ∃ contents now, .begin contents now ∈ before ∧
            SnapshotStore.save path contents now = .ok bytes := by
  rintro before ⟨after, rfl⟩ bytes hread
  have hinit : InTurn path start { files := start } := by
    refine ⟨fun bytes hread => .inl hread, hapart, ?_, ?_⟩
    · intro index save hsave
      cases hsave
    · intro i j save other hsave
      cases hsave
  have hturn : InTurn path start (run (savingStep path) { files := start } before) :=
    Along.invariant (fun _ _ => InTurn.step) ((along_append _ _ _ before after).mp hsteps).1 hinit
  exact (hturn.whole bytes hread).imp_right (run_begun start before bytes)

end Runs

namespace OverlappingSaves

/-- A directory with nothing in it. -/
def noFiles : Files Text UInt8 where
  names := fun _ => none
  contents := fun _ => []
  next := 0
  made := by
    intro name file h
    cases h

def path : Text :=
  [115]

theorem noFiles_apart : noFiles.Apart (temporaryPath path) path := by
  intro file h
  cases h

/-- The operations of a save that is not disturbed. -/
def undisturbed (save : Nat) : List SavingStep :=
  [ .act save (.openTemporary true), .act save (.write 200), .act save (.close true),
    .act save (.rename true) ]

/-- Two flushes at 1 and 2: the second one opens before the first one renames. -/
def overlapping : List SavingStep :=
  [ .begin {} 1, .begin {} 2, .act 0 (.openTemporary true), .act 0 (.write 200),
    .act 0 (.close true), .act 1 (.openTemporary true), .act 0 (.rename true) ]

/-- One save after the other, with a crash between them. -/
def inTurn : List SavingStep :=
  [.begin {} 1] ++ undisturbed 0 ++ [.crash, .begin {} 2] ++ undisturbed 1

end OverlappingSaves

open OverlappingSaves in
set_option maxRecDepth 8000 in
/-- The target is empty after a save whose temporary file another save has opened. -/
theorem overlapping_saves_empty_target :
    noFiles.Apart (temporaryPath path) path ∧
      (run (savingStep path) { files := noFiles } overlapping).files.read path = some [] ∧
      (∀ contents now, .begin contents now ∈ overlapping →
        SnapshotStore.save path contents now ≠ .ok []) ∧
      SnapshotStore.load path (.whole []) =
        .error (.rejectedTruncated, text "snapshot is shorter than its envelope") := by
  refine ⟨noFiles_apart, by decide +kernel, ?_, by decide +kernel⟩
  intro contents now _ hsave
  exact save_ne_nil hsave rfl

open OverlappingSaves in
set_option maxRecDepth 8000 in
theorem target_whole_of_saves_in_turn :
    Along (savingStep path) OpensAlone { files := noFiles } inTurn ∧
      ∃ bytes, (run (savingStep path) { files := noFiles } inTurn).files.read path = some bytes ∧
        ∃ contents now, .begin contents now ∈ inTurn ∧
          SnapshotStore.save path contents now = .ok bytes := by
  have hsteps : Along (savingStep path) OpensAlone { files := noFiles } inTurn := by
    decide +kernel
  have hsome : ((run (savingStep path) { files := noFiles } inTurn).files.read path).isSome := by
    decide +kernel
  obtain ⟨bytes, hread⟩ := Option.isSome_iff_exists.mp hsome
  have hwhole := target_whole_of_opensAlone noFiles_apart hsteps inTurn List.prefix_rfl bytes hread
  refine ⟨hsteps, bytes, hread, hwhole.resolve_left ?_⟩
  intro hstart
  cases hstart

end TrafficFabric
