import Mathlib.Tactic.Common
import Mathlib.Logic.Function.Basic
import Mathlib.Data.List.Basic

/-!
# Names and files

A directory maps names to files, and a file is what an open descriptor refers
to: opening a name for writing empties the file it refers to or makes a new
one, a write goes to the file of its descriptor under whatever name that file
now has, and a rename moves a name to another file in one step.

Two names are apart when they do not refer to one file.  Operations on a name
leave alone what is read under a name apart from it.
-/

namespace TrafficFabric
namespace Lib

universe u v

/-- Files and the names that refer to them; no name refers to a file still to be made. -/
structure Files (ν : Type u) (β : Type v) where
  names : ν → Option Nat
  contents : Nat → List β
  next : Nat
  made : ∀ name file, names name = some file → file < next

/-- The contents after a write at the offset; a gap before it is filled. -/
def overlay {β : Type v} [Inhabited β] (old : List β) (offset : Nat) (bytes : List β) :
    List β :=
  (old ++ List.replicate (offset - old.length) default).take offset ++ bytes ++
    old.drop (offset + bytes.length)

theorem overlay_end {β : Type v} [Inhabited β] (old bytes : List β) :
    overlay old old.length bytes = old ++ bytes := by
  simp [overlay]

namespace Files

variable {ν : Type u} {β : Type v} [DecidableEq ν]

/-- What is read under the name. -/
def read (files : Files ν β) (name : ν) : Option (List β) :=
  (files.names name).map files.contents

/-- The file that opening the name for writing gives. -/
def opened (files : Files ν β) (name : ν) : Nat :=
  (files.names name).getD files.next

/-- Opening a name for writing empties its file, which is made if there is none. -/
def openTruncate (files : Files ν β) (name : ν) : Files ν β where
  names := Function.update files.names name (some (files.opened name))
  contents := Function.update files.contents (files.opened name) []
  next := max files.next (files.opened name + 1)
  made := by
    intro other file h
    by_cases hother : other = name
    · rw [hother, Function.update_self] at h
      cases h
      exact Nat.le_max_right _ _
    · rw [Function.update_of_ne hother] at h
      exact Nat.lt_of_lt_of_le (files.made other file h) (Nat.le_max_left _ _)

/-- Writes to the file of an open descriptor. -/
def write [Inhabited β] (files : Files ν β) (file offset : Nat) (bytes : List β) :
    Files ν β :=
  { files with
    contents := Function.update files.contents file (overlay (files.contents file) offset bytes) }

def remove (files : Files ν β) (name : ν) : Files ν β where
  names := Function.update files.names name none
  contents := files.contents
  next := files.next
  made := by
    intro other file h
    by_cases hother : other = name
    · rw [hother, Function.update_self] at h
      cases h
    · rw [Function.update_of_ne hother] at h
      exact files.made other file h

/-- Moves a name to another one; two names of one file are left as they are. -/
def rename (files : Files ν β) (source target : ν) : Files ν β :=
  if files.names target = files.names source then
    files
  else
    { names :=
        Function.update (Function.update files.names target (files.names source)) source none
      contents := files.contents
      next := files.next
      made := by
        intro other file h
        by_cases hsource : other = source
        · rw [hsource, Function.update_self] at h
          cases h
        · rw [Function.update_of_ne hsource] at h
          by_cases htarget : other = target
          · rw [htarget, Function.update_self] at h
            exact files.made source file h
          · rw [Function.update_of_ne htarget] at h
            exact files.made other file h }

/-- The two names do not refer to one file. -/
def Apart (files : Files ν β) (name other : ν) : Prop :=
  ∀ file, files.names name = some file → files.names other ≠ some file

section Open

variable {files : Files ν β} {name other : ν}

theorem names_openTruncate : (files.openTruncate name).names name = some (files.opened name) := by
  exact Function.update_self _ _ _

theorem contents_openTruncate : (files.openTruncate name).contents (files.opened name) = [] := by
  exact Function.update_self _ _ _

omit [DecidableEq ν] in
/-- A name apart from the opened one does not refer to the opened file. -/
theorem Apart.names_ne_opened (h : files.Apart name other) :
    files.names other ≠ some (files.opened name) := by
  unfold opened
  cases hname : files.names name with
  | none =>
    intro hother
    exact Nat.lt_irrefl _ (files.made other _ hother)
  | some file => exact h file hname

theorem Apart.openTruncate (h : files.Apart name other) (hne : other ≠ name) :
    (files.openTruncate name).Apart name other := by
  intro file hfile
  rw [names_openTruncate] at hfile
  cases hfile
  change Function.update files.names name _ other ≠ _
  rw [Function.update_of_ne hne]
  exact h.names_ne_opened

theorem Apart.read_openTruncate (h : files.Apart name other) (hne : other ≠ name) :
    (files.openTruncate name).read other = files.read other := by
  have hnames : (files.openTruncate name).names other = files.names other :=
    Function.update_of_ne hne _ _
  unfold read
  rw [hnames]
  cases hother : files.names other with
  | none => rfl
  | some file =>
    have hfile : file ≠ files.opened name := by
      rintro rfl
      exact h.names_ne_opened hother
    exact congrArg some (Function.update_of_ne hfile _ _)

end Open

section Write

variable [Inhabited β] {files : Files ν β} {name : ν} {file : Nat}

omit [DecidableEq ν] in
theorem contents_write (offset : Nat) (bytes : List β) :
    (files.write file offset bytes).contents file = overlay (files.contents file) offset bytes := by
  exact Function.update_self _ _ _

omit [DecidableEq ν] in
theorem read_write_of_ne (h : files.names name ≠ some file) (offset : Nat) (bytes : List β) :
    (files.write file offset bytes).read name = files.read name := by
  change (files.names name).map _ = (files.names name).map _
  cases hname : files.names name with
  | none => rfl
  | some other =>
    have hother : other ≠ file := by
      rintro rfl
      exact h hname
    exact congrArg some (Function.update_of_ne hother _ _)

end Write

section Names

variable {files : Files ν β} {name other : ν}

theorem read_remove_of_ne (hne : other ≠ name) :
    (files.remove name).read other = files.read other := by
  have hnames : (files.remove name).names other = files.names other := Function.update_of_ne hne _ _
  unfold read
  rw [hnames]
  rfl

theorem apart_remove : (files.remove name).Apart name other := by
  intro file hfile
  have hnone : (files.remove name).names name = none := Function.update_self _ _ _
  rw [hnone] at hfile
  cases hfile

variable {source target : ν} {file : Nat}

/-- After the rename the target is the file that the source was. -/
theorem Apart.names_rename (h : files.Apart source target)
    (hsource : files.names source = some file) (hne : target ≠ source) :
    (files.rename source target).names target = some file ∧
      (files.rename source target).names source = none := by
  have hother : ¬ files.names target = files.names source := by
    rw [hsource]
    exact h file hsource
  unfold rename
  rw [if_neg hother]
  change Function.update (Function.update files.names target (files.names source)) source none
      target = some file ∧ Function.update (Function.update files.names target
        (files.names source)) source none source = none
  rw [Function.update_of_ne hne, Function.update_self, Function.update_self]
  exact ⟨hsource, rfl⟩

theorem contents_rename : (files.rename source target).contents = files.contents := by
  unfold rename
  split <;> rfl

theorem Apart.read_rename (h : files.Apart source target) (hsource : files.names source = some file)
    (hne : target ≠ source) :
    (files.rename source target).read target = some (files.contents file) := by
  unfold read
  rw [(h.names_rename hsource hne).1, contents_rename]
  rfl

theorem Apart.rename (h : files.Apart source target) (hsource : files.names source = some file)
    (hne : target ≠ source) : (files.rename source target).Apart source target := by
  intro other hother
  rw [(h.names_rename hsource hne).2] at hother
  cases hother

end Names

end Files

end Lib
end TrafficFabric
