import Mathlib.Algebra.Ring.Nat
import Mathlib.Order.Defs.LinearOrder
import Mathlib.Order.Basic

/-!
# Identities, sequences and minting

Every identity of the runtime is an opaque pair of 64 bit words.  The all-zero
pair is the unset identity: it stands for absence and is never a match.
Identities are totally ordered, high word first; boot incarnations rely on that
order, everything else only on equality.

`mintIdentity` is the minting function as a function of the process entropy and
of the value its counter had.  The rest of the development never looks inside
it: an operation that mints takes the identities it drew as an argument, as
values of the type `Minted`, and all that is known of them is that they are set.
-/

namespace TrafficFabric

/-- Strongly typed 128 bit identity. -/
structure Identity where
  hi : UInt64 := 0
  lo : UInt64 := 0
deriving DecidableEq, Repr

namespace Identity

/-- The unset identity. -/
def none : Identity := {}

def isNone (i : Identity) : Bool :=
  i.hi == 0 && i.lo == 0

def isSome (i : Identity) : Bool :=
  !i.isNone

@[simp] theorem isNone_eq_true_iff (i : Identity) : i.isNone = true ↔ i = none := by
  cases i with
  | mk => simp [isNone, none]

@[simp] theorem isSome_eq_true_iff (i : Identity) : i.isSome = true ↔ i ≠ none := by
  rw [isSome, Bool.not_eq_true', ← Bool.not_eq_true, isNone_eq_true_iff]

@[simp] theorem isSome_eq_false_iff (i : Identity) : i.isSome = false ↔ i = none := by
  rw [← Bool.not_eq_true, isSome_eq_true_iff, not_not]

@[simp] theorem isNone_eq_false_iff (i : Identity) : i.isNone = false ↔ i ≠ none := by
  rw [← Bool.not_eq_true, isNone_eq_true_iff]

/-- High word first, then the low word. -/
instance : LT Identity where
  lt a b := if a.hi ≠ b.hi then a.hi < b.hi else a.lo < b.lo

instance : LE Identity where
  le a b := ¬ b < a

instance : DecidableLT Identity :=
  fun a b =>
    inferInstanceAs (Decidable (if a.hi ≠ b.hi then a.hi < b.hi else a.lo < b.lo))

instance : DecidableLE Identity :=
  fun a b => inferInstanceAs (Decidable (¬ b < a))

/-- The order read through the words as numbers. -/
theorem lt_iff (a b : Identity) :
    a < b ↔
      a.hi.toNat < b.hi.toNat ∨ (a.hi.toNat = b.hi.toNat ∧ a.lo.toNat < b.lo.toNat) := by
  change (if a.hi ≠ b.hi then a.hi < b.hi else a.lo < b.lo) ↔ _
  by_cases h : a.hi = b.hi
  · simp [h, UInt64.lt_iff_toNat_lt]
  · have hne : a.hi.toNat ≠ b.hi.toNat := fun he => h (UInt64.toNat_inj.mp he)
    simp [h, hne, UInt64.lt_iff_toNat_lt]

theorem le_iff (a b : Identity) : a ≤ b ↔ ¬ b < a := by
  exact Iff.rfl

theorem eq_of_not_lt {a b : Identity} (hab : ¬ a < b) (hba : ¬ b < a) : a = b := by
  rw [lt_iff] at hab hba
  have hhi : a.hi.toNat = b.hi.toNat := by omega
  have hlo : a.lo.toNat = b.lo.toNat := by omega
  cases a with
  | mk =>
    cases b with
    | mk =>
      simp only [mk.injEq]
      exact ⟨UInt64.toNat_inj.mp hhi, UInt64.toNat_inj.mp hlo⟩

instance : LinearOrder Identity where
  le_refl a := by
    rw [le_iff, lt_iff]
    omega
  le_trans a b c hab hbc := by
    rw [le_iff, lt_iff] at *
    omega
  lt_iff_le_not_ge a b := by
    rw [le_iff, le_iff, lt_iff, lt_iff]
    omega
  le_antisymm a b hab hba := eq_of_not_lt hba hab
  le_total a b := by
    rw [le_iff, le_iff, lt_iff, lt_iff]
    omega
  toDecidableLE := inferInstance
  toDecidableEq := inferInstance
  toDecidableLT := inferInstance

/-- The unset identity is the least one. -/
theorem not_lt_none (i : Identity) : ¬ i < none := by
  rw [lt_iff]
  simp [none]

theorem ne_none_of_lt {i j : Identity} (h : i < j) : j ≠ none := by
  rintro rfl
  exact not_lt_none i h

end Identity

abbrev CollectiveId := Identity
abbrev CollectiveGeneration := Identity
abbrev CollectiveAttemptId := Identity
abbrev ParticipantId := Identity
abbrev FlowGroupId := Identity
abbrev TopologyGeneration := Identity
abbrev PolicyGeneration := Identity
abbrev CoordinatorEpoch := Identity
abbrev BootIncarnation := Identity
abbrev EvidenceGeneration := Identity
abbrev SessionId := Identity
abbrev NodeId := Identity
abbrev RackId := Identity
abbrev SwitchId := Identity
abbrev LinkId := Identity
abbrev FabricInstanceId := Identity

/-- A monotonic counter.  Zero is the unset value. -/
structure Sequence where
  value : UInt64 := 0
deriving DecidableEq, Repr

namespace Sequence

def isUnset (s : Sequence) : Bool :=
  s.value == 0

instance : LT Sequence where
  lt a b := a.value < b.value

instance : DecidableLT Sequence :=
  fun a b => inferInstanceAs (Decidable (a.value < b.value))

/-- The counter advanced by one, wrapping at 64 bits. -/
def next (s : Sequence) : Sequence :=
  ⟨s.value + 1⟩

end Sequence

/-- SplitMix64 step: advance by the golden ratio, then finalise. -/
def mix64 (value : UInt64) : UInt64 :=
  let value := value + 0x9E3779B97F4A7C15
  let value := (value ^^^ (value >>> 30)) * 0xBF58476D1CE4E5B9
  let value := (value ^^^ (value >>> 27)) * 0x94D049BB133111EB
  value ^^^ (value >>> 31)

/-- Deterministic identity stream. -/
structure IdentityMinter where
  state : UInt64
deriving DecidableEq, Repr

namespace IdentityMinter

/-- The minter of a seed: the seed goes through one SplitMix64 step. -/
def ofSeed (seed : UInt64) : IdentityMinter :=
  ⟨mix64 seed⟩

/-- The next identity of the stream. -/
def next (minter : IdentityMinter) : Identity × IdentityMinter :=
  let state := mix64 minter.state
  let hi := mix64 state
  let lo := mix64 (state ^^^ 0xA5A5A5A5A5A5A5A5 ^^^ hi)
  (⟨hi, lo⟩, ⟨state⟩)

end IdentityMinter

/-- The identity minted from the process entropy and one counter value. -/
def mintIdentity (entropy counter : UInt64) : Identity :=
  let hi := mix64 (entropy ^^^ (counter * 0x9E3779B97F4A7C15))
  let lo := mix64 (entropy + 0x165667B19E3779F9 + counter)
  let minted : Identity := ⟨hi, lo⟩
  if minted.isNone then ⟨1, 1⟩ else minted

/-- An identity the minting function may have returned: it is never unset. -/
structure Minted where
  id : Identity
  set : id ≠ Identity.none
deriving DecidableEq, Repr

end TrafficFabric
