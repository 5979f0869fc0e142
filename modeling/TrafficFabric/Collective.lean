import TrafficFabric.Basic
import Mathlib.Data.List.Sort
import Mathlib.Data.List.Destutter

/-!
# Collectives and participants

The network-visible collective classes, the durable definition of a collective
with its phases and steps, its lifecycle states, and the liveness states of a
participant.  A lifecycle state is terminal or accepts new authority, never
both; the unregistered state is neither.

Participant lists are canonical when they strictly ascend.
-/

namespace TrafficFabric

inductive CollectiveClass where
  | unknown
  | allReduce
  | allGather
  | reduceScatter
  | broadcast
  | gather
  | scatter
  | allToAll
  | pointToPoint
  | barrierOnly
  | sendRecvGrouped
  | reduce
  | scan
  | sendRecvSplit
  | unknownVendor
deriving DecidableEq, Repr

def CollectiveClass.raw : CollectiveClass → UInt8
  | .unknown => 0
  | .allReduce => 1
  | .allGather => 2
  | .reduceScatter => 3
  | .broadcast => 4
  | .gather => 5
  | .scatter => 6
  | .allToAll => 7
  | .pointToPoint => 8
  | .barrierOnly => 9
  | .sendRecvGrouped => 10
  | .reduce => 11
  | .scan => 12
  | .sendRecvSplit => 13
  | .unknownVendor => 14

/-- Only the two unknown classes are not understood. -/
def isKnownCollectiveClass (value : CollectiveClass) : Bool :=
  value != .unknown && value != .unknownVendor

inductive AlgorithmHint where
  | unspecified
  | ring
  | tree
  | doubleBinaryTree
  | hierarchical
  | recursiveDoubling
  | rabenseifner
  | butterfly
  | direct
  | pipeline
  | ringChunked
  | vendorSpecific
deriving DecidableEq, Repr

def AlgorithmHint.raw : AlgorithmHint → UInt8
  | .unspecified => 0
  | .ring => 1
  | .tree => 2
  | .doubleBinaryTree => 3
  | .hierarchical => 4
  | .recursiveDoubling => 5
  | .rabenseifner => 6
  | .butterfly => 7
  | .direct => 8
  | .pipeline => 9
  | .ringChunked => 10
  | .vendorSpecific => 11

inductive CollectiveScope where
  | unspecified
  | intraNode
  | interNode
  | crossRack
  | crossPod
  | hybrid
deriving DecidableEq, Repr

inductive CollectiveState where
  | unregistered
  | registered
  | planning
  | active
  | draining
  | completed
  | cancelled
  | retired
  | timedOut
deriving DecidableEq, Repr

namespace CollectiveState

def toText : CollectiveState → Text
  | .unregistered => text "unregistered"
  | .registered => text "registered"
  | .planning => text "planning"
  | .active => text "active"
  | .draining => text "draining"
  | .completed => text "completed"
  | .cancelled => text "cancelled"
  | .retired => text "retired"
  | .timedOut => text "timed_out"

end CollectiveState

def collectiveStateIsTerminal : CollectiveState → Bool
  | .completed => true
  | .cancelled => true
  | .retired => true
  | .timedOut => true
  | _ => false

def collectiveStateAcceptsNewAuthority : CollectiveState → Bool
  | .registered => true
  | .planning => true
  | .active => true
  | .draining => true
  | _ => false

/-- A terminal collective accepts no new authority. -/
theorem collectiveStateAcceptsNewAuthority_of_terminal {state : CollectiveState}
    (h : collectiveStateIsTerminal state = true) :
    collectiveStateAcceptsNewAuthority state = false := by
  cases state <;> first | rfl | cases h

structure CollectivePhase where
  phaseIndex : Sequence := {}
  label : Text := []
  synchronizationPoint : Bool := false
  stepCount : UInt32 := 0
deriving DecidableEq, Repr

structure CollectiveStep where
  phaseIndex : Sequence := {}
  stepIndex : Sequence := {}
  hint : AlgorithmHint := .unspecified
  synchronizationPoint : Bool := false
deriving DecidableEq, Repr

/-- The bounds of metadata, and one value for each key. -/
structure MetadataWithin (entries : List (Text × Text)) : Prop where
  count : entries.length ≤ Limits.metadataEntriesMax
  distinct : (entries.map Prod.fst).Nodup
  bounded : ∀ entry ∈ entries, entry.1 ≠ [] ∧
    entry.1.length ≤ Limits.metadataKeyBytesMax ∧ entry.2.length ≤ Limits.metadataValueBytesMax

theorem metadataWithin_nil : MetadataWithin [] := by
  exact ⟨by simp, by simp, by simp⟩

/-- Ordered metadata in insertion order; entries come in only through set. -/
@[ext] structure Metadata where
  entries : List (Text × Text) := []
  within : MetadataWithin entries := by exact metadataWithin_nil
deriving DecidableEq, Repr

namespace Metadata

variable {entries : List (Text × Text)}

/-- Replaces the value of the first entry with the key, if there is one. -/
def assignEntry (key value : Text) : List (Text × Text) → Option (List (Text × Text))
  | [] => none
  | entry :: rest =>
    if entry.1 = key then
      some ((entry.1, value) :: rest)
    else
      (assignEntry key value rest).map (entry :: ·)

/-- An assignment keeps the keys, and every other entry. -/
theorem assignEntry_eq_some {key value : Text} {assigned : List (Text × Text)}
    (h : assignEntry key value entries = some assigned) :
    assigned.map Prod.fst = entries.map Prod.fst ∧
      ∀ entry ∈ assigned, entry ∈ entries ∨ entry = (key, value) := by
  induction entries generalizing assigned with
  | nil => cases h
  | cons first rest ih =>
    unfold assignEntry at h
    split at h
    · rename_i hkey
      cases h
      refine ⟨rfl, ?_⟩
      intro entry hentry
      rcases List.mem_cons.mp hentry with rfl | hrest
      · exact .inr (by rw [hkey])
      · exact .inl (List.mem_cons_of_mem first hrest)
    · obtain ⟨others, hothers, rfl⟩ := Option.map_eq_some_iff.mp h
      obtain ⟨hkeys, hentries⟩ := ih hothers
      refine ⟨by rw [List.map_cons, List.map_cons, hkeys], ?_⟩
      intro entry hentry
      rcases List.mem_cons.mp hentry with rfl | hrest
      · exact .inl List.mem_cons_self
      · exact (hentries entry hrest).imp_left (List.mem_cons_of_mem first)

/-- There is nothing to assign exactly when the key is new. -/
theorem assignEntry_eq_none_iff {key value : Text} :
    assignEntry key value entries = none ↔ key ∉ entries.map Prod.fst := by
  induction entries with
  | nil => simp [assignEntry]
  | cons first rest ih =>
    unfold assignEntry
    split
    · rename_i hkey
      simp [hkey]
    · rename_i hkey
      rw [Option.map_eq_none_iff, ih, List.map_cons, List.mem_cons, not_or]
      exact ⟨fun h => ⟨Ne.symm hkey, h⟩, fun h => h.2⟩

variable {entries assigned : List (Text × Text)} {key value : Text}

theorem within_assign (h : MetadataWithin entries)
    (hassigned : assignEntry key value entries = some assigned)
    (hkey : ¬ (key = [] ∨ Limits.metadataKeyBytesMax < key.length))
    (hvalue : ¬ Limits.metadataValueBytesMax < value.length) : MetadataWithin assigned := by
  obtain ⟨hkeys, hentries⟩ := assignEntry_eq_some hassigned
  refine ⟨?_, hkeys ▸ h.distinct, ?_⟩
  · have hlength := congrArg List.length hkeys
    rw [List.length_map, List.length_map] at hlength
    exact hlength ▸ h.count
  · intro entry hentry
    rcases hentries entry hentry with hold | rfl
    · exact h.bounded entry hold
    · exact ⟨fun hnil => hkey (.inl hnil), Nat.not_lt.mp fun hlong => hkey (.inr hlong),
        Nat.not_lt.mp hvalue⟩

theorem within_append (h : MetadataWithin entries) (hnew : assignEntry key value entries = none)
    (hkey : ¬ (key = [] ∨ Limits.metadataKeyBytesMax < key.length))
    (hvalue : ¬ Limits.metadataValueBytesMax < value.length)
    (hroom : ¬ Limits.metadataEntriesMax ≤ entries.length) :
    MetadataWithin (entries ++ [(key, value)]) := by
  refine ⟨?_, ?_, ?_⟩
  · rw [List.length_append, List.length_singleton]
    omega
  · rw [List.map_append, List.map_singleton]
    refine List.nodup_append.mpr ⟨h.distinct, List.nodup_singleton _, ?_⟩
    intro other hother fresh hfresh hsame
    rw [hsame, List.mem_singleton.mp hfresh] at hother
    exact assignEntry_eq_none_iff.mp hnew hother
  · intro entry hentry
    rcases List.mem_append.mp hentry with hold | hlast
    · exact h.bounded entry hold
    · rw [List.mem_singleton.mp hlast]
      exact ⟨fun hnil => hkey (.inl hnil), Nat.not_lt.mp fun hlong => hkey (.inr hlong),
        Nat.not_lt.mp hvalue⟩

/-- Sets a key; a key or value out of bounds and a new key beyond the bound are refused. -/
def set (metadata : Metadata) (key value : Text) : Option Metadata :=
  if hkey : key = [] ∨ Limits.metadataKeyBytesMax < key.length then
    none
  else if hvalue : Limits.metadataValueBytesMax < value.length then
    none
  else
    match hassigned : assignEntry key value metadata.entries with
    | some entries =>
      some
        { entries := entries
          within := within_assign metadata.within hassigned hkey hvalue }
    | none =>
      if hroom : Limits.metadataEntriesMax ≤ metadata.entries.length then
        none
      else
        some
          { entries := metadata.entries ++ [(key, value)]
            within := within_append metadata.within hassigned hkey hvalue hroom }

/-- A new key within the bounds goes to the end. -/
theorem set_of_new {metadata : Metadata} (hnew : key ∉ metadata.entries.map Prod.fst)
    (hkey : key ≠ [] ∧ key.length ≤ Limits.metadataKeyBytesMax)
    (hvalue : value.length ≤ Limits.metadataValueBytesMax)
    (hroom : metadata.entries.length < Limits.metadataEntriesMax) :
    ∃ longer, metadata.set key value = some longer ∧
      longer.entries = metadata.entries ++ [(key, value)] := by
  have hkey' : ¬ (key = [] ∨ Limits.metadataKeyBytesMax < key.length) := by
    rintro (hnil | hlong)
    · exact hkey.1 hnil
    · omega
  unfold set
  rw [dif_neg hkey', dif_neg (Nat.not_lt.mpr hvalue)]
  split
  · rename_i assigned hassigned
    rw [assignEntry_eq_none_iff.mpr hnew] at hassigned
    cases hassigned
  · rw [dif_neg (Nat.not_le.mpr hroom)]
    exact ⟨_, rfl, rfl⟩

/-- The next entry of some metadata can be set on what comes before it. -/
theorem set_next {before after : Metadata} {entry : Text × Text} {rest : List (Text × Text)}
    (h : after.entries = before.entries ++ entry :: rest) :
    entry.1.length ≤ Limits.metadataKeyBytesMax ∧
      entry.2.length ≤ Limits.metadataValueBytesMax ∧
      ∃ longer, before.set entry.1 entry.2 = some longer ∧
        longer.entries = before.entries ++ [entry] := by
  have hmember : entry ∈ after.entries := by
    simp [h]
  obtain ⟨hsome, hkey, hvalue⟩ := after.within.bounded entry hmember
  have hnew : entry.1 ∉ before.entries.map Prod.fst := by
    have hdistinct := after.within.distinct
    rw [h, List.map_append, List.map_cons] at hdistinct
    intro hold
    exact (List.nodup_append.mp hdistinct).2.2 _ hold _ List.mem_cons_self rfl
  have hroom : before.entries.length < Limits.metadataEntriesMax := by
    have hcount := after.within.count
    rw [h, List.length_append, List.length_cons] at hcount
    omega
  exact ⟨hkey, hvalue, set_of_new hnew ⟨hsome, hkey⟩ hvalue hroom⟩

end Metadata

/-- A durable collective definition. -/
structure CollectiveDefinition where
  id : CollectiveId := {}
  generation : CollectiveGeneration := {}
  collectiveClass : CollectiveClass := .unknown
  algorithmHint : AlgorithmHint := .unspecified
  scope : CollectiveScope := .unspecified
  label : Text := []
  originNode : NodeId := {}
  fabric : FabricInstanceId := {}
  participants : List ParticipantId := []
  phases : List CollectivePhase := []
  steps : List CollectiveStep := []
  metadata : Metadata := {}
  declaresBarrierSemantics : Bool := false
  logicalBytes : UInt64 := 0
  registrationSequence : Sequence := {}
deriving DecidableEq, Repr

/-- A definition generation plus the attempt that traverses the fabric. -/
structure CollectiveInstance where
  id : CollectiveId := {}
  generation : CollectiveGeneration := {}
  attempt : CollectiveAttemptId := {}
  attemptSequence : Sequence := {}
deriving DecidableEq, Repr

/-- Sorts a participant list and drops repeated neighbours. -/
def canonicalizeParticipants (participants : List ParticipantId) : List ParticipantId :=
  (participants.insertionSort (· ≤ ·)).destutter (· ≠ ·)

/-- Every participant is strictly below the next one. -/
def participantsAreCanonical : List ParticipantId → Bool
  | a :: b :: rest => decide (a < b) && participantsAreCanonical (b :: rest)
  | _ => true

inductive ParticipantState where
  | unspecified
  | advertised
  | live
  | suspect
  | expired
  | fenced
  | retired
deriving DecidableEq, Repr

def participantStateHoldsAuthority (value : ParticipantState) : Bool :=
  value == .live

end TrafficFabric
