import Mathlib.Data.List.FinRange
import TrafficFabric.Persistence
import TrafficFabric.Encoding
import TrafficFabric.Lib.Codec

/-!
# The fields of a snapshot

Each reader of the snapshot format finds what its writer wrote, with anything
behind it.  A text has to be within its bound, since the writer cuts a longer
one; a count has to be within the reader's bound; an enumeration has to list
the value.  Everything else is read back as it is.

The size of a field is fixed or follows from the length of its text or list.
-/

namespace TrafficFabric

open Lib SnapReader CongestionResponseTable

section Enumerations

theorem mem_collectiveClasses (value : CollectiveClass) : value ∈ collectiveClasses := by
  cases value <;> decide

theorem mem_algorithmHints (value : AlgorithmHint) : value ∈ algorithmHints := by
  cases value <;> decide

theorem mem_collectiveScopes (value : CollectiveScope) : value ∈ collectiveScopes := by
  cases value <;> decide

theorem mem_collectiveStates (value : CollectiveState) : value ∈ collectiveStates := by
  cases value <;> decide

theorem mem_linkClasses (value : LinkClass) : value ∈ linkClasses := by
  cases value <;> decide

theorem mem_trafficClasses (value : TrafficClass) : value ∈ trafficClasses := by
  cases value <;> decide

theorem mem_isolationModes (value : IsolationMode) : value ∈ isolationModes := by
  cases value <;> decide

/-- The number of a listed value, as a byte, finds the value again. -/
theorem getElem?_idxOf_toUInt8 {α : Type} [DecidableEq α] {values : List α} {value : α}
    (h : value ∈ values) (hsize : values.length ≤ 256) :
    values[(values.idxOf value).toUInt8.toNat]? = some value := by
  have hindex : values.idxOf value < values.length := List.idxOf_lt_length_of_mem h
  have hbyte : (values.idxOf value).toUInt8.toNat = values.idxOf value :=
    Nat.mod_eq_of_lt (by omega)
  rw [hbyte, List.getElem?_idxOf h]

end Enumerations

section Sizes

theorem length_string {value : Text} {maxBytes : Nat} (h : value.length ≤ maxBytes) :
    (SnapWriter.string value maxBytes).length = 4 + value.length := by
  simp [SnapWriter.string, List.take_of_length_le h]

@[simp] theorem length_boolean (value : Bool) : (SnapWriter.boolean value).length = 1 := by
  rfl

@[simp] theorem length_enumeration {α : Type} [DecidableEq α] (values : List α) (value : α) :
    (SnapWriter.enumeration values value).length = 1 := by
  rfl

/-- Items of known sizes behind their count. -/
theorem length_counted {α : Type} {item : α → Text} {size : α → Nat} {items : List α}
    (h : ∀ a ∈ items, (item a).length = size a) :
    (SnapWriter.counted item items).length = 4 + (items.map size).sum := by
  rw [SnapWriter.counted, List.length_append, length_putU32, List.length_flatMap]
  exact congrArg (4 + List.sum ·) (List.map_congr_left h)

theorem length_counted_const {α : Type} {item : α → Text} {size : Nat} {items : List α}
    (h : ∀ a, (item a).length = size) :
    (SnapWriter.counted item items).length = 4 + size * items.length := by
  rw [length_counted fun a _ => h a, List.map_const', List.sum_replicate_nat, Nat.mul_comm]

end Sizes

namespace SnapReader

variable {α : Type}

theorem reads_take {bytes : Text} {count : Nat} (h : bytes.length = count) :
    Reads (take count) bytes bytes := by
  intro rest
  have hlong : ¬ (bytes ++ rest).length < count := by
    rw [List.length_append]
    omega
  change (if (bytes ++ rest).length < count then none
    else some ((bytes ++ rest).take count, (bytes ++ rest).drop count)) = some (bytes, rest)
  rw [if_neg hlong, List.take_left' h, List.drop_left' h]

theorem reads_u8 (byte : UInt8) : Reads u8 [byte] byte := by
  intro rest
  rfl

theorem reads_u32 (value : UInt32) : Reads u32 (putU32 value) value := by
  have hword : readU32 (putU32 value) = value := by
    simpa using readU32_putU32 value []
  have hread : Reads u32 (putU32 value) (readU32 (putU32 value)) := (reads_take rfl).last
  rwa [hword] at hread

theorem reads_u64 (value : UInt64) : Reads u64 (putU64 value) value := by
  have hword : readU64 (putU64 value) = value := by
    simpa using readU64_putU64 value []
  have hread : Reads u64 (putU64 value) (readU64 (putU64 value)) := (reads_take rfl).last
  rwa [hword] at hread

theorem reads_identity (value : Identity) : Reads identity (putIdentity value) value := by
  exact (reads_u64 value.hi).bind (reads_u64 value.lo).last

theorem reads_sequence (value : Sequence) : Reads sequence (putU64 value.value) value := by
  exact (reads_u64 value.value).last

/-- A text within its bound. -/
theorem reads_string {value : Text} {maxBytes : Nat} (h : value.length ≤ maxBytes)
    (hmax : maxBytes < 2 ^ 32) :
    Reads (string maxBytes) (SnapWriter.string value maxBytes) value := by
  have hlength : value.length.toUInt32.toNat = value.length := Nat.mod_eq_of_lt (by omega)
  rw [SnapWriter.string, List.take_of_length_le h]
  refine (reads_u32 _).bind ?_
  rw [if_neg (by omega)]
  exact reads_take hlength.symm

theorem reads_boolean (value : Bool) : Reads boolean (SnapWriter.boolean value) value := by
  intro rest
  cases value <;> rfl

/-- A value that the enumeration lists. -/
theorem reads_enumeration [DecidableEq α] {values : List α} {value : α} (h : value ∈ values)
    (hsize : values.length ≤ 256) :
    Reads (enumeration values) (SnapWriter.enumeration values value) value := by
  rw [← List.append_nil (SnapWriter.enumeration values value)]
  refine (reads_u8 _).bind ?_
  rw [getElem?_idxOf_toUInt8 h hsize]
  exact reads_pure value

theorem reads_count {number max : Nat} (h : number ≤ max) (hmax : max < 2 ^ 32) :
    Reads (count max) (putU32 number.toUInt32) number := by
  have hnumber : number.toUInt32.toNat = number := Nat.mod_eq_of_lt (by omega)
  rw [← List.append_nil (putU32 _)]
  refine (reads_u32 _).bind ?_
  rw [hnumber, if_neg (by omega)]
  exact reads_pure number

/-- A bounded number of items, each of which is read back. -/
theorem reads_counted {max : Nat} {item : SnapReader α} {write : α → Text} {items : List α}
    (h : items.length ≤ max) (hmax : max < 2 ^ 32) (hitem : ∀ a ∈ items, Reads item (write a) a) :
    Reads (counted max item) (SnapWriter.counted write items) items := by
  exact (reads_count h hmax).bind (reads_many rfl (fun _ => rfl) hitem)

/-- A fixed number of items. -/
theorem reads_vector {item : SnapReader α} {write : α → Text} :
    ∀ {size : Nat} (items : Vector α size),
      (∀ a ∈ items, Reads item (write a) a) →
      Reads (vector item size) (items.toList.flatMap write) items
  | 0, items, _ => by
    obtain rfl : items = #v[] := Vector.eq_empty
    exact reads_pure _
  | size + 1, items, hitem => by
    have hsplit : items = items.pop.push items.back := (Vector.push_pop_back items).symm
    have hbefore : Reads (vector item size) (items.pop.toList.flatMap write) items.pop :=
      reads_vector items.pop fun a ha => hitem a (by
        rw [hsplit]
        exact Vector.mem_push.mpr (.inl ha))
    have hlast : Reads item (write items.back) items.back :=
      hitem _ (by
        rw [hsplit]
        exact Vector.mem_push.mpr (.inr (by simp)))
    rw [hsplit, Vector.toList_push, List.flatMap_append, List.flatMap_singleton]
    exact hbefore.bind hlast.last

end SnapReader

section Fields

/-- The entries that are read one after another go to the end of the metadata. -/
theorem reads_entries {entries : List (Text × Text)} {before after : Metadata}
    (h : after.entries = before.entries ++ entries) :
    Reads (readEntries entries.length before)
      (entries.flatMap fun entry =>
        SnapWriter.string entry.1 Limits.metadataKeyBytesMax ++
          SnapWriter.string entry.2 Limits.metadataValueBytesMax)
      after := by
  induction entries generalizing before with
  | nil =>
    obtain rfl : after = before := Metadata.ext (by simpa using h)
    exact reads_pure _
  | cons _ _ ih =>
    obtain ⟨hkey, hvalue, longer, hset, hlonger⟩ := Metadata.set_next h
    rw [List.flatMap_cons, List.append_assoc]
    refine (reads_string hkey (by decide)).bind ?_
    refine (reads_string hvalue (by decide)).bind ?_
    rw [hset]
    exact ih (by rw [h, hlonger, List.append_assoc, List.singleton_append])

theorem reads_metadata (metadata : Metadata) :
    Reads readMetadata (writeMetadata metadata) metadata := by
  exact (reads_count metadata.within.count (by decide)).bind (reads_entries rfl)

theorem reads_phase {phase : CollectivePhase} (h : phase.label.length ≤ Limits.labelBytesMax) :
    Reads readPhase (writePhase phase) phase := by
  rw [writePhase]
  simp only [List.append_assoc]
  refine (reads_sequence _).bind ?_
  refine (reads_string h (by decide)).bind ?_
  refine (reads_boolean _).bind ?_
  exact (reads_u32 _).last

theorem reads_step (step : CollectiveStep) : Reads readStep (writeStep step) step := by
  rw [writeStep]
  simp only [List.append_assoc]
  refine (reads_sequence _).bind ?_
  refine (reads_sequence _).bind ?_
  refine (reads_enumeration (mem_algorithmHints _) (by decide)).bind ?_
  exact (reads_boolean _).last

/-- The definitions whose texts and counts are within the bounds of the format. -/
structure DefinitionFits (definition : CollectiveDefinition) : Prop where
  label : definition.label.length ≤ Limits.labelBytesMax
  participants : definition.participants.length ≤ Limits.participantsMaxPerCollective
  phases : definition.phases.length ≤ Limits.phasesMaxPerCollective
  phaseLabels : ∀ phase ∈ definition.phases, phase.label.length ≤ Limits.labelBytesMax
  steps : definition.steps.length ≤ Limits.phasesMaxPerCollective * Limits.stepsMaxPerPhase

theorem reads_definition {definition : CollectiveDefinition} (h : DefinitionFits definition) :
    Reads readDefinition (writeDefinition definition) definition := by
  rw [writeDefinition]
  simp only [List.append_assoc]
  refine (reads_identity _).bind ?_
  refine (reads_identity _).bind ?_
  refine (reads_enumeration (mem_collectiveClasses _) (by decide)).bind ?_
  refine (reads_enumeration (mem_algorithmHints _) (by decide)).bind ?_
  refine (reads_enumeration (mem_collectiveScopes _) (by decide)).bind ?_
  refine (reads_string h.label (by decide)).bind ?_
  refine (reads_identity _).bind ?_
  refine (reads_identity _).bind ?_
  refine (reads_counted h.participants (by decide)
    fun participant _ => reads_identity participant).bind ?_
  refine (reads_counted h.phases (by decide)
    fun phase hphase => reads_phase (h.phaseLabels phase hphase)).bind ?_
  refine (reads_counted h.steps (by decide) fun step _ => reads_step step).bind ?_
  refine (reads_metadata _).bind ?_
  refine (reads_boolean _).bind ?_
  refine (reads_u64 _).bind ?_
  exact (reads_sequence _).last

theorem reads_record {record : CollectiveRecord} (h : DefinitionFits record.definition) :
    Reads readRecord (writeRecord record) record := by
  rw [writeRecord]
  simp only [List.append_assoc]
  refine (reads_definition h).bind ?_
  refine (reads_enumeration (mem_collectiveStates _) (by decide)).bind ?_
  refine (reads_identity _).bind ?_
  refine (reads_u64 _).bind ?_
  refine (reads_sequence _).bind ?_
  refine (reads_sequence _).bind ?_
  refine (reads_sequence _).bind ?_
  refine (reads_u64 _).bind ?_
  refine (reads_u64 _).bind ?_
  exact (reads_u32 _).last

theorem reads_node (node : TopologyNode) : Reads readNode (writeNode node) node := by
  rw [writeNode]
  simp only [List.append_assoc]
  refine (reads_identity _).bind ?_
  refine (reads_identity _).bind ?_
  refine (reads_boolean _).bind ?_
  exact (reads_u32 _).last

theorem reads_link (link : TopologyLink) : Reads readLink (writeLink link) link := by
  rw [writeLink]
  simp only [List.append_assoc]
  refine (reads_identity _).bind ?_
  refine (reads_identity _).bind ?_
  refine (reads_identity _).bind ?_
  refine (reads_enumeration (mem_linkClasses _) (by decide)).bind ?_
  refine (reads_u64 _).bind ?_
  refine (reads_u32 _).bind ?_
  exact (reads_boolean _).last

theorem reads_topology {topology : TopologyEvidence}
    (hnodes : topology.nodes.length ≤ Limits.topologyNodesMax)
    (hlinks : topology.links.length ≤ Limits.topologyLinksMax) :
    Reads readTopology (writeTopology topology) topology := by
  rw [writeTopology]
  simp only [List.append_assoc]
  refine (reads_identity _).bind ?_
  refine (reads_u64 _).bind ?_
  refine (reads_boolean _).bind ?_
  refine (reads_counted hnodes (by decide) fun node _ => reads_node node).bind ?_
  exact (reads_counted hlinks (by decide) fun link _ => reads_link link).last

/-- The buckets of the response table, each as a pair. -/
def CongestionResponseTable.buckets (table : CongestionResponseTable) :
    Vector (UInt32 × UInt32) 5 :=
  Vector.ofFn fun index => (table.utilizationBps.get index, table.rateNumeratorPerMille.get index)

theorem CongestionResponseTable.map_fst_buckets (table : CongestionResponseTable) :
    table.buckets.map Prod.fst = table.utilizationBps := by
  ext index hindex
  simp only [buckets, Vector.getElem_map, Vector.getElem_ofFn]
  rfl

theorem CongestionResponseTable.map_snd_buckets (table : CongestionResponseTable) :
    table.buckets.map Prod.snd = table.rateNumeratorPerMille := by
  ext index hindex
  simp only [buckets, Vector.getElem_map, Vector.getElem_ofFn]
  rfl

theorem writeResponse_eq (table : CongestionResponseTable) :
    writeResponse table =
      table.buckets.toList.flatMap fun bucket => putU32 bucket.1 ++ putU32 bucket.2 := by
  rw [buckets, Vector.toList_ofFn, List.ofFn_eq_map, List.flatMap_map]
  rfl

theorem reads_response (table : CongestionResponseTable) :
    Reads readResponse (writeResponse table) table := by
  have hbucket : ∀ bucket ∈ table.buckets,
      Reads (do return (← u32, ← u32) : SnapReader (UInt32 × UInt32))
        (putU32 bucket.1 ++ putU32 bucket.2) bucket :=
    fun bucket _ => (reads_u32 bucket.1).bind (reads_u32 bucket.2).last
  have hread : Reads readResponse (writeResponse table)
      { utilizationBps := table.buckets.map Prod.fst
        rateNumeratorPerMille := table.buckets.map Prod.snd } := by
    rw [writeResponse_eq]
    exact (reads_vector table.buckets hbucket).last
  rwa [map_fst_buckets, map_snd_buckets] at hread

theorem reads_classPolicy (entry : TrafficClassPolicy) :
    Reads readClassPolicy (writeClassPolicy entry) entry := by
  rw [writeClassPolicy]
  simp only [List.append_assoc]
  refine (reads_enumeration (mem_trafficClasses _) (by decide)).bind ?_
  refine (reads_u64 _).bind ?_
  refine (reads_u64 _).bind ?_
  refine (reads_u64 _).bind ?_
  refine (reads_u64 _).bind ?_
  refine (reads_boolean _).bind ?_
  refine (reads_boolean _).bind ?_
  exact (reads_enumeration (mem_isolationModes _) (by decide)).last

theorem reads_collectivePolicy (entry : CollectiveClassPolicy) :
    Reads readCollectivePolicy (writeCollectivePolicy entry) entry := by
  rw [writeCollectivePolicy]
  simp only [List.append_assoc]
  refine (reads_enumeration (mem_collectiveClasses _) (by decide)).bind ?_
  refine (reads_enumeration (mem_trafficClasses _) (by decide)).bind ?_
  refine (reads_boolean _).bind ?_
  refine (reads_boolean _).bind ?_
  exact (reads_u64 _).last

theorem reads_policy {policy : TrafficPolicy} (hclasses : policy.classPolicies.length ≤ 16)
    (hcollectives : policy.collectivePolicies.length ≤ 16) :
    Reads readPolicy (writePolicy policy) policy := by
  rw [writePolicy]
  simp only [List.append_assoc]
  refine (reads_identity _).bind ?_
  refine (reads_u64 _).bind ?_
  refine (reads_u64 _).bind ?_
  refine (reads_response _).bind ?_
  refine (reads_counted hclasses (by decide) fun entry _ => reads_classPolicy entry).bind ?_
  exact (reads_counted hcollectives (by decide) fun entry _ => reads_collectivePolicy entry).last

end Fields

end TrafficFabric
