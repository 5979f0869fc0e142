import TrafficFabric.CanonicalOrder
import TrafficFabric.Payloads
import TrafficFabric.SnapshotCodec

/-!
# Request payloads through the wire

Every reader of a payload finds what its writer wrote and refuses every proper
part of the front of it.  A payload is decoded as a whole, so nothing may follow
either: within the bounds of the readers, what an encoder writes is read back
and is the only way to read it.

A decoder that sorts gives a list back as it was written when the list is in
canonical order.  The plan of a request without one is not transmitted.
-/

namespace TrafficFabric

open Lib Reader

section Enumerations

theorem mem_flowPatterns (value : FlowPattern) : value ∈ flowPatterns := by
  cases value <;> decide

theorem mem_flowDirections (value : FlowDirection) : value ∈ flowDirections := by
  cases value <;> decide

theorem mem_participantStates (value : ParticipantState) : value ∈ participantStates := by
  cases value <;> decide

theorem mem_congestionLevels (value : CongestionLevel) : value ∈ congestionLevels := by
  cases value <;> decide

theorem mem_evidenceKinds (value : EvidenceKindTag) : value ∈ evidenceKinds := by
  cases value <;> decide

end Enumerations

namespace Reader

variable {α : Type}

/-- Fixed bytes: the only reader that counts what is left. -/
theorem delimits_take {bytes : Text} {count : Nat} (h : bytes.length = count) :
    Delimits (take count) bytes bytes := by
  refine ⟨?_, ?_⟩
  · intro rest
    have hlong : ¬ (bytes ++ rest).length < count := by
      rw [List.length_append]
      omega
    change (if (bytes ++ rest).length < count then _ else
      Except.ok ((bytes ++ rest).take count, (bytes ++ rest).drop count)) = .ok (bytes, rest)
    rw [if_neg hlong, List.take_left' h, List.drop_left' h]
  · intro part hpart hne
    have hshort : part.length < count := by
      have hle : part.length ≤ bytes.length := hpart.length_le
      have hlength : part.length ≠ bytes.length := fun hsame => hne (hpart.eq_of_length hsame)
      omega
    refine ⟨.error .decodeTruncated (text "payload ended before the field was complete"), ?_⟩
    change (if part.length < count then _ else Except.ok (part.take count, part.drop count)) = _
    rw [if_pos hshort]

theorem delimits_u8 (byte : UInt8) : Delimits u8 [byte] byte := by
  have htake : Delimits (take 1) [byte] [byte] := delimits_take rfl
  exact htake.last

theorem delimits_u32 (value : UInt32) : Delimits u32 (putU32 value) value := by
  have hword : readU32 (putU32 value) = value := by
    simpa using readU32_putU32 value []
  have htake : Delimits (take 4) (putU32 value) (putU32 value) :=
    delimits_take (length_putU32 value)
  have hread : Delimits u32 (putU32 value) (readU32 (putU32 value)) := htake.last
  rwa [hword] at hread

theorem delimits_u64 (value : UInt64) : Delimits u64 (putU64 value) value := by
  have hword : readU64 (putU64 value) = value := by
    simpa using readU64_putU64 value []
  have htake : Delimits (take 8) (putU64 value) (putU64 value) :=
    delimits_take (length_putU64 value)
  have hread : Delimits u64 (putU64 value) (readU64 (putU64 value)) := htake.last
  rwa [hword] at hread

theorem delimits_identity (value : Identity) : Delimits identity (putIdentity value) value := by
  exact (delimits_u64 value.hi).bind (delimits_u64 value.lo).last

theorem delimits_sequence (value : Sequence) : Delimits sequence (putU64 value.value) value := by
  exact (delimits_u64 value.value).last

theorem delimits_boolean (value : Bool) : Delimits boolean (Writer.boolean value) value := by
  rw [← List.append_nil (Writer.boolean value)]
  refine (delimits_u8 _).bind ?_
  cases value <;> exact delimits_pure _

/-- A text within its bound. -/
theorem delimits_string {value : Text} {maxBytes : Nat} (h : value.length ≤ maxBytes)
    (hmax : maxBytes < 2 ^ 32) : Delimits (string maxBytes) (writeString value) value := by
  have hlength : value.length.toUInt32.toNat = value.length := Nat.mod_eq_of_lt (by omega)
  refine (delimits_u32 _).bind ?_
  rw [if_neg (by omega)]
  exact delimits_take hlength.symm

/-- A value that the enumeration lists. -/
theorem delimits_enumeration [DecidableEq α] {values : List α} {value : α} (undefined : Status)
    (h : value ∈ values) (hsize : values.length ≤ 256) :
    Delimits (enumeration values undefined) (Writer.enumeration values value) value := by
  rw [← List.append_nil (Writer.enumeration values value)]
  refine (delimits_u8 _).bind ?_
  rw [getElem?_idxOf_toUInt8 h hsize]
  exact delimits_pure value

theorem delimits_count {number max : Nat} (h : number ≤ max) (hmax : max < 2 ^ 32) :
    Delimits (count max) (putU32 number.toUInt32) number := by
  have hnumber : number.toUInt32.toNat = number := Nat.mod_eq_of_lt (by omega)
  rw [← List.append_nil (putU32 _)]
  refine (delimits_u32 _).bind ?_
  rw [hnumber, if_neg (by omega)]
  exact delimits_pure number

/-- A bounded number of items, each of which is read back. -/
theorem delimits_counted {max : Nat} {item : Reader α} {write : α → Text} {items : List α}
    (h : items.length ≤ max) (hmax : max < 2 ^ 32)
    (hitem : ∀ a ∈ items, Delimits item (write a) a) :
    Delimits (counted max item) (Writer.counted write items) items := by
  exact (delimits_count h hmax).bind (delimits_many rfl (fun _ => rfl) hitem)

/-- A fixed number of items; the last one is read last. -/
theorem delimits_vector {item : Reader α} {write : α → Text} :
    ∀ {size : Nat} (items : Vector α size),
      (∀ a ∈ items, Delimits item (write a) a) →
      Delimits (vector item size) (items.toList.flatMap write) items
  | 0, items, _ => by
    obtain rfl : items = #v[] := Vector.eq_empty
    exact delimits_pure _
  | size + 1, items, hitem => by
    have hsplit : items = items.pop.push items.back := (Vector.push_pop_back items).symm
    have hbefore : Delimits (vector item size) (items.pop.toList.flatMap write) items.pop :=
      delimits_vector items.pop fun a ha => hitem a (by
        rw [hsplit]
        exact Vector.mem_push.mpr (.inl ha))
    have hlast : Delimits item (write items.back) items.back :=
      hitem _ (by
        rw [hsplit]
        exact Vector.mem_push.mpr (.inr (by simp)))
    rw [hsplit, Vector.toList_push, List.flatMap_append, List.flatMap_singleton]
    exact hbefore.bind hlast.last

end Reader

section Definition

/-- The entries that are read one after another go to the end of the metadata. -/
theorem delimits_entries {entries : List (Text × Text)} {before after : Metadata}
    (h : after.entries = before.entries ++ entries) :
    Delimits (decodeEntries entries.length before)
      (entries.flatMap fun entry => writeString entry.1 ++ writeString entry.2) after := by
  induction entries generalizing before with
  | nil =>
    obtain rfl : after = before := Metadata.ext (by simpa using h)
    exact delimits_pure _
  | cons _ _ ih =>
    obtain ⟨hkey, hvalue, longer, hset, hlonger⟩ := Metadata.set_next h
    rw [List.flatMap_cons, List.append_assoc]
    refine (delimits_string hkey (by decide)).bind ?_
    refine (delimits_string hvalue (by decide)).bind ?_
    rw [hset]
    exact ih (by rw [h, hlonger, List.append_assoc, List.singleton_append])

theorem delimits_metadata (metadata : Metadata) :
    Delimits decodeMetadata (encodeMetadata metadata) metadata := by
  exact (delimits_count metadata.within.count (by decide)).bind (delimits_entries rfl)

theorem delimits_phase {phase : CollectivePhase} (h : phase.label.length ≤ Limits.labelBytesMax) :
    Delimits decodePhase (encodePhase phase) phase := by
  rw [encodePhase]
  simp only [List.append_assoc]
  refine (delimits_sequence _).bind ?_
  refine (delimits_string h (by decide)).bind ?_
  refine (delimits_boolean _).bind ?_
  exact (delimits_u32 _).last

theorem delimits_step (step : CollectiveStep) : Delimits decodeStep (encodeStep step) step := by
  rw [encodeStep]
  simp only [List.append_assoc]
  refine (delimits_sequence _).bind ?_
  refine (delimits_sequence _).bind ?_
  refine (delimits_enumeration _ (mem_algorithmHints _) (by decide)).bind ?_
  exact (delimits_boolean _).last

theorem delimits_participants {participants : List ParticipantId}
    (h : participants.length ≤ Limits.participantsMaxPerCollective) (hsome : participants ≠ []) :
    Delimits decodeParticipants (Writer.counted putIdentity participants) participants := by
  refine (delimits_count h (by decide)).bind ?_
  rw [if_neg (by simpa using hsome)]
  exact delimits_many rfl (fun _ => rfl) fun participant _ => delimits_identity participant

theorem delimits_definition {definition : CollectiveDefinition} (h : DefinitionFits definition)
    (hsome : definition.participants ≠ []) :
    Delimits decodeDefinition (encodeDefinition definition) definition := by
  rw [encodeDefinition]
  simp only [List.append_assoc]
  refine (delimits_identity _).bind ?_
  refine (delimits_identity _).bind ?_
  refine (delimits_enumeration _ (mem_collectiveClasses _) (by decide)).bind ?_
  refine (delimits_enumeration _ (mem_algorithmHints _) (by decide)).bind ?_
  refine (delimits_enumeration _ (mem_collectiveScopes _) (by decide)).bind ?_
  refine (delimits_string h.label (by decide)).bind ?_
  refine (delimits_identity _).bind ?_
  refine (delimits_identity _).bind ?_
  refine (delimits_participants h.participants hsome).bind ?_
  refine (delimits_counted h.phases (by decide)
    fun phase hphase => delimits_phase (h.phaseLabels phase hphase)).bind ?_
  refine (delimits_counted h.steps (by decide) fun step _ => delimits_step step).bind ?_
  refine (delimits_metadata _).bind ?_
  refine (delimits_boolean _).bind ?_
  refine (delimits_u64 _).bind ?_
  exact (delimits_sequence _).last

end Definition

section Planning

theorem delimits_instance (value : CollectiveInstance) :
    Delimits decodeInstance (encodeInstance value) value := by
  rw [encodeInstance]
  simp only [List.append_assoc]
  refine (delimits_identity _).bind ?_
  refine (delimits_identity _).bind ?_
  refine (delimits_identity _).bind ?_
  exact (delimits_sequence _).last

theorem delimits_edge (edge : FlowEdge) : Delimits decodeEdge (encodeEdge edge) edge := by
  rw [encodeEdge]
  simp only [List.append_assoc]
  refine (delimits_identity _).bind ?_
  refine (delimits_identity _).bind ?_
  refine (delimits_u64 _).bind ?_
  refine (delimits_sequence _).bind ?_
  refine (delimits_enumeration _ (mem_algorithmHints _) (by decide)).bind ?_
  exact (delimits_boolean _).last

theorem delimits_flowGroupPlan {plan : FlowGroupPlan}
    (h : plan.edges.length ≤ Limits.edgesMaxPerFlowGroup) :
    Delimits decodeFlowGroupPlan (encodeFlowGroupPlan plan) plan := by
  rw [encodeFlowGroupPlan]
  simp only [List.append_assoc]
  refine (delimits_instance _).bind ?_
  refine (delimits_enumeration _ (mem_collectiveClasses _) (by decide)).bind ?_
  refine (delimits_enumeration _ (mem_flowPatterns _) (by decide)).bind ?_
  refine (delimits_enumeration _ (mem_flowDirections _) (by decide)).bind ?_
  refine (delimits_sequence _).bind ?_
  refine (delimits_boolean _).bind ?_
  exact (delimits_counted h (by decide) fun edge _ => delimits_edge edge).last

/-- The request as its reader sees it: a plan that is not announced is not there. -/
def DecisionRequest.transmitted (request : DecisionRequest) : DecisionRequest :=
  { request with plan := if request.hasFlowGroupPlan then request.plan else {} }

theorem delimits_planSection {request : DecisionRequest}
    (h : request.hasFlowGroupPlan = true →
      request.plan.edges.length ≤ Limits.edgesMaxPerFlowGroup) :
    Delimits (decodePlanSection request.hasFlowGroupPlan) (encodePlanSection request)
      request.transmitted.plan := by
  unfold decodePlanSection encodePlanSection DecisionRequest.transmitted
  cases hplan : request.hasFlowGroupPlan with
  | false => exact delimits_pure _
  | true => exact delimits_flowGroupPlan (h hplan)

theorem delimits_decisionRequest {request : DecisionRequest}
    (h : request.hasFlowGroupPlan = true →
      request.plan.edges.length ≤ Limits.edgesMaxPerFlowGroup) :
    Delimits decodeDecisionRequest (encodeDecisionRequest request) request.transmitted := by
  rw [encodeDecisionRequest]
  simp only [List.append_assoc]
  refine (delimits_identity _).bind ?_
  refine (delimits_instance _).bind ?_
  refine (delimits_identity _).bind ?_
  refine (delimits_identity _).bind ?_
  refine (delimits_identity _).bind ?_
  refine (delimits_identity _).bind ?_
  refine (delimits_identity _).bind ?_
  refine (delimits_boolean _).bind ?_
  refine (delimits_planSection h).bind ?_
  refine (delimits_boolean _).bind ?_
  refine (delimits_enumeration _ (mem_trafficClasses _) (by decide)).bind ?_
  exact (delimits_u64 _).last

end Planning

section Evidence

theorem delimits_linkCapacity (entry : LinkCapacity) :
    Delimits decodeLinkCapacity (encodeLinkCapacity entry) entry := by
  rw [encodeLinkCapacity]
  simp only [List.append_assoc]
  refine (delimits_identity _).bind ?_
  refine (delimits_u64 _).bind ?_
  refine (delimits_u64 _).bind ?_
  refine (delimits_u32 _).bind ?_
  refine (delimits_boolean _).bind ?_
  exact (delimits_u32 _).last

theorem delimits_capacity {evidence : CapacityEvidence}
    (h : evidence.links.length ≤ Limits.topologyLinksMax) :
    Delimits decodeCapacity (encodeCapacity evidence) evidence.canonicalize := by
  rw [encodeCapacity]
  simp only [List.append_assoc]
  refine (delimits_identity _).bind ?_
  refine (delimits_identity _).bind ?_
  refine (delimits_u64 _).bind ?_
  refine (delimits_boolean _).bind ?_
  exact (delimits_counted h (by decide) fun entry _ => delimits_linkCapacity entry).last

theorem delimits_linkCongestion (entry : LinkCongestion) :
    Delimits decodeLinkCongestion (encodeLinkCongestion entry) entry := by
  rw [encodeLinkCongestion]
  simp only [List.append_assoc]
  refine (delimits_identity _).bind ?_
  refine (delimits_u32 _).bind ?_
  refine (delimits_u32 _).bind ?_
  refine (delimits_u32 _).bind ?_
  refine (delimits_u32 _).bind ?_
  exact (delimits_enumeration _ (mem_congestionLevels _) (by decide)).last

theorem delimits_congestion {evidence : CongestionEvidence}
    (h : evidence.links.length ≤ Limits.topologyLinksMax) :
    Delimits decodeCongestion (encodeCongestion evidence) evidence.canonicalize := by
  rw [encodeCongestion]
  simp only [List.append_assoc]
  refine (delimits_identity _).bind ?_
  refine (delimits_identity _).bind ?_
  refine (delimits_u64 _).bind ?_
  refine (delimits_u64 _).bind ?_
  refine (delimits_boolean _).bind ?_
  exact (delimits_counted h (by decide) fun entry _ => delimits_linkCongestion entry).last

theorem delimits_node (node : TopologyNode) : Delimits decodeNode (writeNode node) node := by
  rw [writeNode]
  simp only [List.append_assoc]
  refine (delimits_identity _).bind ?_
  refine (delimits_identity _).bind ?_
  refine (delimits_boolean _).bind ?_
  exact (delimits_u32 _).last

theorem delimits_link (link : TopologyLink) : Delimits decodeLink (writeLink link) link := by
  rw [writeLink]
  simp only [List.append_assoc]
  refine (delimits_identity _).bind ?_
  refine (delimits_identity _).bind ?_
  refine (delimits_identity _).bind ?_
  refine (delimits_enumeration _ (mem_linkClasses _) (by decide)).bind ?_
  refine (delimits_u64 _).bind ?_
  refine (delimits_u32 _).bind ?_
  exact (delimits_boolean _).last

theorem delimits_topology {topology : TopologyEvidence}
    (hnodes : topology.nodes.length ≤ Limits.topologyNodesMax)
    (hlinks : topology.links.length ≤ Limits.topologyLinksMax) :
    Delimits Protocol.decodeTopology (encodeTopology topology) topology.canonicalize := by
  rw [encodeTopology, writeTopology]
  simp only [List.append_assoc]
  refine (delimits_identity _).bind ?_
  refine (delimits_u64 _).bind ?_
  refine (delimits_boolean _).bind ?_
  refine (delimits_counted hnodes (by decide) fun node _ => delimits_node node).bind ?_
  exact (delimits_counted hlinks (by decide) fun link _ => delimits_link link).last

theorem delimits_response (table : CongestionResponseTable) :
    Delimits decodeResponse (writeResponse table) table := by
  have hbucket : ∀ bucket ∈ table.buckets,
      Delimits (do return (← u32, ← u32) : Reader (UInt32 × UInt32))
        (putU32 bucket.1 ++ putU32 bucket.2) bucket :=
    fun bucket _ => (delimits_u32 bucket.1).bind (delimits_u32 bucket.2).last
  have hread : Delimits decodeResponse (writeResponse table)
      { utilizationBps := table.buckets.map Prod.fst
        rateNumeratorPerMille := table.buckets.map Prod.snd } := by
    rw [writeResponse_eq]
    exact (delimits_vector table.buckets hbucket).last
  rwa [CongestionResponseTable.map_fst_buckets, CongestionResponseTable.map_snd_buckets] at hread

theorem delimits_classPolicy (entry : TrafficClassPolicy) :
    Delimits decodeClassPolicy (writeClassPolicy entry) entry := by
  rw [writeClassPolicy]
  simp only [List.append_assoc]
  refine (delimits_enumeration _ (mem_trafficClasses _) (by decide)).bind ?_
  refine (delimits_u64 _).bind ?_
  refine (delimits_u64 _).bind ?_
  refine (delimits_u64 _).bind ?_
  refine (delimits_u64 _).bind ?_
  refine (delimits_boolean _).bind ?_
  refine (delimits_boolean _).bind ?_
  exact (delimits_enumeration _ (mem_isolationModes _) (by decide)).last

theorem delimits_collectivePolicy (entry : CollectiveClassPolicy) :
    Delimits decodeCollectivePolicy (writeCollectivePolicy entry) entry := by
  rw [writeCollectivePolicy]
  simp only [List.append_assoc]
  refine (delimits_enumeration _ (mem_collectiveClasses _) (by decide)).bind ?_
  refine (delimits_enumeration _ (mem_trafficClasses _) (by decide)).bind ?_
  refine (delimits_boolean _).bind ?_
  refine (delimits_boolean _).bind ?_
  exact (delimits_u64 _).last

theorem delimits_trafficPolicy {policy : TrafficPolicy}
    (hclasses : policy.classPolicies.length ≤ 16)
    (hcollectives : policy.collectivePolicies.length ≤ 16) :
    Delimits decodeTrafficPolicy (encodeTrafficPolicy policy) policy := by
  rw [encodeTrafficPolicy, writePolicy]
  simp only [List.append_assoc]
  refine (delimits_identity _).bind ?_
  refine (delimits_u64 _).bind ?_
  refine (delimits_u64 _).bind ?_
  refine (delimits_response _).bind ?_
  refine (delimits_counted hclasses (by decide) fun entry _ => delimits_classPolicy entry).bind ?_
  exact (delimits_counted hcollectives (by decide)
    fun entry _ => delimits_collectivePolicy entry).last

end Evidence

section CanonicalOrder

variable {participants : List ParticipantId}

theorem participantsAreCanonical_iff :
    participantsAreCanonical participants = true ↔ participants.Pairwise (· < ·) := by
  induction participants with
  | nil => simp [participantsAreCanonical]
  | cons first rest ih =>
    cases rest with
    | nil => simp [participantsAreCanonical]
    | cons =>
      rw [participantsAreCanonical, Bool.and_eq_true, decide_eq_true_iff, ih,
        ← List.isChain_iff_pairwise, ← List.isChain_iff_pairwise, List.isChain_cons_cons]

theorem canonicalizeParticipants_of_canonical (h : participantsAreCanonical participants = true) :
    canonicalizeParticipants participants = participants := by
  have hascending := participantsAreCanonical_iff.mp h
  have hsorted : participants.insertionSort (· ≤ ·) = participants :=
    (hascending.imp fun hlt => le_of_lt hlt).insertionSort_eq
  rw [canonicalizeParticipants, hsorted]
  exact List.destutter_of_isChain _ _ (hascending.imp fun hlt => ne_of_lt hlt).isChain

theorem sortById_of_ascending {α : Type} {id : α → Identity} {items : List α}
    (h : StrictlyAscending id items) : sortById id items = items := by
  exact (List.Pairwise.imp (fun hlt => le_of_lt hlt) h).insertionSort_eq

/-- Neighbours of a list in which no two items are related are not related. -/
theorem hasAdjacent_eq_false {α : Type} {related : α → α → Bool} {items : List α}
    (h : items.Pairwise fun a b => related a b = false) : hasAdjacent related items = false := by
  induction items with
  | nil => rfl
  | cons first rest ih =>
    cases rest with
    | nil => rfl
    | cons second rest =>
      obtain ⟨hfirst, hrest⟩ := List.pairwise_cons.mp h
      rw [hasAdjacent, hfirst second List.mem_cons_self, ih hrest, Bool.or_false]

def phaseRank (phase : CollectivePhase) : ℕ :=
  phase.phaseIndex.value.toNat

theorem phaseRanks :
    Ranks (fun a b : CollectivePhase => a.phaseIndex.value ≤ b.phaseIndex.value) phaseRank := by
  intro a b
  exact UInt64.le_iff_toNat_le

theorem samePhase_eq_false_iff (a b : CollectivePhase) :
    (a.phaseIndex == b.phaseIndex) = false ↔ phaseRank a ≠ phaseRank b := by
  rw [beq_eq_false_iff_ne]
  exact not_congr Sequence.toNat_value_injective.eq_iff.symm

def stepRank (step : CollectiveStep) : ℕ ×ₗ ℕ :=
  toLex (step.phaseIndex.value.toNat, step.stepIndex.value.toNat)

theorem stepLess_iff {a b : CollectiveStep} : stepLess a b = true ↔ stepRank a < stepRank b := by
  have hless : ∀ {s t : Sequence}, s < t ↔ s.value.toNat < t.value.toNat := UInt64.lt_iff_toNat_lt
  unfold stepLess stepRank
  rw [compareFirst_iff Sequence.toNat_value_injective hless, decide_eq_true_iff, hless,
    Prod.Lex.toLex_lt_toLex]

theorem stepRanks : Ranks (fun a b => stepLess b a = false) stepRank := by
  intro a b
  change stepLess b a = false ↔ stepRank a ≤ stepRank b
  rw [← Bool.not_eq_true, stepLess_iff, not_lt]

theorem sameStep_eq_false_iff (a b : CollectiveStep) :
    (a.phaseIndex == b.phaseIndex && a.stepIndex == b.stepIndex) = false ↔
      stepRank a ≠ stepRank b := by
  have hsame : stepRank a = stepRank b ↔
      a.phaseIndex = b.phaseIndex ∧ a.stepIndex = b.stepIndex := by
    rw [stepRank, stepRank, toLex_inj, Prod.mk.injEq]
    exact and_congr Sequence.toNat_value_injective.eq_iff Sequence.toNat_value_injective.eq_iff
  rw [← Bool.not_eq_true, Bool.and_eq_true, beq_iff_eq, beq_iff_eq, ne_eq, hsame]

/-- Participants, phases and steps strictly ascend. -/
structure DefinitionCanonical (definition : CollectiveDefinition) : Prop where
  participants : participantsAreCanonical definition.participants = true
  phases : definition.phases.Pairwise fun a b => a.phaseIndex < b.phaseIndex
  steps : definition.steps.Pairwise fun a b => stepLess a b = true

/-- A definition in canonical order comes out as it went in. -/
theorem canonicalizeDefinition_of_canonical {definition : CollectiveDefinition}
    (h : DefinitionCanonical definition) : canonicalizeDefinition definition = .ok definition := by
  have hphases : definition.phases.insertionSort
      (fun a b => a.phaseIndex.value ≤ b.phaseIndex.value) = definition.phases :=
    (h.phases.imp fun hlt => UInt64.le_of_lt hlt).insertionSort_eq
  have hsteps : definition.steps.insertionSort (fun a b => stepLess b a = false) =
      definition.steps :=
    (h.steps.imp fun hless => (stepRanks _ _).mpr (stepLess_iff.mp hless).le).insertionSort_eq
  simp only [canonicalizeDefinition, hphases, hsteps, require_eq_ok_iff]
  refine ⟨hasAdjacent_eq_false (h.phases.imp fun hlt => ?_),
    hasAdjacent_eq_false (h.steps.imp fun hless => ?_), ?_⟩
  · exact (samePhase_eq_false_iff _ _).mpr (ne_of_lt (UInt64.lt_iff_toNat_lt.mp hlt))
  · exact (sameStep_eq_false_iff _ _).mpr (ne_of_lt (stepLess_iff.mp hless))
  · rw [canonicalizeParticipants_of_canonical h.participants]

end CanonicalOrder

section Whole

variable {α γ : Type} {bytes : Text}

/--
The decoder takes the bytes to the value, and refuses every proper part of the
front of them and everything longer.
-/
structure DecodesExactly (decode : Text → Except Status α) (bytes : Text) (value : α) :
    Prop where
  decoded : decode bytes = .ok value
  shorter : ∀ part, part <+: bytes → part ≠ bytes → ∃ refusal, decode part = .error refusal
  longer : ∀ more, more ≠ [] → ∃ refusal, decode (bytes ++ more) = .error refusal

theorem decodesExactly_of_delimits {reader : Reader α} {value : α}
    (h : Delimits reader bytes value) : DecodesExactly (decodeOne reader) bytes value := by
  refine ⟨?_, ?_, ?_⟩
  · have hwhole : reader bytes = .ok (value, []) := by
      have hread := h.reads []
      rwa [List.append_nil] at hread
    rw [decodeOne, hwhole]
    rfl
  · intro part hpart hne
    obtain ⟨refusal, hrefusal⟩ := h.refuses part hpart hne
    have hpart' : reader part = .error refusal := hrefusal
    exact ⟨refusal, by rw [decodeOne, hpart']⟩
  · intro more hmore
    have hleft : reader (bytes ++ more) = .ok (value, more) := h.reads more
    refine ⟨.error .decodeTrailingBytes (text "payload carried trailing bytes"), ?_⟩
    rw [decodeOne, hleft]
    exact if_neg hmore

/-- A step after the decoder that accepts the value refuses nothing else. -/
theorem DecodesExactly.bind {decode : Text → Except Status α} {value : α}
    {next : α → Except Status γ} {result : γ} (h : DecodesExactly decode bytes value)
    (hnext : next value = .ok result) :
    DecodesExactly (fun payload => (decode payload).bind next) bytes result := by
  refine ⟨?_, ?_, ?_⟩
  · rw [h.decoded]
    exact hnext
  · intro part hpart hne
    obtain ⟨refusal, hrefusal⟩ := h.shorter part hpart hne
    exact ⟨refusal, by rw [hrefusal]; rfl⟩
  · intro more hmore
    obtain ⟨refusal, hrefusal⟩ := h.longer more hmore
    exact ⟨refusal, by rw [hrefusal]; rfl⟩

theorem DecodesExactly.map {decode : Text → Except Status α} {value : α} (build : α → γ)
    (h : DecodesExactly decode bytes value) :
    DecodesExactly (fun payload => (decode payload).map build) bytes (build value) := by
  refine ⟨?_, ?_, ?_⟩
  · rw [h.decoded]
    rfl
  · intro part hpart hne
    obtain ⟨refusal, hrefusal⟩ := h.shorter part hpart hne
    exact ⟨refusal, by rw [hrefusal]; rfl⟩
  · intro more hmore
    obtain ⟨refusal, hrefusal⟩ := h.longer more hmore
    exact ⟨refusal, by rw [hrefusal]; rfl⟩

end Whole

/-- The codecs of the request payloads. -/
inductive RequestCodec where
  | hello
  | heartbeat
  | registerCollective
  | beginAttempt
  | planFlowGroup
  | lifecycle
  | evidence
  | inspectRequest
  | explainRequest
  | installPolicy
deriving DecidableEq, Repr

/-- The payload of a request. -/
inductive RequestPayload where
  | hello (value : HelloPayload)
  | heartbeat (value : HeartbeatPayload)
  | registerCollective (definition : CollectiveDefinition)
  | beginAttempt (value : BeginAttemptPayload)
  | planFlowGroup (request : DecisionRequest)
  | lifecycle (value : LifecyclePayload)
  | evidence (value : EvidencePayload)
  | inspectRequest (value : InspectRequestPayload)
  | explainRequest (value : ExplainRequestPayload)
  | installPolicy (policy : TrafficPolicy)
deriving DecidableEq, Repr

def RequestCodec.decode : RequestCodec → Text → Except Status RequestPayload
  | .hello, payload => (decodeHello payload).map .hello
  | .heartbeat, payload => (decodeHeartbeat payload).map .heartbeat
  | .registerCollective, payload => (decodeRegisterCollective payload).map .registerCollective
  | .beginAttempt, payload => (decodeBeginAttempt payload).map .beginAttempt
  | .planFlowGroup, payload => (decodePlanFlowGroup payload).map .planFlowGroup
  | .lifecycle, payload => (decodeLifecycle payload).map .lifecycle
  | .evidence, payload => (decodeEvidence payload).map .evidence
  | .inspectRequest, payload => (decodeInspectRequest payload).map .inspectRequest
  | .explainRequest, payload => (decodeExplainRequest payload).map .explainRequest
  | .installPolicy, payload => (decodeInstallPolicy payload).map .installPolicy

namespace EvidencePayload

/-- Evidence of a kind, with its lists within the bounds and in canonical order. -/
def Canonical : EvidencePayload → Prop
  | .none => False
  | .capacity evidence =>
    evidence.links.length ≤ Limits.topologyLinksMax ∧
      StrictlyAscending LinkCapacity.link evidence.links
  | .congestion evidence =>
    evidence.links.length ≤ Limits.topologyLinksMax ∧
      StrictlyAscending LinkCongestion.link evidence.links
  | .topology evidence =>
    evidence.nodes.length ≤ Limits.topologyNodesMax ∧
      evidence.links.length ≤ Limits.topologyLinksMax ∧
      StrictlyAscending TopologyNode.id evidence.nodes ∧
      StrictlyAscending TopologyLink.id evidence.links
  | .policy stated => stated.classPolicies.length ≤ 16 ∧ stated.collectivePolicies.length ≤ 16

end EvidencePayload

namespace RequestPayload

def codec : RequestPayload → RequestCodec
  | .hello _ => .hello
  | .heartbeat _ => .heartbeat
  | .registerCollective _ => .registerCollective
  | .beginAttempt _ => .beginAttempt
  | .planFlowGroup _ => .planFlowGroup
  | .lifecycle _ => .lifecycle
  | .evidence _ => .evidence
  | .inspectRequest _ => .inspectRequest
  | .explainRequest _ => .explainRequest
  | .installPolicy _ => .installPolicy

def encode : RequestPayload → Except Status Text
  | .hello value => .ok (encodeHello value)
  | .heartbeat value => .ok (encodeHeartbeat value)
  | .registerCollective definition => .ok (encodeRegisterCollective definition)
  | .beginAttempt value => .ok (encodeBeginAttempt value)
  | .planFlowGroup request => .ok (encodePlanFlowGroup request)
  | .lifecycle value => .ok (encodeLifecycle value)
  | .evidence value => encodeEvidence value
  | .inspectRequest value => .ok (encodeInspectRequest value)
  | .explainRequest value => .ok (encodeExplainRequest value)
  | .installPolicy policy => .ok (encodeInstallPolicy policy)

/-- Texts and counts are within the bounds of the decoder, lists are in canonical order. -/
def Canonical : RequestPayload → Prop
  | .hello value =>
    value.clientLabel.length ≤ Limits.labelBytesMax ∧
      value.clientVersion.length ≤ Limits.labelBytesMax
  | .registerCollective definition =>
    DefinitionFits definition ∧ definition.participants ≠ [] ∧ DefinitionCanonical definition
  | .planFlowGroup request =>
    request.hasFlowGroupPlan = true → request.plan.edges.length ≤ Limits.edgesMaxPerFlowGroup
  | .lifecycle value => value.reason.length ≤ Limits.reasonDetailBytesMax
  | .evidence value => value.Canonical
  | .inspectRequest value => value.limit.toNat ≤ Limits.inspectionPageMax
  | .installPolicy policy =>
    policy.classPolicies.length ≤ 16 ∧ policy.collectivePolicies.length ≤ 16
  | _ => True

/-- The transmitted fields: all of them but a plan that the request does not announce. -/
def transmitted : RequestPayload → RequestPayload
  | .planFlowGroup request => .planFlowGroup request.transmitted
  | payload => payload

end RequestPayload

section Payloads

theorem decodeHello_exact {value : HelloPayload}
    (hlabel : value.clientLabel.length ≤ Limits.labelBytesMax)
    (hversion : value.clientVersion.length ≤ Limits.labelBytesMax) :
    DecodesExactly decodeHello (encodeHello value) value := by
  apply decodesExactly_of_delimits
  rw [encodeHello, List.append_assoc]
  refine (delimits_string hlabel (by decide)).bind ?_
  refine (delimits_string hversion (by decide)).bind ?_
  exact (delimits_u64 _).last

theorem decodeHeartbeat_exact (value : HeartbeatPayload) :
    DecodesExactly decodeHeartbeat (encodeHeartbeat value) value := by
  apply decodesExactly_of_delimits
  rw [encodeHeartbeat]
  simp only [List.append_assoc]
  refine (delimits_identity _).bind ?_
  refine (delimits_identity _).bind ?_
  refine (delimits_enumeration _ (mem_participantStates _) (by decide)).bind ?_
  refine (delimits_identity _).bind ?_
  exact (delimits_u64 _).last

theorem decodeRegisterCollective_exact {definition : CollectiveDefinition}
    (hfits : DefinitionFits definition) (hsome : definition.participants ≠ [])
    (hcanonical : DefinitionCanonical definition) :
    DecodesExactly decodeRegisterCollective (encodeRegisterCollective definition) definition := by
  exact (decodesExactly_of_delimits (delimits_definition hfits hsome)).bind
    (canonicalizeDefinition_of_canonical hcanonical)

theorem decodeBeginAttempt_exact (value : BeginAttemptPayload) :
    DecodesExactly decodeBeginAttempt (encodeBeginAttempt value) value := by
  apply decodesExactly_of_delimits
  rw [encodeBeginAttempt]
  simp only [List.append_assoc]
  refine (delimits_identity _).bind ?_
  refine (delimits_identity _).bind ?_
  refine (delimits_identity _).bind ?_
  exact (delimits_u64 _).last

theorem decodeLifecycle_exact {value : LifecyclePayload}
    (h : value.reason.length ≤ Limits.reasonDetailBytesMax) :
    DecodesExactly decodeLifecycle (encodeLifecycle value) value := by
  apply decodesExactly_of_delimits
  rw [encodeLifecycle]
  simp only [List.append_assoc]
  refine (delimits_identity _).bind ?_
  refine (delimits_identity _).bind ?_
  refine (delimits_identity _).bind ?_
  exact (delimits_string h (by decide)).last

theorem decodeInspectRequest_exact {value : InspectRequestPayload}
    (h : value.limit.toNat ≤ Limits.inspectionPageMax) :
    DecodesExactly decodeInspectRequest (encodeInspectRequest value) value := by
  apply decodesExactly_of_delimits
  rw [encodeInspectRequest, ← List.append_nil (putU32 value.limit)]
  simp only [List.append_assoc]
  refine (delimits_u8 _).bind ?_
  refine (delimits_identity _).bind ?_
  refine (delimits_u32 _).bind ?_
  refine (delimits_u32 _).bind ?_
  rw [if_neg (Nat.not_lt.mpr h)]
  exact delimits_pure _

theorem decodeExplainRequest_exact (value : ExplainRequestPayload) :
    DecodesExactly decodeExplainRequest (encodeExplainRequest value) value := by
  apply decodesExactly_of_delimits
  rw [encodeExplainRequest]
  simp only [List.append_assoc]
  refine (delimits_identity _).bind ?_
  refine (delimits_identity _).bind ?_
  refine (delimits_u64 _).bind ?_
  exact (delimits_boolean _).last

/-- The tag, and then the evidence that it names. -/
theorem decodeEvidence_of_delimits {kind : EvidenceKindTag} {bytes : Text} {value : EvidencePayload}
    (h : Delimits (decodeEvidenceOf kind) bytes value) :
    DecodesExactly decodeEvidence (Writer.enumeration evidenceKinds kind ++ bytes) value := by
  apply decodesExactly_of_delimits
  exact (delimits_enumeration _ (mem_evidenceKinds kind) (by decide)).bind h

theorem decodeEvidence_exact {value : EvidencePayload} (h : value.Canonical) :
    ∃ bytes, encodeEvidence value = .ok bytes ∧ DecodesExactly decodeEvidence bytes value := by
  cases value with
  | none => exact False.elim h
  | capacity evidence =>
    obtain ⟨hlinks, hascending⟩ := h
    have hsame : evidence.canonicalize = evidence := by
      rw [CapacityEvidence.canonicalize, sortById_of_ascending hascending]
    have hdelimits : Delimits (decodeEvidenceOf .capacity) (encodeCapacity evidence)
        (.capacity evidence.canonicalize) := (delimits_capacity hlinks).last
    rw [hsame] at hdelimits
    exact ⟨_, rfl, decodeEvidence_of_delimits hdelimits⟩
  | congestion evidence =>
    obtain ⟨hlinks, hascending⟩ := h
    have hsame : evidence.canonicalize = evidence := by
      rw [CongestionEvidence.canonicalize, sortById_of_ascending hascending]
    have hdelimits : Delimits (decodeEvidenceOf .congestion) (encodeCongestion evidence)
        (.congestion evidence.canonicalize) := (delimits_congestion hlinks).last
    rw [hsame] at hdelimits
    exact ⟨_, rfl, decodeEvidence_of_delimits hdelimits⟩
  | topology evidence =>
    obtain ⟨hnodes, hlinks, hnodesAscend, hlinksAscend⟩ := h
    have hsame : evidence.canonicalize = evidence := by
      rw [TopologyEvidence.canonicalize, sortById_of_ascending hnodesAscend,
        sortById_of_ascending hlinksAscend]
    have hdelimits : Delimits (decodeEvidenceOf .topology) (encodeTopology evidence)
        (.topology evidence.canonicalize) := (delimits_topology hnodes hlinks).last
    rw [hsame] at hdelimits
    exact ⟨_, rfl, decodeEvidence_of_delimits hdelimits⟩
  | policy policy =>
    obtain ⟨hclasses, hcollectives⟩ := h
    exact ⟨_, rfl, decodeEvidence_of_delimits (delimits_trafficPolicy hclasses hcollectives).last⟩

/--
A request payload within the bounds of its decoder and in canonical order is
decoded from its encoding with every transmitted field; no proper part of the
front of the encoding and nothing longer is decoded.
-/
theorem request_payload_round_trip (payload : RequestPayload) (h : payload.Canonical) :
    ∃ bytes, payload.encode = .ok bytes ∧
      DecodesExactly payload.codec.decode bytes payload.transmitted := by
  cases payload with
  | hello value => exact ⟨_, rfl, (decodeHello_exact h.1 h.2).map RequestPayload.hello⟩
  | heartbeat value => exact ⟨_, rfl, (decodeHeartbeat_exact value).map RequestPayload.heartbeat⟩
  | registerCollective definition =>
    obtain ⟨hfits, hsome, hcanonical⟩ := h
    exact ⟨_, rfl,
      (decodeRegisterCollective_exact hfits hsome hcanonical).map
        RequestPayload.registerCollective⟩
  | beginAttempt value =>
    exact ⟨_, rfl, (decodeBeginAttempt_exact value).map RequestPayload.beginAttempt⟩
  | planFlowGroup request =>
    exact ⟨_, rfl,
      (decodesExactly_of_delimits (delimits_decisionRequest h)).map RequestPayload.planFlowGroup⟩
  | lifecycle value => exact ⟨_, rfl, (decodeLifecycle_exact h).map RequestPayload.lifecycle⟩
  | evidence value =>
    obtain ⟨bytes, hencode, hexact⟩ := decodeEvidence_exact h
    exact ⟨bytes, hencode, hexact.map RequestPayload.evidence⟩
  | inspectRequest value =>
    exact ⟨_, rfl, (decodeInspectRequest_exact h).map RequestPayload.inspectRequest⟩
  | explainRequest value =>
    exact ⟨_, rfl, (decodeExplainRequest_exact value).map RequestPayload.explainRequest⟩
  | installPolicy policy =>
    exact ⟨_, rfl,
      (decodesExactly_of_delimits (delimits_trafficPolicy h.1 h.2)).map
        RequestPayload.installPolicy⟩

end Payloads

/-- Two members in two phases, the first of which has two steps. -/
def phasedDefinition : CollectiveDefinition where
  id := ⟨31, 0⟩
  generation := ⟨32, 0⟩
  collectiveClass := .allReduce
  label := [114, 49]
  participants := [⟨1, 0⟩, ⟨2, 0⟩]
  phases := [{ phaseIndex := ⟨1⟩, stepCount := 2 }, { phaseIndex := ⟨2⟩, label := [116] }]
  steps :=
    [ { phaseIndex := ⟨1⟩, stepIndex := ⟨1⟩, hint := .ring },
      { phaseIndex := ⟨1⟩, stepIndex := ⟨2⟩, synchronizationPoint := true } ]

theorem phasedDefinition_round_trip :
    ∃ bytes, RequestPayload.encode (.registerCollective phasedDefinition) = .ok bytes ∧
      DecodesExactly RequestCodec.registerCollective.decode bytes
        (.registerCollective phasedDefinition) := by
  have hcanonical : RequestPayload.Canonical (.registerCollective phasedDefinition) :=
    ⟨⟨by decide, by decide, by decide, by decide, by decide⟩, by decide,
      ⟨by decide, by decide, by decide⟩⟩
  exact request_payload_round_trip _ hcanonical

end TrafficFabric
