import TrafficFabric.Traffic
import TrafficFabric.Lib.LowerBound

/-!
# Evidence and the evaluation snapshot

Topology, capacity and congestion observations, peer liveness, and the frozen
view of all of them the decision engine reads.  Observations are sorted by
identity before they are checked, and a check refuses repeated identities, so
that an observation that validates has strictly ascending keys and the binary
searches over it are exact.
-/

namespace TrafficFabric

open Lib

inductive LinkClass where
  | unspecified
  | intraNode
  | interNode
  | interRack
  | interPod
  | oversubscribed
deriving DecidableEq, Repr

structure TopologyNode where
  id : NodeId := {}
  rack : RackId := {}
  acceleratorAttached : Bool := false
  acceleratorCount : UInt32 := 0
deriving DecidableEq, Repr

structure TopologyLink where
  id : LinkId := {}
  a : SwitchId := {}
  b : SwitchId := {}
  linkClass : LinkClass := .unspecified
  capacityBps : UInt64 := 0
  lanes : UInt32 := 1
  sharedOversubscribed : Bool := false
deriving DecidableEq, Repr

structure TopologyEvidence where
  generation : TopologyGeneration := {}
  nodes : List TopologyNode := []
  links : List TopologyLink := []
  capturedMonotonicMs : UInt64 := 0
  synthetic : Bool := true
deriving DecidableEq, Repr

/-- The stored items in ascending order of their identity. -/
def sortById {α : Type} (id : α → Identity) (items : List α) : List α :=
  items.insertionSort (fun x y => id x ≤ id y)

/--
The pass over a list of observed entries: an unset identity, a key that does
not ascend, or a failed check of the entry itself ends it.
-/
def validateEntries {α : Type}
    (id : α → Identity) (unset disordered : Status) (check : α → Status) :
    Option α → List α → Status
  | _, [] => Status.ok
  | previous, entry :: rest =>
    if (id entry).isNone then
      unset
    else if previous.any (fun p => !decide (id p < id entry)) then
      disordered
    else
      let status := check entry
      if status.isOk = false then
        status
      else
        validateEntries id unset disordered check (some entry) rest

/-- Entries that pass have strictly ascending identities. -/
theorem validateEntries_ascending {α : Type} {id : α → Identity} {unset disordered : Status}
    {check : α → Status} (hunset : unset.isOk = false) (hdisordered : disordered.isOk = false) :
    ∀ {previous : Option α} {entries : List α},
      (validateEntries id unset disordered check previous entries).isOk = true →
      StrictlyAscending id entries ∧ ∀ p ∈ previous, ∀ entry ∈ entries, id p < id entry := by
  intro previous entries
  induction entries generalizing previous with
  | nil =>
    intro _
    exact ⟨List.Pairwise.nil, by simp⟩
  | cons entry rest ih =>
    intro h
    unfold validateEntries at h
    split at h
    · simp [hunset] at h
    · split at h
      · simp [hdisordered] at h
      · rename_i hordered
        simp only at h
        split at h
        · rename_i hcheck
          simp [hcheck] at h
        · obtain ⟨hrest, hbelow⟩ := ih h
          have hfirst : ∀ p ∈ previous, id p < id entry := by
            intro p hp
            cases hp
            simpa using hordered
          refine ⟨List.Pairwise.cons (hbelow entry rfl) hrest, ?_⟩
          intro p hp x hx
          rcases List.mem_cons.mp hx with rfl | hx
          · exact hfirst p hp
          · exact lt_trans (hfirst p hp) (hbelow entry rfl x hx)

namespace TopologyEvidence

variable {evidence : TopologyEvidence}

def canonicalize (evidence : TopologyEvidence) : TopologyEvidence :=
  { evidence with
    nodes := sortById TopologyNode.id evidence.nodes
    links := sortById TopologyLink.id evidence.links }

def findNode (evidence : TopologyEvidence) (id : NodeId) : Option TopologyNode :=
  binaryFind evidence.nodes id TopologyNode.id

def findLink (evidence : TopologyEvidence) (id : LinkId) : Option TopologyLink :=
  binaryFind evidence.links id TopologyLink.id

def validateNodes (nodes : List TopologyNode) : Status :=
  validateEntries TopologyNode.id
    (.error .validationNodeUnknown (text "topology contains an unset node identity"))
    (.error .decodeNonCanonical (text "topology nodes are not strictly ascending"))
    (fun _ => Status.ok)
    none nodes

def validateLinks (links : List TopologyLink) : Status :=
  validateEntries TopologyLink.id
    (.error .validationNodeUnknown (text "topology contains an unset link identity"))
    (.error .decodeNonCanonical (text "topology links are not strictly ascending"))
    (fun link =>
      if link.capacityBps = 0 then
        .error .validationCapacityNegative (text "topology link has no capacity")
      else if link.lanes = 0 then
        .error .validationCapacityNegative (text "topology link has zero lanes")
      else
        Status.ok)
    none links

def validate (evidence : TopologyEvidence) : Status :=
  if evidence.generation.isNone then
    .error .validationGenerationUnset (text "topology evidence has no generation")
  else if Limits.topologyNodesMax < evidence.nodes.length then
    .error .validationNodeUnknown (text "topology exceeds the node bound")
  else if Limits.topologyLinksMax < evidence.links.length then
    .error .validationNodeUnknown (text "topology exceeds the link bound")
  else
    let status := validateNodes evidence.nodes
    if status.isOk = false then status else validateLinks evidence.links

theorem generation_ne_none_of_validate (h : evidence.validate.isOk = true) :
    evidence.generation ≠ Identity.none := by
  intro hnone
  have hset : evidence.generation.isNone = true := by simp [hnone]
  simp [validate, hset] at h

/-- A topology that validates lists its nodes and its links in strictly ascending order. -/
theorem ascending_of_validate (h : evidence.validate.isOk = true) :
    StrictlyAscending TopologyNode.id evidence.nodes ∧
      StrictlyAscending TopologyLink.id evidence.links := by
  unfold validate at h
  obtain ⟨_, h⟩ := (Status.isOk_check_iff rfl).mp h
  obtain ⟨_, h⟩ := (Status.isOk_check_iff rfl).mp h
  obtain ⟨_, h⟩ := (Status.isOk_check_iff rfl).mp h
  obtain ⟨hnodes, hlinks⟩ := Status.isOk_checked_iff.mp h
  exact ⟨(validateEntries_ascending rfl rfl hnodes).1, (validateEntries_ascending rfl rfl hlinks).1⟩

end TopologyEvidence

structure LinkCapacity where
  link : LinkId := {}
  provisionedBps : UInt64 := 0
  availableBps : UInt64 := 0
  utilizationBps : UInt32 := 0
  oversubscribed : Bool := false
  oversubscriptionRatioPerMille : UInt32 := 1000
deriving DecidableEq, Repr

structure CapacityEvidence where
  generation : EvidenceGeneration := {}
  topologyGeneration : TopologyGeneration := {}
  links : List LinkCapacity := []
  capturedMonotonicMs : UInt64 := 0
  synthetic : Bool := true
deriving DecidableEq, Repr

namespace CapacityEvidence

variable {evidence : CapacityEvidence}

def canonicalize (evidence : CapacityEvidence) : CapacityEvidence :=
  { evidence with links := sortById LinkCapacity.link evidence.links }

def find (evidence : CapacityEvidence) (id : LinkId) : Option LinkCapacity :=
  binaryFind evidence.links id LinkCapacity.link

def validateLinks (links : List LinkCapacity) : Status :=
  validateEntries LinkCapacity.link
    (.error .validationNodeUnknown (text "capacity evidence contains an unset link identity"))
    (.error .decodeNonCanonical (text "capacity entries are not strictly ascending"))
    (fun entry =>
      if 10000 < entry.utilizationBps then
        .error .validationCapacityNegative (text "capacity utilization exceeds 100 percent")
      else if entry.provisionedBps = 0 then
        .error .validationCapacityNegative (text "capacity entry claims zero provisioned bandwidth")
      else if entry.provisionedBps < entry.availableBps then
        .error .validationCapacityNegative
          (text "capacity entry claims more available bandwidth than provisioned")
      else if entry.oversubscriptionRatioPerMille = 0 then
        .error .validationCapacityNegative
          (text "capacity entry claims an impossible oversubscription ratio")
      else
        Status.ok)
    none links

def validate (evidence : CapacityEvidence) : Status :=
  if evidence.generation.isNone then
    .error .validationGenerationUnset (text "capacity evidence has no generation")
  else if evidence.topologyGeneration.isNone then
    .error .validationGenerationUnset (text "capacity evidence has no topology generation")
  else if Limits.topologyLinksMax < evidence.links.length then
    .error .validationCapacityNegative (text "capacity evidence exceeds the link bound")
  else
    validateLinks evidence.links

theorem generation_ne_none_of_validate (h : evidence.validate.isOk = true) :
    evidence.generation ≠ Identity.none := by
  intro hnone
  have hset : evidence.generation.isNone = true := by simp [hnone]
  simp [validate, hset] at h

theorem topologyGeneration_ne_none_of_validate (h : evidence.validate.isOk = true) :
    evidence.topologyGeneration ≠ Identity.none := by
  unfold validate at h
  obtain ⟨_, h⟩ := (Status.isOk_check_iff rfl).mp h
  obtain ⟨hset, _⟩ := (Status.isOk_check_iff rfl).mp h
  simpa using hset

theorem links_ascending_of_validate (h : evidence.validate.isOk = true) :
    StrictlyAscending LinkCapacity.link evidence.links := by
  unfold validate at h
  obtain ⟨_, h⟩ := (Status.isOk_check_iff rfl).mp h
  obtain ⟨_, h⟩ := (Status.isOk_check_iff rfl).mp h
  obtain ⟨_, h⟩ := (Status.isOk_check_iff rfl).mp h
  exact (validateEntries_ascending rfl rfl h).1

end CapacityEvidence

inductive CongestionLevel where
  | unknown
  | none
  | low
  | moderate
  | high
  | severe
deriving DecidableEq, Repr

def congestionLevelFromUtilizationBps (utilizationBps : UInt32) : CongestionLevel :=
  if 9500 ≤ utilizationBps then .severe
  else if 8500 ≤ utilizationBps then .high
  else if 7500 ≤ utilizationBps then .moderate
  else if 6000 ≤ utilizationBps then .low
  else .none

structure LinkCongestion where
  link : LinkId := {}
  utilizationBps : UInt32 := 0
  queueDepthBytes : UInt32 := 0
  ecnMarksPerMille : UInt32 := 0
  pfcPausePerMille : UInt32 := 0
  level : CongestionLevel := .unknown
deriving DecidableEq, Repr

structure CongestionEvidence where
  generation : EvidenceGeneration := {}
  topologyGeneration : TopologyGeneration := {}
  links : List LinkCongestion := []
  capturedMonotonicMs : UInt64 := 0
  validForMs : UInt64 := 0
  synthetic : Bool := true
deriving DecidableEq, Repr

namespace CongestionEvidence

variable {evidence : CongestionEvidence}

def canonicalize (evidence : CongestionEvidence) : CongestionEvidence :=
  { evidence with links := sortById LinkCongestion.link evidence.links }

def find (evidence : CongestionEvidence) (id : LinkId) : Option LinkCongestion :=
  binaryFind evidence.links id LinkCongestion.link

def validateLinks (links : List LinkCongestion) : Status :=
  validateEntries LinkCongestion.link
    (.error .validationNodeUnknown (text "congestion evidence contains an unset link identity"))
    (.error .decodeNonCanonical (text "congestion entries are not strictly ascending"))
    (fun entry =>
      if 10000 < entry.utilizationBps then
        .error .validationCapacityNegative (text "congestion utilization exceeds 100 percent")
      else if 1000 < entry.ecnMarksPerMille ∨ 1000 < entry.pfcPausePerMille then
        .error .validationRateInvalid (text "congestion counters exceed their scale")
      else if entry.level = .unknown then
        .error .validationClassUnknownRejected
          (text "congestion entry does not state a level; unknown is not evidence")
      else if entry.level ≠ congestionLevelFromUtilizationBps entry.utilizationBps then
        .error .decodeNonCanonical (text "congestion entry level contradicts its own utilization")
      else
        Status.ok)
    none links

def validate (evidence : CongestionEvidence) : Status :=
  if evidence.generation.isNone then
    .error .validationGenerationUnset (text "congestion evidence has no generation")
  else if evidence.topologyGeneration.isNone then
    .error .validationGenerationUnset (text "congestion evidence has no topology generation")
  else if evidence.validForMs = 0 then
    .error .validationRateInvalid (text "congestion evidence states no validity window")
  else if 3600000 < evidence.validForMs then
    .error .validationRateInvalid (text "congestion evidence claims an implausible validity window")
  else if Limits.topologyLinksMax < evidence.links.length then
    .error .validationCapacityNegative (text "congestion evidence exceeds the link bound")
  else
    validateLinks evidence.links

theorem generation_ne_none_of_validate (h : evidence.validate.isOk = true) :
    evidence.generation ≠ Identity.none := by
  intro hnone
  have hset : evidence.generation.isNone = true := by simp [hnone]
  simp [validate, hset] at h

theorem links_ascending_of_validate (h : evidence.validate.isOk = true) :
    StrictlyAscending LinkCongestion.link evidence.links := by
  unfold validate at h
  obtain ⟨_, h⟩ := (Status.isOk_check_iff rfl).mp h
  obtain ⟨_, h⟩ := (Status.isOk_check_iff rfl).mp h
  obtain ⟨_, h⟩ := (Status.isOk_check_iff rfl).mp h
  obtain ⟨_, h⟩ := (Status.isOk_check_iff rfl).mp h
  obtain ⟨_, h⟩ := (Status.isOk_check_iff rfl).mp h
  exact (validateEntries_ascending rfl rfl h).1

end CongestionEvidence

/-- The only source of participant authority. -/
structure PeerLiveness where
  participant : ParticipantId := {}
  incarnation : BootIncarnation := {}
  state : ParticipantState := .unspecified
  lastSeenMonotonicMs : UInt64 := 0
  expiresAtMonotonicMs : UInt64 := 0
  node : NodeId := {}
  boundSession : SessionId := {}
deriving DecidableEq, Repr

/-- Live, and not yet at its expiry. -/
def PeerLiveness.isCurrent (liveness : PeerLiveness) (nowMonotonicMs : UInt64) : Bool :=
  liveness.state == .live && decide (nowMonotonicMs < liveness.expiresAtMonotonicMs)

structure FreshnessPolicy where
  topologyMaxAgeMs : UInt64 := 60000
  capacityMaxAgeMs : UInt64 := 5000
  congestionMaxAgeMs : UInt64 := 2000
  peerLivenessMaxAgeMs : UInt64 := 10000
  staleRequiresRevalidation : Bool := true
deriving DecidableEq, Repr

/-- Everything the decision engine may consult, frozen at one instant. -/
structure EvaluationSnapshot where
  epoch : CoordinatorEpoch := {}
  policyGeneration : PolicyGeneration := {}
  topologyGeneration : TopologyGeneration := {}
  capacityGeneration : EvidenceGeneration := {}
  congestionGeneration : EvidenceGeneration := {}
  topology : Option TopologyEvidence := none
  capacity : Option CapacityEvidence := none
  congestion : Option CongestionEvidence := none
  policy : Option TrafficPolicy := none
  peers : List PeerLiveness := []
  freshness : FreshnessPolicy := {}
  nowMonotonicMs : UInt64 := 0
  capacityObservationAvailable : Bool := false
  congestionObservationAvailable : Bool := false
  topologyAvailable : Bool := false
  policyAvailable : Bool := false
deriving DecidableEq, Repr

def EvaluationSnapshot.findPeer
    (snapshot : EvaluationSnapshot) (id : ParticipantId) : Option PeerLiveness :=
  binaryFind snapshot.peers id PeerLiveness.participant

end TrafficFabric
