import TrafficFabric.EngineGrant

/-!
# A settled snapshot

Two live members on one node of an installed topology, at time zero, so that
every observation is fresh.  The policy and the dynamic observations are left
open: whether the request is granted depends on nothing but the treatment the
policy states and on the observed capacity.
-/

namespace TrafficFabric
namespace Settled

open Lib

variable (policy : TrafficPolicy) (topologyGeneration : TopologyGeneration)
variable (capacity : Option CapacityEvidence) (congestion : Option CongestionEvidence)

def members : List ParticipantId :=
  [⟨1, 0⟩, ⟨2, 0⟩]

def definition (collectiveClass : CollectiveClass) : CollectiveDefinition where
  id := ⟨31, 0⟩
  generation := ⟨32, 0⟩
  collectiveClass := collectiveClass
  participants := members

def attempt : CollectiveInstance where
  id := ⟨31, 0⟩
  generation := ⟨32, 0⟩
  attempt := ⟨33, 0⟩

/-- One edge between the members. -/
def plan : FlowGroupPlan where
  collectiveInstance := attempt
  edges := [{ source := ⟨1, 0⟩, destination := ⟨2, 0⟩, stepIndex := ⟨1⟩ }]

/-- A request that observed nothing, with or without a class of its own. -/
def request (requested : Option TrafficClass) : DecisionRequest where
  collectiveInstance := attempt
  hasFlowGroupPlan := true
  plan := plan
  hasRequestedClass := requested.isSome
  requestedClass := requested.getD .unclassified

def topology : TopologyEvidence where
  generation := topologyGeneration
  nodes := [{ id := ⟨21, 0⟩ }]

def member (participant : ParticipantId) : PeerLiveness where
  participant := participant
  incarnation := ⟨11, 0⟩
  state := .live
  expiresAtMonotonicMs := 1
  node := ⟨21, 0⟩

/-- A congestion observation without links. -/
def quiet : CongestionEvidence where
  generation := ⟨8, 0⟩
  topologyGeneration := topologyGeneration
  validForMs := 2000

def peers : List PeerLiveness :=
  members.map member

def snapshot : EvaluationSnapshot where
  policyGeneration := policy.generation
  topologyGeneration := topologyGeneration
  capacityGeneration := (capacity.map CapacityEvidence.generation).getD Identity.none
  congestionGeneration := (congestion.map CongestionEvidence.generation).getD Identity.none
  topology := some (topology topologyGeneration)
  capacity := capacity
  congestion := congestion
  policy := some policy
  peers := peers
  capacityObservationAvailable := capacity.isSome
  congestionObservationAvailable := congestion.isSome
  topologyAvailable := true
  policyAvailable := true

/-- At time zero nothing has an age. -/
theorem evidenceAge_zero (captured : UInt64) : evidenceAge 0 captured = 0 := by
  unfold evidenceAge
  split
  · rename_i hle
    have hzero : captured = 0 := UInt64.le_zero_iff.mp hle
    rw [hzero]
    rfl
  · rfl

/-- A request that observed no generation is not outdated. -/
theorem unobserved (current : Identity) : observedIsCurrent {} current := by
  intro hset
  exact absurd hset (by decide)

theorem plan_valid : (validateFlowGroupPlan plan members).isOk = true := by
  decide

theorem findPeer_member :
    ∀ p ∈ members,
      (snapshot policy topologyGeneration capacity congestion).findPeer p = some (member p) := by
  have hfound : ∀ p ∈ members, binaryFind peers p PeerLiveness.participant = some (member p) := by
    decide
  exact hfound

theorem findNode_member (p : ParticipantId) :
    (topology topologyGeneration).findNode (member p).node = some { id := ⟨21, 0⟩ } := by
  have hfound : binaryFind [{ id := ⟨21, 0⟩ }] ⟨21, 0⟩ TopologyNode.id =
      some { id := ⟨21, 0⟩ } := by
    decide
  exact hfound

variable {policy topologyGeneration capacity congestion}

/-- A congestion observation of the topology is in use. -/
theorem observedCongestion_eq {observation : CongestionEvidence}
    (hset : observation.generation ≠ Identity.none)
    (htopology : observation.topologyGeneration = topologyGeneration)
    (collectivePolicy : CollectiveClassPolicy) :
    observedCongestion (snapshot policy topologyGeneration capacity (some observation))
        collectivePolicy =
      ((worstUtilization observation.links).toUInt64, !observation.links.isEmpty) := by
  unfold observedCongestion snapshot
  simp only [evidenceAge_zero]
  refine if_pos ⟨?_, htopology, UInt64.zero_le⟩
  rw [Identity.isSome_eq_true_iff]
  exact hset

theorem observedCongestion_quiet (collectivePolicy : CollectiveClassPolicy) :
    (observedCongestion
      (snapshot policy topologyGeneration capacity (some (quiet topologyGeneration)))
      collectivePolicy).1 = 0 := by
  have hset : (quiet topologyGeneration).generation ≠ Identity.none := by
    show (⟨8, 0⟩ : Identity) ≠ Identity.none
    decide
  have htopology : (quiet topologyGeneration).topologyGeneration = topologyGeneration := by
    rfl
  rw [observedCongestion_eq hset htopology]
  rfl

/-- What is left to check of the request in a settled snapshot. -/
theorem grantChecks {collectiveClass : CollectiveClass} {requested : Option TrafficClass}
    {collectivePolicy : CollectiveClassPolicy} {classPolicy : TrafficClassPolicy}
    (hgeneration : policy.generation ≠ Identity.none)
    (htopology : topologyGeneration ≠ Identity.none)
    (hcollective : policy.findCollective collectiveClass = some collectivePolicy)
    (hknown : isKnownCollectiveClass collectiveClass = true)
    (hoverride : requested.isSome = true → collectivePolicy.allowMemberOverride = true)
    (hclassified : trafficClassIsClassified (requested.getD collectivePolicy.trafficClass) = true)
    (hclass : policy.findClass (requested.getD collectivePolicy.trafficClass) = some classPolicy)
    (hobserved : congestion.isSome = true)
    (hfloor : FloorHonored (snapshot policy topologyGeneration capacity congestion) policy
      classPolicy collectivePolicy) :
    GrantChecks (snapshot policy topologyGeneration capacity congestion) (request requested)
      (definition collectiveClass) policy (topology topologyGeneration) collectivePolicy
      classPolicy := by
  have hselected : selectedClass (request requested) collectivePolicy =
      requested.getD collectivePolicy.trafficClass := by
    cases requested <;> rfl
  exact
    { generation := rfl
      planned := rfl
      planValid := plan_valid
      epoch := unobserved _
      policyObserved := unobserved _
      policyInstalled := rfl
      policySet := by simpa [snapshot] using hgeneration
      capacityObserved := fun _ _ => unobserved _
      congestionObserved := fun _ _ => unobserved _
      topologyObserved := unobserved _
      topologyInstalled := rfl
      topologySet := by simpa [snapshot] using htopology
      live := by
        intro p hp
        unfold participantNotLive
        rw [findPeer_member _ _ _ _ p hp]
        rfl
      topologyCurrent := by
        simp [topologyStaleness, snapshot, topology, evidenceAge_zero]
      nodes := by
        intro p hp
        unfold participantNodeMissing
        rw [findPeer_member _ _ _ _ p hp]
        simp only [findNode_member]
        rfl
      collective := hcollective
      known := hknown
      overrideAllowed := hoverride
      requestedClassified := by
        intro hrequested
        cases requested with
        | none => cases hrequested
        | some value => exact hclassified
      classified := hselected ▸ hclassified
      trafficClass := hselected ▸ hclass
      congestionInstalled := fun _ => hobserved
      congestionFresh := by
        intro _
        unfold congestionIsFresh
        cases congestion with
        | none => rfl
        | some observation => simp [snapshot, evidenceAge_zero]
      floor := hfloor }

end Settled
end TrafficFabric
