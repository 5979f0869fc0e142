import TrafficFabric.EngineGrant
import TrafficFabric.AuthorityCoherence

/-!
# Stale observations

A request may name the generations it believes are current.  The engine
compares the epoch, the policy and the topology generation always, but the
capacity and the congestion generation only while an observation is installed.
A topology change drops both observations, so a request that still names one
of them passes a check it failed before.
-/

namespace TrafficFabric

open Lib

variable {s : AuthorityState}

/-- What is installed is valid and carries the generation recorded for it. -/
structure EvidenceCoherent (s : AuthorityState) : Prop where
  policy : ∀ policy, s.policy = some policy →
    policy.generation = s.policyGeneration ∧ policy.validate.isOk = true
  topology : ∀ topology, s.topology = some topology →
    topology.generation = s.topologyGeneration ∧ topology.validate.isOk = true
  capacity : s.capacity.isSome = s.capacityGeneration.isSome
  congestion : s.congestion.isSome = s.congestionGeneration.isSome

/-- The two descriptions and the presence of the two observations, in any coherent state. -/
theorem AuthorityCoherent.evidence (h : AuthorityCoherent s) : EvidenceCoherent s := by
  exact ⟨h.policy, h.topology, h.capacityPresent, h.congestionPresent⟩

theorem reachable_evidenceCoherent (h : Reachable authorityStep {} s) : EvidenceCoherent s := by
  exact (reachable_authorityCoherent h).evidence

/-- The request names, on some axis, a generation that is not the current one. -/
def StaleOnSomeAxis (snapshot : EvaluationSnapshot) (request : DecisionRequest) : Prop :=
  ¬ observedIsCurrent request.observedEpoch snapshot.epoch ∨
  ¬ observedIsCurrent request.observedPolicyGeneration snapshot.policyGeneration ∨
  ¬ observedIsCurrent request.observedTopologyGeneration snapshot.topologyGeneration ∨
  ¬ observedIsCurrent request.observedCapacityGeneration snapshot.capacityGeneration ∨
  ¬ observedIsCurrent request.observedCongestionGeneration snapshot.congestionGeneration

/-- The request names a capacity or congestion generation while none is installed. -/
def NamesDroppedEvidence (snapshot : EvaluationSnapshot) (request : DecisionRequest) : Prop :=
  (request.observedCapacityGeneration.isSome = true ∧ snapshot.capacity = none) ∨
  (request.observedCongestionGeneration.isSome = true ∧ snapshot.congestion = none)

/-- Naming a generation on an axis without one is naming a stale one. -/
theorem not_observedIsCurrent_of_unset {observed current : Identity} (hset : observed.isSome = true)
    (hunset : current.isSome = false) : ¬ observedIsCurrent observed current := by
  intro h
  rw [h hset, hunset] at hset
  cases hset

theorem NamesDroppedEvidence.stale {now : UInt64} {request : DecisionRequest}
    (hcoherent : EvidenceCoherent s) (h : NamesDroppedEvidence (s.snapshot now) request) :
    StaleOnSomeAxis (s.snapshot now) request := by
  rcases h with ⟨hset, hnone⟩ | ⟨hset, hnone⟩
  · refine .inr (.inr (.inr (.inl (not_observedIsCurrent_of_unset hset ?_))))
    have hcapacity : s.capacity = none := hnone
    exact hcoherent.capacity.symm.trans (by rw [hcapacity]; rfl)
  · refine .inr (.inr (.inr (.inr (not_observedIsCurrent_of_unset hset ?_))))
    have hcongestion : s.congestion = none := hnone
    exact hcoherent.congestion.symm.trans (by rw [hcongestion]; rfl)

/-- A stale request that passes every check names dropped evidence. -/
theorem GrantChecks.namesDropped_of_stale {now : UInt64} {request : DecisionRequest}
    {definition : CollectiveDefinition} {policy : TrafficPolicy} {topology : TopologyEvidence}
    {collectivePolicy : CollectiveClassPolicy} {classPolicy : TrafficClassPolicy}
    (hcoherent : EvidenceCoherent s)
    (h : GrantChecks (s.snapshot now) request definition policy topology collectivePolicy
      classPolicy) (hstale : StaleOnSomeAxis (s.snapshot now) request) :
    NamesDroppedEvidence (s.snapshot now) request := by
  rcases hstale with hepoch | hpolicy | htopology | hcapacity | hcongestion
  · exact absurd h.epoch hepoch
  · exact absurd h.policyObserved hpolicy
  · exact absurd h.topologyObserved htopology
  · refine .inl ⟨(Classical.not_imp.mp hcapacity).1, ?_⟩
    by_contra hsome
    have hsome' : s.capacity.isSome = true := Option.isSome_iff_ne_none.mpr hsome
    exact hcapacity (h.capacityObserved hsome' (hcoherent.capacity.symm.trans hsome'))
  · refine .inr ⟨(Classical.not_imp.mp hcongestion).1, ?_⟩
    by_contra hsome
    have hsome' : s.congestion.isSome = true := Option.isSome_iff_ne_none.mpr hsome
    exact hcongestion (h.congestionObserved hsome' (hcoherent.congestion.symm.trans hsome'))

/--
A stale observation is refused exactly when the request names no dropped
evidence or fails one of the other checks.
-/
theorem stale_observation_refused_iff {s : AuthorityState} (hs : Reachable authorityStep {} s)
    (now : UInt64) (request : DecisionRequest) (definition : CollectiveDefinition) :
    (StaleOnSomeAxis (s.snapshot now) request →
        outcomeGrantsAuthority (evaluate (s.snapshot now) request definition).outcome = false) ↔
      (NamesDroppedEvidence (s.snapshot now) request →
        ¬ ∃ policy topology collectivePolicy classPolicy,
          GrantChecks (s.snapshot now) request definition policy topology collectivePolicy
            classPolicy) := by
  have hcoherent := reachable_evidenceCoherent hs
  rw [← Bool.not_eq_true, evaluate_grants_iff]
  constructor
  · intro h hdropped
    exact h (hdropped.stale hcoherent)
  · rintro h hstale ⟨policy, topology, collectivePolicy, classPolicy, hchecks⟩
    exact h (hchecks.namesDropped_of_stale hcoherent hstale)
      ⟨policy, topology, collectivePolicy, classPolicy, hchecks⟩

namespace DroppedCapacity

/-- A topology of one node. -/
def topology (generation : UInt64) : TopologyEvidence where
  generation := ⟨generation, 0⟩
  nodes := [{ id := ⟨21, 0⟩ }]

/-- A participant that is live on the node until time 1000. -/
def liveness (participant : UInt64) : PeerLiveness where
  participant := ⟨participant, 0⟩
  incarnation := ⟨1, 0⟩
  state := .live
  expiresAtMonotonicMs := 1000
  node := ⟨21, 0⟩

/-- Capacity 7 is installed against topology 6 and dropped by topology 8. -/
def ops : List AuthorityOp :=
  [ .installPolicy (TrafficPolicy.standard ⟨5, 0⟩),
    .installTopology (topology 6),
    .installCapacity { generation := ⟨7, 0⟩, topologyGeneration := ⟨6, 0⟩ },
    .installTopology (topology 8),
    .installCongestion { generation := ⟨9, 0⟩, topologyGeneration := ⟨8, 0⟩, validForMs := 2000 },
    .publishLiveness (liveness 1),
    .publishLiveness (liveness 2) ]

def state : AuthorityState :=
  run authorityStep {} ops

def attempt : CollectiveInstance where
  id := ⟨31, 0⟩
  generation := ⟨32, 0⟩
  attempt := ⟨33, 0⟩

def definition : CollectiveDefinition where
  id := ⟨31, 0⟩
  generation := ⟨32, 0⟩
  collectiveClass := .allReduce
  participants := [⟨1, 0⟩, ⟨2, 0⟩]

/-- A request for one edge that names the given capacity generation. -/
def request (capacity : EvidenceGeneration) : DecisionRequest where
  collectiveInstance := attempt
  observedCapacityGeneration := capacity
  hasFlowGroupPlan := true
  plan :=
    { collectiveInstance := attempt
      edges := [{ source := ⟨1, 0⟩, destination := ⟨2, 0⟩, stepIndex := ⟨1⟩ }] }

end DroppedCapacity

open DroppedCapacity in
/-- A request that names the dropped capacity generation is admitted. -/
theorem dropped_capacity_admitted :
    Reachable authorityStep {} state ∧
      StaleOnSomeAxis (state.snapshot 10) (request ⟨7, 0⟩) ∧
      (evaluate (state.snapshot 10) (request ⟨7, 0⟩) definition).outcome = .admitted := by
  refine ⟨⟨ops, rfl⟩, ?_, by decide⟩
  exact .inr (.inr (.inr (.inl (by decide))))

open DroppedCapacity in
/-- With an observation installed the same request is refused. -/
theorem installed_capacity_refused :
    let s := run authorityStep state
      [.installCapacity { generation := ⟨11, 0⟩, topologyGeneration := ⟨8, 0⟩ }]
    StaleOnSomeAxis (s.snapshot 10) (request ⟨7, 0⟩) ∧
      outcomeGrantsAuthority
        (evaluate (s.snapshot 10) (request ⟨7, 0⟩) definition).outcome = false := by
  intro s
  have hstale : StaleOnSomeAxis (s.snapshot 10) (request ⟨7, 0⟩) :=
    .inr (.inr (.inr (.inl (by decide))))
  refine ⟨hstale, (stale_observation_refused_iff (s := s)
    (Reachable.run ⟨ops, rfl⟩ _) 10 (request ⟨7, 0⟩) definition).mpr ?_ hstale⟩
  rintro (⟨_, hnone⟩ | ⟨hset, _⟩)
  · exact absurd hnone (by decide)
  · exact absurd hset (by decide)

end TrafficFabric
