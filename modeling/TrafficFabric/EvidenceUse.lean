import TrafficFabric.GrantSoundness
import TrafficFabric.ObservedCapacity

/-!
# The evidence a grant uses and the evidence it binds

The rate computation uses an observation that is for the topology, within its
age bound and not empty.  What a grant binds are the generations of the
snapshot, whether the observations under them were used or not.

In a reachable state an installed observation is for the topology in force, so
only its age and its links are left to decide its use.  A class that requires
freshness has the age of its congestion checked beforehand, under a bound that
is never weaker; its links are checked nowhere.
-/

namespace TrafficFabric

open Lib

/-- The age a congestion observation may have; an entry that states none leaves the default. -/
def congestionAgeBoundMs
    (freshness : FreshnessPolicy) (collectivePolicy : CollectiveClassPolicy) : UInt64 :=
  if collectivePolicy.freshnessRequirementMs = 0 then freshness.congestionMaxAgeMs
  else collectivePolicy.freshnessRequirementMs

/-- A capacity observation with links, within the age bound. -/
def CapacityUsable
    (freshness : FreshnessPolicy) (now : UInt64) (capacity : CapacityEvidence) : Prop :=
  capacity.links ≠ [] ∧ evidenceAge now capacity.capturedMonotonicMs ≤ freshness.capacityMaxAgeMs

/-- A congestion observation with links, within its own window and the bound of the entry. -/
def CongestionUsable
    (freshness : FreshnessPolicy) (now : UInt64) (collectivePolicy : CollectiveClassPolicy)
    (congestion : CongestionEvidence) : Prop :=
  congestion.links ≠ [] ∧
    evidenceAge now congestion.capturedMonotonicMs ≤
      min congestion.validForMs (congestionAgeBoundMs freshness collectivePolicy)

instance
    (freshness : FreshnessPolicy) (now : UInt64) (capacity : CapacityEvidence) :
    Decidable (CapacityUsable freshness now capacity) :=
  inferInstanceAs (Decidable (_ ∧ _))

instance
    (freshness : FreshnessPolicy) (now : UInt64) (collectivePolicy : CollectiveClassPolicy)
    (congestion : CongestionEvidence) :
    Decidable (CongestionUsable freshness now collectivePolicy congestion) :=
  inferInstanceAs (Decidable (_ ∧ _))

section Use

variable {s : AuthorityState} {now : UInt64}

/-- In a coherent state a capacity observation is used exactly when it is usable. -/
theorem observedCapacity_used_iff (h : AuthorityCoherent s) :
    (observedCapacity (s.snapshot now)).2 = true ↔
      ∃ capacity, s.capacity = some capacity ∧ CapacityUsable s.freshness now capacity := by
  unfold observedCapacity
  have hsnapshot : (s.snapshot now).capacity = s.capacity := rfl
  rw [hsnapshot]
  cases hcapacity : s.capacity with
  | none => simp
  | some capacity =>
    obtain ⟨-, -, -, htopology⟩ := h.capacity capacity hcapacity
    have hset : (s.snapshot now).capacityGeneration.isSome = true := by
      have hpresent := h.capacityPresent
      rw [hcapacity] at hpresent
      exact hpresent.symm
    simp only [hset, htopology, CapacityUsable, Option.some.injEq, exists_eq_left']
    -- What is left of the guard is the age.
    show (if True ∧ s.topologyGeneration = s.topologyGeneration ∧
      evidenceAge now capacity.capturedMonotonicMs ≤ s.freshness.capacityMaxAgeMs then _
      else _ : UInt64 × Bool).2 = true ↔ _
    by_cases hage : evidenceAge now capacity.capturedMonotonicMs ≤ s.freshness.capacityMaxAgeMs
    · rw [if_pos ⟨trivial, rfl, hage⟩]
      simp [hage]
    · rw [if_neg fun h => hage h.2.2]
      simp [hage]

/-- The same for a congestion observation, under the entry of a collective. -/
theorem observedCongestion_used_iff (h : AuthorityCoherent s)
    (collectivePolicy : CollectiveClassPolicy) :
    (observedCongestion (s.snapshot now) collectivePolicy).2 = true ↔
      ∃ congestion, s.congestion = some congestion ∧
        CongestionUsable s.freshness now collectivePolicy congestion := by
  unfold observedCongestion
  have hsnapshot : (s.snapshot now).congestion = s.congestion := rfl
  rw [hsnapshot]
  cases hcongestion : s.congestion with
  | none => simp
  | some congestion =>
    obtain ⟨-, -, -, htopology⟩ := h.congestion congestion hcongestion
    have hset : (s.snapshot now).congestionGeneration.isSome = true := by
      have hpresent := h.congestionPresent
      rw [hcongestion] at hpresent
      exact hpresent.symm
    simp only [hset, htopology, CongestionUsable, Option.some.injEq, exists_eq_left']
    show (if True ∧ s.topologyGeneration = s.topologyGeneration ∧
      evidenceAge now congestion.capturedMonotonicMs ≤
        min congestion.validForMs (congestionAgeBoundMs s.freshness collectivePolicy) then _
      else _ : UInt64 × Bool).2 = true ↔ _
    by_cases hage : evidenceAge now congestion.capturedMonotonicMs ≤
        min congestion.validForMs (congestionAgeBoundMs s.freshness collectivePolicy)
    · rw [if_pos ⟨trivial, rfl, hage⟩]
      simp [hage]
    · rw [if_neg fun h => hage h.2.2]
      simp [hage]

/-- What passes the check of a class that requires freshness is within the age bound. -/
theorem age_le_of_fresh {freshness : FreshnessPolicy} {collectivePolicy : CollectiveClassPolicy}
    {congestion : CongestionEvidence}
    (h : evidenceAge now congestion.capturedMonotonicMs ≤
      min congestion.validForMs collectivePolicy.freshnessRequirementMs) :
    evidenceAge now congestion.capturedMonotonicMs ≤
      min congestion.validForMs (congestionAgeBoundMs freshness collectivePolicy) := by
  rw [UInt64.le_iff_toNat_le, toNat_min] at h ⊢
  unfold congestionAgeBoundMs
  split
  · -- An entry that states no bound admits only what has no age at all.
    rename_i hzero
    rw [hzero, UInt64.toNat_zero] at h
    omega
  · exact h

end Use

section Freshness

variable {service : CoordinatorService} {context : ServiceRequestContext}
variable {request : DecisionRequest} {decision : DecisionRecord}
variable {policy : TrafficPolicy} {classPolicy : TrafficClassPolicy}

/--
A grant of a class that requires freshness used the congestion observation
exactly when the one installed lists a link.
-/
theorem fresh_grant_uses_congestion_iff (hs : ServiceReachable service)
    (hplan : (service.planFlowGroup context request).2.1 = some decision)
    (hgrants : outcomeGrantsAuthority decision.outcome = true)
    (hpolicy : service.authority.policy = some policy)
    (hclass : policy.findClass decision.trafficClass = some classPolicy)
    (hrequires : classPolicy.requiresEvidenceFreshness = true) :
    decision.congestionEvidenceUsed = true ↔
      ∃ congestion, service.authority.congestion = some congestion ∧ congestion.links ≠ [] := by
  have hcoherent := reachable_authorityCoherent hs.authority
  obtain ⟨record, reasons, found, topology, collectivePolicy, stated, group, -, hchecks, hrecord,
    hbound, rfl⟩ := planFlowGroup_grantChecks hplan
      ((outcomeGrantsAuthority_eq_true_iff _).mp hgrants)
  obtain rfl : policy = found := Option.some.inj (hpolicy.symm.trans hchecks.policyInstalled)
  rw [hbound, hchecks.trafficClass] at hclass
  obtain rfl : stated = classPolicy := Option.some.inj hclass
  -- The flag of the decision is the one of the rate computation.
  have hused : ({ evaluatedDecision service context request record with
      reasons := reasons } : DecisionRecord).congestionEvidenceUsed =
      (observedCongestion (service.authority.snapshot context.nowMonotonicMs)
        collectivePolicy).2 := by
    simp only [evaluatedDecision, hrecord]
    exact computePacing_congestionUsed _ _ _ _
  rw [hused, observedCongestion_used_iff hcoherent]
  constructor
  · rintro ⟨congestion, hinstalled, hlinks, -⟩
    exact ⟨congestion, hinstalled, hlinks⟩
  · rintro ⟨congestion, hinstalled, hlinks⟩
    obtain ⟨installed, hsame, hage⟩ :=
      congestionFresh_of_checks (hchecks.congestionInstalled hrequires)
        (hchecks.congestionFresh hrequires)
    obtain rfl : congestion = installed := Option.some.inj (hinstalled.symm.trans hsame)
    exact ⟨congestion, hinstalled, hlinks, age_le_of_fresh hage⟩

end Freshness

namespace TwoMembers

/-- A second congestion observation, of one link. -/
def linkObservation : CongestionEvidence where
  generation := ⟨8, 0⟩
  topologyGeneration := ⟨6, 0⟩
  links := [{ link := ⟨81, 0⟩, utilizationBps := 1000, level := .none }]
  capturedMonotonicMs := 6
  validForMs := 2000

/-- The two members after the second observation. -/
def observedLink : CoordinatorService :=
  run serviceStep service [.ingestCongestion (context 6) linkObservation (minted 53 (by decide)) []]

end TwoMembers

open TwoMembers in
/-- With a link observed, the bulk class the members are admitted to has used it. -/
theorem observed_link_used :
    ∃ decision, (observedLink.planFlowGroup (context 10) request).2.1 = some decision ∧
      decision.outcome = .admitted ∧ decision.congestionEvidenceUsed = true := by
  have hplan : (observedLink.planFlowGroup (context 10) request).2.1.map
      (fun decision => (decision.outcome, decision.trafficClass)) =
        some (.admitted, .bulkData) := by
    decide +kernel
  obtain ⟨decision, hdecision, hsame⟩ := Option.map_eq_some_iff.mp hplan
  obtain ⟨houtcome, hclass⟩ := Prod.mk.inj hsame
  have hpolicy : observedLink.authority.policy = some (TrafficPolicy.standard ⟨5, 0⟩) := by
    decide +kernel
  have hstated : (TrafficPolicy.standard ⟨5, 0⟩).findClass decision.trafficClass =
      some (TrafficPolicy.standardClass .bulkData 8 1000000000 unlimitedRate false true
        .shared) := by
    rw [hclass]
    rfl
  have hinstalled : observedLink.authority.congestion = some linkObservation := by
    decide +kernel
  refine ⟨decision, hdecision, houtcome, ?_⟩
  exact (fresh_grant_uses_congestion_iff (service_reachable.run _) hdecision
    (by rw [houtcome]; rfl) hpolicy hstated rfl).mpr ⟨linkObservation, hinstalled, by decide⟩

open TwoMembers in
/--
An observation without links is installed like any other, and the bulk class,
which requires congestion evidence, is granted without having used any.
-/
theorem empty_observation_granted :
    ServiceReachable service ∧
      service.authority.policy = some (TrafficPolicy.standard ⟨5, 0⟩) ∧
      ((TrafficPolicy.standard ⟨5, 0⟩).findClass .bulkData).map
        TrafficClassPolicy.requiresEvidenceFreshness = some true ∧
      (service.planFlowGroup (context 10) request).2.1.map
          (fun decision =>
            (decision.outcome, decision.trafficClass, decision.congestionEvidenceUsed)) =
        some (.admitted, .bulkData, false) := by
  refine ⟨service_reachable, ?_, rfl, ?_⟩
  · decide +kernel
  · decide +kernel

/-- A generation is bound exactly when the observation under it was used. -/
structure DecisionRecord.BindsUsedEvidence (decision : DecisionRecord) : Prop where
  capacity : decision.capacityGeneration.isSome = true ↔ decision.capacityEvidenceUsed = true
  congestion : decision.congestionGeneration.isSome = true ↔ decision.congestionEvidenceUsed = true

/-- Whatever observation is installed would be used for a collective of the class. -/
structure EvidenceUsable
    (s : AuthorityState) (now : UInt64) (collectiveClass : CollectiveClass) : Prop where
  capacity : ∀ capacity, s.capacity = some capacity → CapacityUsable s.freshness now capacity
  congestion : ∀ congestion policy collectivePolicy,
    s.congestion = some congestion → s.policy = some policy →
      policy.findCollective collectiveClass = some collectivePolicy →
      CongestionUsable s.freshness now collectivePolicy congestion

section Binding

variable {s : AuthorityState} {now : UInt64} {request : DecisionRequest}
variable {definition : CollectiveDefinition}

/-- What is present and used under a condition agree when presence implies the condition. -/
theorem isSome_iff_used {α : Type} {observation : Option α} {Usable : α → Prop}
    {generation : Identity} {used : Bool} (hpresent : observation.isSome = generation.isSome)
    (hused : used = true ↔ ∃ found, observation = some found ∧ Usable found) :
    (generation.isSome = true ↔ used = true) ↔
      ∀ found, observation = some found → Usable found := by
  rw [← hpresent, hused]
  cases observation with
  | none => simp
  | some found => simp

/--
A grant of a reachable state binds exactly the evidence it used, exactly when
every installed observation lists a link and is within its age bound.
-/
theorem grant_binds_used_evidence_iff (hs : Reachable authorityStep {} s)
    (hgrants : outcomeGrantsAuthority (evaluate (s.snapshot now) request definition).outcome =
      true) :
    (evaluate (s.snapshot now) request definition).BindsUsedEvidence ↔
      EvidenceUsable s now definition.collectiveClass := by
  have hcoherent := reachable_authorityCoherent hs
  obtain ⟨policy, topology, collectivePolicy, classPolicy, group, hchecks, hrecord⟩ :=
    evaluate_eq_grantRecord hgrants
  have hcapacityUsed :
      (evaluate (s.snapshot now) request definition).capacityEvidenceUsed = true ↔
        ∃ capacity, s.capacity = some capacity ∧ CapacityUsable s.freshness now capacity := by
    rw [hrecord, ← observedCapacity_used_iff hcoherent,
      ← computePacing_capacityUsed _ policy classPolicy collectivePolicy]
    rfl
  have hcongestionUsed :
      (evaluate (s.snapshot now) request definition).congestionEvidenceUsed = true ↔
        ∃ congestion, s.congestion = some congestion ∧
          CongestionUsable s.freshness now collectivePolicy congestion := by
    rw [hrecord, ← observedCongestion_used_iff hcoherent,
      ← computePacing_congestionUsed _ policy classPolicy collectivePolicy]
    rfl
  have hcapacityBound : (evaluate (s.snapshot now) request definition).capacityGeneration =
      s.capacityGeneration := by
    rw [hrecord]
    rfl
  have hcongestionBound : (evaluate (s.snapshot now) request definition).congestionGeneration =
      s.congestionGeneration := by
    rw [hrecord]
    rfl
  have hcapacity := isSome_iff_used hcoherent.capacityPresent hcapacityUsed
  have hcongestion := isSome_iff_used hcoherent.congestionPresent hcongestionUsed
  rw [← hcapacityBound] at hcapacity
  rw [← hcongestionBound] at hcongestion
  constructor
  · rintro ⟨hfirst, hsecond⟩
    refine ⟨hcapacity.mp hfirst, ?_⟩
    intro congestion found entry hinstalled hpolicy hentry
    obtain rfl : policy = found := Option.some.inj (hchecks.policyInstalled.symm.trans hpolicy)
    obtain rfl : collectivePolicy = entry := Option.some.inj (hchecks.collective.symm.trans hentry)
    exact hcongestion.mp hsecond congestion hinstalled
  · rintro ⟨hfirst, hsecond⟩
    refine ⟨hcapacity.mpr hfirst, hcongestion.mpr ?_⟩
    intro congestion hinstalled
    exact hsecond congestion policy collectivePolicy hinstalled hchecks.policyInstalled
      hchecks.collective

end Binding

namespace AgedCapacity

/-- One link of capacity, observed at time zero. -/
def capacity : CapacityEvidence where
  generation := ⟨7, 0⟩
  topologyGeneration := ⟨6, 0⟩
  links := [{ link := ⟨71, 0⟩, provisionedBps := 100000000000, availableBps := 50000000000 }]

/-- One link of congestion, observed at the given time. -/
def congestion (captured : UInt64) : CongestionEvidence :=
  { TwoMembers.linkObservation with capturedMonotonicMs := captured }

/-- Everything is installed at time zero except a congestion observation taken later. -/
def ops (captured : UInt64) : List AuthorityOp :=
  [ .installPolicy (TrafficPolicy.standard ⟨5, 0⟩),
    .installTopology (DroppedCapacity.topology 6),
    .installCapacity capacity,
    .installCongestion (congestion captured),
    .publishLiveness { DroppedCapacity.liveness 1 with expiresAtMonotonicMs := 10000 },
    .publishLiveness { DroppedCapacity.liveness 2 with expiresAtMonotonicMs := 10000 } ]

def state (captured : UInt64) : AuthorityState :=
  run authorityStep {} (ops captured)

theorem state_reachable (captured : UInt64) : Reachable authorityStep {} (state captured) := by
  exact ⟨ops captured, rfl⟩

end AgedCapacity

open AgedCapacity in
/-- While the capacity is fresh, the grant binds it and has used it. -/
theorem fresh_capacity_bound :
    (evaluate ((state 10).snapshot 10) (DroppedCapacity.request {})
        DroppedCapacity.definition).outcome = .admitted ∧
      (evaluate ((state 10).snapshot 10) (DroppedCapacity.request {})
        DroppedCapacity.definition).BindsUsedEvidence := by
  have houtcome : (evaluate ((state 10).snapshot 10) (DroppedCapacity.request {})
      DroppedCapacity.definition).outcome = .admitted := by
    decide +kernel
  have hcapacity : (state 10).capacity = some capacity := by decide +kernel
  have hcongestion : (state 10).congestion = some (congestion 10) := by decide +kernel
  have hpolicy : (state 10).policy = some (TrafficPolicy.standard ⟨5, 0⟩) := by decide +kernel
  refine ⟨houtcome, (grant_binds_used_evidence_iff (state_reachable 10) ?_).mpr ⟨?_, ?_⟩⟩
  · rw [houtcome]
    rfl
  · intro installed hinstalled
    obtain rfl : capacity = installed := Option.some.inj (hcapacity.symm.trans hinstalled)
    decide +kernel
  · intro installed found entry hinstalled hfound hentry
    obtain rfl : congestion 10 = installed := Option.some.inj (hcongestion.symm.trans hinstalled)
    obtain rfl : TrafficPolicy.standard ⟨5, 0⟩ = found :=
      Option.some.inj (hpolicy.symm.trans hfound)
    obtain rfl : TrafficPolicy.standardCollective .allReduce .bulkData true true 2000 = entry :=
      Option.some.inj hentry
    decide +kernel

open AgedCapacity in
/-- Six seconds later the capacity is too old to be used, and the grant still binds it. -/
theorem aged_capacity_bound :
    Reachable authorityStep {} (state 5000) ∧
      (evaluate ((state 5000).snapshot 6000) (DroppedCapacity.request {})
        DroppedCapacity.definition).outcome = .admitted ∧
      (evaluate ((state 5000).snapshot 6000) (DroppedCapacity.request {})
        DroppedCapacity.definition).capacityGeneration = ⟨7, 0⟩ ∧
      (evaluate ((state 5000).snapshot 6000) (DroppedCapacity.request {})
        DroppedCapacity.definition).capacityEvidenceUsed = false := by
  refine ⟨state_reachable 5000, ?_⟩
  decide +kernel

end TrafficFabric
