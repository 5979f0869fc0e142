import TrafficFabric.EvidenceUse

/-!
# Grants without a rate

The admitted rate is a share in thousandths of the limit of the class, raised to
its floor.  A class with a floor is never granted nothing.  Without one the
share decides, and it is rounded down: a limit of less than a thousand can be
answered with a rate of zero.  The engine grants such a request like any other,
since only an observed capacity below the floor is refused.
-/

namespace TrafficFabric

open Lib

section Rates

variable {snapshot : EvaluationSnapshot} {request : DecisionRequest}
variable {definition : CollectiveDefinition} {policy : TrafficPolicy}
variable {collectivePolicy : CollectiveClassPolicy} {classPolicy : TrafficClassPolicy}

/--
The class has a floor, or a thousandth of its limit, times the response to the
observed utilization, is at least one.
-/
def RateUsable
    (snapshot : EvaluationSnapshot) (policy : TrafficPolicy)
    (classPolicy : TrafficClassPolicy) (collectivePolicy : CollectiveClassPolicy) : Prop :=
  0 < classPolicy.minimumBandwidthBps ∨
    1000 ≤ (rateLimit classPolicy (observedCapacity snapshot).1).toNat *
      (responsePerMille policy.congestionResponse
        (observedCongestion snapshot collectivePolicy).1).toNat

/-- The rate computation of a class of a valid policy, exactly where it is not zero. -/
theorem computePacing_admitted_pos_iff (hvalid : policy.validate.isOk = true)
    (hclass : classPolicy ∈ policy.classPolicies) :
    0 < (computePacing snapshot policy classPolicy collectivePolicy).admittedBps ↔
      RateUsable snapshot policy classPolicy collectivePolicy := by
  have hexact := computePacing_exact hvalid hclass snapshot collectivePolicy
  have hproposed := hexact.proposed
  have hadmitted := hexact.admitted
  have hfloor := hexact.floor
  have hceiling := hexact.ceiling
  have hlimit := hexact.limit
  have hresponse := (responsePerMille_usable (policyValid_of_validate hvalid).response
    (observedCongestion snapshot collectivePolicy).1).2
  rw [computePacing_availableBps, computePacing_responsePerMille] at hproposed
  rw [computePacing_availableBps] at hlimit
  have hshare := mul_div_le_of_le (x := (rateLimit classPolicy (observedCapacity snapshot).1).toNat)
    hresponse
  unfold RateUsable
  rw [UInt64.lt_iff_toNat_lt, UInt64.lt_iff_toNat_lt, UInt64.toNat_zero]
  -- The share is at most the limit, and the limit at most the ceiling.
  have hbelow : (rateLimit classPolicy (observedCapacity snapshot).1).toNat ≤
      classPolicy.maximumBandwidthBps.toNat := by
    rw [hlimit]
    split
    · exact le_refl _
    · exact min_le_left _ _
  omega

/--
Under a policy that validates, a grant carries a rate exactly when its class has
a floor or the share of its limit reaches one.
-/
theorem granted_rate_positive_iff (hvalid : policy.validate.isOk = true)
    (hinstalled : snapshot.policy = some policy)
    (hgrants : outcomeGrantsAuthority (evaluate snapshot request definition).outcome = true)
    (hcollective : policy.findCollective definition.collectiveClass = some collectivePolicy)
    (hclass : policy.findClass (selectedClass request collectivePolicy) = some classPolicy) :
    0 < (evaluate snapshot request definition).pacing.admittedBandwidthBps ↔
      RateUsable snapshot policy classPolicy collectivePolicy := by
  obtain ⟨found, topology, entry, stated, group, hchecks, hrecord⟩ :=
    evaluate_eq_grantRecord hgrants
  obtain rfl : policy = found := Option.some.inj (hinstalled.symm.trans hchecks.policyInstalled)
  obtain rfl : collectivePolicy = entry :=
    Option.some.inj (hcollective.symm.trans hchecks.collective)
  obtain rfl : classPolicy = stated := Option.some.inj (hclass.symm.trans hchecks.trafficClass)
  rw [hrecord, grantRecord_admittedBandwidthBps]
  exact computePacing_admitted_pos_iff hvalid (findClass_eq_some hclass).1

end Rates

namespace TinyCapacity

/-- One link with one bit per second left. -/
def capacity : CapacityEvidence where
  generation := ⟨7, 0⟩
  topologyGeneration := ⟨6, 0⟩
  links := [{ link := ⟨71, 0⟩, provisionedBps := 100000000000, availableBps := 1 }]

/-- The link at sixty percent, where the standard response is four fifths of the limit. -/
def congestion : CongestionEvidence :=
  { TwoMembers.linkObservation with
    links := [{ link := ⟨81, 0⟩, utilizationBps := 6000, level := .low }] }

/-- The standard policy, the two observations and two live members. -/
def ops : List AuthorityOp :=
  [ .installPolicy (TrafficPolicy.standard ⟨5, 0⟩),
    .installTopology (DroppedCapacity.topology 6),
    .installCapacity capacity,
    .installCongestion congestion,
    .publishLiveness (DroppedCapacity.liveness 1),
    .publishLiveness (DroppedCapacity.liveness 2) ]

def state : AuthorityState :=
  run authorityStep {} ops

/-- A request for the given class. -/
def request (requested : TrafficClass) : DecisionRequest :=
  { DroppedCapacity.request {} with
    hasRequestedClass := true
    requestedClass := requested }

end TinyCapacity

open TinyCapacity in
/-- The standard policy admits background traffic at a rate of zero. -/
theorem background_admitted_without_rate :
    Reachable authorityStep {} state ∧
      state.policy.map (fun policy => policy.validate.isOk) = some true ∧
      (evaluate (state.snapshot 10) (request .background) DroppedCapacity.definition).outcome =
        .admitted ∧
      (evaluate (state.snapshot 10) (request .background)
        DroppedCapacity.definition).pacing.admittedBandwidthBps = 0 := by
  refine ⟨⟨ops, rfl⟩, ?_⟩
  decide +kernel

open TinyCapacity AgedCapacity in
/-- With gigabits left on the link the same request is admitted at a rate. -/
theorem background_admitted_at_rate :
    (evaluate ((AgedCapacity.state 10).snapshot 10) (request .background)
        DroppedCapacity.definition).outcome = .admitted ∧
      0 < (evaluate ((AgedCapacity.state 10).snapshot 10) (request .background)
        DroppedCapacity.definition).pacing.admittedBandwidthBps := by
  have hpolicy : ((AgedCapacity.state 10).snapshot 10).policy =
      some (TrafficPolicy.standard ⟨5, 0⟩) := by
    decide +kernel
  have houtcome : (evaluate ((AgedCapacity.state 10).snapshot 10) (request .background)
      DroppedCapacity.definition).outcome = .admitted := by
    decide +kernel
  have hcollective : (TrafficPolicy.standard ⟨5, 0⟩).findCollective
      DroppedCapacity.definition.collectiveClass =
        some (TrafficPolicy.standardCollective .allReduce .bulkData true true 2000) := by
    rfl
  have hclass : (TrafficPolicy.standard ⟨5, 0⟩).findClass
      (selectedClass (request .background)
        (TrafficPolicy.standardCollective .allReduce .bulkData true true 2000)) =
      some (TrafficPolicy.standardClass .background 1 0 10000000000 false false .shared) := by
    rfl
  have hgrants : outcomeGrantsAuthority (evaluate ((AgedCapacity.state 10).snapshot 10)
      (request .background) DroppedCapacity.definition).outcome = true := by
    rw [houtcome]
    rfl
  refine ⟨houtcome, (granted_rate_positive_iff (by decide) hpolicy hgrants hcollective
    hclass).mpr (.inr ?_)⟩
  decide +kernel

end TrafficFabric
