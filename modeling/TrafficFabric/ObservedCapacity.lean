import TrafficFabric.Pacing
import TrafficFabric.Settled

/-!
# The observed capacity and the admitted rate

The bandwidth the links of an observation offer is added up in one 64 bit word,
and a sum of zero is read as no observation at all.  As long as the word is not
zero, a grant stays below the exact sum and a class whose floor the capacity
cannot honor is refused.  A saturated fabric, and a sum that wraps to zero, are
granted the ceiling or the floor of the class instead.
-/

namespace TrafficFabric

open Lib

/-- The bandwidth the observed links offer together. -/
def CapacityEvidence.totalAvailable (capacity : CapacityEvidence) : Nat :=
  (capacity.links.map fun entry => entry.availableBps.toNat).sum

/-- The observation is installed, has links, is for the topology and is fresh. -/
structure CapacityObserved (snapshot : EvaluationSnapshot) (capacity : CapacityEvidence) : Prop where
  installed : snapshot.capacity = some capacity
  generation : snapshot.capacityGeneration.isSome = true
  links : capacity.links ≠ []
  topology : capacity.topologyGeneration = snapshot.topologyGeneration
  fresh :
    evidenceAge snapshot.nowMonotonicMs capacity.capturedMonotonicMs ≤
      snapshot.freshness.capacityMaxAgeMs

/--
A grant stays within the capacity, and a class whose floor is above the share of
it is not granted.
-/
structure CapacityRespected
    (capacity : CapacityEvidence) (policy : TrafficPolicy) (snapshot : EvaluationSnapshot)
    (request : DecisionRequest) (definition : CollectiveDefinition) : Prop where
  rate :
    outcomeGrantsAuthority (evaluate snapshot request definition).outcome = true →
      (evaluate snapshot request definition).pacing.admittedBandwidthBps.toNat ≤
        capacity.totalAvailable
  floor :
    ∀ collectivePolicy classPolicy,
      policy.findCollective definition.collectiveClass = some collectivePolicy →
      policy.findClass (selectedClass request collectivePolicy) = some classPolicy →
      min classPolicy.maximumBandwidthBps.toNat capacity.totalAvailable *
            (responsePerMille policy.congestionResponse
              (observedCongestion snapshot collectivePolicy).1).toNat / 1000 <
          classPolicy.minimumBandwidthBps.toNat →
        outcomeGrantsAuthority (evaluate snapshot request definition).outcome = false

section Observed

variable {snapshot : EvaluationSnapshot} {capacity : CapacityEvidence}
variable {collectivePolicy : CollectiveClassPolicy} {classPolicy : TrafficClassPolicy}

/-- The engine reads the exact sum modulo the size of a word. -/
theorem toNat_observedCapacity (h : CapacityObserved snapshot capacity) :
    (observedCapacity snapshot).1.toNat = capacity.totalAvailable % 2 ^ 64 := by
  unfold observedCapacity
  rw [h.installed]
  simp only
  rw [if_pos ⟨h.generation, h.topology, h.fresh⟩]
  have hsum := toNat_foldl_add LinkCapacity.availableBps capacity.links 0
  rw [hsum, UInt64.toNat_zero, Nat.zero_add]
  rfl

/-- The rate a grant states is the one of the rate computation. -/
theorem grantRecord_admittedBandwidthBps (snapshot : EvaluationSnapshot) (request : DecisionRequest)
    (definition : CollectiveDefinition) (group : FlowGroup) (policy : TrafficPolicy)
    (collectivePolicy : CollectiveClassPolicy) (classPolicy : TrafficClassPolicy) :
    (grantRecord snapshot request definition group policy collectivePolicy
      classPolicy).pacing.admittedBandwidthBps =
      (computePacing snapshot policy classPolicy collectivePolicy).admittedBps := by
  rfl

/-- A floor that is honored is below the share of the observed capacity. -/
theorem floor_le_share {policy : TrafficPolicy}
    (hresponse : ResponseValid policy.congestionResponse)
    (hobserved : (observedCapacity snapshot).1 ≠ 0)
    (hfloor : FloorHonored snapshot policy classPolicy collectivePolicy) :
    classPolicy.minimumBandwidthBps.toNat ≤
      min classPolicy.maximumBandwidthBps.toNat (observedCapacity snapshot).1.toNat *
        (responsePerMille policy.congestionResponse
          (observedCongestion snapshot collectivePolicy).1).toNat / 1000 := by
  have hle := UInt64.le_iff_toNat_le.mp (hfloor hobserved)
  rwa [toNat_perMille (responsePerMille_le hresponse _), toNat_min, UInt32.toNat_toUInt64] at hle

/-- A grant under an observed capacity is at most its share, hence at most the capacity. -/
theorem admitted_le_observed {request : DecisionRequest} {definition : CollectiveDefinition}
    {policy : TrafficPolicy} {topology : TopologyEvidence} (hvalid : policy.validate.isOk = true)
    (hobserved : (observedCapacity snapshot).1 ≠ 0)
    (h : GrantChecks snapshot request definition policy topology collectivePolicy classPolicy) :
    (computePacing snapshot policy classPolicy collectivePolicy).admittedBps.toNat ≤
      (observedCapacity snapshot).1.toNat := by
  have hpolicy := policyValid_of_validate hvalid
  have hexact := computePacing_exact hvalid (findClass_eq_some h.trafficClass).1 snapshot
    collectivePolicy
  have hfloor := floor_le_share hpolicy.response hobserved h.floor
  have hnonzero : (observedCapacity snapshot).1.toNat ≠ 0 := by
    intro hzero
    exact hobserved (UInt64.toNat_inj.mp hzero)
  have hproposed := hexact.proposed
  rw [hexact.limit, computePacing_availableBps, computePacing_responsePerMille,
    if_neg hnonzero] at hproposed
  have hshare : min classPolicy.maximumBandwidthBps.toNat (observedCapacity snapshot).1.toNat *
      (responsePerMille policy.congestionResponse
        (observedCongestion snapshot collectivePolicy).1).toNat / 1000 ≤
      min classPolicy.maximumBandwidthBps.toNat (observedCapacity snapshot).1.toNat := by
    exact mul_div_le_of_le (responsePerMille_usable hpolicy.response _).2
  rw [hexact.admitted]
  omega

end Observed

/-- As long as the sum of the links is not zero as a word, the capacity is respected. -/
theorem capacityRespected_of_nonzero {capacity : CapacityEvidence} {policy : TrafficPolicy}
    {snapshot : EvaluationSnapshot} (hvalid : policy.validate.isOk = true)
    (hinstalled : snapshot.policy = some policy) (hcapacity : CapacityObserved snapshot capacity)
    (hnonzero : capacity.totalAvailable % 2 ^ 64 ≠ 0) (request : DecisionRequest)
    (definition : CollectiveDefinition) :
    CapacityRespected capacity policy snapshot request definition := by
  have htotal := toNat_observedCapacity hcapacity
  have hbelow : (observedCapacity snapshot).1.toNat ≤ capacity.totalAvailable := by
    rw [htotal]
    exact Nat.mod_le _ _
  have hobserved : (observedCapacity snapshot).1 ≠ 0 := by
    intro hzero
    rw [hzero] at htotal
    exact hnonzero htotal.symm
  refine ⟨?_, ?_⟩
  · intro hgrants
    obtain ⟨found, topology, collectivePolicy, classPolicy, group, hchecks, hrecord⟩ :=
      evaluate_eq_grantRecord hgrants
    obtain rfl : policy = found := Option.some.inj (hinstalled.symm.trans hchecks.policyInstalled)
    rw [hrecord, grantRecord_admittedBandwidthBps]
    exact le_trans (admitted_le_observed hvalid hobserved hchecks) hbelow
  · intro collectivePolicy classPolicy hcollective hclass habove
    rw [Bool.eq_false_iff]
    intro hgrants
    obtain ⟨found, topology, entry, stated, hchecks⟩ := evaluate_grants_iff.mp hgrants
    obtain rfl : policy = found := Option.some.inj (hinstalled.symm.trans hchecks.policyInstalled)
    obtain rfl : collectivePolicy = entry :=
      Option.some.inj (hcollective.symm.trans hchecks.collective)
    obtain rfl : classPolicy = stated := Option.some.inj (hclass.symm.trans hchecks.trafficClass)
    have hfloor := floor_le_share (policyValid_of_validate hvalid).response hobserved hchecks.floor
    have hmono : min classPolicy.maximumBandwidthBps.toNat (observedCapacity snapshot).1.toNat *
          (responsePerMille policy.congestionResponse
            (observedCongestion snapshot collectivePolicy).1).toNat / 1000 ≤
        min classPolicy.maximumBandwidthBps.toNat capacity.totalAvailable *
          (responsePerMille policy.congestionResponse
            (observedCongestion snapshot collectivePolicy).1).toNat / 1000 := by
      refine Nat.div_le_div_right (Nat.mul_le_mul_right _ ?_)
      omega
    omega

namespace HalfRate

variable {capacity : CapacityEvidence}

/-- A class whose floor is its ceiling, in a policy that answers with half of every rate. -/
def classPolicy : TrafficClassPolicy :=
  TrafficPolicy.standardClass .bulkData 8 1000 1000 false true .shared

def collectivePolicy : CollectiveClassPolicy :=
  TrafficPolicy.standardCollective .allReduce .bulkData true true 2000

def policy : TrafficPolicy where
  generation := ⟨5, 0⟩
  classPolicies := [TrafficPolicy.standardClass .unclassified 0 0 0 false true .shared, classPolicy]
  collectivePolicies :=
    [ TrafficPolicy.standardCollective .unknown .unclassified false false 0, collectivePolicy ]
  congestionResponse := { rateNumeratorPerMille := #v[500, 500, 500, 500, 500] }

theorem policy_valid : policy.validate.isOk = true := by
  decide

/-- The two members under the policy and a capacity observation. -/
def snapshot (capacity : CapacityEvidence) : EvaluationSnapshot :=
  Settled.snapshot policy capacity.topologyGeneration (some capacity)
    (some (Settled.quiet capacity.topologyGeneration))

/-- At time zero every observation of the topology is in use. -/
theorem capacityObserved (hvalid : capacity.validate.isOk = true) (hlinks : capacity.links ≠ []) :
    CapacityObserved (snapshot capacity) capacity where
  installed := rfl
  generation := by
    rw [Identity.isSome_eq_true_iff]
    exact CapacityEvidence.generation_ne_none_of_validate hvalid
  links := hlinks
  topology := rfl
  fresh := by
    show evidenceAge 0 capacity.capturedMonotonicMs ≤ 5000
    rw [Settled.evidenceAge_zero]
    decide

/-- Under a sum that is zero as a word, the floor is granted whatever the capacity is. -/
theorem grants_floor (hvalid : capacity.validate.isOk = true) (hlinks : capacity.links ≠ [])
    (hzero : capacity.totalAvailable % 2 ^ 64 = 0) :
    outcomeGrantsAuthority
      (evaluate (snapshot capacity) (Settled.request none)
        (Settled.definition .allReduce)).outcome = true := by
  have htotal := toNat_observedCapacity (capacityObserved hvalid hlinks)
  have hunobserved : (observedCapacity (snapshot capacity)).1 = 0 :=
    UInt64.toNat_inj.mp (htotal.trans hzero)
  have hchecks : GrantChecks (snapshot capacity) (Settled.request none)
      (Settled.definition .allReduce) policy (Settled.topology capacity.topologyGeneration)
      collectivePolicy classPolicy :=
    Settled.grantChecks (by decide) (CapacityEvidence.topologyGeneration_ne_none_of_validate hvalid)
      rfl rfl (fun _ => rfl) rfl rfl rfl (fun havailable => absurd hunobserved havailable)
  exact evaluate_grants_iff.mpr ⟨_, _, _, _, hchecks⟩

/-- Half of whatever the capacity is stays below the floor. -/
theorem floor_above (capacity : CapacityEvidence) :
    min classPolicy.maximumBandwidthBps.toNat capacity.totalAvailable *
        (responsePerMille policy.congestionResponse
          (observedCongestion (snapshot capacity) collectivePolicy).1).toNat / 1000 <
      classPolicy.minimumBandwidthBps.toNat := by
  have hquiet : (observedCongestion (snapshot capacity) collectivePolicy).1 = 0 :=
    Settled.observedCongestion_quiet collectivePolicy
  have hhalf : (responsePerMille policy.congestionResponse 0).toNat = 500 := by decide
  have hceiling : classPolicy.maximumBandwidthBps.toNat = 1000 := by decide
  have hfloor : classPolicy.minimumBandwidthBps.toNat = 1000 := by decide
  rw [hquiet, hhalf, hceiling, hfloor]
  omega

end HalfRate

/--
An observed capacity is respected under every policy that validates, in every
snapshot and for every request, exactly when the sum over its links is not a
multiple of the size of a word.
-/
theorem capacityRespected_iff {capacity : CapacityEvidence} (hvalid : capacity.validate.isOk = true)
    (hlinks : capacity.links ≠ []) :
    (∀ (policy : TrafficPolicy) (snapshot : EvaluationSnapshot) (request : DecisionRequest)
        (definition : CollectiveDefinition),
        policy.validate.isOk = true → snapshot.policy = some policy →
        CapacityObserved snapshot capacity →
        CapacityRespected capacity policy snapshot request definition) ↔
      capacity.totalAvailable % 2 ^ 64 ≠ 0 := by
  constructor
  · intro hrespected hzero
    have hgrants := HalfRate.grants_floor hvalid hlinks hzero
    have hcase := hrespected HalfRate.policy (HalfRate.snapshot capacity) (Settled.request none)
      (Settled.definition .allReduce) HalfRate.policy_valid rfl
      (HalfRate.capacityObserved hvalid hlinks)
    have hwithheld := hcase.floor HalfRate.collectivePolicy HalfRate.classPolicy rfl rfl
      (HalfRate.floor_above capacity)
    rw [hgrants] at hwithheld
    cases hwithheld
  · intro hnonzero policy snapshot request definition hpolicy hinstalled hobserved
    exact capacityRespected_of_nonzero hpolicy hinstalled hobserved hnonzero request definition

namespace Saturated

/-- One link that is provisioned and has nothing left. -/
def capacity : CapacityEvidence where
  generation := ⟨7, 0⟩
  topologyGeneration := ⟨6, 0⟩
  links := [{ link := ⟨71, 0⟩, provisionedBps := 100000000000, utilizationBps := 10000 }]

/-- Four links whose available bandwidths add up to the size of a word. -/
def wrapping : CapacityEvidence where
  generation := ⟨7, 0⟩
  topologyGeneration := ⟨6, 0⟩
  links :=
    [⟨71, 0⟩, ⟨72, 0⟩, ⟨73, 0⟩, ⟨74, 0⟩].map fun link =>
      { link := link, provisionedBps := (1 : UInt64) <<< 62, availableBps := (1 : UInt64) <<< 62 }

end Saturated

open Saturated in
/--
The standard policy grants a saturated fabric an unlimited rate, and four links
that wrap are granted a floor that half of any rate does not reach.
-/
theorem saturated_fabric_granted :
    (capacity.validate.isOk = true ∧ capacity.totalAvailable = 0 ∧
      (evaluate
        (Settled.snapshot (TrafficPolicy.standard ⟨5, 0⟩) ⟨6, 0⟩ (some capacity)
          (some (Settled.quiet ⟨6, 0⟩)))
        (Settled.request none) (Settled.definition .allReduce)).outcome = .admitted ∧
      (evaluate
        (Settled.snapshot (TrafficPolicy.standard ⟨5, 0⟩) ⟨6, 0⟩ (some capacity)
          (some (Settled.quiet ⟨6, 0⟩)))
        (Settled.request none) (Settled.definition .allReduce)).pacing.admittedBandwidthBps =
          unlimitedRate) ∧
    (wrapping.validate.isOk = true ∧ wrapping.totalAvailable = 2 ^ 64 ∧
      (evaluate (HalfRate.snapshot wrapping) (Settled.request none)
        (Settled.definition .allReduce)).outcome = .admitted ∧
      min HalfRate.classPolicy.maximumBandwidthBps.toNat wrapping.totalAvailable * 500 / 1000 <
        HalfRate.classPolicy.minimumBandwidthBps.toNat) := by
  decide

namespace Saturated

/-- One link with bandwidth left. -/
def partlyUsed : CapacityEvidence where
  generation := ⟨7, 0⟩
  topologyGeneration := ⟨6, 0⟩
  links := [{ link := ⟨71, 0⟩, provisionedBps := 100000000000, availableBps := 1000000000 }]

end Saturated

open Saturated in
/-- A link with bandwidth left is respected by every policy. -/
theorem partlyUsed_respected :
    partlyUsed.validate.isOk = true ∧ partlyUsed.links ≠ [] ∧
      ∀ (policy : TrafficPolicy) (snapshot : EvaluationSnapshot) (request : DecisionRequest)
        (definition : CollectiveDefinition),
        policy.validate.isOk = true → snapshot.policy = some policy →
        CapacityObserved snapshot partlyUsed →
        CapacityRespected partlyUsed policy snapshot request definition := by
  have hvalid : partlyUsed.validate.isOk = true := by decide
  have hlinks : partlyUsed.links ≠ [] := by decide
  exact ⟨hvalid, hlinks, (capacityRespected_iff hvalid hlinks).mpr (by decide)⟩

end TrafficFabric
