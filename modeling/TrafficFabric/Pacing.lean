import TrafficFabric.EngineGrant
import TrafficFabric.PolicyValid
import TrafficFabric.Lib.Scaling

/-!
# The rate of a class

The rate computation over a validated policy, read over the natural numbers.
The response is a share of at most the whole of the limit, so no step of it
wraps; the result is brought between the floor and the ceiling, and the burst
is a share of the rate again.
-/

namespace TrafficFabric

open Lib

/-- The rate the congestion response is applied to. -/
def rateLimit (classPolicy : TrafficClassPolicy) (available : UInt64) : UInt64 :=
  if available ≠ 0 then min classPolicy.maximumBandwidthBps available
  else classPolicy.maximumBandwidthBps

section Fields

variable (snapshot : EvaluationSnapshot) (policy : TrafficPolicy)
variable (classPolicy : TrafficClassPolicy) (collectivePolicy : CollectiveClassPolicy)

/-- What the computation states besides its code and its reason. -/
theorem computePacing_eq :
    ∃ code reason detail,
      computePacing snapshot policy classPolicy collectivePolicy =
        { availableBps := (observedCapacity snapshot).1
          proposedBps :=
            perMille (rateLimit classPolicy (observedCapacity snapshot).1)
              (responsePerMille policy.congestionResponse
                (observedCongestion snapshot collectivePolicy).1).toUInt64
          admittedBps :=
            admittedRate classPolicy
              (perMille (rateLimit classPolicy (observedCapacity snapshot).1)
                (responsePerMille policy.congestionResponse
                  (observedCongestion snapshot collectivePolicy).1).toUInt64)
          ceilingBps := classPolicy.maximumBandwidthBps
          burstBytes :=
            admittedBurst policy classPolicy
              (admittedRate classPolicy
                (perMille (rateLimit classPolicy (observedCapacity snapshot).1)
                  (responsePerMille policy.congestionResponse
                    (observedCongestion snapshot collectivePolicy).1).toUInt64))
          utilizationBps := (observedCongestion snapshot collectivePolicy).1
          responsePerMille :=
            responsePerMille policy.congestionResponse
              (observedCongestion snapshot collectivePolicy).1
          capacityUsed := (observedCapacity snapshot).2
          congestionUsed := (observedCongestion snapshot collectivePolicy).2
          code := code
          reasonCode := reason
          reasonDetail := detail } := by
  have hlimit : (if (observedCapacity snapshot).1 ≠ 0
      then min classPolicy.maximumBandwidthBps (observedCapacity snapshot).1
      else classPolicy.maximumBandwidthBps) =
      rateLimit classPolicy (observedCapacity snapshot).1 := by
    rfl
  unfold computePacing
  simp only [hlimit]
  split
  · exact ⟨_, _, _, rfl⟩
  · split <;> exact ⟨_, _, _, rfl⟩

@[simp] theorem computePacing_availableBps :
    (computePacing snapshot policy classPolicy collectivePolicy).availableBps =
      (observedCapacity snapshot).1 := by
  obtain ⟨_, _, _, heq⟩ := computePacing_eq snapshot policy classPolicy collectivePolicy
  rw [heq]

@[simp] theorem computePacing_capacityUsed :
    (computePacing snapshot policy classPolicy collectivePolicy).capacityUsed =
      (observedCapacity snapshot).2 := by
  obtain ⟨_, _, _, heq⟩ := computePacing_eq snapshot policy classPolicy collectivePolicy
  rw [heq]

@[simp] theorem computePacing_congestionUsed :
    (computePacing snapshot policy classPolicy collectivePolicy).congestionUsed =
      (observedCongestion snapshot collectivePolicy).2 := by
  obtain ⟨_, _, _, heq⟩ := computePacing_eq snapshot policy classPolicy collectivePolicy
  rw [heq]

@[simp] theorem computePacing_utilizationBps :
    (computePacing snapshot policy classPolicy collectivePolicy).utilizationBps =
      (observedCongestion snapshot collectivePolicy).1 := by
  obtain ⟨_, _, _, heq⟩ := computePacing_eq snapshot policy classPolicy collectivePolicy
  rw [heq]

@[simp] theorem computePacing_responsePerMille :
    (computePacing snapshot policy classPolicy collectivePolicy).responsePerMille =
      responsePerMille policy.congestionResponse
        (observedCongestion snapshot collectivePolicy).1 := by
  obtain ⟨_, _, _, heq⟩ := computePacing_eq snapshot policy classPolicy collectivePolicy
  rw [heq]

@[simp] theorem computePacing_proposedBps :
    (computePacing snapshot policy classPolicy collectivePolicy).proposedBps =
      perMille (rateLimit classPolicy (observedCapacity snapshot).1)
        (responsePerMille policy.congestionResponse
          (observedCongestion snapshot collectivePolicy).1).toUInt64 := by
  obtain ⟨_, _, _, heq⟩ := computePacing_eq snapshot policy classPolicy collectivePolicy
  rw [heq]

theorem computePacing_admittedBps :
    (computePacing snapshot policy classPolicy collectivePolicy).admittedBps =
      admittedRate classPolicy
        (computePacing snapshot policy classPolicy collectivePolicy).proposedBps := by
  obtain ⟨_, _, _, heq⟩ := computePacing_eq snapshot policy classPolicy collectivePolicy
  rw [heq]

theorem computePacing_burstBytes :
    (computePacing snapshot policy classPolicy collectivePolicy).burstBytes =
      admittedBurst policy classPolicy
        (computePacing snapshot policy classPolicy collectivePolicy).admittedBps := by
  obtain ⟨_, _, _, heq⟩ := computePacing_eq snapshot policy classPolicy collectivePolicy
  rw [heq]

end Fields

section Arithmetic

variable {table : CongestionResponseTable}

theorem toNat_rateLimit (classPolicy : TrafficClassPolicy) (available : UInt64) :
    (rateLimit classPolicy available).toNat =
      if available.toNat = 0 then classPolicy.maximumBandwidthBps.toNat
      else min classPolicy.maximumBandwidthBps.toNat available.toNat := by
  have hzero : available.toNat = 0 ↔ available = 0 := by
    rw [← UInt64.toNat_inj]
    rfl
  unfold rateLimit
  by_cases h : available = 0
  · rw [if_neg (not_not.mpr h), if_pos (hzero.mpr h)]
  · rw [if_pos h, if_neg (mt hzero.mp h), toNat_min]

/-- A share in thousandths is exact. -/
theorem perMille_exact {rate numerator : UInt64} (h : numerator ≤ 1000) :
    ExactShare rate numerator 1000 := by
  exact exactShare (by decide) h (by decide)

theorem toNat_perMille {rate numerator : UInt64} (h : numerator ≤ 1000) :
    (perMille rate numerator).toNat = rate.toNat * numerator.toNat / 1000 := by
  exact (perMille_exact h).value

/-- Every response of a valid table is a share, neither nothing nor more than the whole. -/
theorem responsePerMille_usable (h : ResponseValid table) (utilizationBps : UInt64) :
    0 < (responsePerMille table utilizationBps).toNat ∧
      (responsePerMille table utilizationBps).toNat ≤ 1000 := by
  obtain ⟨hpos, hle⟩ := h.numerator ⟨min (table.utilizationBps.toList.takeWhile
    (fun boundary => decide (boundary.toUInt64 ≤ utilizationBps))).length 4, by omega⟩
  exact ⟨UInt32.lt_iff_toNat_lt.mp hpos, UInt32.le_iff_toNat_le.mp hle⟩

theorem responsePerMille_le (h : ResponseValid table) (utilizationBps : UInt64) :
    (responsePerMille table utilizationBps).toUInt64 ≤ 1000 := by
  rw [UInt64.le_iff_toNat_le, UInt32.toNat_toUInt64]
  exact (responsePerMille_usable h utilizationBps).2

/-- The rate is the proposal, raised to the floor and cut at the ceiling. -/
theorem toNat_admittedRate (classPolicy : TrafficClassPolicy) (proposed : UInt64) :
    (admittedRate classPolicy proposed).toNat =
      min (max proposed.toNat classPolicy.minimumBandwidthBps.toNat)
        classPolicy.maximumBandwidthBps.toNat := by
  have hraised : (if proposed < classPolicy.minimumBandwidthBps
      then classPolicy.minimumBandwidthBps else proposed).toNat =
      max proposed.toNat classPolicy.minimumBandwidthBps.toNat := by
    split
    · rename_i h
      exact (Nat.max_eq_right (Nat.le_of_lt (UInt64.lt_iff_toNat_lt.mp h))).symm
    · rename_i h
      exact (Nat.max_eq_left (UInt64.le_iff_toNat_le.mp (UInt64.not_lt.mp h))).symm
  unfold admittedRate
  simp only
  by_cases hunlimited : classPolicy.maximumBandwidthBps = unlimitedRate
  · -- The unlimited rate is the largest word, so cutting at it changes nothing.
    have hmax : classPolicy.maximumBandwidthBps.toNat = 2 ^ 64 - 1 := by
      rw [hunlimited]
      decide
    rw [if_neg (not_not.mpr hunlimited), hraised, hmax]
    have hproposed := proposed.toNat_lt
    have hfloor := classPolicy.minimumBandwidthBps.toNat_lt
    omega
  · rw [if_pos hunlimited, toNat_min, hraised]

/-- The burst is a share of a limited rate, cut by a burst the class states. -/
theorem toNat_admittedBurst {policy : TrafficPolicy} {classPolicy : TrafficClassPolicy}
    {admitted : UInt64} (hmultiplier : policy.burstMultiplierPerMille ≤ 1000)
    (hlimited : admitted ≠ unlimitedRate) :
    (admittedBurst policy classPolicy admitted).toNat =
      if classPolicy.burstBytes = 0 then
        admitted.toNat * policy.burstMultiplierPerMille.toNat / 1000
      else
        min (admitted.toNat * policy.burstMultiplierPerMille.toNat / 1000)
          classPolicy.burstBytes.toNat := by
  unfold admittedBurst
  simp only
  rw [if_neg hlimited, ← toNat_perMille hmultiplier]
  by_cases hstated : classPolicy.burstBytes = 0
  · rw [if_neg (fun h => h.1 hstated), if_pos hstated]
  · rw [if_neg hstated]
    by_cases hbelow : classPolicy.burstBytes < perMille admitted policy.burstMultiplierPerMille
    · rw [if_pos ⟨hstated, hbelow⟩]
      exact (Nat.min_eq_right (Nat.le_of_lt (UInt64.lt_iff_toNat_lt.mp hbelow))).symm
    · rw [if_neg (fun h => hbelow h.2)]
      exact (Nat.min_eq_left (UInt64.le_iff_toNat_le.mp (UInt64.not_lt.mp hbelow))).symm

end Arithmetic

/--
The rate computation of a class, over the natural numbers: the proposal is the
share of the limit, the rate lies between floor and ceiling, and the burst is a
share of the rate.  `proposal` and `burst` say that no step of the two shares
wraps.
-/
structure PacingExact
    (policy : TrafficPolicy) (classPolicy : TrafficClassPolicy)
    (pacing : PacingComputation) : Prop where
  proposal :
    ExactShare (rateLimit classPolicy pacing.availableBps) pacing.responsePerMille.toUInt64 1000
  limit :
    (rateLimit classPolicy pacing.availableBps).toNat =
      if pacing.availableBps.toNat = 0 then classPolicy.maximumBandwidthBps.toNat
      else min classPolicy.maximumBandwidthBps.toNat pacing.availableBps.toNat
  proposed :
    pacing.proposedBps.toNat =
      (rateLimit classPolicy pacing.availableBps).toNat * pacing.responsePerMille.toNat / 1000
  floor : classPolicy.minimumBandwidthBps.toNat ≤ pacing.admittedBps.toNat
  ceiling : pacing.admittedBps.toNat ≤ classPolicy.maximumBandwidthBps.toNat
  admitted :
    pacing.admittedBps.toNat =
      min (max pacing.proposedBps.toNat classPolicy.minimumBandwidthBps.toNat)
        classPolicy.maximumBandwidthBps.toNat
  burst : ExactShare pacing.admittedBps policy.burstMultiplierPerMille 1000
  burstBytes :
    pacing.admittedBps ≠ unlimitedRate →
      pacing.burstBytes.toNat =
        if classPolicy.burstBytes = 0 then
          pacing.admittedBps.toNat * policy.burstMultiplierPerMille.toNat / 1000
        else
          min (pacing.admittedBps.toNat * policy.burstMultiplierPerMille.toNat / 1000)
            classPolicy.burstBytes.toNat

/-- Under a policy that validates, the rates of every class are the exact integer results. -/
theorem computePacing_exact {policy : TrafficPolicy} {classPolicy : TrafficClassPolicy}
    (hvalid : policy.validate.isOk = true) (hclass : classPolicy ∈ policy.classPolicies)
    (snapshot : EvaluationSnapshot) (collectivePolicy : CollectiveClassPolicy) :
    PacingExact policy classPolicy
      (computePacing snapshot policy classPolicy collectivePolicy) := by
  have hpolicy := policyValid_of_validate hvalid
  have hresponse := responsePerMille_le hpolicy.response
    (observedCongestion snapshot collectivePolicy).1
  have hfloor : classPolicy.minimumBandwidthBps.toNat ≤ classPolicy.maximumBandwidthBps.toNat :=
    UInt64.le_iff_toNat_le.mp (hpolicy.classes classPolicy hclass).floor
  have hadmitted := toNat_admittedRate classPolicy
    (computePacing snapshot policy classPolicy collectivePolicy).proposedBps
  rw [← computePacing_admittedBps] at hadmitted
  exact
    { proposal := by
        rw [computePacing_availableBps, computePacing_responsePerMille]
        exact perMille_exact hresponse
      limit := toNat_rateLimit _ _
      proposed := by
        rw [computePacing_proposedBps, computePacing_availableBps,
          computePacing_responsePerMille, toNat_perMille hresponse, UInt32.toNat_toUInt64]
      floor := by
        rw [hadmitted]
        exact le_min (le_max_right _ _) hfloor
      ceiling := by
        rw [hadmitted]
        exact min_le_right _ _
      admitted := hadmitted
      burst := perMille_exact hpolicy.burstMultiplier
      burstBytes := by
        intro hlimited
        rw [computePacing_burstBytes]
        exact toNat_admittedBurst hpolicy.burstMultiplier hlimited }

/-- A link with capacity left whose utilization calls for a slower rate. -/
def slowedLink : EvaluationSnapshot :=
  { capacityGeneration := ⟨21, 0⟩
    congestionGeneration := ⟨22, 0⟩
    capacity := some { links := [{ availableBps := 30000000007 }] }
    congestion := some { links := [{ utilizationBps := 8000 }], validForMs := 1000 } }

/-- The best-effort class of the standard policy over an observed link. -/
theorem computePacing_standard_bulk :
    let policy := TrafficPolicy.standard ⟨5, 0⟩
    let classPolicy :=
      TrafficPolicy.standardClass .bestEffortBulk 5 0 50000000000 false true .shared
    let pacing := computePacing slowedLink policy classPolicy {}
    PacingExact policy classPolicy pacing ∧ pacing.responsePerMille = 600 ∧
      pacing.admittedBps = 18000000004 ∧ pacing.burstBytes = 4500000001 := by
  intro policy classPolicy pacing
  have hvalid : policy.validate.isOk = true := by decide
  exact ⟨computePacing_exact hvalid (by decide) slowedLink {}, by decide⟩

end TrafficFabric
