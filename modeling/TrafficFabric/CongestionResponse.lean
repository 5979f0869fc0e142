import TrafficFabric.EvaluationOrder
import TrafficFabric.Pacing
import Mathlib.Data.List.TakeWhile
import Mathlib.Order.Fin.Basic

/-!
# Congestion and the admitted rate

The worst utilization of the observed links selects an entry of the response
table, and its numerator is the share of the limit a class may use.  The
entries are selected in order, so a higher utilization never selects an earlier
one.  Whether the share falls with it is up to the numerators: the validator
requires ascending boundaries and says nothing about the numerators.
-/

namespace TrafficFabric

open Lib CongestionResponseTable

/-- The numerators never rise along the table. -/
def CongestionResponseTable.NonIncreasing (table : CongestionResponseTable) : Prop :=
  ∀ i j : Fin 5, i ≤ j → table.rateNumeratorPerMille.get j ≤ table.rateNumeratorPerMille.get i

section Selection

variable {table : CongestionResponseTable}

/-- The number of boundaries at or below the utilization. -/
def bucketOf (table : CongestionResponseTable) (utilizationBps : UInt64) : Nat :=
  (table.utilizationBps.toList.takeWhile
    (fun boundary => decide (boundary.toUInt64 ≤ utilizationBps))).length

/-- The entry that is read: the bucket, which the last entry bounds. -/
def responseIndex (table : CongestionResponseTable) (utilizationBps : UInt64) : Fin 5 :=
  ⟨min (bucketOf table utilizationBps) 4, by omega⟩

theorem responsePerMille_eq (table : CongestionResponseTable) (utilizationBps : UInt64) :
    responsePerMille table utilizationBps =
      table.rateNumeratorPerMille.get (responseIndex table utilizationBps) := by
  rfl

theorem bucketOf_mono (table : CongestionResponseTable) {u v : UInt64} (h : u ≤ v) :
    bucketOf table u ≤ bucketOf table v := by
  have hboth : table.utilizationBps.toList.takeWhile
        (fun boundary => decide (boundary.toUInt64 ≤ u)) =
      (table.utilizationBps.toList.takeWhile
        (fun boundary => decide (boundary.toUInt64 ≤ v))).takeWhile
          (fun boundary => decide (boundary.toUInt64 ≤ u)) := by
    rw [List.takeWhile_takeWhile]
    congr 1
    funext boundary
    by_cases hbelow : boundary.toUInt64 ≤ u
    · simp [hbelow, UInt64.le_trans hbelow h]
    · simp [hbelow]
  unfold bucketOf
  rw [hboth]
  exact (List.takeWhile_prefix _).length_le

/-- More utilization never selects a larger share from a table that never rises. -/
theorem responsePerMille_antitone (htable : table.NonIncreasing) {u v : UInt64} (h : u ≤ v) :
    responsePerMille table v ≤ responsePerMille table u := by
  rw [responsePerMille_eq, responsePerMille_eq]
  refine htable _ _ (Fin.mk_le_mk.mpr ?_)
  have hbucket := bucketOf_mono table h
  omega

/-- The boundaries ascend strictly. -/
theorem boundary_strictMono (h : ResponseValid table) :
    StrictMono fun i : Fin 5 => (table.utilizationBps.get i).toNat := by
  rw [Fin.strictMono_iff_lt_succ]
  intro i
  have hbefore : ∀ i : Fin 4, previous i.succ = i.castSucc := by decide
  have hascend := h.ascending i.succ (Nat.succ_pos _)
  simp only [hbefore] at hascend
  exact UInt32.lt_iff_toNat_lt.mp hascend

/-- A boundary is counted exactly when the utilization has reached it. -/
theorem lt_bucketOf_iff (h : ResponseValid table) (k : Fin 5) (utilizationBps : UInt64) :
    k.val < bucketOf table utilizationBps ↔
      (table.utilizationBps.get k).toNat ≤ utilizationBps.toNat := by
  have hlength : table.utilizationBps.toList.length = 5 := by simp
  have hreached : ∀ i : Fin 5,
      (!decide ((table.utilizationBps.toList.get ⟨i.val, by simp⟩).toUInt64 ≤ utilizationBps)) =
          false ↔ (table.utilizationBps.get i).toNat ≤ utilizationBps.toNat := by
    intro i
    rw [Bool.not_eq_false', decide_eq_true_eq, UInt64.le_iff_toNat_le, UInt32.toNat_toUInt64]
    exact Iff.rfl
  unfold bucketOf
  rw [List.takeWhile_eq_take_findIdx_not, List.length_take, hlength, Nat.lt_min,
    List.lt_findIdx_iff]
  constructor
  · rintro ⟨⟨_, hbefore⟩, _⟩
    exact (hreached k).mp (hbefore k.val (Nat.le_refl _))
  · -- The boundaries ascend, so every one before has been reached as well.
    intro hle
    refine ⟨⟨by rw [hlength]; exact k.isLt, fun j hj => ?_⟩, k.isLt⟩
    have hjk : (⟨j, hj.trans_lt k.isLt⟩ : Fin 5) ≤ k := hj
    exact (hreached ⟨j, hj.trans_lt k.isLt⟩).mpr
      (le_trans ((boundary_strictMono h).monotone hjk) hle)

/-- A utilization that selects the given entry. -/
def utilizationAt (table : CongestionResponseTable) (k : Fin 5) : UInt32 :=
  if k.val = 0 then 0 else table.utilizationBps.get (CongestionResponseTable.previous k)

theorem toNat_utilizationAt_lt (h : ResponseValid table) (k : Fin 5) :
    (utilizationAt table k).toNat < (table.utilizationBps.get k).toNat := by
  unfold utilizationAt
  split
  · exact UInt32.lt_iff_toNat_lt.mp (h.boundary k).1
  · rename_i hk
    exact UInt32.lt_iff_toNat_lt.mp (h.ascending k (Nat.pos_of_ne_zero hk))

theorem le_toNat_utilizationAt (h : ResponseValid table) {i k : Fin 5} (hlt : i < k) :
    (table.utilizationBps.get i).toNat ≤ (utilizationAt table k).toNat := by
  have hk : k.val ≠ 0 := (Nat.zero_lt_of_lt hlt).ne'
  have hbefore : ∀ i k : Fin 5, i < k → i ≤ previous k := by decide
  unfold utilizationAt
  rw [if_neg hk]
  exact (boundary_strictMono h).monotone (hbefore i k hlt)

theorem utilizationAt_mono (h : ResponseValid table) {i j : Fin 5} (hle : i ≤ j) :
    utilizationAt table i ≤ utilizationAt table j := by
  rw [UInt32.le_iff_toNat_le]
  rcases eq_or_lt_of_le hle with rfl | hlt
  · exact le_refl _
  · exact le_trans (toNat_utilizationAt_lt h i).le (le_toNat_utilizationAt h hlt)

theorem utilizationAt_le_scale (h : ResponseValid table) (k : Fin 5) :
    utilizationAt table k ≤ 10000 := by
  rw [UInt32.le_iff_toNat_le]
  exact le_trans (toNat_utilizationAt_lt h k).le (UInt32.le_iff_toNat_le.mp (h.boundary k).2)

/-- Every entry of a valid table is selected by some utilization. -/
theorem responsePerMille_utilizationAt (h : ResponseValid table) (k : Fin 5) :
    responsePerMille table (utilizationAt table k).toUInt64 =
      table.rateNumeratorPerMille.get k := by
  have hbelow : bucketOf table (utilizationAt table k).toUInt64 ≤ k.val := by
    have hlt := toNat_utilizationAt_lt h k
    rw [← Nat.not_lt, lt_bucketOf_iff h, UInt32.toNat_toUInt64]
    exact Nat.not_le.mpr hlt
  have habove : k.val ≤ bucketOf table (utilizationAt table k).toUInt64 := by
    rcases Nat.eq_zero_or_pos k.val with hzero | hpos
    · rw [hzero]
      exact Nat.zero_le _
    · -- The boundary before the entry is the utilization itself.
      have hprevious : k.val - 1 < 5 := by omega
      have hlt : (⟨k.val - 1, hprevious⟩ : Fin 5) < k := by
        show k.val - 1 < k.val
        omega
      have hreached := (lt_bucketOf_iff h ⟨k.val - 1, hprevious⟩
        (utilizationAt table k).toUInt64).mpr (by
          rw [UInt32.toNat_toUInt64]
          exact le_toNat_utilizationAt h hlt)
      show k.val ≤ bucketOf table (utilizationAt table k).toUInt64
      change k.val - 1 < _ at hreached
      omega
  rw [responsePerMille_eq]
  congr 1
  refine Fin.ext ?_
  show min (bucketOf table (utilizationAt table k).toUInt64) 4 = k.val
  omega

end Selection

/-- The same link up to its utilization and the level that states it. -/
def SameLink (before after : LinkCongestion) : Prop :=
  after = { before with utilizationBps := after.utilizationBps, level := after.level }

/-- Two snapshots that differ only in the utilization of a valid congestion observation. -/
structure UtilizationPair
    (first second : EvaluationSnapshot) (before after : CongestionEvidence) : Prop where
  installed : first.congestion = some before
  valid : before.validate.isOk = true
  same : second = { first with congestion := some after }
  observation : after = { before with links := after.links }
  links : List.Forall₂ SameLink before.links after.links
  validAfter : after.validate.isOk = true

/-- The second snapshot grants no more than the first. -/
structure RateNotRaised
    (first second : EvaluationSnapshot) (request : DecisionRequest)
    (definition : CollectiveDefinition) : Prop where
  rate :
    outcomeGrantsAuthority (evaluate first request definition).outcome = true →
    outcomeGrantsAuthority (evaluate second request definition).outcome = true →
      (evaluate second request definition).pacing.admittedBandwidthBps ≤
        (evaluate first request definition).pacing.admittedBandwidthBps
  rejected :
    (evaluate first request definition).outcome = .rejectedCapacity →
      outcomeGrantsAuthority (evaluate second request definition).outcome = false

section Comparison

variable {first second : EvaluationSnapshot} {before after : CongestionEvidence}

/-- Both observations are in use or neither is. -/
theorem observedCongestion_le (hpair : UtilizationPair first second before after)
    (hworst : worstUtilization before.links ≤ worstUtilization after.links)
    (collectivePolicy : CollectiveClassPolicy) :
    (observedCongestion first collectivePolicy).1 ≤
      (observedCongestion second collectivePolicy).1 := by
  obtain ⟨hinstalled, -, rfl, hobservation, -, -⟩ := hpair
  have hgeneration : after.topologyGeneration = before.topologyGeneration := by
    rw [hobservation]
  have hcaptured : after.capturedMonotonicMs = before.capturedMonotonicMs := by
    rw [hobservation]
  have hvalidFor : after.validForMs = before.validForMs := by
    rw [hobservation]
  unfold observedCongestion
  simp only [hinstalled, hgeneration, hcaptured, hvalidFor]
  generalize (if collectivePolicy.freshnessRequirementMs = 0
    then first.freshness.congestionMaxAgeMs
    else collectivePolicy.freshnessRequirementMs) = ageBoundMs
  split
  · rw [UInt64.le_iff_toNat_le, UInt32.toNat_toUInt64, UInt32.toNat_toUInt64]
    exact UInt32.le_iff_toNat_le.mp hworst
  · exact UInt64.le_refl _

theorem perMille_mono {rate numerator larger : UInt64} (hlarger : larger ≤ 1000)
    (h : numerator ≤ larger) : perMille rate numerator ≤ perMille rate larger := by
  rw [UInt64.le_iff_toNat_le, toNat_perMille hlarger, toNat_perMille (UInt64.le_trans h hlarger)]
  exact Nat.div_le_div_right (Nat.mul_le_mul_left _ (UInt64.le_iff_toNat_le.mp h))

theorem admittedRate_mono (classPolicy : TrafficClassPolicy) {proposed larger : UInt64}
    (h : proposed ≤ larger) :
    admittedRate classPolicy proposed ≤ admittedRate classPolicy larger := by
  have hle := UInt64.le_iff_toNat_le.mp h
  rw [UInt64.le_iff_toNat_le, toNat_admittedRate, toNat_admittedRate]
  omega

/-- What the response leaves of a limit falls with the congestion. -/
theorem perMille_response_le {policy : TrafficPolicy}
    (hresponse : ResponseValid policy.congestionResponse)
    (htable : policy.congestionResponse.NonIncreasing)
    (hpair : UtilizationPair first second before after)
    (hworst : worstUtilization before.links ≤ worstUtilization after.links)
    (collectivePolicy : CollectiveClassPolicy) (limit : UInt64) :
    perMille limit (responsePerMille policy.congestionResponse
        (observedCongestion second collectivePolicy).1).toUInt64 ≤
      perMille limit (responsePerMille policy.congestionResponse
        (observedCongestion first collectivePolicy).1).toUInt64 := by
  refine perMille_mono (responsePerMille_le hresponse _) ?_
  have hle := responsePerMille_antitone htable (observedCongestion_le hpair hworst collectivePolicy)
  rw [UInt64.le_iff_toNat_le, UInt32.toNat_toUInt64, UInt32.toNat_toUInt64]
  exact UInt32.le_iff_toNat_le.mp hle

end Comparison

/-- Under a table that never rises, more congestion never raises the rate. -/
theorem rateNotRaised_of_nonIncreasing {policy : TrafficPolicy} {first second : EvaluationSnapshot}
    {before after : CongestionEvidence} (hvalid : policy.validate.isOk = true)
    (htable : policy.congestionResponse.NonIncreasing) (hpolicy : first.policy = some policy)
    (hpair : UtilizationPair first second before after)
    (hworst : worstUtilization before.links ≤ worstUtilization after.links)
    (request : DecisionRequest) (definition : CollectiveDefinition) :
    RateNotRaised first second request definition := by
  have hresponse := (policyValid_of_validate hvalid).response
  have hfalls := perMille_response_le hresponse htable hpair hworst
  obtain rfl : second = { first with congestion := some after } := hpair.same
  refine ⟨?_, ?_⟩
  · intro hfirst hsecond
    obtain ⟨policy₁, topology₁, collective₁, class₁, group₁, hchecks₁, hrecord₁⟩ :=
      evaluate_eq_grantRecord hfirst
    obtain ⟨policy₂, topology₂, collective₂, class₂, group₂, hchecks₂, hrecord₂⟩ :=
      evaluate_eq_grantRecord hsecond
    obtain rfl : policy = policy₁ := Option.some.inj (hpolicy.symm.trans hchecks₁.policyInstalled)
    obtain rfl : policy = policy₂ := Option.some.inj (hpolicy.symm.trans hchecks₂.policyInstalled)
    obtain rfl : collective₁ = collective₂ :=
      Option.some.inj (hchecks₁.collective.symm.trans hchecks₂.collective)
    obtain rfl : class₁ = class₂ :=
      Option.some.inj (hchecks₁.trafficClass.symm.trans hchecks₂.trafficClass)
    rw [hrecord₁, hrecord₂]
    show (computePacing _ policy class₁ collective₁).admittedBps ≤
      (computePacing first policy class₁ collective₁).admittedBps
    rw [computePacing_admittedBps, computePacing_admittedBps, computePacing_proposedBps,
      computePacing_proposedBps]
    exact admittedRate_mono class₁ (hfalls collective₁ _)
  · intro hrejected
    obtain ⟨policy₁, collectivePolicy, classPolicy, htreatment, hbelow⟩ :=
      floor_not_honored_of_rejectedCapacity hrejected
    rw [Bool.eq_false_iff]
    intro hsecond
    obtain ⟨policy₂, topology, collective₂, class₂, hchecks⟩ := evaluate_grants_iff.mp hsecond
    obtain rfl : policy = policy₂ := Option.some.inj (hpolicy.symm.trans hchecks.policyInstalled)
    have hstated : statedTreatment first request definition =
        some (policy, collective₂, class₂) := by
      simp [statedTreatment, hpolicy, hchecks.collective, hchecks.trafficClass]
    obtain ⟨rfl, rfl, rfl⟩ : policy₁ = policy ∧ collectivePolicy = collective₂ ∧
        classPolicy = class₂ := by
      simpa using htreatment.symm.trans hstated
    refine hbelow fun havailable => ?_
    exact UInt64.le_trans (hchecks.floor havailable) (hfalls collectivePolicy _)

namespace OneLink

variable {table : CongestionResponseTable}

/-- One observed link at the given utilization. -/
def observation (utilizationBps : UInt32) : CongestionEvidence where
  generation := ⟨8, 0⟩
  topologyGeneration := ⟨6, 0⟩
  links :=
    [ { link := ⟨81, 0⟩
        utilizationBps := utilizationBps
        level := congestionLevelFromUtilizationBps utilizationBps } ]
  validForMs := 2000

theorem observation_valid {utilizationBps : UInt32} (h : utilizationBps ≤ 10000) :
    (observation utilizationBps).validate.isOk = true := by
  have hknown : congestionLevelFromUtilizationBps utilizationBps ≠ .unknown := by
    unfold congestionLevelFromUtilizationBps
    split_ifs <;> simp
  have hlinks :
      (CongestionEvidence.validateLinks (observation utilizationBps).links).isOk = true := by
    simp [observation, CongestionEvidence.validateLinks, validateEntries, UInt32.not_lt.mpr h,
      hknown, Identity.none, Status.ok]
  have hgeneration : (observation utilizationBps).generation.isNone = false := rfl
  have htopology : (observation utilizationBps).topologyGeneration.isNone = false := rfl
  have hwindow : (observation utilizationBps).validForMs = 2000 := rfl
  have hlength : (observation utilizationBps).links.length = 1 := rfl
  rw [CongestionEvidence.validate, hgeneration, htopology, hwindow, hlength,
    if_neg Bool.false_ne_true, if_neg Bool.false_ne_true, if_neg (by decide), if_neg (by decide),
    if_neg (by decide)]
  exact hlinks

theorem worstUtilization_observation (utilizationBps : UInt32) :
    worstUtilization (observation utilizationBps).links = utilizationBps := by
  show max 0 utilizationBps = utilizationBps
  exact if_pos UInt32.zero_le

/-- The standard policy with another response table. -/
def policy (table : CongestionResponseTable) : TrafficPolicy :=
  { TrafficPolicy.standard ⟨5, 0⟩ with congestionResponse := table }

theorem policy_valid (h : table.isValid = true) : (policy table).validate.isOk = true := by
  have hclasses : (TrafficPolicy.validateClasses []
      (TrafficPolicy.standard ⟨5, 0⟩).classPolicies).isOk = true := by
    decide
  have htables : (policy table).validateTables.isOk = true := by
    refine (Status.isOk_check_iff rfl).mpr ⟨Bool.false_ne_true, ?_⟩
    refine (Status.isOk_check_iff rfl).mpr ⟨Bool.false_ne_true, ?_⟩
    refine (Status.isOk_check_iff rfl).mpr ⟨by simp [policy, h], ?_⟩
    rfl
  exact Status.isOk_checked_iff.mpr ⟨hclasses, htables⟩

def snapshot (table : CongestionResponseTable) (utilizationBps : UInt32) : EvaluationSnapshot :=
  Settled.snapshot (policy table) ⟨6, 0⟩ none (some (observation utilizationBps))

/-- The bulk class of the standard policy. -/
def classPolicy : TrafficClassPolicy :=
  TrafficPolicy.standardClass .bulkData 8 1000000000 unlimitedRate false true .shared

def collectivePolicy : CollectiveClassPolicy :=
  TrafficPolicy.standardCollective .allReduce .bulkData true true 2000

theorem grantChecks (table : CongestionResponseTable) (utilizationBps : UInt32) :
    GrantChecks (snapshot table utilizationBps) (Settled.request none)
      (Settled.definition .allReduce) (policy table) (Settled.topology ⟨6, 0⟩) collectivePolicy
      classPolicy := by
  have hgeneration : (policy table).generation ≠ Identity.none := by
    show (⟨5, 0⟩ : Identity) ≠ Identity.none
    decide
  exact Settled.grantChecks hgeneration (by decide) rfl rfl (fun _ => rfl) rfl rfl rfl
    (fun havailable => absurd rfl havailable)

theorem grants (table : CongestionResponseTable) (utilizationBps : UInt32) :
    outcomeGrantsAuthority
      (evaluate (snapshot table utilizationBps) (Settled.request none)
        (Settled.definition .allReduce)).outcome = true := by
  exact evaluate_grants_iff.mpr ⟨_, _, _, _, grantChecks table utilizationBps⟩

/-- Without a capacity observation the unlimited class is granted its share of the largest rate. -/
theorem admitted_eq (h : table.isValid = true) (utilizationBps : UInt32) :
    (evaluate (snapshot table utilizationBps) (Settled.request none)
        (Settled.definition .allReduce)).pacing.admittedBandwidthBps.toNat =
      (2 ^ 64 - 1) * (responsePerMille table utilizationBps.toUInt64).toNat / 1000 := by
  have hchecks := grantChecks table utilizationBps
  obtain ⟨found, topology, entry, stated, group, hfound, hrecord⟩ :=
    evaluate_eq_grantRecord (grants table utilizationBps)
  obtain rfl : policy table = found :=
    Option.some.inj (hchecks.policyInstalled.symm.trans hfound.policyInstalled)
  obtain rfl : collectivePolicy = entry :=
    Option.some.inj (hchecks.collective.symm.trans hfound.collective)
  obtain rfl : classPolicy = stated :=
    Option.some.inj (hchecks.trafficClass.symm.trans hfound.trafficClass)
  have hexact := computePacing_exact (policy_valid h) (findClass_eq_some hchecks.trafficClass).1
    (snapshot table utilizationBps) collectivePolicy
  have hutilization : (observedCongestion (snapshot table utilizationBps) collectivePolicy).1 =
      utilizationBps.toUInt64 := by
    have hset : (observation utilizationBps).generation ≠ Identity.none := by
      show (⟨8, 0⟩ : Identity) ≠ Identity.none
      decide
    have htopology : (observation utilizationBps).topologyGeneration = ⟨6, 0⟩ := by
      rfl
    rw [snapshot, Settled.observedCongestion_eq hset htopology, worstUtilization_observation]
  have hresponse : (computePacing (snapshot table utilizationBps) (policy table) classPolicy
      collectivePolicy).responsePerMille = responsePerMille table utilizationBps.toUInt64 := by
    rw [computePacing_responsePerMille, hutilization]
    rfl
  have hceiling : classPolicy.maximumBandwidthBps.toNat = 2 ^ 64 - 1 := by decide
  have hfloor : classPolicy.minimumBandwidthBps.toNat = 1000000000 := by decide
  have hlimit : (rateLimit classPolicy (computePacing (snapshot table utilizationBps)
      (policy table) classPolicy collectivePolicy).availableBps).toNat = 2 ^ 64 - 1 := by
    rw [computePacing_availableBps]
    exact hceiling
  have hproposed := hexact.proposed
  have hadmitted := hexact.admitted
  rw [hlimit, hresponse] at hproposed
  rw [hceiling, hfloor, hproposed] at hadmitted
  -- The smallest share of the largest rate is above the floor of the class.
  have husable := responsePerMille_usable ((isValid_iff table).mp h) utilizationBps.toUInt64
  rw [hrecord]
  show (computePacing (snapshot table utilizationBps) (policy table) classPolicy
    collectivePolicy).admittedBps.toNat = _
  rw [hadmitted]
  omega

theorem utilizationPair {u v : UInt32} (hu : u ≤ 10000) (hv : v ≤ 10000) :
    UtilizationPair (snapshot table u) (snapshot table v) (observation u) (observation v) where
  installed := rfl
  valid := observation_valid hu
  same := rfl
  observation := rfl
  links := List.Forall₂.cons rfl List.Forall₂.nil
  validAfter := observation_valid hv

end OneLink

/--
Under every policy that validates with the given response table, more congestion
never raises the rate, exactly when the numerators of the table never rise.
Freshness is not asked for: an observation that is not in use changes nothing.
-/
theorem rateNotRaised_iff {table : CongestionResponseTable} (hvalid : table.isValid = true) :
    (∀ (policy : TrafficPolicy) (first second : EvaluationSnapshot)
        (before after : CongestionEvidence) (request : DecisionRequest)
        (definition : CollectiveDefinition),
        policy.validate.isOk = true → policy.congestionResponse = table →
        first.policy = some policy → UtilizationPair first second before after →
        worstUtilization before.links ≤ worstUtilization after.links →
        RateNotRaised first second request definition) ↔
      table.NonIncreasing := by
  have htable := (isValid_iff table).mp hvalid
  constructor
  · intro hproperty i j hle
    have hcase := hproperty (OneLink.policy table)
      (OneLink.snapshot table (utilizationAt table i))
      (OneLink.snapshot table (utilizationAt table j)) _ _ (Settled.request none)
      (Settled.definition .allReduce) (OneLink.policy_valid hvalid) rfl rfl
      (OneLink.utilizationPair (utilizationAt_le_scale htable i) (utilizationAt_le_scale htable j))
      (by
        rw [OneLink.worstUtilization_observation, OneLink.worstUtilization_observation]
        exact utilizationAt_mono htable hle)
    have hrate := UInt64.le_iff_toNat_le.mp (hcase.rate (OneLink.grants _ _) (OneLink.grants _ _))
    rw [OneLink.admitted_eq hvalid, OneLink.admitted_eq hvalid,
      responsePerMille_utilizationAt htable, responsePerMille_utilizationAt htable] at hrate
    rw [UInt32.le_iff_toNat_le]
    omega
  · intro hnonIncreasing policy first second before after request definition hpolicy hresponse
      hinstalled hpair hworst
    exact rateNotRaised_of_nonIncreasing hpolicy (hresponse ▸ hnonIncreasing) hinstalled hpair
      hworst request definition

/-- The table of the standard policy never rises. -/
theorem standard_response_rateNotRaised :
    ({} : CongestionResponseTable).isValid = true ∧
      ∀ (policy : TrafficPolicy) (first second : EvaluationSnapshot)
        (before after : CongestionEvidence) (request : DecisionRequest)
        (definition : CollectiveDefinition),
        policy.validate.isOk = true → policy.congestionResponse = {} →
        first.policy = some policy → UtilizationPair first second before after →
        worstUtilization before.links ≤ worstUtilization after.links →
        RateNotRaised first second request definition := by
  have hvalid : ({} : CongestionResponseTable).isValid = true := by decide
  have hnonIncreasing : ({} : CongestionResponseTable).NonIncreasing := by
    unfold CongestionResponseTable.NonIncreasing
    decide
  exact ⟨hvalid, (rateNotRaised_iff hvalid).mpr hnonIncreasing⟩

/-- A table that allows a tenth of the rate on an idle fabric and more on a busy one. -/
def risingTable : CongestionResponseTable where
  rateNumeratorPerMille := #v[100, 800, 600, 400, 150]

open OneLink in
/-- The policy validates, and the rate it admits is higher at sixty percent than at none. -/
theorem rate_rises_with_congestion :
    (policy risingTable).validate.isOk = true ∧
      (observation 0).validate.isOk = true ∧ (observation 6000).validate.isOk = true ∧
      (evaluate (snapshot risingTable 0) (Settled.request none)
        (Settled.definition .allReduce)).outcome = .admitted ∧
      (evaluate (snapshot risingTable 6000) (Settled.request none)
        (Settled.definition .allReduce)).outcome = .admitted ∧
      (evaluate (snapshot risingTable 0) (Settled.request none)
          (Settled.definition .allReduce)).pacing.admittedBandwidthBps <
        (evaluate (snapshot risingTable 6000) (Settled.request none)
          (Settled.definition .allReduce)).pacing.admittedBandwidthBps := by
  decide

section Buckets

variable {table : CongestionResponseTable}

/-- The rate computation reads the entry that the utilization it reports selects. -/
theorem computePacing_reads_entry (snapshot : EvaluationSnapshot) (policy : TrafficPolicy)
    (classPolicy : TrafficClassPolicy) (collectivePolicy : CollectiveClassPolicy) :
    (computePacing snapshot policy classPolicy collectivePolicy).responsePerMille =
      policy.congestionResponse.rateNumeratorPerMille.get
        (responseIndex policy.congestionResponse
          (computePacing snapshot policy classPolicy collectivePolicy).utilizationBps) := by
  rw [computePacing_utilizationBps, computePacing_responsePerMille, responsePerMille_eq]

/--
The buckets the table is documented with: the first entry below the first
boundary, the last entry from the last boundary on, and a change of entry at
every boundary.
-/
structure CongestionResponseTable.FollowsBuckets (table : CongestionResponseTable) : Prop where
  first : ∀ u : UInt32, responseIndex table u.toUInt64 = 0 ↔ u < table.utilizationBps.get 0
  last : ∀ u : UInt32, responseIndex table u.toUInt64 = 4 ↔ table.utilizationBps.get 4 ≤ u
  switches : ∀ k : Fin 5, ∃ u : UInt32, u + 1 = table.utilizationBps.get k ∧
    responseIndex table u.toUInt64 ≠ responseIndex table (table.utilizationBps.get k).toUInt64

/-- An entry before the last is read between two boundaries. -/
theorem responseIndex_eq_iff (h : ResponseValid table) (k : Fin 5) (hk : k.val < 4) (u : UInt32) :
    responseIndex table u.toUInt64 = k ↔
      (∀ i : Fin 5, i < k → table.utilizationBps.get i ≤ u) ∧ u < table.utilizationBps.get k := by
  have hreached : ∀ i : Fin 5, i.val < bucketOf table u.toUInt64 ↔
      table.utilizationBps.get i ≤ u := by
    intro i
    rw [lt_bucketOf_iff h, UInt32.toNat_toUInt64, ← UInt32.le_iff_toNat_le]
  rw [← UInt32.not_le, ← hreached, Fin.ext_iff]
  show min (bucketOf table u.toUInt64) 4 = k.val ↔ _
  constructor
  · intro hindex
    refine ⟨fun i hi => ?_, by omega⟩
    have hik : i.val < k.val := hi
    rw [← hreached]
    omega
  · rintro ⟨hbefore, hnot⟩
    rcases Nat.eq_zero_or_pos k.val with hzero | hpos
    · omega
    · have hprevious := (hreached ⟨k.val - 1, by omega⟩).mpr
        (hbefore ⟨k.val - 1, by omega⟩ (by show k.val - 1 < k.val; omega))
      change k.val - 1 < _ at hprevious
      omega

/-- The last entry is read from the last boundary but one on. -/
theorem responseIndex_eq_last_iff (h : ResponseValid table) (u : UInt32) :
    responseIndex table u.toUInt64 = 4 ↔ table.utilizationBps.get 3 ≤ u := by
  have hreached := lt_bucketOf_iff h 3 u.toUInt64
  rw [UInt32.toNat_toUInt64, ← UInt32.le_iff_toNat_le] at hreached
  rw [← hreached, Fin.ext_iff]
  show min (bucketOf table u.toUInt64) 4 = 4 ↔ 3 < bucketOf table u.toUInt64
  omega

/--
No valid table follows its documented buckets.  The rate computation reads the
first entry below the first boundary and the last one from the last boundary but
one on, and nothing changes at the last boundary.
-/
theorem last_boundary_never_read (hvalid : table.isValid = true) :
    (∀ (snapshot : EvaluationSnapshot) (policy : TrafficPolicy)
        (classPolicy : TrafficClassPolicy) (collectivePolicy : CollectiveClassPolicy),
        policy.congestionResponse = table →
        (computePacing snapshot policy classPolicy collectivePolicy).responsePerMille =
          table.rateNumeratorPerMille.get
            (responseIndex table
              (computePacing snapshot policy classPolicy collectivePolicy).utilizationBps)) ∧
      (∀ u : UInt32, responseIndex table u.toUInt64 = 0 ↔ u < table.utilizationBps.get 0) ∧
      (∀ u : UInt32, responseIndex table u.toUInt64 = 4 ↔ table.utilizationBps.get 3 ≤ u) ∧
      (∀ u : UInt32, u + 1 = table.utilizationBps.get 4 →
        responseIndex table u.toUInt64 =
          responseIndex table (table.utilizationBps.get 4).toUInt64) ∧
      ¬ table.FollowsBuckets := by
  have h := (isValid_iff table).mp hvalid
  have hfirst : ∀ u : UInt32,
      responseIndex table u.toUInt64 = 0 ↔ u < table.utilizationBps.get 0 := by
    intro u
    rw [responseIndex_eq_iff h 0 (by decide) u]
    simp
  have hlast := responseIndex_eq_last_iff h
  have hascends : table.utilizationBps.get 3 < table.utilizationBps.get 4 :=
    h.ascending 4 (by decide)
  refine ⟨?_, hfirst, hlast, ?_, ?_⟩
  · rintro snapshot policy classPolicy collectivePolicy rfl
    exact computePacing_reads_entry snapshot policy classPolicy collectivePolicy
  · intro u hu
    have hafter := UInt32.lt_iff_toNat_lt.mp hascends
    rw [(hlast _).mpr (UInt32.le_of_lt hascends), hlast, UInt32.le_iff_toNat_le]
    have hbound := u.toNat_lt
    have hnext := congrArg UInt32.toNat hu
    rw [UInt32.toNat_add] at hnext
    change (u.toNat + 1) % 2 ^ 32 = _ at hnext
    omega
  · intro hfollows
    have hread := (hlast (table.utilizationBps.get 3)).mpr (UInt32.le_refl _)
    exact UInt32.not_le.mpr hascends ((hfollows.last _).mp hread)

/-- The table of the standard policy. -/
theorem standard_last_boundary_never_read :
    ({} : CongestionResponseTable).isValid = true ∧
      (∀ u : UInt32, responseIndex {} u.toUInt64 = 4 ↔ 9500 ≤ u) := by
  have hvalid : ({} : CongestionResponseTable).isValid = true := by decide
  exact ⟨hvalid, (last_boundary_never_read hvalid).2.2.1⟩

open OneLink in
/--
At a utilization of 95 percent the standard table answers with the numerator it
is documented to use from 99 percent on.
-/
theorem standard_response_early :
    ({} : CongestionResponseTable).isValid = true ∧
      (computePacing (snapshot {} 9500) (policy {}) classPolicy collectivePolicy).utilizationBps =
        9500 ∧
      (computePacing (snapshot {} 9500) (policy {}) classPolicy
        collectivePolicy).responsePerMille =
          ({} : CongestionResponseTable).rateNumeratorPerMille.get 4 ∧
      ¬ ({} : CongestionResponseTable).utilizationBps.get 4 ≤ 9500 ∧
      responseIndex {} 9500 = 4 := by
  decide

end Buckets

end TrafficFabric
