import Mathlib.Data.List.Find
import TrafficFabric.EvaluationOrder
import TrafficFabric.PolicyValid
import TrafficFabric.EdgeKeys
import TrafficFabric.Pacing

/-!
# The order of policy entries

The engine reads the first entry of a class in either table of the policy.  The
validator rules out a second entry for a traffic class, but not for a collective
class, so the order of the collective entries may decide what is granted.

It does not exactly when any two entries of one known collective class say the
same to the engine.  That is a little less than being equal: the engine never
reads whether an entry admits unknown semantics, it does not tell two classes
apart that the policy leaves out, and it does not see a freshness requirement
that no age exceeds or that is never reached.
-/

namespace TrafficFabric

open Lib

namespace TrafficPolicy

/-- The policy with other tables. -/
def withTables
    (policy : TrafficPolicy) (classes : List TrafficClassPolicy)
    (collectives : List CollectiveClassPolicy) : TrafficPolicy :=
  { policy with classPolicies := classes, collectivePolicies := collectives }

/-- Every evaluation under the policy stays the same when its entries are reordered. -/
def OrderIrrelevant (policy : TrafficPolicy) : Prop :=
  ∀ classes collectives,
    classes.Perm policy.classPolicies → collectives.Perm policy.collectivePolicies →
    ∀ snapshot request definition, snapshot.policy = some policy →
      evaluate { snapshot with policy := some (policy.withTables classes collectives) }
        request definition =
      evaluate snapshot request definition

/-- The entry gives a class that the policy does not state. -/
def LeavesOut (policy : TrafficPolicy) (entry : CollectiveClassPolicy) : Prop :=
  entry.trafficClass ≠ .unclassified ∧ policy.findClass entry.trafficClass = none

/-- Some stated class is reached through the entry, by itself or on request. -/
def Treats (policy : TrafficPolicy) (entry : CollectiveClassPolicy) : Prop :=
  ∃ value, value ≠ .unclassified ∧ policy.findClass value ≠ none ∧
    (value = entry.trafficClass ∨ entry.allowMemberOverride = true)

end TrafficPolicy

/--
The longest age of an observation that an evaluation looks at: a member is live
only before it expires, so the time itself is not the last one.
-/
def longestAgeMs : UInt64 := 0xFFFFFFFFFFFFFFFE

/-- The engine cannot tell which of two entries of one collective class it reads. -/
structure TrafficPolicy.Interchangeable
    (policy : TrafficPolicy) (a b : CollectiveClassPolicy) : Prop where
  override : a.allowMemberOverride = b.allowMemberOverride
  trafficClass : a.trafficClass = b.trafficClass ∨ policy.LeavesOut a ∧ policy.LeavesOut b
  freshness : a.freshnessRequirementMs = b.freshnessRequirementMs ∨
    longestAgeMs ≤ a.freshnessRequirementMs ∧ longestAgeMs ≤ b.freshnessRequirementMs ∨
    ¬ policy.Treats a

section Reading

variable {policy policy' : TrafficPolicy} {a b : CollectiveClassPolicy}
variable {snapshot : EvaluationSnapshot} {request : DecisionRequest}
variable {definition : CollectiveDefinition}

/-- What the engine reads of one policy it reads of the other, up to interchangeable entries. -/
structure ReadAlike
    (policy policy' : TrafficPolicy) (collectiveClass : CollectiveClass) : Prop where
  classes : ∀ value, policy'.findClass value = policy.findClass value
  response : policy'.congestionResponse = policy.congestionResponse
  burst : policy'.burstMultiplierPerMille = policy.burstMultiplierPerMille
  entries : (policy.findCollective collectiveClass = none ∧
      policy'.findCollective collectiveClass = none) ∨
    ∃ a b, policy.findCollective collectiveClass = some a ∧
      policy'.findCollective collectiveClass = some b ∧
      (isKnownCollectiveClass collectiveClass = true → policy.Interchangeable a b)

theorem applyTopologyAndLiveness_withPolicy (installed : Option TrafficPolicy)
    (record : DecisionRecord) :
    applyTopologyAndLiveness { snapshot with policy := installed } request record policy' =
      (applyTopologyAndLiveness snapshot request record policy).map fun passed =>
        (passed.1, policy', passed.2.2) := by
  unfold applyTopologyAndLiveness
  simp only [map_require]
  cases htopology : snapshot.topology with
  | none => rfl
  | some topology =>
    simp only [map_require]
    rfl

/-- The installed policy is handed through the authority chain and not read in it. -/
theorem applyAuthorityChain_withPolicy (hinstalled : snapshot.policy = some policy)
    (record : DecisionRecord) :
    applyAuthorityChain { snapshot with policy := some policy' } request record =
      (applyAuthorityChain snapshot request record).map fun passed =>
        (passed.1, policy', passed.2.2) := by
  unfold applyAuthorityChain
  rw [hinstalled]
  simp only [map_require]
  rw [applyTopologyAndLiveness_withPolicy]

theorem classified_of_ne {value : TrafficClass} (h : value ≠ .unclassified) :
    trafficClassIsClassified value = true := by
  simpa [trafficClassIsClassified] using h

/-- A request that gets to a stated class through the entry. -/
theorem treats_of_selected {classPolicy : TrafficClassPolicy}
    (hoverride : request.hasRequestedClass = true → a.allowMemberOverride = true)
    (hclassified : trafficClassIsClassified (selectedClass request a) = true)
    (hclass : policy.findClass (selectedClass request a) = some classPolicy) : policy.Treats a := by
  refine ⟨selectedClass request a, by simpa [trafficClassIsClassified] using hclassified,
    by simp [hclass], ?_⟩
  unfold selectedClass
  split
  · rename_i hasked
    exact .inr (hoverride hasked)
  · exact .inl rfl

theorem evidenceAge_le (now captured : UInt64) : evidenceAge now captured ≤ now := by
  unfold evidenceAge
  split
  · rename_i hle
    rw [UInt64.le_iff_toNat_le, UInt64.toNat_sub_of_le _ _ hle]
    exact Nat.sub_le _ _
  · exact UInt64.zero_le

/-- The two entries lead to the same refusal, or both to the same class. -/
theorem checkSemantics_readAlike (request : DecisionRequest)
    (h : ReadAlike policy policy' definition.collectiveClass) (record : DecisionRecord) :
    (∃ refusal, checkSemantics request definition policy record = .error refusal ∧
      checkSemantics request definition policy' record = .error refusal) ∨
    ∃ a b classPolicy,
      checkSemantics request definition policy record = .ok (a, classPolicy) ∧
      checkSemantics request definition policy' record = .ok (b, classPolicy) ∧
      policy.Interchangeable a b ∧ policy.Treats a ∧
      selectedClass request a = selectedClass request b := by
  unfold checkSemantics
  rcases h.entries with ⟨hnone, hnone'⟩ | ⟨a, b, ha, hb, hinterchange⟩
  · simp only [hnone, hnone']
    exact .inl ⟨_, rfl, rfl⟩
  simp only [ha, hb, h.classes]
  by_cases hknown : isKnownCollectiveClass definition.collectiveClass = true
  swap
  · simp only [require_neg hknown]
    exact .inl ⟨_, rfl, rfl⟩
  have hsame := hinterchange hknown
  simp only [require_pos hknown, ← hsame.override]
  by_cases hoverride : request.hasRequestedClass = true → a.allowMemberOverride = true
  swap
  · simp only [require_neg hoverride]
    exact .inl ⟨_, rfl, rfl⟩
  by_cases hrequested : request.hasRequestedClass = true →
      trafficClassIsClassified request.requestedClass = true
  swap
  · simp only [require_pos hoverride, require_neg hrequested]
    exact .inl ⟨_, rfl, rfl⟩
  simp only [require_pos hoverride, require_pos hrequested]
  by_cases hselected : selectedClass request a = selectedClass request b
  · rw [← hselected]
    by_cases hclassified : trafficClassIsClassified (selectedClass request a) = true
    swap
    · simp only [require_neg hclassified]
      exact .inl ⟨_, rfl, rfl⟩
    simp only [require_pos hclassified]
    cases hclass : policy.findClass (selectedClass request a) with
    | none => exact .inl ⟨_, rfl, rfl⟩
    | some classPolicy =>
      exact .inr ⟨a, b, classPolicy, rfl, rfl, hsame,
        treats_of_selected hoverride hclassified hclass, hselected⟩
  · -- Only the classes of the entries differ, and the policy states neither of them.
    have hnone : ¬ request.hasRequestedClass = true := by
      intro hasked
      exact hselected (by simp only [selectedClass, hasked, if_true])
    simp only [selectedClass, if_neg hnone] at hselected ⊢
    obtain ⟨⟨hset, hmissing⟩, hset', hmissing'⟩ := hsame.trafficClass.resolve_left hselected
    rw [require_pos (classified_of_ne hset), require_pos (classified_of_ne hset'), hmissing,
      hmissing']
    exact .inl ⟨_, rfl, rfl⟩

/-- With an age that occurs, interchangeable entries that are reached set the same bound. -/
theorem TrafficPolicy.Interchangeable.bound (h : policy.Interchangeable a b)
    (htreats : policy.Treats a) :
    (a.freshnessRequirementMs = 0 ↔ b.freshnessRequirementMs = 0) ∧
      ∀ age ≤ longestAgeMs, age ≤ a.freshnessRequirementMs ↔ age ≤ b.freshnessRequirementMs := by
  rcases h.freshness with hsame | ⟨ha, hb⟩ | hnever
  · rw [hsame]
    exact ⟨Iff.rfl, fun _ _ => Iff.rfl⟩
  · refine ⟨iff_of_false ?_ ?_, fun age hage =>
      iff_of_true (UInt64.le_trans hage ha) (UInt64.le_trans hage hb)⟩
    · intro hzero
      rw [hzero] at ha
      exact absurd ha (by decide)
    · intro hzero
      rw [hzero] at hb
      exact absurd hb (by decide)
  · exact absurd htreats hnever

section Bounds

variable (hnow : snapshot.nowMonotonicMs ≤ longestAgeMs)
variable (hbound : ∀ age ≤ longestAgeMs,
  age ≤ a.freshnessRequirementMs ↔ age ≤ b.freshnessRequirementMs)

include hnow hbound

theorem congestionIsFresh_readAlike :
    congestionIsFresh snapshot b = congestionIsFresh snapshot a := by
  unfold congestionIsFresh
  cases snapshot.congestion with
  | none => rfl
  | some congestion =>
    have hage := hbound _ (UInt64.le_trans (evidenceAge_le _ congestion.capturedMonotonicMs) hnow)
    simp only [word_le_min_iff, hage]

theorem observedCongestion_readAlike
    (hzero : a.freshnessRequirementMs = 0 ↔ b.freshnessRequirementMs = 0) :
    observedCongestion snapshot b = observedCongestion snapshot a := by
  unfold observedCongestion
  by_cases hdefault : a.freshnessRequirementMs = 0
  · rw [if_pos hdefault, if_pos (hzero.mp hdefault)]
  · rw [if_neg hdefault, if_neg (mt hzero.mpr hdefault)]
    cases snapshot.congestion with
    | none => rfl
    | some congestion =>
      have hage := hbound _
        (UInt64.le_trans (evidenceAge_le _ congestion.capturedMonotonicMs) hnow)
      simp only [word_le_min_iff, hage]

end Bounds

/-- The class of the entry is delay sensitive under both policies or under neither. -/
theorem classIsLatencyCritical_readAlike {collectiveClass : CollectiveClass}
    (hclasses : ∀ value, policy'.findClass value = policy.findClass value)
    (ha : policy.findCollective collectiveClass = some a)
    (hb : policy'.findCollective collectiveClass = some b) (h : policy.Interchangeable a b) :
    classIsLatencyCritical policy' collectiveClass =
      classIsLatencyCritical policy collectiveClass := by
  unfold classIsLatencyCritical
  simp only [ha, hb, hclasses]
  rcases h.trafficClass with hsame | ⟨⟨-, hmissing⟩, -, hmissing'⟩
  · rw [hsame]
  · rw [hmissing, hmissing']

/-- Past the authority chain the two policies lead to the same record. -/
theorem evaluateTreatment_readAlike (h : ReadAlike policy policy' definition.collectiveClass)
    (hnow : snapshot.nowMonotonicMs ≤ longestAgeMs) (installed : Option TrafficPolicy)
    (topology : TopologyEvidence) (record : DecisionRecord) :
    evaluateTreatment { snapshot with policy := installed } request definition policy' topology
        record =
      evaluateTreatment snapshot request definition policy topology record := by
  refine bind_congr fun _ _ => ?_
  rcases checkSemantics_readAlike request h record with
    ⟨refusal, hrefused, hrefused'⟩ |
    ⟨a, b, classPolicy, hpassed, hpassed', hsame, htreats, hselected⟩
  · rw [hrefused, hrefused']
    rfl
  rw [hpassed, hpassed']
  obtain ⟨ha, -⟩ := checkSemantics_eq_ok_iff.mp hpassed
  obtain ⟨hb, -⟩ := checkSemantics_eq_ok_iff.mp hpassed'
  obtain ⟨hzero, hbound⟩ := hsame.bound htreats
  have hevidence : ∀ record, checkEvidence { snapshot with policy := installed } request b
      classPolicy record = checkEvidence snapshot request a classPolicy record := by
    intro record
    unfold checkEvidence
    rw [← congestionIsFresh_readAlike hnow hbound]
    rfl
  have hpacing : computePacing { snapshot with policy := installed } policy' classPolicy b =
      computePacing snapshot policy classPolicy a := by
    unfold computePacing admittedBurst
    rw [h.response, h.burst, ← observedCongestion_readAlike hnow hbound hzero]
    rfl
  have hsync : ∀ group, deriveSyncSensitivity definition group policy' =
      deriveSyncSensitivity definition group policy := by
    intro group
    unfold deriveSyncSensitivity
    rw [classIsLatencyCritical_readAlike h.classes ha hb hsame]
  simp only [Except.bind, hevidence, hpacing, granted, hsync, ← hselected]
  rfl

/-- A live member has not expired, so the time is not the last one. -/
theorem now_le_of_live {participant : ParticipantId}
    (h : participantNotLive snapshot participant = false) :
    snapshot.nowMonotonicMs ≤ longestAgeMs := by
  unfold participantNotLive at h
  cases hpeer : snapshot.findPeer participant with
  | none => simp [hpeer] at h
  | some liveness =>
    simp only [hpeer, Bool.or_eq_false_iff, decide_eq_false_iff_not, UInt64.not_le] at h
    have hbefore := UInt64.lt_iff_toNat_lt.mp h.2
    have hlast := liveness.expiresAtMonotonicMs.toNat_lt
    have hlongest : longestAgeMs.toNat = 2 ^ 64 - 2 := rfl
    rw [UInt64.le_iff_toNat_le]
    omega

/-- Policies that read alike evaluate alike. -/
theorem evaluate_readAlike (h : ReadAlike policy policy' definition.collectiveClass)
    (hinstalled : snapshot.policy = some policy) :
    evaluate { snapshot with policy := some policy' } request definition =
      evaluate snapshot request definition := by
  have hchecks : evaluateChecks { snapshot with policy := some policy' } request definition =
      evaluateChecks snapshot request definition := by
    refine bind_congr fun record hplan => ?_
    obtain ⟨-, -, group, hgroup, rfl⟩ := checkPlan_eq_ok_iff.mp hplan
    have hvalid := (constructFlowGroup_isOk_iff _ _).mp ⟨group, hgroup⟩
    obtain ⟨p, hp⟩ :=
      List.exists_mem_of_ne_nil _ (validateFlowGroupPlan_isOk_iff.mp hvalid).1.members
    rw [applyAuthorityChain_withPolicy hinstalled, bind_map]
    refine bind_congr ?_
    rintro ⟨record, installed, topology⟩ hchain
    obtain ⟨-, -, hpolicy, -, -, -, -, -, -, hlive, -⟩ := applyAuthorityChain_eq_ok_iff.mp hchain
    obtain rfl : policy = installed := Option.some.inj (hinstalled.symm.trans hpolicy)
    exact evaluateTreatment_readAlike h (now_le_of_live (hlive p hp)) _ _ _
  unfold evaluate
  rw [hchecks]

end Reading

section Reordering

variable {policy : TrafficPolicy}

/-- Any two entries of one known collective class are interchangeable. -/
def TrafficPolicy.EntriesAgree (policy : TrafficPolicy) : Prop :=
  ∀ a ∈ policy.collectivePolicies, ∀ b ∈ policy.collectivePolicies,
    a.collectiveClass = b.collectiveClass →
    isKnownCollectiveClass a.collectiveClass = true → policy.Interchangeable a b

/-- A reordered policy finds the same class, and an entry for the same collective classes. -/
theorem readAlike_of_perm {classes : List TrafficClassPolicy}
    {collectives : List CollectiveClassPolicy} (hvalid : PolicyValid policy)
    (hagree : policy.EntriesAgree) (hclasses : classes.Perm policy.classPolicies)
    (hcollectives : collectives.Perm policy.collectivePolicies)
    (collectiveClass : CollectiveClass) :
    ReadAlike policy (policy.withTables classes collectives) collectiveClass := by
  refine { classes := ?_, response := rfl, burst := rfl, entries := ?_ }
  · intro value
    refine List.find?_eq_find?_of_perm hclasses ?_
    rintro x ⟨hx, hxclass⟩ y ⟨hy, hyclass⟩
    have hsame : x.trafficClass = y.trafficClass :=
      (eq_of_beq hxclass).trans (eq_of_beq hyclass).symm
    exact List.inj_on_of_nodup_map hvalid.distinct (hclasses.mem_iff.mp hx)
      (hclasses.mem_iff.mp hy) hsame
  · cases ha : policy.findCollective collectiveClass with
    | none =>
      refine .inl ⟨rfl, List.find?_eq_none.mpr fun entry hentry => ?_⟩
      exact List.find?_eq_none.mp ha entry (hcollectives.mem_iff.mp hentry)
    | some a =>
      obtain ⟨hmem, hclass⟩ := findCollective_eq_some ha
      obtain ⟨b, hb⟩ : ∃ b,
          (policy.withTables classes collectives).findCollective collectiveClass = some b := by
        rw [← Option.isSome_iff_exists]
        exact List.find?_isSome.mpr ⟨a, hcollectives.mem_iff.mpr hmem, by simp [hclass]⟩
      obtain ⟨hmem', hclass'⟩ := findCollective_eq_some hb
      refine .inr ⟨a, b, rfl, hb, fun hknown => ?_⟩
      exact hagree a hmem b (hcollectives.mem_iff.mp hmem') (hclass.trans hclass'.symm)
        (hclass ▸ hknown)

end Reordering

namespace Settled

/-- A congestion observation with a link, valid for as long as can be said. -/
def busy : CongestionEvidence :=
  { quiet ⟨6, 0⟩ with validForMs := 0xFFFFFFFFFFFFFFFF, links := [{}] }

/--
The settled snapshot at a later time: the topology and the members are renewed,
the congestion observation is not.
-/
def aged (policy : TrafficPolicy) (age : UInt64) : EvaluationSnapshot :=
  { snapshot policy ⟨6, 0⟩ none (some busy) with
    policyGeneration := ⟨5, 0⟩
    topology := some { topology ⟨6, 0⟩ with capturedMonotonicMs := age }
    peers := members.map fun p => { member p with expiresAtMonotonicMs := 0xFFFFFFFFFFFFFFFF }
    freshness := { congestionMaxAgeMs := 0 }
    nowMonotonicMs := age }

variable {policy : TrafficPolicy} {age : UInt64} {collectiveClass : CollectiveClass}
variable {requested : Option TrafficClass} {entry : CollectiveClassPolicy}

theorem evidenceAge_self (now : UInt64) : evidenceAge now now = 0 := by
  simp [evidenceAge]

theorem evidenceAge_of_start (now : UInt64) : evidenceAge now 0 = now := by
  simp [evidenceAge]

theorem findPeer_aged :
    ∀ p ∈ members, (aged policy age).findPeer p =
      some { member p with expiresAtMonotonicMs := 0xFFFFFFFFFFFFFFFF } := by
  have hfound : ∀ p ∈ members,
      binaryFind
        (members.map fun p => { member p with expiresAtMonotonicMs := 0xFFFFFFFFFFFFFFFF }) p
        PeerLiveness.participant =
      some { member p with expiresAtMonotonicMs := 0xFFFFFFFFFFFFFFFF } := by
    decide
  exact hfound

theorem aged_membership (hage : age ≤ longestAgeMs) :
    firstFailure (membershipChecks (aged policy age) (definition collectiveClass)) = none := by
  have hbefore : ¬ (0xFFFFFFFFFFFFFFFF : UInt64) ≤ age := by
    intro hlast
    exact absurd (UInt64.le_trans hlast hage) (by decide)
  have hlive : ∀ p ∈ members, (!participantNotLive (aged policy age) p) = true := by
    intro p hp
    rw [participantNotLive, findPeer_aged p hp, Bool.not_eq_true']
    exact decide_eq_false hbefore
  have hcurrent : topologyStaleness (aged policy age)
      { topology ⟨6, 0⟩ with capturedMonotonicMs := age } = none := by
    simp [topologyStaleness, aged, snapshot, topology, evidenceAge_self]
  have hnodes : ∀ p ∈ members, (!participantNodeMissing (aged policy age)
      { topology ⟨6, 0⟩ with capturedMonotonicMs := age } p) = true := by
    intro p hp
    rw [participantNodeMissing, findPeer_aged p hp, Bool.not_eq_true']
    exact congrArg Option.isNone (findNode_member ⟨6, 0⟩ p)
  rw [firstFailure_eq_none_iff]
  simp only [membershipChecks, List.forall_mem_cons]
  exact ⟨List.all_eq_true.mpr hlive, congrArg Option.isNone hcurrent,
    List.all_eq_true.mpr hnodes, by rintro _ ⟨⟩⟩

/-- The observation is used as long as the entry lets it. -/
theorem observedCongestion_aged_iff (hage : age ≤ longestAgeMs) :
    (observedCongestion (aged policy age) entry).2 = true ↔ age ≤ entry.freshnessRequirementMs := by
  have hmin : evidenceAge age 0 ≤ min 0xFFFFFFFFFFFFFFFF entry.freshnessRequirementMs ↔
      age ≤ entry.freshnessRequirementMs := by
    rw [evidenceAge_of_start, word_le_min_iff]
    exact and_iff_right (UInt64.le_trans hage (by decide))
  -- The default bound is zero, as is the requirement of an entry that leaves it to the default.
  have hbound : (if entry.freshnessRequirementMs = 0 then 0 else entry.freshnessRequirementMs) =
      entry.freshnessRequirementMs := by
    split
    · rename_i hzero
      exact hzero.symm
    · rfl
  have hread : observedCongestion (aged policy age) entry =
      if (⟨8, 0⟩ : Identity).isSome = true ∧ (⟨6, 0⟩ : Identity) = ⟨6, 0⟩ ∧
          evidenceAge age 0 ≤ min 0xFFFFFFFFFFFFFFFF
            (if entry.freshnessRequirementMs = 0 then 0 else entry.freshnessRequirementMs) then
        (0, true)
      else
        (0, false) := by
    rfl
  rw [hread, hbound, ← hmin]
  split
  · rename_i hfresh
    exact iff_of_true rfl hfresh.2.2
  · rename_i hstale
    exact iff_of_false nofun fun hfresh => hstale ⟨rfl, rfl, hfresh⟩

section Entry

variable (hentry : policy.findCollective collectiveClass = some entry)
variable (hage : age ≤ longestAgeMs)

include hentry hage

/-- A grant gives the class asked for, or the one of the entry, and tells of the observation. -/
theorem aged_granted
    (h : outcomeGrantsAuthority
      (evaluate (aged policy age) (request requested) (definition collectiveClass)).outcome =
        true) :
    let decision := evaluate (aged policy age) (request requested) (definition collectiveClass)
    decision.trafficClass = requested.getD entry.trafficClass ∧
      (decision.congestionEvidenceUsed = true ↔ age ≤ entry.freshnessRequirementMs) := by
  obtain ⟨installed, topology, found, classPolicy, group, hgrant, hrecord⟩ :=
    evaluate_eq_grantRecord h
  obtain rfl : policy = installed := Option.some.inj hgrant.policyInstalled
  obtain rfl : entry = found := Option.some.inj (hentry.symm.trans hgrant.collective)
  intro decision
  have hdecision : decision = _ := hrecord
  rw [hdecision]
  constructor
  · cases requested <;> rfl
  · have hused : (grantRecord (aged policy age) (request requested) (definition collectiveClass)
        group policy entry classPolicy).congestionEvidenceUsed =
          (observedCongestion (aged policy age) entry).2 :=
      computePacing_congestionUsed _ _ _ _
    rw [hused, observedCongestion_aged_iff hage]

section Known

variable (hknown : isKnownCollectiveClass collectiveClass = true)

include hknown

/-- What is left of the evaluation: the rules of the entry, and the treatment it leads to. -/
theorem aged_verdict :
    (evaluate (aged policy age) (request requested) (definition collectiveClass)).verdict =
      firstFailure
        ([ ⟨!requested.isSome || entry.allowMemberOverride, (.rejectedPolicy, .semantics)⟩,
          ⟨!requested.isSome || trafficClassIsClassified (requested.getD .unclassified),
            (.rejectedPolicy, .semantics)⟩,
          ⟨trafficClassIsClassified (requested.getD entry.trafficClass),
            (.unknownSemantics, .semantics)⟩ ] ++
          treatmentChecks (aged policy age) (request requested) (definition collectiveClass)) := by
  have hplan : firstFailure (planChecks (request requested) (definition collectiveClass)) =
      none := by
    rfl
  have hauthority : firstFailure (authorityChecks (aged policy age) (request requested)) =
      none := by
    rfl
  have hstated : statedCollective (aged policy age) (definition collectiveClass) = some entry :=
    hentry
  have hselected : selectedClass (request requested) entry =
      requested.getD entry.trafficClass := by
    cases requested <;> rfl
  have hclass : isKnownCollectiveClass (definition collectiveClass).collectiveClass = true := hknown
  rw [evaluate_verdict, engineChecks, laterChecks, firstFailure_append, hplan,
    firstFailure_append, hauthority, firstFailure_append, aged_membership hage]
  simp only [Option.none_or, semanticsChecks, List.cons_append, firstFailure_cons, hstated,
    Option.isSome_some, hclass, if_true, Option.all_some, hselected]
  rfl

/-- A request for bulk treatment meets the override rule of the entry. -/
theorem aged_override_iff :
    (evaluate (aged policy age) (request (some .bulkData)) (definition collectiveClass)).verdict =
      some (.rejectedPolicy, .semantics) ↔ entry.allowMemberOverride = false := by
  rw [aged_verdict hentry hage hknown]
  cases hoverride : entry.allowMemberOverride with
  | false => exact iff_of_true rfl rfl
  | true =>
    refine iff_of_false ?_ nofun
    intro hreport
    exact (treatmentChecks_report hreport).2 rfl

/-- A request without a class meets the class the entry gives. -/
theorem aged_unclassified_iff :
    (evaluate (aged policy age) (request none) (definition collectiveClass)).verdict =
      some (.unknownSemantics, .semantics) ↔ entry.trafficClass = .unclassified := by
  rw [aged_verdict hentry hage hknown]
  by_cases hclass : entry.trafficClass = .unclassified
  · rw [hclass]
    exact iff_of_true rfl rfl
  · refine iff_of_false ?_ hclass
    intro hreport
    have hclassified := classified_of_ne hclass
    simp only [Option.isSome_none, Bool.not_false, Bool.true_or, Option.getD_none,
      List.cons_append, List.nil_append, firstFailure_cons, if_true, hclassified] at hreport
    exact (treatmentChecks_report hreport).2 rfl

/-- A stated class that the entry leads to is granted while the observation is fresh enough. -/
theorem aged_grants {classPolicy : TrafficClassPolicy}
    (hoverride : requested.isSome = true → entry.allowMemberOverride = true)
    (hclassified : requested.getD entry.trafficClass ≠ .unclassified)
    (hclass : policy.findClass (requested.getD entry.trafficClass) = some classPolicy)
    (hfresh : age ≤ entry.freshnessRequirementMs) :
    outcomeGrantsAuthority
      (evaluate (aged policy age) (request requested) (definition collectiveClass)).outcome =
        true := by
  have hselected : selectedClass (request requested) entry =
      requested.getD entry.trafficClass := by
    cases requested <;> rfl
  have htreatment : statedTreatment (aged policy age) (request requested)
      (definition collectiveClass) = some (policy, entry, classPolicy) := by
    show (policy.findCollective collectiveClass).bind _ = _
    rw [hentry, Option.bind_some, hselected, hclass]
    rfl
  have havailable : (aged policy age).congestionObservationAvailable = true := rfl
  have hrecent : congestionIsFresh (aged policy age) entry = true := by
    have hmin : evidenceAge age 0 ≤ min 0xFFFFFFFFFFFFFFFF entry.freshnessRequirementMs := by
      rw [evidenceAge_of_start, word_le_min_iff]
      exact ⟨UInt64.le_trans hage (by decide), hfresh⟩
    exact decide_eq_true hmin
  have hfloor : FloorHonored (aged policy age) policy classPolicy entry :=
    fun havailable => absurd rfl havailable
  have hverdict : (evaluate (aged policy age) (request requested)
      (definition collectiveClass)).verdict = none := by
    have hprelude : (!requested.isSome || entry.allowMemberOverride) = true ∧
        (!requested.isSome || trafficClassIsClassified (requested.getD .unclassified)) = true := by
      cases requested with
      | none => exact ⟨rfl, rfl⟩
      | some value => exact ⟨hoverride rfl, classified_of_ne hclassified⟩
    rw [aged_verdict hentry hage hknown]
    simp only [treatmentChecks, semanticsChecks, evidenceChecks, floorCheck, List.drop_succ_cons,
      List.drop_zero, List.cons_append, List.nil_append, firstFailure_cons, hprelude.1, hprelude.2,
      classified_of_ne hclassified, htreatment, Option.isSome_some, Option.all_some, havailable,
      hrecent, hfloor, if_true, decide_true, Bool.or_true, firstFailure_nil]
  by_contra hwithheld
  rw [DecisionRecord.verdict, if_neg hwithheld] at hverdict
  cases hverdict

end Known

end Entry

/-- Two policies with an entry for the collective class that evaluate every aged snapshot alike. -/
structure Alike
    (policy policy' : TrafficPolicy) (collectiveClass : CollectiveClass)
    (a b : CollectiveClassPolicy) : Prop where
  known : isKnownCollectiveClass collectiveClass = true
  entry : policy.findCollective collectiveClass = some a
  entry' : policy'.findCollective collectiveClass = some b
  same : ∀ age requested,
    evaluate (aged policy age) (request requested) (definition collectiveClass) =
      evaluate (aged policy' age) (request requested) (definition collectiveClass)

namespace Alike

variable {policy' : TrafficPolicy} {a b : CollectiveClassPolicy}

theorem symm (h : Alike policy policy' collectiveClass a b) :
    Alike policy' policy collectiveClass b a := by
  exact
    { known := h.known
      entry := h.entry'
      entry' := h.entry
      same := fun age requested => (h.same age requested).symm }

theorem override (h : Alike policy policy' collectiveClass a b) :
    a.allowMemberOverride = b.allowMemberOverride := by
  rw [Bool.eq_iff_iff, ← not_iff_not, Bool.not_eq_true, Bool.not_eq_true,
    ← aged_override_iff h.entry (by decide : 0 ≤ longestAgeMs) h.known, h.same,
    aged_override_iff h.entry' (by decide) h.known]

theorem unclassified_iff (h : Alike policy policy' collectiveClass a b) :
    a.trafficClass = .unclassified ↔ b.trafficClass = .unclassified := by
  rw [← aged_unclassified_iff h.entry (by decide : 0 ≤ longestAgeMs) h.known, h.same,
    aged_unclassified_iff h.entry' (by decide) h.known]

/-- A class that one policy states for its entry is the class of the other entry. -/
theorem trafficClass_eq (h : Alike policy policy' collectiveClass a b)
    (hclassified : a.trafficClass ≠ .unclassified)
    (hstated : policy.findClass a.trafficClass ≠ none) : a.trafficClass = b.trafficClass := by
  obtain ⟨classPolicy, hclass⟩ := Option.ne_none_iff_exists'.mp hstated
  have hgrants : outcomeGrantsAuthority
      (evaluate (aged policy 0) (request none) (definition collectiveClass)).outcome = true :=
    aged_grants h.entry (by decide) h.known nofun hclassified hclass UInt64.zero_le
  obtain ⟨hgiven, -⟩ := aged_granted h.entry (by decide) hgrants
  rw [h.same] at hgrants hgiven
  obtain ⟨hgiven', -⟩ := aged_granted h.entry' (by decide) hgrants
  exact hgiven.symm.trans hgiven'

/-- An age beyond the bound of one entry alone would tell the two apart. -/
theorem freshness_le (h : Alike policy policy' collectiveClass a b)
    {classPolicy : TrafficClassPolicy}
    (hoverride : requested.isSome = true → b.allowMemberOverride = true)
    (hclassified : requested.getD b.trafficClass ≠ .unclassified)
    (hclass : policy'.findClass (requested.getD b.trafficClass) = some classPolicy)
    (hbelow : a.freshnessRequirementMs < longestAgeMs) :
    b.freshnessRequirementMs ≤ a.freshnessRequirementMs := by
  by_contra hlonger
  rw [UInt64.not_le] at hlonger
  have hsucc : (a.freshnessRequirementMs + 1).toNat = a.freshnessRequirementMs.toNat + 1 := by
    have hlast := longestAgeMs.toNat_lt
    have hlt := UInt64.lt_iff_toNat_lt.mp hbelow
    exact toNat_add_of_lt (by simp only [UInt64.toNat_one]; omega)
  have hage : a.freshnessRequirementMs + 1 ≤ longestAgeMs := by
    rw [UInt64.le_iff_toNat_le, hsucc]
    exact UInt64.lt_iff_toNat_lt.mp hbelow
  have hfresh : a.freshnessRequirementMs + 1 ≤ b.freshnessRequirementMs := by
    rw [UInt64.le_iff_toNat_le, hsucc]
    exact UInt64.lt_iff_toNat_lt.mp hlonger
  have hgrants := aged_grants h.entry' hage h.known hoverride hclassified hclass hfresh
  have hused := (aged_granted h.entry' hage hgrants).2.mpr hfresh
  rw [← h.same] at hgrants hused
  have hwithin := (aged_granted h.entry hage hgrants).2.mp hused
  rw [UInt64.le_iff_toNat_le, hsucc] at hwithin
  omega

end Alike

end Settled

section Necessity

variable {policy : TrafficPolicy} {a b : CollectiveClassPolicy}

/-- The policy with one of its collective entries moved to the front. -/
def TrafficPolicy.leading
    (policy : TrafficPolicy) (entry : CollectiveClassPolicy) : TrafficPolicy :=
  policy.withTables policy.classPolicies (entry :: policy.collectivePolicies.erase entry)

theorem findCollective_leading (policy : TrafficPolicy) (entry : CollectiveClassPolicy) :
    (policy.leading entry).findCollective entry.collectiveClass = some entry := by
  exact List.find?_cons_of_pos (beq_self_eq_true _)

theorem evaluate_leading (h : policy.OrderIrrelevant) (ha : a ∈ policy.collectivePolicies)
    (age : UInt64) (request : DecisionRequest) (definition : CollectiveDefinition) :
    evaluate (Settled.aged (policy.leading a) age) request definition =
      evaluate (Settled.aged policy age) request definition := by
  exact h _ _ (List.Perm.refl _) (List.perm_cons_erase ha).symm (Settled.aged policy age)
    request definition rfl

theorem alike_of_orderIrrelevant (h : policy.OrderIrrelevant) (ha : a ∈ policy.collectivePolicies)
    (hb : b ∈ policy.collectivePolicies) (hsame : a.collectiveClass = b.collectiveClass)
    (hknown : isKnownCollectiveClass a.collectiveClass = true) :
    Settled.Alike (policy.leading a) (policy.leading b) a.collectiveClass a b := by
  exact
    { known := hknown
      entry := findCollective_leading policy a
      entry' := hsame ▸ findCollective_leading policy b
      same := fun age requested =>
        (evaluate_leading h ha age _ _).trans (evaluate_leading h hb age _ _).symm }

/-- Entries that can be exchanged without an effect are interchangeable. -/
theorem interchangeable_of_orderIrrelevant (h : policy.OrderIrrelevant)
    (ha : a ∈ policy.collectivePolicies) (hb : b ∈ policy.collectivePolicies)
    (hsame : a.collectiveClass = b.collectiveClass)
    (hknown : isKnownCollectiveClass a.collectiveClass = true) : policy.Interchangeable a b := by
  have halike := alike_of_orderIrrelevant h ha hb hsame hknown
  have hclass : a.trafficClass = b.trafficClass ∨ policy.LeavesOut a ∧ policy.LeavesOut b := by
    by_cases heq : a.trafficClass = b.trafficClass
    · exact .inl heq
    have hset : a.trafficClass ≠ .unclassified := by
      intro hnone
      exact heq (hnone.trans (halike.unclassified_iff.mp hnone).symm)
    have hset' : b.trafficClass ≠ .unclassified := mt halike.unclassified_iff.mpr hset
    refine .inr ⟨⟨hset, ?_⟩, hset', ?_⟩
    · by_contra hstated
      exact heq (halike.trafficClass_eq hset hstated)
    · by_contra hstated
      exact heq (halike.symm.trafficClass_eq hset' hstated).symm
  refine { override := halike.override, trafficClass := hclass, freshness := ?_ }
  by_cases htreats : policy.Treats a
  swap
  · exact .inr (.inr htreats)
  obtain ⟨value, hset, hstated, hreached⟩ := htreats
  obtain ⟨classPolicy, hfound⟩ := Option.ne_none_iff_exists'.mp hstated
  -- Either entry leads to the stated class, by itself or on request.
  obtain ⟨requested, hasked, hgiven, hgiven'⟩ : ∃ requested : Option TrafficClass,
      (requested.isSome = true → a.allowMemberOverride = true) ∧
        requested.getD a.trafficClass = value ∧ requested.getD b.trafficClass = value := by
    rcases hreached with rfl | hoverride
    · refine ⟨none, nofun, rfl, ?_⟩
      exact (halike.trafficClass_eq hset hstated).symm
    · exact ⟨some value, fun _ => hoverride, rfl, rfl⟩
  have hle : a.freshnessRequirementMs < longestAgeMs →
      b.freshnessRequirementMs ≤ a.freshnessRequirementMs :=
    halike.freshness_le (fun hsome => halike.override ▸ hasked hsome) (hgiven'.symm ▸ hset)
      (hgiven'.symm ▸ hfound)
  have hle' : b.freshnessRequirementMs < longestAgeMs →
      a.freshnessRequirementMs ≤ b.freshnessRequirementMs :=
    halike.symm.freshness_le hasked (hgiven.symm ▸ hset) (hgiven.symm ▸ hfound)
  by_cases hshort : a.freshnessRequirementMs < longestAgeMs
  · have hshort' := UInt64.lt_of_le_of_lt (hle hshort) hshort
    exact .inl (UInt64.le_antisymm (hle' hshort') (hle hshort))
  · have hlong := UInt64.not_lt.mp hshort
    refine .inr (.inl ⟨hlong, UInt64.not_lt.mp fun hshort' => hshort ?_⟩)
    exact UInt64.lt_of_le_of_lt (hle' hshort') hshort'

end Necessity

/--
The order of the entries of a valid policy is irrelevant to every evaluation
exactly when any two entries of one known collective class are interchangeable.
-/
theorem policy_order_irrelevant_iff {policy : TrafficPolicy}
    (hvalid : policy.validate.isOk = true) : policy.OrderIrrelevant ↔ policy.EntriesAgree := by
  constructor
  · intro h a ha b hb hsame hknown
    exact interchangeable_of_orderIrrelevant h ha hb hsame hknown
  · intro h classes collectives hclasses hcollectives snapshot request definition hinstalled
    exact evaluate_readAlike
      (readAlike_of_perm (policyValid_of_validate hvalid) h hclasses hcollectives _) hinstalled

theorem TrafficPolicy.Interchangeable.refl (policy : TrafficPolicy)
    (entry : CollectiveClassPolicy) : policy.Interchangeable entry entry := by
  exact { override := rfl, trafficClass := .inl rfl, freshness := .inl rfl }

/-- Without a repeated collective class there is nothing to exchange. -/
theorem entriesAgree_of_nodup {policy : TrafficPolicy}
    (h : (policy.collectivePolicies.map CollectiveClassPolicy.collectiveClass).Nodup) :
    policy.EntriesAgree := by
  intro a ha b hb hsame _
  obtain rfl := List.inj_on_of_nodup_map h ha hb hsame
  exact TrafficPolicy.Interchangeable.refl policy a

/-- The standard policy has one entry for each collective class. -/
theorem standard_order_irrelevant : (TrafficPolicy.standard ⟨5, 0⟩).OrderIrrelevant := by
  exact (policy_order_irrelevant_iff (by decide)).mpr (entriesAgree_of_nodup (by decide))

namespace Repeated

/-- A policy that states the all-reduce twice, once for bulk and once for background treatment. -/
def policy : TrafficPolicy :=
  { TrafficPolicy.standard ⟨5, 0⟩ with
    collectivePolicies :=
      [ TrafficPolicy.standardCollective .unknown .unclassified false false 0,
        TrafficPolicy.standardCollective .allReduce .bulkData false false 2000,
        TrafficPolicy.standardCollective .allReduce .background false false 2000 ] }

def snapshot : EvaluationSnapshot :=
  Settled.snapshot policy ⟨6, 0⟩ none (some (Settled.quiet ⟨6, 0⟩))

end Repeated

open Repeated in
/-- The policy validates, and with its entries reversed another class is granted. -/
theorem repeated_entry_order_matters :
    let reversed := policy.withTables policy.classPolicies policy.collectivePolicies.reverse
    policy.validate.isOk = true ∧
      (evaluate snapshot (Settled.request none) (Settled.definition .allReduce)).trafficClass =
        .bulkData ∧
      (evaluate { snapshot with policy := some reversed } (Settled.request none)
        (Settled.definition .allReduce)).trafficClass = .background := by
  decide

end TrafficFabric
