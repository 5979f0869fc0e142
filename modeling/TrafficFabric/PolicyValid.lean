import TrafficFabric.Traffic

/-!
# What a policy that validates guarantees

The validator passes over the class policies and then over the tables.  What it
establishes is read off once: distinct classes with a floor below the ceiling,
a response table with ascending boundaries and usable numerators, and a burst
multiplier of at most the whole rate.

It does not relate the numerators of the response table to each other, and it
accepts every combination of class and override permission.
-/

namespace TrafficFabric

variable {policy : TrafficPolicy} {entry : TrafficClassPolicy}

/-- What the pass over the class policies establishes for one entry. -/
structure ClassPolicyValid (entry : TrafficClassPolicy) : Prop where
  priority : entry.priority ≤ maximumPriority
  floor : entry.minimumBandwidthBps ≤ entry.maximumBandwidthBps
  burst : entry.burstBytes ≤ (1 : UInt64) <<< 62

/-- Boundaries ascend within the scale, and numerators are usable shares. -/
structure ResponseValid (table : CongestionResponseTable) : Prop where
  boundary : ∀ i : Fin 5, 0 < table.utilizationBps.get i ∧ table.utilizationBps.get i ≤ 10000
  numerator : ∀ i : Fin 5,
    0 < table.rateNumeratorPerMille.get i ∧ table.rateNumeratorPerMille.get i ≤ 1000
  ascending : ∀ i : Fin 5, 0 < i.val →
    table.utilizationBps.get (CongestionResponseTable.previous i) < table.utilizationBps.get i

/-- Everything the engine may rely on in an installed policy. -/
structure PolicyValid (policy : TrafficPolicy) : Prop where
  generation : policy.generation ≠ Identity.none
  classes : ∀ entry ∈ policy.classPolicies, ClassPolicyValid entry
  distinct : (policy.classPolicies.map TrafficClassPolicy.trafficClass).Nodup
  classCount : policy.classPolicies.length ≤ 8
  unclassified : policy.findClass .unclassified ≠ none
  unknown : policy.findCollective .unknown ≠ none
  response : ResponseValid policy.congestionResponse
  burstMultiplier : policy.burstMultiplierPerMille ≤ 1000
  collectiveCount : policy.collectivePolicies.length ≤ 16

namespace CongestionResponseTable

theorem isValid_iff (table : CongestionResponseTable) :
    table.isValid = true ↔ ResponseValid table := by
  unfold isValid
  rw [List.all_eq_true]
  constructor
  · intro h
    have hentry : ∀ i : Fin 5,
        (0 < table.utilizationBps.get i ∧ table.utilizationBps.get i ≤ 10000) ∧
        (0 < table.rateNumeratorPerMille.get i ∧ table.rateNumeratorPerMille.get i ≤ 1000) ∧
        (0 < i.val → table.utilizationBps.get (previous i) < table.utilizationBps.get i) := by
      intro i
      have hi := h i (List.mem_finRange i)
      simp only [Bool.and_eq_true, Bool.not_eq_true', Bool.or_eq_false_iff, beq_eq_false_iff_ne,
        decide_eq_false_iff_not, Bool.and_eq_false_iff, UInt32.not_lt, UInt32.not_le] at hi
      obtain ⟨⟨⟨hset, hscale⟩, husable, hwhole⟩, hascend⟩ := hi
      refine ⟨⟨UInt32.pos_iff_ne_zero.mpr hset, hscale⟩,
        ⟨UInt32.pos_iff_ne_zero.mpr husable, hwhole⟩, fun hpos => ?_⟩
      exact hascend.resolve_left fun hfirst => hfirst hpos
    exact
      { boundary := fun i => (hentry i).1
        numerator := fun i => (hentry i).2.1
        ascending := fun i => (hentry i).2.2 }
  · intro h i _
    obtain ⟨hset, hscale⟩ := h.boundary i
    obtain ⟨husable, hwhole⟩ := h.numerator i
    simp only [Bool.and_eq_true, Bool.not_eq_true', Bool.or_eq_false_iff, beq_eq_false_iff_ne,
      decide_eq_false_iff_not, Bool.and_eq_false_iff, UInt32.not_lt, UInt32.not_le]
    refine ⟨⟨⟨UInt32.pos_iff_ne_zero.mp hset, hscale⟩,
      UInt32.pos_iff_ne_zero.mp husable, hwhole⟩, ?_⟩
    by_cases hpos : 0 < i.val
    · exact .inr (h.ascending i hpos)
    · exact .inl hpos

end CongestionResponseTable

/-- A floor that passes the comparison with the ceiling is below it, unlimited or not. -/
theorem floor_le_ceiling (h : ¬ (entry.maximumBandwidthBps ≠ unlimitedRate ∧
      entry.maximumBandwidthBps < entry.minimumBandwidthBps)) :
    entry.minimumBandwidthBps ≤ entry.maximumBandwidthBps := by
  by_cases hunlimited : entry.maximumBandwidthBps = unlimitedRate
  · rw [hunlimited, UInt64.le_iff_toNat_le]
    have hbound := entry.minimumBandwidthBps.toNat_lt
    have hmax : unlimitedRate.toNat = 2 ^ 64 - 1 := by decide
    omega
  · exact UInt64.not_lt.mp fun hbelow => h ⟨hunlimited, hbelow⟩

/-- The pass over the class policies: each entry is checked, and no class is stated twice. -/
theorem validateClasses_valid {entries : List TrafficClassPolicy} :
    ∀ {seen : List TrafficClass},
      (TrafficPolicy.validateClasses seen entries).isOk = true →
      (∀ entry ∈ entries, ClassPolicyValid entry) ∧
        (entries.map TrafficClassPolicy.trafficClass).Nodup ∧
        ∀ entry ∈ entries, entry.trafficClass ∉ seen := by
  induction entries with
  | nil =>
    intro seen _
    simp
  | cons entry rest ih =>
    intro seen h
    unfold TrafficPolicy.validateClasses at h
    obtain ⟨hnew, h⟩ := (Status.isOk_check_iff rfl).mp h
    obtain ⟨hpriority, h⟩ := (Status.isOk_check_iff rfl).mp h
    obtain ⟨hfloor, h⟩ := (Status.isOk_check_iff rfl).mp h
    obtain ⟨hburst, h⟩ := (Status.isOk_check_iff rfl).mp h
    obtain ⟨hrest, hdistinct, hunseen⟩ := ih h
    have hentry : ClassPolicyValid entry :=
      { priority := UInt64.not_lt.mp hpriority
        floor := floor_le_ceiling hfloor
        burst := UInt64.not_lt.mp hburst }
    refine ⟨?_, ?_, ?_⟩
    · exact List.forall_mem_cons.mpr ⟨hentry, hrest⟩
    · rw [List.map_cons, List.nodup_cons]
      refine ⟨?_, hdistinct⟩
      rw [List.mem_map]
      rintro ⟨other, hother, hsame⟩
      exact hunseen other hother (hsame ▸ List.mem_cons_self)
    · refine List.forall_mem_cons.mpr ⟨hnew, fun other hother hseen => ?_⟩
      exact hunseen other hother (List.mem_cons_of_mem _ hseen)

theorem policyValid_of_validate (h : policy.validate.isOk = true) : PolicyValid policy := by
  unfold TrafficPolicy.validate at h
  obtain ⟨hgeneration, h⟩ := (Status.isOk_check_iff rfl).mp h
  obtain ⟨_, h⟩ := (Status.isOk_check_iff rfl).mp h
  obtain ⟨hcount, h⟩ := (Status.isOk_check_iff rfl).mp h
  obtain ⟨hclasses, h⟩ := Status.isOk_checked_iff.mp h
  obtain ⟨hentries, hdistinct, _⟩ := validateClasses_valid hclasses
  unfold TrafficPolicy.validateTables at h
  obtain ⟨hunclassified, h⟩ := (Status.isOk_check_iff rfl).mp h
  obtain ⟨hunknown, h⟩ := (Status.isOk_check_iff rfl).mp h
  obtain ⟨hresponse, h⟩ := (Status.isOk_check_iff rfl).mp h
  obtain ⟨hmultiplier, h⟩ := (Status.isOk_check_iff rfl).mp h
  obtain ⟨hcollectives, _⟩ := (Status.isOk_check_iff rfl).mp h
  exact
    { generation := by simpa using hgeneration
      classes := hentries
      distinct := hdistinct
      classCount := Nat.not_lt.mp hcount
      unclassified := by simpa using hunclassified
      unknown := by simpa using hunknown
      response := (CongestionResponseTable.isValid_iff _).mp (by simpa using hresponse)
      burstMultiplier := UInt64.not_lt.mp hmultiplier
      collectiveCount := Nat.not_lt.mp hcollectives }

/-- A class the policy states is one of its entries. -/
theorem findClass_eq_some {value : TrafficClass} (h : policy.findClass value = some entry) :
    entry ∈ policy.classPolicies ∧ entry.trafficClass = value := by
  refine ⟨List.mem_of_find?_eq_some h, ?_⟩
  simpa using List.find?_some h

theorem findCollective_eq_some {value : CollectiveClass} {entry : CollectiveClassPolicy}
    (h : policy.findCollective value = some entry) :
    entry ∈ policy.collectivePolicies ∧ entry.collectiveClass = value := by
  refine ⟨List.mem_of_find?_eq_some h, ?_⟩
  simpa using List.find?_some h

/-- Every entry's class is stated. -/
theorem findClass_isSome_of_mem (h : entry ∈ policy.classPolicies) :
    ∃ found, policy.findClass entry.trafficClass = some found := by
  rw [← Option.isSome_iff_exists]
  exact List.find?_isSome.mpr ⟨entry, h, by simp⟩

end TrafficFabric
