import TrafficFabric.FlowGroup
import TrafficFabric.Lib.Mixing

/-!
# Keys of edges

A plan is refused when two of its edges have one key, whether or not they are
the same edge.  The last mixing step of the key loses nothing of the value it
takes in, so edges that differ in the low half of their destination alone are
told apart.  For edges that differ before, the part of the word that a small
destination cannot reach decides.
-/

namespace TrafficFabric

open Lib

section Mixing

/-- What a mixing step adds to its value. -/
def mixOffset (state : UInt64) : UInt64 :=
  let shifted : UInt64 := state <<< 6
  let lowered : UInt64 := state >>> 2
  0x9E3779B97F4A7C15 + (shifted + lowered)

/-- What enters the multiplication of a mixing step. -/
def mixInput (state value : UInt64) : UInt64 :=
  state ^^^ (value + mixOffset state)

/-- The rest of a mixing step. -/
def mixFinish (input : UInt64) : UInt64 :=
  let product : UInt64 := input * 0xFF51AFD7ED558CCD
  product ^^^ (product >>> 33)

theorem mixFinish_injective : Function.Injective mixFinish := by
  have hshift := xor_shift_word_injective (k := 33) (by decide)
  have hmultiply := mul_word_injective
    (show (0xFF51AFD7ED558CCD : UInt64) * 0x4F74430C22A54005 = 1 by decide)
  intro x y h
  exact hmultiply (hshift h)

theorem mix_eq_mixFinish (state value : UInt64) :
    mix state value = mixFinish (mixInput state value) := by
  simp only [mix, mixFinish, mixInput, mixOffset, UInt64.add_assoc]

theorem mix_eq_iff {s t v w : UInt64} : mix s v = mix t w ↔ mixInput s v = mixInput t w := by
  rw [mix_eq_mixFinish, mix_eq_mixFinish]
  exact mixFinish_injective.eq_iff

theorem mix_injective (state : UInt64) : Function.Injective (mix state) := by
  intro v w h
  have hinput : state ^^^ (v + mixOffset state) = state ^^^ (w + mixOffset state) := mix_eq_iff.mp h
  exact add_word_injective _ ((UInt64.xor_right_inj state).mp hinput)

/-- A small value reaches the high part of a word by a carry at most. -/
theorem shiftRight_add_small {value offset : UInt64} (hvalue : value.toNat ≤ 4096)
    (hoffset : offset.toNat + 4096 < 2 ^ 64) :
    (value + offset) >>> 12 = offset >>> 12 ∨ (value + offset) >>> 12 = (4096 + offset) >>> 12 := by
  have hhigh : ∀ word : UInt64, (word >>> 12).toNat = word.toNat / 4096 := by
    intro word
    simp [Nat.shiftRight_eq_div_pow]
  have hsum : (value + offset).toNat = value.toNat + offset.toNat := by
    rw [UInt64.toNat_add]
    exact Nat.mod_eq_of_lt (by omega)
  have hfull : (4096 + offset).toNat = 4096 + offset.toNat := by
    rw [UInt64.toNat_add]
    exact Nat.mod_eq_of_lt (by simpa using by omega)
  rw [← UInt64.toNat_inj, ← UInt64.toNat_inj, hhigh, hhigh, hhigh, hsum, hfull]
  omega

/-- The high part of what a mixing step makes of a small value takes one of two values. -/
theorem mixInput_high {state value : UInt64} (hvalue : value.toNat ≤ 4096)
    (hoffset : (mixOffset state).toNat + 4096 < 2 ^ 64) :
    mixInput state value >>> 12 = mixInput state 0 >>> 12 ∨
      mixInput state value >>> 12 = mixInput state 4096 >>> 12 := by
  simp only [mixInput, UInt64.shiftRight_xor, UInt64.zero_add, UInt64.xor_right_inj]
  exact shiftRight_add_small hvalue hoffset

/-- The two states never reach one key from small values. -/
def MixesApart (s t : UInt64) : Prop :=
  (mixInput s 0 >>> 12 ≠ mixInput t 0 >>> 12 ∧
      mixInput s 0 >>> 12 ≠ mixInput t 4096 >>> 12) ∧
    mixInput s 4096 >>> 12 ≠ mixInput t 0 >>> 12 ∧ mixInput s 4096 >>> 12 ≠ mixInput t 4096 >>> 12

instance (s t : UInt64) : Decidable (MixesApart s t) :=
  inferInstanceAs (Decidable ((_ ∧ _) ∧ _ ∧ _))

theorem mix_ne_of_mixesApart {s t v w : UInt64} (hv : v.toNat ≤ 4096) (hw : w.toNat ≤ 4096)
    (hs : (mixOffset s).toNat + 4096 < 2 ^ 64) (ht : (mixOffset t).toNat + 4096 < 2 ^ 64)
    (h : MixesApart s t) : mix s v ≠ mix t w := by
  intro hsame
  have hinput : mixInput s v >>> 12 = mixInput t w >>> 12 := by
    rw [mix_eq_iff.mp hsame]
  obtain ⟨⟨hnone, hright⟩, hleft, hboth⟩ := h
  rcases mixInput_high hv hs with hfirst | hfirst
  · rcases mixInput_high hw ht with hsecond | hsecond
    · exact hnone (by rw [← hfirst, ← hsecond, hinput])
    · exact hright (by rw [← hfirst, ← hsecond, hinput])
  · rcases mixInput_high hw ht with hsecond | hsecond
    · exact hleft (by rw [← hfirst, ← hsecond, hinput])
    · exact hboth (by rw [← hfirst, ← hsecond, hinput])

end Mixing

section Validation

variable {allowed : List ParticipantId}

/-- An edge between two different members, with a step. -/
structure FlowEdge.Allowed (allowed : List ParticipantId) (edge : FlowEdge) : Prop where
  set : edge.source.isNone = false ∧ edge.destination.isNone = false
  proper : edge.source ≠ edge.destination
  members : edge.source ∈ allowed ∧ edge.destination ∈ allowed
  step : edge.stepIndex.isUnset = false

/-- The edges pass exactly when each of them is allowed and no key comes twice. -/
theorem validateEdges_isOk_iff {seen : List UInt64} {edges : List FlowEdge} :
    (validateEdges allowed seen edges).isOk = true ↔
      (∀ edge ∈ edges, edge.Allowed allowed) ∧ (edges.map edgeKey).Nodup ∧
        ∀ edge ∈ edges, edgeKey edge ∉ seen := by
  induction edges generalizing seen with
  | nil => simp [validateEdges]
  | cons _ _ ih =>
    rw [validateEdges, Status.isOk_check_iff rfl, Status.isOk_check_iff rfl,
      Status.isOk_check_iff rfl, Status.isOk_check_iff rfl, Status.isOk_check_iff rfl, ih,
      List.map_cons, List.nodup_cons]
    simp only [Bool.or_eq_true, not_or, Bool.not_eq_true, not_not, List.mem_cons,
      List.mem_map, forall_eq_or_imp]
    constructor
    · rintro ⟨hset, hproper, hmembers, hstep, hfresh, hallowed, hnodup, hapart⟩
      refine ⟨⟨⟨hset, hproper, hmembers, hstep⟩, hallowed⟩, ⟨?_, hnodup⟩, hfresh, ?_⟩
      · rintro ⟨other, hother, hsame⟩
        exact (hapart other hother).1 hsame
      · exact fun other hother => (hapart other hother).2
    · rintro ⟨⟨hedge, hallowed⟩, ⟨hapart, hnodup⟩, hfresh, hrest⟩
      refine ⟨hedge.set, hedge.proper, hedge.members, hedge.step, hfresh, hallowed, hnodup, ?_⟩
      exact fun other hother => ⟨fun hsame => hapart ⟨other, hother, hsame⟩, hrest other hother⟩

/-- Every structural rule but the one on duplicates. -/
structure FlowGroupPlan.WellFormed (allowed : List ParticipantId) (plan : FlowGroupPlan) :
    Prop where
  attempt : plan.collectiveInstance.id.isNone = false ∧
    plan.collectiveInstance.generation.isNone = false ∧
    plan.collectiveInstance.attempt.isNone = false
  nonempty : plan.edges ≠ []
  bounded : plan.edges.length ≤ Limits.edgesMaxPerFlowGroup
  directed : plan.direction ≠ .unknown
  members : allowed ≠ []
  edges : ∀ edge ∈ plan.edges, edge.Allowed allowed

/-- A plan passes exactly when it is well formed and no key of its edges comes twice. -/
theorem validateFlowGroupPlan_isOk_iff {plan : FlowGroupPlan} :
    (validateFlowGroupPlan plan allowed).isOk = true ↔
      plan.WellFormed allowed ∧ (plan.edges.map edgeKey).Nodup := by
  rw [validateFlowGroupPlan, Status.isOk_check_iff rfl, Status.isOk_check_iff rfl,
    Status.isOk_check_iff rfl, Status.isOk_check_iff rfl, Status.isOk_check_iff rfl,
    Status.isOk_check_iff rfl, Status.isOk_check_iff rfl, validateEdges_isOk_iff]
  simp only [Bool.not_eq_true, List.isEmpty_iff, Nat.not_lt]
  constructor
  · rintro ⟨hid, hgeneration, hattempt, hsome, hbounded, hdirected, hmembers, hedges, hkeys, -⟩
    exact ⟨⟨⟨hid, hgeneration, hattempt⟩, hsome, hbounded, hdirected, hmembers, hedges⟩, hkeys⟩
  · rintro ⟨h, hkeys⟩
    refine ⟨h.attempt.1, h.attempt.2.1, h.attempt.2.2, h.nonempty, h.bounded, h.directed, h.members,
      h.edges, hkeys, ?_⟩
    simp

end Validation

section Duplicates

variable {allowed : List ParticipantId}

/-- The two edges state one obligation: the same step, source and destination. -/
def FlowEdge.SameObligation (a b : FlowEdge) : Prop :=
  a.stepIndex = b.stepIndex ∧ a.source = b.source ∧ a.destination = b.destination

theorem FlowEdge.SameObligation.edgeKey_eq {a b : FlowEdge} (h : a.SameObligation b) :
    edgeKey a = edgeKey b := by
  obtain ⟨hstep, hsource, hdestination⟩ := h
  rw [edgeKey, edgeKey, hstep, hsource, hdestination]

/-- An edge is called a duplicate when its key was seen before or comes twice. -/
theorem validateEdges_duplicate {seen : List UInt64} {edges : List FlowEdge}
    (h : (validateEdges allowed seen edges).code = .validationEdgeDuplicate)
    (hfresh : ∀ edge ∈ edges, edgeKey edge ∉ seen) : ¬ (edges.map edgeKey).Nodup := by
  induction edges generalizing seen with
  | nil => cases h
  | cons edge rest ih =>
    rw [validateEdges] at h
    split at h
    · cases h
    split at h
    · cases h
    split at h
    · cases h
    split at h
    · cases h
    rw [if_neg (hfresh edge List.mem_cons_self)] at h
    rw [List.map_cons, List.nodup_cons]
    rintro ⟨hapart, hnodup⟩
    refine ih h ?_ hnodup
    intro other hother hseen
    rcases List.mem_cons.mp hseen with hsame | hbefore
    · exact hapart (hsame ▸ List.mem_map_of_mem hother)
    · exact hfresh other (List.mem_cons_of_mem _ hother) hbefore

theorem validateFlowGroupPlan_duplicate {plan : FlowGroupPlan}
    (h : (validateFlowGroupPlan plan allowed).code = .validationEdgeDuplicate) :
    ¬ (plan.edges.map edgeKey).Nodup := by
  unfold validateFlowGroupPlan at h
  split at h
  · cases h
  split at h
  · cases h
  split at h
  · cases h
  split at h
  · cases h
  split at h
  · cases h
  split at h
  · cases h
  split at h
  · cases h
  exact validateEdges_duplicate h (by simp)

/--
The duplicate error is returned only for two edges with one key, and a well
formed plan without such edges is accepted.
-/
theorem duplicate_error_of_equal_keys (plan : FlowGroupPlan) (allowed : List ParticipantId) :
    ((validateFlowGroupPlan plan allowed).code = .validationEdgeDuplicate →
        ∃ a b, [a, b].Sublist plan.edges ∧ edgeKey a = edgeKey b) ∧
      (plan.WellFormed allowed → (∀ a b, [a, b].Sublist plan.edges → edgeKey a ≠ edgeKey b) →
        (validateFlowGroupPlan plan allowed).isOk = true) := by
  have hnodup : (plan.edges.map edgeKey).Nodup ↔
      ∀ a b, [a, b].Sublist plan.edges → edgeKey a ≠ edgeKey b := by
    rw [List.Nodup, List.pairwise_map, List.pairwise_iff_forall_sublist]
  refine ⟨?_, ?_⟩
  · intro hduplicate
    have htwice := validateFlowGroupPlan_duplicate hduplicate
    rw [hnodup] at htwice
    push Not at htwice
    exact htwice
  · intro hformed hkeys
    exact validateFlowGroupPlan_isOk_iff.mpr ⟨hformed, hnodup.mpr hkeys⟩

/-- The first member sends to the second in step one, and to the third in step two. -/
def collidingPlan : FlowGroupPlan where
  collectiveInstance := { id := ⟨31, 0⟩, generation := ⟨32, 0⟩, attempt := ⟨33, 0⟩ }
  edges :=
    [ { source := ⟨0, 1⟩, destination := ⟨0, 2⟩, stepIndex := ⟨1⟩ },
      { source := ⟨0, 1⟩, destination := ⟨0, 0x537CC185BBAFEFD5⟩, stepIndex := ⟨2⟩ } ]

def collidingMembers : List ParticipantId :=
  [⟨0, 1⟩, ⟨0, 2⟩, ⟨0, 0x537CC185BBAFEFD5⟩]

/-- Two edges of different steps to different members are refused as one stated twice. -/
theorem distinct_edges_refused :
    (validateFlowGroupPlan collidingPlan collidingMembers).code = .validationEdgeDuplicate ∧
      collidingPlan.WellFormed collidingMembers ∧
      ∀ a b, [a, b].Sublist collidingPlan.edges → ¬ a.SameObligation b := by
  refine ⟨by decide, ⟨by decide, by decide, by decide, by decide, by decide, ?_⟩, ?_⟩
  · intro edge hedge
    rcases List.mem_pair.mp hedge with rfl | rfl
    · exact ⟨by decide, by decide, by decide, by decide⟩
    · exact ⟨by decide, by decide, by decide, by decide⟩
  · intro a b hpair hsame
    -- Both edges of the plan make up the pair.
    cases hpair.eq_of_length rfl
    exact absurd hsame.1 (by decide)

end Duplicates

end TrafficFabric
