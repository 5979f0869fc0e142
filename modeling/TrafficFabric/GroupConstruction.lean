import TrafficFabric.CanonicalOrder
import TrafficFabric.EdgeKeys
import TrafficFabric.Lib.Scaling

/-!
# Constructed flow groups

What the fields of a constructed group say about the plan.  The edges are the
ones of the plan in canonical order, the participants are their endpoints, and
the fan is the longest run in the sorted list of sources or destinations, which
is the largest number of edges at one participant.

The volume is summed in 64 bits, so it is the exact sum only modulo `2 ^ 64`.
-/

namespace TrafficFabric

open Lib

section Counting

theorem toNat_succ_of_lt {count : UInt32} (h : count.toNat + 1 < 2 ^ 32) :
    (count + 1).toNat = count.toNat + 1 := by
  rw [UInt32.toNat_add, UInt32.toNat_one, Nat.mod_eq_of_lt h]

/-- A count of 32 bits is exact for a list that is not too long. -/
theorem toNat_foldl_count {α : Type} (p : α → Bool) {items : List α} {start : UInt32}
    (hfits : start.toNat + items.length < 2 ^ 32) :
    (items.foldl (fun count x => count + if p x then 1 else 0) start).toNat =
      start.toNat + items.countP p := by
  induction items generalizing start with
  | nil => rfl
  | cons x rest ih =>
    rw [List.length_cons] at hfits
    rw [List.foldl_cons, List.countP_cons]
    cases hx : p x with
    | false =>
      simp only [Bool.false_eq_true, if_false, UInt32.add_zero, Nat.add_zero]
      exact ih (by omega)
    | true =>
      have hnext : (start + 1).toNat = start.toNat + 1 := toNat_succ_of_lt (by omega)
      simp only [if_true]
      rw [ih (by omega), hnext]
      omega

/-- How often a participant occurs, when the run of the first one goes on from before. -/
def occurrences
    (current : Nat) (first : ParticipantId) (items : List ParticipantId)
    (participant : ParticipantId) : Nat :=
  (if participant = first then current else 0) + items.count participant

theorem occurrences_first {current : Nat} {first : ParticipantId} {items : List ParticipantId} :
    occurrences current first items first = current + items.count first := by
  rw [occurrences, if_pos rfl]

theorem occurrences_of_ne {current : Nat} {first participant : ParticipantId}
    {items : List ParticipantId} (h : participant ≠ first) :
    occurrences current first items participant = items.count participant := by
  rw [occurrences, if_neg h, Nat.zero_add]

theorem toNat_max_succ {best current : UInt32} (h : current.toNat + 1 < 2 ^ 32) :
    (max best (current + 1)).toNat = max best.toNat (current.toNat + 1) := by
  have hnext := toNat_succ_of_lt h
  rw [← hnext,
    show max best (current + 1) = if best ≤ current + 1 then current + 1 else best from rfl]
  split
  · rename_i hle
    exact (Nat.max_eq_right (UInt32.le_iff_toNat_le.mp hle)).symm
  · rename_i hle
    have hlt := UInt32.lt_iff_toNat_lt.mp (UInt32.not_le.mp hle)
    exact (Nat.max_eq_left hlt.le).symm

/-- The result is the largest of the given best and of the occurrences. -/
structure LargestRun
    (current best : Nat) (first : ParticipantId) (items : List ParticipantId) (result : Nat) :
    Prop where
  best_le : best ≤ result
  occurrences_le : ∀ participant, occurrences current first items participant ≤ result
  attained : result = best ∨ ∃ participant, result = occurrences current first items participant

theorem largestRun_single (current best : Nat) (first : ParticipantId) :
    LargestRun current best first [first] (max best (current + 1)) := by
  have hself : occurrences current first [first] first = current + 1 := by
    rw [occurrences_first, List.count_singleton_self]
  refine ⟨Nat.le_max_left _ _, ?_, ?_⟩
  · intro participant
    by_cases hfirst : participant = first
    · rw [hfirst, hself]
      exact Nat.le_max_right _ _
    · rw [occurrences_of_ne hfirst, List.count_singleton, if_neg (by simpa using Ne.symm hfirst)]
      exact Nat.zero_le _
  · rcases max_choice best (current + 1) with hbest | hrun
    · exact .inl hbest
    · exact .inr ⟨first, hrun.trans hself.symm⟩

/-- The run goes on. -/
theorem LargestRun.more {current best result : Nat} {first : ParticipantId}
    {rest : List ParticipantId} (h : LargestRun (current + 1) best first (first :: rest) result) :
    LargestRun current best first (first :: first :: rest) result := by
  have hoccurrences : occurrences (current + 1) first (first :: rest) =
      occurrences current first (first :: first :: rest) := by
    funext participant
    by_cases hfirst : participant = first
    · rw [hfirst, occurrences_first, occurrences_first]
      simp only [List.count_cons_self]
      omega
    · rw [occurrences_of_ne hfirst, occurrences_of_ne hfirst]
      simp only [List.count_cons_of_ne (Ne.symm hfirst)]
  exact ⟨h.best_le, hoccurrences ▸ h.occurrences_le, hoccurrences ▸ h.attained⟩

/-- The run is over, and the participant does not come again. -/
theorem LargestRun.over {current best result : Nat} {first second : ParticipantId}
    {rest : List ParticipantId} (habsent : first ∉ second :: rest)
    (h : LargestRun 0 (max best (current + 1)) second (second :: rest) result) :
    LargestRun current best first (first :: second :: rest) result := by
  have hlater : ∀ participant,
      occurrences 0 second (second :: rest) participant = (second :: rest).count participant := by
    intro participant
    rw [occurrences, ite_self, Nat.zero_add]
  have hself : occurrences current first (first :: second :: rest) first = current + 1 := by
    rw [occurrences_first, List.count_cons_self, List.count_eq_zero_of_not_mem habsent]
  have hother : ∀ participant, participant ≠ first →
      occurrences current first (first :: second :: rest) participant =
        occurrences 0 second (second :: rest) participant := by
    intro participant hne
    rw [occurrences_of_ne hne, hlater, List.count_cons_of_ne (Ne.symm hne)]
  have hlarge : current + 1 ≤ result := (Nat.le_max_right _ _).trans h.best_le
  refine ⟨(Nat.le_max_left _ _).trans h.best_le, ?_, ?_⟩
  · intro participant
    by_cases hfirst : participant = first
    · rw [hfirst, hself]
      exact hlarge
    · rw [hother participant hfirst]
      exact h.occurrences_le participant
  · rcases h.attained with hbest | ⟨participant, hattained⟩
    · rcases max_choice best (current + 1) with hold | hrun
      · exact .inl (hbest.trans hold)
      · exact .inr ⟨first, by rw [hself, hbest, hrun]⟩
    · refine .inr ⟨participant, ?_⟩
      rw [hother participant ?_, hattained]
      rintro rfl
      rw [hlater, List.count_eq_zero_of_not_mem habsent] at hattained
      omega

/-- The scan of a sorted list finds the largest number of occurrences. -/
theorem longestRun_largest {current best : UInt32} {first : ParticipantId}
    {rest : List ParticipantId} (hsorted : (first :: rest).Pairwise (· ≤ ·))
    (hfits : current.toNat + (first :: rest).length < 2 ^ 32) :
    LargestRun current.toNat best.toNat first (first :: rest)
      (longestRun current best (first :: rest)).toNat := by
  induction rest generalizing current best first with
  | nil =>
    rw [List.length_singleton] at hfits
    rw [longestRun, toNat_max_succ hfits]
    exact largestRun_single _ _ _
  | cons second rest ih =>
    rw [List.length_cons, List.length_cons] at hfits
    have hfirst : first ≤ second := List.rel_of_pairwise_cons hsorted List.mem_cons_self
    rw [longestRun]
    by_cases hsame : second = first
    · subst hsame
      have hcurrent : (current + 1).toNat = current.toNat + 1 := toNat_succ_of_lt (by omega)
      have hrest := @ih (current + 1) best second hsorted.of_cons
        (by rw [hcurrent, List.length_cons]; omega)
      rw [if_neg (not_not.mpr rfl)]
      exact (hcurrent ▸ hrest).more
    · have habsent : first ∉ second :: rest := by
        intro hmem
        have hle : second ≤ first := by
          rcases List.mem_cons.mp hmem with heq | hmem
          · exact heq.ge
          · exact List.rel_of_pairwise_cons hsorted.of_cons hmem
        exact hsame (le_antisymm hle hfirst)
      have hrest := @ih 0 (max best (current + 1)) second hsorted.of_cons
        (by rw [UInt32.toNat_zero, List.length_cons]; omega)
      rw [toNat_max_succ (by omega)] at hrest
      rw [if_pos hsame]
      exact hrest.over habsent

/-- Over the sorted list, the longest run is the largest count. -/
theorem longestRun_insertionSort {items : List ParticipantId} (hfits : items.length < 2 ^ 32) :
    (∀ participant, items.count participant ≤
        (longestRun 0 0 (items.insertionSort (· ≤ ·))).toNat) ∧
      ∃ participant, items.count participant =
        (longestRun 0 0 (items.insertionSort (· ≤ ·))).toNat := by
  have hperm := List.perm_insertionSort (· ≤ ·) items
  have hsorted := List.pairwise_insertionSort (· ≤ ·) items
  have hlength := hperm.length_eq
  simp only [← hperm.count_eq]
  generalize items.insertionSort (· ≤ ·) = sorted at *
  cases sorted with
  | nil => exact ⟨fun _ => Nat.zero_le _, Identity.none, rfl⟩
  | cons first rest =>
    have hlargest := @longestRun_largest 0 0 first rest hsorted
      (by rw [UInt32.toNat_zero, hlength]; omega)
    have hcount : ∀ participant,
        occurrences (0 : UInt32).toNat first (first :: rest) participant =
          (first :: rest).count participant := by
      intro participant
      rw [UInt32.toNat_zero, occurrences, ite_self, Nat.zero_add]
    have hbound : ∀ participant, (first :: rest).count participant ≤
        (longestRun 0 0 (first :: rest)).toNat := by
      intro participant
      rw [← hcount]
      exact hlargest.occurrences_le participant
    refine ⟨hbound, ?_⟩
    rcases hlargest.attained with hzero | ⟨participant, hattained⟩
    · refine ⟨first, le_antisymm (hbound first) ?_⟩
      rw [hzero]
      exact Nat.zero_le _
    · exact ⟨participant, by rw [hattained, hcount]⟩

end Counting

section Groups

variable {plan : FlowGroupPlan} {allowed : List ParticipantId} {group : FlowGroup}

/-- The group of a plan that validates. -/
def canonicalGroup (plan : FlowGroupPlan) : FlowGroup :=
  let edges := sortEdges plan.edges
  { id := canonicalFlowGroupId plan
    collectiveInstance := plan.collectiveInstance
    collectiveClass := plan.collectiveClass
    pattern := plan.pattern
    direction := plan.direction
    edges := edges
    participants := canonicalizeParticipants (edges.flatMap (fun e => [e.source, e.destination]))
    totalLogicalBytes := edges.foldl (fun sum e => sum + e.logicalBytes) 0
    maxFanOut := longestRun 0 0 ((edges.map FlowEdge.source).insertionSort (· ≤ ·))
    maxFanIn := longestRun 0 0 ((edges.map FlowEdge.destination).insertionSort (· ≤ ·))
    crossRackEdgeCount := edges.foldl (fun count e => count + if e.crossesRack then 1 else 0) 0
    requiresSimultaneousStart := plan.requiresSimultaneousStart
    planSequence := plan.planSequence }

theorem constructFlowGroup_eq_ok_iff :
    constructFlowGroup plan allowed = .ok group ↔
      (validateFlowGroupPlan plan allowed).isOk = true ∧ canonicalGroup plan = group := by
  unfold constructFlowGroup
  cases hstatus : (validateFlowGroupPlan plan allowed).isOk with
  | true =>
    simp only [hstatus, Bool.true_eq_false, if_false, true_and]
    exact ⟨Except.ok.inj, congrArg Except.ok⟩
  | false => simp [hstatus]

/-- What the fields of a group say about the plan it was constructed from. -/
structure FlowGroup.Sound
    (plan : FlowGroupPlan) (allowed : List ParticipantId) (group : FlowGroup) : Prop where
  permuted : group.edges.Perm plan.edges
  sorted : group.edges.Pairwise fun a b => edgeLess a b = true
  distinct : group.edges.Pairwise fun a b => ¬ a.SameObligation b
  allowed : ∀ edge ∈ group.edges, edge.Allowed allowed
  ascending : group.participants.Pairwise (· < ·)
  endpoints : ∀ participant, participant ∈ group.participants ↔
    ∃ edge ∈ group.edges, edge.source = participant ∨ edge.destination = participant
  fanOut : (∀ participant,
      (group.edges.countP fun edge => edge.source = participant) ≤ group.maxFanOut.toNat) ∧
    ∃ participant,
      (group.edges.countP fun edge => edge.source = participant) = group.maxFanOut.toNat
  fanIn : (∀ participant,
      (group.edges.countP fun edge => edge.destination = participant) ≤ group.maxFanIn.toNat) ∧
    ∃ participant,
      (group.edges.countP fun edge => edge.destination = participant) = group.maxFanIn.toNat
  crossRack : group.crossRackEdgeCount.toNat = group.edges.countP FlowEdge.crossesRack

/-- The edges at one participant are counted in the list of their ends. -/
theorem count_ends (endOf : FlowEdge → ParticipantId) (edges : List FlowEdge)
    (participant : ParticipantId) :
    (edges.map endOf).count participant = edges.countP fun edge => endOf edge = participant := by
  rw [List.count, List.countP_map]
  rfl

theorem constructed_group_sound (h : constructFlowGroup plan allowed = .ok group) :
    group.Sound plan allowed := by
  obtain ⟨hvalid, rfl⟩ := constructFlowGroup_eq_ok_iff.mp h
  obtain ⟨hformed, hkeys⟩ := validateFlowGroupPlan_isOk_iff.mp hvalid
  have hperm : (canonicalGroup plan).edges.Perm plan.edges := sortEdges_perm plan.edges
  have hkeysSorted : ((canonicalGroup plan).edges.map edgeKey).Nodup :=
    ((hperm.map edgeKey).nodup_iff).mpr hkeys
  have hlength : (canonicalGroup plan).edges.length < 2 ^ 32 := by
    rw [hperm.length_eq]
    exact lt_of_le_of_lt hformed.bounded (by decide)
  have hends : ∀ endOf : FlowEdge → ParticipantId,
      ((canonicalGroup plan).edges.map endOf).length < 2 ^ 32 := by
    intro endOf
    rw [List.length_map]
    exact hlength
  refine ⟨hperm, sortEdges_ascending (List.Nodup.of_map _ hkeys), ?_, ?_,
    canonicalizeParticipants_ascending _, ?_, ?_, ?_, ?_⟩
  · exact (List.pairwise_map.mp hkeysSorted).imp fun hne hsame => hne hsame.edgeKey_eq
  · intro edge hedge
    exact hformed.edges edge (hperm.mem_iff.mp hedge)
  · intro participant
    change participant ∈ canonicalizeParticipants _ ↔ _
    rw [mem_canonicalizeParticipants_iff, List.mem_flatMap]
    simp only [List.mem_cons, List.not_mem_nil, or_false, eq_comm]
    rfl
  · have hfan := longestRun_insertionSort (hends FlowEdge.source)
    simp only [count_ends] at hfan
    exact hfan
  · have hfan := longestRun_insertionSort (hends FlowEdge.destination)
    simp only [count_ends] at hfan
    exact hfan
  · change (List.foldl _ (0 : UInt32) _).toNat = _
    rw [toNat_foldl_count FlowEdge.crossesRack
      (by rw [UInt32.toNat_zero, Nat.zero_add]; exact hlength)]
    exact Nat.zero_add _

/-- Three members in a ring of two steps. -/
def ringPlan : FlowGroupPlan where
  collectiveInstance := { id := ⟨31, 0⟩, generation := ⟨32, 0⟩, attempt := ⟨33, 0⟩ }
  edges :=
    [ { source := ⟨2, 0⟩, destination := ⟨3, 0⟩, stepIndex := ⟨2⟩, crossesRack := true },
      { source := ⟨1, 0⟩, destination := ⟨2, 0⟩, stepIndex := ⟨1⟩ },
      { source := ⟨1, 0⟩, destination := ⟨3, 0⟩, stepIndex := ⟨1⟩ } ]

theorem constructed_ring_sound :
    ∃ group, constructFlowGroup ringPlan [⟨1, 0⟩, ⟨2, 0⟩, ⟨3, 0⟩] = .ok group ∧
      group.Sound ringPlan [⟨1, 0⟩, ⟨2, 0⟩, ⟨3, 0⟩] := by
  obtain ⟨group, hgroup⟩ :=
    (constructFlowGroup_isOk_iff ringPlan [⟨1, 0⟩, ⟨2, 0⟩, ⟨3, 0⟩]).mpr (by decide)
  exact ⟨group, hgroup, constructed_group_sound hgroup⟩

/-- The volume of a group is the sum over its plan, as a word. -/
theorem toNat_totalLogicalBytes (plan : FlowGroupPlan) :
    (canonicalGroup plan).totalLogicalBytes.toNat =
      (plan.edges.map fun edge => edge.logicalBytes.toNat).sum % 2 ^ 64 := by
  have hsum := toNat_foldl_add FlowEdge.logicalBytes (sortEdges plan.edges) 0
  rw [UInt64.toNat_zero, Nat.zero_add,
    ((sortEdges_perm plan.edges).map fun edge => edge.logicalBytes.toNat).sum_eq] at hsum
  exact hsum

end Groups

section Reordering

variable {plan : FlowGroupPlan} {allowed : List ParticipantId} {edges : List FlowEdge}

theorem FlowGroupPlan.WellFormed.reordered (h : plan.WellFormed allowed)
    (hperm : edges.Perm plan.edges) :
    ({ plan with edges := edges } : FlowGroupPlan).WellFormed allowed where
  attempt := h.attempt
  nonempty := fun hnil => h.nonempty (List.nil_perm.mp (hnil ▸ hperm))
  bounded := hperm.length_eq ▸ h.bounded
  directed := h.directed
  members := h.members
  edges := fun edge hedge => h.edges edge (hperm.mem_iff.mp hedge)

/-- Whether a plan is accepted does not depend on the order of its edges. -/
theorem validateFlowGroupPlan_reordered (hperm : edges.Perm plan.edges)
    (h : (validateFlowGroupPlan plan allowed).isOk = true) :
    (validateFlowGroupPlan { plan with edges := edges } allowed).isOk = true := by
  obtain ⟨hformed, hkeys⟩ := validateFlowGroupPlan_isOk_iff.mp h
  exact validateFlowGroupPlan_isOk_iff.mpr
    ⟨hformed.reordered hperm, ((hperm.map edgeKey).nodup_iff).mpr hkeys⟩

/-- The group is a function of the canonical sequence. -/
theorem canonicalGroup_reordered (hperm : edges.Perm plan.edges) :
    canonicalGroup { plan with edges := edges } = canonicalGroup plan := by
  have hsorted : sortEdges edges = sortEdges plan.edges := sortEdges_eq_of_perm hperm
  have hdigest : flowGroupContentDigest { plan with edges := edges } =
      flowGroupContentDigest plan := by
    unfold flowGroupContentDigest
    rw [hsorted, hperm.length_eq]
  have hid : canonicalFlowGroupId { plan with edges := edges } = canonicalFlowGroupId plan := by
    unfold canonicalFlowGroupId
    rw [hdigest]
  unfold canonicalGroup
  rw [hid, hsorted]

theorem constructFlowGroup_reordered (hperm : edges.Perm plan.edges) :
    (∃ group, constructFlowGroup { plan with edges := edges } allowed = .ok group) ↔
      ∃ group, constructFlowGroup plan allowed = .ok group := by
  rw [constructFlowGroup_isOk_iff, constructFlowGroup_isOk_iff]
  refine ⟨?_, validateFlowGroupPlan_reordered hperm⟩
  exact @validateFlowGroupPlan_reordered { plan with edges := edges } allowed plan.edges hperm.symm

end Reordering

end TrafficFabric
