import TrafficFabric.FlowGroup
import TrafficFabric.Lib.Sorting

/-!
# Canonical orders

Participants are sorted and lose their repetitions, edges are sorted field by
field.  The order of the edges is total on all their fields, so the canonical
sequence of a plan is the same for every order in which its edges are stated.
-/

namespace TrafficFabric

open Lib

section Participants

variable {participants other : List ParticipantId}

theorem canonicalizeParticipants_ascending (participants : List ParticipantId) :
    (canonicalizeParticipants participants).Pairwise (· < ·) := by
  exact pairwise_lt_destutter (List.pairwise_insertionSort _ participants)

theorem mem_canonicalizeParticipants_iff {participant : ParticipantId} :
    participant ∈ canonicalizeParticipants participants ↔ participant ∈ participants := by
  rw [canonicalizeParticipants, mem_destutter_ne_iff, List.mem_insertionSort]

/-- The canonical list is given by the members. -/
theorem canonicalizeParticipants_eq
    (hmembers : ∀ participant, participant ∈ participants ↔ participant ∈ other) :
    canonicalizeParticipants participants = canonicalizeParticipants other := by
  exact destutter_insertionSort_eq hmembers

end Participants

section Edges

theorem Sequence.toNat_value_injective : Function.Injective fun s : Sequence => s.value.toNat := by
  intro s t h
  cases s
  cases t
  exact congrArg Sequence.mk (UInt64.toNat_inj.mp h)

theorem AlgorithmHint.raw_injective :
    Function.Injective fun hint : AlgorithmHint => hint.raw.toNat := by
  have hindex : ∀ hint : AlgorithmHint, AlgorithmHint.ofNat hint.raw.toNat = hint := by
    intro hint
    cases hint <;> rfl
  intro a b h
  rw [← hindex a, ← hindex b]
  exact congrArg AlgorithmHint.ofNat h

/-- The fields of an edge in the order in which the comparator visits them. -/
def edgeRank (edge : FlowEdge) : ℕ ×ₗ Identity ×ₗ Identity ×ₗ ℕ ×ₗ ℕ ×ₗ Bool :=
  toLex (edge.stepIndex.value.toNat, toLex (edge.source, toLex (edge.destination,
    toLex (edge.logicalBytes.toNat, toLex (edge.hint.raw.toNat, edge.crossesRack)))))

theorem edgeRank_injective : Function.Injective edgeRank := by
  intro a b h
  cases a
  cases b
  simp only [edgeRank, toLex_inj, Prod.mk.injEq] at h
  obtain ⟨hstep, hsource, hdestination, hbytes, hhint, hrack⟩ := h
  obtain rfl := Sequence.toNat_value_injective hstep
  obtain rfl := UInt64.toNat_inj.mp hbytes
  obtain rfl := AlgorithmHint.raw_injective hhint
  rw [hsource, hdestination, hrack]

/-- The comparator is the order of the fields. -/
theorem edgeLess_iff {a b : FlowEdge} : edgeLess a b = true ↔ edgeRank a < edgeRank b := by
  have hstep : a.stepIndex < b.stepIndex ↔
      a.stepIndex.value.toNat < b.stepIndex.value.toNat := UInt64.lt_iff_toNat_lt
  have hidentity : ∀ {x y : Identity} {rest : Bool},
      (if x ≠ y then decide (x < y) else rest) = true ↔ x < y ∨ x = y ∧ rest = true :=
    compareFirst_iff Function.injective_id Iff.rfl
  unfold edgeLess edgeRank
  simp only [Prod.Lex.toLex_lt_toLex]
  rw [compareFirst_iff Sequence.toNat_value_injective hstep, hidentity, hidentity,
    compareFirst_iff (fun _ _ h => UInt64.toNat_inj.mp h) UInt64.lt_iff_toNat_lt,
    compareFirst_iff AlgorithmHint.raw_injective UInt8.lt_iff_toNat_lt]
  simp [Bool.lt_iff]

theorem edgeRanks : Ranks (fun a b => edgeLess b a = false) edgeRank := by
  intro a b
  change edgeLess b a = false ↔ edgeRank a ≤ edgeRank b
  rw [← Bool.not_eq_true, edgeLess_iff, not_lt]

theorem sortEdges_perm (edges : List FlowEdge) : (sortEdges edges).Perm edges := by
  exact List.perm_insertionSort _ edges

/-- The canonical sequence does not depend on the order in which the edges are stated. -/
theorem sortEdges_eq_of_perm {edges other : List FlowEdge} (hperm : edges.Perm other) :
    sortEdges edges = sortEdges other := by
  exact edgeRanks.insertionSort_eq_of_perm hperm fun _ _ _ _ hrank => edgeRank_injective hrank

/-- Different edges come out strictly ascending. -/
theorem sortEdges_ascending {edges : List FlowEdge} (hnodup : edges.Nodup) :
    (sortEdges edges).Pairwise fun a b => edgeLess a b = true := by
  exact (edgeRanks.pairwise_lt_insertionSort (hnodup.map edgeRank_injective)).imp
    fun hlt => edgeLess_iff.mpr hlt

end Edges

end TrafficFabric
