import TrafficFabric.Fencing
import TrafficFabric.StaleObservation

/-!
# Lookups in a snapshot

The engine looks a participant up by halving the sorted list of a snapshot,
and a node or a link by halving the list of the installed observation.  These
lists strictly ascend in every reachable state, so each lookup finds exactly
what is stored.
-/

namespace TrafficFabric

open Lib

variable {s : AuthorityState}

/-- Entries with pairwise distinct identities strictly ascend once sorted. -/
theorem sortById_strictlyAscending {α : Type} {id : α → Identity} {items : List α}
    (hdistinct : (items.map id).Nodup) : StrictlyAscending id (sortById id items) := by
  have htotal : Std.Total (fun x y : α => id x ≤ id y) := ⟨fun x y => le_total (id x) (id y)⟩
  have htrans : IsTrans α (fun x y => id x ≤ id y) := ⟨fun _ _ _ => le_trans⟩
  have hsorted : (sortById id items).Pairwise (fun x y => id x ≤ id y) :=
    List.pairwise_insertionSort _ items
  have hperm : (sortById id items).Perm items := List.perm_insertionSort _ items
  have hnodup : (sortById id items).Pairwise (fun x y => id x ≠ id y) := by
    rw [← List.pairwise_map]
    exact (hperm.map id).nodup_iff.mpr hdistinct
  exact hsorted.imp₂ (fun _ _ hle hne => lt_of_le_of_ne hle hne) hnodup

/-- The records of a coherent peer table have pairwise distinct participants. -/
theorem PeersCoherent.participants_nodup (h : PeersCoherent s) :
    (s.peers.values.map PeerLiveness.participant).Nodup := by
  have hkeys : s.peers.values.map PeerLiveness.participant = s.peers.entries.keys := by
    unfold KeyMap.values List.keys
    rw [List.map_map]
    refine List.map_congr_left ?_
    rintro ⟨p, record⟩ hentry
    have hfind : s.peers.find p = some record :=
      (KeyMap.find_eq_some_iff_mem s.peers p record).mpr hentry
    exact (h.named p record hfind).1
  rw [hkeys]
  exact s.peers.nodupKeys

/-- The lookup of the engine is the lookup of the peer table. -/
theorem PeersCoherent.findPeer_snapshot (h : PeersCoherent s) (now : UInt64) (p : ParticipantId) :
    (s.snapshot now).findPeer p = s.peers.find p := by
  have hascending : StrictlyAscending PeerLiveness.participant (s.snapshot now).peers :=
    sortById_strictlyAscending h.participants_nodup
  ext record
  unfold EvaluationSnapshot.findPeer
  rw [binaryFind_eq_some_iff hascending]
  simp only [AuthorityState.snapshot, sortById, List.mem_insertionSort, KeyMap.mem_values_iff]
  constructor
  · rintro ⟨⟨key, hkey⟩, rfl⟩
    rw [(h.named key record hkey).1]
    exact hkey
  · intro hfind
    exact ⟨⟨p, hfind⟩, (h.named p record hfind).1⟩

/-- A lookup by identity that returns the one entry with it, and nothing when there is none. -/
def LooksUp {α : Type} (id : α → Identity) (entries : List α) (find : Identity → Option α) :
    Prop :=
  ∀ key,
    (∀ entry, find key = some entry ↔
      (entry ∈ entries ∧ id entry = key) ∧ ∀ other ∈ entries, id other = key → other = entry) ∧
    (find key = none ↔ ∀ entry ∈ entries, id entry ≠ key)

theorem binaryFind_looksUp {α : Type} {id : α → Identity} {entries : List α}
    (h : StrictlyAscending id entries) : LooksUp id entries (binaryFind entries · id) := by
  intro key
  constructor
  · intro entry
    rw [binaryFind_eq_some_iff h, iff_self_and]
    rintro ⟨hentry, rfl⟩ other hother hkey
    exact h.eq_of_key_eq hother hentry hkey
  · rw [Option.eq_none_iff_forall_ne_some]
    simp only [ne_eq, binaryFind_eq_some_iff h, not_and]

/-- A node the installed topology resolves is one of its nodes. -/
theorem EvidenceCoherent.findNode_eq_some_iff {topology : TopologyEvidence} (h : EvidenceCoherent s)
    (hinstalled : s.topology = some topology) (id : NodeId) (node : TopologyNode) :
    topology.findNode id = some node ↔ node ∈ topology.nodes ∧ node.id = id := by
  have hvalid := (h.topology topology hinstalled).2
  exact binaryFind_eq_some_iff (TopologyEvidence.ascending_of_validate hvalid).1 id node

/--
In every reachable state the lookup of a participant in a snapshot is the one of
the peer table, and the lookups of the installed observations return the unique
entry with the identity, or nothing when there is none.
-/
theorem lookups_exact {s : AuthorityState} (h : Reachable authorityStep {} s) (now : UInt64) :
    (∀ p, (s.snapshot now).findPeer p = s.peers.find p) ∧
      (∀ topology, s.topology = some topology →
        LooksUp TopologyNode.id topology.nodes topology.findNode ∧
          LooksUp TopologyLink.id topology.links topology.findLink) ∧
      (∀ capacity, s.capacity = some capacity →
        LooksUp LinkCapacity.link capacity.links capacity.find) ∧
      ∀ congestion, s.congestion = some congestion →
        LooksUp LinkCongestion.link congestion.links congestion.find := by
  have hcoherent := reachable_authorityCoherent h
  refine ⟨(reachable_peersCoherent h).findPeer_snapshot now, ?_, ?_, ?_⟩
  · intro topology hinstalled
    have hascending := TopologyEvidence.ascending_of_validate
      (hcoherent.topology topology hinstalled).2
    exact ⟨binaryFind_looksUp hascending.1, binaryFind_looksUp hascending.2⟩
  · intro capacity hinstalled
    exact binaryFind_looksUp
      (CapacityEvidence.links_ascending_of_validate (hcoherent.capacity capacity hinstalled).2.1)
  · intro congestion hinstalled
    exact binaryFind_looksUp (CongestionEvidence.links_ascending_of_validate
      (hcoherent.congestion congestion hinstalled).2.1)

open DroppedCapacity in
/-- A state with two members, a topology and an observation of congestion. -/
theorem dropped_capacity_lookups :
    Reachable authorityStep {} state ∧
      state.topology = some (topology 8) ∧ state.congestion.isSome = true ∧
      state.peers.find ⟨2, 0⟩ = some (liveness 2) ∧
      (state.snapshot 10).findPeer ⟨2, 0⟩ = state.peers.find ⟨2, 0⟩ ∧
      LooksUp TopologyNode.id (topology 8).nodes (topology 8).findNode := by
  have hlookups := lookups_exact (s := state) ⟨ops, rfl⟩ 10
  exact ⟨⟨ops, rfl⟩, rfl, rfl, by decide, hlookups.1 _, (hlookups.2.1 _ rfl).1⟩

end TrafficFabric
