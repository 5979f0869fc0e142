import TrafficFabric.Ledger
import TrafficFabric.Participants
import TrafficFabric.SessionTable
import TrafficFabric.Supersession
import TrafficFabric.CatalogOrder
import TrafficFabric.GrantSoundness

/-!
# Retained tables

Six kinds of tables grow with what callers send: the sessions, the participants,
the token buckets, the collectives, the decisions and the generations accepted
on each axis.  Five of them are bounded in every reachable state.

The table of participants has two ways in.  A publication asks for room; a
heartbeat of an unknown participant does not.  The table therefore stays within
its bound exactly along the runs in which every heartbeat finds room.
-/

namespace TrafficFabric

open Lib

/-- Every retained table is within its bound. -/
structure Retained (s : CoordinatorService) : Prop where
  sessions : s.sessions.size ≤ Limits.sessionsMax
  peers : s.authority.peers.size ≤ Limits.peersMax
  admission : s.admission.buckets.size ≤ Limits.tokenBucketsMax
  catalog : s.catalog.records.size ≤ s.catalog.capacity.toNat
  history : s.history.records.length ≤ s.history.capacity
  generations : ∀ axis, (s.authority.historyOn axis).seen.length ≤ GenerationHistory.capacity

section Sessions

/-- An operation adds a session only while the table has room. -/
theorem serviceStep_sessions_le (s : CoordinatorService) (op : ServiceOp)
    (h : s.sessions.size ≤ Limits.sessionsMax) :
    (serviceStep s op).sessions.size ≤ Limits.sessionsMax := by
  by_cases hopens : ∃ label now id incarnation, op = .openSession label now id incarnation
  · obtain ⟨label, now, id, incarnation, rfl⟩ := hopens
    simp only [serviceStep, CoordinatorService.openSession]
    split
    · exact h
    · split
      · exact h
      · rename_i hroom
        simp only [KeyMap.emplace]
        split
        · exact h
        · exact KeyMap.size_assign_le_of_room _ h (.inr (Nat.not_le.mp hroom))
  · refine Nat.le_trans (KeyMap.size_le_of_find ?_) h
    intro k hk
    cases serviceStep_sessionChange s op k with
    | kept session => rwa [session] at hk
    | opened label now id incarnation called _ _ _ _ =>
      exact absurd ⟨label, now, id, incarnation, called⟩ hopens
    | advanced _ _ _ binding _ _ before _ _ => simp [before]
    | counted binding before _ => simp [before]
    | dropped _ session => exact absurd session hk

theorem ServiceReachable.sessions_le {s : CoordinatorService} (h : ServiceReachable s) :
    s.sessions.size ≤ Limits.sessionsMax := by
  obtain ⟨config, hconfig⟩ := h
  refine hconfig.invariant ?_ serviceStep_sessions_le
  exact Nat.zero_le _

end Sessions

section Catalog

theorem catalogStep_size_le (catalog : CollectiveCatalog) (op : CatalogOp)
    (h : catalog.records.size ≤ catalog.capacity.toNat) :
    (catalogStep catalog op).records.size ≤ (catalogStep catalog op).capacity.toNat := by
  have hheld : ∀ {id record record'}, catalog.find id = some record →
      (catalog.records.assign id record').size ≤ catalog.capacity.toNat := by
    intro id record record' hfind
    refine Nat.le_trans (KeyMap.size_assign_of_found _ ?_) h
    have hsome : catalog.records.find id = some record := hfind
    simp [hsome]
  have heffect := catalogStep_effect catalog op
  generalize catalogStep catalog op = catalog' at heffect
  cases heffect with
  | same => exact h
  | registered definition now registers absent =>
    have hnone : catalog.records.find definition.id = none := absent
    have hroom := registers.2
    rw [absent] at hroom
    exact Nat.le_trans (Nat.le_of_eq (KeyMap.size_emplace_of_none _ _ hnone)) hroom
  | advanced _ _ _ _ found => exact hheld found
  | begun _ _ _ _ found | moved _ _ _ _ found => exact hheld found
  | declared _ _ _ found => exact hheld found
  | loaded records staged highest fits stages =>
    have hcovers : ∀ id, staged.find id ≠ none →
        id ∈ records.map fun record => record.definition.id := by
      intro id hid
      obtain ⟨record, hrecord⟩ := Option.ne_none_iff_exists'.mp hid
      obtain ⟨hmem, rfl⟩ := (stage_find stages hrecord).resolve_left (by simp)
      exact List.mem_map_of_mem hmem
    have hsize := KeyMap.size_le_length hcovers
    rw [List.length_map] at hsize
    exact Nat.le_trans hsize fits
  | cleared => exact Nat.zero_le _

theorem ServiceReachable.catalog_le {s : CoordinatorService} (h : ServiceReachable s) :
    s.catalog.records.size ≤ s.catalog.capacity.toNat := by
  obtain ⟨config, hconfig⟩ := h
  have hcatalog : Reachable catalogStep {} s.catalog :=
    serviceStep_simulates_catalog.reachable hconfig
  refine hcatalog.invariant ?_ catalogStep_size_le
  exact Nat.zero_le _

end Catalog

section Generations

theorem authorityStep_generations_le {axis : Axis} (s : AuthorityState) (op : AuthorityOp)
    (h : (s.historyOn axis).seen.length ≤ GenerationHistory.capacity) :
    ((authorityStep s op).historyOn axis).seen.length ≤ GenerationHistory.capacity := by
  cases authorityStep_axisChange s axis op with
  | kept _ history => rwa [history]
  | dropped _ history => rwa [history]
  | installed set _ history =>
    rw [history, remember_seen _ set]
    exact length_pushWindow_le _ h
  | restored _ _ _ _ _ _ history => rwa [history]

theorem reachable_generations_le {s : AuthorityState} (axis : Axis)
    (h : Reachable authorityStep {} s) :
    (s.historyOn axis).seen.length ≤ GenerationHistory.capacity := by
  refine h.invariant ?_ authorityStep_generations_le
  cases axis <;> exact Nat.zero_le _

end Generations

section Participants

/-- A heartbeat with its identities set finds room for its participant. -/
def AuthorityOp.Fits (s : AuthorityState) : AuthorityOp → Prop
  | .heartbeat p i _ _ => p ≠ Identity.none → i ≠ Identity.none → HasRoom s p
  | _ => True

theorem authorityStep_peers_le (s : AuthorityState) (op : AuthorityOp) (hfits : op.Fits s)
    (h : PeersCoherent s ∧ s.peers.size ≤ Limits.peersMax) :
    PeersCoherent (authorityStep s op) ∧ (authorityStep s op).peers.size ≤ Limits.peersMax := by
  refine ⟨authorityStep_peersCoherent s op h.1, ?_⟩
  have hrest : op.touchesPeers = false → (authorityStep s op).peers.size ≤ Limits.peersMax := by
    intro hop
    rcases authorityStep_peers s hop with ⟨hpeers, _⟩ | ⟨_, hpeers, _⟩
    · exact hpeers ▸ h.2
    · exact hpeers ▸ Nat.zero_le _
  cases op with
  | publishLiveness liveness =>
    simp only [authorityStep]
    rcases publishLiveness_cases s liveness with ⟨_, hkept⟩ | ⟨haccepted, hstores⟩
    · rw [hkept]
      exact h.2
    · obtain ⟨_, _, _, _, hroom⟩ := (publishLiveness_accepted_iff h.1 liveness).mp haccepted
      rw [hstores.peers]
      exact KeyMap.size_assign_le_of_room _ h.2 hroom
  | heartbeat p i now ttl =>
    simp only [authorityStep]
    rcases heartbeat_cases s p i now ttl with ⟨_, hkept⟩ | ⟨_, hstores⟩
    · rw [hkept]
      exact h.2
    · rw [hstores.peers]
      exact KeyMap.size_assign_le_of_room _ h.2 (hfits hstores.set hstores.incarnationSet)
  | expireSession | expireDue => exact (KeyMap.size_mapValues _ s.peers).symm ▸ h.2
  | _ => exact hrest rfl

/-- A heartbeat of the service with its identities set finds room for its participant. -/
def ServiceOp.HeartbeatFits (s : CoordinatorService) : ServiceOp → Prop
  | .heartbeat _ p i => p ≠ Identity.none → i ≠ Identity.none → HasRoom s.authority p
  | _ => True

/-- Only a heartbeat hands on a heartbeat. -/
theorem authorityTrace_fits {s : CoordinatorService} {op : ServiceOp} (h : op.HeartbeatFits s) :
    Along authorityStep (fun authority a => a.Fits authority) s.authority
      (authorityTrace s op) := by
  cases op with
  | heartbeat context p i =>
    simp only [authorityTrace]
    split
    · trivial
    · exact ⟨h, trivial⟩
  | _ =>
    refine (along_of_forall (P := fun a => ∀ authority, a.Fits authority) _ ?_).mono
      (fun authority a ha => ha authority)
    intro a ha
    cases hands_of_mem_authorityTrace ha <;> exact fun _ => trivial

section Heartbeats

variable {s : CoordinatorService} {i : BootIncarnation} (context : ServiceRequestContext)

/-- A heartbeat of an unknown participant adds a record, whether or not there is room. -/
theorem heartbeat_adds {p : ParticipantId} (hreach : ServiceReachable s) (hset : p ≠ Identity.none)
    (hincarnation : i ≠ Identity.none) (hnew : s.authority.peers.find p = none) :
    let s' := serviceStep s (.heartbeat context p i)
    s'.authority.peers.size = s.authority.peers.size + 1 ∧
      ∀ q, q ≠ p → s'.authority.peers.find q = s.authority.peers.find q := by
  intro s'
  have hcoherent := reachable_peersCoherent hreach.authority
  have hunknown : Supersedes s.authority { participant := p, incarnation := i } := by
    intro highest hhighest
    rw [hcoherent.highest, hnew] at hhighest
    cases hhighest
  have haccepted := (heartbeat_accepted_iff hcoherent p i context.nowMonotonicMs
    s.config.participantTtlMs).mpr ⟨hset, hincarnation, hunknown⟩
  have hauthority : s'.authority =
      (s.authority.heartbeat p i context.nowMonotonicMs s.config.participantTtlMs).2 :=
    heartbeat_authority_of_set s hset hincarnation context
  rw [hauthority]
  rcases heartbeat_cases s.authority p i context.nowMonotonicMs s.config.participantTtlMs with
    ⟨hrefused, _⟩ | ⟨_, hstores⟩
  · rw [haccepted] at hrefused
    cases hrefused
  · rw [hstores.peers]
    exact ⟨KeyMap.size_assign_of_none _ _ hnew, fun q hq => KeyMap.find_assign_of_ne _ _ hq⟩

/-- Heartbeats of distinct unknown participants add as many records. -/
theorem heartbeats_add {participants : List ParticipantId} (hreach : ServiceReachable s)
    (hset : ∀ p ∈ participants, p ≠ Identity.none) (hincarnation : i ≠ Identity.none)
    (hdistinct : participants.Nodup) (hnew : ∀ p ∈ participants, s.authority.peers.find p = none) :
    (run serviceStep s (participants.map fun p => .heartbeat context p i)).authority.peers.size =
      s.authority.peers.size + participants.length := by
  have hadds : AddsEntries serviceStep (fun p => .heartbeat context p i) id
      (fun s => s.authority.peers.size) (fun s p => s.authority.peers.find p = none)
      (s.authority.peers.size + participants.length) (· ≠ Identity.none) ServiceReachable := by
    intro s p hset hreach hnew _
    obtain ⟨hsize, hothers⟩ := heartbeat_adds context hreach hset hincarnation hnew
    refine ⟨hreach.run [.heartbeat context p i], hsize, ?_⟩
    intro q hq hfree
    exact (hothers q hq).trans hfree
  exact (hadds.run hreach hset (by rwa [List.map_id]) hnew le_rfl).2.1

end Heartbeats

/-- One operation keeps the bound of the participants exactly when it fits. -/
theorem serviceStep_peers_le_iff (s : CoordinatorService) (op : ServiceOp)
    (hreach : ServiceReachable s) (h : s.authority.peers.size ≤ Limits.peersMax) :
    (serviceStep s op).authority.peers.size ≤ Limits.peersMax ↔ op.HeartbeatFits s := by
  constructor
  · intro hafter
    cases op with
    | heartbeat context p i =>
      intro hset hincarnation
      by_contra hfull
      obtain ⟨hmax, hnew⟩ := (not_hasRoom_iff _ _).mp hfull
      have hsize := (heartbeat_adds context hreach hset hincarnation hnew).1
      omega
    | _ => trivial
  · intro hfits
    rw [serviceStep_simulates_authority s op]
    exact ((authorityTrace_fits hfits).invariant authorityStep_peers_le
      ⟨reachable_peersCoherent hreach.authority, h⟩).2

end Participants

/-- In a reachable state the participants are the only table that may exceed its bound. -/
theorem ServiceReachable.retained_iff {s : CoordinatorService} (h : ServiceReachable s) :
    Retained s ↔ s.authority.peers.size ≤ Limits.peersMax := by
  refine ⟨Retained.peers, fun hpeers => ?_⟩
  exact
    { sessions := h.sessions_le
      peers := hpeers
      admission := h.ledgerCoherent.admission.fits
      catalog := h.catalog_le
      history := h.ledgerCoherent.history.fits
      generations := fun axis => reachable_generations_le axis h.authority }

/--
Every state of a run has all its tables within their bounds exactly when every
heartbeat of the run finds room for its participant.
-/
theorem retained_along_iff (config : ServiceConfig) (ops : List ServiceOp) :
    (∀ before, before <+: ops →
        Retained (run serviceStep (CoordinatorService.create config) before)) ↔
      Along serviceStep (fun s op => op.HeartbeatFits s) (CoordinatorService.create config)
        ops := by
  have hinit : ServiceReachable (CoordinatorService.create config) :=
    ⟨config, Reachable.init serviceStep _⟩
  have hknown : ∀ s op, ServiceReachable s → ServiceReachable (serviceStep s op) :=
    fun s op hs => hs.run [op]
  have hempty : (CoordinatorService.create config).authority.peers.size ≤ Limits.peersMax :=
    Nat.zero_le _
  rw [← forall_prefix_iff_along hknown serviceStep_peers_le_iff hinit hempty ops]
  constructor
  · intro h before hbefore
    exact (h before hbefore).peers
  · intro h before hbefore
    exact (hinit.run before).retained_iff.mpr (h before hbefore)

namespace TwoMembers

/-- One participant more than the table is meant to hold, each by a heartbeat of its own. -/
def overfullMembers : List ParticipantId :=
  (List.range (Limits.peersMax + 1)).map fun index => ⟨index.toUInt64, 1⟩

theorem overfullMembers_set {p : ParticipantId} (h : p ∈ overfullMembers) : p ≠ Identity.none := by
  obtain ⟨index, -, rfl⟩ := List.mem_map.mp h
  intro hnone
  have hlo : (1 : UInt64) = 0 := congrArg Identity.lo hnone
  exact absurd hlo (by decide)

theorem overfullMembers_nodup : overfullMembers.Nodup := by
  refine List.Nodup.map_on ?_ List.nodup_range
  intro i hi j hj hsame
  rw [List.mem_range, Limits.peersMax] at hi hj
  have hword : i.toUInt64 = j.toUInt64 := congrArg Identity.hi hsame
  have hnumber : i % 2 ^ 64 = j % 2 ^ 64 := congrArg UInt64.toNat hword
  omega

/-- The coordinator is started, a session is opened, and every member sends one heartbeat. -/
def crowdedPeers : List ServiceOp :=
  boot ++ overfullMembers.map fun p => .heartbeat (context 4) p ⟨1, 0⟩

end TwoMembers

open TwoMembers in
/-- After that many heartbeats the table of participants exceeds its bound. -/
theorem heartbeats_exceed_peersMax :
    ¬ Retained (run serviceStep (CoordinatorService.create {}) crowdedPeers) := by
  have hreach : ServiceReachable (run serviceStep (.create {}) boot) :=
    ⟨{}, boot, rfl⟩
  have hempty : (run serviceStep (.create {}) boot).authority.peers = ∅ := by
    rfl
  have hsize := heartbeats_add (context 4) hreach (fun p hp => overfullMembers_set hp)
    (show (⟨1, 0⟩ : BootIncarnation) ≠ Identity.none by decide) overfullMembers_nodup
    (fun p _ => by rw [hempty]; exact KeyMap.find_empty p)
  rw [← run_append, hempty, KeyMap.size_empty, overfullMembers, List.length_map,
    List.length_range] at hsize
  intro h
  have hpeers := h.peers
  rw [crowdedPeers, overfullMembers, hsize] at hpeers
  omega

end TrafficFabric
