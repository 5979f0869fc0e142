import TrafficFabric.AuthorityEffects

/-!
# Fencing of participants

One lemma says everything an operation of the authority can do to a
participant: leave it, clear it on a restart, fence its record, or store a
record that the incarnation rule allows.  Fencing results about whole runs are
derived from it.
-/

namespace TrafficFabric

open Lib AuthorityState

variable {s s' : AuthorityState} {op : AuthorityOp} {record liveness : PeerLiveness}
  {p : ParticipantId} {i highest : BootIncarnation} {incarnation : BootIncarnation}

/-- The states of a record whose incarnation is spent. -/
def hasEnded (state : ParticipantState) : Prop :=
  state = .fenced ∨ state = .expired ∨ state = .retired

/--
A record may replace what is known of its participant when its incarnation is
new, or is the highest one and the record it replaces has not ended.
-/
def Supersedes (state : AuthorityState) (record : PeerLiveness) : Prop :=
  ∀ highest, state.highestIncarnation.find record.participant = some highest →
    highest < record.incarnation ∨
      (highest = record.incarnation ∧
        ∀ stored, state.peers.find record.participant = some stored → ¬ hasEnded stored.state)

/-- What one operation does to one participant. -/
inductive PeerChange
    (s s' : AuthorityState) (op : AuthorityOp) (p : ParticipantId) : Prop
  | kept
      (peer : s'.peers.find p = s.peers.find p)
      (highest : s'.highestIncarnation.find p = s.highestIncarnation.find p)
  | cleared
      (restart : op.restarts = true)
      (peer : s'.peers.find p = none)
      (highest : s'.highestIncarnation.find p = none)
  | fenced
      (record : PeerLiveness) (now : UInt64)
      (before : s.peers.find p = some record)
      (peer : s'.peers.find p = some (AuthorityState.fence now record))
      (highest : s'.highestIncarnation.find p = s.highestIncarnation.find p)
  | stored
      (record : PeerLiveness)
      (named : record.participant = p)
      (set : p ≠ Identity.none)
      (incarnationSet : record.incarnation ≠ Identity.none)
      (stated : record.state ≠ .unspecified)
      (allowed : Supersedes s record)
      (peer : s'.peers.find p = some record)
      (highest : s'.highestIncarnation.find p = some record.incarnation)

/-- An operation that touches neither table leaves every participant. -/
theorem PeerChange.of_eq (p : ParticipantId) (hpeers : s'.peers = s.peers)
    (hhighest : s'.highestIncarnation = s.highestIncarnation) : PeerChange s s' op p := by
  exact .kept (by rw [hpeers]) (by rw [hhighest])

/-- A pass that fences records either fences the one of a participant or leaves it. -/
theorem fenceWhere_peerChange (s : AuthorityState) (selected : PeerLiveness → Bool) (now : UInt64)
    (op : AuthorityOp) (p : ParticipantId) : PeerChange s (s.fenceWhere selected now) op p := by
  cases hp : s.peers.find p with
  | none => exact .kept (by simp [fenceWhere, hp]) rfl
  | some record =>
    by_cases hsel : selected record = true
    · exact .fenced record now hp (by simp [fenceWhere, hp, hsel]) rfl
    · exact .kept (by simp [fenceWhere, hp, hsel]) rfl

/-- The second state is the first with an allowed record stored under its participant. -/
structure Stores (s s' : AuthorityState) (record : PeerLiveness) : Prop where
  set : record.participant ≠ Identity.none
  incarnationSet : record.incarnation ≠ Identity.none
  stated : record.state ≠ .unspecified
  allowed : Supersedes s record
  peers : s'.peers = s.peers.assign record.participant record
  highest : ∀ q, s'.highestIncarnation.find q =
    if q = record.participant then some record.incarnation
    else s.highestIncarnation.find q

theorem Stores.find_self (h : Stores s s' record) :
    s'.peers.find record.participant = some record := by
  rw [h.peers]
  exact KeyMap.find_assign_self _ _ _

/-- A record stored under its own participant changes no other participant. -/
theorem Stores.find_of_ne (h : Stores s s' record) (hp : p ≠ record.participant) :
    s'.peers.find p = s.peers.find p := by
  rw [h.peers]
  exact KeyMap.find_assign_of_ne _ _ hp

theorem Stores.peerChange (h : Stores s s' record) (p : ParticipantId) : PeerChange s s' op p := by
  by_cases hp : p = record.participant
  · subst hp
    refine .stored record rfl h.set h.incarnationSet h.stated h.allowed h.find_self ?_
    rw [h.highest, if_pos rfl]
  · refine .kept (h.find_of_ne hp) ?_
    rw [h.highest, if_neg hp]

/-- The identity check of a publication and of a heartbeat. -/
theorem identities_set (h : ¬ (p.isNone || i.isNone) = true) :
    p ≠ Identity.none ∧ i ≠ Identity.none := by
  simpa using h

/-- A stated record accepts a republication exactly while it has not ended. -/
theorem acceptsRepublish_iff (state : ParticipantState) :
    acceptsRepublish state = true ↔ ¬ hasEnded state ∧ state ≠ .unspecified := by
  cases state <;> simp [acceptsRepublish, hasEnded]

/-- The incarnation of a record is spent for a heartbeat exactly when it has ended. -/
theorem incarnationIsSpent_iff (state : ParticipantState) :
    incarnationIsSpent state = true ↔ hasEnded state := by
  cases state <;> simp [incarnationIsSpent, hasEnded]

theorem publishNewIncarnation_cases
    (hset : liveness.participant ≠ Identity.none ∧ liveness.incarnation ≠ Identity.none)
    (hstated : liveness.state ≠ .unspecified)
    (hnew : ∀ highest, s.highestIncarnation.find liveness.participant = some highest →
      highest < liveness.incarnation) :
    ((s.publishNewIncarnation liveness).1 ≠ .accepted ∧
        (s.publishNewIncarnation liveness).2 = s) ∨
      ((s.publishNewIncarnation liveness).1 = .accepted ∧
        Stores s (s.publishNewIncarnation liveness).2 liveness) := by
  unfold publishNewIncarnation
  split
  · exact .inl ⟨by simp, rfl⟩
  · refine .inr ⟨rfl, hset.1, hset.2, hstated, fun highest h => .inl (hnew highest h), rfl, ?_⟩
    intro q
    exact KeyMap.find_assign _ _ _ _

theorem publishSameIncarnation_cases
    (hset : liveness.participant ≠ Identity.none ∧ liveness.incarnation ≠ Identity.none)
    (hstated : liveness.state ≠ .unspecified)
    (hsame : s.highestIncarnation.find liveness.participant = some liveness.incarnation) :
    ((s.publishSameIncarnation liveness).1 ≠ .accepted ∧
        (s.publishSameIncarnation liveness).2 = s) ∨
      ((s.publishSameIncarnation liveness).1 = .accepted ∧
        Stores s (s.publishSameIncarnation liveness).2 liveness) := by
  unfold publishSameIncarnation
  split
  · rename_i haccepts
    refine .inr ⟨rfl, hset.1, hset.2, hstated, ?_, rfl, ?_⟩
    · intro highest hhighest
      rw [hsame] at hhighest
      cases hhighest
      refine .inr ⟨rfl, fun stored hstored => ?_⟩
      rw [hstored] at haccepts
      exact ((acceptsRepublish_iff _).mp haccepts).1
    · intro q
      by_cases hq : q = liveness.participant
      · rw [if_pos hq, hq]
        exact hsame
      · rw [if_neg hq]
  · exact .inl ⟨by simp, rfl⟩

/-- A publication is refused, or it stores its record. -/
theorem publishLiveness_cases (s : AuthorityState) (liveness : PeerLiveness) :
    ((s.publishLiveness liveness).1 ≠ .accepted ∧ (s.publishLiveness liveness).2 = s) ∨
      ((s.publishLiveness liveness).1 = .accepted ∧
        Stores s (s.publishLiveness liveness).2 liveness) := by
  unfold publishLiveness
  split
  · exact .inl ⟨by simp, rfl⟩
  · rename_i hidentities
    have hset := identities_set hidentities
    split
    · exact .inl ⟨by simp, rfl⟩
    · rename_i hstate
      split
      · rename_i hnone
        exact publishNewIncarnation_cases hset hstate (by simp [hnone])
      · rename_i highest hhighest
        split
        · exact .inl ⟨by simp, rfl⟩
        · rename_i hlow
          split
          · rename_i hsame
            exact publishSameIncarnation_cases hset hstate (by rw [hhighest, hsame])
          · rename_i hdiff
            refine publishNewIncarnation_cases hset hstate ?_
            intro known hknown
            rw [hhighest] at hknown
            cases hknown
            exact lt_of_le_of_ne (not_lt.mp hlow) (Ne.symm hdiff)

/-- A heartbeat that is not fenced names a new incarnation, or one that has not ended. -/
theorem supersedes_of_not_heartbeatIsFenced
    (h : s.heartbeatIsFenced record.participant record.incarnation = false) :
    Supersedes s record := by
  intro highest hhighest
  simp only [heartbeatIsFenced, hhighest] at h
  rcases lt_trichotomy record.incarnation highest with hlt | heq | hgt
  · simp [hlt] at h
  · refine .inr ⟨heq.symm, ?_⟩
    intro stored hstored hended
    simp [heq, hstored, (incarnationIsSpent_iff _).mpr hended] at h
  · exact .inl hgt

/-- A heartbeat is refused, or it stores the record it reasserts. -/
theorem heartbeat_cases (s : AuthorityState) (participant : ParticipantId)
    (incarnation : BootIncarnation) (now ttl : UInt64) :
    ((s.heartbeat participant incarnation now ttl).1 = false ∧
        (s.heartbeat participant incarnation now ttl).2 = s) ∨
      ((s.heartbeat participant incarnation now ttl).1 = true ∧
        Stores s (s.heartbeat participant incarnation now ttl).2
          (heartbeatRecord ((s.peers.find participant).getD {}) participant
            incarnation now ttl)) := by
  unfold heartbeat
  split
  · exact .inl ⟨rfl, rfl⟩
  · rename_i hidentities
    split
    · exact .inl ⟨rfl, rfl⟩
    · rename_i hfenced
      obtain ⟨hset, hincarnation⟩ := identities_set hidentities
      have hallowed := Bool.eq_false_iff.mpr hfenced
      refine .inr ⟨rfl, ?_⟩
      exact
        { set := hset
          incarnationSet := hincarnation
          stated := by simp [heartbeatRecord]
          allowed := supersedes_of_not_heartbeatIsFenced hallowed
          peers := rfl
          highest := fun q => KeyMap.find_assign _ _ _ _ }

/-- Everything an operation of the authority can do to a participant. -/
theorem authorityStep_peerChange (s : AuthorityState) (op : AuthorityOp) (p : ParticipantId) :
    PeerChange s (authorityStep s op) op p := by
  have hrest : op.touchesPeers = false → PeerChange s (authorityStep s op) op p := by
    intro hop
    rcases authorityStep_peers s hop with ⟨hpeers, hhighest⟩ | ⟨hrestarts, hpeers, hhighest⟩
    · exact .of_eq p hpeers hhighest
    · exact .cleared hrestarts (by rw [hpeers, KeyMap.find_empty])
        (by rw [hhighest, KeyMap.find_empty])
  cases op with
  | publishLiveness liveness =>
    rcases publishLiveness_cases s liveness with ⟨_, hsame⟩ | ⟨_, hstores⟩
    · simp only [authorityStep, hsame]
      exact .of_eq p rfl rfl
    · exact hstores.peerChange p
  | heartbeat participant incarnation now ttl =>
    rcases heartbeat_cases s participant incarnation now ttl with ⟨_, hsame⟩ | ⟨_, hstores⟩
    · simp only [authorityStep, hsame]
      exact .of_eq p rfl rfl
    · exact hstores.peerChange p
  | expireSession _ now | expireDue now => exact fenceWhere_peerChange s _ now _ p
  | _ => exact hrest rfl

/--
Every record is stored under its own set participant with a set incarnation and
a stated state, and the highest incarnation of a participant is the one of its
record.
-/
structure PeersCoherent (s : AuthorityState) : Prop where
  named : ∀ p record, s.peers.find p = some record → record.participant = p ∧ p ≠ Identity.none
  stated : ∀ p record, s.peers.find p = some record →
    record.incarnation ≠ Identity.none ∧ record.state ≠ .unspecified
  highest : ∀ p, s.highestIncarnation.find p = (s.peers.find p).map PeerLiveness.incarnation

theorem peersCoherent_init : PeersCoherent {} := by
  refine ⟨?_, ?_, ?_⟩
  · intro p record h
    simp at h
  · intro p record h
    simp at h
  · intro p
    simp

theorem authorityStep_peersCoherent (s : AuthorityState) (op : AuthorityOp) (h : PeersCoherent s) :
    PeersCoherent (authorityStep s op) := by
  refine ⟨?_, ?_, ?_⟩
  · intro p record hrecord
    cases authorityStep_peerChange s op p with
    | kept peer _ => exact h.named p record (peer ▸ hrecord)
    | cleared _ peer _ => simp [peer] at hrecord
    | fenced old now before peer _ =>
      rw [peer] at hrecord
      cases hrecord
      exact h.named p old before
    | stored new named set _ _ _ peer _ =>
      rw [peer] at hrecord
      cases hrecord
      exact ⟨named, set⟩
  · intro p record hrecord
    cases authorityStep_peerChange s op p with
    | kept peer _ => exact h.stated p record (peer ▸ hrecord)
    | cleared _ peer _ => simp [peer] at hrecord
    | fenced old now before peer _ =>
      rw [peer] at hrecord
      cases hrecord
      exact ⟨(h.stated p old before).1, by simp [fence]⟩
    | stored new _ _ incarnationSet stated _ peer _ =>
      rw [peer] at hrecord
      cases hrecord
      exact ⟨incarnationSet, stated⟩
  · intro p
    cases authorityStep_peerChange s op p with
    | kept peer highest => rw [highest, peer, h.highest p]
    | cleared _ peer highest => simp [peer, highest]
    | fenced _ _ before peer highest =>
      rw [highest, h.highest p, before, peer]
      rfl
    | stored new _ _ _ _ _ peer highest => simp [peer, highest]

theorem reachable_peersCoherent (h : Reachable authorityStep {} s) : PeersCoherent s := by
  exact h.invariant peersCoherent_init authorityStep_peersCoherent

/-- The participant has a record of at least the given incarnation. -/
def AtLeast (i : BootIncarnation) (p : ParticipantId) (s : AuthorityState) : Prop :=
  ∃ highest, s.highestIncarnation.find p = some highest ∧ i ≤ highest

/-- The record is of a greater incarnation, or of this one and has ended. -/
def IncarnationSpent (i : BootIncarnation) (p : ParticipantId) (s : AuthorityState) : Prop :=
  ∃ record, s.peers.find p = some record ∧
    (i < record.incarnation ∨ (record.incarnation = i ∧ hasEnded record.state))

theorem authorityStep_atLeast (hop : op.restarts = false) (h : AtLeast i p s) :
    AtLeast i p (authorityStep s op) := by
  obtain ⟨highest, hhighest, hle⟩ := h
  cases authorityStep_peerChange s op p with
  | kept _ same => exact ⟨highest, same ▸ hhighest, hle⟩
  | cleared restart _ _ => simp [hop] at restart
  | fenced _ _ _ _ same => exact ⟨highest, same ▸ hhighest, hle⟩
  | stored record named _ _ _ allowed _ new =>
    subst named
    refine ⟨record.incarnation, new, ?_⟩
    rcases allowed highest hhighest with hlt | ⟨heq, _⟩
    · exact le_trans hle (le_of_lt hlt)
    · exact heq ▸ hle

theorem authorityStep_incarnationSpent (hop : op.restarts = false) (hcoherent : PeersCoherent s)
    (h : IncarnationSpent i p s) : IncarnationSpent i p (authorityStep s op) := by
  obtain ⟨record, hrecord, hspent⟩ := h
  cases authorityStep_peerChange s op p with
  | kept peer _ => exact ⟨record, peer ▸ hrecord, hspent⟩
  | cleared restart _ _ => simp [hop] at restart
  | fenced _ _ before peer =>
    rw [hrecord] at before
    cases before
    refine ⟨_, peer, hspent.imp id ?_⟩
    rintro ⟨heq, _⟩
    exact ⟨heq, .inl rfl⟩
  | stored new named _ _ _ allowed peer _ =>
    subst named
    have hhighest : s.highestIncarnation.find new.participant = some record.incarnation := by
      rw [hcoherent.highest, hrecord]
      rfl
    refine ⟨new, peer, .inl ?_⟩
    rcases allowed _ hhighest with hlt | ⟨heq, hopen⟩
    · rcases hspent with hi | ⟨hi, _⟩
      · exact lt_trans hi hlt
      · exact hi ▸ hlt
    · rcases hspent with hi | ⟨_, hended⟩
      · exact heq ▸ hi
      · exact absurd hended (hopen record hrecord)

/-- The highest incarnation is known of the recorded participants only. -/
theorem PeersCoherent.record_of_highest (h : PeersCoherent s)
    (hhighest : s.highestIncarnation.find p = some highest) :
    ∃ record, s.peers.find p = some record ∧ record.incarnation = highest := by
  simpa [h.highest] using hhighest

theorem PeersCoherent.highest_of_record (h : PeersCoherent s)
    (hrecord : s.peers.find p = some record) :
    s.highestIncarnation.find p = some record.incarnation := by
  rw [h.highest, hrecord]
  rfl

/-- Nothing of a spent incarnation or of a smaller one may replace the record. -/
theorem IncarnationSpent.not_supersedes (hcoherent : PeersCoherent s)
    (hspent : IncarnationSpent i record.participant s) (hle : record.incarnation ≤ i) :
    ¬ Supersedes s record := by
  intro hallowed
  obtain ⟨known, hknown, hspent⟩ := hspent
  rcases hallowed _ (hcoherent.highest_of_record hknown) with hlt | ⟨heq, hopen⟩
  · rcases hspent with hgreater | ⟨rfl, _⟩
    · exact absurd hle (not_le_of_gt (lt_trans hgreater hlt))
    · exact absurd hle (not_le_of_gt hlt)
  · rcases hspent with hgreater | ⟨_, hended⟩
    · exact absurd (heq ▸ hle) (not_le_of_gt hgreater)
    · exact hopen known hknown hended

/-- A publication of a spent incarnation changes nothing. -/
theorem publishLiveness_of_spent (hcoherent : PeersCoherent s)
    (hspent : IncarnationSpent i liveness.participant s) (hle : liveness.incarnation ≤ i) :
    (s.publishLiveness liveness).2 = s := by
  rcases publishLiveness_cases s liveness with ⟨_, hsame⟩ | ⟨_, hstores⟩
  · exact hsame
  · exact absurd hstores.allowed (hspent.not_supersedes hcoherent hle)

/-- A heartbeat of a spent incarnation changes nothing. -/
theorem heartbeat_of_spent (hcoherent : PeersCoherent s) (hspent : IncarnationSpent i p s)
    (hle : incarnation ≤ i) (now ttl : UInt64) : (s.heartbeat p incarnation now ttl).2 = s := by
  rcases heartbeat_cases s p incarnation now ttl with ⟨_, hsame⟩ | ⟨_, hstores⟩
  · exact hsame
  · exact absurd hstores.allowed (hspent.not_supersedes hcoherent hle)

/-- A strictly greater incarnation of a recorded participant supersedes its record. -/
theorem supersedes_of_greater
    (hhighest : s.highestIncarnation.find record.participant = some highest)
    (hlt : highest < record.incarnation) : Supersedes s record := by
  intro known hknown
  rw [hhighest] at hknown
  cases hknown
  exact .inl hlt

/-- The participant table takes a record of the participant. -/
def HasRoom (state : AuthorityState) (p : ParticipantId) : Prop :=
  state.peers.find p ≠ none ∨ state.peers.size < Limits.peersMax

theorem not_hasRoom_iff (s : AuthorityState) (p : ParticipantId) :
    ¬ HasRoom s p ↔ Limits.peersMax ≤ s.peers.size ∧ s.peers.find p = none := by
  simp only [HasRoom, not_or, not_not, Nat.not_lt]
  exact And.comm

theorem publishNewIncarnation_accepted_of_room (hroom : HasRoom s liveness.participant) :
    (s.publishNewIncarnation liveness).1 = .accepted := by
  have hfits := mt (not_hasRoom_iff s liveness.participant).mpr (not_not_intro hroom)
  simp [publishNewIncarnation, hfits]

/-- A full table refuses a participant it does not hold. -/
theorem publishLiveness_of_full (hcoherent : PeersCoherent s)
    (hset : liveness.participant ≠ Identity.none)
    (hincarnation : liveness.incarnation ≠ Identity.none) (hstated : liveness.state ≠ .unspecified)
    (hfull : ¬ HasRoom s liveness.participant) :
    (s.publishLiveness liveness).1 = .rejectedCapacity := by
  have hbound := (not_hasRoom_iff _ _).mp hfull
  have hhighest : s.highestIncarnation.find liveness.participant = none := by
    rw [hcoherent.highest, hbound.2]
    rfl
  simp [publishLiveness, publishNewIncarnation, hset, hincarnation, hstated, hhighest, hbound]

/--
A publication is accepted exactly when its identities and its state are set and
the incarnation rule and the table bound allow its record.
-/
theorem publishLiveness_accepted_iff (hcoherent : PeersCoherent s) (liveness : PeerLiveness) :
    (s.publishLiveness liveness).1 = .accepted ↔
      liveness.participant ≠ Identity.none ∧ liveness.incarnation ≠ Identity.none ∧
        liveness.state ≠ .unspecified ∧ Supersedes s liveness ∧
        HasRoom s liveness.participant := by
  constructor
  · intro haccepted
    rcases publishLiveness_cases s liveness with ⟨hrefused, _⟩ | ⟨_, hstores⟩
    · exact absurd haccepted hrefused
    · refine ⟨hstores.set, hstores.incarnationSet, hstores.stated, hstores.allowed, ?_⟩
      by_contra hfull
      rw [publishLiveness_of_full hcoherent hstores.set hstores.incarnationSet hstores.stated
        hfull] at haccepted
      cases haccepted
  · rintro ⟨hset, hincarnation, hstated, hallowed, hroom⟩
    have hnew := publishNewIncarnation_accepted_of_room hroom
    cases hhighest : s.highestIncarnation.find liveness.participant with
    | none => simp [publishLiveness, hset, hincarnation, hstated, hhighest, hnew]
    | some highest =>
      rcases hallowed highest hhighest with hlt | ⟨rfl, hopen⟩
      · simp [publishLiveness, hset, hincarnation, hstated, hhighest, hnew,
          not_lt_of_gt hlt, (ne_of_lt hlt).symm]
      · obtain ⟨record, hrecord, _⟩ := hcoherent.record_of_highest hhighest
        have haccepts : acceptsRepublish record.state = true :=
          (acceptsRepublish_iff _).mpr ⟨hopen record hrecord, (hcoherent.stated _ _ hrecord).2⟩
        simp [publishLiveness, publishSameIncarnation, hset,
          hincarnation, hstated, hhighest, hrecord, haccepts]

theorem publishNewIncarnation_ne_fenced (s : AuthorityState) (liveness : PeerLiveness) :
    (s.publishNewIncarnation liveness).1 ≠ .fencedStaleIncarnation := by
  unfold publishNewIncarnation
  split <;> simp

/-- A stated publication is fenced exactly when the incarnation rule refuses it. -/
theorem publishLiveness_fenced_iff (hcoherent : PeersCoherent s)
    (hset : liveness.participant ≠ Identity.none)
    (hincarnation : liveness.incarnation ≠ Identity.none) :
    (s.publishLiveness liveness).1 = .fencedStaleIncarnation ↔
      liveness.state ≠ .unspecified ∧ ¬ Supersedes s liveness := by
  have hnew := publishNewIncarnation_ne_fenced s liveness
  by_cases hstated : liveness.state = .unspecified
  · simp [publishLiveness, hset, hincarnation, hstated]
  · cases hhighest : s.highestIncarnation.find liveness.participant with
    | none =>
      have hallowed : Supersedes s liveness := by
        intro highest h
        simp [hhighest] at h
      simp [publishLiveness, hset, hincarnation, hstated, hhighest, hnew, hallowed]
    | some highest =>
      obtain ⟨record, hrecord, rfl⟩ := hcoherent.record_of_highest hhighest
      rcases lt_trichotomy liveness.incarnation record.incarnation with hlt | heq | hgt
      · have hrefused : ¬ Supersedes s liveness := by
          intro hallowed
          rcases hallowed _ hhighest with hgreater | ⟨hsame, _⟩
          · exact absurd hgreater (not_lt_of_gt hlt)
          · exact absurd hsame (ne_of_gt hlt)
        simp [publishLiveness, hset, hincarnation, hstated, hhighest, hlt, hrefused]
      · have hallowed : Supersedes s liveness ↔ ¬ hasEnded record.state := by
          simp [Supersedes, hhighest, heq, hrecord]
        have haccepts : acceptsRepublish record.state = true ↔
            ¬ hasEnded record.state := by
          simp [acceptsRepublish_iff, (hcoherent.stated _ _ hrecord).2]
        have hrecordSet := (hcoherent.stated _ _ hrecord).1
        by_cases hended : hasEnded record.state <;>
          simp_all [publishLiveness, publishSameIncarnation]
      · have hallowed : Supersedes s liveness := supersedes_of_greater hhighest hgt
        simp [publishLiveness, hset, hincarnation, hstated, hhighest, hnew,
          hallowed, not_lt_of_gt hgt, ne_of_gt hgt]

/-- A heartbeat is fenced exactly when the incarnation rule refuses it. -/
theorem heartbeatIsFenced_eq_false_iff (hcoherent : PeersCoherent s) :
    s.heartbeatIsFenced record.participant record.incarnation = false ↔ Supersedes s record := by
  refine ⟨supersedes_of_not_heartbeatIsFenced, ?_⟩
  intro hallowed
  cases hhighest : s.highestIncarnation.find record.participant with
  | none => simp [heartbeatIsFenced, hhighest]
  | some highest =>
    rcases hallowed highest hhighest with hlt | ⟨rfl, hopen⟩
    · simp [heartbeatIsFenced, hhighest, not_lt_of_gt hlt, (ne_of_lt hlt).symm]
    · obtain ⟨stored, hstored, _⟩ := hcoherent.record_of_highest hhighest
      have hunspent : incarnationIsSpent stored.state = false :=
        Bool.eq_false_iff.mpr
          (fun hspent => hopen stored hstored ((incarnationIsSpent_iff _).mp hspent))
      simp [heartbeatIsFenced, hhighest, hstored, hunspent]

/-- A heartbeat is accepted exactly when its identities are set and no fence is against it. -/
theorem heartbeat_accepted_iff (hcoherent : PeersCoherent s) (p : ParticipantId)
    (i : BootIncarnation) (now ttl : UInt64) :
    (s.heartbeat p i now ttl).1 = true ↔
      p ≠ Identity.none ∧ i ≠ Identity.none ∧
        Supersedes s { participant := p, incarnation := i } := by
  rw [← heartbeatIsFenced_eq_false_iff hcoherent]
  unfold heartbeat
  split
  · rename_i hunset
    simp only [Bool.or_eq_true, Identity.isNone_eq_true_iff] at hunset
    simp only [Bool.false_eq_true, false_iff]
    rintro ⟨hset, hincarnation, _⟩
    exact hunset.elim hset hincarnation
  · rename_i hidentities
    obtain ⟨hset, hincarnation⟩ := identities_set hidentities
    split <;> simp_all

/-- A live publication of a strictly greater incarnation of a recorded participant is accepted. -/
theorem publishLiveness_accepted_of_greater (hcoherent : PeersCoherent s)
    (hlive : liveness.state = .live)
    (hhighest : s.highestIncarnation.find liveness.participant = some highest)
    (hlt : highest < liveness.incarnation) : (s.publishLiveness liveness).1 = .accepted := by
  obtain ⟨record, hrecord, _⟩ := hcoherent.record_of_highest hhighest
  refine (publishLiveness_accepted_iff hcoherent liveness).mpr ⟨?_, ?_, ?_, ?_, ?_⟩
  · exact (hcoherent.named _ _ hrecord).2
  · exact Identity.ne_none_of_lt hlt
  · simp [hlive]
  · exact supersedes_of_greater hhighest hlt
  · exact .inl (by simp [hrecord])

theorem heartbeat_accepted_of_greater (hcoherent : PeersCoherent s)
    (hhighest : s.highestIncarnation.find p = some highest) (hlt : highest < incarnation)
    (now ttl : UInt64) : (s.heartbeat p incarnation now ttl).1 = true := by
  obtain ⟨record, hrecord, _⟩ := hcoherent.record_of_highest hhighest
  refine (heartbeat_accepted_iff hcoherent p incarnation now ttl).mpr ⟨?_, ?_, ?_⟩
  · exact (hcoherent.named _ _ hrecord).2
  · exact Identity.ne_none_of_lt hlt
  · exact supersedes_of_greater hhighest hlt

/--
Fencing is monotone within a boot.  The highest incarnation never decreases and
is the one of the stored record; a spent incarnation neither changes the record
nor revives it; a strictly greater one is always accepted.
-/
theorem fencing_monotone_within_boot {s : AuthorityState} {ops : List AuthorityOp}
    (hs : Reachable authorityStep {} s) (hops : ∀ op ∈ ops, op.restarts = false)
    (p : ParticipantId) :
    (∀ highest, s.highestIncarnation.find p = some highest →
      ∃ later, (run authorityStep s ops).highestIncarnation.find p = some later ∧ highest ≤ later) ∧
    ((run authorityStep s ops).highestIncarnation.find p =
      ((run authorityStep s ops).peers.find p).map PeerLiveness.incarnation) ∧
    (∀ record, s.peers.find p = some record → hasEnded record.state →
      (∀ liveness : PeerLiveness, liveness.participant = p →
        liveness.incarnation ≤ record.incarnation →
        ((run authorityStep s ops).publishLiveness liveness).2.peers.find p =
          (run authorityStep s ops).peers.find p) ∧
      (∀ incarnation now ttl, incarnation ≤ record.incarnation →
        ((run authorityStep s ops).heartbeat p incarnation now ttl).2.peers.find p =
          (run authorityStep s ops).peers.find p) ∧
      (∀ later, (run authorityStep s ops).peers.find p = some later →
        later.incarnation ≤ record.incarnation → later.state ≠ .live)) ∧
    (∀ highest, (run authorityStep s ops).highestIncarnation.find p = some highest →
      (∀ liveness : PeerLiveness, liveness.participant = p → liveness.state = .live →
        highest < liveness.incarnation →
        ((run authorityStep s ops).publishLiveness liveness).1 = .accepted) ∧
      (∀ incarnation now ttl, highest < incarnation →
        ((run authorityStep s ops).heartbeat p incarnation now ttl).1 = true)) := by
  have hcoherent := reachable_peersCoherent (hs.run ops)
  have halong : Along authorityStep (fun _ op => op.restarts = false) s ops :=
    along_of_forall s hops
  refine ⟨?_, hcoherent.highest p, ?_, ?_⟩
  · intro highest hhighest
    have hstart : AtLeast highest p s := ⟨highest, hhighest, le_refl _⟩
    exact halong.invariant (fun _ _ hop h => authorityStep_atLeast hop h) hstart
  · intro record hrecord hended
    let Spent (t : AuthorityState) : Prop :=
      PeersCoherent t ∧ IncarnationSpent record.incarnation p t
    have hstart : Spent s := ⟨reachable_peersCoherent hs, record, hrecord, .inr ⟨rfl, hended⟩⟩
    have hstep : ∀ t op, op.restarts = false → Spent t → Spent (authorityStep t op) :=
      fun t op hop h =>
        ⟨authorityStep_peersCoherent t op h.1, authorityStep_incarnationSpent hop h.1 h.2⟩
    have hspent : IncarnationSpent record.incarnation p (run authorityStep s ops) :=
      (halong.invariant hstep hstart).2
    refine ⟨?_, ?_, ?_⟩
    · rintro liveness rfl hle
      rw [publishLiveness_of_spent hcoherent hspent hle]
    · intro incarnation now ttl hle
      rw [heartbeat_of_spent hcoherent hspent hle]
    · intro later hlater hle hlive
      obtain ⟨known, hknown, hcases⟩ := hspent
      rw [hlater] at hknown
      cases hknown
      rcases hcases with hlt | ⟨_, hend⟩
      · exact absurd hlt (not_lt.mpr hle)
      · simp [hasEnded, hlive] at hend
  · intro highest hhighest
    refine ⟨?_, ?_⟩
    · rintro liveness rfl hlive hlt
      exact publishLiveness_accepted_of_greater hcoherent hlive hhighest hlt
    · intro incarnation now ttl hlt
      exact heartbeat_accepted_of_greater hcoherent hhighest hlt now ttl

/-- A record of participant 1 in the given state and incarnation. -/
def exampleRecord (state : ParticipantState) (incarnation : UInt64) : PeerLiveness :=
  { participant := ⟨1, 0⟩
    incarnation := ⟨incarnation, 0⟩
    state := state
    expiresAtMonotonicMs := 100 }

/-- A boot that published incarnation 2 and retired it: incarnation 2 is spent, 3 is accepted. -/
theorem fencing_monotone_after_retirement :
    let s := run authorityStep {} [.publishLiveness (exampleRecord .retired 2)]
    let t := run authorityStep s [.publishLiveness (exampleRecord .live 2), .expireDue 5]
    s.peers.find ⟨1, 0⟩ = some (exampleRecord .retired 2) ∧
      (t.publishLiveness (exampleRecord .live 2)).2.peers.find ⟨1, 0⟩ = t.peers.find ⟨1, 0⟩ ∧
      (t.publishLiveness (exampleRecord .live 3)).1 = .accepted := by
  intro s t
  have hrecord : s.peers.find ⟨1, 0⟩ = some (exampleRecord .retired 2) := by decide
  let ops : List AuthorityOp := [.publishLiveness (exampleRecord .live 2), .expireDue 5]
  have hops : ∀ op ∈ ops, op.restarts = false := by decide
  obtain ⟨_, _, hended, hgreater⟩ := fencing_monotone_within_boot (s := s) ⟨_, rfl⟩ hops ⟨1, 0⟩
  refine ⟨hrecord, ?_, ?_⟩
  · exact (hended _ hrecord (.inr (.inr rfl))).1 _ rfl (by decide)
  · exact (hgreater ⟨2, 0⟩ (by decide)).1 _ rfl rfl (by decide)

end TrafficFabric
