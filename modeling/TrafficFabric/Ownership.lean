import TrafficFabric.Lapse

/-!
# Participants and the sessions they are bound to

A publication binds the record it writes to the session named by its caller,
whichever session bound it before.  A heartbeat of the recorded incarnation
keeps the binding and extends the expiry; a heartbeat of a new incarnation has
no binding at all.  Neither looks at the session table, so a live record may be
taken over by another session and may be bound to a session that is not open.
-/

namespace TrafficFabric

open Lib

/-- What a record holds: its state, its node, its session and its expiry. -/
def PeerLiveness.holding (record : PeerLiveness) :
    ParticipantState × NodeId × SessionId × UInt64 :=
  (record.state, record.node, record.boundSession, record.expiresAtMonotonicMs)

section Live

variable {s : AuthorityState} {p : ParticipantId} {record : PeerLiveness}

/-- Whatever names the incarnation of a live record may replace it. -/
theorem supersedes_of_live {new : PeerLiveness} (hcoherent : PeersCoherent s)
    (hrecord : s.peers.find new.participant = some record) (hlive : record.state = .live)
    (hincarnation : new.incarnation = record.incarnation) : Supersedes s new := by
  intro highest hhighest
  rw [hcoherent.highest_of_record hrecord] at hhighest
  cases hhighest
  refine .inr ⟨hincarnation.symm, ?_⟩
  intro stored hstored
  rw [hrecord] at hstored
  cases hstored
  simp [hasEnded, hlive]

/-- A publication of the incarnation of a live record replaces the record. -/
theorem publishLiveness_of_live {liveness : PeerLiveness} (hcoherent : PeersCoherent s)
    (hrecord : s.peers.find liveness.participant = some record) (hlive : record.state = .live)
    (hincarnation : liveness.incarnation = record.incarnation)
    (hstated : liveness.state ≠ .unspecified) :
    (s.publishLiveness liveness).2.peers.find liveness.participant = some liveness := by
  have haccepted : (s.publishLiveness liveness).1 = .accepted := by
    refine (publishLiveness_accepted_iff hcoherent liveness).mpr ⟨?_, ?_, hstated, ?_, ?_⟩
    · exact (hcoherent.named _ _ hrecord).2
    · exact hincarnation ▸ (hcoherent.stated _ _ hrecord).1
    · exact supersedes_of_live hcoherent hrecord hlive hincarnation
    · exact .inl (by simp [hrecord])
  rcases publishLiveness_cases s liveness with ⟨hrefused, _⟩ | ⟨_, hstores⟩
  · exact absurd haccepted hrefused
  · exact hstores.find_self

/-- A heartbeat of the incarnation of a live record extends the record. -/
theorem heartbeat_of_live (hcoherent : PeersCoherent s) (hrecord : s.peers.find p = some record)
    (hlive : record.state = .live) (now ttl : UInt64) :
    (s.heartbeat p record.incarnation now ttl).2.peers.find p =
      some (AuthorityState.heartbeatRecord record p record.incarnation now ttl) := by
  have haccepted : (s.heartbeat p record.incarnation now ttl).1 = true := by
    refine (heartbeat_accepted_iff hcoherent p record.incarnation now ttl).mpr ⟨?_, ?_, ?_⟩
    · exact (hcoherent.named _ _ hrecord).2
    · exact (hcoherent.stated _ _ hrecord).1
    · exact supersedes_of_live hcoherent hrecord hlive rfl
  rcases heartbeat_cases s p record.incarnation now ttl with ⟨hrefused, _⟩ | ⟨_, hstores⟩
  · simp [hrefused] at haccepted
  · rw [hrecord] at hstores
    exact hstores.find_self

end Live

/-- A call that reasserts an incarnation of a participant. -/
inductive Reassertion where
  | publication (node : NodeId) (state : ParticipantState)
  | heartbeat

def Reassertion.op
    (context : ServiceRequestContext) (p : ParticipantId) (i : BootIncarnation) :
    Reassertion → ServiceOp
  | .publication node state => .publishParticipant context p i node state
  | .heartbeat => .heartbeat context p i

/--
The calls that write nothing new: a publication without a state, which is
refused, and a heartbeat that computes the expiry the record has.
-/
def Reassertion.WritesNothing
    (s : CoordinatorService) (context : ServiceRequestContext) (record : PeerLiveness) :
    Reassertion → Prop
  | .publication _ state => state = .unspecified
  | .heartbeat => context.nowMonotonicMs + s.config.participantTtlMs = record.expiresAtMonotonicMs

instance (s : CoordinatorService) (context : ServiceRequestContext) (record : PeerLiveness)
    (call : Reassertion) : Decidable (call.WritesNothing s context record) :=
  match call with
  | .publication _ _ => inferInstanceAs (Decidable (_ = _))
  | .heartbeat => inferInstanceAs (Decidable (_ = _))

section Foreign

variable {s : CoordinatorService} {p : ParticipantId} {record : PeerLiveness}
variable {context : ServiceRequestContext}

theorem foreign_publication_keeps_iff (hcoherent : PeersCoherent s.authority)
    (hrecord : s.authority.peers.find p = some record) (hlive : record.state = .live)
    (hforeign : context.session ≠ record.boundSession) (node : NodeId) (state : ParticipantState) :
    ((serviceStep s
          (.publishParticipant context p record.incarnation node state)).authority.peers.find
        p).map PeerLiveness.holding = some record.holding ↔
      state = .unspecified := by
  have hset := (hcoherent.named _ _ hrecord).2
  have hincarnationSet := (hcoherent.stated _ _ hrecord).1
  rw [publishParticipant_authority_of_set s hset hincarnationSet]
  constructor
  · intro hkept
    by_contra hstated
    let liveness := s.publication context p record.incarnation node state
    have hstored : (s.authority.publishLiveness liveness).2.peers.find p = some liveness :=
      publishLiveness_of_live hcoherent hrecord hlive rfl hstated
    rw [hstored] at hkept
    simp only [Option.map_some, Option.some.injEq, PeerLiveness.holding, Prod.mk.injEq] at hkept
    exact hforeign hkept.2.2.1
  · rintro rfl
    simp [AuthorityState.publishLiveness, CoordinatorService.publication, hrecord]

theorem foreign_heartbeat_keeps_iff (hcoherent : PeersCoherent s.authority)
    (hrecord : s.authority.peers.find p = some record) (hlive : record.state = .live) :
    ((serviceStep s (.heartbeat context p record.incarnation)).authority.peers.find p).map
        PeerLiveness.holding = some record.holding ↔
      context.nowMonotonicMs + s.config.participantTtlMs = record.expiresAtMonotonicMs := by
  have hset := (hcoherent.named _ _ hrecord).2
  have hincarnationSet := (hcoherent.stated _ _ hrecord).1
  rw [heartbeat_authority_of_set s hset hincarnationSet, heartbeat_of_live hcoherent hrecord hlive]
  simp [PeerLiveness.holding, AuthorityState.heartbeatRecord, hlive]

/--
A live record bound to one session is left as it is by a call under another
session exactly when that call writes nothing new.
-/
theorem foreign_reassertion_keeps_iff (hs : ServiceReachable s)
    (hrecord : s.authority.peers.find p = some record) (hlive : record.state = .live)
    (hforeign : context.session ≠ record.boundSession) (call : Reassertion) :
    ((serviceStep s (call.op context p record.incarnation)).authority.peers.find p).map
        PeerLiveness.holding = some record.holding ↔
      call.WritesNothing s context record := by
  have hcoherent := reachable_peersCoherent hs.authority
  cases call with
  | publication node state =>
    exact foreign_publication_keeps_iff hcoherent hrecord hlive hforeign node state
  | heartbeat => exact foreign_heartbeat_keeps_iff hcoherent hrecord hlive

end Foreign

namespace TwoMembers

/-- A request under session 43 at the given time. -/
def otherContext (now : UInt64) : ServiceRequestContext where
  session := ⟨43, 0⟩
  incarnation := ⟨44, 0⟩
  nowMonotonicMs := now

/-- The service of the two members with session 43 open as well. -/
def shared : CoordinatorService :=
  run serviceStep service
    [.openSession (text "other") 6 (minted 43 (by decide)) (minted 44 (by decide))]

theorem shared_reachable : ServiceReachable shared := by
  exact service_reachable.run _

theorem shared_firstMember : shared.authority.peers.find ⟨1, 0⟩ = some firstMember := by
  decide

end TwoMembers

open TwoMembers in
/-- Another open session takes a live record over, and extends it by a heartbeat. -/
theorem foreign_session_takes_over :
    ServiceReachable shared ∧
      shared.authority.peers.find ⟨1, 0⟩ = some firstMember ∧ firstMember.state = .live ∧
      (shared.sessions.find firstMember.boundSession).isSome = true ∧
      (shared.sessions.find (otherContext 7).session).isSome = true ∧
      ((serviceStep shared
          (.publishParticipant (otherContext 7) ⟨1, 0⟩ ⟨11, 0⟩ ⟨22, 0⟩ .live)).authority.peers.find
        ⟨1, 0⟩).map PeerLiveness.holding = some (.live, ⟨22, 0⟩, ⟨43, 0⟩, 3007) ∧
      ((serviceStep shared
          (.heartbeat (otherContext 7) ⟨1, 0⟩ ⟨11, 0⟩)).authority.peers.find
        ⟨1, 0⟩).map PeerLiveness.holding = some (.live, ⟨21, 0⟩, ⟨41, 0⟩, 3007) ∧
      firstMember.holding = (.live, ⟨21, 0⟩, ⟨41, 0⟩, 3003) := by
  refine ⟨shared_reachable, shared_firstMember, rfl, ?_, ?_, ?_, ?_, rfl⟩ <;> decide

open TwoMembers in
/-- A heartbeat that computes the recorded expiry, and an unstated publication, change nothing. -/
theorem foreign_reassertion_keeps_first_member :
    ((serviceStep shared (.heartbeat (otherContext 3) ⟨1, 0⟩ ⟨11, 0⟩)).authority.peers.find
        ⟨1, 0⟩).map PeerLiveness.holding = some firstMember.holding ∧
      ((serviceStep shared
          (.publishParticipant (otherContext 7) ⟨1, 0⟩ ⟨11, 0⟩ ⟨22, 0⟩
            .unspecified)).authority.peers.find
        ⟨1, 0⟩).map PeerLiveness.holding = some firstMember.holding := by
  have hforeign : ∀ now, (otherContext now).session ≠ firstMember.boundSession := by
    intro now
    change (⟨43, 0⟩ : Identity) ≠ ⟨41, 0⟩
    decide
  refine ⟨?_, ?_⟩
  · exact (foreign_reassertion_keeps_iff shared_reachable shared_firstMember rfl
      (hforeign 3) .heartbeat).mpr (by decide)
  · exact (foreign_reassertion_keeps_iff shared_reachable shared_firstMember rfl
      (hforeign 7) (.publication ⟨22, 0⟩ .unspecified)).mpr rfl

end TrafficFabric
