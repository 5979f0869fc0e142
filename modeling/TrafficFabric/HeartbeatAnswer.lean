import TrafficFabric.Callers
import TrafficFabric.Participants
import TrafficFabric.Payloads

/-!
# The answer to a heartbeat

A heartbeat is handed to the service as a publication.  Where that succeeds, the
acknowledgement repeats what the heartbeat said and adds the expiry found by a
second look at the table, before which other threads may have had the lock.

A publication other than a live one succeeds although the table was full or the
state was none that is stored.  The acknowledgement of such a heartbeat reports
a record that does not exist.
-/

namespace TrafficFabric

open Lib

structure HeartbeatAckPayload where
  participant : ParticipantId := {}
  incarnation : BootIncarnation := {}
  state : ParticipantState := .unspecified
  expiresAtMonotonicMs : UInt64 := 0
  accepted : Bool := false
  reasons : ReasonChain := []
deriving DecidableEq, Repr

/-- The record of a participant, or an empty one. -/
def AuthorityState.peerSnapshot
    (state : AuthorityState) (participant : ParticipantId) : PeerLiveness :=
  (state.peers.find participant).getD {}

namespace CoordinatorHandler

/-- The acknowledgement of a published heartbeat, as of the second look at the table. -/
def heartbeatAck (service : CoordinatorService) (payload : HeartbeatPayload) :
    HeartbeatAckPayload :=
  { participant := payload.participant
    incarnation := payload.incarnation
    state := payload.state
    accepted := true
    expiresAtMonotonicMs :=
      (service.authority.peerSnapshot payload.participant).expiresAtMonotonicMs
    reasons := ReasonChain.add [] (text "heartbeat_accepted")
      (text "liveness accepted for this incarnation; the participant now holds authority until the expiry instant reported here")
      payload.participant }

/--
Publishes a heartbeat and answers it.  The operations that other threads perform
between the publication and the second look are an input.
-/
def answerHeartbeat
    (service : CoordinatorService) (between : List ServiceOp)
    (context : ServiceRequestContext) (payload : HeartbeatPayload) :
    Except Status HeartbeatAckPayload × CoordinatorService :=
  let (status, published) :=
    service.publishParticipant context payload.participant payload.incarnation payload.node
      payload.state
  let service := run serviceStep published between
  (if status.isOk then .ok (heartbeatAck service payload) else .error status, service)

end CoordinatorHandler

open CoordinatorHandler

section Answer

variable {service : CoordinatorService} {between : List ServiceOp}
variable {context : ServiceRequestContext} {payload : HeartbeatPayload}

/-- The answer is an acknowledgement exactly where the publication is not refused. -/
theorem answerHeartbeat_eq_ok_iff {ack : HeartbeatAckPayload}
    (hcoherent : PeersCoherent service.authority) :
    (answerHeartbeat service between context payload).1 = .ok ack ↔
      Publishes service.authority payload.participant payload.incarnation payload.state ∧
      ack = heartbeatAck (answerHeartbeat service between context payload).2 payload := by
  rw [← publishParticipant_isOk_iff hcoherent payload.participant payload.incarnation
    payload.node payload.state]
  simp only [answerHeartbeat]
  split
  · rename_i hok
    rw [Except.ok.injEq]
    exact ⟨fun heq => ⟨hok, heq.symm⟩, fun h => h.2.symm⟩
  · rename_i hrefused
    exact ⟨nofun, fun h => absurd h.1 hrefused⟩

end Answer

/-- An accepting acknowledgement states the record the table holds after the processing. -/
def AckTruthful
    (service : CoordinatorService) (between : List ServiceOp)
    (context : ServiceRequestContext) (payload : HeartbeatPayload) : Prop :=
  ∀ ack, (answerHeartbeat service between context payload).1 = .ok ack → ack.accepted = true →
    ∃ record,
      (answerHeartbeat service between context payload).2.authority.peers.find
        ack.participant = some record ∧
      record.incarnation = ack.incarnation ∧ record.state = ack.state ∧
      record.expiresAtMonotonicMs = ack.expiresAtMonotonicMs

/--
When the heartbeat is answered, the table has a record of the participant with
the incarnation and the state that the heartbeat states.
-/
def RecordStated
    (service : CoordinatorService) (between : List ServiceOp)
    (context : ServiceRequestContext) (payload : HeartbeatPayload) : Prop :=
  ∃ record,
    (answerHeartbeat service between context payload).2.authority.peers.find
      payload.participant = some record ∧
    record.incarnation = payload.incarnation ∧ record.state = payload.state

/-- Other threads leave the incarnation and the state that the publication left. -/
def RecordKept
    (service : CoordinatorService) (between : List ServiceOp)
    (context : ServiceRequestContext) (payload : HeartbeatPayload) : Prop :=
  ((answerHeartbeat service between context payload).2.authority.peers.find
      payload.participant).map (fun record => (record.incarnation, record.state)) =
    ((answerHeartbeat service [] context payload).2.authority.peers.find
      payload.participant).map (fun record => (record.incarnation, record.state))

/--
The heartbeat is live, or it states another state and the table has a record of
the participant or room for one.
-/
def HeartbeatStorable (service : CoordinatorService) (payload : HeartbeatPayload) : Prop :=
  payload.participant ≠ Identity.none → payload.incarnation ≠ Identity.none →
    payload.state ≠ .unspecified ∧
      (payload.state = .live ∨ HasRoom service.authority payload.participant)

section Truth

variable {service : CoordinatorService} {context : ServiceRequestContext}
variable {payload : HeartbeatPayload} {between : List ServiceOp}

/-- The record the heartbeat asks the table to store. -/
def publicationOf
    (service : CoordinatorService) (context : ServiceRequestContext)
    (payload : HeartbeatPayload) : PeerLiveness :=
  service.publication context payload.participant payload.incarnation payload.node payload.state

/-- With both identities set, what happens to the table is the publication of this record. -/
theorem answerHeartbeat_authority (hset : payload.participant ≠ Identity.none)
    (hincarnation : payload.incarnation ≠ Identity.none) :
    (answerHeartbeat service [] context payload).2.authority =
      (service.authority.publishLiveness (publicationOf service context payload)).2 := by
  exact publishParticipant_authority_of_set service hset hincarnation context payload.node
    payload.state

/-- A storable heartbeat that is not refused is stored. -/
theorem stored_of_storable (hcoherent : PeersCoherent service.authority)
    (hstorable : HeartbeatStorable service payload)
    (hpublishes : Publishes service.authority payload.participant payload.incarnation
      payload.state) :
    (answerHeartbeat service [] context payload).2.authority.peers.find payload.participant =
      some (publicationOf service context payload) := by
  obtain ⟨hset, hincarnation, hallowed, hlive⟩ := hpublishes
  obtain ⟨hstated, hroom⟩ := hstorable hset hincarnation
  have haccepted := (publishLiveness_accepted_iff hcoherent
    (publicationOf service context payload)).mpr
    ⟨hset, hincarnation, hstated, hallowed.resolve_left hstated, hroom.elim hlive id⟩
  rw [answerHeartbeat_authority hset hincarnation]
  rcases publishLiveness_cases service.authority (publicationOf service context payload) with
    ⟨hrefused, _⟩ | ⟨_, hstores⟩
  · exact absurd haccepted hrefused
  · exact hstores.find_self

/-- A full table that has no record of the participant has none afterwards. -/
theorem unrecorded_of_full (hcoherent : PeersCoherent service.authority)
    (hset : payload.participant ≠ Identity.none)
    (hincarnation : payload.incarnation ≠ Identity.none) (hstated : payload.state ≠ .unspecified)
    (hfull : ¬ HasRoom service.authority payload.participant) :
    (answerHeartbeat service [] context payload).2.authority.peers.find payload.participant =
      none := by
  have hrejected :
      (service.authority.publishLiveness (publicationOf service context payload)).1 =
        .rejectedCapacity :=
    publishLiveness_of_full hcoherent hset hincarnation hstated hfull
  rw [answerHeartbeat_authority hset hincarnation]
  rcases publishLiveness_cases service.authority (publicationOf service context payload) with
    ⟨_, hkept⟩ | ⟨haccepted, _⟩
  · rw [hkept]
    exact ((not_hasRoom_iff _ _).mp hfull).2
  · rw [hrejected] at haccepted
    cases haccepted

theorem recordStated_iff (between : List ServiceOp) :
    RecordStated service between context payload ↔
      ((answerHeartbeat service between context payload).2.authority.peers.find
        payload.participant).map (fun record => (record.incarnation, record.state)) =
          some (payload.incarnation, payload.state) := by
  simp [RecordStated, Option.map_eq_some_iff]

theorem RecordKept.stated_iff (h : RecordKept service between context payload) :
    RecordStated service between context payload ↔ RecordStated service [] context payload := by
  rw [recordStated_iff, recordStated_iff, h]

theorem AckTruthful.stated {ack : HeartbeatAckPayload}
    (h : AckTruthful service between context payload)
    (hack : (answerHeartbeat service between context payload).1 = .ok ack) :
    RecordStated service between context payload := by
  have hsame : ack = heartbeatAck (answerHeartbeat service between context payload).2 payload := by
    simp only [answerHeartbeat] at hack ⊢
    split at hack
    · exact (Except.ok.inj hack).symm
    · cases hack
  subst hsame
  obtain ⟨record, hrecord, hincarnation, hstate, -⟩ := h _ hack rfl
  exact ⟨record, hrecord, hincarnation, hstate⟩

/-- The expiry is read from the record, so that only its incarnation and state can differ. -/
theorem ackTruthful_iff_stated (hcoherent : PeersCoherent service.authority) :
    AckTruthful service between context payload ↔
      (Publishes service.authority payload.participant payload.incarnation payload.state →
        RecordStated service between context payload) := by
  constructor
  · intro htruthful hpublishes
    exact htruthful.stated ((answerHeartbeat_eq_ok_iff hcoherent).mpr ⟨hpublishes, rfl⟩)
  · intro hstated ack hack _
    obtain ⟨hpublishes, rfl⟩ := (answerHeartbeat_eq_ok_iff hcoherent).mp hack
    obtain ⟨record, hrecord, hincarnation, hstate⟩ := hstated hpublishes
    refine ⟨record, hrecord, hincarnation, hstate, ?_⟩
    simp [heartbeatAck, AuthorityState.peerSnapshot, hrecord]

/-- A heartbeat that cannot be stored is not refused, and its record is not there. -/
theorem unstated_of_not_storable (hreach : ServiceReachable service)
    (context : ServiceRequestContext) (h : ¬ HeartbeatStorable service payload) :
    Publishes service.authority payload.participant payload.incarnation payload.state ∧
      ¬ RecordStated service [] context payload := by
  have hcoherent := reachable_peersCoherent hreach.authority
  unfold HeartbeatStorable at h
  push Not at h
  obtain ⟨hset, hincarnation, hneither⟩ := h
  by_cases hstated : payload.state = .unspecified
  · refine ⟨⟨hset, hincarnation, .inl hstated, fun hlive => by simp [hstated] at hlive⟩, ?_⟩
    rintro ⟨record, hrecord, -, hstate⟩
    have hafter : ServiceReachable (answerHeartbeat service [] context payload).2 :=
      hreach.run [.publishParticipant context payload.participant payload.incarnation
        payload.node payload.state]
    have hcoherent' := reachable_peersCoherent hafter.authority
    exact (hcoherent'.stated _ _ hrecord).2 (hstate.trans hstated)
  · obtain ⟨hidle, hfull⟩ := hneither hstated
    have hunknown : Supersedes service.authority
        { participant := payload.participant, incarnation := payload.incarnation } := by
      intro highest hhighest
      rw [hcoherent.highest, ((not_hasRoom_iff _ _).mp hfull).2] at hhighest
      cases hhighest
    refine ⟨⟨hset, hincarnation, .inr hunknown, fun hlive => absurd hlive hidle⟩, ?_⟩
    rintro ⟨record, hrecord, -⟩
    rw [unrecorded_of_full hcoherent hset hincarnation hstated hfull] at hrecord
    cases hrecord

/--
The acknowledgement of a heartbeat is truthful exactly when one that can be
stored, and is not refused, keeps its record until it is answered, and one that
cannot be stored finds that another thread has stored what it states.  While
other threads keep the record, the heartbeats that can be stored are exactly
those that are acknowledged truthfully.
-/
theorem heartbeatAck_truthful_iff {between : List ServiceOp} (hreach : ServiceReachable service) :
    (AckTruthful service between context payload ↔
      (HeartbeatStorable service payload →
        Publishes service.authority payload.participant payload.incarnation payload.state →
          RecordKept service between context payload) ∧
      (¬ HeartbeatStorable service payload → RecordStated service between context payload)) ∧
    (RecordKept service between context payload →
      (AckTruthful service between context payload ↔ HeartbeatStorable service payload)) := by
  have hcoherent := reachable_peersCoherent hreach.authority
  rw [ackTruthful_iff_stated hcoherent]
  by_cases hstorable : HeartbeatStorable service payload
  · have hstored : Publishes service.authority payload.participant payload.incarnation
        payload.state → RecordStated service [] context payload :=
      fun hpublishes => ⟨_, stored_of_storable hcoherent hstorable hpublishes, rfl, rfl⟩
    simp only [hstorable, not_true_eq_false, false_imp_iff, true_imp_iff, and_true, iff_true]
    refine ⟨forall_congr' fun hpublishes => ⟨?_, ?_⟩, ?_⟩
    · intro hstated
      rw [RecordKept, (recordStated_iff _).mp hstated, (recordStated_iff _).mp (hstored hpublishes)]
    · intro hkept
      exact hkept.stated_iff.mpr (hstored hpublishes)
    · intro hkept hpublishes
      exact hkept.stated_iff.mpr (hstored hpublishes)
  · obtain ⟨hpublishes, hunstated⟩ := unstated_of_not_storable hreach context hstorable
    simp only [hstorable, hpublishes, not_false_eq_true, false_imp_iff, true_imp_iff, true_and,
      iff_false]
    exact fun hkept => mt hkept.stated_iff.mp hunstated

end Truth

namespace TwoMembers

/-- A heartbeat of the first member in the given state. -/
def heartbeat (state : ParticipantState) : HeartbeatPayload where
  participant := ⟨1, 0⟩
  incarnation := ⟨11, 0⟩
  state := state
  node := ⟨21, 0⟩

end TwoMembers

open TwoMembers in
/-- A live heartbeat is acknowledged truthfully next to another thread's publication. -/
theorem live_heartbeat_truthful :
    let service := run serviceStep (CoordinatorService.create {}) boot
    AckTruthful service
      [.publishParticipant (otherContext 3) ⟨2, 0⟩ ⟨12, 0⟩ ⟨21, 0⟩ .live] (context 3)
      (heartbeat .live) := by
  have hreach : ServiceReachable (run serviceStep (.create {}) boot) :=
    ⟨{}, boot, rfl⟩
  refine ((heartbeatAck_truthful_iff hreach).2 ?_).mpr fun _ _ => ⟨nofun, .inl rfl⟩
  unfold RecordKept
  decide

open TwoMembers in
/--
A heartbeat that states nothing is decoded and acknowledged, and the coordinator
has no record of the participant afterwards.  A live one is acknowledged as live
although another thread has fenced the participant before the second look.
-/
theorem unspecified_heartbeat_acknowledged :
    let service := run serviceStep (CoordinatorService.create {}) boot
    decodeHeartbeat (encodeHeartbeat (heartbeat .unspecified)) = .ok (heartbeat .unspecified) ∧
    ¬ AckTruthful service [] (context 3) (heartbeat .unspecified) ∧
    ¬ AckTruthful service
      [.publishParticipant (otherContext 3) ⟨1, 0⟩ ⟨11, 0⟩ ⟨21, 0⟩ .fenced] (context 3)
      (heartbeat .live) := by
  refine ⟨by decide +kernel, ?_, ?_⟩
  · intro htruthful
    exact absurd ((recordStated_iff _).mp (htruthful.stated rfl)) (by decide)
  · intro htruthful
    exact absurd ((recordStated_iff _).mp (htruthful.stated rfl)) (by decide)

end TrafficFabric
