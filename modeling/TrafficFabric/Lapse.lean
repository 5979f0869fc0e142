import TrafficFabric.Participants
import TrafficFabric.GrantSoundness

/-!
# Lapsed liveness

A live record lapses when the clock reaches its expiry.  The authority has an
operation that fences what has lapsed, but no operation of the service performs
it, so a lapsed record is still revivable: the next heartbeat or publication of
the same incarnation makes it current again.  Without such a call a lapsed
incarnation stays without authority.
-/

namespace TrafficFabric

open Lib

/-- The clock value an operation carries, if it carries one. -/
def ServiceOp.time : ServiceOp → Option UInt64
  | .start _ => none
  | .stop now => some now
  | .completeSave _ => none
  | .flush now => some now
  | .configurePersistence _ now => some now
  | .restore _ _ now => some now
  | .openSession _ now _ _ => some now
  | .validateEnvelope _ now _ => some now
  | .closeSession _ now => some now
  | .sweepIdleSessions now => some now
  | .publishParticipant context _ _ _ _ => some context.nowMonotonicMs
  | .heartbeat context _ _ => some context.nowMonotonicMs
  | .registerCollective context _ => some context.nowMonotonicMs
  | .beginAttempt context _ _ _ _ => some context.nowMonotonicMs
  | .cancelCollective context _ _ _ _ => some context.nowMonotonicMs
  | .retireCollective context _ _ _ _ => some context.nowMonotonicMs
  | .planFlowGroup context _ => some context.nowMonotonicMs
  | .ingestCapacity context _ _ _ => some context.nowMonotonicMs
  | .ingestCongestion context _ _ _ => some context.nowMonotonicMs
  | .ingestTopology context _ _ _ => some context.nowMonotonicMs
  | .installPolicy context _ _ _ => some context.nowMonotonicMs
  | .resetCounters => none
  | .setConfig _ => none

/-- A service with the last clock value any caller passed. -/
structure TimedService where
  clock : UInt64
  service : CoordinatorService

def timedStep (timed : TimedService) (op : ServiceOp) : TimedService where
  clock := op.time.getD timed.clock
  service := serviceStep timed.service op

/-- The operation does not turn the clock back. -/
def OnTime (timed : TimedService) (op : ServiceOp) : Prop :=
  timed.clock ≤ op.time.getD timed.clock

instance (timed : TimedService) (op : ServiceOp) : Decidable (OnTime timed op) :=
  inferInstanceAs (Decidable (_ ≤ _))

/-- The live record of an incarnation is at or past its expiry. -/
def Lapsed
    (now : UInt64) (p : ParticipantId) (i : BootIncarnation) (s : CoordinatorService) : Prop :=
  ∃ record, s.authority.peers.find p = some record ∧ record.incarnation = i ∧
    record.state = .live ∧ record.expiresAtMonotonicMs ≤ now

/-- The record of an incarnation is live and before its expiry. -/
def HoldsAuthority
    (now : UInt64) (p : ParticipantId) (i : BootIncarnation) (s : CoordinatorService) : Prop :=
  ∃ record, s.authority.peers.find p = some record ∧ record.incarnation = i ∧
    record.isCurrent now = true

/-- The expiry a call gives a live record lies after the call; a large bound may wrap. -/
def Extends (s : CoordinatorService) (now : UInt64) : Prop :=
  now < now + s.config.participantTtlMs

/--
A call that names a lapsed incarnation and gives it a record it can be live
with again: a heartbeat or a live publication that extends the expiry, or a
publication in a state that a later heartbeat turns into live.
-/
def Revives (s : CoordinatorService) : ServiceOp → Prop
  | .heartbeat context p i => Lapsed context.nowMonotonicMs p i s ∧ Extends s context.nowMonotonicMs
  | .publishParticipant context p i _ state =>
    Lapsed context.nowMonotonicMs p i s ∧
      ((state = .live ∧ Extends s context.nowMonotonicMs) ∨
        state = .suspect ∨ state = .advertised)
  | _ => False

/--
The incarnation is out: a greater one is recorded, or its record has ended or
is live at or past its expiry.
-/
def Out (now : UInt64) (p : ParticipantId) (i : BootIncarnation) (s : CoordinatorService) :
    Prop :=
  ∃ record, s.authority.peers.find p = some record ∧
    (i < record.incarnation ∨
      (record.incarnation = i ∧
        (hasEnded record.state ∨ (record.state = .live ∧ record.expiresAtMonotonicMs ≤ now))))

theorem Lapsed.out {now : UInt64} {p : ParticipantId} {i : BootIncarnation} {s : CoordinatorService}
    (h : Lapsed now p i s) : Out now p i s := by
  obtain ⟨record, hrecord, hincarnation, hlive, hexpired⟩ := h
  exact ⟨record, hrecord, .inr ⟨hincarnation, .inr ⟨hlive, hexpired⟩⟩⟩

theorem Out.not_holdsAuthority {now : UInt64} {p : ParticipantId} {i : BootIncarnation}
    {s : CoordinatorService} (h : Out now p i s) : ¬ HoldsAuthority now p i s := by
  rintro ⟨current, hcurrent, hincarnation, hholds⟩
  obtain ⟨record, hrecord, hout⟩ := h
  rw [hcurrent] at hrecord
  cases hrecord
  simp only [PeerLiveness.isCurrent, Bool.and_eq_true, beq_iff_eq, decide_eq_true_eq] at hholds
  rcases hout with hgreater | ⟨_, hended | ⟨_, hexpired⟩⟩
  · exact absurd hincarnation (ne_of_gt hgreater)
  · simp [hasEnded, hholds.1] at hended
  · exact absurd hholds.2 (UInt64.not_lt.mpr hexpired)

section Step

variable {p : ParticipantId} {i : BootIncarnation} {now now' : UInt64}
variable {s s' : CoordinatorService}

/-- What is out stays out while its record does and the clock goes on. -/
theorem Out.of_kept (h : Out now p i s)
    (hpeer : s'.authority.peers.find p = s.authority.peers.find p) (htime : now ≤ now') :
    Out now' p i s' := by
  obtain ⟨record, hrecord, hout⟩ := h
  refine ⟨record, hpeer.trans hrecord, hout.imp id (And.imp id (Or.imp id ?_))⟩
  rintro ⟨hlive, hexpired⟩
  exact ⟨hlive, UInt64.le_trans hexpired htime⟩

theorem Out.of_fenced {record : PeerLiveness} {at_ : UInt64} (h : Out now p i s)
    (hbefore : s.authority.peers.find p = some record)
    (hpeer : s'.authority.peers.find p = some (AuthorityState.fence at_ record)) :
    Out now' p i s' := by
  obtain ⟨known, hknown, hout⟩ := h
  rw [hbefore] at hknown
  cases hknown
  refine ⟨_, hpeer, hout.imp id ?_⟩
  rintro ⟨hincarnation, _⟩
  exact ⟨hincarnation, .inl (.inl rfl)⟩

/--
A stored record keeps an incarnation out unless it revives a lapsed one: it is
of a greater incarnation, or of the recorded one, which then has lapsed.
-/
theorem Out.of_stored {record : PeerLiveness} (hcoherent : PeersCoherent s.authority)
    (h : Out now record.participant i s) (hstores : Stores s.authority s'.authority record)
    (htime : now ≤ now')
    (hdormant : Lapsed now' record.participant record.incarnation s →
      hasEnded record.state ∨ (record.state = .live ∧ record.expiresAtMonotonicMs ≤ now')) :
    Out now' record.participant i s' := by
  obtain ⟨known, hknown, hout⟩ := h
  have hhighest := hcoherent.highest_of_record hknown
  refine ⟨record, hstores.find_self, ?_⟩
  rcases hstores.allowed known.incarnation hhighest with hgreater | ⟨hsame, hopen⟩
  · rcases hout with hout | ⟨hincarnation, _⟩
    · exact .inl (lt_trans hout hgreater)
    · exact .inl (hincarnation ▸ hgreater)
  · rcases hout with hout | ⟨hincarnation, hended | ⟨hlive, hexpired⟩⟩
    · exact .inl (hsame ▸ hout)
    · exact absurd hended (hopen known hknown)
    · refine .inr ⟨hsame ▸ hincarnation, hdormant ?_⟩
      exact ⟨known, hknown, hsame, hlive, UInt64.le_trans hexpired htime⟩

/-- One operation that neither restarts nor revives keeps an incarnation out. -/
theorem timedStep_out {t : TimedService} {op : ServiceOp} (hrestart : op.restarts = false)
    (htime : OnTime t op) (hrevives : ¬ Revives t.service op)
    (hcoherent : PeersCoherent t.service.authority) (h : Out t.clock p i t.service) :
    Out (timedStep t op).clock p i (timedStep t op).service := by
  cases serviceStep_participantChange t.service op p with
  | kept peer => exact h.of_kept peer htime
  | cleared restart _ => simp [hrestart] at restart
  | fenced _ _ before peer => exact h.of_fenced before peer
  | published context _ _ state called stores =>
    subst called
    refine Out.of_stored hcoherent h stores htime ?_
    intro hlapsed
    have hstate : ¬ ((state = .live ∧ Extends t.service context.nowMonotonicMs) ∨
        state = .suspect ∨ state = .advertised) :=
      fun hstate => hrevives ⟨hlapsed, hstate⟩
    cases state with
    | unspecified => exact absurd rfl stores.stated
    | advertised => simp at hstate
    | suspect => simp at hstate
    | live =>
      have hshort : context.nowMonotonicMs + t.service.config.participantTtlMs ≤
          context.nowMonotonicMs :=
        UInt64.not_lt.mp (fun hextends => hstate (.inl ⟨rfl, hextends⟩))
      exact .inr ⟨rfl, hshort⟩
    | expired => exact .inl (.inr (.inl rfl))
    | fenced => exact .inl (.inl rfl)
    | retired => exact .inl (.inr (.inr rfl))
  | beat _ _ called stores =>
    subst called
    refine Out.of_stored hcoherent h stores htime ?_
    intro hlapsed
    refine .inr ⟨rfl, UInt64.not_lt.mp ?_⟩
    exact fun hextends => hrevives ⟨hlapsed, hextends⟩

end Step

/-- The operation keeps the clock, begins no boot and revives nothing that has lapsed. -/
def KeepsLapses (t : TimedService) (op : ServiceOp) : Prop :=
  OnTime t op ∧ op.restarts = false ∧ ¬ Revives t.service op

/--
Lapsed liveness stays lapsed along every run that revives nothing: at no later
clock value does the incarnation hold authority.
-/
theorem lapsed_incarnation_stays_out {s : CoordinatorService} {now : UInt64} {p : ParticipantId}
    {i : BootIncarnation} {ops : List ServiceOp} (hs : ServiceReachable s)
    (hlapsed : Lapsed now p i s) (hops : Along timedStep KeepsLapses ⟨now, s⟩ ops) :
    ¬ HoldsAuthority (run timedStep ⟨now, s⟩ ops).clock p i
      (run timedStep ⟨now, s⟩ ops).service := by
  let Inv (t : TimedService) : Prop := ServiceReachable t.service ∧ Out t.clock p i t.service
  have hstep : ∀ t op, KeepsLapses t op → Inv t → Inv (timedStep t op) := by
    rintro t op ⟨htime, hrestart, hrevives⟩ ⟨hreachable, hout⟩
    refine ⟨hreachable.run [op], ?_⟩
    exact timedStep_out hrestart htime hrevives (reachable_peersCoherent hreachable.authority) hout
  have hend : Inv (run timedStep ⟨now, s⟩ ops) := hops.invariant hstep ⟨hs, hlapsed.out⟩
  exact hend.2.not_holdsAuthority

namespace TwoMembers

/-- The record of the first member, published at time 3 for 3000 milliseconds. -/
def firstMember : PeerLiveness where
  participant := ⟨1, 0⟩
  incarnation := ⟨11, 0⟩
  state := .live
  node := ⟨21, 0⟩
  boundSession := ⟨41, 0⟩
  lastSeenMonotonicMs := 3
  expiresAtMonotonicMs := 3003

theorem service_firstMember : service.authority.peers.find ⟨1, 0⟩ = some firstMember := by
  decide

theorem firstMember_lapsed : Lapsed 4000 ⟨1, 0⟩ ⟨11, 0⟩ service := by
  exact ⟨firstMember, service_firstMember, rfl, rfl, by decide⟩

end TwoMembers

open TwoMembers in
/-- A heartbeat and a publication of a lapsed incarnation each make it current again. -/
theorem lapsed_incarnation_revived :
    ServiceReachable service ∧ Lapsed 4000 ⟨1, 0⟩ ⟨11, 0⟩ service ∧
      HoldsAuthority 4000 ⟨1, 0⟩ ⟨11, 0⟩
        (serviceStep service (.heartbeat (context 4000) ⟨1, 0⟩ ⟨11, 0⟩)) ∧
      HoldsAuthority 4000 ⟨1, 0⟩ ⟨11, 0⟩
        (serviceStep service
          (.publishParticipant (context 4000) ⟨1, 0⟩ ⟨11, 0⟩ ⟨21, 0⟩ .live)) := by
  let revived : PeerLiveness :=
    { firstMember with lastSeenMonotonicMs := 4000, expiresAtMonotonicMs := 7000 }
  refine ⟨service_reachable, firstMember_lapsed, ?_, ?_⟩
  · exact ⟨revived, by decide, rfl, by decide⟩
  · exact ⟨revived, by decide, rfl, by decide⟩

open TwoMembers in
/-- A reboot under a greater incarnation leaves the lapsed one out. -/
theorem lapsed_incarnation_stays_out_on_reboot :
    let timed := run timedStep ⟨4000, service⟩ [.heartbeat (context 5000) ⟨1, 0⟩ ⟨12, 0⟩]
    HoldsAuthority 5000 ⟨1, 0⟩ ⟨12, 0⟩ timed.service ∧
      ¬ HoldsAuthority timed.clock ⟨1, 0⟩ ⟨11, 0⟩ timed.service := by
  intro timed
  let rebooted : PeerLiveness :=
    { participant := ⟨1, 0⟩
      incarnation := ⟨12, 0⟩
      state := .live
      lastSeenMonotonicMs := 5000
      expiresAtMonotonicMs := 8000 }
  have hops : Along timedStep KeepsLapses ⟨4000, service⟩
      [.heartbeat (context 5000) ⟨1, 0⟩ ⟨12, 0⟩] := by
    refine ⟨⟨by decide, rfl, ?_⟩, trivial⟩
    rintro ⟨⟨record, hrecord, hincarnation, _⟩, _⟩
    have hfirst : record = firstMember := Option.some.inj (hrecord.symm.trans service_firstMember)
    rw [hfirst] at hincarnation
    exact absurd hincarnation (by decide)
  refine ⟨⟨rebooted, by decide, rfl, by decide⟩, ?_⟩
  exact lapsed_incarnation_stays_out service_reachable firstMember_lapsed hops

end TrafficFabric
