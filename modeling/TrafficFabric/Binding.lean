import TrafficFabric.Ownership
import TrafficFabric.SessionTable

/-!
# Live participants and open sessions

Closing a session, sweeping it and stopping the service fence what is bound to
it, in the same locked section that removes the session.  A publication and a
heartbeat look at no session, so each may leave a live record that no open
session holds: a publication under a session that was closed in between, and a
heartbeat of a new incarnation, which has no binding.

The condition below is exactly what an operation must meet to keep every live
record bound to an open session.
-/

namespace TrafficFabric

open Lib AuthorityState

section Fencing

variable {s s' : AuthorityState} {p : ParticipantId} {record : PeerLiveness}

/-- The record of the participant is fenced. -/
def IsFenced (s : AuthorityState) (p : ParticipantId) : Prop :=
  ∃ record, s.peers.find p = some record ∧ record.state = .fenced

theorem KeptOrFenced.isFenced (h : KeptOrFenced s s' p) (hfenced : IsFenced s p) :
    IsFenced s' p := by
  rcases h with hkept | ⟨_, _, _, hafter⟩
  · obtain ⟨record, hrecord, hstate⟩ := hfenced
    exact ⟨record, hkept.trans hrecord, hstate⟩
  · exact ⟨_, hafter, rfl⟩

/-- A record that is kept or fenced stays bound to its session. -/
theorem KeptOrFenced.boundSession (h : KeptOrFenced s s' p)
    (hrecord : s.peers.find p = some record) :
    ∃ later, s'.peers.find p = some later ∧ later.boundSession = record.boundSession := by
  rcases h with hkept | ⟨known, now, hbefore, hafter⟩
  · exact ⟨record, hkept.trans hrecord, rfl⟩
  · rw [hrecord] at hbefore
    cases hbefore
    exact ⟨_, hafter, rfl⟩

theorem expireSession_isFenced {session : SessionId} (hset : session ≠ Identity.none)
    (hrecord : s.peers.find p = some record) (hbound : record.boundSession = session)
    (now : UInt64) : IsFenced (authorityStep s (.expireSession session now)) p := by
  refine ⟨fence now record, ?_, rfl⟩
  simp [authorityStep, expireSession, fenceWhere, isBoundTo, hrecord, hbound, hset]

/-- Quiet operations that expire a session leave every record bound to it fenced. -/
theorem run_expireSession_isFenced {session : SessionId} {now : UInt64} {ops : List AuthorityOp}
    (hops : ∀ op ∈ ops, op.isQuiet = true) (hmem : .expireSession session now ∈ ops)
    (hset : session ≠ Identity.none) (hrecord : s.peers.find p = some record)
    (hbound : record.boundSession = session) : IsFenced (run authorityStep s ops) p := by
  obtain ⟨before, after, rfl⟩ := List.append_of_mem hmem
  rw [run_append, run_cons]
  have hbefore : ∀ op ∈ before, op.isQuiet = true := fun op hop => hops op (by simp [hop])
  have hafter : ∀ op ∈ after, op.isQuiet = true := fun op hop => hops op (by simp [hop])
  obtain ⟨later, hlater, hsame⟩ := (run_keptOrFenced s p hbefore).boundSession hrecord
  have hfenced := expireSession_isFenced hset hlater (hsame.trans hbound) now
  exact (run_keptOrFenced _ p hafter).isFenced hfenced

end Fencing

/-- Every live record is bound to a session that is open. -/
def LiveBound (s : CoordinatorService) : Prop :=
  ∀ p record, s.authority.peers.find p = some record → record.state = .live →
    s.sessions.find record.boundSession ≠ none

/-- The identities are set and the incarnation rule lets the participant name this one. -/
def Accepts (s : AuthorityState) (p : ParticipantId) (i : BootIncarnation) : Prop :=
  p ≠ Identity.none ∧ i ≠ Identity.none ∧ Supersedes s { participant := p, incarnation := i }

/--
What an operation must meet to leave every live record with an open session: a
live publication that will be stored names an open session, and a heartbeat
that will be accepted is of the recorded incarnation, whose session is open.
-/
def BindsOpenSession (s : CoordinatorService) : ServiceOp → Prop
  | .publishParticipant context p i _ state =>
    state = .live → Accepts s.authority p i → HasRoom s.authority p →
      s.sessions.find context.session ≠ none
  | .heartbeat _ p i =>
    Accepts s.authority p i →
      ∃ record, s.authority.peers.find p = some record ∧ record.incarnation = i ∧
        s.sessions.find record.boundSession ≠ none
  | _ => True

section Step

variable {s : CoordinatorService} {op : ServiceOp}

variable {k : SessionId} {p : ParticipantId} {context : ServiceRequestContext} {i : BootIncarnation}

/-- An operation that drops an open session expires it. -/
theorem expireSession_mem_of_dropped (hs : SessionsCoherent s) (hopen : s.sessions.find k ≠ none)
    (hcloses : op.closes = true) (hdropped : (serviceStep s op).sessions.find k = none) :
    ∃ now, .expireSession k now ∈ authorityTrace s op := by
  cases op with
  | stop now =>
    have hrunning := hs.running_of_open hopen
    have hkey : k ∈ s.sessions.keys := (KeyMap.mem_keys_iff _ _).mpr hopen
    exact ⟨now, by simp [authorityTrace, hrunning, hkey]⟩
  | closeSession session now =>
    simp only [serviceStep, CoordinatorService.closeSession] at hdropped
    split at hdropped
    · exact absurd hdropped hopen
    · rename_i hknown
      have hfind := dropSessions_find s now [session] k
      simp only [List.foldl_cons, List.foldl_nil, List.mem_singleton] at hfind
      have hk : k = session := by
        by_contra hne
        rw [hfind, if_neg hne] at hdropped
        exact hopen hdropped
      exact ⟨now, by simp [authorityTrace, hknown, hk]⟩
  | sweepIdleSessions now =>
    have hfind := dropSessions_find s now (s.idleSessions now) k
    have hidle : k ∈ s.idleSessions now := by
      by_contra hbusy
      exact hopen (((hfind.trans (if_neg hbusy)).symm).trans hdropped)
    exact ⟨now, by simp [authorityTrace, hidle]⟩
  | _ => simp [ServiceOp.closes] at hcloses

/-- An open session stays open, or the operation drops it. -/
theorem serviceStep_open_or_closes (hopen : s.sessions.find k ≠ none) :
    (serviceStep s op).sessions.find k ≠ none ∨
      (op.closes = true ∧ (serviceStep s op).sessions.find k = none) := by
  cases serviceStep_sessionChange s op k with
  | kept session => exact .inl (session ▸ hopen)
  | opened _ _ _ _ _ _ _ _ session | advanced _ _ _ _ _ _ _ _ session | counted _ _ session =>
    exact .inl (by simp [session])
  | dropped closes session => exact .inr ⟨closes, session⟩

/-- Only opening a session makes one open. -/
theorem serviceStep_open_of_open_after
    (hop : ∀ label now id incarnation, op ≠ .openSession label now id incarnation)
    (hopen : (serviceStep s op).sessions.find k ≠ none) : s.sessions.find k ≠ none := by
  cases serviceStep_sessionChange s op k with
  | kept session => exact session ▸ hopen
  | opened label now id incarnation called => exact absurd called (hop label now id incarnation)
  | advanced _ _ _ _ _ _ before => simp [before]
  | counted _ before => simp [before]
  | dropped _ session => exact absurd session hopen

theorem authorityTrace_isQuiet_of_closes (hcloses : op.closes = true) :
    ∀ a ∈ authorityTrace s op, a.isQuiet = true := by
  refine authorityTrace_isQuiet s ?_ ?_ ?_
  · cases op <;> simp_all [ServiceOp.closes, ServiceOp.restarts]
  · rintro context p i node state rfl
    simp [ServiceOp.closes] at hcloses
  · rintro context p i rfl
    simp [ServiceOp.closes] at hcloses

/-- The session of a live record that an operation leaves in place stays open. -/
theorem session_open_of_kept {record : PeerLiveness} (hs : SessionsCoherent s)
    (hbound : s.sessions.find record.boundSession ≠ none)
    (hbefore : s.authority.peers.find p = some record)
    (hafter : (serviceStep s op).authority.peers.find p = some record)
    (hlive : record.state = .live) :
    (serviceStep s op).sessions.find record.boundSession ≠ none := by
  rcases serviceStep_open_or_closes (s := s) hbound with hopen | ⟨hcloses, hdropped⟩
  · exact hopen
  · -- Dropping the session would have fenced the record.
    obtain ⟨now, hmem⟩ := expireSession_mem_of_dropped hs hbound hcloses hdropped
    obtain ⟨binding, hbinding⟩ := Option.ne_none_iff_exists'.mp hbound
    have hset := (hs.named _ _ hbinding).2.1
    obtain ⟨fenced, hfenced, hstate⟩ :=
      run_expireSession_isFenced (authorityTrace_isQuiet_of_closes hcloses) hmem hset hbefore rfl
    rw [← serviceStep_simulates_authority s op, hafter] at hfenced
    cases hfenced
    simp [hlive] at hstate

/-- A live publication that is stored found room in the table. -/
theorem hasRoom_of_stores {node : NodeId} {state : ParticipantState}
    (hcoherent : PeersCoherent s.authority)
    (hstores : Stores s.authority
      (serviceStep s (.publishParticipant context p i node state)).authority
      (s.publication context p i node state)) : HasRoom s.authority p := by
  have hset : p ≠ Identity.none := hstores.set
  have hincarnation : i ≠ Identity.none := hstores.incarnationSet
  have hfind := hstores.find_self
  rw [publishParticipant_authority_of_set s hset hincarnation] at hfind
  rcases publishLiveness_cases s.authority (s.publication context p i node state) with
    ⟨_, hsame⟩ | ⟨haccepted, _⟩
  · rw [hsame] at hfind
    exact .inl (Option.ne_none_iff_exists'.mpr ⟨_, hfind⟩)
  · exact ((publishLiveness_accepted_iff hcoherent _).mp haccepted).2.2.2.2

/-- An operation that binds to open sessions keeps every live record bound. -/
theorem serviceStep_liveBound (hs : ServiceReachable s) (hbinds : BindsOpenSession s op)
    (h : LiveBound s) : LiveBound (serviceStep s op) := by
  intro p record hrecord hlive
  have hcoherent := reachable_peersCoherent hs.authority
  cases serviceStep_participantChange s op p with
  | kept peer =>
    have hbefore := peer ▸ hrecord
    exact session_open_of_kept hs.sessionsCoherent (h p record hbefore hlive) hbefore hrecord
      hlive
  | cleared _ peer => simp [peer] at hrecord
  | fenced _ _ _ peer =>
    rw [peer] at hrecord
    cases hrecord
    simp [fence] at hlive
  | published context i node state called stores =>
    subst called
    have hself : (serviceStep s (.publishParticipant context p i node state)).authority.peers.find
        p = some (s.publication context p i node state) := stores.find_self
    rw [hself] at hrecord
    cases hrecord
    have hopen := hbinds hlive ⟨stores.set, stores.incarnationSet, stores.allowed⟩
      (hasRoom_of_stores hcoherent stores)
    exact (serviceStep_open_or_closes hopen).resolve_right (by simp [ServiceOp.closes])
  | beat context i called stores =>
    subst called
    obtain ⟨known, hknown, hincarnation, hopen⟩ :=
      hbinds ⟨stores.set, stores.incarnationSet, stores.allowed⟩
    have hself : (serviceStep s (.heartbeat context p i)).authority.peers.find p =
        some (heartbeatRecord known p i context.nowMonotonicMs s.config.participantTtlMs) := by
      have hfind := stores.find_self
      rwa [hknown] at hfind
    rw [hself] at hrecord
    cases hrecord
    have hsession : (heartbeatRecord known p i context.nowMonotonicMs
        s.config.participantTtlMs).boundSession = known.boundSession := if_pos hincarnation
    rw [hsession]
    exact (serviceStep_open_or_closes hopen).resolve_right (by simp [ServiceOp.closes])

/-- A stored live publication needs the session it names. -/
theorem publishParticipant_bindsOpenSession {node : NodeId} {state : ParticipantState}
    (hcoherent : PeersCoherent s.authority)
    (h : LiveBound (serviceStep s (.publishParticipant context p i node state))) :
    BindsOpenSession s (.publishParticipant context p i node state) := by
  rintro rfl ⟨hset, hincarnation, hallowed⟩ hroom
  let liveness := s.publication context p i node .live
  have haccepted : (s.authority.publishLiveness liveness).1 = .accepted :=
    (publishLiveness_accepted_iff hcoherent liveness).mpr
      ⟨hset, hincarnation, nofun, hallowed, hroom⟩
  have hstored : (serviceStep s (.publishParticipant context p i node .live)).authority.peers.find
      p = some liveness := by
    rw [publishParticipant_authority_of_set s hset hincarnation]
    rcases publishLiveness_cases s.authority liveness with ⟨hrefused, _⟩ | ⟨_, hstores⟩
    · exact absurd haccepted hrefused
    · exact hstores.find_self
  exact serviceStep_open_of_open_after (by simp) (h p liveness hstored rfl)

/-- An accepted heartbeat needs a record of its incarnation and the session of that record. -/
theorem heartbeat_bindsOpenSession (hcoherent : PeersCoherent s.authority)
    (hsessions : SessionsCoherent s) (h : LiveBound (serviceStep s (.heartbeat context p i))) :
    BindsOpenSession s (.heartbeat context p i) := by
  rintro ⟨hset, hincarnation, hallowed⟩
  let stored := (s.authority.peers.find p).getD {}
  let beaten := heartbeatRecord stored p i context.nowMonotonicMs s.config.participantTtlMs
  have haccepted : (s.authority.heartbeat p i context.nowMonotonicMs
      s.config.participantTtlMs).1 = true :=
    (heartbeat_accepted_iff hcoherent p i _ _).mpr ⟨hset, hincarnation, hallowed⟩
  have hbeaten : (serviceStep s (.heartbeat context p i)).authority.peers.find p =
      some beaten := by
    rw [heartbeat_authority_of_set s hset hincarnation]
    rcases heartbeat_cases s.authority p i context.nowMonotonicMs s.config.participantTtlMs with
      ⟨hrefused, _⟩ | ⟨_, hstores⟩
    · simp [hrefused] at haccepted
    · exact hstores.find_self
  have hopen : s.sessions.find beaten.boundSession ≠ none :=
    serviceStep_open_of_open_after (by simp) (h p beaten hbeaten rfl)
  -- Without a record of this incarnation the binding is cleared, and no session is unset.
  by_cases hsame : stored.incarnation = i
  · have hsession : beaten.boundSession = stored.boundSession := if_pos hsame
    rw [hsession] at hopen
    cases hrecord : s.authority.peers.find p with
    | none =>
      have hunset : stored.incarnation = Identity.none := by
        simp only [stored, hrecord]
        rfl
      exact absurd (hsame.symm.trans hunset) hincarnation
    | some record =>
      have hstored : stored = record := by simp [stored, hrecord]
      exact ⟨record, rfl, hstored ▸ hsame, hstored ▸ hopen⟩
  · have hsession : beaten.boundSession = Identity.none := if_neg hsame
    obtain ⟨binding, hbinding⟩ := Option.ne_none_iff_exists'.mp hopen
    exact absurd hsession (hsessions.named _ _ hbinding).2.1

/-- The condition is exactly what keeps every live record bound to an open session. -/
theorem serviceStep_liveBound_iff (hs : ServiceReachable s) (h : LiveBound s) :
    LiveBound (serviceStep s op) ↔ BindsOpenSession s op := by
  refine ⟨?_, fun hbinds => serviceStep_liveBound hs hbinds h⟩
  intro hafter
  have hcoherent := reachable_peersCoherent hs.authority
  cases op with
  | publishParticipant =>
    exact publishParticipant_bindsOpenSession hcoherent hafter
  | heartbeat => exact heartbeat_bindsOpenSession hcoherent hs.sessionsCoherent hafter
  | _ => trivial

end Step

/--
Every live participant has an open session in every state of a run exactly when
each publication and each heartbeat of the run binds to an open session.
-/
theorem live_participants_bound_iff (config : ServiceConfig) (ops : List ServiceOp) :
    (∀ before, before <+: ops →
        LiveBound (run serviceStep (CoordinatorService.create config) before)) ↔
      Along serviceStep BindsOpenSession (CoordinatorService.create config) ops := by
  have hstart : LiveBound (CoordinatorService.create config) := by
    intro p record hrecord
    simp [CoordinatorService.create] at hrecord
  have hreachable : ∀ s op, ServiceReachable s → ServiceReachable (serviceStep s op) :=
    fun _ op h => h.run [op]
  have hstep : ∀ s op, ServiceReachable s → LiveBound s →
      (LiveBound (serviceStep s op) ↔ BindsOpenSession s op) :=
    fun _ _ hs h => serviceStep_liveBound_iff hs h
  exact forall_prefix_iff_along hreachable hstep ⟨config, Reachable.init _ _⟩ hstart ops

namespace TwoMembers

/-- A frame of session 41 in the first epoch. -/
def envelope (sequence : UInt64) : EnvelopeView where
  session := ⟨41, 0⟩
  incarnation := ⟨42, 0⟩
  epoch := ⟨100, 0⟩
  frameSequence := ⟨sequence⟩

/-- A frame of the first member is accepted, then its session is closed. -/
def overtaken : List ServiceOp :=
  boot ++ [.validateEnvelope (envelope 1) 2 [], .closeSession ⟨41, 0⟩ 2]

/-- Both members are published, the first one beats, and the session is closed. -/
def visit : List ServiceOp :=
  boot ++
  [ .publishParticipant (context 3) ⟨1, 0⟩ ⟨11, 0⟩ ⟨21, 0⟩ .live,
    .publishParticipant (context 3) ⟨2, 0⟩ ⟨12, 0⟩ ⟨21, 0⟩ .live,
    .heartbeat (context 4) ⟨1, 0⟩ ⟨11, 0⟩,
    .closeSession ⟨41, 0⟩ 5 ]

end TwoMembers

open TwoMembers in
/--
The publication of an accepted frame runs after its session was closed, and a
heartbeat of a new incarnation runs while its session is open: each leaves a
live record without an open session.
-/
theorem live_participant_outlives_session :
    ((run serviceStep (CoordinatorService.create {}) boot).validateEnvelope
        (envelope 1) 2 []).1 = Status.ok ∧
      ¬ LiveBound
        (run serviceStep (CoordinatorService.create {})
          (overtaken ++ [.publishParticipant (context 3) ⟨1, 0⟩ ⟨11, 0⟩ ⟨21, 0⟩ .live])) ∧
      ¬ LiveBound
        (run serviceStep (CoordinatorService.create {})
          (boot ++ [.heartbeat (context 3) ⟨1, 0⟩ ⟨11, 0⟩])) := by
  let beaten : PeerLiveness := { firstMember with node := {}, boundSession := {} }
  refine ⟨by decide, ?_, ?_⟩
  · intro h
    exact h ⟨1, 0⟩ firstMember (by decide) rfl (by decide)
  · intro h
    exact h ⟨1, 0⟩ beaten (by decide) rfl (by decide)

open TwoMembers in
/-- A visit under one open session binds every live record to it. -/
theorem live_participants_bound_on_visit :
    ∀ before, before <+: visit →
      LiveBound (run serviceStep (CoordinatorService.create {}) before) := by
  refine (live_participants_bound_iff {} visit).mpr ?_
  refine ⟨trivial, trivial, ?_, ?_, ?_, trivial, trivial⟩
  · intro _ _ _
    decide
  · intro _ _ _
    decide
  · intro _
    exact ⟨firstMember, by decide, rfl, by decide⟩

end TrafficFabric
