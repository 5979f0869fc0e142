import TrafficFabric.ServiceEffects

/-!
# What an operation does to a participant

One relation lists everything a service operation can do to the record of a
participant: leave it, clear it on a restart, fence it, or replace it by the
record a publication or a heartbeat of this participant writes.  The results
on liveness and on sessions are read off this relation.
-/

namespace TrafficFabric

open Lib AuthorityState

section Authority

variable {s s' s'' : AuthorityState} {p : ParticipantId}

/-- The record of the participant is the same or was fenced. -/
def KeptOrFenced (s s' : AuthorityState) (p : ParticipantId) : Prop :=
  s'.peers.find p = s.peers.find p ∨
    ∃ record now, s.peers.find p = some record ∧
      s'.peers.find p = some (AuthorityState.fence now record)

theorem KeptOrFenced.trans (h : KeptOrFenced s s' p) (h' : KeptOrFenced s' s'' p) :
    KeptOrFenced s s'' p := by
  rcases h with hkept | ⟨record, now, hbefore, hafter⟩
  · rcases h' with hkept' | ⟨record, now, hbefore', hafter'⟩
    · exact .inl (hkept'.trans hkept)
    · exact .inr ⟨record, now, hkept ▸ hbefore', hafter'⟩
  · rcases h' with hkept' | ⟨fenced, now', hbefore', hafter'⟩
    · exact .inr ⟨record, now, hbefore, hkept'.trans hafter⟩
    · rw [hafter] at hbefore'
      cases hbefore'
      exact .inr ⟨record, now', hbefore, hafter'⟩

/-- The operations that neither restart nor store a record. -/
def AuthorityOp.isQuiet : AuthorityOp → Bool
  | .beginBoot _ _ => false
  | .restoreDurable _ _ => false
  | .publishLiveness _ => false
  | .heartbeat _ _ _ _ => false
  | _ => true

theorem fenceWhere_keptOrFenced (s : AuthorityState) (selected : PeerLiveness → Bool) (now : UInt64)
    (p : ParticipantId) : KeptOrFenced s (s.fenceWhere selected now) p := by
  cases hp : s.peers.find p with
  | none => exact .inl (by simp [fenceWhere, hp])
  | some record =>
    cases hselected : selected record with
    | true => exact .inr ⟨record, now, hp, by simp [fenceWhere, hp, hselected]⟩
    | false => exact .inl (by simp [fenceWhere, hp, hselected])

theorem authorityStep_keptOrFenced {op : AuthorityOp} (s : AuthorityState) (p : ParticipantId)
    (hop : op.isQuiet = true) : KeptOrFenced s (authorityStep s op) p := by
  have hrest : op.touchesPeers = false → op.restarts = false →
      KeptOrFenced s (authorityStep s op) p := by
    intro htouches hrestarts
    rcases authorityStep_peers s htouches with ⟨hpeers, _⟩ | ⟨hrestart, _⟩
    · exact .inl (by rw [hpeers])
    · cases hrestarts.symm.trans hrestart
  cases op with
  | beginBoot | restoreDurable | publishLiveness | heartbeat => simp [AuthorityOp.isQuiet] at hop
  | expireSession _ now | expireDue now => exact fenceWhere_keptOrFenced s _ now p
  | _ => exact hrest rfl rfl

theorem run_keptOrFenced {ops : List AuthorityOp} (s : AuthorityState) (p : ParticipantId)
    (hops : ∀ op ∈ ops, op.isQuiet = true) : KeptOrFenced s (run authorityStep s ops) p := by
  induction ops generalizing s with
  | nil => exact .inl rfl
  | cons op ops ih =>
    have hstep := authorityStep_keptOrFenced s p (hops op (by simp))
    have hrest := ih (authorityStep s op) (fun other hother => hops other (by simp [hother]))
    exact hstep.trans hrest

end Authority

/-- The operations after which no earlier participant is known. -/
def ServiceOp.restarts : ServiceOp → Bool
  | .start _ => true
  | .restore _ _ _ => true
  | _ => false

/-- What one service operation does to one participant. -/
inductive ParticipantChange
    (s s' : CoordinatorService) (op : ServiceOp) (p : ParticipantId) : Prop
  | kept (peer : s'.authority.peers.find p = s.authority.peers.find p)
  | cleared
      (restart : op.restarts = true)
      (peer : s'.authority.peers.find p = none)
  | fenced
      (record : PeerLiveness) (now : UInt64)
      (before : s.authority.peers.find p = some record)
      (peer : s'.authority.peers.find p = some (AuthorityState.fence now record))
  | published
      (context : ServiceRequestContext) (i : BootIncarnation) (node : NodeId)
      (state : ParticipantState)
      (called : op = .publishParticipant context p i node state)
      (stores : Stores s.authority s'.authority (s.publication context p i node state))
  | beat
      (context : ServiceRequestContext) (i : BootIncarnation)
      (called : op = .heartbeat context p i)
      (stores : Stores s.authority s'.authority
        (AuthorityState.heartbeatRecord ((s.authority.peers.find p).getD {}) p i
          context.nowMonotonicMs s.config.participantTtlMs))

section Service

variable (s : CoordinatorService)

/-- Every operation but a restart, a publication and a heartbeat is quiet. -/
theorem authorityTrace_isQuiet {op : ServiceOp} (hrestart : op.restarts = false)
    (hpublish : ∀ context p i node state, op ≠ .publishParticipant context p i node state)
    (hbeat : ∀ context p i, op ≠ .heartbeat context p i) :
    ∀ a ∈ authorityTrace s op, a.isQuiet = true := by
  intro a ha
  cases hands_of_mem_authorityTrace ha with
  | boots draws _ => cases hrestart
  | setsFreshness draws _ => cases hrestart
  | restores => cases hrestart
  | publishes context p i node state _ => exact absurd rfl (hpublish context p i node state)
  | beats context p i _ _ => exact absurd rfl (hbeat context p i)
  | _ => rfl

theorem start_participantChange (draws : List Minted) (p : ParticipantId) :
    ParticipantChange s (serviceStep s (.start draws)) (.start draws) p := by
  by_cases hdraws : s.running = false ∧ (s.authority.bootDraw s.authority.epoch draws).isSome = true
  · refine .cleared rfl ?_
    obtain ⟨draw, hdraw⟩ := Option.isSome_iff_exists.mp hdraws.2
    rw [(serviceStep_effect s (.start draws)).authority]
    simp [authorityTrace, hdraws.1, hdraw, authorityStep, beginBoot, setFreshnessPolicy, clearPeers]
  · refine .kept ?_
    rw [(serviceStep_effect s (.start draws)).authority]
    simp [authorityTrace, hdraws]

theorem restore_participantChange (path : Text) (contents : SnapshotContents) (now : UInt64)
    (p : ParticipantId) :
    ParticipantChange s (serviceStep s (.restore path contents now))
      (.restore path contents now) p := by
  have hauthority := restore_authority s path contents now
  unfold restoreDurable at hauthority
  simp only at hauthority
  split at hauthority
  · exact .kept (by rw [hauthority])
  · refine .cleared rfl ?_
    rw [hauthority]
    exact KeyMap.find_empty p

/-- With both identities set, a publication is the one of the authority. -/
theorem publishParticipant_authority_of_set {p : ParticipantId} {i : BootIncarnation}
    (hset : p ≠ Identity.none) (hincarnation : i ≠ Identity.none) (context : ServiceRequestContext)
    (node : NodeId) (state : ParticipantState) :
    (serviceStep s (.publishParticipant context p i node state)).authority =
      (s.authority.publishLiveness (s.publication context p i node state)).2 := by
  rw [(serviceStep_effect s (.publishParticipant context p i node state)).authority]
  simp [authorityTrace, hset, hincarnation, authorityStep]

/-- With both identities set, a heartbeat is the one of the authority. -/
theorem heartbeat_authority_of_set {p : ParticipantId} {i : BootIncarnation}
    (hset : p ≠ Identity.none) (hincarnation : i ≠ Identity.none)
    (context : ServiceRequestContext) :
    (serviceStep s (.heartbeat context p i)).authority =
      (s.authority.heartbeat p i context.nowMonotonicMs s.config.participantTtlMs).2 := by
  rw [(serviceStep_effect s (.heartbeat context p i)).authority]
  simp [authorityTrace, hset, hincarnation, authorityStep]

theorem publishParticipant_participantChange (context : ServiceRequestContext) (q : ParticipantId)
    (i : BootIncarnation) (node : NodeId) (state : ParticipantState) (p : ParticipantId) :
    ParticipantChange s (serviceStep s (.publishParticipant context q i node state))
      (.publishParticipant context q i node state) p := by
  have hauthority := (serviceStep_effect s (.publishParticipant context q i node state)).authority
  simp only [authorityTrace] at hauthority
  split at hauthority
  · exact .kept (by rw [hauthority, run_nil])
  · simp only [run_cons, run_nil, authorityStep] at hauthority
    rcases publishLiveness_cases s.authority (s.publication context q i node state) with
      ⟨_, hsame⟩ | ⟨_, hstores⟩
    · exact .kept (by rw [hauthority, hsame])
    · rw [← hauthority] at hstores
      by_cases hp : p = q
      · subst hp
        exact .published context i node state rfl hstores
      · exact .kept (hstores.find_of_ne hp)

theorem heartbeat_participantChange (context : ServiceRequestContext) (q : ParticipantId)
    (i : BootIncarnation) (p : ParticipantId) :
    ParticipantChange s (serviceStep s (.heartbeat context q i)) (.heartbeat context q i) p := by
  have hauthority := (serviceStep_effect s (.heartbeat context q i)).authority
  simp only [authorityTrace] at hauthority
  split at hauthority
  · exact .kept (by rw [hauthority, run_nil])
  · simp only [run_cons, run_nil, authorityStep] at hauthority
    rcases heartbeat_cases s.authority q i context.nowMonotonicMs s.config.participantTtlMs with
      ⟨_, hsame⟩ | ⟨_, hstores⟩
    · exact .kept (by rw [hauthority, hsame])
    · rw [← hauthority] at hstores
      by_cases hp : p = q
      · subst hp
        exact .beat context i rfl hstores
      · exact .kept (hstores.find_of_ne hp)

/-- Everything a service operation can do to a participant. -/
theorem serviceStep_participantChange (op : ServiceOp) (p : ParticipantId) :
    ParticipantChange s (serviceStep s op) op p := by
  by_cases hrestart : op.restarts = true
  · cases op with
    | start draws => exact start_participantChange s draws p
    | restore path contents now => exact restore_participantChange s path contents now p
    | _ => simp [ServiceOp.restarts] at hrestart
  · by_cases hpublish : ∃ context q i node state, op = .publishParticipant context q i node state
    · obtain ⟨context, q, i, node, state, rfl⟩ := hpublish
      exact publishParticipant_participantChange s context q i node state p
    · by_cases hbeat : ∃ context q i, op = .heartbeat context q i
      · obtain ⟨context, q, i, rfl⟩ := hbeat
        exact heartbeat_participantChange s context q i p
      · have hquiet : ∀ a ∈ authorityTrace s op, a.isQuiet = true :=
          authorityTrace_isQuiet s (Bool.eq_false_iff.mpr hrestart)
            (fun context q i node state h => hpublish ⟨context, q, i, node, state, h⟩)
            (fun context q i h => hbeat ⟨context, q, i, h⟩)
        have hrun := run_keptOrFenced s.authority p hquiet
        rw [← serviceStep_simulates_authority s op] at hrun
        rcases hrun with hkept | ⟨record, now, hbefore, hafter⟩
        · exact .kept hkept
        · exact .fenced record now hbefore hafter

end Service

end TrafficFabric
