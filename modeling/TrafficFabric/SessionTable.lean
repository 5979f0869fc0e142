import TrafficFabric.ServiceEffects

/-!
# What an operation does to a session

One relation lists everything a service operation can do to an entry of the
session table: leave it, open it under a minted identity, advance its sequence
by an accepted frame, count a participant on it, or drop it.
-/

namespace TrafficFabric

open Lib CoordinatorService

variable {s : CoordinatorService}

/-- The operations that may drop sessions. -/
def ServiceOp.closes : ServiceOp → Bool
  | .stop _ => true
  | .closeSession _ _ => true
  | .sweepIdleSessions _ => true
  | _ => false

/-- The binding a new session starts with. -/
def openedBinding
    (s : CoordinatorService) (label : Text) (now : UInt64) (id incarnation : Minted) :
    SessionBinding :=
  { id := id.id
    incarnation := incarnation.id
    epoch := s.authority.epoch
    peerLabel := label.take Limits.labelBytesMax
    openedMonotonicMs := now
    lastFrameMonotonicMs := now }

/-- The binding after a frame was accepted on it. -/
def advancedBinding
    (binding : SessionBinding) (envelope : EnvelopeView) (now : UInt64) : SessionBinding :=
  { binding with
    lastFrameSequence := envelope.frameSequence
    lastFrameMonotonicMs := now
    framesReceived := binding.framesReceived + 1 }

/-- What one service operation does to one session. -/
inductive SessionChange
    (s s' : CoordinatorService) (op : ServiceOp) (k : SessionId) : Prop
  | kept (session : s'.sessions.find k = s.sessions.find k)
  | opened
      (label : Text) (now : UInt64) (id incarnation : Minted)
      (called : op = .openSession label now id incarnation)
      (named : k = id.id)
      (running : s.running = true)
      (before : s.sessions.find k = none)
      (session : s'.sessions.find k = some (openedBinding s label now id incarnation))
  | advanced
      (envelope : EnvelopeView) (now : UInt64) (reasons : ReasonChain)
      (binding : SessionBinding)
      (called : op = .validateEnvelope envelope now reasons)
      (named : k = envelope.session)
      (before : s.sessions.find k = some binding)
      (checked : (CoordinatorService.checkBinding s.authority.epoch binding envelope
        reasons).1.isOk = true)
      (session : s'.sessions.find k = some (advancedBinding binding envelope now))
  | counted
      (binding : SessionBinding)
      (before : s.sessions.find k = some binding)
      (session : s'.sessions.find k =
        some { binding with acceptedParticipants := binding.acceptedParticipants + 1 })
  | dropped
      (closes : op.closes = true)
      (session : s'.sessions.find k = none)

section Operations

variable (s : CoordinatorService)

theorem openSession_sessionChange (label : Text) (now : UInt64) (id incarnation : Minted)
    (k : SessionId) :
    SessionChange s (serviceStep s (.openSession label now id incarnation))
      (.openSession label now id incarnation) k := by
  simp only [serviceStep, openSession]
  cases hrunning : s.running with
  | false => exact .kept rfl
  | true =>
    simp only [Bool.true_eq_false, if_false]
    split
    · exact .kept rfl
    · by_cases hk : k = id.id ∧ s.sessions.find id.id = none
      · obtain ⟨rfl, hnone⟩ := hk
        refine .opened label now id incarnation rfl rfl hrunning hnone ?_
        simp [KeyMap.find_emplace, hnone, openedBinding]
      · refine .kept ?_
        rw [KeyMap.find_emplace, if_neg hk]

/-- A refused envelope changes nothing; an accepted one advances its session to its sequence. -/
theorem validateEnvelope_cases (envelope : EnvelopeView) (now : UInt64) (reasons : ReasonChain) :
    ((s.validateEnvelope envelope now reasons).1.isOk = false ∧
        (s.validateEnvelope envelope now reasons).2.2 = s) ∨
      ((s.validateEnvelope envelope now reasons).1.isOk = true ∧
        ∃ binding, s.sessions.find envelope.session = some binding ∧
          (checkBinding s.authority.epoch binding envelope reasons).1.isOk = true ∧
          (s.validateEnvelope envelope now reasons).2.2 =
            { s with
              sessions := s.sessions.assign envelope.session
                (advancedBinding binding envelope now) }) := by
  simp only [validateEnvelope]
  split
  · exact .inl ⟨by simp, rfl⟩
  · split
    · exact .inl ⟨by simp, rfl⟩
    · rename_i binding hbinding
      split
      · rename_i hrefused
        exact .inl ⟨hrefused, rfl⟩
      · rename_i hchecked
        exact .inr ⟨Status.isOk_ok, binding, hbinding, by simpa using hchecked, rfl⟩

theorem validateEnvelope_sessionChange (envelope : EnvelopeView) (now : UInt64)
    (reasons : ReasonChain) (k : SessionId) :
    SessionChange s (serviceStep s (.validateEnvelope envelope now reasons))
      (.validateEnvelope envelope now reasons) k := by
  simp only [serviceStep]
  rcases validateEnvelope_cases s envelope now reasons with
    ⟨_, hkept⟩ | ⟨_, binding, hbinding, hchecked, hadvanced⟩
  · exact .kept (by rw [hkept])
  · rw [hadvanced]
    by_cases hk : k = envelope.session
    · subst hk
      exact .advanced envelope now reasons binding rfl rfl hbinding hchecked
        (KeyMap.find_assign_self _ _ _)
    · exact .kept (KeyMap.find_assign_of_ne _ _ hk)

/-- Dropping a list of sessions removes exactly these. -/
theorem dropSessions_find (now : UInt64) (sessions : List SessionId) (k : SessionId) :
    (sessions.foldl (fun s session => s.dropSession session now) s).sessions.find k =
      if k ∈ sessions then none else s.sessions.find k := by
  induction sessions generalizing s with
  | nil => rfl
  | cons session sessions ih =>
    rw [List.foldl_cons, ih]
    by_cases hmem : k ∈ sessions
    · simp [hmem]
    · by_cases hk : k = session
      · subst hk
        simp [hmem, dropSession]
      · simp [hmem, hk, dropSession, KeyMap.find_remove_of_ne _ hk]

theorem closeSession_sessionChange (session : SessionId) (now : UInt64) (k : SessionId) :
    SessionChange s (serviceStep s (.closeSession session now)) (.closeSession session now) k := by
  simp only [serviceStep, closeSession]
  split
  · exact .kept rfl
  · have hfind := dropSessions_find s now [session] k
    simp only [List.foldl_cons, List.foldl_nil, List.mem_singleton] at hfind
    by_cases hk : k = session
    · exact .dropped rfl (by rw [hfind, if_pos hk])
    · exact .kept (by rw [hfind, if_neg hk])

theorem sweepIdleSessions_sessionChange (now : UInt64) (k : SessionId) :
    SessionChange s (serviceStep s (.sweepIdleSessions now)) (.sweepIdleSessions now) k := by
  have hfind := dropSessions_find s now (s.idleSessions now) k
  by_cases hk : k ∈ s.idleSessions now
  · exact .dropped rfl (hfind.trans (if_pos hk))
  · exact .kept (hfind.trans (if_neg hk))

theorem stop_sessionChange (now : UInt64) (k : SessionId) :
    SessionChange s (serviceStep s (.stop now)) (.stop now) k := by
  simp only [serviceStep, CoordinatorService.stop]
  split
  · exact .kept rfl
  · exact .dropped rfl (KeyMap.find_empty k)

theorem publishParticipant_sessionChange (context : ServiceRequestContext) (p : ParticipantId)
    (i : BootIncarnation) (node : NodeId) (state : ParticipantState) (k : SessionId) :
    SessionChange s (serviceStep s (.publishParticipant context p i node state))
      (.publishParticipant context p i node state) k := by
  rcases publishParticipant_cases s context p i node state with hstep | hstep | hstep
  · exact .kept (by rw [hstep]; rfl)
  · exact .kept (by rw [hstep]; rfl)
  · rw [hstep]
    unfold countParticipant
    split
    · exact .kept rfl
    · rename_i binding hbinding
      by_cases hk : k = context.session
      · subst hk
        exact .counted binding hbinding (KeyMap.find_assign_self _ _ _)
      · exact .kept (KeyMap.find_assign_of_ne _ _ hk)

/-- Everything a service operation can do to a session. -/
theorem serviceStep_sessionChange (op : ServiceOp) (k : SessionId) :
    SessionChange s (serviceStep s op) op k := by
  have hkept : op.usesSessions = false → SessionChange s (serviceStep s op) op k :=
    fun hop => .kept (by rw [(serviceStep_effect s op).sessions hop])
  cases op with
  | stop now => exact stop_sessionChange s now k
  | openSession label now id incarnation =>
    exact openSession_sessionChange s label now id incarnation k
  | validateEnvelope envelope now reasons =>
    exact validateEnvelope_sessionChange s envelope now reasons k
  | closeSession session now => exact closeSession_sessionChange s session now k
  | sweepIdleSessions now => exact sweepIdleSessions_sessionChange s now k
  | publishParticipant context p i node state =>
    exact publishParticipant_sessionChange s context p i node state k
  | _ => exact hkept rfl

/-- Only a stop ends the running of the service. -/
theorem serviceStep_running {op : ServiceOp} (hop : ∀ now, op ≠ .stop now)
    (hrunning : s.running = true) : (serviceStep s op).running = true := by
  by_cases hstart : ∃ draws, op = .start draws
  · obtain ⟨draws, rfl⟩ := hstart
    simp [serviceStep, CoordinatorService.start, hrunning]
  · rw [serviceStep_running_eq s (fun draws h => hstart ⟨draws, h⟩) hop]
    exact hrunning

end Operations

/--
Every session is stored under its own set identity with a set incarnation, and
a service that does not run has none.
-/
structure SessionsCoherent (s : CoordinatorService) : Prop where
  named : ∀ k binding, s.sessions.find k = some binding →
    binding.id = k ∧ k ≠ Identity.none ∧ binding.incarnation ≠ Identity.none
  running : s.running = false → ∀ k, s.sessions.find k = none

theorem SessionsCoherent.running_of_open {k : SessionId} (h : SessionsCoherent s)
    (hopen : s.sessions.find k ≠ none) : s.running = true := by
  by_contra hstopped
  exact hopen (h.running (Bool.eq_false_iff.mpr hstopped) k)

theorem sessionsCoherent_create (config : ServiceConfig) :
    SessionsCoherent (CoordinatorService.create config) := by
  refine ⟨?_, ?_⟩
  · intro k binding h
    simp [CoordinatorService.create] at h
  · intro _ k
    exact KeyMap.find_empty k

theorem serviceStep_sessionsNamed {op : ServiceOp} {k : SessionId} {binding : SessionBinding}
    (h : SessionsCoherent s) (hbinding : (serviceStep s op).sessions.find k = some binding) :
    binding.id = k ∧ k ≠ Identity.none ∧ binding.incarnation ≠ Identity.none := by
  cases serviceStep_sessionChange s op k with
  | kept session => exact h.named k binding (session ▸ hbinding)
  | opened _ _ id incarnation _ named _ _ session =>
    rw [session] at hbinding
    cases hbinding
    exact ⟨named.symm, named ▸ id.set, incarnation.set⟩
  | advanced _ _ _ old _ _ before _ session | counted old before session =>
    rw [session] at hbinding
    cases hbinding
    exact h.named k old before
  | dropped _ session =>
    rw [session] at hbinding
    cases hbinding

theorem stop_sessions (s : CoordinatorService) (now : UInt64) (h : SessionsCoherent s)
    (k : SessionId) : (serviceStep s (.stop now)).sessions.find k = none := by
  simp only [serviceStep, CoordinatorService.stop]
  split
  · rename_i hstopped
    exact h.running hstopped k
  · exact KeyMap.find_empty k

theorem serviceStep_sessionsCoherent (s : CoordinatorService) (op : ServiceOp)
    (h : SessionsCoherent s) : SessionsCoherent (serviceStep s op) := by
  refine ⟨fun k binding hbinding => serviceStep_sessionsNamed h hbinding, ?_⟩
  intro hstopped k
  by_cases hstop : ∃ now, op = .stop now
  · obtain ⟨now, rfl⟩ := hstop
    exact stop_sessions s now h k
  · have hbefore : s.running = false := by
      by_contra hrunning
      rw [serviceStep_running s (fun now hop => hstop ⟨now, hop⟩)
        (Bool.not_eq_false _ |>.mp hrunning)] at hstopped
      cases hstopped
    have hnone := h.running hbefore k
    cases serviceStep_sessionChange s op k with
    | kept session => rw [session, hnone]
    | opened _ _ _ _ _ _ running _ _ => simp [hbefore] at running
    | advanced _ _ _ _ _ _ before | counted _ before => simp [hnone] at before
    | dropped _ session => exact session

theorem ServiceReachable.sessionsCoherent (h : ServiceReachable s) : SessionsCoherent s := by
  obtain ⟨config, hconfig⟩ := h
  exact hconfig.invariant (sessionsCoherent_create config) serviceStep_sessionsCoherent

end TrafficFabric
