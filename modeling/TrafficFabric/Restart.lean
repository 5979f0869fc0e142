import TrafficFabric.GrantSoundness
import TrafficFabric.Observations
import TrafficFabric.SessionTable

/-!
# Nothing dynamic survives a restart

A boot and a successful restoration forget every participant and every
observation of the network.  Whatever a later grant finds in their place has
been put there since: for each member a live publication or a heartbeat, and,
where the class asks for fresh evidence, an ingestion of congestion.
-/

namespace TrafficFabric

open Lib

/-- A live publication or a heartbeat of the participant that succeeds. -/
def Reasserts (p : ParticipantId) (s : CoordinatorService) : ServiceOp → Prop
  | .publishParticipant context q i node state =>
    q = p ∧ state = .live ∧ (s.publishParticipant context q i node state).1.isOk = true
  | .heartbeat context q i => q = p ∧ (s.heartbeat context q i).1.isOk = true
  | _ => False

/-- An ingestion of a congestion observation that succeeds. -/
def Observes (s : CoordinatorService) : ServiceOp → Prop
  | .ingestCongestion context evidence minted reasons =>
    (s.ingestCongestion context evidence minted reasons).1.status.isOk = true
  | _ => False

/-- The run has restarted; since its last restart, which left `booted`, it performed `after`. -/
def LastRestart
    (init : CoordinatorService) (ops : List ServiceOp) (booted : CoordinatorService)
    (after : List ServiceOp) : Prop :=
  ∃ before restart, ops = before ++ restart :: after ∧
    Restarted (run serviceStep init before) restart ∧
    run serviceStep init (before ++ [restart]) = booted ∧
    Along serviceStep (fun s op => ¬ Restarted s op) booted after

section Step

variable {s : CoordinatorService}
variable {op : ServiceOp} {p : ParticipantId} {context : ServiceRequestContext}

/-- A refused publication stores nothing. -/
theorem publishParticipant_authority_of_refused {i : BootIncarnation} {node : NodeId}
    {state : ParticipantState} (h : (s.publishParticipant context p i node state).1.isOk = false) :
    (s.publishParticipant context p i node state).2.authority = s.authority := by
  refine (serviceStep_effect s (.publishParticipant context p i node state)).authority.trans ?_
  simp only [authorityTrace]
  split
  · rfl
  rcases publishLiveness_cases s.authority (s.publication context p i node state) with
    ⟨_, hsame⟩ | ⟨haccepted, _⟩
  · exact hsame
  · simp only [CoordinatorService.publishParticipant, haccepted] at h
    split_ifs at h <;> simp_all

theorem heartbeat_authority_of_refused {i : BootIncarnation}
    (h : (s.heartbeat context p i).1.isOk = false) :
    (s.heartbeat context p i).2.authority = s.authority := by
  refine (serviceStep_effect s (.heartbeat context p i)).authority.trans ?_
  simp only [authorityTrace]
  split
  · rfl
  rcases heartbeat_cases s.authority p i context.nowMonotonicMs s.config.participantTtlMs with
    ⟨_, hsame⟩ | ⟨haccepted, _⟩
  · exact hsame
  · simp only [CoordinatorService.heartbeat, haccepted] at h
    split_ifs at h
    simp_all

/-- A live record after an operation was there before it, or was reasserted by it. -/
theorem live_after {record : PeerLiveness}
    (hpeer : (serviceStep s op).authority.peers.find p = some record)
    (hlive : record.state = .live) : s.authority.peers.find p = some record ∨ Reasserts p s op := by
  cases serviceStep_participantChange s op p with
  | kept peer => exact .inl (peer.symm.trans hpeer)
  | cleared _ peer =>
    rw [peer] at hpeer
    cases hpeer
  | fenced _ _ _ peer =>
    cases hpeer.symm.trans peer
    cases hlive
  | published context i node state called stores =>
    subst called
    cases hstatus : (s.publishParticipant context p i node state).1.isOk with
    | true =>
      cases hpeer.symm.trans stores.find_self
      exact .inr ⟨rfl, hlive, hstatus⟩
    | false =>
      refine .inl ?_
      rw [← publishParticipant_authority_of_refused hstatus]
      exact hpeer
  | beat context i called stores =>
    subst called
    cases hstatus : (s.heartbeat context p i).1.isOk with
    | true => exact .inr ⟨rfl, hstatus⟩
    | false =>
      refine .inl ?_
      rw [← heartbeat_authority_of_refused hstatus]
      exact hpeer

/-- A congestion observation after an operation was there before it, or was ingested by it. -/
theorem congestion_after (h : (serviceStep s op).authority.congestion.isSome = true) :
    s.authority.congestion.isSome = true ∨ Observes s op := by
  cases serviceStep_congestionChange s op with
  | kept _ congestion => exact .inl (congestion ▸ h)
  | dropped congestion => simp [congestion] at h
  | ingested congestion installs _ =>
    cases op with
    | ingestCongestion => exact .inr installs.1
    | _ => exact absurd installs id

/-- A restart leaves no participant and no congestion observation. -/
theorem restarted_clears (h : Restarted s op) :
    (∀ p, (serviceStep s op).authority.peers.find p = none) ∧
      (serviceStep s op).authority.congestion = none := by
  refine ⟨?_, ?_⟩
  · intro p
    cases op with
    | start draws =>
      obtain ⟨hrunning, hdraws⟩ := (restarted_start_iff s draws).mp h
      obtain ⟨draw, hdraw⟩ := Option.isSome_iff_exists.mp hdraws
      rw [(serviceStep_effect s (.start draws)).authority]
      simp [authorityTrace, hrunning, hdraw, authorityStep, AuthorityState.beginBoot,
        AuthorityState.setFreshnessPolicy, AuthorityState.clearPeers]
    | restore path contents now =>
      rw [restore_authority]
      rcases restoreDurable_cases s.authority contents.authority now with
        ⟨_, hrefused, _⟩ | ⟨_, hrestored⟩
      · simp [Restarted, CoordinatorService.restore, hrefused] at h
      · rw [hrestored]
        exact KeyMap.find_empty p
    | _ => exact absurd h id
  · cases serviceStep_congestionChange s op with
    | kept runsOn _ => exact absurd h runsOn
    | dropped congestion => exact congestion
    | ingested congestion installs _ =>
      cases op with
      | ingestCongestion => exact absurd h id
      | _ => exact absurd installs id

/-- A service that runs after an operation ran before it, or the operation booted it. -/
theorem running_before (hrestarted : ¬ Restarted s op) (h : (serviceStep s op).running = true) :
    s.running = true := by
  cases hrunning : s.running with
  | true => rfl
  | false =>
    cases op with
    | start draws =>
      rw [restarted_start_iff] at hrestarted
      cases hdraw : s.authority.bootDraw s.authority.epoch draws with
      | none => simp [serviceStep, CoordinatorService.start, hrunning, hdraw] at h
      | some draw => simp [hrunning, hdraw] at hrestarted
    | stop now => simp [serviceStep, CoordinatorService.stop, hrunning] at h
    | _ =>
      rw [serviceStep_running_eq s (by simp) (by simp), hrunning] at h
      exact h

end Step

section Runs

variable {init : CoordinatorService}
variable {ops : List ServiceOp} {op : ServiceOp} {booted : CoordinatorService}

/-- An operation that restarts nothing is one more since the last restart. -/
theorem LastRestart.append {after : List ServiceOp} (h : LastRestart init ops booted after)
    (hop : ¬ Restarted (run serviceStep init ops) op) :
    LastRestart init (ops ++ [op]) booted (after ++ [op]) := by
  obtain ⟨before, restart, rfl, hrestart, rfl, hafter⟩ := h
  refine ⟨before, restart, by simp, hrestart, rfl, (along_append _ _ _ _ _).mpr ⟨hafter, ?_⟩⟩
  have hstate : run serviceStep (run serviceStep init (before ++ [restart])) after =
      run serviceStep init (before ++ restart :: after) := by
    simp
  rw [hstate]
  exact ⟨hop, trivial⟩

/-- The state the last restart and what followed it lead to. -/
theorem LastRestart.run_eq {after : List ServiceOp} (h : LastRestart init ops booted after) :
    run serviceStep booted after = run serviceStep init ops := by
  obtain ⟨before, restart, rfl, _, rfl, _⟩ := h
  simp

/-- What a running service knows of participants and congestion it learned since its restart. -/
def LearnedSince (init : CoordinatorService) (ops : List ServiceOp) (s : CoordinatorService) :
    Prop :=
  s.running = true → ∃ booted after, LastRestart init ops booted after ∧
    (∀ p record, s.authority.peers.find p = some record → record.state = .live →
      Occurs serviceStep (Reasserts p) booted after) ∧
    (s.authority.congestion.isSome = true → Occurs serviceStep Observes booted after)

/-- Right after a restart nothing is known. -/
theorem learnedSince_restarted (h : Restarted (run serviceStep init ops) op) :
    LearnedSince init (ops ++ [op]) (serviceStep (run serviceStep init ops) op) := by
  intro _
  obtain ⟨hpeers, hcongestion⟩ := restarted_clears h
  refine ⟨_, [], ⟨ops, op, rfl, h, rfl, trivial⟩, ?_, ?_⟩
  · intro p record hpeer
    exact absurd ((hpeers p).symm.trans hpeer) (by simp)
  · intro hsome
    simp [hcongestion] at hsome

/-- Any other operation adds what it stores to what was learned before. -/
theorem LearnedSince.append (hop : ¬ Restarted (run serviceStep init ops) op)
    (h : LearnedSince init ops (run serviceStep init ops)) :
    LearnedSince init (ops ++ [op]) (serviceStep (run serviceStep init ops) op) := by
  intro hrunning
  obtain ⟨booted, after, hlast, hpeers, hcongestion⟩ := h (running_before hop hrunning)
  refine ⟨booted, after ++ [op], hlast.append hop, ?_, ?_⟩
  · intro p record hpeer hlive
    rcases live_after hpeer hlive with hbefore | hreasserts
    · exact (hpeers p record hbefore hlive).append [op]
    · exact occurs_last (hlast.run_eq.symm ▸ hreasserts)
  · intro hsome
    rcases congestion_after hsome with hbefore | hobserves
    · exact (hcongestion hbefore).append [op]
    · exact occurs_last (hlast.run_eq.symm ▸ hobserves)

theorem run_learnedSince (config : ServiceConfig) (ops : List ServiceOp) :
    LearnedSince (CoordinatorService.create config) ops
      (run serviceStep (.create config) ops) := by
  have hinit : LearnedSince (CoordinatorService.create config) []
      (CoordinatorService.create config) := by
    intro hrunning
    cases hrunning
  refine run_history ?_ hinit ops
  intro past op hlearned
  by_cases hop : Restarted (run serviceStep (.create config) past) op
  · exact learnedSince_restarted hop
  · exact hlearned.append hop

end Runs

/-- A service that returns a decision is running. -/
theorem running_of_planned {s : CoordinatorService} {context : ServiceRequestContext}
    {request : DecisionRequest} {decision : DecisionRecord}
    (h : (s.planFlowGroup context request).2.1 = some decision) : s.running = true := by
  cases hrunning : s.running with
  | true => rfl
  | false =>
    simp [CoordinatorService.planFlowGroup, CoordinatorService.checkPlanContext, hrunning] at h

/--
A restart resurrects nothing dynamic.  A plan that is admitted, outright or into
an isolated class, comes after a restart, and since the last one every member of
the collective was published live or sent a heartbeat with success; where the
class granted requires fresh evidence, an ingestion of congestion succeeded too.
-/
theorem grant_rests_on_events_since_restart {config : ServiceConfig} {ops : List ServiceOp}
    {context : ServiceRequestContext} {request : DecisionRequest} {decision : DecisionRecord}
    (hplan : ((run serviceStep (CoordinatorService.create config) ops).planFlowGroup context
      request).2.1 = some decision)
    (hgrants : decision.outcome = .admitted ∨ decision.outcome = .isolatedClass) :
    ∃ booted after record policy classPolicy,
      LastRestart (CoordinatorService.create config) ops booted after ∧
      (run serviceStep (CoordinatorService.create config) ops).catalog.find
        request.collectiveInstance.id = some record ∧
      (run serviceStep (CoordinatorService.create config) ops).authority.policy = some policy ∧
      policy.findClass decision.trafficClass = some classPolicy ∧
      (∀ p ∈ record.definition.participants, Occurs serviceStep (Reasserts p) booted after) ∧
      (classPolicy.requiresEvidenceFreshness = true →
        Occurs serviceStep Observes booted after) := by
  have hreachable : ServiceReachable (run serviceStep (.create config) ops) :=
    ⟨config, ops, rfl⟩
  obtain ⟨record, _, policy, topology, collectivePolicy, classPolicy, _, hlifecycle, hchecks, _,
    hclass, _⟩ := planFlowGroup_grantChecks hplan hgrants
  obtain ⟨booted, after, hlast, hpeers, hcongestion⟩ :=
    run_learnedSince config ops (running_of_planned hplan)
  refine ⟨booted, after, record, policy, classPolicy, hlast,
    (lifecycleCheck_eq_ok_iff.mp hlifecycle).1, hchecks.policyInstalled,
    hclass ▸ hchecks.trafficClass, ?_, ?_⟩
  · intro p hp
    rw [← (effectiveDefinition_same record).1] at hp
    obtain ⟨peer, hpeer, hlive, _⟩ :=
      live_of_checks (reachable_peersCoherent hreachable.authority)
        (reachable_evidenceCoherent hreachable.authority) hchecks.topologyInstalled
        (hchecks.live p hp) (hchecks.nodes p hp)
    exact hpeers p peer hpeer hlive
  · intro hrequired
    obtain ⟨congestion, hinstalled, _⟩ :=
      congestionFresh_of_checks (hchecks.congestionInstalled hrequired)
        (hchecks.congestionFresh hrequired)
    exact hcongestion (by rw [hinstalled]; rfl)

open TwoMembers in
/-- The two members are admitted on what was published and ingested since the start. -/
theorem grant_rests_on_events_since_start :
    ∃ decision, (service.planFlowGroup (context 10) request).2.1 = some decision ∧
      decision.outcome = .admitted ∧
      ∃ booted after record policy classPolicy,
        LastRestart (CoordinatorService.create {}) setup booted after ∧
        service.catalog.find request.collectiveInstance.id = some record ∧
        service.authority.policy = some policy ∧
        policy.findClass decision.trafficClass = some classPolicy ∧
        (∀ p ∈ record.definition.participants, Occurs serviceStep (Reasserts p) booted after) ∧
        (classPolicy.requiresEvidenceFreshness = true →
          Occurs serviceStep Observes booted after) := by
  obtain ⟨decision, hplan, hadmitted⟩ := service_admits
  exact ⟨decision, hplan, hadmitted, grant_rests_on_events_since_restart hplan (.inl hadmitted)⟩

end TrafficFabric
