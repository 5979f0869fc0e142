import TrafficFabric.Service
import TrafficFabric.Fencing

/-!
# Runs of the coordinator service

A service operation with everything the environment supplies is one action,
and a run of the service is a list of actions.  Each locked section is one
action, so the actions of a run are in the order in which their callers got
the lock.

What an operation does to the authority and to the catalog is a list of
operations of that component.  The service therefore simulates both, and an
invariant of either component is an invariant of the service.
-/

namespace TrafficFabric

open Lib

/-- The public operations of the service, one for each locked section. -/
inductive ServiceOp where
  | start (draws : List Minted)
  | stop (nowMonotonicMs : UInt64)
  | completeSave (capturedSequence : UInt64)
  | flush (nowMonotonicMs : UInt64)
  | configurePersistence (path : Text) (nowMonotonicMs : UInt64)
  | restore (path : Text) (contents : SnapshotContents) (nowMonotonicMs : UInt64)
  | openSession (peerLabel : Text) (nowMonotonicMs : UInt64) (id incarnation : Minted)
  | validateEnvelope (envelope : EnvelopeView) (nowMonotonicMs : UInt64) (reasons : ReasonChain)
  | closeSession (session : SessionId) (nowMonotonicMs : UInt64)
  | sweepIdleSessions (nowMonotonicMs : UInt64)
  | publishParticipant (context : ServiceRequestContext) (participant : ParticipantId)
      (incarnation : BootIncarnation) (node : NodeId) (state : ParticipantState)
  | heartbeat (context : ServiceRequestContext) (participant : ParticipantId)
      (incarnation : BootIncarnation)
  | registerCollective (context : ServiceRequestContext) (definition : CollectiveDefinition)
  | beginAttempt (context : ServiceRequestContext) (id : CollectiveId)
      (generation : CollectiveGeneration) (attempt : CollectiveAttemptId)
      (transferBytes : UInt64)
  | cancelCollective (context : ServiceRequestContext) (id : CollectiveId)
      (generation : CollectiveGeneration) (attempt : CollectiveAttemptId)
      (reasons : ReasonChain)
  | retireCollective (context : ServiceRequestContext) (id : CollectiveId)
      (generation : CollectiveGeneration) (attempt : CollectiveAttemptId)
      (reasons : ReasonChain)
  | planFlowGroup (context : ServiceRequestContext) (request : DecisionRequest)
  | ingestCapacity (context : ServiceRequestContext) (evidence : CapacityEvidence)
      (minted : Minted) (reasons : ReasonChain)
  | ingestCongestion (context : ServiceRequestContext) (evidence : CongestionEvidence)
      (minted : Minted) (reasons : ReasonChain)
  | ingestTopology (context : ServiceRequestContext) (evidence : TopologyEvidence)
      (minted : Minted) (reasons : ReasonChain)
  | installPolicy (context : ServiceRequestContext) (policy : TrafficPolicy)
      (minted : Minted) (reasons : ReasonChain)
  | resetCounters
  | setConfig (config : ServiceConfig)

open CoordinatorService in
/-- The service after one operation; a start that is still drawing has done nothing. -/
def serviceStep (service : CoordinatorService) : ServiceOp → CoordinatorService
  | .start draws => ((start service draws).map Prod.snd).getD service
  | .stop now => (stop service now).2.2
  | .completeSave captured => completeSave service captured
  | .flush now => (flush service now).2.2
  | .configurePersistence path now => configurePersistence service path now
  | .restore path contents now => (restore service path contents now).2
  | .openSession label now id incarnation => (openSession service label now id incarnation).2.2
  | .validateEnvelope envelope now reasons => (validateEnvelope service envelope now reasons).2.2
  | .closeSession session now => (closeSession service session now).2
  | .sweepIdleSessions now => (sweepIdleSessions service now).2
  | .publishParticipant context p i node state =>
    (publishParticipant service context p i node state).2
  | .heartbeat context p i => (heartbeat service context p i).2
  | .registerCollective context definition => (registerCollective service context definition).2.2
  | .beginAttempt context id generation attempt bytes =>
    (beginAttempt service context id generation attempt bytes).2.2
  | .cancelCollective context id generation attempt reasons =>
    (cancelCollective service context id generation attempt reasons).2.2.2
  | .retireCollective context id generation attempt reasons =>
    (retireCollective service context id generation attempt reasons).2.2.2
  | .planFlowGroup context request => (planFlowGroup service context request).2.2
  | .ingestCapacity context evidence minted reasons =>
    (ingestCapacity service context evidence minted reasons).2
  | .ingestCongestion context evidence minted reasons =>
    (ingestCongestion service context evidence minted reasons).2
  | .ingestTopology context evidence minted reasons =>
    (ingestTopology service context evidence minted reasons).2
  | .installPolicy context policy minted reasons =>
    (installPolicy service context policy minted reasons).2
  | .resetCounters => resetCounters service
  | .setConfig config => setConfig service config

/-- The states a service of some configuration can reach. -/
def ServiceReachable (service : CoordinatorService) : Prop :=
  ∃ config, Reachable serviceStep (.create config) service

theorem ServiceReachable.run {service : CoordinatorService} (h : ServiceReachable service)
    (ops : List ServiceOp) : ServiceReachable (run serviceStep service ops) := by
  obtain ⟨config, hconfig⟩ := h
  exact ⟨config, hconfig.run ops⟩

section Plans

variable (service : CoordinatorService) (context : ServiceRequestContext)
  (request : DecisionRequest)

/-- The caller and the request of a plan pass their checks. -/
def CoordinatorService.AcceptsPlan : Prop :=
  (service.checkPlanContext context).isOk = true ∧ (validateDecisionRequest request).isOk = true

/-- How a plan ends: refused as a request, turned away by the lifecycle, or settled. -/
inductive PlanResult : Prop
  | refused (status : Status)
      (refuses : ¬ service.AcceptsPlan context request)
      (failed : status.isOk = false)
      (result : service.planFlowGroup context request = (status, none, service))
  | stale (decision : DecisionRecord)
      (accepts : service.AcceptsPlan context request)
      (lifecycle : service.lifecycleCheck context request = .error decision)
      (result : service.planFlowGroup context request =
        (Status.ok, some decision,
          { service with
            counters := CoordinatorService.countLifecycleRefusal decision service.counters
            history := (service.history.record decision).2 }))
  | settled (record : CollectiveRecord)
      (accepts : service.AcceptsPlan context request)
      (lifecycle : service.lifecycleCheck context request = .ok record)
      (result : service.planFlowGroup context request =
        (Status.ok, some (service.settleDecision context request record).1,
          (service.settleDecision context request record).2.recordDecision context
            (service.settleDecision context request record).1))

theorem planFlowGroup_result : PlanResult service context request := by
  cases hchecked : (service.checkPlanContext context).isOk with
  | false =>
    refine .refused _ ?_ hchecked (by simp [CoordinatorService.planFlowGroup, hchecked])
    exact fun h => Bool.false_ne_true (hchecked.symm.trans h.1)
  | true =>
    cases hvalid : (validateDecisionRequest request).isOk with
    | false =>
      refine .refused _ ?_ hvalid (by simp [CoordinatorService.planFlowGroup, hchecked, hvalid])
      exact fun h => Bool.false_ne_true (hvalid.symm.trans h.2)
    | true =>
      cases hlifecycle : service.lifecycleCheck context request with
      | error decision =>
        exact .stale decision ⟨hchecked, hvalid⟩ hlifecycle
          (by simp [CoordinatorService.planFlowGroup, hchecked, hvalid, hlifecycle])
      | ok record =>
        exact .settled record ⟨hchecked, hvalid⟩ hlifecycle
          (by simp [CoordinatorService.planFlowGroup, hchecked, hvalid, hlifecycle])

end Plans

section Traces

variable (service : CoordinatorService) {catalog : CollectiveCatalog}

/-- The operations of the authority one service operation performs. -/
def authorityTrace : ServiceOp → List AuthorityOp
  | .start draws =>
    if service.running = false ∧
        (service.authority.bootDraw service.authority.epoch draws).isSome = true then
      [.beginBoot service.authority.epoch draws,
        .setFreshnessPolicy { congestionMaxAgeMs := service.config.congestionValidForMs }]
    else
      []
  | .stop now =>
    if service.running then
      service.sessions.keys.map (fun session => .expireSession session now) ++
        [.invalidateDynamicEvidence]
    else
      []
  | .restore _ contents now => [.restoreDurable contents.authority now]
  | .closeSession session now =>
    if service.sessions.find session = none then [] else [.expireSession session now]
  | .sweepIdleSessions now =>
    (service.idleSessions now).map (fun session => .expireSession session now)
  | .publishParticipant context p i node state =>
    if p.isNone || i.isNone then []
    else [.publishLiveness (service.publication context p i node state)]
  | .heartbeat context p i =>
    if p.isNone || i.isNone then []
    else [.heartbeat p i context.nowMonotonicMs service.config.participantTtlMs]
  | .ingestCapacity context evidence minted reasons =>
    if (service.checkContext context reasons).1.isOk then
      [.installCapacity
        { evidence with
          generation := CoordinatorService.statedOrMinted evidence.generation minted }]
    else
      []
  | .ingestCongestion context evidence minted reasons =>
    if (service.checkContext context reasons).1.isOk then
      [.installCongestion
        { evidence with
          generation := CoordinatorService.statedOrMinted evidence.generation minted
          validForMs := min evidence.validForMs service.config.congestionValidForMs }]
    else
      []
  | .ingestTopology context evidence minted reasons =>
    if (service.checkContext context reasons).1.isOk then
      [.installTopology
        { evidence with
          generation := CoordinatorService.statedOrMinted evidence.generation minted }]
    else
      []
  | .installPolicy context policy minted reasons =>
    if (service.checkContext context reasons).1.isOk then
      [.installPolicy
        { policy with
          generation := CoordinatorService.statedOrMinted policy.generation minted }]
    else
      []
  | _ => []

/-- The evaluation of a request for a recorded collective, before admission. -/
def evaluatedDecision
    (context : ServiceRequestContext) (request : DecisionRequest) (record : CollectiveRecord) :
    DecisionRecord :=
  { evaluate (service.authority.snapshot context.nowMonotonicMs) request
      (CoordinatorService.effectiveDefinition record) with
    collectiveInstance := request.collectiveInstance }

/-- A decision is settled by its evaluation: a grant is released, a refusal counted. -/
theorem settleDecision_eq (context : ServiceRequestContext) (request : DecisionRequest)
    (record : CollectiveRecord) :
    service.settleDecision context request record =
      let evaluated := evaluatedDecision service context request record
      if outcomeGrantsAuthority evaluated.outcome then
        service.releaseGrant context.nowMonotonicMs evaluated
      else
        (evaluated,
          { service with
            counters := CoordinatorService.countRefusal evaluated service.counters }) := by
  rfl

/-- Ending a collective moves it to a terminal state once every guard has passed. -/
def endTrace
    (state : CollectiveState) (context : ServiceRequestContext) (id : CollectiveId)
    (generation : CollectiveGeneration) (attempt : CollectiveAttemptId) : List CatalogOp :=
  match service.catalog.find id with
  | none => []
  | some record =>
    if record.definition.generation = generation ∧
        collectiveStateIsTerminal record.state = false ∧
        CoordinatorService.attemptIsStale record attempt = false then
      [.setState id state context.nowMonotonicMs]
    else
      []

/-- A plan activates its collective when the evaluation grants. -/
def planTrace
    (context : ServiceRequestContext) (request : DecisionRequest) : List CatalogOp :=
  if (service.checkPlanContext context).isOk = true ∧
      (validateDecisionRequest request).isOk = true then
    match service.lifecycleCheck context request with
    | .error _ => []
    | .ok record =>
      if outcomeGrantsAuthority (evaluatedDecision service context request record).outcome then
        [.setState request.collectiveInstance.id .active context.nowMonotonicMs]
      else
        []
  else
    []

/-- The operations of the catalog one service operation performs. -/
def catalogTrace : ServiceOp → List CatalogOp
  | .restore _ contents now =>
    if (service.authority.restoreDurable contents.authority now).1.isOk then
      [.load contents.records]
    else
      []
  | .registerCollective context definition =>
    if service.running = true ∧ service.sessions.find context.session ≠ none then
      [.registerDefinition definition context.nowMonotonicMs]
    else
      []
  | .beginAttempt context id generation attempt bytes =>
    match service.catalog.find id with
    | none => []
    | some record =>
      if service.running = true ∧ record.definition.generation = generation ∧
          collectiveStateIsTerminal record.state = false ∧
          (service.catalog.beginAttempt id attempt context.nowMonotonicMs).1.isOk = true then
        [.beginAttempt id attempt context.nowMonotonicMs, .setAttemptTransferBytes id bytes]
      else
        []
  | .cancelCollective context id generation attempt _ =>
    endTrace service .cancelled context id generation attempt
  | .retireCollective context id generation attempt _ =>
    endTrace service .retired context id generation attempt
  | .planFlowGroup context request => planTrace service context request
  | _ => []

/-- A refused load leaves the catalog as it was. -/
theorem load_eq_self_of_refused {records : List CollectiveRecord}
    (h : (catalog.load records).1.isOk = false) : (catalog.load records).2 = catalog := by
  unfold CollectiveCatalog.load at h ⊢
  split
  · rfl
  · rename_i hfits
    rw [if_neg hfits] at h
    cases hstage : CollectiveCatalog.stage ∅ 0 records with
    | error status => rfl
    | ok staged => simp [hstage] at h

/-- A refused change of state leaves the catalog as it was. -/
theorem setState_eq_self_of_refused {id : CollectiveId} {state : CollectiveState} {now : UInt64}
    (h : (catalog.setState id state now).1.isOk = false) :
    (catalog.setState id state now).2 = catalog := by
  unfold CollectiveCatalog.setState at h ⊢
  cases hfind : catalog.find id with
  | none => rfl
  | some record =>
    simp only [hfind] at h ⊢
    split
    · rfl
    · rename_i hmoves
      simp [hmoves] at h

end Traces

/-- Which operations of the authority an operation of the service hands on. -/
inductive Hands : ServiceOp → AuthorityOp → Prop
  | boots (draws : List Minted) (epoch : CoordinatorEpoch) :
      Hands (.start draws) (.beginBoot epoch draws)
  | setsFreshness (draws : List Minted) (policy : FreshnessPolicy) :
      Hands (.start draws) (.setFreshnessPolicy policy)
  | stopExpires (session : SessionId) (now : UInt64) :
      Hands (.stop now) (.expireSession session now)
  | stopInvalidates (now : UInt64) : Hands (.stop now) .invalidateDynamicEvidence
  | restores (path : Text) (contents : SnapshotContents) (now : UInt64) :
      Hands (.restore path contents now) (.restoreDurable contents.authority now)
  | closeExpires (session : SessionId) (now : UInt64) :
      Hands (.closeSession session now) (.expireSession session now)
  | sweepExpires (session : SessionId) (now : UInt64) :
      Hands (.sweepIdleSessions now) (.expireSession session now)
  | publishes (context : ServiceRequestContext) (p : ParticipantId) (i : BootIncarnation)
      (node : NodeId) (state : ParticipantState) (liveness : PeerLiveness) :
      Hands (.publishParticipant context p i node state) (.publishLiveness liveness)
  | beats (context : ServiceRequestContext) (p : ParticipantId) (i : BootIncarnation)
      (now ttl : UInt64) :
      Hands (.heartbeat context p i) (.heartbeat p i now ttl)
  | capacity (context : ServiceRequestContext) (evidence installed : CapacityEvidence)
      (minted : Minted) (reasons : ReasonChain) :
      Hands (.ingestCapacity context evidence minted reasons) (.installCapacity installed)
  | congestion (context : ServiceRequestContext) (evidence installed : CongestionEvidence)
      (minted : Minted) (reasons : ReasonChain) :
      Hands (.ingestCongestion context evidence minted reasons) (.installCongestion installed)
  | topology (context : ServiceRequestContext) (evidence installed : TopologyEvidence)
      (minted : Minted) (reasons : ReasonChain) :
      Hands (.ingestTopology context evidence minted reasons) (.installTopology installed)
  | policy (context : ServiceRequestContext) (stated installed : TrafficPolicy)
      (minted : Minted) (reasons : ReasonChain) :
      Hands (.installPolicy context stated minted reasons) (.installPolicy installed)

theorem hands_of_mem_authorityTrace {op : ServiceOp} {a : AuthorityOp}
    (ha : a ∈ authorityTrace service op) : Hands op a := by
  cases op with
  | start draws =>
    simp only [authorityTrace, List.mem_ite_nil_right, List.mem_cons, List.not_mem_nil,
      or_false] at ha
    rcases ha.2 with rfl | rfl
    · exact .boots draws _
    · exact .setsFreshness draws _
  | stop now =>
    simp only [authorityTrace, List.mem_ite_nil_right, List.mem_append, List.mem_map,
      List.mem_singleton] at ha
    rcases ha.2 with ⟨session, _, rfl⟩ | rfl
    · exact .stopExpires session now
    · exact .stopInvalidates now
  | restore path contents now =>
    cases List.mem_singleton.mp ha
    exact .restores path contents now
  | closeSession session now =>
    simp only [authorityTrace, List.mem_ite_nil_left, List.mem_singleton] at ha
    cases ha.2
    exact .closeExpires session now
  | sweepIdleSessions now =>
    simp only [authorityTrace, List.mem_map] at ha
    obtain ⟨session, _, rfl⟩ := ha
    exact .sweepExpires session now
  | publishParticipant context p i node state =>
    simp only [authorityTrace, List.mem_ite_nil_left, List.mem_singleton] at ha
    cases ha.2
    exact .publishes context p i node state _
  | heartbeat context p i =>
    simp only [authorityTrace, List.mem_ite_nil_left, List.mem_singleton] at ha
    cases ha.2
    exact .beats context p i _ _
  | ingestCapacity context evidence minted reasons =>
    simp only [authorityTrace, List.mem_ite_nil_right, List.mem_singleton] at ha
    cases ha.2
    exact .capacity context evidence _ minted reasons
  | ingestCongestion context evidence minted reasons =>
    simp only [authorityTrace, List.mem_ite_nil_right, List.mem_singleton] at ha
    cases ha.2
    exact .congestion context evidence _ minted reasons
  | ingestTopology context evidence minted reasons =>
    simp only [authorityTrace, List.mem_ite_nil_right, List.mem_singleton] at ha
    cases ha.2
    exact .topology context evidence _ minted reasons
  | installPolicy context policy minted reasons =>
    simp only [authorityTrace, List.mem_ite_nil_right, List.mem_singleton] at ha
    cases ha.2
    exact .policy context policy _ minted reasons
  | _ => cases ha

end TrafficFabric
