import TrafficFabric.ServiceRun

/-!
# What an operation of the service does

One relation says what an operation leaves of every part of the service: its
authority and its catalog are the runs of the traces, an operation that does not
use a part leaves it, and a durable mutation is marked exactly when the answer
says that one was applied.  Except for the operations that deal with the file
itself, an operation either leaves the count, the flag and the path, or it counts
one mutation and raises the flag.

The operations that open an attempt or end a collective have many refusals; for
each of the two one relation lists what it can return.
-/

namespace TrafficFabric

open Lib CoordinatorService

variable {op : ServiceOp}

section Parts

/-- What the service knows of its snapshot file. -/
structure Durability where
  sequence : UInt64
  dirty : Bool
  path : Text
deriving DecidableEq, Repr

/-- One more mutation that is not in the file. -/
def Durability.mark (durability : Durability) : Durability :=
  { durability with sequence := durability.sequence + 1, dirty := true }

def CoordinatorService.durability (service : CoordinatorService) : Durability where
  sequence := service.mutationSequence
  dirty := service.persistenceDirty
  path := service.persistencePath

/-- The operations that write, configure or read the snapshot file. -/
def ServiceOp.usesFile : ServiceOp → Bool
  | .stop _ => true
  | .completeSave _ => true
  | .flush _ => true
  | .configurePersistence _ _ => true
  | .restore _ _ _ => true
  | _ => false

variable (s : CoordinatorService)

/-- The answer of the operation says that a durable change was applied. -/
def CoordinatorService.applies : ServiceOp → Bool
  | .registerCollective context definition =>
    match (s.registerCollective context definition).2.1.result with
    | .registered => true
    | .generationAdvanced => true
    | _ => false
  | .beginAttempt context id generation attempt bytes =>
    (s.beginAttempt context id generation attempt bytes).1.isOk
  | .cancelCollective context id generation attempt reasons =>
    (s.cancelCollective context id generation attempt reasons).1.isOk
  | .retireCollective context id generation attempt reasons =>
    (s.retireCollective context id generation attempt reasons).1.isOk
  | .ingestTopology context evidence minted reasons =>
    (s.ingestTopology context evidence minted reasons).1.status.isOk
  | .installPolicy context policy minted reasons =>
    (s.installPolicy context policy minted reasons).1.status.isOk
  | _ => false

/-- The durability after an operation that applied a change or did not. -/
def CoordinatorService.markedIf (applied : Bool) : Durability :=
  if applied then s.durability.mark else s.durability

@[simp] theorem markedIf_true : s.markedIf true = s.durability.mark := by
  rfl

@[simp] theorem markedIf_false : s.markedIf false = s.durability := by
  rfl

theorem markedIf_path (applied : Bool) : (s.markedIf applied).path = s.persistencePath := by
  cases applied <;> rfl

/-- The counters of plans: how many were decided, and how they were settled. -/
structure PlanTally where
  decisions : UInt64
  admissions : UInt64
  rejections : UInt64
  rateLimited : UInt64
  deferred : UInt64
  replans : UInt64

def ServiceCounters.planTally (counters : ServiceCounters) : PlanTally where
  decisions := counters.decisions
  admissions := counters.admissions
  rejections := counters.rejections
  rateLimited := counters.rateLimited
  deferred := counters.deferred
  replans := counters.replans

/-- Two states with the same bucket table, history and counters of plans. -/
structure SameTables (s s' : CoordinatorService) : Prop where
  admission : s'.admission = s.admission
  history : s'.history = s.history
  tally : s'.counters.planTally = s.counters.planTally

theorem SameTables.refl : SameTables s s := by
  exact ⟨rfl, rfl, rfl⟩

/-- The operations that may change the session table. -/
def ServiceOp.usesSessions : ServiceOp → Bool
  | .stop _ | .openSession _ _ _ _ | .validateEnvelope _ _ _ | .closeSession _ _
  | .sweepIdleSessions _ | .publishParticipant _ _ _ _ _ => true
  | _ => false

/-- The operations that may change whether the service runs. -/
def ServiceOp.switches : ServiceOp → Bool
  | .start _ | .stop _ => true
  | _ => false

/-- The operations that may change a table of decisions or a counter of plans. -/
def ServiceOp.usesTables : ServiceOp → Bool
  | .stop _ | .planFlowGroup _ _ | .resetCounters | .setConfig _ => true
  | _ => false

/-- The operations on collectives, which read the authority but do not write it. -/
def ServiceOp.onCollective : ServiceOp → Bool
  | .registerCollective _ _ | .beginAttempt _ _ _ _ _ | .cancelCollective _ _ _ _ _
  | .retireCollective _ _ _ _ _ | .planFlowGroup _ _ => true
  | _ => false

/-- What an operation leaves of the service, part by part. -/
structure StepEffect (op : ServiceOp) (s' : CoordinatorService) : Prop where
  authority : s'.authority = run authorityStep s.authority (authorityTrace s op)
  catalog : s'.catalog = run catalogStep s.catalog (catalogTrace s op)
  sessions : op.usesSessions = false → s'.sessions = s.sessions
  running : op.switches = false → s'.running = s.running
  config : (∀ config, op ≠ .setConfig config) → s'.config = s.config
  durability : op.usesFile = false → s'.durability = s.markedIf (s.applies op)
  tables : op.usesTables = false → SameTables s s'

variable {s}

/-- A refusal leaves the service, or counts one more stale completion. -/
def CoordinatorService.Refuses (s s' : CoordinatorService) : Prop :=
  s' = s ∨ s' = s.countStaleCompletion

theorem CoordinatorService.Refuses.catalog {s' : CoordinatorService} (h : s.Refuses s') :
    s'.catalog = s.catalog := by
  rcases h with rfl | rfl <;> rfl

/-- An operation that is refused has the effect of two empty traces. -/
theorem StepEffect.of_refuses {op : ServiceOp} {s' : CoordinatorService}
    (hauthority : authorityTrace s op = []) (hcatalog : catalogTrace s op = [])
    (happlies : s.applies op = false) (h : s.Refuses s') : StepEffect s op s' := by
  rcases h with rfl | rfl <;>
    exact ⟨by rw [hauthority]; rfl, by rw [hcatalog]; rfl, fun _ => rfl, fun _ => rfl,
      fun _ => rfl, fun _ => by rw [happlies]; rfl, fun _ => ⟨rfl, rfl, rfl⟩⟩

theorem StepEffect.nothing {op : ServiceOp} (hauthority : authorityTrace s op = [])
    (hcatalog : catalogTrace s op = []) (happlies : s.applies op = false) : StepEffect s op s := by
  exact .of_refuses hauthority hcatalog happlies (.inl rfl)

end Parts

section Attempts

variable (s : CoordinatorService) (context : ServiceRequestContext) (id : CollectiveId)
  (generation : CollectiveGeneration) (attempt : CollectiveAttemptId)

/-- The collective takes the attempt: it is current, open to one, and the attempt is new. -/
def OpensAttempt : Prop :=
  s.running = true ∧ attempt ≠ Identity.none ∧
    ∃ record, s.catalog.find id = some record ∧ record.definition.generation = generation ∧
      record.acceptsNewAuthority = true ∧ record.currentAttempt ≠ attempt

/-- What the request for an attempt returns: a refusal, or the attempt as it was opened. -/
inductive AttemptResult (bytes : UInt64) : Status × AttemptOutcome × CoordinatorService → Prop
  | refused
      {status : Status} (outcome : AttemptOutcome) {s' : CoordinatorService}
      (closed : ¬ OpensAttempt s id generation attempt)
      (failed : status.isOk = false)
      (refuses : s.Refuses s') :
      AttemptResult bytes (status, outcome, s')
  | opened
      (outcome : AttemptOutcome)
      (opens : OpensAttempt s id generation attempt)
      (accepted : (s.catalog.beginAttempt id attempt context.nowMonotonicMs).1.isOk = true) :
      AttemptResult bytes (Status.ok, outcome,
        CoordinatorService.markDurableMutation
          { s with
            catalog := (s.catalog.beginAttempt id attempt
              context.nowMonotonicMs).2.2.setAttemptTransferBytes id bytes })

theorem catalog_beginAttempt_isOk_iff (catalog : CollectiveCatalog) (now : UInt64) :
    (catalog.beginAttempt id attempt now).1.isOk = true ↔
      attempt ≠ Identity.none ∧ ∃ record, catalog.find id = some record ∧
        record.acceptsNewAuthority = true ∧ record.currentAttempt ≠ attempt := by
  unfold CollectiveCatalog.beginAttempt
  split
  · rename_i hunset
    simp_all
  · rename_i hset
    split
    · rename_i hunknown
      simp [hunknown]
    · rename_i record hrecord
      split
      · rename_i hcloses
        simp [hrecord, hcloses]
      · split
        · rename_i hcurrent
          simp [hrecord, hcurrent]
        · rename_i hcloses hnew
          simp_all

theorem beginAttempt_result (bytes : UInt64) :
    AttemptResult s context id generation attempt bytes
      (s.beginAttempt context id generation attempt bytes) := by
  unfold beginAttempt
  simp only
  split
  · rename_i hstopped
    exact .refused _ (fun h => by simp [h.1] at hstopped) rfl (.inl rfl)
  rename_i hrunning
  split
  · rename_i hunknown
    refine .refused _ ?_ rfl (.inr rfl)
    rintro ⟨_, _, record, hfind, _⟩
    cases hunknown.symm.trans hfind
  rename_i record hrecord
  have hopens : OpensAttempt s id generation attempt → attempt ≠ Identity.none ∧
      record.definition.generation = generation ∧ record.acceptsNewAuthority = true ∧
      record.currentAttempt ≠ attempt := by
    rintro ⟨_, hset, found, hfind, hcurrent⟩
    cases hrecord.symm.trans hfind
    exact ⟨hset, hcurrent⟩
  split
  · rename_i hstale
    exact .refused _ (fun h => hstale (hopens h).2.1) rfl (.inr rfl)
  rename_i hgeneration
  split
  · rename_i hterminal
    have hcloses : record.acceptsNewAuthority = false :=
      collectiveStateAcceptsNewAuthority_of_terminal hterminal
    refine .refused _ (fun h => by simp [hcloses] at hopens; exact hopens h) ?_ (.inr rfl)
    split <;> rfl
  unfold openAttempt
  simp only
  have hiff := catalog_beginAttempt_isOk_iff id attempt s.catalog context.nowMonotonicMs
  split
  · rename_i hrefused
    refine .refused _ (fun h => ?_) hrefused (.inl rfl)
    rw [hiff.mpr ⟨(hopens h).1, record, hrecord, (hopens h).2.2⟩] at hrefused
    cases hrefused
  · rename_i haccepted
    have haccepted := (Bool.not_eq_false _).mp haccepted
    obtain ⟨hset, found, hfind, hopen⟩ := hiff.mp haccepted
    cases hrecord.symm.trans hfind
    exact .opened _ ⟨(Bool.not_eq_false _).mp hrunning, hset, record, hrecord,
      not_not.mp hgeneration, hopen⟩ haccepted

/-- The collective can be ended: it is current, not terminal, and the attempt is not stale. -/
def EndsCollective : Prop :=
  ∃ record, s.catalog.find id = some record ∧ record.definition.generation = generation ∧
    collectiveStateIsTerminal record.state = false ∧
    CoordinatorService.attemptIsStale record attempt = false

theorem cancelTexts_terminalCode (state : CollectiveState) :
    cancelTexts.terminalCode state ≠ .ok := by
  simp only [cancelTexts]
  split <;> exact nofun

/-- What the request to end a collective returns: a refusal, or the end as it was stored. -/
inductive EndResult (texts : CoordinatorService.EndingTexts) :
    Status × Option CollectiveState × ReasonChain × CoordinatorService → Prop
  | refused
      {status : Status} {state : Option CollectiveState} {reasons : ReasonChain}
      {s' : CoordinatorService}
      (open' : ¬ EndsCollective s id generation attempt)
      (failed : status.isOk = false)
      (refuses : s.Refuses s') :
      EndResult texts (status, state, reasons, s')
  | ended
      {reasons : ReasonChain}
      (ends : EndsCollective s id generation attempt) :
      EndResult texts (Status.ok, some texts.state, reasons,
        CoordinatorService.markDurableMutation
          { s with
            catalog := (s.catalog.setState id texts.state context.nowMonotonicMs).2
            counters := texts.count s.counters })

theorem endCollective_result {texts : CoordinatorService.EndingTexts}
    (hcode : ∀ state, texts.terminalCode state ≠ .ok) (reasons : ReasonChain) :
    EndResult s context id generation attempt texts
      (s.endCollective texts context id generation attempt reasons) := by
  unfold endCollective
  split
  · rename_i hunknown
    refine .refused ?_ rfl (.inl rfl)
    rintro ⟨record, hfind, _⟩
    cases hunknown.symm.trans hfind
  rename_i record hrecord
  have hends : EndsCollective s id generation attempt →
      record.definition.generation = generation ∧
        collectiveStateIsTerminal record.state = false ∧
        attemptIsStale record attempt = false := by
    rintro ⟨found, hfind, hcurrent⟩
    cases hrecord.symm.trans hfind
    exact hcurrent
  split
  · rename_i hstale
    exact .refused (fun h => hstale (hends h).1) rfl (.inr rfl)
  rename_i hgeneration
  split
  · rename_i hterminal
    exact .refused (fun h => by simp [(hends h).2.1] at hterminal) (by simpa using hcode _)
      (.inl rfl)
  rename_i hlive
  split
  · rename_i hstale
    exact .refused (fun h => by simp [(hends h).2.2] at hstale) rfl (.inr rfl)
  rename_i hcurrent
  have hlive := Bool.eq_false_iff.mpr hlive
  have hmoved : (s.catalog.setState id texts.state context.nowMonotonicMs).1.isOk = true := by
    simp [CollectiveCatalog.setState, hrecord, hlive]
  simp only [hmoved, Bool.true_eq_false, if_false]
  exact .ended ⟨record, hrecord, not_not.mp hgeneration, hlive, Bool.eq_false_iff.mpr hcurrent⟩

end Attempts

/-- Two states with the same authority, sessions, running flag and configuration. -/
structure SameAccess (s s' : CoordinatorService) : Prop where
  authority : s'.authority = s.authority
  sessions : s'.sessions = s.sessions
  running : s'.running = s.running
  config : s'.config = s.config

theorem SameAccess.refl (s : CoordinatorService) : SameAccess s s := by
  exact ⟨rfl, rfl, rfl, rfl⟩

theorem SameAccess.trans {s t u : CoordinatorService} (h : SameAccess s t) (h' : SameAccess t u) :
    SameAccess s u := by
  exact ⟨h'.authority.trans h.authority, h'.sessions.trans h.sessions,
    h'.running.trans h.running, h'.config.trans h.config⟩

section Effects

variable (s : CoordinatorService) (context : ServiceRequestContext)

theorem start_effect (draws : List Minted) :
    StepEffect s (.start draws) (serviceStep s (.start draws)) := by
  simp only [serviceStep, CoordinatorService.start]
  cases hrunning : s.running with
  | true => exact .nothing (by simp [authorityTrace, hrunning]) rfl rfl
  | false =>
    cases hdraw : s.authority.bootDraw s.authority.epoch draws with
    | none => exact .nothing (by simp [authorityTrace, hdraw]) rfl rfl
    | some draw =>
      refine ⟨?_, rfl, fun _ => rfl, by rintro ⟨⟩, fun _ => rfl, fun _ => rfl,
        fun _ => ⟨rfl, rfl, rfl⟩⟩
      simp [authorityTrace, hrunning, hdraw, authorityStep]

/-- Fencing session after session is the run of those operations. -/
theorem expireSessions_eq_run (authority : AuthorityState) (now : UInt64)
    (sessions : List SessionId) :
    expireSessions authority now sessions =
      run authorityStep authority (sessions.map (fun session => .expireSession session now)) := by
  induction sessions generalizing authority with
  | nil => rfl
  | cons _ _ ih => exact ih _

theorem stop_effect (now : UInt64) : StepEffect s (.stop now) (serviceStep s (.stop now)) := by
  simp only [serviceStep, CoordinatorService.stop]
  cases hrunning : s.running with
  | false => exact .nothing (by simp [authorityTrace, hrunning]) rfl rfl
  | true =>
    refine ⟨?_, rfl, by rintro ⟨⟩, by rintro ⟨⟩, fun _ => rfl, by rintro ⟨⟩, by rintro ⟨⟩⟩
    simp [authorityTrace, hrunning, expireSessions_eq_run, authorityStep]

theorem flush_effect (now : UInt64) : StepEffect s (.flush now) (serviceStep s (.flush now)) := by
  simp only [serviceStep, flush]
  split_ifs <;>
    exact ⟨rfl, rfl, fun _ => rfl, fun _ => rfl, fun _ => rfl, nofun, fun _ => ⟨rfl, rfl, rfl⟩⟩

theorem restore_effect (path : Text) (contents : SnapshotContents) (now : UInt64) :
    StepEffect s (.restore path contents now) (serviceStep s (.restore path contents now)) := by
  have hauthority : (s.authority.restoreDurable contents.authority now).1.isOk = false →
      (s.authority.restoreDurable contents.authority now).2 = s.authority := by
    intro hrefused
    simp only [AuthorityState.restoreDurable] at hrefused ⊢
    split
    · rfl
    · rename_i haccepted
      simp [haccepted] at hrefused
  simp only [serviceStep, restore]
  cases hrestored : (s.authority.restoreDurable contents.authority now).1.isOk with
  | false =>
    exact ⟨(hauthority hrestored).symm, by simp [catalogTrace, hrestored], fun _ => rfl,
      fun _ => rfl, fun _ => rfl, nofun, fun _ => .refl s⟩
  | true =>
    simp only [Bool.true_eq_false, if_false]
    split
    · rename_i hrefused
      refine ⟨rfl, ?_, fun _ => rfl, fun _ => rfl, fun _ => rfl, nofun, fun _ => ⟨rfl, rfl, rfl⟩⟩
      simp [catalogTrace, hrestored, catalogStep, load_eq_self_of_refused hrefused]
    · refine ⟨rfl, ?_, fun _ => rfl, fun _ => rfl, fun _ => rfl, nofun, fun _ => ⟨rfl, rfl, rfl⟩⟩
      simp [catalogTrace, hrestored, catalogStep]

theorem openSession_effect (label : Text) (now : UInt64) (id incarnation : Minted) :
    StepEffect s (.openSession label now id incarnation)
      (serviceStep s (.openSession label now id incarnation)) := by
  simp only [serviceStep, openSession]
  split_ifs <;>
    exact ⟨rfl, rfl, nofun, fun _ => rfl, fun _ => rfl, fun _ => rfl, fun _ => ⟨rfl, rfl, rfl⟩⟩

theorem validateEnvelope_effect (envelope : EnvelopeView) (now : UInt64) (reasons : ReasonChain) :
    StepEffect s (.validateEnvelope envelope now reasons)
      (serviceStep s (.validateEnvelope envelope now reasons)) := by
  simp only [serviceStep, validateEnvelope]
  split
  · exact .nothing rfl rfl rfl
  · split
    · exact .nothing rfl rfl rfl
    · split
      · exact .nothing rfl rfl rfl
      · exact ⟨rfl, rfl, by rintro ⟨⟩, fun _ => rfl, fun _ => rfl, fun _ => rfl,
          fun _ => ⟨rfl, rfl, rfl⟩⟩

/-- Dropping sessions fences what they published; the rest of the service stays. -/
theorem dropSessions_parts (now : UInt64) (sessions : List SessionId) :
    let s' := sessions.foldl (fun s session => s.dropSession session now) s
    s'.authority = run authorityStep s.authority
        (sessions.map fun session => .expireSession session now) ∧
      s'.catalog = s.catalog ∧ s'.running = s.running ∧ s'.config = s.config ∧
      s'.durability = s.durability ∧ SameTables s s' := by
  induction sessions generalizing s with
  | nil => exact ⟨rfl, rfl, rfl, rfl, rfl, .refl s⟩
  | cons session sessions ih =>
    obtain ⟨hauthority, hcatalog, hrunning, hconfig, hdurability, htables⟩ :=
      ih (s.dropSession session now)
    exact ⟨hauthority, hcatalog, hrunning, hconfig, hdurability,
      ⟨htables.admission, htables.history, htables.tally⟩⟩

theorem closeSession_effect (session : SessionId) (now : UInt64) :
    StepEffect s (.closeSession session now) (serviceStep s (.closeSession session now)) := by
  simp only [serviceStep, closeSession]
  split
  · rename_i hunknown
    exact .nothing (if_pos hunknown) rfl rfl
  · rename_i hopen
    refine ⟨?_, rfl, by rintro ⟨⟩, fun _ => rfl, fun _ => rfl, fun _ => rfl,
      fun _ => ⟨rfl, rfl, rfl⟩⟩
    rw [authorityTrace, if_neg hopen]
    rfl

theorem sweepIdleSessions_effect (now : UInt64) :
    StepEffect s (.sweepIdleSessions now) (serviceStep s (.sweepIdleSessions now)) := by
  obtain ⟨hauthority, hcatalog, hrunning, hconfig, hdurability, htables⟩ :=
    dropSessions_parts s now (s.idleSessions now)
  exact ⟨hauthority, hcatalog, nofun, fun _ => hrunning, fun _ => hconfig, fun _ => hdurability,
    fun _ => htables⟩

/-- The service with what the trace of the operation leaves of its authority. -/
def withTraced (op : ServiceOp) : CoordinatorService :=
  { s with authority := run authorityStep s.authority (authorityTrace s op) }

/-- A publication is the one of the authority, and a count of a fence or of the participant. -/
theorem publishParticipant_cases (context : ServiceRequestContext) (p : ParticipantId)
    (i : BootIncarnation) (node : NodeId) (state : ParticipantState) :
    let op := ServiceOp.publishParticipant context p i node state
    serviceStep s op = withTraced s op ∨
      serviceStep s op = (withTraced s op).countFence ∨
      serviceStep s op = (withTraced s op).countParticipant context.session := by
  simp only [serviceStep, withTraced, authorityTrace, publishParticipant]
  split
  · exact .inl rfl
  · simp only [run_cons, run_nil, authorityStep]
    split
    · exact .inr (.inl rfl)
    · split
      · exact .inl rfl
      · split
        · exact .inl rfl
        · exact .inr (.inr rfl)

theorem publishParticipant_effect (p : ParticipantId) (i : BootIncarnation) (node : NodeId)
    (state : ParticipantState) :
    StepEffect s (.publishParticipant context p i node state)
      (serviceStep s (.publishParticipant context p i node state)) := by
  rcases publishParticipant_cases s context p i node state with hstep | hstep | hstep
  · rw [hstep]
    exact ⟨rfl, rfl, nofun, fun _ => rfl, fun _ => rfl, fun _ => rfl, fun _ => ⟨rfl, rfl, rfl⟩⟩
  · rw [hstep]
    exact ⟨rfl, rfl, nofun, fun _ => rfl, fun _ => rfl, fun _ => rfl, fun _ => ⟨rfl, rfl, rfl⟩⟩
  · rw [hstep]
    unfold countParticipant
    split <;>
      exact ⟨rfl, rfl, nofun, fun _ => rfl, fun _ => rfl, fun _ => rfl, fun _ => ⟨rfl, rfl, rfl⟩⟩

theorem heartbeat_effect (p : ParticipantId) (i : BootIncarnation) :
    StepEffect s (.heartbeat context p i) (serviceStep s (.heartbeat context p i)) := by
  simp only [serviceStep, heartbeat]
  split
  · rename_i hunset
    exact .nothing (if_pos hunset) rfl rfl
  · rename_i hset
    have htrace : authorityTrace s (.heartbeat context p i) =
        [.heartbeat p i context.nowMonotonicMs s.config.participantTtlMs] := if_neg hset
    split <;>
      exact ⟨by rw [htrace]; rfl, rfl, fun _ => rfl, fun _ => rfl, fun _ => rfl, fun _ => rfl,
        fun _ => ⟨rfl, rfl, rfl⟩⟩

theorem registerCollective_effect (definition : CollectiveDefinition) :
    StepEffect s (.registerCollective context definition)
      (serviceStep s (.registerCollective context definition)) := by
  by_cases hstopped : s.running = false
  · simp only [serviceStep, registerCollective, if_pos hstopped]
    exact .nothing rfl (by simp [catalogTrace, hstopped])
      (by simp [applies, registerCollective, hstopped])
  by_cases hsession : s.sessions.find context.session = none
  · simp only [serviceStep, registerCollective, if_neg hstopped, if_pos hsession]
    exact .nothing rfl (by simp [catalogTrace, hsession])
      (by simp [applies, registerCollective, hstopped, hsession])
  have htrace : catalogTrace s (.registerCollective context definition) =
      [.registerDefinition definition context.nowMonotonicMs] :=
    if_pos ⟨(Bool.not_eq_false _).mp hstopped, hsession⟩
  simp only [serviceStep, registerCollective, if_neg hstopped, if_neg hsession]
  split <;> rename_i hresult <;>
    refine ⟨rfl, by rw [htrace]; rfl, fun _ => rfl, fun _ => rfl, fun _ => rfl, fun _ => ?_,
      fun _ => ⟨rfl, rfl, rfl⟩⟩ <;>
    simp only [applies, registerCollective, if_neg hstopped, if_neg hsession, hresult] <;> rfl

theorem beginAttempt_effect (id : CollectiveId) (generation : CollectiveGeneration)
    (attempt : CollectiveAttemptId) (bytes : UInt64) :
    StepEffect s (.beginAttempt context id generation attempt bytes)
      (serviceStep s (.beginAttempt context id generation attempt bytes)) := by
  have hiff := catalog_beginAttempt_isOk_iff id attempt s.catalog context.nowMonotonicMs
  have hresult := beginAttempt_result s context id generation attempt bytes
  have happlies : s.applies (.beginAttempt context id generation attempt bytes) =
    (s.beginAttempt context id generation attempt bytes).1.isOk := rfl
  simp only [serviceStep]
  generalize s.beginAttempt context id generation attempt bytes = result at hresult happlies ⊢
  cases hresult with
  | refused _ closed failed refuses =>
    refine .of_refuses rfl ?_ (happlies.trans failed) refuses
    simp only [catalogTrace]
    split
    · rfl
    · rename_i record hrecord
      refine if_neg ?_
      rintro ⟨hrunning, hgeneration, _, haccepted⟩
      obtain ⟨hset, found, hfind, hopen⟩ := hiff.mp haccepted
      cases hrecord.symm.trans hfind
      exact closed ⟨hrunning, hset, record, hrecord, hgeneration, hopen⟩
  | opened _ opens accepted =>
    obtain ⟨hrunning, _, record, hrecord, hgeneration, haccepts, _⟩ := opens
    have hlive : collectiveStateIsTerminal record.state = false :=
      Bool.eq_false_iff.mpr fun hterminal => Bool.false_ne_true
        ((collectiveStateAcceptsNewAuthority_of_terminal hterminal).symm.trans haccepts)
    refine ⟨rfl, ?_, fun _ => rfl, fun _ => rfl, fun _ => rfl, ?_, fun _ => ⟨rfl, rfl, rfl⟩⟩
    · simp only [catalogTrace, hrecord]
      rw [if_pos ⟨hrunning, hgeneration, hlive, accepted⟩]
      rfl
    · intro _
      rw [happlies]
      rfl

/-- Ending a collective moves it to a terminal state where it can be ended. -/
theorem endCollective_effect {texts : CoordinatorService.EndingTexts} {op : ServiceOp}
    {id : CollectiveId} {generation : CollectiveGeneration} {attempt : CollectiveAttemptId}
    (reasons : ReasonChain) (hcode : ∀ state, texts.terminalCode state ≠ .ok)
    (hcount : (texts.count s.counters).planTally = s.counters.planTally)
    (hauthority : authorityTrace s op = [])
    (hcatalog : catalogTrace s op = endTrace s texts.state context id generation attempt)
    (happlies : s.applies op =
      (s.endCollective texts context id generation attempt reasons).1.isOk) :
    StepEffect s op (s.endCollective texts context id generation attempt reasons).2.2.2 := by
  have hresult := endCollective_result s context id generation attempt hcode reasons
  generalize s.endCollective texts context id generation attempt reasons = result
    at hresult happlies ⊢
  cases hresult with
  | refused closed failed refuses =>
    refine .of_refuses hauthority (hcatalog.trans ?_) (happlies.trans failed) refuses
    unfold endTrace
    split
    · rfl
    · rename_i record hrecord
      exact if_neg fun h => closed ⟨record, hrecord, h⟩
  | ended ends =>
    obtain ⟨record, hrecord, hopen⟩ := ends
    refine ⟨by rw [hauthority]; rfl, ?_, fun _ => rfl, fun _ => rfl, fun _ => rfl,
      fun _ => by rw [happlies]; rfl, fun _ => ⟨rfl, rfl, hcount⟩⟩
    rw [hcatalog, endTrace, hrecord]
    simp only [if_pos hopen]
    rfl

/-- A settled decision leaves all but the catalog, the bucket table and the counters. -/
theorem settleDecision_parts (request : DecisionRequest) (record : CollectiveRecord) :
    let s' := (s.settleDecision context request record).2
    SameAccess s s' ∧ s'.durability = s.durability ∧
      s'.catalog =
        if outcomeGrantsAuthority (evaluatedDecision s context request record).outcome then
          (s.catalog.setState request.collectiveInstance.id .active context.nowMonotonicMs).2
        else
          s.catalog := by
  rw [settleDecision_eq]
  simp only
  split
  · simp only [releaseGrant]
    split
    · rename_i hrefused
      exact ⟨.refl s, rfl, (setState_eq_self_of_refused hrefused).symm⟩
    · exact ⟨⟨rfl, rfl, rfl, rfl⟩, rfl, rfl⟩
  · exact ⟨⟨rfl, rfl, rfl, rfl⟩, rfl, rfl⟩

theorem planFlowGroup_effect (request : DecisionRequest) :
    StepEffect s (.planFlowGroup context request)
      (serviceStep s (.planFlowGroup context request)) := by
  simp only [serviceStep]
  cases planFlowGroup_result s context request with
  | refused status refuses _ result =>
    rw [result]
    exact .nothing rfl (if_neg refuses) rfl
  | stale decision accepts lifecycle result =>
    rw [result]
    refine ⟨rfl, ?_, fun _ => rfl, fun _ => rfl, fun _ => rfl, fun _ => rfl, nofun⟩
    simp [catalogTrace, planTrace, accepts.1, accepts.2, lifecycle]
  | settled record accepts lifecycle result =>
    rw [result]
    obtain ⟨haccess, hdurability, hcatalog⟩ := settleDecision_parts s context request record
    refine ⟨haccess.authority, hcatalog.trans ?_, fun _ => haccess.sessions,
      fun _ => haccess.running, fun _ => haccess.config, fun _ => hdurability, nofun⟩
    simp only [catalogTrace, planTrace, accepts.1, accepts.2, lifecycle, and_self, if_true]
    split <;> rfl

theorem observationAnswer_isOk {kind installed stale invalid : Text} {code : ErrorCode}
    {evidence subject : Identity} {reasons : ReasonChain} (result : InstallResult)
    (hcode : code ≠ .ok) :
    (observationAnswer kind installed stale invalid code evidence subject
      reasons result).1.isOk = decide (result = .installed) := by
  cases result <;> simp [observationAnswer, hcode]

theorem policyAnswer_isOk {inForce : PolicyGeneration} {reasons : ReasonChain}
    (result : InstallResult) :
    (policyAnswer inForce reasons result).1.isOk = decide (result = .installed) := by
  cases result <;> rfl

variable (minted : Minted) (reasons : ReasonChain)

theorem ingestCapacity_effect (evidence : CapacityEvidence) :
    StepEffect s (.ingestCapacity context evidence minted reasons)
      (serviceStep s (.ingestCapacity context evidence minted reasons)) := by
  simp only [serviceStep, ingestCapacity]
  cases hchecked : (s.checkContext context reasons).1.isOk with
  | false => exact .nothing (by simp [authorityTrace, hchecked]) rfl rfl
  | true =>
    exact ⟨by simp [authorityTrace, hchecked, authorityStep, countIngest],
      rfl, fun _ => rfl, fun _ => rfl, fun _ => rfl, fun _ => rfl, fun _ => ⟨rfl, rfl, rfl⟩⟩

theorem ingestCongestion_effect (evidence : CongestionEvidence) :
    StepEffect s (.ingestCongestion context evidence minted reasons)
      (serviceStep s (.ingestCongestion context evidence minted reasons)) := by
  simp only [serviceStep, ingestCongestion]
  cases hchecked : (s.checkContext context reasons).1.isOk with
  | false => exact .nothing (by simp [authorityTrace, hchecked]) rfl rfl
  | true =>
    exact ⟨by simp [authorityTrace, hchecked, authorityStep, countIngest],
      rfl, fun _ => rfl, fun _ => rfl, fun _ => rfl, fun _ => rfl, fun _ => ⟨rfl, rfl, rfl⟩⟩

theorem ingestTopology_effect (evidence : TopologyEvidence) :
    StepEffect s (.ingestTopology context evidence minted reasons)
      (serviceStep s (.ingestTopology context evidence minted reasons)) := by
  simp only [serviceStep, ingestTopology]
  cases hchecked : (s.checkContext context reasons).1.isOk with
  | false =>
    exact .nothing (by simp [authorityTrace, hchecked]) rfl
      (by simp [applies, ingestTopology, hchecked])
  | true =>
    simp only [Bool.true_eq_false, if_false]
    split <;> rename_i hresult <;>
      refine ⟨?_, rfl, fun _ => rfl, fun _ => rfl, fun _ => rfl, fun _ => ?_,
        fun _ => ⟨rfl, rfl, rfl⟩⟩
    all_goals
      simp [authorityTrace, applies, ingestTopology, hchecked, hresult, observationAnswer_isOk]
      rfl

theorem installPolicy_effect (policy : TrafficPolicy) :
    StepEffect s (.installPolicy context policy minted reasons)
      (serviceStep s (.installPolicy context policy minted reasons)) := by
  simp only [serviceStep, installPolicy]
  cases hchecked : (s.checkContext context reasons).1.isOk with
  | false =>
    exact .nothing (by simp [authorityTrace, hchecked]) rfl
      (by simp [applies, installPolicy, hchecked])
  | true =>
    simp only [Bool.true_eq_false, if_false]
    split <;> rename_i hresult <;>
      refine ⟨?_, rfl, fun _ => rfl, fun _ => rfl, fun _ => rfl, fun _ => ?_,
        fun _ => ⟨rfl, rfl, rfl⟩⟩
    all_goals
      simp [authorityTrace, applies, installPolicy, hchecked, hresult, policyAnswer_isOk]
      rfl

/-- Every operation of the service has its effect. -/
theorem serviceStep_effect (s : CoordinatorService) (op : ServiceOp) :
    StepEffect s op (serviceStep s op) := by
  cases op with
  | start draws => exact start_effect s draws
  | stop now => exact stop_effect s now
  | completeSave | configurePersistence =>
    exact ⟨rfl, rfl, fun _ => rfl, fun _ => rfl, fun _ => rfl, nofun, fun _ => ⟨rfl, rfl, rfl⟩⟩
  | flush now => exact flush_effect s now
  | restore path contents now => exact restore_effect s path contents now
  | openSession label now id incarnation => exact openSession_effect s label now id incarnation
  | validateEnvelope envelope now reasons => exact validateEnvelope_effect s envelope now reasons
  | closeSession session now => exact closeSession_effect s session now
  | sweepIdleSessions now => exact sweepIdleSessions_effect s now
  | publishParticipant context p i node state =>
    exact publishParticipant_effect s context p i node state
  | heartbeat context p i => exact heartbeat_effect s context p i
  | registerCollective context definition => exact registerCollective_effect s context definition
  | beginAttempt context id generation attempt bytes =>
    exact beginAttempt_effect s context id generation attempt bytes
  | cancelCollective context _ _ _ reasons =>
    exact endCollective_effect s context reasons cancelTexts_terminalCode rfl rfl rfl rfl
  | retireCollective context _ _ _ reasons =>
    exact endCollective_effect s context reasons (fun _ => nofun) rfl rfl rfl rfl
  | planFlowGroup context request => exact planFlowGroup_effect s context request
  | ingestCapacity context evidence minted reasons =>
    exact ingestCapacity_effect s context minted reasons evidence
  | ingestCongestion context evidence minted reasons =>
    exact ingestCongestion_effect s context minted reasons evidence
  | ingestTopology context evidence minted reasons =>
    exact ingestTopology_effect s context minted reasons evidence
  | installPolicy context policy minted reasons =>
    exact installPolicy_effect s context minted reasons policy
  | resetCounters => exact ⟨rfl, rfl, fun _ => rfl, fun _ => rfl, fun _ => rfl, fun _ => rfl, nofun⟩
  | setConfig config =>
    exact ⟨rfl, rfl, fun _ => rfl, fun _ => rfl, fun h => absurd rfl (h config), fun _ => rfl,
      nofun⟩

end Effects

/-- Every service operation is its trace of authority operations. -/
theorem serviceStep_simulates_authority :
    Simulates serviceStep authorityStep authority authorityTrace := by
  exact fun s op => (serviceStep_effect s op).authority

theorem restore_authority (s : CoordinatorService) (path : Text) (contents : SnapshotContents)
    (now : UInt64) :
    (serviceStep s (.restore path contents now)).authority =
      (s.authority.restoreDurable contents.authority now).2 := by
  exact (serviceStep_effect s (.restore path contents now)).authority

/-- Every service operation is its trace of catalog operations. -/
theorem serviceStep_simulates_catalog :
    Simulates serviceStep catalogStep CoordinatorService.catalog catalogTrace := by
  exact fun s op => (serviceStep_effect s op).catalog

/-- An operation marks a mutation exactly when its answer says that one was applied. -/
theorem serviceStep_durability (s : CoordinatorService) (hop : op.usesFile = false) :
    (serviceStep s op).durability = s.markedIf (s.applies op) := by
  exact (serviceStep_effect s op).durability hop

/-- Only a start and a stop change whether the service runs. -/
theorem serviceStep_running_eq (s : CoordinatorService) (hstart : ∀ draws, op ≠ .start draws)
    (hstop : ∀ now, op ≠ .stop now) : (serviceStep s op).running = s.running := by
  refine (serviceStep_effect s op).running ?_
  cases op with
  | start draws => exact absurd rfl (hstart draws)
  | stop now => exact absurd rfl (hstop now)
  | _ => rfl

/-- The operations on collectives leave the authority, the sessions and the configuration. -/
theorem serviceStep_sameAccess (s : CoordinatorService) (hop : op.onCollective = true) :
    SameAccess s (serviceStep s op) := by
  have heffect := serviceStep_effect s op
  cases op with
  | registerCollective | beginAttempt | cancelCollective | retireCollective | planFlowGroup =>
    exact ⟨heffect.authority, heffect.sessions rfl, heffect.running rfl, heffect.config nofun⟩
  | _ => cases hop

/-- The authority of a reachable service is a reachable authority. -/
theorem ServiceReachable.authority {service : CoordinatorService} (h : ServiceReachable service) :
    Reachable authorityStep {} service.authority := by
  obtain ⟨config, hconfig⟩ := h
  exact serviceStep_simulates_authority.reachable hconfig

end TrafficFabric
