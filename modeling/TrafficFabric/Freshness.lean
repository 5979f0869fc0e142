import TrafficFabric.GrantSoundness
import TrafficFabric.Lapse
import TrafficFabric.Observations

/-!
# How long a congestion observation is trusted

The age of an observation is counted from the capture time that its sender
states, and it is zero while that time lies ahead of the clock.  An observation
captured no later than it was ingested is therefore trusted for its window from
the ingestion on; one that claims a later capture is trusted for longer.
-/

namespace TrafficFabric

open Lib

variable {congestion : CongestionEvidence}

/-- At the given time an ingestion succeeds and leaves this observation installed. -/
def IngestedAt (congestion : CongestionEvidence) (time : UInt64) (s : CoordinatorService)
    (op : ServiceOp) : Prop :=
  IngestsCongestion congestion s op ∧ op.time = some time

/-- A congestion observation the operation brings was captured no later than the operation. -/
def CapturedInTime : ServiceOp → Prop
  | .ingestCongestion context evidence _ _ => evidence.capturedMonotonicMs ≤ context.nowMonotonicMs
  | _ => True

instance (op : ServiceOp) : Decidable (CapturedInTime op) := by
  unfold CapturedInTime
  split <;> infer_instance

/-- The age of what was captured by then bounds the time that has passed since. -/
theorem time_le_of_evidenceAge_le {now captured ingested window : UInt64}
    (hcaptured : captured ≤ ingested) (hage : evidenceAge now captured ≤ window) :
    now.toNat ≤ ingested.toNat + window.toNat := by
  rw [UInt64.le_iff_toNat_le] at hcaptured hage
  unfold evidenceAge at hage
  split at hage
  · rename_i hpassed
    rw [UInt64.toNat_sub_of_le _ _ hpassed] at hage
    omega
  · rename_i hahead
    rw [UInt64.not_le, UInt64.lt_iff_toNat_lt] at hahead
    omega

/-- An ingestion happens at the time its request carries. -/
theorem ingestedAt_of_ingests {s : CoordinatorService} {op : ServiceOp}
    (h : IngestsCongestion congestion s op) : ∃ time, IngestedAt congestion time s op := by
  cases op with
  | ingestCongestion context => exact ⟨context.nowMonotonicMs, h, rfl⟩
  | _ => exact absurd h id

/-- What is ingested in time carries a capture time no later than the ingestion. -/
theorem IngestedAt.captured_le {time : UInt64} {s : CoordinatorService} {op : ServiceOp}
    (h : IngestedAt congestion time s op) (hop : CapturedInTime op) :
    congestion.capturedMonotonicMs ≤ time := by
  cases op with
  | ingestCongestion context =>
    obtain ⟨⟨_, hcongestion⟩, htime⟩ := h
    have hnow : context.nowMonotonicMs = time := Option.some.inj htime
    rw [hcongestion, ← hnow]
    exact hop
  | _ => exact absurd h.1 id

/-- The installed observation was ingested at some point of the run. -/
theorem run_congestion_ingested (config : ServiceConfig) (ops : List ServiceOp) :
    ∀ congestion,
      (run serviceStep (.create config) ops).authority.congestion =
        some congestion →
      ∃ time, Occurs serviceStep (IngestedAt congestion time)
        (CoordinatorService.create config) ops := by
  let init := CoordinatorService.create config
  let Inv (ops : List ServiceOp) (s : CoordinatorService) : Prop :=
    ∀ congestion, s.authority.congestion = some congestion →
      ∃ time, Occurs serviceStep (IngestedAt congestion time) init ops
  have hinit : Inv [] init := by
    intro congestion hinstalled
    cases hinstalled
  have hstep : ∀ past op, Inv past (run serviceStep init past) →
      Inv (past ++ [op]) (serviceStep (run serviceStep init past) op) := by
    intro past op hinv congestion hinstalled
    cases serviceStep_congestionChange (run serviceStep init past) op with
    | kept _ kept =>
      obtain ⟨time, hoccurs⟩ := hinv congestion (kept.symm.trans hinstalled)
      exact ⟨time, hoccurs.append [op]⟩
    | dropped dropped => exact absurd (dropped.symm.trans hinstalled) (by simp)
    | ingested other ingests installed =>
      cases installed.symm.trans hinstalled
      obtain ⟨time, hingested⟩ := ingestedAt_of_ingests ingests
      exact ⟨time, occurs_last hingested⟩
  exact run_history hstep hinit ops

/--
Evidence is trusted only for its window.  When every congestion observation of a
run is captured no later than it is ingested, a grant of a class that requires
fresh evidence comes no later than the window after the ingestion of the
observation that is installed.
-/
theorem granted_within_evidence_window {config : ServiceConfig} {ops : List ServiceOp}
    {context : ServiceRequestContext} {request : DecisionRequest} {decision : DecisionRecord}
    (hcaptured : ∀ op ∈ ops, CapturedInTime op)
    (hplan : ((run serviceStep (CoordinatorService.create config) ops).planFlowGroup context
      request).2.1 = some decision)
    (hgrants : decision.outcome = .admitted ∨ decision.outcome = .isolatedClass) :
    ∃ record policy collectivePolicy classPolicy,
      (run serviceStep (CoordinatorService.create config) ops).catalog.find
        request.collectiveInstance.id = some record ∧
      (run serviceStep (CoordinatorService.create config) ops).authority.policy = some policy ∧
      policy.findCollective record.definition.collectiveClass = some collectivePolicy ∧
      policy.findClass decision.trafficClass = some classPolicy ∧
      (classPolicy.requiresEvidenceFreshness = true →
        ∃ congestion ingested,
          (run serviceStep (CoordinatorService.create config) ops).authority.congestion =
            some congestion ∧
          Occurs serviceStep (IngestedAt congestion ingested)
            (CoordinatorService.create config) ops ∧
          context.nowMonotonicMs.toNat ≤ ingested.toNat +
            (min congestion.validForMs collectivePolicy.freshnessRequirementMs).toNat) := by
  obtain ⟨record, _, policy, _, collectivePolicy, classPolicy, _, hlifecycle, hchecks, _,
    hclass, _⟩ := planFlowGroup_grantChecks hplan hgrants
  refine ⟨record, policy, collectivePolicy, classPolicy,
    (lifecycleCheck_eq_ok_iff.mp hlifecycle).1, hchecks.policyInstalled,
    (effectiveDefinition_same record).2.2 ▸ hchecks.collective,
    hclass ▸ hchecks.trafficClass, ?_⟩
  intro hrequired
  obtain ⟨congestion, hinstalled, hage⟩ :=
    congestionFresh_of_checks (hchecks.congestionInstalled hrequired)
      (hchecks.congestionFresh hrequired)
  obtain ⟨ingested, before, op, after, hsplit, hingested⟩ :=
    run_congestion_ingested config ops congestion hinstalled
  have hop : CapturedInTime op := hcaptured op (by simp [hsplit])
  exact ⟨congestion, ingested, hinstalled, ⟨before, op, after, hsplit, hingested⟩,
    time_le_of_evidenceAge_le (hingested.captured_le hop) hage⟩

namespace TwoMembers

/-- Replaces the capture time of a congestion observation. -/
def stampedAt (captured : UInt64) : ServiceOp → ServiceOp
  | .ingestCongestion context evidence minted reasons =>
    .ingestCongestion context { evidence with capturedMonotonicMs := captured } minted reasons
  | op => op

/-- The setup with an observation, ingested at time 2, that claims to be captured at 5000. -/
def stampedSetup : List ServiceOp :=
  setup.map (stampedAt 5000)

def stampedService : CoordinatorService :=
  run serviceStep (.create {}) stampedSetup

/-- The only ingestion of the run happens at time 2. -/
theorem stampedSetup_ingests {congestion : CongestionEvidence} {ingested : UInt64}
    (h : Occurs serviceStep (IngestedAt congestion ingested)
      (CoordinatorService.create {}) stampedSetup) : ingested = 2 := by
  obtain ⟨before, op, after, hsplit, hingests, htime⟩ := h
  have hmem : op ∈ stampedSetup := by simp [hsplit]
  cases op with
  | ingestCongestion =>
    simp [stampedSetup, stampedAt, setup, boot] at hmem
    obtain ⟨rfl, _⟩ := hmem
    exact (Option.some.inj htime).symm
  | _ => exact absurd hingests id

end TwoMembers

open TwoMembers in
/-- With its window of 2000 past since 2002, the observation still carries a grant at 2900. -/
theorem granted_past_evidence_window :
    Along timedStep OnTime ⟨0, CoordinatorService.create {}⟩
      (stampedSetup ++ [.planFlowGroup (context 2900) request]) ∧
    ∃ decision record policy collectivePolicy classPolicy congestion,
      (stampedService.planFlowGroup (context 2900) request).2.1 = some decision ∧
      decision.outcome = .admitted ∧
      stampedService.catalog.find request.collectiveInstance.id = some record ∧
      stampedService.authority.policy = some policy ∧
      policy.findCollective record.definition.collectiveClass = some collectivePolicy ∧
      policy.findClass decision.trafficClass = some classPolicy ∧
      classPolicy.requiresEvidenceFreshness = true ∧
      stampedService.authority.congestion = some congestion ∧
      ∀ ingested,
        Occurs serviceStep (IngestedAt congestion ingested) (CoordinatorService.create {})
          stampedSetup →
        ingested.toNat +
          (min congestion.validForMs collectivePolicy.freshnessRequirementMs).toNat <
            (context 2900).nowMonotonicMs.toNat := by
  obtain ⟨decision, hplan, houtcome, hclass⟩ :
      ∃ decision, (stampedService.planFlowGroup (context 2900) request).2.1 = some decision ∧
        decision.outcome = .admitted ∧ decision.trafficClass = .bulkData := by
    have hmap : (stampedService.planFlowGroup (context 2900) request).2.1.map
        (fun decision => (decision.outcome, decision.trafficClass)) =
          some (.admitted, .bulkData) := by
      decide
    simpa using hmap
  obtain ⟨record, hrecord, hcollective⟩ :
      ∃ record, stampedService.catalog.find request.collectiveInstance.id = some record ∧
        record.definition.collectiveClass = .allReduce := by
    have hmap : (stampedService.catalog.find request.collectiveInstance.id).map
        (fun record => record.definition.collectiveClass) = some .allReduce := by
      decide
    simpa using hmap
  refine ⟨by decide, decision, record, TrafficPolicy.standard ⟨5, 0⟩,
    TrafficPolicy.standardCollective .allReduce .bulkData true true 2000,
    TrafficPolicy.standardClass .bulkData 8 1000000000 unlimitedRate false true .shared,
    { generation := ⟨7, 0⟩, topologyGeneration := ⟨6, 0⟩, capturedMonotonicMs := 5000,
      validForMs := 2000 },
    hplan, houtcome, hrecord, by decide, ?_, ?_, rfl, by decide, ?_⟩
  · rw [hcollective]
    decide
  · rw [hclass]
    decide
  · intro ingested hoccurs
    rw [stampedSetup_ingests hoccurs]
    decide

open TwoMembers in
/-- The two members are admitted at time 10, within the window of an observation captured at 2. -/
theorem granted_within_evidence_window_of_two_members :
    ∃ decision, (service.planFlowGroup (context 10) request).2.1 = some decision ∧
      decision.outcome = .admitted ∧
      ∃ record policy collectivePolicy classPolicy,
        service.catalog.find request.collectiveInstance.id = some record ∧
        service.authority.policy = some policy ∧
        policy.findCollective record.definition.collectiveClass = some collectivePolicy ∧
        policy.findClass decision.trafficClass = some classPolicy ∧
        (classPolicy.requiresEvidenceFreshness = true →
          ∃ congestion ingested,
            service.authority.congestion = some congestion ∧
            Occurs serviceStep (IngestedAt congestion ingested)
              (CoordinatorService.create {}) setup ∧
            (context 10).nowMonotonicMs.toNat ≤ ingested.toNat +
              (min congestion.validForMs collectivePolicy.freshnessRequirementMs).toNat) := by
  obtain ⟨decision, hplan, hadmitted⟩ := service_admits
  exact ⟨decision, hplan, hadmitted,
    granted_within_evidence_window (by decide) hplan (.inl hadmitted)⟩

end TrafficFabric
