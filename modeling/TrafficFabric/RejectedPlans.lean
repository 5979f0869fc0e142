import TrafficFabric.DurableChanges
import TrafficFabric.GroupIdentity

/-!
# Plans that are turned down

A plan that fails, has to be planned again or is rejected leaves every record of
the catalog as it was, with one exception.  A grant stores its collective as
active and only then asks admission for a bucket; where the table is full and
has none for the group, the decision becomes a rejection and the activation
stays.

The table holds as many buckets as the limit allows and loses none before the
service stops, so a caller reaches the exception by planning that many groups.
-/

namespace TrafficFabric

open Lib AdmissionController

section TurnedDown

variable {s : CoordinatorService} {context : ServiceRequestContext} {request : DecisionRequest}
  {record : CollectiveRecord}

/-- The outcome asks for another plan, states unknown semantics or rejects. -/
def Outcome.turnsDown (outcome : Outcome) : Bool :=
  outcomeIsRejection outcome || outcome == .requiresReplan

/-- The plan fails, or is answered with an outcome that turns it down. -/
def TurnedDown (s : CoordinatorService) (context : ServiceRequestContext)
    (request : DecisionRequest) : Prop :=
  (s.planFlowGroup context request).1.isOk = false ∨
    ∃ decision, (s.planFlowGroup context request).2.1 = some decision ∧
      decision.outcome.turnsDown = true

/-- Every record is found as it was before the plan. -/
def KeepsRecords (s : CoordinatorService) (context : ServiceRequestContext)
    (request : DecisionRequest) : Prop :=
  ∀ id, (s.planFlowGroup context request).2.2.catalog.find id = s.catalog.find id

/-- The group the plan stands for in the recorded collective. -/
def planGroup (record : CollectiveRecord) (request : DecisionRequest) : FlowGroupId :=
  canonicalFlowGroupId { request.plan with collectiveClass := record.definition.collectiveClass }

/-- The table has room, or a bucket of the group the plan stands for. -/
def BucketAvailable (s : CoordinatorService) (request : DecisionRequest) : Prop :=
  ¬ s.admission.Full ∨
    ∃ record, s.catalog.find request.collectiveInstance.id = some record ∧
      s.admission.buckets.find (planGroup record request) ≠ none

/-- What admission is asked for a plan that is granted. -/
def planCall (s : CoordinatorService) (context : ServiceRequestContext)
    (request : DecisionRequest) (record : CollectiveRecord) : AdmissionCall :=
  ⟨evaluatedDecision s context request record, context.nowMonotonicMs⟩

/-- The plan is granted at a rate that a bucket has to enforce. -/
structure AsksForBucket (s : CoordinatorService) (context : ServiceRequestContext)
    (request : DecisionRequest) (record : CollectiveRecord) : Prop where
  grants : s.grants context request record
  draws : (planCall s context request record).Draws (planGroup record request)

theorem planCall_flowGroup (h : s.grants context request record) :
    (planCall s context request record).decision.flowGroup = planGroup record request := by
  have hgroup := evaluate_flowGroup_of_grants h.2.2.2
  rw [(effectiveDefinition_same record).2.2] at hgroup
  exact hgroup

theorem consumeResult_outcome (decision : DecisionRecord) (bytes : UInt64) (status : Status)
    (bucket : TokenBucketState) :
    (consumeResult decision bytes status bucket).outcome ≠ .bucketTableFull := by
  unfold consumeResult
  split_ifs <;> exact fun h => nomatch h

/-- Admission finds the table full for a call that draws and has no bucket yet. -/
theorem answerTo_full_iff {controller : AdmissionController} {call : AdmissionCall} :
    controller.answerTo call = .bucketTableFull ↔
      call.Draws call.decision.flowGroup ∧
        controller.buckets.find call.decision.flowGroup = none ∧ controller.Full := by
  constructor
  · intro hanswer
    unfold answerTo admitDecision at hanswer
    split at hanswer
    · cases hanswer
    rename_i hgrants
    rw [not_or, Bool.not_eq_false, Bool.not_eq_false] at hgrants
    split at hanswer
    · cases hanswer
    rename_i hpaced
    split at hanswer
    · cases hanswer
    rename_i hfinite
    split at hanswer
    · cases hanswer
    rename_i hnonzero
    refine ⟨⟨rfl, hgrants.1, hgrants.2, not_or.mp hpaced, hfinite, hnonzero⟩, ?_⟩
    simp only [draw] at hanswer
    split at hanswer
    · assumption
    · exact absurd hanswer (consumeResult_outcome _ _ _ _)
  · rintro ⟨hdraws, hnone, hfull⟩
    unfold answerTo
    rw [admitDecision_of_draws hdraws, draw]
    simp only
    rw [if_pos ⟨hnone, hfull⟩]
    rfl

/-- Of the answers of admission only a full table turns a grant down. -/
theorem turnsDown_applyAdmission_iff {result : AdmissionResult} {decision : DecisionRecord}
    (h : outcomeGrantsAuthority decision.outcome = true) (now : UInt64)
    (counters : ServiceCounters) :
    (CoordinatorService.applyAdmission result now decision counters).1.outcome.turnsDown = true ↔
      result.outcome = .bucketTableFull := by
  have hstands : decision.outcome.turnsDown = false := by
    revert h
    cases decision.outcome <;> decide
  unfold CoordinatorService.applyAdmission
  cases result.outcome <;> simp [hstands] <;> decide

/-- A grant is stored, and answered as admission has it. -/
theorem planFlowGroup_of_grants (h : s.grants context request record) :
    let result := s.admission.admitDecision (planCall s context request record).decision
      context.nowMonotonicMs
    (s.planFlowGroup context request).1.isOk = true ∧
      (s.planFlowGroup context request).2.1 =
        some (CoordinatorService.applyAdmission result.1 context.nowMonotonicMs
          (planCall s context request record).decision s.counters).1 ∧
      (s.planFlowGroup context request).2.2.admission = result.2 := by
  intro result
  obtain ⟨hcontext, hrequest, hlifecycle, houtcome⟩ := h
  have hgranted : outcomeGrantsAuthority (evaluatedDecision s context request record).outcome =
    true := houtcome
  have hstored : ¬ (s.catalog.setState
      (evaluatedDecision s context request record).collectiveInstance.id .active
      context.nowMonotonicMs).1.isOk = false :=
    ne_false_of_eq_true (setState_active_isOk hlifecycle context.nowMonotonicMs)
  have hreleased : s.settleDecision context request record =
      s.releaseGrant context.nowMonotonicMs (evaluatedDecision s context request record) := by
    rw [settleDecision_eq]
    exact if_pos hgranted
  simp only [CoordinatorService.planFlowGroup, hcontext, hrequest, hlifecycle, Bool.true_eq_false,
    if_false, hreleased, CoordinatorService.releaseGrant, if_neg hstored]
  exact ⟨rfl, rfl, rfl⟩

/-- A granted plan is turned down exactly when the table is full for it. -/
theorem turnedDown_iff_of_grants (h : s.grants context request record) :
    TurnedDown s context request ↔
      AsksForBucket s context request record ∧
        s.admission.buckets.find (planGroup record request) = none ∧ s.admission.Full := by
  obtain ⟨hok, hdecision, -⟩ := planFlowGroup_of_grants h
  have hgranted : outcomeGrantsAuthority (planCall s context request record).decision.outcome =
    true := h.2.2.2
  have hanswer : TurnedDown s context request ↔
      s.admission.answerTo (planCall s context request record) = .bucketTableFull := by
    unfold TurnedDown
    rw [hok, hdecision]
    simp only [Bool.true_eq_false, false_or, Option.some.injEq, exists_eq_left']
    exact turnsDown_applyAdmission_iff hgranted _ _
  rw [hanswer, answerTo_full_iff, planCall_flowGroup h]
  exact and_congr_left fun _ => ⟨fun hdraws => ⟨h, hdraws⟩, fun hasks => hasks.draws⟩

theorem keepsRecords_of_not_grants (h : ∀ record, ¬ s.grants context request record) :
    KeepsRecords s context request := by
  have hcatalog := (serviceStep_effect s (.planFlowGroup context request)).catalog
  rw [catalogTrace, planTrace_of_not_grants h, run_nil] at hcatalog
  intro id
  exact congrArg (fun catalog => catalog.find id) hcatalog

theorem planFlowGroup_stores (h : s.grants context request record) (id : CollectiveId) :
    (s.planFlowGroup context request).2.2.catalog.find id =
      if id = request.collectiveInstance.id then
        some (activatedRecord s context.nowMonotonicMs record)
      else
        s.catalog.find id := by
  have hcatalog := (serviceStep_effect s (.planFlowGroup context request)).catalog
  rw [catalogTrace, planTrace_of_grants h, run_cons, run_nil, catalogStep] at hcatalog
  rw [← find_setState_active h.2.2.1 id]
  exact congrArg (fun catalog => catalog.find id) hcatalog

/-- A plan that asks for a bucket which is not to be had finds the table full. -/
theorem full_of_unavailable (hasks : AsksForBucket s context request record)
    (hunavailable : ¬ BucketAvailable s request) :
    s.admission.answerTo (planCall s context request record) = .bucketTableFull := by
  have hfind := (lifecycleCheck_eq_ok_iff.mp hasks.grants.2.2.1).1
  rw [answerTo_full_iff, planCall_flowGroup hasks.grants]
  refine ⟨hasks.draws, ?_, ?_⟩
  · by_contra hbucket
    exact hunavailable (.inr ⟨record, hfind, hbucket⟩)
  · by_contra hroom
    exact hunavailable (.inl hroom)

/-- What a grant becomes when the table is full for it. -/
theorem applyAdmission_of_full {result : AdmissionResult} (h : result.outcome = .bucketTableFull)
    (now : UInt64) (decision : DecisionRecord) (counters : ServiceCounters) :
    (CoordinatorService.applyAdmission result now decision counters).1.outcome =
        .rejectedCapacity ∧
      (CoordinatorService.applyAdmission result now decision counters).1.code =
        .admissionBucketCapacity := by
  unfold CoordinatorService.applyAdmission
  rw [h]
  exact ⟨rfl, rfl⟩

/-- Without a bucket to be had, the plan is rejected and its collective stored as active. -/
theorem rejected_of_unavailable (hasks : AsksForBucket s context request record)
    (hunavailable : ¬ BucketAvailable s request) :
    (∃ decision, (s.planFlowGroup context request).2.1 = some decision ∧
        decision.outcome = .rejectedCapacity ∧ decision.code = .admissionBucketCapacity) ∧
      (s.planFlowGroup context request).2.2.catalog.find request.collectiveInstance.id =
        some (activatedRecord s context.nowMonotonicMs record) := by
  refine ⟨?_, by rw [planFlowGroup_stores hasks.grants, if_pos rfl]⟩
  obtain ⟨houtcome, hcode⟩ := applyAdmission_of_full (full_of_unavailable hasks hunavailable)
    context.nowMonotonicMs (planCall s context request record).decision s.counters
  exact ⟨_, (planFlowGroup_of_grants hasks.grants).2.1, houtcome, hcode⟩

/-- A plan that finds the table full has no bucket to be had. -/
theorem not_available_of_full (hgrants : s.grants context request record)
    (hnone : s.admission.buckets.find (planGroup record request) = none)
    (hfull : s.admission.Full) : ¬ BucketAvailable s request := by
  rintro (hroom | ⟨found, hfound, hbucket⟩)
  · exact hroom hfull
  · obtain rfl : found = record :=
      Option.some.inj (hfound.symm.trans (lifecycleCheck_eq_ok_iff.mp hgrants.2.2.1).1)
    exact hbucket hnone

/-- The record of a plan that is turned down is kept only if its activation changes nothing. -/
theorem activatedRecord_of_keepsRecords (hasks : AsksForBucket s context request record)
    (hunavailable : ¬ BucketAvailable s request)
    (hkeeps : TurnedDown s context request → KeepsRecords s context request) :
    activatedRecord s context.nowMonotonicMs record = record := by
  obtain ⟨⟨decision, hdecision, hrejected, -⟩, hstored⟩ :=
    rejected_of_unavailable hasks hunavailable
  have hdown : TurnedDown s context request := .inr ⟨decision, hdecision, by rw [hrejected]; rfl⟩
  rw [hkeeps hdown, (lifecycleCheck_eq_ok_iff.mp hasks.grants.2.2.1).1] at hstored
  exact (Option.some.inj hstored).symm

/-- A grant whose activation changes nothing keeps every record. -/
theorem keepsRecords_of_activatedRecord (hgrants : s.grants context request record)
    (hsame : activatedRecord s context.nowMonotonicMs record = record) :
    KeepsRecords s context request := by
  intro id
  rw [planFlowGroup_stores hgrants, hsame]
  split
  · rename_i hid
    rw [hid, (lifecycleCheck_eq_ok_iff.mp hgrants.2.2.1).1]
  · rfl

end TurnedDown

/--
Whatever the service has been through, a plan that is turned down leaves every
record as it was exactly if, where it is granted at a rate that needs a bucket,
the admission table has room or a bucket of its group, or the collective is
stored as it already was.  Otherwise the plan is rejected after its collective
was stored as active.
-/
theorem turned_down_plan_keeps_records_iff (config : ServiceConfig) (ops : List ServiceOp)
    (context : ServiceRequestContext) (request : DecisionRequest) :
    let s := run serviceStep (CoordinatorService.create config) ops
    ((TurnedDown s context request → KeepsRecords s context request) ↔
        ∀ record, AsksForBucket s context request record →
          BucketAvailable s request ∨
            activatedRecord s context.nowMonotonicMs record = record) ∧
      ∀ record, AsksForBucket s context request record → ¬ BucketAvailable s request →
        (s.planFlowGroup context request).2.1.map DecisionRecord.outcome =
            some .rejectedCapacity ∧
          (s.planFlowGroup context request).2.2.catalog.find request.collectiveInstance.id =
            some (activatedRecord s context.nowMonotonicMs record) := by
  intro s
  refine ⟨⟨?_, ?_⟩, ?_⟩
  · intro hkeeps record hasks
    by_cases havailable : BucketAvailable s request
    · exact .inl havailable
    · exact .inr (activatedRecord_of_keepsRecords hasks havailable hkeeps)
  · intro hcondition hdown
    by_cases hgrants : ∃ record, s.grants context request record
    · obtain ⟨record, hgrants⟩ := hgrants
      obtain ⟨hasks, hnone, hfull⟩ := (turnedDown_iff_of_grants hgrants).mp hdown
      have hunavailable := not_available_of_full hgrants hnone hfull
      exact keepsRecords_of_activatedRecord hgrants
        ((hcondition record hasks).resolve_left hunavailable)
    · exact keepsRecords_of_not_grants (not_exists.mp hgrants)
  · intro record hasks hunavailable
    obtain ⟨⟨decision, hplan, houtcome, -⟩, hstored⟩ := rejected_of_unavailable hasks hunavailable
    exact ⟨by rw [hplan, Option.map_some, houtcome], hstored⟩

section Filling

variable {s : CoordinatorService} {context : ServiceRequestContext} {request : DecisionRequest}
  {record : CollectiveRecord}

/-- The first plan for a group adds its bucket, while there is room. -/
theorem planFlowGroup_adds_bucket (hasks : AsksForBucket s context request record)
    (hnew : s.admission.buckets.find (planGroup record request) = none)
    (hroom : s.admission.buckets.size < s.admission.capacity.toNat) :
    let s' := serviceStep s (.planFlowGroup context request)
    s'.admission.capacity = s.admission.capacity ∧
      s'.admission.buckets.size = s.admission.buckets.size + 1 ∧
      ∀ group, group ≠ planGroup record request →
        s'.admission.buckets.find group = s.admission.buckets.find group := by
  intro s'
  have hgroup := planCall_flowGroup hasks.grants
  have hadmission : s'.admission = (s.admission.draw (planCall s context request record).decision
      context.nowMonotonicMs).2 :=
    (planFlowGroup_of_grants hasks.grants).2.2.trans
      (congrArg Prod.snd (admitDecision_of_draws hasks.draws))
  rw [hadmission, draw, hgroup, hnew]
  simp only [Nat.not_le.mpr hroom, and_false, if_false]
  refine ⟨trivial, KeyMap.size_assign_of_none _ _ hnew, ?_⟩
  intro group hne
  exact KeyMap.find_assign_of_ne _ _ hne

/-- A granted evaluation stays granted, at the same rate, for another plan that is valid. -/
theorem evaluate_with_plan {snapshot : EvaluationSnapshot} {definition : CollectiveDefinition}
    {plan : FlowGroupPlan}
    (hgrants : outcomeGrantsAuthority (evaluate snapshot request definition).outcome = true)
    (hvalid : (validateFlowGroupPlan plan definition.participants).isOk = true) :
    let decision := evaluate snapshot request definition
    let other := evaluate snapshot { request with plan := plan } definition
    other.outcome = decision.outcome ∧ other.pacing.mode = decision.pacing.mode ∧
      other.pacing.admittedBandwidthBps = decision.pacing.admittedBandwidthBps ∧
      other.flowGroupConstructed = true := by
  obtain ⟨policy, topology, collectivePolicy, classPolicy, group, hchecks, -, hrecord⟩ :=
    evaluateChecks_eq_ok_iff.mp (evaluateChecks_of_grants hgrants)
  have hother : evaluateChecks snapshot { request with plan := plan } definition =
      .ok (grantRecord snapshot { request with plan := plan } definition
        (canonicalGroup { plan with collectiveClass := definition.collectiveClass }) policy
        collectivePolicy classPolicy) :=
    evaluateChecks_eq_ok_iff.mpr ⟨policy, topology, collectivePolicy, classPolicy, _,
      { hchecks with planValid := hvalid }, constructFlowGroup_eq_ok_iff.mpr ⟨hvalid, rfl⟩, rfl⟩
  intro decision other
  have hsame : other = grantRecord snapshot { request with plan := plan } definition
      (canonicalGroup { plan with collectiveClass := definition.collectiveClass }) policy
      collectivePolicy classPolicy := by
    change evaluate snapshot { request with plan := plan } definition = _
    rw [evaluate, hother]
  rw [hsame, show decision = _ from hrecord]
  exact ⟨rfl, rfl, rfl, rfl⟩

end Filling

namespace TwoMembers

variable {attempt : CollectiveAttemptId}

/-- A plan of best effort traffic for an attempt: one edge of the given volume. -/
def bulkPlan (attempt : CollectiveAttemptId) (bytes : UInt64) : FlowGroupPlan :=
  { collectiveInstance := { TwoMembers.attempt with attempt := attempt }
    edges :=
      [ { source := ⟨1, 0⟩, destination := ⟨2, 0⟩, stepIndex := ⟨1⟩, logicalBytes := bytes } ] }

def bulkRequest (attempt : CollectiveAttemptId) (bytes : UInt64) : DecisionRequest :=
  { collectiveInstance := { TwoMembers.attempt with attempt := attempt }
    hasFlowGroupPlan := true
    plan := bulkPlan attempt bytes
    hasRequestedClass := true
    requestedClass := .bestEffortBulk }

def bulkGroup (attempt : CollectiveAttemptId) (bytes : UInt64) : FlowGroupId :=
  canonicalFlowGroupId { bulkPlan attempt bytes with collectiveClass := .allReduce }

/-- The definition as the catalog holds it. -/
def enrolled : CollectiveDefinition :=
  { definition with registrationSequence := ⟨1⟩ }

/-- The evidence is as it was set up, and the attempt is open. -/
structure Open (attempt : CollectiveAttemptId) (s : CoordinatorService)
    (record : CollectiveRecord) : Prop where
  access : SameAccess service s
  found : s.catalog.find ⟨31, 0⟩ = some record
  definition : record.definition = enrolled
  attempt : record.currentAttempt = attempt
  volume : record.attemptTransferBytes = 0
  live : record.acceptsNewAuthority = true

/-- A first plan of the attempt is granted at the ceiling of its class. -/
structure BulkGranted (attempt : CollectiveAttemptId) : Prop where
  set : attempt.isNone = false
  outcome :
    (evaluate (service.authority.snapshot 10) (bulkRequest attempt 0) enrolled).outcome = .admitted
  mode :
    (evaluate (service.authority.snapshot 10) (bulkRequest attempt 0) enrolled).pacing.mode =
      .tokenBucket
  rate :
    (evaluate (service.authority.snapshot 10) (bulkRequest attempt 0)
      enrolled).pacing.admittedBandwidthBps = 50000000000

theorem validateFlowGroupPlan_bulk (hset : attempt.isNone = false) (bytes : UInt64) :
    (validateFlowGroupPlan (bulkPlan attempt bytes) enrolled.participants).isOk = true := by
  have hattempt : (bulkPlan attempt bytes).collectiveInstance.attempt.isNone = false := hset
  rw [validateFlowGroupPlan, hattempt]
  rfl

theorem validateDecisionRequest_bulk (hset : attempt.isNone = false) (bytes : UInt64) :
    (validateDecisionRequest (bulkRequest attempt bytes)).isOk = true := by
  have hattempt : (bulkRequest attempt bytes).collectiveInstance.attempt.isNone = false := hset
  have hsame : (bulkRequest attempt bytes).plan.collectiveInstance =
      (bulkRequest attempt bytes).collectiveInstance := rfl
  rw [validateDecisionRequest, hattempt, hsame]
  simp only [ne_eq, not_true_eq_false, or_self, and_false, if_false]
  rfl

variable {s : CoordinatorService} {record : CollectiveRecord}

theorem Open.not_terminal (h : Open attempt s record) :
    collectiveStateIsTerminal record.state = false := by
  by_contra hterminal
  rw [Bool.not_eq_false] at hterminal
  have hcloses : record.acceptsNewAuthority = false :=
    collectiveStateAcceptsNewAuthority_of_terminal hterminal
  rw [h.live] at hcloses
  cases hcloses

theorem Open.planGroup_eq (h : Open attempt s record) (bytes : UInt64) :
    planGroup record (bulkRequest attempt bytes) = bulkGroup attempt bytes := by
  rw [planGroup, h.definition]
  rfl

theorem Open.checkPlanContext (h : Open attempt s record) :
    (s.checkPlanContext (context 10)).isOk = true := by
  have hsame : s.checkPlanContext (context 10) = service.checkPlanContext (context 10) := by
    simp only [CoordinatorService.checkPlanContext, h.access.running, h.access.sessions,
      h.access.authority]
  rw [hsame]
  decide +kernel

theorem Open.evaluatedDecision_eq (h : Open attempt s record) (bytes : UInt64) :
    evaluatedDecision s (context 10) (bulkRequest attempt bytes) record =
      { evaluate (service.authority.snapshot 10) (bulkRequest attempt bytes) enrolled with
        collectiveInstance := { TwoMembers.attempt with attempt := attempt } } := by
  have hdefinition : CoordinatorService.effectiveDefinition record = enrolled := by
    rw [CoordinatorService.effectiveDefinition, h.volume, h.definition]
    rfl
  rw [evaluatedDecision, h.access.authority, hdefinition]
  rfl

/-- Every plan of the attempt is granted as its first one, whatever its volume. -/
theorem BulkGranted.evaluate (h : BulkGranted attempt) (bytes : UInt64) :
    let decision :=
      TrafficFabric.evaluate (service.authority.snapshot 10) (bulkRequest attempt bytes) enrolled
    decision.outcome = .admitted ∧ decision.pacing.mode = .tokenBucket ∧
      decision.pacing.admittedBandwidthBps = 50000000000 ∧
      decision.flowGroupConstructed = true := by
  obtain ⟨houtcome, hmode, hrate, hconstructed⟩ :=
    @evaluate_with_plan (bulkRequest attempt 0) _ _ (bulkPlan attempt bytes)
      (by rw [h.outcome]; rfl) (validateFlowGroupPlan_bulk h.set bytes)
  exact ⟨houtcome.trans h.outcome, hmode.trans h.mode, hrate.trans h.rate, hconstructed⟩

theorem Open.asks (h : Open attempt s record) (hbase : BulkGranted attempt) (bytes : UInt64) :
    AsksForBucket s (context 10) (bulkRequest attempt bytes) record := by
  obtain ⟨houtcome, hmode, hrate, hconstructed⟩ := hbase.evaluate bytes
  have hdecision := h.evaluatedDecision_eq bytes
  have hgranted : outcomeGrantsAuthority
      (evaluatedDecision s (context 10) (bulkRequest attempt bytes) record).outcome = true := by
    rw [hdecision]
    exact congrArg outcomeGrantsAuthority houtcome
  have hlifecycle : s.lifecycleCheck (context 10) (bulkRequest attempt bytes) = .ok record :=
    lifecycleCheck_eq_ok_iff.mpr ⟨h.found, by rw [h.definition]; rfl,
      by rw [h.attempt]; exact hbase.set, h.attempt, h.not_terminal⟩
  have hgrants : s.grants (context 10) (bulkRequest attempt bytes) record :=
    ⟨h.checkPlanContext, validateDecisionRequest_bulk hbase.set bytes, hlifecycle, hgranted⟩
  have hpaced : (evaluatedDecision s (context 10) (bulkRequest attempt bytes) record).pacing.mode =
      .tokenBucket := by
    rw [hdecision]
    exact hmode
  have hpace : (planCall s (context 10) (bulkRequest attempt bytes) record).rate =
      50000000000 := by
    rw [AdmissionCall.rate, planCall, hdecision]
    exact hrate
  refine ⟨hgrants, planCall_flowGroup hgrants, hgranted, ?_, ?_, ?_, ?_⟩
  · rw [planCall, hdecision]
    exact hconstructed
  · rw [planCall, hpaced]
    decide
  · rw [hpace]
    decide
  · rw [hpace]
    decide

/-- A plan leaves the attempt open. -/
theorem Open.planned (h : Open attempt s record) (hbase : BulkGranted attempt) (bytes : UInt64) :
    Open attempt (serviceStep s (.planFlowGroup (context 10) (bulkRequest attempt bytes)))
      (activatedRecord s 10 record) := by
  refine ⟨h.access.trans (serviceStep_sameAccess s rfl), ?_, h.definition, h.attempt, h.volume, rfl⟩
  exact (planFlowGroup_stores (h.asks hbase bytes).grants ⟨31, 0⟩).trans (if_pos rfl)

/-- Every plan of a new group adds its bucket, while there is room. -/
theorem plans_add (hbase : BulkGranted attempt) (capacity : UInt32) :
    AddsEntries serviceStep
      (fun bytes => .planFlowGroup (context 10) (bulkRequest attempt bytes)) (bulkGroup attempt)
      (fun s => s.admission.buckets.size)
      (fun s group => s.admission.buckets.find group = none) capacity.toNat (fun _ => True)
      (fun s => (∃ record, Open attempt s record) ∧ s.admission.capacity = capacity) := by
  rintro s bytes - ⟨⟨record, hopen⟩, rfl⟩ hnew hroom
  obtain ⟨hcapacity, hsize, hothers⟩ := planFlowGroup_adds_bucket (hopen.asks hbase bytes)
    (by rwa [hopen.planGroup_eq]) hroom
  rw [hopen.planGroup_eq] at hothers
  refine ⟨⟨⟨_, hopen.planned hbase bytes⟩, hcapacity⟩, hsize, ?_⟩
  intro group hgroup hfree
  exact (hothers group hgroup).trans hfree

/-- The record once a second attempt is open. -/
def reopenedRecord (s : CoordinatorService) (record : CollectiveRecord) : CollectiveRecord :=
  { record with
    currentAttempt := ⟨34, 0⟩
    attemptSequence := record.attemptSequence.next
    state := .planning
    attemptTransferBytes := 0
    lastMutatedMonotonicMs := 10
    lastMutationSequence := s.catalog.mutationSequence.next }

/-- A second attempt takes the place of the first one and goes back to planning. -/
theorem Open.reopened (h : Open ⟨33, 0⟩ s record) :
    let s' := serviceStep s (.beginAttempt (context 10) ⟨31, 0⟩ ⟨32, 0⟩ ⟨34, 0⟩ 0)
    s'.admission = s.admission ∧ Open ⟨34, 0⟩ s' (reopenedRecord s record) := by
  intro s'
  have hrunning : s.running = true := h.access.running.trans (by decide +kernel)
  have hgeneration : record.definition.generation = ⟨32, 0⟩ := by
    rw [h.definition]
    rfl
  let begun : CollectiveRecord :=
    { record with
      currentAttempt := ⟨34, 0⟩
      attemptSequence := record.attemptSequence.next
      state := .planning }
  have hbegun : s.catalog.beginAttempt ⟨31, 0⟩ ⟨34, 0⟩ 10 =
      (Status.ok, ⟨33, 0⟩, s.catalog.mutate ⟨31, 0⟩ begun 10) := by
    simp only [CollectiveCatalog.beginAttempt, h.found, h.live, h.attempt, Bool.true_eq_false,
      if_false]
    rfl
  have hstep : s' = (s.openAttempt ⟨31, 0⟩ ⟨34, 0⟩ 0 10).2.2 := by
    simp only [s', serviceStep, CoordinatorService.beginAttempt, hrunning, h.found, hgeneration,
      h.not_terminal, Bool.true_eq_false, Bool.false_eq_true, ne_eq, not_true_eq_false, if_false]
    rfl
  simp only [CoordinatorService.openAttempt, hbegun] at hstep
  rw [if_neg (by decide)] at hstep
  have hmutated : (s.catalog.mutate ⟨31, 0⟩ begun 10).find ⟨31, 0⟩ = some _ :=
    KeyMap.find_assign_self _ _ _
  refine ⟨by rw [hstep]; rfl, h.access.trans (serviceStep_sameAccess s rfl), ?_,
    h.definition, rfl, rfl, rfl⟩
  rw [hstep]
  simp only [CoordinatorService.markDurableMutation, CollectiveCatalog.setAttemptTransferBytes,
    hmutated]
  exact KeyMap.find_assign_self _ _ _

section Digests

/-- One step of the digest, on numbers. -/
def mixNumber (state value : Nat) : Nat :=
  let added := (value + 0x9E3779B97F4A7C15 + state <<< 6 + state >>> 2) % 2 ^ 64
  let mixed := ((state ^^^ added) * 0xFF51AFD7ED558CCD) % 2 ^ 64
  mixed ^^^ (mixed >>> 33)

theorem toNat_mix (state value : UInt64) :
    (mix state value).toNat = mixNumber state.toNat value.toNat := by
  simp [mix, mixNumber]

/-- The digest of a plan up to the volume of its edge. -/
def bulkFront (attempt : CollectiveAttemptId) : UInt64 :=
  let plan := bulkPlan attempt 0
  let state := mix (attemptDigest plan) 0
  let state := mix state CollectiveClass.allReduce.raw.toUInt64
  let state := mix state plan.pattern.raw.toUInt64
  let state := mix state plan.direction.raw.toUInt64
  let state := mix (mix (mix state 0) 1) 1
  mixIdentity (mixIdentity state ⟨1, 0⟩) ⟨2, 0⟩

theorem digest_bulk (attempt : CollectiveAttemptId) (bytes : UInt64) :
    flowGroupContentDigest { bulkPlan attempt bytes with collectiveClass := .allReduce } =
      mix (mix (mix (bulkFront attempt) bytes) 0) 0 := by
  rfl

/-- The digest of a plan of the first attempt, by its volume. -/
def volumeDigest (bytes : Nat) : Nat :=
  mixNumber (mixNumber (mixNumber 951832596179199599 bytes) 0) 0

theorem toNat_digest_first (bytes : UInt64) :
    (bulkGroup ⟨33, 0⟩ bytes).hi.toNat = volumeDigest bytes.toNat := by
  have hfront : (bulkFront ⟨33, 0⟩).toNat = 951832596179199599 := by
    decide +kernel
  rw [bulkGroup, canonicalFlowGroupId_eq, digest_bulk, toNat_mix, toNat_mix, toNat_mix, hfront]
  rfl

/-- The digest of an empty plan of the second attempt, and those of the table. -/
def digests : List Nat :=
  16707698534500219718 :: (List.range Limits.tokenBucketsMax).map volumeDigest

theorem digests_nodup : digests.Nodup := by
  have hapart : marksApart 1010464 digests 0 = true := by
    decide +kernel
  exact (nodup_of_marksApart hapart).1

/-- As many volumes as there are buckets. -/
def volumes : List UInt64 :=
  (List.range Limits.tokenBucketsMax).map Nat.toUInt64

theorem groups_nodup : (bulkGroup ⟨34, 0⟩ 0 :: volumes.map (bulkGroup ⟨33, 0⟩)).Nodup := by
  have hsecond : (bulkGroup ⟨34, 0⟩ 0).hi.toNat = 16707698534500219718 := by
    decide +kernel
  have hfirst : (volumes.map (bulkGroup ⟨33, 0⟩)).map (fun group => group.hi.toNat) =
      (List.range Limits.tokenBucketsMax).map volumeDigest := by
    rw [volumes, List.map_map, List.map_map]
    refine List.map_congr_left fun number hnumber => ?_
    rw [List.mem_range, Limits.tokenBucketsMax] at hnumber
    have hword : number.toUInt64.toNat = number := Nat.mod_eq_of_lt (by omega)
    rw [Function.comp_apply, Function.comp_apply, toNat_digest_first, hword]
  refine List.Nodup.of_map (fun group => group.hi.toNat) ?_
  rw [List.map_cons, hsecond, hfirst]
  exact digests_nodup

end Digests

/-- Fills the table with plans of the first attempt and opens the second one. -/
def crowdedPlans : List ServiceOp :=
  setup ++ (volumes.map fun bytes => .planFlowGroup (context 10) (bulkRequest ⟨33, 0⟩ bytes)) ++
    [.beginAttempt (context 10) ⟨31, 0⟩ ⟨32, 0⟩ ⟨34, 0⟩ 0]

theorem bulkGranted_first : BulkGranted ⟨33, 0⟩ := by
  constructor <;> decide +kernel

theorem bulkGranted_second : BulkGranted ⟨34, 0⟩ := by
  constructor <;> decide +kernel

theorem service_open : ∃ record, Open ⟨33, 0⟩ service record := by
  have hrecord : (service.catalog.find ⟨31, 0⟩).map (fun record =>
      (record.definition, record.currentAttempt, record.attemptTransferBytes,
        record.acceptsNewAuthority)) = some (enrolled, ⟨33, 0⟩, 0, true) := by
    decide +kernel
  obtain ⟨record, hfound, hfields⟩ := Option.map_eq_some_iff.mp hrecord
  simp only [Prod.mk.injEq] at hfields
  exact ⟨record, .refl service, hfound, hfields.1, hfields.2.1, hfields.2.2.1, hfields.2.2.2⟩

/-- The plans of the first attempt fill the table with their groups and leave it open. -/
theorem table_filled :
    let s := run serviceStep service
      (volumes.map fun bytes => .planFlowGroup (context 10) (bulkRequest ⟨33, 0⟩ bytes))
    (∃ record, Open ⟨33, 0⟩ s record) ∧ s.admission.Full ∧
      ∀ group, group ∉ volumes.map (bulkGroup ⟨33, 0⟩) → s.admission.buckets.find group = none := by
  have hdistinct := (List.nodup_cons.mp groups_nodup).2
  have hempty : service.admission = {} := rfl
  have hlength : volumes.length = Limits.tokenBucketsMax := by
    rw [volumes, List.length_map, List.length_range]
  have hfree : ∀ group, service.admission.buckets.find group = none := by
    intro group
    rw [hempty]
    exact KeyMap.find_empty _
  obtain ⟨⟨hopen, hcapacity⟩, hsize, hothers⟩ :=
    (plans_add bulkGranted_first service.admission.capacity).run ⟨service_open, rfl⟩
      (fun _ _ => trivial) hdistinct (fun bytes _ => hfree _) (by
        simp only [hempty, hlength]
        decide)
  refine ⟨hopen, ?_, fun group hgroup => hothers group hgroup (hfree group)⟩
  rw [AdmissionController.Full, hcapacity, hsize, hempty, hlength]
  decide

/-- The table is full and has no bucket for the second attempt, which is in planning. -/
theorem crowdedPlans_unavailable :
    let s := run serviceStep (.create {}) crowdedPlans
    ¬ BucketAvailable s (bulkRequest ⟨34, 0⟩ 0) ∧
      ∃ record, Open ⟨34, 0⟩ s record ∧ record.state = .planning := by
  obtain ⟨⟨last, hlast⟩, hfull, hothers⟩ := table_filled
  intro s
  have hrun : s = serviceStep (run serviceStep service
      (volumes.map fun bytes => .planFlowGroup (context 10) (bulkRequest ⟨33, 0⟩ bytes)))
      (.beginAttempt (context 10) ⟨31, 0⟩ ⟨32, 0⟩ ⟨34, 0⟩ 0) := by
    simp only [s, crowdedPlans, run_append, run_cons, run_nil]
    rfl
  -- The run is a variable from here on, so that nothing evaluates it.
  generalize run serviceStep service
    (volumes.map fun bytes => .planFlowGroup (context 10) (bulkRequest ⟨33, 0⟩ bytes)) = filled
    at hrun hlast hfull hothers
  obtain ⟨hadmission, hsecond⟩ := hlast.reopened
  rw [← hrun] at hadmission hsecond
  refine ⟨?_, reopenedRecord filled last, hsecond, rfl⟩
  rintro (hroom | ⟨found, hfound, hbucket⟩)
  · rw [hadmission] at hroom
    exact hroom hfull
  · obtain rfl : found = reopenedRecord filled last :=
      Option.some.inj (hfound.symm.trans hsecond.found)
    apply hbucket
    rw [hsecond.planGroup_eq, hadmission]
    exact hothers _ (List.nodup_cons.mp groups_nodup).1

end TwoMembers

open TwoMembers in
/-- After a full table, a plan of a new attempt is rejected, and the attempt is active. -/
theorem rejected_plan_activates :
    let s := run serviceStep (CoordinatorService.create {}) crowdedPlans
    ServiceReachable s ∧ TurnedDown s (context 10) (bulkRequest ⟨34, 0⟩ 0) ∧
      (s.catalog.find ⟨31, 0⟩).map CollectiveRecord.state = some .planning ∧
      ((s.planFlowGroup (context 10) (bulkRequest ⟨34, 0⟩ 0)).2.2.catalog.find ⟨31, 0⟩).map
        CollectiveRecord.state = some .active ∧
      ¬ KeepsRecords s (context 10) (bulkRequest ⟨34, 0⟩ 0) := by
  have hcrowded := crowdedPlans_unavailable
  have hreach : ServiceReachable (run serviceStep (.create {}) crowdedPlans) :=
    ⟨{}, crowdedPlans, rfl⟩
  generalize run serviceStep (.create {}) crowdedPlans = s at hcrowded hreach ⊢
  obtain ⟨hunavailable, record, hopen, hplanning⟩ := hcrowded
  obtain ⟨⟨decision, hdecision, hrejected, -⟩, hstored⟩ :=
    rejected_of_unavailable (hopen.asks bulkGranted_second 0) hunavailable
  have hbefore : (s.catalog.find ⟨31, 0⟩).map CollectiveRecord.state = some .planning := by
    rw [hopen.found, Option.map_some, hplanning]
  have hafter : ((s.planFlowGroup (context 10) (bulkRequest ⟨34, 0⟩ 0)).2.2.catalog.find
      ⟨31, 0⟩).map CollectiveRecord.state = some .active :=
    congrArg (Option.map CollectiveRecord.state) hstored
  refine ⟨hreach, .inr ⟨decision, hdecision, by rw [hrejected]; rfl⟩, hbefore, hafter, ?_⟩
  intro hkeeps
  rw [hkeeps ⟨31, 0⟩, hbefore] at hafter
  cases hafter

end TrafficFabric
