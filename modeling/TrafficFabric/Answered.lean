import TrafficFabric.DecisionSize
import TrafficFabric.EdgeKeys
import TrafficFabric.PayloadRoundTrip

/-!
# Answered requests

A frame of an established session is answered by one frame, unless the answer is
larger than a frame may be.  Two kinds of request can ask for such an answer: a
plan, whose decision repeats every edge and adds the participants twice, and the
explanation of a decision that is already retained.  The request itself is
within the bound then, and so is the decision in the history; only the answer is
not, and nothing is sent in its place.
-/

namespace TrafficFabric

open Lib CoordinatorHandler CoordinatorService ReasonChain

section Requests

variable (service : CoordinatorService) (context : ServiceRequestContext)
variable {payload : ExplainRequestPayload}

/-- The retained decision that an explanation is asked for. -/
def explainedRecord (payload : ExplainRequestPayload) : Except HistoryStatus DecisionRecord :=
  if payload.hasCorrelation then service.history.findCorrelation payload.correlation
  else service.history.findAttempt payload.id payload.attempt

/-- The size of a retained decision with its explanation; nothing where an error is sent. -/
def explainedBytes (payload : ExplainRequestPayload) : Nat :=
  match explainedRecord service payload with
  | .error _ => 0
  | .ok record =>
    if record.reasons.length ≤ Limits.reasonChainMax then
      5 + record.bytes + (CoordinatorService.explanationOf record).length
    else
      0

/-- The answer to the request is within the bound on a frame. -/
def AnswerFits : Request → Prop
  | .planFlowGroup request =>
    PlanDecided service context request →
      decisionBytes service context request + (planReasons service context request).bytes ≤
        Limits.framePayloadMaxBytes
  | .explain payload => explainedBytes service payload ≤ Limits.framePayloadMaxBytes
  | _ => True

theorem explainResponse_of_ok {record : DecisionRecord}
    (h : explainedRecord service payload = .ok record) :
    explainResponse service payload =
      { found := true
        decision := record
        explanation := explanationOf record } := by
  unfold explainedRecord at h
  unfold explainResponse explain explainCorrelation
  split at h
  · rename_i hcorrelation
    simp only [hcorrelation, if_true, h]
    rfl
  · rename_i hattempt
    simp only [hattempt, if_false, h, Bool.false_eq_true]
    rfl

/-- Without a decision the answer is an empty record and a short text. -/
theorem explainResponse_of_error {status : HistoryStatus}
    (h : explainedRecord service payload = .error status) :
    (explainResponse service payload).decision = {} ∧
      (explainResponse service payload).explanation.length ≤ 256 := by
  unfold explainedRecord at h
  unfold explainResponse
  split at h
  · rename_i hcorrelation
    have hnone : (service.explainCorrelation payload.correlation).1 = none := by
      rw [explainCorrelation, h]
    simp only [hcorrelation, if_true, hnone]
    exact ⟨rfl, length_explainCorrelation_of_none hnone⟩
  · rename_i hattempt
    have hnone : (service.explain payload.id payload.attempt).1 = none := by
      rw [explain, h]
    simp only [hattempt, if_false, Bool.false_eq_true, hnone]
    exact ⟨rfl, length_explain_of_none hnone⟩

theorem overlongBytes_le : overlongBytes ≤ Limits.framePayloadMaxBytes := by
  exact errorBytes_le
    (Status.brief_error .validationReasonChainTooLong (by decide)) (reasonsFrom_brief _ _)

/-- An explanation is sent exactly when the record and its text are within the bound. -/
theorem explain_fits_iff (payload : ExplainRequestPayload) :
    (Answer.typed (.explainResponse (explainResponse service payload))).bytes ≤
        Limits.framePayloadMaxBytes ↔
      explainedBytes service payload ≤ Limits.framePayloadMaxBytes := by
  unfold explainedBytes
  cases hrecord : explainedRecord service payload with
  | error status =>
    obtain ⟨hdecision, htext⟩ := explainResponse_of_error service hrecord
    refine iff_of_true ?_ (Nat.zero_le _)
    refine typed_fits ?_ ?_
    · rw [ResponsePayload.reasons, hdecision]
      exact brief_nil
    · rw [ResponsePayload.bytes, ResponsePayload.reasons, hdecision]
      simp only [DecisionRecord.bytes, FlowGroup.bytes, List.length_nil]
      omega
  | ok record =>
    have hreasons : (ResponsePayload.explainResponse (explainResponse service payload)).reasons =
        record.reasons := by
      rw [explainResponse_of_ok service hrecord]
      rfl
    have hbytes : (ResponsePayload.explainResponse (explainResponse service payload)).bytes =
        5 + record.bytes + (explanationOf record).length := by
      rw [explainResponse_of_ok service hrecord]
      rfl
    simp only
    split
    · rename_i hbounded
      rw [Answer.bytes_typed_of_bounded _ (hreasons ▸ hbounded), hbytes]
    · rename_i hlong
      rw [Answer.bytes_typed_of_unbounded _ (hreasons ▸ hlong)]
      exact iff_of_true overlongBytes_le (Nat.zero_le _)

/-- The answer to a plan, where it is decided on. -/
theorem plan_answer_of_decided {request : DecisionRequest} (render : Renderer)
    (between : List ServiceOp) (minted : Minted) (h : PlanDecided service context request) :
    (requestAnswer render service between context minted (.planFlowGroup request)).bytes =
      decisionBytes service context request + (planReasons service context request).bytes := by
  obtain ⟨decision, hok, hdecision, hreasons, hexplains, hbytes⟩ :=
    planFlowGroup_bytes service context h
  simp only [requestAnswer, hok, if_true, hdecision, Option.getD_some]
  rw [Answer.bytes_typed_of_bounded (.flowGroupDecision decision) hexplains.bounded, ← hreasons]
  exact hbytes

/-- A decision gives a reason, which takes the fixed part of one at least. -/
theorem le_bytes_planReasons {request : DecisionRequest} (h : PlanDecided service context request) :
    24 ≤ (planReasons service context request).bytes := by
  obtain ⟨decision, -, -, hreasons, hexplains, -⟩ := planFlowGroup_bytes service context h
  rw [hreasons] at hexplains
  obtain ⟨reason, rest, hchain⟩ := List.exists_cons_of_ne_nil hexplains.given
  rw [hchain]
  simp only [ReasonChain.bytes, List.map_cons, List.sum_cons, Reason.bytes]
  omega

theorem evidenceAck_brief (minted : Minted) (payload : EvidencePayload) :
    (evidenceAck service context minted payload).reasons.Brief := by
  have hacknowledged : ∀ outcome : CoordinatorService.IngestOutcome, outcome.reasons.Brief →
      (if outcome.status.code ≠ .ok ∧ outcome.reasons = [] then
        outcome.reasons.add outcome.status.code.toText (text "evidence ingestion failed")
      else
        outcome.reasons).Brief := by
    intro outcome hbrief
    split
    · exact hbrief.add outcome.status.code.length_toText_le _ _
    · exact hbrief
  cases payload with
  | none => exact brief_nil.add (length_text_le (by decide)) _ _
  | capacity evidence =>
    exact hacknowledged _ (ingestCapacity_brief service context evidence minted brief_nil)
  | congestion evidence =>
    exact hacknowledged _ (ingestCongestion_brief service context evidence minted brief_nil)
  | topology evidence =>
    exact hacknowledged _ (ingestTopology_brief service context evidence minted brief_nil)
  | policy policy =>
    exact hacknowledged _ (installPolicy_brief service context policy minted brief_nil)

/-- An inspection is cut at half of a frame. -/
theorem inspect_fits (subject : UInt8) (body : Text) :
    (Answer.typed (.inspectResponse (inspectResponse subject body))).bytes ≤
      Limits.framePayloadMaxBytes := by
  have hlength : (inspectResponse subject body).body.length ≤
      Limits.framePayloadMaxBytes / 2 := by
    unfold inspectResponse
    split
    · exact List.length_take_le _ _
    · rename_i hshort
      exact Nat.not_lt.mp hshort
  have hroom : 6 + Limits.framePayloadMaxBytes / 2 ≤ Limits.framePayloadMaxBytes := by decide
  rw [Answer.bytes_typed_of_bounded (.inspectResponse _) (Nat.zero_le _), ResponsePayload.bytes]
  omega

/-- Whatever is asked, the answer is within the bound exactly when the condition says so. -/
theorem requestAnswer_fits_iff (request : Request) (render : Renderer) (between : List ServiceOp)
    (minted : Minted) :
    (requestAnswer render service between context minted request).bytes ≤
        Limits.framePayloadMaxBytes ↔
      AnswerFits service context request := by
  have hack : ∀ {fixed : Nat} {reasons : ReasonChain}, fixed ≤ 1024 →
      fixed + reasons.bytes ≤ 1024 + reasons.bytes :=
    fun hfixed => Nat.add_le_add_right hfixed _
  cases request with
  | heartbeat payload =>
    refine iff_of_true ?_ trivial
    have hstatus := publishParticipant_brief service context payload.participant
      payload.incarnation payload.node payload.state
    simp only [requestAnswer, answerHeartbeat]
    split
    · rename_i ack hack'
      split at hack'
      · cases hack'
        exact typed_fits (brief_nil.add (length_text_le (by decide)) _ _) (hack (by decide))
      · cases hack'
    · rename_i status hrefused
      split at hrefused
      · cases hrefused
      · cases hrefused
        exact error_fits hstatus
  | registerCollective definition =>
    refine iff_of_true (typed_fits ?_ (hack (by decide))) trivial
    have hreasons := registerCollective_brief service context definition
    simp only [ResponsePayload.reasons, registerAck]
    split
    · exact hreasons.add (ErrorCode.length_toText_le _) _ _
    · exact hreasons
  | beginAttempt payload =>
    exact iff_of_true (typed_fits
      (reasonsOr_brief _ (beginAttempt_brief service context payload.id payload.generation
        payload.attempt payload.transferBytes)) (hack (by decide))) trivial
  | planFlowGroup request =>
    by_cases hdecided : PlanDecided service context request
    · rw [plan_answer_of_decided service context render between minted hdecided]
      exact ⟨fun hfits _ => hfits, fun hfits => hfits hdecided⟩
    · obtain ⟨hrefused, hstatus⟩ := planFlowGroup_refused service context hdecided
      refine iff_of_true ?_ fun h => absurd h hdecided
      simp only [requestAnswer, hrefused, Bool.false_eq_true, if_false]
      exact error_fits hstatus
  | cancelCollective payload =>
    exact iff_of_true (typed_fits
      (reasonsOr_brief _ (endCollective_brief service context payload.id payload.generation
        payload.attempt cancelTexts_brief brief_nil)) (hack (by decide))) trivial
  | retireCollective payload =>
    exact iff_of_true (typed_fits
      (reasonsOr_brief _ (endCollective_brief service context payload.id payload.generation
        payload.attempt retireTexts_brief brief_nil)) (hack (by decide))) trivial
  | ingestEvidence payload =>
    exact iff_of_true
      (typed_fits (evidenceAck_brief service context minted payload) (hack (by decide))) trivial
  | inspect payload => exact iff_of_true (inspect_fits payload.subject _) trivial
  | explain payload => exact explain_fits_iff service payload
  | installPolicy policy =>
    exact iff_of_true (typed_fits
      (reasonsOr_brief _ (installPolicy_brief service context policy minted
        brief_nil)) (hack (by decide))) trivial
  | shutdown =>
    refine iff_of_true ?_ trivial
    rw [requestAnswer, Answer.bytes_typed_of_bounded (.shutdownAck _) (Nat.zero_le _),
      ResponsePayload.bytes, length_text]
    decide

end Requests

section Frames

variable (render : Renderer) (state : ConnectionState) (service : CoordinatorService)
variable (others : Interference) (frame : Frame) (now : UInt64) (minted : Minted)

/-- The request that a frame of an established session is dispatched as, if it is. -/
def dispatchedRequest : Option Request :=
  match establishedAnswer state service frame now with
  | some _ => none
  | none =>
    match decodeRequest wireDecoders frame.payload (.ofRaw frame.kind) with
    | some (.ok request) => some request
    | _ => none

variable {state service frame now}

theorem frameAnswer_of_request {request : Request}
    (h : dispatchedRequest state service frame now = some request) :
    frameAnswer wireDecoders render state service others frame now minted =
      requestAnswer render (dispatchedService service others frame now) others.beforeAnswer
        (requestContext frame now) minted request := by
  unfold dispatchedRequest at h
  split at h
  · cases h
  · rename_i hdispatched
    split at h
    · rename_i decoded hdecoded
      cases h
      have hkind : MessageKind.ofRaw frame.kind ≠ .hello := by
        intro hhello
        rw [hhello] at hdecoded
        cases hdecoded
      rw [frameAnswer, hdispatched]
      simp only
      rw [dispatchAnswer_of_ne_hello hkind, hdecoded]
    · cases h

/-- What happens before a frame is dispatched does not depend on its payload. -/
theorem establishedAnswer_payload (payload : Text) :
    establishedAnswer state service { frame with payload := payload } now =
      establishedAnswer state service frame now := by
  rfl

theorem dispatchedService_payload (payload : Text) :
    dispatchedService service others { frame with payload := payload } now =
      dispatchedService service others frame now := by
  rfl

theorem requestContext_payload (payload : Text) :
    requestContext { frame with payload := payload } now = requestContext frame now := by
  rfl

/-- A frame that is not dispatched as a request is answered by a short error. -/
theorem frameAnswer_fits_of_none (h : dispatchedRequest state service frame now = none) :
    (frameAnswer wireDecoders render state service others frame now minted).bytes ≤
      Limits.framePayloadMaxBytes := by
  have hliteral : ∀ (code : ErrorCode) (literal : String), literal.utf8ByteSize ≤ 256 →
      (Answer.error code (text literal)).bytes ≤ Limits.framePayloadMaxBytes :=
    fun code literal hlength => error_fits (Status.brief_error code hlength)
  unfold frameAnswer
  cases hestablished : establishedAnswer state service frame now with
  | some answer =>
    simp only
    unfold establishedAnswer at hestablished
    split at hestablished
    · cases hestablished
      exact hliteral _ _ (by decide)
    · have hbrief := validateEnvelope_brief service (envelopeView frame) now brief_nil
      simp only at hestablished
      split at hestablished
      · cases hestablished
        exact explained_fits hbrief.1 hbrief.2
      · split at hestablished
        · cases hestablished
          exact hliteral _ _ (by decide)
        · cases hestablished
  | none =>
    simp only
    by_cases hkind : MessageKind.ofRaw frame.kind = .hello
    · simp only [dispatchAnswer, hkind]
      exact hliteral _ _ (by decide)
    · rw [dispatchAnswer_of_ne_hello hkind]
      simp only [dispatchedRequest, hestablished] at h
      cases hdecoded : decodeRequest wireDecoders frame.payload (.ofRaw frame.kind) with
      | none => exact hliteral _ _ (by decide)
      | some decoded =>
        cases decoded with
        | error status => exact error_fits (decodeRequest_brief hdecoded)
        | ok request =>
          rw [hdecoded] at h
          cases h

/-- The frame of a request is answered exactly when the answer is within the bound. -/
theorem request_answered_iff {request : Request} (outbox : Outbox)
    (h : dispatchedRequest state service frame now = some request) :
    outbox.Answered
        (processFrame wireDecoders render state service others frame now minted outbox) ↔
      AnswerFits (dispatchedService service others frame now) (requestContext frame now)
        request := by
  rw [processFrame, send_answered_iff, frameAnswer_of_request render others minted h,
    requestAnswer_fits_iff]

end Frames

namespace WidePlan

open TwoMembers

variable {number : Nat}

/-- The members of a large collective are numbered from one. -/
def member (number : Nat) : ParticipantId :=
  ⟨0, number.toUInt64⟩

def memberCount : Nat := 2048

def members : List ParticipantId :=
  (List.range memberCount).map fun k => member (k + 1)

def definition : CollectiveDefinition :=
  { TwoMembers.definition with participants := members }

/-- The large collective is registered and its attempt is open; no policy is installed. -/
def setup : List ServiceOp :=
  boot ++
  [ .registerCollective (context 4) definition,
    .beginAttempt (context 5) ⟨31, 0⟩ ⟨32, 0⟩ ⟨33, 0⟩ 0 ]

def service : CoordinatorService :=
  run serviceStep (.create {}) setup

/-- The connection of session 41 after its hello. -/
def state : ConnectionState where
  session := ⟨41, 0⟩
  incarnation := ⟨42, 0⟩
  epoch := ⟨100, 0⟩
  hellosPending := 0

/-- The first request of session 41, still without its payload. -/
def header : Frame where
  kind := MessageKind.planFlowGroup.toRaw
  flags := flagRequest
  envelope :=
    { session := ⟨41, 0⟩
      incarnation := ⟨42, 0⟩
      epoch := ⟨100, 0⟩
      frameSequence := ⟨1⟩ }

/-- A request to plan the given edges. -/
def request (edges : List FlowEdge) : DecisionRequest :=
  { TwoMembers.request with plan := { TwoMembers.request.plan with edges := edges } }

def frame (edges : List FlowEdge) : Frame :=
  { header with payload := encodePlanFlowGroup (request edges) }

section Edges

variable {edges : List FlowEdge}

set_option maxRecDepth 8192 in
/-- The frame reaches the service, and the attempt it plans for is open. -/
theorem header_dispatched :
    establishedAnswer state service header 6 = none ∧
      ((dispatchedService service {} header 6).checkPlanContext (requestContext header 6)).isOk =
        true ∧
      ((dispatchedService service {} header 6).catalog.find ⟨31, 0⟩).map
          (fun record => (record.definition.generation, record.currentAttempt,
            collectiveStateIsTerminal record.state, record.definition.participants)) =
        some (⟨32, 0⟩, ⟨33, 0⟩, false, members) := by
  decide +kernel

theorem frame_requests (h : edges.length ≤ Limits.edgesMaxPerFlowGroup) :
    dispatchedRequest state service (frame edges) 6 = some (.planFlowGroup (request edges)) := by
  have hdecoded : decodePlanFlowGroup (encodePlanFlowGroup (request edges)) =
      .ok (request edges) :=
    (decodesExactly_of_delimits (delimits_decisionRequest fun _ => h)).decoded
  have hkind : MessageKind.ofRaw header.kind = .planFlowGroup := by decide
  rw [dispatchedRequest, frame, establishedAnswer_payload, header_dispatched.1]
  simp only [hkind, decodeRequest, wireDecoders, hdecoded, Except.map]

theorem request_decided (h : edges.length ≤ Limits.edgesMaxPerFlowGroup) :
    PlanDecided (dispatchedService service {} header 6) (requestContext header 6)
      (request edges) := by
  have hset : attempt.id.isNone = false ∧ attempt.generation.isNone = false ∧
      attempt.attempt.isNone = false := by
    decide
  refine ⟨header_dispatched.2.1, ?_⟩
  simp [validateDecisionRequest, request, TwoMembers.request, hset, Nat.not_lt.mpr h]

/-- The decision names every member, and the group where the plan validates. -/
theorem decisionBytes_request :
    decisionBytes (dispatchedService service {} header 6) (requestContext header 6)
        (request edges) =
      456 + groupBytes (request edges) members + 16 * memberCount := by
  obtain ⟨-, -, hfound⟩ := header_dispatched
  obtain ⟨record, hrecord, hfields⟩ := Option.map_eq_some_iff.mp hfound
  simp only [Prod.mk.injEq] at hfields
  obtain ⟨hgeneration, hattempt, hstate, hmembers⟩ := hfields
  have hlifecycle : (dispatchedService service {} header 6).lifecycleCheck
      (requestContext header 6) (request edges) = .ok record :=
    lifecycleCheck_eq_ok_iff.mpr ⟨hrecord, hgeneration, by rw [hattempt]; decide, hattempt, hstate⟩
  have hcount : members.length = memberCount := by simp [members]
  rw [decisionBytes, hlifecycle]
  simp only [hmembers, hcount]

/-- The decision on a long plan does not fit in a frame. -/
theorem decision_overflows (hbound : edges.length ≤ Limits.edgesMaxPerFlowGroup)
    (hvalid : (validateFlowGroupPlan (request edges).plan members).isOk = true)
    (hlong : Limits.framePayloadMaxBytes < 480 + 50 * edges.length + 16 * memberCount) :
    ¬ AnswerFits (dispatchedService service {} (frame edges) 6)
      (requestContext (frame edges) 6) (.planFlowGroup (request edges)) := by
  have hgroup : 50 * edges.length ≤ groupBytes (request edges) members := by
    rw [groupBytes, if_pos ⟨rfl, hvalid⟩]
    exact Nat.le_add_right _ _
  rw [frame, dispatchedService_payload, requestContext_payload]
  intro hfits
  have hlimit := hfits (request_decided hbound)
  have hreasons := le_bytes_planReasons _ _ (request_decided hbound)
  rw [decisionBytes_request] at hlimit
  omega

theorem length_encodePlanFlowGroup :
    (encodePlanFlowGroup (request edges)).length = 235 + 50 * edges.length := by
  have hplan : encodePlanSection (request edges) = encodeFlowGroupPlan (request edges).plan := rfl
  have hedges : (request edges).plan.edges = edges := rfl
  simp only [encodePlanFlowGroup, encodeDecisionRequest, hplan, encodeFlowGroupPlan, hedges,
    List.length_append, length_putIdentity, length_putU64, length_encodeInstance,
    length_boolean, length_enumeration, length_counted_const length_encodeEdge]
  omega

theorem frame_legal (h : 235 + 50 * edges.length ≤ Limits.framePayloadMaxBytes) :
    FrameLegal (frame edges) := by
  have hheader : messageKindIsKnown header.kind = true ∧
      header.flags &&& ~~~flagKnownMask = 0 := by
    decide
  exact ⟨hheader.1, hheader.2, length_encodePlanFlowGroup ▸ h⟩

theorem plan_valid (hsome : edges ≠ []) (hbound : edges.length ≤ Limits.edgesMaxPerFlowGroup)
    (hallowed : ∀ edge ∈ edges, edge.Allowed members) (hkeys : (edges.map edgeKey).Nodup) :
    (validateFlowGroupPlan (request edges).plan members).isOk = true := by
  have hset : attempt.id.isNone = false ∧ attempt.generation.isNone = false ∧
      attempt.attempt.isNone = false := by
    decide
  have hmembers : members ≠ [] := by
    rw [← List.length_pos_iff]
    simp [members, memberCount]
  have hdirection : (TwoMembers.request.plan).direction ≠ .unknown := by decide
  exact validateFlowGroupPlan_isOk_iff.mpr
    ⟨⟨hset, hsome, hbound, hdirection, hmembers, hallowed⟩, hkeys⟩

end Edges

/-- In every step the first member sends to each of the others. -/
def edge (step k : Nat) : FlowEdge where
  source := member 1
  destination := member (k + 2)
  stepIndex := ⟨step.toUInt64⟩

def steps : List Nat := [1, 2, 3, 4, 5, 6, 7, 8, 9, 10]

def edges : List FlowEdge :=
  steps.flatMap fun step => (List.range (memberCount - 1)).map (edge step)

theorem length_edges : edges.length = 20470 := by
  simp [edges, steps, memberCount]

theorem mem_edges {e : FlowEdge} :
    e ∈ edges ↔ ∃ step ∈ steps, ∃ k < memberCount - 1, edge step k = e := by
  simp [edges]

theorem toNat_number (h : number ≤ memberCount) : number.toUInt64.toNat = number := by
  have hsmall : number < 2 ^ 64 := lt_of_le_of_lt h (by decide)
  simpa using hsmall

theorem member_injective {a b : Nat} (ha : a ≤ memberCount) (hb : b ≤ memberCount)
    (h : member a = member b) : a = b := by
  have hlow : a.toUInt64 = b.toUInt64 := congrArg Identity.lo h
  rw [← toNat_number ha, ← toNat_number hb, hlow]

theorem member_isNone (hpos : 1 ≤ number) (h : number ≤ memberCount) :
    (member number).isNone = false := by
  rw [Identity.isNone_eq_false_iff]
  intro hnone
  have hzero : number = 0 := member_injective h (Nat.zero_le _) hnone
  omega

theorem member_mem (hpos : 1 ≤ number) (h : number ≤ memberCount) : member number ∈ members := by
  refine List.mem_map.mpr ⟨number - 1, List.mem_range.mpr (by omega), ?_⟩
  rw [Nat.sub_add_cancel hpos]

theorem edge_allowed {step k : Nat} (hstep : step ∈ steps) (hk : k < memberCount - 1) :
    (edge step k).Allowed members where
  set := ⟨member_isNone (by decide) (by decide), member_isNone (by omega) (by omega)⟩
  proper := fun h => by
    have hsame := member_injective (by decide) (by omega) h
    omega
  members := ⟨member_mem (by decide) (by decide), member_mem (by omega) (by omega)⟩
  step := by
    change (Sequence.mk step.toUInt64).isUnset = false
    have hall : ∀ s ∈ steps, (Sequence.mk s.toUInt64).isUnset = false := by decide
    exact hall step hstep

/-- The key of an edge before its destination. -/
def keyState (step : Nat) : UInt64 :=
  mix (mix (mix step.toUInt64 0) 1) 0

set_option maxRecDepth 4096 in
/-- The keys of two steps lie apart. -/
theorem keyStates_apart :
    (∀ step ∈ steps, (mixOffset (keyState step)).toNat + 4096 < 2 ^ 64) ∧
      ∀ step ∈ steps, ∀ other ∈ steps, step ≠ other →
        MixesApart (keyState step) (keyState other) := by
  decide +kernel

theorem edges_keys_nodup : (edges.map edgeKey).Nodup := by
  have hnumber : ∀ k < memberCount - 1, (k + 2).toUInt64.toNat = k + 2 :=
    fun k hk => toNat_number (by omega)
  rw [edges, List.map_flatMap, List.nodup_flatMap]
  refine ⟨?_, ?_⟩
  · intro step _
    rw [List.map_map]
    refine List.Nodup.map_on ?_ List.nodup_range
    intro k hk l hl hsame
    have hlow : (k + 2).toUInt64 = (l + 2).toUInt64 := mix_injective _ hsame
    have hnat := congrArg UInt64.toNat hlow
    rw [hnumber k (List.mem_range.mp hk), hnumber l (List.mem_range.mp hl)] at hnat
    omega
  · refine List.Pairwise.imp_of_mem ?_ (show steps.Nodup by decide)
    intro step other hstep hother hne key hkey hkey'
    simp only [List.map_map, List.mem_map, List.mem_range, Function.comp_apply] at hkey hkey'
    obtain ⟨k, hk, rfl⟩ := hkey
    obtain ⟨l, hl, hsame⟩ := hkey'
    have hsmall : ∀ n < memberCount - 1, (n + 2).toUInt64.toNat ≤ 4096 := by
      intro n hn
      rw [hnumber n hn]
      unfold memberCount at hn
      omega
    exact mix_ne_of_mixesApart (hsmall l hl) (hsmall k hk) (keyStates_apart.1 other hother)
      (keyStates_apart.1 step hstep) (keyStates_apart.2 other hother step hstep hne.symm) hsame

/-- The edges make up a plan of nearly the size of a frame. -/
theorem edges_plan :
    edges.length ≤ Limits.edgesMaxPerFlowGroup ∧
      235 + 50 * edges.length ≤ Limits.framePayloadMaxBytes ∧
      Limits.framePayloadMaxBytes < 480 + 50 * edges.length + 16 * memberCount := by
  rw [length_edges]
  decide

theorem edges_valid : (validateFlowGroupPlan (request edges).plan members).isOk = true := by
  refine plan_valid ?_ edges_plan.1 ?_ edges_keys_nodup
  · rw [← List.length_pos_iff, length_edges]
    decide
  · intro e he
    obtain ⟨step, hstep, k, hk, rfl⟩ := mem_edges.mp he
    exact edge_allowed hstep hk

end WidePlan

/--
A frame of an established session is answered by exactly one frame where the
answer is within the bound on a frame, and by none where it is not.  Only plans
and explanations have answers of which that is not known beforehand; the answer
to a plan takes what the plan, the collective and the reasons of the evaluation
on the state before take.
-/
theorem established_frame_answered_iff (render : Renderer) (state : ConnectionState)
    (service : CoordinatorService) (others : Interference) (frame : Frame) (now : UInt64)
    (minted : Minted) (outbox : Outbox) :
    outbox.Answered
        (processFrame wireDecoders render state service others frame now minted outbox) ↔
      ∀ request, dispatchedRequest state service frame now = some request →
        AnswerFits (dispatchedService service others frame now) (requestContext frame now)
          request := by
  cases hrequest : dispatchedRequest state service frame now with
  | none =>
    rw [processFrame, send_answered_iff]
    refine iff_of_true (frameAnswer_fits_of_none render others minted hrequest) ?_
    intro request hsome
    cases hsome
  | some request =>
    rw [request_answered_iff render others minted outbox hrequest]
    refine ⟨?_, fun hfits => hfits request rfl⟩
    intro hfits other hother
    cases hother
    exact hfits

open WidePlan in
/-- A plan within the bound on a frame is left without an answer. -/
theorem wide_plan_not_answered :
    ServiceReachable service ∧ FrameLegal (frame edges) ∧
      ¬ Outbox.Answered {} (processFrame wireDecoders (fun _ _ => []) state service {}
        (frame edges) 6 TwoMembers.sessionDraw {}) := by
  refine ⟨⟨{}, setup, rfl⟩, frame_legal edges_plan.2.1, ?_⟩
  rw [request_answered_iff _ _ _ _ (frame_requests edges_plan.1)]
  exact decision_overflows edges_plan.1 edges_valid edges_plan.2.2

end TrafficFabric
