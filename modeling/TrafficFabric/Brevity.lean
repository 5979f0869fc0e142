import Mathlib.Algebra.Order.BigOperators.Group.List
import Mathlib.Algebra.Order.Group.Nat
import TrafficFabric.Answers

/-!
# Brevity

The coordinator explains itself in words of its own.  The codes of its reasons
and the messages of its statuses are fixed and short, a detail is cut where it is
added, and a chain takes no more reasons than its bound.  So every chain it
answers with stays within a few kilobytes, whatever was asked and whatever the
state, and so does every error.
-/

namespace TrafficFabric

open Lib

theorem length_text_le {literal : String} {bound : Nat} (h : literal.utf8ByteSize ≤ bound) :
    (text literal).length ≤ bound := by
  rw [length_text]
  exact h

namespace ReasonChain

variable {chain : ReasonChain}

/-- Not too many reasons, and each of them short and under a code. -/
structure Brief (chain : ReasonChain) : Prop where
  bounded : chain.length ≤ Limits.reasonChainMax
  named : ∀ reason ∈ chain, reason.code ≠ []
  codes : ∀ reason ∈ chain, reason.code.length ≤ 64
  details : ∀ reason ∈ chain, reason.detail.length ≤ Limits.reasonDetailBytesMax

theorem brief_nil : Brief [] := by
  exact ⟨Nat.zero_le _, by simp, by simp, by simp⟩

/-- The detail is cut, so only the code has to be short. -/
theorem Brief.add {code : Text} (h : chain.Brief) (hcode : code.length ≤ 64) (detail : Text)
    (subject : Identity) : (chain.add code detail subject).Brief := by
  unfold ReasonChain.add
  split
  · exact h
  · rename_i hroom
    refine ⟨?_, List.forall_mem_append.mpr ⟨h.named, List.forall_mem_singleton.mpr ?_⟩,
      List.forall_mem_append.mpr ⟨h.codes, List.forall_mem_singleton.mpr ?_⟩,
      List.forall_mem_append.mpr ⟨h.details,
        List.forall_mem_singleton.mpr (List.length_take_le _ _)⟩⟩
    · rw [List.length_append, List.length_singleton]
      exact Nat.not_le.mp hroom
    · cases code with
      | nil => exact (by decide +kernel : text "unspecified" ≠ [])
      | cons _ _ => exact List.cons_ne_nil _ _
    · split
      · exact length_text_le (by decide)
      · exact hcode

theorem Brief.note {literal : String} (h : chain.Brief) (hcode : literal.utf8ByteSize ≤ 64)
    (detail : Text) (subject : Identity) : (chain.add (text literal) detail subject).Brief := by
  exact h.add (length_text_le hcode) detail subject

/-- The size of the longest chain of short reasons. -/
def briefBytes : Nat :=
  Limits.reasonChainMax * (24 + 64 + Limits.reasonDetailBytesMax)

theorem Brief.bytes_le (h : chain.Brief) : chain.bytes ≤ briefBytes := by
  have heach : ∀ size ∈ chain.map Reason.bytes,
      size ≤ 24 + 64 + Limits.reasonDetailBytesMax := by
    intro size hsize
    obtain ⟨reason, hreason, rfl⟩ := List.mem_map.mp hsize
    have hcode := h.codes reason hreason
    have hdetail := h.details reason hreason
    unfold Reason.bytes
    omega
  calc
    chain.bytes ≤ (chain.map Reason.bytes).length * (24 + 64 + Limits.reasonDetailBytesMax) :=
      List.sum_le_card_nsmul _ _ heach
    _ ≤ briefBytes := by
      rw [List.length_map]
      exact Nat.mul_le_mul_right _ h.bounded

end ReasonChain

/-- A status whose message is one of the program's own. -/
def Status.Brief (status : Status) : Prop :=
  status.message.length ≤ 256

theorem Status.brief_ok : Status.ok.Brief := by
  exact Nat.zero_le _

theorem Status.brief_error {literal : String} (code : ErrorCode) (h : literal.utf8ByteSize ≤ 256) :
    (Status.error code (text literal)).Brief := by
  exact length_text_le h

section Answers

open CoordinatorHandler

variable {status : Status} {reasons : ReasonChain}

theorem reasonsFrom_brief (code : ErrorCode) (message : Text) :
    (reasonsFrom code message).Brief := by
  exact ReasonChain.brief_nil.add code.length_toText_le message {}

/-- An error that is stated briefly fits in a frame, with room to spare. -/
theorem errorBytes_le (hstatus : status.Brief) (hreasons : reasons.Brief) :
    errorBytes status.message reasons ≤ Limits.framePayloadMaxBytes := by
  have hbytes := hreasons.bytes_le
  have hroom : 12 + 256 + ReasonChain.briefBytes ≤ Limits.framePayloadMaxBytes := by decide
  unfold Status.Brief at hstatus
  unfold errorBytes
  omega

theorem error_fits (h : status.Brief) :
    (Answer.error status.code status.message).bytes ≤ Limits.framePayloadMaxBytes := by
  exact errorBytes_le h (reasonsFrom_brief status.code status.message)

theorem explained_fits (hstatus : status.Brief) (hreasons : reasons.Brief) :
    (Answer.explained status.code status.message reasons).bytes ≤ Limits.framePayloadMaxBytes := by
  rw [Answer.bytes, if_pos hreasons.bounded]
  exact errorBytes_le hstatus hreasons

/-- A payload that states little besides its reasons fits in a frame. -/
theorem typed_fits {payload : ResponsePayload} (hreasons : payload.reasons.Brief)
    (hbytes : payload.bytes ≤ 1024 + payload.reasons.bytes) :
    (Answer.typed payload).bytes ≤ Limits.framePayloadMaxBytes := by
  have hchain := hreasons.bytes_le
  have hroom : 1024 + ReasonChain.briefBytes ≤ Limits.framePayloadMaxBytes := by decide
  rw [Answer.bytes_typed_of_bounded payload hreasons.bounded]
  omega

theorem reasonsOr_brief (subject : Identity) (h : reasons.Brief) :
    (reasonsOr status subject reasons).Brief := by
  unfold reasonsOr
  split
  · exact h.add status.code.length_toText_le _ _
  · exact h

end Answers

section Decoders

/-- A reader put together from readers and checks that refuse in the program's own words. -/
inductive Reader.Brief : {α : Type} → Reader α → Prop
  | pure {α : Type} (a : α) : Brief (pure a)
  | take (count : Nat) : Brief (take count)
  | throw {α : Type} {literal : String} (code : ErrorCode) :
      literal.utf8ByteSize ≤ 256 → Brief (throw (Status.error code (text literal)) : Reader α)
  | many {α : Type} {item : Reader α} (count : Nat) : Brief item → Brief (many item count)
  | vector {α : Type} {item : Reader α} (count : Nat) : Brief item → Brief (vector item count)
  | enumeration {α : Type} {literal : String} (values : List α) (code : ErrorCode) :
      literal.utf8ByteSize ≤ 256 → Brief (enumeration values (.error code (text literal)))
  | guarded {α : Type} {literal : String} {fault : Prop} [Decidable fault] (code : ErrorCode)
      {next : Unit → Reader α} : literal.utf8ByteSize ≤ 256 → Brief (next ()) →
      Brief (if fault then throw (Status.error code (text literal)) >>= next else next ())
  | bind {α β : Type} {reader : Reader α} {next : α → Reader β} :
      Brief reader → (∀ a, Brief (next a)) → Brief (reader >>= next)

namespace Reader

variable {α : Type}

theorem take_refuses (count : Nat) : RefusesAlways Status.Brief (take count) := by
  intro data
  change Refuses Status.Brief (if data.length < count then _ else _)
  split
  · exact refuses_error (Status.brief_error _ (by decide))
  · exact refuses_ok _ _

theorem Brief.refuses {reader : Reader α} (h : reader.Brief) :
    RefusesAlways Status.Brief reader := by
  induction h with
  | pure a => exact refusesAlways_pure a
  | take count => exact take_refuses count
  | throw code hshort => exact refusesAlways_throw (Status.brief_error code hshort)
  | many count _ ih =>
    induction count with
    | zero => exact refusesAlways_pure _
    | succ count more => exact ih.bind fun _ => more.bind fun _ => refusesAlways_pure _
  | vector count _ ih =>
    induction count with
    | zero => exact refusesAlways_pure _
    | succ count before => exact before.bind fun _ => ih.bind fun _ => refusesAlways_pure _
  | enumeration values code hshort =>
    refine ((take_refuses 1).bind fun _ => refusesAlways_pure _).bind fun raw => ?_
    split
    · exact refusesAlways_throw (Status.brief_error code hshort)
    · exact refusesAlways_pure _
  | guarded code hshort _ ih => exact RefusesAlways.guarded (Status.brief_error code hshort) ih
  | bind _ _ ih hnext => exact ih.bind hnext

theorem Brief.decodeOne {decode : Reader α} (h : decode.Brief) (payload : Text) :
    Refuses Status.Brief (decodeOne decode payload) := by
  unfold Reader.decodeOne
  split
  · rename_i status hrefused
    exact refuses_error (h.refuses payload status hrefused)
  · split
    · exact refuses_ok _ _
    · exact refuses_error (Status.brief_error _ (by decide))

end Reader

theorem decodeEntries_brief (count : Nat) (metadata : Metadata) :
    (decodeEntries count metadata).Brief := by
  induction count generalizing metadata with
  | zero => exact .pure _
  | succ count ih =>
    have hstring : ∀ maxBytes, (Reader.string maxBytes).Brief := by
      repeat' first | decide | intro _ | constructor
    refine .bind (hstring _) fun key => .bind (hstring _) fun value => ?_
    split
    · exact .throw _ (by decide)
    · exact ih _

theorem decodeDefinition_brief : decodeDefinition.Brief := by
  repeat' first | decide | intro _ | exact decodeEntries_brief _ _ | constructor

theorem canonicalizeDefinition_brief (definition : CollectiveDefinition) :
    Refuses Status.Brief (canonicalizeDefinition definition) := by
  exact refuses_require (Status.brief_error _ (by decide))
    (refuses_require (Status.brief_error _ (by decide)) (refuses_ok _ _))

theorem decodePlanSection_brief (hasFlowGroupPlan : Bool) :
    (decodePlanSection hasFlowGroupPlan).Brief := by
  cases hasFlowGroupPlan
  all_goals repeat' first | decide | intro _ | constructor

theorem decodeDecisionRequest_brief : decodeDecisionRequest.Brief := by
  repeat' first | decide | intro _ | exact decodePlanSection_brief _ | constructor

theorem decodeTrafficPolicy_brief : decodeTrafficPolicy.Brief := by
  repeat' first | decide | intro _ | constructor

theorem decodeEvidenceOf_brief (kind : EvidenceKindTag) : (decodeEvidenceOf kind).Brief := by
  cases kind
  all_goals repeat' first | decide | intro _ | constructor

theorem refuses_of_map {α : Type} {build : α → Request} {decoded : Except Status α}
    {status : Status} (hdecoded : Refuses Status.Brief decoded)
    (h : some (decoded.map build) = some (.error status)) : status.Brief := by
  cases decoded with
  | error refusal =>
    cases h
    exact hdecoded status rfl
  | ok value => cases h

/-- Every decoder of a request refuses with a short message. -/
theorem decodeRequest_brief {kind : MessageKind} {payload : Text} {status : Status}
    (h : decodeRequest wireDecoders payload kind = some (.error status)) : status.Brief := by
  cases kind with
  | registerCollective =>
    exact refuses_of_map
      (refuses_bind (decodeDefinition_brief.decodeOne payload)
        fun definition _ => canonicalizeDefinition_brief definition) h
  | planFlowGroup => exact refuses_of_map (decodeDecisionRequest_brief.decodeOne payload) h
  | ingestEvidence =>
    refine refuses_of_map (Reader.Brief.decodeOne (.bind ?_ decodeEvidenceOf_brief) payload) h
    exact .enumeration _ _ (by decide)
  | installPolicy => exact refuses_of_map (decodeTrafficPolicy_brief.decodeOne payload) h
  | heartbeat | beginAttempt | cancelCollective | retireCollective | inspectRequest
  | explainRequest =>
    refine refuses_of_map (Reader.Brief.decodeOne ?_ payload) h
    repeat' first | decide | intro _ | constructor
  | _ => cases h

end Decoders

section Service

open CoordinatorService

variable (service : CoordinatorService) (context : ServiceRequestContext)
variable {reasons : ReasonChain}

theorem checkBinding_brief (epoch : CoordinatorEpoch) (binding : SessionBinding)
    (envelope : EnvelopeView) (h : reasons.Brief) :
    (checkBinding epoch binding envelope reasons).1.Brief ∧
      (checkBinding epoch binding envelope reasons).2.Brief := by
  unfold checkBinding
  repeat' split
  all_goals first
    | exact ⟨Status.brief_ok, h⟩
    | exact ⟨Status.brief_error _ (by decide), h⟩
    | exact ⟨Status.brief_error _ (by decide), h.note (by decide) _ _⟩

theorem validateEnvelope_brief (envelope : EnvelopeView) (now : UInt64) (h : reasons.Brief) :
    (service.validateEnvelope envelope now reasons).1.Brief ∧
      (service.validateEnvelope envelope now reasons).2.1.Brief := by
  unfold validateEnvelope
  split
  · exact ⟨Status.brief_error _ (by decide), h.note (by decide) _ _⟩
  split
  · exact ⟨Status.brief_error _ (by decide), h.note (by decide) _ _⟩
  · rename_i binding _
    have hchecked := checkBinding_brief service.authority.epoch binding envelope h
    simp only
    split
    · exact hchecked
    · exact ⟨Status.brief_ok, hchecked.2⟩

theorem publishParticipant_brief (participant : ParticipantId) (incarnation : BootIncarnation)
    (node : NodeId) (state : ParticipantState) :
    (service.publishParticipant context participant incarnation node state).1.Brief := by
  unfold publishParticipant
  simp only
  repeat' split
  all_goals first | exact Status.brief_error _ (by decide) | exact Status.brief_ok

theorem checkPlanContext_brief : (service.checkPlanContext context).Brief := by
  unfold checkPlanContext
  repeat' split
  all_goals first | exact Status.brief_error _ (by decide) | exact Status.brief_ok

theorem validateDecisionRequest_brief (request : DecisionRequest) :
    (validateDecisionRequest request).Brief := by
  unfold validateDecisionRequest
  repeat' split
  all_goals first | exact Status.brief_error _ (by decide) | exact Status.brief_ok

theorem registerDefinition_brief (catalog : CollectiveCatalog) (definition : CollectiveDefinition)
    (now : UInt64) : (catalog.registerDefinition definition now).1.reasons.Brief := by
  unfold CollectiveCatalog.registerDefinition CollectiveCatalog.registerNew
    CollectiveCatalog.registerExisting
  simp only
  repeat' split
  all_goals exact ReasonChain.brief_nil.note (by decide) _ _

theorem registerCollective_brief (definition : CollectiveDefinition) :
    (service.registerCollective context definition).2.1.reasons.Brief := by
  have hregistered := registerDefinition_brief service.catalog definition context.nowMonotonicMs
  unfold registerCollective
  simp only
  repeat' split
  all_goals first | exact ReasonChain.brief_nil | exact hregistered

theorem beginAttempt_brief (id : CollectiveId) (generation : CollectiveGeneration)
    (attempt : CollectiveAttemptId) (transferBytes : UInt64) :
    (service.beginAttempt context id generation attempt transferBytes).2.1.reasons.Brief := by
  unfold CoordinatorService.beginAttempt openAttempt
  simp only
  repeat' split
  all_goals first
    | exact ReasonChain.brief_nil
    | exact ReasonChain.brief_nil.note (by decide) _ _

/-- The codes under which ending a collective is explained. -/
structure CoordinatorService.EndingTexts.Brief (texts : EndingTexts) : Prop where
  generationStale : texts.generationStale.1.length ≤ 64
  terminal : texts.terminal.length ≤ 64
  attemptStale : texts.attemptStale.1.length ≤ 64
  failed : texts.failed.length ≤ 64
  done : texts.done.1.length ≤ 64

theorem cancelTexts_brief : cancelTexts.Brief := by
  constructor <;> exact length_text_le (by decide)

theorem retireTexts_brief : retireTexts.Brief := by
  constructor <;> exact length_text_le (by decide)

theorem endCollective_brief {texts : EndingTexts} (id : CollectiveId)
    (generation : CollectiveGeneration) (attempt : CollectiveAttemptId) (htexts : texts.Brief)
    (h : reasons.Brief) :
    (endCollective texts service context id generation attempt reasons).2.2.1.Brief := by
  unfold endCollective
  split
  · exact h.note (by decide) _ _
  split
  · exact h.add htexts.generationStale _ _
  split
  · exact h.add htexts.terminal _ _
  split
  · exact h.add htexts.attemptStale _ _
  simp only
  split
  · exact h.add htexts.failed _ _
  · exact h.add htexts.done _ _

theorem checkContext_brief (h : reasons.Brief) :
    (service.checkContext context reasons).2.Brief := by
  unfold checkContext
  repeat' split
  all_goals first | exact h | exact h.note (by decide) _ _

/-- An observation is explained under its kind and what became of it. -/
theorem observationAnswer_brief {kind : String} (installed stale invalid : Text)
    (invalidCode : ErrorCode) (evidence invalidSubject : Identity) (result : InstallResult)
    (hkind : kind.utf8ByteSize ≤ 16) (h : reasons.Brief) :
    (observationAnswer (text kind) installed stale invalid invalidCode evidence invalidSubject
      reasons result).2.Brief := by
  have hcode : ∀ suffix : String, suffix.utf8ByteSize ≤ 48 →
      (text kind ++ text suffix).length ≤ 64 := by
    intro suffix hsuffix
    rw [List.length_append, length_text, length_text]
    omega
  cases result <;> exact h.add (hcode _ (by decide)) _ _

theorem policyAnswer_brief (inForce : PolicyGeneration) (result : InstallResult)
    (h : reasons.Brief) : (policyAnswer inForce reasons result).2.Brief := by
  cases result <;> exact h.note (by decide) _ _

theorem ingestCapacity_brief (evidence : CapacityEvidence) (minted : Minted) (h : reasons.Brief) :
    (service.ingestCapacity context evidence minted reasons).1.reasons.Brief := by
  have hchecked := checkContext_brief service context h
  unfold ingestCapacity
  simp only
  split
  · exact hchecked
  · exact observationAnswer_brief _ _ _ _ _ _ _ (by decide) hchecked

theorem ingestCongestion_brief (evidence : CongestionEvidence) (minted : Minted)
    (h : reasons.Brief) :
    (service.ingestCongestion context evidence minted reasons).1.reasons.Brief := by
  have hchecked := checkContext_brief service context h
  unfold ingestCongestion
  simp only
  split
  · exact hchecked
  · exact observationAnswer_brief _ _ _ _ _ _ _ (by decide) hchecked

theorem ingestTopology_brief (evidence : TopologyEvidence) (minted : Minted) (h : reasons.Brief) :
    (service.ingestTopology context evidence minted reasons).1.reasons.Brief := by
  have hchecked := checkContext_brief service context h
  unfold ingestTopology
  simp only
  split
  · exact hchecked
  · exact observationAnswer_brief _ _ _ _ _ _ _ (by decide) hchecked

theorem installPolicy_brief (policy : TrafficPolicy) (minted : Minted) (h : reasons.Brief) :
    (service.installPolicy context policy minted reasons).1.reasons.Brief := by
  have hchecked := checkContext_brief service context h
  unfold CoordinatorService.installPolicy
  simp only
  split
  · exact hchecked
  · exact policyAnswer_brief _ _ hchecked

end Service

end TrafficFabric
