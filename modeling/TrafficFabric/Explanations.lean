import TrafficFabric.Persistence

/-!
# Explanations

Error codes have a number on the wire and a name in a reason; the other
enumerations have a name in the explanation of a decision.  An identity is
written as thirty two hexadecimal digits and a number in decimal.

The explanation of a decision lists every field it binds, its fingerprint and
the reasons in order.  It is looked up in the history, by the attempt it was
made for or by the correlation value of the request.
-/

namespace TrafficFabric

section Names

def ErrorCode.raw : ErrorCode → UInt16
  | .ok => 0
  | .frameTruncatedHeader => 100
  | .frameTruncatedPayload => 101
  | .frameMagicMismatch => 102
  | .frameVersionUnsupported => 103
  | .frameLengthOutOfRange => 104
  | .frameIntegrityMismatch => 105
  | .frameTrailingGarbage => 106
  | .frameKindUnknown => 107
  | .frameFlagsInvalid => 108
  | .frameLengthArithmeticOverflow => 109
  | .envelopeSessionUnknown => 200
  | .envelopeSessionMismatch => 201
  | .envelopeIncarnationStale => 202
  | .envelopeEpochStale => 203
  | .envelopeEpochUnknown => 204
  | .envelopeIdentityMismatch => 205
  | .envelopeProvenanceRejected => 206
  | .envelopeReplayed => 207
  | .envelopeSequenceRegression => 208
  | .decodeTruncated => 300
  | .decodeTrailingBytes => 301
  | .decodeInvalidTag => 302
  | .decodeInvalidEnum => 303
  | .decodeInvalidBoolean => 304
  | .decodeInvalidString => 305
  | .decodeLengthOutOfRange => 306
  | .decodeCountOutOfRange => 307
  | .decodeMessageTooLarge => 308
  | .decodeDuplicateEntry => 309
  | .decodeNonCanonical => 310
  | .decodeArithmeticOverflow => 311
  | .decodeEmptyRequiredField => 312
  | .validationParticipantUnset => 400
  | .validationParticipantDuplicate => 401
  | .validationParticipantCountOutOfRange => 402
  | .validationEdgeUnset => 403
  | .validationEdgeSelfLoop => 404
  | .validationEdgeDuplicate => 405
  | .validationEdgeEndpointNotParticipant => 406
  | .validationEdgeCountOutOfRange => 407
  | .validationPhaseOutOfRange => 408
  | .validationStepOutOfRange => 409
  | .validationClassUnknownRejected => 410
  | .validationMetadataLimit => 411
  | .validationLabelTooLong => 412
  | .validationGenerationUnset => 413
  | .validationAttemptUnset => 414
  | .validationRateInvalid => 415
  | .validationPolicyMissing => 416
  | .validationTopologyMissing => 417
  | .validationNodeUnknown => 418
  | .validationCapacityNegative => 419
  | .validationReasonChainTooLong => 420
  | .stateCollectiveUnknown => 500
  | .stateCollectiveRetired => 501
  | .stateCollectiveCancelled => 502
  | .stateGenerationRegression => 503
  | .stateAttemptRegression => 504
  | .stateDuplicateRegistration => 505
  | .stateNotLive => 506
  | .stateShuttingDown => 507
  | .stateCapacityExceeded => 508
  | .statePhaseRegression => 509
  | .statePlanMissing => 510
  | .persistenceOpenFailed => 600
  | .persistenceReadFailed => 601
  | .persistenceWriteFailed => 602
  | .persistenceRenameFailed => 603
  | .persistenceTooLarge => 604
  | .persistenceCorrupt => 605
  | .persistenceVersionUnsupported => 606
  | .persistenceIntegrityMismatch => 607
  | .persistenceTruncated => 608
  | .persistenceImpossibleState => 609
  | .persistenceDirectoryUnavailable => 610
  | .transportSocketFailed => 700
  | .transportBindFailed => 701
  | .transportListenFailed => 702
  | .transportConnectFailed => 703
  | .transportSendFailed => 704
  | .transportReceiveFailed => 705
  | .transportClosed => 706
  | .transportTimeout => 707
  | .transportAddressInvalid => 708
  | .transportNotStarted => 709
  | .transportSessionLimit => 710
  | .admissionRateLimited => 800
  | .admissionBucketCapacity => 801
  | .admissionBucketUnset => 802
  | .admissionClockRegression => 803
  | .completionStaleAttempt => 900
  | .completionStaleGeneration => 901
  | .completionRetired => 902
  | .completionCancelled => 903
  | .completionUnknownCollective => 904
  | .completionDuplicate => 905
  | .internalInvariant => 1000
  | .internalUnsupported => 1001

def ErrorCode.name : ErrorCode → String
  | .ok => "ok"
  | .frameTruncatedHeader => "frame_truncated_header"
  | .frameTruncatedPayload => "frame_truncated_payload"
  | .frameMagicMismatch => "frame_magic_mismatch"
  | .frameVersionUnsupported => "frame_version_unsupported"
  | .frameLengthOutOfRange => "frame_length_out_of_range"
  | .frameIntegrityMismatch => "frame_integrity_mismatch"
  | .frameTrailingGarbage => "frame_trailing_garbage"
  | .frameKindUnknown => "frame_kind_unknown"
  | .frameFlagsInvalid => "frame_flags_invalid"
  | .frameLengthArithmeticOverflow => "frame_length_arithmetic_overflow"
  | .envelopeSessionUnknown => "envelope_session_unknown"
  | .envelopeSessionMismatch => "envelope_session_mismatch"
  | .envelopeIncarnationStale => "envelope_incarnation_stale"
  | .envelopeEpochStale => "envelope_epoch_stale"
  | .envelopeEpochUnknown => "envelope_epoch_unknown"
  | .envelopeIdentityMismatch => "envelope_identity_mismatch"
  | .envelopeProvenanceRejected => "envelope_provenance_rejected"
  | .envelopeReplayed => "envelope_replayed"
  | .envelopeSequenceRegression => "envelope_sequence_regression"
  | .decodeTruncated => "decode_truncated"
  | .decodeTrailingBytes => "decode_trailing_bytes"
  | .decodeInvalidTag => "decode_invalid_tag"
  | .decodeInvalidEnum => "decode_invalid_enum"
  | .decodeInvalidBoolean => "decode_invalid_boolean"
  | .decodeInvalidString => "decode_invalid_string"
  | .decodeLengthOutOfRange => "decode_length_out_of_range"
  | .decodeCountOutOfRange => "decode_count_out_of_range"
  | .decodeMessageTooLarge => "decode_message_too_large"
  | .decodeDuplicateEntry => "decode_duplicate_entry"
  | .decodeNonCanonical => "decode_non_canonical"
  | .decodeArithmeticOverflow => "decode_arithmetic_overflow"
  | .decodeEmptyRequiredField => "decode_empty_required_field"
  | .validationParticipantUnset => "validation_participant_unset"
  | .validationParticipantDuplicate => "validation_participant_duplicate"
  | .validationParticipantCountOutOfRange => "validation_participant_count_out_of_range"
  | .validationEdgeUnset => "validation_edge_unset"
  | .validationEdgeSelfLoop => "validation_edge_self_loop"
  | .validationEdgeDuplicate => "validation_edge_duplicate"
  | .validationEdgeEndpointNotParticipant => "validation_edge_endpoint_not_participant"
  | .validationEdgeCountOutOfRange => "validation_edge_count_out_of_range"
  | .validationPhaseOutOfRange => "validation_phase_out_of_range"
  | .validationStepOutOfRange => "validation_step_out_of_range"
  | .validationClassUnknownRejected => "validation_class_unknown_rejected"
  | .validationMetadataLimit => "validation_metadata_limit"
  | .validationLabelTooLong => "validation_label_too_long"
  | .validationGenerationUnset => "validation_generation_unset"
  | .validationAttemptUnset => "validation_attempt_unset"
  | .validationRateInvalid => "validation_rate_invalid"
  | .validationPolicyMissing => "validation_policy_missing"
  | .validationTopologyMissing => "validation_topology_missing"
  | .validationNodeUnknown => "validation_node_unknown"
  | .validationCapacityNegative => "validation_capacity_negative"
  | .validationReasonChainTooLong => "validation_reason_chain_too_long"
  | .stateCollectiveUnknown => "state_collective_unknown"
  | .stateCollectiveRetired => "state_collective_retired"
  | .stateCollectiveCancelled => "state_collective_cancelled"
  | .stateGenerationRegression => "state_generation_regression"
  | .stateAttemptRegression => "state_attempt_regression"
  | .stateDuplicateRegistration => "state_duplicate_registration"
  | .stateNotLive => "state_not_live"
  | .stateShuttingDown => "state_shutting_down"
  | .stateCapacityExceeded => "state_capacity_exceeded"
  | .statePhaseRegression => "state_phase_regression"
  | .statePlanMissing => "state_plan_missing"
  | .persistenceOpenFailed => "persistence_open_failed"
  | .persistenceReadFailed => "persistence_read_failed"
  | .persistenceWriteFailed => "persistence_write_failed"
  | .persistenceRenameFailed => "persistence_rename_failed"
  | .persistenceTooLarge => "persistence_too_large"
  | .persistenceCorrupt => "persistence_corrupt"
  | .persistenceVersionUnsupported => "persistence_version_unsupported"
  | .persistenceIntegrityMismatch => "persistence_integrity_mismatch"
  | .persistenceTruncated => "persistence_truncated"
  | .persistenceImpossibleState => "persistence_impossible_state"
  | .persistenceDirectoryUnavailable => "persistence_directory_unavailable"
  | .transportSocketFailed => "transport_socket_failed"
  | .transportBindFailed => "transport_bind_failed"
  | .transportListenFailed => "transport_listen_failed"
  | .transportConnectFailed => "transport_connect_failed"
  | .transportSendFailed => "transport_send_failed"
  | .transportReceiveFailed => "transport_receive_failed"
  | .transportClosed => "transport_closed"
  | .transportTimeout => "transport_timeout"
  | .transportAddressInvalid => "transport_address_invalid"
  | .transportNotStarted => "transport_not_started"
  | .transportSessionLimit => "transport_session_limit"
  | .admissionRateLimited => "admission_rate_limited"
  | .admissionBucketCapacity => "admission_bucket_capacity"
  | .admissionBucketUnset => "admission_bucket_unset"
  | .admissionClockRegression => "admission_clock_regression"
  | .completionStaleAttempt => "completion_stale_attempt"
  | .completionStaleGeneration => "completion_stale_generation"
  | .completionRetired => "completion_retired"
  | .completionCancelled => "completion_cancelled"
  | .completionUnknownCollective => "completion_unknown_collective"
  | .completionDuplicate => "completion_duplicate"
  | .internalInvariant => "internal_invariant"
  | .internalUnsupported => "internal_unsupported"

def ErrorCode.toText (code : ErrorCode) : Text :=
  text code.name

theorem ErrorCode.length_toText_le (code : ErrorCode) : code.toText.length ≤ 64 := by
  cases code <;> (simp only [toText, length_text]; decide)

def Outcome.toText : Outcome → Text
  | .admitted => text "ADMITTED"
  | .deferred => text "DEFERRED"
  | .rateLimited => text "RATE_LIMITED"
  | .isolatedClass => text "ISOLATED_CLASS"
  | .requiresReplan => text "REQUIRES_REPLAN"
  | .rejectedStale => text "REJECTED_STALE"
  | .rejectedCapacity => text "REJECTED_CAPACITY"
  | .rejectedPolicy => text "REJECTED_POLICY"
  | .unknownSemantics => text "UNKNOWN_SEMANTICS"

def AuthorityAxis.toText : AuthorityAxis → Text
  | .none => text "none"
  | .coordinatorEpoch => text "coordinator_epoch"
  | .topologyGeneration => text "topology_generation"
  | .policyGeneration => text "policy_generation"
  | .collectiveGeneration => text "collective_generation"
  | .attemptGeneration => text "attempt_generation"
  | .participantLiveness => text "participant_liveness"
  | .capacityEvidence => text "capacity_evidence"
  | .congestionEvidence => text "congestion_evidence"
  | .lifecycle => text "lifecycle"
  | .semantics => text "semantics"
  | .plan => text "plan"

def CollectiveClass.toText : CollectiveClass → Text
  | .unknown => text "unknown"
  | .allReduce => text "all_reduce"
  | .allGather => text "all_gather"
  | .reduceScatter => text "reduce_scatter"
  | .broadcast => text "broadcast"
  | .gather => text "gather"
  | .scatter => text "scatter"
  | .allToAll => text "all_to_all"
  | .pointToPoint => text "point_to_point"
  | .barrierOnly => text "barrier_only"
  | .sendRecvGrouped => text "send_recv_grouped"
  | .reduce => text "reduce"
  | .scan => text "scan"
  | .sendRecvSplit => text "send_recv_split"
  | .unknownVendor => text "unknown_vendor"

def AlgorithmHint.toText : AlgorithmHint → Text
  | .unspecified => text "unspecified"
  | .ring => text "ring"
  | .tree => text "tree"
  | .doubleBinaryTree => text "double_binary_tree"
  | .hierarchical => text "hierarchical"
  | .recursiveDoubling => text "recursive_doubling"
  | .rabenseifner => text "rabenseifner"
  | .butterfly => text "butterfly"
  | .direct => text "direct"
  | .pipeline => text "pipeline"
  | .ringChunked => text "ring_chunked"
  | .vendorSpecific => text "vendor_specific"

def TrafficClass.toText : TrafficClass → Text
  | .unclassified => text "unclassified"
  | .latencyCritical => text "latency_critical"
  | .controlPlane => text "control_plane"
  | .bulkData => text "bulk_data"
  | .bestEffortBulk => text "best_effort_bulk"
  | .background => text "background"
  | .isolated => text "isolated"
  | .probe => text "probe"

def IsolationMode.toText : IsolationMode → Text
  | .shared => text "shared"
  | .classIsolated => text "class_isolated"
  | .dedicatedPath => text "dedicated_path"

def PacingMode.toText : PacingMode → Text
  | .none => text "none"
  | .immediate => text "immediate"
  | .tokenBucket => text "token_bucket"
  | .rateLimited => text "rate_limited"
  | .shaped => text "shaped"

end Names

section Values

/-- The values of each enumeration in the order of their numbers. -/
def outcomes : List Outcome :=
  [.admitted, .deferred, .rateLimited, .isolatedClass, .requiresReplan, .rejectedStale,
    .rejectedCapacity, .rejectedPolicy, .unknownSemantics]

def authorityAxes : List AuthorityAxis :=
  [.none, .coordinatorEpoch, .topologyGeneration, .policyGeneration, .collectiveGeneration,
    .attemptGeneration, .participantLiveness, .capacityEvidence, .congestionEvidence,
    .lifecycle, .semantics, .plan]

def pacingModes : List PacingMode :=
  [.none, .immediate, .tokenBucket, .rateLimited, .shaped]

def syncKinds : List SyncKind :=
  [.none, .barrier, .fence, .dependency, .collectiveStep, .streamOrder]

def syncBases : List SyncBasis :=
  [.unspecified, .declaredBarrierSemantics, .declaredPhaseSynchronizationPoint,
    .derivedFromClass, .derivedFromPattern, .derivedFromPolicy]

def numberOf {α : Type} [DecidableEq α] (values : List α) (value : α) : UInt64 :=
  (values.idxOf value).toUInt64

end Values

section Texts

def decimal (value : UInt64) : Text :=
  text (Nat.repr value.toNat)

def hexDigits : Text :=
  text "0123456789abcdef"

/-- Sixteen digits, the highest first. -/
def hex64 (value : UInt64) : Text :=
  (List.range 16).map fun index =>
    hexDigits.getD ((value >>> (4 * (15 - index)).toUInt64) &&& 0xF).toNat 0

def Identity.toText (value : Identity) : Text :=
  hex64 value.hi ++ hex64 value.lo

@[simp] theorem Identity.length_toText (value : Identity) : value.toText.length = 32 := by
  simp [Identity.toText, hex64]

/-- The identity, or the word for an unset one. -/
def Identity.toTextOr (unset : Text) (value : Identity) : Text :=
  if value.isSome then value.toText else unset

def yesOrNo (value : Bool) : Text :=
  if value then text "yes" else text "no"

end Texts

namespace DecisionRecord

/-- A character of a reason code is a signed byte. -/
def signExtend (byte : UInt8) : UInt64 :=
  if byte < 128 then byte.toUInt64 else byte.toUInt64 + 0xFFFFFFFFFFFFFF00

def mixFlag (state : UInt64) (flag : Bool) : UInt64 :=
  mix state (if flag then 1 else 0)

def mixReason (state : UInt64) (reason : Reason) : UInt64 :=
  mix (reason.code.foldl (fun state byte => mix state (signExtend byte)) state) 0x5EED

def fingerprint (record : DecisionRecord) : UInt64 :=
  let state : UInt64 := 0x452821E638D01377
  let state := mixIdentity state record.collectiveInstance.id
  let state := mixIdentity state record.collectiveInstance.generation
  let state := mixIdentity state record.collectiveInstance.attempt
  let state := mix state (numberOf collectiveClasses record.collectiveClass)
  let state := mix state (numberOf algorithmHints record.algorithmHint)
  let state := mix state (numberOf outcomes record.outcome)
  let state := mix state (numberOf authorityAxes record.axis)
  let state := mix state record.code.raw.toUInt64
  let state := mixIdentity state record.flowGroup
  let state := mix state (numberOf trafficClasses record.trafficClass)
  let state := mix state record.priority
  let state := mix state (numberOf isolationModes record.isolation)
  let state := mixIdentity state record.collectiveGeneration
  let state := mixIdentity state record.topologyGeneration
  let state := mixIdentity state record.policyGeneration
  let state := mixIdentity state record.capacityGeneration
  let state := mixIdentity state record.congestionGeneration
  let state := mixIdentity state record.epoch
  let state := mix state (numberOf pacingModes record.pacing.mode)
  let state := mix state record.pacing.admittedBandwidthBps
  let state := mix state record.pacing.ceilingBandwidthBps
  let state := mix state record.pacing.burstBytes
  let state := mix state record.pacing.utilizationBps
  let state := mix state record.pacing.releaseAfterMonotonicMs
  let state := mix state record.participants.length.toUInt64
  let state := record.participants.foldl mixIdentity state
  let state := mix state (numberOf syncKinds record.sync.kind)
  let state := mix state (numberOf syncBases record.sync.basis)
  let state := mix state record.sync.barrierMemberCount.toUInt64
  let state := mixFlag state record.congestionEvidenceUsed
  let state := mixFlag state record.capacityEvidenceUsed
  let state := mixFlag state record.allMembersLive
  let state := mix state record.phaseIndex.value
  let state := mix state record.stepIndex.value
  let state := mixIdentity state record.group.id
  let state := mix state record.group.edges.length.toUInt64
  let state := mix state record.group.totalLogicalBytes
  record.reasons.foldl mixReason state

def explainReason (reason : Reason) : Text :=
  text "\n  - " ++ reason.code ++ text ": " ++ reason.detail ++
    (if reason.subject.isSome then text " [" ++ reason.subject.toText ++ text "]" else [])

def explain (record : DecisionRecord) : Text :=
  text "outcome: " ++ record.outcome.toText ++
  text "\nauthority_axis: " ++ record.axis.toText ++
  text "\nerror_code: " ++ record.code.toText ++
  text "\ncollective: " ++ record.collectiveInstance.id.toText ++
  text "\ncollective_generation: " ++ record.collectiveInstance.generation.toText ++
  text "\nattempt: " ++ record.collectiveInstance.attempt.toText ++
  text "\ncollective_class: " ++ record.collectiveClass.toText ++
  text "\nalgorithm_hint: " ++ record.algorithmHint.toText ++
  text "\nparticipants: " ++ decimal record.participants.length.toUInt64 ++
  text "\ntraffic_class: " ++ record.trafficClass.toText ++
  text "\npriority: " ++ decimal record.priority ++
  text "\nisolation: " ++ record.isolation.toText ++
  text "\nflow_group: " ++ record.flowGroup.toTextOr (text "none") ++
  text "\nedges: " ++ decimal record.group.edges.length.toUInt64 ++
  text "\ntotal_logical_bytes: " ++ decimal record.group.totalLogicalBytes ++
  text "\npacing_mode: " ++ record.pacing.mode.toText ++
  text "\nadmitted_bandwidth_bps: " ++ decimal record.pacing.admittedBandwidthBps ++
  text "\nceiling_bandwidth_bps: " ++ decimal record.pacing.ceilingBandwidthBps ++
  text "\nburst_bytes: " ++ decimal record.pacing.burstBytes ++
  text "\nutilization_bps: " ++ decimal record.pacing.utilizationBps ++
  text "\nrelease_after_monotonic_ms: " ++ decimal record.pacing.releaseAfterMonotonicMs ++
  text "\nsync_kind: " ++ record.sync.kind.toText ++
  text "\nsync_basis: " ++ record.sync.basis.toText ++
  text "\nbindings:" ++
  text "\n  collective_generation=" ++ record.collectiveGeneration.toText ++
  text "\n  topology_generation=" ++ record.topologyGeneration.toText ++
  text "\n  policy_generation=" ++ record.policyGeneration.toText ++
  text "\n  capacity_generation=" ++ record.capacityGeneration.toTextOr (text "none") ++
  text "\n  congestion_generation=" ++ record.congestionGeneration.toTextOr (text "none") ++
  text "\n  coordinator_epoch=" ++ record.epoch.toText ++
  text "\nevidence_used: capacity=" ++ yesOrNo record.capacityEvidenceUsed ++
  text " congestion=" ++ yesOrNo record.congestionEvidenceUsed ++
  text " all_members_live=" ++ yesOrNo record.allMembersLive ++
  text "\ndecided_monotonic_ms: " ++ decimal record.decidedMonotonicMs ++
  text "\ndecision_sequence: " ++ decimal record.decisionSequence.value ++
  text "\nfingerprint: " ++ decimal record.fingerprint ++
  text "\nreasons:" ++ (if record.reasons.isEmpty then text " none" else []) ++
  record.reasons.flatMap explainReason ++ text "\n"

end DecisionRecord

/-- What a lookup in the history can report. -/
inductive HistoryStatus where
  | ok
  | evicted
  | future
  | empty
deriving DecidableEq, Repr

def HistoryStatus.toText : HistoryStatus → Text
  | .ok => text "ok"
  | .evicted => text "evicted"
  | .future => text "future"
  | .empty => text "empty"

namespace DecisionHistory

/-- The newest decision for the collective and the attempt; an unset attempt matches any. -/
def findAttempt
    (history : DecisionHistory) (id : CollectiveId) (attempt : CollectiveAttemptId) :
    Except HistoryStatus DecisionRecord :=
  if history.records.isEmpty then
    .error .empty
  else
    let found := history.records.reverse.find? fun record =>
      record.collectiveInstance.id == id &&
        (attempt.isNone || record.collectiveInstance.attempt == attempt)
    match found with
    | some record => .ok record
    | none => .error .evicted

/-- The decision bound to a correlation value, while it is retained. -/
def findCorrelation
    (history : DecisionHistory) (correlation : UInt64) : Except HistoryStatus DecisionRecord :=
  match history.correlations.find ⟨correlation, 0⟩ with
  | none => .error .evicted
  | some ordinal =>
    if history.nextOrdinal ≤ ordinal then
      .error .future
    else if ordinal < history.firstOrdinal then
      .error .evicted
    else
      match history.records[(ordinal - history.firstOrdinal).toNat]? with
      | some record => .ok record
      -- The ordinals of a coherent history number its records, so this is not reached.
      | none => .error .evicted

end DecisionHistory

namespace CoordinatorService

variable {service : CoordinatorService}

/-- The text that goes with a decision that was found. -/
def explanationOf (record : DecisionRecord) : Text :=
  text "decision_ordinal: " ++ decimal record.decisionSequence.value ++ text "\n" ++ record.explain

/-- Explains the decision for an attempt: the decision if one is retained, and a text. -/
def explain
    (service : CoordinatorService) (id : CollectiveId) (attempt : CollectiveAttemptId) :
    Option DecisionRecord × Text :=
  match service.history.findAttempt id attempt with
  | .ok record => (some record, explanationOf record)
  | .error status =>
    (none,
      text "no retained decision exists for collective " ++ id.toText ++ text " attempt " ++
        attempt.toTextOr (text "(latest)") ++ text "; history status: " ++ status.toText ++
        text "\n")

def explainCorrelation
    (service : CoordinatorService) (correlation : UInt64) : Option DecisionRecord × Text :=
  match service.history.findCorrelation correlation with
  | .ok record => (some record, explanationOf record)
  | .error _ => (none, text "no retained decision matches that correlation\n")

/-- What an explanation says without a decision is short. -/
theorem length_explain_of_none {id : CollectiveId} {attempt : CollectiveAttemptId}
    (h : (service.explain id attempt).1 = none) : (service.explain id attempt).2.length ≤ 256 := by
  unfold explain at h ⊢
  cases hfound : service.history.findAttempt id attempt with
  | ok record =>
    rw [hfound] at h
    cases h
  | error status =>
    have hattempt : (attempt.toTextOr (text "(latest)")).length ≤ 32 := by
      unfold Identity.toTextOr
      split
      · simp
      · rw [length_text]
        decide
    have hstatus : status.toText.length ≤ 7 := by
      cases status <;> (simp only [HistoryStatus.toText, length_text]; decide)
    have hwords : "no retained decision exists for collective ".utf8ByteSize +
        " attempt ".utf8ByteSize + "; history status: ".utf8ByteSize +
        "\n".utf8ByteSize = 71 := by
      decide
    simp only [List.length_append, Identity.length_toText, length_text]
    omega

theorem length_explainCorrelation_of_none {correlation : UInt64}
    (h : (service.explainCorrelation correlation).1 = none) :
    (service.explainCorrelation correlation).2.length ≤ 256 := by
  unfold explainCorrelation at h ⊢
  cases hfound : service.history.findCorrelation correlation with
  | ok record =>
    rw [hfound] at h
    cases h
  | error status =>
    simp only [length_text]
    decide

end CoordinatorService

end TrafficFabric
