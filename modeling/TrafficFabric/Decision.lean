import TrafficFabric.Evidence

/-!
# Decisions and synchronization sensitivity

The closed set of outcomes, the axis a refusal names, the untrusted request and
the record a decision binds.  Synchronization sensitivity is derived from
declared semantics first, then from the declared phases, then from the class
and the pattern, and always reports its basis.
-/

namespace TrafficFabric

inductive SyncKind where
  | none
  | barrier
  | fence
  | dependency
  | collectiveStep
  | streamOrder
deriving DecidableEq, Repr

def SyncKind.toText : SyncKind → Text
  | .none => text "none"
  | .barrier => text "barrier"
  | .fence => text "fence"
  | .dependency => text "dependency"
  | .collectiveStep => text "collective_step"
  | .streamOrder => text "stream_order"

inductive SyncBasis where
  | unspecified
  | declaredBarrierSemantics
  | declaredPhaseSynchronizationPoint
  | derivedFromClass
  | derivedFromPattern
  | derivedFromPolicy
deriving DecidableEq, Repr

def SyncBasis.toText : SyncBasis → Text
  | .unspecified => text "unspecified"
  | .declaredBarrierSemantics => text "declared_barrier_semantics"
  | .declaredPhaseSynchronizationPoint => text "declared_phase_synchronization_point"
  | .derivedFromClass => text "derived_from_class"
  | .derivedFromPattern => text "derived_from_pattern"
  | .derivedFromPolicy => text "derived_from_policy"

structure SyncSensitivity where
  kind : SyncKind := .none
  basis : SyncBasis := .unspecified
  latencyCritical : Bool := false
  allMembersMustArrive : Bool := false
  completionOrderingMatters : Bool := false
  barrierMemberCount : UInt32 := 0
  maximumSkewMicros : UInt64 := 0
deriving DecidableEq, Repr

def classIsBarrierLike : CollectiveClass → Bool
  | .allReduce => true
  | .reduceScatter => true
  | .barrierOnly => true
  | .scan => true
  | _ => false

def patternIsBarrierLike : FlowPattern → Bool
  | .ring => true
  | .pipeline => true
  | _ => false

/-- Whether the class the policy gives a collective is delay sensitive. -/
def classIsLatencyCritical (policy : TrafficPolicy) (collectiveClass : CollectiveClass) : Bool :=
  let trafficClass :=
    match policy.findCollective collectiveClass with
    | some collectivePolicy => collectivePolicy.trafficClass
    | none => .unclassified
  match policy.findClass trafficClass with
  | some classPolicy =>
    decide (12 ≤ classPolicy.priority) || classPolicy.trafficClass == .latencyCritical
  | none => false

/-- What the class, or failing that the pattern, says about ordering. -/
def inferFromStructure
    (definition : CollectiveDefinition) (group : FlowGroup)
    (sensitivity : SyncSensitivity) : SyncSensitivity :=
  if classIsBarrierLike definition.collectiveClass then
    { sensitivity with
      kind := .dependency
      basis := .derivedFromClass
      completionOrderingMatters := true
      maximumSkewMicros := 20000 }
  else if patternIsBarrierLike group.pattern then
    { sensitivity with
      kind := .collectiveStep
      basis := .derivedFromPattern
      maximumSkewMicros := 50000 }
  else
    sensitivity

/-- A barrier of the stated basis. -/
def barrierSensitivity
    (sensitivity : SyncSensitivity) (basis : SyncBasis) (maximumSkewMicros : UInt64) :
    SyncSensitivity :=
  { sensitivity with
    kind := .barrier
    basis := basis
    allMembersMustArrive := true
    completionOrderingMatters := true
    maximumSkewMicros := maximumSkewMicros }

def deriveSyncSensitivity
    (definition : CollectiveDefinition) (group : FlowGroup) (policy : TrafficPolicy) :
    SyncSensitivity :=
  let sensitivity : SyncSensitivity :=
    { barrierMemberCount := (min definition.participants.length 0xFFFFFFFF).toUInt32
      latencyCritical := classIsLatencyCritical policy definition.collectiveClass }
  if definition.declaresBarrierSemantics then
    barrierSensitivity sensitivity .declaredBarrierSemantics 1000
  else if definition.phases.any CollectivePhase.synchronizationPoint then
    barrierSensitivity sensitivity .declaredPhaseSynchronizationPoint 5000
  else if definition.collectiveClass = .barrierOnly then
    barrierSensitivity sensitivity .derivedFromClass 1000
  else
    let sensitivity := inferFromStructure definition group sensitivity
    let sensitivity :=
      if group.requiresSimultaneousStart ∧ sensitivity.kind = .none then
        { sensitivity with
          kind := .dependency
          basis := .derivedFromPolicy
          completionOrderingMatters := true }
      else
        sensitivity
    if sensitivity.latencyCritical ∧ sensitivity.kind = .none then
      { sensitivity with kind := .fence, basis := .derivedFromPolicy }
    else
      sensitivity

inductive Outcome where
  | admitted
  | deferred
  | rateLimited
  | isolatedClass
  | requiresReplan
  | rejectedStale
  | rejectedCapacity
  | rejectedPolicy
  | unknownSemantics
deriving DecidableEq, Repr

/-- Only an admission, outright or into an isolated class, grants authority. -/
def outcomeGrantsAuthority (value : Outcome) : Bool :=
  value == .admitted || value == .isolatedClass

def outcomeIsRejection : Outcome → Bool
  | .rejectedStale => true
  | .rejectedCapacity => true
  | .rejectedPolicy => true
  | .unknownSemantics => true
  | _ => false

def outcomeRequiresReplan : Outcome → Bool
  | .requiresReplan => true
  | .deferred => true
  | .rateLimited => true
  | _ => false

inductive AuthorityAxis where
  | none
  | coordinatorEpoch
  | topologyGeneration
  | policyGeneration
  | collectiveGeneration
  | attemptGeneration
  | participantLiveness
  | capacityEvidence
  | congestionEvidence
  | lifecycle
  | semantics
  | plan
deriving DecidableEq, Repr

/-- A request, untrusted until it validates. -/
structure DecisionRequest where
  session : SessionId := {}
  collectiveInstance : CollectiveInstance := {}
  observedTopologyGeneration : TopologyGeneration := {}
  observedPolicyGeneration : PolicyGeneration := {}
  observedEpoch : CoordinatorEpoch := {}
  observedCapacityGeneration : EvidenceGeneration := {}
  observedCongestionGeneration : EvidenceGeneration := {}
  hasFlowGroupPlan : Bool := false
  plan : FlowGroupPlan := {}
  hasRequestedClass : Bool := false
  requestedClass : TrafficClass := .unclassified
  requestedTransferBytes : UInt64 := 0
deriving DecidableEq, Repr

/-- A decision, legal only for the generation set it binds. -/
structure DecisionRecord where
  collectiveInstance : CollectiveInstance := {}
  collectiveClass : CollectiveClass := .unknown
  algorithmHint : AlgorithmHint := .unspecified
  outcome : Outcome := .rejectedStale
  axis : AuthorityAxis := .none
  code : ErrorCode := .ok
  flowGroup : FlowGroupId := {}
  flowGroupConstructed : Bool := false
  group : FlowGroup := {}
  participants : List ParticipantId := []
  trafficClass : TrafficClass := .unclassified
  priority : UInt64 := 0
  isolation : IsolationMode := .shared
  pacing : PacingIntent := {}
  sync : SyncSensitivity := {}
  collectiveGeneration : CollectiveGeneration := {}
  topologyGeneration : TopologyGeneration := {}
  policyGeneration : PolicyGeneration := {}
  capacityGeneration : EvidenceGeneration := {}
  congestionGeneration : EvidenceGeneration := {}
  epoch : CoordinatorEpoch := {}
  congestionEvidenceUsed : Bool := false
  capacityEvidenceUsed : Bool := false
  allMembersLive : Bool := false
  phaseIndex : Sequence := {}
  stepIndex : Sequence := {}
  reasons : ReasonChain := []
  decidedMonotonicMs : UInt64 := 0
  decisionSequence : Sequence := {}
deriving DecidableEq, Repr

/-- The checks of a request that read no evidence. -/
def validateDecisionRequest (request : DecisionRequest) : Status :=
  if request.collectiveInstance.id.isNone then
    .error .validationGenerationUnset (text "request has no collective identity")
  else if request.collectiveInstance.generation.isNone then
    .error .validationGenerationUnset (text "request has no collective generation")
  else if request.collectiveInstance.attempt.isNone then
    .error .validationAttemptUnset (text "request has no attempt identity")
  else if request.hasFlowGroupPlan = true ∧
      (request.plan.collectiveInstance.id ≠ request.collectiveInstance.id ∨
        request.plan.collectiveInstance.generation ≠ request.collectiveInstance.generation ∨
        request.plan.collectiveInstance.attempt ≠ request.collectiveInstance.attempt) then
    .error .envelopeIdentityMismatch (text "plan instance does not match the request instance")
  else if request.hasFlowGroupPlan = true ∧
      Limits.edgesMaxPerFlowGroup < request.plan.edges.length then
    .error .validationEdgeCountOutOfRange (text "plan exceeds the edge bound")
  else
    Status.ok

end TrafficFabric
