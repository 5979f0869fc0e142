import TrafficFabric.Collective

/-!
# Flow groups

A flow group is built from planned communication edges.  The plan is checked
against the participant set of the collective, its edges are sorted by a total
order, and the group identity is a digest of the canonical content.

Duplicate edges are found through a 64 bit hash of step, source and
destination, so two different edges may be taken for one.
-/

namespace TrafficFabric

inductive FlowPattern where
  | unspecified
  | ring
  | chain
  | treeUp
  | treeDown
  | star
  | fullMesh
  | neighborExchange
  | pairwiseDisjoint
  | pipeline
  | custom
deriving DecidableEq, Repr

def FlowPattern.raw : FlowPattern → UInt8
  | .unspecified => 0
  | .ring => 1
  | .chain => 2
  | .treeUp => 3
  | .treeDown => 4
  | .star => 5
  | .fullMesh => 6
  | .neighborExchange => 7
  | .pairwiseDisjoint => 8
  | .pipeline => 9
  | .custom => 10

inductive FlowDirection where
  | unknown
  | unidirectional
  | bidirectional
deriving DecidableEq, Repr

def FlowDirection.raw : FlowDirection → UInt8
  | .unknown => 0
  | .unidirectional => 1
  | .bidirectional => 2

/-- One directed communication edge. -/
structure FlowEdge where
  source : ParticipantId := {}
  destination : ParticipantId := {}
  logicalBytes : UInt64 := 0
  stepIndex : Sequence := {}
  hint : AlgorithmHint := .unspecified
  crossesRack : Bool := false
deriving DecidableEq, Repr

structure FlowGroupPlan where
  collectiveInstance : CollectiveInstance := {}
  collectiveClass : CollectiveClass := .unknown
  pattern : FlowPattern := .unspecified
  direction : FlowDirection := .unidirectional
  edges : List FlowEdge := []
  planSequence : Sequence := {}
  requiresSimultaneousStart : Bool := false
deriving DecidableEq, Repr

structure FlowGroup where
  id : FlowGroupId := {}
  collectiveInstance : CollectiveInstance := {}
  collectiveClass : CollectiveClass := .unknown
  pattern : FlowPattern := .unspecified
  direction : FlowDirection := .unidirectional
  edges : List FlowEdge := []
  participants : List ParticipantId := []
  totalLogicalBytes : UInt64 := 0
  maxFanOut : UInt32 := 0
  maxFanIn : UInt32 := 0
  crossRackEdgeCount : UInt32 := 0
  requiresSimultaneousStart : Bool := false
  planSequence : Sequence := {}
deriving DecidableEq, Repr

/-- One mixing step of the content digest. -/
def mix (state value : UInt64) : UInt64 :=
  let shifted : UInt64 := state <<< 6
  let lowered : UInt64 := state >>> 2
  let added : UInt64 := value + 0x9E3779B97F4A7C15 + shifted + lowered
  let state : UInt64 := (state ^^^ added) * 0xFF51AFD7ED558CCD
  state ^^^ (state >>> 33)

def mixIdentity (state : UInt64) (value : Identity) : UInt64 :=
  mix (mix state value.hi) value.lo

/-- The canonical edge order, field by field. -/
def edgeLess (a b : FlowEdge) : Bool :=
  if a.stepIndex ≠ b.stepIndex then decide (a.stepIndex < b.stepIndex)
  else if a.source ≠ b.source then decide (a.source < b.source)
  else if a.destination ≠ b.destination then decide (a.destination < b.destination)
  else if a.logicalBytes ≠ b.logicalBytes then decide (a.logicalBytes < b.logicalBytes)
  else if a.hint ≠ b.hint then decide (a.hint.raw < b.hint.raw)
  else !a.crossesRack && b.crossesRack

/-- The edges in canonical order. -/
def sortEdges (edges : List FlowEdge) : List FlowEdge :=
  edges.insertionSort (fun a b => edgeLess b a = false)

/-- Hash under which an edge is remembered by the duplicate check. -/
def edgeKey (edge : FlowEdge) : UInt64 :=
  let key := edge.stepIndex.value
  let key := mix key edge.source.hi
  let key := mix key edge.source.lo
  let key := mix key edge.destination.hi
  mix key edge.destination.lo

/-- The pass over the edges; `seen` holds the keys of the edges before. -/
def validateEdges (allowed : List ParticipantId) :
    List UInt64 → List FlowEdge → Status
  | _, [] => Status.ok
  | seen, edge :: rest =>
    if edge.source.isNone || edge.destination.isNone then
      .error .validationEdgeUnset (text "flow group plan contains an unset edge endpoint")
    else if edge.source = edge.destination then
      .error .validationEdgeSelfLoop (text "flow group plan contains a self loop")
    else if edge.source ∉ allowed ∨ edge.destination ∉ allowed then
      .error .validationEdgeEndpointNotParticipant
        (text "flow group plan references a non participant endpoint")
    else if edge.stepIndex.isUnset then
      .error .validationStepOutOfRange (text "flow group plan contains an edge without a step")
    else if edgeKey edge ∈ seen then
      .error .validationEdgeDuplicate
        (text "flow group plan states the same directed edge twice in one step")
    else
      validateEdges allowed (edgeKey edge :: seen) rest

/-- Structural validation of a plan against a participant set. -/
def validateFlowGroupPlan
    (plan : FlowGroupPlan) (allowedParticipants : List ParticipantId) : Status :=
  if plan.collectiveInstance.id.isNone then
    .error .validationGenerationUnset (text "flow group plan has no collective id")
  else if plan.collectiveInstance.generation.isNone then
    .error .validationGenerationUnset (text "flow group plan has no collective generation")
  else if plan.collectiveInstance.attempt.isNone then
    .error .validationAttemptUnset (text "flow group plan has no attempt identity")
  else if plan.edges.isEmpty then
    .error .validationEdgeCountOutOfRange (text "flow group plan has no edges")
  else if Limits.edgesMaxPerFlowGroup < plan.edges.length then
    .error .validationEdgeCountOutOfRange (text "flow group plan exceeds the edge bound")
  else if plan.direction = .unknown then
    .error .validationEdgeCountOutOfRange
      (text "flow group plan must state a direction; unknown is not a direction")
  else if allowedParticipants.isEmpty then
    .error .validationParticipantCountOutOfRange (text "collective has no participants")
  else
    validateEdges allowedParticipants [] plan.edges

/-- The class a plan claims takes no part in its structural validation. -/
@[simp] theorem validateFlowGroupPlan_collectiveClass (plan : FlowGroupPlan)
    (allowed : List ParticipantId) (collectiveClass : CollectiveClass) :
    validateFlowGroupPlan { plan with collectiveClass := collectiveClass } allowed =
      validateFlowGroupPlan plan allowed := by
  rfl

/-- What one edge adds to the digest, in the order the comparator visits. -/
def mixEdge (state : UInt64) (edge : FlowEdge) : UInt64 :=
  let state := mix state edge.stepIndex.value
  let state := mixIdentity state edge.source
  let state := mixIdentity state edge.destination
  let state := mix state edge.logicalBytes
  let state := mix state edge.hint.raw.toUInt64
  mix state (if edge.crossesRack then 1 else 0)

/-- Digest of the plan over its sorted edges. -/
def flowGroupContentDigest (plan : FlowGroupPlan) : UInt64 :=
  let state : UInt64 := 0x243F6A8885A308D3
  let state := mixIdentity state plan.collectiveInstance.id
  let state := mixIdentity state plan.collectiveInstance.generation
  let state := mixIdentity state plan.collectiveInstance.attempt
  let state := mix state plan.collectiveInstance.attemptSequence.value
  let state := mix state plan.collectiveClass.raw.toUInt64
  let state := mix state plan.pattern.raw.toUInt64
  let state := mix state plan.direction.raw.toUInt64
  let state := mix state (if plan.requiresSimultaneousStart then 1 else 0)
  let state := mix state plan.edges.length.toUInt64
  (sortEdges plan.edges).foldl mixEdge state

def canonicalFlowGroupId (plan : FlowGroupPlan) : FlowGroupId :=
  let hi := flowGroupContentDigest plan
  let lo := mix hi 0xA5A5A5A5A5A5A5A5
  if hi = 0 ∧ lo = 0 then ⟨1, lo⟩ else ⟨hi, lo⟩

/-- Length of the longest run of equal neighbours. -/
def longestRun (current best : UInt32) : List ParticipantId → UInt32
  | [] => best
  | [_] => max best (current + 1)
  | a :: b :: rest =>
    if b ≠ a then
      longestRun 0 (max best (current + 1)) (b :: rest)
    else
      longestRun (current + 1) best (b :: rest)

/-- Builds the canonical group of a plan that validates. -/
def constructFlowGroup
    (plan : FlowGroupPlan) (allowedParticipants : List ParticipantId) :
    Except Status FlowGroup :=
  let status := validateFlowGroupPlan plan allowedParticipants
  if status.isOk = false then
    .error status
  else
    let edges := sortEdges plan.edges
    .ok
      { id := canonicalFlowGroupId plan
        collectiveInstance := plan.collectiveInstance
        collectiveClass := plan.collectiveClass
        pattern := plan.pattern
        direction := plan.direction
        edges := edges
        participants :=
          canonicalizeParticipants (edges.flatMap (fun e => [e.source, e.destination]))
        totalLogicalBytes := edges.foldl (fun sum e => sum + e.logicalBytes) 0
        maxFanOut := longestRun 0 0 ((edges.map FlowEdge.source).insertionSort (· ≤ ·))
        maxFanIn := longestRun 0 0 ((edges.map FlowEdge.destination).insertionSort (· ≤ ·))
        crossRackEdgeCount := edges.foldl (fun count e => count + if e.crossesRack then 1 else 0) 0
        requiresSimultaneousStart := plan.requiresSimultaneousStart
        planSequence := plan.planSequence }

/-- Construction succeeds exactly on the plans that validate. -/
theorem constructFlowGroup_isOk_iff (plan : FlowGroupPlan) (allowed : List ParticipantId) :
    (∃ group, constructFlowGroup plan allowed = .ok group) ↔
      (validateFlowGroupPlan plan allowed).isOk = true := by
  unfold constructFlowGroup
  by_cases h : (validateFlowGroupPlan plan allowed).isOk = true
  · simp [h]
  · simp [Bool.eq_false_iff.mpr h]

end TrafficFabric
