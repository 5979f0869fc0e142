import TrafficFabric.Collective
import TrafficFabric.Lib.KeyMap

/-!
# The collective catalog

Durable definitions and their lifecycle.  A definition that changes receives a
new generation and loses its attempt; a terminal record is never registered
again and never moves back to a live state, although it may move to another
terminal one.
-/

namespace TrafficFabric

open Lib

inductive RegistrationResult where
  | registered
  | generationAdvanced
  | unchanged
  | rejectedInvalid
  | rejectedTerminal
  | rejectedCapacity
deriving DecidableEq, Repr

/-- A definition with its durable bookkeeping. -/
structure CollectiveRecord where
  definition : CollectiveDefinition := {}
  state : CollectiveState := .unregistered
  currentAttempt : CollectiveAttemptId := {}
  attemptTransferBytes : UInt64 := 0
  attemptSequence : Sequence := {}
  registrationSequence : Sequence := {}
  lastMutationSequence : Sequence := {}
  registeredMonotonicMs : UInt64 := 0
  lastMutatedMonotonicMs : UInt64 := 0
  generationAncestryDepth : UInt32 := 0
deriving DecidableEq, Repr

def CollectiveRecord.acceptsNewAuthority (record : CollectiveRecord) : Bool :=
  collectiveStateAcceptsNewAuthority record.state

structure RegistrationOutcome where
  result : RegistrationResult := .rejectedInvalid
  generation : CollectiveGeneration := {}
  attempt : CollectiveAttemptId := {}
  reasons : ReasonChain := []
  created : Bool := false
  advanced : Bool := false
deriving DecidableEq, Repr

/-- Agreement on every field that determines treatment; generations are not compared. -/
def definitionsEquivalent (a b : CollectiveDefinition) : Bool :=
  decide (a.id = b.id ∧ a.collectiveClass = b.collectiveClass ∧
    a.algorithmHint = b.algorithmHint ∧ a.scope = b.scope ∧ a.label = b.label ∧
    a.originNode = b.originNode ∧ a.fabric = b.fabric ∧ a.participants = b.participants ∧
    a.phases = b.phases ∧ a.steps = b.steps ∧ a.metadata.entries = b.metadata.entries ∧
    a.declaresBarrierSemantics = b.declaresBarrierSemantics ∧
    a.logicalBytes = b.logicalBytes)

def validatePhases : Option CollectivePhase → List CollectivePhase → Status
  | _, [] => Status.ok
  | previous, phase :: rest =>
    if phase.phaseIndex.isUnset = true ∨
        Limits.phasesMaxPerCollective < phase.phaseIndex.value.toNat then
      .error .validationPhaseOutOfRange (text "collective phase index out of range")
    else if Limits.labelBytesMax < phase.label.length then
      .error .validationLabelTooLong (text "collective phase label exceeds the bound")
    else if previous.any (fun p => !decide (p.phaseIndex < phase.phaseIndex)) then
      .error .decodeNonCanonical (text "collective phases are not strictly ascending")
    else
      validatePhases (some phase) rest

def validateSteps : Option CollectiveStep → List CollectiveStep → Status
  | _, [] => Status.ok
  | previous, step :: rest =>
    if step.phaseIndex.isUnset || step.stepIndex.isUnset then
      .error .validationStepOutOfRange (text "collective step is missing its indices")
    else if Limits.stepsMaxPerPhase < step.stepIndex.value.toNat then
      .error .validationStepOutOfRange (text "collective step index out of range")
    else if previous.any (fun p => decide (step.phaseIndex < p.phaseIndex)) then
      .error .decodeNonCanonical (text "collective steps are not ordered by phase")
    else if previous.any (fun p =>
        p.phaseIndex == step.phaseIndex && !decide (p.stepIndex < step.stepIndex)) then
      .error .decodeNonCanonical (text "collective steps are not strictly ascending")
    else
      validateSteps (some step) rest

def validateDefinition (definition : CollectiveDefinition) : Status :=
  if definition.id.isNone then
    .error .validationGenerationUnset (text "collective definition has no identity")
  else if Limits.labelBytesMax < definition.label.length then
    .error .validationLabelTooLong (text "collective label exceeds the bound")
  else if definition.participants.isEmpty then
    .error .validationParticipantCountOutOfRange (text "collective has no participants")
  else if Limits.participantsMaxPerCollective < definition.participants.length then
    .error .validationParticipantCountOutOfRange (text "collective exceeds the participant bound")
  else if participantsAreCanonical definition.participants = false then
    .error .decodeNonCanonical (text "collective participants are not canonical")
  else if definition.participants.any Identity.isNone then
    .error .validationParticipantUnset (text "collective contains an unset participant")
  else if Limits.phasesMaxPerCollective < definition.phases.length then
    .error .validationPhaseOutOfRange (text "collective exceeds the phase bound")
  else
    let phases := validatePhases none definition.phases
    if phases.isOk = false then
      phases
    else if Limits.phasesMaxPerCollective * Limits.stepsMaxPerPhase <
        definition.steps.length then
      .error .validationStepOutOfRange (text "collective exceeds the step bound")
    else
      validateSteps none definition.steps

structure CollectiveCatalog where
  records : KeyMap CollectiveId CollectiveRecord := ∅
  capacity : UInt32 := Limits.collectivesMaxLive.toUInt32
  mutationSequence : Sequence := {}

namespace CollectiveCatalog

def find (catalog : CollectiveCatalog) (id : CollectiveId) : Option CollectiveRecord :=
  catalog.records.find id

/-- The generation minted from a seed, never the unset one. -/
def mintGeneration (seed : UInt64) : CollectiveGeneration :=
  let generation := ((IdentityMinter.ofSeed seed).next).1
  if generation.isNone then ⟨1, 1⟩ else generation

/-- The record of a first registration. -/
def newRecord
    (definition : CollectiveDefinition) (sequence : Sequence) (nowMonotonicMs : UInt64) :
    CollectiveRecord :=
  { definition :=
      { definition with
        registrationSequence := sequence
        generation :=
          if definition.generation.isNone then mintGeneration (sequence.value ^^^ 0xC0FFEE)
          else definition.generation }
    state := .registered
    registrationSequence := sequence
    lastMutationSequence := sequence
    registeredMonotonicMs := nowMonotonicMs
    lastMutatedMonotonicMs := nowMonotonicMs
    generationAncestryDepth := 1 }

/-- The record of a changed definition: a new generation and no attempt. -/
def advancedRecord
    (record : CollectiveRecord) (definition : CollectiveDefinition) (sequence : Sequence)
    (nowMonotonicMs : UInt64) : CollectiveRecord :=
  { record with
    definition :=
      { definition with
        generation := mintGeneration (sequence.value ^^^ 0xBEEF)
        registrationSequence := sequence }
    state := .registered
    registrationSequence := sequence
    lastMutationSequence := sequence
    lastMutatedMonotonicMs := nowMonotonicMs
    currentAttempt := {}
    attemptSequence := {}
    generationAncestryDepth := record.generationAncestryDepth + 1 }

/-- A refused registration. -/
def rejected
    (result : RegistrationResult) (reason detail : Text) (id : CollectiveId) :
    RegistrationOutcome :=
  { result := result, reasons := ReasonChain.add [] reason detail id }

def registerNew
    (catalog : CollectiveCatalog) (definition : CollectiveDefinition)
    (nowMonotonicMs : UInt64) : RegistrationOutcome × CollectiveCatalog :=
  if catalog.capacity.toNat ≤ catalog.records.size then
    (rejected .rejectedCapacity (text "catalog_capacity_exhausted")
      (text "the live collective bound has been reached; retire definitions first")
      definition.id, catalog)
  else
    let sequence := catalog.mutationSequence.next
    let record := newRecord definition sequence nowMonotonicMs
    ({ result := .registered
       generation := record.definition.generation
       created := true
       reasons := ReasonChain.add [] (text "registered")
         (text "new durable collective definition stored") definition.id },
      { catalog with
        records := catalog.records.emplace definition.id record
        mutationSequence := sequence })

def registerExisting
    (catalog : CollectiveCatalog) (record : CollectiveRecord)
    (definition : CollectiveDefinition) (nowMonotonicMs : UInt64) :
    RegistrationOutcome × CollectiveCatalog :=
  if collectiveStateIsTerminal record.state then
    (rejected .rejectedTerminal (text "definition_terminal")
      (text "collective is " ++ record.state.toText ++
        text "; a terminal definition is never resurrected")
      definition.id, catalog)
  else if definitionsEquivalent record.definition definition then
    ({ result := .unchanged
       generation := record.definition.generation
       attempt := record.currentAttempt
       reasons := ReasonChain.add [] (text "unchanged")
         (text "re-registration matched the stored definition exactly") definition.id },
      catalog)
  else
    let sequence := catalog.mutationSequence.next
    let record := advancedRecord record definition sequence nowMonotonicMs
    ({ result := .generationAdvanced
       generation := record.definition.generation
       advanced := true
       reasons := ReasonChain.add [] (text "generation_advanced")
         (text "definition changed; a new generation was minted and previous decisions are stale")
         definition.id },
      { catalog with
        records := catalog.records.assign definition.id record
        mutationSequence := sequence })

def registerDefinition
    (catalog : CollectiveCatalog) (definition : CollectiveDefinition)
    (nowMonotonicMs : UInt64) : RegistrationOutcome × CollectiveCatalog :=
  let status := validateDefinition definition
  if status.isOk = false then
    (rejected .rejectedInvalid (text "definition_invalid") status.message definition.id, catalog)
  else
    match catalog.find definition.id with
    | none => catalog.registerNew definition nowMonotonicMs
    | some record => catalog.registerExisting record definition nowMonotonicMs

/-- Stores a mutated record under the next mutation sequence. -/
def mutate
    (catalog : CollectiveCatalog) (id : CollectiveId) (record : CollectiveRecord)
    (nowMonotonicMs : UInt64) : CollectiveCatalog :=
  let sequence := catalog.mutationSequence.next
  { catalog with
    records := catalog.records.assign id
      { record with
        lastMutatedMonotonicMs := nowMonotonicMs
        lastMutationSequence := sequence }
    mutationSequence := sequence }

/-- Opens an attempt; on success the attempt before is returned as well. -/
def beginAttempt
    (catalog : CollectiveCatalog) (id : CollectiveId) (attempt : CollectiveAttemptId)
    (nowMonotonicMs : UInt64) : Status × CollectiveAttemptId × CollectiveCatalog :=
  if attempt.isNone then
    (.error .validationAttemptUnset (text "attempt identity is unset"), {}, catalog)
  else
    match catalog.find id with
    | none => (.error .stateCollectiveUnknown (text "collective is not registered"), {}, catalog)
    | some record =>
      if record.acceptsNewAuthority = false then
        (.error .stateNotLive
          (text "collective is " ++ record.state.toText ++
            text " and does not accept a new attempt"), {}, catalog)
      else if record.currentAttempt = attempt then
        (.error .completionDuplicate (text "attempt identity is already current"), {}, catalog)
      else
        (Status.ok, record.currentAttempt,
          catalog.mutate id
            { record with
              currentAttempt := attempt
              attemptSequence := record.attemptSequence.next
              state := .planning }
            nowMonotonicMs)

def setState
    (catalog : CollectiveCatalog) (id : CollectiveId) (state : CollectiveState)
    (nowMonotonicMs : UInt64) : Status × CollectiveCatalog :=
  match catalog.find id with
  | none => (.error .stateCollectiveUnknown (text "collective is not registered"), catalog)
  | some record =>
    if collectiveStateIsTerminal record.state = true ∧
        collectiveStateIsTerminal state = false then
      (.error .stateCollectiveRetired
        (text "a terminal collective is never moved back to a live state"), catalog)
    else
      (Status.ok, catalog.mutate id { record with state := state } nowMonotonicMs)

/-- The one write through mutable access: the volume declared for the attempt. -/
def setAttemptTransferBytes
    (catalog : CollectiveCatalog) (id : CollectiveId) (bytes : UInt64) : CollectiveCatalog :=
  match catalog.find id with
  | none => catalog
  | some record =>
    { catalog with
      records := catalog.records.assign id { record with attemptTransferBytes := bytes } }

/-- Why a loaded record is impossible, if it is. -/
def loadFault
    (staged : KeyMap CollectiveId CollectiveRecord) (record : CollectiveRecord) : Status :=
  let status := validateDefinition record.definition
  if status.isOk = false then
    .error .persistenceImpossibleState
      (text "snapshot holds an invalid definition: " ++ status.message)
  else if record.definition.generation.isNone then
    .error .persistenceImpossibleState (text "snapshot holds a definition without a generation")
  else if record.state = .unregistered then
    .error .persistenceImpossibleState (text "snapshot holds an unregistered collective")
  else if (staged.find record.definition.id).isSome = true then
    .error .persistenceImpossibleState (text "snapshot holds a duplicate collective identity")
  else
    Status.ok

/-- Stages the records one by one; the first impossible one refuses the load. -/
def stage :
    KeyMap CollectiveId CollectiveRecord → UInt64 → List CollectiveRecord →
      Except Status (KeyMap CollectiveId CollectiveRecord × UInt64)
  | staged, highest, [] => .ok (staged, highest)
  | staged, highest, record :: rest =>
    let status := loadFault staged record
    if status.isOk = false then
      .error status
    else
      stage (staged.emplace record.definition.id record)
        (max (max highest record.registrationSequence.value) record.lastMutationSequence.value)
        rest

def load
    (catalog : CollectiveCatalog) (records : List CollectiveRecord) :
    Status × CollectiveCatalog :=
  if catalog.capacity.toNat < records.length then
    (.error .persistenceImpossibleState
      (text "snapshot holds more collectives than the live bound"), catalog)
  else
    match stage ∅ 0 records with
    | .error status => (status, catalog)
    | .ok (staged, highest) =>
      (Status.ok, { catalog with records := staged, mutationSequence := ⟨highest⟩ })

/-- Every record in ascending order of its identity. -/
def exportAll (catalog : CollectiveCatalog) : List CollectiveRecord :=
  catalog.records.values.insertionSort (fun a b => a.definition.id ≤ b.definition.id)

/-- Forgets every record; the mutation sequence starts over. -/
def clear (catalog : CollectiveCatalog) : CollectiveCatalog :=
  { catalog with records := ∅, mutationSequence := {} }

end CollectiveCatalog

/-- The operations that change the catalog. -/
inductive CatalogOp where
  | registerDefinition (definition : CollectiveDefinition) (nowMonotonicMs : UInt64)
  | beginAttempt (id : CollectiveId) (attempt : CollectiveAttemptId) (nowMonotonicMs : UInt64)
  | setState (id : CollectiveId) (state : CollectiveState) (nowMonotonicMs : UInt64)
  | setAttemptTransferBytes (id : CollectiveId) (bytes : UInt64)
  | load (records : List CollectiveRecord)
  | clear

/-- The catalog after one operation. -/
def catalogStep (catalog : CollectiveCatalog) : CatalogOp → CollectiveCatalog
  | .registerDefinition definition now => (catalog.registerDefinition definition now).2
  | .beginAttempt id attempt now => (catalog.beginAttempt id attempt now).2.2
  | .setState id state now => (catalog.setState id state now).2
  | .setAttemptTransferBytes id bytes => catalog.setAttemptTransferBytes id bytes
  | .load records => (catalog.load records).2
  | .clear => catalog.clear

end TrafficFabric
