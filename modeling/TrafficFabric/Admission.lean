import TrafficFabric.Decision
import TrafficFabric.Lib.KeyMap

/-!
# Admission control and decision history

A grant is released through the token bucket of its flow group.  The table of
buckets is bounded, a bucket is at least one request deep, and a clock that
moves backwards releases nothing.

The history keeps the most recent decisions under consecutive ordinals and an
index from correlation values to ordinals that is emptied when it is full.
-/

namespace TrafficFabric

open Lib

inductive AdmissionOutcome where
  | granted
  | rateLimited
  | clockRegression
  | notApplicable
  | bucketTableFull
deriving DecidableEq, Repr

structure AdmissionResult where
  outcome : AdmissionOutcome := .notApplicable
  waitMs : UInt64 := 0
  code : ErrorCode := .ok
  bucket : TokenBucketState := {}
  reasons : ReasonChain := []
deriving DecidableEq, Repr

structure AdmissionEntry where
  bucket : TokenBucketState := {}
  lastUsedMonotonicMs : UInt64 := 0
deriving DecidableEq, Repr

structure AdmissionController where
  buckets : KeyMap FlowGroupId AdmissionEntry := ∅
  capacity : UInt32 := Limits.tokenBucketsMax.toUInt32

namespace AdmissionController

/-- A result with one reason about a flow group or a collective. -/
def answer
    (outcome : AdmissionOutcome) (code : ErrorCode) (reason detail : Text)
    (subject : Identity) : AdmissionResult :=
  { outcome := outcome, code := code, reasons := ReasonChain.add [] reason detail subject }

/-- What the bucket answers to a request of the given size. -/
def consumeResult
    (decision : DecisionRecord) (requestBytes : UInt64) (status : Status)
    (bucket : TokenBucketState) : AdmissionResult :=
  if status.isOk then
    { answer .granted .ok (text "admission_granted")
        (if decision.pacing.burstBytes < requestBytes then
          text "the requested volume exceeds the class burst ceiling, so the bucket depth was raised to one request and this first release was admitted"
        else
          text "token bucket released the requested volume at the admitted rate")
        decision.flowGroup with
      bucket := bucket }
  else if status.code = .admissionClockRegression then
    { answer .clockRegression status.code (text "admission_clock_regression")
        (text "the supplied monotonic clock moved backwards; tokens were not granted")
        decision.flowGroup with
      bucket := bucket }
  else
    { answer .rateLimited .admissionRateLimited (text "admission_rate_limited")
        (text "the token bucket for this flow group is empty; the flow group is deferred, not denied")
        decision.flowGroup with
      bucket := bucket
      waitMs := TokenBucket.delayUntilAvailableMs bucket requestBytes }

/-- Draws the volume of the group from its bucket, made on first use. -/
def draw
    (controller : AdmissionController) (decision : DecisionRecord) (nowMonotonicMs : UInt64) :
    AdmissionResult × AdmissionController :=
  let existing := controller.buckets.find decision.flowGroup
  if existing = none ∧ controller.capacity.toNat ≤ controller.buckets.size then
    (answer .bucketTableFull .admissionBucketCapacity (text "admission_bucket_table_full")
      (text "the admission table is full; no bucket can be created for this flow group")
      decision.flowGroup, controller)
  else
    let entry := existing.getD {}
    let bytes := decision.group.totalLogicalBytes
    let requestBytes := if bytes = 0 then 1 else bytes
    let (status, bucket) :=
      TokenBucket.tryConsume entry.bucket nowMonotonicMs requestBytes
        decision.pacing.admittedBandwidthBps (max decision.pacing.burstBytes requestBytes)
    (consumeResult decision requestBytes status bucket,
      { controller with
        buckets := controller.buckets.assign decision.flowGroup
          { bucket := bucket, lastUsedMonotonicMs := nowMonotonicMs } })

def admitDecision
    (controller : AdmissionController) (decision : DecisionRecord) (nowMonotonicMs : UInt64) :
    AdmissionResult × AdmissionController :=
  if outcomeGrantsAuthority decision.outcome = false ∨ decision.flowGroupConstructed = false then
    (answer .notApplicable .ok (text "admission_not_applicable")
      (text "the decision grants no authority, so no traffic may be released for it")
      decision.collectiveInstance.id, controller)
  else if decision.pacing.mode = .none ∨ decision.pacing.mode = .immediate then
    (answer .granted .ok (text "admission_immediate")
      (text "the pacing mode releases this flow group immediately") decision.flowGroup, controller)
  else if decision.pacing.admittedBandwidthBps = unlimitedRate then
    (answer .granted .ok (text "admission_unlimited")
      (text "the class ceiling is explicitly unlimited, so no token bucket applies")
      decision.flowGroup, controller)
  else if decision.pacing.admittedBandwidthBps = 0 then
    (answer .rateLimited .admissionRateLimited (text "admission_zero_rate")
      (text "the admitted rate is zero; no traffic may be released until evidence changes")
      decision.flowGroup, controller)
  else
    controller.draw decision nowMonotonicMs

def clear (controller : AdmissionController) : AdmissionController :=
  { controller with buckets := ∅ }

end AdmissionController

structure DecisionHistory where
  capacity : Nat := Limits.decisionHistoryDefaultCapacity
  records : List DecisionRecord := []
  correlations : KeyMap Identity UInt64 := ∅
  firstOrdinal : UInt64 := 1
  nextOrdinal : UInt64 := 1
  evicted : UInt64 := 0

namespace DecisionHistory

/-- Drops the oldest records beyond the capacity. -/
def trim (history : DecisionHistory) : DecisionHistory :=
  let excess := history.records.length - history.capacity
  { history with
    records := history.records.drop excess
    firstOrdinal := history.firstOrdinal + excess.toUInt64
    evicted := history.evicted + excess.toUInt64 }

def setCapacity (history : DecisionHistory) (capacity : Nat) : DecisionHistory :=
  trim
    { history with
      capacity := min (if capacity = 0 then 1 else capacity) Limits.decisionHistoryCapacityMax }

/-- Appends a decision under the next ordinal, which is returned. -/
def record (history : DecisionHistory) (decision : DecisionRecord) : UInt64 × DecisionHistory :=
  let ordinal := history.nextOrdinal
  (ordinal,
    trim
      { history with
        nextOrdinal := ordinal + 1
        records := history.records ++ [{ decision with decisionSequence := ⟨ordinal⟩ }] })

def bindCorrelation
    (history : DecisionHistory) (correlation ordinal : UInt64) : DecisionHistory :=
  if correlation = 0 then
    history
  else
    let correlations :=
      if history.capacity ≤ history.correlations.size then ∅ else history.correlations
    { history with correlations := correlations.assign ⟨correlation, 0⟩ ordinal }

def clear (history : DecisionHistory) : DecisionHistory :=
  { capacity := history.capacity }

end DecisionHistory

end TrafficFabric
