import TrafficFabric.FlowGroup

/-!
# Traffic classes, policy and the token bucket

The network treatment classes, the generation stamped policy that maps
collective classes to them, the integer congestion response table, and the
token bucket that paces releases.  All rates are 64 bit words and every
operation on them wraps as the machine's does.
-/

namespace TrafficFabric

inductive TrafficClass where
  | unclassified
  | latencyCritical
  | controlPlane
  | bulkData
  | bestEffortBulk
  | background
  | isolated
  | probe
deriving DecidableEq, Repr

def trafficClassIsClassified (value : TrafficClass) : Bool :=
  value != .unclassified

inductive IsolationMode where
  | shared
  | classIsolated
  | dedicatedPath
deriving DecidableEq, Repr

/-- The explicit statement that a rate is not limited. -/
def unlimitedRate : UInt64 := 0xFFFFFFFFFFFFFFFF

def maximumPriority : UInt64 := 15

structure TrafficClassPolicy where
  trafficClass : TrafficClass := .unclassified
  priority : UInt64 := 0
  minimumBandwidthBps : UInt64 := 0
  maximumBandwidthBps : UInt64 := unlimitedRate
  burstBytes : UInt64 := 0
  requiresSimultaneousStart : Bool := false
  requiresEvidenceFreshness : Bool := true
  isolation : IsolationMode := .shared
deriving DecidableEq, Repr

def defaultUtilizationBps : Vector UInt32 5 := #v[6000, 7500, 8500, 9500, 9900]

def defaultRateNumeratorPerMille : Vector UInt32 5 := #v[1000, 800, 600, 400, 150]

/-- Utilization boundaries and the rate numerator of each bucket. -/
structure CongestionResponseTable where
  utilizationBps : Vector UInt32 5 := defaultUtilizationBps
  rateNumeratorPerMille : Vector UInt32 5 := defaultRateNumeratorPerMille
deriving DecidableEq, Repr

namespace CongestionResponseTable

def bucketCount : Nat := 5

/-- The entry before; the first has none, and its value is not read. -/
def previous (index : Fin 5) : Fin 5 :=
  index - 1

/-- Boundaries ascend within the scale, and every numerator is usable. -/
def isValid (table : CongestionResponseTable) : Bool :=
  (List.finRange 5).all fun index =>
    !(table.utilizationBps.get index == 0 || decide (10000 < table.utilizationBps.get index)) &&
    !(table.rateNumeratorPerMille.get index == 0 ||
        decide (1000 < table.rateNumeratorPerMille.get index)) &&
    !(decide (0 < index.val) &&
        decide (table.utilizationBps.get index ≤ table.utilizationBps.get (previous index)))

end CongestionResponseTable

structure CollectiveClassPolicy where
  collectiveClass : CollectiveClass := .unknown
  trafficClass : TrafficClass := .unclassified
  admitWhenUnknownSemantics : Bool := false
  allowMemberOverride : Bool := false
  freshnessRequirementMs : UInt64 := 2000
deriving DecidableEq, Repr

/-- The complete policy set. -/
structure TrafficPolicy where
  generation : PolicyGeneration := {}
  classPolicies : List TrafficClassPolicy := []
  collectivePolicies : List CollectiveClassPolicy := []
  congestionResponse : CongestionResponseTable := {}
  defaultMaximumBandwidthBps : UInt64 := unlimitedRate
  burstMultiplierPerMille : UInt64 := 250
deriving DecidableEq, Repr

namespace TrafficPolicy

/-- The first stated policy of a traffic class. -/
def findClass (policy : TrafficPolicy) (value : TrafficClass) : Option TrafficClassPolicy :=
  policy.classPolicies.find? (fun entry => entry.trafficClass == value)

/-- The first stated policy of a collective class. -/
def findCollective
    (policy : TrafficPolicy) (value : CollectiveClass) : Option CollectiveClassPolicy :=
  policy.collectivePolicies.find? (fun entry => entry.collectiveClass == value)

/-- The pass over the class policies; `seen` holds the classes before. -/
def validateClasses : List TrafficClass → List TrafficClassPolicy → Status
  | _, [] => Status.ok
  | seen, entry :: rest =>
    if entry.trafficClass ∈ seen then
      .error .decodeDuplicateEntry (text "duplicate traffic class policy")
    else if maximumPriority < entry.priority then
      .error .validationRateInvalid (text "traffic class priority out of range")
    else if entry.maximumBandwidthBps ≠ unlimitedRate ∧
        entry.maximumBandwidthBps < entry.minimumBandwidthBps then
      .error .validationRateInvalid (text "traffic class floor exceeds its ceiling")
    else if (1 : UInt64) <<< 62 < entry.burstBytes then
      .error .validationRateInvalid (text "traffic class burst is absurd")
    else
      validateClasses (entry.trafficClass :: seen) rest

/-- The checks after the pass over the class policies. -/
def validateTables (policy : TrafficPolicy) : Status :=
  if (policy.findClass .unclassified).isNone then
    .error .validationPolicyMissing (text "policy must state the unclassified class explicitly")
  else if (policy.findCollective .unknown).isNone then
    .error .validationPolicyMissing
      (text "policy must state the unknown collective class explicitly")
  else if policy.congestionResponse.isValid = false then
    .error .validationRateInvalid (text "congestion response table is not monotonic")
  else if 1000 < policy.burstMultiplierPerMille then
    .error .validationRateInvalid (text "burst multiplier exceeds the whole rate")
  else if 16 < policy.collectivePolicies.length then
    .error .validationPolicyMissing (text "traffic policy has too many collective policies")
  else
    Status.ok

def validate (policy : TrafficPolicy) : Status :=
  if policy.generation.isNone then
    .error .validationGenerationUnset (text "traffic policy has no generation")
  else if policy.classPolicies.isEmpty then
    .error .validationPolicyMissing (text "traffic policy has no class policies")
  else if 8 < policy.classPolicies.length then
    .error .validationPolicyMissing (text "traffic policy has too many class policies")
  else
    let status := validateClasses [] policy.classPolicies
    if status.isOk = false then status else validateTables policy

/-- A class policy entry of the default table. -/
def standardClass
    (trafficClass : TrafficClass) (priority minimumBandwidthBps maximumBandwidthBps : UInt64)
    (simultaneous requiresFreshness : Bool) (isolation : IsolationMode) : TrafficClassPolicy :=
  { trafficClass := trafficClass
    priority := priority
    minimumBandwidthBps := minimumBandwidthBps
    maximumBandwidthBps := maximumBandwidthBps
    burstBytes := 0
    requiresSimultaneousStart := simultaneous
    requiresEvidenceFreshness := requiresFreshness
    isolation := isolation }

/-- A collective policy entry of the default table. -/
def standardCollective
    (collectiveClass : CollectiveClass) (trafficClass : TrafficClass)
    (admitUnknown allowOverride : Bool) (freshnessMs : UInt64) : CollectiveClassPolicy :=
  { collectiveClass := collectiveClass
    trafficClass := trafficClass
    admitWhenUnknownSemantics := admitUnknown
    allowMemberOverride := allowOverride
    freshnessRequirementMs := freshnessMs }

/-- The documented default policy. -/
def standard (generation : PolicyGeneration) : TrafficPolicy :=
  { generation := generation
    classPolicies :=
      [ standardClass .unclassified 0 0 0 false true .shared,
        standardClass .latencyCritical 15 100000000 40000000000 true true .classIsolated,
        standardClass .controlPlane 14 10000000 10000000000 false false .classIsolated,
        standardClass .bulkData 8 1000000000 unlimitedRate false true .shared,
        standardClass .bestEffortBulk 5 0 50000000000 false true .shared,
        standardClass .background 1 0 10000000000 false false .shared,
        standardClass .isolated 15 1000000000 unlimitedRate false true .dedicatedPath,
        standardClass .probe 3 0 100000000 false false .shared ]
    collectivePolicies :=
      [ standardCollective .unknown .unclassified false false 0,
        standardCollective .unknownVendor .unclassified false false 0,
        standardCollective .allReduce .bulkData true true 2000,
        standardCollective .allGather .bulkData true true 2000,
        standardCollective .reduceScatter .bulkData true true 2000,
        standardCollective .broadcast .bulkData true true 2000,
        standardCollective .gather .bulkData true true 2000,
        standardCollective .scatter .bulkData true true 2000,
        standardCollective .allToAll .bulkData true true 2000,
        standardCollective .pointToPoint .bestEffortBulk true true 2000,
        standardCollective .barrierOnly .latencyCritical true false 500,
        standardCollective .sendRecvGrouped .bestEffortBulk true true 2000,
        standardCollective .reduce .bulkData true true 2000,
        standardCollective .scan .bulkData true true 2000,
        standardCollective .sendRecvSplit .bestEffortBulk true true 2000 ] }

end TrafficPolicy

inductive PacingMode where
  | none
  | immediate
  | tokenBucket
  | rateLimited
  | shaped
deriving DecidableEq, Repr

/-- Advice bound to one flow group and one generation set. -/
structure PacingIntent where
  mode : PacingMode := .none
  flowGroup : FlowGroupId := {}
  collectiveInstance : CollectiveInstance := {}
  admittedBandwidthBps : UInt64 := 0
  ceilingBandwidthBps : UInt64 := 0
  burstBytes : UInt64 := 0
  utilizationBps : UInt64 := 0
  releaseAfterMonotonicMs : UInt64 := 0
  reasonCode : Identity := {}
deriving DecidableEq, Repr

structure TokenBucketState where
  tokens : UInt64 := 0
  lastRefillMonotonicMs : UInt64 := 0
  rateBps : UInt64 := 0
  burstBytes : UInt64 := 0
  initialized : Bool := false
deriving DecidableEq, Repr

namespace TokenBucket

/-- What the elapsed interval earns, saturated at the burst on overflow. -/
def gained (rateBps elapsedMs burstBytes : UInt64) : UInt64 :=
  let quotient := rateBps / 1000
  let remainder := rateBps % 1000
  let whole := quotient * elapsedMs
  if whole / elapsedMs ≠ quotient then
    burstBytes
  else
    let total := whole + (remainder * elapsedMs) / 1000
    if total < whole then burstBytes else total

/-- Refills the bucket from the supplied clock. -/
def refill
    (state : TokenBucketState) (clockNowMs rateBps burstBytes : UInt64) :
    Status × TokenBucketState :=
  if rateBps = unlimitedRate then
    (Status.ok,
      { tokens := burstBytes
        lastRefillMonotonicMs := clockNowMs
        rateBps := unlimitedRate
        burstBytes := burstBytes
        initialized := true })
  else if rateBps = 0 then
    (.error .admissionBucketUnset (text "token bucket has no rate"), state)
  else if state.initialized = false then
    (Status.ok,
      { tokens := burstBytes
        lastRefillMonotonicMs := clockNowMs
        rateBps := rateBps
        burstBytes := burstBytes
        initialized := true })
  else if clockNowMs < state.lastRefillMonotonicMs then
    (.error .admissionClockRegression
      (text "monotonic clock moved backwards; refusing to grant tokens"), state)
  else
    let elapsedMs := clockNowMs - state.lastRefillMonotonicMs
    let state := { state with rateBps := rateBps, burstBytes := burstBytes }
    let state :=
      if elapsedMs ≠ 0 then
        let gained := gained rateBps elapsedMs burstBytes
        let capped := if burstBytes < gained then burstBytes else gained
        let headroom := if burstBytes ≤ state.tokens then 0 else burstBytes - state.tokens
        { state with
          tokens := state.tokens + if headroom < capped then headroom else capped
          lastRefillMonotonicMs := clockNowMs }
      else
        state
    (Status.ok, if burstBytes < state.tokens then { state with tokens := burstBytes } else state)

/-- Refills, then takes the tokens if there are enough. -/
def tryConsume
    (state : TokenBucketState) (clockNowMs bytes rateBps burstBytes : UInt64) :
    Status × TokenBucketState :=
  let (status, state) := refill state clockNowMs rateBps burstBytes
  if status.isOk = false then
    (status, state)
  else if state.rateBps = unlimitedRate then
    (Status.ok, state)
  else if bytes ≤ state.tokens then
    (Status.ok, { state with tokens := state.tokens - bytes })
  else
    (.error .admissionRateLimited (text "token bucket is empty for this request"), state)

/-- Milliseconds until enough tokens exist; zero means now. -/
def delayUntilAvailableMs (state : TokenBucketState) (bytes : UInt64) : UInt64 :=
  if state.rateBps = unlimitedRate then 0
  else if state.rateBps = 0 then 0
  else if bytes ≤ state.tokens then 0
  else
    let deficit := bytes - state.tokens
    let milliseconds := (deficit * 1000 + state.rateBps - 1) / state.rateBps
    if milliseconds = 0 then 1 else milliseconds

end TokenBucket

end TrafficFabric
