import TrafficFabric.Engine
import TrafficFabric.Lib.KeyMap

/-!
# Coordinator authority

The epoch, the installed generations, the liveness of participants and the
rules that decide which of them is current.  Every operation runs under one
lock, so each is a function of the state.

A participant is fenced by incarnation.  A strictly lower incarnation than the
highest accepted one is refused, an equal one is accepted only while its record
has not ended, and a strictly greater one replaces the record.
-/

namespace TrafficFabric

open Lib

/-- The generations accepted on one axis, oldest first, at most 64 of them. -/
structure GenerationHistory where
  seen : List Identity := []
deriving DecidableEq, Repr

namespace GenerationHistory

def capacity : Nat := 64

def remember (history : GenerationHistory) (generation : Identity) : GenerationHistory :=
  if generation.isNone then
    history
  else
    let seen := history.seen ++ [generation]
    ⟨if capacity < seen.length then seen.tail else seen⟩

def contains (history : GenerationHistory) (generation : Identity) : Bool :=
  decide (generation ∈ history.seen)

end GenerationHistory

inductive InstallResult where
  | installed
  | rejectedOlderGeneration
  | rejectedInvalid
  | rejectedOversized
  | rejectedSameGeneration
deriving DecidableEq, Repr

inductive PublishResult where
  | accepted
  | fencedStaleIncarnation
  | rejectedCapacity
  | rejectedInvalid
deriving DecidableEq, Repr

/-- What may cross a restart: descriptions, never liveness. -/
structure DurableAuthority where
  lastEpoch : CoordinatorEpoch := {}
  policyGeneration : PolicyGeneration := {}
  topologyGeneration : TopologyGeneration := {}
  topology : TopologyEvidence := {}
  policy : TrafficPolicy := {}
  restartCount : UInt64 := 0
deriving DecidableEq, Repr

structure AuthorityState where
  epoch : CoordinatorEpoch := {}
  lastDurableEpoch : CoordinatorEpoch := {}
  policyGeneration : PolicyGeneration := {}
  topologyGeneration : TopologyGeneration := {}
  capacityGeneration : EvidenceGeneration := {}
  congestionGeneration : EvidenceGeneration := {}
  policy : Option TrafficPolicy := none
  topology : Option TopologyEvidence := none
  capacity : Option CapacityEvidence := none
  congestion : Option CongestionEvidence := none
  policyHistory : GenerationHistory := {}
  topologyHistory : GenerationHistory := {}
  capacityHistory : GenerationHistory := {}
  congestionHistory : GenerationHistory := {}
  peers : KeyMap ParticipantId PeerLiveness := ∅
  highestIncarnation : KeyMap ParticipantId BootIncarnation := ∅
  freshness : FreshnessPolicy := {}
  bootMonotonicMs : UInt64 := 0

namespace AuthorityState

/-- Forgets the capacity and the congestion observation. -/
def invalidateDynamicEvidence (state : AuthorityState) : AuthorityState :=
  { state with
    capacity := none
    congestion := none
    capacityGeneration := {}
    congestionGeneration := {} }

/-- Forgets every participant and every incarnation seen. -/
def clearPeers (state : AuthorityState) : AuthorityState :=
  { state with peers := ∅, highestIncarnation := ∅ }

/--
The draw a boot takes: the first that is neither the durable nor the present
epoch.  Without one the call is still drawing.
-/
def bootDraw
    (state : AuthorityState) (lastDurableEpoch : CoordinatorEpoch) (draws : List Minted) :
    Option Minted :=
  draws.find? (fun draw => !(draw.id == lastDurableEpoch || draw.id == state.epoch))

/-- Advances the epoch; nothing dynamic survives a boot. -/
def beginBoot
    (state : AuthorityState) (lastDurableEpoch : CoordinatorEpoch) (draws : List Minted) :
    AuthorityState :=
  match state.bootDraw lastDurableEpoch draws with
  | none => state
  | some draw =>
    { (state.invalidateDynamicEvidence).clearPeers with
      lastDurableEpoch := lastDurableEpoch
      epoch := draw.id }

def installPolicy
    (state : AuthorityState) (policy : TrafficPolicy) : InstallResult × AuthorityState :=
  if policy.validate.isOk = false then (.rejectedInvalid, state)
  else if policy.generation.isNone then (.rejectedInvalid, state)
  else if state.policy.isSome = true ∧ state.policyGeneration = policy.generation then
    (.rejectedSameGeneration, state)
  else if state.policyHistory.contains policy.generation then
    (.rejectedOlderGeneration, state)
  else
    (.installed,
      { state with
        policyHistory := state.policyHistory.remember policy.generation
        policyGeneration := policy.generation
        policy := some policy })

/-- A new topology drops the observations made against the one before. -/
def installTopology
    (state : AuthorityState) (topology : TopologyEvidence) : InstallResult × AuthorityState :=
  let topology := topology.canonicalize
  if topology.validate.isOk = false then (.rejectedInvalid, state)
  else if state.topology.isSome = true ∧ state.topologyGeneration = topology.generation then
    (.rejectedSameGeneration, state)
  else if state.topologyHistory.contains topology.generation then
    (.rejectedOlderGeneration, state)
  else
    (.installed,
      { state.invalidateDynamicEvidence with
        topologyHistory := state.topologyHistory.remember topology.generation
        topologyGeneration := topology.generation
        topology := some topology })

def installCapacity
    (state : AuthorityState) (capacity : CapacityEvidence) : InstallResult × AuthorityState :=
  let capacity := capacity.canonicalize
  if capacity.validate.isOk = false then (.rejectedInvalid, state)
  else if state.topology.isNone = true ∨
      capacity.topologyGeneration ≠ state.topologyGeneration then
    (.rejectedInvalid, state)
  else if state.capacity.isSome = true ∧ state.capacityGeneration = capacity.generation then
    (.rejectedSameGeneration, state)
  else if state.capacityHistory.contains capacity.generation then
    (.rejectedOlderGeneration, state)
  else
    (.installed,
      { state with
        capacityHistory := state.capacityHistory.remember capacity.generation
        capacityGeneration := capacity.generation
        capacity := some capacity })

def installCongestion
    (state : AuthorityState) (congestion : CongestionEvidence) : InstallResult × AuthorityState :=
  let congestion := congestion.canonicalize
  if congestion.validate.isOk = false then (.rejectedInvalid, state)
  else if state.topology.isNone = true ∨
      congestion.topologyGeneration ≠ state.topologyGeneration then
    (.rejectedInvalid, state)
  else if state.congestion.isSome = true ∧
      state.congestionGeneration = congestion.generation then
    (.rejectedSameGeneration, state)
  else if state.congestionHistory.contains congestion.generation then
    (.rejectedOlderGeneration, state)
  else
    (.installed,
      { state with
        congestionHistory := state.congestionHistory.remember congestion.generation
        congestionGeneration := congestion.generation
        congestion := some congestion })

/-- The states in which a boot may still refresh its own record. -/
def acceptsRepublish : ParticipantState → Bool
  | .live => true
  | .suspect => true
  | .advertised => true
  | _ => false

/-- The states in which an incarnation is spent for a heartbeat. -/
def incarnationIsSpent : ParticipantState → Bool
  | .fenced => true
  | .expired => true
  | .retired => true
  | _ => false

/-- Stores a record under a strictly newer incarnation, within the table bound. -/
def publishNewIncarnation
    (state : AuthorityState) (liveness : PeerLiveness) : PublishResult × AuthorityState :=
  if Limits.peersMax ≤ state.peers.size ∧ state.peers.find liveness.participant = none then
    (.rejectedCapacity, state)
  else
    (.accepted,
      { state with
        highestIncarnation :=
          state.highestIncarnation.assign liveness.participant liveness.incarnation
        peers := state.peers.assign liveness.participant liveness })

/-- Refreshes the record of the highest incarnation while its boot has not ended. -/
def publishSameIncarnation
    (state : AuthorityState) (liveness : PeerLiveness) : PublishResult × AuthorityState :=
  if (state.peers.find liveness.participant).all (fun stored => acceptsRepublish stored.state) then
    (.accepted, { state with peers := state.peers.assign liveness.participant liveness })
  else
    (.fencedStaleIncarnation, state)

def publishLiveness
    (state : AuthorityState) (liveness : PeerLiveness) : PublishResult × AuthorityState :=
  if liveness.participant.isNone || liveness.incarnation.isNone then
    (.rejectedInvalid, state)
  else if liveness.state = .unspecified then
    (.rejectedInvalid, state)
  else
    match state.highestIncarnation.find liveness.participant with
    | none => publishNewIncarnation state liveness
    | some highest =>
      if liveness.incarnation < highest then (.fencedStaleIncarnation, state)
      else if liveness.incarnation = highest then publishSameIncarnation state liveness
      else publishNewIncarnation state liveness

/-- Whether a heartbeat names an incarnation that is fenced or spent. -/
def heartbeatIsFenced
    (state : AuthorityState) (participant : ParticipantId) (incarnation : BootIncarnation) :
    Bool :=
  match state.highestIncarnation.find participant with
  | none => false
  | some highest =>
    if incarnation < highest then true
    else if incarnation = highest then
      (state.peers.find participant).all (fun stored => incarnationIsSpent stored.state)
    else false

/-- The record a heartbeat leaves; a new boot keeps no binding of the one before. -/
def heartbeatRecord
    (stored : PeerLiveness) (participant : ParticipantId) (incarnation : BootIncarnation)
    (nowMonotonicMs ttlMs : UInt64) : PeerLiveness :=
  { participant := participant
    incarnation := incarnation
    state := .live
    lastSeenMonotonicMs := nowMonotonicMs
    expiresAtMonotonicMs := nowMonotonicMs + ttlMs
    node := if stored.incarnation = incarnation then stored.node else {}
    boundSession := if stored.incarnation = incarnation then stored.boundSession else {} }

/-- Reasserts a boot.  An unknown participant is recorded without a table bound. -/
def heartbeat
    (state : AuthorityState) (participant : ParticipantId) (incarnation : BootIncarnation)
    (nowMonotonicMs ttlMs : UInt64) : Bool × AuthorityState :=
  if participant.isNone || incarnation.isNone then
    (false, state)
  else if heartbeatIsFenced state participant incarnation then
    (false, state)
  else
    let stored := (state.peers.find participant).getD {}
    (true,
      { state with
        highestIncarnation := state.highestIncarnation.assign participant incarnation
        peers := state.peers.assign participant
          (heartbeatRecord stored participant incarnation nowMonotonicMs ttlMs) })

/-- The record with its incarnation fenced. -/
def fence (nowMonotonicMs : UInt64) (liveness : PeerLiveness) : PeerLiveness :=
  { liveness with state := .fenced, expiresAtMonotonicMs := nowMonotonicMs }

/-- Whether a record is bound to the session; an unset session binds none. -/
def isBoundTo (session : SessionId) (liveness : PeerLiveness) : Bool :=
  liveness.boundSession == session && session.isSome

/-- Whether a live record is at or past its expiry. -/
def isDue (nowMonotonicMs : UInt64) (liveness : PeerLiveness) : Bool :=
  liveness.state == .live && decide (liveness.expiresAtMonotonicMs ≤ nowMonotonicMs)

/-- Fences every record the predicate selects. -/
def fenceWhere
    (state : AuthorityState) (selected : PeerLiveness → Bool) (nowMonotonicMs : UInt64) :
    AuthorityState :=
  { state with
    peers := state.peers.mapValues fun liveness =>
      if selected liveness then fence nowMonotonicMs liveness else liveness }

/-- Fences every participant bound to a session and counts them. -/
def expireSession
    (state : AuthorityState) (session : SessionId) (nowMonotonicMs : UInt64) :
    Nat × AuthorityState :=
  ((state.peers.values.filter (isBoundTo session)).length,
    state.fenceWhere (isBoundTo session) nowMonotonicMs)

/-- Fences what is due and returns the identities in ascending order. -/
def expireDue
    (state : AuthorityState) (nowMonotonicMs : UInt64) : List ParticipantId × AuthorityState :=
  (((state.peers.values.filter (isDue nowMonotonicMs)).map
      PeerLiveness.participant).insertionSort (· ≤ ·),
    state.fenceWhere (isDue nowMonotonicMs) nowMonotonicMs)

def setFreshnessPolicy (state : AuthorityState) (policy : FreshnessPolicy) : AuthorityState :=
  { state with freshness := policy }

def durableSnapshot (state : AuthorityState) : DurableAuthority :=
  { lastEpoch := state.epoch
    policyGeneration := state.policyGeneration
    topologyGeneration := state.topologyGeneration
    topology := state.topology.getD {}
    policy := state.policy.getD {} }

/-- The checks on what a restart hands back. -/
def validateDurable (durable : DurableAuthority) : Status :=
  if durable.topologyGeneration.isSome = true ∧ durable.topology.validate.isOk = false then
    .error .persistenceImpossibleState
      (text "durable topology is not usable: " ++ durable.topology.validate.message)
  else if durable.topologyGeneration.isSome = true ∧
      durable.topology.generation ≠ durable.topologyGeneration then
    .error .persistenceImpossibleState
      (text "durable topology generation disagrees with the durable record")
  else if durable.policyGeneration.isSome = true ∧ durable.policy.validate.isOk = false then
    .error .persistenceImpossibleState
      (text "durable policy is not usable: " ++ durable.policy.validate.message)
  else if durable.policyGeneration.isSome = true ∧
      durable.policy.generation ≠ durable.policyGeneration then
    .error .persistenceImpossibleState
      (text "durable policy generation disagrees with the durable record")
  else
    Status.ok

/-- An unset durable generation leaves what is installed on that axis in place. -/
def restoreDurable
    (state : AuthorityState) (durable : DurableAuthority) (nowMonotonicMs : UInt64) :
    Status × AuthorityState :=
  let status := validateDurable durable
  if status.isOk = false then
    (status, state)
  else
    let hasTopology := durable.topologyGeneration.isSome
    let hasPolicy := durable.policyGeneration.isSome
    (Status.ok,
      { (state.invalidateDynamicEvidence).clearPeers with
        lastDurableEpoch := durable.lastEpoch
        topologyGeneration :=
          if hasTopology then durable.topologyGeneration else state.topologyGeneration
        topology := if hasTopology then some durable.topology else state.topology
        policyGeneration := if hasPolicy then durable.policyGeneration else state.policyGeneration
        policy := if hasPolicy then some durable.policy else state.policy
        bootMonotonicMs := nowMonotonicMs })

/-- The frozen view the engine evaluates. -/
def snapshot (state : AuthorityState) (nowMonotonicMs : UInt64) : EvaluationSnapshot :=
  { epoch := state.epoch
    policyGeneration := state.policyGeneration
    topologyGeneration := state.topologyGeneration
    capacityGeneration := state.capacityGeneration
    congestionGeneration := state.congestionGeneration
    topology := state.topology
    capacity := state.capacity
    congestion := state.congestion
    policy := state.policy
    peers := sortById PeerLiveness.participant state.peers.values
    freshness := state.freshness
    nowMonotonicMs := nowMonotonicMs
    capacityObservationAvailable := state.capacity.isSome
    congestionObservationAvailable := state.congestion.isSome
    topologyAvailable := state.topology.isSome
    policyAvailable := state.policy.isSome }

end AuthorityState

/-- The operations that change the authority, with what the environment supplies. -/
inductive AuthorityOp where
  | beginBoot (lastDurableEpoch : CoordinatorEpoch) (draws : List Minted)
  | installPolicy (policy : TrafficPolicy)
  | installTopology (topology : TopologyEvidence)
  | installCapacity (capacity : CapacityEvidence)
  | installCongestion (congestion : CongestionEvidence)
  | invalidateDynamicEvidence
  | publishLiveness (liveness : PeerLiveness)
  | heartbeat (participant : ParticipantId) (incarnation : BootIncarnation)
      (nowMonotonicMs ttlMs : UInt64)
  | expireSession (session : SessionId) (nowMonotonicMs : UInt64)
  | expireDue (nowMonotonicMs : UInt64)
  | setFreshnessPolicy (policy : FreshnessPolicy)
  | restoreDurable (durable : DurableAuthority) (nowMonotonicMs : UInt64)

/-- The state after one operation of the authority. -/
def authorityStep (state : AuthorityState) : AuthorityOp → AuthorityState
  | .beginBoot lastDurableEpoch draws => state.beginBoot lastDurableEpoch draws
  | .installPolicy policy => (state.installPolicy policy).2
  | .installTopology topology => (state.installTopology topology).2
  | .installCapacity capacity => (state.installCapacity capacity).2
  | .installCongestion congestion => (state.installCongestion congestion).2
  | .invalidateDynamicEvidence => state.invalidateDynamicEvidence
  | .publishLiveness liveness => (state.publishLiveness liveness).2
  | .heartbeat participant incarnation now ttl =>
    (state.heartbeat participant incarnation now ttl).2
  | .expireSession session now => (state.expireSession session now).2
  | .expireDue now => (state.expireDue now).2
  | .setFreshnessPolicy policy => state.setFreshnessPolicy policy
  | .restoreDurable durable now => (state.restoreDurable durable now).2

end TrafficFabric
