import TrafficFabric.Authority
import TrafficFabric.Lib.Run

/-!
# What an operation of the authority does

An installation either is refused and writes nothing, or stores what it was
given under a generation the axis does not remember.  One relation lists this and
everything else an operation can do to the authority; what is known of a
participant is read off the publications and the passes that fence.
-/

namespace TrafficFabric

open Lib AuthorityState

section Installations

variable (s : AuthorityState)

theorem installPolicy_cases (policy : TrafficPolicy) :
    ((s.installPolicy policy).1 ≠ .installed ∧ (s.installPolicy policy).2 = s) ∨
      (policy.validate.isOk = true ∧ policy.generation.isNone = false ∧
        s.policyHistory.contains policy.generation = false ∧
        s.installPolicy policy =
          (.installed,
            { s with
              policyHistory := s.policyHistory.remember policy.generation
              policyGeneration := policy.generation
              policy := some policy })) := by
  unfold installPolicy
  split_ifs with hvalid hset hsame hseen
  · exact .inl ⟨by simp, rfl⟩
  · exact .inl ⟨by simp, rfl⟩
  · exact .inl ⟨by simp, rfl⟩
  · exact .inl ⟨by simp, rfl⟩
  · exact .inr ⟨by simpa using hvalid, by simpa using hset, by simpa using hseen, rfl⟩

theorem installTopology_cases (topology : TopologyEvidence) :
    ((s.installTopology topology).1 ≠ .installed ∧ (s.installTopology topology).2 = s) ∨
      (topology.canonicalize.validate.isOk = true ∧ topology.generation.isNone = false ∧
        s.topologyHistory.contains topology.generation = false ∧
        s.installTopology topology =
          (.installed,
            { s.invalidateDynamicEvidence with
              topologyHistory := s.topologyHistory.remember topology.generation
              topologyGeneration := topology.generation
              topology := some topology.canonicalize })) := by
  unfold installTopology
  simp only
  split_ifs with hvalid hsame hseen
  · exact .inl ⟨by simp, rfl⟩
  · exact .inl ⟨by simp, rfl⟩
  · exact .inl ⟨by simp, rfl⟩
  · have hvalid' : topology.canonicalize.validate.isOk = true := by simpa using hvalid
    have hset : topology.canonicalize.generation ≠ Identity.none :=
      TopologyEvidence.generation_ne_none_of_validate hvalid'
    exact .inr ⟨hvalid', (Identity.isNone_eq_false_iff _).mpr hset,
      Bool.eq_false_iff.mpr hseen, rfl⟩

theorem installCapacity_cases (capacity : CapacityEvidence) :
    ((s.installCapacity capacity).1 ≠ .installed ∧ (s.installCapacity capacity).2 = s) ∨
      (capacity.canonicalize.validate.isOk = true ∧ capacity.generation.isNone = false ∧
        s.topology.isSome = true ∧
        capacity.topologyGeneration = s.topologyGeneration ∧
        s.capacityHistory.contains capacity.generation = false ∧
        s.installCapacity capacity =
          (.installed,
            { s with
              capacityHistory := s.capacityHistory.remember capacity.generation
              capacityGeneration := capacity.generation
              capacity := some capacity.canonicalize })) := by
  unfold installCapacity
  simp only
  split_ifs with hvalid hbound hsame hseen
  · exact .inl ⟨by simp, rfl⟩
  · exact .inl ⟨by simp, rfl⟩
  · exact .inl ⟨by simp, rfl⟩
  · exact .inl ⟨by simp, rfl⟩
  · rw [not_or, not_not] at hbound
    have htopology : s.topology.isSome = true :=
      Option.isSome_iff_ne_none.mpr (by simpa using hbound.1)
    have hvalid' : capacity.canonicalize.validate.isOk = true := by simpa using hvalid
    have hset : capacity.canonicalize.generation ≠ Identity.none :=
      CapacityEvidence.generation_ne_none_of_validate hvalid'
    exact .inr ⟨hvalid', (Identity.isNone_eq_false_iff _).mpr hset, htopology, hbound.2,
      Bool.eq_false_iff.mpr hseen, rfl⟩

theorem installCongestion_cases (congestion : CongestionEvidence) :
    ((s.installCongestion congestion).1 ≠ .installed ∧
        (s.installCongestion congestion).2 = s) ∨
      (congestion.canonicalize.validate.isOk = true ∧ congestion.generation.isNone = false ∧
        s.topology.isSome = true ∧
        congestion.topologyGeneration = s.topologyGeneration ∧
        s.congestionHistory.contains congestion.generation = false ∧
        s.installCongestion congestion =
          (.installed,
            { s with
              congestionHistory := s.congestionHistory.remember congestion.generation
              congestionGeneration := congestion.generation
              congestion := some congestion.canonicalize })) := by
  unfold installCongestion
  simp only
  split_ifs with hvalid hbound hsame hseen
  · exact .inl ⟨by simp, rfl⟩
  · exact .inl ⟨by simp, rfl⟩
  · exact .inl ⟨by simp, rfl⟩
  · exact .inl ⟨by simp, rfl⟩
  · rw [not_or, not_not] at hbound
    have htopology : s.topology.isSome = true :=
      Option.isSome_iff_ne_none.mpr (by simpa using hbound.1)
    have hvalid' : congestion.canonicalize.validate.isOk = true := by simpa using hvalid
    have hset : congestion.canonicalize.generation ≠ Identity.none :=
      CongestionEvidence.generation_ne_none_of_validate hvalid'
    exact .inr ⟨hvalid', (Identity.isNone_eq_false_iff _).mpr hset, htopology, hbound.2,
      Bool.eq_false_iff.mpr hseen, rfl⟩

/-- What durable state has to satisfy to be restored. -/
theorem validateDurable_isOk {durable : DurableAuthority}
    (h : (validateDurable durable).isOk = true) :
    (durable.topologyGeneration.isSome = true →
        durable.topology.validate.isOk = true ∧
          durable.topology.generation = durable.topologyGeneration) ∧
      (durable.policyGeneration.isSome = true →
        durable.policy.validate.isOk = true ∧
          durable.policy.generation = durable.policyGeneration) := by
  unfold validateDurable at h
  split_ifs at h <;> simp_all

/-- The state a restoration leaves: descriptions as far as the durable state has them. -/
def restoredState
    (durable : DurableAuthority) (now : UInt64) : AuthorityState :=
  { s.invalidateDynamicEvidence.clearPeers with
    lastDurableEpoch := durable.lastEpoch
    topologyGeneration :=
      if durable.topologyGeneration.isSome then durable.topologyGeneration
      else s.topologyGeneration
    topology := if durable.topologyGeneration.isSome then some durable.topology else s.topology
    policyGeneration :=
      if durable.policyGeneration.isSome then durable.policyGeneration else s.policyGeneration
    policy := if durable.policyGeneration.isSome then some durable.policy else s.policy
    bootMonotonicMs := now }

theorem restoreDurable_cases (durable : DurableAuthority) (now : UInt64) :
    ((validateDurable durable).isOk = false ∧
        (s.restoreDurable durable now).1.isOk = false ∧
        (s.restoreDurable durable now).2 = s) ∨
      ((validateDurable durable).isOk = true ∧
        s.restoreDurable durable now = (Status.ok, restoredState s durable now)) := by
  unfold restoreDurable
  simp only
  split
  · rename_i hrefused
    exact .inl ⟨hrefused, hrefused, rfl⟩
  · rename_i haccepted
    exact .inr ⟨by simpa using haccepted, rfl⟩

end Installations

/-- Two states that differ at most in what is known of participants. -/
def SameButPeers (s s' : AuthorityState) : Prop :=
  ∃ peers highest, s' = { s with peers := peers, highestIncarnation := highest }

theorem sameButPeers_refl (s : AuthorityState) : SameButPeers s s := by
  exact ⟨s.peers, s.highestIncarnation, rfl⟩

theorem publishNewIncarnation_sameButPeers (s : AuthorityState) (liveness : PeerLiveness) :
    SameButPeers s (s.publishNewIncarnation liveness).2 := by
  unfold publishNewIncarnation
  split
  · exact sameButPeers_refl s
  · exact ⟨_, _, rfl⟩

theorem publishSameIncarnation_sameButPeers (s : AuthorityState) (liveness : PeerLiveness) :
    SameButPeers s (s.publishSameIncarnation liveness).2 := by
  unfold publishSameIncarnation
  split
  · exact ⟨_, s.highestIncarnation, rfl⟩
  · exact sameButPeers_refl s

/-- A publication touches nothing but the participants. -/
theorem publishLiveness_sameButPeers (s : AuthorityState) (liveness : PeerLiveness) :
    SameButPeers s (s.publishLiveness liveness).2 := by
  unfold publishLiveness
  split
  · exact sameButPeers_refl s
  · split
    · exact sameButPeers_refl s
    · split
      · exact publishNewIncarnation_sameButPeers s liveness
      · split
        · exact sameButPeers_refl s
        · split
          · exact publishSameIncarnation_sameButPeers s liveness
          · exact publishNewIncarnation_sameButPeers s liveness

/-- A heartbeat touches nothing but the participants. -/
theorem heartbeat_sameButPeers (s : AuthorityState) (participant : ParticipantId)
    (incarnation : BootIncarnation) (now ttl : UInt64) :
    SameButPeers s (s.heartbeat participant incarnation now ttl).2 := by
  unfold heartbeat
  split
  · exact sameButPeers_refl s
  · split
    · exact sameButPeers_refl s
    · exact ⟨_, _, rfl⟩

/-- The operations that begin a new boot or bring durable state back. -/
def AuthorityOp.restarts : AuthorityOp → Bool
  | .beginBoot _ _ => true
  | .restoreDurable _ _ => true
  | _ => false

/-- The operations that may change what is known of a participant, apart from restarts. -/
def AuthorityOp.touchesPeers : AuthorityOp → Bool
  | .publishLiveness _ | .heartbeat _ _ _ _ | .expireSession _ _ | .expireDue _ => true
  | _ => false

section Effects

variable (s : AuthorityState)

/-- Everything an operation can do to the authority. -/
inductive AuthorityEffect : AuthorityOp → AuthorityState → Prop
  | same (op : AuthorityOp) : AuthorityEffect op s
  | booted
      (last : CoordinatorEpoch) (draws : List Minted) (draw : Minted) :
      AuthorityEffect (.beginBoot last draws)
        { s.invalidateDynamicEvidence.clearPeers with
          lastDurableEpoch := last
          epoch := draw.id }
  | policy
      (policy : TrafficPolicy)
      (accepted : (s.installPolicy policy).1 = .installed)
      (valid : policy.validate.isOk = true)
      (set : policy.generation.isNone = false) :
      AuthorityEffect (.installPolicy policy)
        { s with
          policyHistory := s.policyHistory.remember policy.generation
          policyGeneration := policy.generation
          policy := some policy }
  | topology
      (topology : TopologyEvidence)
      (accepted : (s.installTopology topology).1 = .installed)
      (valid : topology.canonicalize.validate.isOk = true)
      (set : topology.generation.isNone = false) :
      AuthorityEffect (.installTopology topology)
        { s.invalidateDynamicEvidence with
          topologyHistory := s.topologyHistory.remember topology.generation
          topologyGeneration := topology.generation
          topology := some topology.canonicalize }
  | capacity
      (capacity : CapacityEvidence)
      (accepted : (s.installCapacity capacity).1 = .installed)
      (valid : capacity.canonicalize.validate.isOk = true)
      (set : capacity.generation.isNone = false)
      (bound : s.topology.isSome = true ∧ capacity.topologyGeneration = s.topologyGeneration) :
      AuthorityEffect (.installCapacity capacity)
        { s with
          capacityHistory := s.capacityHistory.remember capacity.generation
          capacityGeneration := capacity.generation
          capacity := some capacity.canonicalize }
  | congestion
      (congestion : CongestionEvidence)
      (accepted : (s.installCongestion congestion).1 = .installed)
      (valid : congestion.canonicalize.validate.isOk = true)
      (set : congestion.generation.isNone = false)
      (bound : s.topology.isSome = true ∧ congestion.topologyGeneration = s.topologyGeneration) :
      AuthorityEffect (.installCongestion congestion)
        { s with
          congestionHistory := s.congestionHistory.remember congestion.generation
          congestionGeneration := congestion.generation
          congestion := some congestion.canonicalize }
  | dropped : AuthorityEffect .invalidateDynamicEvidence s.invalidateDynamicEvidence
  | peers
      (op : AuthorityOp) {s' : AuthorityState}
      (touches : op.touchesPeers = true)
      (rest : SameButPeers s s') :
      AuthorityEffect op s'
  | freshness
      (policy : FreshnessPolicy) :
      AuthorityEffect (.setFreshnessPolicy policy) { s with freshness := policy }
  | restored
      (durable : DurableAuthority) (now : UInt64)
      (valid : (AuthorityState.validateDurable durable).isOk = true) :
      AuthorityEffect (.restoreDurable durable now) (restoredState s durable now)

theorem authorityStep_effect (op : AuthorityOp) : AuthorityEffect s op (authorityStep s op) := by
  cases op with
  | beginBoot last draws =>
    simp only [authorityStep, beginBoot]
    split
    · exact .same _
    · exact .booted last draws _
  | installPolicy policy =>
    rw [authorityStep]
    rcases installPolicy_cases s policy with ⟨_, hsame⟩ | ⟨hvalid, hset, _, hinstalled⟩
    · rw [hsame]
      exact .same _
    · rw [hinstalled]
      exact .policy policy (congrArg Prod.fst hinstalled) hvalid hset
  | installTopology topology =>
    rw [authorityStep]
    rcases installTopology_cases s topology with ⟨_, hsame⟩ | ⟨hvalid, hset, _, hinstalled⟩
    · rw [hsame]
      exact .same _
    · rw [hinstalled]
      exact .topology topology (congrArg Prod.fst hinstalled) hvalid hset
  | installCapacity capacity =>
    rw [authorityStep]
    rcases installCapacity_cases s capacity with
      ⟨_, hsame⟩ | ⟨hvalid, hset, htopology, hbound, _, hinstalled⟩
    · rw [hsame]
      exact .same _
    · rw [hinstalled]
      exact .capacity capacity (congrArg Prod.fst hinstalled) hvalid hset ⟨htopology, hbound⟩
  | installCongestion congestion =>
    rw [authorityStep]
    rcases installCongestion_cases s congestion with
      ⟨_, hsame⟩ | ⟨hvalid, hset, htopology, hbound, _, hinstalled⟩
    · rw [hsame]
      exact .same _
    · rw [hinstalled]
      exact .congestion congestion (congrArg Prod.fst hinstalled) hvalid hset ⟨htopology, hbound⟩
  | invalidateDynamicEvidence => exact .dropped
  | publishLiveness liveness => exact .peers _ rfl (publishLiveness_sameButPeers s liveness)
  | heartbeat participant incarnation now ttl =>
    exact .peers _ rfl (heartbeat_sameButPeers s participant incarnation now ttl)
  | expireSession | expireDue => exact .peers _ rfl ⟨_, s.highestIncarnation, rfl⟩
  | setFreshnessPolicy policy => exact .freshness policy
  | restoreDurable durable now =>
    rw [authorityStep]
    rcases restoreDurable_cases s durable now with ⟨_, _, hsame⟩ | ⟨hvalid, hrestored⟩
    · rw [hsame]
      exact .same _
    · rw [hrestored]
      exact .restored durable now hvalid

/-- Apart from publications and passes that fence, participants stay or are forgotten. -/
theorem authorityStep_peers {op : AuthorityOp} (hop : op.touchesPeers = false) :
    ((authorityStep s op).peers = s.peers ∧
        (authorityStep s op).highestIncarnation = s.highestIncarnation) ∨
      (op.restarts = true ∧ (authorityStep s op).peers = ∅ ∧
        (authorityStep s op).highestIncarnation = ∅) := by
  have heffect := authorityStep_effect s op
  generalize authorityStep s op = s' at heffect
  cases heffect with
  | peers _ touches => cases hop.symm.trans touches
  | booted | restored => exact .inr ⟨rfl, rfl, rfl⟩
  | _ => exact .inl ⟨rfl, rfl⟩

end Effects

end TrafficFabric
