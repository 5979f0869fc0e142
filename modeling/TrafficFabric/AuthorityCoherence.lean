import TrafficFabric.AuthorityEffects

/-!
# Coherence of the authority

The engine reads an observation and the generation recorded beside it without
comparing the two.  Here the two are shown to agree in every state the
authority reaches: an observation is installed exactly when a generation is
recorded, it carries that generation, it is valid, and a capacity or congestion
observation was made against the topology that is installed.
-/

namespace TrafficFabric

open Lib

/-- What is installed agrees, on every axis, with the generation recorded for it. -/
structure AuthorityCoherent (s : AuthorityState) : Prop where
  policyPresent : s.policy.isSome = s.policyGeneration.isSome
  topologyPresent : s.topology.isSome = s.topologyGeneration.isSome
  capacityPresent : s.capacity.isSome = s.capacityGeneration.isSome
  congestionPresent : s.congestion.isSome = s.congestionGeneration.isSome
  policy : ∀ policy, s.policy = some policy →
    policy.generation = s.policyGeneration ∧ policy.validate.isOk = true
  topology : ∀ topology, s.topology = some topology →
    topology.generation = s.topologyGeneration ∧ topology.validate.isOk = true
  capacity : ∀ capacity, s.capacity = some capacity →
    capacity.generation = s.capacityGeneration ∧ capacity.validate.isOk = true ∧
      s.topology.isSome = true ∧ capacity.topologyGeneration = s.topologyGeneration
  congestion : ∀ congestion, s.congestion = some congestion →
    congestion.generation = s.congestionGeneration ∧ congestion.validate.isOk = true ∧
      s.topology.isSome = true ∧ congestion.topologyGeneration = s.topologyGeneration

theorem authorityCoherent_init : AuthorityCoherent {} := by
  refine ⟨rfl, rfl, rfl, rfl, ?_, ?_, ?_, ?_⟩ <;> intro _ h <;> cases h

namespace AuthorityCoherent

variable {s : AuthorityState}

/-- Without observations of the network only the descriptions have to agree. -/
theorem dropped (h : AuthorityCoherent s) : AuthorityCoherent s.invalidateDynamicEvidence := by
  refine ⟨h.policyPresent, h.topologyPresent, rfl, rfl, h.policy, h.topology, ?_, ?_⟩
  · intro capacity hcapacity
    cases hcapacity
  · intro congestion hcongestion
    cases hcongestion

theorem restored {durable : DurableAuthority} (now : UInt64)
    (hvalid : (AuthorityState.validateDurable durable).isOk = true) (h : AuthorityCoherent s) :
    AuthorityCoherent (restoredState s durable now) := by
  obtain ⟨htopology, hpolicy⟩ := validateDurable_isOk hvalid
  refine ⟨?_, ?_, rfl, rfl, ?_, ?_, ?_, ?_⟩
  · by_cases hset : durable.policyGeneration.isSome = true
    · simp [restoredState, hset]
    · simpa [restoredState, hset] using h.policyPresent
  · by_cases hset : durable.topologyGeneration.isSome = true
    · simp [restoredState, hset]
    · simpa [restoredState, hset] using h.topologyPresent
  · intro policy heq
    by_cases hset : durable.policyGeneration.isSome = true
    · simp only [restoredState, hset, if_true] at heq ⊢
      cases heq
      exact ⟨(hpolicy hset).2, (hpolicy hset).1⟩
    · simp only [restoredState, hset] at heq ⊢
      exact h.policy policy heq
  · intro topology heq
    by_cases hset : durable.topologyGeneration.isSome = true
    · simp only [restoredState, hset, if_true] at heq ⊢
      cases heq
      exact ⟨(htopology hset).2, (htopology hset).1⟩
    · simp only [restoredState, hset] at heq ⊢
      exact h.topology topology heq
  · intro capacity hcapacity
    cases hcapacity
  · intro congestion hcongestion
    cases hcongestion

end AuthorityCoherent

theorem authorityStep_authorityCoherent (s : AuthorityState) (op : AuthorityOp)
    (h : AuthorityCoherent s) : AuthorityCoherent (authorityStep s op) := by
  have heffect := authorityStep_effect s op
  generalize authorityStep s op = s' at heffect
  cases heffect with
  | same => exact h
  | booted => exact { h.dropped with }
  | policy policy _ valid set =>
    refine { h with policyPresent := by simpa using set, policy := ?_ }
    intro installed heq
    cases heq
    exact ⟨rfl, valid⟩
  | topology topology _ valid set =>
    -- The observations made against the topology before are gone, so nothing is left to bind.
    refine { h.dropped with
      topologyPresent := by simpa using set, topology := ?_, capacity := nofun,
      congestion := nofun }
    intro installed heq
    cases heq
    exact ⟨rfl, valid⟩
  | capacity capacity _ valid set bound =>
    refine { h with capacityPresent := by simpa using set, capacity := ?_ }
    intro installed heq
    cases heq
    exact ⟨rfl, valid, bound⟩
  | congestion congestion _ valid set bound =>
    refine { h with congestionPresent := by simpa using set, congestion := ?_ }
    intro installed heq
    cases heq
    exact ⟨rfl, valid, bound⟩
  | dropped => exact h.dropped
  | peers _ _ rest =>
    obtain ⟨peers, highest, rfl⟩ := rest
    exact { h with }
  | freshness => exact { h with }
  | restored durable now valid => exact h.restored now valid

theorem reachable_authorityCoherent {s : AuthorityState} (h : Reachable authorityStep {} s) :
    AuthorityCoherent s := by
  exact h.invariant authorityCoherent_init authorityStep_authorityCoherent

/-- An installation that is not accepted, or a restoration that fails. -/
def AuthorityState.refuses (s : AuthorityState) : AuthorityOp → Prop
  | .installPolicy policy => (s.installPolicy policy).1 ≠ .installed
  | .installTopology topology => (s.installTopology topology).1 ≠ .installed
  | .installCapacity capacity => (s.installCapacity capacity).1 ≠ .installed
  | .installCongestion congestion => (s.installCongestion congestion).1 ≠ .installed
  | .restoreDurable durable now => (s.restoreDurable durable now).1.isOk = false
  | _ => False

/-- What is refused leaves the whole state. -/
theorem authorityStep_eq_self_of_refused {s : AuthorityState} {op : AuthorityOp}
    (h : s.refuses op) : authorityStep s op = s := by
  have heffect := authorityStep_effect s op
  generalize authorityStep s op = s' at heffect
  cases heffect with
  | same => rfl
  | policy _ accepted | topology _ accepted | capacity _ accepted | congestion _ accepted =>
    exact absurd accepted h
  | peers _ touches => cases op <;> first | exact absurd h id | cases touches
  | restored durable now valid =>
    rcases restoreDurable_cases s durable now with ⟨hinvalid, _⟩ | ⟨_, hrestored⟩
    · cases valid.symm.trans hinvalid
    · simp [AuthorityState.refuses, hrestored] at h
  | _ => exact absurd h id

/--
The authority is coherent after every sequence of its operations, and a refused
installation or restoration leaves the state it found.
-/
theorem authority_coherent_and_refusals_inert (ops : List AuthorityOp) :
    AuthorityCoherent (run authorityStep {} ops) ∧
      ∀ op, (run authorityStep {} ops).refuses op →
        authorityStep (run authorityStep {} ops) op = run authorityStep {} ops := by
  refine ⟨reachable_authorityCoherent ⟨ops, rfl⟩, ?_⟩
  intro op hrefused
  exact authorityStep_eq_self_of_refused hrefused

end TrafficFabric
