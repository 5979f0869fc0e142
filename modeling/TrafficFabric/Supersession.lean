import TrafficFabric.AuthorityCoherence
import TrafficFabric.Lib.Window

/-!
# Superseded generations

Each axis remembers the last 64 generations it accepted through an installation
and refuses to install one of them again.  A restoration makes a generation
current as well, but it does not note it.  A generation that only a restoration
made current can therefore be installed again once it has been superseded, and
so can one that was restored after others had been accepted, when the window
has moved past it.

The window does its work along every run whose restorations put back nothing
but the generation the axis accepted last.
-/

namespace TrafficFabric

open Lib

variable {generation : Identity}

/-- What a generation is of. -/
inductive Axis where
  | policy
  | topology
  | capacity
  | congestion
deriving DecidableEq, Repr

/-- The generation durable state brings back; observations of the network have none. -/
def DurableAuthority.generationOn (durable : DurableAuthority) : Axis → Identity
  | .policy => durable.policyGeneration
  | .topology => durable.topologyGeneration
  | .capacity => {}
  | .congestion => {}

namespace AuthorityState

variable (s : AuthorityState)

def generationOn : Axis → Identity
  | .policy => s.policyGeneration
  | .topology => s.topologyGeneration
  | .capacity => s.capacityGeneration
  | .congestion => s.congestionGeneration

def historyOn : Axis → GenerationHistory
  | .policy => s.policyHistory
  | .topology => s.topologyHistory
  | .capacity => s.capacityHistory
  | .congestion => s.congestionHistory

/-- The generation an operation installs on the axis, if its installation is accepted. -/
def installedOn : Axis → AuthorityOp → Option Identity
  | .policy, .installPolicy policy =>
    if (s.installPolicy policy).1 = .installed then some policy.generation else none
  | .topology, .installTopology topology =>
    if (s.installTopology topology).1 = .installed then some topology.generation else none
  | .capacity, .installCapacity capacity =>
    if (s.installCapacity capacity).1 = .installed then some capacity.generation else none
  | .congestion, .installCongestion congestion =>
    if (s.installCongestion congestion).1 = .installed then some congestion.generation else none
  | _, _ => none

end AuthorityState

/-- How many installations on the axis a run accepts. -/
def installCount (axis : Axis) : AuthorityState → List AuthorityOp → Nat
  | _, [] => 0
  | s, op :: ops =>
    (if (s.installedOn axis op).isSome then 1 else 0) + installCount axis (authorityStep s op) ops

/-- An operation that asks to install the generation on the axis. -/
def AuthorityOp.Installs (axis : Axis) (generation : Identity) : AuthorityOp → Prop
  | .installPolicy policy => axis = .policy ∧ policy.generation = generation
  | .installTopology topology => axis = .topology ∧ topology.generation = generation
  | .installCapacity capacity => axis = .capacity ∧ capacity.generation = generation
  | .installCongestion congestion => axis = .congestion ∧ congestion.generation = generation
  | _ => False

/-- What one operation does to the generation and to the history of an axis. -/
inductive AxisChange (s s' : AuthorityState) (op : AuthorityOp) (axis : Axis) : Prop
  | kept
      (generation : s'.generationOn axis = s.generationOn axis)
      (history : s'.historyOn axis = s.historyOn axis)
  | dropped
      (generation : s'.generationOn axis = {})
      (history : s'.historyOn axis = s.historyOn axis)
  | installed
      (set : (s'.generationOn axis).isNone = false)
      (accepted : s.installedOn axis op = some (s'.generationOn axis))
      (history : s'.historyOn axis = (s.historyOn axis).remember (s'.generationOn axis))
  | restored
      (durable : DurableAuthority) (now : UInt64)
      (called : op = .restoreDurable durable now)
      (valid : (AuthorityState.validateDurable durable).isOk = true)
      (set : (durable.generationOn axis).isSome = true)
      (generation : s'.generationOn axis = durable.generationOn axis)
      (history : s'.historyOn axis = s.historyOn axis)

section Changes

variable (s : AuthorityState) (axis : Axis)

/-- Forgetting the observations of the network drops their two generations. -/
theorem axisChange_of_dropped {s' : AuthorityState} (op : AuthorityOp)
    (hgenerations : ∀ axis, s'.generationOn axis = s.invalidateDynamicEvidence.generationOn axis)
    (hhistories : ∀ axis, s'.historyOn axis = s.historyOn axis) : AxisChange s s' op axis := by
  cases axis with
  | policy | topology => exact .kept (hgenerations _) (hhistories _)
  | capacity | congestion => exact .dropped (hgenerations _) (hhistories _)

theorem restoredState_axisChange {durable : DurableAuthority} (now : UInt64)
    (hvalid : (AuthorityState.validateDurable durable).isOk = true) :
    AxisChange s (restoredState s durable now) (.restoreDurable durable now) axis := by
  cases axis with
  | policy =>
    by_cases hset : durable.policyGeneration.isSome = true
    · refine .restored durable now rfl hvalid hset ?_ rfl
      simp [AuthorityState.generationOn, DurableAuthority.generationOn, restoredState, hset]
    · refine .kept ?_ rfl
      simp [AuthorityState.generationOn, restoredState, hset]
  | topology =>
    by_cases hset : durable.topologyGeneration.isSome = true
    · refine .restored durable now rfl hvalid hset ?_ rfl
      simp [AuthorityState.generationOn, DurableAuthority.generationOn, restoredState, hset]
    · refine .kept ?_ rfl
      simp [AuthorityState.generationOn, restoredState, hset]
  | capacity | congestion => exact .dropped rfl rfl

theorem authorityStep_axisChange (op : AuthorityOp) :
    AxisChange s (authorityStep s op) op axis := by
  have heffect := authorityStep_effect s op
  generalize authorityStep s op = s' at heffect
  cases heffect with
  | same | freshness => cases axis <;> exact .kept rfl rfl
  | booted | dropped =>
    exact axisChange_of_dropped s axis _ (fun axis => by cases axis <;> rfl)
      (fun axis => by cases axis <;> rfl)
  | policy policy accepted _ set =>
    cases axis with
    | policy => exact .installed set (if_pos accepted) rfl
    | _ => exact .kept rfl rfl
  | topology topology accepted _ set =>
    cases axis with
    | policy => exact .kept rfl rfl
    | topology => exact .installed set (if_pos accepted) rfl
    | _ => exact .dropped rfl rfl
  | capacity capacity accepted _ set =>
    cases axis with
    | capacity => exact .installed set (if_pos accepted) rfl
    | _ => exact .kept rfl rfl
  | congestion congestion accepted _ set =>
    cases axis with
    | congestion => exact .installed set (if_pos accepted) rfl
    | _ => exact .kept rfl rfl
  | peers _ _ rest =>
    obtain ⟨peers, highest, rfl⟩ := rest
    cases axis <;> exact .kept rfl rfl
  | restored durable now valid => exact restoredState_axisChange s axis now valid

end Changes

/--
A restoration on the axis puts back the generation the axis accepted last.
Durable state that is refused, or has no generation on the axis, puts back none.
-/
def RestoresLast (axis : Axis) (s : AuthorityState) : AuthorityOp → Prop
  | .restoreDurable durable _ =>
    (AuthorityState.validateDurable durable).isOk = true →
      (durable.generationOn axis).isSome = true →
        (s.historyOn axis).seen.getLast? = some (durable.generationOn axis)
  | _ => True

/-- The current generation of the axis, if there is one, is the last it remembers. -/
def CurrentIsLast (axis : Axis) (s : AuthorityState) : Prop :=
  (s.generationOn axis).isSome = true → Recent 0 (s.generationOn axis) (s.historyOn axis).seen

theorem remember_seen (history : GenerationHistory) (hset : generation.isNone = false) :
    (history.remember generation).seen =
      pushWindow GenerationHistory.capacity history.seen generation := by
  simp only [GenerationHistory.remember, hset]
  rfl

theorem currentIsLast_init (axis : Axis) : CurrentIsLast axis {} := by
  intro hset
  cases axis <;> simp [AuthorityState.generationOn, Identity.none] at hset

/-- One operation that meets the condition keeps the current generation in sight. -/
theorem authorityStep_currentIsLast {axis : Axis} (s : AuthorityState) (op : AuthorityOp)
    (hrestores : RestoresLast axis s op) (h : CurrentIsLast axis s) :
    CurrentIsLast axis (authorityStep s op) := by
  intro hset
  cases authorityStep_axisChange s axis op with
  | kept generation history =>
    rw [generation] at hset ⊢
    rw [history]
    exact h hset
  | dropped generation _ => simp [generation, Identity.none] at hset
  | installed set _ history =>
    rw [history, remember_seen _ set]
    exact recent_pushWindow_self _ _ (by decide)
  | restored _ _ called valid set generation history =>
    subst called
    rw [generation, history]
    exact recent_zero_iff.mpr (hrestores valid set)

/-- A generation in the window is as many places further back as the run accepts others. -/
theorem run_recent {axis : Axis} {newer : Nat} (s : AuthorityState) (ops : List AuthorityOp)
    (h : Recent newer generation (s.historyOn axis).seen)
    (hbound : newer + installCount axis s ops < GenerationHistory.capacity) :
    Recent (newer + installCount axis s ops) generation
      ((run authorityStep s ops).historyOn axis).seen := by
  induction ops generalizing s newer with
  | nil => exact h
  | cons op ops ih =>
    rw [run_cons]
    simp only [installCount, ← Nat.add_assoc] at hbound ⊢
    refine ih (authorityStep s op) ?_ hbound
    cases authorityStep_axisChange s axis op with
    | kept _ history | dropped _ history | restored _ _ _ _ _ _ history =>
      rw [history]
      exact h.mono (Nat.le_add_right _ _)
    | installed set accepted history =>
      rw [history, remember_seen _ set]
      simp only [accepted, Option.isSome_some, if_true] at hbound ⊢
      exact h.push _ (by omega)

/-- A generation the axis remembers is not installed on it. -/
theorem refuses_of_remembered {axis : Axis} {s : AuthorityState} {op : AuthorityOp}
    (hop : op.Installs axis generation) (hseen : generation ∈ (s.historyOn axis).seen) :
    s.refuses op := by
  have hcontains : (s.historyOn axis).contains generation = true := by
    simpa [GenerationHistory.contains] using hseen
  cases op with
  | installPolicy policy =>
    obtain ⟨rfl, rfl⟩ := hop
    rcases installPolicy_cases s policy with ⟨hrefused, _⟩ | ⟨_, _, hfresh, _⟩
    · exact hrefused
    · exact absurd (hfresh.symm.trans hcontains) (by decide)
  | installTopology topology =>
    obtain ⟨rfl, rfl⟩ := hop
    rcases installTopology_cases s topology with ⟨hrefused, _⟩ | ⟨_, _, hfresh, _⟩
    · exact hrefused
    · exact absurd (hfresh.symm.trans hcontains) (by decide)
  | installCapacity capacity =>
    obtain ⟨rfl, rfl⟩ := hop
    rcases installCapacity_cases s capacity with ⟨hrefused, _⟩ | ⟨_, _, _, _, hfresh, _⟩
    · exact hrefused
    · exact absurd (hfresh.symm.trans hcontains) (by decide)
  | installCongestion congestion =>
    obtain ⟨rfl, rfl⟩ := hop
    rcases installCongestion_cases s congestion with
      ⟨hrefused, _⟩ | ⟨_, _, _, _, hfresh, _⟩
    · exact hrefused
    · exact absurd (hfresh.symm.trans hcontains) (by decide)
  | _ => exact absurd hop id

/--
A superseded generation is not installed again.  Along every run whose
restorations on the axis put back the generation it accepted last, a generation
that was current and has since been followed by at most 63 accepted
installations is refused, and the refusal leaves the state.
-/
theorem superseded_generation_refused {axis : Axis} {generation : Identity}
    {first later : List AuthorityOp} {op : AuthorityOp}
    (hrestores : Along authorityStep (RestoresLast axis) {} (first ++ later))
    (hset : generation.isSome = true)
    (hcurrent : (run authorityStep {} first).generationOn axis = generation)
    (hlater : installCount axis (run authorityStep {} first) later ≤ 63)
    (hop : op.Installs axis generation) :
    (run authorityStep {} (first ++ later)).refuses op ∧
      authorityStep (run authorityStep {} (first ++ later)) op =
        run authorityStep {} (first ++ later) := by
  have hfirst : Along authorityStep (RestoresLast axis) {} first :=
    ((along_append _ _ _ first later).mp hrestores).1
  have hlast : CurrentIsLast axis (run authorityStep {} first) :=
    hfirst.invariant authorityStep_currentIsLast (currentIsLast_init axis)
  have hrecent : Recent 0 generation ((run authorityStep {} first).historyOn axis).seen := by
    rw [← hcurrent] at hset ⊢
    exact hlast hset
  have hkept : Recent (0 + installCount axis (run authorityStep {} first) later) generation
      ((run authorityStep {} (first ++ later)).historyOn axis).seen := by
    rw [run_append]
    refine run_recent _ later hrecent ?_
    simp only [GenerationHistory.capacity]
    omega
  have hrefused := refuses_of_remembered hop hkept.mem
  exact ⟨hrefused, authorityStep_eq_self_of_refused hrefused⟩

namespace TwoTopologies

def topology (generation : UInt64) : TopologyEvidence where
  generation := ⟨generation, 0⟩
  nodes := [{ id := ⟨21, 0⟩ }]

/-- The durable state of a coordinator that had topology 6 installed. -/
def durable : DurableAuthority where
  topologyGeneration := ⟨6, 0⟩
  topology := topology 6

end TwoTopologies

open TwoTopologies in
/-- A restored topology, superseded by one installation, is installed again. -/
theorem restored_generation_reinstalled :
    let first : List AuthorityOp := [.restoreDurable durable 1]
    let later : List AuthorityOp := [.installTopology (topology 7)]
    let s := run authorityStep {} (first ++ later)
    (run authorityStep {} first).generationOn .topology = ⟨6, 0⟩ ∧
      installCount .topology (run authorityStep {} first) later = 1 ∧
      (AuthorityOp.installTopology (topology 6)).Installs .topology ⟨6, 0⟩ ∧
      (s.installTopology (topology 6)).1 = .installed ∧
      (authorityStep s (.installTopology (topology 6))).generationOn .topology = ⟨6, 0⟩ := by
  exact ⟨by decide, by decide, ⟨rfl, rfl⟩, by decide, by decide⟩

open TwoTopologies in
/-- A topology that was installed, restored and superseded is refused. -/
theorem superseded_generation_refused_once_installed :
    let s := run authorityStep {}
      [.installTopology (topology 6), .restoreDurable durable 1, .installTopology (topology 7)]
    s.refuses (.installTopology (topology 6)) ∧
      authorityStep s (.installTopology (topology 6)) = s := by
  have hrestores : Along authorityStep (RestoresLast .topology) {}
      ([.installTopology (topology 6), .restoreDurable durable 1] ++
        [.installTopology (topology 7)]) := by
    refine ⟨trivial, ?_, trivial, trivial⟩
    intro _ _
    decide
  have hset : (⟨6, 0⟩ : Identity).isSome = true := by
    decide
  exact superseded_generation_refused hrestores hset (by decide) (by decide) ⟨rfl, rfl⟩

end TrafficFabric
