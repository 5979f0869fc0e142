import Mathlib.Algebra.Order.BigOperators.Group.List
import Mathlib.Algebra.Order.Group.Nat
import TrafficFabric.BucketSafety
import TrafficFabric.GroupConstruction
import TrafficFabric.GrantSoundness

/-!
# Which group a plan stands for

A flow group is paced under its identity and charged with its volume.  The
identity and everything else in the group are the same for every order of the
edges.  It depends on the attempt sequence, which the comparison of plans and
the checks of the service leave out, so plans that compare equal may be paced
apart.  The volume is the sum over the edges only as long as the sum is a word.
-/

namespace TrafficFabric

open Lib

section Order

variable {plan : FlowGroupPlan} {edges : List FlowEdge}

/-- Two requests whose plans make one group are evaluated alike. -/
theorem evaluate_of_group_eq (snapshot : EvaluationSnapshot) (request : DecisionRequest)
    (definition : CollectiveDefinition) {other : FlowGroupPlan}
    (hgroup : constructFlowGroup { other with collectiveClass := definition.collectiveClass }
        definition.participants =
      constructFlowGroup { request.plan with collectiveClass := definition.collectiveClass }
        definition.participants) :
    evaluate snapshot { request with plan := other } definition =
      evaluate snapshot request definition := by
  have hplan : ∀ record, checkPlan { request with plan := other } definition record =
      checkPlan request definition record := by
    intro record
    unfold checkPlan
    simp only [hgroup]
  unfold evaluate evaluateChecks
  simp only [hplan]
  rfl

/--
A plan is accepted in every order of its edges or in none, the groups are equal,
and an accepted plan is decided on in the same way.
-/
theorem edge_order_free (hperm : edges.Perm plan.edges) (allowed : List ParticipantId) :
    ((∃ group, constructFlowGroup { plan with edges := edges } allowed = .ok group) ↔
        ∃ group, constructFlowGroup plan allowed = .ok group) ∧
      (∀ group reordered, constructFlowGroup plan allowed = .ok group →
        constructFlowGroup { plan with edges := edges } allowed = .ok reordered →
          reordered = group) ∧
      ∀ snapshot request definition, request.plan = plan →
        (∃ group, constructFlowGroup plan definition.participants = .ok group) →
          evaluate snapshot { request with plan := { plan with edges := edges } } definition =
            evaluate snapshot request definition := by
  refine ⟨constructFlowGroup_reordered hperm, ?_, ?_⟩
  · intro group reordered hgroup hreordered
    obtain ⟨-, rfl⟩ := constructFlowGroup_eq_ok_iff.mp hgroup
    obtain ⟨-, rfl⟩ := constructFlowGroup_eq_ok_iff.mp hreordered
    exact canonicalGroup_reordered hperm
  · intro snapshot request definition hplan haccepted
    subst hplan
    have hvalid := (constructFlowGroup_isOk_iff _ _).mp haccepted
    let classified := { request.plan with collectiveClass := definition.collectiveClass }
    have hbefore : constructFlowGroup classified definition.participants =
        .ok (canonicalGroup classified) :=
      constructFlowGroup_eq_ok_iff.mpr ⟨hvalid, rfl⟩
    have hafter : constructFlowGroup { classified with edges := edges } definition.participants =
        .ok (canonicalGroup classified) :=
      constructFlowGroup_eq_ok_iff.mpr
        ⟨validateFlowGroupPlan_reordered hperm hvalid, canonicalGroup_reordered hperm⟩
    exact evaluate_of_group_eq snapshot request definition (hafter.trans hbefore.symm)

/-- The ring is the same group whichever edge is stated first. -/
theorem ring_order_free :
    constructFlowGroup { ringPlan with edges := ringPlan.edges.reverse }
        [⟨1, 0⟩, ⟨2, 0⟩, ⟨3, 0⟩] =
      constructFlowGroup ringPlan [⟨1, 0⟩, ⟨2, 0⟩, ⟨3, 0⟩] := by
  have hfree := edge_order_free (List.reverse_perm ringPlan.edges) [⟨1, 0⟩, ⟨2, 0⟩, ⟨3, 0⟩]
  obtain ⟨group, hgroup⟩ :=
    (constructFlowGroup_isOk_iff ringPlan [⟨1, 0⟩, ⟨2, 0⟩, ⟨3, 0⟩]).mpr (by decide)
  obtain ⟨reordered, hreordered⟩ := hfree.1.mpr ⟨group, hgroup⟩
  rw [hgroup, hreordered, hfree.2.1 group reordered hgroup hreordered]

end Order

section Identity

/-- Instances are compared without the attempt sequence. -/
def CollectiveInstance.equals (a b : CollectiveInstance) : Bool :=
  decide (a.id = b.id ∧ a.generation = b.generation ∧ a.attempt = b.attempt)

/-- Plans are compared field by field, their instances as above. -/
def FlowGroupPlan.equals (a b : FlowGroupPlan) : Bool :=
  a.collectiveInstance.equals b.collectiveInstance &&
    decide (a.collectiveClass = b.collectiveClass ∧ a.pattern = b.pattern ∧
      a.direction = b.direction ∧ a.edges = b.edges ∧ a.planSequence = b.planSequence ∧
      a.requiresSimultaneousStart = b.requiresSimultaneousStart)

/-- The digest before the attempt sequence enters. -/
def attemptDigest (plan : FlowGroupPlan) : UInt64 :=
  mixIdentity
    (mixIdentity (mixIdentity 0x243F6A8885A308D3 plan.collectiveInstance.id)
      plan.collectiveInstance.generation)
    plan.collectiveInstance.attempt

/-- The digest after the attempt sequence. -/
def restDigest (plan : FlowGroupPlan) (state : UInt64) : UInt64 :=
  let state := mix state plan.collectiveClass.raw.toUInt64
  let state := mix state plan.pattern.raw.toUInt64
  let state := mix state plan.direction.raw.toUInt64
  let state := mix state (if plan.requiresSimultaneousStart then 1 else 0)
  let state := mix state plan.edges.length.toUInt64
  (sortEdges plan.edges).foldl mixEdge state

theorem flowGroupContentDigest_eq (plan : FlowGroupPlan) :
    flowGroupContentDigest plan =
      restDigest plan (mix (attemptDigest plan) plan.collectiveInstance.attemptSequence.value) := by
  rfl

/-- The identity is the digest and one step more; the unset identity does not come out. -/
theorem canonicalFlowGroupId_eq (plan : FlowGroupPlan) :
    canonicalFlowGroupId plan =
      ⟨flowGroupContentDigest plan, mix (flowGroupContentDigest plan) 0xA5A5A5A5A5A5A5A5⟩ := by
  unfold canonicalFlowGroupId
  simp only
  refine if_neg ?_
  rintro ⟨hhi, hlo⟩
  rw [hhi] at hlo
  exact absurd hlo (by decide)

theorem canonicalFlowGroupId_eq_iff {a b : FlowGroupPlan} :
    canonicalFlowGroupId a = canonicalFlowGroupId b ↔
      flowGroupContentDigest a = flowGroupContentDigest b := by
  rw [canonicalFlowGroupId_eq, canonicalFlowGroupId_eq]
  constructor
  · intro h
    exact congrArg Identity.hi h
  · intro h
    rw [h]

/--
The two sequences enter the digest as different states, and what follows takes
both to one value.
-/
def DigestsCollide (plan : FlowGroupPlan) (first second : Sequence) : Prop :=
  mix (attemptDigest plan) first.value ≠ mix (attemptDigest plan) second.value ∧
    restDigest plan (mix (attemptDigest plan) first.value) =
      restDigest plan (mix (attemptDigest plan) second.value)

/-- Plans that compare equal have one identity exactly when their sequences do not matter. -/
theorem canonicalFlowGroupId_equals_iff {a b : FlowGroupPlan} (hequals : a.equals b = true) :
    canonicalFlowGroupId a = canonicalFlowGroupId b ↔
      a.collectiveInstance.attemptSequence = b.collectiveInstance.attemptSequence ∨
        DigestsCollide a a.collectiveInstance.attemptSequence
          b.collectiveInstance.attemptSequence := by
  rw [FlowGroupPlan.equals, CollectiveInstance.equals, Bool.and_eq_true, decide_eq_true_iff,
    decide_eq_true_iff] at hequals
  obtain ⟨⟨hid, hgeneration, hattempt⟩, hclass, hpattern, hdirection, hedges, -, hstart⟩ := hequals
  have hbefore : attemptDigest b = attemptDigest a := by
    rw [attemptDigest, attemptDigest, hid, hgeneration, hattempt]
  have hafter : restDigest b = restDigest a := by
    funext state
    rw [restDigest, restDigest, hclass, hpattern, hdirection, hedges, hstart]
  rw [canonicalFlowGroupId_eq_iff, flowGroupContentDigest_eq, flowGroupContentDigest_eq, hbefore,
    hafter]
  constructor
  · intro hdigest
    by_cases hsequence : a.collectiveInstance.attemptSequence = b.collectiveInstance.attemptSequence
    · exact .inl hsequence
    · refine .inr ⟨?_, hdigest⟩
      intro hstate
      have hvalue := mix_injective _ hstate
      exact hsequence (congrArg Sequence.mk hvalue)
  · rintro (hsequence | ⟨-, hdigest⟩)
    · rw [hsequence]
    · exact hdigest

/-- The service plans the group for the current attempt and hands it to admission. -/
structure PlanAccepted
    (service : CoordinatorService) (context : ServiceRequestContext) (request : DecisionRequest)
    (record : CollectiveRecord) (decision : DecisionRecord) : Prop where
  current : service.lifecycleCheck context request = .ok record
  granted : outcomeGrantsAuthority (evaluatedDecision service context request record).outcome = true
  returned : (service.planFlowGroup context request).2.1 = some decision

/-- A granting evaluation names the group of the plan, under the class of the definition. -/
theorem evaluate_flowGroup_of_grants {snapshot : EvaluationSnapshot} {request : DecisionRequest}
    {definition : CollectiveDefinition}
    (h : outcomeGrantsAuthority (evaluate snapshot request definition).outcome = true) :
    (evaluate snapshot request definition).flowGroup =
      canonicalFlowGroupId { request.plan with collectiveClass := definition.collectiveClass } := by
  obtain ⟨_, _, _, _, group, -, hgroup, hrecord⟩ :=
    evaluateChecks_eq_ok_iff.mp (evaluateChecks_of_grants h)
  obtain ⟨-, rfl⟩ := constructFlowGroup_eq_ok_iff.mp hgroup
  rw [hrecord]
  rfl

/-- Admission leaves the group of a decision as it is. -/
theorem releaseGrant_flowGroup (service : CoordinatorService) (now : UInt64)
    (decision : DecisionRecord) :
    (service.releaseGrant now decision).1.flowGroup = decision.flowGroup := by
  simp only [CoordinatorService.releaseGrant]
  split
  · rfl
  · unfold CoordinatorService.applyAdmission
    split <;> rfl

theorem PlanAccepted.flowGroup_eq {service : CoordinatorService} {context : ServiceRequestContext}
    {request : DecisionRequest} {record : CollectiveRecord} {decision : DecisionRecord}
    (h : PlanAccepted service context request record decision) :
    decision.flowGroup =
      canonicalFlowGroupId
        { request.plan with collectiveClass := record.definition.collectiveClass } := by
  rcases planFlowGroup_returns h.returned with hrefused | ⟨found, hfound, rfl⟩
  · rw [h.current] at hrefused
    cases hrefused
  · obtain rfl : record = found := Except.ok.inj (h.current.symm.trans hfound)
    have hgranted := h.granted
    rw [settleDecision_eq]
    simp only
    rw [if_pos hgranted, releaseGrant_flowGroup, ← (effectiveDefinition_same record).2.2]
    exact evaluate_flowGroup_of_grants hgranted

/--
Two plans that compare equal and are accepted for one attempt are paced under
one identity if and only if they also state one attempt sequence, short of a
collision of the digest.
-/
theorem equal_plans_share_group_iff {first second : CoordinatorService}
    {context context' : ServiceRequestContext} {request request' : DecisionRequest}
    {record record' : CollectiveRecord} {decision decision' : DecisionRecord}
    (hfirst : PlanAccepted first context request record decision)
    (hsecond : PlanAccepted second context' request' record' decision')
    (hattempt : record.definition = record'.definition)
    (hequals : request.plan.equals request'.plan = true) :
    decision.flowGroup = decision'.flowGroup ↔
      request.plan.collectiveInstance.attemptSequence =
          request'.plan.collectiveInstance.attemptSequence ∨
        DigestsCollide
          { request.plan with collectiveClass := record.definition.collectiveClass }
          request.plan.collectiveInstance.attemptSequence
          request'.plan.collectiveInstance.attemptSequence := by
  rw [hfirst.flowGroup_eq, hsecond.flowGroup_eq, ← hattempt]
  refine canonicalFlowGroupId_equals_iff ?_
  simp only [FlowGroupPlan.equals, Bool.and_eq_true, decide_eq_true_iff] at hequals ⊢
  obtain ⟨hinstance, -, hrest⟩ := hequals
  exact ⟨hinstance, trivial, hrest⟩

namespace TwoMembers

/-- The request with another attempt sequence in its plan. -/
def resequenced : DecisionRequest :=
  { request with
    plan :=
      { request.plan with
        collectiveInstance := { attempt with attemptSequence := ⟨1⟩ } } }

/-- The plan is accepted at the given time. -/
theorem planAccepted {now : UInt64}
    (h : (service.planFlowGroup (context now) request).2.1.map DecisionRecord.outcome =
      some .admitted) :
    ∃ record decision, PlanAccepted service (context now) request record decision ∧
      service.catalog.find ⟨31, 0⟩ = some record := by
  obtain ⟨decision, hplan, hadmitted⟩ := Option.map_eq_some_iff.mp h
  obtain ⟨record, -, hlifecycle, hevaluated, -⟩ :=
    planFlowGroup_grants hplan (by rw [hadmitted]; rfl)
  exact ⟨record, decision, ⟨hlifecycle, hevaluated, hplan⟩,
    (lifecycleCheck_eq_ok_iff.mp hlifecycle).1⟩

end TwoMembers

open TwoMembers in
/-- The same plan at two times is paced under one identity. -/
theorem repeated_plan_shares_group :
    ∃ record record' decision decision',
      PlanAccepted service (context 10) request record decision ∧
      PlanAccepted service (context 11) request record' decision' ∧
      decision.flowGroup = decision'.flowGroup := by
  obtain ⟨record, decision, hfirst, hfound⟩ := @planAccepted 10 (by decide)
  obtain ⟨record', decision', hsecond, hfound'⟩ := @planAccepted 11 (by decide)
  obtain rfl : record = record' := Option.some.inj (hfound.symm.trans hfound')
  exact ⟨record, record, decision, decision', hfirst, hsecond,
    (equal_plans_share_group_iff hfirst hsecond rfl (by decide)).mpr (.inl rfl)⟩

open TwoMembers in
/-- Two plans that compare equal are both admitted, under different identities. -/
theorem equal_plans_paced_apart :
    ServiceReachable service ∧ request.plan.equals resequenced.plan = true ∧
      (service.planFlowGroup (context 10) request).2.1.map DecisionRecord.outcome = some .admitted ∧
      (service.planFlowGroup (context 10) resequenced).2.1.map DecisionRecord.outcome =
        some .admitted ∧
      (service.planFlowGroup (context 10) request).2.1.map DecisionRecord.flowGroup ≠
        (service.planFlowGroup (context 10) resequenced).2.1.map DecisionRecord.flowGroup := by
  exact ⟨service_reachable, by decide +kernel⟩

end Identity

section Volume

variable {plan : FlowGroupPlan} {allowed : List ParticipantId} {group : FlowGroup}

/-- The volume of a plan, as a number. -/
def plannedBytes (plan : FlowGroupPlan) : Nat :=
  (plan.edges.map fun edge => edge.logicalBytes.toNat).sum

/-- Every call of admission for the group charges at least the volume of each edge. -/
def ChargesEachEdge (plan : FlowGroupPlan) (group : FlowGroup) : Prop :=
  ∀ call : AdmissionCall, call.decision.group = group →
    ∀ edge ∈ plan.edges, edge.logicalBytes ≤ call.bytes

/--
The volume of a constructed group is the sum over its edges, and admission
charges at least the volume of each, if and only if the sum is a word.
-/
theorem group_volume_exact_iff (h : constructFlowGroup plan allowed = .ok group) :
    group.totalLogicalBytes.toNat = plannedBytes plan ∧ ChargesEachEdge plan group ↔
      plannedBytes plan < 2 ^ 64 := by
  obtain ⟨-, rfl⟩ := constructFlowGroup_eq_ok_iff.mp h
  have htotal : (canonicalGroup plan).totalLogicalBytes.toNat = plannedBytes plan % 2 ^ 64 :=
    toNat_totalLogicalBytes plan
  constructor
  · rintro ⟨hexact, -⟩
    rw [← hexact]
    exact UInt64.toNat_lt _
  · intro hword
    rw [Nat.mod_eq_of_lt hword] at htotal
    refine ⟨htotal, ?_⟩
    intro call hgroup edge hedge
    have hsum : edge.logicalBytes.toNat ≤ plannedBytes plan :=
      List.le_sum_of_mem (List.mem_map_of_mem hedge)
    rw [UInt64.le_iff_toNat_le, AdmissionCall.bytes, hgroup]
    split
    · rename_i hzero
      rw [hzero, UInt64.toNat_zero] at htotal
      omega
    · rw [htotal]
      exact hsum

/-- The ring with a volume on every edge. -/
def loadedPlan : FlowGroupPlan :=
  { ringPlan with edges := ringPlan.edges.map ({ · with logicalBytes := 4096 }) }

theorem ring_volume_exact :
    ∃ group, constructFlowGroup loadedPlan [⟨1, 0⟩, ⟨2, 0⟩, ⟨3, 0⟩] = .ok group ∧
      plannedBytes loadedPlan = 12288 ∧
      group.totalLogicalBytes.toNat = plannedBytes loadedPlan ∧
      ChargesEachEdge loadedPlan group := by
  obtain ⟨group, hgroup⟩ :=
    (constructFlowGroup_isOk_iff loadedPlan [⟨1, 0⟩, ⟨2, 0⟩, ⟨3, 0⟩]).mpr (by decide)
  exact ⟨group, hgroup, by decide, (group_volume_exact_iff hgroup).mpr (by decide)⟩

/-- Two edges of half the range of a word each. -/
def heavyPlan : FlowGroupPlan :=
  { ringPlan with
    edges :=
      [ { source := ⟨1, 0⟩, destination := ⟨2, 0⟩, stepIndex := ⟨1⟩
          logicalBytes := 9223372036854775808 },
        { source := ⟨2, 0⟩, destination := ⟨3, 0⟩, stepIndex := ⟨1⟩
          logicalBytes := 9223372036854775808 } ] }

/-- The volume of such a plan wraps to nothing, and admission charges one byte. -/
theorem heavy_volume_wraps :
    ∃ group, constructFlowGroup heavyPlan [⟨1, 0⟩, ⟨2, 0⟩, ⟨3, 0⟩] = .ok group ∧
      group.totalLogicalBytes.toNat ≠ plannedBytes heavyPlan ∧
      AdmissionCall.bytes ⟨{ group := group }, 0⟩ = 1 ∧
      ¬ ChargesEachEdge heavyPlan group := by
  refine ⟨canonicalGroup heavyPlan, constructFlowGroup_eq_ok_iff.mpr ⟨by decide, rfl⟩,
    by decide, by decide, ?_⟩
  intro hcharges
  have hedge := hcharges ⟨{ group := canonicalGroup heavyPlan }, 0⟩ rfl _ List.mem_cons_self
  exact absurd hedge (by decide)

end Volume

end TrafficFabric
