import TrafficFabric.PolicyValid
import TrafficFabric.Settled

/-!
# Collectives without a traffic class

A policy may leave a collective class unclassified, and then the engine grants
it nothing on its own account.  The class a member asks for is tested in place
of the policy's, though: where the entry permits an override, a request for any
class the policy states is granted, the unclassified entry notwithstanding.
-/

namespace TrafficFabric

open Lib

/-- No request for a collective of the class is granted under the policy. -/
def NeverGranted (policy : TrafficPolicy) (collectiveClass : CollectiveClass) : Prop :=
  ∀ (snapshot : EvaluationSnapshot) (request : DecisionRequest)
    (definition : CollectiveDefinition),
    snapshot.policy = some policy → definition.collectiveClass = collectiveClass →
      (evaluate snapshot request definition).outcome ≠ .admitted ∧
        (evaluate snapshot request definition).outcome ≠ .isolatedClass

/-- A grant to an unclassified collective honors a class that was requested. -/
theorem requested_of_grant {snapshot : EvaluationSnapshot} {request : DecisionRequest}
    {definition : CollectiveDefinition} {policy : TrafficPolicy} {topology : TopologyEvidence}
    {collectivePolicy : CollectiveClassPolicy} {classPolicy : TrafficClassPolicy}
    (h : GrantChecks snapshot request definition policy topology collectivePolicy classPolicy)
    (hunclassified : collectivePolicy.trafficClass = .unclassified) :
    request.hasRequestedClass = true := by
  by_contra hnone
  have hclassified := h.classified
  rw [selectedClass, if_neg hnone, hunclassified] at hclassified
  cases hclassified

/--
A collective class the policy leaves unclassified is never granted exactly when
its entry permits no override, or the runtime does not know the class, or the
policy states no class that could be asked for.
-/
theorem unclassified_never_granted_iff {policy : TrafficPolicy} {collectiveClass : CollectiveClass}
    {collectivePolicy : CollectiveClassPolicy} (hvalid : policy.validate.isOk = true)
    (hcollective : policy.findCollective collectiveClass = some collectivePolicy)
    (hunclassified : collectivePolicy.trafficClass = .unclassified) :
    NeverGranted policy collectiveClass ↔
      collectivePolicy.allowMemberOverride = false ∨
        isKnownCollectiveClass collectiveClass = false ∨
        ∀ entry ∈ policy.classPolicies, entry.trafficClass = .unclassified := by
  constructor
  · intro hnever
    by_contra hopen
    simp only [not_or, Bool.not_eq_false, not_forall] at hopen
    obtain ⟨hoverride, hknown, entry, hentry, hclassified⟩ := hopen
    obtain ⟨classPolicy, hclass⟩ := findClass_isSome_of_mem hentry
    -- Ask for the stated class in a snapshot where nothing else is in the way.
    have hchecks : GrantChecks
        (Settled.snapshot policy ⟨6, 0⟩ none (some (Settled.quiet ⟨6, 0⟩)))
        (Settled.request (some entry.trafficClass)) (Settled.definition collectiveClass) policy
        (Settled.topology ⟨6, 0⟩) collectivePolicy classPolicy :=
      Settled.grantChecks (policyValid_of_validate hvalid).generation (by decide) hcollective
        hknown (fun _ => hoverride)
        (by simpa [trafficClassIsClassified] using hclassified) hclass rfl
        (fun havailable => absurd rfl havailable)
    have hgrants := evaluate_grants_iff.mpr ⟨_, _, _, _, hchecks⟩
    obtain ⟨hadmitted, hisolated⟩ := hnever
      (Settled.snapshot policy ⟨6, 0⟩ none (some (Settled.quiet ⟨6, 0⟩)))
      (Settled.request (some entry.trafficClass)) (Settled.definition collectiveClass) rfl rfl
    rcases (outcomeGrantsAuthority_eq_true_iff _).mp hgrants with h | h
    · exact hadmitted h
    · exact hisolated h
  · intro hclosed snapshot request definition hinstalled hsame
    have hwithheld : ¬ outcomeGrantsAuthority (evaluate snapshot request definition).outcome =
        true := by
      intro hgrants
      obtain ⟨found, topology, entry, classPolicy, hchecks⟩ := evaluate_grants_iff.mp hgrants
      obtain rfl : policy = found := Option.some.inj (hinstalled.symm.trans hchecks.policyInstalled)
      obtain rfl : collectivePolicy = entry := by
        have hentry := hchecks.collective
        rw [hsame, hcollective] at hentry
        exact Option.some.inj hentry
      have hrequested := requested_of_grant hchecks hunclassified
      rcases hclosed with hforbidden | hunknown | hbare
      · rw [hchecks.overrideAllowed hrequested] at hforbidden
        cases hforbidden
      · have hknown := hchecks.known
        rw [hsame, hunknown] at hknown
        cases hknown
      · obtain ⟨hmem, hclass⟩ := findClass_eq_some hchecks.trafficClass
        have hclassified := hchecks.classified
        rw [← hclass, hbare classPolicy hmem] at hclassified
        cases hclassified
    rw [outcomeGrantsAuthority_eq_true_iff, not_or] at hwithheld
    exact hwithheld

/-- The standard policy states no treatment for vendor classes and permits no override of it. -/
theorem standard_never_grants_unknownVendor :
    (TrafficPolicy.standard ⟨5, 0⟩).validate.isOk = true ∧
      NeverGranted (TrafficPolicy.standard ⟨5, 0⟩) .unknownVendor := by
  have hvalid : (TrafficPolicy.standard ⟨5, 0⟩).validate.isOk = true := by decide
  have hentry : (TrafficPolicy.standard ⟨5, 0⟩).findCollective .unknownVendor =
      some (TrafficPolicy.standardCollective .unknownVendor .unclassified false false 0) := by
    rfl
  exact ⟨hvalid, (unclassified_never_granted_iff hvalid hentry rfl).mpr (.inl rfl)⟩

namespace Promoted

/-- A policy that leaves the all-reduce unclassified and permits its members an override. -/
def policy : TrafficPolicy :=
  { TrafficPolicy.standard ⟨5, 0⟩ with
    collectivePolicies :=
      [ TrafficPolicy.standardCollective .unknown .unclassified false false 0,
        TrafficPolicy.standardCollective .allReduce .unclassified false true 2000 ] }

end Promoted

open Promoted in
/-- The policy validates, and a request for bulk treatment is admitted under it. -/
theorem unclassified_promoted_on_request :
    policy.validate.isOk = true ∧
      (policy.findCollective .allReduce).map CollectiveClassPolicy.trafficClass =
        some .unclassified ∧
      (evaluate (Settled.snapshot policy ⟨6, 0⟩ none (some (Settled.quiet ⟨6, 0⟩)))
        (Settled.request (some .bulkData)) (Settled.definition .allReduce)).outcome =
          .admitted := by
  decide

end TrafficFabric
