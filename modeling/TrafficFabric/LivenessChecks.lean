import TrafficFabric.EvaluationOrder
import TrafficFabric.StaleObservation
import TrafficFabric.PayloadRoundTrip

/-!
# Two checks of liveness

The engine withholds authority from a collective whose participants are not all
live, and names the first eight of them that are not.  The service lists the
participants without authority in a loop of its own and sorts them.  Both ask
for a record that is live and not at its expiry, and a definition has its
participants in ascending order, so the two agree.
-/

namespace TrafficFabric

open Lib

/-- The participants that hold no current liveness evidence, in ascending order. -/
def participantsWithoutAuthority
    (participants : List ParticipantId) (snapshot : EvaluationSnapshot) : List ParticipantId :=
  (participants.filter fun participant =>
    match snapshot.findPeer participant with
    | none => true
    | some liveness => !liveness.isCurrent snapshot.nowMonotonicMs).insertionSort (· ≤ ·)

namespace DecisionRecord

/-- The decision withholds authority and names the axis. -/
def RejectsOn (record : DecisionRecord) (axis : AuthorityAxis) : Prop :=
  outcomeGrantsAuthority record.outcome = false ∧ record.axis = axis

/-- The participants that the reasons name as without authority. -/
def participantsNamed (record : DecisionRecord) : List ParticipantId :=
  (record.reasons.filter fun reason =>
    reason.code = text "participant_without_authority").map Reason.subject

end DecisionRecord

section Lists

variable {snapshot : EvaluationSnapshot} {participants : List ParticipantId}

/-- The filter of the service is the one of the engine, and it leaves the order. -/
theorem participantsWithoutAuthority_eq (h : participantsAreCanonical participants = true) :
    participantsWithoutAuthority participants snapshot =
      participants.filter (participantNotLive snapshot) := by
  have hsame : ∀ participant, (match snapshot.findPeer participant with
      | none => true
      | some liveness => !liveness.isCurrent snapshot.nowMonotonicMs) =
        participantNotLive snapshot participant := by
    intro participant
    unfold participantNotLive PeerLiveness.isCurrent
    cases snapshot.findPeer participant with
    | none => rfl
    | some liveness => simp [bne, ← decide_not]
  simp only [participantsWithoutAuthority, hsame]
  have hascending := (participantsAreCanonical_iff.mp h).filter (participantNotLive snapshot)
  exact (hascending.imp fun hlt => le_of_lt hlt).insertionSort_eq

/-- While the chain has room, every subject gets a reason of its own. -/
theorem ReasonChain.foldl_add {code detail : Text} {chain : ReasonChain} {subjects : List Identity}
    (hcode : code.isEmpty = false)
    (hroom : chain.length + subjects.length ≤ Limits.reasonChainMax) :
    subjects.foldl (fun chain subject => chain.add code detail subject) chain =
      chain ++ subjects.map fun subject =>
        { code := code, detail := detail.take Limits.reasonDetailBytesMax, subject := subject } := by
  induction subjects generalizing chain with
  | nil => simp
  | cons subject rest ih =>
    rw [List.length_cons] at hroom
    have hadd : chain.add code detail subject = chain ++
        [{ code := code, detail := detail.take Limits.reasonDetailBytesMax,
           subject := subject }] := by
      rw [ReasonChain.add, if_neg (by omega), hcode]
      rfl
    rw [List.foldl_cons, hadd, ih (by simp; omega), List.append_assoc]
    rfl

theorem refusedNotLive_participantsNamed {request : DecisionRequest} {record : DecisionRecord}
    (h : record.reasons = []) :
    (refusedNotLive snapshot request record).participantsNamed =
      notLiveParticipants snapshot record.participants := by
  have hlength : (notLiveParticipants snapshot record.participants).length ≤ 8 :=
    List.length_take_le _ _
  have hmax : Limits.reasonChainMax = 32 := rfl
  have hother : text "participant_not_live" ≠ text "participant_without_authority" := by
    decide +kernel
  have hset : (text "participant_not_live").isEmpty = false := by
    decide +kernel
  unfold DecisionRecord.participantsNamed refusedNotLive
  simp only [refused, h]
  rw [ReasonChain.foldl_add (by decide +kernel) (by simp [ReasonChain.add, hmax]; omega)]
  simp [ReasonChain.add, hmax, hset, hother, List.filter_map, Function.comp_def]

end Lists

section Engine

variable {snapshot : EvaluationSnapshot} {request : DecisionRequest}
variable {definition : CollectiveDefinition}

/-- Behind every other check of the chain stands the one of the participants. -/
theorem applyAuthorityChain_of_notLive {record : DecisionRecord}
    (hchecks : firstFailure (authorityChecks snapshot request) = none)
    (hnotLive : notLiveParticipants snapshot record.participants ≠ []) :
    applyAuthorityChain snapshot request record =
      .error (refusedNotLive snapshot request record) := by
  rw [firstFailure_eq_none_iff] at hchecks
  simp only [authorityChecks, List.forall_mem_cons, epochCheck, policyObservedCheck,
    policyInstalledCheck, capacityComparedCheck, congestionComparedCheck, topologyObservedCheck,
    topologyInstalledCheck, decide_eq_true_eq, Bool.and_eq_true, Bool.not_eq_true'] at hchecks
  obtain ⟨hepoch, hpolicyObserved, ⟨hpolicy, hpolicySet⟩, hcapacity, hcongestion,
    htopologyObserved, ⟨htopology, htopologySet⟩, -⟩ := hchecks
  obtain ⟨policy, hpolicy⟩ := Option.isSome_iff_exists.mp hpolicy
  obtain ⟨topology, htopology⟩ := Option.isSome_iff_exists.mp htopology
  simp only [applyAuthorityChain, applyTopologyAndLiveness, hpolicy, htopology]
  rw [require_pos hepoch, require_pos hpolicyObserved, require_pos hpolicySet,
    require_pos hcapacity, require_pos hcongestion, require_pos htopologyObserved,
    require_pos htopologySet, require_neg hnotLive]

/-- With a participant that is not live, the decision is the refusal that lists them. -/
theorem evaluate_of_notLive
    (hplan : firstFailure (planChecks request definition) = none)
    (hchecks : firstFailure (authorityChecks snapshot request) = none)
    (hnotLive : notLiveParticipants snapshot definition.participants ≠ []) :
    ∃ record : DecisionRecord, record.reasons = [] ∧
      record.participants = definition.participants ∧
      evaluate snapshot request definition = refusedNotLive snapshot request record := by
  have hfollows : Follows reported
      (checkPlan request definition (initialRecord snapshot request definition))
      (planChecks request definition) := checkPlan_follows _
  cases hplanned : checkPlan request definition (initialRecord snapshot request definition) with
  | error refusal =>
    rw [hplanned] at hfollows
    have hfailed : firstFailure (planChecks request definition) = some (reported refusal) :=
      hfollows
    rw [hplan] at hfailed
    cases hfailed
  | ok record =>
    obtain ⟨-, -, group, -, hrecord⟩ := checkPlan_eq_ok_iff.mp hplanned
    have hparticipants : record.participants = definition.participants := by
      rw [hrecord]
      rfl
    have hrefused : evaluateChecks snapshot request definition =
        .error (refusedNotLive snapshot request record) := by
      change (checkPlan request definition (initialRecord snapshot request definition)).bind _ = _
      rw [hplanned]
      change (applyAuthorityChain snapshot request record).bind _ = _
      rw [applyAuthorityChain_of_notLive hchecks (hparticipants ▸ hnotLive)]
      rfl
    refine ⟨record, by rw [hrecord]; rfl, hparticipants, ?_⟩
    rw [evaluate, hrefused]

/-- No other check of the engine reports the axis of the participants. -/
theorem participantLiveness_check :
    ∀ check ∈ engineChecks snapshot request definition, check.report.2 = .participantLiveness →
      check.holds = definition.participants.all fun p => !participantNotLive snapshot p := by
  simp [engineChecks, planChecks, authorityChecks, laterChecks, membershipChecks,
    semanticsChecks, evidenceChecks, floorCheck, epochCheck, policyObservedCheck,
    policyInstalledCheck, capacityComparedCheck, congestionComparedCheck, topologyObservedCheck,
    topologyInstalledCheck]

end Engine

/--
Behind the checks before the one of the participants, the engine rejects on
their axis exactly when the service finds one without authority, and it names
the first eight of those that the service lists.
-/
theorem liveness_checks_agree (snapshot : EvaluationSnapshot) (request : DecisionRequest)
    (definition : CollectiveDefinition)
    (hcanonical : participantsAreCanonical definition.participants = true)
    (hbefore : firstFailure (planChecks request definition ++ authorityChecks snapshot request) =
      none) :
    ((evaluate snapshot request definition).RejectsOn .participantLiveness ↔
        participantsWithoutAuthority definition.participants snapshot ≠ []) ∧
      ((evaluate snapshot request definition).RejectsOn .participantLiveness →
        (evaluate snapshot request definition).participantsNamed =
          (participantsWithoutAuthority definition.participants snapshot).take 8) := by
  rw [firstFailure_append, Option.or_eq_none_iff] at hbefore
  rw [participantsWithoutAuthority_eq hcanonical]
  by_cases hlive : notLiveParticipants snapshot definition.participants = []
  · have hrejects : ¬ (evaluate snapshot request definition).RejectsOn .participantLiveness := by
      rintro ⟨hwithheld, haxis⟩
      have hverdict := evaluate_verdict snapshot request definition
      rw [DecisionRecord.verdict, hwithheld, haxis] at hverdict
      obtain ⟨check, hmem, hfails, hreport⟩ := firstFailure_eq_some hverdict.symm
      rw [participantLiveness_check check hmem (by rw [hreport])] at hfails
      obtain ⟨p, hp, hnotLive⟩ := List.all_eq_false.mp hfails
      rw [notLiveParticipants_eq_nil_iff] at hlive
      exact hnotLive (by rw [hlive p hp]; rfl)
    refine ⟨iff_of_false hrejects ?_, fun h => absurd h hrejects⟩
    simpa [notLiveParticipants] using hlive
  · obtain ⟨record, hreasons, hparticipants, hevaluate⟩ :=
      evaluate_of_notLive hbefore.1 hbefore.2 hlive
    rw [hevaluate, refusedNotLive_participantsNamed hreasons, hparticipants]
    refine ⟨iff_of_true ⟨rfl, rfl⟩ ?_, fun _ => rfl⟩
    simpa [notLiveParticipants] using hlive

open DroppedCapacity in
/-- At the expiry of both members the service lists them and the engine names them. -/
theorem expired_members_named :
    Reachable authorityStep {} state ∧
      participantsWithoutAuthority definition.participants (state.snapshot 1000) =
        [⟨1, 0⟩, ⟨2, 0⟩] ∧
      (evaluate (state.snapshot 1000) (request {}) definition).RejectsOn .participantLiveness ∧
      (evaluate (state.snapshot 1000) (request {}) definition).participantsNamed =
        [⟨1, 0⟩, ⟨2, 0⟩] := by
  obtain ⟨hrejects, hnamed⟩ := liveness_checks_agree (state.snapshot 1000) (request {}) definition
    (by decide) (by decide)
  have hlisted : participantsWithoutAuthority definition.participants (state.snapshot 1000) =
      [⟨1, 0⟩, ⟨2, 0⟩] := by
    decide
  rw [hlisted] at hrejects hnamed
  have hrejected := hrejects.mpr (by decide)
  exact ⟨⟨ops, rfl⟩, hlisted, hrejected, hnamed hrejected⟩

end TrafficFabric
