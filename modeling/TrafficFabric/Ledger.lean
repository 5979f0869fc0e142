import TrafficFabric.ServiceEffects

/-!
# The bucket table and the decision history over a run

Both tables change in three operations only: a plan records its decision and may
draw on a bucket, a stop clears both, and a configuration resizes the history.
One relation says so for every operation of the service, and the bounds of the
two tables are read off it.

The ordinals of the history are consecutive, so an entry is found by its
distance from the first ordinal.  The distance is computed modulo the word size;
since the history is far shorter than that, it is exact after a wrap as well.
-/

namespace TrafficFabric

open Lib

/-- A count as a word is the sum of the words of its parts, also beyond the word size. -/
theorem toUInt64_eq_add_sub {part whole : Nat} (h : part ≤ whole) :
    whole.toUInt64 = part.toUInt64 + (whole - part).toUInt64 := by
  conv => lhs; rw [← Nat.add_sub_of_le h]
  exact UInt64.ofNat_add _ _

namespace DecisionHistory

/-- The entry kept under an ordinal, at the place where the lookups read it. -/
def slot (history : DecisionHistory) (ordinal : UInt64) : Option DecisionRecord :=
  history.records[(ordinal - history.firstOrdinal).toNat]?

/-- The bound is positive and respected, and the ordinals count the records. -/
structure Coherent (history : DecisionHistory) : Prop where
  positive : 1 ≤ history.capacity
  limited : history.capacity ≤ Limits.decisionHistoryCapacityMax
  fits : history.records.length ≤ history.capacity
  ordinals : history.nextOrdinal = history.firstOrdinal + history.records.length.toUInt64

theorem coherent_of_resized {history : DecisionHistory} (hpositive : 1 ≤ history.capacity)
    (hlimited : history.capacity ≤ Limits.decisionHistoryCapacityMax)
    (hordinals : history.nextOrdinal = history.firstOrdinal + history.records.length.toUInt64) :
    history.trim.Coherent where
  positive := hpositive
  limited := hlimited
  fits := by
    simp only [trim, List.length_drop]
    omega
  ordinals := by
    simp only [trim, List.length_drop]
    rw [hordinals, UInt64.add_assoc, ← toUInt64_eq_add_sub (Nat.sub_le _ _)]

namespace Coherent

variable {history : DecisionHistory}

theorem init :
    Coherent {} where
  positive := by decide
  limited := by decide
  fits := by decide
  ordinals := by decide

theorem setCapacity (h : history.Coherent) (capacity : Nat) :
    (history.setCapacity capacity).Coherent := by
  refine coherent_of_resized ?_ (Nat.min_le_right _ _) h.ordinals
  have hmax : 1 ≤ Limits.decisionHistoryCapacityMax := by decide
  refine Nat.le_min.mpr ⟨?_, hmax⟩
  split <;> omega

theorem record (h : history.Coherent) (decision : DecisionRecord) :
    (history.record decision).2.Coherent := by
  refine coherent_of_resized h.positive h.limited ?_
  simp only [List.length_append, List.length_singleton]
  rw [h.ordinals, UInt64.add_assoc]
  congr 1
  exact (UInt64.ofNat_add _ _).symm

theorem clear (h : history.Coherent) :
    history.clear.Coherent where
  positive := h.positive
  limited := h.limited
  fits := Nat.zero_le _
  ordinals := by
    simp only [DecisionHistory.clear]
    decide

/-- A recorded decision is found under the ordinal that was next. -/
theorem slot_record (h : history.Coherent) (decision : DecisionRecord) :
    (history.record decision).2.slot history.nextOrdinal =
      some { decision with decisionSequence := ⟨history.nextOrdinal⟩ } := by
  have hpositive := h.positive
  have hfits := h.fits
  have hlimited : history.capacity ≤ 2 ^ 20 := h.limited
  -- The record pushes out one entry at most, and never itself.
  obtain ⟨excess, hexcess⟩ : ∃ excess,
      excess = history.records.length + 1 - history.capacity := ⟨_, rfl⟩
  have hindex :
      (history.nextOrdinal - (history.firstOrdinal + excess.toUInt64)).toNat =
        history.records.length - excess := by
    have hdistance : history.nextOrdinal - (history.firstOrdinal + excess.toUInt64) =
        (history.records.length - excess).toUInt64 := by
      rw [h.ordinals, toUInt64_eq_add_sub (show excess ≤ history.records.length by omega),
        ← UInt64.add_assoc, UInt64.add_comm, UInt64.add_sub_cancel]
    rw [hdistance]
    exact Nat.mod_eq_of_lt (by omega)
  simp only [DecisionHistory.record, slot, trim, List.length_append, List.length_singleton,
    ← hexcess, hindex, List.getElem?_drop]
  rw [show excess + (history.records.length - excess) = history.records.length by omega]
  simp

end Coherent

/-- The second history is the first with a decision recorded in it. -/
def Records (history history' : DecisionHistory) (decision : DecisionRecord) : Prop :=
  ∃ correlations, history' = { (history.record decision).2 with correlations := correlations }

theorem records_bindCorrelation (history : DecisionHistory) (decision : DecisionRecord)
    (correlation ordinal : UInt64) :
    history.Records ((history.record decision).2.bindCorrelation correlation ordinal) decision := by
  unfold bindCorrelation
  split
  · exact ⟨_, rfl⟩
  · exact ⟨_, rfl⟩

namespace Records

variable {history history' : DecisionHistory} {decision : DecisionRecord}

theorem coherent (h : history.Records history' decision) (hcoherent : history.Coherent) :
    history'.Coherent := by
  obtain ⟨correlations, rfl⟩ := h
  obtain ⟨hpositive, hlimited, hfits, hordinals⟩ := hcoherent.record decision
  exact ⟨hpositive, hlimited, hfits, hordinals⟩

theorem nextOrdinal (h : history.Records history' decision) :
    history'.nextOrdinal = history.nextOrdinal + 1 := by
  obtain ⟨correlations, rfl⟩ := h
  rfl

theorem slot (h : history.Records history' decision) (hcoherent : history.Coherent) :
    history'.slot history.nextOrdinal =
      some { decision with decisionSequence := ⟨history.nextOrdinal⟩ } := by
  obtain ⟨correlations, rfl⟩ := h
  exact hcoherent.slot_record decision

end Records

end DecisionHistory

section Changes

/-- The operation is a stop, and the service is running. -/
def CoordinatorService.StopsBy (s : CoordinatorService) (op : ServiceOp) : Prop :=
  ∃ now, op = .stop now ∧ s.running = true

/-- What a service operation does to the bucket table and to the history. -/
inductive LedgerChange (s s' : CoordinatorService) : Prop
  | kept
      (admission : s'.admission = s.admission)
      (history : s'.history = s.history)
  | cleared
      (admission : s'.admission = s.admission.clear)
      (history : s'.history = s.history.clear)
  | resized
      (capacity : Nat)
      (admission : s'.admission = s.admission)
      (history : s'.history = s.history.setCapacity capacity)
  | decided
      (decision : DecisionRecord)
      (admission : s'.admission = s.admission ∨
        ∃ grant now, s'.admission = (s.admission.admitDecision grant now).2)
      (history : s.history.Records s'.history decision)

variable (s : CoordinatorService)

theorem settleDecision_ledger (context : ServiceRequestContext) (request : DecisionRequest)
    (record : CollectiveRecord) :
    (s.settleDecision context request record).2.history = s.history ∧
      ((s.settleDecision context request record).2.admission = s.admission ∨
        ∃ grant now, (s.settleDecision context request record).2.admission =
          (s.admission.admitDecision grant now).2) := by
  simp only [CoordinatorService.settleDecision]
  split
  · simp only [CoordinatorService.releaseGrant]
    split
    · exact ⟨rfl, .inl rfl⟩
    · exact ⟨rfl, .inr ⟨_, _, rfl⟩⟩
  · exact ⟨rfl, .inl rfl⟩

theorem recordDecision_records (context : ServiceRequestContext) (decision : DecisionRecord) :
    s.history.Records (s.recordDecision context decision).history decision := by
  simp only [CoordinatorService.recordDecision]
  split
  · exact DecisionHistory.records_bindCorrelation _ _ _ _
  · exact ⟨_, rfl⟩

/-- A plan that returns a decision records this decision. -/
theorem planFlowGroup_records {context : ServiceRequestContext} {request : DecisionRequest}
    {decision : DecisionRecord} (h : (s.planFlowGroup context request).2.1 = some decision) :
    s.history.Records (s.planFlowGroup context request).2.2.history decision := by
  cases planFlowGroup_result s context request with
  | refused status _ _ result =>
    rw [result] at h
    cases h
  | stale refusal _ _ result =>
    rw [result] at h ⊢
    cases h
    exact ⟨_, rfl⟩
  | settled record _ _ result =>
    rw [result] at h ⊢
    cases h
    have hrecords := recordDecision_records
      (s.settleDecision context request record).2 context
      (s.settleDecision context request record).1
    rwa [(settleDecision_ledger s context request record).1] at hrecords

theorem planFlowGroup_ledgerChange (context : ServiceRequestContext) (request : DecisionRequest) :
    LedgerChange s (serviceStep s (.planFlowGroup context request)) := by
  simp only [serviceStep]
  cases planFlowGroup_result s context request with
  | refused status _ _ result =>
    rw [result]
    exact .kept rfl rfl
  | stale refusal _ _ result =>
    refine .decided refusal (.inl (by rw [result])) (planFlowGroup_records s ?_)
    rw [result]
  | settled record _ _ result =>
    refine .decided (s.settleDecision context request record).1 ?_
      (planFlowGroup_records s (by rw [result]))
    rw [result]
    exact (settleDecision_ledger s context request record).2

/-- What an operation other than a plan does to the two tables and the counters of plans. -/
inductive TableChange (s : CoordinatorService) (op : ServiceOp) (s' : CoordinatorService) : Prop
  | kept
      (admission : s'.admission = s.admission)
      (history : s'.history = s.history)
      (tally : s'.counters.planTally = s.counters.planTally)
  | reset
      (resets : op = .resetCounters)
      (admission : s'.admission = s.admission)
      (history : s'.history = s.history)
      (tally : s'.counters = {})
  | cleared
      (stops : s.StopsBy op)
      (admission : s'.admission = s.admission.clear)
      (history : s'.history = s.history.clear)
      (tally : s'.counters.planTally = s.counters.planTally)
  | resized
      (capacity : Nat)
      (admission : s'.admission = s.admission)
      (history : s'.history = s.history.setCapacity capacity)
      (tally : s'.counters.planTally = s.counters.planTally)

/-- Only a stop that takes effect and a configuration touch the tables without a plan. -/
theorem serviceStep_tableChange {op : ServiceOp}
    (hplan : ∀ context request, op ≠ .planFlowGroup context request) :
    TableChange s op (serviceStep s op) := by
  have hkept : op.usesTables = false → TableChange s op (serviceStep s op) := by
    intro hop
    have htables := (serviceStep_effect s op).tables hop
    exact .kept htables.admission htables.history htables.tally
  cases op with
  | stop now =>
    simp only [serviceStep, CoordinatorService.stop]
    split
    · exact .kept rfl rfl rfl
    · rename_i hrunning
      exact .cleared ⟨now, rfl, Bool.not_eq_false _ ▸ hrunning⟩ rfl rfl rfl
  | planFlowGroup context request => exact absurd rfl (hplan context request)
  | resetCounters => exact .reset rfl rfl rfl rfl
  | setConfig config => exact .resized config.decisionHistoryCapacity rfl rfl rfl
  | _ => exact hkept rfl

/-- Everything a service operation can do to the two tables. -/
theorem serviceStep_ledgerChange (op : ServiceOp) : LedgerChange s (serviceStep s op) := by
  by_cases hplan : ∃ context request, op = .planFlowGroup context request
  · obtain ⟨context, request, rfl⟩ := hplan
    exact planFlowGroup_ledgerChange s context request
  · cases serviceStep_tableChange s (fun context request h => hplan ⟨context, request, h⟩) with
    | kept admission history | reset _ admission history => exact .kept admission history
    | cleared _ admission history _ => exact .cleared admission history
    | resized capacity admission history _ => exact .resized capacity admission history

end Changes

section Buckets

/-- The table of buckets is within its bound, the hard limit of the service. -/
structure AdmissionController.Bounded (controller : AdmissionController) : Prop where
  capacity : controller.capacity = Limits.tokenBucketsMax.toUInt32
  fits : controller.buckets.size ≤ Limits.tokenBucketsMax

theorem AdmissionController.bounded_init :
    AdmissionController.Bounded {} where
  capacity := rfl
  fits := Nat.zero_le _

variable {controller : AdmissionController}

theorem AdmissionController.Bounded.admitDecision (h : controller.Bounded)
    (decision : DecisionRecord) (now : UInt64) :
    (controller.admitDecision decision now).2.Bounded := by
  unfold AdmissionController.admitDecision
  split
  · exact h
  · split
    · exact h
    · split
      · exact h
      · split
        · exact h
        · simp only [AdmissionController.draw]
          split
          · exact h
          · rename_i hroom
            refine ⟨h.capacity, KeyMap.size_assign_le_of_room _ h.fits ?_⟩
            have hlimit : controller.capacity.toNat = Limits.tokenBucketsMax := by
              rw [h.capacity]
              decide
            by_cases hheld : controller.buckets.find decision.flowGroup = none
            · exact .inr (hlimit ▸ Nat.not_le.mp fun hfull => hroom ⟨hheld, hfull⟩)
            · exact .inl hheld

end Buckets

/-- Both tables are within their bounds and the history is addressed by its ordinals. -/
structure LedgerCoherent (s : CoordinatorService) : Prop where
  history : s.history.Coherent
  admission : s.admission.Bounded

theorem serviceStep_ledgerCoherent (s : CoordinatorService) (op : ServiceOp)
    (h : LedgerCoherent s) : LedgerCoherent (serviceStep s op) := by
  cases serviceStep_ledgerChange s op with
  | kept hadmission hhistory => exact ⟨hhistory ▸ h.history, hadmission ▸ h.admission⟩
  | cleared hadmission hhistory =>
    exact ⟨hhistory ▸ h.history.clear, hadmission ▸ ⟨h.admission.capacity, Nat.zero_le _⟩⟩
  | resized capacity hadmission hhistory =>
    exact ⟨hhistory ▸ h.history.setCapacity capacity, hadmission ▸ h.admission⟩
  | decided decision hadmission hhistory =>
    refine ⟨hhistory.coherent h.history, ?_⟩
    rcases hadmission with hkept | ⟨grant, now, hdrawn⟩
    · exact hkept ▸ h.admission
    · exact hdrawn ▸ h.admission.admitDecision grant now

theorem ServiceReachable.ledgerCoherent {s : CoordinatorService} (h : ServiceReachable s) :
    LedgerCoherent s := by
  obtain ⟨config, hconfig⟩ := h
  refine hconfig.invariant ⟨?_, AdmissionController.bounded_init⟩ serviceStep_ledgerCoherent
  exact DecisionHistory.Coherent.init.setCapacity config.decisionHistoryCapacity

end TrafficFabric
