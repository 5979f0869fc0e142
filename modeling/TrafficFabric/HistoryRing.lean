import TrafficFabric.Lib.Window
import TrafficFabric.Ledger
import TrafficFabric.Explanations

/-!
# The decision history as a ring

The history keeps the newest decisions under consecutive ordinals.  Seen against
the log of all decisions recorded since it was last cleared, it is the tail of
that log: the first ordinal, the next one and the number of evicted decisions
are counts of the log, taken modulo the word size.

A lookup compares ordinals, so it is exact as long as the next ordinal has not
wrapped.  When it does, every ordinal counts as one of the future.
-/

namespace TrafficFabric

open Lib

namespace DecisionHistory

/-- A history made for a capacity. -/
def create (capacity : Nat) : DecisionHistory :=
  setCapacity {} capacity

/-- The decision under an ordinal. -/
def get (history : DecisionHistory) (ordinal : UInt64) : Except HistoryStatus DecisionRecord :=
  if history.records.isEmpty then
    .error .empty
  else if history.nextOrdinal ≤ ordinal then
    .error .future
  else if ordinal < history.firstOrdinal then
    .error .evicted
  else
    match history.slot ordinal with
    | some record => .ok record
    -- The ordinals of a coherent history number its records, so this is not reached.
    | none => .error .evicted

/-- The retained decisions from an ordinal on, as many as the limit allows. -/
def page (history : DecisionHistory) (offsetOrdinal : UInt64) (limit : Nat) :
    List DecisionRecord :=
  if history.records.isEmpty ∨ history.nextOrdinal ≤ offsetOrdinal then
    []
  else
    let start :=
      if offsetOrdinal < history.firstOrdinal then history.firstOrdinal else offsetOrdinal
    (history.records.drop (start - history.firstOrdinal).toNat).take limit

end DecisionHistory

/-- The operations that change what a history retains. -/
inductive HistoryOp where
  | record (decision : DecisionRecord)
  | setCapacity (capacity : Nat)
  | clear

def historyStep (history : DecisionHistory) : HistoryOp → DecisionHistory
  | .record decision => (history.record decision).2
  | .setCapacity capacity => history.setCapacity capacity
  | .clear => history.clear

section Log

/-- What an operation does to the log of the decisions since the last clear. -/
def logStep (log : List DecisionRecord) : HistoryOp → List DecisionRecord
  | .record decision => log ++ [decision]
  | .setCapacity _ => log
  | .clear => []

/-- The decisions recorded since the last clear, the oldest first. -/
def recordedSinceClear (ops : List HistoryOp) : List DecisionRecord :=
  run logStep [] ops

/-- A decision as it is stored under the ordinal of its place in the log. -/
def numberedAt (index : Nat) (decision : DecisionRecord) : DecisionRecord :=
  { decision with decisionSequence := ⟨(index + 1).toUInt64⟩ }

/-- The log as it is stored, counted from one. -/
def numbered (log : List DecisionRecord) : List DecisionRecord :=
  log.mapIdx numberedAt

@[simp] theorem length_numbered (log : List DecisionRecord) :
    (numbered log).length = log.length := by
  exact List.length_mapIdx

theorem numbered_concat (log : List DecisionRecord) (decision : DecisionRecord) :
    numbered (log ++ [decision]) = numbered log ++ [numberedAt log.length decision] := by
  exact List.mapIdx_concat

theorem getElem?_numbered (log : List DecisionRecord) (index : Nat) :
    (numbered log)[index]? = log[index]?.map (numberedAt index) := by
  exact List.getElem?_mapIdx

end Log

/--
The history retains the log without its oldest decisions but with the newest
one, and its counters count the log.
-/
structure DecisionHistory.Retains
    (history : DecisionHistory) (log : List DecisionRecord) (dropped : Nat) : Prop where
  tail : TailOf (numbered log) dropped history.records
  newest : history.records = [] → log = []
  first : history.firstOrdinal = (dropped + 1).toUInt64
  next : history.nextOrdinal = (log.length + 1).toUInt64
  evicted : history.evicted = dropped.toUInt64

namespace DecisionHistory.Retains

variable {history : DecisionHistory} {log : List DecisionRecord} {dropped : Nat}

theorem empty (capacity : Nat) :
    Retains { capacity := capacity } [] 0 where
  tail := TailOf.nil
  newest := fun _ => rfl
  first := rfl
  next := rfl
  evicted := rfl

theorem trim (h : history.Retains log dropped) (hpositive : 1 ≤ history.capacity) :
    history.trim.Retains log (dropped + (history.records.length - history.capacity)) where
  tail := h.tail.shrink (Nat.sub_le _ _)
  newest := by
    intro hempty
    have hall : history.records.length ≤ history.records.length - history.capacity :=
      List.drop_eq_nil_iff.mp hempty
    exact h.newest (List.length_eq_zero_iff.mp (by omega))
  first := by
    simp only [DecisionHistory.trim]
    rw [h.first, Nat.add_right_comm]
    exact (UInt64.ofNat_add _ _).symm
  next := h.next
  evicted := by
    simp only [DecisionHistory.trim]
    rw [h.evicted]
    exact (UInt64.ofNat_add _ _).symm

theorem push (h : history.Retains log dropped) (decision : DecisionRecord) :
    Retains
      { history with
        nextOrdinal := history.nextOrdinal + 1
        records := history.records ++
          [{ decision with decisionSequence := ⟨history.nextOrdinal⟩ }] }
      (log ++ [decision]) dropped where
  tail := by
    rw [numbered_concat, numberedAt, ← h.next]
    exact h.tail.push _
  newest := by
    simp
  first := h.first
  next := by
    rw [List.length_append]
    simp only [h.next]
    exact (UInt64.ofNat_add _ _).symm
  evicted := h.evicted

/-- What an operation leaves is a tail of the log it leaves. -/
theorem step (h : history.Retains log dropped) (hcoherent : history.Coherent) (op : HistoryOp) :
    ∃ dropped', (historyStep history op).Retains (logStep log op) dropped' := by
  cases op with
  | record decision => exact ⟨_, (h.push decision).trim hcoherent.positive⟩
  | setCapacity capacity =>
    refine ⟨_, trim ⟨h.tail, h.newest, h.first, h.next, h.evicted⟩ ?_⟩
    exact (hcoherent.setCapacity capacity).positive
  | clear => exact ⟨0, empty _⟩

end DecisionHistory.Retains

theorem historyStep_coherent {history : DecisionHistory} (h : history.Coherent) (op : HistoryOp) :
    (historyStep history op).Coherent := by
  cases op with
  | record decision => exact h.record decision
  | setCapacity capacity => exact h.setCapacity capacity
  | clear => exact h.clear

/-- The history is coherent and retains a tail of what the operations recorded. -/
def RingOf (ops : List HistoryOp) (history : DecisionHistory) : Prop :=
  history.Coherent ∧ ∃ dropped, history.Retains (recordedSinceClear ops) dropped

theorem ringOf_run (capacity : Nat) (ops : List HistoryOp) :
    RingOf ops (run historyStep (DecisionHistory.create capacity) ops) := by
  have hinit : RingOf [] (DecisionHistory.create capacity) :=
    ⟨DecisionHistory.Coherent.init.setCapacity capacity, _,
      (DecisionHistory.Retains.empty _).trim
        (DecisionHistory.Coherent.init.setCapacity capacity).positive⟩
  refine run_history ?_ hinit ops
  rintro past op ⟨hcoherent, dropped, hretains⟩
  refine ⟨historyStep_coherent hcoherent op, ?_⟩
  rw [recordedSinceClear, run_append]
  exact hretains.step hcoherent op

section Retained

/--
The retained decisions are the newest ones of the log, in order and within the
capacity, under consecutive ordinals; the evicted ones are those before the
first ordinal.
-/
structure DecisionHistory.KeepsNewest
    (history : DecisionHistory) (log : List DecisionRecord) : Prop where
  recent : history.records <:+ numbered log
  newest : history.records = [] → log = []
  ordinals : ∀ (index : Nat) (record : DecisionRecord), history.records[index]? = some record →
    record.decisionSequence.value = history.firstOrdinal + index.toUInt64
  next : history.nextOrdinal = history.firstOrdinal + history.records.length.toUInt64
  fits : history.records.length ≤ history.capacity
  evicted : history.evicted = history.firstOrdinal - 1

/-- Every ordinal and every page is answered from the log. -/
structure DecisionHistory.AnswersFrom
    (history : DecisionHistory) (log : List DecisionRecord) : Prop where
  retained : ∀ ordinal, history.firstOrdinal ≤ ordinal → ordinal < history.nextOrdinal →
    ∃ decision, log[ordinal.toNat - 1]? = some decision ∧
      history.get ordinal = .ok { decision with decisionSequence := ⟨ordinal⟩ }
  evicted : ∀ ordinal, history.records ≠ [] → ordinal < history.firstOrdinal →
    history.get ordinal = .error .evicted
  future : ∀ ordinal, history.records ≠ [] → history.nextOrdinal ≤ ordinal →
    history.get ordinal = .error .future
  page : ∀ ordinal limit, history.page ordinal limit =
    ((numbered log).drop (max ordinal.toNat history.firstOrdinal.toNat - 1)).take limit

namespace DecisionHistory.Retains

variable {history : DecisionHistory} {log : List DecisionRecord} {dropped : Nat}

theorem length_eq (h : history.Retains log dropped) :
    log.length = dropped + history.records.length := by
  rw [← length_numbered, h.tail.length_eq]

theorem keepsNewest (h : history.Retains log dropped) (hcoherent : history.Coherent) :
    history.KeepsNewest log where
  recent := h.tail.isSuffix
  newest := h.newest
  ordinals := by
    intro index record hrecord
    rw [h.tail.getElem?_eq, getElem?_numbered, Option.map_eq_some_iff] at hrecord
    obtain ⟨decision, _, rfl⟩ := hrecord
    rw [h.first, numberedAt, Nat.add_right_comm]
    exact UInt64.ofNat_add _ _
  next := hcoherent.ordinals
  fits := hcoherent.fits
  evicted := by
    rw [h.evicted, h.first]
    exact (UInt64.eq_sub_iff_add_eq.mpr (UInt64.ofNat_add _ _).symm)

section Exact

variable (h : history.Retains log dropped) (hexact : log.length + 1 < 2 ^ 64)

include h hexact

theorem toNat_first : history.firstOrdinal.toNat = dropped + 1 := by
  have hlength := h.length_eq
  rw [h.first]
  exact Nat.mod_eq_of_lt (by omega)

theorem toNat_next : history.nextOrdinal.toNat = log.length + 1 := by
  rw [h.next]
  exact Nat.mod_eq_of_lt hexact

theorem slot_eq {ordinal : UInt64} (hfirst : history.firstOrdinal ≤ ordinal) :
    history.slot ordinal = (numbered log)[ordinal.toNat - 1]? := by
  have hdistance : (ordinal - history.firstOrdinal).toNat = ordinal.toNat - (dropped + 1) := by
    rw [UInt64.toNat_sub_of_le _ _ hfirst, h.toNat_first hexact]
  have hle : dropped + 1 ≤ ordinal.toNat := by
    rw [← h.toNat_first hexact]
    exact UInt64.le_iff_toNat_le.mp hfirst
  rw [DecisionHistory.slot, hdistance, h.tail.getElem?_eq]
  congr 1
  omega

theorem answersFrom :
    history.AnswersFrom log where
  retained := by
    intro ordinal hfirst hnext
    have hfirst' := UInt64.le_iff_toNat_le.mp hfirst
    have hnext' := UInt64.lt_iff_toNat_lt.mp hnext
    rw [h.toNat_first hexact] at hfirst'
    rw [h.toNat_next hexact] at hnext'
    have hlength := h.length_eq
    have hplace : ordinal.toNat - 1 < log.length := by omega
    have hslot : history.slot ordinal =
        some { log[ordinal.toNat - 1] with decisionSequence := ⟨ordinal⟩ } := by
      rw [h.slot_eq hexact hfirst, getElem?_numbered, List.getElem?_eq_getElem hplace,
        Option.map_some, numberedAt, show ordinal.toNat - 1 + 1 = ordinal.toNat by omega]
      simp
    have hsome : history.records.isEmpty = false := by
      rw [List.isEmpty_eq_false_iff_exists_mem]
      exact ⟨_, List.mem_of_getElem? hslot⟩
    refine ⟨_, List.getElem?_eq_getElem hplace, ?_⟩
    rw [DecisionHistory.get, hsome, if_neg (by simp), if_neg (UInt64.not_le.mpr hnext),
      if_neg (UInt64.not_lt.mpr hfirst), hslot]
  evicted := by
    intro ordinal hsome hevicted
    have hnext : ordinal < history.nextOrdinal := by
      rw [UInt64.lt_iff_toNat_lt, h.toNat_next hexact]
      have hevicted' := UInt64.lt_iff_toNat_lt.mp hevicted
      rw [h.toNat_first hexact] at hevicted'
      have hlength := h.length_eq
      omega
    rw [DecisionHistory.get, if_neg (by simpa using hsome), if_neg (UInt64.not_le.mpr hnext),
      if_pos hevicted]
  future := by
    intro ordinal hsome hfuture
    rw [DecisionHistory.get, if_neg (by simpa using hsome), if_pos hfuture]
  page := by
    intro ordinal limit
    have hlength := h.length_eq
    have hfirst := h.toNat_first hexact
    rw [DecisionHistory.page]
    split
    · rename_i hnone
      have hbeyond : (numbered log).length ≤
          max ordinal.toNat history.firstOrdinal.toNat - 1 := by
        rw [length_numbered]
        rcases hnone with hempty | hfuture
        · rw [List.isEmpty_iff] at hempty
          rw [hempty, List.length_nil] at hlength
          omega
        · rw [UInt64.le_iff_toNat_le, h.toNat_next hexact] at hfuture
          omega
      rw [List.drop_eq_nil_of_le hbeyond, List.take_nil]
    · have hstart : ∀ start, start =
          (if ordinal < history.firstOrdinal then history.firstOrdinal else ordinal) →
          (start - history.firstOrdinal).toNat =
            max ordinal.toNat history.firstOrdinal.toNat - (dropped + 1) := by
        intro start hchosen
        have hle : history.firstOrdinal ≤ start ∧
            start.toNat = max ordinal.toNat history.firstOrdinal.toNat := by
          rw [UInt64.le_iff_toNat_le, hchosen]
          split
          · rename_i hbefore
            rw [UInt64.lt_iff_toNat_lt] at hbefore
            omega
          · rename_i hafter
            rw [UInt64.lt_iff_toNat_lt] at hafter
            omega
        rw [UInt64.toNat_sub_of_le _ _ hle.1, hle.2, hfirst]
      simp only [hstart _ rfl]
      rw [h.tail.drop, List.drop_drop]
      congr 2
      omega

end Exact

end DecisionHistory.Retains

end Retained

/--
Whatever is recorded, resized and cleared, the history keeps the newest of the
decisions recorded since the last clear.  While the next ordinal has not
wrapped, every lookup is answered from those decisions.
-/
theorem history_ring_kept (capacity : Nat) (ops : List HistoryOp) :
    (run historyStep (DecisionHistory.create capacity) ops).KeepsNewest
        (recordedSinceClear ops) ∧
      ((recordedSinceClear ops).length + 1 < 2 ^ 64 →
        (run historyStep (DecisionHistory.create capacity) ops).AnswersFrom
          (recordedSinceClear ops)) := by
  obtain ⟨hcoherent, dropped, hretains⟩ := ringOf_run capacity ops
  exact ⟨hretains.keepsNewest hcoherent, hretains.answersFrom⟩

/-- Two decisions in a history of one: the first one is evicted, the second one found. -/
theorem evicted_and_found :
    (run historyStep (DecisionHistory.create 1) [.record {}, .record {}]).get 1 =
        .error .evicted ∧
      ∃ decision, (recordedSinceClear [.record {}, .record {}])[1]? = some decision ∧
        (run historyStep (DecisionHistory.create 1) [.record {}, .record {}]).get 2 =
          .ok { decision with decisionSequence := ⟨2⟩ } := by
  have hanswers := (history_ring_kept 1 [.record {}, .record {}]).2 (by decide)
  refine ⟨hanswers.evicted 1 ?_ (by decide), hanswers.retained 2 (by decide) (by decide)⟩
  exact List.ne_nil_of_length_pos (by decide)

section Wrapped

theorem recordedSinceClear_replicate (count : Nat) (decision : DecisionRecord) :
    recordedSinceClear (List.replicate count (.record decision)) =
      List.replicate count decision := by
  induction count with
  | zero => rfl
  | succ count ih =>
    rw [List.replicate_succ', recordedSinceClear, run_append]
    rw [recordedSinceClear] at ih
    rw [ih, List.replicate_succ']
    rfl

/--
After as many decisions as there are ordinals the next one is zero: a decision
is retained, but every ordinal is reported as one of the future and every page
is empty.
-/
theorem wrapped_history_unreadable :
    (run historyStep (DecisionHistory.create 1)
        (List.replicate (2 ^ 64 - 1) (.record {}))).records ≠ [] ∧
      ∀ ordinal limit,
        (run historyStep (DecisionHistory.create 1)
            (List.replicate (2 ^ 64 - 1) (.record {}))).get ordinal = .error .future ∧
          (run historyStep (DecisionHistory.create 1)
            (List.replicate (2 ^ 64 - 1) (.record {}))).page ordinal limit = [] := by
  obtain ⟨_, dropped, hretains⟩ := ringOf_run 1 (List.replicate (2 ^ 64 - 1) (.record {}))
  rw [recordedSinceClear_replicate] at hretains
  generalize run historyStep (DecisionHistory.create 1)
    (List.replicate (2 ^ 64 - 1) (.record {})) = history at hretains ⊢
  have hsome : history.records ≠ [] := by
    intro hempty
    have hnone := congrArg List.length (hretains.newest hempty)
    rw [List.length_replicate] at hnone
    exact absurd hnone (by decide)
  have hnext : history.nextOrdinal = 0 := by
    rw [hretains.next, List.length_replicate]
    decide
  refine ⟨hsome, fun ordinal limit => ⟨?_, ?_⟩⟩
  · rw [DecisionHistory.get, if_neg (by simpa using hsome), hnext, if_pos (UInt64.zero_le)]
  · rw [DecisionHistory.page, hnext, if_pos (Or.inr UInt64.zero_le)]

end Wrapped

end TrafficFabric
