import Mathlib.Data.List.Sort
import Mathlib.Order.Basic

/-!
# Binary search on a sorted list

The search is the halving loop of a lower bound: it keeps a first position and
a length, probes the middle element and drops one half.  On a list that is not
sorted it still returns something, and that something means nothing.  On a
list whose keys strictly ascend it finds the one element with the wanted key,
or none.

The loop is fuelled by the length it starts from.  Each probe at least drops
the middle element, so the fuel never runs out before the interval is empty.
-/

namespace TrafficFabric
namespace Lib

universe u v

section LowerBound

variable {α : Type u}

/-- The halving loop over the interval of `len` elements from `first` on. -/
def lowerBoundLoop
    (below : α → Bool) (items : List α) :
    Nat → Nat → Nat → Nat
  | 0, first, _ => first
  | fuel + 1, first, len =>
    if len = 0 then
      first
    else
      match items[first + len / 2]? with
      | none => first
      | some middle =>
        if below middle then
          lowerBoundLoop below items fuel (first + len / 2 + 1) (len - len / 2 - 1)
        else
          lowerBoundLoop below items fuel first (len / 2)

/-- Position of the first element that is not below the wanted key. -/
def lowerBound (below : α → Bool) (items : List α) : Nat :=
  lowerBoundLoop below items items.length 0 items.length

/--
A position splits the list when everything before it is below the wanted key
and nothing from it on is.
-/
structure Splits
    (below : α → Bool) (items : List α) (lo hi : Nat) : Prop where
  before : ∀ (i : Nat) (x : α), i < lo → items[i]? = some x → below x = true
  after : ∀ (i : Nat) (x : α), hi ≤ i → items[i]? = some x → below x = false

/-- Once an element is not below the key, no later one is. -/
def Partitioned (below : α → Bool) (items : List α) : Prop :=
  items.Pairwise (fun x y => below y = true → below x = true)

theorem Partitioned.mono {below : α → Bool} {items : List α} (hp : Partitioned below items)
    {i j : Nat} {x y : α} (hij : i ≤ j) (hx : items[i]? = some x) (hy : items[j]? = some y)
    (hbelow : below y = true) : below x = true := by
  rcases Nat.lt_or_eq_of_le hij with hlt | rfl
  · obtain ⟨hi, rfl⟩ := List.getElem?_eq_some_iff.mp hx
    obtain ⟨hj, rfl⟩ := List.getElem?_eq_some_iff.mp hy
    exact List.pairwise_iff_getElem.mp hp i j hi hj hlt hbelow
  · rw [hx] at hy
    cases hy
    exact hbelow

/-- One pass of the loop narrows the interval and keeps it splitting. -/
theorem lowerBoundLoop_splits {below : α → Bool} {items : List α} (hp : Partitioned below items) :
    ∀ (fuel first len : Nat),
      len ≤ fuel →
      first + len ≤ items.length →
      Splits below items first (first + len) →
      Splits below items
        (lowerBoundLoop below items fuel first len)
        (lowerBoundLoop below items fuel first len)
  | 0, first, len, hfuel, _, hs => by
    have hlen : len = 0 := by omega
    subst hlen
    simpa [lowerBoundLoop] using hs
  | fuel + 1, first, len, hfuel, hbound, hs => by
    unfold lowerBoundLoop
    by_cases hlen : len = 0
    · subst hlen
      simpa using hs
    · rw [if_neg hlen]
      have hmid : first + len / 2 < items.length := by omega
      rw [List.getElem?_eq_getElem hmid]
      by_cases hbelow : below items[first + len / 2] = true
      · simp only [hbelow, if_true]
        apply lowerBoundLoop_splits hp fuel
        · omega
        · omega
        · refine ⟨?_, ?_⟩
          · intro i x hi hx
            exact hp.mono (by omega) hx (List.getElem?_eq_getElem hmid) hbelow
          · intro i x hi hx
            exact hs.after i x (by omega) hx
      · simp only [hbelow]
        apply lowerBoundLoop_splits hp fuel
        · omega
        · omega
        · refine ⟨hs.before, ?_⟩
          intro i x hi hx
          by_contra hne
          have htrue : below x = true := by simpa using hne
          exact hbelow (hp.mono (by omega) (List.getElem?_eq_getElem hmid) hx htrue)

/-- The lower bound splits every partitioned list. -/
theorem lowerBound_splits {below : α → Bool} {items : List α} (hp : Partitioned below items) :
    Splits below items (lowerBound below items) (lowerBound below items) := by
  unfold lowerBound
  apply lowerBoundLoop_splits hp
  · exact Nat.le_refl _
  · omega
  · refine ⟨?_, ?_⟩
    · intro i x hi _
      omega
    · intro i x hi hx
      have hlt := (List.getElem?_eq_some_iff.mp hx).1
      omega

end LowerBound

section BinaryFind

variable {α : Type u} {κ : Type v} [LinearOrder κ]

/-- The element whose key is the wanted one, by binary search. -/
def binaryFind (items : List α) (key : κ) (project : α → κ) : Option α :=
  match items[lowerBound (fun x => decide (project x < key)) items]? with
  | none => none
  | some x => if project x = key then some x else none

/-- The keys of a list strictly ascend. -/
def StrictlyAscending (project : α → κ) (items : List α) : Prop :=
  items.Pairwise (fun x y => project x < project y)

theorem StrictlyAscending.partitioned {project : α → κ} {items : List α}
    (hs : StrictlyAscending project items) (key : κ) :
    Partitioned (fun x => decide (project x < key)) items := by
  refine List.Pairwise.imp ?_ hs
  intro x y hxy hy
  exact decide_eq_true (lt_trans hxy (of_decide_eq_true hy))

/-- In a strictly ascending list a key identifies its element. -/
theorem StrictlyAscending.eq_of_key_eq {project : α → κ} {items : List α}
    (hs : StrictlyAscending project items) {x y : α} (hx : x ∈ items) (hy : y ∈ items)
    (hkey : project x = project y) : x = y := by
  obtain ⟨i, hi, rfl⟩ := List.getElem_of_mem hx
  obtain ⟨j, hj, rfl⟩ := List.getElem_of_mem hy
  rcases Nat.lt_trichotomy i j with hlt | rfl | hlt
  · have := List.pairwise_iff_getElem.mp hs i j hi hj hlt
    exact absurd hkey (ne_of_lt this)
  · rfl
  · have := List.pairwise_iff_getElem.mp hs j i hj hi hlt
    exact absurd hkey.symm (ne_of_lt this)

/-- Binary search on strictly ascending keys is exact lookup by key. -/
theorem binaryFind_eq_some_iff {project : α → κ} {items : List α}
    (hs : StrictlyAscending project items) (key : κ) (x : α) :
    binaryFind items key project = some x ↔ x ∈ items ∧ project x = key := by
  have hsplit := lowerBound_splits (hs.partitioned key)
  unfold binaryFind
  constructor
  · intro h
    split at h
    · cases h
    · rename_i y hy
      split at h
      · cases h
        rename_i hkey
        exact ⟨List.mem_of_getElem? hy, hkey⟩
      · cases h
  · rintro ⟨hmem, hkey⟩
    obtain ⟨j, hj, hjx⟩ := List.getElem_of_mem hmem
    have hjx? : items[j]? = some x := by
      rw [List.getElem?_eq_getElem hj, hjx]
    -- the wanted element is not below its own key, so it is at or after the
    -- lower bound; everything in between would have a smaller key
    have hge : lowerBound (fun x => decide (project x < key)) items ≤ j := by
      by_contra hlt
      have := hsplit.before j x (by omega) hjx?
      simp [hkey] at this
    have hr : lowerBound (fun x => decide (project x < key)) items < items.length :=
      Nat.lt_of_le_of_lt hge hj
    rw [List.getElem?_eq_getElem hr]
    have hnot := hsplit.after _ _ (Nat.le_refl _) (List.getElem?_eq_getElem hr)
    have hle :
        project items[lowerBound (fun x => decide (project x < key)) items] = key := by
      rcases Nat.lt_or_eq_of_le hge with hlt | heq
      · have hlt' := List.pairwise_iff_getElem.mp hs _ j hr hj hlt
        rw [hjx, hkey] at hlt'
        simp [hlt'] at hnot
      · simp only [heq, hjx, hkey]
    have hsame :
        items[lowerBound (fun x => decide (project x < key)) items] = x :=
      hs.eq_of_key_eq (List.getElem_mem hr) hmem (hle.trans hkey.symm)
    simp [hsame, hkey]

end BinaryFind

end Lib
end TrafficFabric
