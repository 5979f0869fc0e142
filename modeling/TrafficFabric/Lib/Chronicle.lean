import Mathlib.Data.List.Basic

/-!
# Chronicles

A machine that notes what it does keeps a list of events, the newest first.  A
rule says which event may follow which past; the chronicle is lawful when every
event of it was allowed by the events before it.  The past of an event is what
follows it in the list, so an event with its past is a suffix.
-/

namespace TrafficFabric
namespace Lib

universe u

variable {E : Type u} {Allowed : List E → E → Prop} {log : List E}

/-- Every event was allowed by the events before it. -/
def EachAllowed (Allowed : List E → E → Prop) : List E → Prop
  | [] => True
  | event :: past => Allowed past event ∧ EachAllowed Allowed past

/-- A lawful chronicle, read at one of its events. -/
theorem EachAllowed.allowed_at {past : List E} {event : E} (h : EachAllowed Allowed log)
    (hevent : event :: past <:+ log) : Allowed past event := by
  obtain ⟨later, rfl⟩ := hevent
  induction later with
  | nil => exact h.1
  | cons _ _ ih => exact ih h.2

/-- Events that are always allowed may be noted at any time. -/
theorem EachAllowed.append {events : List E}
    (hevents : ∀ event ∈ events, ∀ past, Allowed past event) (hlog : EachAllowed Allowed log) :
    EachAllowed Allowed (events ++ log) := by
  induction events with
  | nil => exact hlog
  | cons event events ih =>
    refine ⟨hevents event (by simp) _, ih ?_⟩
    intro later hlater
    exact hevents later (by simp [hlater])

/-- The event that stands at a place of the chronicle, with its past. -/
theorem suffix_of_head?_drop (n : Nat) {event : E} (h : (log.drop n).head? = some event) :
    event :: (log.drop n).tail <:+ log := by
  rw [← List.eq_cons_of_mem_head? h]
  exact List.drop_suffix n log

end Lib
end TrafficFabric
