/-
Purpose: Logs of events, newest first, in which every event is allowed by the
  ones before it, and what that says about an event found in such a log.
Main exports: new_event_split, Justified, Justified.allows
-/
import Mathlib

namespace EventLog

universe u

variable {Event : Type u}

/-- An event of a log that has grown is one of the new events when it was not in
the old log. -/
theorem new_event_split {event : Event} {later earlier added log : List Event}
    (absent : event ∉ log) (grown : later ++ event :: earlier = added ++ log) :
    ∃ between, earlier = between ++ log ∧ added = later ++ event :: between := by
  induction later generalizing added with
  | nil =>
    cases added with
    | nil =>
      refine absurd ?_ absent
      rw [List.nil_append, List.nil_append] at grown
      rw [← grown]
      exact List.mem_cons_self
    | cons head between =>
      cases grown
      exact ⟨between, rfl, rfl⟩
  | cons first later ih =>
    cases added with
    | nil =>
      refine absurd ?_ absent
      rw [List.nil_append] at grown
      rw [← grown]
      exact List.mem_append_right _ List.mem_cons_self
    | cons head added =>
      rw [List.cons_append, List.cons_append, List.cons.injEq] at grown
      obtain ⟨same, grown⟩ := grown
      obtain ⟨between, past, rest⟩ := ih grown
      exact ⟨between, past, by rw [same, rest, List.cons_append]⟩

/-- Each event of the log is allowed by the events that precede it. -/
def Justified (allowed : List Event → Event → Prop) : List Event → Prop
  | [] => True
  | event :: earlier => allowed earlier event ∧ Justified allowed earlier

namespace Justified

variable {allowed : List Event → Event → Prop} {log later earlier : List Event}
  {event : Event}

theorem of_append (justified : Justified allowed (later ++ earlier)) :
    Justified allowed earlier := by
  induction later with
  | nil => exact justified
  | cons _ _ ih => exact ih justified.2

theorem allows (justified : Justified allowed (later ++ event :: earlier)) :
    allowed earlier event :=
  justified.of_append.1

/-- An event that is never allowed twice happens once at most. -/
theorem count_le_one [DecidableEq Event] (justified : Justified allowed log)
    (once : ∀ earlier, allowed earlier event → event ∉ earlier) : log.count event ≤ 1 := by
  induction log with
  | nil => exact Nat.zero_le 1
  | cons head log ih =>
    by_cases same : head = event
    · subst same
      rw [List.count_cons_self, List.count_eq_zero_of_not_mem (once log justified.1)]
    · rw [List.count_cons_of_ne same]
      exact ih justified.2

end Justified

end EventLog
