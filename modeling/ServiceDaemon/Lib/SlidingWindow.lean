/-
Purpose: Sliding windows over a record of event times: what is left of a record
  when old events are dropped from its front, and how a bound on every window
  that ends at an event bounds every closed interval of the window's length.
Main exports: recent, dropWhile_eq_filter_not, recent_recent
-/
import Mathlib

namespace SlidingWindow

/-!
Times are written oldest first.  An event is recent at a moment if the moment
is at most the window's length after it.
-/

variable {α : Type*}

/-- Dropping from the front what an order makes a prefix is filtering. -/
theorem dropWhile_eq_filter_not {before : α → α → Prop} {old : α → Bool}
    (downward : ∀ {a b}, before a b → old b = true → old a = true)
    {events : List α} (ordered : events.Pairwise before) :
    events.dropWhile old = events.filter fun event => !old event := by
  induction events with
  | nil => rfl
  | cons event events ih =>
    obtain ⟨ahead, rest⟩ := List.pairwise_cons.mp ordered
    cases dropped : old event with
    | true => simp [dropped, ih rest]
    | false =>
      -- The first event is kept, so every later one is.
      have kept : ∀ later ∈ events, (!old later) = true := by
        intro later present
        cases oldLater : old later with
        | false => rfl
        | true =>
          rw [downward (ahead later present) oldLater] at dropped
          cases dropped
      simp [dropped, List.filter_eq_self.mpr kept]

section Times

variable [LinearOrder α] [Add α]
  {window now later start : α} {limit : ℕ} {times : List α}

/-- The events that are at most `window` old. -/
def recent (window now : α) (times : List α) : List α :=
  times.filter fun time => now ≤ time + window

/-- What is recent later was recent before. -/
theorem recent_recent (passed : now ≤ later) :
    recent window later (recent window now times) = recent window later times := by
  rw [recent, recent, List.filter_filter]
  apply List.filter_congr
  intro time _
  have recentBefore : later ≤ time + window → now ≤ time + window := le_trans passed
  simpa using recentBefore

/-- At every event, at most `limit` events are recent. -/
inductive Limited (window : α) (limit : ℕ) : List α → Prop where
  | nil : Limited window limit []
  | snoc {times time} (earlier : Limited window limit times)
      (few : (recent window time (times ++ [time])).length ≤ limit) :
      Limited window limit (times ++ [time])

/-- The events of the closed interval of the window's length from `start`. -/
def within (start window : α) (times : List α) : List α :=
  times.filter fun time => start ≤ time ∧ time ≤ start + window

/-- A closed interval holds at most what is recent at its last event. -/
theorem Limited.within_le [AddRightMono α] (limited : Limited window limit times) :
    (within start window times).length ≤ limit := by
  induction limited with
  | nil => simp [within]
  | @snoc times time _ few ih =>
    by_cases inside : start ≤ time ∧ time ≤ start + window
    · refine le_trans (List.Sublist.length_le ?_) few
      apply List.monotone_filter_right
      intro other otherInside
      have after : start ≤ other := (of_decide_eq_true otherInside).1
      exact decide_eq_true (inside.2.trans (add_le_add_left after window))
    · simpa [within, inside] using ih

end Times

end SlidingWindow
