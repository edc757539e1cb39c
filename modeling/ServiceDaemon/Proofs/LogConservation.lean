/-
Purpose: The log services lose no event silently as long as none of their drains
  meets a lag: what was published before the shutdown was observed is written
  once, in order, or counted in a warning.
Main exports: LagsHeard, Conserved, log_events_conserved
-/
import ServiceDaemon.Core.LogService

namespace ServiceDaemon

open StepSystem

namespace LogServiceState

variable {s next : LogServiceState} {batchSize capacity : Nat}

def counted (state : LogServiceState) (event : Nat) : Prop :=
  ∃ warning ∈ state.warnings,
    warning.first ≤ event ∧ event < warning.first + warning.skipped

/-- No `try_recv` of a drain finds that its next event has been overwritten. -/
def LagsHeard (batchSize capacity : Nat) (state : LogServiceState) :
    LogAction → Prop
  | .run =>
    state.point = .draining ∧ state.buffer.length < batchSize ∨
      state.point = .finalDrain → state.published ≤ state.position + capacity
  | _ => True

instance : ∀ action, Decidable (LagsHeard batchSize capacity s action)
  | .run => inferInstanceAs (Decidable (_ → _))
  | .publish | .requestShutdown => instDecidableTrue

/-- Every event before the position of the receiver is written, in the buffer,
or counted. -/
structure Conserved (state : LogServiceState) : Prop where
  ordered : (state.rendered ++ state.buffer).Pairwise (· < ·)
  taken : ∀ event, event ∈ state.rendered ++ state.buffer ↔
    event < state.position ∧ ¬state.counted event
  counts : ∀ event, state.counted event → event < state.position
  bounded : state.position ≤ state.published

/-- What the final drain has come to. -/
def Finishing (state : LogServiceState) : Prop :=
  match state.point with
  | .finalDrain => ∃ n ∈ state.observed, n ≤ state.published
  | .finalFlush => ∃ n ∈ state.observed, n ≤ state.position
  | .returned => state.buffer = [] ∧ ∃ n ∈ state.observed, n ≤ state.position
  | _ => True

/-- The events are the same wherever the loop is. -/
theorem Conserved.goto (h : Conserved s) (point : LogPoint) (observed : Option Nat) :
    Conserved { s with point := point, observed := observed } :=
  ⟨h.ordered, h.taken, h.counts, h.bounded⟩

theorem Conserved.event (h : Conserved s) (there : s.position < s.published) :
    Conserved { s with position := s.position + 1, buffer := s.buffer ++ [s.position] } where
  ordered := by
    rw [← List.append_assoc, List.pairwise_append]
    refine ⟨h.ordered, List.pairwise_singleton _ _, ?_⟩
    intro event mem last same
    rw [List.mem_singleton.mp same]
    exact ((h.taken event).mp mem).1
  taken := by
    intro event
    have before := h.taken event
    have counts := h.counts event
    simp only [← List.append_assoc, List.mem_append, List.mem_singleton, counted] at *
    grind
  counts := fun event listed => Nat.lt_succ_of_lt (h.counts event listed)
  bounded := there

theorem Conserved.lag {oldest : Nat} (h : Conserved s) (behind : s.position < oldest)
    (there : oldest ≤ s.published) :
    Conserved
      { s with
        position := oldest
        point := .checking
        warnings := s.warnings ++ [⟨s.position, oldest - s.position⟩] } := by
  have grown : ∀ event, (∃ warning ∈ s.warnings ++ [⟨s.position, oldest - s.position⟩],
      warning.first ≤ event ∧ event < warning.first + warning.skipped) ↔
      s.counted event ∨ s.position ≤ event ∧ event < oldest := by
    intro event
    simp only [List.mem_append, List.mem_singleton, or_and_right, exists_or, exists_eq_left]
    rw [counted, Nat.add_sub_cancel' (Nat.le_of_lt behind)]
  refine ⟨h.ordered, fun event => ?_, fun event listed => ?_, there⟩
  · have before := h.taken event
    have counts := h.counts event
    simp only [counted, grown] at before counts ⊢
    grind
  · have counts := h.counts event
    rcases (grown event).mp listed with earlier | ⟨-, now⟩
    · exact Nat.lt_trans (counts earlier) behind
    · exact now

theorem Conserved.flush (h : Conserved s) (after : LogPoint) : Conserved (s.flush after) := by
  rw [LogServiceState.flush]
  split
  · exact h.goto _ _
  · rename_i event rest buffer
    have moved : s.rendered ++ [event] ++ rest = s.rendered ++ s.buffer := by
      rw [buffer, List.append_assoc, List.singleton_append]
    exact ⟨moved ▸ h.ordered, moved ▸ h.taken, h.counts, h.bounded⟩

/-- A drain that meets no lag stops only when it has taken everything. -/
theorem drain_cases (heard : s.published ≤ s.position + capacity) (flush : LogPoint) :
    s.position < s.published ∧ s.drain capacity flush =
        { s with position := s.position + 1, buffer := s.buffer ++ [s.position] } ∨
      s.published ≤ s.position ∧ s.drain capacity flush = { s with point := flush } := by
  have current : ¬s.position < s.published - capacity := by omega
  by_cases there : s.position < s.published
  · simp [drain, receive, current, there]
  · simp [drain, receive, current, there, Nat.le_of_not_lt there]

theorem Conserved.drain (h : Conserved s) (heard : s.published ≤ s.position + capacity)
    (flush : LogPoint) : Conserved (s.drain capacity flush) := by
  rcases drain_cases heard flush with ⟨there, taken⟩ | ⟨-, empty⟩
  · rw [taken]
    exact h.event there
  · rw [empty]
    exact h.goto _ _

theorem conserved_run (h : Conserved s) (ended : Finishing s)
    (heard : LagsHeard batchSize capacity s .run)
    (moved : s.run batchSize capacity = some next) : Conserved next ∧ Finishing next := by
  simp only [LagsHeard] at heard
  cases here : s.point <;> simp only [LogServiceState.run, here] at moved
  case returned => cases moved
  case checking =>
    split at moved <;> cases moved
    · exact ⟨h.goto _ _, s.published, rfl, Nat.le_refl _⟩
    · exact ⟨h.goto _ _, trivial⟩
  case selecting =>
    split at moved
    · cases moved
      exact ⟨h.goto _ _, s.published, rfl, Nat.le_refl _⟩
    · by_cases behind : s.position < s.published - capacity
      · simp only [receive, behind, if_true] at moved
        cases moved
        exact ⟨h.lag behind (Nat.sub_le _ _), trivial⟩
      · by_cases there : s.position < s.published
        · simp only [receive, behind, there, if_true, if_false] at moved
          cases moved
          exact ⟨(h.event there).goto .draining s.observed, trivial⟩
        · simp [receive, behind, there] at moved
  case draining =>
    split at moved <;> cases moved
    · rename_i room
      have kept := heard (.inl ⟨here, room⟩)
      refine ⟨h.drain kept _, ?_⟩
      rcases drain_cases kept .flushing with ⟨-, taken⟩ | ⟨-, empty⟩
      · rw [taken]
        simp [Finishing, here]
      · rw [empty]
        trivial
    · exact ⟨h.goto _ _, trivial⟩
  case flushing =>
    cases moved
    refine ⟨h.flush _, ?_⟩
    cases buffer : s.buffer <;> simp [Finishing, LogServiceState.flush, buffer, here]
  case finalDrain =>
    cases moved
    have kept := heard (.inr here)
    obtain ⟨n, observed, le⟩ : ∃ n ∈ s.observed, n ≤ s.published := by
      simpa only [Finishing, here] using ended
    refine ⟨h.drain kept _, ?_⟩
    rcases drain_cases kept .finalFlush with ⟨-, taken⟩ | ⟨all, empty⟩
    · rw [taken]
      simp only [Finishing, here]
      exact ⟨n, observed, le⟩
    · rw [empty]
      exact ⟨n, observed, Nat.le_trans le all⟩
  case finalFlush =>
    cases moved
    have reached : ∃ n ∈ s.observed, n ≤ s.position := by
      simpa only [Finishing, here] using ended
    refine ⟨h.flush _, ?_⟩
    cases buffer : s.buffer with
    | nil =>
      simp only [LogServiceState.flush, buffer]
      exact ⟨rfl, reached⟩
    | cons event rest =>
      simp only [Finishing, LogServiceState.flush, buffer, here]
      exact reached

theorem conserved_step {action} (h : Conserved s ∧ Finishing s)
    (heard : LagsHeard batchSize capacity s action)
    (moved : step batchSize capacity s action = some next) : Conserved next ∧ Finishing next := by
  obtain ⟨conserved, ended⟩ := h
  cases action with
  | publish =>
    cases moved
    refine ⟨⟨conserved.ordered, conserved.taken, conserved.counts,
      Nat.le_succ_of_le conserved.bounded⟩, ?_⟩
    cases here : s.point <;> simp only [Finishing, here] at ended ⊢
    case finalDrain =>
      obtain ⟨n, observed, le⟩ := ended
      exact ⟨n, observed, Nat.le_succ_of_le le⟩
    all_goals exact ended
  | requestShutdown =>
    cases moved
    exact ⟨⟨conserved.ordered, conserved.taken, conserved.counts, conserved.bounded⟩, ended⟩
  | run => exact conserved_run conserved ended heard moved

end LogServiceState

open LogServiceState in
/-- Along every run in which no drain meets a lag: when the service returns, it
has written events once and in order, and those published before it observed its
shutdown are just the ones that it wrote or counted in a warning. -/
theorem log_events_conserved {batchSize capacity : Nat} {schedule : List LogAction}
    {state : LogServiceState}
    (run : GuardedRun (step batchSize capacity) (LagsHeard batchSize capacity) .new schedule state)
    (returned : state.point = .returned) :
    state.rendered.Pairwise (· < ·) ∧ ∃ observed, state.observed = some observed ∧
      ∀ event < observed, event ∈ state.rendered ↔ ¬state.counted event := by
  have start : Conserved new ∧ Finishing new :=
    ⟨⟨.nil, by simp [new, counted], by simp [new, counted], Nat.le_refl _⟩, trivial⟩
  obtain ⟨conserved, ended⟩ := run.invariant start conserved_step
  simp only [Finishing, returned] at ended
  obtain ⟨written, observed, seen, all⟩ := ended
  have ordered := conserved.ordered
  have taken := conserved.taken
  rw [written, List.append_nil] at ordered taken
  refine ⟨ordered, observed, seen, fun event before => ?_⟩
  rw [taken]
  exact and_iff_right (Nat.lt_of_lt_of_le before all)

open LogServiceState in
/-- With a batch of two and a queue of eight: a lag that `recv` reports, a batch
and the final drain. -/
theorem log_events_conserved_lag :
    ∃ state, GuardedRun (step 2 8) (LagsHeard 2 8) .new
        (.replicate 9 .publish ++ .replicate 9 .run ++ [.requestShutdown] ++
          .replicate 15 .run) state ∧
      (state.point = .returned ∧ state.warnings = [⟨0, 1⟩] ∧
        state.rendered = [1, 2, 3, 4, 5, 6, 7, 8]) ∧
      state.rendered.Pairwise (· < ·) :=
  GuardedRun.exists_and (by decide +kernel) fun _ run seen =>
    (log_events_conserved run seen.1).1

open LogServiceState in
/-- A burst before the shutdown: the final drain meets the lag and gives up what
the queue still holds, without a warning. -/
theorem log_burst_lost :
    ∃ state, Run (step 2 8) .new
        (.replicate 9 .publish ++ [.requestShutdown] ++ .replicate 3 .run) state ∧
      state.point = .returned ∧ state.observed = some 9 ∧
      state.rendered = [] ∧ state.warnings = [] :=
  Run.exists_of_check (by decide +kernel)

end ServiceDaemon
