/-
Purpose: What ends a restart backoff: a provider that the service watches can
  change during the wait, and the wait listens to the reload signal, to the
  service token and to the clock.
Main exports: Attended, WaitInterruptible, change_interrupts_backoff
-/
import ServiceDaemon.Proofs.LifecycleAccounting

namespace ServiceDaemon

open StepSystem

/-!
The watch set of a generation is dropped when the generation ends, so no one
tells the backoff wait of a change.  The wait ends early only if the reload
signal of the service has a permit, which the simulation handle alone gives, or
if the service is being shut down.

[SRC runner/supervisor.rs wait_for_restart]
[SRC docs/architecture/lifecycle-management.md, Immediate Reloads]
-/

/-- A branch of the wait other than its delay is ready. -/
def SupervisorState.interrupted (s : SupervisorState) : Bool :=
  s.reloadSignal == some true || s.cancelled

/-- A provider changes during a wait only when another branch of the wait is
ready, and the delay does not end before the supervisor has run. -/
def attended (s : SupervisorState) : SupervisorAction → Bool
  | .dependencyChange =>
    match s.point with
    | .waiting deadline _ => s.interrupted && decide (s.now < deadline)
    | _ => true
  | .tick elapsed =>
    match s.point with
    | .waiting deadline true => decide (s.now + elapsed < deadline)
    | _ => true
  | _ => true

def Attended (s : SupervisorState) (a : SupervisorAction) : Prop :=
  attended s a = true

instance (s : SupervisorState) (a : SupervisorAction) :
    Decidable (Attended s a) :=
  inferInstanceAs (Decidable (_ = true))

/-- A wait with a change ended by a reload, with the counters reset, or by
shutdown. -/
def BackoffWait.Interrupted (wait : BackoffWait) : Prop :=
  wait.changed = true → wait.ending = .shutdown ∨
      wait.ending = .reload ∧ wait.attemptCount = 0 ∧ wait.windowFailures = 0

/-- Every wait with a change so far was interrupted, and the one in progress is
about to be. -/
structure WaitInterruptible (s : SupervisorState) : Prop where
  ended : ∀ wait ∈ s.waits, wait.Interrupted
  inTime : ∀ deadline, s.point = .waiting deadline true → s.now < deadline ∧ s.interrupted = true

namespace WaitInterruptible

variable {config : SupervisorConfig} {s next : SupervisorState}
  {action : SupervisorAction}

theorem new (now : Instant) (statusPlane : Option ServiceStatus) :
    WaitInterruptible (SupervisorState.new config now statusPlane) where
  ended wait member := by cases member
  inTime deadline here := by cases here

theorem moves (interruptible : WaitInterruptible s) (waits : next.waits = s.waits)
    (elsewhere : ∀ deadline, next.point ≠ .waiting deadline true) :
    WaitInterruptible next where
  ended := by
    rw [waits]
    exact interruptible.ended
  inTime deadline here := absurd here (elsewhere deadline)

/-- A move that leaves the wait alone. -/
theorem keeps (interruptible : WaitInterruptible s) (waits : next.waits = s.waits)
    (point : next.point = s.point) (now : next.now = s.now)
    (interrupted : s.interrupted = true → next.interrupted = true) :
    WaitInterruptible next where
  ended := by
    rw [waits]
    exact interruptible.ended
  inTime deadline here := by
    rw [point] at here
    obtain ⟨before, ready⟩ := interruptible.inTime deadline here
    rw [now]
    exact ⟨before, interrupted ready⟩

/-- The end of a wait. -/
theorem notes (interruptible : WaitInterruptible s) (waits : next.waits = s.waits)
    (elsewhere : ∀ deadline, next.point ≠ .waiting deadline true)
    (interrupted : BackoffWait.Interrupted ⟨changed, ending, next.backoff.attemptCount,
      next.restartStorm.failures.length⟩) :
    WaitInterruptible (next.noteWait changed ending) where
  ended := by
    intro wait mem
    rcases List.mem_append.mp mem with earlier | last
    · rw [waits] at earlier
      exact interruptible.ended wait earlier
    · cases List.mem_singleton.mp last
      exact interrupted
  inTime deadline here := absurd here (elsewhere deadline)

theorem not_elapsed (interruptible : WaitInterruptible s)
    (here : s.point = .waiting deadline changed) (reached : deadline ≤ s.now) :
    changed = false := by
  cases changed with
  | false => rfl
  | true =>
    obtain ⟨before, -⟩ := interruptible.inTime deadline here
    exact absurd reached (Nat.not_le.mpr before)

theorem ticks (interruptible : WaitInterruptible s) (guarded : Attended s (.tick elapsed)) :
    WaitInterruptible { s with now := s.now + elapsed } where
  ended := interruptible.ended
  inTime deadline here := by
    obtain ⟨-, ready⟩ := interruptible.inTime deadline here
    have waiting : s.point = .waiting deadline true := here
    refine ⟨?_, ready⟩
    simpa [Attended, attended, waiting] using guarded

theorem changes (interruptible : WaitInterruptible s) (guarded : Attended s .dependencyChange) :
    WaitInterruptible
      { s with dependencyVersion := s.dependencyVersion + 1, point := s.point.noteChange } where
  ended := interruptible.ended
  inTime deadline here := by
    have noted : s.point.noteChange = .waiting deadline true := here
    cases point : s.point with
    | waiting planned changed =>
      rw [point] at noted
      cases noted
      have attentive : s.interrupted = true ∧ s.now < deadline := by
        simpa [Attended, attended, point] using guarded
      exact ⟨attentive.2, attentive.1⟩
    | _ =>
      rw [point] at noted
      cases noted

theorem step (interruptible : WaitInterruptible s) (guarded : Attended s action)
    (h : Supervisor.step config s action = some next) : WaitInterruptible next := by
  cases SupervisorMove.of_step h with
  | @performs write _ pending =>
    apply interruptible.keeps
    · exact s.perform_waits write
    · exact s.perform_point write
    · cases write <;> rfl
    · intro ready
      cases write <;> exact ready
  | ticks => exact interruptible.ticks guarded
  | changes watched => exact interruptible.changes guarded
  | elapses idle here reached =>
    refine interruptible.notes rfl ?_ ?_
    · intro deadline waiting
      cases waiting
    · intro changed
      rw [interruptible.not_elapsed here reached] at changed
      cases changed
  | reloadsWait idle here signalled =>
    refine interruptible.notes rfl ?_ ?_
    · intro deadline waiting
      cases waiting
    · intro _
      exact .inr ⟨rfl, rfl, rfl⟩
  | stopsWait idle here cancelled =>
    refine interruptible.notes rfl ?_ ?_
    · intro deadline waiting
      cases waiting
    · intro _
      exact .inl rfl
  | cancels =>
    refine interruptible.keeps rfl rfl rfl ?_
    intro _
    exact Bool.or_true _
  | triggersReload =>
    refine interruptible.keeps rfl rfl rfl ?_
    intro ready
    rcases (Bool.or_eq_true _ _).mp ready with signalled | cancelled
    · -- A signal that has a permit exists, and keeps its permit.
      have present : s.reloadSignal = some true := by
        simpa using signalled
      simp [SupervisorState.interrupted, present]
    · exact (Bool.or_eq_true _ _).mpr (.inr cancelled)
  | cancelsDaemon | writesStatus | recordsStatus =>
    exact interruptible.keeps rfl rfl rfl fun ready => ready
  | prepares idle here =>
    refine interruptible.moves rfl ?_
    intro deadline waiting
    simp only [SupervisorState.prepare] at waiting
    split at waiting <;> cases waiting
  | classifies idle here =>
    refine interruptible.moves rfl ?_
    intro deadline waiting
    simp only [SupervisorState.classify] at waiting
    split at waiting <;> cases waiting
  | _ =>
    refine interruptible.moves rfl ?_
    intro deadline waiting
    cases waiting

end WaitInterruptible

theorem interruptible_of_run
    (run : GuardedRun (Supervisor.step config) Attended (.new config now statusPlane) acts s) :
    WaitInterruptible s := by
  induction run with
  | nil => exact WaitInterruptible.new now statusPlane
  | snoc _ guarded h ih => exact ih.step guarded h

/-- If watched providers change during a wait only when the wait is being
interrupted anyway, then no wait with a change runs to the end of its delay: it
ends by the reload branch, with the backoff and the storm guard reset, or by
shutdown, and until then one of these branches is ready and the delay is not. -/
theorem change_interrupts_backoff {config : SupervisorConfig} {now : Instant}
    {statusPlane : Option ServiceStatus} {schedule : List SupervisorAction}
    {state : SupervisorState}
    (run : GuardedRun (Supervisor.step config) Attended
      (.new config now statusPlane) schedule state) :
    (∀ wait ∈ state.waits, wait.Interrupted) ∧
      ∀ deadline, state.pending = [] → state.point = .waiting deadline true →
        (∀ next, Supervisor.step config state (.sleepElapsed next) = none) ∧
          ((Supervisor.step config state .reloadDuringDelay).isSome = true ∨
            (Supervisor.step config state .shutdownDuringDelay).isSome = true) := by
  have interruptible := interruptible_of_run run
  refine ⟨interruptible.ended, ?_⟩
  intro deadline idle here
  obtain ⟨before, ready⟩ := interruptible.inTime deadline here
  constructor
  · intro next
    simp only [Supervisor.step, idle, here]
    exact if_neg (Nat.not_le.mpr before)
  · rcases (Bool.or_eq_true _ _).mp ready with signalled | cancelled
    · left
      simp [Supervisor.step, idle, here, eq_of_beq signalled]
    · right
      simp [Supervisor.step, idle, here, cancelled]

/-- A failure, and a reload signal that is there when a provider changes. -/
def reloadedBackoff : List SupervisorAction :=
  List.flatten
    [failIntoBackoff, [.tick 1000, .triggerReload, .dependencyChange, .reloadDuringDelay]]

theorem change_interrupts_backoff_reload :
    ∃ state,
      GuardedRun (Supervisor.step (workerConfig .standard true)) Attended
          (.new (workerConfig .standard true) 0 none) reloadedBackoff state ∧
        state.waits = [⟨true, .reload, 0, 0⟩] ∧
        (∀ wait ∈ state.waits, wait.Interrupted) :=
  GuardedRun.exists_and (by decide +kernel) fun _ run _ =>
    (change_interrupts_backoff run).1

/-- A provider changes during the wait, and the delay runs to its end. -/
theorem change_leaves_backoff :
    ∃ state,
      Run (Supervisor.step (workerConfig .standard true))
          (.new (workerConfig .standard true) 0 none)
          (List.flatten [failIntoBackoff, [.dependencyChange, .tick (fromSecs 1),
                .sleepElapsed (fromSecs 2)]])
          state ∧
        state.waits = [⟨true, .elapsed, 1, 1⟩] :=
  Run.exists_of_check (by decide +kernel)

end ServiceDaemon
