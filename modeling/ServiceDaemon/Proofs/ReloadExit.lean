/-
Purpose: A generation that is disturbed by a reload alone: how its exit is
  recorded, what restart follows, and what it leaves in the restart counters.
Main exports: GenerationExit.reloadOnly, ReloadAlone, Calm, reload_is_no_failure
-/
import ServiceDaemon.Proofs.ExitRecords

namespace ServiceDaemon

open StepSystem SupervisorState

/-!
A reload cancels the reload token of the generation.  A body that is running
returns, and its exit is a reload.  An isolated generation that still waits for
its startup permit has no body: the gate turns the cancellation into a startup
error, which is classified with the failures.

[SRC runner/generation.rs run_isolated_service_generation]
[SRC runner/supervisor.rs handle_outcome, wait_for_restart]
[SRC docs/architecture/lifecycle-management.md, Restart Storm Guard]
-/

/-! ### The origin of a result -/

/-- Where the result of the future comes from, once that is settled. -/
def GenerationFuture.origin : GenerationFuture → Option GenerationOrigin
  | .joining origin | .ready origin _ => some origin
  | _ => none

/-- Where the result of the current generation comes from. -/
def SupervisorPoint.origin : SupervisorPoint → Option GenerationOrigin
  | .running future _ | .reloading future => future.origin
  | .outcome origin _ | .classify origin _ => some origin
  | _ => none

theorem GenerationFuture.origin_step {cancelled reloadCancelled : Bool}
    {future next : GenerationFuture} {event : GenerationEvent}
    (h : future.step cancelled reloadCancelled event = some next)
    (other : event ≠ .gateReloaded) (reloads : next.origin = some .gateReload) :
    future.origin = some .gateReload := by
  unfold step at h
  split at h
  all_goals try split at h
  all_goals cases h
  all_goals simp_all [origin]

theorem origin_step {config : SupervisorConfig} {s next : SupervisorState}
    {action : SupervisorAction} (other : action ≠ .generation .gateReloaded)
    (h : Supervisor.step config s action = some next)
    (reloads : next.point.origin = some .gateReload) : s.point.origin = some .gateReload := by
  cases SupervisorMove.of_step h with
  | performs pending =>
    rw [perform_point] at reloads
    exact reloads
  | prepares idle here =>
    simp only [prepare] at reloads
    split at reloads <;> cases reloads
  | @enters lane idle here resolved => cases lane <;> cases reloads
  | classifies idle here =>
    simp only [classify] at reloads
    split at reloads <;> cases reloads
  | runs here advanced =>
    rw [here]
    apply GenerationFuture.origin_step advanced _ reloads
    intro gate
    exact other (congrArg SupervisorAction.generation gate)
  | runsReloading here advanced =>
    rw [here]
    apply GenerationFuture.origin_step advanced _ reloads
    intro gate
    exact other (congrArg SupervisorAction.generation gate)
  | changes watched =>
    rw [SupervisorPoint.noteChange_congr SupervisorPoint.origin fun _ _ => rfl] at reloads
    exact reloads
  | checks idle here uncancelled =>
    rw [here]
    exact reloads
  | takesResult idle here =>
    rw [here]
    exact reloads
  | takesReloadResult idle here =>
    rw [here]
    exact reloads
  | takesDependency idle here behind =>
    rw [here]
    exact reloads
  | takesReload idle here signalled =>
    rw [here]
    exact reloads
  | ticks | cancels | cancelsDaemon | triggersReload | writesStatus
  | recordsStatus => exact reloads
  | _ => cases reloads

/-! ### The exit of a reload -/

/-- The reload token was cancelled, and nothing else disturbed the generation:
its body returned, or it had none because the startup gate took the reload. -/
def GenerationExit.reloadOnly (exit : GenerationExit) : Bool :=
  exit.record.any (·.signals.reloadRequested) &&
    (exit.origin == .body .returned || exit.origin == .gateReload)

/-- What the exit of a reload looks like. -/
def ReloadExit (exit : GenerationExit) : Prop :=
  exit.kind = .reload ∧ ∃ record, exit.record = some record ∧
    (∀ msg, record.nextStatus ≠ .recovering msg) ∧ record.restartDecision = .immediate

/-- A reload alone makes a reload exit. -/
def ReloadAlone (exit : GenerationExit) : Prop :=
  exit.reloadOnly = true → ReloadExit exit

theorem ReloadAlone.stopped (origin : GenerationOrigin) (early : Bool) :
    ReloadAlone (shutdownExit origin early) := by
  intro reload
  cases reload

theorem ReloadAlone.classified (config : SupervisorConfig) (early : Bool)
    (signals : GenerationSignalFacts) (other : origin ≠ .gateReload) :
    ReloadAlone (classifiedExit config origin early signals) := by
  intro reload
  simp only [GenerationExit.reloadOnly, classifiedExit, Option.any_some,
    Bool.and_eq_true, Bool.or_eq_true, beq_iff_eq, other, or_false] at reload
  obtain ⟨requested, rfl⟩ := reload
  have asked : signals.reloadRequested = true := requested
  constructor
  · simp [classifiedExit, GenerationOrigin.outcome, handleOutcome,
      GenerationExitRecord.exitKind, GenerationResultKind.diagnosticsExitKind,
      asked]
  · refine ⟨_, rfl, ?_, rfl⟩
    intro msg
    simp [GenerationOrigin.outcome, handleOutcome, asked]

theorem reloads_of_run {config now statusPlane acts s}
    (run : GuardedRun (Supervisor.step config) (fun _ action => action ≠ .generation .gateReloaded)
      (.new config now statusPlane) acts s) :
    s.point.origin ≠ some .gateReload ∧ Recorded ReloadAlone s := by
  induction run with
  | nil =>
    refine ⟨?_, Recorded.new now statusPlane⟩
    intro reloads
    cases reloads
  | snoc _ other h ih =>
    obtain ⟨elsewhere, recorded⟩ := ih
    constructor
    · intro reloads
      exact elsewhere (origin_step other h reloads)
    · apply recorded.step _ _ h
      · intro origin early _ _
        exact ReloadAlone.stopped origin early
      · intro origin early signals here
        apply ReloadAlone.classified
        intro gate
        apply elsewhere
        rw [here, gate]
        rfl

/-! ### The restart counters -/

/-- From the start of a generation to its restart decision. -/
def SupervisorPoint.inGeneration : SupervisorPoint → Bool
  | .enterRunning | .running .. | .reloading _ | .outcome .. | .classify ..
  | .resetBackoff _ | .restart _ => true
  | _ => false

/-- The generation has the exit of a reload alone, or is about to record it. -/
def ReloadedBy (record : GenerationRecord) (pending : List SupervisorWrite) :
    Prop :=
  ∃ exit, exit.reloadOnly = true ∧ (exit ∈ record.exits ∨ .recordExit exit ∈ pending)

/-- The restart counters are where the generation found them, or below. -/
structure Bounded (s : SupervisorState) (record : GenerationRecord) :
    Prop where
  attempts : s.backoff.attemptCount ≤ record.attemptCount
  failures : s.restartStorm.failures.length ≤ record.windowFailures

/-- The restart counters do not grow in a generation, nor after a reload. -/
def Calm (s : SupervisorState) : Prop :=
  ∀ record, s.current = some record → s.point.inGeneration = true ∨ ReloadedBy record s.pending →
    Bounded s record

theorem GenerationRecord.perform_bounds (record : GenerationRecord) (write : SupervisorWrite) :
    (record.perform write).attemptCount = record.attemptCount ∧
      (record.perform write).windowFailures = record.windowFailures := by
  cases write <;> exact ⟨rfl, rfl⟩

theorem BackoffController.maybeReset_le (backoff : BackoffController) (elapsed : Duration) :
    (backoff.maybeReset elapsed).attemptCount ≤ backoff.attemptCount := by
  unfold maybeReset
  split
  · exact Nat.zero_le _
  · exact Nat.le_refl _

theorem RestartStormGuard.maybeReset_le (guard : RestartStormGuard)
    (elapsed resetAfter : Duration) :
    (guard.maybeReset elapsed resetAfter).failures.length ≤ guard.failures.length := by
  unfold maybeReset
  split
  · exact Nat.zero_le _
  · exact Nat.le_refl _

theorem ReloadExit.immediate (reload : ReloadExit exit)
    (restarts : exit.Restarts decision) : decision = .immediate := by
  obtain ⟨-, classified, isRecord, -, immediate⟩ := reload
  obtain ⟨-, other, isOther, decided⟩ := restarts
  cases isRecord.symm.trans isOther
  exact decided.symm.trans immediate

namespace Calm

variable {config : SupervisorConfig} {s next : SupervisorState}
  {action : SupervisorAction}

theorem performs (calm : Calm s) (pending : s.pending = write :: writes) :
    Calm { s.perform write with pending := writes } := by
  intro record here because
  rw [perform_current] at here
  obtain ⟨before, isCurrent, rfl⟩ := Option.map_eq_some_iff.mp here
  have bounded : Bounded s before := by
    apply calm before isCurrent
    rcases because with inGeneration | ⟨exit, reload, exited | queued⟩
    · rw [perform_point] at inGeneration
      exact .inl inGeneration
    · right
      rcases GenerationRecord.mem_exits_perform exited with already | written
      · exact ⟨exit, reload, .inl already⟩
      · refine ⟨exit, reload, .inr ?_⟩
        rw [pending, written]
        exact List.mem_cons_self
    · right
      refine ⟨exit, reload, .inr ?_⟩
      rw [pending]
      exact List.mem_cons_of_mem write queued
  obtain ⟨attempts, failures⟩ := before.perform_bounds write
  constructor
  · rw [perform_backoff, attempts]
    exact bounded.attempts
  · rw [perform_restartStorm, failures]
    exact bounded.failures

/-- A move that leaves the counters and the generation alone. -/
theorem keeps (calm : Calm s) (cur : next.current = s.current) (backoff : next.backoff = s.backoff)
    (storm : next.restartStorm = s.restartStorm)
    (because : ∀ record, s.current = some record →
      next.point.inGeneration = true ∨ ReloadedBy record next.pending →
      s.point.inGeneration = true ∨ ReloadedBy record s.pending) :
    Calm next := by
  intro record here cause
  rw [cur] at here
  have bounded := calm record here (because record here cause)
  constructor
  · rw [backoff]
    exact bounded.attempts
  · rw [storm]
    exact bounded.failures

theorem within (calm : Calm s) (cur : next.current = s.current)
    (backoff : next.backoff = s.backoff)
    (storm : next.restartStorm = s.restartStorm)
    (inGeneration : s.point.inGeneration = true) : Calm next :=
  calm.keeps cur backoff storm fun _ _ _ => .inl inGeneration

/-- A move outside of any generation, which records no exit. -/
theorem outside (calm : Calm s) (cur : next.current = s.current)
    (backoff : next.backoff = s.backoff)
    (storm : next.restartStorm = s.restartStorm)
    (left : next.point.inGeneration = s.point.inGeneration)
    (writes : ∀ exit, .recordExit exit ∈ next.pending →
      .recordExit exit ∈ s.pending) : Calm next := by
  apply calm.keeps cur backoff storm
  intro record _ because
  rcases because with inGeneration | ⟨exit, reload, exited | queued⟩
  · rw [left] at inGeneration
    exact .inl inGeneration
  · exact .inr ⟨exit, reload, .inl exited⟩
  · exact .inr ⟨exit, reload, .inr (writes exit queued)⟩

/-- The counters after `record_success` and a reset of the storm guard. -/
theorem clears (attempts : next.backoff.attemptCount = 0)
    (failures : next.restartStorm.failures = []) : Calm next := by
  intro record _ _
  constructor
  · rw [attempts]
    exact Nat.zero_le _
  · rw [failures]
    exact Nat.zero_le _

/-- The counters may grow after a generation that no reload ended. -/
theorem grows (left : next.point.inGeneration = false)
    (writes : ∀ exit, .recordExit exit ∉ next.pending)
    (failed : ∀ record, next.current = some record →
      ∀ exit ∈ record.exits, exit.reloadOnly = true → False) : Calm next := by
  intro record here because
  rcases because with inGeneration | ⟨exit, reload, exited | queued⟩
  · rw [left] at inGeneration
    cases inGeneration
  · exact absurd reload (failed record here exit exited)
  · exact absurd queued (writes exit)

theorem step (calm : Calm s) (accounts : Accounts s) (recorded : Recorded ReloadAlone s)
    (h : Supervisor.step config s action = some next) : Calm next := by
  cases SupervisorMove.of_step h with
  | performs pending => exact calm.performs pending
  | prepares idle here =>
    intro record isCurrent _
    cases isCurrent
    exact ⟨Nat.le_refl _, Nat.le_refl _⟩
  | entersWithout idle here _ | enters idle here _
  | checksCancelled idle here _ | checksWithout idle here _
  | checks idle here _ | classifies idle here | skipsReset idle here
  | decides idle here | runs here _ | runsReloading here _
  | takesResult idle here | takesReloadResult idle here
  | takesDependency idle here _ | takesReload idle here _ =>
    exact calm.within rfl rfl rfl (by rw [here]; rfl)
  | resets idle here =>
    intro record isCurrent _
    have bounded := calm record isCurrent (.inl (by rw [here]; rfl))
    exact ⟨(BackoffController.maybeReset_le ..).trans bounded.attempts,
      (RestartStormGuard.maybeReset_le ..).trans bounded.failures⟩
  | delays idle here =>
    have ended := accounts.ready_at idle here
    refine grows rfl ?_ ?_
    · intro exit queued
      simp [restart] at queued
    · intro record isCurrent exit exited reload
      obtain ⟨cur, made, isThis, restarts, counted⟩ := ended.ended
      cases isThis.symm.trans isCurrent
      have alone := recorded.current isCurrent exited reload
      rw [counted.history] at exited
      cases Option.mem_toList.mp exited
      cases alone.immediate restarts
  | elapses idle here reached =>
    have ready := accounts.ready_at idle here
    obtain ⟨between, delayed⟩ := ready
    refine grows rfl ?_ ?_
    · intro exit queued
      exact absurd (idle ▸ queued) List.not_mem_nil
    · intro record isCurrent exit exited reload
      have alone := recorded.current isCurrent exited reload
      obtain ⟨made, decision, counted⟩ := between.closed record isCurrent
      obtain ⟨other, isExit, restarts⟩ := counted.justified decision rfl
      cases isExit
      rw [counted.history] at exited
      cases Option.mem_toList.mp exited
      apply delayed record isCurrent
      rw [counted.decided, alone.immediate restarts]
      rfl
  | restartsNow idle here => exact clears rfl rfl
  | reloadsWait idle here signalled => exact clears rfl rfl
  | stops idle here cancelled =>
    refine calm.outside rfl rfl rfl (by rw [here]; rfl) ?_
    intro exit queued
    exact absurd queued recordExit_notin_terminate
  | stopsWait idle here cancelled =>
    refine calm.outside rfl rfl rfl (by rw [here]; rfl) ?_
    intro exit queued
    exact absurd queued recordExit_notin_announce
  | starts idle here _ | waits idle here =>
    exact calm.outside rfl rfl rfl (by rw [here]; rfl) fun _ queued => queued
  | changes watched =>
    exact calm.outside rfl rfl rfl
      (SupervisorPoint.noteChange_congr _ (fun _ _ => rfl) _)
      fun _ queued => queued
  | ticks | cancels | cancelsDaemon | triggersReload | writesStatus
  | recordsStatus => exact calm.outside rfl rfl rfl rfl fun _ queued => queued

end Calm

/-! ### The theorem -/

theorem calm_of_run {config now statusPlane acts s}
    (run : GuardedRun (Supervisor.step config) (fun _ action => action ≠ .generation .gateReloaded)
      (.new config now statusPlane) acts s) : Calm s := by
  induction run with
  | nil =>
    intro record isCurrent
    cases isCurrent
  | snoc earlier _ h ih =>
    exact ih.step (Accounts.of_run earlier.toRun) (reloads_of_run earlier).2 h

/-- A generation whose only disturbance is a reload is recorded as a reload,
restarts at once and not as a failure, and leaves the restart counters no
higher than it found them, unless its reload reaches it at the startup gate. -/
theorem reload_is_no_failure {config : SupervisorConfig} {now : Instant}
    {statusPlane : Option ServiceStatus} {schedule : List SupervisorAction}
    {state : SupervisorState}
    (run : GuardedRun (Supervisor.step config) (fun _ action => action ≠ .generation .gateReloaded)
      (.new config now statusPlane) schedule state) {record : GenerationRecord}
    (member : record ∈ state.generations) {exit : GenerationExit}
    (exited : exit ∈ record.exits) (alone : exit.reloadOnly = true) :
    record.lifecycle.OneExit .reload ∧ ReloadExit exit ∧
      (∀ decision, record.lifecycle.lastRestartDecision = some decision → decision = .immediate) ∧
      (state.current = some record → state.backoff.attemptCount ≤ record.attemptCount ∧
          state.restartStorm.failures.length ≤ record.windowFailures) := by
  have accounts := Accounts.of_run run.toRun
  have reload : ReloadExit exit :=
    (reloads_of_run run).2.exits record member exit exited alone
  refine ⟨?_, reload, ?_, ?_⟩
  · rw [← reload.1]
    exact accounts.oneExit member exited
  · intro decision decided
    obtain ⟨only, choice, terminations, counted⟩ := accounts.lawful member
    rw [counted.decided] at decided
    obtain ⟨choice, isChoice, rfl⟩ := Option.map_eq_some_iff.mp decided
    obtain ⟨made, isExit, restarts⟩ := counted.justified choice isChoice
    rw [counted.history, isExit] at exited
    cases Option.mem_toList.mp exited
    rw [reload.immediate restarts]
    rfl
  · intro isCurrent
    have bounded := calm_of_run run record isCurrent
      (.inr ⟨exit, alone, .inl exited⟩)
    exact ⟨bounded.attempts, bounded.failures⟩

/-- An isolated generation that gets its permit and is reloaded in its body. -/
def isolatedReload : List SupervisorAction :=
  List.flatten
    [startSchedule, [.generation .permitAcquired, .generation .threadSpawned,
        .generation .runtimeBuilt, .dependencyChange, .takeDependency,
        .perform, .perform, .generation (.bodyEnds .returned),
        .generation .joinEnds],
      exitSchedule, [.advance, .advance, .perform, .perform, .advance]]

theorem reload_is_no_failure_isolated :
    ∃ state record,
      GuardedRun (Supervisor.step (workerConfig .isolated true))
          (fun _ action => action ≠ .generation .gateReloaded)
          (.new (workerConfig .isolated true) 0 none) isolatedReload state ∧
        (state.current = some record ∧ record.exits =
            [classifiedExit (workerConfig .isolated true) (.body .returned) true ⟨true, false⟩]) ∧
        record.lifecycle.OneExit .reload ∧
        (∀ decision, record.lifecycle.lastRestartDecision = some decision → decision = .immediate) ∧
        state.backoff.attemptCount ≤ record.attemptCount ∧
        state.restartStorm.failures.length ≤ record.windowFailures := by
  obtain ⟨state, run, exits⟩ :
      ∃ state,
        GuardedRun (Supervisor.step (workerConfig .isolated true))
            (fun _ action => action ≠ .generation .gateReloaded)
            (.new (workerConfig .isolated true) 0 none) isolatedReload state ∧
          state.current.map (·.exits) =
            some [classifiedExit (workerConfig .isolated true) (.body .returned)
              true ⟨true, false⟩] :=
    GuardedRun.exists_of_check (by decide +kernel)
  obtain ⟨record, current, exited⟩ := Option.map_eq_some_iff.mp exits
  have member : record ∈ state.generations :=
    List.mem_append_right _ (Option.mem_toList.mpr current)
  have only : classifiedExit (workerConfig .isolated true) (.body .returned)
      true ⟨true, false⟩ ∈ record.exits := by
    rw [exited]
    exact List.mem_singleton_self _
  obtain ⟨one, -, decided, bounded⟩ := reload_is_no_failure run member only rfl
  exact ⟨state, record, run, ⟨current, exited⟩, one, decided, bounded current⟩

/-- A reload that reaches an isolated generation at the startup gate: a startup
failure, a delay, and a failure in the storm window. -/
theorem reload_at_gate_is_failure :
    ∃ state,
      Run (Supervisor.step (workerConfig .isolated true))
          (.new (workerConfig .isolated true) 0 none)
          (List.flatten [startSchedule, [.dependencyChange, .takeDependency, .perform, .perform,
                .generation .gateReloaded],
              exitSchedule, [.advance, .advance, .perform, .perform]])
          state ∧
        state.generations.map (fun record =>
          (record.exits.map (·.reloadOnly), record.lifecycle.lastExitKind,
            record.lifecycle.lastRestartDecision, record.windowFailures)) =
          [([true], some .isolatedStartupFailure, some .backoffIsolatedStartupFailure, 0)] ∧
        state.restartStorm.failures.length = 1 :=
  Run.exists_of_check (by decide +kernel)

end ServiceDaemon
