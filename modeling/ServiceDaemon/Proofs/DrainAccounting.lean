/-
Purpose: What a shutdown records about the dispatches that were in flight when
  it was requested.
Main exports: RunnerState.miscounts, DrainsCleanly, Tally, drain_accounted
-/
import ServiceDaemon.Proofs.InFlight
import ServiceDaemon.Proofs.ShutdownWaits

namespace ServiceDaemon

open AsyncLib StepSystem FuturesUnordered RunnerState

variable {Payload : Type} {config : RunnerConfig}
  {s next : RunnerState Payload}

/-!
The outcome of a drain is put together from counters that start when the loop
observes the shutdown and a residual that the drain timer captures at the same
moment.  The three add up to the dispatches in flight as long as the timer fires
before any of them completes; a completion before that is counted twice.  The
loop records an outcome only on the ways out of its drain, so a return by any
other way leaves no record.

[SRC core/trigger_runner/event_loop.rs, core/trigger_runner/drain.rs]
-/

/-! ### The steps that spoil the account -/

/-- `run_with_host` has returned `Ok`. -/
def LoopPoint.succeeded : LoopPoint Payload → Bool
  | .returned (.ok ()) => true
  | _ => false

theorem LoopPoint.returned_of_succeeded {point : LoopPoint Payload}
    (succeeded : point.succeeded = true) : point = .returned (.ok ()) := by
  unfold LoopPoint.succeeded at succeeded
  split at succeeded
  · rfl
  · cases succeeded

namespace RunnerState

/-- Polling the drain timer would fire it. -/
def timerFires (s : RunnerState Payload) : Bool :=
  s.drainTimer.any fun timer => (timer.poll s.shared.now).isRight

/-- The steps after which the recorded outcome is missing or wrong. -/
def miscounts (s : RunnerState Payload) : Action Payload → Bool
  -- The host returns a transition although the shutdown was requested.
  | .hostReady _ => true
  | .loop =>
    match s.loop with
    -- An outcome is observed before the drain has started.
    | .pollInFlight => !s.shutdownDraining && s.yieldsNext
    -- The timer fires after a completion.
    | .pollDrain => s.timerFires && decide (s.drainCompleted ≠ 0)
    -- The failure of the monitor ends the loop.
    | .pollMonitor =>
      match s.monitor with
      | .ended _ => true
      | _ => false
    | _ => false
  | _ => false

/-- Those of `ids` whose outcome the loop has not observed. -/
def unobservedOf (s : RunnerState Payload) (ids : List Nat) : List Nat :=
  ids.filter fun id => decide (id ∉ s.observed)

end RunnerState

/-- The shutdown goes through without any of those steps. -/
def DrainsCleanly (s : RunnerState Payload) (a : Action Payload) :
    Prop :=
  s.miscounts a = false

instance (s : RunnerState Payload) (a : Action Payload) :
    Decidable (DrainsCleanly s a) :=
  inferInstanceAs (Decidable (_ = false))

namespace DrainsCleanly

theorem unyielded (clean : DrainsCleanly s .loop)
    (here : s.loop = .pollInFlight) (accepting : s.shutdownDraining = false) :
    s.yieldsNext = false := by
  simpa [DrainsCleanly, miscounts, here, accepting] using clean

theorem uncompleted (clean : DrainsCleanly s .loop) (here : s.loop = .pollDrain) {timer outcome}
    (armed : s.drainTimer = some timer) (fired : timer.poll s.shared.now = .inr outcome) :
    s.drainCompleted = 0 := by
  simpa [DrainsCleanly, miscounts, here, timerFires, armed, fired] using clean

theorem alive (clean : DrainsCleanly s .loop) (here : s.loop = .pollMonitor) (joinError : String) :
    s.monitor ≠ .ended joinError := by
  intro ended
  simp [DrainsCleanly, miscounts, here, ended] at clean

end DrainsCleanly

/-! ### The account -/

/-- The account of a shutdown that was requested with the dispatches `inFlight`
in flight and the outcomes `recorded` on record. -/
inductive Tally (inFlight : List Nat)
    (recorded : List ShutdownBoundaryOutcome) (s : RunnerState Payload) :
    Prop where
  /-- the loop has not observed the request -/
  | waiting (here : s.loop.selects = true)
      (accepting : s.shutdownDraining = false)
      (members : s.inFlight.members = inFlight)
      (unrecorded : s.boundaries = recorded)
  | draining (here : s.loop.selects = true)
      (started : s.shutdownDraining = true)
      (members : s.inFlight.members = s.unobservedOf inFlight)
      (unrecorded : s.boundaries = recorded)
      (unfailed : s.drainFailed = 0)
      (counted : s.drainCompleted + s.inFlight.len = inFlight.length)
      (captured : ∀ timer, s.drainTimer = some timer → timer.residual = inFlight.length)
  | returned (gone : s.loop.gone = true)
      {outcome : ShutdownBoundaryOutcome}
      (record : s.boundaries = recorded ++ [outcome])
      (balanced : outcome.completed + outcome.failed + outcome.residual = inFlight.length)
      (residual : outcome.residual = (s.unobservedOf inFlight).length)
  | abandoned (dropped : s.loop = .dropped)

theorem RunnerState.unobservedOf_observe {id ids} (distinct : (s.unobservedOf ids).Nodup)
    (observed : next.observed = s.observed ++ [id]) :
    next.unobservedOf ids = (s.unobservedOf ids).erase id := by
  rw [distinct.erase_eq_filter]
  simp only [unobservedOf, List.filter_filter, observed]
  congr 1
  funext other
  by_cases same : other = id <;> simp [same]

theorem RunnerState.recordDrainOutcome_boundaries (diagnostics : config.hasDiagnostics = true)
    (outcome : TriggerDrainOutcome) (s : RunnerState Payload) :
    (s.recordDrainOutcome config outcome).boundaries =
      s.boundaries ++ [outcome.diagnosticsOutcome] := by
  rw [recordDrainOutcome, if_pos diagnostics]

namespace Tally

variable {inFlight : List Nat} {recorded : List ShutdownBoundaryOutcome}

/-- A step of another thread. -/
theorem keeps (tally : Tally inFlight recorded s) (point : next.loop = s.loop)
    (flag : next.shutdownDraining = s.shutdownDraining)
    (members : next.inFlight.members = s.inFlight.members) (observed : next.observed = s.observed)
    (record : next.boundaries = s.boundaries)
    (counters : next.drainCompleted = s.drainCompleted ∧ next.drainFailed = s.drainFailed)
    (timer : next.drainTimer = s.drainTimer) : Tally inFlight recorded next := by
  have unobserved : next.unobservedOf inFlight = s.unobservedOf inFlight := by
    rw [unobservedOf, observed]
    rfl
  cases tally with
  | waiting here accepting set unrecorded =>
    exact .waiting (point ▸ here) (flag ▸ accepting) (members.trans set) (record.trans unrecorded)
  | draining here started set unrecorded unfailed counted captured =>
    refine .draining (point ▸ here) (flag ▸ started) ?_
      (record.trans unrecorded) (counters.2.trans unfailed) ?_
      (timer ▸ captured)
    · rw [members, set, unobserved]
    · rw [counters.1, len, members]
      exact counted
  | returned gone on balanced residual =>
    exact .returned (point ▸ gone) (record.trans on) balanced (unobserved ▸ residual)
  | abandoned dropped => exact .abandoned (point.trans dropped)

/-- The loop before it observes the request. -/
theorem waits (here : s.loop.selects = true)
    (accepting : s.shutdownDraining = false)
    (members : s.inFlight.members = inFlight)
    (unrecorded : s.boundaries = recorded) (occupied : inFlight ≠ [])
    (watched : Watched s) (closing : s.isShutdown = true)
    (clean : DrainsCleanly s .loop)
    (move : LoopMove config s next) : Tally inFlight recorded next := by
  have inside {point : LoopPoint Payload} (there : s.loop = point) :
      point.selects = true := there ▸ here
  cases move with
  | goes going =>
    cases going with
    | exhausted _ _ | undrained _ _ | polledAgain _ =>
      exact .waiting rfl accepting members unrecorded
    | staysOpen _ uncancelled =>
      rw [closing] at uncancelled
      cases uncancelled
    | stops there | reloadExhausted there _ | reloadStops there _
    | reloadSuspends there _ | reloadPolledAgain there | drains there _
    | drainSuspends there _ _ | drainPolledAgain there => cases inside there
  | suspends _ polled =>
    have same := (dequeue_some polled.dequeued).2.1
    exact .waiting here accepting (same.trans members) unrecorded
  | monitorPending _ _ =>
    refine .waiting ?_ accepting members unrecorded
    simp only [accepting]
    rfl
  | completes there yielded _ _ =>
    have silent := clean.unyielded there accepting
    rw [yielded.yieldsNext] at silent
    cases silent
  | completesAside there _ _ => rcases there with there | there <;> cases inside there
  | fails there yielded _ _ =>
    cases point : s.loop with
    | pollInFlight =>
      have silent := clean.unyielded point accepting
      rw [yielded.yieldsNext] at silent
      cases silent
    | reloadPollInFlight | drainPoll => cases inside point
    | _ =>
      rw [point] at there
      cases there
  | monitorFails there ended => exact absurd ended (clean.alive there _)
  | shutsDownIdle _ _ empty =>
    rw [isEmpty, members] at empty
    exact absurd (List.isEmpty_iff.mp empty) occupied
  | startsDrain _ _ _ =>
    refine .draining rfl rfl ?_ unrecorded rfl ?_ ?_
    · have kept : s.unobservedOf inFlight = inFlight := by
        apply List.filter_eq_self.mpr
        intro id mem
        exact decide_eq_true (watched.unobserved id (members ▸ mem))
      exact members.trans kept.symm
    · simp only [len, nextIteration, members, Nat.zero_add]
    · intro timer started
      cases started
      simp only [shutdownDrainTimeout, len, members]
  | timerPending _ started _ _ | completesDraining _ _ _ started _
  | completesDrain _ _ _ started _ | failsDraining _ _ _ started
  | timesOut _ started _ _ =>
    rw [accepting] at started
    cases started
  | stopsCancelled there _ | drained there _ _ => cases inside there
  | enters there =>
    rename_i payload identity thenReload
    cases inside there

/-- The loop records its outcome and returns. -/
theorem settles {before : RunnerState Payload} {outcome : TriggerDrainOutcome}
    (res : DispatchTaskOutcome) (diagnostics : config.hasDiagnostics = true)
    (unrecorded : before.boundaries = recorded)
    (balanced : outcome.completed + outcome.failed + outcome.residual = inFlight.length)
    (residual : outcome.residual = (before.unobservedOf inFlight).length) :
    Tally inFlight recorded
      ((before.recordDrainOutcome config outcome).finish res) := by
  obtain ⟨completed, failed, left⟩ := outcome.diagnosticsOutcome_counts
  have on := recordDrainOutcome_boundaries diagnostics outcome before
  rw [unrecorded] at on
  rw [recordDrainOutcome_eq]
  refine .returned rfl on ?_ ?_
  · rw [completed, failed, left]
    exact balanced
  · exact left.trans residual

/-- What an observed outcome does to the account. -/
theorem observes (config : RunnerConfig) (watched : Watched s)
    (members : s.inFlight.members = s.unobservedOf inFlight)
    (counted : s.drainCompleted + s.inFlight.len = inFlight.length)
    {id rest task res} (yielded : Yields s id rest task res) :
    (rest.remove id).members = (s.observe config id task res rest).unobservedOf inFlight ∧
      s.drainCompleted + 1 + (rest.remove id).len = inFlight.length := by
  obtain ⟨queue, same, -⟩ := dequeue_some yielded.dequeued
  have member : id ∈ s.inFlight.members :=
    watched.tracked.queued_mem id (queue ▸ List.mem_cons_self)
  have distinct : (s.unobservedOf inFlight).Nodup := members ▸ watched.tracked.distinct
  constructor
  · rw [unobservedOf_observe distinct rfl, ← members, ← same]
    rfl
  · have positive := List.length_pos_of_mem member
    simp only [len, remove] at counted ⊢
    rw [same, List.length_erase_of_mem member]
    omega

/-- The loop while it drains. -/
theorem drains (here : s.loop.selects = true)
    (started : s.shutdownDraining = true)
    (members : s.inFlight.members = s.unobservedOf inFlight)
    (unrecorded : s.boundaries = recorded) (unfailed : s.drainFailed = 0)
    (counted : s.drainCompleted + s.inFlight.len = inFlight.length)
    (captured : ∀ timer, s.drainTimer = some timer → timer.residual = inFlight.length)
    (diagnostics : config.hasDiagnostics = true) (watched : Watched s)
    (drainState : Draining s) (clean : DrainsCleanly s .loop)
    (move : LoopMove config s next) : Tally inFlight recorded next := by
  have inside {point : LoopPoint Payload} (there : s.loop = point) :
      point.selects = true ∧ point.mayDrain = true :=
    there ▸ ⟨here, drainState.located started⟩
  cases move with
  | goes going =>
    cases going with
    | exhausted _ _ | undrained _ _ | polledAgain _ =>
      exact .draining rfl started members unrecorded unfailed counted captured
    | staysOpen there _ => cases (inside there).2
    | stops there | reloadExhausted there _ | reloadStops there _
    | reloadSuspends there _ | reloadPolledAgain there | drains there _
    | drainSuspends there _ _ | drainPolledAgain there => cases (inside there).1
  | suspends _ polled =>
    have same := (dequeue_some polled.dequeued).2.1
    refine .draining here started (same.trans members) unrecorded unfailed ?_ captured
    simp only [len, suspend, same]
    exact counted
  | timerPending _ _ armed polled =>
    refine .draining rfl started members unrecorded unfailed counted ?_
    intro timer found
    cases found
    rw [DrainTimer.residual_of_poll polled]
    exact captured _ armed
  | monitorPending _ _ =>
    refine .draining ?_ started members unrecorded unfailed counted captured
    simp only [started]
    rfl
  | completesDraining _ yielded _ _ _ =>
    obtain ⟨remaining, sum⟩ := observes config watched members counted yielded
    exact .draining rfl started remaining unrecorded unfailed sum captured
  | completesDrain _ yielded _ _ emptied =>
    obtain ⟨remaining, sum⟩ := observes config watched members counted yielded
    have empty := congrArg List.length (List.isEmpty_iff.mp emptied)
    have left := congrArg List.length remaining
    refine settles _ diagnostics unrecorded ?_ (empty.symm.trans left)
    simp only [len, empty, List.length_nil] at sum
    simp only [unfailed]
    omega
  | failsDraining _ yielded _ _ =>
    obtain ⟨remaining, sum⟩ := observes config watched members counted yielded
    refine settles _ diagnostics unrecorded ?_ (congrArg List.length remaining)
    simp only [unfailed]
    omega
  | timesOut there _ armed fired =>
    have none := clean.uncompleted there armed fired
    have residual := (DrainTimer.outcome_of_poll fired).2
    rw [captured _ armed] at residual
    rw [none, Nat.zero_add] at counted
    refine settles _ diagnostics unrecorded ?_ ?_
    · simp only [none, unfailed, residual, Nat.zero_add]
    · rw [residual, ← counted]
      exact congrArg List.length members
  | completes _ _ _ accepting =>
    rw [started] at accepting
    cases accepting
  | completesAside there _ _ => rcases there with there | there <;> cases (inside there).1
  | fails there _ _ unrecorded =>
    cases point : s.loop with
    | pollInFlight =>
      have accepting := unrecorded point
      rw [started] at accepting
      cases accepting
    | reloadPollInFlight | drainPoll => cases (inside point).1
    | _ =>
      rw [point] at there
      cases there
  | monitorFails there ended => exact absurd ended (clean.alive there _)
  | shutsDownIdle there _ _ | startsDrain there _ _ => cases (inside there).2
  | stopsCancelled there _ | drained there _ _ => cases (inside there).1
  | enters there => cases (inside there).1

theorem step (tally : Tally inFlight recorded s) (occupied : inFlight ≠ [])
    (diagnostics : config.hasDiagnostics = true) (watched : Watched s)
    (draining : Draining s) (closing : s.isShutdown = true) {a}
    (clean : DrainsCleanly s a) (h : Runner.step config s a = some next) :
    Tally inFlight recorded next := by
  have selects_or_gone : s.loop.selects = true ∨ s.loop.gone = true := by
    cases tally with
    | waiting here _ _ _ | draining here _ _ _ _ _ _ => exact .inl here
    | returned gone _ _ _ => exact .inr gone
    | abandoned dropped =>
      rw [dropped]
      exact .inr rfl
  have elsewhere {point : LoopPoint Payload} (there : s.loop = point) :
      point.selects = true ∨ point.gone = true := there ▸ selects_or_gone
  cases Move.of_step h with
  | loop _ move =>
    cases tally with
    | waiting here accepting members unrecorded =>
      exact waits here accepting members unrecorded occupied watched closing clean move
    | draining here started members unrecorded unfailed counted captured =>
      exact drains here started members unrecorded unfailed counted
        captured diagnostics watched draining clean move
    | returned gone on balanced residual =>
      obtain ⟨point, record, observed⟩ := gone_stays gone h
      refine .returned (point ▸ gone) (record.trans on) balanced ?_
      rw [unobservedOf, observed]
      exact residual
    | abandoned dropped =>
      have gone : s.loop.gone = true := by
        rw [dropped]
        rfl
      exact .abandoned ((gone_stays gone h).1.trans dropped)
  | dispatch there _ | dropsQueued there =>
    rcases elsewhere there with inside | inside <;> cases inside
  | hostReady _ => cases clean
  | hostPending there =>
    cases tally with
    | waiting _ accepting members unrecorded => exact .waiting rfl accepting members unrecorded
    | draining _ started members unrecorded unfailed counted captured =>
      exact .draining rfl started members unrecorded unfailed counted captured
    | returned gone _ _ _ =>
      rw [there] at gone
      cases gone
    | abandoned dropped =>
      rw [there] at dropped
      cases dropped
  | drops _ => exact .abandoned rfl
  | completes _ _ => exact tally.keeps rfl rfl (wake_members _ _) rfl rfl ⟨rfl, rfl⟩ rfl
  | _ => exact tally.keeps rfl rfl rfl rfl rfl ⟨rfl, rfl⟩ rfl

end Tally

/-- The loop drains only after a request. -/
def DrainsOnRequest (s : RunnerState Payload) : Prop :=
  s.shutdownDraining = true → s.isShutdown = true

theorem DrainsOnRequest.step (requested : DrainsOnRequest s) {a}
    (h : Runner.step config s a = some next) : DrainsOnRequest next := by
  intro started
  apply isShutdown_stays _ h
  by_cases before : s.shutdownDraining = true
  · exact requested before
  · cases Move.of_step h with
    | loop _ move =>
      cases move with
      | startsDrain _ cancelled _ => exact cancelled
      | completesDrain _ _ _ draining _ | failsDraining _ _ _ draining
      | timesOut _ draining _ _ => exact absurd draining before
      | _ => exact absurd started before
    | dispatch _ move => cases move <;> exact absurd started before
    | _ => exact absurd started before

theorem DrainsOnRequest.reaches (reached : Runner.Reaches config now acts s) :
    DrainsOnRequest s :=
  reached.invariant nofun fun requested _ h => requested.step h

/-- A shutdown under way, with what holds in every run. -/
structure Closing (inFlight : List Nat)
    (recorded : List ShutdownBoundaryOutcome) (s : RunnerState Payload) :
    Prop where
  tally : Tally inFlight recorded s
  requested : s.isShutdown = true
  watched : Watched s
  draining : Draining s

theorem Closing.step {inFlight recorded} (closing : Closing inFlight recorded s)
    (occupied : inFlight ≠ []) (diagnostics : config.hasDiagnostics = true) {a}
    (clean : DrainsCleanly s a) (h : Runner.step config s a = some next) :
    Closing inFlight recorded next where
  tally := closing.tally.step occupied diagnostics closing.watched
    closing.draining closing.requested clean h
  requested := isShutdown_stays closing.requested h
  watched := closing.watched.step h
  draining := closing.draining.step h

/-- The request reaches a loop that is in its select. -/
theorem Closing.opens {now acts request} (reached : Runner.Reaches config now acts s)
    (selecting : s.loop.selects = true) (accepting : s.isShutdown = false)
    (closes : request = .cancel ∨ request = .requestReload)
    (requested : Runner.step config s request = some next) :
    Closing s.inFlight.members s.boundaries next := by
  have watched := (Watched.reaches reached).step requested
  have draining := (Draining.reaches reached).step requested
  have undrained : s.shutdownDraining = false := by
    by_contra started
    have closing := DrainsOnRequest.reaches reached (by simpa using started)
    rw [accepting] at closing
    cases closing
  rcases closes with rfl | rfl
  · cases requested
    exact ⟨.waiting selecting undrained rfl rfl, Bool.true_or _, watched, draining⟩
  · cases requested
    exact ⟨.waiting selecting undrained rfl rfl, Bool.or_true _, watched, draining⟩

/-- A clean shutdown accounts for every dispatch that was in flight when it was
requested: if the request reaches the loop in its select, exactly one outcome is
recorded by the time `run_with_host` returns, its counts add up to the
dispatches in flight, and its residual is the number of them whose outcome was
not observed. -/
theorem drain_accounted {now : Instant} {earlier later : List (Action Payload)}
    {request : Action Payload} {before closed after : RunnerState Payload}
    {result : DispatchTaskOutcome} (diagnostics : config.hasDiagnostics = true)
    (reached : Runner.Reaches config now earlier before) (selecting : before.loop.selects = true)
    (accepting : before.isShutdown = false) (occupied : 1 ≤ before.inFlight.len)
    (closes : request = .cancel ∨ request = .requestReload)
    (requested : Runner.step config before request = some closed)
    (run : GuardedRun (Runner.step config) DrainsCleanly closed later after)
    (returned : after.loop = .returned result) :
    ∃ outcome, after.boundaries = before.boundaries ++ [outcome] ∧
      outcome.completed + outcome.failed + outcome.residual = before.inFlight.len ∧
      outcome.residual = (after.unobservedOf before.inFlight.members).length := by
  have nonempty : before.inFlight.members ≠ [] :=
    List.ne_nil_of_length_pos occupied
  have closing :
      Closing before.inFlight.members before.boundaries after :=
    run.invariant (.opens reached selecting accepting closes requested)
      fun closing clean stepped =>
        closing.step nonempty diagnostics clean stepped
  cases closing.tally with
  | waiting here _ _ _ | draining here _ _ _ _ _ _ =>
    rw [returned] at here
    cases here
  | returned _ on balanced residual => exact ⟨_, on, balanced, residual⟩
  | abandoned dropped =>
    rw [returned] at dropped
    cases dropped

/-- A trigger with two permits. -/
def twoPermits : RunnerConfig :=
  .managed (some (ScalingPolicy.builder.withInitialConcurrency 2).build)

/-- Two events arrive and both of their handlers keep running. -/
def twoInFlight : List (Action Unit) :=
  Runner.arrival 4 () ++ Runner.loops 14 ++ Runner.arrival 5 () ++ Runner.loops 14

/-- Both handlers succeed while the loop drains. -/
theorem drain_accounted_two_succeed :
    ∃ before closed after : RunnerState Unit,
      Runner.Reaches twoPermits 0 twoInFlight before ∧ before.inFlight.len = 2 ∧
        Runner.step twoPermits before .cancel = some closed ∧
        GuardedRun (Runner.step twoPermits) DrainsCleanly closed
          (Runner.loops 8 ++ [.taskReturnsPermit 0 .ok, .taskCompletes 0,
              .taskReturnsPermit 1 .ok, .taskCompletes 1] ++
            Runner.loops 3) after ∧
        ∃ outcome, after.boundaries = before.boundaries ++ [outcome] ∧
          outcome.completed + outcome.failed + outcome.residual = 2 := by
  obtain ⟨before, reached, selecting, accepting, two, closed, requested, checked⟩ :
      ∃ before : RunnerState Unit,
        Runner.Reaches twoPermits 0 twoInFlight before ∧
          before.loop.selects = true ∧ before.isShutdown = false ∧
          before.inFlight.len = 2 ∧
          ∃ closed ∈ Runner.step twoPermits before .cancel,
            (runGuarded (Runner.step twoPermits) DrainsCleanly closed
              (Runner.loops 8 ++ [.taskReturnsPermit 0 .ok, .taskCompletes 0,
                  .taskReturnsPermit 1 .ok, .taskCompletes 1] ++
                Runner.loops 3)).any
              (fun state => decide (state.loop.succeeded = true)) = true :=
    Run.exists_of_check (by decide +kernel)
  obtain ⟨after, run, ended⟩ := GuardedRun.exists_of_check checked
  obtain ⟨outcome, on, balanced, -⟩ :=
    drain_accounted rfl reached selecting accepting (by omega) (.inl rfl)
      requested run (LoopPoint.returned_of_succeeded ended)
  exact ⟨before, closed, after, reached, two, requested, run, outcome, on, balanced.trans two⟩

/-- One handler completes during the drain and the other does not: the timer
still reports the two dispatches it captured, and the completed one is counted
twice. -/
theorem completion_counted_twice :
    ∃ before closed after : RunnerState Unit,
      Runner.Reaches twoPermits 0 twoInFlight before ∧ before.inFlight.len = 2 ∧
        Runner.step twoPermits before .cancel = some closed ∧
        Run (Runner.step twoPermits) closed
          (Runner.loops 8 ++ [.taskReturnsPermit 0 .ok, .taskCompletes 0, .advance (fromSecs 5)] ++
            Runner.loops 4) after ∧
        after.loop = .returned (.ok ()) ∧
        (after.unobservedOf before.inFlight.members).length = 1 ∧
        ∃ outcome, after.boundaries = [outcome] ∧ outcome.completed = 1 ∧
          outcome.failed = 0 ∧ outcome.residual = 2 := by
  obtain ⟨before, reached, two, closed, requested, checked⟩ :
      ∃ before : RunnerState Unit,
        Runner.Reaches twoPermits 0 twoInFlight before ∧ before.inFlight.len = 2 ∧
          ∃ closed ∈ Runner.step twoPermits before .cancel,
            (runSchedule (Runner.step twoPermits) closed (Runner.loops 8 ++
                [.taskReturnsPermit 0 .ok, .taskCompletes 0, .advance (fromSecs 5)] ++
                Runner.loops 4)).any
              (fun state => decide (state.loop.succeeded = true ∧
                (state.unobservedOf before.inFlight.members).length = 1 ∧
                state.boundaries =
                  [{ result := .timedOut
                     action := .recordedAndDetached
                     completed := 1
                     failed := 0
                     residual := 2 }])) = true :=
    Run.exists_of_check (by decide +kernel)
  obtain ⟨after, run, ended, unobserved, on⟩ := Run.exists_of_check checked
  exact ⟨before, closed, after, reached, two, requested, run,
    LoopPoint.returned_of_succeeded ended, unobserved, _, on, rfl, rfl, rfl⟩

end ServiceDaemon
