/-
Purpose: What one step of a trigger generation can do.  Each case of the
  transition function becomes one named move with its guards, so that an
  invariant is proved by going through the moves.
Main exports: DispatchMove, Goes, LoopMove
-/
import ServiceDaemon.Core.EventLoop

namespace ServiceDaemon

open AsyncLib StepSystem RunnerState

variable {Payload : Type} {cfg : RunnerConfig}
  {s next : RunnerState Payload}

/-! ### Dispatch -/

/-- The moves of `dispatch` from `point`. -/
inductive DispatchMove (cfg : RunnerConfig) (frame : DispatchFrame Payload)
    (s : RunnerState Payload) :
    DispatchPoint → RunnerState Payload → Prop where
  | loadsLimit :
      DispatchMove cfg frame s .loadLimit
        { s with loop := .dispatching frame (.reconcile (.lookup (currentLimitOrBase s.shared))) }
  | reconciles {point after shared}
      (stepped : reconcileStep cfg.base .dispatcher s.shared point = some (shared, after)) :
      DispatchMove cfg frame s (.reconcile point)
        { s with shared := shared, loop := .dispatching frame (.reconcile after) }
  | reconciled {limit} :
      DispatchMove cfg frame s (.reconcile (.finished limit))
        { s with loop := .dispatching frame .acquire }
  | granted (idle : s.shared.semaphore.permits ≠ 0) :
      DispatchMove cfg frame s .acquire
        { s with
          shared :=
            { s.shared with semaphore := (s.shared.semaphore.acquire frame.instanceSeq.toNat).1 }
          loop := .dispatching frame .record }
  | queues (exhausted : s.shared.semaphore.permits = 0) :
      DispatchMove cfg frame s .acquire
        { s with
          shared :=
            { s.shared with semaphore := (s.shared.semaphore.acquire frame.instanceSeq.toNat).1 }
          loop := .dispatching frame .queued }
  | claims {semaphore}
      (claimed : s.shared.semaphore.claim frame.instanceSeq.toNat = some semaphore) :
      DispatchMove cfg frame s .queued
        { s with
          shared := { s.shared with semaphore := semaphore }
          loop := .dispatching frame .record }
  | records (managed : cfg.inDaemon = true) :
      DispatchMove cfg frame s .record
        { s with facts := s.facts.recordDispatched, loop := .dispatching frame .prune }
  | unmanaged (alone : cfg.inDaemon = false) :
      DispatchMove cfg frame s .record
        { s with loop := .dispatching frame (.spawn (RunnerState.basePolicy cfg)) }
  | prunes (registered : s.shared.registered = true) :
      DispatchMove cfg frame s .prune
        { s with
          shared :=
            { s.shared with overlay := s.shared.overlay.pruneExpiredOverlay s.shared.now }
          loop := .dispatching frame .readPolicy }
  | unregistered (removed : s.shared.registered = false) :
      DispatchMove cfg frame s .prune
        { s with loop := .dispatching frame (.spawn (RunnerState.basePolicy cfg)) }
  | readsPolicy :
      DispatchMove cfg frame s .readPolicy
        { s with loop := .dispatching frame (.spawn (s.shared.overlay.effectivePolicy cfg.base)) }
  | spawns {pol} :
      DispatchMove cfg frame s (.spawn pol)
        (s.spawnDispatch cfg frame pol)

/-- Every step of `dispatch` is one of its moves. -/
theorem DispatchMove.of_dispatchStep
    (h : s.dispatchStep cfg frame point = some next) : DispatchMove cfg frame s point next := by
  cases point with
  | loadLimit =>
    cases h
    exact .loadsLimit
  | reconcile inner =>
    cases inner with
    | finished limit =>
      cases h
      exact .reconciled
    | _ =>
      simp only [dispatchStep, Option.map_eq_some_iff, Prod.exists] at h
      obtain ⟨shared, after, inner, rfl⟩ := h
      exact .reconciles inner
  | acquire =>
    by_cases exhausted : s.shared.semaphore.permits = 0
    · simp only [dispatchStep, Semaphore.acquire, exhausted, if_true, Option.some.injEq] at h
      have move : DispatchMove cfg frame s .acquire _ := .queues exhausted
      rw [← h]
      simpa [Semaphore.acquire, exhausted] using move
    · simp only [dispatchStep, Semaphore.acquire, exhausted,
        if_false, if_true, Option.some.injEq] at h
      have move : DispatchMove cfg frame s .acquire _ := .granted exhausted
      rw [← h]
      simpa [Semaphore.acquire, exhausted] using move
  | queued =>
    simp only [dispatchStep, Option.map_eq_some_iff] at h
    obtain ⟨sem, claimed, rfl⟩ := h
    exact .claims claimed
  | record =>
    simp only [dispatchStep, Option.some.injEq] at h
    split at h
    · rename_i managed
      subst h
      exact .records managed
    · rename_i alone
      subst h
      exact .unmanaged (by simpa using alone)
  | prune =>
    simp only [dispatchStep, Option.some.injEq] at h
    split at h
    · rename_i registered
      subst h
      exact .prunes registered
    · rename_i removed
      subst h
      exact .unregistered (by simpa using removed)
  | readPolicy =>
    cases h
    exact .readsPolicy
  | spawn pol =>
    cases h
    exact .spawns

/-! ### The in-flight set -/

/-- The loop is in `dispatch`. -/
def LoopPoint.dispatches : LoopPoint Payload → Bool
  | .dispatching _ _ => true
  | _ => false

/-- The loop polls the in-flight set at this point. -/
def LoopPoint.pollsInFlight : LoopPoint Payload → Bool
  | .pollInFlight | .reloadPollInFlight | .drainPoll => true
  | _ => false

/-- Polling the set reaches the finished observer `id`. -/
structure Yields (s : RunnerState Payload) (id : Nat)
    (rest : FuturesUnordered Nat) (task : DispatchTask Payload)
    (res : TaskResult) : Prop where
  dequeued : s.inFlight.dequeue = some (id, rest)
  found : s.tasks[id]? = some task
  finished : task.state = .finished res

/-- Polling the set reaches the observer `id`, which is pending. -/
structure Suspends (s : RunnerState Payload) (id : Nat)
    (rest : FuturesUnordered Nat) : Prop where
  dequeued : s.inFlight.dequeue = some (id, rest)
  unfinished : ∀ task, s.tasks[id]? = some task → task.isFinished = false

theorem pollNext_exhausted (polled : s.pollNext cfg = .exhausted) : s.inFlight.ready = [] := by
  unfold pollNext at polled
  split at polled
  · rename_i empty
    unfold FuturesUnordered.dequeue at empty
    split at empty
    · assumption
    · cases empty
  · split at polled
    · split at polled <;> cases polled
    · cases polled

theorem pollNext_again (polled : s.pollNext cfg = .again next) :
    ∃ id rest, Suspends s id rest ∧ next = { s with inFlight := rest.suspend id } := by
  unfold pollNext at polled
  split at polled
  · cases polled
  · rename_i id rest dequeued
    split at polled
    · rename_i task found
      split at polled
      · cases polled
      · rename_i unfinished
        cases polled
        refine ⟨id, rest, ⟨dequeued, ?_⟩, rfl⟩
        intro other same
        rw [found] at same
        cases same
        unfold DispatchTask.isFinished
        split
        · rename_i res finished
          exact absurd finished (unfinished res)
        · rfl
    · rename_i missing
      cases polled
      refine ⟨id, rest, ⟨dequeued, ?_⟩, rfl⟩
      intro task found
      rw [missing] at found
      cases found

theorem pollNext_yielded {outcome} (polled : s.pollNext cfg = .yielded outcome next) :
    ∃ id rest task res, Yields s id rest task res ∧ outcome = observeDispatchTask task.context res ∧
      next = s.observe cfg id task res rest := by
  unfold pollNext at polled
  split at polled
  · cases polled
  · rename_i id rest dequeued
    split at polled
    · rename_i task found
      split at polled
      · rename_i res finished
        cases polled
        exact ⟨id, rest, task, res, ⟨dequeued, found, finished⟩, rfl, rfl⟩
      · cases polled
    · cases polled

/-! ### The loop -/

/-- Steps of the loop that only change its point. -/
inductive Goes (s : RunnerState Payload) : LoopPoint Payload → Prop where
  | exhausted (here : s.loop = .pollInFlight)
      (empty : s.inFlight.ready = []) : Goes s .pollDrain
  | undrained (here : s.loop = .pollDrain)
      (unarmed : s.shutdownDraining = false ∨ s.drainTimer = none) :
      Goes s .pollMonitor
  | staysOpen (here : s.loop = .pollShutdown)
      (uncancelled : s.isShutdown = false) : Goes s .pollHost
  | polledAgain (here : s.loop = .parked) : Goes s .pollInFlight
  | stops (here : s.loop = .handling .stop) : Goes s .stopping
  | reloadExhausted (here : s.loop = .reloadPollInFlight)
      (empty : s.inFlight.ready = []) : Goes s .reloadPollShutdown
  | reloadStops (here : s.loop = .reloadPollShutdown)
      (cancelled : s.isShutdown = true) : Goes s .stopping
  | reloadSuspends (here : s.loop = .reloadPollShutdown)
      (uncancelled : s.isShutdown = false) : Goes s .reloadParked
  | reloadPolledAgain (here : s.loop = .reloadParked) :
      Goes s .reloadPollInFlight
  | drains (here : s.loop = .stopping)
      (uncancelled : s.isShutdown = false) : Goes s .drainPoll
  | drainSuspends (here : s.loop = .drainPoll)
      (empty : s.inFlight.ready = [])
      (occupied : s.inFlight.isEmpty = false) : Goes s .drainParked
  | drainPolledAgain (here : s.loop = .drainParked) :
      Goes s .drainPoll

/-- The moves of `run_with_host` outside `dispatch`. -/
inductive LoopMove (cfg : RunnerConfig) (s : RunnerState Payload) :
    RunnerState Payload → Prop where
  | goes {point} (going : Goes s point) :
      LoopMove cfg s { s with loop := point }
  | suspends {id rest} (here : s.loop.pollsInFlight = true)
      (polled : Suspends s id rest) :
      LoopMove cfg s { s with inFlight := rest.suspend id }
  | timerPending {timer after} (here : s.loop = .pollDrain)
      (draining : s.shutdownDraining = true)
      (armed : s.drainTimer = some timer)
      (polled : timer.poll s.shared.now = .inl after) :
      LoopMove cfg s
        { s with drainTimer := some after, loop := .pollMonitor }
  | monitorPending (here : s.loop = .pollMonitor)
      (alive : ∀ joinError, s.monitor ≠ .ended joinError) :
      LoopMove cfg s
        { s with
          monitorPolled := true
          loop := if s.shutdownDraining then .parked else .pollShutdown }
  -- outcomes
  | completes {id rest task res} (here : s.loop = .pollInFlight)
      (yielded : Yields s id rest task res)
      (succeeded : observeDispatchTask task.context res = .ok ())
      (accepting : s.shutdownDraining = false) :
      LoopMove cfg s
        (s.observe cfg id task res rest).nextIteration
  | completesDraining {id rest task res} (here : s.loop = .pollInFlight)
      (yielded : Yields s id rest task res)
      (succeeded : observeDispatchTask task.context res = .ok ())
      (draining : s.shutdownDraining = true)
      (occupied : (rest.remove id).isEmpty = false) :
      LoopMove cfg s
        ({ s.observe cfg id task res rest with
            drainCompleted := s.drainCompleted + 1 }).nextIteration
  | completesDrain {id rest task res} (here : s.loop = .pollInFlight)
      (yielded : Yields s id rest task res)
      (succeeded : observeDispatchTask task.context res = .ok ())
      (draining : s.shutdownDraining = true)
      (emptied : (rest.remove id).isEmpty = true) :
      LoopMove cfg s
        ((({ s.observe cfg id task res rest with
            drainCompleted := s.drainCompleted + 1 }).recordDrainOutcome
          cfg
          { completed := s.drainCompleted + 1
            failed := s.drainFailed
            timedOut := false
            residual := 0 }).finish (.ok ()))
  | completesAside {id rest task res}
      (here : s.loop = .reloadPollInFlight ∨ s.loop = .drainPoll)
      (yielded : Yields s id rest task res)
      (succeeded : observeDispatchTask task.context res = .ok ()) :
      LoopMove cfg s (s.observe cfg id task res rest)
  | failsDraining {id rest task res failure}
      (here : s.loop = .pollInFlight)
      (yielded : Yields s id rest task res)
      (failed : observeDispatchTask task.context res = .error failure)
      (draining : s.shutdownDraining = true) :
      LoopMove cfg s
        ((({ s.observe cfg id task res rest with
            drainFailed := s.drainFailed + 1 }).recordDrainOutcome
          cfg
          { completed := s.drainCompleted
            failed := s.drainFailed + 1
            timedOut := false
            residual := (rest.remove id).len }).finish (.error failure))
  | fails {id rest task res failure} (here : s.loop.pollsInFlight = true)
      (yielded : Yields s id rest task res)
      (failed : observeDispatchTask task.context res = .error failure)
      (unrecorded : s.loop = .pollInFlight → s.shutdownDraining = false) :
      LoopMove cfg s
        ((s.observe cfg id task res rest).finish (.error failure))
  -- the other ways out of the loop
  | timesOut {timer outcome} (here : s.loop = .pollDrain)
      (draining : s.shutdownDraining = true)
      (armed : s.drainTimer = some timer)
      (fired : timer.poll s.shared.now = .inr outcome) :
      LoopMove cfg s (s.afterDrainTimeout cfg outcome)
  | monitorFails {joinError} (here : s.loop = .pollMonitor)
      (ended : s.monitor = .ended joinError) :
      LoopMove cfg s
        (({ s with monitorPolled := true }).finish (.error
            (scaleMonitorFailure cfg.name cfg.serviceId joinError)))
  | shutsDownIdle (here : s.loop = .pollShutdown)
      (cancelled : s.isShutdown = true)
      (empty : s.inFlight.isEmpty = true) :
      LoopMove cfg s (s.finish (.ok ()))
  | stopsCancelled (here : s.loop = .stopping)
      (cancelled : s.isShutdown = true) :
      LoopMove cfg s (s.finish (.ok ()))
  | drained (here : s.loop = .drainPoll)
      (exhausted : s.inFlight.ready = [])
      (empty : s.inFlight.isEmpty = true) :
      LoopMove cfg s (s.finish (.ok ()))
  | startsDrain (here : s.loop = .pollShutdown)
      (cancelled : s.isShutdown = true)
      (occupied : s.inFlight.isEmpty = false) :
      LoopMove cfg s
        { s.nextIteration with
          shutdownDraining := true
          drainCompleted := 0
          drainFailed := 0
          drainTimer := some (shutdownDrainTimeout s.inFlight.len) }
  | enters {payload identity thenReload}
      (here : s.loop = .handling (if thenReload then .reload payload identity
          else .next payload identity)) :
      LoopMove cfg s
        (s.enterDispatch cfg payload identity thenReload)

/-- A step of the main select that yields an outcome. -/
private theorem LoopMove.of_afterOutcome {id rest task res}
    (here : s.loop = .pollInFlight) (yielded : Yields s id rest task res) :
    LoopMove cfg s
      ((s.observe cfg id task res rest).afterOutcome cfg
        (observeDispatchTask task.context res)) := by
  cases outcome : observeDispatchTask task.context res with
  | ok value =>
    cases value
    by_cases draining : s.shutdownDraining = true
    · by_cases emptied : (rest.remove id).isEmpty = true
      · have move : LoopMove cfg s _ := .completesDrain here yielded outcome draining emptied
        simpa [afterOutcome, observe, draining, emptied] using move
      · have move : LoopMove cfg s _ :=
          .completesDraining here yielded outcome draining (by simpa using emptied)
        simpa [afterOutcome, observe, draining, emptied] using move
    · have move : LoopMove cfg s _ := .completes here yielded outcome (by simpa using draining)
      simpa [afterOutcome, observe, draining] using move
  | error failure =>
    by_cases draining : s.shutdownDraining = true
    · have move : LoopMove cfg s _ := .failsDraining here yielded outcome draining
      simpa [afterOutcome, observe, draining] using move
    · have move : LoopMove cfg s _ :=
        .fails (by rw [here]; rfl) yielded outcome
          (fun _ => by simpa using draining)
      simpa [afterOutcome, observe, draining] using move

private theorem LoopMove.of_again (here : s.loop.pollsInFlight = true)
    (polled : s.pollNext cfg = .again next) : LoopMove cfg s next := by
  obtain ⟨id, rest, pending, rfl⟩ := pollNext_again polled
  exact .suspends here pending

private theorem LoopMove.of_succeededAside
    (here : s.loop = .reloadPollInFlight ∨ s.loop = .drainPoll)
    (polled : s.pollNext cfg = .yielded (.ok ()) next) : LoopMove cfg s next := by
  obtain ⟨id, rest, task, res, yielded, succeeded, rfl⟩ := pollNext_yielded polled
  exact .completesAside here yielded succeeded.symm

/-- Outside the main select a failure ends the loop without a record. -/
private theorem LoopMove.of_failedAside {failure}
    (here : s.loop = .reloadPollInFlight ∨ s.loop = .drainPoll)
    (polled : s.pollNext cfg = .yielded (.error failure) next) :
    LoopMove cfg s (next.finish (.error failure)) := by
  obtain ⟨id, rest, task, res, yielded, failed, rfl⟩ := pollNext_yielded polled
  have polls : s.loop.pollsInFlight = true := by
    rcases here with here | here <;>
    · rw [here]
      rfl
  refine .fails polls yielded failed.symm ?_
  intro selecting
  rw [selecting] at here
  rcases here with here | here <;> cases here

/-- Outside `dispatch`, every step of the loop is one of its moves. -/
theorem LoopMove.of_loopStep (h : s.loopStep cfg = some next)
    (elsewhere : s.loop.dispatches = false) : LoopMove cfg s next := by
  unfold loopStep at h
  split at h
  · rename_i here
    split at h
    · rename_i after polled
      cases h
      exact of_again (by rw [here]; rfl) polled
    · rename_i polled
      cases h
      exact .goes (.exhausted here (pollNext_exhausted polled))
    · rename_i outcome after polled
      obtain ⟨id, rest, task, res, yielded, rfl, rfl⟩ := pollNext_yielded polled
      cases h
      exact of_afterOutcome here yielded
  · rename_i here
    split at h
    · rename_i timer draining armed
      split at h
      · rename_i after polled
        cases h
        exact .timerPending here draining armed polled
      · rename_i outcome fired
        cases h
        exact .timesOut here draining armed fired
    · rename_i unarmed
      cases h
      refine .goes (.undrained here ?_)
      cases draining : s.shutdownDraining with
      | false => exact .inl rfl
      | true =>
        right
        cases armed : s.drainTimer with
        | none => rfl
        | some timer => exact absurd armed (unarmed timer draining)
  · rename_i here
    cases h
    simp only [pollScaleMonitor]
    split
    · rename_i joinError ended
      exact .monitorFails here ended
    · rename_i alive
      have move : LoopMove cfg s _ := .monitorPending here alive
      cases draining : s.shutdownDraining <;>
        simpa [draining] using move
  · rename_i here
    split at h
    · rename_i cancelled
      cases h
      unfold afterShutdown
      split
      · rename_i empty
        exact .shutsDownIdle here cancelled empty
      · rename_i occupied
        exact .startsDrain here cancelled (by simpa using occupied)
    · rename_i uncancelled
      cases h
      exact .goes (.staysOpen here (by simpa using uncancelled))
  · cases h
  · rename_i here
    cases h
    exact .goes (.polledAgain here)
  · rename_i transition here
    cases h
    cases transition with
    | next payload identity =>
      have move : LoopMove cfg s
          (s.enterDispatch cfg payload identity false) :=
        .enters here
      exact move
    | reload payload identity =>
      have move : LoopMove cfg s
          (s.enterDispatch cfg payload identity true) :=
        .enters here
      exact move
    | stop => exact .goes (.stops here)
  · rename_i frame point here
    rw [here] at elsewhere
    cases elsewhere
  · rename_i here
    split at h
    · rename_i after polled
      cases h
      exact of_again (by rw [here]; rfl) polled
    · rename_i polled
      cases h
      exact .goes (.reloadExhausted here (pollNext_exhausted polled))
    · rename_i after polled
      cases h
      exact of_succeededAside (.inl here) polled
    · rename_i failure after polled
      cases h
      exact of_failedAside (.inl here) polled
  · rename_i here
    split at h
    · rename_i cancelled
      cases h
      exact .goes (.reloadStops here cancelled)
    · rename_i uncancelled
      cases h
      exact .goes (.reloadSuspends here (by simpa using uncancelled))
  · rename_i here
    cases h
    exact .goes (.reloadPolledAgain here)
  · rename_i here
    split at h
    · rename_i cancelled
      cases h
      exact .stopsCancelled here cancelled
    · rename_i uncancelled
      cases h
      exact .goes (.drains here (by simpa using uncancelled))
  · rename_i here
    split at h
    · rename_i after polled
      cases h
      exact of_again (by rw [here]; rfl) polled
    · rename_i polled
      split at h
      · rename_i empty
        cases h
        exact .drained here (pollNext_exhausted polled) empty
      · rename_i occupied
        cases h
        exact .goes (.drainSuspends here (pollNext_exhausted polled) (by simpa using occupied))
    · rename_i after polled
      cases h
      exact of_succeededAside (.inr here) polled
    · rename_i failure after polled
      cases h
      exact of_failedAside (.inr here) polled
  · rename_i here
    cases h
    exact .goes (.drainPolledAgain here)
  · cases h
  · cases h

/-- What every move of the loop outside `dispatch` has in common: it touches
neither the permits nor the monitor nor the tokens, it ends no task, and it
stays outside `dispatch` unless it enters it. -/
structure LoopFrame (cfg : RunnerConfig)
    (s next : RunnerState Payload) : Prop where
  shared : next.shared = s.shared ∨ next.shared = s.dropLocals.shared
  monitor : next.monitor = s.monitor
  tokens : next.cancelled = s.cancelled ∧ next.reloadRequested = s.reloadRequested
  tasks : next.tasks.map DispatchTask.state = s.tasks.map DispatchTask.state
  lands : next.loop.dispatches = false ∨ ∃ payload identity thenReload,
      next = s.enterDispatch cfg payload identity thenReload

theorem LoopFrame.finish (res : DispatchTaskOutcome) {before : RunnerState Payload}
    (shared : before.shared = s.shared) (monitor : before.monitor = s.monitor)
    (tokens : before.cancelled = s.cancelled ∧ before.reloadRequested = s.reloadRequested)
    (tasks : before.tasks = s.tasks) : LoopFrame cfg s (before.finish res) := by
  refine ⟨.inr ?_, monitor, tokens, ?_, .inl rfl⟩
  · simp only [RunnerState.finish, RunnerState.dropLocals, shared]
  · simp only [RunnerState.finish, RunnerState.dropLocals, tasks, RunnerState.dropObservers_state]

theorem LoopMove.frame (move : LoopMove cfg s next) (elsewhere : s.loop.dispatches = false) :
    LoopFrame cfg s next := by
  cases move with
  | goes going =>
    refine ⟨.inl rfl, rfl, ⟨rfl, rfl⟩, rfl, .inl ?_⟩
    cases going <;> rfl
  | monitorPending here alive =>
    refine ⟨.inl rfl, rfl, ⟨rfl, rfl⟩, rfl, .inl ?_⟩
    cases draining : s.shutdownDraining <;> rfl
  | suspends here polled => exact ⟨.inl rfl, rfl, ⟨rfl, rfl⟩, rfl, .inl elsewhere⟩
  | completesAside here yielded succeeded =>
    exact ⟨.inl rfl, rfl, ⟨rfl, rfl⟩, rfl, .inl elsewhere⟩
  | timerPending _ _ _ _ | completes _ _ _ _ | completesDraining _ _ _ _ _
  | startsDrain _ _ _ => exact ⟨.inl rfl, rfl, ⟨rfl, rfl⟩, rfl, .inl rfl⟩
  | completesDrain _ _ _ _ _ | failsDraining _ _ _ _ =>
    rw [recordDrainOutcome_eq]
    exact .finish _ rfl rfl ⟨rfl, rfl⟩ rfl
  | timesOut here draining armed fired =>
    rw [afterDrainTimeout, recordDrainOutcome_eq]
    exact .finish _ rfl rfl ⟨rfl, rfl⟩ rfl
  | fails _ _ _ _ | monitorFails _ _ | shutsDownIdle _ _ _
  | stopsCancelled _ _ | drained _ _ _ => exact .finish _ rfl rfl ⟨rfl, rfl⟩ rfl
  | enters here => exact ⟨.inl rfl, rfl, ⟨rfl, rfl⟩, rfl, .inr ⟨_, _, _, rfl⟩⟩

/-! ### The system -/

/-- The moves of a trigger generation. -/
inductive Move (cfg : RunnerConfig) (state : RunnerState Payload) :
    Action Payload → RunnerState Payload → Prop where
  | loop {next : RunnerState Payload}
      (elsewhere : state.loop.dispatches = false)
      (move : LoopMove cfg state next) : Move cfg state .loop next
  | dispatch {next frame point} (here : state.loop = .dispatching frame point)
      (move : DispatchMove cfg frame state point next) :
      Move cfg state .loop next
  | hostReady {transition} (here : state.loop = .pollHost) :
      Move cfg state (.hostReady transition)
        { state with loop := .handling transition, hostPolled := false }
  | hostPending (here : state.loop = .pollHost) :
      Move cfg state .hostPending
        { state with loop := .parked, hostPolled := true }
  | drops
      (here : state.loop = .parked ∨ state.loop = .reloadParked ∨ state.loop = .drainParked) :
      Move cfg state .dropFuture { state.dropLocals with loop := .dropped }
  | dropsQueued {frame} (here : state.loop = .dispatching frame .queued) :
      Move cfg state .dropFuture
        { state.dropLocals with
          loop := .dropped
          shared :=
            { state.dropLocals.shared with
              semaphore :=
                state.shared.semaphore.abandon frame.instanceSeq.toNat } }
  | returnsPermit {id res task} (found : state.tasks[id]? = some task)
      (running : task.state = .running) :
      Move cfg state (.taskReturnsPermit id res)
        { state with
          tasks := state.tasks.set id { task with state := .released res }
          shared :=
            { state.shared with semaphore := state.shared.semaphore.addPermits 1 } }
  | completes {id res task} (found : state.tasks[id]? = some task)
      (released : task.state = .released res) :
      Move cfg state (.taskCompletes id)
        { state with
          tasks := state.tasks.set id { task with state := .finished res }
          inFlight := state.inFlight.wake id }
  | monitor {scaling shared after} (scaled : cfg.base.scaling = some scaling)
      (stepped : monitorStep cfg.base scaling cfg.inDaemon state.shared
        state.monitor = some (shared, after)) :
      Move cfg state .monitor
        { state with shared := shared, monitor := after }
  | monitorEnds {joinError idleSince wakeAt}
      (asleep : state.monitor = .sleeping idleSince wakeAt) :
      Move cfg state (.monitorEnds joinError)
        { state with monitor := .ended joinError }
  | requested {overlay record}
      (accepted : state.shared.overlay.requestOverlay cfg.base
        state.shared.registered state.shared.now overlay = .ok record) :
      Move cfg state (.requestOverlay overlay)
        { state with shared := { state.shared with overlay := record } }
  | requestRejected {overlay} :
      Move cfg state (.requestOverlay overlay) state
  | cleared {reason record}
      (accepted : state.shared.overlay.clearOverlay state.shared.registered reason = .ok record) :
      Move cfg state (.clearOverlay reason)
        { state with shared := { state.shared with overlay := record } }
  | clearRejected {reason} :
      Move cfg state (.clearOverlay reason) state
  | cancel : Move cfg state .cancel { state with cancelled := true }
  | requestReload :
      Move cfg state .requestReload { state with reloadRequested := true }
  | advance {duration} :
      Move cfg state (.advance duration)
        { state with shared := { state.shared with now := state.shared.now + duration } }

private theorem Move.of_loopStep (h : s.loopStep cfg = some next) : Move cfg s .loop next := by
  cases point : s.loop with
  | dispatching frame inner =>
    simp only [loopStep, point] at h
    exact .dispatch point (.of_dispatchStep h)
  | _ =>
    have elsewhere : s.loop.dispatches = false := by rw [point]; rfl
    exact .loop elsewhere (.of_loopStep h elsewhere)

private theorem Move.of_dropFuture (h : s.dropFuture = some next) :
    Move cfg s .dropFuture next := by
  unfold dropFuture at h
  split at h
  · rename_i here
    cases h
    exact .drops (.inl here)
  · rename_i here
    cases h
    exact .drops (.inr (.inl here))
  · rename_i here
    cases h
    exact .drops (.inr (.inr here))
  · rename_i frame here
    cases h
    exact .dropsQueued here
  · cases h

private theorem Move.of_taskReturnsPermit {id res}
    (h : Runner.taskReturnsPermit id res s = some next) :
    Move cfg s (.taskReturnsPermit id res) next := by
  unfold Runner.taskReturnsPermit at h
  split at h
  · rename_i task found
    split at h
    · rename_i running
      cases h
      exact .returnsPermit found running
    · cases h
  · cases h

private theorem Move.of_taskCompletes {id} (h : Runner.taskCompletes id s = some next) :
    Move cfg s (.taskCompletes id) next := by
  unfold Runner.taskCompletes at h
  split at h
  · rename_i task found
    split at h
    · rename_i res released
      cases h
      exact .completes found released
    · cases h
  · cases h

private theorem Move.of_monitorMoves (h : Runner.monitorMoves cfg s = some next) :
    Move cfg s .monitor next := by
  unfold Runner.monitorMoves at h
  split at h
  · cases h
  · cases h
  · rename_i scaling scaled _
    simp only [Option.map_eq_some_iff, Prod.exists] at h
    obtain ⟨shared, after, h, rfl⟩ := h
    exact .monitor scaled h

/-- Every step of a generation is one of its moves. -/
theorem Move.of_step {a} (h : Runner.step cfg s a = some next) : Move cfg s a next := by
  cases a with
  | loop => exact .of_loopStep h
  | hostReady transition =>
    simp only [Runner.step] at h
    split at h
    · rename_i here
      cases h
      exact .hostReady here
    · cases h
  | hostPending =>
    simp only [Runner.step] at h
    split at h
    · rename_i here
      cases h
      exact .hostPending here
    · cases h
  | dropFuture => exact .of_dropFuture h
  | taskReturnsPermit id res => exact .of_taskReturnsPermit h
  | taskCompletes id => exact .of_taskCompletes h
  | monitor => exact .of_monitorMoves h
  | monitorEnds joinError =>
    simp only [Runner.step, Runner.monitorEnds] at h
    split at h
    · rename_i idleSince wakeAt asleep
      cases h
      exact .monitorEnds asleep
    · cases h
  | requestOverlay overlay =>
    simp only [Runner.step] at h
    split at h
    · rename_i record accepted
      cases h
      exact .requested accepted
    · cases h
      exact .requestRejected
  | clearOverlay reason =>
    simp only [Runner.step] at h
    split at h
    · rename_i record accepted
      cases h
      exact .cleared accepted
    · cases h
      exact .clearRejected
  | cancel =>
    cases h
    exact .cancel
  | requestReload =>
    cases h
    exact .requestReload
  | advance duration =>
    cases h
    exact .advance

end ServiceDaemon
