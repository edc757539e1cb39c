/-
Purpose: The event loop of a trigger generation together with everything that
  runs beside it: the dispatch tasks, the scale monitor, overlay requests, the
  clock and the lifecycle tokens.
Main exports: RunnerConfig, LoopPoint, RunnerState
-/
import ServiceDaemon.Core.Dispatch
import ServiceDaemon.Core.Scaling
import ServiceDaemon.Lib.FuturesUnordered
import ServiceDaemon.Lib.StepSystem

namespace ServiceDaemon

open AsyncLib StepSystem

/-!
`run_with_host` is one task.  It is modelled by its program points: a `biased`
select polls its branches in order, one point for each branch, and suspends at
`parked` once all of them are pending.  A suspended task may be polled again at
any time, so a wakeup is not modelled; what a suspended task waits for is read
off its point.

The host is arbitrary: when `handle_step` is polled the environment decides
whether it is pending or returns a transition.  The other threads are the
dispatch tasks, the scale monitor, and the callers that request and clear
overlays or cancel the generation.  Every action is one atomic operation of one
of them.

The cooperative budget of the runtime is not modelled, and neither are log
records.  Nobody closes the semaphore, so an acquire never fails.

[SRC core/trigger_runner/event_loop.rs, dispatch.rs, drain.rs, mod.rs]
-/

/-- What `TriggerRunner::new` fixes.  `inDaemon` says that the runner found the
daemon's resources and so has runtime facts and an overlay store;
`hasDiagnostics` says that its generation has a diagnostics handle. -/
structure RunnerConfig where
  name : String
  serviceId : ServiceId
  generation : Nat
  base : TriggerBasePolicy
  inDaemon : Bool
  hasDiagnostics : Bool

/-- A trigger of a daemon that has the given scaling policy. -/
def RunnerConfig.managed (scaling : Option ScalingPolicy) : RunnerConfig :=
  { name := "trigger"
    serviceId := ⟨1⟩
    generation := 1
    base := { restartPolicy := .default, scaling := scaling }
    inDaemon := true
    hasDiagnostics := true }

/-- The locals of `dispatch` before it spawns its task.  `thenReload` says
that the transition was a `Reload`. -/
structure DispatchFrame (Payload : Type) where
  payload : Payload
  instanceSeq : UInt64
  messageId : Uuid
  sourceId : ServiceId
  thenReload : Bool

/-- Where `dispatch` stands.  From `record` on it owns a permit. -/
inductive DispatchPoint where
  | loadLimit
  | reconcile (point : ReconcilePoint)
  | acquire
  | queued
  | record
  | prune
  | readPolicy
  | spawn (policy : EffectiveTriggerPolicy)

/-- Where `run_with_host` stands. -/
inductive LoopPoint (Payload : Type) where
  -- the branches of the select, and its suspension
  | pollInFlight
  | pollDrain
  | pollMonitor
  | pollShutdown
  | pollHost
  | parked
  -- `handle_transition`
  | handling (transition : TriggerTransition Payload)
  | dispatching (frame : DispatchFrame Payload) (point : DispatchPoint)
  | reloadPollInFlight
  | reloadPollShutdown
  | reloadParked
  -- after `Stop`, and `drain_in_flight`
  | stopping
  | drainPoll
  | drainParked
  -- the future is gone
  | returned (result : DispatchTaskOutcome)
  | dropped

/-- The state of one trigger generation.  A dispatch task is named by its
position in `tasks`.  `hostPolled` says that the current select holds a
`handle_step` future that has been polled.  `observed` lists the dispatches
whose outcome the loop has seen, which the source keeps as counters only. -/
structure RunnerState (Payload : Type) where
  shared : ConcurrencyState
  cancelled : Bool
  reloadRequested : Bool
  loop : LoopPoint Payload
  hostPolled : Bool
  instanceCounter : UInt64
  nextMessageId : Uuid
  tasks : List (DispatchTask Payload)
  inFlight : FuturesUnordered Nat
  observed : List Nat
  facts : TriggerRuntimeFacts
  monitor : MonitorPoint
  monitorPolled : Bool
  monitorAborted : Bool
  shutdownDraining : Bool
  drainCompleted : Nat
  drainFailed : Nat
  drainTimer : Option DrainTimer
  boundaries : List ShutdownBoundaryOutcome

namespace RunnerState

variable {Payload : Type}

/-- A freshly constructed runner whose `run_with_host` is about to be polled
for the first time; the scale monitor is spawned at once. -/
def new (config : RunnerConfig) (now : Instant) : RunnerState Payload :=
  { shared :=
      { semaphore := Semaphore.new config.base.initialConcurrency
        currentLimit := config.base.initialConcurrency
        reconcileLock := none
        overlay := .default
        registered := config.inDaemon
        now := now }
    cancelled := false
    reloadRequested := false
    loop := .pollInFlight
    hostPolled := false
    instanceCounter := 0
    nextMessageId := 0
    tasks := []
    inFlight := FuturesUnordered.new
    observed := []
    facts := .new
    monitor :=
      match config.base.scaling with
      | some _ => .sleepFrom now none
      | none => .absent
    monitorPolled := false
    monitorAborted := false
    shutdownDraining := false
    drainCompleted := 0
    drainFailed := 0
    drainTimer := none
    boundaries := [] }

/-- `is_shutdown`, and the readiness of `wait_shutdown`. -/
def isShutdown (state : RunnerState Payload) : Bool :=
  state.cancelled || state.reloadRequested

def recordDrainOutcome (config : RunnerConfig) (outcome : TriggerDrainOutcome)
    (state : RunnerState Payload) : RunnerState Payload :=
  if config.hasDiagnostics then
    { state with boundaries := state.boundaries ++ [outcome.diagnosticsOutcome] }
  else state

theorem recordDrainOutcome_eq (cfg : RunnerConfig)
    (outcome : TriggerDrainOutcome) (s : RunnerState Payload) :
    s.recordDrainOutcome cfg outcome =
      { s with boundaries := (s.recordDrainOutcome cfg outcome).boundaries } := by
  unfold recordDrainOutcome
  split <;> rfl

/-- Dropping an observer aborts its task only when the observer was polled: the
guard that aborts is built by the first poll, and an observer that was never
polled just drops its join handle. -/
def dropObservers (inFlight : FuturesUnordered Nat)
    (tasks : List (DispatchTask Payload)) : List (DispatchTask Payload) :=
  tasks.mapIdx fun id task =>
    if id ∈ inFlight.members ∧ id ∈ inFlight.polled then
      { task with abortSent := true }
    else task

/-- Dropping the observers ends no task and starts none. -/
theorem dropObservers_state (inFlight : FuturesUnordered Nat)
    (tasks : List (DispatchTask Payload)) :
    (dropObservers inFlight tasks).map DispatchTask.state = tasks.map DispatchTask.state := by
  apply List.ext_getElem?
  intro id
  simp only [dropObservers, List.getElem?_map, List.getElem?_mapIdx, Option.map_map]
  congr 1
  funext task
  simp only [Function.comp_apply]
  split <;> rfl

/-- The locals of `run_with_host` go out of scope: the observers, the monitor
future, and the guard that removes the overlay record. -/
def dropLocals (state : RunnerState Payload) : RunnerState Payload :=
  { state with
    hostPolled := false
    tasks := dropObservers state.inFlight state.tasks
    inFlight := FuturesUnordered.new
    monitorAborted := state.monitorAborted || state.monitorPolled
    shared :=
      { state.shared with
        registered := false
        overlay := { state.shared.overlay with overlay := none } } }

/-- `run_with_host` returns `result`. -/
def finish (result : DispatchTaskOutcome) (state : RunnerState Payload) :
    RunnerState Payload :=
  { state.dropLocals with loop := .returned result }

/-! ### Polling the in-flight set -/

/-- One future of the set was polled and is pending, no future is queued, or an
outcome was yielded. -/
inductive NextPoll (Payload : Type) where
  | again (state : RunnerState Payload)
  | exhausted
  | yielded (outcome : DispatchTaskOutcome) (state : RunnerState Payload)

/-- The observer of dispatch `id` returns: its outcome is recorded. -/
def observe (config : RunnerConfig) (id : Nat) (task : DispatchTask Payload) (result : TaskResult)
    (rest : FuturesUnordered Nat) (state : RunnerState Payload) : RunnerState Payload :=
  { state with
    inFlight := rest.remove id
    observed := state.observed ++ [id]
    facts :=
      if config.inDaemon then
        state.facts.recordOutcome (observeDispatchTask task.context result)
      else state.facts }

/-- `in_flight.next()`: poll the queued observer that comes first. -/
def pollNext (config : RunnerConfig) (state : RunnerState Payload) :
    NextPoll Payload :=
  match state.inFlight.dequeue with
  | none => .exhausted
  | some (id, rest) =>
    match state.tasks[id]? with
    | some task =>
      match task.state with
      | .finished result =>
        .yielded (observeDispatchTask task.context result)
          (observe config id task result rest state)
      | _ => .again { state with inFlight := rest.suspend id }
    | none => .again { state with inFlight := rest.suspend id }

/-! ### The select of the main loop -/

/-- Start the next iteration of the loop.  The futures of the finished select
are dropped, the `handle_step` future among them. -/
def nextIteration (state : RunnerState Payload) : RunnerState Payload :=
  { state with loop := .pollInFlight, hostPolled := false }

/-- The body of the first branch. -/
def afterOutcome (config : RunnerConfig) (state : RunnerState Payload) :
    DispatchTaskOutcome → RunnerState Payload
  | .ok () =>
    if state.shutdownDraining then
      let state := { state with drainCompleted := state.drainCompleted + 1 }
      if state.inFlight.isEmpty then
        (state.recordDrainOutcome config
          { completed := state.drainCompleted
            failed := state.drainFailed
            timedOut := false
            residual := 0 }).finish (.ok ())
      else state.nextIteration
    else state.nextIteration
  | .error failure =>
    if state.shutdownDraining then
      let state := { state with drainFailed := state.drainFailed + 1 }
      (state.recordDrainOutcome config
        { completed := state.drainCompleted
          failed := state.drainFailed
          timedOut := false
          residual := state.inFlight.len }).finish (.error failure)
    else state.finish (.error failure)

/-- The body of the second branch. -/
def afterDrainTimeout (config : RunnerConfig) (outcome : TriggerDrainOutcome)
    (state : RunnerState Payload) : RunnerState Payload :=
  (state.recordDrainOutcome config
    { outcome with completed := state.drainCompleted, failed := state.drainFailed }).finish (.ok ())

/-- The body of the last branch when `poll_next_event` saw the shutdown. -/
def afterShutdown (state : RunnerState Payload) : RunnerState Payload :=
  if state.inFlight.isEmpty then state.finish (.ok ())
  else
    { state.nextIteration with
      shutdownDraining := true
      drainCompleted := 0
      drainFailed := 0
      drainTimer := some (shutdownDrainTimeout state.inFlight.len) }

/-- Poll the third branch, and find out which branch comes next. -/
def pollScaleMonitor (config : RunnerConfig) (state : RunnerState Payload) :
    RunnerState Payload :=
  let state := { state with monitorPolled := true }
  match state.monitor with
  | .ended joinError =>
    state.finish
      (.error (scaleMonitorFailure config.name config.serviceId joinError))
  | _ =>
    -- The last branch is disabled while the loop drains.
    if state.shutdownDraining then { state with loop := .parked }
    else { state with loop := .pollShutdown }

/-! ### Dispatch -/

/-- The head of `dispatch`, up to its first access to the overlay record. -/
def enterDispatch (config : RunnerConfig) (payload : Payload) (identity : Option (Uuid × ServiceId))
    (thenReload : Bool) (state : RunnerState Payload) : RunnerState Payload :=
  let (messageId, sourceId) :=
    identity.getD (state.nextMessageId, config.serviceId)
  { state with
    instanceCounter := state.instanceCounter + 1
    nextMessageId :=
      if identity.isSome then state.nextMessageId else state.nextMessageId + 1
    loop :=
      .dispatching
        { payload := payload
          instanceSeq := state.instanceCounter
          messageId := messageId
          sourceId := sourceId
          thenReload := thenReload }
        (if config.inDaemon then .loadLimit else .acquire) }

def handleTransition (config : RunnerConfig) (state : RunnerState Payload) :
    TriggerTransition Payload → RunnerState Payload
  | .next payload identity => state.enterDispatch config payload identity false
  | .reload payload identity =>
    state.enterDispatch config payload identity true
  | .stop => { state with loop := .stopping }

/-- The task a dispatch spawns. -/
def newTask (config : RunnerConfig) (frame : DispatchFrame Payload)
    (policy : EffectiveTriggerPolicy) : DispatchTask Payload :=
  { context :=
      { serviceId := config.serviceId
        sourceId := frame.sourceId
        instanceSeq := frame.instanceSeq
        generation := config.generation
        messageId := frame.messageId
        triggerName := config.name
        payload := frame.payload
        retryPolicy := policy.restartPolicy }
    timeout := policy.dispatchTimeout
    state := .running
    abortSent := false }

/-- Spawn the task with its permit and push its observer. -/
def spawnDispatch (config : RunnerConfig) (frame : DispatchFrame Payload)
    (policy : EffectiveTriggerPolicy) (state : RunnerState Payload) :
    RunnerState Payload :=
  { state with
    tasks := state.tasks ++ [newTask config frame policy]
    inFlight := state.inFlight.push state.tasks.length
    loop := if frame.thenReload then .reloadPollInFlight else .pollInFlight }

/-- The policy of a dispatch that finds no overlay record. -/
def basePolicy (config : RunnerConfig) : EffectiveTriggerPolicy :=
  { restartPolicy := config.base.restartPolicy, dispatchTimeout := none }

/-- One step of `dispatch`. -/
def dispatchStep (config : RunnerConfig) (frame : DispatchFrame Payload)
    (state : RunnerState Payload) :
    DispatchPoint → Option (RunnerState Payload)
  -- `apply_effective_concurrency`
  | .loadLimit =>
    some
      { state with
        loop :=
          .dispatching frame
            (.reconcile (.lookup (currentLimitOrBase state.shared))) }
  | .reconcile (.finished _) =>
    some { state with loop := .dispatching frame .acquire }
  | .reconcile point =>
    (reconcileStep config.base .dispatcher state.shared point).map
      fun (shared, after) =>
        { state with shared := shared, loop := .dispatching frame (.reconcile after) }
  -- `acquire_owned().await`
  | .acquire =>
    let (semaphore, granted) :=
      state.shared.semaphore.acquire frame.instanceSeq.toNat
    some
      { state with
        shared := { state.shared with semaphore := semaphore }
        loop :=
          .dispatching frame (if granted then .record else .queued) }
  | .queued =>
    (state.shared.semaphore.claim frame.instanceSeq.toNat).map fun semaphore =>
      { state with
        shared := { state.shared with semaphore := semaphore }
        loop := .dispatching frame .record }
  | .record =>
    some
      (if config.inDaemon then
        { state with facts := state.facts.recordDispatched, loop := .dispatching frame .prune }
      else
        { state with loop := .dispatching frame (.spawn (basePolicy config)) })
  -- `effective_policy`
  | .prune =>
    some
      (if state.shared.registered then
        { state with
          shared :=
            { state.shared with
              overlay :=
                state.shared.overlay.pruneExpiredOverlay state.shared.now }
          loop := .dispatching frame .readPolicy }
      else
        { state with loop := .dispatching frame (.spawn (basePolicy config)) })
  | .readPolicy =>
    some
      { state with
        loop :=
          .dispatching frame
            (.spawn (state.shared.overlay.effectivePolicy config.base)) }
  | .spawn policy => some (state.spawnDispatch config frame policy)

/-! ### The loop -/

/-- One step of `run_with_host`.  At `pollHost` the environment answers, see
`step`. -/
def loopStep (config : RunnerConfig) (state : RunnerState Payload) :
    Option (RunnerState Payload) :=
  match state.loop with
  | .pollInFlight =>
    match state.pollNext config with
    | .again next => some next
    | .exhausted => some { state with loop := .pollDrain }
    | .yielded outcome next => some (next.afterOutcome config outcome)
  | .pollDrain =>
    match state.shutdownDraining, state.drainTimer with
    | true, some timer =>
      match timer.poll state.shared.now with
      | .inl timer =>
        some
          { state with drainTimer := some timer, loop := .pollMonitor }
      | .inr outcome => some (state.afterDrainTimeout config outcome)
    | _, _ => some { state with loop := .pollMonitor }
  | .pollMonitor => some (state.pollScaleMonitor config)
  | .pollShutdown =>
    if state.isShutdown then some state.afterShutdown
    else some { state with loop := .pollHost }
  | .pollHost => none
  | .parked => some { state with loop := .pollInFlight }
  | .handling transition => some (state.handleTransition config transition)
  | .dispatching frame point => state.dispatchStep config frame point
  | .reloadPollInFlight =>
    match state.pollNext config with
    | .again next => some next
    | .exhausted => some { state with loop := .reloadPollShutdown }
    | .yielded (.ok ()) next => some next
    | .yielded (.error failure) next => some (next.finish (.error failure))
  | .reloadPollShutdown =>
    if state.isShutdown then some { state with loop := .stopping }
    else some { state with loop := .reloadParked }
  | .reloadParked => some { state with loop := .reloadPollInFlight }
  | .stopping =>
    if state.isShutdown then some (state.finish (.ok ()))
    else some { state with loop := .drainPoll }
  | .drainPoll =>
    match state.pollNext config with
    | .again next => some next
    | .exhausted =>
      if state.inFlight.isEmpty then some (state.finish (.ok ()))
      else some { state with loop := .drainParked }
    | .yielded (.ok ()) next => some next
    | .yielded (.error failure) next => some (next.finish (.error failure))
  | .drainParked => some { state with loop := .drainPoll }
  | .returned _ => none
  | .dropped => none

/-- Drop the future of `run_with_host` where it is suspended.  A queued acquire
leaves the semaphore. -/
def dropFuture (state : RunnerState Payload) : Option (RunnerState Payload) :=
  match state.loop with
  | .parked | .reloadParked | .drainParked =>
    some { state.dropLocals with loop := .dropped }
  | .dispatching frame .queued =>
    let state := state.dropLocals
    some
      { state with
        loop := .dropped
        shared :=
          { state.shared with
            semaphore :=
              state.shared.semaphore.abandon frame.instanceSeq.toNat } }
  | _ => none

end RunnerState

/-! ### The system -/

/-- The atomic operations of the threads of a generation. -/
inductive Action (Payload : Type) where
  /-- the event loop takes its next step -/
  | loop
  /-- the polled `handle_step` returns -/
  | hostReady (transition : TriggerTransition Payload)
  /-- the polled `handle_step` is pending -/
  | hostPending
  /-- the future of `run_with_host` is dropped -/
  | dropFuture
  /-- a dispatch task drops its permit -/
  | taskReturnsPermit (id : Nat) (result : TaskResult)
  /-- a dispatch task completes -/
  | taskCompletes (id : Nat)
  /-- the scale monitor takes its next step -/
  | monitor
  /-- the monitor task ends at its only await -/
  | monitorEnds (joinError : String)
  | requestOverlay (overlay : TriggerPolicyOverlay)
  | clearOverlay (reason : String)
  | cancel
  | requestReload
  | advance (duration : Duration)

namespace Runner

variable {Payload : Type}

/-- A dispatch task drops its permit, which the semaphore hands to the oldest
queued acquire. -/
def taskReturnsPermit (id : Nat) (result : TaskResult)
    (state : RunnerState Payload) : Option (RunnerState Payload) :=
  match state.tasks[id]? with
  | some task =>
    if task.state = .running then
      some
        { state with
          tasks := state.tasks.set id { task with state := .released result }
          shared :=
            { state.shared with semaphore := state.shared.semaphore.addPermits 1 } }
    else none
  | none => none

/-- A dispatch task completes and wakes its observer. -/
def taskCompletes (id : Nat) (state : RunnerState Payload) :
    Option (RunnerState Payload) :=
  match state.tasks[id]? with
  | some task =>
    match task.state with
    | .released result =>
      some
        { state with
          tasks :=
            state.tasks.set id { task with state := .finished result }
          inFlight := state.inFlight.wake id }
    | _ => none
  | none => none

/-- A step of the scale monitor.  Once aborted it does not leave its sleep. -/
def monitorMoves (config : RunnerConfig) (state : RunnerState Payload) :
    Option (RunnerState Payload) :=
  match config.base.scaling, state.monitor, state.monitorAborted with
  | none, _, _ => none
  | some _, .sleeping _ _, true => none
  | some scaling, point, _ =>
    (monitorStep config.base scaling config.inDaemon state.shared point).map
      fun (shared, after) =>
        { state with shared := shared, monitor := after }

/-- The monitor task ends with a join error. -/
def monitorEnds (joinError : String) (state : RunnerState Payload) :
    Option (RunnerState Payload) :=
  match state.monitor with
  | .sleeping _ _ => some { state with monitor := .ended joinError }
  | _ => none

/-- The transition function of a trigger generation. -/
def step (config : RunnerConfig) (state : RunnerState Payload) :
    Action Payload → Option (RunnerState Payload)
  | .loop => state.loopStep config
  | .hostReady transition =>
    match state.loop with
    | .pollHost =>
      some
        { state with loop := .handling transition, hostPolled := false }
    | _ => none
  | .hostPending =>
    match state.loop with
    | .pollHost => some { state with loop := .parked, hostPolled := true }
    | _ => none
  | .dropFuture => state.dropFuture
  | .taskReturnsPermit id result => taskReturnsPermit id result state
  | .taskCompletes id => taskCompletes id state
  | .monitor => monitorMoves config state
  | .monitorEnds joinError => monitorEnds joinError state
  -- A rejected request leaves the record unchanged.
  | .requestOverlay overlay =>
    match state.shared.overlay.requestOverlay config.base
        state.shared.registered state.shared.now overlay with
    | .ok record =>
      some { state with shared := { state.shared with overlay := record } }
    | .error _ => some state
  | .clearOverlay reason =>
    match state.shared.overlay.clearOverlay state.shared.registered
        reason with
    | .ok record =>
      some { state with shared := { state.shared with overlay := record } }
    | .error _ => some state
  | .cancel => some { state with cancelled := true }
  | .requestReload => some { state with reloadRequested := true }
  | .advance duration =>
    some
      { state with shared := { state.shared with now := state.shared.now + duration } }

/-- The loop takes `count` steps. -/
def loops (count : Nat) : List (Action Payload) :=
  List.replicate count .loop

/-- The host returns an event at its next poll, and the loop goes on to
`handle_transition`: `polls` steps to reach the host, then its answer. -/
def arrival (polls : Nat) (payload : Payload) : List (Action Payload) :=
  loops polls ++ [.hostReady (.next payload none)]

/-- A run of a generation that starts at time `now`. -/
abbrev Reaches (config : RunnerConfig) (now : Instant)
    (schedule : List (Action Payload)) (state : RunnerState Payload) : Prop :=
  Run (step config) (RunnerState.new config now) schedule state

end Runner

end ServiceDaemon
