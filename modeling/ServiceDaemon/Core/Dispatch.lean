/-
Purpose: The data of a trigger dispatch: transitions returned by hosts, dispatch
  tasks and their outcomes, typed failures, runtime facts and drain outcomes.
Main exports: TriggerTransition, TriggerDispatchFailure, DispatchContext
-/
import ServiceDaemon.Models.Policy

namespace ServiceDaemon

/-!
A dispatch runs as its own task and owns one permit of the runner's semaphore.
The event loop keeps an observer future for the task; the observer turns the
join result into the outcome of the dispatch and records it in the runtime
facts.  What the task does between its spawn and its end (tracing, retries, the
handler, the dispatch timeout) is not visible here: a task ends at any moment
with any result.

[SRC core/trigger_runner/dispatch.rs, failure.rs, drain.rs]
[SRC core/runtime_facts.rs, models/trigger.rs]
-/

structure ServiceId where
  value : Nat
deriving Repr, DecidableEq

/-- A message identifier. -/
abbrev Uuid := Nat

/-- `TriggerTransition`, the answer of `handle_step`. -/
inductive TriggerTransition (Payload : Type) where
  | next (payload : Payload) (identity : Option (Uuid × ServiceId))
  | reload (payload : Payload) (identity : Option (Uuid × ServiceId))
  | stop
deriving DecidableEq

/-! ### Failures -/

inductive TriggerDispatchFailureKind where
  | handlerRetryExhausted
  | dispatchTaskError
  | dispatchTaskPanic
  | dispatchTaskCancelled
  | dispatchPermitAcquireFailed
  | dispatchTimedOut
  | scaleMonitorFailed
deriving Repr, DecidableEq

structure TriggerDispatchFailure where
  kind : TriggerDispatchFailureKind
  triggerName : String
  serviceId : ServiceId
  instanceSeq : Option UInt64
  messageId : Option Uuid
  reason : String
deriving Repr, DecidableEq

abbrev DispatchTaskOutcome := Except TriggerDispatchFailure Unit

/-! ### Tasks -/

/-- `DispatchContext`, less the handler and the facts handle it carries. -/
structure DispatchContext (Payload : Type) where
  serviceId : ServiceId
  sourceId : ServiceId
  instanceSeq : UInt64
  generation : Nat
  messageId : Uuid
  triggerName : String
  payload : Payload
  retryPolicy : RestartPolicy

/-- How a dispatch task can end: the chain's result, where an error is a typed
failure or any other error, or a join error. -/
inductive TaskResult where
  | ok
  | failed (failure : TriggerDispatchFailure)
  | error (message : String)
  | panicked (message : String)
  | cancelled (message : String)
deriving Repr, DecidableEq

/-- A task returns its permit before it completes. -/
inductive TaskState where
  | running
  | released (result : TaskResult)
  | finished (result : TaskResult)
deriving Repr, DecidableEq

/-- A spawned dispatch.  `abortSent` is set once its join handle asked the
runtime to abort it. -/
structure DispatchTask (Payload : Type) where
  context : DispatchContext Payload
  timeout : Option Duration
  state : TaskState
  abortSent : Bool

namespace DispatchTask

variable {Payload : Type}

def holdsPermit (task : DispatchTask Payload) : Bool :=
  decide (task.state = .running)

def isFinished (task : DispatchTask Payload) : Bool :=
  match task.state with
  | .finished _ => true
  | _ => false

end DispatchTask

/-- The join result as `observe_dispatch_task` classifies it. -/
def observeDispatchTask {Payload : Type} (context : DispatchContext Payload) :
    TaskResult → DispatchTaskOutcome
  | .ok => .ok ()
  | .failed failure => .error failure
  | .error message => .error (classify .dispatchTaskError message)
  | .panicked message => .error (classify .dispatchTaskPanic message)
  | .cancelled message => .error (classify .dispatchTaskCancelled message)
where
  classify (kind : TriggerDispatchFailureKind) (reason : String) :
      TriggerDispatchFailure :=
    { kind := kind
      triggerName := context.triggerName
      serviceId := context.serviceId
      instanceSeq := some context.instanceSeq
      messageId := some context.messageId
      reason := reason }

/-- A dispatch is observed as successful exactly when its task ended with
success. -/
@[simp] theorem observeDispatchTask_eq_ok {Payload : Type}
    {context : DispatchContext Payload} {res : TaskResult} :
    observeDispatchTask context res = .ok () ↔ res = .ok := by
  cases res <;> simp [observeDispatchTask]

/-- `observe_scale_monitor` on a monitor task that ended with a join error. -/
def scaleMonitorFailure (triggerName : String) (serviceId : ServiceId)
    (joinError : String) : TriggerDispatchFailure :=
  { kind := .scaleMonitorFailed
    triggerName := triggerName
    serviceId := serviceId
    instanceSeq := none
    messageId := none
    reason := s!"scale monitor task failed: {joinError}" }

/-! ### Runtime facts -/

/-- The counters of `TriggerRuntimeRecord` that the runner writes.  The source
stores the text of the last failure; the model keeps the failure. -/
structure TriggerRuntimeFacts where
  dispatchedTotal : UInt64
  completedTotal : UInt64
  failedTotal : UInt64
  lastError : Option TriggerDispatchFailure
deriving Repr, DecidableEq

namespace TriggerRuntimeFacts

def new : TriggerRuntimeFacts :=
  { dispatchedTotal := 0, completedTotal := 0, failedTotal := 0, lastError := none }

def recordDispatched (facts : TriggerRuntimeFacts) : TriggerRuntimeFacts :=
  { facts with dispatchedTotal := facts.dispatchedTotal + 1 }

/-- `record_completed` or `record_failed`, as the observer calls them. -/
def recordOutcome (facts : TriggerRuntimeFacts) :
    DispatchTaskOutcome → TriggerRuntimeFacts
  | .ok () => { facts with completedTotal := facts.completedTotal + 1 }
  | .error failure =>
    { facts with failedTotal := facts.failedTotal + 1, lastError := some failure }

end TriggerRuntimeFacts

/-! ### Drain outcomes -/

def defaultTriggerShutdownDrainTimeout : Duration := fromSecs 5

structure TriggerDrainOutcome where
  completed : Nat
  failed : Nat
  timedOut : Bool
  residual : Nat
deriving Repr, DecidableEq

inductive ShutdownBoundaryResultKind where
  | completed
  | timedOut
  | panicked
deriving Repr, DecidableEq

inductive ShutdownResidualActionKind where
  | none
  | recordedAndDetached
deriving Repr, DecidableEq

/-- `ShutdownBoundaryOutcomeSnapshot` of the trigger dispatch drain. -/
structure ShutdownBoundaryOutcome where
  result : ShutdownBoundaryResultKind
  action : ShutdownResidualActionKind
  completed : Nat
  failed : Nat
  residual : Nat
deriving Repr, DecidableEq

def TriggerDrainOutcome.diagnosticsOutcome (outcome : TriggerDrainOutcome) :
    ShutdownBoundaryOutcome :=
  let (result, action) :=
    if outcome.timedOut then
      (ShutdownBoundaryResultKind.timedOut, ShutdownResidualActionKind.recordedAndDetached)
    else
      (ShutdownBoundaryResultKind.completed, ShutdownResidualActionKind.none)
  { result := result
    action := action
    completed := outcome.completed
    failed := outcome.failed
    residual := outcome.residual }

theorem TriggerDrainOutcome.diagnosticsOutcome_counts (outcome : TriggerDrainOutcome) :
    outcome.diagnosticsOutcome.completed = outcome.completed ∧
      outcome.diagnosticsOutcome.failed = outcome.failed ∧
      outcome.diagnosticsOutcome.residual = outcome.residual := by
  unfold diagnosticsOutcome
  split
  exact ⟨rfl, rfl, rfl⟩

/-- The future of `shutdown_drain_timeout`.  It captures the residual when it
is created and starts its sleep when it is first polled. -/
structure DrainTimer where
  residual : Nat
  deadline : Option Instant
deriving Repr, DecidableEq

def shutdownDrainTimeout (residual : Nat) : DrainTimer :=
  { residual := residual, deadline := none }

/-- Poll the timer: it is pending, with its sleep started, or it yields its
outcome. -/
def DrainTimer.poll (timer : DrainTimer) (now : Instant) :
    DrainTimer ⊕ TriggerDrainOutcome :=
  match timer.deadline with
  | none =>
    .inl
      { timer with deadline := some (now + defaultTriggerShutdownDrainTimeout) }
  | some deadline =>
    if deadline ≤ now then
      .inr
        { completed := 0, failed := 0, timedOut := true, residual := timer.residual }
    else .inl timer

/-- A timer that was polled and is pending has started its sleep. -/
theorem DrainTimer.armed_of_poll {timer after : DrainTimer} {now : Instant}
    (polled : timer.poll now = .inl after) : after.deadline.isSome := by
  unfold DrainTimer.poll at polled
  split at polled
  · cases polled
    rfl
  · rename_i deadline armed
    split at polled
    · cases polled
    · cases polled
      rw [armed]
      rfl

/-- Polling does not change the residual a pending timer captured. -/
theorem DrainTimer.residual_of_poll {timer after : DrainTimer} {now : Instant}
    (polled : timer.poll now = .inl after) : after.residual = timer.residual := by
  unfold DrainTimer.poll at polled
  split at polled
  · cases polled
    rfl
  · split at polled
    · cases polled
    · cases polled
      rfl

/-- What the timer yields is the residual it captured. -/
theorem DrainTimer.outcome_of_poll {timer : DrainTimer} {now : Instant}
    {outcome : TriggerDrainOutcome} (polled : timer.poll now = .inr outcome) :
    outcome.timedOut = true ∧ outcome.residual = timer.residual := by
  unfold DrainTimer.poll at polled
  split at polled
  · cases polled
  · split at polled
    · cases polled
      exact ⟨rfl, rfl⟩
    · cases polled

end ServiceDaemon
