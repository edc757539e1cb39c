/-
Purpose: How one service generation comes to its outcome, on a body lane or
  behind the isolated startup gate, and how the supervisor classifies it.
Main exports: ServiceGenerationOutcome, GenerationOrigin, GenerationFuture
-/
import ServiceDaemon.Core.Dispatch
import ServiceDaemon.Models.Lifecycle

namespace ServiceDaemon

/-!
The outcome of a generation is `Result<Result<(), Error>, Box<dyn Any>>`: a
panic, an `anyhow` error, or a return.  The supervisor asks an error for its
types by `downcast_ref`, which looks through the contexts of the error, so more
than one answer can be yes; the error is a record of these answers and of its
two texts.

[SRC runner/generation.rs, runner/supervisor.rs handle_outcome]
-/

/-! ### Outcomes -/

inductive IsolatedStartupFailureKind where
  | threadSpawn
  | runtimeBuild
  | bridgeClosed
  | startupGateCancelled
deriving Repr, DecidableEq

/-- The derived `Debug`. -/
def IsolatedStartupFailureKind.debug : IsolatedStartupFailureKind → String
  | .threadSpawn => "ThreadSpawn"
  | .runtimeBuild => "RuntimeBuild"
  | .bridgeClosed => "BridgeClosed"
  | .startupGateCancelled => "StartupGateCancelled"

/-- `anyhow::Error`, as far as the supervisor looks at it. -/
structure AnyError where
  /-- `downcast_ref` to `ServiceError` gives `Fatal` -/
  isFatal : Bool
  isProviderInit : Bool
  isolatedStartup : Option IsolatedStartupFailureKind
  triggerFailure : Option TriggerDispatchFailure
  display : String
  debug : String
deriving Repr, DecidableEq

def AnyError.msg (message : String) : AnyError :=
  { isFatal := false
    isProviderInit := false
    isolatedStartup := none
    triggerFailure := none
    display := message
    debug := message }

/-- A panic payload: `&str`, `String`, or anything else. -/
inductive PanicPayload where
  | str (message : String)
  | string (message : String)
  | other
deriving Repr, DecidableEq

def PanicPayload.message : PanicPayload → String
  | .str message | .string message => message
  | .other => "Unknown panic"

inductive ServiceGenerationOutcome where
  | returned
  | failed (error : AnyError)
  | panicked (payload : PanicPayload)
deriving Repr, DecidableEq

def isolatedGenerationError (name : String) (kind : IsolatedStartupFailureKind)
    (message : String) : ServiceGenerationOutcome :=
  let text :=
    "isolated service generation for '" ++ name ++ "' failed during " ++
      kind.debug ++ ": " ++ message
  .failed { AnyError.msg text with isolatedStartup := some kind }

/-- Where the result of a generation comes from.  The texts are those of the
errors of the runtime. -/
inductive GenerationOrigin where
  /-- the service function ended -/
  | body (outcome : ServiceGenerationOutcome)
  /-- the body task panicked outside of the service function -/
  | bodyTaskPanic (payload : PanicPayload)
  | bodyTaskLost (error : String)
  | gateClosed (error : String)
  | gateShutdown
  | gateReload
  | threadSpawn (error : String)
  | runtimeBuild (error : String)
  | bridgeClosed (error : String)
  /-- no generation future: the lane did not resolve -/
  | laneMissing
  /-- no generation future: `Running` without a value that `Starting` sets -/
  | runningWithout (missing : String)
deriving Repr, DecidableEq

def GenerationOrigin.outcome (name : String) :
    GenerationOrigin → ServiceGenerationOutcome
  | .body outcome => outcome
  | .bodyTaskPanic payload => .panicked payload
  | .bodyTaskLost error =>
    .failed <| .msg <|
      "service '" ++ name ++ "' body task ended before reporting outcome: " ++ error
  | .gateClosed error =>
    isolatedGenerationError name .startupGateCancelled
      ("isolated startup gate closed: " ++ error)
  | .gateShutdown =>
    isolatedGenerationError name .startupGateCancelled
      "shutdown while waiting for isolated startup permit"
  | .gateReload =>
    isolatedGenerationError name .startupGateCancelled
      "reload while waiting for isolated startup permit"
  | .threadSpawn error =>
    isolatedGenerationError name .threadSpawn
      ("failed to spawn thread 'svc-" ++ name ++ "': " ++ error)
  | .runtimeBuild error =>
    isolatedGenerationError name .runtimeBuild
      ("failed to create private tokio runtime: " ++ error)
  | .bridgeClosed error =>
    isolatedGenerationError name .bridgeClosed
      ("thread exited before reporting outcome: " ++ error)
  | .laneMissing =>
    .failed <| .msg <|
      "service '" ++ name ++ "' resolved to HighPriority without an available high-priority runtime"
  | .runningWithout missing =>
    .failed <| .msg <|
      "service '" ++ name ++ "' entered Running without " ++ missing

/-! ### The generation future -/

inductive BodyExecutionLane where
  | standard
  | highPriority
  | isolated
deriving Repr, DecidableEq

/-- `BodyExecutionLanes::resolve`; `highPriority` says whether that runtime
exists. -/
def ServiceScheduling.bodyLane (highPriority : Bool) :
    ServiceScheduling → Option BodyExecutionLane
  | .standard => some .standard
  | .highPriority => if highPriority then some .highPriority else none
  | .isolated => some .isolated

/-- `run_body_service_generation` and `run_isolated_service_generation`.
`ready` holds the result until the supervisor takes it; `early` says that the
service token was not cancelled when the result was produced. -/
inductive GenerationFuture where
  | body
  | startupPermit
  | spawning
  | building
  | isolatedBody
  /-- the outcome has crossed the bridge, the thread is being joined -/
  | joining (origin : GenerationOrigin)
  | ready (origin : GenerationOrigin) (early : Bool)
deriving Repr, DecidableEq

namespace GenerationFuture

def start : BodyExecutionLane → GenerationFuture
  | .standard | .highPriority => .body
  | .isolated => .startupPermit

/-- The service function is running. -/
def bodyRunning : GenerationFuture → Bool
  | .body | .isolatedBody => true
  | _ => false

end GenerationFuture

/-- What can happen to a generation future. -/
inductive GenerationEvent where
  | bodyEnds (outcome : ServiceGenerationOutcome)
  | bodyTaskPanics (payload : PanicPayload)
  | bodyTaskLost (error : String)
  | permitAcquired
  | gateCloses (error : String)
  | gateCancelled
  | gateReloaded
  | threadSpawned
  | threadSpawnFails (error : String)
  | runtimeBuilt
  | runtimeBuildFails (error : String)
  /-- the thread ends without sending an outcome -/
  | bridgeCloses (error : String)
  /-- joined, panicked, or timed out -/
  | joinEnds
deriving Repr, DecidableEq

/-- One event of the future, under the two tokens it watches. -/
def GenerationFuture.step (cancelled reloadCancelled : Bool) :
    GenerationFuture → GenerationEvent → Option GenerationFuture
  | .body, .bodyEnds outcome => some (.ready (.body outcome) (!cancelled))
  | .body, .bodyTaskPanics payload =>
    some (.ready (.bodyTaskPanic payload) (!cancelled))
  | .body, .bodyTaskLost error =>
    some (.ready (.bodyTaskLost error) (!cancelled))
  -- the `select!` at the startup gate
  | .startupPermit, .permitAcquired => some .spawning
  | .startupPermit, .gateCloses error =>
    some (.ready (.gateClosed error) (!cancelled))
  | .startupPermit, .gateCancelled =>
    if cancelled then some (.ready .gateShutdown false) else none
  | .startupPermit, .gateReloaded =>
    if reloadCancelled then some (.ready .gateReload (!cancelled)) else none
  | .spawning, .threadSpawned => some .building
  | .spawning, .threadSpawnFails error =>
    some (.ready (.threadSpawn error) (!cancelled))
  -- the isolated thread
  | .building, .runtimeBuilt => some .isolatedBody
  | .building, .runtimeBuildFails error => some (.joining (.runtimeBuild error))
  | .building, .bridgeCloses error => some (.joining (.bridgeClosed error))
  | .isolatedBody, .bodyEnds outcome => some (.joining (.body outcome))
  | .isolatedBody, .bridgeCloses error => some (.joining (.bridgeClosed error))
  | .joining origin, .joinEnds => some (.ready origin (!cancelled))
  | _, _ => none

/-! ### Classification -/

inductive GenerationResultKind where
  | normalExit
  | recoverableError
  | panic
  | fatalServiceError
  | providerInitError
  | reload
  | isolatedStartupFailure
deriving Repr, DecidableEq

def GenerationResultKind.diagnosticsExitKind :
    GenerationResultKind → GenerationExitKind
  | .normalExit => .normalExit
  | .recoverableError => .recoverableError
  | .panic => .panic
  | .fatalServiceError => .fatalServiceError
  | .providerInitError => .providerInitError
  | .reload => .reload
  | .isolatedStartupFailure => .isolatedStartupFailure

structure GenerationSignalFacts where
  reloadRequested : Bool
  shutdownRequested : Bool
deriving Repr, DecidableEq

inductive RestartFailureKind where
  | recoverableError
  | panic
  | isolatedStartupFailure
  | internalSupervisorError
deriving Repr, DecidableEq

inductive RestartDecision where
  | immediate
  | withBackoff (kind : RestartFailureKind)
deriving Repr, DecidableEq

def RestartDecision.diagnosticsKind : RestartDecision → RestartDecisionKind
  | .immediate => .immediate
  | .withBackoff .recoverableError => .backoffRecoverableError
  | .withBackoff .panic => .backoffPanic
  | .withBackoff .isolatedStartupFailure => .backoffIsolatedStartupFailure
  | .withBackoff .internalSupervisorError => .backoffInternalSupervisorError

structure GenerationExitRecord where
  nextStatus : ServiceStatus
  shouldRestart : Bool
  shouldShutdownDaemon : Bool
  restartDecision : RestartDecision
  result : GenerationResultKind
  signals : GenerationSignalFacts
deriving Repr, DecidableEq

def GenerationExitRecord.exitKind (record : GenerationExitRecord) :
    GenerationExitKind :=
  record.result.diagnosticsExitKind

/-- `TriggerDispatchFailureKind::as_str`, which is also its `Display`. -/
def TriggerDispatchFailureKind.asStr : TriggerDispatchFailureKind → String
  | .handlerRetryExhausted => "handler_retry_exhausted"
  | .dispatchTaskError => "dispatch_task_error"
  | .dispatchTaskPanic => "dispatch_task_panic"
  | .dispatchTaskCancelled => "dispatch_task_cancelled"
  | .dispatchPermitAcquireFailed => "dispatch_permit_acquire_failed"
  | .dispatchTimedOut => "dispatch_timed_out"
  | .scaleMonitorFailed => "scale_monitor_failed"

/-- The restart failure and the result of a trigger dispatch failure. -/
def TriggerDispatchFailureKind.restartFailure :
    TriggerDispatchFailureKind → RestartFailureKind × GenerationResultKind
  | .dispatchTaskPanic => (.panic, .panic)
  | .handlerRetryExhausted | .dispatchTaskError | .dispatchTaskCancelled
  | .dispatchPermitAcquireFailed | .dispatchTimedOut | .scaleMonitorFailed =>
    (.recoverableError, .recoverableError)

/-- The branch of `handle_outcome` for an error. -/
def handleError (signals : GenerationSignalFacts) (error : AnyError) :
    GenerationExitRecord :=
  if error.isFatal then
    { nextStatus := .terminated
      shouldRestart := false
      shouldShutdownDaemon := false
      restartDecision := .immediate
      result := .fatalServiceError
      signals := signals }
  else if error.isProviderInit then
    { nextStatus := .terminated
      shouldRestart := false
      shouldShutdownDaemon := true
      restartDecision := .immediate
      result := .providerInitError
      signals := signals }
  else if error.isolatedStartup.isSome then
    { nextStatus := .recovering error.debug
      shouldRestart := true
      shouldShutdownDaemon := false
      restartDecision := .withBackoff .isolatedStartupFailure
      result := .isolatedStartupFailure
      signals := signals }
  else
    match error.triggerFailure with
    | some failure =>
      { nextStatus :=
          .recovering
            ("Trigger '" ++ failure.triggerName ++ "' dispatch failure (" ++
              failure.kind.asStr ++ "): " ++ error.display)
        shouldRestart := true
        shouldShutdownDaemon := false
        restartDecision := .withBackoff failure.kind.restartFailure.1
        result := failure.kind.restartFailure.2
        signals := signals }
    | none =>
      { nextStatus := .recovering error.debug
        shouldRestart := true
        shouldShutdownDaemon := false
        restartDecision := .withBackoff .recoverableError
        result := .recoverableError
        signals := signals }

/-- `handle_outcome`, less the cancellation of the daemon token, which the
supervisor performs when `shouldShutdownDaemon` is set. -/
def handleOutcome (signals : GenerationSignalFacts) :
    ServiceGenerationOutcome → GenerationExitRecord
  | .returned =>
    { nextStatus :=
        if signals.reloadRequested then .restoring else .initializing
      shouldRestart := true
      shouldShutdownDaemon := false
      restartDecision := .immediate
      result := if signals.reloadRequested then .reload else .normalExit
      signals := signals }
  | .failed error => handleError signals error
  | .panicked payload =>
    { nextStatus := .recovering ("Panic: " ++ payload.message)
      shouldRestart := true
      shouldShutdownDaemon := false
      restartDecision := .withBackoff .panic
      result := .panic
      signals := signals }

/-! ### What the classification says -/

/-- The exit kind a failed result stands for, whatever signals arrived: what a
generation that ended so is to be remembered for. -/
def failureKind : ServiceGenerationOutcome → Option GenerationExitKind
  | .returned => none
  | .panicked _ => some .panic
  | .failed error =>
    if error.isFatal then some .fatalServiceError
    else if error.isProviderInit then some .providerInitError
    else if error.isolatedStartup.isSome then some .isolatedStartupFailure
    else if error.triggerFailure.any (·.kind == .dispatchTaskPanic) then
      some .panic
    else some .recoverableError

/-- The kinds after which no generation follows. -/
def GenerationExitKind.isFinal : GenerationExitKind → Bool
  | .fatalServiceError | .providerInitError | .shutdown => true
  | _ => false

/-- An error is recorded under its kind, and restarts unless the kind is final,
whatever the signals are. -/
theorem handleError_spec (signals : GenerationSignalFacts) (error : AnyError) :
    failureKind (.failed error) = some (handleError signals error).exitKind ∧
      (handleError signals error).shouldRestart =
        !(handleError signals error).exitKind.isFinal := by
  -- the branches in the order in which the source asks
  simp only [failureKind, handleError]
  split
  · exact ⟨rfl, rfl⟩
  · split
    · exact ⟨rfl, rfl⟩
    · split
      · exact ⟨rfl, rfl⟩
      · cases error.triggerFailure with
        | none => exact ⟨rfl, rfl⟩
        | some failure =>
          rcases failure with ⟨kind, _, _, _, _, _⟩
          cases kind <;> exact ⟨rfl, rfl⟩

/-- An error ends the service, or the service recovers from it after a backoff. -/
theorem handleError_ends_or_recovers (signals : GenerationSignalFacts) (error : AnyError) :
    ((handleError signals error).shouldRestart = false ∧
        (handleError signals error).restartDecision = .immediate) ∨
      ∃ kind message,
        (handleError signals error).restartDecision = .withBackoff kind ∧
          (handleError signals error).nextStatus = .recovering message := by
  simp only [handleError]
  split
  · exact .inl ⟨rfl, rfl⟩
  · split
    · exact .inl ⟨rfl, rfl⟩
    · refine .inr ?_
      split
      · exact ⟨_, _, rfl, rfl⟩
      · split <;> exact ⟨_, _, rfl, rfl⟩

/-- The signals do not change the kind of a failure. -/
theorem handleOutcome_exitKind (signals : GenerationSignalFacts)
    (failed : failureKind outcome = some kind) :
    (handleOutcome signals outcome).exitKind = kind := by
  cases outcome with
  | returned => cases failed
  | panicked payload =>
    cases failed
    rfl
  | failed error =>
    rw [(handleError_spec signals error).1] at failed
    exact Option.some.inj failed

/-- The classification asks for a restart exactly when its kind is not final. -/
theorem handleOutcome_shouldRestart (signals : GenerationSignalFacts)
    (outcome : ServiceGenerationOutcome) :
    (handleOutcome signals outcome).shouldRestart =
      !(handleOutcome signals outcome).exitKind.isFinal := by
  cases outcome with
  | returned => rcases signals with ⟨_ | _, _⟩ <;> rfl
  | panicked payload => rfl
  | failed error => exact (handleError_spec signals error).2

/-- Only a reload request makes a reload exit. -/
theorem handleOutcome_reload (reload : (handleOutcome signals outcome).exitKind = .reload) :
    signals.reloadRequested = true := by
  cases outcome with
  | returned =>
    cases requested : signals.reloadRequested with
    | true => rfl
    | false =>
      simp [handleOutcome, GenerationExitRecord.exitKind, requested,
        GenerationResultKind.diagnosticsExitKind] at reload
  | panicked payload => cases reload
  | failed error =>
    have kind := (handleError_spec signals error).1
    simp only [handleOutcome] at reload
    rw [reload, failureKind] at kind
    split_ifs at kind <;> cases kind

end ServiceDaemon
