/-
Purpose: The data of a service's lifecycle: statuses, the lifecycle counters of a
  generation, the runtime facts of a service, and the two controllers of its
  restarts, the backoff and the storm guard.
Main exports: ServiceStatus, LifecycleStats, ServiceRuntimeState
-/
import ServiceDaemon.Models.Policy

namespace ServiceDaemon

/-!
[SRC models/service.rs, models/policy.rs]
[SRC core/diagnostics.rs, core/runtime_facts.rs]
-/

inductive ServiceStatus where
  | initializing
  | restoring
  | recovering (message : String)
  | healthy
  | needReload
  | shuttingDown
  | terminated
deriving Repr, DecidableEq

inductive ServiceScheduling where
  | standard
  | highPriority
  | isolated
deriving Repr, DecidableEq

/-! ### Lifecycle counters -/

inductive GenerationExitKind where
  | normalExit
  | recoverableError
  | panic
  | fatalServiceError
  | providerInitError
  | reload
  | shutdown
  | isolatedStartupFailure
deriving Repr, DecidableEq

/-- `RestartDecisionKind` of the diagnostics. -/
inductive RestartDecisionKind where
  | immediate
  | backoffRecoverableError
  | backoffPanic
  | backoffIsolatedStartupFailure
  | backoffInternalSupervisorError
deriving Repr, DecidableEq

def RestartDecisionKind.usesBackoff : RestartDecisionKind → Bool
  | .immediate => false
  | _ => true

def durationMillis (duration : Duration) : Nat :=
  min (duration / 1000000) u64Max

/-- `LifecycleStats` of one generation. -/
structure LifecycleStats where
  reloadRequested : UInt64
  reloadExit : UInt64
  restart : UInt64
  backoffRestart : UInt64
  rateLimitedRestart : UInt64
  terminated : UInt64
  normalExit : UInt64
  recoverableError : UInt64
  panic : UInt64
  fatalServiceError : UInt64
  providerInitError : UInt64
  shutdown : UInt64
  isolatedStartupFailure : UInt64
  lastPolicyDelayMs : Nat
  lastEffectiveRestartDelayMs : Nat
  lastExitKind : Option GenerationExitKind
  lastRestartDecision : Option RestartDecisionKind
deriving Repr, DecidableEq

namespace LifecycleStats

def new : LifecycleStats :=
  { reloadRequested := 0
    reloadExit := 0
    restart := 0
    backoffRestart := 0
    rateLimitedRestart := 0
    terminated := 0
    normalExit := 0
    recoverableError := 0
    panic := 0
    fatalServiceError := 0
    providerInitError := 0
    shutdown := 0
    isolatedStartupFailure := 0
    lastPolicyDelayMs := 0
    lastEffectiveRestartDelayMs := 0
    lastExitKind := none
    lastRestartDecision := none }

def recordReloadRequested (stats : LifecycleStats) : LifecycleStats :=
  { stats with reloadRequested := stats.reloadRequested + 1 }

def recordRestart (stats : LifecycleStats) (decision : RestartDecisionKind)
    (policyDelay effectiveDelay : Duration) (rateLimited : Bool) :
    LifecycleStats :=
  { stats with
    restart := stats.restart + 1
    backoffRestart :=
      if decision.usesBackoff then stats.backoffRestart + 1
      else stats.backoffRestart
    rateLimitedRestart :=
      if rateLimited then stats.rateLimitedRestart + 1
      else stats.rateLimitedRestart
    lastPolicyDelayMs := durationMillis policyDelay
    lastEffectiveRestartDelayMs := durationMillis effectiveDelay
    lastRestartDecision := some decision }

def recordTerminated (stats : LifecycleStats) : LifecycleStats :=
  { stats with terminated := stats.terminated + 1 }

/-- The counter of an exit kind. -/
def exitCount (stats : LifecycleStats) : GenerationExitKind → UInt64
  | .normalExit => stats.normalExit
  | .recoverableError => stats.recoverableError
  | .panic => stats.panic
  | .fatalServiceError => stats.fatalServiceError
  | .providerInitError => stats.providerInitError
  | .reload => stats.reloadExit
  | .shutdown => stats.shutdown
  | .isolatedStartupFailure => stats.isolatedStartupFailure

def recordExit (stats : LifecycleStats) (kind : GenerationExitKind) :
    LifecycleStats :=
  let counted :=
    match kind with
    | .normalExit => { stats with normalExit := stats.normalExit + 1 }
    | .recoverableError =>
      { stats with recoverableError := stats.recoverableError + 1 }
    | .panic => { stats with panic := stats.panic + 1 }
    | .fatalServiceError =>
      { stats with fatalServiceError := stats.fatalServiceError + 1 }
    | .providerInitError =>
      { stats with providerInitError := stats.providerInitError + 1 }
    | .reload => { stats with reloadExit := stats.reloadExit + 1 }
    | .shutdown => { stats with shutdown := stats.shutdown + 1 }
    | .isolatedStartupFailure =>
      { stats with isolatedStartupFailure := stats.isolatedStartupFailure + 1 }
  { counted with lastExitKind := some kind }

end LifecycleStats

/-! ### Runtime facts -/

structure ServiceRuntimeState where
  generation : Nat
  restartCount : Nat
  lastStartedAt : Option Instant
  lastStoppedAt : Option Instant
  lastError : Option String
  currentBackoff : Option Duration
  healthySince : Option Instant
deriving Repr, DecidableEq

namespace ServiceRuntimeState

def default : ServiceRuntimeState :=
  { generation := 0
    restartCount := 0
    lastStartedAt := none
    lastStoppedAt := none
    lastError := none
    currentBackoff := none
    healthySince := none }

def recordStatusFacts (state : ServiceRuntimeState) (now : Instant) :
    ServiceStatus → ServiceRuntimeState
  | .healthy =>
    { state with healthySince := some (state.healthySince.getD now), currentBackoff := none }
  | .recovering message =>
    { state with healthySince := none, lastError := some message, lastStoppedAt := some now }
  | .terminated =>
    { state with healthySince := none, lastStoppedAt := some now, currentBackoff := none }
  | .initializing | .restoring =>
    { state with healthySince := none, currentBackoff := none }
  | .needReload => { state with healthySince := none }
  | .shuttingDown =>
    { state with healthySince := none, lastStoppedAt := some (state.lastStoppedAt.getD now) }

def recordServiceStarted (state : ServiceRuntimeState) (now : Instant)
    (generation : Nat) (status : ServiceStatus) : ServiceRuntimeState :=
  recordStatusFacts
    { state with
      generation := generation
      lastStartedAt := some now
      currentBackoff := none
      healthySince := none }
    now status

def recordServiceRestart (state : ServiceRuntimeState)
    (backoff : Option Duration) : ServiceRuntimeState :=
  { state with restartCount := saturatingSucc state.restartCount, currentBackoff := backoff }

@[simp] theorem recordStatusFacts_restartCount (s : ServiceRuntimeState)
    (now : Instant) (status : ServiceStatus) :
    (s.recordStatusFacts now status).restartCount = s.restartCount := by
  cases status <;> rfl

end ServiceRuntimeState

/-! ### Backoff and storm guard -/

structure BackoffController where
  policy : RestartPolicy
  currentDelay : Duration
  attemptCount : Nat
deriving DecidableEq

/-- The largest `u32`. -/
def u32Max : Nat := 2 ^ 32 - 1

namespace BackoffController

def new (policy : RestartPolicy) : BackoffController :=
  { policy := policy, currentDelay := policy.initialDelay, attemptCount := 0 }

def recordSuccess (backoff : BackoffController) : BackoffController :=
  { backoff with currentDelay := backoff.policy.initialDelay, attemptCount := 0 }

/-- `record_failure`.  `next` is what `next_delay` returns; it is random within
the jitter of the policy. -/
def recordFailure (backoff : BackoffController) (next : Duration) :
    BackoffController :=
  { backoff with attemptCount := min (backoff.attemptCount + 1) u32Max, currentDelay := next }

def maybeReset (backoff : BackoffController) (elapsed : Duration) :
    BackoffController :=
  if backoff.policy.resetAfter ≤ elapsed then backoff.recordSuccess
  else backoff

end BackoffController

structure RestartStormConfig where
  window : Duration
  failureThreshold : Nat
  suppressionDelay : Duration
deriving Repr, DecidableEq

def RestartStormConfig.default : RestartStormConfig :=
  { window := fromSecs 20, failureThreshold := 6, suppressionDelay := fromSecs 30 }

structure RestartStormDecision where
  policyDelay : Duration
  effectiveDelay : Duration
  rateLimited : Bool
  windowFailures : Nat
deriving Repr, DecidableEq

structure RestartStormGuard where
  config : RestartStormConfig
  failures : List Instant
deriving Repr, DecidableEq

namespace RestartStormGuard

def new (config : RestartStormConfig) : RestartStormGuard :=
  { config := { config with failureThreshold := max config.failureThreshold 1 }, failures := [] }

def default : RestartStormGuard := new RestartStormConfig.default

/-- `prune`: drop failures from the front while they are older than the
window.  A failure later than `now` is not older. -/
def prune (guard : RestartStormGuard) (now : Instant) : RestartStormGuard :=
  { guard with
    failures :=
      guard.failures.dropWhile fun failure =>
        failure ≤ now ∧ guard.config.window < now - failure }

def recordFailure (guard : RestartStormGuard) (now : Instant)
    (policyDelay : Duration) : RestartStormGuard × RestartStormDecision :=
  let pruned := guard.prune now
  let failures := pruned.failures ++ [now]
  let stormDelay :=
    if guard.config.failureThreshold ≤ failures.length then
      guard.config.suppressionDelay
    else 0
  let effectiveDelay := max policyDelay stormDelay
  ({ pruned with failures := failures },
    { policyDelay := policyDelay
      effectiveDelay := effectiveDelay
      rateLimited := policyDelay < effectiveDelay
      windowFailures := failures.length })

def reset (guard : RestartStormGuard) : RestartStormGuard :=
  { guard with failures := [] }

def maybeReset (guard : RestartStormGuard) (elapsed resetAfter : Duration) :
    RestartStormGuard :=
  if resetAfter ≤ elapsed then guard.reset else guard

end RestartStormGuard

end ServiceDaemon
