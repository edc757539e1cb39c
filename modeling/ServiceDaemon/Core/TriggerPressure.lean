/-
Purpose: The pressure snapshot of a trigger: a call that reads the limit, the
  semaphore and the counters of a running generation one after the other.
Main exports: TriggerPressureSnapshot, PressurePoint, PressurePoint.proceed
-/
import ServiceDaemon.Core.EventLoop

namespace ServiceDaemon

/-!
The record of a trigger shares the semaphore and the limit with the runner and
the overlay record.  `pressure_snapshot` takes no lock that the others take, so
the runner, its tasks and its monitor go on between its reads.

[SRC core/runtime_facts.rs, models/runtime.rs]
-/

/-- `TriggerPressureSnapshot`, less the retry counter, the times and the
streaming counters. -/
structure TriggerPressureSnapshot where
  serviceId : ServiceId
  serviceName : String
  generation : Nat
  /-- currently running handler dispatches -/
  inFlight : Nat
  currentLimit : Nat
  availablePermits : Nat
  dispatchedTotal : UInt64
  completedTotal : UInt64
  failedTotal : UInt64
  lastError : Option TriggerDispatchFailure
deriving Repr, DecidableEq

/-- Where a call of `pressure_snapshot` stands. -/
inductive PressurePoint where
  /-- before `current_limit.load` -/
  | loadLimit
  /-- before `semaphore.available_permits` -/
  | readPermits (currentLimit : Nat)
  /-- before the timeline and the counters are read -/
  | readFacts (currentLimit availablePermits : Nat)
  | returned (snapshot : TriggerPressureSnapshot)
deriving Repr, DecidableEq

namespace PressurePoint

variable {Payload : Type}

/-- The next read of the call.  The difference is a `saturating_sub`. -/
def proceed (config : RunnerConfig) (runner : RunnerState Payload) :
    PressurePoint → Option PressurePoint
  | .loadLimit => some (.readPermits runner.shared.currentLimit)
  | .readPermits currentLimit =>
    some (.readFacts currentLimit runner.shared.semaphore.availablePermits)
  | .readFacts currentLimit availablePermits =>
    some <| .returned
      { serviceId := config.serviceId
        serviceName := config.name
        generation := config.generation
        inFlight := currentLimit - availablePermits
        currentLimit := currentLimit
        availablePermits := availablePermits
        dispatchedTotal := runner.facts.dispatchedTotal
        completedTotal := runner.facts.completedTotal
        failedTotal := runner.facts.failedTotal
        lastError := runner.facts.lastError }
  | .returned _ => none

/-- The call has read the limit and not the semaphore. -/
def between : PressurePoint → Bool
  | .readPermits _ => true
  | _ => false

/-- The call has not returned. -/
def running : PressurePoint → Bool
  | .returned _ => false
  | _ => true

end PressurePoint

end ServiceDaemon
