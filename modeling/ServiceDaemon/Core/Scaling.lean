/-
Purpose: The scale monitor of a trigger runner: the targets it computes from a
  sample of the semaphore, and one tick, as the atomic steps it consists of and
  as one uninterrupted call.
Main exports: scaleDownTarget, scaleUpTarget, monitorStep, monitorTick
-/
import ServiceDaemon.Core.PolicyOverlay

namespace ServiceDaemon

/-!
A tick samples the limit and the idle permits in two separate reads, computes a
target from the sample, and only then resizes.  By the time it resizes, the
sample can be stale.  Inside a daemon the resize goes through the overlay
record; a runner outside a daemon has no record and resizes the semaphore
directly.

[SRC core/trigger_runner/scaling.rs]
-/

/-- The largest `u128`. -/
def u128Max : Nat := 2 ^ 128 - 1

/-- `pressure_limit_for`, computed in `u128`. -/
def pressureLimitFor (limit threshold : Nat) : Nat :=
  let numerator := min (limit * threshold) u128Max
  let denominator := min (threshold + 1) u128Max
  min (numerator / denominator) usizeMax

def nextScaledLimit (limit : Nat) (scaling : ScalingPolicy) : Nat :=
  min (min (limit * scaling.scaleFactor) usizeMax) scaling.maxConcurrency

/-- `scale_down_target`.  The second component is the idle timer afterwards. -/
def scaleDownTarget (scaling : ScalingPolicy) (limit effectiveMax : Nat)
    (idleSince : Option Instant) (now : Instant) : Nat × Option Instant :=
  match idleSince with
  | none => (max (min limit effectiveMax) 1, none)
  | some since =>
    let initial := max (min scaling.initialConcurrency effectiveMax) 1
    if now - since < scaling.scaleCooldown ∨ limit ≤ initial then
      (max (min limit effectiveMax) 1, some since)
    else (initial, none)

def scaleUpTarget (scaling : ScalingPolicy) (limit inFlight effectiveMax : Nat) : Nat :=
  let maxConcurrency := max (min scaling.maxConcurrency effectiveMax) 1
  if maxConcurrency ≤ limit then max (min limit maxConcurrency) 1
  else if inFlight < pressureLimitFor limit scaling.scaleThreshold then
    max (min limit maxConcurrency) 1
  else min (nextScaledLimit limit scaling) maxConcurrency

/-- Where the scale monitor stands.  `idleSince` is the variable of the same
name; `absent` is the pending future of a runner without a scaling policy, and
`ended` is a monitor task that is over, with the text of its join error. -/
inductive MonitorPoint where
  | absent
  | sleeping (idleSince : Option Instant) (wakeAt : Instant)
  | readAvailable (idleSince : Option Instant) (limit : Nat)
  | lookupOverlay (idleSince : Option Instant) (limit inFlight : Nat)
  | pruneOverlay (idleSince : Option Instant) (limit inFlight : Nat)
  | readOverlay (idleSince : Option Instant) (limit inFlight : Nat)
  | sampled (idleSince : Option Instant) (limit inFlight effectiveMax : Nat)
  | scaleDown (idleSince : Option Instant) (limit effectiveMax : Nat)
  | reconciling (idleSince : Option Instant) (point : ReconcilePoint)
  | resizing (idleSince : Option Instant) (point : ResizePoint)
  | ended (joinError : String)
deriving Repr, DecidableEq

/-- The monitor sleeps one second between ticks. -/
def monitorInterval : Duration := fromSecs 1

/-- Back to the head of the monitor loop. -/
def MonitorPoint.sleepFrom (now : Instant) (idleSince : Option Instant) :
    MonitorPoint :=
  .sleeping idleSince (now + monitorInterval)

/-- After the idle branch computed its target: reconcile through the record, or
`try_scale_down` without one. -/
def MonitorPoint.afterScaleDown (inDaemon : Bool) (now : Instant)
    (limit target : Nat) (idleSince : Option Instant) : MonitorPoint :=
  if inDaemon then .reconciling idleSince (.lookup target)
  else if limit ≤ target then .sleepFrom now idleSince
  else .resizing none (.revoke limit (limit - target) 0)

/-- After the busy branch computed its target: reconcile through the record, or
`try_scale_up` without one. -/
def MonitorPoint.afterScaleUp (inDaemon : Bool) (now : Instant)
    (limit target : Nat) : MonitorPoint :=
  if inDaemon then .reconciling none (.lookup target)
  else if target ≤ limit then .sleepFrom now none
  else .resizing none (.addPermits limit target)

/-- One step of the scale monitor. -/
def monitorStep (base : TriggerBasePolicy) (scaling : ScalingPolicy)
    (inDaemon : Bool) (shared : ConcurrencyState) :
    MonitorPoint → Option (ConcurrencyState × MonitorPoint)
  | .absent => none
  | .sleeping idleSince wakeAt =>
    if wakeAt ≤ shared.now then
      some (shared, .readAvailable idleSince shared.currentLimit)
    else none
  | .readAvailable idleSince limit =>
    let inFlight := limit - shared.semaphore.availablePermits
    if inDaemon then some (shared, .lookupOverlay idleSince limit inFlight)
    else
      some (shared, .sampled idleSince limit inFlight scaling.maxConcurrency)
  -- `effective_concurrency_limit`: look the record up, prune it, read it.
  | .lookupOverlay idleSince limit inFlight =>
    if shared.registered then
      some (shared, .pruneOverlay idleSince limit inFlight)
    else
      some (shared, .sampled idleSince limit inFlight scaling.maxConcurrency)
  | .pruneOverlay idleSince limit inFlight =>
    some
      ({ shared with overlay := shared.overlay.pruneExpiredOverlay shared.now },
        .readOverlay idleSince limit inFlight)
  | .readOverlay idleSince limit inFlight =>
    some (shared, .sampled idleSince limit inFlight
        (shared.overlay.activeConcurrencyLimit.getD scaling.maxConcurrency))
  | .sampled idleSince limit inFlight effectiveMax =>
    if inFlight = 0 then
      some (shared, .scaleDown (some (idleSince.getD shared.now)) limit effectiveMax)
    else
      some (shared, .afterScaleUp inDaemon shared.now limit
          (scaleUpTarget scaling limit inFlight effectiveMax))
  | .scaleDown idleSince limit effectiveMax =>
    let (target, idleSince) :=
      scaleDownTarget scaling limit effectiveMax idleSince shared.now
    some (shared, .afterScaleDown inDaemon shared.now limit target idleSince)
  | .reconciling idleSince (.finished _) =>
    some (shared, .sleepFrom shared.now idleSince)
  | .reconciling idleSince point =>
    (reconcileStep base .monitor shared point).map fun (next, after) =>
      (next, .reconciling idleSince after)
  | .resizing idleSince (.finished _) =>
    some (shared, .sleepFrom shared.now idleSince)
  | .resizing idleSince point =>
    (resizeStep shared point).map fun (next, after) =>
      (next, .resizing idleSince after)
  | .ended _ => none

/-! ### A tick as one uninterrupted call -/

def effectiveConcurrencyLimit (shared : ConcurrencyState) (fallback : Nat) :
    ConcurrencyState × Nat :=
  if shared.registered then
    let overlay := shared.overlay.pruneExpiredOverlay shared.now
    ({ shared with overlay := overlay }, overlay.activeConcurrencyLimit.getD fallback)
  else (shared, fallback)

def tryScaleDown (scaling : ScalingPolicy) (shared : ConcurrencyState)
    (limit effectiveMax : Nat) (idleSince : Option Instant) :
    ConcurrencyState × Option Instant :=
  let (target, idleSince) :=
    scaleDownTarget scaling limit effectiveMax idleSince shared.now
  if limit ≤ target then (shared, idleSince)
  else
    let (semaphore, revoked) :=
      revokePermits shared.semaphore (limit - target)
    ({ shared with semaphore := semaphore, currentLimit := limit - revoked }, none)

def tryScaleUp (scaling : ScalingPolicy) (shared : ConcurrencyState)
    (limit inFlight effectiveMax : Nat) : ConcurrencyState :=
  let newLimit := scaleUpTarget scaling limit inFlight effectiveMax
  if newLimit ≤ limit then shared
  else
    { shared with
      semaphore := shared.semaphore.addPermits (newLimit - limit)
      currentLimit := newLimit }

/-- The dispatches in flight, as the monitor samples them. -/
def ConcurrencyState.sampledInFlight (shared : ConcurrencyState) : Nat :=
  shared.currentLimit - shared.semaphore.availablePermits

/-- The `effective_max` of a tick; pruning may change the record. -/
def sampleMax (scaling : ScalingPolicy) (inDaemon : Bool)
    (shared : ConcurrencyState) : ConcurrencyState × Nat :=
  if inDaemon then effectiveConcurrencyLimit shared scaling.maxConcurrency
  else (shared, scaling.maxConcurrency)

/-- The body of the monitor's loop, after its sleep. -/
def monitorTick (base : TriggerBasePolicy) (scaling : ScalingPolicy) (inDaemon : Bool)
    (shared : ConcurrencyState) (idleSince : Option Instant) : ConcurrencyState × Option Instant :=
  let limit := shared.currentLimit
  let inFlight := shared.sampledInFlight
  let (shared, effectiveMax) := sampleMax scaling inDaemon shared
  if inFlight = 0 then
    let idleSince := some (idleSince.getD shared.now)
    if inDaemon then
      let (target, idleSince) :=
        scaleDownTarget scaling limit effectiveMax idleSince shared.now
      ((reconcileEffectiveConcurrency base shared target).1, idleSince)
    else tryScaleDown scaling shared limit effectiveMax idleSince
  else if inDaemon then
    let target := scaleUpTarget scaling limit inFlight effectiveMax
    ((reconcileEffectiveConcurrency base shared target).1, none)
  else (tryScaleUp scaling shared limit inFlight effectiveMax, none)

end ServiceDaemon
