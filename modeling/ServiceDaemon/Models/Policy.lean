/-
Purpose: The policy values of the runtime: restart policies, scaling policies
  with their validation, and temporary trigger policy overlays with theirs.
Main exports: F64, RestartPolicy, RestartPolicyBuilder
-/
import Mathlib

namespace ServiceDaemon

/-!
The fields of `ScalingPolicy` and `TriggerPolicyOverlay` are private in the
source, so every value of these types comes from a constructor that checks
them.  `ScalingPolicy` carries what its constructors establish as fields of the
structure.  An overlay is checked a second time when it is requested, so the
overlay stays a plain record here and `validateShape` is a function on it.

[SRC models/policy.rs]
-/

/-- A `std::time::Duration`, in nanoseconds. -/
abbrev Duration := Nat

/-- A `std::time::Instant`, in nanoseconds since an arbitrary origin. -/
abbrev Instant := Nat

def fromSecs (seconds : Nat) : Duration := seconds * 1000000000

/-- The largest `usize` of a 64-bit target. -/
def usizeMax : Nat := 2 ^ 64 - 1

/-- The largest `u64`. -/
def u64Max : Nat := 2 ^ 64 - 1

/-- `saturating_add(1)` on a `u64`. -/
def saturatingSucc (counter : Nat) : Nat := min (counter + 1) u64Max

/-- A machine word. -/
abbrev Usize := Fin (2 ^ 64)

instance Usize.neZero : NeZero (2 ^ 64) := ⟨by decide⟩

/-- A service priority is a byte. -/
instance Priority.neZero : NeZero 256 := ⟨by decide⟩

theorem Usize.le_max (word : Usize) : word.val ≤ usizeMax :=
  Nat.le_sub_one_of_lt word.isLt

/-- An `f64`.  Every finite double is a dyadic rational. -/
inductive F64 where
  | nan
  | infinite (negative : Bool)
  | finite (value : Dyadic)
deriving DecidableEq

def F64.isFinite : F64 → Bool
  | .finite _ => true
  | _ => false

/-- `x <= 0.0`; comparisons with NaN are false. -/
def F64.nonpos : F64 → Bool
  | .nan => false
  | .infinite negative => negative
  | .finite value => decide (value ≤ 0)

/-- `(0.0..=1.0).contains(&x)`. -/
def F64.inUnitInterval : F64 → Bool
  | .finite value => decide (0 ≤ value) && decide (value ≤ 1)
  | _ => false

/-! ### Restart policies -/

/-- Retry and restart configuration. -/
structure RestartPolicy where
  initialDelay : Duration
  maxDelay : Duration
  multiplier : F64
  resetAfter : Duration
  jitterFactor : F64
  waveSpawnTimeout : Duration
  providerInitTimeout : Duration
  waveStopTimeout : Duration
  triggerMaxRetries : Option Nat
deriving DecidableEq

/-- `RestartPolicy::default()`.  The jitter is the double nearest to 0.1. -/
def RestartPolicy.default : RestartPolicy :=
  { initialDelay := fromSecs 1
    maxDelay := fromSecs 300
    multiplier := .finite 2
    resetAfter := fromSecs 60
    jitterFactor := .finite (.ofOdd 3602879701896397 55 (by decide))
    waveSpawnTimeout := fromSecs 5
    providerInitTimeout := fromSecs 5
    waveStopTimeout := fromSecs 30
    triggerMaxRetries := none }

def RestartPolicy.sanitizedMultiplier (multiplier : F64) : F64 :=
  if multiplier.isFinite && !multiplier.nonpos then multiplier else .finite 1

def RestartPolicy.sanitizedJitterFactor : F64 → F64
  | .finite value =>
    if value < 0 then .finite 0
    else if 1 < value then .finite 1
    else .finite value
  | _ => .finite 0

/-- `RestartPolicyBuilder`.  The setters clean the two factors and take every
duration as it is. -/
structure RestartPolicyBuilder where
  policy : RestartPolicy

def RestartPolicy.builder : RestartPolicyBuilder :=
  { policy := .default }

namespace RestartPolicyBuilder

def initialDelay (builder : RestartPolicyBuilder) (delay : Duration) :
    RestartPolicyBuilder :=
  { policy := { builder.policy with initialDelay := delay } }

def maxDelay (builder : RestartPolicyBuilder) (delay : Duration) :
    RestartPolicyBuilder :=
  { policy := { builder.policy with maxDelay := delay } }

def multiplier (builder : RestartPolicyBuilder) (multiplier : F64) :
    RestartPolicyBuilder :=
  { policy := { builder.policy with multiplier := RestartPolicy.sanitizedMultiplier multiplier } }

def resetAfter (builder : RestartPolicyBuilder) (duration : Duration) :
    RestartPolicyBuilder :=
  { policy := { builder.policy with resetAfter := duration } }

def jitterFactor (builder : RestartPolicyBuilder) (factor : F64) :
    RestartPolicyBuilder :=
  { policy := { builder.policy with jitterFactor := RestartPolicy.sanitizedJitterFactor factor } }

def waveSpawnTimeout (builder : RestartPolicyBuilder) (timeout : Duration) :
    RestartPolicyBuilder :=
  { policy := { builder.policy with waveSpawnTimeout := timeout } }

def providerInitTimeout (builder : RestartPolicyBuilder)
    (timeout : Duration) : RestartPolicyBuilder :=
  { policy := { builder.policy with providerInitTimeout := timeout } }

def waveStopTimeout (builder : RestartPolicyBuilder) (timeout : Duration) :
    RestartPolicyBuilder :=
  { policy := { builder.policy with waveStopTimeout := timeout } }

def triggerMaxRetries (builder : RestartPolicyBuilder) (count : Nat) :
    RestartPolicyBuilder :=
  { policy := { builder.policy with triggerMaxRetries := some count } }

def build (builder : RestartPolicyBuilder) : RestartPolicy :=
  builder.policy

end RestartPolicyBuilder

/-! ### Scaling policies -/

/-- Elastic-scaling configuration of a trigger. -/
structure ScalingPolicy where
  initialConcurrency : Nat
  maxConcurrency : Nat
  scaleFactor : Nat
  scaleThreshold : Nat
  scaleCooldown : Duration
  initial_pos : 1 ≤ initialConcurrency
  initial_le_max : initialConcurrency ≤ maxConcurrency
  factor_ge_two : 2 ≤ scaleFactor
  threshold_pos : 1 ≤ scaleThreshold
  max_fits : maxConcurrency ≤ usizeMax
deriving DecidableEq

theorem ScalingPolicy.max_pos (pol : ScalingPolicy) :
    1 ≤ pol.maxConcurrency :=
  Nat.le_trans pol.initial_pos pol.initial_le_max

inductive ScalingPolicyError where
  | initialConcurrencyZero
  | maxConcurrencyZero
  | scaleFactorTooSmall (requested min : Nat)
  | scaleThresholdZero
  | initialConcurrencyExceedsMax (initial max : Nat)
deriving Repr, DecidableEq

/-- The `Display` text of the error. -/
def ScalingPolicyError.message : ScalingPolicyError → String
  | .initialConcurrencyZero => "initial_concurrency must be greater than zero"
  | .maxConcurrencyZero => "max_concurrency must be greater than zero"
  | .scaleFactorTooSmall requested min =>
    s!"scale_factor {requested} is below the minimum supported value {min}"
  | .scaleThresholdZero => "scale_threshold must be greater than zero"
  | .initialConcurrencyExceedsMax initial max =>
    s!"initial_concurrency {initial} exceeds max_concurrency {max}"

def ScalingPolicy.default : ScalingPolicy :=
  { initialConcurrency := 1
    maxConcurrency := 64
    scaleFactor := 2
    scaleThreshold := 5
    scaleCooldown := fromSecs 30
    initial_pos := by decide
    initial_le_max := by decide
    factor_ge_two := by decide
    threshold_pos := by decide
    max_fits := by decide }

/-- `ScalingPolicy::try_new`: the checks in the order the source makes them. -/
def ScalingPolicy.tryNew (initialConcurrency maxConcurrency scaleFactor
    scaleThreshold : Usize) (scaleCooldown : Duration) :
    Except ScalingPolicyError ScalingPolicy :=
  if initialZero : initialConcurrency.val = 0 then
    .error .initialConcurrencyZero
  else if maxConcurrency.val = 0 then .error .maxConcurrencyZero
  else if factorSmall : scaleFactor.val < 2 then
    .error (.scaleFactorTooSmall scaleFactor.val 2)
  else if thresholdZero : scaleThreshold.val = 0 then
    .error .scaleThresholdZero
  else if exceeds : maxConcurrency.val < initialConcurrency.val then
    .error
      (.initialConcurrencyExceedsMax initialConcurrency.val maxConcurrency.val)
  else
    .ok
      { initialConcurrency := initialConcurrency.val
        maxConcurrency := maxConcurrency.val
        scaleFactor := scaleFactor.val
        scaleThreshold := scaleThreshold.val
        scaleCooldown := scaleCooldown
        initial_pos := Nat.one_le_iff_ne_zero.mpr initialZero
        initial_le_max := Nat.le_of_not_lt exceeds
        factor_ge_two := Nat.le_of_not_lt factorSmall
        threshold_pos := Nat.one_le_iff_ne_zero.mpr thresholdZero
        max_fits := maxConcurrency.le_max }

/-- `ScalingPolicyBuilder`.  Each setter clamps its own field; only `build`
relates the initial concurrency to the maximum. -/
structure ScalingPolicyBuilder where
  initialConcurrency : Nat
  maxConcurrency : Nat
  scaleFactor : Nat
  scaleThreshold : Nat
  scaleCooldown : Duration
  initial_pos : 1 ≤ initialConcurrency
  max_pos : 1 ≤ maxConcurrency
  factor_ge_two : 2 ≤ scaleFactor
  threshold_pos : 1 ≤ scaleThreshold
  max_fits : maxConcurrency ≤ usizeMax

/-- `ScalingPolicy::builder()` starts from the default policy. -/
def ScalingPolicy.builder : ScalingPolicyBuilder :=
  { initialConcurrency := ScalingPolicy.default.initialConcurrency
    maxConcurrency := ScalingPolicy.default.maxConcurrency
    scaleFactor := ScalingPolicy.default.scaleFactor
    scaleThreshold := ScalingPolicy.default.scaleThreshold
    scaleCooldown := ScalingPolicy.default.scaleCooldown
    initial_pos := by decide
    max_pos := by decide
    factor_ge_two := by decide
    threshold_pos := by decide
    max_fits := by decide }

namespace ScalingPolicyBuilder

def withInitialConcurrency (builder : ScalingPolicyBuilder) (count : Usize) :
    ScalingPolicyBuilder :=
  { builder with initialConcurrency := max count.val 1, initial_pos := Nat.le_max_right _ _ }

def withMaxConcurrency (builder : ScalingPolicyBuilder) (count : Usize) :
    ScalingPolicyBuilder :=
  { builder with
    maxConcurrency := max count.val 1
    max_pos := Nat.le_max_right _ _
    max_fits := Nat.max_le.mpr ⟨count.le_max, by decide⟩ }

def withScaleFactor (builder : ScalingPolicyBuilder) (factor : Usize) :
    ScalingPolicyBuilder :=
  { builder with scaleFactor := max factor.val 2, factor_ge_two := Nat.le_max_right _ _ }

def withScaleThreshold (builder : ScalingPolicyBuilder) (threshold : Usize) :
    ScalingPolicyBuilder :=
  { builder with scaleThreshold := max threshold.val 1, threshold_pos := Nat.le_max_right _ _ }

def withScaleCooldown (builder : ScalingPolicyBuilder) (duration : Duration) :
    ScalingPolicyBuilder :=
  { builder with scaleCooldown := duration }

/-- `build` clamps the initial concurrency to the maximum instead of
failing. -/
def build (builder : ScalingPolicyBuilder) : ScalingPolicy :=
  { initialConcurrency :=
      min builder.initialConcurrency builder.maxConcurrency
    maxConcurrency := builder.maxConcurrency
    scaleFactor := builder.scaleFactor
    scaleThreshold := builder.scaleThreshold
    scaleCooldown := builder.scaleCooldown
    initial_pos := Nat.le_min.mpr ⟨builder.initial_pos, builder.max_pos⟩
    initial_le_max := Nat.min_le_right _ _
    factor_ge_two := builder.factor_ge_two
    threshold_pos := builder.threshold_pos
    max_fits := builder.max_fits }

end ScalingPolicyBuilder

/-! ### Trigger policy overlays -/

/-- A temporary overlay requested by a trigger handler. -/
structure TriggerPolicyOverlay where
  reason : String
  ttl : Duration
  concurrencyLimit : Option Nat
  dispatchTimeout : Option Duration
  retryPolicy : Option RestartPolicy
deriving DecidableEq

inductive TriggerPolicyOverlayError where
  | emptyReason
  | ttlIsZero
  | emptyOverlay
  | concurrencyLimitZero
  | concurrencyLimitExceedsMax (requested max : Nat)
  | dispatchTimeoutZero
  | invalidRetryMultiplier
  | invalidRetryJitter
  | triggerOverlayUnavailable
deriving Repr, DecidableEq

/-- The `Display` text of the error. -/
def TriggerPolicyOverlayError.message : TriggerPolicyOverlayError → String
  | .emptyReason => "trigger policy overlay reason must not be empty"
  | .ttlIsZero => "trigger policy overlay ttl must be greater than zero"
  | .emptyOverlay => "trigger policy overlay must set at least one field"
  | .concurrencyLimitZero =>
    "trigger policy overlay concurrency limit must be greater than zero"
  | .concurrencyLimitExceedsMax requested max =>
    s!"trigger policy overlay concurrency limit {requested} exceeds maximum {max}"
  | .dispatchTimeoutZero =>
    "trigger policy overlay dispatch timeout must be greater than zero"
  | .invalidRetryMultiplier =>
    "trigger policy overlay retry multiplier must be finite and positive"
  | .invalidRetryJitter =>
    "trigger policy overlay retry jitter factor must be finite and between 0.0 and 1.0"
  | .triggerOverlayUnavailable =>
    "trigger policy overlay is unavailable outside a registered trigger"

/-- The Unicode `White_Space` property, which `str::trim` strips. -/
def isWhiteSpace (character : Char) : Bool :=
  let code := character.toNat
  (9 ≤ code && code ≤ 13) || code == 32 || code == 133 || code == 160 ||
    code == 5760 || (8192 ≤ code && code ≤ 8202) || code == 8232 ||
    code == 8233 || code == 8239 || code == 8287 || code == 12288

/-- `reason.trim().is_empty()`: nothing but white space. -/
def validateReason (reason : String) : Except TriggerPolicyOverlayError Unit :=
  if reason.toList.all isWhiteSpace then .error .emptyReason else .ok ()

def validateOverlayClearReason (reason : String) :
    Except TriggerPolicyOverlayError Unit :=
  validateReason reason

def validateRetryPolicy (policy : RestartPolicy) :
    Except TriggerPolicyOverlayError Unit :=
  if !policy.multiplier.isFinite || policy.multiplier.nonpos then
    .error .invalidRetryMultiplier
  else if !policy.jitterFactor.isFinite ||
      !policy.jitterFactor.inUnitInterval then
    .error .invalidRetryJitter
  else .ok ()

namespace TriggerPolicyOverlay

/-- `validate_shape`: the checks in the order the source makes them. -/
def validateShape (overlay : TriggerPolicyOverlay) :
    Except TriggerPolicyOverlayError Unit := do
  validateReason overlay.reason
  if overlay.ttl = 0 then throw .ttlIsZero
  if overlay.concurrencyLimit.isNone && overlay.dispatchTimeout.isNone &&
      overlay.retryPolicy.isNone then
    throw .emptyOverlay
  if overlay.concurrencyLimit = some 0 then throw .concurrencyLimitZero
  if overlay.dispatchTimeout = some 0 then throw .dispatchTimeoutZero
  match overlay.retryPolicy with
  | some policy => validateRetryPolicy policy
  | none => pure ()

/-- An accepted overlay that limits concurrency asks for at least one
permit. -/
theorem limit_pos_of_validateShape {overlay : TriggerPolicyOverlay}
    {limit : Nat} (valid : overlay.validateShape = .ok ())
    (limited : overlay.concurrencyLimit = some limit) : 1 ≤ limit := by
  rcases Nat.eq_zero_or_pos limit with zero | positive
  · subst zero
    simp only [validateShape, limited, bind, Except.bind] at valid
    split at valid
    · cases valid
    · split at valid <;> simp_all [throw, throwThe, MonadExceptOf.throw]
  · exact positive

end TriggerPolicyOverlay

/-- `TriggerPolicyOverlayBuilder`: an overlay that has not been checked. -/
structure TriggerPolicyOverlayBuilder where
  overlay : TriggerPolicyOverlay

/-- `TriggerPolicyOverlay::builder(reason, ttl)`. -/
def TriggerPolicyOverlay.builder (reason : String) (ttl : Duration) :
    TriggerPolicyOverlayBuilder :=
  { overlay :=
      { reason := reason
        ttl := ttl
        concurrencyLimit := none
        dispatchTimeout := none
        retryPolicy := none } }

namespace TriggerPolicyOverlayBuilder

def concurrencyLimit (builder : TriggerPolicyOverlayBuilder) (limit : Nat) :
    TriggerPolicyOverlayBuilder :=
  { overlay := { builder.overlay with concurrencyLimit := some limit } }

def dispatchTimeout (builder : TriggerPolicyOverlayBuilder)
    (timeout : Duration) : TriggerPolicyOverlayBuilder :=
  { overlay := { builder.overlay with dispatchTimeout := some timeout } }

def retryPolicy (builder : TriggerPolicyOverlayBuilder)
    (policy : RestartPolicy) : TriggerPolicyOverlayBuilder :=
  { overlay := { builder.overlay with retryPolicy := some policy } }

def build (builder : TriggerPolicyOverlayBuilder) :
    Except TriggerPolicyOverlayError TriggerPolicyOverlay := do
  builder.overlay.validateShape
  pure builder.overlay

end TriggerPolicyOverlayBuilder

/-! ### The base policy of a trigger -/

structure TriggerBasePolicy where
  restartPolicy : RestartPolicy
  scaling : Option ScalingPolicy

namespace TriggerBasePolicy

def maxConcurrency (base : TriggerBasePolicy) : Nat :=
  match base.scaling with
  | some policy => policy.maxConcurrency
  | none => 1

def initialConcurrency (base : TriggerBasePolicy) : Nat :=
  match base.scaling with
  | some policy => policy.initialConcurrency
  | none => 1

theorem initialConcurrency_pos (base : TriggerBasePolicy) : 1 ≤ base.initialConcurrency := by
  unfold initialConcurrency
  split
  · exact ScalingPolicy.initial_pos _
  · exact Nat.le_refl 1

theorem initialConcurrency_le_max (base : TriggerBasePolicy) :
    base.initialConcurrency ≤ base.maxConcurrency := by
  unfold initialConcurrency maxConcurrency
  split
  · exact ScalingPolicy.initial_le_max _
  · exact Nat.le_refl 1

theorem maxConcurrency_pos (base : TriggerBasePolicy) :
    1 ≤ base.maxConcurrency :=
  Nat.le_trans base.initialConcurrency_pos base.initialConcurrency_le_max

end TriggerBasePolicy

end ServiceDaemon
