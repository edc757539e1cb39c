/-
Purpose: The calls that compute a deadline, on a clock that ends.  Adding a
  duration to an instant panics where the sum is not representable.
Main exports: instantMax, durationMax, ClockInstant
-/
import ServiceDaemon.Core.PolicyOverlay
import ServiceDaemon.Core.ProviderInit

namespace ServiceDaemon

open TriggerPolicyOverlayState

/-!
The models of the overlay record and of the provider initialisation let time go
on forever.  Here the two calls are taken up to the point where they have
computed their deadline, with the `Instant` of the standard library: its
seconds are an `i64`, those of a `Duration` a `u64`, and `+` panics when the sum
does not fit.  The timers of tokio, on which both go on to wait, check the
addition and wait far into the future instead.

[SRC core/trigger_policy_overlay.rs, core/provider_init.rs]
-/

/-- The last `Instant`. -/
def instantMax : Instant := fromSecs (2 ^ 63 - 1) + 999999999

/-- `Duration::MAX`. -/
def durationMax : Duration := fromSecs (2 ^ 64 - 1) + 999999999

/-- An instant the clock can represent. -/
structure ClockInstant where
  nanos : Instant
  fits : nanos ≤ instantMax

/-- `Instant::checked_add`; the operator `+` panics where this is `none`. -/
def ClockInstant.checkedAdd (instant : ClockInstant) (duration : Duration) :
    Option ClockInstant :=
  if fits : instant.nanos + duration ≤ instantMax then
    some ⟨instant.nanos + duration, fits⟩
  else none

/-- How a call ends. -/
inductive CallResult (Value : Type) where
  | returned (value : Value)
  | panicked
deriving Repr, DecidableEq

/-- `request_overlay` on the record of this generation: the record it leaves
behind, and how the call ends. -/
def requestOverlayCall (base : TriggerBasePolicy) (registered : Bool) (now : ClockInstant)
    (overlay : TriggerPolicyOverlay) (state : TriggerPolicyOverlayState) :
    TriggerPolicyOverlayState ×
      CallResult (Except TriggerPolicyOverlayError Unit) :=
  match overlay.validateShape with
  | .error error => (state, .returned (.error error))
  | .ok () =>
    if !registered then
      (state, .returned (.error .triggerOverlayUnavailable))
    else
      match TriggerPolicyOverlayState.validateOverlayBounds base overlay with
      | .error error => (state, .returned (.error error))
      | .ok () =>
        match now.checkedAdd overlay.ttl with
        | none => (state, .panicked)
        | some expiresAt =>
          ({ overlay :=
              some { overlay := overlay, expiresAt := expiresAt.nanos }
             restoreBaseOnNextReconcile :=
              state.activeConcurrencyLimit.isSome &&
                !overlay.concurrencyLimit.isSome },
            .returned (.ok ()))

/-- The head of `init_fallible_with_source`: it starts with a deadline, or
panics. -/
def initFallibleWithSource {Value : Type} (config : ProviderInitConfig)
    (start : ClockInstant) : CallResult (ProviderInitState Value) :=
  match start.checkedAdd config.policy.providerInitTimeout with
  | none => .panicked
  | some _ => .returned (.new config start.nanos)

/-! ### What the calls do -/

theorem ClockInstant.checkedAdd_eq_none {instant : ClockInstant} {duration : Duration} :
    instant.checkedAdd duration = none ↔ instantMax < instant.nanos + duration := by
  unfold checkedAdd
  split
  · rename_i fits
    exact iff_of_false nofun (Nat.not_lt.mpr fits)
  · rename_i overflows
    exact iff_of_true rfl (Nat.lt_of_not_le overflows)

theorem ClockInstant.checkedAdd_of_le {instant : ClockInstant}
    {duration : Duration} (fits : instant.nanos + duration ≤ instantMax) :
    instant.checkedAdd duration = some ⟨instant.nanos + duration, fits⟩ :=
  dif_pos fits

section Request

variable {base : TriggerBasePolicy} {registered : Bool} {now : ClockInstant}
  {overlay : TriggerPolicyOverlay} {s record : TriggerPolicyOverlayState}

theorem validateOverlayBounds_of_le
    (bounded : ∀ limit, overlay.concurrencyLimit = some limit → limit ≤ base.maxConcurrency) :
    validateOverlayBounds base overlay = .ok () := by
  unfold validateOverlayBounds
  split
  · rename_i limit limited
    exact if_neg (Nat.not_lt.mpr (bounded limit limited))
  · rfl

/-- A request that the unbounded record rejects is rejected here. -/
theorem requestOverlayCall_rejected
    (rejected : s.requestOverlay base registered now.nanos overlay = .error error) :
    requestOverlayCall base registered now overlay s = (s, .returned (.error error)) := by
  unfold requestOverlayCall
  simp only [requestOverlay, bind, Except.bind] at rejected
  split at rejected
  · rename_i invalid
    cases rejected
    rw [invalid]
  · rename_i shape
    rw [shape]
    cases registered with
    | false =>
      cases rejected
      rfl
    | true =>
      simp only [Bool.not_true, Bool.false_eq_true, if_false, pure, Except.pure] at rejected ⊢
      split at rejected
      · rename_i exceeded
        cases rejected
        rw [exceeded]
      · cases rejected

/-- A request that the unbounded record accepts is accepted here as long as the
clock can represent its end, and panics otherwise. -/
theorem requestOverlayCall_accepted
    (accepted : s.requestOverlay base registered now.nanos overlay = .ok record) :
    requestOverlayCall base registered now overlay s = if now.nanos + overlay.ttl ≤ instantMax then
        (record, .returned (.ok ()))
      else (s, .panicked) := by
  obtain ⟨shape, rfl, bounded, rfl⟩ := requestOverlay_ok accepted
  simp only [requestOverlayCall, shape, Bool.not_true, Bool.false_eq_true,
    if_false, validateOverlayBounds_of_le bounded]
  split
  · rename_i overflows
    rw [if_neg (Nat.not_le.mpr (ClockInstant.checkedAdd_eq_none.mp overflows))]
  · rename_i expiresAt added
    unfold ClockInstant.checkedAdd at added
    split at added
    · rename_i fits
      cases added
      rw [if_pos fits]
    · cases added

end Request

end ServiceDaemon
