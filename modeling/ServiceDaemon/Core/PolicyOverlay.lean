/-
Purpose: The overlay record of one trigger generation: overlay requests, clears
  and expiry, and the reconciliation of the concurrency limit, both as one
  uninterrupted call and as the sequence of atomic steps a thread takes.
Main exports: TriggerPolicyOverlayState, requestOverlay, clearOverlay
-/
import ServiceDaemon.Lib.Semaphore
import ServiceDaemon.Models.Policy

namespace ServiceDaemon

open AsyncLib

/-!
A trigger generation registers one overlay record.  The record shares the
semaphore and the limit counter of the runner, and guards them with two locks:
`state` protects the overlay, `reconcile` serialises the threads that resize
the semaphore.  A critical section on `state` is one step here.  The section
under `reconcile` is many steps, because the dispatch loop and the handlers go
on acquiring and releasing permits meanwhile.

[SRC core/trigger_policy_overlay.rs]
-/

/-- `EffectiveTriggerPolicy`: what one dispatch captures. -/
structure EffectiveTriggerPolicy where
  restartPolicy : RestartPolicy
  dispatchTimeout : Option Duration

structure ActiveTriggerPolicyOverlay where
  overlay : TriggerPolicyOverlay
  expiresAt : Instant
deriving DecidableEq

/-- `TriggerPolicyOverlayState`, the data under the `state` lock. -/
structure TriggerPolicyOverlayState where
  overlay : Option ActiveTriggerPolicyOverlay
  restoreBaseOnNextReconcile : Bool
deriving DecidableEq

/-- `ExpiredTriggerPolicyOverlay`, reported to the audit log. -/
structure ExpiredTriggerPolicyOverlay where
  overlay : TriggerPolicyOverlay
  hadConcurrency : Bool
deriving DecidableEq

namespace TriggerPolicyOverlayState

def default : TriggerPolicyOverlayState :=
  { overlay := none, restoreBaseOnNextReconcile := false }

/-- The concurrency limit of the stored overlay, expired or not. -/
def activeConcurrencyLimit (state : TriggerPolicyOverlayState) : Option Nat :=
  state.overlay.bind fun active => active.overlay.concurrencyLimit

/-- `take_expired_overlay`: drop the stored overlay once its time is up, and
ask for a restore when it limited concurrency. -/
def takeExpiredOverlay (state : TriggerPolicyOverlayState) (now : Instant) :
    TriggerPolicyOverlayState × Option ExpiredTriggerPolicyOverlay :=
  match state.overlay with
  | none => (state, none)
  | some active =>
    if active.expiresAt ≤ now then
      let hadConcurrency := active.overlay.concurrencyLimit.isSome
      ({ overlay := none
         restoreBaseOnNextReconcile :=
           if hadConcurrency then true
           else state.restoreBaseOnNextReconcile },
        some { overlay := active.overlay, hadConcurrency := hadConcurrency })
    else (state, none)

def validateOverlayBounds (base : TriggerBasePolicy)
    (overlay : TriggerPolicyOverlay) : Except TriggerPolicyOverlayError Unit :=
  match overlay.concurrencyLimit with
  | some limit =>
    if base.maxConcurrency < limit then
      .error (.concurrencyLimitExceedsMax limit base.maxConcurrency)
    else .ok ()
  | none => .ok ()

/-- `request_overlay` on the record of this generation, which is `registered`
while the generation's run lasts. -/
def requestOverlay (base : TriggerBasePolicy) (registered : Bool) (now : Instant)
    (overlay : TriggerPolicyOverlay) (state : TriggerPolicyOverlayState) :
    Except TriggerPolicyOverlayError TriggerPolicyOverlayState := do
  overlay.validateShape
  if !registered then throw .triggerOverlayUnavailable
  validateOverlayBounds base overlay
  let previousHadConcurrency := state.activeConcurrencyLimit.isSome
  let nextHasConcurrency := overlay.concurrencyLimit.isSome
  pure
    { overlay := some { overlay := overlay, expiresAt := now + overlay.ttl }
      restoreBaseOnNextReconcile :=
        previousHadConcurrency && !nextHasConcurrency }

/-- `clear_overlay` on the record of this generation. -/
def clearOverlay (registered : Bool) (reason : String) (state : TriggerPolicyOverlayState) :
    Except TriggerPolicyOverlayError TriggerPolicyOverlayState := do
  validateOverlayClearReason reason
  if !registered then throw .triggerOverlayUnavailable
  let hadConcurrency := state.activeConcurrencyLimit.isSome
  pure
    { overlay := none
      restoreBaseOnNextReconcile :=
        if hadConcurrency then true else state.restoreBaseOnNextReconcile }

def pruneExpiredOverlay (state : TriggerPolicyOverlayState) (now : Instant) :
    TriggerPolicyOverlayState :=
  (state.takeExpiredOverlay now).1

/-- The read `effective_policy` makes after it has pruned the record. -/
def effectivePolicy (base : TriggerBasePolicy)
    (state : TriggerPolicyOverlayState) : EffectiveTriggerPolicy :=
  match state.overlay with
  | none => { restartPolicy := base.restartPolicy, dispatchTimeout := none }
  | some active =>
    { restartPolicy := active.overlay.retryPolicy.getD base.restartPolicy
      dispatchTimeout := active.overlay.dispatchTimeout }

/-- The `state` section of `reconcile_effective_concurrency`: expire the
overlay, then pick the limit to reconcile to. -/
def chooseDesired (base : TriggerBasePolicy) (now : Instant)
    (baseTarget : Nat) (state : TriggerPolicyOverlayState) :
    TriggerPolicyOverlayState × Nat :=
  let state := (state.takeExpiredOverlay now).1
  match state.activeConcurrencyLimit with
  | some limit => ({ state with restoreBaseOnNextReconcile := false }, limit)
  | none =>
    if state.restoreBaseOnNextReconcile then
      ({ state with restoreBaseOnNextReconcile := false }, base.initialConcurrency)
    else (state, baseTarget)

/-! #### What the operations do -/

variable {base : TriggerBasePolicy} {registered : Bool} {now : Instant}
  {s record : TriggerPolicyOverlayState}

/-- An accepted request passed every check and replaced the overlay. -/
theorem requestOverlay_ok {overlay}
    (accepted : s.requestOverlay base registered now overlay = .ok record) :
    overlay.validateShape = .ok () ∧ registered = true ∧
      (∀ limit, overlay.concurrencyLimit = some limit → limit ≤ base.maxConcurrency) ∧
      record =
        { overlay := some { overlay := overlay, expiresAt := now + overlay.ttl }
          restoreBaseOnNextReconcile :=
            s.activeConcurrencyLimit.isSome &&
              !overlay.concurrencyLimit.isSome } := by
  simp only [requestOverlay, bind, Except.bind] at accepted
  split at accepted
  · cases accepted
  · rename_i shape
    cases registered with
    | false => cases accepted
    | true =>
      simp only [Bool.not_true, Bool.false_eq_true, if_false, pure, Except.pure] at accepted
      split at accepted
      · cases accepted
      · rename_i bounded
        cases accepted
        refine ⟨shape, rfl, ?_, rfl⟩
        intro limit limited
        simp only [validateOverlayBounds, limited] at bounded
        split at bounded
        · cases bounded
        · omega

/-- An accepted clear leaves no overlay. -/
theorem clearOverlay_ok (accepted : s.clearOverlay registered reason = .ok record) :
    registered = true ∧ record =
        { overlay := none
          restoreBaseOnNextReconcile :=
            if s.activeConcurrencyLimit.isSome then true
            else s.restoreBaseOnNextReconcile } := by
  simp only [clearOverlay, bind, Except.bind] at accepted
  split at accepted
  · cases accepted
  · cases registered with
    | false => cases accepted
    | true =>
      cases accepted
      exact ⟨rfl, rfl⟩

/-- Expiry leaves the record as it is, or without an overlay. -/
theorem takeExpiredOverlay_cases (s : TriggerPolicyOverlayState) (now : Instant) :
    (s.takeExpiredOverlay now).1 = s ∨ (s.takeExpiredOverlay now).1.overlay = none := by
  unfold takeExpiredOverlay
  split
  · exact .inl rfl
  · split
    · exact .inr rfl
    · exact .inl rfl

theorem chooseDesired_overlay (base : TriggerBasePolicy) (now : Instant)
    (baseTarget : Nat) (s : TriggerPolicyOverlayState) :
    (s.chooseDesired base now baseTarget).1.overlay = (s.takeExpiredOverlay now).1.overlay := by
  unfold chooseDesired
  simp only
  split
  · rfl
  · split <;> rfl

theorem takeExpiredOverlay_of_none (absent : s.overlay = none)
    (now : Instant) : (s.takeExpiredOverlay now).1.overlay = none := by
  rcases takeExpiredOverlay_cases s now with same | gone
  · rw [same, absent]
  · exact gone

/-- An unexpired overlay limits concurrency to `limit`. -/
def limitsTo (state : TriggerPolicyOverlayState) (now : Instant) (limit : Nat) : Bool :=
  match state.overlay with
  | some active =>
    decide (active.overlay.concurrencyLimit = some limit) &&
      decide (now < active.expiresAt)
  | none => false

/-- An active concurrency overlay survives the expiry check and is the limit to
reconcile to. -/
theorem chooseDesired_of_limitsTo (active : s.limitsTo now limit = true) (baseTarget : Nat) :
    (s.chooseDesired base now baseTarget).2 = limit := by
  unfold limitsTo at active
  split at active
  · rename_i stored found
    simp only [Bool.and_eq_true, decide_eq_true_eq] at active
    have unexpired : ¬ stored.expiresAt ≤ now := Nat.not_le.mpr active.2
    simp [chooseDesired, takeExpiredOverlay, found, unexpired, activeConcurrencyLimit, active.1]
  · cases active

/-- The stored concurrency limit lies within the base policy. -/
def Fits (base : TriggerBasePolicy) (state : TriggerPolicyOverlayState) :
    Prop :=
  ∀ limit, state.activeConcurrencyLimit = some limit → 1 ≤ limit ∧ limit ≤ base.maxConcurrency

namespace Fits

theorem of_none (absent : s.overlay = none) : s.Fits base := by
  intro limit limited
  simp [activeConcurrencyLimit, absent] at limited

theorem of_same {other : TriggerPolicyOverlayState} (fits : s.Fits base)
    (same : other.overlay = s.overlay) : other.Fits base := by
  intro limit limited
  apply fits limit
  rw [← limited, activeConcurrencyLimit, activeConcurrencyLimit, same]

theorem takeExpiredOverlay (fits : s.Fits base) (now : Instant) :
    (s.takeExpiredOverlay now).1.Fits base := by
  rcases takeExpiredOverlay_cases s now with same | gone
  · rw [same]
    exact fits
  · exact of_none gone

theorem chooseDesired (fits : s.Fits base) (now : Instant) (baseTarget : Nat) :
    (s.chooseDesired base now baseTarget).1.Fits base :=
  (fits.takeExpiredOverlay now).of_same (chooseDesired_overlay ..)

theorem requestOverlay {overlay}
    (accepted : s.requestOverlay base registered now overlay = .ok record) : record.Fits base := by
  obtain ⟨shape, -, bounded, rfl⟩ := requestOverlay_ok accepted
  intro limit limited
  have requested : overlay.concurrencyLimit = some limit := limited
  exact ⟨TriggerPolicyOverlay.limit_pos_of_validateShape shape requested, bounded limit requested⟩

theorem clearOverlay (accepted : s.clearOverlay registered reason = .ok record) :
    record.Fits base := by
  obtain ⟨-, rfl⟩ := clearOverlay_ok accepted
  exact of_none rfl

end Fits

end TriggerPolicyOverlayState

/-! ### The shared concurrency state -/

/-- The two threads that resize the semaphore of a runner. -/
inductive Actor where
  | dispatcher
  | monitor
deriving Repr, DecidableEq

/-- What the runner, its scale monitor and the overlay record share.  Waiting
acquires are named by the sequence number of their dispatch. -/
structure ConcurrencyState where
  semaphore : Semaphore Nat
  currentLimit : Nat
  reconcileLock : Option Actor
  overlay : TriggerPolicyOverlayState
  registered : Bool
  now : Instant
deriving DecidableEq

/-- The clamp at the head of `reconcile_concurrency_limit`. -/
def clampDesired (base : TriggerBasePolicy) (desired : Nat) : Nat :=
  max (min desired base.maxConcurrency) 1

/-- The revocation loop: take idle permits and forget them, stopping at the
first refusal.  Returns how many were revoked. -/
def revokePermits : Semaphore Nat → Nat → Semaphore Nat × Nat
  | semaphore, 0 => (semaphore, 0)
  | semaphore, left + 1 =>
    match semaphore.tryAcquire with
    | some after =>
      let (rest, revoked) := revokePermits after left
      (rest, revoked + 1)
    | none => (semaphore, 0)

/-- `reconcile_concurrency_limit` as one uninterrupted call. -/
def reconcileConcurrencyLimit (base : TriggerBasePolicy)
    (shared : ConcurrencyState) (desired : Nat) : ConcurrencyState × Nat :=
  let desired := clampDesired base desired
  let current := shared.currentLimit
  let available := shared.semaphore.availablePermits
  if current < desired then
    ({ shared with
        semaphore := shared.semaphore.addPermits (desired - current)
        currentLimit := desired }, desired)
  else if desired < current then
    let inFlight := current - available
    let target := max desired inFlight
    let (semaphore, revoked) :=
      revokePermits shared.semaphore (current - target)
    ({ shared with semaphore := semaphore, currentLimit := current - revoked }, current - revoked)
  else (shared, current)

/-- `reconcile_effective_concurrency` as one uninterrupted call. -/
def reconcileEffectiveConcurrency (base : TriggerBasePolicy)
    (shared : ConcurrencyState) (baseTarget : Nat) : ConcurrencyState × Nat :=
  if shared.registered then
    let (overlay, desired) :=
      shared.overlay.chooseDesired base shared.now baseTarget
    reconcileConcurrencyLimit base { shared with overlay := overlay } desired
  else (shared, max baseTarget 1)

def currentLimitOrBase (shared : ConcurrencyState) : Nat :=
  if shared.registered then shared.currentLimit else 1

/-! ### The same calls, one atomic step at a time -/

/-- Where a thread stands while it resizes the semaphore.  The reconciliation
and the scale monitor's direct path go through the same operations. -/
inductive ResizePoint where
  | addPermits (current desired : Nat)
  | storeRaised (current desired : Nat)
  | revoke (current left revoked : Nat)
  | storeLowered (current revoked : Nat)
  | finished (limit : Nat)
deriving Repr, DecidableEq

/-- One semaphore operation or one store of the limit. -/
def resizeStep (shared : ConcurrencyState) :
    ResizePoint → Option (ConcurrencyState × ResizePoint)
  | .addPermits current desired =>
    some
      ({ shared with semaphore := shared.semaphore.addPermits (desired - current) },
        .storeRaised current desired)
  | .storeRaised _ desired =>
    some ({ shared with currentLimit := desired }, .finished desired)
  | .revoke current 0 revoked => some (shared, .storeLowered current revoked)
  | .revoke current (left + 1) revoked =>
    match shared.semaphore.tryAcquire with
    | some semaphore =>
      some ({ shared with semaphore := semaphore }, .revoke current left (revoked + 1))
    | none => some (shared, .storeLowered current revoked)
  | .storeLowered current revoked =>
    some ({ shared with currentLimit := current - revoked }, .finished (current - revoked))
  | .finished _ => none

/-- Where a thread stands in `reconcile_effective_concurrency`. -/
inductive ReconcilePoint where
  | lookup (baseTarget : Nat)
  | lock (baseTarget : Nat)
  | choose (baseTarget : Nat)
  | loadLimit (desired : Nat)
  | readAvailable (desired current : Nat)
  | resize (point : ResizePoint)
  | unlock (limit : Nat)
  | finished (limit : Nat)
deriving Repr, DecidableEq

/-- The three branches after the semaphore was read. -/
def startResize (desired current available : Nat) : ReconcilePoint :=
  if current < desired then .resize (.addPermits current desired)
  else if desired < current then
    .resize (.revoke current (current - max desired (current - available)) 0)
  else .unlock current

/-- One step of `reconcile_effective_concurrency` by `actor`.  Waiting for the
`reconcile` lock is the only step that can block. -/
def reconcileStep (base : TriggerBasePolicy) (actor : Actor) (shared : ConcurrencyState) :
    ReconcilePoint → Option (ConcurrencyState × ReconcilePoint)
  | .lookup baseTarget =>
    if shared.registered then some (shared, .lock baseTarget)
    else some (shared, .finished (max baseTarget 1))
  | .lock baseTarget =>
    match shared.reconcileLock with
    | none =>
      some ({ shared with reconcileLock := some actor }, .choose baseTarget)
    | some _ => none
  | .choose baseTarget =>
    let (overlay, desired) :=
      shared.overlay.chooseDesired base shared.now baseTarget
    some ({ shared with overlay := overlay }, .loadLimit (clampDesired base desired))
  | .loadLimit desired =>
    some (shared, .readAvailable desired shared.currentLimit)
  | .readAvailable desired current =>
    some (shared, startResize desired current shared.semaphore.availablePermits)
  | .resize (.finished limit) => some (shared, .unlock limit)
  | .resize point =>
    (resizeStep shared point).map fun (next, after) => (next, .resize after)
  | .unlock limit =>
    some ({ shared with reconcileLock := none }, .finished limit)
  | .finished _ => none

/-! ### What one step can do -/

/-- The moves of a resizing thread. -/
inductive ResizeMove (shared : ConcurrencyState) :
    ResizePoint → ConcurrencyState → ResizePoint → Prop where
  | adds {cur desired} :
      ResizeMove shared (.addPermits cur desired)
        { shared with semaphore := shared.semaphore.addPermits (desired - cur) }
        (.storeRaised cur desired)
  | raises {cur desired} :
      ResizeMove shared (.storeRaised cur desired)
        { shared with currentLimit := desired } (.finished desired)
  | revokes {cur left revoked semaphore}
      (acquired : shared.semaphore.tryAcquire = some semaphore) :
      ResizeMove shared (.revoke cur (left + 1) revoked)
        { shared with semaphore := semaphore }
        (.revoke cur left (revoked + 1))
  | ends {cur left revoked}
      (enough : left = 0 ∨ shared.semaphore.tryAcquire = none) :
      ResizeMove shared (.revoke cur left revoked) shared
        (.storeLowered cur revoked)
  | lowers {cur revoked} :
      ResizeMove shared (.storeLowered cur revoked)
        { shared with currentLimit := cur - revoked }
        (.finished (cur - revoked))

theorem ResizeMove.of_resizeStep
    (h : resizeStep shared point = some (after, next)) : ResizeMove shared point after next := by
  cases point with
  | addPermits cur desired =>
    cases h
    exact .adds
  | storeRaised cur desired =>
    cases h
    exact .raises
  | revoke cur left revoked =>
    cases left with
    | zero =>
      cases h
      exact .ends (.inl rfl)
    | succ left =>
      simp only [resizeStep] at h
      split at h
      · rename_i sem acquired
        cases h
        exact .revokes acquired
      · rename_i exhausted
        cases h
        exact .ends (.inr exhausted)
  | storeLowered cur revoked =>
    cases h
    exact .lowers
  | finished limit => cases h

/-- The moves of `actor` in `reconcile_effective_concurrency`. -/
inductive ReconcileMove (base : TriggerBasePolicy) (actor : Actor)
    (shared : ConcurrencyState) :
    ReconcilePoint → ConcurrencyState → ReconcilePoint → Prop where
  | finds {baseTarget} (registered : shared.registered = true) :
      ReconcileMove base actor shared (.lookup baseTarget) shared
        (.lock baseTarget)
  | misses {baseTarget} (removed : shared.registered = false) :
      ReconcileMove base actor shared (.lookup baseTarget) shared
        (.finished (max baseTarget 1))
  | locks {baseTarget} (free : shared.reconcileLock = none) :
      ReconcileMove base actor shared (.lock baseTarget)
        { shared with reconcileLock := some actor } (.choose baseTarget)
  | chooses {baseTarget} :
      ReconcileMove base actor shared (.choose baseTarget)
        { shared with overlay := (shared.overlay.chooseDesired base shared.now baseTarget).1 }
        (.loadLimit (clampDesired base (shared.overlay.chooseDesired base shared.now baseTarget).2))
  | loadsLimit {desired} :
      ReconcileMove base actor shared (.loadLimit desired) shared
        (.readAvailable desired shared.currentLimit)
  | readsAvailable {desired cur} :
      ReconcileMove base actor shared (.readAvailable desired cur) shared
        (startResize desired cur shared.semaphore.availablePermits)
  | resizes {inner after resized}
      (move : ResizeMove shared inner resized after) :
      ReconcileMove base actor shared (.resize inner) resized (.resize after)
  | resized {limit} :
      ReconcileMove base actor shared (.resize (.finished limit)) shared
        (.unlock limit)
  | unlocks {limit} :
      ReconcileMove base actor shared (.unlock limit)
        { shared with reconcileLock := none } (.finished limit)

theorem ReconcileMove.of_reconcileStep
    (h : reconcileStep base actor shared point = some (after, next)) :
    ReconcileMove base actor shared point after next := by
  cases point with
  | lookup baseTarget =>
    simp only [reconcileStep] at h
    split at h
    · rename_i registered
      cases h
      exact .finds registered
    · rename_i removed
      cases h
      exact .misses (by simpa using removed)
  | lock baseTarget =>
    simp only [reconcileStep] at h
    split at h
    · rename_i free
      cases h
      exact .locks free
    · cases h
  | choose baseTarget =>
    have move : ReconcileMove base actor shared (.choose baseTarget) _ _ := .chooses
    simp only [reconcileStep, Option.some.injEq, Prod.mk.injEq] at h
    rw [← h.1, ← h.2]
    exact move
  | loadLimit desired =>
    cases h
    exact .loadsLimit
  | readAvailable desired cur =>
    cases h
    exact .readsAvailable
  | resize inner =>
    cases inner with
    | finished limit =>
      cases h
      exact .resized
    | _ =>
      simp only [reconcileStep, Option.map_eq_some_iff, Prod.exists, Prod.mk.injEq] at h
      obtain ⟨_, after, h, rfl, rfl⟩ := h
      exact .resizes (.of_resizeStep h)
  | unlock limit =>
    cases h
    exact .unlocks
  | finished limit => cases h

end ServiceDaemon
