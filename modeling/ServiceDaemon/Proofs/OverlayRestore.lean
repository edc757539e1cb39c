/-
Purpose: What becomes of the limit once a temporary concurrency overlay ends.
  The calls on one overlay record are taken one at a time; a restore that is
  owed is carried out by the next reconciliation, unless a request for another
  kind of overlay has overwritten it.
Main exports: reconcileSteps_call, reconcileConcurrencyLimit_limit, RecordState,
  ended_overlay_restored
-/
import ServiceDaemon.Core.PolicyOverlay
import ServiceDaemon.Lib.StepSystem

namespace ServiceDaemon

open AsyncLib StepSystem TriggerPolicyOverlayState

/-! ### The reconciliation as one call -/

/-- Steps of one reconciling thread with nobody in between. -/
def ReconcileSteps (base : TriggerBasePolicy) (actor : Actor) :
    ConcurrencyState × ReconcilePoint → ConcurrencyState × ReconcilePoint → Prop :=
  Relation.ReflTransGen fun before after =>
    reconcileStep base actor before.1 before.2 = some after

section Call

variable {base : TriggerBasePolicy} {actor : Actor}

theorem revokePermits_succ (count : Nat) (acquired : sem.tryAcquire = some after) :
    revokePermits sem (count + 1) =
      ((revokePermits after count).1, (revokePermits after count).2 + 1) := by
  simp [revokePermits, acquired]

/-- The revocation loop takes the idle permits, up to `count` of them. -/
theorem revokePermits_eq (sem : Semaphore Nat) (count : Nat) :
    revokePermits sem count = ({ sem with permits := sem.permits - min count sem.permits },
        min count sem.permits) := by
  induction count generalizing sem with
  | zero => simp [revokePermits]
  | succ count ih =>
    cases acquired : sem.tryAcquire with
    | none =>
      have exhausted := Semaphore.permits_of_tryAcquire_none acquired
      have nothing : min (count + 1) sem.permits = 0 := by omega
      simp [revokePermits, acquired, nothing]
    | some after =>
      rw [revokePermits_succ count acquired, ih]
      unfold Semaphore.tryAcquire at acquired
      split at acquired
      · cases acquired
      · cases acquired
        simp only [Prod.mk.injEq, Semaphore.mk.injEq, and_true]
        omega

/-- Steps of one resizing thread with nobody in between. -/
def ResizeSteps :
    ConcurrencyState × ResizePoint → ConcurrencyState × ResizePoint → Prop :=
  Relation.ReflTransGen fun before after =>
    resizeStep before.1 before.2 = some after

/-- The revocation steps of a thread are the revocation loop. -/
theorem revoke_steps (shared : ConcurrencyState) (cur left revoked : Nat) :
    ResizeSteps (shared, .revoke cur left revoked)
      ({ shared with semaphore := (revokePermits shared.semaphore left).1 },
        .storeLowered cur (revoked + (revokePermits shared.semaphore left).2)) := by
  induction left generalizing shared revoked with
  | zero => exact .single rfl
  | succ left ih =>
    cases acquired : shared.semaphore.tryAcquire with
    | none =>
      refine .single ?_
      simp [resizeStep, revokePermits, acquired]
    | some after =>
      have rest := ih { shared with semaphore := after } (revoked + 1)
      rw [revokePermits_succ left acquired]
      simp only at rest ⊢
      rw [show revoked + ((revokePermits after left).2 + 1) =
        revoked + 1 + (revokePermits after left).2 by omega]
      refine .head ?_ rest
      simp [resizeStep, acquired]

private theorem reconcileStep_resize (h : resizeStep shared point = some (after, next)) :
    reconcileStep base actor shared (.resize point) = some (after, .resize next) := by
  cases point with
  | finished limit => cases h
  | _ => simp only [reconcileStep, h, Option.map_some]

private theorem ResizeSteps.reconcile (steps : ResizeSteps start finish) :
    ReconcileSteps base actor (start.1, .resize start.2)
      (finish.1, .resize finish.2) := by
  induction steps with
  | refl => exact .refl
  | tail earlier h ih => exact ih.tail (reconcileStep_resize h)

/-- From the load of the limit to the last store, the steps of a thread are
the call `reconcile_concurrency_limit`. -/
private theorem limit_steps (shared : ConcurrencyState) (desired : Nat) :
    ReconcileSteps base actor
      (shared, .loadLimit (clampDesired base desired))
      ((reconcileConcurrencyLimit base shared desired).1,
        .unlock (reconcileConcurrencyLimit base shared desired).2) := by
  refine .head (b := (shared, .readAvailable (clampDesired base desired) shared.currentLimit))
    rfl ?_
  refine .head (b := (shared, startResize (clampDesired base desired) shared.currentLimit
      shared.semaphore.availablePermits)) rfl ?_
  unfold startResize reconcileConcurrencyLimit
  simp only
  split
  · refine .head rfl ?_
    refine .head rfl ?_
    exact .single rfl
  · split
    · refine (revoke_steps shared _ _ 0).reconcile.trans ?_
      refine .head rfl ?_
      simp only [Nat.zero_add]
      exact .single rfl
    · exact .refl

private theorem reconcileConcurrencyLimit_lock (base : TriggerBasePolicy)
    (shared : ConcurrencyState) (lock : Option Actor) (desired : Nat) :
    reconcileConcurrencyLimit base { shared with reconcileLock := lock }
        desired =
      ({ (reconcileConcurrencyLimit base shared desired).1 with reconcileLock := lock },
        (reconcileConcurrencyLimit base shared desired).2) := by
  unfold reconcileConcurrencyLimit
  simp only
  split
  · rfl
  · split <;> rfl

theorem reconcileConcurrencyLimit_frame (base : TriggerBasePolicy)
    (shared : ConcurrencyState) (desired : Nat) :
    (reconcileConcurrencyLimit base shared desired).1.reconcileLock = shared.reconcileLock ∧
      (reconcileConcurrencyLimit base shared desired).1.overlay = shared.overlay ∧
      (reconcileConcurrencyLimit base shared desired).1.registered = shared.registered ∧
      (reconcileConcurrencyLimit base shared desired).1.now = shared.now := by
  unfold reconcileConcurrencyLimit
  simp only
  split
  · exact ⟨rfl, rfl, rfl, rfl⟩
  · split <;> exact ⟨rfl, rfl, rfl, rfl⟩

private theorem relock_of_free {shared : ConcurrencyState} (free : shared.reconcileLock = none) :
    { shared with reconcileLock := none } = shared := by
  cases shared
  cases free
  rfl

/-- A thread that runs a reconciliation with nobody in between computes the
call `reconcile_effective_concurrency`. -/
theorem reconcileSteps_call (shared : ConcurrencyState) (baseTarget : Nat)
    (free : shared.reconcileLock = none) :
    ReconcileSteps base actor (shared, .lookup baseTarget)
      ((reconcileEffectiveConcurrency base shared baseTarget).1, .finished
          (reconcileEffectiveConcurrency base shared baseTarget).2) := by
  unfold reconcileEffectiveConcurrency
  by_cases registered : shared.registered = true
  · rw [if_pos registered]
    let chosen := shared.overlay.chooseDesired base shared.now baseTarget
    let locked : ConcurrencyState :=
      { shared with reconcileLock := some actor, overlay := chosen.1 }
    refine .head (b := (shared, .lock baseTarget)) ?_ ?_
    · simp [reconcileStep, registered]
    refine .head (b := ({ shared with reconcileLock := some actor }, .choose baseTarget)) ?_ ?_
    · simp [reconcileStep, free]
    refine .head (b := (locked, .loadLimit (clampDesired base chosen.2))) rfl ?_
    refine (limit_steps locked chosen.2).tail ?_
    -- Unlocking gives back the state the call computes without the lock.
    have relocked := reconcileConcurrencyLimit_lock base
      { shared with overlay := chosen.1 } (some actor) chosen.2
    have unlocked := (reconcileConcurrencyLimit_frame base
      { shared with overlay := chosen.1 } chosen.2).1.trans free
    simp only [locked, relocked, reconcileStep, relock_of_free unlocked]
    rfl
  · rw [if_neg registered]
    refine .single ?_
    simp [reconcileStep, registered]

/-! ### What the call computes -/

/-- All permits are idle or held, and nobody waits. -/
structure Accounted (held : Nat) (shared : ConcurrencyState) : Prop where
  counted : shared.semaphore.permits + held = shared.currentLimit
  unqueued : shared.semaphore.SingleWaiter none

variable {held : Nat} {shared : ConcurrencyState}

/-- The limit the call reaches: the wanted one, or the permits in use where
they are more. -/
theorem reconcileConcurrencyLimit_limit (accounted : Accounted held shared) (desired : Nat) :
    (reconcileConcurrencyLimit base shared desired).1.currentLimit =
      max (clampDesired base desired) held := by
  have counted := accounted.counted
  unfold reconcileConcurrencyLimit
  simp only [revokePermits_eq, Semaphore.availablePermits]
  split
  · simp only
    omega
  · split
    · simp only
      omega
    · show shared.currentLimit = _
      omega

theorem Accounted.reconcileConcurrencyLimit (accounted : Accounted held shared) (desired : Nat) :
    Accounted held
      (reconcileConcurrencyLimit base shared desired).1 := by
  have counted := accounted.counted
  have queue := accounted.unqueued.1
  unfold ServiceDaemon.reconcileConcurrencyLimit
  simp only [revokePermits_eq, Semaphore.availablePermits]
  split
  · refine ⟨?_, accounted.unqueued.addPermits _⟩
    simp only [Semaphore.addPermits, queue, List.length_nil]
    omega
  · split
    · refine ⟨?_, accounted.unqueued.of_same rfl rfl⟩
      simp only
      omega
    · exact accounted

theorem Accounted.reconcileEffectiveConcurrency (accounted : Accounted held shared)
    (baseTarget : Nat) :
    Accounted held
      (reconcileEffectiveConcurrency base shared baseTarget).1 := by
  unfold ServiceDaemon.reconcileEffectiveConcurrency
  split
  · apply Accounted.reconcileConcurrencyLimit
    exact ⟨accounted.counted, accounted.unqueued⟩
  · exact accounted

end Call

/-! ### A record and its calls -/

namespace TriggerPolicyOverlayState

/-- The stored overlay limits concurrency and its time is up. -/
def concurrencyExpired (s : TriggerPolicyOverlayState) (now : Instant) :
    Bool :=
  match s.overlay with
  | some active =>
    active.overlay.concurrencyLimit.isSome && decide (active.expiresAt ≤ now)
  | none => false

/-- The stored overlay limits concurrency and is in force. -/
def concurrencyActive (s : TriggerPolicyOverlayState) (now : Instant) :
    Bool :=
  match s.overlay with
  | some active =>
    active.overlay.concurrencyLimit.isSome && decide (now < active.expiresAt)
  | none => false

end TriggerPolicyOverlayState

/-- The record of one generation, the permits its dispatches hold, and whether
a restore is owed: a concurrency overlay was cleared, expired or replaced, and
since then every reconciliation found another one active.  `owed` is history,
the source has no such field. -/
structure RecordState where
  shared : ConcurrencyState
  held : Nat
  owed : Bool

/-- The calls on a record, and what happens to its permits in between. -/
inductive RecordCall where
  | request (overlay : TriggerPolicyOverlay)
  | clear (reason : String)
  | readPolicy
  | reconcile (baseTarget : Nat)
  | acquire
  | release
  | advance (duration : Duration)

namespace RecordState

/-- A freshly registered record. -/
def new (base : TriggerBasePolicy) (now : Instant) : RecordState :=
  { shared :=
      { semaphore := Semaphore.new base.initialConcurrency
        currentLimit := base.initialConcurrency
        reconcileLock := none
        overlay := .default
        registered := true
        now := now }
    held := 0
    owed := false }

/-- A concurrency overlay has ended and nothing was reconciled since. -/
def restoreDue (s : RecordState) : Bool :=
  s.owed || s.shared.overlay.concurrencyExpired s.shared.now

/-- One call. -/
def step (base : TriggerBasePolicy) (s : RecordState) :
    RecordCall → Option RecordState
  | .request overlay =>
    match s.shared.overlay.requestOverlay base s.shared.registered
        s.shared.now overlay with
    | .ok record =>
      some
        { s with
          shared := { s.shared with overlay := record }
          owed :=
            s.owed ||
              s.shared.overlay.activeConcurrencyLimit.isSome }
    | .error _ => some s
  | .clear reason =>
    match s.shared.overlay.clearOverlay s.shared.registered
        reason with
    | .ok record =>
      some
        { s with
          shared := { s.shared with overlay := record }
          owed :=
            s.owed ||
              s.shared.overlay.activeConcurrencyLimit.isSome }
    | .error _ => some s
  | .readPolicy =>
    some
      { s with
        shared :=
          { s.shared with overlay := s.shared.overlay.pruneExpiredOverlay s.shared.now }
        owed := s.restoreDue }
  | .reconcile baseTarget =>
    some
      { s with
        shared :=
          (reconcileEffectiveConcurrency base s.shared baseTarget).1
        owed :=
          s.owed &&
            s.shared.overlay.concurrencyActive s.shared.now }
  | .acquire =>
    s.shared.semaphore.tryAcquire.map fun semaphore =>
      { s with shared := { s.shared with semaphore := semaphore }, held := s.held + 1 }
  | .release =>
    match s.held with
    | 0 => none
    | held + 1 =>
      some
        { s with
          shared :=
            { s.shared with semaphore := s.shared.semaphore.addPermits 1 }
          held := held }
  | .advance duration =>
    some
      { s with shared := { s.shared with now := s.shared.now + duration } }

/-- While a restore is owed and no concurrency overlay is stored, only overlays
that limit concurrency are requested. -/
def KeepsRestore (s : RecordState) : RecordCall → Prop
  | .request overlay =>
    s.owed = true → s.shared.overlay.activeConcurrencyLimit = none → overlay.concurrencyLimit ≠ none
  | _ => True

instance (s : RecordState) :
    (call : RecordCall) → Decidable (s.KeepsRestore call)
  | .request _ => inferInstanceAs (Decidable (_ → _ → _))
  | .clear _ | .readPolicy | .reconcile _ | .acquire | .release
  | .advance _ => isTrue trivial

end RecordState

namespace TriggerPolicyOverlayState

variable {now : Instant} {s : TriggerPolicyOverlayState}

/-- A stored concurrency overlay is in force or its time is up. -/
theorem active_or_expired (now : Instant) (limited : s.activeConcurrencyLimit ≠ none) :
    s.concurrencyActive now = true ∨ s.concurrencyExpired now = true := by
  obtain ⟨overlay, restore⟩ := s
  cases overlay with
  | none => exact absurd rfl limited
  | some stored =>
    have concurrency : stored.overlay.concurrencyLimit.isSome = true :=
      Option.isSome_iff_ne_none.mpr limited
    rcases Nat.lt_or_ge now stored.expiresAt with running | ended
    · left
      simp [concurrencyActive, concurrency, running]
    · right
      simp [concurrencyExpired, concurrency, ended]

/-- Without an active concurrency overlay, a pending or newly due restore makes
the reconciliation go back to the base policy. -/
theorem chooseDesired_restores (base : TriggerBasePolicy)
    (inactive : s.concurrencyActive now = false)
    (due : s.concurrencyExpired now = true ∨ s.restoreBaseOnNextReconcile = true)
    (baseTarget : Nat) : (s.chooseDesired base now baseTarget).2 = base.initialConcurrency := by
  obtain ⟨overlay, restore⟩ := s
  cases overlay with
  | none =>
    have pending : restore = true := by
      simpa [concurrencyExpired] using due
    simp [chooseDesired, takeExpiredOverlay, activeConcurrencyLimit, pending]
  | some active =>
    by_cases expired : active.expiresAt ≤ now
    · cases limited : active.overlay.concurrencyLimit with
      | none =>
        have pending : restore = true := by
          simpa [concurrencyExpired, limited] using due
        simp [chooseDesired, takeExpiredOverlay, activeConcurrencyLimit, expired, limited, pending]
      | some limit =>
        simp [chooseDesired, takeExpiredOverlay, activeConcurrencyLimit, expired, limited]
    · have running : now < active.expiresAt := Nat.lt_of_not_le expired
      cases limited : active.overlay.concurrencyLimit with
      | none =>
        have pending : restore = true := by
          simpa [concurrencyExpired, limited] using due
        simp [chooseDesired, takeExpiredOverlay, activeConcurrencyLimit, expired, limited, pending]
      | some limit => simp [concurrencyActive, limited, running] at inactive

/-- An active concurrency overlay stays stored. -/
theorem chooseDesired_of_active (base : TriggerBasePolicy)
    (active : s.concurrencyActive now = true) (baseTarget : Nat) :
    (s.chooseDesired base now baseTarget).1.activeConcurrencyLimit ≠ none := by
  obtain ⟨overlay, restore⟩ := s
  cases overlay with
  | none => cases active
  | some stored =>
    simp only [concurrencyActive, Bool.and_eq_true, decide_eq_true_eq] at active
    have unexpired : ¬ stored.expiresAt ≤ now := Nat.not_le.mpr active.2
    obtain ⟨limit, limited⟩ := Option.isSome_iff_exists.mp active.1
    simp [chooseDesired, takeExpiredOverlay, activeConcurrencyLimit, unexpired, limited]

/-- Expiry of a concurrency overlay leaves a pending restore, and expiry of
another overlay keeps one. -/
theorem restore_of_pruneExpiredOverlay
    (unlimited : (s.pruneExpiredOverlay now).activeConcurrencyLimit = none)
    (due : s.concurrencyExpired now = true ∨ (s.activeConcurrencyLimit = none →
      s.restoreBaseOnNextReconcile = true)) :
    (s.pruneExpiredOverlay now).restoreBaseOnNextReconcile = true := by
  obtain ⟨overlay, restore⟩ := s
  cases overlay with
  | none =>
    simpa [pruneExpiredOverlay, takeExpiredOverlay, concurrencyExpired,
      activeConcurrencyLimit] using due
  | some active =>
    by_cases expired : active.expiresAt ≤ now
    · cases limited : active.overlay.concurrencyLimit with
      | none =>
        simpa [pruneExpiredOverlay, takeExpiredOverlay, expired, limited,
          concurrencyExpired, activeConcurrencyLimit] using due
      | some limit => simp [pruneExpiredOverlay, takeExpiredOverlay, expired, limited]
    · have unlimitedBefore : active.overlay.concurrencyLimit = none := by
        simpa [pruneExpiredOverlay, takeExpiredOverlay, expired,
          activeConcurrencyLimit] using unlimited
      simpa [pruneExpiredOverlay, takeExpiredOverlay, expired,
        unlimitedBefore, concurrencyExpired, activeConcurrencyLimit] using
        due

end TriggerPolicyOverlayState

/-- What the calls keep: the permits are counted, and a restore that is owed is
remembered by the flag or will be by the stored overlay. -/
structure Remembers (s : RecordState) : Prop where
  accounted : Accounted s.held s.shared
  registered : s.shared.registered = true
  flagged : s.owed = true → s.shared.overlay.activeConcurrencyLimit = none →
      s.shared.overlay.restoreBaseOnNextReconcile = true

namespace Remembers

variable {base : TriggerBasePolicy} {s next : RecordState}

theorem new (base : TriggerBasePolicy) (now : Instant) : Remembers (RecordState.new base now) := by
  refine ⟨⟨?_, Semaphore.SingleWaiter.new _⟩, rfl, nofun⟩
  simp [RecordState.new, Semaphore.new]

/-- A reconciliation with a restore due brings the limit back. -/
theorem reconcile_restores (remembers : Remembers s) (due : s.restoreDue = true)
    (inactive : s.shared.overlay.concurrencyActive s.shared.now = false) (baseTarget : Nat) :
    (reconcileEffectiveConcurrency base s.shared baseTarget).1.currentLimit =
      max base.initialConcurrency s.held := by
  have pending : s.shared.overlay.concurrencyExpired s.shared.now =
      true ∨ s.shared.overlay.restoreBaseOnNextReconcile = true := by
    rcases Bool.or_eq_true_iff.mp due with owed | expired
    · by_cases unlimited : s.shared.overlay.activeConcurrencyLimit = none
      · exact .inr (remembers.flagged owed unlimited)
      · rcases active_or_expired s.shared.now unlimited with active | expired
        · rw [inactive] at active
          cases active
        · exact .inl expired
    · exact .inl expired
  have desired := chooseDesired_restores base inactive pending baseTarget
  have fits : clampDesired base base.initialConcurrency = base.initialConcurrency := by
    have positive := base.initialConcurrency_pos
    have bounded := base.initialConcurrency_le_max
    unfold clampDesired
    omega
  have accounted : Accounted s.held { s.shared with
      overlay := (s.shared.overlay.chooseDesired base s.shared.now
        baseTarget).1 } :=
    ⟨remembers.accounted.counted, remembers.accounted.unqueued⟩
  unfold reconcileEffectiveConcurrency
  rw [if_pos remembers.registered]
  simp only [reconcileConcurrencyLimit_limit accounted, desired, fits]

/-- Every call that keeps the discipline keeps the record's memory. -/
theorem step (remembers : Remembers s) (keeps : s.KeepsRestore call)
    (h : s.step base call = some next) : Remembers next := by
  obtain ⟨accounted, registered, flagged⟩ := remembers
  cases call with
  | request overlay =>
    simp only [RecordState.step] at h
    split at h
    · rename_i record accepted
      cases h
      obtain ⟨-, -, -, rfl⟩ := requestOverlay_ok accepted
      refine ⟨⟨accounted.counted, accounted.unqueued⟩, registered, ?_⟩
      intro owed unlimited
      have without : overlay.concurrencyLimit = none := unlimited
      cases stored : s.shared.overlay.activeConcurrencyLimit with
      | some limit => simp [without]
      | none =>
        have owedBefore : s.owed = true := by
          simpa [stored] using owed
        exact absurd without (keeps owedBefore stored)
    · cases h
      exact ⟨accounted, registered, flagged⟩
  | clear reason =>
    simp only [RecordState.step] at h
    split at h
    · rename_i record accepted
      cases h
      obtain ⟨-, rfl⟩ := clearOverlay_ok accepted
      refine ⟨⟨accounted.counted, accounted.unqueued⟩, registered, ?_⟩
      intro owed _
      cases stored : s.shared.overlay.activeConcurrencyLimit with
      | some limit => simp
      | none =>
        have owedBefore : s.owed = true := by
          simpa [stored] using owed
        simpa using flagged owedBefore stored
    · cases h
      exact ⟨accounted, registered, flagged⟩
  | readPolicy =>
    cases h
    refine ⟨⟨accounted.counted, accounted.unqueued⟩, registered, ?_⟩
    intro due unlimited
    apply restore_of_pruneExpiredOverlay unlimited
    rcases Bool.or_eq_true_iff.mp due with owed | expired
    · exact .inr (flagged owed)
    · exact .inl expired
  | reconcile baseTarget =>
    cases h
    refine ⟨accounted.reconcileEffectiveConcurrency baseTarget, ?_, ?_⟩
    · simp only [reconcileEffectiveConcurrency, registered, if_true]
      exact (reconcileConcurrencyLimit_frame base _ _).2.2.1
    · intro owed unlimited
      obtain ⟨-, active⟩ := Bool.and_eq_true_iff.mp owed
      simp only [reconcileEffectiveConcurrency, registered, if_true,
        (reconcileConcurrencyLimit_frame base _ _).2.1] at unlimited
      exact absurd unlimited (chooseDesired_of_active base active _)
  | acquire =>
    simp only [RecordState.step, Option.map_eq_some_iff] at h
    obtain ⟨sem, acquired, rfl⟩ := h
    refine ⟨⟨?_, accounted.unqueued.tryAcquire acquired⟩, registered, flagged⟩
    have counted := accounted.counted
    unfold Semaphore.tryAcquire at acquired
    split at acquired
    · cases acquired
    · cases acquired
      simp only
      omega
  | release =>
    simp only [RecordState.step] at h
    split at h
    · cases h
    · rename_i held holding
      cases h
      refine ⟨⟨?_, accounted.unqueued.addPermits 1⟩, registered, flagged⟩
      have counted := accounted.counted
      simp only [Semaphore.addPermits, accounted.unqueued.1, List.length_nil]
      omega
  | advance duration =>
    cases h
    exact ⟨⟨accounted.counted, accounted.unqueued⟩, registered, flagged⟩

end Remembers

/-- A temporary concurrency overlay is undone once it ends, for every sequence
of calls in which no request for another kind of overlay falls between its end
and the reconciliation: the first reconciliation at which no concurrency overlay
is active brings the limit down to the initial concurrency, or to the permits in
use where they are more. -/
theorem ended_overlay_restored {base : TriggerBasePolicy} {now : Instant}
    {calls : List RecordCall} {state : RecordState}
    (run : GuardedRun (RecordState.step base) RecordState.KeepsRestore
      (RecordState.new base now) calls state) (due : state.restoreDue = true)
    (inactive : state.shared.overlay.concurrencyActive state.shared.now = false)
    (baseTarget : Nat) :
    (reconcileEffectiveConcurrency base state.shared baseTarget).1.currentLimit ≤
      max base.initialConcurrency state.held := by
  have remembers : Remembers state :=
    run.invariant (Remembers.new base now)
      fun remembers keeps stepped => remembers.step keeps stepped
  exact Nat.le_of_eq (remembers.reconcile_restores due inactive baseTarget)

/-- A base policy that starts with one permit and allows 64. -/
def elasticBase : TriggerBasePolicy :=
  { restartPolicy := .default, scaling := some .default }

/-- An overlay that raises the limit to eight. -/
def eightAtATime : TriggerPolicyOverlay :=
  { reason := "catching up"
    ttl := fromSecs 30
    concurrencyLimit := some 8
    dispatchTimeout := none
    retryPolicy := none }

/-- An overlay that sets a timeout and leaves concurrency alone. -/
def timeoutOnly : TriggerPolicyOverlay :=
  { reason := "slow downstream"
    ttl := fromSecs 30
    concurrencyLimit := none
    dispatchTimeout := some (fromSecs 5)
    retryPolicy := none }

/-- Raised to eight and cleared, the limit comes back to one. -/
theorem ended_overlay_restored_after_clear :
    ∃ state : RecordState,
      GuardedRun (RecordState.step elasticBase) RecordState.KeepsRestore
          (RecordState.new elasticBase 0)
          [.request eightAtATime, .reconcile 1, .clear "recovered"] state ∧
        state.shared.currentLimit = 8 ∧
        (reconcileEffectiveConcurrency elasticBase state.shared 8).1.currentLimit ≤ 1 := by
  obtain ⟨state, run, raised, due, inactive, idle⟩ :
      ∃ state : RecordState,
        GuardedRun (RecordState.step elasticBase) RecordState.KeepsRestore
            (RecordState.new elasticBase 0)
            [.request eightAtATime, .reconcile 1, .clear "recovered"]
            state ∧
          state.shared.currentLimit = 8 ∧ state.restoreDue = true ∧
          state.shared.overlay.concurrencyActive state.shared.now = false ∧
          state.held = 0 :=
    GuardedRun.exists_of_check (by decide +kernel)
  have restored := ended_overlay_restored run due inactive 8
  rw [idle] at restored
  exact ⟨state, run, raised, restored⟩

/-- A request for a timeout overlay after the clear overwrites the pending
restore: the reconciliation that follows keeps the limit of the overlay that was
cleared, although no dispatch holds a permit. -/
theorem restore_lost_by_timeout_overlay :
    ∃ state : RecordState,
      Run (RecordState.step elasticBase) (RecordState.new elasticBase 0)
          [.request eightAtATime, .reconcile 1, .clear "recovered", .request timeoutOnly] state ∧
        state.restoreDue = true ∧
        state.shared.overlay.concurrencyActive state.shared.now = false ∧
        state.held = 0 ∧ elasticBase.initialConcurrency = 1 ∧
        (reconcileEffectiveConcurrency elasticBase state.shared
          (currentLimitOrBase state.shared)).1.currentLimit = 8 :=
  Run.exists_of_check (by decide +kernel)

end ServiceDaemon
