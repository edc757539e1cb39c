/-
Purpose: The uninterrupted tick of the scale monitor: that the monitor's own
  steps compute it, and that the overlay record makes no difference to it while
  it holds no overlay.
Main exports: monitorTick_steps, scaleUpTarget_eq, monitorTick_inDaemon
-/
import ServiceDaemon.Core.Scaling
import ServiceDaemon.Proofs.OverlayRestore

namespace ServiceDaemon

open AsyncLib

/-! ### The sample -/

theorem sampleMax_of_pruned (registered : shared.registered = true)
    (pruned : shared.overlay.pruneExpiredOverlay shared.now = shared.overlay) :
    sampleMax scaling true shared = (shared,
        shared.overlay.activeConcurrencyLimit.getD scaling.maxConcurrency) := by
  unfold sampleMax effectiveConcurrencyLimit
  rw [if_pos rfl, if_pos registered]
  simp only [pruned]

/-! ### The steps of a tick -/

/-- Steps of the scale monitor with nobody in between. -/
def MonitorSteps (base : TriggerBasePolicy) (scaling : ScalingPolicy) (inDaemon : Bool) :
    ConcurrencyState × MonitorPoint → ConcurrencyState × MonitorPoint → Prop :=
  Relation.ReflTransGen fun before after =>
    monitorStep base scaling inDaemon before.1 before.2 = some after

section Steps

variable {base : TriggerBasePolicy} {scaling : ScalingPolicy} {inDaemon : Bool}
  {shared after : ConcurrencyState} {idleSince : Option Instant}

/-- A reconciliation of the monitor, and its return to sleep. -/
private theorem ReconcileSteps.monitor (steps : ReconcileSteps base .monitor start finish) :
    MonitorSteps base scaling inDaemon (start.1, .reconciling idleSince start.2)
      (finish.1, .reconciling idleSince finish.2) := by
  induction steps with
  | refl => exact .refl
  | @tail middle last earlier h ih =>
    refine ih.tail ?_
    obtain ⟨s, point⟩ := middle
    cases point with
    | finished limit => cases h
    | _ =>
      replace h : reconcileStep base .monitor s _ = some last := h
      simp only [monitorStep, h, Option.map_some]

private theorem ResizeSteps.monitor (steps : ResizeSteps start finish) :
    MonitorSteps base scaling inDaemon (start.1, .resizing idleSince start.2)
      (finish.1, .resizing idleSince finish.2) := by
  induction steps with
  | refl => exact .refl
  | @tail middle last earlier h ih =>
    refine ih.tail ?_
    obtain ⟨s, point⟩ := middle
    cases point with
    | finished limit => cases h
    | _ =>
      replace h : resizeStep s _ = some last := h
      simp only [monitorStep, h, Option.map_some]

/-- A target goes through the record, and the monitor back to sleep. -/
private theorem reconciles_target (target : Nat) (free : shared.reconcileLock = none) :
    MonitorSteps base scaling inDaemon
      (shared, .reconciling idleSince (.lookup target))
      ((reconcileEffectiveConcurrency base shared target).1, .sleepFrom shared.now idleSince) := by
  refine (reconcileSteps_call shared target free).monitor.tail ?_
  have clock : (reconcileEffectiveConcurrency base shared target).1.now = shared.now := by
    unfold reconcileEffectiveConcurrency
    split
    · exact (reconcileConcurrencyLimit_frame ..).2.2.2
    · rfl
  simp only [monitorStep, clock]

/-- The monitor wakes up and samples. -/
private theorem samples (due : wakeAt ≤ shared.now) :
    MonitorSteps base scaling inDaemon (shared, .sleeping idleSince wakeAt)
      ((sampleMax scaling inDaemon shared).1,
        .sampled idleSince shared.currentLimit shared.sampledInFlight
          (sampleMax scaling inDaemon shared).2) := by
  refine .head (b := (shared, .readAvailable idleSince shared.currentLimit))
    (by simp only [monitorStep, due, if_true]) ?_
  cases inDaemon with
  | false => exact .single rfl
  | true =>
    refine .head rfl ?_
    simp only [sampleMax, if_true, effectiveConcurrencyLimit]
    split
    · rename_i registered
      refine .head (b := (shared, .pruneOverlay idleSince shared.currentLimit
        shared.sampledInFlight)) ?_ (.head rfl (.single rfl))
      simp only [monitorStep, registered, if_true]
      rfl
    · rename_i missing
      refine .single ?_
      simp only [monitorStep, missing]
      rfl

private theorem scales_down (limit effectiveMax : Nat)
    (free : inDaemon = true → shared.reconcileLock = none) :
    MonitorSteps base scaling inDaemon
      (shared, .scaleDown idleSince limit effectiveMax)
      (if inDaemon then
        let decided := scaleDownTarget scaling limit effectiveMax idleSince shared.now
        ((reconcileEffectiveConcurrency base shared decided.1).1, .sleepFrom shared.now decided.2)
      else
        let lowered := tryScaleDown scaling shared limit effectiveMax idleSince
        (lowered.1, .sleepFrom shared.now lowered.2)) := by
  simp only [tryScaleDown]
  generalize sought : scaleDownTarget scaling limit effectiveMax idleSince shared.now = decided
  refine .head (b := (shared, .afterScaleDown inDaemon shared.now limit decided.1 decided.2)) ?_ ?_
  · simp only [monitorStep, sought]
  cases inDaemon with
  | true => exact reconciles_target _ (free rfl)
  | false =>
    simp only [MonitorPoint.afterScaleDown, Bool.false_eq_true, if_false]
    split
    · exact .refl
    · refine (revoke_steps shared _ _ 0).monitor.trans ?_
      rw [Nat.zero_add]
      exact .head rfl (.single rfl)

private theorem scales_up (limit inFlight effectiveMax : Nat)
    (free : inDaemon = true → shared.reconcileLock = none) :
    MonitorSteps base scaling inDaemon
      (shared, .afterScaleUp inDaemon shared.now limit
        (scaleUpTarget scaling limit inFlight effectiveMax))
      (if inDaemon then
        (reconcileEffectiveConcurrency base shared
          (scaleUpTarget scaling limit inFlight effectiveMax)).1
      else tryScaleUp scaling shared limit inFlight effectiveMax, .sleepFrom shared.now none) := by
  cases inDaemon with
  | true => exact reconciles_target _ (free rfl)
  | false =>
    simp only [MonitorPoint.afterScaleUp, tryScaleUp, Bool.false_eq_true, if_false]
    split
    · exact .refl
    · exact .head rfl (.head rfl (.single rfl))

/-- A tick with nobody in between computes `monitorTick`. -/
theorem monitorTick_steps (shared : ConcurrencyState) (idleSince : Option Instant)
    (due : wakeAt ≤ shared.now) (free : inDaemon = true → shared.reconcileLock = none) :
    MonitorSteps base scaling inDaemon (shared, .sleeping idleSince wakeAt)
      ((monitorTick base scaling inDaemon shared idleSince).1, .sleepFrom shared.now
          (monitorTick base scaling inDaemon shared idleSince).2) := by
  refine (samples due).trans ?_
  obtain ⟨clock, lock⟩ :
      (sampleMax scaling inDaemon shared).1.now = shared.now ∧
        (sampleMax scaling inDaemon shared).1.reconcileLock = shared.reconcileLock := by
    unfold sampleMax effectiveConcurrencyLimit
    split
    · split <;> exact ⟨rfl, rfl⟩
    · exact ⟨rfl, rfl⟩
  rw [← lock] at free
  rw [← clock]
  unfold monitorTick
  simp only
  split
  · rename_i quiet
    refine .head (b := ((sampleMax scaling inDaemon shared).1,
      .scaleDown _ _ _)) (by simp only [monitorStep, quiet, if_true]; rfl) ?_
    cases inDaemon with
    | true => exact scales_down _ _ free
    | false => exact scales_down _ _ free
  · rename_i busy
    refine .head (by simp only [monitorStep, busy, if_false]; rfl) ?_
    cases inDaemon with
    | true => exact scales_up _ _ _ free
    | false => exact scales_up _ _ _ free

end Steps

/-! ### A tick without an overlay -/

section Clear

variable {base : TriggerBasePolicy} {shared : ConcurrencyState} {limit : Nat}

/-- The target of an idle tick. -/
theorem scaleDownTarget_cases (scaling : ScalingPolicy) (positive : 1 ≤ limit)
    (bounded : limit ≤ scaling.maxConcurrency) (since now : Instant) :
    scaleDownTarget scaling limit scaling.maxConcurrency (some since) now = (limit, some since) ∨
      scaling.scaleCooldown ≤ now - since ∧ scaling.initialConcurrency < limit ∧
        scaleDownTarget scaling limit scaling.maxConcurrency (some since) now =
          (scaling.initialConcurrency, none) := by
  have initial : max (min scaling.initialConcurrency scaling.maxConcurrency) 1 =
      scaling.initialConcurrency := by
    have := scaling.initial_pos
    have := scaling.initial_le_max
    omega
  have same : max (min limit scaling.maxConcurrency) 1 = limit := by omega
  simp only [scaleDownTarget, initial, same]
  split
  · exact .inl rfl
  · rename_i waited
    rw [not_or, Nat.not_lt, Nat.not_le] at waited
    exact .inr ⟨waited.1, waited.2, rfl⟩

theorem nextScaledLimit_eq (limit : Nat) (scaling : ScalingPolicy) :
    nextScaledLimit limit scaling = min (limit * scaling.scaleFactor) scaling.maxConcurrency := by
  have fits := scaling.max_fits
  unfold nextScaledLimit
  omega

/-- The target of a busy tick. -/
theorem scaleUpTarget_eq (scaling : ScalingPolicy) (positive : 1 ≤ limit)
    (bounded : limit ≤ scaling.maxConcurrency) (inFlight : Nat) :
    scaleUpTarget scaling limit inFlight scaling.maxConcurrency =
      if pressureLimitFor limit scaling.scaleThreshold ≤ inFlight
      then min (limit * scaling.scaleFactor) scaling.maxConcurrency
      else limit := by
  have whole : max (min scaling.maxConcurrency scaling.maxConcurrency) 1 =
      scaling.maxConcurrency := by omega
  have same : max (min limit scaling.maxConcurrency) 1 = limit := by omega
  have grown : limit * 1 ≤ limit * scaling.scaleFactor :=
    Nat.mul_le_mul_left limit (Nat.le_of_lt scaling.factor_ge_two)
  simp only [scaleUpTarget, whole, same, nextScaledLimit_eq, ← Nat.not_lt]
  split_ifs <;> omega

/-- A busy tick leaves the limit alone or multiplies it. -/
theorem scaleUpTarget_cases (scaling : ScalingPolicy) (positive : 1 ≤ limit)
    (bounded : limit ≤ scaling.maxConcurrency) (inFlight : Nat) :
    scaleUpTarget scaling limit inFlight scaling.maxConcurrency = limit ∨
      limit < scaling.maxConcurrency ∧ scaleUpTarget scaling limit inFlight scaling.maxConcurrency =
          min (limit * scaling.scaleFactor) scaling.maxConcurrency := by
  rw [scaleUpTarget_eq scaling positive bounded]
  rcases Nat.lt_or_eq_of_le bounded with below | largest
  · split
    · exact .inr ⟨below, rfl⟩
    · exact .inl rfl
  · have grown : limit * 1 ≤ limit * scaling.scaleFactor :=
      Nat.mul_le_mul_left limit (Nat.le_of_lt scaling.factor_ge_two)
    left
    split <;> omega

theorem lt_scaled (scaling : ScalingPolicy)
    (below : limit < scaling.maxConcurrency) (positive : 1 ≤ limit) :
    limit < min (limit * scaling.scaleFactor) scaling.maxConcurrency := by
  have doubled : limit * 2 ≤ limit * scaling.scaleFactor :=
    Nat.mul_le_mul_left limit scaling.factor_ge_two
  omega

private theorem reconcile_of_clear (registered : shared.registered = true)
    (clear : shared.overlay = .default) (target : Nat) :
    reconcileEffectiveConcurrency base shared target =
      reconcileConcurrencyLimit base shared target := by
  unfold reconcileEffectiveConcurrency
  rw [if_pos registered, clear]
  show reconcileConcurrencyLimit base { shared with overlay := .default }
    target = _
  rw [← clear]

/-- Without an overlay the record makes no difference to a tick, as long as the
limit is within the bounds of the policy. -/
theorem monitorTick_inDaemon (scaled : base.scaling = some scaling)
    (registered : shared.registered = inDaemon) (clear : shared.overlay = .default)
    (positive : 1 ≤ shared.currentLimit) (bounded : shared.currentLimit ≤ scaling.maxConcurrency)
    (idleSince : Option Instant) :
    monitorTick base scaling inDaemon shared idleSince =
      monitorTick base scaling false shared idleSince := by
  cases inDaemon with
  | false => rfl
  | true =>
    have maximum : base.maxConcurrency = scaling.maxConcurrency := by
      simp only [TriggerBasePolicy.maxConcurrency, scaled]
    have clamped : ∀ target, 1 ≤ target → target ≤ scaling.maxConcurrency →
        clampDesired base target = target := by
      intro target above within
      rw [clampDesired, maximum]
      omega
    have sampled : sampleMax scaling true shared = (shared, scaling.maxConcurrency) := by
      rw [sampleMax_of_pruned registered (by rw [clear]; rfl), clear]
      rfl
    have unmanaged : sampleMax scaling false shared = (shared, scaling.maxConcurrency) := rfl
    simp only [monitorTick, sampled, unmanaged, if_true, Bool.false_eq_true,
      if_false, reconcile_of_clear registered clear]
    split
    · rename_i idle
      unfold ConcurrencyState.sampledInFlight at idle
      rcases scaleDownTarget_cases scaling positive bounded
        (idleSince.getD shared.now) shared.now with
        target | ⟨-, larger, target⟩
      · simp [tryScaleDown, target, reconcileConcurrencyLimit, clamped _ positive bounded]
      · have above := scaling.initial_pos
        have within := scaling.initial_le_max
        simp [tryScaleDown, target, reconcileConcurrencyLimit,
          clamped _ above within, larger, Nat.not_lt_of_gt larger, idle]
    · rcases scaleUpTarget_cases scaling positive bounded
        shared.sampledInFlight with target | ⟨below, target⟩
      · simp [tryScaleUp, target, reconcileConcurrencyLimit, clamped _ positive bounded]
      · have larger := lt_scaled scaling below positive
        have least : 1 ≤ min (shared.currentLimit * scaling.scaleFactor)
            scaling.maxConcurrency :=
          Nat.le_of_lt (Nat.lt_of_le_of_lt positive larger)
        rw [target]
        simp only [tryScaleUp, target, reconcileConcurrencyLimit,
          clamped _ least (Nat.min_le_right _ _), if_pos larger,
          if_neg (Nat.not_le.mpr larger)]

end Clear

end ServiceDaemon
