/-
Purpose: How large the semaphores of a daemon become.  No resize takes a
  trigger's semaphore above the maximum of its policy, and an accepted overlay
  takes it there; so the semaphores stay within what tokio supports exactly
  when the configured bounds do.
Main exports: monitor_ticks, reaches_maxConcurrency, semaphores_withinMax_iff
-/
import ServiceDaemon.Proofs.PermitLedger
import ServiceDaemon.Proofs.ScaleTick

namespace ServiceDaemon

open AsyncLib StepSystem TriggerPolicyOverlayState

variable {Payload : Type} {cfg : RunnerConfig}
  {s : RunnerState Payload}

/-! ### An overlay for a given limit -/

/-- An overlay that asks for `limit` dispatches at a time. -/
def limitOverlay (limit : Nat) : TriggerPolicyOverlay :=
  { reason := "more workers"
    ttl := fromSecs 30
    concurrencyLimit := some limit
    dispatchTimeout := none
    retryPolicy := none }

/-- The record once the overlay was accepted at `now`. -/
def limitRecord (now : Instant) (limit : Nat) : TriggerPolicyOverlayState :=
  { overlay :=
      some { overlay := limitOverlay limit, expiresAt := now + fromSecs 30 }
    restoreBaseOnNextReconcile := false }

theorem limitOverlay_valid (positive : 1 ≤ limit) :
    (limitOverlay limit).validateShape = .ok () := by
  have nonzero : limit ≠ 0 := Nat.one_le_iff_ne_zero.mp positive
  have reasoned : validateReason "more workers" = .ok () := by decide
  have lasting : fromSecs 30 ≠ 0 := by simp [fromSecs]
  simp [TriggerPolicyOverlay.validateShape, limitOverlay, nonzero, reasoned, lasting]

/-- Every limit that the base policy allows is accepted. -/
theorem requestOverlay_limit {base limit} (positive : 1 ≤ limit)
    (bounded : limit ≤ base.maxConcurrency) (now : Instant) :
    default.requestOverlay base true now
      (limitOverlay limit) = .ok (limitRecord now limit) := by
  have within : validateOverlayBounds base
      (limitOverlay limit) = .ok () :=
    if_neg (Nat.not_lt.mpr bounded)
  rw [requestOverlay, limitOverlay_valid positive]
  show (do
    validateOverlayBounds base (limitOverlay limit)
    pure _) = _
  rw [within]
  rfl

/-- An overlay in force is not pruned. -/
theorem pruneExpiredOverlay_of_lt {record : TriggerPolicyOverlayState}
    {active : ActiveTriggerPolicyOverlay} {now : Instant} (stored : record.overlay = some active)
    (unexpired : now < active.expiresAt) : record.pruneExpiredOverlay now = record := by
  simp only [pruneExpiredOverlay, takeExpiredOverlay, stored]
  split
  · rename_i expired
    exact absurd expired (Nat.not_le.mpr unexpired)
  · rfl

theorem tick_lt_expiry (now : Instant) :
    now + monitorInterval < now + fromSecs 30 :=
  Nat.add_lt_add_left (by decide) now

theorem limitRecord_limitsTo (now : Instant) (limit : Nat) :
    (limitRecord now limit).limitsTo (now + monitorInterval) limit = true := by
  have limited : (limitOverlay limit).concurrencyLimit = some limit := rfl
  simp only [limitRecord, limitsTo, limited, tick_lt_expiry now, decide_true, Bool.and_true]

/-! ### A tick of the monitor -/

section Tick

variable {policy : ScalingPolicy}

/-- The monitor steps with nobody in between. -/
theorem monitor_steps (s : RunnerState Payload) (scaled : cfg.base.scaling = some policy)
    (running : s.monitorAborted = false)
    (steps : MonitorSteps cfg.base policy cfg.inDaemon start finish) :
    ∃ count, Run (Runner.step cfg)
      { s with shared := start.1, monitor := start.2 }
      (List.replicate count .monitor)
      { s with shared := finish.1, monitor := finish.2 } := by
  induction steps with
  | refl => exact ⟨0, .nil⟩
  | tail earlier h ih =>
    obtain ⟨count, run⟩ := ih
    refine ⟨count + 1, ?_⟩
    rw [List.replicate_succ']
    refine .snoc run trivial ?_
    simp [Runner.step, Runner.monitorMoves, scaled, running, h]

theorem monitor_ticks {idleSince wakeAt} (scaled : cfg.base.scaling = some policy)
    (running : s.monitorAborted = false) (asleep : s.monitor = .sleeping idleSince wakeAt)
    (due : wakeAt ≤ s.shared.now) (free : s.shared.reconcileLock = none) :
    ∃ count, Run (Runner.step cfg) s (List.replicate count .monitor)
      { s with
        shared := (monitorTick cfg.base policy cfg.inDaemon s.shared idleSince).1
        monitor :=
          .sleepFrom s.shared.now
            (monitorTick cfg.base policy cfg.inDaemon s.shared
              idleSince).2 } := by
  have ticked := monitor_steps s scaled running
    (monitorTick_steps s.shared idleSince due fun _ => free)
  rwa [← asleep] at ticked

theorem monitorTick_idle {base inDaemon shared idleSince} (managed : inDaemon = true)
    (registered : shared.registered = true) (idle : shared.sampledInFlight = 0)
    (pruned : shared.overlay.pruneExpiredOverlay shared.now = shared.overlay) :
    (monitorTick base policy inDaemon shared idleSince).1 =
      (reconcileEffectiveConcurrency base shared
        (scaleDownTarget policy shared.currentLimit
          (shared.overlay.activeConcurrencyLimit.getD policy.maxConcurrency)
          (some (idleSince.getD shared.now)) shared.now).1).1 := by
  simp only [monitorTick, idle, if_true, managed, sampleMax_of_pruned registered pruned]

end Tick

/-! ### The largest semaphore -/

/-- With nothing in flight, an active overlay gives the semaphore exactly the
permits it asks for. -/
theorem permits_of_limitsTo {base shared limit} (accounted : Accounted 0 shared)
    (registered : shared.registered = true)
    (active : shared.overlay.limitsTo shared.now limit = true)
    (fits : 1 ≤ limit ∧ limit ≤ base.maxConcurrency) (baseTarget : Nat) :
    (reconcileEffectiveConcurrency base shared baseTarget).1.semaphore.permits = limit := by
  have counted : (reconcileEffectiveConcurrency base shared baseTarget).1.semaphore.permits + 0 =
        (reconcileEffectiveConcurrency base shared baseTarget).1.currentLimit :=
    (accounted.reconcileEffectiveConcurrency baseTarget).counted
  have reached : (reconcileEffectiveConcurrency base shared baseTarget).1.currentLimit = limit := by
    let chosen := shared.overlay.chooseDesired base shared.now baseTarget
    have kept : Accounted 0 { shared with overlay := chosen.1 } :=
      ⟨accounted.counted, accounted.unqueued⟩
    have clamped : (reconcileConcurrencyLimit base
        { shared with overlay := chosen.1 } chosen.2).1.currentLimit =
          max (clampDesired base chosen.2) 0 :=
      reconcileConcurrencyLimit_limit kept chosen.2
    unfold reconcileEffectiveConcurrency
    rw [if_pos registered]
    refine clamped.trans ?_
    simp only [chosen, chooseDesired_of_limitsTo active, clampDesired]
    omega
  omega

theorem step_requestOverlay {overlay record}
    (accepted : s.shared.overlay.requestOverlay cfg.base
      s.shared.registered s.shared.now overlay = .ok record) :
    Runner.step cfg s (.requestOverlay overlay) = some
        { s with shared := { s.shared with overlay := record } } := by
  simp only [Runner.step, accepted]

/-- An accepted overlay grows the semaphore of a fresh runner to the maximum of
its policy: the request is followed by one tick of the monitor, and nothing is
dispatched. -/
theorem reaches_maxConcurrency {policy : ScalingPolicy} (managed : cfg.inDaemon = true)
    (scaled : cfg.base.scaling = some policy) (now : Instant) :
    ∃ (acts : List (Action Payload)) (s : RunnerState Payload),
      Runner.Reaches cfg now acts s ∧ s.shared.semaphore.permits = cfg.base.maxConcurrency := by
  let fresh : RunnerState Payload := RunnerState.new cfg now
  let record := limitRecord now cfg.base.maxConcurrency
  let due : RunnerState Payload :=
    { fresh with shared := { fresh.shared with overlay := record, now := now + monitorInterval } }
  have positive := cfg.base.maxConcurrency_pos
  have accepted : fresh.shared.overlay.requestOverlay cfg.base
      fresh.shared.registered fresh.shared.now
      (limitOverlay cfg.base.maxConcurrency) = .ok record := by
    show default.requestOverlay cfg.base cfg.inDaemon now _ = _
    rw [managed]
    exact requestOverlay_limit positive (Nat.le_refl _) now
  have opening : Runner.Reaches cfg now
      [.requestOverlay (limitOverlay cfg.base.maxConcurrency), .advance monitorInterval] due :=
    GuardedRun.cons trivial (step_requestOverlay accepted) (GuardedRun.cons trivial rfl .nil)
  have asleep : due.monitor = .sleeping none (now + monitorInterval) := by
    simp only [due, fresh, RunnerState.new, scaled]
    rfl
  obtain ⟨count, ticked⟩ := monitor_ticks scaled rfl asleep (Nat.le_refl _) rfl
  have pruned : due.shared.overlay.pruneExpiredOverlay due.shared.now = due.shared.overlay :=
    pruneExpiredOverlay_of_lt rfl (tick_lt_expiry now)
  refine ⟨_, _, opening.append ticked, ?_⟩
  have limited : due.shared.overlay.limitsTo due.shared.now
      cfg.base.maxConcurrency = true := limitRecord_limitsTo now _
  have idle : due.shared.sampledInFlight = 0 := Nat.sub_self _
  rw [monitorTick_idle managed managed idle pruned]
  exact permits_of_limitsTo ⟨rfl, Semaphore.SingleWaiter.new _⟩ managed
    limited ⟨positive, Nat.le_refl _⟩ _

/-! ### Accepted settings -/

/-- The semaphores of a daemon never outgrow tokio's bound, from the one that
`build` creates to every state of every trigger runner, exactly when the bound
on isolated startups and the maximum of the trigger's policy are within it. -/
theorem semaphores_withinMax_iff (settings : DaemonSettings) (declared : Option ScalingPolicy)
    (name : String) (serviceId : ServiceId) (generation : Nat) (now : Instant) :
    (settings.isolatedStartupPermits.WithinMax ∧
        ∀ (schedule : List (Action Payload)) (state : RunnerState Payload), Runner.Reaches
              (runAsService settings.builder.build declared name serviceId
                generation) now schedule state →
            state.shared.semaphore.WithinMax) ↔
      settings.isolatedStartupConcurrencyLimit.val ≤ Semaphore.maxPermits ∧
        (runAsService settings.builder.build declared name serviceId
          generation).base.maxConcurrency ≤ Semaphore.maxPermits := by
  constructor
  · rintro ⟨built, bounded⟩
    refine ⟨built, ?_⟩
    cases scaled : (runAsService settings.builder.build declared name
        serviceId generation).base.scaling with
    | none =>
      rw [TriggerBasePolicy.maxConcurrency, scaled]
      decide
    | some policy =>
      obtain ⟨schedule, state, reached, grown⟩ :=
        reaches_maxConcurrency rfl scaled now
      rw [← grown]
      exact bounded schedule state reached
  · rintro ⟨startups, policy⟩
    refine ⟨startups, ?_⟩
    intro schedule state reached
    have outstanding := (Ledger.reaches reached).outstanding_le
    simp only [Semaphore.outstanding] at outstanding
    show state.shared.semaphore.permits ≤ Semaphore.maxPermits
    omega

/-- The largest `usize` is accepted everywhere: as the bound on isolated
startups, whose semaphore `build` cannot create, and as the maximum of a scaling
policy, to which an overlay then grows the semaphore of a queue. -/
theorem accepted_settings_overflow :
    ∃ (limit : NonZeroUsize) (policy : ScalingPolicy),
      limit.get = ⟨usizeMax, by decide⟩ ∧
        ScalingPolicy.tryNew 1 ⟨usizeMax, by decide⟩ 2 5 (fromSecs 30) = .ok policy ∧
        ¬ (DaemonSettings.new.withIsolatedStartupConcurrencyLimit
          limit).isolatedStartupPermits.WithinMax ∧
        ∃ (schedule : List (Action Unit)) (state : RunnerState Unit),
          Runner.Reaches
              (runAsService (ServiceDaemonBuilder.new.withTriggerConfig
                  (.scaling policy)).build none "queue" ⟨1⟩ 1)
              0 schedule state ∧
            ¬ state.shared.semaphore.WithinMax := by
  let limit : NonZeroUsize := ⟨⟨usizeMax, by decide⟩, by decide⟩
  let policy : ScalingPolicy :=
    { ScalingPolicy.default with
      maxConcurrency := usizeMax
      initial_le_max := by decide
      max_fits := Nat.le_refl _ }
  refine ⟨limit, policy, rfl, rfl, ?_, ?_⟩
  · show ¬ usizeMax ≤ Semaphore.maxPermits
    decide
  · have scaled : (runAsService (ServiceDaemonBuilder.new.withTriggerConfig (.scaling policy)).build
        none "queue" ⟨1⟩ 1).base.scaling = some policy := rfl
    obtain ⟨schedule, (state : RunnerState Unit), reached, grown⟩ :=
      reaches_maxConcurrency rfl scaled 0
    refine ⟨schedule, state, reached, ?_⟩
    show ¬ state.shared.semaphore.permits ≤ Semaphore.maxPermits
    rw [grown]
    show ¬ usizeMax ≤ Semaphore.maxPermits
    decide

end ServiceDaemon
