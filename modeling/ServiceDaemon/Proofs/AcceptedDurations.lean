/-
Purpose: Which accepted durations the deadlines of the framework can bear.  The
  checks of the builders look for zero only, so an overlay request and a
  provider initialisation panic exactly when the clock ends before their
  deadline does.
Main exports: DeadlinesFit, DeadlinesFit.reaches, accepted_durations_fit_iff
-/
import ServiceDaemon.Core.BoundedClock

namespace ServiceDaemon

open StepSystem

/-! ### The deadlines of a provider initialisation -/

section Init

variable {Value : Type} {cfg : ProviderInitConfig}
  {s next : ProviderInitState Value}

/-- The deadline and the end of the wait are instants of the clock. -/
structure DeadlinesFit (cfg : ProviderInitConfig)
    (s : ProviderInitState Value) : Prop where
  deadline : s.deadline cfg ≤ instantMax
  wait : ∀ wakeAt, s.point = .waiting wakeAt → wakeAt ≤ instantMax
  unpanicked : s.point ≠ .panicked

namespace DeadlinesFit

theorem new (fits : now + cfg.policy.providerInitTimeout ≤ instantMax) :
    DeadlinesFit cfg (ProviderInitState.new cfg now : ProviderInitState Value) :=
  ⟨fits, nofun, nofun⟩

theorem moves (fit : DeadlinesFit cfg s) (start : next.start = s.start)
    (settled : ∀ wakeAt, next.point ≠ .waiting wakeAt)
    (unpanicked : next.point ≠ .panicked) : DeadlinesFit cfg next := by
  refine ⟨?_, ?_, unpanicked⟩
  · simp only [ProviderInitState.deadline, start]
    exact fit.deadline
  · intro wakeAt here
    exact absurd here (settled wakeAt)

theorem sleep_le_deadline (early : s.now < s.deadline cfg) :
    s.now + s.sleepFor cfg ≤ s.deadline cfg := by
  have cut : s.sleepFor cfg ≤ s.deadline cfg - s.now := Nat.min_le_right _ _
  rw [Nat.add_comm]
  exact Nat.add_le_of_le_sub (Nat.le_of_lt early) cut

theorem step (fit : DeadlinesFit cfg s) (calm : a ≠ .attemptPanics)
    (h : ProviderInit.step cfg s a = some next) : DeadlinesFit cfg next := by
  cases ProviderInitMove.of_step h with
  | fails here =>
    rename_i error
    cases error with
    | fatal msg => exact fit.moves rfl nofun nofun
    | retryable msg => exact fit.moves rfl nofun nofun
  | panics here => exact absurd rfl calm
  | waits here early =>
    refine ⟨fit.deadline, ?_, nofun⟩
    intro wakeAt waiting
    cases waiting
    exact Nat.le_trans (sleep_le_deadline early) fit.deadline
  | ticks | cancels => exact ⟨fit.deadline, fit.wait, fit.unpanicked⟩
  | _ => exact fit.moves rfl nofun nofun

theorem reaches (fit : DeadlinesFit cfg start)
    (run : GuardedRun (ProviderInit.step cfg) (fun _ a => a ≠ .attemptPanics) start acts s) :
    DeadlinesFit cfg s :=
  run.invariant fit fun fit calm h => fit.step calm h

end DeadlinesFit

/-- The initialisation starts unless the clock ends before its deadline. -/
theorem initFallibleWithSource_returned_iff {start : ClockInstant}
    {initial : ProviderInitState Value} :
    initFallibleWithSource cfg start = .returned initial ↔
      start.nanos + cfg.policy.providerInitTimeout ≤ instantMax ∧
        initial = .new cfg start.nanos := by
  unfold initFallibleWithSource
  constructor
  · intro returned
    split at returned
    · cases returned
    · rename_i deadline added
      cases returned
      refine ⟨?_, rfl⟩
      by_contra late
      rw [ClockInstant.checkedAdd_eq_none.mpr (Nat.lt_of_not_le late)] at added
      cases added
  · rintro ⟨fits, rfl⟩
    rw [ClockInstant.checkedAdd_of_le fits]

theorem initFallibleWithSource_panicked
    (late : instantMax < start.nanos + cfg.policy.providerInitTimeout) :
    (initFallibleWithSource cfg start : CallResult (ProviderInitState Value)) = .panicked := by
  unfold initFallibleWithSource
  rw [ClockInstant.checkedAdd_eq_none.mpr late]

/-- The initialisation starts, and whatever its attempts return, without a
panic of their own it never panics and never leaves the clock. -/
def InitNeverPanics (Value : Type) (cfg : ProviderInitConfig) (start : ClockInstant) : Prop :=
  ∃ initial : ProviderInitState Value,
    initFallibleWithSource cfg start = .returned initial ∧
      ∀ (acts : List (ProviderInitAction Value))
        (s : ProviderInitState Value),
        GuardedRun (ProviderInit.step cfg)
            (fun _ a => a ≠ .attemptPanics) initial acts s →
          DeadlinesFit cfg s

theorem initNeverPanics_iff :
    InitNeverPanics Value cfg start ↔
      start.nanos + cfg.policy.providerInitTimeout ≤ instantMax := by
  constructor
  · rintro ⟨initial, returned, -⟩
    exact (initFallibleWithSource_returned_iff.mp returned).1
  · intro fits
    refine ⟨.new cfg start.nanos, initFallibleWithSource_returned_iff.mpr ⟨fits, rfl⟩, ?_⟩
    intro acts s run
    exact (DeadlinesFit.new fits).reaches run

end Init

/-! ### Overlay requests -/

section Request

variable {base : TriggerBasePolicy} {registered : Bool} {now : ClockInstant}
  {overlay : TriggerPolicyOverlay} {s : TriggerPolicyOverlayState}

/-- A request that was not installed left the record as it was. -/
theorem requestOverlayCall_unchanged
    (uninstalled : (requestOverlayCall base registered now overlay s).2 ≠ .returned (.ok ())) :
    (requestOverlayCall base registered now overlay s).1 = s := by
  cases outcome : s.requestOverlay base registered now.nanos overlay with
  | error error => rw [requestOverlayCall_rejected outcome]
  | ok record =>
    rw [requestOverlayCall_accepted outcome] at uninstalled ⊢
    split at uninstalled
    · exact absurd rfl uninstalled
    · rename_i late
      rw [if_neg late]

/-- A request panics exactly when it passes the checks and the clock ends
before the overlay does. -/
theorem requestOverlayCall_panicked_iff :
    (requestOverlayCall base registered now overlay s).2 = .panicked ↔
      (∃ record, s.requestOverlay base registered now.nanos overlay = .ok record) ∧
        instantMax < now.nanos + overlay.ttl := by
  cases outcome : s.requestOverlay base registered now.nanos overlay with
  | error error =>
    rw [requestOverlayCall_rejected outcome]
    constructor
    · exact nofun
    · rintro ⟨⟨record, accepted⟩, -⟩
      cases accepted
  | ok record =>
    rw [requestOverlayCall_accepted outcome]
    split
    · rename_i fits
      exact iff_of_false nofun fun late => Nat.not_lt.mpr fits late.2
    · rename_i late
      exact iff_of_true rfl ⟨⟨record, rfl⟩, Nat.lt_of_not_le late⟩

/-- Which requests pass the checks: an overlay that its builder accepted, for
the record of a generation that runs, within the bounds of the base policy. -/
theorem requestOverlay_ok_iff (shape : overlay.validateShape = .ok ()) :
    (∃ record, s.requestOverlay base registered now.nanos overlay = .ok record) ↔
      registered = true ∧ ∀ limit, overlay.concurrencyLimit = some limit →
          limit ≤ base.maxConcurrency := by
  constructor
  · rintro ⟨record, accepted⟩
    obtain ⟨-, running, bounded, -⟩ := TriggerPolicyOverlayState.requestOverlay_ok accepted
    exact ⟨running, bounded⟩
  · rintro ⟨rfl, bounded⟩
    simp only [TriggerPolicyOverlayState.requestOverlay, shape, validateOverlayBounds_of_le bounded]
    exact ⟨_, rfl⟩

end Request

/-- What the builder returned passes the check of the request again. -/
theorem validateShape_of_build {builder : TriggerPolicyOverlayBuilder}
    {overlay : TriggerPolicyOverlay} (built : builder.build = .ok overlay) :
    overlay.validateShape = .ok () := by
  simp only [TriggerPolicyOverlayBuilder.build, bind, Except.bind] at built
  split at built
  · cases built
  · rename_i shape
    cases built
    exact shape

/-! ### Accepted durations -/

/-- For an overlay its builder accepted and a restart policy its builder
produced: neither call panics, and every deadline of the initialisation is an
instant of the clock, exactly when the overlay, if it passes the checks of the
request, and the initialisation end before the clock does.  In any case an
overlay that is not installed leaves the record unchanged. -/
theorem accepted_durations_fit_iff {Value : Type} {builder : TriggerPolicyOverlayBuilder}
    {overlay : TriggerPolicyOverlay} (built : builder.build = .ok overlay)
    (restart : RestartPolicyBuilder) {config : ProviderInitConfig}
    (configured : config.policy = restart.build) (base : TriggerBasePolicy) (registered : Bool)
    (state : TriggerPolicyOverlayState) (requestedAt startedAt : ClockInstant) :
    ((requestOverlayCall base registered requestedAt overlay state).2 ≠ .panicked ∧
        InitNeverPanics Value config startedAt ↔
      (registered = true → (∀ limit, overlay.concurrencyLimit = some limit →
            limit ≤ base.maxConcurrency) →
          requestedAt.nanos + overlay.ttl ≤ instantMax) ∧
        startedAt.nanos + restart.build.providerInitTimeout ≤ instantMax) ∧
      ((requestOverlayCall base registered requestedAt overlay state).2 ≠ .returned (.ok ()) →
        (requestOverlayCall base registered requestedAt overlay state).1 = state) := by
  refine ⟨?_, requestOverlayCall_unchanged⟩
  rw [initNeverPanics_iff, configured]
  apply and_congr_left
  intro _
  rw [Ne, requestOverlayCall_panicked_iff, requestOverlay_ok_iff (validateShape_of_build built)]
  constructor
  · intro unpanicked running bounded
    by_contra late
    exact unpanicked ⟨⟨running, bounded⟩, Nat.lt_of_not_le late⟩
  · rintro fits ⟨⟨running, bounded⟩, late⟩
    exact Nat.not_le.mpr late (fits running bounded)

/-- The zero of the clock. -/
def clockOrigin : ClockInstant :=
  ⟨0, Nat.zero_le _⟩

/-- The builder of an overlay that limits dispatches to five seconds. -/
def fiveSecondDispatches (ttl : Duration) : TriggerPolicyOverlayBuilder :=
  (TriggerPolicyOverlay.builder "slow downstream" ttl).dispatchTimeout
    (fromSecs 5)

/-- The initialisation of a provider under a policy. -/
def databaseInit (policy : RestartPolicy) : ProviderInitConfig :=
  { provider := "Database"
    policy := policy
    fatalSource := .userProviderFatal
    retryableTimeoutSource := .userProviderRetryableTimeout }

/-- Half a minute for the overlay and the default policy for the providers:
both deadlines are far from the end of the clock. -/
theorem accepted_durations_fit_half_minute :
    ∃ overlay, (fiveSecondDispatches (fromSecs 30)).build = .ok overlay ∧
      (requestOverlayCall { restartPolicy := .default, scaling := none } true
          clockOrigin overlay .default).2 ≠ .panicked ∧
        InitNeverPanics Unit (databaseInit RestartPolicy.builder.build)
          clockOrigin := by
  have built : (fiveSecondDispatches (fromSecs 30)).build =
      .ok (fiveSecondDispatches (fromSecs 30)).overlay := rfl
  refine ⟨_, built, ?_⟩
  apply ((accepted_durations_fit_iff built RestartPolicy.builder rfl _ true
    .default clockOrigin clockOrigin).1).mpr
  constructor
  · intro _ _
    show 0 + fromSecs 30 ≤ instantMax
    decide
  · show 0 + fromSecs 5 ≤ instantMax
    decide

/-- `Duration::MAX` is accepted by both builders, and both calls panic. -/
theorem longest_durations_panic :
    ∃ overlay, (fiveSecondDispatches durationMax).build = .ok overlay ∧
      (requestOverlayCall { restartPolicy := .default, scaling := none } true
          clockOrigin overlay .default).2 = .panicked ∧
        (initFallibleWithSource (databaseInit
              (RestartPolicy.builder.providerInitTimeout durationMax).build)
            clockOrigin :
          CallResult (ProviderInitState Unit)) = .panicked := by
  have late : instantMax < 0 + durationMax := by decide
  have built : (fiveSecondDispatches durationMax).build =
      .ok (fiveSecondDispatches durationMax).overlay := rfl
  refine ⟨_, built, ?_, initFallibleWithSource_panicked late⟩
  apply requestOverlayCall_panicked_iff.mpr
  refine ⟨?_, late⟩
  exact (requestOverlay_ok_iff (validateShape_of_build built)).mpr
    ⟨rfl, nofun⟩

end ServiceDaemon
