/-
Purpose: When a tick of the scale monitor raises the limit.  The monitor
  compares the dispatches in flight with a quotient that is rounded down, so it
  can raise the limit one dispatch before the documented pressure is reached.
Main exports: pressureLimitFor_eq, quotient_le_iff, BusyTick, scale_up_iff
-/
import ServiceDaemon.Proofs.PermitBounds

namespace ServiceDaemon

open AsyncLib StepSystem

/-!
The documented condition is `in_flight / limit >= threshold / (threshold + 1)`.
Threshold and successor have no common factor, so the quotient is exact only
where the successor divides the limit.

[SRC core/trigger_runner/scaling.rs]
-/

/-! ### The arithmetic -/

/-- Nothing saturates in `u128`: both factors are machine words. -/
theorem pressureLimitFor_eq (limited : limit ≤ usizeMax) (fits : threshold ≤ usizeMax) :
    pressureLimitFor limit threshold = limit * threshold / (threshold + 1) := by
  have product : limit * threshold ≤ u128Max :=
    calc limit * threshold ≤ usizeMax * usizeMax := Nat.mul_le_mul limited fits
      _ ≤ u128Max := by decide
  have successor : threshold + 1 ≤ u128Max :=
    calc threshold + 1 ≤ usizeMax + 1 := Nat.succ_le_succ fits
      _ ≤ u128Max := by decide
  have quotient : limit * threshold / (threshold + 1) ≤ usizeMax := by
    refine Nat.le_trans (Nat.div_le_of_le_mul ?_) limited
    rw [Nat.mul_comm]
    exact Nat.mul_le_mul_right limit (Nat.le_succ threshold)
  rw [pressureLimitFor, Nat.min_eq_left product, Nat.min_eq_left successor,
    Nat.min_eq_left quotient]

/-- The rounded comparison agrees with the exact one unless the dispatches are
as many as a quotient that was rounded. -/
theorem quotient_le_iff (limit inFlight threshold : Nat) :
    (limit * threshold / (threshold + 1) ≤ inFlight ↔
        limit * threshold ≤ inFlight * (threshold + 1)) ↔
      threshold + 1 ∣ limit ∨ inFlight ≠ limit * threshold / (threshold + 1) := by
  have coprime : Nat.Coprime (threshold + 1) threshold :=
    (Nat.coprime_self_add_right.mpr (Nat.coprime_one_right threshold)).symm
  have divides : threshold + 1 ∣ limit ↔ threshold + 1 ∣ limit * threshold :=
    (coprime.dvd_mul_right).symm
  have below : limit * threshold / (threshold + 1) * (threshold + 1) ≤
      limit * threshold := Nat.div_mul_le_self _ _
  rw [divides]
  constructor
  · intro agree
    by_cases exactly : inFlight = limit * threshold / (threshold + 1)
    · left
      have reached := agree.mp (Nat.le_of_eq exactly.symm)
      rw [exactly] at reached
      exact Dvd.intro_left _ (Nat.le_antisymm below reached)
    · exact .inr exactly
  · intro exact_or
    constructor
    · intro reached
      rcases exact_or with exactly | other
      · rw [← Nat.div_mul_cancel exactly]
        exact Nat.mul_le_mul_right _ reached
      · have more : limit * threshold / (threshold + 1) < inFlight := by omega
        exact Nat.le_of_lt ((Nat.div_lt_iff_lt_mul (Nat.succ_pos _)).mp more)
    · intro reached
      apply Nat.div_le_of_le_mul
      rw [Nat.mul_comm (threshold + 1)]
      exact reached

/-! ### The tick -/

section Tick

variable {Payload : Type} {config : RunnerConfig} {policy : ScalingPolicy}
  {state : RunnerState Payload}

/-- The monitor is about to tick, with dispatches in flight, no overlay, and a
limit below the maximum.  A runner inside a daemon has its record, and nobody
is reconciling. -/
structure BusyTick (config : RunnerConfig) (policy : ScalingPolicy)
    (state : RunnerState Payload) : Prop where
  scaled : config.base.scaling = some policy
  running : state.monitorAborted = false
  registered : state.shared.registered = config.inDaemon
  due : ∃ idleSince wakeAt, state.monitor = .sleeping idleSince wakeAt ∧ wakeAt ≤ state.shared.now
  free : state.shared.reconcileLock = none
  clear : state.shared.overlay = .default
  below : state.shared.currentLimit < policy.maxConcurrency
  busy : 1 ≤ state.shared.sampledInFlight

/-- The target of the tick. -/
def RunnerState.tickTarget (policy : ScalingPolicy) (state : RunnerState Payload) : Nat :=
  scaleUpTarget policy state.shared.currentLimit state.shared.sampledInFlight
    policy.maxConcurrency

namespace BusyTick

theorem positive (tick : BusyTick config policy state) :
    1 ≤ state.shared.currentLimit :=
  Nat.le_trans tick.busy (Nat.sub_le _ _)

/-- The limit after the tick, inside a daemon and outside. -/
theorem reaches_target (tick : BusyTick config policy state)
    (raises : state.shared.currentLimit ≤ state.tickTarget policy) :
    ∃ count after, Run (Runner.step config) state
        (List.replicate count .monitor) after ∧
      after.monitor = .sleepFrom after.shared.now none ∧
      after.shared.currentLimit = state.tickTarget policy := by
  obtain ⟨idleSince, wakeAt, asleep, due⟩ := tick.due
  obtain ⟨count, ticked⟩ := monitor_ticks tick.scaled tick.running asleep due tick.free
  have unmanaged := monitorTick_inDaemon tick.scaled tick.registered tick.clear
    tick.positive (Nat.le_of_lt tick.below) idleSince
  have busy : monitorTick config.base policy false state.shared idleSince =
      (tryScaleUp policy state.shared state.shared.currentLimit
        state.shared.sampledInFlight policy.maxConcurrency, none) :=
    if_neg (Nat.one_le_iff_ne_zero.mp tick.busy)
  rw [unmanaged, busy] at ticked
  refine ⟨count, _, ticked, ?_, ?_⟩
  · simp only [tryScaleUp]
    split <;> rfl
  · simp only [tryScaleUp]
    split
    · rename_i stays
      exact Nat.le_antisymm raises stays
    · rfl

end BusyTick

/-- A tick with dispatches in flight and no overlay, with nobody in between.  It
raises the limit to the documented multiple or leaves it alone, and it raises
it exactly under the documented pressure except where the dispatches in flight
are as many as a quotient that was rounded down. -/
theorem scale_up_iff (tick : BusyTick config policy state)
    (fits : policy.scaleThreshold ≤ usizeMax) :
    ∃ count after, Run (Runner.step config) state
        (List.replicate count .monitor) after ∧
      after.monitor = .sleepFrom after.shared.now none ∧
      (state.shared.currentLimit < after.shared.currentLimit → after.shared.currentLimit =
          min (state.shared.currentLimit * policy.scaleFactor) policy.maxConcurrency) ∧
      (¬ state.shared.currentLimit < after.shared.currentLimit →
        after.shared.currentLimit = state.shared.currentLimit) ∧
      ((state.shared.currentLimit < after.shared.currentLimit ↔
          state.shared.currentLimit * policy.scaleThreshold ≤
            state.shared.sampledInFlight * (policy.scaleThreshold + 1)) ↔
        policy.scaleThreshold + 1 ∣ state.shared.currentLimit ∨ state.shared.sampledInFlight ≠
            state.shared.currentLimit * policy.scaleThreshold / (policy.scaleThreshold + 1)) := by
  have larger := lt_scaled policy tick.below tick.positive
  have limited : state.shared.currentLimit ≤ usizeMax :=
    Nat.le_trans (Nat.le_of_lt tick.below) policy.max_fits
  have target := scaleUpTarget_eq policy tick.positive (Nat.le_of_lt tick.below)
    state.shared.sampledInFlight
  rw [pressureLimitFor_eq limited fits] at target
  have raises : state.shared.currentLimit ≤ state.tickTarget policy := by
    rw [RunnerState.tickTarget, target]
    split <;> omega
  obtain ⟨count, after, run, asleep, reached⟩ := tick.reaches_target raises
  refine ⟨count, after, run, asleep, ?_⟩
  rw [reached, RunnerState.tickTarget, target, ← quotient_le_iff state.shared.currentLimit]
  split
  · rename_i pressed
    exact ⟨fun _ => rfl, fun small => absurd larger small, by simp only [larger, pressed]⟩
  · rename_i relaxed
    exact ⟨fun grown => absurd grown (Nat.lt_irrefl _), fun _ => rfl,
      by simp only [relaxed, Nat.lt_irrefl]⟩

end Tick

/-! ### Four permits and a threshold of five -/

/-- The default policy, starting with four permits. -/
def fourPermitPolicy : ScalingPolicy :=
  (ScalingPolicy.builder.withInitialConcurrency 4).build

/-- Dispatches begin and none ends, and a second goes by. -/
def pressed (dispatches : Nat) : List (Action Unit) :=
  List.flatten
    [Runner.arrival 4 (), Runner.loops 14, (List.replicate (dispatches - 1)
        (Runner.arrival 5 () ++ Runner.loops 14)).flatten,
      [.advance monitorInterval]]

/-- The state before the tick, as far as it can be tested. -/
def aboutToTick (limit inFlight : Nat) (state : RunnerState Unit) : Prop :=
  state.monitorAborted = false ∧ state.shared.registered = true ∧
    state.monitor = .sleeping none monitorInterval ∧
    state.shared.now = monitorInterval ∧
    state.shared.reconcileLock = none ∧
    state.shared.overlay = .default ∧ state.shared.currentLimit = limit ∧
    state.shared.sampledInFlight = inFlight

instance (limit inFlight : Nat) : DecidablePred (aboutToTick limit inFlight) :=
  fun _ => inferInstanceAs (Decidable (_ ∧ _))

theorem BusyTick.of_aboutToTick (positive : 1 ≤ inFlight) (about : aboutToTick 4 inFlight state) :
    BusyTick (.managed (some fourPermitPolicy)) fourPermitPolicy state := by
  obtain ⟨running, registered, asleep, now, free, clear, limit, sampled⟩ := about
  refine ⟨rfl, running, registered, ⟨none, _, asleep, ?_⟩, free, clear, ?_, ?_⟩
  · exact Nat.le_of_eq now.symm
  · rw [limit]
    decide
  · rw [sampled]
    exact positive

/-- With all four permits taken both comparisons ask for more. -/
theorem scale_up_iff_all_taken :
    ∃ state : RunnerState Unit,
      Runner.Reaches (.managed (some fourPermitPolicy)) 0 (pressed 4) state ∧
        state.shared.currentLimit = 4 ∧ state.shared.sampledInFlight = 4 ∧
        ∃ count after,
          Run (Runner.step (.managed (some fourPermitPolicy))) state
              (List.replicate count .monitor) after ∧
            after.shared.currentLimit = 8 := by
  obtain ⟨state, reached, about⟩ :
      ∃ state : RunnerState Unit,
        Runner.Reaches (.managed (some fourPermitPolicy)) 0 (pressed 4) state ∧
          aboutToTick 4 4 state :=
    Run.exists_of_check (by decide +kernel)
  obtain ⟨count, after, run, -, raised, -, agrees⟩ :=
    scale_up_iff (.of_aboutToTick (by decide) about) (by decide)
  obtain ⟨-, -, -, -, -, -, limit, sampled⟩ := about
  rw [limit, sampled] at agrees
  rw [limit] at raised
  exact ⟨state, reached, limit, sampled, count, after, run,
    raised ((agrees.mpr (by decide)).mpr (by decide))⟩

/-- Three of four permits are a pressure of 75 %, less than five sixths, and the
tick doubles the limit. -/
theorem scale_up_below_threshold :
    (∃ before : RunnerState Unit,
      Runner.Reaches (.managed (some fourPermitPolicy)) 0 (pressed 3) before ∧
        aboutToTick 4 3 before) ∧
      ¬ 4 * fourPermitPolicy.scaleThreshold ≤ 3 * (fourPermitPolicy.scaleThreshold + 1) ∧
      ∃ after : RunnerState Unit,
        Runner.Reaches (.managed (some fourPermitPolicy)) 0
            (pressed 3 ++ List.replicate 16 .monitor) after ∧
          after.monitor = .sleepFrom monitorInterval none ∧
          after.shared.currentLimit = 8 :=
  ⟨Run.exists_of_check (by decide +kernel), by decide, Run.exists_of_check (by decide +kernel)⟩

end ServiceDaemon
