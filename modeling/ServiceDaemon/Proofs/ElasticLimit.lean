/-
Purpose: The limit of an elastic trigger over any sequence of monitor ticks: the
  values it takes, and when it goes down.  The two paths a tick can take agree.
Main exports: scaling_paths_agree, TickMove, monitorRun, elastic_limit_shape
-/
import ServiceDaemon.Proofs.ScaleTick

namespace ServiceDaemon

open AsyncLib

/-!
Between two ticks the dispatches take and return permits, so a tick finds any
semaphore and any time.  Only the limit and the idle timer go from one tick to
the next.

[SRC core/trigger_runner/scaling.rs]
-/

/-! ### The two paths -/

/-- One tick through the overlay store leaves what one tick through
`try_scale_down` or `try_scale_up` leaves, while no overlay is active or pending
and the limit is one the policy allows. -/
theorem scaling_paths_agree {base : TriggerBasePolicy} {scaling : ScalingPolicy}
    {shared : ConcurrencyState} (scaled : base.scaling = some scaling)
    (registered : shared.registered = true) (clear : shared.overlay = .default)
    (positive : 1 ≤ shared.currentLimit) (bounded : shared.currentLimit ≤ scaling.maxConcurrency)
    (idleSince : Option Instant) :
    monitorTick base scaling true shared idleSince =
      monitorTick base scaling false shared idleSince :=
  monitorTick_inDaemon scaled registered clear positive bounded idleSince

/-- A registered record without an overlay, and a semaphore with `available` of
`limit` permits idle. -/
def clearRecord (limit available : Nat) (now : Instant) : ConcurrencyState :=
  { semaphore := Semaphore.new available
    currentLimit := limit
    reconcileLock := none
    overlay := .default
    registered := true
    now := now }

/-- The base policy of an elastic trigger. -/
def scaledBase (scaling : ScalingPolicy) : TriggerBasePolicy :=
  { restartPolicy := .default, scaling := some scaling }

/-- Eight permits, all idle for the default cooldown, shrink to one. -/
theorem scaling_paths_agree_shrinking :
    monitorTick (scaledBase .default) .default true
        (clearRecord 8 8 (fromSecs 30)) (some 0) =
      monitorTick (scaledBase .default) .default false
        (clearRecord 8 8 (fromSecs 30)) (some 0) ∧
      (monitorTick (scaledBase .default) .default false
        (clearRecord 8 8 (fromSecs 30)) (some 0)).1.currentLimit = 1 :=
  ⟨scaling_paths_agree rfl rfl rfl (by decide) (by decide) (some 0), by decide⟩

/-! ### One tick -/

/-- What a tick without an overlay can do. -/
inductive TickMove (scaling : ScalingPolicy) (shared : ConcurrencyState)
    (idleSince : Option Instant) : ConcurrencyState × Option Instant → Prop where
  | waits (idle : shared.sampledInFlight = 0) :
      TickMove scaling shared idleSince
        (shared, some (idleSince.getD shared.now))
  | shrinks {semaphore} (idle : shared.sampledInFlight = 0)
      (larger : scaling.initialConcurrency < shared.currentLimit)
      (waited : scaling.scaleCooldown ≤ shared.now - idleSince.getD shared.now) :
      TickMove scaling shared idleSince
        ({ shared with semaphore := semaphore, currentLimit := scaling.initialConcurrency }, none)
  | holds : TickMove scaling shared idleSince (shared, none)
  | grows {semaphore}
      (below : shared.currentLimit < scaling.maxConcurrency) :
      TickMove scaling shared idleSince
        ({ shared with
            semaphore := semaphore
            currentLimit :=
              min (shared.currentLimit * scaling.scaleFactor)
                scaling.maxConcurrency }, none)

theorem TickMove.of_monitorTick (scaled : base.scaling = some scaling)
    (registered : shared.registered = inDaemon) (clear : shared.overlay = .default)
    (positive : 1 ≤ shared.currentLimit) (bounded : shared.currentLimit ≤ scaling.maxConcurrency)
    (idleSince : Option Instant) :
    TickMove scaling shared idleSince
      (monitorTick base scaling inDaemon shared idleSince) := by
  have sampled : sampleMax scaling false shared = (shared, scaling.maxConcurrency) := rfl
  rw [monitorTick_inDaemon scaled registered clear positive bounded]
  simp only [monitorTick, sampled, Bool.false_eq_true, if_false]
  split
  · rename_i idle
    rcases scaleDownTarget_cases scaling positive bounded
      (idleSince.getD shared.now) shared.now with
      target | ⟨waited, larger, target⟩
    · simp only [tryScaleDown, target, Nat.le_refl, if_true]
      exact .waits idle
    · -- Nothing is in flight, so every permit to revoke is there.
      have revoked : shared.currentLimit -
          min (shared.currentLimit - scaling.initialConcurrency)
            shared.semaphore.permits = scaling.initialConcurrency := by
        have : shared.currentLimit - shared.semaphore.permits = 0 := idle
        omega
      simp only [tryScaleDown, target, if_neg (Nat.not_le.mpr larger), revokePermits_eq, revoked]
      exact .shrinks idle larger waited
  · rcases scaleUpTarget_cases scaling positive bounded
      shared.sampledInFlight with target | ⟨below, target⟩
    · simp only [tryScaleUp, target, Nat.le_refl, if_true]
      exact .holds
    · have larger := lt_scaled scaling below positive
      simp only [tryScaleUp, target, if_neg (Nat.not_le.mpr larger)]
      exact .grows below

/-! ### The limit over a sequence of ticks -/

/-- What a tick finds. -/
structure TickInput where
  semaphore : Semaphore Nat
  now : Instant

/-- A freshly started trigger. -/
def monitorStart (scaling : ScalingPolicy) (inDaemon : Bool) :
    ConcurrencyState :=
  { clearRecord scaling.initialConcurrency scaling.initialConcurrency 0 with
    registered := inDaemon }

/-- The state a tick starts from. -/
def TickInput.before (input : TickInput) (shared : ConcurrencyState) :
    ConcurrencyState :=
  { shared with semaphore := input.semaphore, now := input.now }

/-- The shared state and the idle timer before tick `n`. -/
def monitorRun (scaling : ScalingPolicy) (inDaemon : Bool)
    (inputs : Nat → TickInput) : Nat → ConcurrencyState × Option Instant
  | 0 => (monitorStart scaling inDaemon, none)
  | n + 1 =>
    let (shared, idleSince) := monitorRun scaling inDaemon inputs n
    monitorTick (scaledBase scaling) scaling inDaemon
      ((inputs n).before shared) idleSince

section Run

variable (scaling : ScalingPolicy) (inDaemon : Bool) (inputs : Nat → TickInput)

/-- The limit before tick `n`. -/
def limitAt (n : Nat) : Nat :=
  (monitorRun scaling inDaemon inputs n).1.currentLimit

/-- What tick `n` samples. -/
def inFlightAt (n : Nat) : Nat :=
  ((inputs n).before (monitorRun scaling inDaemon inputs n).1).sampledInFlight

/-- Tick `n` lowers the limit. -/
def Decreases (n : Nat) : Prop :=
  limitAt scaling inDaemon inputs (n + 1) < limitAt scaling inDaemon inputs n

instance (n : Nat) : Decidable (Decreases scaling inDaemon inputs n) :=
  inferInstanceAs (Decidable (_ < _))

/-- From tick `first` on, before tick `n`, every tick found all permits idle and
left the limit alone. -/
def QuietSince (first n : Nat) : Prop :=
  ∀ tick, first ≤ tick → tick < n → inFlightAt scaling inDaemon inputs tick = 0 ∧
      ¬ Decreases scaling inDaemon inputs tick

/-- What holds before every tick. -/
structure SteadyTicks (n : Nat) : Prop where
  registered : (monitorRun scaling inDaemon inputs n).1.registered = inDaemon
  clear : (monitorRun scaling inDaemon inputs n).1.overlay = .default
  shape : ∃ i, limitAt scaling inDaemon inputs n =
    min (scaling.initialConcurrency * scaling.scaleFactor ^ i)
      scaling.maxConcurrency
  timer : ∀ since, (monitorRun scaling inDaemon inputs n).2 = some since →
    ∃ first < n, (inputs first).now = since ∧ QuietSince scaling inDaemon inputs first n

variable {scaling inDaemon inputs}

theorem QuietSince.snoc (quiet : QuietSince scaling inDaemon inputs first n)
    (idle : inFlightAt scaling inDaemon inputs n = 0)
    (keeps : ¬ Decreases scaling inDaemon inputs n) :
    QuietSince scaling inDaemon inputs first (n + 1) := by
  intro tick from_ before
  rcases Nat.lt_succ_iff_lt_or_eq.mp before with earlier | rfl
  · exact quiet tick from_ earlier
  · exact ⟨idle, keeps⟩

namespace SteadyTicks

variable {n : Nat}

theorem positive (steady : SteadyTicks scaling inDaemon inputs n) :
    1 ≤ limitAt scaling inDaemon inputs n ∧
      limitAt scaling inDaemon inputs n ≤ scaling.maxConcurrency := by
  obtain ⟨i, shape⟩ := steady.shape
  have grown : 1 ≤ scaling.initialConcurrency * scaling.scaleFactor ^ i :=
    Nat.mul_pos scaling.initial_pos
      (Nat.pow_pos (Nat.lt_of_lt_of_le Nat.two_pos scaling.factor_ge_two))
  have maximum := scaling.max_pos
  omega

theorem move (steady : SteadyTicks scaling inDaemon inputs n) :
    TickMove scaling
      ((inputs n).before (monitorRun scaling inDaemon inputs n).1)
      (monitorRun scaling inDaemon inputs n).2
      (monitorRun scaling inDaemon inputs (n + 1)) := by
  let before := (inputs n).before (monitorRun scaling inDaemon inputs n).1
  have registered : before.registered = inDaemon := steady.registered
  have scaled : (scaledBase scaling).scaling = some scaling := rfl
  exact .of_monitorTick scaled registered steady.clear steady.positive.1 steady.positive.2 _

/-- The idle timer goes back to a tick since which nothing happened. -/
theorem since (steady : SteadyTicks scaling inDaemon inputs n) :
    ∃ first ≤ n, (inputs first).now = (monitorRun scaling inDaemon inputs n).2.getD (inputs n).now ∧
      QuietSince scaling inDaemon inputs first n := by
  cases timer : (monitorRun scaling inDaemon inputs n).2 with
  | none =>
    refine ⟨n, Nat.le_refl n, rfl, ?_⟩
    intro tick from_ before
    omega
  | some since =>
    obtain ⟨first, before, now, quiet⟩ := steady.timer since timer
    exact ⟨first, Nat.le_of_lt before, now, quiet⟩

theorem step (steady : SteadyTicks scaling inDaemon inputs n) :
    SteadyTicks scaling inDaemon inputs (n + 1) := by
  have move := steady.move
  generalize next : monitorRun scaling inDaemon inputs (n + 1) = after at move
  obtain ⟨i, shape⟩ := steady.shape
  cases move with
  | waits idle =>
    have same : limitAt scaling inDaemon inputs (n + 1) = limitAt scaling inDaemon inputs n := by
      rw [limitAt, next]
      rfl
    refine ⟨by rw [next]; exact steady.registered,
      by rw [next]; exact steady.clear, ⟨i, same.trans shape⟩, ?_⟩
    intro since timer
    rw [next] at timer
    cases timer
    obtain ⟨first, before, now, quiet⟩ := steady.since
    exact ⟨first, Nat.lt_succ_of_le before, now,
      quiet.snoc idle (Nat.not_lt_of_ge (Nat.le_of_eq same.symm))⟩
  | shrinks idle larger waited =>
    refine ⟨by rw [next]; exact steady.registered, by rw [next]; exact steady.clear, ⟨0, ?_⟩, ?_⟩
    · have within := scaling.initial_le_max
      rw [limitAt, next, Nat.pow_zero, Nat.mul_one]
      exact (Nat.min_eq_left within).symm
    · intro since timer
      rw [next] at timer
      cases timer
  | holds =>
    refine ⟨by rw [next]; exact steady.registered, by rw [next]; exact steady.clear, ⟨i, ?_⟩, ?_⟩
    · rw [limitAt, next]
      exact shape
    · intro since timer
      rw [next] at timer
      cases timer
  | grows below =>
    refine ⟨by rw [next]; exact steady.registered,
      by rw [next]; exact steady.clear, ⟨i + 1, ?_⟩, ?_⟩
    · rw [limitAt, next, Nat.pow_succ, ← Nat.mul_assoc]
      replace below : limitAt scaling inDaemon inputs n < scaling.maxConcurrency := below
      show min (limitAt scaling inDaemon inputs n * scaling.scaleFactor) scaling.maxConcurrency = _
      have reached : limitAt scaling inDaemon inputs n =
          scaling.initialConcurrency * scaling.scaleFactor ^ i := by omega
      rw [reached]
    · intro since timer
      rw [next] at timer
      cases timer

end SteadyTicks

variable (scaling inDaemon inputs)

theorem steadyTicks (n : Nat) : SteadyTicks scaling inDaemon inputs n := by
  induction n with
  | zero =>
    refine ⟨rfl, rfl, ⟨0, ?_⟩, ?_⟩
    · rw [Nat.pow_zero, Nat.mul_one]
      exact (Nat.min_eq_left scaling.initial_le_max).symm
    · intro since timer
      cases timer
  | succ n ih => exact ih.step

/-- Before every tick the limit is the initial one times a power of the factor,
cut at the maximum.  It goes down only to the initial limit, at a tick that
finds nothing in flight, and only if so did every tick since one that lies the
cooldown before it and after the previous decrease. -/
theorem elastic_limit_shape (n : Nat) :
    (∃ i, limitAt scaling inDaemon inputs n =
        min (scaling.initialConcurrency * scaling.scaleFactor ^ i) scaling.maxConcurrency) ∧
      (Decreases scaling inDaemon inputs n →
        limitAt scaling inDaemon inputs (n + 1) = scaling.initialConcurrency ∧
          inFlightAt scaling inDaemon inputs n = 0 ∧
          ∃ first ≤ n, scaling.scaleCooldown ≤ (inputs n).now - (inputs first).now ∧
              QuietSince scaling inDaemon inputs first n) := by
  have before := steadyTicks scaling inDaemon inputs n
  refine ⟨before.shape, ?_⟩
  intro decreases
  have move := before.move
  unfold Decreases limitAt at decreases
  rw [limitAt]
  generalize monitorRun scaling inDaemon inputs (n + 1) = after at move decreases
  cases move with
  | waits idle => exact absurd decreases (Nat.lt_irrefl _)
  | shrinks idle larger waited =>
    obtain ⟨first, earlier, now, quiet⟩ := before.since
    refine ⟨rfl, idle, first, earlier, ?_, quiet⟩
    rw [now]
    exact waited
  | holds => exact absurd decreases (Nat.lt_irrefl _)
  | grows below =>
    exact absurd decreases
      (Nat.lt_asymm (lt_scaled scaling below before.positive.1))

end Run

/-- A busy tick doubles the default limit, and the second idle one, a cooldown
after the first, takes it back. -/
theorem elastic_limit_shape_back_to_initial :
    ∃ inputs : Nat → TickInput,
      (List.range 4).map (limitAt .default true inputs) = [1, 2, 2, 1] ∧
        ∃ first ≤ 2, fromSecs 30 ≤ (inputs 2).now - (inputs first).now ∧
          QuietSince .default true inputs first 2 := by
  let inputs (n : Nat) : TickInput :=
    { semaphore := Semaphore.new (if n = 0 then 0 else 2), now := n * fromSecs 30 }
  have limits : (List.range 4).map (limitAt .default true inputs) =
      [1, 2, 2, 1] := by decide +kernel
  have decreases : Decreases .default true inputs 2 := by decide +kernel
  obtain ⟨-, -, quiet⟩ := (elastic_limit_shape .default true inputs 2).2 decreases
  exact ⟨inputs, limits, quiet⟩

end ServiceDaemon
