/-
Purpose: When the backoff of a failed generation is forgiven: the age of the
  generation, which the supervisor looks at, against the time its status was
  Healthy.
Main exports: SupervisedHealth, SupervisedHealth.step,
  SupervisedHealth.TimelyExit, unhealed_keeps_backoff
-/
import ServiceDaemon.Core.Supervisor

namespace ServiceDaemon

open StepSystem SupervisorPoint

/-!
`on_outcome` resets the backoff and the storm guard of a failed generation if
`reset_after` has passed since the generation was prepared.  The status plane is
not consulted, so a generation that is slow to fail is forgiven like one that
was healthy.

The system here is the supervisor with an observer of the status plane.

[SRC runner/supervisor.rs, models/policy.rs]
[SRC docs/architecture/lifecycle-management.md]
-/

/-- The body has ended, or it will never run. -/
def GenerationFuture.ended : GenerationFuture → Bool
  | .joining _ | .ready .. => true
  | _ => false

namespace SupervisorPoint

/-- A generation is prepared and has not ended. -/
def generationRuns : SupervisorPoint → Bool
  | .enterRunning => true
  | .running future _ | .reloading future => !future.ended
  | _ => false

/-- A generation has ended and its reset check is still to come. -/
def exitOpen : SupervisorPoint → Bool
  | .running future _ | .reloading future => future.ended
  | .outcome .. | .classify .. | .resetBackoff _ => true
  | _ => false

/-- The result of a failed generation is taken and its reset check is still to
come. -/
def failing : SupervisorPoint → Bool
  | .outcome .. | .classify .. | .resetBackoff (.withBackoff _) => true
  | _ => false

/-- The event ends the generation. -/
def endsBy (cancelled reloadCancelled : Bool) (event : GenerationEvent) :
    SupervisorPoint → Bool
  | .running future _ | .reloading future =>
    !future.ended &&
      (future.step cancelled reloadCancelled event).any (·.ended)
  | _ => false

end SupervisorPoint

/-- The supervisor with an observer: since when the status has been Healthy, and
the longest uninterrupted Healthy period of the generation. -/
structure SupervisedHealth where
  supervisor : SupervisorState
  since : Option Instant
  uptime : Option Duration
deriving DecidableEq

namespace SupervisedHealth

def new (cfg : SupervisorConfig) (now : Instant)
    (statusPlane : Option ServiceStatus) : SupervisedHealth :=
  { supervisor := .new cfg now statusPlane, since := none, uptime := none }

/-- The step prepares a generation. -/
def prepares (health : SupervisedHealth) (a : SupervisorAction) : Bool :=
  health.supervisor.point == .prepare && a == .advance

/-- The longest period, with the one that goes on. -/
def longest (health : SupervisedHealth) (now : Instant) : Option Duration :=
  match health.since with
  | some since => some (max (health.uptime.getD 0) (now - since))
  | none => health.uptime

/-- What the observer makes of a step. -/
def note (health : SupervisedHealth) (a : SupervisorAction)
    (next : SupervisorState) : SupervisedHealth :=
  let since := if health.prepares a then none else health.since
  { supervisor := next
    since :=
      if next.statusPlane = some .healthy then some (since.getD next.now)
      else none
    uptime :=
      if health.prepares a then none
      else if health.supervisor.point.generationRuns then health.longest next.now
      else health.uptime }

def step (cfg : SupervisorConfig) (health : SupervisedHealth)
    (a : SupervisorAction) : Option SupervisedHealth :=
  (Supervisor.step cfg health.supervisor a).map (health.note a)

/-- The generation was Healthy for an uninterrupted `reset_after`. -/
def healed (cfg : SupervisorConfig) (health : SupervisedHealth) : Bool :=
  health.uptime.any fun period => cfg.policy.resetAfter ≤ period

/-- At the moment the generation is younger than `reset_after`. -/
def young (cfg : SupervisorConfig) (health : SupervisedHealth) (moment : Instant) : Bool :=
  health.supervisor.generationStart.all fun start =>
    moment - start < cfg.policy.resetAfter

/-- A generation ends while it is younger than `reset_after`, or after it was
Healthy that long; the clock does not carry it over that age before its reset
check.  A service without a lane fails as soon as it starts. -/
def TimelyExit (cfg : SupervisorConfig) (health : SupervisedHealth) :
    SupervisorAction → Prop
  | .generation event =>
    health.supervisor.point.endsBy health.supervisor.cancelled
        (health.supervisor.reloadToken == some true) event = true →
      health.young cfg health.supervisor.now = true ∨ health.healed cfg = true
  | .tick elapsed =>
    health.supervisor.point.exitOpen = true →
      health.young cfg (health.supervisor.now + elapsed) = true ∨ health.healed cfg = true
  | .advance =>
    health.supervisor.point = .prepare → cfg.scheduling.bodyLane cfg.highPriority = none →
        0 < cfg.policy.resetAfter
  | _ => True

instance (cfg : SupervisorConfig) (health : SupervisedHealth)
    (a : SupervisorAction) : Decidable (health.TimelyExit cfg a) := by
  unfold TimelyExit
  split <;> infer_instance

/-- What the steps keep. -/
structure Timely (cfg : SupervisorConfig) (health : SupervisedHealth) :
    Prop where
  policy : health.supervisor.backoff.policy = cfg.policy
  prepared : health.supervisor.point = .enterRunning →
    health.supervisor.reloadToken ≠ none ∧ health.supervisor.current ≠ none ∧
      health.supervisor.bodyLane ≠ none
  timely : health.supervisor.point.exitOpen = true →
    health.young cfg health.supervisor.now = true ∨ health.healed cfg = true

variable {cfg : SupervisorConfig} {health next : SupervisedHealth}
  {after : SupervisorState} {a : SupervisorAction}

/-- A generation that was Healthy long enough stays so until the next one is
prepared. -/
theorem healed_note (same : health.prepares a = false) (healed : health.healed cfg = true) :
    (health.note a after).healed cfg = true := by
  cases present : health.uptime with
  | none => simp [SupervisedHealth.healed, present] at healed
  | some period =>
    have long : cfg.policy.resetAfter ≤ period := by
      simpa [SupervisedHealth.healed, present] using healed
    simp only [SupervisedHealth.healed, note, same, Bool.false_eq_true, if_false]
    split
    · unfold longest
      split
      · simpa [present] using Or.inl long
      · simpa [present] using long
    · simpa [present] using long

theorem prepares_eq_false (elsewhere : health.supervisor.point ≠ .prepare) :
    health.prepares a = false := by
  simp [prepares, elsewhere]

theorem timely_note (same : health.prepares a = false) (now : after.now = health.supervisor.now)
    (start : after.generationStart = health.supervisor.generationStart)
    (timely : health.young cfg health.supervisor.now = true ∨ health.healed cfg = true) :
    (health.note a after).young cfg after.now = true ∨ (health.note a after).healed cfg = true := by
  rcases timely with early | healed
  · refine .inl ?_
    simp only [SupervisedHealth.young, note, now, start]
    exact early
  · exact .inr (healed_note same healed)

namespace Timely

/-- A step that keeps the backoff policy, the clock and the start, and that ends
a generation only if an exit was open. -/
theorem keep (timely : health.Timely cfg) (same : health.prepares a = false)
    (policy : after.backoff.policy = health.supervisor.backoff.policy)
    (now : after.now = health.supervisor.now)
    (start : after.generationStart = health.supervisor.generationStart)
    (elsewhere : after.point ≠ .enterRunning)
    (stays : after.point.exitOpen = true → health.supervisor.point.exitOpen = true) :
    (health.note a after).Timely cfg where
  policy := policy.trans timely.policy
  prepared entered := absurd entered elsewhere
  timely isOpen := timely_note same now start (timely.timely (stays isOpen))

theorem same (timely : health.Timely cfg)
    (entered : after.point = .enterRunning → health.supervisor.point = .enterRunning)
    (stays : after.point.exitOpen = true → health.supervisor.point.exitOpen = true)
    (policy : after.backoff.policy = health.supervisor.backoff.policy)
    (now : after.now = health.supervisor.now)
    (start : after.generationStart = health.supervisor.generationStart)
    (token : after.reloadToken = none ↔ health.supervisor.reloadToken = none)
    (cur : after.current = none ↔ health.supervisor.current = none)
    (lane : after.bodyLane = health.supervisor.bodyLane) (elsewhere : health.prepares a = false) :
    (health.note a after).Timely cfg where
  policy := policy.trans timely.policy
  prepared here := by
    have before := timely.prepared (entered here)
    exact ⟨fun none => before.1 (token.mp none),
      fun none => before.2.1 (cur.mp none), fun none => before.2.2 (lane ▸ none)⟩
  timely isOpen := timely_note elsewhere now start (timely.timely (stays isOpen))

/-- An event of the generation: it stays ended, or it ends in time. -/
theorem runs (timely : health.Timely cfg) {event : GenerationEvent} {future next : GenerationFuture}
    (exits : health.TimelyExit cfg (.generation event))
    (ends : health.supervisor.point.endsBy health.supervisor.cancelled
      (health.supervisor.reloadToken == some true) event =
        (!future.ended && next.ended)) (isOpen : health.supervisor.point.exitOpen = future.ended)
    (opens : after.point.exitOpen = next.ended) (elsewhere : after.point ≠ .enterRunning)
    (policy : after.backoff.policy = health.supervisor.backoff.policy)
    (now : after.now = health.supervisor.now)
    (start : after.generationStart = health.supervisor.generationStart) :
    (health.note (.generation event) after).Timely cfg where
  policy := policy.trans timely.policy
  prepared entered := absurd entered elsewhere
  timely ended := by
    refine timely_note (by simp [prepares]) now start ?_
    by_cases before : future.ended = true
    · exact timely.timely (isOpen.trans before)
    · refine exits (ends.trans ?_)
      have after : next.ended = true := opens.symm.trans ended
      simp [before, after]

theorem ticks (timely : health.Timely cfg) (exits : health.TimelyExit cfg (.tick elapsed)) :
    (health.note (.tick elapsed)
      { health.supervisor with now := health.supervisor.now + elapsed }).Timely cfg where
  policy := timely.policy
  prepared := timely.prepared
  timely isOpen := by
    rcases exits isOpen with early | healed
    · exact .inl early
    · exact .inr (healed_note (by simp [prepares]) healed)

/-- A new generation has no age yet. -/
theorem prepares (timely : health.Timely cfg) (here : health.supervisor.point = .prepare)
    (exits : health.TimelyExit cfg .advance) :
    (health.note .advance (health.supervisor.prepare cfg)).Timely cfg where
  policy := timely.policy
  prepared entered := by
    refine ⟨Option.some_ne_none _, Option.some_ne_none _, ?_⟩
    change (if (cfg.scheduling.bodyLane cfg.highPriority).isNone then
      outcome .laneMissing false
      else .enterRunning) = .enterRunning at entered
    split at entered
    · cases entered
    · rename_i lane
      exact fun none => lane (Option.isNone_iff_eq_none.mpr none)
  timely isOpen := by
    refine .inl ?_
    change (if (cfg.scheduling.bodyLane cfg.highPriority).isNone then
      outcome .laneMissing false
      else .enterRunning).exitOpen = true at isOpen
    split at isOpen
    · rename_i missing
      have positive := exits here (Option.isNone_iff_eq_none.mp missing)
      simpa [SupervisedHealth.young, note, SupervisorState.prepare] using positive
    · cases isOpen

theorem step (timely : health.Timely cfg) (exits : health.TimelyExit cfg a)
    (h : SupervisedHealth.step cfg health a = some next) : next.Timely cfg := by
  obtain ⟨after, moved, rfl⟩ := Option.map_eq_some_iff.mp h
  cases SupervisorMove.of_step moved with
  | performs pending =>
    exact timely.same (by simp) (by simp) (by simp) (by simp) (by simp)
      (by simp) (by simp) (by simp) (by simp [SupervisedHealth.prepares])
  | prepares idle here => exact timely.prepares here exits
  | entersWithout idle here absent =>
    obtain ⟨token, cur, lane⟩ := timely.prepared here
    rcases absent with none | none | none
    · exact absurd none token
    · exact absurd none cur
    · exact absurd none lane
  | enters idle here resolved =>
    refine timely.keep (prepares_eq_false (by simp [here])) rfl rfl rfl
      (by simp) ?_
    intro isOpen
    rename_i lane
    cases lane <;> cases isOpen
  | runs here advanced =>
    refine timely.runs exits ?_ (by rw [here]; rfl) rfl (by rintro ⟨⟩) rfl rfl rfl
    simp [here, endsBy, advanced]
  | runsReloading here advanced =>
    refine timely.runs exits ?_ (by rw [here]; rfl) rfl (by rintro ⟨⟩) rfl rfl rfl
    simp [here, endsBy, advanced]
  | ticks => exact timely.ticks exits
  | changes _ =>
    refine timely.same ?_ ?_ rfl rfl rfl .rfl .rfl rfl (by simp [SupervisedHealth.prepares])
    · exact fun entered => of_noteChange entered (by simp)
    · intro isOpen
      rwa [noteChange_congr exitOpen fun _ _ => rfl] at isOpen
  | cancels | cancelsDaemon | triggersReload | writesStatus | recordsStatus =>
    exact timely.same id id rfl rfl rfl .rfl .rfl rfl (by simp [SupervisedHealth.prepares])
  | classifies idle here =>
    refine timely.keep (prepares_eq_false (by simp [here])) rfl rfl rfl ?_
      (fun _ => by rw [here]; rfl)
    unfold SupervisorState.classify
    simp only
    split <;> simp
  | resets idle here =>
    refine timely.keep (prepares_eq_false (by simp [here])) ?_ rfl rfl
      (by simp) (by simp [exitOpen])
    unfold BackoffController.maybeReset
    split <;> rfl
  | takesDependency idle here | takesReload idle here =>
    refine timely.keep (prepares_eq_false (by simp [here])) rfl rfl rfl
      (by rintro ⟨⟩) ?_
    intro isOpen
    rw [here]
    exact isOpen
  | takesResult idle here | takesReloadResult idle here | checks idle here =>
    exact timely.keep (prepares_eq_false (by simp [here])) rfl rfl rfl
      (by rintro ⟨⟩) (fun _ => by rw [here]; rfl)
  | starts idle here | stops idle here | checksCancelled idle here | stopsWait idle here
  | checksWithout idle here | skipsReset idle here
  | decides idle here | waits idle here | delays idle here
  | restartsNow idle here | elapses idle here | reloadsWait idle here =>
    exact timely.keep (prepares_eq_false (by simp [here])) rfl rfl rfl
      (by rintro ⟨⟩) (by rintro ⟨⟩)

end Timely

theorem Timely.of_run
    (run : GuardedRun (SupervisedHealth.step cfg) (TimelyExit cfg)
      (new cfg now plane) acts health) : health.Timely cfg := by
  have initially : (new cfg now plane).Timely cfg := ⟨rfl, by rintro ⟨⟩, by rintro ⟨⟩⟩
  exact run.invariant initially fun timely exits h =>
    timely.step exits h

theorem Timely.resets (timely : health.Timely cfg)
    (isOpen : health.supervisor.point.exitOpen = true) (unhealed : health.healed cfg = false)
    (started : health.supervisor.generationStart = some start) :
    ¬health.supervisor.backoff.policy.resetAfter ≤ health.supervisor.now - start := by
  rcases timely.timely isOpen with early | healed
  · rw [timely.policy]
    simpa [young, started] using early
  · rw [unhealed] at healed
    cases healed

end SupervisedHealth

/-- A failed generation that was not Healthy for an uninterrupted `reset_after`
leaves the backoff and the storm guard as they are, whatever happens between
its result and its restart decision, as long as generations end in time. -/
theorem unhealed_keeps_backoff {config : SupervisorConfig} {now : Instant}
    {plane : Option ServiceStatus} {schedule : List SupervisorAction}
    {health next : SupervisedHealth} {action : SupervisorAction}
    (run : GuardedRun (SupervisedHealth.step config)
      (SupervisedHealth.TimelyExit config) (.new config now plane) schedule
      health) (failing : health.supervisor.point.failing = true)
    (unhealed : health.healed config = false)
    (stepped : SupervisedHealth.step config health action = some next) :
    next.supervisor.backoff = health.supervisor.backoff ∧
      next.supervisor.restartStorm = health.supervisor.restartStorm := by
  have timely := SupervisedHealth.Timely.of_run run
  obtain ⟨after, moved, rfl⟩ := Option.map_eq_some_iff.mp stepped
  change after.backoff = _ ∧ after.restartStorm = _
  cases SupervisorMove.of_step moved with
  | resets idle here started =>
    have early := timely.resets (by rw [here]; rfl) unhealed started
    simp [BackoffController.maybeReset, RestartStormGuard.maybeReset, early]
  | performs pending => simp
  | delays idle here | restartsNow idle here | elapses idle here
  | reloadsWait idle here =>
    rw [here] at failing
    cases failing
  | _ => exact ⟨rfl, rfl⟩

/-- A service under the default policy: `reset_after` is a minute. -/
def importer : SupervisorConfig :=
  { name := "importer"
    scheduling := .standard
    highPriority := false
    watched := false
    policy := .default }

/-- A generation that fails after a while without a lifecycle call, up to its
reset check. -/
def failsAfter (elapsed : Duration) : List SupervisorAction :=
  List.flatten
    [[.advance, .advance, .perform, .perform, .perform, .advance, .tick elapsed],
      [.generation (.bodyEnds (.failed (.msg "refused")))],
      [.takeResult, .advance, .advance, .perform, .perform, .perform, .perform]]

/-- The restart wait of a generation that failed for the first time. -/
def firstBackoff : List SupervisorAction :=
  [.advance, .advance, .perform, .perform, .advance, .tick (fromSecs 1), .sleepElapsed (fromSecs 2)]

theorem unhealed_keeps_backoff_quick :
    ∃ health next,
      GuardedRun (SupervisedHealth.step importer)
        (SupervisedHealth.TimelyExit importer) (.new importer 0 none)
        (List.flatten [failsAfter 0, firstBackoff, failsAfter (fromSecs 1)])
        health ∧
      health.supervisor.point.failing = true ∧
      health.healed importer = false ∧
      health.supervisor.backoff.attemptCount = 1 ∧
      SupervisedHealth.step importer health .advance = some next ∧
      next.supervisor.backoff = health.supervisor.backoff ∧
      next.supervisor.restartStorm = health.supervisor.restartStorm := by
  obtain ⟨health, run, failing, unhealed, attempts, moves⟩ :
      ∃ health,
        GuardedRun (SupervisedHealth.step importer)
          (SupervisedHealth.TimelyExit importer) (.new importer 0 none)
          (List.flatten [failsAfter 0, firstBackoff, failsAfter (fromSecs 1)])
          health ∧
        health.supervisor.point.failing = true ∧
        health.healed importer = false ∧
        health.supervisor.backoff.attemptCount = 1 ∧
        (SupervisedHealth.step importer health .advance).isSome = true :=
    GuardedRun.exists_of_check (by decide +kernel)
  obtain ⟨next, stepped⟩ := Option.isSome_iff_exists.mp moves
  exact ⟨health, next, run, failing, unhealed, attempts, stepped,
    unhealed_keeps_backoff run failing unhealed stepped⟩

/-- A generation that was never Healthy takes a minute to fail, and its reset
check forgives the failure before it. -/
theorem slow_failure_forgiven :
    ∃ health,
      Run (SupervisedHealth.step importer) (.new importer 0 none)
        (List.flatten [failsAfter 0, firstBackoff, failsAfter (fromSecs 60)])
        health ∧
      health.supervisor.point.failing = true ∧
      health.uptime = none ∧
      (health.supervisor.backoff.attemptCount,
        health.supervisor.restartStorm.failures.length) = (1, 1) ∧
      (SupervisedHealth.step importer health .advance).map (fun next =>
        (next.supervisor.backoff.attemptCount,
          next.supervisor.restartStorm.failures.length)) = some (0, 0) :=
  Run.exists_of_check (by decide +kernel)

end ServiceDaemon
