/-
Purpose: When a signal trigger can wait for a wakeup that has already come and
  gone.
Main exports: HeardInTime, Hears, signal_not_lost
-/
import ServiceDaemon.Core.SignalTrigger
import ServiceDaemon.Proofs.InFlight

namespace ServiceDaemon

open AsyncLib StepSystem

/-!
A `notify()` reaches the trigger only through the future of its current
`handle_step`.  Between two selects there is none, so a call that falls into a
dispatch wakes nobody; and a wakeup that has reached the future is lost with it
when a dispatch outcome ends the select before the host is polled again.

[SRC core/triggers.rs, core/trigger_runner/event_loop.rs]
-/

/-! ### The host future inside the loop -/

section Runner

variable {Payload : Type} {config : RunnerConfig}
  {s next : RunnerState Payload}

/-- A polled `handle_step` future belongs to the current select. -/
def HeldInSelect (s : RunnerState Payload) : Prop :=
  s.hostPolled = true → s.loop.selects = true

namespace HeldInSelect

theorem of_dropped (dropped : next.hostPolled = false) : HeldInSelect next := by
  intro polled
  rw [dropped] at polled
  cases polled

theorem dropped (held : HeldInSelect s) (here : s.loop = point)
    (outside : point.selects = false) : s.hostPolled = false := by
  cases polled : s.hostPolled with
  | false => rfl
  | true =>
    have inside := held polled
    rw [here, outside] at inside
    cases inside

theorem loops (held : HeldInSelect s) (move : LoopMove config s next) : HeldInSelect next := by
  cases move with
  | goes going =>
    cases going with
    | exhausted _ _ | undrained _ _ | staysOpen _ _ | polledAgain _ => exact fun _ => rfl
    | stops here | reloadExhausted here _ | reloadStops here _
    | reloadSuspends here _ | reloadPolledAgain here | drains here _
    | drainSuspends here _ _ | drainPolledAgain here => exact of_dropped (held.dropped here rfl)
  | suspends _ _ | completesAside _ _ _ => exact held
  | timerPending _ _ _ _ => exact fun _ => rfl
  | monitorPending _ _ =>
    intro _
    simp only
    split <;> rfl
  | completesDrain _ _ _ _ _ | failsDraining _ _ _ _ =>
    rw [RunnerState.recordDrainOutcome_eq]
    exact of_dropped rfl
  | timesOut _ _ _ _ =>
    rw [RunnerState.afterDrainTimeout, RunnerState.recordDrainOutcome_eq]
    exact of_dropped rfl
  | enters here =>
    rename_i payload identity thenReload
    have outside : (LoopPoint.handling (if thenReload then
        .reload payload identity else .next payload identity)).selects = false := rfl
    exact of_dropped (held.dropped here outside)
  | _ => exact of_dropped rfl

theorem step (held : HeldInSelect s) (h : Runner.step config s a = some next) :
    HeldInSelect next := by
  cases Move.of_step h with
  | loop elsewhere move => exact held.loops move
  | dispatch here move =>
    have dropped := held.dropped here rfl
    cases move <;> exact of_dropped dropped
  | hostPending here => exact fun _ => rfl
  | hostReady _ | drops _ | dropsQueued _ => exact of_dropped rfl
  | _ => exact held

end HeldInSelect

theorem loopStep_atHost (here : s.loop = .pollHost) : s.loopStep config = none := by
  simp only [RunnerState.loopStep, here]

theorem loop_atHost {point : LoopPoint Payload} (waiting : point.atHost = true) :
    point = .pollHost := by
  cases point <;> first | rfl | cases waiting

/-- While the generation goes on, only an observed outcome takes the future
away from a select that has polled it. -/
theorem hostPolled_stays (held : HeldInSelect s) (polled : s.hostPolled = true)
    (silent : s.loop.pollsInFlight = true → s.yieldsNext = false) (move : LoopMove config s next)
    (running : next.isShutdown = false) (present : next.loop.gone = false) :
    next.hostPolled = true := by
  have unyielded {id : Nat} {rest : FuturesUnordered Nat}
      {task : DispatchTask Payload} {res : TaskResult}
      (there : s.loop.pollsInFlight = true)
      (yielded : Yields s id rest task res) : False := by
    have quiet := silent there
    rw [yielded.yieldsNext] at quiet
    cases quiet
  cases move with
  | goes _ | suspends _ _ | timerPending _ _ _ _ | monitorPending _ _ => exact polled
  | completes here yielded _ _ | completesDraining here yielded _ _ _ =>
    exact (unyielded (by rw [here]; rfl) yielded).elim
  | completesAside here yielded _ =>
    have there : s.loop.pollsInFlight = true := by
      rcases here with here | here <;>
      · rw [here]
        rfl
    exact (unyielded there yielded).elim
  | startsDrain _ cancelled _ =>
    have closed : s.isShutdown = false := running
    rw [cancelled] at closed
    cases closed
  | enters here =>
    have inside := held polled
    rw [here] at inside
    cases inside
  | _ => cases present

/-- The select keeps its `handle_step` future until the loop observes an
outcome, accepts a transition, shuts down or is gone. -/
theorem holdsStep_stays (held : HeldInSelect s) (holding : s.holdsStep = true) {a : Action Payload}
    (silent : a = .loop → s.loop.pollsInFlight = true → s.yieldsNext = false)
    (unanswered : ∀ transition, a ≠ .hostReady transition) (h : Runner.step config s a = some next)
    (running : next.isShutdown = false) (present : next.loop.gone = false) :
    next.holdsStep = true := by
  have polled_or_here : s.hostPolled = true ∨ s.loop = .pollHost :=
    (Bool.or_eq_true_iff.mp holding).imp_right loop_atHost
  cases Move.of_step h with
  | loop elsewhere move =>
    rcases polled_or_here with polled | here
    · have kept := hostPolled_stays held polled (silent rfl) move running present
      rw [RunnerState.holdsStep, kept]
      rfl
    · have moved : s.loopStep config = some next := h
      rw [loopStep_atHost here] at moved
      cases moved
  | dispatch there move =>
    rcases polled_or_here with polled | here
    · have inside := held polled
      rw [there] at inside
      cases inside
    · rw [there] at here
      cases here
  | hostReady _ => exact absurd rfl (unanswered _)
  | hostPending _ => rfl
  | drops _ | dropsQueued _ => cases present
  | _ => exact holding

end Runner

/-! ### The signal -/

namespace SignalState

/-- The trigger has begun to listen and is neither shut down nor gone. -/
def active (s : SignalState) : Bool :=
  s.listening && !s.runner.isShutdown && !s.runner.loop.gone

/-- The loop waits inside `handle_step` and nothing has woken it. -/
def waitsUnwoken (s : SignalState) : Bool :=
  match s.runner.loop with
  | .parked => decide (s.signal.future = some .waiting)
  | _ => false

end SignalState

/-- The waiters are woken while the trigger has a future, and no outcome is
observed between a wakeup and the poll that sees it. -/
def HeardInTime (s : SignalState) : SignalAction → Prop
  | .notifyWaiters =>
    s.active = true → s.signal.future.isSome = true
  | .runner .loop =>
    s.signal.future = some .notified →
      s.runner.loop.pollsInFlight = true → s.runner.yieldsNext = false
  | _ => True

instance (s : SignalState) :
    (a : SignalAction) → Decidable (HeardInTime s a)
  | .notifyWaiters => inferInstanceAs (Decidable (_ → _))
  | .runner .loop => inferInstanceAs (Decidable (_ → _ → _))
  | .writeIdentity _ | .pollStep => isTrue trivial
  | .runner (.hostReady _) | .runner .hostPending | .runner .dropFuture
  | .runner (.taskReturnsPermit _ _) | .runner (.taskCompletes _)
  | .runner .monitor | .runner (.monitorEnds _)
  | .runner (.requestOverlay _) | .runner (.clearOverlay _)
  | .runner .cancel | .runner .requestReload | .runner (.advance _) =>
    isTrue trivial

variable {config : RunnerConfig} {s next : SignalState}

/-- A `notify()` that the loop has not accepted is still on its way: it has
reached the future of the current select. -/
structure Hears (s : SignalState) : Prop where
  held : HeldInSelect s.runner
  alive : s.signal.future.isSome = true → s.runner.holdsStep = true
  deaf : s.listening = false → s.unaccepted = 0
  heard : s.active = true → s.unaccepted = 0 ∨ s.signal.future = some .notified

namespace Hears

theorem new (config : RunnerConfig) (now : Instant) :
    Hears (SignalTrigger.new config now) where
  held := nofun
  alive := nofun
  deaf := fun _ => rfl
  heard := fun _ => .inl rfl

/-- A generation that is active was active before. -/
theorem active_before
    (h : Runner.step config s.runner a = some runner)
    (active : (s.listening && !runner.isShutdown && !runner.loop.gone) =
      true) : s.active = true := by
  simp only [Bool.and_eq_true, Bool.not_eq_true', SignalState.active] at active ⊢
  refine ⟨⟨active.1.1, ?_⟩, ?_⟩
  · cases closing : s.runner.isShutdown with
    | false => rfl
    | true =>
      rw [isShutdown_stays closing h] at active
      cases active.1.2
  · cases gone : s.runner.loop.gone with
    | false => rfl
    | true =>
      rw [(gone_stays gone h).1, gone] at active
      cases active.2

/-- A step of the generation keeps the wakeup that its select holds. -/
theorem runnerMoves (hears : Hears s) (guarded : HeardInTime s (.runner a))
    (unanswered : ∀ transition, a ≠ .hostReady transition)
    (h : SignalTrigger.runnerMoves config s a = some next) : Hears next := by
  simp only [SignalTrigger.runnerMoves, Option.map_eq_some_iff] at h
  obtain ⟨runner, moved, rfl⟩ := h
  refine ⟨hears.held.step moved, ?_, hears.deaf, ?_⟩
  · intro waiting
    simp only at waiting ⊢
    split at waiting
    · assumption
    · cases waiting
  · intro active
    rcases hears.heard (active_before moved active) with accepted | notified
    · exact .inl accepted
    · right
      have holding : s.runner.holdsStep = true := hears.alive (by rw [notified]; rfl)
      have silent : a = .loop → s.runner.loop.pollsInFlight = true →
            s.runner.yieldsNext = false := by
        rintro rfl
        exact guarded notified
      simp only [SignalState.active, Bool.and_eq_true, Bool.not_eq_true'] at active
      have kept := holdsStep_stays hears.held holding silent unanswered moved active.1.2 active.2
      simp only [kept, if_true]
      exact notified

/-- A poll of `handle_step` creates the future, finds it waiting, or accepts the
signal. -/
theorem pollStep (hears : Hears s) (h : SignalTrigger.pollStep config s = some next) :
    Hears next := by
  unfold SignalTrigger.pollStep at h
  split at h
  · rename_i absent
    split at h
    · rename_i here
      cases h
      refine ⟨hears.held, fun _ => ?_, nofun, fun active => .inl ?_⟩
      · simp only [RunnerState.holdsStep, here, Bool.or_true]
      · cases listening : s.listening with
        | false => exact hears.deaf listening
        | true =>
          have before : s.active = true := by
            rw [← active, SignalState.active, listening]
            rfl
          rcases hears.heard before with accepted | notified
          · exact accepted
          · rw [absent] at notified
            cases notified
    · cases h
  · rename_i waiting
    simp only [Option.map_eq_some_iff] at h
    obtain ⟨runner, moved, rfl⟩ := h
    have holding : runner.holdsStep = true := by
      cases Move.of_step moved with
      | hostPending here => rfl
    refine ⟨hears.held.step moved, fun _ => holding, hears.deaf, ?_⟩
    intro active
    exact hears.heard (active_before moved active)
  · simp only [Option.map_eq_some_iff] at h
    obtain ⟨runner, moved, rfl⟩ := h
    exact ⟨hears.held.step moved, nofun, fun _ => rfl, fun _ => .inl rfl⟩

theorem notifyWaiters (hears : Hears s) (guarded : HeardInTime s .notifyWaiters)
    (h : SignalTrigger.step config s .notifyWaiters = some next) : Hears next := by
  simp only [SignalTrigger.step, Option.map_eq_some_iff] at h
  obtain ⟨signal, woken, rfl⟩ := h
  have future : signal.future = s.signal.future.map fun _ => .notified := by
    unfold TrackedNotify.notifyWaiters at woken
    split at woken
    · cases woken
    · cases woken
      rfl
  refine ⟨hears.held, ?_, ?_, ?_⟩
  · intro waiting
    rw [future, Option.isSome_map] at waiting
    exact hears.alive waiting
  · intro unheard
    have silent : s.listening = false := unheard
    simp only [silent]
    exact hears.deaf silent
  · intro active
    right
    obtain ⟨_, created⟩ := Option.isSome_iff_exists.mp (guarded active)
    rw [future, created]
    rfl

theorem step (hears : Hears s) (guarded : HeardInTime s a)
    (h : SignalTrigger.step config s a = some next) : Hears next := by
  cases a with
  | writeIdentity identity =>
    cases h
    exact ⟨hears.held, hears.alive, hears.deaf, hears.heard⟩
  | notifyWaiters => exact hears.notifyWaiters guarded h
  | pollStep => exact hears.pollStep h
  | runner a =>
    cases a with
    | hostReady _ | hostPending => cases h
    | _ => exact hears.runnerMoves guarded nofun h

end Hears

/-- A signal is not lost while its trigger runs, in every run in which each
`notify()` finds the future of the current select and no outcome overtakes it:
where the loop waits inside `handle_step` without a wakeup, every `notify()`
since it began to listen has led to an accepted `Next`. -/
theorem signal_not_lost {now : Instant} {schedule : List SignalAction} {state : SignalState}
    (run : GuardedRun (SignalTrigger.step config) HeardInTime
      (SignalTrigger.new config now) schedule state) (running : state.runner.isShutdown = false)
    (waiting : state.waitsUnwoken = true) : state.unaccepted = 0 := by
  have hears : Hears state :=
    run.invariant (.new config now) fun hears guarded stepped =>
      hears.step guarded stepped
  unfold SignalState.waitsUnwoken at waiting
  split at waiting
  · rename_i here
    have unwoken : state.signal.future = some .waiting := by
      simpa using waiting
    cases listening : state.listening with
    | false => exact hears.deaf listening
    | true =>
      have active : state.active = true := by
        rw [SignalState.active, listening, running, here]
        rfl
      rcases hears.heard active with accepted | notified
      · exact accepted
      · rw [unwoken] at notified
        cases notified
  · cases waiting

/-- The loop takes `count` steps. -/
def signalLoops (count : Nat) : List SignalAction :=
  List.replicate count (.runner .loop)

/-- One call of `notify()`. -/
def notify (messageId : Uuid) : List SignalAction :=
  [.writeIdentity (messageId, ⟨7⟩), .notifyWaiters]

/-- A signal that comes while the trigger waits is accepted, and the loop waits
again with nothing missed. -/
theorem signal_not_lost_while_waiting :
    ∃ state : SignalState,
      GuardedRun (SignalTrigger.step (.managed none)) HeardInTime
          (SignalTrigger.new (.managed none) 0)
          (signalLoops 4 ++ [.pollStep, .pollStep] ++ notify 1 ++
            signalLoops 5 ++ [.pollStep] ++ signalLoops 19 ++
            [.pollStep, .pollStep]) state ∧
        state.runner.tasks.length = 1 ∧ state.waitsUnwoken = true ∧
        state.unaccepted = 0 := by
  obtain ⟨state, run, dispatched, running, waiting⟩ :
      ∃ state : SignalState,
        GuardedRun (SignalTrigger.step (.managed none)) HeardInTime
            (SignalTrigger.new (.managed none) 0)
            (signalLoops 4 ++ [.pollStep, .pollStep] ++ notify 1 ++
              signalLoops 5 ++ [.pollStep] ++ signalLoops 19 ++
              [.pollStep, .pollStep]) state ∧
          state.runner.tasks.length = 1 ∧
          state.runner.isShutdown = false ∧ state.waitsUnwoken = true :=
    GuardedRun.exists_of_check (by decide +kernel)
  exact ⟨state, run, dispatched, waiting, signal_not_lost run running waiting⟩

/-- A second signal comes while the loop dispatches the first one.  No future
exists at that moment, so it wakes nobody, and the loop goes back to waiting
with the signal unaccepted. -/
theorem signal_lost_during_dispatch :
    ∃ state : SignalState,
      Run (SignalTrigger.step (.managed none))
          (SignalTrigger.new (.managed none) 0)
          (signalLoops 4 ++ [.pollStep, .pollStep] ++ notify 1 ++
            signalLoops 5 ++ [.pollStep] ++ notify 2 ++ signalLoops 19 ++
            [.pollStep, .pollStep]) state ∧
        state.listening = true ∧ state.runner.isShutdown = false ∧
        state.waitsUnwoken = true ∧ state.unaccepted = 1 :=
  Run.exists_of_check (by decide +kernel)

end ServiceDaemon
