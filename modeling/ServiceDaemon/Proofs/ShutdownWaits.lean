/-
Purpose: What a trigger generation still waits for, and still starts, once its
  shutdown or reload has been requested.
Main exports: Draining, RunnerState.awaits, ClosesBetweenWaits,
  shutdown_wait_bounded, no_dispatch_after_closing
-/
import ServiceDaemon.Core.Moves
import ServiceDaemon.Proofs.Resize

namespace ServiceDaemon

open AsyncLib StepSystem RunnerState

variable {Payload : Type} {config : RunnerConfig}
  {s next : RunnerState Payload}

/-!
The main loop can always be woken by a shutdown: while it accepts events it
waits for the cancellation, and from then on for the drain timer.  Two waits
below it poll neither of them: the acquire of a dispatch, and `drain_in_flight`
after a host has stopped.

[SRC core/trigger_runner/event_loop.rs, core/trigger_runner/dispatch.rs,
core/trigger_runner/drain.rs]
-/

/-! ### Where the loop drains -/

namespace LoopPoint

/-- Points at which `shutdown_draining` can be set. -/
def mayDrain : LoopPoint Payload → Bool
  | .pollInFlight | .pollDrain | .pollMonitor | .parked => true
  | .returned _ | .dropped => true
  | _ => false

/-- Points of a draining loop that come after the poll of its timer. -/
def polledTimer : LoopPoint Payload → Bool
  | .pollMonitor | .parked => true
  | _ => false

end LoopPoint

/-- The sleep of the timer, if it has started, is over at `limit`. -/
def DrainTimer.DueBy (limit : Instant) (timer : DrainTimer) : Prop :=
  ∀ deadline, timer.deadline = some deadline → deadline ≤ limit

theorem DrainTimer.DueBy.poll {timer after : DrainTimer} {now : Instant}
    (due : timer.DueBy (now + defaultTriggerShutdownDrainTimeout))
    (polled : timer.poll now = .inl after) :
    after.DueBy (now + defaultTriggerShutdownDrainTimeout) := by
  unfold DrainTimer.poll at polled
  split at polled
  · cases polled
    intro deadline started
    cases started
    exact Nat.le_refl _
  · split at polled
    · cases polled
    · cases polled
      exact due

/-- A draining loop stays in the select, and its timer is armed by the first
poll and fires in bounded time. -/
structure Draining (s : RunnerState Payload) : Prop where
  located : s.shutdownDraining = true → s.loop.mayDrain = true
  timed : s.shutdownDraining = true → ∃ timer, s.drainTimer = some timer ∧
      timer.DueBy (s.shared.now + defaultTriggerShutdownDrainTimeout) ∧
      (s.loop.polledTimer = true → timer.deadline.isSome = true)

namespace Draining

theorem of_accepting (accepting : s.shutdownDraining = false) : Draining s := by
  constructor <;>
  · intro draining
    rw [accepting] at draining
    cases draining

theorem accepting (draining : Draining s) (elsewhere : s.loop.mayDrain = false) :
    s.shutdownDraining = false := by
  cases started : s.shutdownDraining with
  | false => rfl
  | true =>
    have located := draining.located started
    rw [elsewhere] at located
    cases located

/-- Moves within the select that leave the timer alone. -/
theorem moves (draining : Draining s) (flag : next.shutdownDraining = s.shutdownDraining)
    (timer : next.drainTimer = s.drainTimer) (clock : s.shared.now ≤ next.shared.now)
    (located : s.loop.mayDrain = true → next.loop.mayDrain = true)
    (polled : next.loop.polledTimer = true → s.loop.polledTimer = true) : Draining next := by
  constructor
  · intro started
    exact located (draining.located (flag ▸ started))
  · intro started
    obtain ⟨armed, found, due, sleeping⟩ := draining.timed (flag ▸ started)
    refine ⟨armed, timer ▸ found, ?_, fun there => sleeping (polled there)⟩
    intro deadline running
    have bounded := due deadline running
    exact Nat.le_trans bounded (Nat.add_le_add_right clock _)

theorem leaves (draining : Draining s) {before : RunnerState Payload} {point : LoopPoint Payload}
    (gone : point.mayDrain = true) (unpolled : point.polledTimer = false)
    (flag : before.shutdownDraining = s.shutdownDraining) (timer : before.drainTimer = s.drainTimer)
    (clock : before.shared.now = s.shared.now) :
    Draining { before.dropLocals with loop := point } := by
  refine draining.moves flag timer (Nat.le_of_eq clock.symm) (fun _ => gone) ?_
  intro polled
  rw [unpolled] at polled
  cases polled

theorem goes (draining : Draining s) (going : Goes s point) :
    Draining { s with loop := point } := by
  cases going with
  | exhausted here empty => exact draining.moves rfl rfl (Nat.le_refl _) (fun _ => rfl) nofun
  | polledAgain here => exact draining.moves rfl rfl (Nat.le_refl _) (fun _ => rfl) nofun
  | undrained here unarmed =>
    apply of_accepting
    rcases unarmed with accepting | missing
    · exact accepting
    · cases started : s.shutdownDraining with
      | false => rfl
      | true =>
        obtain ⟨timer, found, -⟩ := draining.timed started
        rw [missing] at found
        cases found
  | staysOpen here _ | stops here | reloadExhausted here _
  | reloadStops here _ | reloadSuspends here _ | reloadPolledAgain here
  | drains here _ | drainSuspends here _ _ | drainPolledAgain here =>
    exact of_accepting (draining.accepting (by rw [here]; rfl))

theorem loops (draining : Draining s) (move : LoopMove config s next) : Draining next := by
  cases move with
  | goes going => exact draining.goes going
  | suspends _ _ | completesAside _ _ _ => exact draining.moves rfl rfl (Nat.le_refl _) id id
  | timerPending here started armed polled =>
    refine ⟨fun _ => rfl, fun _ => ?_⟩
    obtain ⟨timer, found, due, -⟩ := draining.timed started
    rw [armed] at found
    cases found
    exact ⟨_, rfl, due.poll polled, fun _ => DrainTimer.armed_of_poll polled⟩
  | monitorPending here alive =>
    by_cases started : s.shutdownDraining = true
    · refine draining.moves rfl rfl (Nat.le_refl _) (fun _ => ?_) (fun _ => by rw [here]; rfl)
      simp [started, LoopPoint.mayDrain]
    · exact of_accepting (by simpa using started)
  | completes _ _ _ accepting => exact of_accepting accepting
  | completesDraining here _ _ _ _ =>
    refine draining.moves rfl rfl (Nat.le_refl _) (fun _ => rfl) ?_
    intro there
    cases there
  | completesDrain _ _ _ _ _ | failsDraining _ _ _ _ =>
    rw [recordDrainOutcome_eq]
    exact draining.leaves rfl rfl rfl rfl rfl
  | timesOut here started armed fired =>
    rw [afterDrainTimeout, recordDrainOutcome_eq]
    exact draining.leaves rfl rfl rfl rfl rfl
  | startsDrain here cancelled occupied =>
    refine ⟨fun _ => rfl, fun _ => ⟨_, rfl, ?_, ?_⟩⟩
    · intro deadline unstarted
      cases unstarted
    · intro there
      cases there
  | enters here =>
    apply of_accepting
    apply draining.accepting
    rw [here]
    rfl
  | _ => exact draining.leaves rfl rfl rfl rfl rfl

theorem step (draining : Draining s) {a : Action Payload} (h : Runner.step config s a = some next) :
    Draining next := by
  cases Move.of_step h with
  | loop elsewhere move => exact draining.loops move
  | dispatch here move =>
    have accepting : s.shutdownDraining = false := draining.accepting (by rw [here]; rfl)
    cases move <;> exact of_accepting accepting
  | hostReady here | hostPending here => exact of_accepting (draining.accepting (by rw [here]; rfl))
  | drops here => exact draining.leaves rfl rfl rfl rfl rfl
  | dropsQueued here => exact of_accepting (draining.accepting (by rw [here]; rfl))
  | monitor scaled ticked =>
    refine draining.moves rfl rfl ?_ id id
    exact Nat.le_of_eq (monitorStep_now ticked).symm
  | advance => exact draining.moves rfl rfl (Nat.le_add_right _ _) id id
  | requestRejected | clearRejected => exact draining
  | _ => exact draining.moves rfl rfl (Nat.le_refl _) id id

theorem reaches (reached : Runner.Reaches config now acts s) : Draining s :=
  reached.invariant (of_accepting rfl) fun draining _ h =>
    draining.step h

end Draining

/-! ### What a suspended loop waits for -/

/-- The events that can wake a suspended `run_with_host`. -/
inductive Awaited where
  | outcome
  | drainTimer
  | monitor
  | cancellation
  | host
  | permit
deriving Repr, DecidableEq

/-- What `run_with_host` waits for where it is suspended. -/
def RunnerState.awaits (s : RunnerState Payload) :
    Option (List Awaited) :=
  match s.loop with
  | .parked =>
    if s.shutdownDraining then some [.outcome, .drainTimer, .monitor]
    else some [.outcome, .monitor, .cancellation, .host]
  | .dispatching _ .queued => some [.permit]
  | .reloadParked => some [.outcome, .cancellation]
  | .drainParked => some [.outcome]
  | _ => none

namespace LoopPoint

/-- The loop is in one of the two waits that no shutdown interrupts. -/
def uninterrupted : LoopPoint Payload → Bool
  | .dispatching _ .queued | .drainPoll | .drainParked => true
  | _ => false

/-- The loop is about to acquire a permit. -/
def acquires : LoopPoint Payload → Bool
  | .dispatching _ .acquire => true
  | _ => false

end LoopPoint

/-- Shutdown is not requested during an uninterrupted wait, and once it has
been requested a dispatch under way finds an idle permit. -/
def ClosesBetweenWaits (s : RunnerState Payload) :
    Action Payload → Prop
  | .cancel | .requestReload => s.loop.uninterrupted = false
  | .loop =>
    s.isShutdown = true → s.loop.acquires = true → s.shared.semaphore.permits ≠ 0
  | _ => True

instance (s : RunnerState Payload) :
    (a : Action Payload) → Decidable (ClosesBetweenWaits s a)
  | .cancel | .requestReload => inferInstanceAs (Decidable (_ = false))
  | .loop => inferInstanceAs (Decidable (_ → _ → _))
  | .hostReady _ | .hostPending | .dropFuture | .taskReturnsPermit _ _
  | .taskCompletes _ | .monitor | .monitorEnds _ | .requestOverlay _
  | .clearOverlay _ | .advance _ => isTrue trivial

/-- A loop that is to shut down is in no uninterrupted wait. -/
def Interruptible (s : RunnerState Payload) : Prop :=
  s.isShutdown = true → s.loop.uninterrupted = false

namespace Interruptible

theorem of_point (there : next.loop.uninterrupted = false) :
    Interruptible next :=
  fun _ => there

/-- The drain after a `Stop` starts only while no shutdown is requested. -/
theorem goes (interruptible : Interruptible s) (going : Goes s point) :
    Interruptible { s with loop := point } := by
  cases going with
  | drains here uncancelled =>
    intro closing
    have closed : s.isShutdown = true := closing
    rw [uncancelled] at closed
    cases closed
  | drainSuspends here _ _ | drainPolledAgain here =>
    intro closing
    have excluded := interruptible closing
    rw [here] at excluded
    cases excluded
  | _ => exact of_point rfl

theorem loops (interruptible : Interruptible s)
    (move : LoopMove config s next) : Interruptible next := by
  cases move with
  | goes going => exact interruptible.goes going
  | suspends _ _ | completesAside _ _ _ => exact interruptible
  | monitorPending here alive =>
    apply of_point
    cases started : s.shutdownDraining <;> rfl
  | enters here =>
    apply of_point
    simp only [enterDispatch]
    split <;> rfl
  | _ => exact of_point rfl

theorem dispatches (guarded : ClosesBetweenWaits s .loop)
    (here : s.loop = .dispatching frame point) (move : DispatchMove config frame s point next) :
    Interruptible next := by
  cases move with
  | queues exhausted =>
    intro closing
    have acquiring : s.loop.acquires = true := by
      rw [here]
      rfl
    exact absurd exhausted (guarded closing acquiring)
  | spawns =>
    apply of_point
    simp only [spawnDispatch]
    split <;> rfl
  | _ => exact of_point rfl

theorem step (interruptible : Interruptible s) {a : Action Payload}
    (guarded : ClosesBetweenWaits s a) (h : Runner.step config s a = some next) :
    Interruptible next := by
  cases Move.of_step h with
  | loop elsewhere move => exact interruptible.loops move
  | dispatch here move => exact dispatches guarded here move
  | hostReady _ | hostPending _ | drops _ | dropsQueued _ => exact of_point rfl
  | cancel | requestReload => exact of_point guarded
  | _ => exact interruptible

end Interruptible

/-- Trigger shutdown stays bounded when it does not meet an uninterrupted
wait: wherever `run_with_host` is suspended after the request, it waits for the
cancellation, or for a drain timer whose sleep has started and which fires
within the drain timeout. -/
theorem shutdown_wait_bounded {now : Instant} {schedule : List (Action Payload)}
    {state : RunnerState Payload} {events : List Awaited}
    (run : GuardedRun (Runner.step config) ClosesBetweenWaits
      (RunnerState.new config now) schedule state) (closing : state.isShutdown = true)
    (suspended : state.awaits = some events) :
    .cancellation ∈ events ∨ (.drainTimer ∈ events ∧
        ∃ timer deadline, state.drainTimer = some timer ∧ timer.deadline = some deadline ∧
          deadline ≤ state.shared.now + defaultTriggerShutdownDrainTimeout) := by
  have interruptible : Interruptible state :=
    run.invariant (fun _ => rfl) fun interruptible guarded stepped =>
      interruptible.step guarded stepped
  have draining : Draining state := Draining.reaches run.toRun
  have waits := interruptible closing
  unfold RunnerState.awaits at suspended
  split at suspended
  · rename_i here
    split at suspended
    · rename_i started
      cases suspended
      obtain ⟨timer, found, due, armed⟩ := draining.timed started
      obtain ⟨deadline, running⟩ :=
        Option.isSome_iff_exists.mp (armed (by rw [here]; rfl))
      exact .inr ⟨by decide, timer, deadline, found, running, due deadline running⟩
    · cases suspended
      exact .inl (by decide)
  · rename_i frame here
    rw [here] at waits
    cases waits
  · cases suspended
    exact .inl (by decide)
  · rename_i here
    rw [here] at waits
    cases waits
  · cases suspended

/-- Two events reach a serial trigger whose first handler keeps running: the
second dispatch queues for the permit. -/
def saturated : List (Action Unit) :=
  Runner.arrival 4 () ++ Runner.loops 14 ++ Runner.arrival 5 () ++ Runner.loops 10

/-- One handler is running when the generation is cancelled; the loop drains
and waits for its timer. -/
theorem shutdown_wait_bounded_drain :
    ∃ state : RunnerState Unit,
      GuardedRun (Runner.step (.managed none)) ClosesBetweenWaits
          (RunnerState.new (.managed none) 0)
          (Runner.arrival 4 () ++ Runner.loops 14 ++ [.cancel] ++ Runner.loops 8) state ∧
        state.awaits = some [.outcome, .drainTimer, .monitor] ∧
        ∃ timer deadline, state.drainTimer = some timer ∧
          timer.deadline = some deadline ∧ deadline ≤ fromSecs 5 := by
  obtain ⟨state, run, closing, suspended, start⟩ :
      ∃ state : RunnerState Unit,
        GuardedRun (Runner.step (.managed none)) ClosesBetweenWaits
            (RunnerState.new (.managed none) 0)
            (Runner.arrival 4 () ++ Runner.loops 14 ++ [.cancel] ++ Runner.loops 8) state ∧
          state.isShutdown = true ∧
          state.awaits = some [.outcome, .drainTimer, .monitor] ∧
          state.shared.now = 0 :=
    GuardedRun.exists_of_check (by decide +kernel)
  rcases shutdown_wait_bounded run closing suspended with
    cancellation | ⟨-, timer, deadline, found, armed, due⟩
  · exact absurd cancellation (by decide)
  · rw [start, Nat.zero_add] at due
    exact ⟨state, run, suspended, timer, deadline, found, armed, due⟩

/-- A generation cancelled while a dispatch queues is suspended on the permit
alone: neither the cancellation nor a drain timer can wake it. -/
theorem cancelled_while_queued :
    ∃ state : RunnerState Unit,
      Runner.Reaches (.managed none) 0 (saturated ++ [.cancel]) state ∧
        state.isShutdown = true ∧ state.awaits = some [.permit] ∧
        state.drainTimer = none :=
  Run.exists_of_check (by decide +kernel)

/-! ### What the loop still starts -/

/-- The loop has accepted an event that it has not yet dispatched. -/
def LoopPoint.underWay : LoopPoint Payload → Bool
  | .handling (.next _ _) | .handling (.reload _ _) => true
  | .dispatching _ _ => true
  | _ => false

/-- Shutdown is not requested between the arrival of an event and the spawn of
its task, and once it has been requested the host returns no event. -/
def ClosesBetweenDispatches (s : RunnerState Payload) :
    Action Payload → Prop
  | .cancel | .requestReload => s.loop.underWay = false
  | .hostReady transition =>
    (LoopPoint.handling transition).underWay = true → s.isShutdown = false
  | _ => True

instance (s : RunnerState Payload) : (a : Action Payload) → Decidable (ClosesBetweenDispatches s a)
  | .cancel | .requestReload => inferInstanceAs (Decidable (_ = false))
  | .hostReady _ => inferInstanceAs (Decidable (_ → _))
  | .loop | .hostPending | .dropFuture | .taskReturnsPermit _ _
  | .taskCompletes _ | .monitor | .monitorEnds _ | .requestOverlay _
  | .clearOverlay _ | .advance _ => isTrue trivial

/-- Events are under way only while no shutdown is requested. -/
def Accepting (s : RunnerState Payload) : Prop :=
  s.loop.underWay = true → s.isShutdown = false

namespace Accepting

theorem of_point (there : next.loop.underWay = false) : Accepting next := by
  intro dispatching
  rw [there] at dispatching
  cases dispatching

theorem loops (accepting : Accepting s) (move : LoopMove config s next) : Accepting next := by
  cases move with
  | goes going => cases going <;> exact of_point rfl
  | suspends _ _ | completesAside _ _ _ => exact accepting
  | monitorPending here alive =>
    apply of_point
    cases started : s.shutdownDraining <;> rfl
  | enters here =>
    rename_i payload identity thenReload
    intro _
    apply accepting
    rw [here]
    cases thenReload <;> rfl
  | _ => exact of_point rfl

theorem dispatches (accepting : Accepting s) (here : s.loop = .dispatching frame point)
    (move : DispatchMove config frame s point next) : Accepting next := by
  have uncancelled : s.isShutdown = false := accepting (by rw [here]; rfl)
  cases move <;> exact fun _ => uncancelled

theorem step (accepting : Accepting s) {a : Action Payload} (guarded : ClosesBetweenDispatches s a)
    (h : Runner.step config s a = some next) : Accepting next := by
  cases Move.of_step h with
  | loop elsewhere move => exact accepting.loops move
  | dispatch here move => exact accepting.dispatches here move
  | hostReady here => exact guarded
  | hostPending _ | drops _ | dropsQueued _ => exact of_point rfl
  | cancel | requestReload => exact of_point guarded
  | _ => exact accepting

end Accepting

/-- Only the spawn of a dispatch adds a task. -/
theorem spawning_of_grows (h : Runner.step config s a = some next)
    (grows : s.tasks.length < next.tasks.length) : s.loop.underWay = true := by
  cases Move.of_step h with
  | dispatch here move =>
    rw [here]
    rfl
  | loop elsewhere move =>
    have kept := congrArg List.length (move.frame elsewhere).tasks
    simp only [List.length_map] at kept
    exact absurd grows (by omega)
  | drops here => simp [dropLocals, dropObservers] at grows
  | dropsQueued here => simp [dropLocals, dropObservers] at grows
  | returnsPermit _ _ | completes _ _ => simp at grows
  | _ => exact absurd grows (Nat.lt_irrefl _)

/-- No dispatch task is spawned after the generation has been told to shut down
or reload, in every run in which the request does not overtake an accepted
event. -/
theorem no_dispatch_after_closing {now : Instant} {schedule : List (Action Payload)}
    {state : RunnerState Payload} {action : Action Payload}
    (run : GuardedRun (Runner.step config) ClosesBetweenDispatches
      (RunnerState.new config now) schedule state)
    (stepped : Runner.step config state action = some next)
    (spawned : state.tasks.length < next.tasks.length) :
    state.isShutdown = false := by
  have accepting : Accepting state :=
    run.invariant nofun fun accepting guarded stepped =>
      accepting.step guarded stepped
  exact accepting (spawning_of_grows stepped spawned)

/-- The first event is dispatched while the generation is open. -/
theorem no_dispatch_after_closing_first :
    ∃ state next : RunnerState Unit,
      GuardedRun (Runner.step (.managed none)) ClosesBetweenDispatches
          (RunnerState.new (.managed none) 0)
          (Runner.arrival 4 () ++ Runner.loops 13) state ∧
        Runner.step (.managed none) state .loop = some next ∧
        next.tasks.length = 1 ∧ state.isShutdown = false := by
  obtain ⟨state, run, idle, next, stepped, spawned⟩ :
      ∃ state : RunnerState Unit,
        GuardedRun (Runner.step (.managed none)) ClosesBetweenDispatches
            (RunnerState.new (.managed none) 0)
            (Runner.arrival 4 () ++ Runner.loops 13) state ∧
          state.tasks.length = 0 ∧
          ∃ next ∈ Runner.step (.managed none) state .loop,
            next.tasks.length = 1 :=
    GuardedRun.exists_of_check (by decide +kernel)
  exact ⟨state, next, run, stepped, spawned, no_dispatch_after_closing run stepped (by omega)⟩

/-- A dispatch that queues for a permit when the generation is cancelled is
spawned once the running handler returns its permit. -/
theorem dispatch_spawned_after_cancel :
    ∃ state next : RunnerState Unit,
      Runner.Reaches (.managed none) 0
          (saturated ++ [.cancel, .taskReturnsPermit 0 .ok] ++ Runner.loops 4) state ∧
        state.isShutdown = true ∧
        Runner.step (.managed none) state .loop = some next ∧
        state.tasks.length = 1 ∧ next.tasks.length = 2 := by
  obtain ⟨state, reached, closing, before, next, stepped, spawned⟩ :
      ∃ state : RunnerState Unit,
        Runner.Reaches (.managed none) 0
            (saturated ++ [.cancel, .taskReturnsPermit 0 .ok] ++ Runner.loops 4) state ∧
          state.isShutdown = true ∧ state.tasks.length = 1 ∧
          ∃ next ∈ Runner.step (.managed none) state .loop,
            next.tasks.length = 2 :=
    Run.exists_of_check (by decide +kernel)
  exact ⟨state, next, reached, closing, stepped, before, spawned⟩

end ServiceDaemon
