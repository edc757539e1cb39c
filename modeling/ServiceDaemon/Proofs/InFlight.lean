/-
Purpose: What holds of the in-flight set in every run: which dispatches it
  contains and which of their observers have been polled; and what no step
  undoes: a finished dispatch, a shutdown request, the end of the loop.
Main exports: RunnerState.taskState, taskState_finished, gone_stays
-/
import ServiceDaemon.Core.Moves

namespace ServiceDaemon

open AsyncLib StepSystem RunnerState FuturesUnordered

variable {Payload : Type} {cfg : RunnerConfig}
  {s next : RunnerState Payload}

/-! ### Tasks -/

/-- The state of dispatch `id`. -/
def RunnerState.taskState (s : RunnerState Payload) (id : Nat) :
    Option TaskState :=
  s.tasks[id]?.map DispatchTask.state

namespace RunnerState

theorem taskState_of_found {id task} (found : s.tasks[id]? = some task) :
    s.taskState id = some task.state := by
  rw [taskState, found]
  rfl

theorem taskState_of_states
    (states : next.tasks.map DispatchTask.state = s.tasks.map DispatchTask.state) (id : Nat) :
    next.taskState id = s.taskState id := by
  simp only [taskState, ← List.getElem?_map, states]

/-- Setting a task that has not finished leaves the finished ones alone. -/
theorem taskState_set {id other task after res}
    (found : s.tasks[id]? = some task) (unfinished : task.state ≠ .finished res)
    (finished : s.taskState other = some (.finished res)) :
    (s.tasks.set id after)[other]?.map DispatchTask.state = some (.finished res) := by
  have different : id ≠ other := by
    rintro rfl
    rw [taskState_of_found found] at finished
    exact unfinished (Option.some.inj finished)
  rw [List.getElem?_set_ne different]
  exact finished

end RunnerState

/-- The result of a finished dispatch is never changed. -/
theorem taskState_finished {a id res} (h : Runner.step cfg s a = some next)
    (finished : s.taskState id = some (.finished res)) :
    next.taskState id = some (.finished res) := by
  cases Move.of_step h with
  | loop elsewhere move =>
    rw [taskState_of_states (move.frame elsewhere).tasks]
    exact finished
  | dispatch here move =>
    cases move with
    | spawns =>
      have spawned : id < s.tasks.length := by
        by_contra beyond
        rw [taskState, List.getElem?_eq_none (Nat.not_lt.mp beyond)] at finished
        cases finished
      simp only [taskState, spawnDispatch, List.getElem?_append_left spawned]
      exact finished
    | _ => exact finished
  | drops _ | dropsQueued _ =>
    rw [taskState_of_states (dropObservers_state s.inFlight s.tasks)]
    exact finished
  | returnsPermit found running =>
    refine taskState_set found ?_ finished
    simp [running]
  | completes found released =>
    refine taskState_set found ?_ finished
    simp [released]
  | _ => exact finished

/-! ### Ends -/

namespace LoopPoint

/-- Points at which every observer of the set has been polled: the loop went
past `in_flight.next()` and has pushed nothing since. -/
def settled : LoopPoint Payload → Bool
  | .pollInFlight | .reloadPollInFlight => false
  | _ => true

/-- The loop is in its select. -/
def selects : LoopPoint Payload → Bool
  | .pollInFlight | .pollDrain | .pollMonitor | .pollShutdown | .pollHost
  | .parked => true
  | _ => false

/-- The future of `run_with_host` is gone. -/
def gone : LoopPoint Payload → Bool
  | .returned _ | .dropped => true
  | _ => false

end LoopPoint

/-- Once `run_with_host` is gone nothing is observed or recorded. -/
theorem gone_stays (gone : s.loop.gone = true) (h : Runner.step cfg s a = some next) :
    next.loop = s.loop ∧ next.boundaries = s.boundaries ∧ next.observed = s.observed := by
  have stuck : s.loopStep cfg = none := by
    cases point : s.loop with
    | returned _ | dropped => simp only [loopStep, point]
    | _ =>
      rw [point] at gone
      cases gone
  cases Move.of_step h with
  | loop _ _ | dispatch _ _ =>
    have moved : s.loopStep cfg = some next := h
    rw [stuck] at moved
    cases moved
  | hostReady here | hostPending here | dropsQueued here =>
    rw [here] at gone
    cases gone
  | drops here =>
    rcases here with parked | parked | parked <;>
    · rw [parked] at gone
      cases gone
  | _ => exact ⟨rfl, rfl, rfl⟩

/-- A shutdown request is never withdrawn. -/
theorem isShutdown_stays (closing : s.isShutdown = true) (h : Runner.step cfg s a = some next) :
    next.isShutdown = true := by
  cases Move.of_step h with
  | loop elsewhere move =>
    obtain ⟨cancelled, reload⟩ := (move.frame elsewhere).tokens
    rw [isShutdown, cancelled, reload]
    exact closing
  | dispatch here move => cases move <;> exact closing
  | cancel => exact Bool.true_or _
  | requestReload => exact Bool.or_true _
  | _ => exact closing

/-! ### The set -/

/-- Polling the set would yield an outcome. -/
def RunnerState.yieldsNext (s : RunnerState Payload) : Bool :=
  match s.inFlight.dequeue with
  | some (id, _) => s.tasks[id]?.any DispatchTask.isFinished
  | none => false

theorem Yields.yieldsNext {id rest task res} (yielded : Yields s id rest task res) :
    s.yieldsNext = true := by
  simp [RunnerState.yieldsNext, yielded.dequeued, yielded.found,
    DispatchTask.isFinished, yielded.finished]

/-- The in-flight set holds dispatches that were spawned and whose outcome has
not been observed; one that is queued again has finished. -/
structure Watched (s : RunnerState Payload) : Prop where
  tracked : s.inFlight.Tracked
  spawned : ∀ id ∈ s.inFlight.members, id < s.tasks.length
  started : ∀ id ∈ s.inFlight.polled, id < s.tasks.length
  observed : ∀ id ∈ s.observed, id < s.tasks.length
  unobserved : ∀ id ∈ s.inFlight.members, id ∉ s.observed
  woken : ∀ id ∈ s.inFlight.ready, id ∈ s.inFlight.polled →
    ∃ res, s.taskState id = some (.finished res)
  polled : s.loop.settled = true → ∀ id ∈ s.inFlight.members, id ∈ s.inFlight.polled
  vacated : s.loop.gone = true → s.inFlight.members = []

namespace Watched

theorem new (cfg : RunnerConfig) (now : Instant) :
    Watched (new cfg now : RunnerState Payload) where
  tracked := .new
  spawned := nofun
  started := nofun
  observed := nofun
  unobserved := nofun
  woken := nofun
  polled := nofun
  vacated := fun _ => rfl

/-- Moves that leave the set and the list of observed dispatches alone. -/
theorem keeps (watched : Watched s) (set : next.inFlight = s.inFlight)
    (observed : next.observed = s.observed) (count : next.tasks.length = s.tasks.length)
    (finished : ∀ {id res}, s.taskState id = some (.finished res) →
      next.taskState id = some (.finished res))
    (settled : next.loop.settled = true → s.loop.settled = true ∨ s.inFlight.ready = [])
    (gone : next.loop.gone = true → s.loop.gone = true) :
    Watched next where
  tracked := set ▸ watched.tracked
  spawned := by
    rw [set, count]
    exact watched.spawned
  started := by
    rw [set, count]
    exact watched.started
  observed := by
    rw [observed, count]
    exact watched.observed
  unobserved := by
    rw [set, observed]
    exact watched.unobserved
  woken := by
    rw [set]
    intro id queued polled
    obtain ⟨res, before⟩ := watched.woken id queued polled
    exact ⟨res, finished before⟩
  polled := by
    rw [set]
    intro there
    rcases settled there with before | exhausted
    · exact watched.polled before
    · exact watched.tracked.polled_of_exhausted exhausted
  vacated := fun there => set ▸ watched.vacated (gone there)

/-- The loop starts its next iteration, which has polled nothing yet. -/
theorem iterates (watched : Watched s) (set : next.inFlight = s.inFlight)
    (observed : next.observed = s.observed)
    (count : next.tasks.length = s.tasks.length)
    (finished : ∀ {id res}, s.taskState id = some (.finished res) →
      next.taskState id = some (.finished res))
    (there : next.loop = .pollInFlight) : Watched next := by
  apply watched.keeps set observed count finished
  · intro settled
    rw [there] at settled
    cases settled
  · intro gone
    rw [there] at gone
    cases gone

/-- The set is dropped with the future. -/
theorem leaves {before : RunnerState Payload} {point : LoopPoint Payload}
    (observed : ∀ id ∈ before.observed, id < before.tasks.length) :
    Watched { before.dropLocals with loop := point } where
  tracked := .new
  spawned := nofun
  started := nofun
  observed := by
    intro id mem
    simp only [dropLocals, dropObservers, List.length_mapIdx]
    exact observed id mem
  unobserved := nofun
  woken := nofun
  polled := nofun
  vacated := fun _ => rfl

/-- An observer is polled and is pending. -/
theorem suspends (watched : Watched s) {id rest} (polled : Suspends s id rest) :
    Watched { s with inFlight := rest.suspend id } := by
  obtain ⟨queue, members, same⟩ := dequeue_some polled.dequeued
  have nodup : (id :: rest.ready).Nodup := queue ▸ watched.tracked.queueDistinct
  have here : id ∈ s.inFlight.members := watched.tracked.queued_mem id (queue ▸ List.mem_cons_self)
  refine ⟨watched.tracked.suspend polled.dequeued, ?_, ?_, watched.observed, ?_, ?_, ?_, ?_⟩
  · intro other mem
    exact watched.spawned other (members ▸ mem)
  · intro other polledNow
    rcases List.mem_cons.mp polledNow with rfl | before
    · exact watched.spawned other here
    · exact watched.started other (same ▸ before)
  · intro other mem
    exact watched.unobserved other (members ▸ mem)
  · intro other queued polledNow
    have different : other ≠ id := by
      rintro rfl
      exact (List.nodup_cons.mp nodup).1 queued
    have before : other ∈ s.inFlight.polled := by
      rw [← same]
      exact (List.mem_cons.mp polledNow).resolve_left different
    exact watched.woken other (queue ▸ List.mem_cons_of_mem id queued) before
  · intro settled other mem
    have before := watched.polled settled other (members ▸ mem)
    exact List.mem_cons_of_mem id (same ▸ before)
  · intro gone
    exact members.trans (watched.vacated gone)

/-- An outcome is yielded. -/
theorem observes (cfg : RunnerConfig) (watched : Watched s)
    {id rest task res} (yielded : Yields s id rest task res) :
    Watched (s.observe cfg id task res rest) := by
  obtain ⟨queue, members, same⟩ := dequeue_some yielded.dequeued
  have distinct : rest.members.Nodup := members ▸ watched.tracked.distinct
  have here : id < s.tasks.length := (List.getElem?_eq_some_iff.mp yielded.found).1
  refine ⟨watched.tracked.remove yielded.dequeued, ?_, ?_, ?_, ?_, ?_, ?_, ?_⟩
  · intro other mem
    exact watched.spawned other (members ▸ List.mem_of_mem_erase mem)
  · intro other polled
    exact watched.started other (same ▸ polled)
  · intro other mem
    rcases List.mem_append.mp mem with before | new
    · exact watched.observed other before
    · rw [List.mem_singleton.mp new]
      exact here
  · intro other mem seen
    obtain ⟨different, kept⟩ := distinct.mem_erase_iff.mp mem
    rcases List.mem_append.mp seen with before | new
    · exact watched.unobserved other (members ▸ kept) before
    · exact different (List.mem_singleton.mp new)
  · intro other queued polled
    exact watched.woken other (queue ▸ List.mem_cons_of_mem id queued) (same ▸ polled)
  · intro settled other mem
    exact same ▸ watched.polled settled other (members ▸ List.mem_of_mem_erase mem)
  · intro gone
    have empty : rest.members = [] := members.trans (watched.vacated gone)
    simp only [observe, remove, empty, List.erase_nil]

theorem goes (watched : Watched s) {point} (going : Goes s point) :
    Watched { s with loop := point } := by
  refine watched.keeps rfl rfl rfl id ?_ ?_
  · intro there
    cases going with
    | exhausted here empty | reloadExhausted here empty => exact .inr empty
    | polledAgain _ | reloadPolledAgain _ => cases there
    | _ here =>
      left
      rw [here]
      rfl
  · intro there
    cases going <;> cases there

theorem loops (watched : Watched s) (move : LoopMove cfg s next) : Watched next := by
  cases move with
  | goes going => exact watched.goes going
  | suspends here polled => exact watched.suspends polled
  | completesAside here yielded succeeded => exact watched.observes cfg yielded
  | timerPending here draining armed polled =>
    refine watched.keeps rfl rfl rfl id (fun _ => .inl ?_) ?_
    · rw [here]
      rfl
    · intro there
      cases there
  | monitorPending here alive =>
    refine watched.keeps rfl rfl rfl id (fun _ => .inl ?_) ?_
    · rw [here]
      rfl
    · intro there
      simp only at there
      split at there <;> cases there
  | completes here yielded succeeded accepting =>
    exact (watched.observes cfg yielded).iterates rfl rfl rfl id rfl
  | completesDraining here yielded succeeded draining occupied =>
    exact (watched.observes cfg yielded).iterates rfl rfl rfl id rfl
  | completesDrain here yielded succeeded draining emptied =>
    rw [recordDrainOutcome_eq]
    exact leaves (watched.observes cfg yielded).observed
  | failsDraining here yielded failed draining =>
    rw [recordDrainOutcome_eq]
    exact leaves (watched.observes cfg yielded).observed
  | fails here yielded failed unrecorded => exact leaves (watched.observes cfg yielded).observed
  | timesOut here draining armed fired =>
    rw [afterDrainTimeout, recordDrainOutcome_eq]
    exact leaves watched.observed
  | monitorFails _ _ | shutsDownIdle _ _ _ | stopsCancelled _ _
  | drained _ _ _ => exact leaves watched.observed
  | startsDrain here cancelled occupied => exact watched.iterates rfl rfl rfl id rfl
  | enters here =>
    refine watched.keeps rfl rfl rfl id (fun _ => .inl ?_) ?_
    · rw [here]
      rfl
    · intro there
      cases there

/-- A dispatch is spawned and its observer joins the set. -/
theorem spawns (watched : Watched s) (frame : DispatchFrame Payload) (pol : EffectiveTriggerPolicy)
    (finished : ∀ {id res}, s.taskState id = some (.finished res) →
      (s.spawnDispatch cfg frame pol).taskState id = some (.finished res)) :
    Watched (s.spawnDispatch cfg frame pol) := by
  have fresh : s.tasks.length ∉ s.inFlight.members := by
    intro mem
    exact Nat.lt_irrefl _ (watched.spawned _ mem)
  have count : (s.spawnDispatch cfg frame pol).tasks.length =
      s.tasks.length + 1 := List.length_append
  have unpolled : (s.spawnDispatch cfg frame pol).loop.settled = false ∧
      (s.spawnDispatch cfg frame pol).loop.gone = false := by
    simp only [spawnDispatch]
    split <;> exact ⟨rfl, rfl⟩
  refine ⟨watched.tracked.push fresh, ?_, ?_, ?_, ?_, ?_, ?_, ?_⟩
  · intro id mem
    rw [count]
    rcases List.mem_append.mp mem with before | new
    · exact Nat.lt_succ_of_lt (watched.spawned id before)
    · rw [List.mem_singleton.mp new]
      exact Nat.lt_succ_self _
  · intro id polled
    rw [count]
    exact Nat.lt_succ_of_lt (watched.started id polled)
  · intro id mem
    rw [count]
    exact Nat.lt_succ_of_lt (watched.observed id mem)
  · intro id mem seen
    rcases List.mem_append.mp mem with before | new
    · exact watched.unobserved id before seen
    · rw [List.mem_singleton.mp new] at seen
      exact Nat.lt_irrefl _ (watched.observed _ seen)
  · intro id queued polled
    rcases List.mem_append.mp queued with before | new
    · obtain ⟨res, done⟩ := watched.woken id before polled
      exact ⟨res, finished done⟩
    · rw [List.mem_singleton.mp new] at polled
      exact absurd (watched.started _ polled) (Nat.lt_irrefl _)
  · rw [unpolled.1]
    nofun
  · rw [unpolled.2]
    nofun

/-- A dispatch finishes and wakes its observer. -/
theorem wakes (watched : Watched s) {id res} (done : next.taskState id = some (.finished res))
    (set : next.inFlight = s.inFlight.wake id) (observed : next.observed = s.observed)
    (count : next.tasks.length = s.tasks.length)
    (finished : ∀ {other res}, s.taskState other = some (.finished res) →
      next.taskState other = some (.finished res)) (same : next.loop = s.loop) : Watched next := by
  have members : next.inFlight.members = s.inFlight.members := by
    rw [set, wake_members]
  have polled : next.inFlight.polled = s.inFlight.polled := by
    rw [set, wake_polled]
  refine ⟨set ▸ watched.tracked.wake id, ?_, ?_, ?_, ?_, ?_, ?_, ?_⟩
  · rw [members, count]
    exact watched.spawned
  · rw [polled, count]
    exact watched.started
  · rw [observed, count]
    exact watched.observed
  · rw [members, observed]
    exact watched.unobserved
  · intro other queued polledNow
    rw [set] at queued
    rcases mem_wake queued with before | rfl
    · obtain ⟨value, earlier⟩ := watched.woken other before (polled ▸ polledNow)
      exact ⟨value, finished earlier⟩
    · exact ⟨res, done⟩
  · rw [same, members, polled]
    exact watched.polled
  · rw [same, members]
    exact watched.vacated

theorem step (watched : Watched s) {a : Action Payload}
    (h : Runner.step cfg s a = some next) : Watched next := by
  have finished : ∀ {id res},
      s.taskState id = some (.finished res) → next.taskState id = some (.finished res) :=
    fun done => taskState_finished h done
  cases Move.of_step h with
  | loop elsewhere move => exact watched.loops move
  | dispatch here move =>
    cases move with
    | spawns => exact watched.spawns _ _ finished
    | _ =>
      refine watched.keeps rfl rfl rfl id (fun _ => .inl ?_) nofun
      rw [here]
      rfl
  | hostReady here | hostPending here =>
    refine watched.keeps rfl rfl rfl id (fun _ => .inl ?_) nofun
    rw [here]
    rfl
  | drops here => exact leaves watched.observed
  | dropsQueued here =>
    have dropped : Watched { s.dropLocals with loop := .dropped } := leaves watched.observed
    exact dropped.keeps rfl rfl rfl id .inl id
  | returnsPermit found running => exact watched.keeps rfl rfl List.length_set finished .inl id
  | completes found released =>
    have inside := (List.getElem?_eq_some_iff.mp found).1
    rename_i id res task
    have done : (s.tasks.set id { task with state := .finished res })[id]?.map
          DispatchTask.state = some (.finished res) := by
      rw [List.getElem?_set_self inside]
      rfl
    exact watched.wakes done rfl rfl List.length_set finished rfl
  | _ => exact watched.keeps rfl rfl rfl id .inl id

theorem reaches (reached : Runner.Reaches cfg now acts s) : Watched s :=
  reached.invariant (new cfg now) fun watched _ h =>
    watched.step h

end Watched

end ServiceDaemon
