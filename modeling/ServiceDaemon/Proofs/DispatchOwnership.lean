/-
Purpose: Who answers for a spawned dispatch task once `run_with_host` is gone:
  the task has finished, or its observer asked the runtime to abort it.
Main exports: SpawnsBehindSuccess, Owned, no_detached_dispatch
-/
import ServiceDaemon.Proofs.InFlight

namespace ServiceDaemon

open AsyncLib StepSystem RunnerState FuturesUnordered

variable {Payload : Type} {config : RunnerConfig}
  {s next : RunnerState Payload}

/-!
`observe_dispatch_task` wraps the join handle of its task in a guard that aborts
on drop, but it does so in its body, which runs at its first poll.  An observer
that was pushed and never polled drops a bare join handle, and the task goes on
without an owner.  The loop can only leave such an observer behind when an
outcome that makes it return is queued ahead of it.

[SRC core/trigger_runner/dispatch.rs, core/trigger_runner/event_loop.rs]
-/

/-- The loop is about to spawn a task. -/
def LoopPoint.spawning : LoopPoint Payload → Bool
  | .dispatching _ (.spawn _) => true
  | _ => false

/-- The dispatch `id` ended in any way but success. -/
def RunnerState.hasFailed (s : RunnerState Payload) (id : Nat) : Bool :=
  match s.taskState id with
  | some (.finished res) => decide (res ≠ .ok)
  | _ => false

/-- A dispatch is spawned only while no dispatch in flight has failed. -/
def SpawnsBehindSuccess (s : RunnerState Payload) :
    Action Payload → Prop
  | .loop =>
    s.loop.spawning = true → ∀ id ∈ s.inFlight.members, s.hasFailed id = false
  | _ => True

instance (s : RunnerState Payload) :
    (a : Action Payload) → Decidable (SpawnsBehindSuccess s a)
  | .loop => inferInstanceAs (Decidable (_ → ∀ id ∈ _, _ = false))
  | .hostReady _ | .hostPending | .dropFuture | .taskReturnsPermit _ _
  | .taskCompletes _ | .monitor | .monitorEnds _ | .requestOverlay _
  | .clearOverlay _ | .cancel | .requestReload | .advance _ => isTrue trivial

/-- The dispatch ended with success. -/
def RunnerState.Succeeded (s : RunnerState Payload) (id : Nat) : Prop :=
  s.taskState id = some (.finished .ok)

/-- Every task is finished, aborted or in the set, and only successes are
queued ahead of an observer that has not been polled. -/
structure Owned (s : RunnerState Payload) : Prop where
  watched : Watched s
  behind : ∀ id ∈ s.inFlight.members, id ∉ s.inFlight.polled →
    s.inFlight.QueuedBehind s.Succeeded id
  owned : ∀ id task, s.tasks[id]? = some task →
    task.isFinished = true ∨ task.abortSent = true ∨ id ∈ s.inFlight.members

namespace Owned

theorem new (config : RunnerConfig) (now : Instant) :
    Owned (RunnerState.new config now : RunnerState Payload) := by
  refine ⟨.new config now, ?_, ?_⟩
  · intro id mem
    exact absurd mem List.not_mem_nil
  · intro id task found
    simp only [RunnerState.new, List.getElem?_nil] at found
    cases found

/-- Moves that leave the tasks and the set alone. -/
theorem keeps (owned : Owned s) (watched : Watched next) (tasks : next.tasks = s.tasks)
    (set : next.inFlight = s.inFlight) : Owned next := by
  refine ⟨watched, ?_, ?_⟩
  · have same : next.Succeeded = s.Succeeded := by
      funext id
      simp only [RunnerState.Succeeded, taskState, tasks]
    rw [set, same]
    exact owned.behind
  · rw [tasks, set]
    exact owned.owned

/-- Once every observer has been polled, dropping them aborts their tasks. -/
theorem leaves {before : RunnerState Payload} {point : LoopPoint Payload}
    (watched : Watched { before.dropLocals with loop := point })
    (owned : ∀ id task, before.tasks[id]? = some task →
      task.isFinished = true ∨ task.abortSent = true ∨ id ∈ before.inFlight.members)
    (polled : ∀ id ∈ before.inFlight.members, id ∈ before.inFlight.polled) :
    Owned { before.dropLocals with loop := point } := by
  refine ⟨watched, nofun, ?_⟩
  intro id task found
  simp only [dropLocals, dropObservers, List.getElem?_mapIdx, Option.map_eq_some_iff] at found
  obtain ⟨earlier, located, rfl⟩ := found
  rcases owned id earlier located with finished | aborted | mem
  · left
    split <;> exact finished
  · right
    left
    split
    · rfl
    · exact aborted
  · right
    left
    rw [if_pos ⟨mem, polled id mem⟩]

/-- An outcome is yielded: its dispatch has finished and leaves the set. -/
theorem observes (owned : Owned s) {id rest task res} (yielded : Yields s id rest task res) :
    Owned (s.observe config id task res rest) := by
  obtain ⟨queue, members, same⟩ := dequeue_some yielded.dequeued
  have distinct : rest.members.Nodup := members ▸ owned.watched.tracked.distinct
  refine ⟨owned.watched.observes config yielded, ?_, ?_⟩
  · intro other mem unpolled
    obtain ⟨different, kept⟩ := distinct.mem_erase_iff.mp mem
    have before := owned.behind other (members ▸ kept) (same ▸ unpolled)
    have after : rest.QueuedBehind s.Succeeded other := before.dequeue yielded.dequeued different
    exact after
  · intro other inner found
    rcases owned.owned other inner found with finished | aborted | mem
    · exact .inl finished
    · exact .inr (.inl aborted)
    · by_cases different : other = id
      · left
        have located : s.tasks[other]? = some inner := found
        rw [different, yielded.found] at located
        cases located
        simp only [DispatchTask.isFinished, yielded.finished]
      · right
        right
        rw [← members] at mem
        exact (List.mem_erase_of_ne different).mpr mem

/-- When a failure is yielded, every other observer has been polled: the
failure would otherwise be queued ahead of one that has not. -/
theorem polled_of_failure (owned : Owned s) {id rest task res failure}
    (yielded : Yields s id rest task res)
    (failed : observeDispatchTask task.context res = .error failure) :
    ∀ other ∈ (rest.remove id).members,
      other ∈ (rest.remove id).polled := by
  obtain ⟨queue, members, same⟩ := dequeue_some yielded.dequeued
  have distinct : rest.members.Nodup := members ▸ owned.watched.tracked.distinct
  intro other mem
  by_contra unpolled
  obtain ⟨different, kept⟩ := distinct.mem_erase_iff.mp mem
  have before := owned.behind other (members ▸ kept) (same ▸ unpolled)
  have succeeded : s.taskState id = some (.finished .ok) :=
    before.head_settled yielded.dequeued different
  rw [taskState_of_found yielded.found, yielded.finished] at succeeded
  cases succeeded
  cases failed

/-- A pending observer is polled.  No success is pending, so nobody is queued
behind it unpolled. -/
theorem suspends (owned : Owned s) {id rest} (polled : Suspends s id rest) :
    Owned { s with inFlight := rest.suspend id } := by
  obtain ⟨queue, members, same⟩ := dequeue_some polled.dequeued
  refine ⟨owned.watched.suspends polled, ?_, ?_⟩
  · intro other mem unpolled
    simp only [suspend, List.mem_cons, not_or] at unpolled
    have before := owned.behind other (members ▸ mem) (same ▸ unpolled.2)
    have succeeded : s.taskState id = some (.finished .ok) :=
      before.head_settled polled.dequeued unpolled.1
    simp only [taskState, Option.map_eq_some_iff] at succeeded
    obtain ⟨task, found, finished⟩ := succeeded
    have pending := polled.unfinished task found
    simp only [DispatchTask.isFinished, finished] at pending
    cases pending
  · intro other task found
    have before := owned.owned other task found
    rw [← members] at before
    exact before

theorem loops (owned : Owned s) (move : LoopMove config s next) : Owned next := by
  have watched := owned.watched.loops move
  have here (point : LoopPoint Payload) (settled : point.settled = true)
      (there : s.loop = point) : ∀ id ∈ s.inFlight.members, id ∈ s.inFlight.polled :=
    owned.watched.polled (there ▸ settled)
  cases move with
  | goes _ | timerPending _ _ _ _ | monitorPending _ _ | startsDrain _ _ _
  | enters _ => exact owned.keeps watched rfl rfl
  | suspends _ polled => exact owned.suspends polled
  | completesAside _ yielded _ => exact owned.observes yielded
  | completes _ yielded _ _ | completesDraining _ yielded _ _ _ =>
    have after : Owned (s.observe config _ _ _ _) := owned.observes yielded
    exact after.keeps watched rfl rfl
  | completesDrain _ yielded _ _ emptied =>
    have after : Owned (s.observe config _ _ _ _) := owned.observes yielded
    rw [recordDrainOutcome_eq] at watched ⊢
    apply leaves watched after.owned
    intro id mem
    have empty := List.isEmpty_iff.mp emptied
    exact absurd (empty ▸ mem) (List.not_mem_nil)
  | failsDraining _ yielded failed _ =>
    have after : Owned (s.observe config _ _ _ _) := owned.observes yielded
    rw [recordDrainOutcome_eq] at watched ⊢
    exact leaves watched after.owned (owned.polled_of_failure yielded failed)
  | fails _ yielded failed _ =>
    have after : Owned (s.observe config _ _ _ _) := owned.observes yielded
    exact leaves watched after.owned (owned.polled_of_failure yielded failed)
  | timesOut there _ _ _ =>
    rw [afterDrainTimeout, recordDrainOutcome_eq] at watched ⊢
    exact leaves watched owned.owned (here _ rfl there)
  | monitorFails there _ | shutsDownIdle there _ _ | stopsCancelled there _
  | drained there _ _ => exact leaves watched owned.owned (here _ rfl there)

/-- A spawned dispatch is queued behind what has finished since the loop last
polled the set, and none of that has failed. -/
theorem spawns (owned : Owned s) {frame pol} (here : s.loop = .dispatching frame (.spawn pol))
    (guarded : SpawnsBehindSuccess s .loop) (watched : Watched (s.spawnDispatch config frame pol))
    (finished : ∀ {id res}, s.taskState id = some (.finished res) →
      (s.spawnDispatch config frame pol).taskState id = some (.finished res)) :
    Owned (s.spawnDispatch config frame pol) := by
  have polled : ∀ id ∈ s.inFlight.members, id ∈ s.inFlight.polled :=
    owned.watched.polled (by rw [here]; rfl)
  have succeeded : ∀ id ∈ s.inFlight.ready,
      (s.spawnDispatch config frame pol).Succeeded id := by
    intro id queued
    have member := owned.watched.tracked.queued_mem id queued
    obtain ⟨res, done⟩ := owned.watched.woken id queued (polled id member)
    have unfailed := guarded (by rw [here]; rfl) id member
    have ended : res = .ok := by
      simpa [hasFailed, done] using unfailed
    exact finished (ended ▸ done)
  refine ⟨watched, ?_, ?_⟩
  · intro id member unpolled
    rcases List.mem_append.mp member with before | new
    · exact absurd (polled id before) unpolled
    · rw [List.mem_singleton.mp new]
      exact .push succeeded
  · intro id task found
    simp only [spawnDispatch] at found
    by_cases spawned : id < s.tasks.length
    · rw [List.getElem?_append_left spawned] at found
      rcases owned.owned id task found with finished | aborted | member
      · exact .inl finished
      · exact .inr (.inl aborted)
      · exact .inr (.inr (List.mem_append_left _ member))
    · right
      right
      have bound := (List.getElem?_eq_some_iff.mp found).1
      rw [List.length_append, List.length_singleton] at bound
      have last : id = s.tasks.length := by omega
      exact List.mem_append_right _ (List.mem_singleton.mpr last)

/-- A task takes a step of its own. -/
theorem progresses (owned : Owned s) (watched : Watched next) {id task after}
    (found : s.tasks[id]? = some task) (tasks : next.tasks = s.tasks.set id after)
    (unfinished : task.isFinished = false) (aborted : after.abortSent = task.abortSent)
    (members : next.inFlight.members = s.inFlight.members)
    (behind : ∀ other ∈ next.inFlight.members, other ∉ next.inFlight.polled →
      next.inFlight.QueuedBehind next.Succeeded other) : Owned next := by
  refine ⟨watched, behind, ?_⟩
  intro other inner located
  rw [tasks] at located
  by_cases different : id = other
  · subst different
    have inside := (List.getElem?_eq_some_iff.mp found).1
    rw [List.getElem?_set_self inside] at located
    cases located
    rcases owned.owned id task found with finished | sent | mem
    · rw [unfinished] at finished
      cases finished
    · exact .inr (.inl (aborted.trans sent))
    · exact .inr (.inr (members ▸ mem))
  · rw [List.getElem?_set_ne different] at located
    rw [members]
    exact owned.owned other inner located

theorem step (owned : Owned s) {a : Action Payload}
    (guarded : SpawnsBehindSuccess s a) (h : Runner.step config s a = some next) : Owned next := by
  have watched := owned.watched.step h
  have finished : ∀ {id res},
      s.taskState id = some (.finished res) → next.taskState id = some (.finished res) :=
    fun done => taskState_finished h done
  cases Move.of_step h with
  | loop elsewhere move => exact owned.loops move
  | dispatch here move =>
    cases move with
    | spawns => exact owned.spawns here guarded watched finished
    | _ => exact owned.keeps watched rfl rfl
  | drops here =>
    refine leaves watched owned.owned (owned.watched.polled ?_)
    rcases here with parked | parked | parked <;>
    · rw [parked]
      rfl
  | dropsQueued here =>
    have dropped : Owned { s.dropLocals with loop := .dropped } := by
      refine leaves (.leaves owned.watched.observed) owned.owned (owned.watched.polled ?_)
      rw [here]
      rfl
    exact dropped.keeps watched rfl rfl
  | returnsPermit found running =>
    refine owned.progresses watched found rfl ?_ rfl rfl ?_
    · simp only [DispatchTask.isFinished, running]
    · intro other mem unpolled
      exact (owned.behind other mem unpolled).mono
        fun _ done => finished done
  | completes found released =>
    refine owned.progresses watched found rfl ?_ rfl (wake_members _ _) ?_
    · simp only [DispatchTask.isFinished, released]
    · intro other mem unpolled
      rw [wake_members] at mem
      rw [wake_polled] at unpolled
      exact ((owned.behind other mem unpolled).mono fun _ done => finished done).wake _
  | _ => exact owned.keeps watched rfl rfl

end Owned

/-- No dispatch is left running without an owner: when `run_with_host` has
returned or its future has been dropped, every task it spawned has finished or
has been sent an abort, in every run in which no dispatch is spawned behind a
failure that the loop has yet to observe. -/
theorem no_detached_dispatch {now : Instant} {schedule : List (Action Payload)}
    {state : RunnerState Payload}
    (run : GuardedRun (Runner.step config) SpawnsBehindSuccess
      (RunnerState.new config now) schedule state) (gone : state.loop.gone = true) :
    ∀ task ∈ state.tasks,
      task.isFinished = true ∨ task.abortSent = true := by
  have owned : Owned state :=
    run.invariant (.new config now) fun owned guarded stepped =>
      owned.step guarded stepped
  intro task member
  obtain ⟨id, found⟩ := List.getElem?_of_mem member
  rcases owned.owned id task found with finished | aborted | inSet
  · exact .inl finished
  · exact .inr aborted
  · rw [owned.watched.vacated gone] at inSet
    cases inSet

/-- A generation dropped while its handler runs aborts the handler. -/
theorem no_detached_dispatch_dropped :
    ∃ state : RunnerState Unit,
      GuardedRun (Runner.step (.managed none)) SpawnsBehindSuccess
          (RunnerState.new (.managed none) 0)
          (Runner.arrival 4 () ++ Runner.loops 14 ++ Runner.loops 5 ++
            [.hostPending, .dropFuture]) state ∧
        state.tasks.length = 1 ∧
        ∀ task ∈ state.tasks,
          task.isFinished = true ∨ task.abortSent = true := by
  obtain ⟨state, run, spawned, gone⟩ :
      ∃ state : RunnerState Unit,
        GuardedRun (Runner.step (.managed none)) SpawnsBehindSuccess
            (RunnerState.new (.managed none) 0)
            (Runner.arrival 4 () ++ Runner.loops 14 ++ Runner.loops 5 ++
              [.hostPending, .dropFuture]) state ∧
          state.tasks.length = 1 ∧ state.loop.gone = true :=
    GuardedRun.exists_of_check (by decide +kernel)
  exact ⟨state, run, spawned, no_detached_dispatch run gone⟩

/-- The first handler fails while the second dispatch waits for its permit.  The
loop then polls the failed observer first and returns its error; the second
observer is dropped without having been polled, and its task keeps running. -/
theorem dispatch_detached_behind_failure :
    ∃ state : RunnerState Unit,
      Runner.Reaches (.managed none) 0
          (Runner.arrival 4 () ++ Runner.loops 14 ++ Runner.arrival 5 () ++ Runner.loops 10 ++
            [.taskReturnsPermit 0 (.error "handler failed"), .taskCompletes 0] ++
            Runner.loops 6) state ∧
        state.loop.gone = true ∧ state.taskState 1 = some .running ∧
        state.tasks[1]?.map DispatchTask.abortSent = some false :=
  Run.exists_of_check (by decide +kernel)

end ServiceDaemon
