/-
Purpose: What becomes of every event that the loop accepts: it is dispatched
  once, in order, under its own identity, and counted once.
Main exports: acceptedEvents, Delivers, DispatchOrder, dispatch_accounted
-/
import ServiceDaemon.Lib.Threads
import ServiceDaemon.Proofs.InFlight

namespace ServiceDaemon

open AsyncLib StepSystem RunnerState FuturesUnordered LoopPoint DispatchTask

/-!
The loop accepts an event when `handle_step` returns it, numbers it when
`dispatch` begins, counts it as dispatched when it has a permit, and pushes its
observer after the spawn.  An outcome is counted by the observer, in the poll
that takes it out of the in-flight set.  Between two iterations of a select
these places agree.

[SRC core/trigger_runner/dispatch.rs, event_loop.rs; core/runtime_facts.rs]
-/

variable {Payload : Type} {cfg : RunnerConfig}
  {s next : RunnerState Payload}

/-! ### Events and dispatches -/

/-- An event as the host returns it. -/
abbrev HostEvent (Payload : Type) := Payload × Option (Uuid × ServiceId)

/-- The event that the loop accepts with this operation. -/
def Action.accepted : Action Payload → Option (HostEvent Payload)
  | .hostReady (.next payload identity)
  | .hostReady (.reload payload identity) => some (payload, identity)
  | _ => none

/-- The events that a run has accepted, in order. -/
def acceptedEvents (acts : List (Action Payload)) :
    List (HostEvent Payload) :=
  acts.filterMap Action.accepted

theorem acceptedEvents_snoc (acts : List (Action Payload)) (a : Action Payload) :
    acceptedEvents (acts ++ [a]) = acceptedEvents acts ++ a.accepted.toList := by
  rw [acceptedEvents, List.filterMap_append]
  cases answer : a.accepted <;> simp [acceptedEvents, answer]

/-- The data of a dispatch: it carries the payload of the event, the sequence
number of its generation, and the identity that came with the event. -/
structure Delivers (cfg : RunnerConfig) (seq : Nat)
    (event : HostEvent Payload) (payload : Payload) (instanceSeq : UInt64)
    (messageId : Uuid) (sourceId : ServiceId) : Prop where
  payload : payload = event.1
  sequence : instanceSeq = .ofNat seq
  identified : ∀ identity, event.2 = some identity → (messageId, sourceId) = identity
  /-- without an identity the trigger is the source of its event -/
  unidentified : event.2 = none → sourceId = cfg.serviceId

def DispatchFrame.Delivers (cfg : RunnerConfig) (seq : Nat)
    (event : HostEvent Payload) (frame : DispatchFrame Payload) : Prop :=
  ServiceDaemon.Delivers cfg seq event frame.payload frame.instanceSeq
    frame.messageId frame.sourceId

def DispatchContext.Delivers (cfg : RunnerConfig) (seq : Nat)
    (event : HostEvent Payload) (context : DispatchContext Payload) : Prop :=
  ServiceDaemon.Delivers cfg seq event context.payload context.instanceSeq
    context.messageId context.sourceId

namespace LoopPoint

/-- The loop has accepted an event and not yet spawned its dispatch. -/
def busy : LoopPoint Payload → Bool
  | .handling (.next ..) | .handling (.reload ..) | .dispatching .. => true
  | _ => false

/-- The event that the loop is busy with. -/
def WorksOn (cfg : RunnerConfig) (seq : Nat) (event : HostEvent Payload) :
    LoopPoint Payload → Prop
  | .handling (.next payload identity)
  | .handling (.reload payload identity) => event = (payload, identity)
  | .dispatching frame _ => frame.Delivers cfg seq event
  | _ => False

theorem busy_of_dispatches {point : LoopPoint Payload}
    (idle : point.busy = false) : point.dispatches = false := by
  cases point with
  | dispatching => cases idle
  | _ => rfl

end LoopPoint

/-! ### What the loop does outside a dispatch -/

/-- The contexts of the dispatches so far. -/
def RunnerState.contexts (s : RunnerState Payload) :
    List (DispatchContext Payload) :=
  s.tasks.map DispatchTask.context

theorem dropObservers_contexts (inFlight : FuturesUnordered Nat)
    (tasks : List (DispatchTask Payload)) :
    (dropObservers inFlight tasks).map context = tasks.map context := by
  apply List.ext_getElem?
  intro id
  simp only [dropObservers, List.getElem?_map, List.getElem?_mapIdx, Option.map_map]
  congr 1
  funext task
  simp only [Function.comp_apply]
  split <;> rfl

theorem contexts_set {id : Nat} {task after : DispatchTask Payload}
    {tasks : List (DispatchTask Payload)} (found : tasks[id]? = some task)
    (same : after.context = task.context) :
    (tasks.set id after).map context = tasks.map context := by
  obtain ⟨inside, rfl⟩ := List.getElem?_eq_some_iff.mp found
  have inMap : id < (tasks.map context).length := by
    rwa [List.length_map]
  have unchanged := List.set_getElem_self inMap
  rwa [List.getElem_map, ← same, ← List.map_set] at unchanged

/-- A step of the loop that leaves the dispatches and their numbering alone. -/
structure IdleMove (s next : RunnerState Payload) : Prop where
  before : s.loop.busy = false
  after : next.loop.busy = false
  contexts : next.contexts = s.contexts
  counter : next.instanceCounter = s.instanceCounter

theorem IdleMove.finish (before : s.loop.busy = false) {ending : RunnerState Payload}
    {res : DispatchTaskOutcome} (tasks : ending.tasks = s.tasks)
    (counter : ending.instanceCounter = s.instanceCounter) :
    IdleMove s (ending.finish res) where
  before := before
  after := rfl
  contexts := by
    simp only [RunnerState.contexts, RunnerState.finish,
      RunnerState.dropLocals, tasks, dropObservers_contexts]
  counter := counter

theorem Goes.busy (going : Goes s point) : s.loop.busy = false ∧ point.busy = false := by
  cases going with
  | _ here => exact ⟨by rw [here]; rfl, rfl⟩

theorem busy_of_polls (polls : s.loop.pollsInFlight = true) : s.loop.busy = false := by
  cases point : s.loop with
  | pollInFlight | reloadPollInFlight | drainPoll => rfl
  | _ =>
    rw [point] at polls
    cases polls

/-- The loop begins a dispatch, or it leaves the dispatches alone. -/
theorem LoopMove.idle (move : LoopMove cfg s next) :
    IdleMove s next ∨ ∃ payload identity thenReload,
        s.loop = .handling
          (if thenReload then .reload payload identity else .next payload identity) ∧
        next = s.enterDispatch cfg payload identity thenReload := by
  cases move with
  | enters here => exact .inr ⟨_, _, _, here, rfl⟩
  | goes going => exact .inl ⟨going.busy.1, going.busy.2, rfl, rfl⟩
  | suspends here polled => exact .inl ⟨busy_of_polls here, busy_of_polls here, rfl, rfl⟩
  | timerPending here | startsDrain here => exact .inl ⟨by rw [here]; rfl, rfl, rfl, rfl⟩
  | monitorPending here =>
    refine .inl ⟨by rw [here]; rfl, ?_, rfl, rfl⟩
    simp only
    split <;> rfl
  | completes here | completesDraining here => exact .inl ⟨by rw [here]; rfl, rfl, rfl, rfl⟩
  | completesAside here =>
    refine .inl ⟨?_, ?_, rfl, rfl⟩ <;>
    · rcases here with here | here <;>
      · simp only [observe, here]
        rfl
  | completesDrain here | failsDraining here =>
    refine .inl (.finish (by rw [here]; rfl) ?_ ?_) <;>
    · rw [recordDrainOutcome_eq]
      rfl
  | timesOut here =>
    rw [afterDrainTimeout]
    refine .inl (.finish (by rw [here]; rfl) ?_ ?_) <;>
    · rw [recordDrainOutcome_eq]
  | fails here => exact .inl (.finish (busy_of_polls here) rfl rfl)
  | monitorFails here | shutsDownIdle here | stopsCancelled here
  | drained here => exact .inl (.finish (by rw [here]; rfl) rfl rfl)

/-! ### The order of the dispatches -/

/-- The dispatches so far are those of the first events, in order; the event
after them is the one the loop is busy with. -/
structure DispatchOrder (cfg : RunnerConfig)
    (accepted : List (HostEvent Payload)) (s : RunnerState Payload) :
    Prop where
  delivered : ∀ (seq : Nat) (context : DispatchContext Payload),
    s.contexts[seq]? = some context →
      ∃ event, accepted[seq]? = some event ∧ context.Delivers cfg seq event
  working : s.loop.busy = true → ∃ event, accepted[s.tasks.length]? = some event ∧
      s.loop.WorksOn cfg s.tasks.length event
  complete : s.loop.gone = false → accepted.length = s.tasks.length + s.loop.busy.toNat
  counter : s.loop.gone = false →
    s.instanceCounter = .ofNat (s.tasks.length + s.loop.dispatches.toNat)

namespace DispatchOrder

variable {accepted : List (HostEvent Payload)}

theorem new (cfg : RunnerConfig) (now : Instant) :
    DispatchOrder cfg [] (new cfg now : RunnerState Payload)
    where
  delivered := by
    intro seq context mem
    cases mem
  working := nofun
  complete := fun _ => rfl
  counter := fun _ => rfl

/-- Nothing is dispatched, and the loop stays with its event. -/
theorem keep (order : DispatchOrder cfg accepted s) (contexts : next.contexts = s.contexts)
    (counter : next.instanceCounter = s.instanceCounter)
    (busy : next.loop.gone = false → s.loop.gone = false ∧ next.loop.busy = s.loop.busy ∧
      next.loop.dispatches = s.loop.dispatches)
    (works : next.loop.busy = true → s.loop.busy = true ∧
      ∀ seq event, s.loop.WorksOn cfg seq event → next.loop.WorksOn cfg seq event) :
    DispatchOrder cfg accepted next := by
  have count : next.tasks.length = s.tasks.length := by
    simpa [RunnerState.contexts] using congrArg List.length contexts
  refine ⟨?_, ?_, ?_, ?_⟩
  · rw [contexts]
    exact order.delivered
  · intro there
    obtain ⟨here, same⟩ := works there
    obtain ⟨event, mem, working⟩ := order.working here
    rw [count]
    exact ⟨event, mem, same _ _ working⟩
  · intro there
    obtain ⟨here, same, -⟩ := busy there
    rw [count, same]
    exact order.complete here
  · intro there
    obtain ⟨here, -, same⟩ := busy there
    rw [count, same, counter]
    exact order.counter here

theorem same (order : DispatchOrder cfg accepted s)
    (contexts : next.contexts = s.contexts)
    (counter : next.instanceCounter = s.instanceCounter)
    (loop : next.loop = s.loop) : DispatchOrder cfg accepted next := by
  refine order.keep contexts counter ?_ ?_
  · rw [loop]
    exact fun here => ⟨here, rfl, rfl⟩
  · rw [loop]
    exact fun here => ⟨here, fun _ _ => id⟩

theorem leaves (order : DispatchOrder cfg accepted s)
    (contexts : next.contexts = s.contexts)
    (counter : next.instanceCounter = s.instanceCounter)
    (gone : next.loop = .dropped) : DispatchOrder cfg accepted next := by
  refine order.keep contexts counter ?_ ?_
  · rw [gone]
    nofun
  · rw [gone]
    nofun

/-- A loop that is outside a dispatch moves on. -/
theorem idles (order : DispatchOrder cfg accepted s) (move : IdleMove s next)
    (left : s.loop.gone = true → next.loop.gone = true) : DispatchOrder cfg accepted next := by
  refine order.keep move.contexts move.counter ?_ ?_
  · intro there
    refine ⟨?_, ?_, ?_⟩
    · by_contra gone
      rw [left (by simpa using gone)] at there
      cases there
    · rw [move.before, move.after]
    · rw [busy_of_dispatches move.before, busy_of_dispatches move.after]
  · rw [move.after]
    nofun

/-- `dispatch` begins: the event gets its number and its identity. -/
theorem enters (order : DispatchOrder cfg accepted s)
    (here : s.loop = .handling (if thenReload then .reload payload identity
      else .next payload identity)) :
    DispatchOrder cfg accepted
      (s.enterDispatch cfg payload identity thenReload) := by
  have busy : s.loop.busy = true := by
    rw [here]
    cases thenReload <;> rfl
  have running : s.loop.gone = false := by
    rw [here]
    rfl
  have counter := order.counter running
  rw [here] at counter
  obtain ⟨event, mem, working⟩ := order.working busy
  have same : event = (payload, identity) := by
    rw [here] at working
    cases thenReload <;> exact working
  subst same
  refine ⟨order.delivered, fun _ => ⟨_, mem, ?_⟩, fun _ => ?_, fun _ => ?_⟩
  · refine ⟨rfl, counter, ?_, ?_⟩
    · rintro _ rfl
      rfl
    · rintro rfl
      rfl
  · have complete := order.complete running
    rwa [busy] at complete
  · change s.instanceCounter + 1 = .ofNat (s.tasks.length + 1)
    rw [counter, UInt64.ofNat_add s.tasks.length 1]
    rfl

/-- The dispatch is spawned. -/
theorem spawns (order : DispatchOrder cfg accepted s) {frame : DispatchFrame Payload}
    {pol : EffectiveTriggerPolicy} (here : s.loop = .dispatching frame (.spawn pol)) :
    DispatchOrder cfg accepted
      (s.spawnDispatch cfg frame pol) := by
  have idle : (s.spawnDispatch cfg frame pol).loop.busy = false := by
    simp only [spawnDispatch]
    split <;> rfl
  have count : (s.spawnDispatch cfg frame pol).tasks.length =
      s.tasks.length + 1 := List.length_append
  have running : s.loop.gone = false := by
    rw [here]
    rfl
  refine ⟨?_, ?_, fun _ => ?_, fun _ => ?_⟩
  · intro seq context mem
    simp only [contexts, spawnDispatch, List.map_append, List.map_cons, List.map_nil] at mem
    rcases Threads.concat_cases mem with earlier | ⟨rfl, rfl⟩
    · exact order.delivered seq context earlier
    · obtain ⟨event, there, working⟩ := order.working (by rw [here]; rfl)
      rw [here] at working
      rw [List.length_map]
      exact ⟨event, there, working⟩
  · intro busy
    rw [idle] at busy
    cases busy
  · have complete := order.complete running
    rw [here] at complete
    rw [idle, count]
    exact complete
  · have counter := order.counter running
    rw [here] at counter
    rw [busy_of_dispatches idle, count]
    exact counter

/-- The host returns a transition. -/
theorem accepts (order : DispatchOrder cfg accepted s)
    (here : s.loop = .pollHost) (transition : TriggerTransition Payload) :
    DispatchOrder cfg
      (accepted ++ (Action.accepted (.hostReady transition)).toList)
      { s with loop := .handling transition, hostPolled := false } := by
  have running : s.loop.gone = false := by
    rw [here]
    rfl
  have complete : accepted.length = s.tasks.length := by
    have complete := order.complete running
    rwa [here] at complete
  have counter := order.counter running
  rw [here] at counter
  have delivered (more : List (HostEvent Payload)) :
      ∀ (seq : Nat) (context : DispatchContext Payload),
      s.contexts[seq]? = some context → ∃ event, (accepted ++ more)[seq]? = some event ∧
          context.Delivers cfg seq event := by
    intro seq context mem
    obtain ⟨event, there, delivers⟩ := order.delivered seq context mem
    rw [List.getElem?_append_left (List.getElem?_eq_some_iff.mp there).1]
    exact ⟨event, there, delivers⟩
  cases transition with
  | stop =>
    refine ⟨delivered [], nofun, fun _ => ?_, fun _ => counter⟩
    simp [Action.accepted, complete, busy]
  | next payload identity | reload payload identity =>
    refine ⟨delivered _, fun _ => ⟨(payload, identity), ?_, rfl⟩, fun _ => ?_, fun _ => counter⟩
    · rw [← complete]
      exact List.getElem?_concat_length
    · simp [Action.accepted, complete, busy]

theorem step (order : DispatchOrder cfg accepted s) {a : Action Payload}
    (h : Runner.step cfg s a = some next) :
    DispatchOrder cfg (accepted ++ a.accepted.toList) next := by
  -- only an answer of the host is accepted
  have stays (order : DispatchOrder cfg accepted next)
      (none : a.accepted = none) :
      DispatchOrder cfg (accepted ++ a.accepted.toList) next := by
    rwa [none, Option.toList_none, List.append_nil]
  cases Move.of_step h with
  | hostReady here => exact order.accepts here _
  | loop elsewhere move =>
    refine stays ?_ rfl
    rcases move.idle with idle | ⟨_, _, _, here, rfl⟩
    · refine order.idles idle fun gone => ?_
      rw [(gone_stays gone h).1]
      exact gone
    · exact order.enters here
  | dispatch here move =>
    refine stays ?_ rfl
    cases move with
    | spawns => exact order.spawns here
    | _ =>
      refine order.keep rfl rfl ?_ ?_
      · rw [here]
        exact fun _ => ⟨rfl, rfl, rfl⟩
      · rw [here]
        exact fun _ => ⟨rfl, fun _ _ => id⟩
  | hostPending here =>
    refine stays (order.keep rfl rfl ?_ nofun) rfl
    rw [here]
    exact fun _ => ⟨rfl, rfl, rfl⟩
  | drops | dropsQueued => exact stays (order.leaves (dropObservers_contexts _ _) rfl rfl) rfl
  | returnsPermit found running => exact stays (order.same (contexts_set found rfl) rfl rfl) rfl
  | completes found released => exact stays (order.same (contexts_set found rfl) rfl rfl) rfl
  | _ => exact stays (order.same rfl rfl rfl) rfl

theorem reaches (reached : Runner.Reaches cfg now acts s) :
    DispatchOrder cfg (acceptedEvents acts) s := by
  induction reached with
  | nil => exact .new cfg now
  | snoc _ _ h ih =>
    rw [acceptedEvents_snoc]
    exact ih.step h

end DispatchOrder

/-! ### The counters -/

/-- `dispatch` has counted its event and not yet spawned it. -/
def LoopPoint.counted : LoopPoint Payload → Bool
  | .dispatching _ .prune | .dispatching _ .readPolicy
  | .dispatching _ (.spawn _) => true
  | _ => false

theorem LoopPoint.counted_of_idle {point : LoopPoint Payload}
    (idle : point.busy = false) : point.counted = false := by
  cases point with
  | dispatching => cases idle
  | _ => rfl

/-- The dispatch has ended with success. -/
def RunnerState.succeeded (s : RunnerState Payload) (id : Nat) : Bool :=
  s.taskState id = some (.finished .ok)

/-- What the counters say about the dispatches: each is counted when it begins,
and once more by the observer that takes it out of the in-flight set. -/
structure DispatchCounts (s : RunnerState Payload) : Prop where
  dispatched : s.facts.dispatchedTotal = .ofNat (s.tasks.length + s.loop.counted.toNat)
  split : s.loop.gone = false → s.tasks.length = s.observed.length + s.inFlight.len
  distinct : s.observed.Nodup
  finished : ∀ id ∈ s.observed,
    ∃ res, s.taskState id = some (.finished res)
  completed : s.facts.completedTotal = .ofNat (s.observed.countP s.succeeded)
  failed : s.facts.failedTotal = .ofNat (s.observed.countP fun id => !s.succeeded id)

namespace DispatchCounts

theorem new (cfg : RunnerConfig) (now : Instant) :
    DispatchCounts (new cfg now : RunnerState Payload) where
  dispatched := rfl
  split := fun _ => rfl
  distinct := .nil
  finished := nofun
  completed := rfl
  failed := rfl

theorem succeeded_eq (counts : DispatchCounts s)
    (kept : ∀ {id res}, s.taskState id = some (.finished res) →
      next.taskState id = some (.finished res)) :
    ∀ id ∈ s.observed, next.succeeded id = s.succeeded id := by
  intro id seen
  obtain ⟨res, done⟩ := counts.finished id seen
  simp only [succeeded, done, kept done]

/-- Moves that observe nothing. -/
theorem keep (counts : DispatchCounts s)
    (kept : ∀ {id res}, s.taskState id = some (.finished res) →
      next.taskState id = some (.finished res)) (observed : next.observed = s.observed)
    (completed : next.facts.completedTotal = s.facts.completedTotal)
    (failed : next.facts.failedTotal = s.facts.failedTotal)
    (dispatched : next.facts.dispatchedTotal = .ofNat (next.tasks.length + next.loop.counted.toNat))
    (split : next.loop.gone = false → next.tasks.length = s.observed.length + next.inFlight.len) :
    DispatchCounts next := by
  have same := counts.succeeded_eq kept
  refine ⟨dispatched, ?_, ?_, ?_, ?_, ?_⟩
  · rw [observed]
    exact split
  · rw [observed]
    exact counts.distinct
  · rw [observed]
    intro id seen
    obtain ⟨res, done⟩ := counts.finished id seen
    exact ⟨res, kept done⟩
  · rw [observed, completed, counts.completed]
    exact congrArg UInt64.ofNat (List.countP_congr fun id seen => by rw [same id seen])
  · rw [observed, failed, counts.failed]
    exact congrArg UInt64.ofNat (List.countP_congr fun id seen => by rw [same id seen])

/-- Nothing is dispatched or observed. -/
theorem same (counts : DispatchCounts s)
    (kept : ∀ {id res}, s.taskState id = some (.finished res) →
      next.taskState id = some (.finished res)) (observed : next.observed = s.observed)
    (facts : next.facts = s.facts) (tasks : next.tasks.length = s.tasks.length)
    (counted : next.loop.counted = s.loop.counted)
    (split : next.loop.gone = false → s.loop.gone = false ∧ next.inFlight.len = s.inFlight.len) :
    DispatchCounts next := by
  refine counts.keep kept observed (by rw [facts]) (by rw [facts]) ?_ ?_
  · rw [facts, tasks, counted]
    exact counts.dispatched
  · intro there
    obtain ⟨here, len⟩ := split there
    rw [tasks, len]
    exact counts.split here

/-- An observer yields its outcome, leaves the set and counts it. -/
theorem observes (managed : cfg.inDaemon = true) (watched : Watched s) (counts : DispatchCounts s)
    (idle : s.loop.busy = false) (running : s.loop.gone = false) {id : Nat}
    {rest : FuturesUnordered Nat} {task : DispatchTask Payload} {res : TaskResult}
    (yielded : Yields s id rest task res) : DispatchCounts (s.observe cfg id task res rest) := by
  obtain ⟨queue, members, -⟩ := FuturesUnordered.dequeue_some yielded.dequeued
  have member : id ∈ s.inFlight.members :=
    watched.tracked.queued_mem id (queue ▸ List.mem_cons_self)
  have done : s.taskState id = some (.finished res) := by
    rw [taskState_of_found yielded.found, yielded.finished]
  have outcome : s.succeeded id = decide (observeDispatchTask task.context res = .ok ()) := by
    simp [succeeded, done]
  have dispatched := counts.dispatched
  rw [counted_of_idle idle] at dispatched
  refine ⟨?_, ?_, ?_, ?_, ?_, ?_⟩
  · simp only [observe, managed, if_true, counted_of_idle idle]
    rw [← dispatched]
    cases observeDispatchTask task.context res <;> rfl
  · intro _
    have split := counts.split running
    have len := List.length_erase_of_mem (members ▸ member)
    have occupied : 0 < rest.members.length := List.length_pos_of_mem (members ▸ member)
    simp only [observe, FuturesUnordered.remove,
      FuturesUnordered.len, List.length_append, List.length_singleton, len]
    rw [split, FuturesUnordered.len, ← members]
    omega
  · refine List.nodup_append.mpr ⟨counts.distinct, by simp, ?_⟩
    rintro seen before other new rfl
    rw [List.mem_singleton.mp new] at before
    exact watched.unobserved id member before
  · intro other seen
    rcases List.mem_append.mp seen with before | new
    · exact counts.finished other before
    · rw [List.mem_singleton.mp new]
      exact ⟨res, done⟩
  · have counted : (s.facts.recordOutcome (observeDispatchTask task.context res)).completedTotal =
        s.facts.completedTotal + .ofNat ([id].countP s.succeeded) := by
      rw [List.countP_singleton, outcome]
      cases observeDispatchTask task.context res <;>
        simp [TriggerRuntimeFacts.recordOutcome]
    simp only [observe, managed, if_true]
    rw [counted, counts.completed, List.countP_append, UInt64.ofNat_add]
    rfl
  · have counted : (s.facts.recordOutcome (observeDispatchTask task.context res)).failedTotal =
        s.facts.failedTotal + .ofNat ([id].countP fun id => !s.succeeded id) := by
      rw [List.countP_singleton, outcome]
      cases observeDispatchTask task.context res <;>
        simp [TriggerRuntimeFacts.recordOutcome]
    simp only [observe, managed, if_true]
    rw [counted, counts.failed, List.countP_append, UInt64.ofNat_add]
    rfl

/-- The locals of the loop are dropped. -/
theorem leaves (counts : DispatchCounts s) (uncounted : s.loop.counted = false)
    (observed : next.observed = s.observed) (facts : next.facts = s.facts)
    (tasks : next.tasks = dropObservers s.inFlight s.tasks)
    (gone : next.loop.gone = true) : DispatchCounts next := by
  have states : next.tasks.map state = s.tasks.map state := by
    rw [tasks, dropObservers_state]
  refine counts.same ?_ observed facts ?_ ?_ ?_
  · intro id res done
    rwa [taskState_of_states states]
  · simpa using congrArg List.length states
  · rw [uncounted]
    cases point : next.loop with
    | returned | dropped => rfl
    | _ =>
      rw [point] at gone
      cases gone
  · rw [gone]
    nofun

theorem finish (counts : DispatchCounts s) (idle : s.loop.busy = false)
    (res : DispatchTaskOutcome) :
    DispatchCounts (s.finish res) :=
  counts.leaves (counted_of_idle idle) rfl rfl rfl rfl

theorem moves (counts : DispatchCounts s) (idle : s.loop.busy = false)
    (running : s.loop.gone = false)
    (observed : next.observed = s.observed) (facts : next.facts = s.facts)
    (tasks : next.tasks = s.tasks) (members : next.inFlight.members = s.inFlight.members)
    (uncounted : next.loop.counted = false) : DispatchCounts next := by
  refine counts.same ?_ observed facts (by rw [tasks]) ?_ fun _ => ?_
  · intro id res done
    rwa [taskState, tasks]
  · rw [uncounted, counted_of_idle idle]
  · exact ⟨running, by rw [len, members]; rfl⟩

theorem loops (managed : cfg.inDaemon = true) (watched : Watched s) (counts : DispatchCounts s)
    (running : s.loop.gone = false) (move : LoopMove cfg s next) : DispatchCounts next := by
  cases move with
  | goes going =>
    exact counts.moves going.busy.1 running rfl rfl rfl rfl (counted_of_idle going.busy.2)
  | suspends here polled =>
    obtain ⟨-, members, -⟩ := dequeue_some polled.dequeued
    have idle := busy_of_polls here
    exact counts.moves idle running rfl rfl rfl members (counted_of_idle idle)
  | timerPending here | startsDrain here =>
    exact counts.moves (by rw [here]; rfl) running rfl rfl rfl rfl rfl
  | monitorPending here =>
    refine counts.moves (by rw [here]; rfl) running rfl rfl rfl rfl ?_
    simp only
    split <;> rfl
  | enters here =>
    refine counts.same id rfl rfl rfl ?_ fun _ => ⟨running, rfl⟩
    rw [here]
    simp only [enterDispatch]
    split <;> rfl
  | completes here yielded | completesDraining here yielded =>
    have idle : s.loop.busy = false := by
      rw [here]
      rfl
    exact (counts.observes managed watched idle running yielded).moves
      idle running rfl rfl rfl rfl rfl
  | completesAside here yielded =>
    refine counts.observes managed watched ?_ running yielded
    rcases here with here | here <;>
    · rw [here]
      rfl
  | completesDrain here yielded | failsDraining here yielded =>
    have idle : s.loop.busy = false := by
      rw [here]
      rfl
    have seen := counts.observes managed watched idle running yielded
    rw [recordDrainOutcome_eq]
    exact seen.leaves (counted_of_idle idle) rfl rfl rfl rfl
  | fails here yielded =>
    have idle := busy_of_polls here
    exact (counts.observes managed watched idle running yielded).finish idle _
  | timesOut here =>
    rw [afterDrainTimeout, recordDrainOutcome_eq]
    exact counts.leaves (by rw [here]; rfl) rfl rfl rfl rfl
  | monitorFails here => exact counts.leaves (by rw [here]; rfl) rfl rfl rfl rfl
  | shutsDownIdle here | stopsCancelled here | drained here =>
    exact counts.finish (by rw [here]; rfl) _

/-- The dispatch is spawned, and its observer joins the set. -/
theorem spawns (counts : DispatchCounts s) {frame : DispatchFrame Payload}
    {pol : EffectiveTriggerPolicy} (here : s.loop = .dispatching frame (.spawn pol))
    (kept : ∀ {id res}, s.taskState id = some (.finished res) →
      (s.spawnDispatch cfg frame pol).taskState id = some (.finished res)) :
    DispatchCounts (s.spawnDispatch cfg frame pol) := by
  refine counts.keep kept rfl rfl rfl ?_ fun _ => ?_
  · have dispatched := counts.dispatched
    rw [here] at dispatched
    simp only [spawnDispatch, List.length_append, List.length_singleton, dispatched]
    split <;> rfl
  · have split := counts.split (by rw [here]; rfl)
    simp only [spawnDispatch, push, len, List.length_append, List.length_singleton]
    rw [split, len]
    omega

theorem step (managed : cfg.inDaemon = true) (watched : Watched s) (counts : DispatchCounts s)
    {a : Action Payload} (h : Runner.step cfg s a = some next) : DispatchCounts next := by
  have kept : ∀ {id res}, s.taskState id = some (.finished res) →
      next.taskState id = some (.finished res) :=
    fun done => taskState_finished h done
  cases Move.of_step h with
  | loop elsewhere move =>
    cases gone : s.loop.gone with
    | true =>
      cases point : s.loop with
      | returned | dropped =>
        simp only [Runner.step, loopStep, point] at h
        cases h
      | _ =>
        rw [point] at gone
        cases gone
    | false => exact counts.loops managed watched gone move
  | dispatch here move =>
    cases move with
    | spawns => exact counts.spawns here kept
    | records =>
      refine counts.keep kept rfl rfl rfl ?_ fun _ => ?_
      · have dispatched := counts.dispatched
        rw [here] at dispatched
        simp only [TriggerRuntimeFacts.recordDispatched, dispatched, counted]
        exact (UInt64.ofNat_add s.tasks.length 1).symm
      · exact counts.split (by rw [here]; rfl)
    | unmanaged alone =>
      rw [managed] at alone
      cases alone
    | _ =>
      refine counts.same kept rfl rfl rfl ?_ fun _ => ⟨?_, rfl⟩
      · rw [here]
        rfl
      · rw [here]
        rfl
  | hostReady here | hostPending here =>
    refine counts.same kept rfl rfl rfl ?_ fun _ => ⟨?_, rfl⟩
    · rw [here]
      rfl
    · rw [here]
      rfl
  | drops here =>
    refine counts.leaves ?_ rfl rfl rfl rfl
    rcases here with here | here | here <;>
    · rw [here]
      rfl
  | dropsQueued here => exact counts.leaves (by rw [here]; rfl) rfl rfl rfl rfl
  | returnsPermit =>
    exact counts.same kept rfl rfl List.length_set rfl
      fun here => ⟨here, rfl⟩
  | completes =>
    refine counts.same kept rfl rfl List.length_set rfl
      fun here => ⟨here, ?_⟩
    rw [len, wake_members]
    rfl
  | _ => exact counts.same kept rfl rfl rfl rfl fun here => ⟨here, rfl⟩

theorem reaches (managed : cfg.inDaemon = true)
    (reached : Runner.Reaches cfg now acts s) : DispatchCounts s := by
  induction reached with
  | nil => exact .new cfg now
  | snoc earlier _ h ih => exact ih.step managed (.reaches earlier) h

end DispatchCounts

/-! ### The accounts -/

namespace LoopPoint

/-- The loop is in one of its selects, or goes from one to the next. -/
def iterating : LoopPoint Payload → Bool
  | .handling _ | .dispatching .. | .returned _ | .dropped => false
  | _ => true

end LoopPoint

/-- The accounts of a generation between two dispatches. -/
structure DispatchAccounts (accepted : List (HostEvent Payload))
    (s : RunnerState Payload) : Prop where
  /-- every event is dispatched once, in order, under its own number -/
  dispatched :
    s.tasks.map (fun task =>
        (task.context.payload, task.context.instanceSeq)) =
      accepted.mapIdx fun seq event => (event.1, .ofNat seq)
  conserved : s.facts.dispatchedTotal =
    s.facts.completedTotal + s.facts.failedTotal + .ofNat s.inFlight.len
  /-- the dispatches whose outcome is counted are different ones -/
  distinct : s.observed.Nodup
  completed : s.facts.completedTotal = .ofNat (s.observed.countP s.succeeded)
  failed : s.facts.failedTotal = .ofNat (s.observed.countP fun id => !s.succeeded id)

/-- In every iteration of a select, every accepted event has been dispatched
exactly once and in order, the counters add up, and no outcome is counted
twice. -/
theorem dispatch_accounted {config : RunnerConfig} (managed : config.inDaemon = true)
    {now : Instant} {schedule : List (Action Payload)} {state : RunnerState Payload}
    (reached : Runner.Reaches config now schedule state) (iterating : state.loop.iterating = true) :
    DispatchAccounts (acceptedEvents schedule) state := by
  have order := DispatchOrder.reaches reached
  have counts := DispatchCounts.reaches managed reached
  obtain ⟨idle, running⟩ :
      state.loop.busy = false ∧ state.loop.gone = false := by
    cases point : state.loop with
    | handling | dispatching | returned | dropped =>
      rw [point] at iterating
      cases iterating
    | _ => exact ⟨rfl, rfl⟩
  refine ⟨?_, ?_, counts.distinct, counts.completed, counts.failed⟩
  · have complete := order.complete running
    rw [idle] at complete
    apply List.ext_getElem?
    intro seq
    rw [List.getElem?_map, List.getElem?_mapIdx]
    cases found : state.tasks[seq]? with
    | none =>
      have beyond := List.getElem?_eq_none_iff.mp found
      rw [List.getElem?_eq_none (by simpa [complete] using beyond)]
      rfl
    | some task =>
      obtain ⟨event, listed, delivers⟩ := order.delivered seq task.context (by
        rw [RunnerState.contexts, List.getElem?_map, found]
        rfl)
      rw [listed]
      simp [delivers.payload, delivers.sequence]
  · have dispatched := counts.dispatched
    have split := counts.split running
    rw [LoopPoint.counted_of_idle idle] at dispatched
    have seen := List.length_eq_countP_add_countP state.succeeded
      (l := state.observed)
    rw [dispatched, split, counts.completed, counts.failed, ← UInt64.ofNat_add, ← UInt64.ofNat_add]
    simpa using congrArg UInt64.ofNat seen

/-- Two events are dispatched one after the other; the first has been observed,
the second is in flight. -/
theorem dispatch_accounted_second_in_flight :
    ∃ state : RunnerState Nat,
      Runner.Reaches (.managed none) 0
          (List.flatten [Runner.arrival 4 7, Runner.loops 14,
              [.taskReturnsPermit 0 .ok, .taskCompletes 0],
              Runner.arrival 5 8, Runner.loops 14])
          state ∧
        (state.loop.iterating = true ∧ state.inFlight.len = 1 ∧ state.facts.completedTotal = 1) ∧
        DispatchAccounts [(7, none), (8, none)] state :=
  Run.exists_and (by decide +kernel) fun _ reached outcome =>
    dispatch_accounted rfl reached outcome.1

end ServiceDaemon
