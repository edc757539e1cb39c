/-
Purpose: Everybody who writes the status of one service: its supervisor, the
  tasks that call the lifecycle utilities with the identity of one of its
  generations, the startup and the shutdown of the daemon.
Main exports: ServiceStatus.afterDone, LifecycleTask, CallPoint
-/
import ServiceDaemon.Core.Supervisor
import ServiceDaemon.Lib.Threads

namespace ServiceDaemon

/-!
`done` and the implicit handshake read the entry of the service, decide and
insert, without a lock over the three, and so other tasks can come in between.
The identity of a generation is cloned into the tasks that the body starts by
`spawn_with_context`; such a task can call at any time, also when its generation
has long ended.  A body that has ended makes no call, but a task it has started
could make the same one, so the body is one of the tasks here.

Nothing but the shutdown cancels the service token.  A supervisor that is
aborted runs on to its next await point and is dropped there.  The thread of an
isolated generation is not stopped by the abort, and so the generation goes on.

[SRC core/context/api.rs, core/context/identity.rs]
[SRC runner/wave.rs, runner/supervisor.rs]
-/

/-! ### Statuses -/

namespace ServiceStatus

/-- The statuses from which the implicit handshake makes a service Healthy. -/
def starting : ServiceStatus → Bool
  | .initializing | .restoring | .recovering _ => true
  | _ => false

/-- `NeedReload`, `ShuttingDown` and `Terminated`. -/
def descending : ServiceStatus → Bool
  | .needReload | .shuttingDown | .terminated => true
  | _ => false

/-- `next_status` of `done`. -/
def afterDone : ServiceStatus → ServiceStatus
  | .initializing | .restoring | .recovering _ => .healthy
  | .needReload | .shuttingDown => .terminated
  | status => status

end ServiceStatus

/-! ### Calls -/

/-- The utilities that begin with `implicit_handshake`. -/
inductive LifecycleUtility where
  | isShutdown
  | waitShutdown
  | sleep (duration : Duration)
deriving Repr, DecidableEq

inductive LifecycleCall where
  | done
  | utility (utility : LifecycleUtility)
deriving Repr, DecidableEq

/-- Where a task is in its call. -/
inductive CallPoint where
  | idle
  /-- before `is_handshake_done` is loaded -/
  | loadingFlag (utility : LifecycleUtility)
  /-- before `status_plane.get` -/
  | reading (call : LifecycleCall)
  /-- before `status_plane.insert` -/
  | inserting (call : LifecycleCall) (status : ServiceStatus)
  /-- before `record_service_status` -/
  | recording (call : LifecycleCall) (status : ServiceStatus)
  /-- before `notify_waiters` -/
  | notifying (call : LifecycleCall)
  /-- before `is_handshake_done` is stored -/
  | storingFlag (utility : LifecycleUtility)
  /-- after the handshake -/
  | handshaken (utility : LifecycleUtility)
  /-- in the `select!` of `sleep`, or of `wait_shutdown`, which has no deadline -/
  | waiting (deadline : Option Instant)
deriving Repr, DecidableEq

namespace LifecycleCall

/-- The first operation of a call. -/
def entry : LifecycleCall → CallPoint
  | .done => .reading .done
  | .utility kind => .loadingFlag kind

/-- The status that the call inserts after it has read the entry. -/
def decides (entry : Option ServiceStatus) : LifecycleCall → Option ServiceStatus
  | .done =>
    let current := entry.getD .initializing
    if current.afterDone ≠ current then some current.afterDone else none
  | .utility _ => if entry.any (·.starting) then some .healthy else none

/-- What follows the transition of the status. -/
def resume : LifecycleCall → CallPoint
  | .done => .idle
  | .utility kind => .storingFlag kind

end LifecycleCall

/-- A task with the identity of a generation, which is known by its position
among the generations of the service.  `returned` is what its last call that
answers returned. -/
structure LifecycleTask where
  generation : Nat
  point : CallPoint
  returned : Option Bool
deriving Repr, DecidableEq

/-- The branches of the `select!`s of `sleep` and `wait_shutdown`. -/
inductive CallWake where
  | elapsed
  | cancelled
  | reload
deriving Repr, DecidableEq

/-! ### State -/

/-- Where `spawn_all_services` is with the service. -/
inductive SpawnPoint where
  | notStarted
  /-- the supervisor task exists, its handle is not in `running_tasks` yet -/
  | spawned
  | inserted
  /-- there is no high-priority runtime for the service -/
  | refused
deriving Repr, DecidableEq

def SpawnPoint.supervised : SpawnPoint → Bool
  | .spawned | .inserted => true
  | .notStarted | .refused => false

/-- Where `stop_all_services` is with the service. -/
inductive ServiceStop where
  | notStarted
  /-- the token is cancelled, `ShuttingDown` is not inserted yet -/
  | signalled
  | inserted
  | recorded
  /-- before the handle is taken out of `running_tasks` -/
  | notified
  /-- in the `select!`, whose sleep began then -/
  | waiting (began : Instant)
  /-- after `handle.abort()`, at `handle.await` -/
  | aborting
  /-- before `Terminated` is inserted -/
  | joined
  | terminated
  | returned
deriving Repr, DecidableEq

/-- The shutdown has inserted `ShuttingDown`. -/
def ServiceStop.announced : ServiceStop → Bool
  | .notStarted | .signalled => false
  | _ => true

structure LifecycleConfig where
  supervisor : SupervisorConfig
  gracePeriod : Duration
deriving DecidableEq

/-- The service wants the high-priority runtime, and there is none. -/
def LifecycleConfig.missingRuntime (config : LifecycleConfig) : Bool :=
  config.supervisor.scheduling == .highPriority && !config.supervisor.highPriority

/-- The service with its writers.  `handshakes` are the generations whose
handshake flag is set, `retiredTokens` the reload tokens of the generations
before the current one, `notifications` the `notify_waiters` calls of everybody
but the supervisor.  `backedOff` is history: a backoff wait has begun since the
last generation was prepared. -/
structure LifecycleState where
  supervisor : SupervisorState
  startup : SpawnPoint
  dropped : Bool
  stop : ServiceStop
  tasks : List LifecycleTask
  handshakes : List Nat
  retiredTokens : List Bool
  notifications : Nat
  backedOff : Bool
deriving DecidableEq

/-- The service function of the generation is running. -/
def SupervisorPoint.bodyRunning : SupervisorPoint → Bool
  | .running future _ | .reloading future => future.bodyRunning
  | _ => false

/-- In the `select!` of `wait_for_restart`. -/
def SupervisorPoint.backingOff : SupervisorPoint → Bool
  | .waiting .. => true
  | _ => false

/-- The supervisor is at an await point, or has not been polled. -/
def SupervisorState.suspended (state : SupervisorState) : Bool :=
  state.pending.isEmpty &&
    match state.point with
    | .running .. | .reloading _ | .waiting .. => true
    | .starting => state.current.isNone
    | _ => false

namespace LifecycleState

/-- Before the startup. -/
def new (config : LifecycleConfig) (now : Instant) : LifecycleState :=
  { supervisor := .new config.supervisor now none
    startup := .notStarted
    dropped := false
    stop := .notStarted
    tasks := []
    handshakes := []
    retiredTokens := []
    notifications := 0
    backedOff := false }

/-- The entry of the service in the status plane. -/
def entry (state : LifecycleState) : Option ServiceStatus :=
  state.supervisor.statusPlane

/-- The supervisor has returned or was dropped. -/
def ended (state : LifecycleState) : Prop :=
  state.supervisor.finished ∨ state.dropped = true

instance (s : LifecycleState) : Decidable s.ended :=
  inferInstanceAs (Decidable (_ ∨ _))

/-- The supervisor has recorded the exit of the generation. -/
def exited (state : LifecycleState) (generation : Nat) : Bool :=
  generation < state.supervisor.past.length ||
    state.supervisor.current.any fun record => !record.exits.isEmpty

/-- The reload token of a generation is cancelled. -/
def reloadCancelled (state : LifecycleState) (generation : Nat) : Bool :=
  if generation < state.supervisor.past.length then
    state.retiredTokens[generation]?.getD false
  else state.supervisor.reloadToken == some true

/-- `state`, as a task with the identity of the generation sees it. -/
def observed (state : LifecycleState) (generation : Nat) : ServiceStatus :=
  if state.supervisor.cancelled then .shuttingDown
  else if state.reloadCancelled generation then
    if state.entry = some .shuttingDown then .shuttingDown else .needReload
  else state.entry.getD .initializing

/-- `status_plane.insert`. -/
def insertStatus (state : LifecycleState) (status : ServiceStatus) :
    LifecycleState :=
  { state with supervisor := { state.supervisor with statusPlane := some status } }

/-- `record_service_status`. -/
def recordStatus (state : LifecycleState) (status : ServiceStatus) :
    LifecycleState :=
  { state with
    supervisor :=
      { state.supervisor with
        runtimeFacts :=
          state.supervisor.runtimeFacts.recordStatusFacts state.supervisor.now
            status } }

/-- `status_changed.notify_waiters`. -/
def notify (state : LifecycleState) : LifecycleState :=
  { state with notifications := state.notifications + 1 }

/-- A task moves. -/
def setTask (state : LifecycleState) (index : Nat) (task : LifecycleTask) :
    LifecycleState :=
  { state with tasks := state.tasks.set index task }

/-- Who may act as the supervisor.  The token, the entry and the facts are
written by the other parties in their own steps. -/
def permits (state : LifecycleState) : SupervisorAction → Bool
  | .tick _ | .cancelDaemon | .triggerReload | .dependencyChange
  | .generation _ => true
  | .cancel | .writeStatus _ | .recordStatus _ => false
  | .perform | .advance | .takeResult | .takeDependency | .takeReload
  | .sleepElapsed _ | .reloadDuringDelay | .shutdownDuringDelay =>
    state.startup.supervised && !state.dropped

/-- The action prepares a generation. -/
def prepares (state : LifecycleState) (action : SupervisorAction) : Bool :=
  state.supervisor.point == .prepare && action == .advance

/-- A step of the supervisor, with the token it retires. -/
def note (state : LifecycleState) (action : SupervisorAction)
    (next : SupervisorState) : LifecycleState :=
  { state with
    supervisor := next
    retiredTokens :=
      if state.prepares action then
        state.retiredTokens ++ state.supervisor.reloadToken.toList
      else state.retiredTokens
    backedOff :=
      !state.prepares action && (state.backedOff || next.point.backingOff) }

end LifecycleState

/-! ### Steps -/

/-- What can happen. -/
inductive LifecycleAction where
  /-- `spawn_service` starts the supervisor task -/
  | spawnSupervisor
  | insertHandle
  /-- the startup finds no high-priority runtime -/
  | refuse
  | supervisor (action : SupervisorAction)
  /-- the supervisor is dropped after an abort -/
  | drop
  /-- the service function is called with a new identity -/
  | startBody
  /-- `spawn_with_context` -/
  | spawn (parent : Nat)
  | call (task : Nat) (call : LifecycleCall)
  /-- the next operation of a call -/
  | proceed (task : Nat)
  | wake (task : Nat) (branch : CallWake)
  /-- the next operation of the shutdown, unless it waits for the supervisor -/
  | stop
  | joinReady
  | graceElapsed
deriving Repr, DecidableEq

namespace Lifecycle

open LifecycleState

/-- The next operation of a call. -/
def proceed (state : LifecycleState) (index : Nat) (task : LifecycleTask) :
    Option LifecycleState :=
  let goto (point : CallPoint) : LifecycleTask := { task with point := point }
  match task.point with
  | .idle | .waiting _ => none
  | .loadingFlag utility =>
    let done := state.handshakes.contains task.generation
    some <| state.setTask index <| goto <|
      if done then .handshaken utility else .reading (.utility utility)
  | .reading call =>
    match call.decides state.entry with
    | some status => some (state.setTask index (goto (.inserting call status)))
    | none => some (state.setTask index (goto call.resume))
  | .inserting call status =>
    some ((state.insertStatus status).setTask index (goto (.recording call status)))
  | .recording call status =>
    some ((state.recordStatus status).setTask index (goto (.notifying call)))
  | .notifying call => some (state.notify.setTask index (goto call.resume))
  | .storingFlag utility =>
    some
      { state.setTask index (goto (.handshaken utility)) with
        handshakes := task.generation :: state.handshakes }
  | .handshaken .isShutdown =>
    let answer :=
      state.supervisor.cancelled || state.reloadCancelled task.generation
    some (state.setTask index { goto .idle with returned := some answer })
  | .handshaken .waitShutdown =>
    some (state.setTask index (goto (.waiting none)))
  | .handshaken (.sleep duration) =>
    some <| state.setTask index <| goto <|
      .waiting (some (state.supervisor.now + duration))

/-- The branch of the `select!` is ready. -/
def ready (state : LifecycleState) (generation : Nat) (deadline : Option Instant) : CallWake → Bool
  | .elapsed => deadline.any fun deadline => deadline ≤ state.supervisor.now
  | .cancelled => state.supervisor.cancelled
  | .reload => state.reloadCancelled generation

/-- A `select!` of `sleep` or `wait_shutdown` ends with a branch. -/
def wake (state : LifecycleState) (index : Nat) (task : LifecycleTask)
    (branch : CallWake) : Option LifecycleState :=
  match task.point with
  | .waiting deadline =>
    -- `wait_shutdown` answers nothing.
    let answer := deadline.map fun _ => branch == .elapsed
    if ready state task.generation deadline branch then
      some
        (state.setTask index { task with point := .idle, returned := answer.or task.returned })
    else none
  | _ => none

/-- The next operation of the shutdown. -/
def stop (state : LifecycleState) : Option LifecycleState :=
  match state.stop with
  | .notStarted =>
    some
      { state with supervisor := { state.supervisor with cancelled := true }, stop := .signalled }
  | .signalled => some { state.insertStatus .shuttingDown with stop := .inserted }
  | .inserted => some { state.recordStatus .shuttingDown with stop := .recorded }
  | .recorded => some { state.notify with stop := .notified }
  | .notified =>
    if state.startup = .inserted then
      some { state with stop := .waiting state.supervisor.now }
    else some { state with stop := .returned }
  | .aborting => if state.ended then some { state with stop := .joined } else none
  | .joined => some { state.insertStatus .terminated with stop := .terminated }
  | .terminated => some { state.notify with stop := .returned }
  | .waiting _ | .returned => none

def step (config : LifecycleConfig) (state : LifecycleState) :
    LifecycleAction → Option LifecycleState
  | .spawnSupervisor =>
    if state.startup = .notStarted && !config.missingRuntime then
      some { state with startup := .spawned }
    else none
  | .insertHandle =>
    if state.startup = .spawned then some { state with startup := .inserted }
    else none
  | .refuse =>
    if state.startup = .notStarted && config.missingRuntime then
      let announced := (state.insertStatus .terminated).notify
      some
        { announced with
          supervisor := { announced.supervisor with daemonCancelled := true }
          startup := .refused }
    else none
  | .supervisor action =>
    if state.permits action then
      (Supervisor.step config.supervisor state.supervisor action).map
        (state.note action)
    else none
  | .drop =>
    if state.stop = .aborting && state.supervisor.suspended then
      some { state with dropped := true }
    else none
  | .startBody =>
    match state.supervisor.current with
    | some _ =>
      let generation := state.supervisor.past.length
      if state.supervisor.point.bodyRunning &&
          state.tasks.all (·.generation ≠ generation) then
        some { state with tasks := state.tasks ++ [⟨generation, .idle, none⟩] }
      else none
    | none => none
  | .spawn parent =>
    match state.tasks[parent]? with
    | some ⟨generation, .idle, _⟩ =>
      some { state with tasks := state.tasks ++ [⟨generation, .idle, none⟩] }
    | _ => none
  | .call index call =>
    match state.tasks[index]? with
    | some ⟨generation, .idle, returned⟩ =>
      some (state.setTask index ⟨generation, call.entry, returned⟩)
    | _ => none
  | .proceed index =>
    state.tasks[index]?.bind fun task => proceed state index task
  | .wake index branch =>
    state.tasks[index]?.bind fun task => wake state index task branch
  | .stop => stop state
  | .joinReady =>
    match state.stop with
    | .waiting _ =>
      if state.ended then some { state with stop := .joined } else none
    | _ => none
  | .graceElapsed =>
    match state.stop with
    | .waiting began =>
      if began + config.gracePeriod ≤ state.supervisor.now then
        some { state with stop := .aborting }
      else none
    | _ => none

end Lifecycle

/-! ### What a step can do -/

/-- The task is about to insert a status. -/
def CallPoint.armed : CallPoint → Option ServiceStatus
  | .inserting _ status => some status
  | _ => none

@[simp] theorem LifecycleCall.entry_armed (call : LifecycleCall) :
    call.entry.armed = none := by
  cases call <;> rfl

@[simp] theorem LifecycleCall.resume_armed (call : LifecycleCall) :
    call.resume.armed = none := by
  cases call <;> rfl

/-- The facts of the service as they were, or with one more status. -/
def LifecycleState.Records (state : LifecycleState) (facts : ServiceRuntimeState) : Prop :=
  facts = state.supervisor.runtimeFacts ∨ ∃ status,
      facts = state.supervisor.runtimeFacts.recordStatusFacts state.supervisor.now status

theorem LifecycleState.Records.same (s : LifecycleState) :
    s.Records s.supervisor.runtimeFacts :=
  .inl rfl

/-- The moves of the writers.  The operations of a call that leave the entry
alone are one move, and so are those of the shutdown. -/
inductive LifecycleMove (cfg : LifecycleConfig) (s : LifecycleState) :
    LifecycleAction → LifecycleState → Prop where
  | spawns (unstarted : s.startup = .notStarted) :
      LifecycleMove cfg s .spawnSupervisor
        { s with startup := .spawned }
  | insertsHandle (spawned : s.startup = .spawned) :
      LifecycleMove cfg s .insertHandle { s with startup := .inserted }
  | refuses {notifications} (unstarted : s.startup = .notStarted) :
      LifecycleMove cfg s .refuse
        { s with
          supervisor :=
            { s.supervisor with statusPlane := some .terminated, daemonCancelled := true }
          startup := .refused
          notifications := notifications }
  | supervises {a next} (permitted : s.permits a = true)
      (moved : Supervisor.step cfg.supervisor s.supervisor a = some next) :
      LifecycleMove cfg s (.supervisor a) (s.note a next)
  | drops (aborting : s.stop = .aborting) :
      LifecycleMove cfg s .drop { s with dropped := true }
  | startsBody {record} (cur : s.supervisor.current = some record)
      (running : s.supervisor.point.bodyRunning = true) :
      LifecycleMove cfg s .startBody
        { s with tasks := s.tasks ++ [⟨s.supervisor.past.length, .idle, none⟩] }
  | spawnsTask {i parent} (found : s.tasks[i]? = some parent) :
      LifecycleMove cfg s (.spawn i)
        { s with tasks := s.tasks ++ [⟨parent.generation, .idle, none⟩] }
  -- calls
  | decides {i task call status} (found : s.tasks[i]? = some task)
      (here : task.point = .reading call)
      (decided : call.decides s.entry = some status) :
      LifecycleMove cfg s (.proceed i)
        (s.setTask i { task with point := .inserting call status })
  | inserts {i task call status} (found : s.tasks[i]? = some task)
      (here : task.point = .inserting call status) :
      LifecycleMove cfg s (.proceed i)
        ((s.insertStatus status).setTask i { task with point := .recording call status })
  | proceeds {a i task moved handshakes notifications facts}
      (mine : (∃ call, a = .call i call) ∨ a = .proceed i ∨ ∃ branch, a = .wake i branch)
      (found : s.tasks[i]? = some task) (idle : task.point.armed = none)
      (rests : moved.point.armed = none)
      (same : moved.generation = task.generation)
      (records : s.Records facts) :
      LifecycleMove cfg s a
        { s with
          supervisor := { s.supervisor with runtimeFacts := facts }
          tasks := s.tasks.set i moved
          handshakes := handshakes
          notifications := notifications }
  -- the shutdown
  | signals (here : s.stop = .notStarted) :
      LifecycleMove cfg s .stop
        { s with supervisor := { s.supervisor with cancelled := true }, stop := .signalled }
  | announces (here : s.stop = .signalled) :
      LifecycleMove cfg s .stop
        { s.insertStatus .shuttingDown with stop := .inserted }
  | terminates (here : s.stop = .joined) :
      LifecycleMove cfg s .stop
        { s.insertStatus .terminated with stop := .terminated }
  | stops {a point notifications facts}
      (mine : a = .stop ∨ a = .joinReady ∨ a = .graceElapsed)
      (begun : s.stop.announced = true) (waits : s.stop ≠ .joined)
      (stays : point.announced = true) (records : s.Records facts) :
      LifecycleMove cfg s a
        { s with
          supervisor := { s.supervisor with runtimeFacts := facts }
          stop := point
          notifications := notifications }

namespace LifecycleMove

variable {cfg : LifecycleConfig} {s next : LifecycleState}

theorem of_proceed (found : s.tasks[i]? = some task)
    (h : Lifecycle.proceed s i task = some next) : LifecycleMove cfg s (.proceed i) next := by
  have mine : (∃ call, LifecycleAction.proceed i = .call i call) ∨
      LifecycleAction.proceed i = .proceed i ∨
        ∃ branch, LifecycleAction.proceed i = .wake i branch :=
    .inr (.inl rfl)
  unfold Lifecycle.proceed at h
  simp only at h
  split at h
  · cases h
  · cases h
  · rename_i here
    cases h
    refine .proceeds mine found (by rw [here]; rfl) ?_ rfl (.same s)
    dsimp only
    split <;> rfl
  · rename_i call here
    split at h <;> cases h
    · exact .decides found here ‹_›
    · exact .proceeds mine found (by rw [here]; rfl) call.resume_armed rfl
        (.same s)
  · rename_i here
    cases h
    exact .inserts found here
  · rename_i status here
    cases h
    exact .proceeds mine found (by rw [here]; rfl) rfl rfl (.inr ⟨status, rfl⟩)
  · rename_i call here
    cases h
    exact .proceeds mine found (by rw [here]; rfl) call.resume_armed rfl
      (.same s)
  all_goals
    rename_i here
    cases h
    exact .proceeds mine found (by rw [here]; rfl) rfl rfl (.same s)

theorem of_wake (found : s.tasks[i]? = some task) (h : Lifecycle.wake s i task branch = some next) :
    LifecycleMove cfg s (.wake i branch) next := by
  unfold Lifecycle.wake at h
  split at h
  · rename_i here
    simp only at h
    split at h <;> cases h
    exact .proceeds (.inr (.inr ⟨branch, rfl⟩)) found (by rw [here]; rfl) rfl rfl
      (.same s)
  · cases h

theorem of_stop (h : Lifecycle.stop s = some next) : LifecycleMove cfg s .stop next := by
  unfold Lifecycle.stop at h
  split at h <;> rename_i here
  · cases h
    exact .signals here
  · cases h
    exact .announces here
  · cases h
    exact .stops (.inl rfl) (by rw [here]; rfl) (by simp [here]) rfl (.inr ⟨_, rfl⟩)
  · cases h
    exact .stops (.inl rfl) (by rw [here]; rfl) (by simp [here]) rfl (.same s)
  · split at h <;> cases h <;>
      exact .stops (.inl rfl) (by rw [here]; rfl) (by simp [here]) rfl (.same s)
  · split at h <;> cases h
    exact .stops (.inl rfl) (by rw [here]; rfl) (by simp [here]) rfl (.same s)
  · cases h
    exact .terminates here
  · cases h
    exact .stops (.inl rfl) (by rw [here]; rfl) (by simp [here]) rfl (.same s)
  · cases h
  · cases h

theorem of_step (h : Lifecycle.step cfg s a = some next) : LifecycleMove cfg s a next := by
  cases a with
  | spawnSupervisor =>
    simp only [Lifecycle.step] at h
    split at h <;> cases h
    rename_i spawned
    simp only [Bool.and_eq_true, decide_eq_true_eq] at spawned
    exact .spawns spawned.1
  | insertHandle =>
    simp only [Lifecycle.step] at h
    split at h <;> cases h
    exact .insertsHandle ‹_›
  | refuse =>
    simp only [Lifecycle.step] at h
    split at h <;> cases h
    rename_i refused
    simp only [Bool.and_eq_true, decide_eq_true_eq] at refused
    exact .refuses refused.1
  | supervisor a =>
    simp only [Lifecycle.step] at h
    split at h
    · rename_i permitted
      obtain ⟨after, moved, rfl⟩ := Option.map_eq_some_iff.mp h
      exact .supervises permitted moved
    · cases h
  | drop =>
    simp only [Lifecycle.step] at h
    split at h <;> cases h
    rename_i dropped
    simp only [Bool.and_eq_true, decide_eq_true_eq] at dropped
    exact .drops dropped.1
  | startBody =>
    simp only [Lifecycle.step] at h
    split at h
    · rename_i cur
      split at h <;> cases h
      rename_i running
      simp only [Bool.and_eq_true] at running
      exact .startsBody cur running.1
    · cases h
  | spawn parent =>
    simp only [Lifecycle.step] at h
    split at h <;> cases h
    rename_i found
    exact .spawnsTask found
  | call i call =>
    simp only [Lifecycle.step] at h
    split at h <;> cases h
    rename_i found
    exact .proceeds (.inl ⟨call, rfl⟩) found rfl call.entry_armed rfl (.same s)
  | proceed i =>
    obtain ⟨task, found, moved⟩ := Option.bind_eq_some_iff.mp h
    exact .of_proceed found moved
  | wake i branch =>
    obtain ⟨task, found, moved⟩ := Option.bind_eq_some_iff.mp h
    exact .of_wake found moved
  | stop => exact .of_stop h
  | joinReady =>
    simp only [Lifecycle.step] at h
    split at h
    · rename_i here
      split at h <;> cases h
      exact .stops (.inr (.inl rfl)) (by rw [here]; rfl) (by simp [here]) rfl
        (.same s)
    · cases h
  | graceElapsed =>
    simp only [Lifecycle.step] at h
    split at h
    · rename_i here
      split at h <;> cases h
      exact .stops (.inr (.inr rfl)) (by rw [here]; rfl) (by simp [here]) rfl
        (.same s)
    · cases h

end LifecycleMove

end ServiceDaemon
