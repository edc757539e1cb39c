/-
Purpose: The wave-based startup and shutdown of the services: the grouping by
  priority, the startup call with the wait for each wave, the shutdown call with
  its joins, and the map of running tasks they share.
Main exports: ServiceDescription, WaveConfig, ServiceWave.fromServices
-/
import ServiceDaemon.Lib.OrderedGroups
import ServiceDaemon.Lib.StepSystem
import ServiceDaemon.Models.Lifecycle
import ServiceDaemon.Core.Dispatch

namespace ServiceDaemon

open StepSystem

/-!
`spawn_all_services` and `stop_all_services` are two calls on one list of
services.  Each of them moves by one operation on shared data at a time, and
nothing keeps one from moving while the other is under way; `ServiceDaemon::run`
awaits the startup, so a shutdown can overlap with it only when the future of
`run` was dropped.

The supervisors are the environment: a supervisor task finishes when it likes,
also after an abort, and statuses are written and announced at any moment.  The
log is history and holds what the two calls did, newest first.

[SRC core/service_daemon/runner/wave.rs, supervisor.rs]
-/

/-- `ServiceDescription`, with the fields of its entry that the waves read. -/
structure ServiceDescription where
  id : ServiceId
  /-- a `u8` -/
  priority : Fin 256
  scheduling : ServiceScheduling
deriving Repr, DecidableEq

/-- The arguments of the two calls that do not change.  The runtimes of the body
lanes matter here only by the presence of the high-priority one. -/
structure WaveConfig where
  services : List ServiceDescription
  highPriorityRuntime : Bool
  waveSpawnTimeout : Duration
  gracePeriod : Duration
deriving Repr, DecidableEq

namespace WaveConfig

/-- A reference to an element of the list of services. -/
abbrev Service (config : WaveConfig) := Fin config.services.length

def description (config : WaveConfig) (service : config.Service) :
    ServiceDescription :=
  config.services.get service

def id (config : WaveConfig) (service : config.Service) : ServiceId :=
  (config.description service).id

def priority (config : WaveConfig) (service : config.Service) : Fin 256 :=
  (config.description service).priority

end WaveConfig

/-- `ServiceWave`: a priority and the services that have it. -/
abbrev ServiceWave (config : WaveConfig) := Fin 256 × List config.Service

/-- `ServiceWave::from_services`: the waves in ascending order of priority. -/
def ServiceWave.fromServices (config : WaveConfig) :
    List (ServiceWave config) :=
  OrderedGroups.group config.priority (List.finRange config.services.length)

/-- The supervisor task behind a `JoinHandle`, numbered in spawning order. -/
abbrev SupervisorTask := Nat

/-! ### The log -/

/-- Why `wait_for_healthy` returned. -/
inductive WaitEnd where
  | healthy
  | timedOut (began now : Instant)
  | shutdown
deriving Repr, DecidableEq

/-- What the log of a daemon records. -/
inductive WaveEvent (config : WaveConfig) where
  | spawned (service : config.Service)
  /-- `running_tasks` receives the handle -/
  | inserted (service : config.Service) (task : SupervisorTask)
  | waitBegan (priority : Fin 256) (now : Instant)
  /-- `wait_for_healthy` reads `Healthy` -/
  | sawHealthy (service : config.Service)
  | waitEnded (priority : Fin 256) (reason : WaitEnd)
  /-- the cancellation token of the service is cancelled -/
  | signalled (service : config.Service)
  /-- the shutdown removes the handle from `running_tasks`, if there is one -/
  | lookedUp (service : config.Service) (found : Option SupervisorTask)
  /-- the shutdown starts to wait for the handle -/
  | awaited (task : SupervisorTask) (now : Instant)
  | aborted (task : SupervisorTask) (now : Instant)
  | finished (task : SupervisorTask)
  | joined (task : SupervisorTask)
  | daemonCancelled
deriving Repr, DecidableEq

/-! ### The two calls -/

/-- Where `spawn_all_services` is.  `rest` are the waves it has not begun,
`todo` the services of the current loop that are left. -/
inductive StartupPoint (config : WaveConfig) where
  | notStarted
  | nextWave (rest : List (ServiceWave config))
  | spawning (wave : ServiceWave config) (todo : List config.Service)
      (rest : List (ServiceWave config))
  /-- in `spawn_service`, before the handle goes into `running_tasks` -/
  | inserting (wave : ServiceWave config) (service : config.Service)
      (task : SupervisorTask) (todo : List config.Service)
      (rest : List (ServiceWave config))
  /-- `wait_for_healthy`: at the condition of the loop -/
  | waiting (wave : ServiceWave config) (began : Instant)
      (rest : List (ServiceWave config))
  /-- before `daemon_token.is_cancelled()` -/
  | tokenCheck (wave : ServiceWave config) (began : Instant)
      (rest : List (ServiceWave config))
  /-- before `status_changed.notified()` -/
  | arming (wave : ServiceWave config) (began : Instant)
      (rest : List (ServiceWave config))
  /-- reading the statuses; `seen` counts the notifications before `notified()` -/
  | checking (wave : ServiceWave config) (began : Instant) (seen : Nat)
      (todo : List config.Service) (rest : List (ServiceWave config))
  /-- in the `select!` -/
  | sleeping (wave : ServiceWave config) (began : Instant) (seen : Nat)
      (wakeAt : Instant) (rest : List (ServiceWave config))
  | returned
deriving Repr, DecidableEq

/-- Where the future that waits for one handle is. -/
inductive JoinPhase where
  | created
  /-- in the `select!`, whose sleep began then -/
  | waiting (began : Instant)
  /-- after `handle.abort()`, at `handle.await` -/
  | aborted
  /-- before `Terminated` is announced -/
  | joined
  | done
deriving Repr, DecidableEq

/-- A future of `join_all`. -/
structure ShutdownFuture (config : WaveConfig) where
  service : config.Service
  task : SupervisorTask
  phase : JoinPhase
deriving Repr, DecidableEq

/-- Where `stop_all_services` is. -/
inductive StopPoint (config : WaveConfig) where
  | notStarted
  | nextWave (rest : List (ServiceWave config))
  | signalling (wave : ServiceWave config) (todo : List config.Service)
      (rest : List (ServiceWave config))
  /-- the token is cancelled, `ShuttingDown` is not announced yet -/
  | announcing (wave : ServiceWave config) (service : config.Service)
      (todo : List config.Service) (rest : List (ServiceWave config))
  /-- taking the handles of the wave out of `running_tasks` -/
  | collecting (wave : ServiceWave config) (todo : List config.Service)
      (handles : List (config.Service × SupervisorTask))
      (rest : List (ServiceWave config))
  | joining (wave : ServiceWave config)
      (futures : List (ShutdownFuture config))
      (rest : List (ServiceWave config))
  | returned
deriving Repr, DecidableEq

/-- The shared data, the two calls and the log.  Nobody here reads the
cancellation tokens of the services, so they are left to the log. -/
structure WaveState (config : WaveConfig) where
  clock : Instant
  daemonCancelled : Bool
  statusPlane : ServiceId → Option ServiceStatus
  /-- the `notify_waiters` calls on `status_changed` -/
  notifications : Nat
  runningTasks : ServiceId → Option SupervisorTask
  spawnedTasks : Nat
  finishedTasks : List SupervisorTask
  startup : StartupPoint config
  stop : StopPoint config
  log : List (WaveEvent config)

/-- Before the calls. -/
def WaveState.initial (config : WaveConfig) : WaveState config :=
  { clock := 0
    daemonCancelled := false
    statusPlane := fun _ => none
    notifications := 0
    runningTasks := fun _ => none
    spawnedTasks := 0
    finishedTasks := []
    startup := .notStarted
    stop := .notStarted
    log := [] }

/-- The branches of the `select!` in `wait_for_healthy`. -/
inductive WakeBranch where
  | notification
  | sleep
  | cancelled
deriving Repr, DecidableEq

/-- What the future of one handle does next. -/
inductive JoinStep where
  /-- the first poll -/
  | poll
  /-- the handle is ready, in the `select!` or after the abort -/
  | ready
  /-- the sleep of the `select!` is over -/
  | graceElapsed
  | announce
deriving Repr, DecidableEq

/-- What can happen. -/
inductive WaveAction where
  /-- `spawn_all_services` is called -/
  | runStartup
  /-- its next operation, unless it is in the `select!` -/
  | startup
  | wake (branch : WakeBranch)
  /-- `stop_all_services` is called -/
  | runStop
  /-- its next operation, unless it waits for `join_all` -/
  | stop
  | join (index : Nat) (step : JoinStep)
  | finish (task : SupervisorTask)
  | writeStatus (id : ServiceId) (status : ServiceStatus)
  | notifyStatus
  | cancelDaemon
  | tick (elapsed : Duration)
deriving Repr, DecidableEq

/-- The periodic wake-up of `wait_for_healthy`. -/
def statusPollInterval : Duration := 100000000

namespace Wave

variable {config : WaveConfig}

/-- Insert a status into the status plane and notify its waiters. -/
def announce (state : WaveState config) (service : config.Service)
    (status : ServiceStatus) : WaveState config :=
  { state with
    statusPlane :=
      Function.update state.statusPlane (config.id service) (some status)
    notifications := state.notifications + 1 }

/-- `wait_for_healthy` returns and `spawn_all_services` goes on. -/
def endWait (state : WaveState config) (wave : ServiceWave config)
    (rest : List (ServiceWave config)) (reason : WaitEnd) :
    WaveState config :=
  { state with startup := .nextWave rest, log := .waitEnded wave.1 reason :: state.log }

/-- The service wants the high-priority runtime, and there is none. -/
def missingRuntime (config : WaveConfig) (service : config.Service) : Bool :=
  (config.description service).scheduling = .highPriority &&
    !config.highPriorityRuntime

/-- The next operation of `spawn_all_services`. -/
def startup (state : WaveState config) : Option (WaveState config) :=
  match state.startup with
  | .nextWave [] => some { state with startup := .returned }
  | .nextWave (wave :: rest) =>
    if state.daemonCancelled then some { state with startup := .returned }
    else some { state with startup := .spawning wave wave.2 rest }
  | .spawning wave [] rest =>
    some
      { state with
        startup := .waiting wave state.clock rest
        log := .waitBegan wave.1 state.clock :: state.log }
  | .spawning wave (service :: todo) rest =>
    -- The three operations of the failing branch are seen by nobody but this
    -- call and the supervisors, so they make one step.
    if missingRuntime config service then
      some
        { announce state service .terminated with
          daemonCancelled := true
          startup := .returned
          log := .daemonCancelled :: state.log }
    else
      some
        { state with
          spawnedTasks := state.spawnedTasks + 1
          startup := .inserting wave service state.spawnedTasks todo rest
          log := .spawned service :: state.log }
  | .inserting wave service task todo rest =>
    some
      { state with
        runningTasks :=
          Function.update state.runningTasks (config.id service) (some task)
        startup := .spawning wave todo rest
        log := .inserted service task :: state.log }
  | .waiting wave began rest =>
    if state.clock - began < config.waveSpawnTimeout then
      some { state with startup := .tokenCheck wave began rest }
    else some (endWait state wave rest (.timedOut began state.clock))
  | .tokenCheck wave began rest =>
    if state.daemonCancelled then some (endWait state wave rest .shutdown)
    else some { state with startup := .arming wave began rest }
  | .arming wave began rest =>
    some
      { state with startup := .checking wave began state.notifications wave.2 rest }
  | .checking wave _ _ [] rest => some (endWait state wave rest .healthy)
  | .checking wave began seen (service :: todo) rest =>
    if state.statusPlane (config.id service) = some .healthy then
      some
        { state with
          startup := .checking wave began seen todo rest
          log := .sawHealthy service :: state.log }
    else
      some
        { state with startup := .sleeping wave began seen (state.clock + statusPollInterval) rest }
  | .notStarted | .sleeping .. | .returned => none

/-- The `select!` of `wait_for_healthy` ends with a branch. -/
def wake (state : WaveState config) (branch : WakeBranch) :
    Option (WaveState config) :=
  match state.startup with
  | .sleeping wave began seen wakeAt rest =>
    match branch with
    | .notification =>
      if seen ≠ state.notifications then
        some { state with startup := .waiting wave began rest }
      else none
    | .sleep =>
      if wakeAt ≤ state.clock then
        some { state with startup := .waiting wave began rest }
      else none
    | .cancelled =>
      if state.daemonCancelled then
        some (endWait state wave rest .shutdown)
      else none
  | _ => none

/-- A handle that was found joins the handles of the wave. -/
def collect (service : config.Service) (found : Option SupervisorTask)
    (handles : List (config.Service × SupervisorTask)) :
    List (config.Service × SupervisorTask) :=
  match found with
  | some task => handles ++ [(service, task)]
  | none => handles

/-- The future of a handle, before its first poll. -/
def shutdownFuture (handle : config.Service × SupervisorTask) :
    ShutdownFuture config :=
  ⟨handle.1, handle.2, .created⟩

/-- The next operation of `stop_all_services`. -/
def stop (state : WaveState config) : Option (WaveState config) :=
  match state.stop with
  | .nextWave [] =>
    some
      { state with
        daemonCancelled := true
        stop := .returned
        log := .daemonCancelled :: state.log }
  | .nextWave (wave :: rest) =>
    some { state with stop := .signalling wave wave.2 rest }
  | .signalling wave [] rest =>
    some { state with stop := .collecting wave wave.2 [] rest }
  | .signalling wave (service :: todo) rest =>
    some
      { state with
        stop := .announcing wave service todo rest
        log := .signalled service :: state.log }
  | .announcing wave service todo rest =>
    some
      { announce state service .shuttingDown with stop := .signalling wave todo rest }
  | .collecting wave [] handles rest =>
    some
      { state with stop := .joining wave (handles.map shutdownFuture) rest }
  | .collecting wave (service :: todo) handles rest =>
    let found := state.runningTasks (config.id service)
    some
      { state with
        runningTasks :=
          Function.update state.runningTasks (config.id service) none
        stop := .collecting wave todo (collect service found handles) rest
        log := .lookedUp service found :: state.log }
  | .joining _ futures rest =>
    if futures.all (·.phase = .done) then
      some { state with stop := .nextWave rest }
    else none
  | .notStarted | .returned => none

/-- The future at `index` moves to `phase`. -/
def setPhase (state : WaveState config) (wave : ServiceWave config)
    (futures : List (ShutdownFuture config)) (rest : List (ServiceWave config))
    (index : Nat) (future : ShutdownFuture config) (phase : JoinPhase) :
    WaveState config :=
  { state with stop := .joining wave (futures.set index { future with phase := phase }) rest }

/-- One of the futures of `join_all` moves. -/
def join (state : WaveState config) (index : Nat) (step : JoinStep) :
    Option (WaveState config) :=
  match state.stop with
  | .joining wave futures rest =>
    futures[index]?.bind fun future =>
      let goto := setPhase state wave futures rest index future
      match step, future.phase with
      | .poll, .created =>
        some
          { goto (.waiting state.clock) with log := .awaited future.task state.clock :: state.log }
      | .ready, .waiting _ | .ready, .aborted =>
        if future.task ∈ state.finishedTasks then
          some
            { goto .joined with log := .joined future.task :: state.log }
        else none
      | .graceElapsed, .waiting began =>
        if config.gracePeriod ≤ state.clock - began then
          some
            { goto .aborted with log := .aborted future.task state.clock :: state.log }
        else none
      | .announce, .joined =>
        some (announce (goto .done) future.service .terminated)
      | _, _ => none
  | _ => none

def step (state : WaveState config) :
    WaveAction → Option (WaveState config)
  | .runStartup =>
    match state.startup with
    | .notStarted =>
      some
        { state with startup := .nextWave (ServiceWave.fromServices config).reverse }
    | _ => none
  | .startup => startup state
  | .wake branch => wake state branch
  | .runStop =>
    match state.stop with
    | .notStarted =>
      some
        { state with stop := .nextWave (ServiceWave.fromServices config) }
    | _ => none
  | .stop => stop state
  | .join index step => join state index step
  | .finish task =>
    if task < state.spawnedTasks ∧ task ∉ state.finishedTasks then
      some
        { state with
          finishedTasks := task :: state.finishedTasks
          log := .finished task :: state.log }
    else none
  | .writeStatus id status =>
    some
      { state with statusPlane := Function.update state.statusPlane id (some status) }
  | .notifyStatus =>
    some { state with notifications := state.notifications + 1 }
  | .cancelDaemon =>
    some
      { state with daemonCancelled := true, log := .daemonCancelled :: state.log }
  | .tick elapsed => some { state with clock := state.clock + elapsed }

end Wave

/-! ### What an action can do -/

section Moves

variable {config : WaveConfig}

/-- The moves of `spawn_all_services`. -/
inductive StartupMove (s : WaveState config) : WaveState config → Prop where
  | finishes (here : s.startup = .nextWave []) :
      StartupMove s { s with startup := .returned }
  | skipsWaves {wave rest} (here : s.startup = .nextWave (wave :: rest))
      (cancelled : s.daemonCancelled = true) :
      StartupMove s { s with startup := .returned }
  | beginsWave {wave rest} (here : s.startup = .nextWave (wave :: rest)) :
      StartupMove s
        { s with startup := .spawning wave wave.2 rest }
  | beginsWait {wave rest} (here : s.startup = .spawning wave [] rest) :
      StartupMove s
        { s with startup := .waiting wave s.clock rest, log := .waitBegan wave.1 s.clock :: s.log }
  | fails {wave svc todo rest}
      (here : s.startup = .spawning wave (svc :: todo) rest)
      (missing : Wave.missingRuntime config svc = true) :
      StartupMove s
        { Wave.announce s svc .terminated with
          daemonCancelled := true
          startup := .returned
          log := .daemonCancelled :: s.log }
  | spawns {wave svc todo rest}
      (here : s.startup = .spawning wave (svc :: todo) rest) :
      StartupMove s
        { s with
          spawnedTasks := s.spawnedTasks + 1
          startup := .inserting wave svc s.spawnedTasks todo rest
          log := .spawned svc :: s.log }
  | inserts {wave svc task todo rest}
      (here : s.startup = .inserting wave svc task todo rest) :
      StartupMove s
        { s with
          runningTasks :=
            Function.update s.runningTasks (config.id svc) (some task)
          startup := .spawning wave todo rest
          log := .inserted svc task :: s.log }
  | looksAtToken {wave began rest}
      (here : s.startup = .waiting wave began rest) :
      StartupMove s
        { s with startup := .tokenCheck wave began rest }
  | timesOut {wave began rest} (here : s.startup = .waiting wave began rest)
      (elapsed : config.waveSpawnTimeout ≤ s.clock - began) :
      StartupMove s
        (Wave.endWait s wave rest (.timedOut began s.clock))
  | interrupted {wave rest}
      (here : (∃ began, s.startup = .tokenCheck wave began rest) ∨
        ∃ began seen wakeAt, s.startup = .sleeping wave began seen wakeAt rest)
      (cancelled : s.daemonCancelled = true) :
      StartupMove s (Wave.endWait s wave rest .shutdown)
  | arms {wave began rest}
      (here : s.startup = .tokenCheck wave began rest) :
      StartupMove s { s with startup := .arming wave began rest }
  | beginsCheck {wave began rest}
      (here : s.startup = .arming wave began rest) :
      StartupMove s
        { s with startup := .checking wave began s.notifications wave.2 rest }
  | allHealthy {wave began seen rest}
      (here : s.startup = .checking wave began seen [] rest) :
      StartupMove s (Wave.endWait s wave rest .healthy)
  | seesHealthy {wave began seen svc todo rest}
      (here : s.startup = .checking wave began seen (svc :: todo) rest)
      (healthy : s.statusPlane (config.id svc) = some .healthy) :
      StartupMove s
        { s with startup := .checking wave began seen todo rest, log := .sawHealthy svc :: s.log }
  | sleeps {wave began seen todo rest}
      (here : s.startup = .checking wave began seen todo rest) :
      StartupMove s
        { s with startup := .sleeping wave began seen (s.clock + statusPollInterval) rest }
  | wakes {wave began seen wakeAt rest}
      (here : s.startup = .sleeping wave began seen wakeAt rest) :
      StartupMove s { s with startup := .waiting wave began rest }

/-- The moves of `stop_all_services` and of the futures it joins. -/
inductive StopMove (s : WaveState config) : WaveState config → Prop where
  | finishes (here : s.stop = .nextWave []) :
      StopMove s
        { s with daemonCancelled := true, stop := .returned, log := .daemonCancelled :: s.log }
  | beginsWave {wave rest} (here : s.stop = .nextWave (wave :: rest)) :
      StopMove s { s with stop := .signalling wave wave.2 rest }
  | signalledAll {wave rest} (here : s.stop = .signalling wave [] rest) :
      StopMove s { s with stop := .collecting wave wave.2 [] rest }
  | signals {wave svc todo rest}
      (here : s.stop = .signalling wave (svc :: todo) rest) :
      StopMove s
        { s with stop := .announcing wave svc todo rest, log := .signalled svc :: s.log }
  | announces {wave svc todo rest}
      (here : s.stop = .announcing wave svc todo rest) :
      StopMove s
        { Wave.announce s svc .shuttingDown with stop := .signalling wave todo rest }
  | collectedAll {wave handles rest}
      (here : s.stop = .collecting wave [] handles rest) :
      StopMove s
        { s with stop := .joining wave (handles.map Wave.shutdownFuture) rest }
  | collects {wave svc todo handles rest}
      (here : s.stop = .collecting wave (svc :: todo) handles rest) :
      StopMove s
        { s with
          runningTasks :=
            Function.update s.runningTasks (config.id svc) none
          stop :=
            .collecting wave todo
              (Wave.collect svc (s.runningTasks (config.id svc))
                handles)
              rest
          log :=
            .lookedUp svc (s.runningTasks (config.id svc)) ::
              s.log }
  | joinedAll {wave fs rest}
      (here : s.stop = .joining wave fs rest)
      (finished : ∀ future ∈ fs, future.phase = .done) :
      StopMove s { s with stop := .nextWave rest }
  | polls {wave fs rest i future}
      (here : s.stop = .joining wave fs rest)
      (found : fs[i]? = some future)
      (phase : future.phase = .created) :
      StopMove s
        { Wave.setPhase s wave fs rest i future
            (.waiting s.clock) with
          log := .awaited future.task s.clock :: s.log }
  | joins {wave fs rest i future}
      (here : s.stop = .joining wave fs rest)
      (found : fs[i]? = some future)
      (phase : (∃ began, future.phase = .waiting began) ∨ future.phase = .aborted)
      (finished : future.task ∈ s.finishedTasks) :
      StopMove s
        { Wave.setPhase s wave fs rest i future .joined with log := .joined future.task :: s.log }
  | aborts {wave fs rest i future began}
      (here : s.stop = .joining wave fs rest)
      (found : fs[i]? = some future)
      (phase : future.phase = .waiting began)
      (elapsed : config.gracePeriod ≤ s.clock - began) :
      StopMove s
        { Wave.setPhase s wave fs rest i future .aborted with
          log := .aborted future.task s.clock :: s.log }
  | ends {wave fs rest i future}
      (here : s.stop = .joining wave fs rest)
      (found : fs[i]? = some future) (phase : future.phase = .joined) :
      StopMove s
        (Wave.announce (Wave.setPhase s wave fs rest i future .done) future.service .terminated)

/-- The moves of the system. -/
inductive WaveMove (s : WaveState config) :
    WaveAction → WaveState config → Prop where
  | startupCalled (here : s.startup = .notStarted) :
      WaveMove s .runStartup
        { s with startup := .nextWave (ServiceWave.fromServices config).reverse }
  | startup {a : WaveAction} {next : WaveState config}
      (mine : a = .startup ∨ ∃ branch, a = .wake branch)
      (move : StartupMove s next) : WaveMove s a next
  | stopCalled (here : s.stop = .notStarted) :
      WaveMove s .runStop
        { s with stop := .nextWave (ServiceWave.fromServices config) }
  | stop {a : WaveAction} {next : WaveState config}
      (mine : a = .stop ∨ ∃ i step, a = .join i step)
      (move : StopMove s next) : WaveMove s a next
  | taskFinishes {task} (spawned : task < s.spawnedTasks)
      (running : task ∉ s.finishedTasks) :
      WaveMove s (.finish task)
        { s with finishedTasks := task :: s.finishedTasks, log := .finished task :: s.log }
  | statusWritten {id status} :
      WaveMove s (.writeStatus id status)
        { s with statusPlane := Function.update s.statusPlane id (some status) }
  | statusNotified :
      WaveMove s .notifyStatus
        { s with notifications := s.notifications + 1 }
  | daemonCancelled :
      WaveMove s .cancelDaemon
        { s with daemonCancelled := true, log := .daemonCancelled :: s.log }
  | timePasses {elapsed} :
      WaveMove s (.tick elapsed)
        { s with clock := s.clock + elapsed }

variable {s next : WaveState config}

theorem StartupMove.of_startup (h : Wave.startup s = some next) : StartupMove s next := by
  unfold Wave.startup at h
  split at h
  case h_1 here =>
      cases h
      exact .finishes here
  case h_2 here =>
      split_ifs at h with cancelled <;> cases h
      · exact .skipsWaves here cancelled
      · exact .beginsWave here
  case h_3 here =>
      cases h
      exact .beginsWait here
  case h_4 here =>
      split_ifs at h with missing <;> cases h
      · exact .fails here missing
      · exact .spawns here
  case h_5 here =>
      cases h
      exact .inserts here
  case h_6 here =>
      split_ifs at h with within <;> cases h
      · exact .looksAtToken here
      · exact .timesOut here (Nat.not_lt.mp within)
  case h_7 here =>
      split_ifs at h with cancelled <;> cases h
      · exact .interrupted (.inl ⟨_, here⟩) cancelled
      · exact .arms here
  case h_8 here =>
      cases h
      exact .beginsCheck here
  case h_9 here =>
      cases h
      exact .allHealthy here
  case h_10 here =>
      split_ifs at h with healthy <;> cases h
      · exact .seesHealthy here healthy
      · exact .sleeps here
  all_goals cases h

theorem StartupMove.of_wake (h : Wave.wake s branch = some next) : StartupMove s next := by
  unfold Wave.wake at h
  split at h
  case h_1 here =>
      cases branch with
      | notification =>
        simp only [Option.ite_none_right_eq_some] at h
        cases h.2
        exact .wakes here
      | sleep =>
        simp only [Option.ite_none_right_eq_some] at h
        cases h.2
        exact .wakes here
      | cancelled =>
        simp only [Option.ite_none_right_eq_some] at h
        cases h.2
        exact .interrupted (.inr ⟨_, _, _, here⟩) h.1
  case h_2 => cases h

theorem StopMove.of_stop (h : Wave.stop s = some next) : StopMove s next := by
  unfold Wave.stop at h
  split at h
  case h_1 here =>
      cases h
      exact .finishes here
  case h_2 here =>
      cases h
      exact .beginsWave here
  case h_3 here =>
      cases h
      exact .signalledAll here
  case h_4 here =>
      cases h
      exact .signals here
  case h_5 here =>
      cases h
      exact .announces here
  case h_6 here =>
      cases h
      exact .collectedAll here
  case h_7 here =>
      cases h
      exact .collects here
  case h_8 here =>
      split_ifs at h with finished
      cases h
      exact .joinedAll here (by simpa using finished)
  all_goals cases h

theorem StopMove.of_join (h : Wave.join s i step = some next) : StopMove s next := by
  unfold Wave.join at h
  split at h
  case h_1 here =>
      rw [Option.bind_eq_some_iff] at h
      obtain ⟨future, found, h⟩ := h
      dsimp only at h
      split at h
      case h_1 phase =>
          cases h
          exact .polls here found phase
      case h_2 phase =>
          split_ifs at h with finished
          cases h
          exact .joins here found (.inl ⟨_, phase⟩) finished
      case h_3 phase =>
          split_ifs at h with finished
          cases h
          exact .joins here found (.inr phase) finished
      case h_4 phase =>
          split_ifs at h with elapsed
          cases h
          exact .aborts here found phase elapsed
      case h_5 phase =>
          cases h
          exact .ends here found phase
      case h_6 => cases h
  case h_2 => cases h

/-- Every step is one of the moves. -/
theorem WaveMove.of_step (h : Wave.step s a = some next) : WaveMove s a next := by
  cases a with
  | runStartup =>
    simp only [Wave.step] at h
    split at h
    case h_1 here =>
        cases h
        exact .startupCalled here
    case h_2 => cases h
  | startup => exact .startup (.inl rfl) (.of_startup h)
  | wake branch => exact .startup (.inr ⟨branch, rfl⟩) (.of_wake h)
  | runStop =>
    simp only [Wave.step] at h
    split at h
    case h_1 here =>
        cases h
        exact .stopCalled here
    case h_2 => cases h
  | stop => exact .stop (.inl rfl) (.of_stop h)
  | join i step => exact .stop (.inr ⟨i, step, rfl⟩) (.of_join h)
  | finish task =>
    simp only [Wave.step, Option.ite_none_right_eq_some] at h
    cases h.2
    exact .taskFinishes h.1.1 h.1.2
  | writeStatus id status =>
    cases h
    exact .statusWritten
  | notifyStatus =>
    cases h
    exact .statusNotified
  | cancelDaemon =>
    cases h
    exact .daemonCancelled
  | tick elapsed =>
    cases h
    exact .timePasses

end Moves

end ServiceDaemon
