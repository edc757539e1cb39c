/-
Purpose: The supervisor of one service: the state machine of `run_loop` with the
  writes of each handler, the generation future it drives, and the signals that
  arrive from outside.
Main exports: SupervisorConfig, SupervisorState, SupervisorPoint
-/
import ServiceDaemon.Core.GenerationOutcome
import ServiceDaemon.Lib.StepSystem

namespace ServiceDaemon

/-!
The supervisor is one task.  It decides at control points, where it reads the
tokens, the clock or the status plane, and between two of them it performs
writes that other tasks can see: lifecycle counters, runtime facts, the status
plane.  Each write is a step of its own, so anything can happen between two of
them.

The service token, the daemon token, the clock, the providers and the reload
signal belong to the environment, and so do the other writers of the status
plane and of the runtime facts.  The generation future advances by itself; the
supervisor takes its result when it is ready.

[SRC runner/supervisor.rs]
[SRC core/runtime_facts.rs, core/diagnostics.rs]
-/

/-! ### State -/

/-- What is fixed for a service. -/
structure SupervisorConfig where
  name : String
  scheduling : ServiceScheduling
  /-- the high-priority runtime exists -/
  highPriority : Bool
  /-- there is a watcher and its watch set is not empty -/
  watched : Bool
  policy : RestartPolicy
deriving DecidableEq

/-- An exit as it was recorded: the result, whether it was produced before the
service token was cancelled, and what the supervisor made of it.  There is no
classification on the shutdown path. -/
structure GenerationExit where
  origin : GenerationOrigin
  early : Bool
  kind : GenerationExitKind
  record : Option GenerationExitRecord
deriving Repr, DecidableEq

/-- A registered generation: its number, its lifecycle counters, and as history
the exits it recorded and the two restart counters it started with. -/
structure GenerationRecord where
  generation : Nat
  lifecycle : LifecycleStats
  exits : List GenerationExit
  attemptCount : Nat
  windowFailures : Nat
deriving Repr, DecidableEq

inductive WaitEnding where
  | elapsed
  | reload
  | shutdown
deriving Repr, DecidableEq

/-- A backoff wait that has ended: whether a watched provider changed during
it, how it ended, and the restart counters it left. -/
structure BackoffWait where
  changed : Bool
  ending : WaitEnding
  attemptCount : Nat
  windowFailures : Nat
deriving Repr, DecidableEq

/-- A write that other tasks can see. -/
inductive SupervisorWrite where
  | recordReloadRequested
  | cancelReloadToken
  | recordExit (exit : GenerationExit)
  | recordRestart (decision : RestartDecision)
      (policyDelay effectiveDelay : Duration) (rateLimited : Bool)
  | recordTerminated
  | insertStatus (status : ServiceStatus)
  | recordServiceStarted (generation : Nat) (status : ServiceStatus)
  | recordServiceStatus (status : ServiceStatus)
  | recordServiceRestart (backoff : Option Duration)
  | notifyStatusChanged
  | cancelDaemonToken
deriving Repr, DecidableEq

/-- Where the supervisor is in its loop. -/
inductive SupervisorPoint where
  | starting
  /-- past the token check of `on_starting` -/
  | prepare
  | enterRunning
  /-- in the `select!` of `on_running`, with the watch set it took -/
  | running (future : GenerationFuture) (watchSet : Option Nat)
  /-- after a reload request, in `generation_future.await` -/
  | reloading (future : GenerationFuture)
  | outcome (origin : GenerationOrigin) (early : Bool)
  /-- past the token check of `on_outcome` -/
  | classify (origin : GenerationOrigin) (early : Bool)
  | resetBackoff (decision : RestartDecision)
  | restart (decision : RestartDecision)
  | restartNow
  | beginWait (delay : Duration)
  /-- in the `select!` of `wait_for_restart` -/
  | waiting (deadline : Instant) (changed : Bool)
  | terminated
deriving Repr, DecidableEq

/-- A change of a watched provider, as history of a backoff wait. -/
def SupervisorPoint.noteChange : SupervisorPoint → SupervisorPoint
  | .waiting deadline _ => .waiting deadline true
  | point => point

namespace SupervisorPoint

universe u

theorem noteChange_congr {Reading : Sort u} (read : SupervisorPoint → Reading)
    (blind : ∀ deadline changed, read (.waiting deadline true) = read (.waiting deadline changed))
    (point : SupervisorPoint) : read point.noteChange = read point := by
  cases point with
  | waiting deadline changed => exact blind deadline changed
  | _ => rfl

theorem of_noteChange {point other : SupervisorPoint} (here : point.noteChange = other)
    (awake : ∀ deadline changed, other ≠ .waiting deadline changed) : point = other := by
  cases point with
  | waiting deadline changed => exact absurd here.symm (awake deadline true)
  | _ => exact here

end SupervisorPoint

/-- The supervisor with the shared state it works on.

`watchSet` and `dependencyVersion` count the changes of the providers that the
watcher covers.  `reloadSignal` is the entry of the service in `reload_signals`
and whether it holds a permit.  `current` is the diagnostics handle of the
generation.  The last three fields are history: the generations before it, the
last status the supervisor itself wrote to the status plane, and the backoff
waits. -/
structure SupervisorState where
  point : SupervisorPoint
  pending : List SupervisorWrite
  now : Instant
  cancelled : Bool
  daemonCancelled : Bool
  statusPlane : Option ServiceStatus
  statusChanges : Nat
  runtimeFacts : ServiceRuntimeState
  dependencyVersion : Nat
  reloadSignal : Option Bool
  generation : Nat
  bodyLane : Option BodyExecutionLane
  backoff : BackoffController
  restartStorm : RestartStormGuard
  generationStart : Option Instant
  reloadToken : Option Bool
  watchSet : Option Nat
  current : Option GenerationRecord
  past : List GenerationRecord
  planeWritten : Option ServiceStatus
  waits : List BackoffWait
deriving DecidableEq

/-- What can happen: a pending write, a decision of the supervisor, a branch of
one of its two `select!`s, an event of the generation, or the environment. -/
inductive SupervisorAction where
  | perform
  | advance
  | generation (event : GenerationEvent)
  | takeResult
  | takeDependency
  | takeReload
  /-- `next` is the delay that `next_delay` draws -/
  | sleepElapsed (next : Duration)
  | reloadDuringDelay
  | shutdownDuringDelay
  | tick (elapsed : Duration)
  | cancel
  | cancelDaemon
  | triggerReload
  | dependencyChange
  | writeStatus (status : ServiceStatus)
  | recordStatus (status : ServiceStatus)
deriving Repr, DecidableEq

namespace SupervisorState

/-- `ServiceSupervisor::new`, at a start of `run_loop`. -/
def new (config : SupervisorConfig) (now : Instant)
    (statusPlane : Option ServiceStatus) : SupervisorState :=
  { point := .starting
    pending := []
    now := now
    cancelled := false
    daemonCancelled := false
    statusPlane := statusPlane
    statusChanges := 0
    runtimeFacts := .default
    dependencyVersion := 0
    reloadSignal := none
    generation := 0
    bodyLane := none
    backoff := .new config.policy
    restartStorm := .default
    generationStart := none
    reloadToken := none
    watchSet := none
    current := none
    past := []
    planeWritten := none
    waits := [] }

/-- Every generation so far, in the order of their starts. -/
def generations (state : SupervisorState) : List GenerationRecord :=
  state.past ++ state.current.toList

/-- `run_loop` has returned. -/
def finished (state : SupervisorState) : Prop :=
  state.pending = [] ∧ state.point = .terminated

instance (s : SupervisorState) : Decidable s.finished :=
  inferInstanceAs (Decidable (_ ∧ _))

end SupervisorState

/-! ### Writes -/

/-- A write to the lifecycle counters of a generation. -/
def GenerationRecord.perform (record : GenerationRecord) :
    SupervisorWrite → GenerationRecord
  | .recordReloadRequested =>
    { record with lifecycle := record.lifecycle.recordReloadRequested }
  | .recordExit exit =>
    { record with
      lifecycle := record.lifecycle.recordExit exit.kind
      exits := record.exits ++ [exit] }
  | .recordRestart decision policyDelay effectiveDelay rateLimited =>
    { record with
      lifecycle :=
        record.lifecycle.recordRestart decision.diagnosticsKind policyDelay
          effectiveDelay rateLimited }
  | .recordTerminated =>
    { record with lifecycle := record.lifecycle.recordTerminated }
  | _ => record

namespace SupervisorState

/-- Perform one write.  The counters are written only if there is a handle. -/
def perform (state : SupervisorState) (write : SupervisorWrite) :
    SupervisorState :=
  let state :=
    { state with current := state.current.map fun record => record.perform write }
  match write with
  | .recordReloadRequested | .recordExit _ | .recordRestart .. |
    .recordTerminated => state
  | .cancelReloadToken =>
    { state with reloadToken := state.reloadToken.map fun _ => true }
  | .insertStatus status =>
    { state with statusPlane := some status, planeWritten := some status }
  | .recordServiceStarted generation status =>
    { state with
      runtimeFacts :=
        state.runtimeFacts.recordServiceStarted state.now generation status }
  | .recordServiceStatus status =>
    { state with runtimeFacts := state.runtimeFacts.recordStatusFacts state.now status }
  | .recordServiceRestart backoff =>
    { state with runtimeFacts := state.runtimeFacts.recordServiceRestart backoff }
  | .notifyStatusChanged =>
    { state with statusChanges := state.statusChanges + 1 }
  | .cancelDaemonToken => { state with daemonCancelled := true }

end SupervisorState

/-- A status written to the plane, to the facts, and announced. -/
def announceStatus (status : ServiceStatus) : List SupervisorWrite :=
  [.insertStatus status, .recordServiceStatus status, .notifyStatusChanged]

/-- The writes of `terminate`. -/
def terminateWrites : List SupervisorWrite :=
  .recordTerminated :: announceStatus .terminated

/-- The writes of `on_outcome` after the classification.  The daemon token is
cancelled in `handle_outcome` and again by its caller. -/
def outcomeWrites (origin : GenerationOrigin) (early : Bool)
    (record : GenerationExitRecord) : List SupervisorWrite :=
  let exit : SupervisorWrite :=
    .recordExit
      { origin := origin, early := early, kind := record.exitKind, record := some record }
  let recorded :=
    if record.shouldShutdownDaemon then
      [.cancelDaemonToken, exit, .cancelDaemonToken]
    else [exit]
  recorded ++ if record.shouldRestart then announceStatus record.nextStatus
    else .recordServiceStatus record.nextStatus :: terminateWrites

/-! ### Decisions -/

namespace SupervisorState

def determineStartStatus (state : SupervisorState) : ServiceStatus :=
  match state.statusPlane.getD .initializing with
  | .initializing => .initializing
  | .recovering message => .recovering message
  | _ => .restoring

/-- `on_starting` past the token check: the next generation. -/
def prepare (config : SupervisorConfig) (state : SupervisorState) :
    SupervisorState :=
  let status := state.determineStartStatus
  let generation := saturatingSucc state.generation
  let bodyLane := config.scheduling.bodyLane config.highPriority
  { state with
    generation := generation
    past := state.generations
    current :=
      some
        { generation := generation
          lifecycle := .new
          exits := []
          attemptCount := state.backoff.attemptCount
          windowFailures := state.restartStorm.failures.length }
    bodyLane := bodyLane
    generationStart := some state.now
    reloadToken := some false
    watchSet := if config.watched then some state.dependencyVersion else none
    pending :=
      [.recordServiceStarted generation status, .insertStatus status,
        .notifyStatusChanged]
    point :=
      if bodyLane.isNone then .outcome .laneMissing false else .enterRunning }

/-- `on_running` up to its `select!`. -/
def enterRunning (state : SupervisorState) : SupervisorState :=
  let state := { state with reloadSignal := some (state.reloadSignal.getD false) }
  if state.reloadToken.isNone then
    { state with point := .outcome (.runningWithout "a reload token") false }
  else if state.current.isNone then
    { state with point := .outcome (.runningWithout "diagnostics") false }
  else
    match state.bodyLane with
    | none =>
      { state with point := .outcome (.runningWithout "a resolved body lane") false }
    | some lane =>
      { state with watchSet := none, point := .running (.start lane) state.watchSet }

/-- A branch of the `select!` other than the future: ask for a reload. -/
def requestReload (state : SupervisorState) (future : GenerationFuture) :
    SupervisorState :=
  { state with pending := [.recordReloadRequested, .cancelReloadToken], point := .reloading future }

/-- `terminate`, after the writes in `before`. -/
def terminate (state : SupervisorState) (before : List SupervisorWrite) :
    SupervisorState :=
  { state with pending := before ++ terminateWrites, point := .terminated }

/-- `on_outcome` up to the call of `handle_outcome`. -/
def checkOutcome (config : SupervisorConfig) (state : SupervisorState)
    (origin : GenerationOrigin) (early : Bool) : SupervisorState :=
  if state.cancelled then
    state.terminate
      [.recordExit { origin := origin, early := early, kind := .shutdown, record := none }]
  else if state.reloadToken.isNone then
    { state with
      pending :=
        announceStatus <|
          .recovering <|
            "service '" ++ config.name ++
              "' entered Outcome without a reload token"
      point := .restart (.withBackoff .internalSupervisorError) }
  else { state with point := .classify origin early }

/-- `handle_outcome` and what follows it. -/
def classify (config : SupervisorConfig) (state : SupervisorState)
    (origin : GenerationOrigin) (early : Bool) : SupervisorState :=
  let record :=
    handleOutcome
      { reloadRequested := state.reloadToken.getD false, shutdownRequested := state.cancelled }
      (origin.outcome config.name)
  { state with
    pending := outcomeWrites origin early record
    point :=
      if record.shouldRestart then .resetBackoff record.restartDecision
      else .terminated }

/-- The resets at the end of `on_outcome`. -/
def resetBackoff (state : SupervisorState) (decision : RestartDecision) :
    SupervisorState :=
  match decision, state.generationStart with
  | .withBackoff _, some start =>
    { state with
      backoff := state.backoff.maybeReset (state.now - start)
      restartStorm :=
        state.restartStorm.maybeReset (state.now - start)
          state.backoff.policy.resetAfter
      point := .restart decision }
  | _, _ => { state with point := .restart decision }

/-- `wait_for_restart` up to its `select!`. -/
def restart (state : SupervisorState) (decision : RestartDecision) :
    SupervisorState :=
  match decision with
  | .immediate =>
    { state with
      pending := [.recordRestart .immediate 0 0 false, .recordServiceRestart none]
      point := .restartNow }
  | .withBackoff _ =>
    let (storm, limited) :=
      state.restartStorm.recordFailure state.now state.backoff.currentDelay
    { state with
      reloadSignal := some (state.reloadSignal.getD false)
      restartStorm := storm
      pending :=
        [.recordServiceRestart (some limited.effectiveDelay),
          .recordRestart decision limited.policyDelay limited.effectiveDelay
            limited.rateLimited]
      point := .beginWait limited.effectiveDelay }

/-- `record_success` and the reset of the storm guard. -/
def clearBackoff (state : SupervisorState) : SupervisorState :=
  { state with backoff := state.backoff.recordSuccess, restartStorm := state.restartStorm.reset }

/-- The end of a backoff wait, as history. -/
def noteWait (state : SupervisorState) (changed : Bool) (ending : WaitEnding) :
    SupervisorState :=
  { state with
    waits :=
      state.waits ++
        [{ changed := changed
           ending := ending
           attemptCount := state.backoff.attemptCount
           windowFailures := state.restartStorm.failures.length }] }

/-- The decision at a control point, when no write is pending. -/
def advance (config : SupervisorConfig) (state : SupervisorState) :
    Option SupervisorState :=
  match state.point with
  | .starting =>
    if state.cancelled then some (state.terminate [])
    else some { state with point := .prepare }
  | .prepare => some (state.prepare config)
  | .enterRunning => some state.enterRunning
  | .outcome origin early => some (state.checkOutcome config origin early)
  | .classify origin early => some (state.classify config origin early)
  | .resetBackoff decision => some (state.resetBackoff decision)
  | .restart decision => some (state.restart decision)
  | .restartNow => some { state.clearBackoff with point := .starting }
  | .beginWait delay =>
    some { state with point := .waiting (state.now + delay) false }
  | .running .. | .reloading _ | .waiting .. | .terminated => none

end SupervisorState

/-! ### Steps -/

namespace Supervisor

open SupervisorState

def step (config : SupervisorConfig) (state : SupervisorState) :
    SupervisorAction → Option SupervisorState
  | .perform =>
    match state.pending with
    | [] => none
    | write :: writes => some { state.perform write with pending := writes }
  | .advance =>
    match state.pending with
    | [] => state.advance config
    | _ :: _ => none
  | .generation event =>
    match state.point with
    | .running future watchSet =>
      (future.step state.cancelled (state.reloadToken == some true) event).map
        fun next => { state with point := .running next watchSet }
    | .reloading future =>
      (future.step state.cancelled (state.reloadToken == some true) event).map
        fun next => { state with point := .reloading next }
    | _ => none
  | .takeResult =>
    match state.pending, state.point with
    | [], .running (.ready origin early) _
    | [], .reloading (.ready origin early) =>
      some { state with point := .outcome origin early }
    | _, _ => none
  | .takeDependency =>
    match state.pending, state.point with
    | [], .running future (some version) =>
      if version < state.dependencyVersion then
        some (state.requestReload future)
      else none
    | _, _ => none
  | .takeReload =>
    match state.pending, state.point, state.reloadSignal with
    | [], .running future _, some true =>
      some { state.requestReload future with reloadSignal := some false }
    | _, _, _ => none
  | .sleepElapsed next =>
    match state.pending, state.point with
    | [], .waiting deadline changed =>
      if deadline ≤ state.now then
        let failed :=
          { state with backoff := state.backoff.recordFailure next, point := .starting }
        some (failed.noteWait changed .elapsed)
      else none
    | _, _ => none
  | .reloadDuringDelay =>
    match state.pending, state.point, state.reloadSignal with
    | [], .waiting _ changed, some true =>
      let cleared :=
        { state.clearBackoff with reloadSignal := some false, point := .starting }
      some (cleared.noteWait changed .reload)
    | _, _, _ => none
  -- This branch returns without the counter of `terminate`.
  | .shutdownDuringDelay =>
    match state.pending, state.point with
    | [], .waiting _ changed =>
      if state.cancelled then
        let stopped :=
          { state with pending := announceStatus .terminated, point := .terminated }
        some (stopped.noteWait changed .shutdown)
      else none
    | _, _ => none
  | .tick elapsed => some { state with now := state.now + elapsed }
  | .cancel => some { state with cancelled := true }
  | .cancelDaemon => some { state with daemonCancelled := true }
  -- `trigger_reload` looks the entry up and does not create it.
  | .triggerReload =>
    some { state with reloadSignal := state.reloadSignal.map fun _ => true }
  | .dependencyChange =>
    if config.watched then
      some
        { state with
          dependencyVersion := state.dependencyVersion + 1
          point := state.point.noteChange }
    else none
  | .writeStatus status => some { state with statusPlane := some status }
  | .recordStatus status =>
    some
      { state with runtimeFacts := state.runtimeFacts.recordStatusFacts state.now status }

end Supervisor

/-! ### What a write leaves alone -/

namespace SupervisorState

variable (s : SupervisorState)

@[simp] theorem perform_point (write : SupervisorWrite) :
    (s.perform write).point = s.point := by
  cases write <;> rfl

@[simp] theorem perform_waits (write : SupervisorWrite) :
    (s.perform write).waits = s.waits := by
  cases write <;> rfl

@[simp] theorem perform_past (write : SupervisorWrite) :
    (s.perform write).past = s.past := by
  cases write <;> rfl

@[simp] theorem perform_current (write : SupervisorWrite) :
    (s.perform write).current = s.current.map fun record => record.perform write := by
  cases write <;> rfl

@[simp] theorem perform_backoff (write : SupervisorWrite) :
    (s.perform write).backoff = s.backoff := by
  cases write <;> rfl

@[simp] theorem perform_restartStorm (write : SupervisorWrite) :
    (s.perform write).restartStorm = s.restartStorm := by
  cases write <;> rfl

@[simp] theorem perform_now (write : SupervisorWrite) :
    (s.perform write).now = s.now := by
  cases write <;> rfl

@[simp] theorem perform_cancelled (write : SupervisorWrite) :
    (s.perform write).cancelled = s.cancelled := by
  cases write <;> rfl

@[simp] theorem perform_generationStart (write : SupervisorWrite) :
    (s.perform write).generationStart = s.generationStart := by
  cases write <;> rfl

@[simp] theorem perform_bodyLane (write : SupervisorWrite) :
    (s.perform write).bodyLane = s.bodyLane := by
  cases write <;> rfl

@[simp] theorem perform_reloadToken_eq_none (write : SupervisorWrite) :
    (s.perform write).reloadToken = none ↔ s.reloadToken = none := by
  cases write <;> simp [perform]

end SupervisorState

/-! ### What a step can do -/

/-- The moves of the supervisor system. -/
inductive SupervisorMove (cfg : SupervisorConfig) (s : SupervisorState) :
    SupervisorAction → SupervisorState → Prop where
  | performs {write writes} (next : s.pending = write :: writes) :
      SupervisorMove cfg s .perform
        { s.perform write with pending := writes }
  -- decisions
  | stops (idle : s.pending = []) (here : s.point = .starting)
      (cancelled : s.cancelled = true) :
      SupervisorMove cfg s .advance (s.terminate [])
  | starts (idle : s.pending = []) (here : s.point = .starting)
      (uncancelled : s.cancelled = false) :
      SupervisorMove cfg s .advance { s with point := .prepare }
  | prepares (idle : s.pending = []) (here : s.point = .prepare) :
      SupervisorMove cfg s .advance (s.prepare cfg)
  | entersWithout {missing} (idle : s.pending = [])
      (here : s.point = .enterRunning)
      (absent : s.reloadToken = none ∨ s.current = none ∨ s.bodyLane = none) :
      SupervisorMove cfg s .advance
        { s with
          reloadSignal := some (s.reloadSignal.getD false)
          point := .outcome (.runningWithout missing) false }
  | enters {lane} (idle : s.pending = [])
      (here : s.point = .enterRunning)
      (resolved : s.bodyLane = some lane) :
      SupervisorMove cfg s .advance
        { s with
          reloadSignal := some (s.reloadSignal.getD false)
          watchSet := none
          point := .running (.start lane) s.watchSet }
  | checksCancelled {origin early} (idle : s.pending = [])
      (here : s.point = .outcome origin early)
      (cancelled : s.cancelled = true) :
      SupervisorMove cfg s .advance
        (s.terminate [.recordExit
            { origin := origin, early := early, kind := .shutdown, record := none }])
  | checksWithout {origin early msg} (idle : s.pending = [])
      (here : s.point = .outcome origin early)
      (absent : s.reloadToken = none)
      (uncancelled : s.cancelled = false) :
      SupervisorMove cfg s .advance
        { s with
          pending := announceStatus (.recovering msg)
          point := .restart (.withBackoff .internalSupervisorError) }
  | checks {origin early} (idle : s.pending = [])
      (here : s.point = .outcome origin early)
      (uncancelled : s.cancelled = false) :
      SupervisorMove cfg s .advance
        { s with point := .classify origin early }
  | classifies {origin early} (idle : s.pending = [])
      (here : s.point = .classify origin early) :
      SupervisorMove cfg s .advance (s.classify cfg origin early)
  | resets {kind start} (idle : s.pending = [])
      (here : s.point = .resetBackoff (.withBackoff kind))
      (started : s.generationStart = some start) :
      SupervisorMove cfg s .advance
        { s with
          backoff := s.backoff.maybeReset (s.now - start)
          restartStorm :=
            s.restartStorm.maybeReset (s.now - start)
              s.backoff.policy.resetAfter
          point := .restart (.withBackoff kind) }
  | skipsReset {decision} (idle : s.pending = [])
      (here : s.point = .resetBackoff decision) :
      SupervisorMove cfg s .advance
        { s with point := .restart decision }
  | decides (idle : s.pending = [])
      (here : s.point = .restart .immediate) :
      SupervisorMove cfg s .advance (s.restart .immediate)
  | delays {kind} (idle : s.pending = [])
      (here : s.point = .restart (.withBackoff kind)) :
      SupervisorMove cfg s .advance (s.restart (.withBackoff kind))
  | restartsNow (idle : s.pending = []) (here : s.point = .restartNow) :
      SupervisorMove cfg s .advance
        { s.clearBackoff with point := .starting }
  | waits {delay} (idle : s.pending = [])
      (here : s.point = .beginWait delay) :
      SupervisorMove cfg s .advance
        { s with point := .waiting (s.now + delay) false }
  -- the generation
  | runs {event future next watchSet}
      (here : s.point = .running future watchSet)
      (stepped : future.step s.cancelled (s.reloadToken == some true) event = some next) :
      SupervisorMove cfg s (.generation event)
        { s with point := .running next watchSet }
  | runsReloading {event future next} (here : s.point = .reloading future)
      (stepped : future.step s.cancelled (s.reloadToken == some true) event = some next) :
      SupervisorMove cfg s (.generation event)
        { s with point := .reloading next }
  -- the select of the running service
  | takesResult {origin early watchSet} (idle : s.pending = [])
      (here : s.point = .running (.ready origin early) watchSet) :
      SupervisorMove cfg s .takeResult
        { s with point := .outcome origin early }
  | takesReloadResult {origin early} (idle : s.pending = [])
      (here : s.point = .reloading (.ready origin early)) :
      SupervisorMove cfg s .takeResult
        { s with point := .outcome origin early }
  | takesDependency {future version} (idle : s.pending = [])
      (here : s.point = .running future (some version))
      (behind : version < s.dependencyVersion) :
      SupervisorMove cfg s .takeDependency (s.requestReload future)
  | takesReload {future watchSet} (idle : s.pending = [])
      (here : s.point = .running future watchSet)
      (signalled : s.reloadSignal = some true) :
      SupervisorMove cfg s .takeReload
        { s.requestReload future with reloadSignal := some false }
  -- the select of the backoff wait
  | elapses {next deadline changed} (idle : s.pending = [])
      (here : s.point = .waiting deadline changed)
      (reached : deadline ≤ s.now) :
      SupervisorMove cfg s (.sleepElapsed next)
        (SupervisorState.noteWait
          { s with backoff := s.backoff.recordFailure next, point := .starting }
          changed .elapsed)
  | reloadsWait {deadline changed} (idle : s.pending = [])
      (here : s.point = .waiting deadline changed)
      (signalled : s.reloadSignal = some true) :
      SupervisorMove cfg s .reloadDuringDelay
        (SupervisorState.noteWait
          { s.clearBackoff with reloadSignal := some false, point := .starting }
          changed .reload)
  | stopsWait {deadline changed} (idle : s.pending = [])
      (here : s.point = .waiting deadline changed)
      (cancelled : s.cancelled = true) :
      SupervisorMove cfg s .shutdownDuringDelay
        (SupervisorState.noteWait
          { s with pending := announceStatus .terminated, point := .terminated }
          changed .shutdown)
  -- the environment
  | ticks {elapsed} :
      SupervisorMove cfg s (.tick elapsed)
        { s with now := s.now + elapsed }
  | cancels :
      SupervisorMove cfg s .cancel { s with cancelled := true }
  | cancelsDaemon :
      SupervisorMove cfg s .cancelDaemon
        { s with daemonCancelled := true }
  | triggersReload :
      SupervisorMove cfg s .triggerReload
        { s with reloadSignal := s.reloadSignal.map fun _ => true }
  | changes (watched : cfg.watched = true) :
      SupervisorMove cfg s .dependencyChange
        { s with dependencyVersion := s.dependencyVersion + 1, point := s.point.noteChange }
  | writesStatus {status} :
      SupervisorMove cfg s (.writeStatus status)
        { s with statusPlane := some status }
  | recordsStatus {status} :
      SupervisorMove cfg s (.recordStatus status)
        { s with runtimeFacts := s.runtimeFacts.recordStatusFacts s.now status }

theorem SupervisorMove.of_enterRunning (idle : s.pending = []) (here : s.point = .enterRunning) :
    SupervisorMove cfg s .advance s.enterRunning := by
  simp only [SupervisorState.enterRunning]
  split
  · rename_i absent
    exact .entersWithout idle here (.inl (Option.isNone_iff_eq_none.mp absent))
  · split
    · rename_i absent
      exact .entersWithout idle here (.inr (.inl (Option.isNone_iff_eq_none.mp absent)))
    · split
      · rename_i absent
        exact .entersWithout idle here (.inr (.inr absent))
      · rename_i resolved
        exact .enters idle here resolved

theorem SupervisorMove.of_checkOutcome
    (idle : s.pending = []) (here : s.point = .outcome origin early) :
    SupervisorMove cfg s .advance
      (s.checkOutcome cfg origin early) := by
  unfold SupervisorState.checkOutcome
  split
  · rename_i cancelled
    exact .checksCancelled idle here cancelled
  · rename_i uncancelled
    split
    · rename_i absent
      exact .checksWithout idle here (Option.isNone_iff_eq_none.mp absent)
        (Bool.eq_false_iff.mpr uncancelled)
    · exact .checks idle here (Bool.eq_false_iff.mpr uncancelled)

theorem SupervisorMove.of_resetBackoff
    (idle : s.pending = []) (here : s.point = .resetBackoff decision) :
    SupervisorMove cfg s .advance (s.resetBackoff decision) := by
  unfold SupervisorState.resetBackoff
  split
  · rename_i started
    exact .resets idle here started
  · exact .skipsReset idle here

theorem SupervisorMove.of_advance (idle : s.pending = []) (advanced : s.advance cfg = some next) :
    SupervisorMove cfg s .advance next := by
  simp only [SupervisorState.advance] at advanced
  split at advanced <;> rename_i here
  · split at advanced <;> rename_i cancelled <;> cases advanced
    · exact .stops idle here cancelled
    · exact .starts idle here (Bool.eq_false_iff.mpr cancelled)
  all_goals cases advanced
  · exact .prepares idle here
  · exact .of_enterRunning idle here
  · exact .of_checkOutcome idle here
  · exact .classifies idle here
  · exact .of_resetBackoff idle here
  · rename_i decision
    cases decision with
    | immediate => exact .decides idle here
    | withBackoff kind => exact .delays idle here
  · exact .restartsNow idle here
  · exact .waits idle here

theorem SupervisorMove.of_step (h : Supervisor.step cfg s action = some next) :
    SupervisorMove cfg s action next := by
  cases action with
  | perform =>
    simp only [Supervisor.step] at h
    split at h <;> cases h
    rename_i pending
    exact .performs pending
  | advance =>
    simp only [Supervisor.step] at h
    split at h
    · rename_i idle
      exact .of_advance idle h
    · cases h
  | generation event =>
    simp only [Supervisor.step] at h
    split at h
    · rename_i here
      obtain ⟨future, advanced, rfl⟩ := Option.map_eq_some_iff.mp h
      exact .runs here advanced
    · rename_i here
      obtain ⟨future, advanced, rfl⟩ := Option.map_eq_some_iff.mp h
      exact .runsReloading here advanced
    · cases h
  | takeResult =>
    simp only [Supervisor.step] at h
    split at h <;> cases h
    · rename_i idle here
      exact .takesResult idle here
    · rename_i idle here
      exact .takesReloadResult idle here
  | takeDependency =>
    simp only [Supervisor.step] at h
    split at h
    · rename_i idle here
      split at h <;> cases h
      exact .takesDependency idle here ‹_›
    · cases h
  | takeReload =>
    simp only [Supervisor.step] at h
    split at h <;> cases h
    rename_i idle here signalled
    exact .takesReload idle here signalled
  | sleepElapsed delay =>
    simp only [Supervisor.step] at h
    split at h
    · rename_i idle here
      split at h <;> cases h
      exact .elapses idle here ‹_›
    · cases h
  | reloadDuringDelay =>
    simp only [Supervisor.step] at h
    split at h <;> cases h
    rename_i idle here signalled
    exact .reloadsWait idle here signalled
  | shutdownDuringDelay =>
    simp only [Supervisor.step] at h
    split at h
    · rename_i idle here
      split at h <;> cases h
      exact .stopsWait idle here ‹_›
    · cases h
  | dependencyChange =>
    simp only [Supervisor.step] at h
    split at h <;> cases h
    rename_i watched
    exact .changes watched
  | tick elapsed =>
    cases h
    exact .ticks
  | cancel =>
    cases h
    exact .cancels
  | cancelDaemon =>
    cases h
    exact .cancelsDaemon
  | triggerReload =>
    cases h
    exact .triggersReload
  | writeStatus status =>
    cases h
    exact .writesStatus
  | recordStatus status =>
    cases h
    exact .recordsStatus

end ServiceDaemon
