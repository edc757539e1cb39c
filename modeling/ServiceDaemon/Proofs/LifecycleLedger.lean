/-
Purpose: The ledger of a supervisor: what the lifecycle counters, the runtime
  facts and the status plane hold at each control point, and that every run
  keeps it.
Main exports: LifecycleView, Tallied, OnTheWay
-/
import ServiceDaemon.Core.Supervisor
import ServiceDaemon.Lib.PendingWrites

namespace ServiceDaemon

open StepSystem AsyncLib.PendingWrites GenerationRecord Settles

/-!
The facts of one generation are written by four handlers.  What the counters
hold is stated at the control points of the supervisor, over the part of its
state that they depend on; the writes in between are carried by the rule of
pending writes.

[SRC runner/supervisor.rs]
[SRC core/runtime_facts.rs, core/diagnostics.rs]
-/

/-! ### The counters of one generation -/

/-- The exit is followed by this restart decision. -/
def GenerationExit.Restarts (exit : GenerationExit) (decision : RestartDecision) :
    Prop :=
  exit.kind.isFinal = false ∧
    ∃ record, exit.record = some record ∧ record.restartDecision = decision

/-- The records of a generation with this exit, this restart decision, and so
many terminations. -/
structure Tallied (record : GenerationRecord) (exit : Option GenerationExit)
    (decision : Option RestartDecision) (terminations : UInt64) : Prop where
  history : record.exits = exit.toList
  exits : ∀ kind, record.lifecycle.exitCount kind =
    if exit.map GenerationExit.kind = some kind then 1 else 0
  last : record.lifecycle.lastExitKind = exit.map GenerationExit.kind
  restarts : record.lifecycle.restart = if decision.isSome then 1 else 0
  decided : record.lifecycle.lastRestartDecision = decision.map RestartDecision.diagnosticsKind
  terminations : record.lifecycle.terminated = terminations
  reloads : exit.map GenerationExit.kind = some .reload → record.lifecycle.reloadRequested = 1
  justified : ∀ choice, decision = some choice → ∃ made, exit = some made ∧ made.Restarts choice

namespace Tallied

variable {record : GenerationRecord} {exit : Option GenerationExit}
  {decision : Option RestartDecision} {terminations : UInt64}

theorem new (gen attemptCount windowFailures : Nat) :
    Tallied ⟨gen, .new, [], attemptCount, windowFailures⟩ none none 0 where
  history := rfl
  exits kind := by cases kind <;> rfl
  last := rfl
  restarts := rfl
  decided := rfl
  terminations := rfl
  reloads reload := by cases reload
  justified choice decided := by cases decided

theorem recordReloadRequested (counted : Tallied record none decision terminations) :
    Tallied (record.perform .recordReloadRequested) none decision
      terminations where
  history := counted.history
  exits kind := by
    rw [← counted.exits kind]
    cases kind <;> rfl
  last := counted.last
  restarts := counted.restarts
  decided := counted.decided
  terminations := counted.terminations
  reloads reload := by cases reload
  justified := counted.justified

theorem recordExit (counted : Tallied record none none terminations) (made : GenerationExit)
    (reloads : made.kind = .reload → record.lifecycle.reloadRequested = 1) :
    Tallied (record.perform (.recordExit made)) (some made) none
      terminations where
  history := by
    simp [perform, counted.history]
  exits other := by
    have before := counted.exits other
    obtain ⟨origin, early, kind, classified⟩ := made
    cases kind <;> cases other <;>
      simp_all [perform, LifecycleStats.exitCount, LifecycleStats.recordExit]
  last := by
    obtain ⟨origin, early, kind, classified⟩ := made
    cases kind <;> rfl
  restarts := by
    rw [← counted.restarts]
    obtain ⟨origin, early, kind, classified⟩ := made
    cases kind <;> rfl
  decided := by
    rw [← counted.decided]
    obtain ⟨origin, early, kind, classified⟩ := made
    cases kind <;> rfl
  terminations := by
    rw [← counted.terminations]
    obtain ⟨origin, early, kind, classified⟩ := made
    cases kind <;> rfl
  reloads reload := by
    obtain ⟨origin, early, kind, classified⟩ := made
    cases reload
    exact reloads rfl
  justified choice decided := by cases decided

theorem recordRestart (counted : Tallied record (some made) none terminations)
    (restarts : made.Restarts choice) (policyDelay effectiveDelay : Duration) (rateLimited : Bool) :
    Tallied
      (record.perform (.recordRestart choice policyDelay effectiveDelay rateLimited))
      (some made) (some choice) terminations where
  history := counted.history
  exits kind := by
    rw [← counted.exits kind]
    cases kind <;> rfl
  last := counted.last
  restarts := by
    simp [perform, LifecycleStats.recordRestart, counted.restarts]
  decided := rfl
  terminations := counted.terminations
  reloads := counted.reloads
  justified other decided := by
    cases decided
    exact ⟨made, rfl, restarts⟩

theorem recordTerminated (counted : Tallied record exit decision 0) :
    Tallied (record.perform .recordTerminated) exit decision 1 where
  history := counted.history
  exits kind := by
    rw [← counted.exits kind]
    cases kind <;> rfl
  last := counted.last
  restarts := counted.restarts
  decided := counted.decided
  terminations := by
    simp [perform, LifecycleStats.recordTerminated, counted.terminations]
  reloads := counted.reloads
  justified := counted.justified

end Tallied

/-- A generation that another one follows. -/
def GenerationRecord.Closed (record : GenerationRecord) : Prop :=
  ∃ exit decision, Tallied record (some exit) (some decision) 0

/-- What the records of a generation show at any moment: at most one exit, and
a restart decision only after an exit that calls for it. -/
def GenerationRecord.Lawful (record : GenerationRecord) : Prop :=
  ∃ exit decision terminations, Tallied record exit decision terminations

theorem GenerationRecord.Closed.lawful {record : GenerationRecord}
    (closed : record.Closed) : record.Lawful := by
  obtain ⟨exit, decision, counted⟩ := closed
  exact ⟨some exit, some decision, 0, counted⟩

theorem Tallied.lawful {record exit decision terminations}
    (counted : Tallied record exit decision terminations) : record.Lawful :=
  ⟨exit, decision, terminations, counted⟩

/-! ### The view of the accounting -/

/-- What the accounting depends on.  `cutShort` says that a backoff wait ended
by shutdown. -/
structure LifecycleView where
  generation : Nat
  restartCount : Nat
  reloadToken : Option Bool
  current : Option GenerationRecord
  past : List GenerationRecord
  planeWritten : Option ServiceStatus
  cutShort : Bool

namespace LifecycleView

def generations (view : LifecycleView) : List GenerationRecord :=
  view.past ++ view.current.toList

/-- A write, as far as the accounting sees it. -/
def perform (view : LifecycleView) (write : SupervisorWrite) : LifecycleView :=
  { view with
    current := view.current.map fun record => record.perform write
    reloadToken :=
      match write with
      | .cancelReloadToken => view.reloadToken.map fun _ => true
      | _ => view.reloadToken
    restartCount :=
      match write with
      | .recordServiceRestart _ => saturatingSucc view.restartCount
      | _ => view.restartCount
    planeWritten :=
      match write with
      | .insertStatus status => some status
      | _ => view.planeWritten }

variable (view : LifecycleView)

@[simp] theorem perform_insertStatus (status : ServiceStatus) :
    view.perform (.insertStatus status) = { view with planeWritten := some status } := by
  cases view
  simp [perform, GenerationRecord.perform]

@[simp] theorem perform_recordServiceStatus (status : ServiceStatus) :
    view.perform (.recordServiceStatus status) = view := by
  cases view
  simp [perform, GenerationRecord.perform]

@[simp] theorem perform_recordServiceStarted (gen : Nat) (status : ServiceStatus) :
    view.perform (.recordServiceStarted gen status) = view := by
  cases view
  simp [perform, GenerationRecord.perform]

@[simp] theorem perform_notifyStatusChanged :
    view.perform .notifyStatusChanged = view := by
  cases view
  simp [perform, GenerationRecord.perform]

@[simp] theorem perform_cancelDaemonToken :
    view.perform .cancelDaemonToken = view := by
  cases view
  simp [perform, GenerationRecord.perform]

@[simp] theorem perform_recordServiceRestart (backoff : Option Duration) :
    view.perform (.recordServiceRestart backoff) =
      { view with restartCount := saturatingSucc view.restartCount } := by
  cases view
  simp [perform, GenerationRecord.perform]

end LifecycleView

def SupervisorState.view (s : SupervisorState) : LifecycleView :=
  { generation := s.generation
    restartCount := s.runtimeFacts.restartCount
    reloadToken := s.reloadToken
    current := s.current
    past := s.past
    planeWritten := s.planeWritten
    cutShort := s.waits.any fun wait => wait.ending == .shutdown }

theorem SupervisorState.view_noteWait (s : SupervisorState) (changed : Bool)
    (uncut : (ending == .shutdown) = false) :
    (s.noteWait changed ending).view = s.view := by
  simp [noteWait, view, uncut]

theorem SupervisorState.view_perform (s : SupervisorState) (write : SupervisorWrite) :
    (s.perform write).view = s.view.perform write := by
  cases write with
  | recordServiceStarted gen status =>
    simp [perform, view, LifecycleView.perform, ServiceRuntimeState.recordServiceStarted]
  | recordServiceStatus status => simp [perform, view, LifecycleView.perform]
  | _ => rfl

/-! ### The accounting at the control points -/

/-- A generation is being driven: its body can be running. -/
def SupervisorPoint.driving : SupervisorPoint → Bool
  | .running .. | .reloading _ => true
  | _ => false

/-- Between two generations: the last one is closed. -/
structure Between (view : LifecycleView) : Prop where
  uncut : view.cutShort = false
  restarts : view.restartCount = min view.generations.length u64Max
  closed : ∀ record, view.current = some record → record.Closed

/-- The current generation has no exit, and a reload request exactly if its
reload token is cancelled. -/
structure Open (requested : Bool) (view : LifecycleView) : Prop where
  uncut : view.cutShort = false
  restarts : view.restartCount = min view.past.length u64Max
  token : view.reloadToken = some requested
  isOpen : ∃ record, view.current = some record ∧ Tallied record none none 0 ∧
      record.lifecycle.reloadRequested = if requested then 1 else 0

/-- The current generation has its exit, and this restart decision follows. -/
structure Ended (decision : RestartDecision) (view : LifecycleView) : Prop where
  uncut : view.cutShort = false
  restarts : view.restartCount = min view.past.length u64Max
  ended : ∃ record exit, view.current = some record ∧
    exit.Restarts decision ∧ Tallied record (some exit) none 0

/-- The restart decision of the last generation is a delay. -/
def Delayed (view : LifecycleView) : Prop :=
  ∀ record, view.current = some record → record.lifecycle.lastRestartDecision ≠ some .immediate

/-- The supervisor has ended.  Only a shutdown during a backoff wait leaves the
last generation without its termination. -/
structure Over (view : LifecycleView) : Prop where
  written : view.planeWritten = some .terminated
  ended : ∀ record, view.current = some record → ∃ exit decision,
    Tallied record (some exit) decision (if view.cutShort then 0 else 1)

/-- What the view shows when the supervisor arrives at a point. -/
def Ready : SupervisorPoint → LifecycleView → Prop
  | .starting | .prepare | .restartNow => Between
  | .beginWait _ | .waiting .. => fun view => Between view ∧ Delayed view
  | .enterRunning | .running .. => Open false
  | .reloading _ => Open true
  | .outcome .. | .classify .. => fun view => ∃ requested, Open requested view
  | .resetBackoff decision | .restart decision => Ended decision
  | .terminated => Over

/-- What the view shows all the way to a point. -/
structure Always (point : SupervisorPoint) (view : LifecycleView) : Prop where
  lawful : ∀ record, view.current = some record → record.Lawful
  restarts : point.driving = true → view.restartCount = min view.past.length u64Max

/-- The supervisor is on its way to a point of the accounting. -/
abbrev OnTheWay (view : LifecycleView) (pending : List SupervisorWrite)
    (point : SupervisorPoint) : Prop :=
  Settles LifecycleView.perform (Always point) Ready view pending point

section OnTheWay

variable {view : LifecycleView} {point : SupervisorPoint}

theorem Between.always (between : Between view) (still : point.driving = false) :
    Always point view where
  lawful record here := (between.closed record here).lawful
  restarts driving := by simp [still] at driving

theorem Open.always (opened : Open requested view) :
    Always point view where
  lawful record here := by
    obtain ⟨cur, isCurrent, counted, -⟩ := opened.isOpen
    cases isCurrent.symm.trans here
    exact counted.lawful
  restarts _ := opened.restarts

theorem Ended.always (ended : Ended decision view) :
    Always point view where
  lawful record here := by
    obtain ⟨cur, exit, isCurrent, -, counted⟩ := ended.ended
    cases isCurrent.symm.trans here
    exact counted.lawful
  restarts _ := ended.restarts

/-- What a point promises covers the way to it. -/
theorem Ready.always (ready : Ready point view) : Always point view := by
  cases point with
  | starting | prepare | restartNow => exact Between.always ready rfl
  | beginWait _ | waiting _ _ => exact Between.always ready.1 rfl
  | enterRunning | running _ _ | reloading _ => exact Open.always ready
  | outcome _ _ | classify _ _ =>
    obtain ⟨requested, opened⟩ := ready
    exact opened.always
  | resetBackoff _ | restart _ => exact Ended.always ready
  | terminated =>
    refine ⟨?_, by
      intro driving
      cases driving⟩
    intro record here
    obtain ⟨exit, decision, counted⟩ := ready.ended record here
    exact counted.lawful

theorem OnTheWay.arrived (ready : Ready point view) : OnTheWay view [] point :=
  at_point ready.always ready

/-- The writes of a status touch nothing but the plane. -/
theorem OnTheWay.announce (status : ServiceStatus) (always : Always point view)
    (ready : Ready point { view with planeWritten := some status }) :
    OnTheWay view (announceStatus status) point := by
  have announced : Always point { view with planeWritten := some status } :=
    ⟨always.lawful, always.restarts⟩
  apply before always
  rw [LifecycleView.perform_insertStatus]
  apply before announced
  rw [LifecycleView.perform_recordServiceStatus]
  apply before announced
  rw [LifecycleView.perform_notifyStatusChanged]
  exact at_point announced ready

/-- The last generation has its exit and no termination yet. -/
structure Concluding (view : LifecycleView) : Prop where
  uncut : view.cutShort = false
  ended : ∀ record, view.current = some record → ∃ exit decision,
    Tallied record (some exit) decision 0

theorem Concluding.always (concluding : Concluding view) :
    Always .terminated view where
  lawful record here := by
    obtain ⟨exit, decision, counted⟩ := concluding.ended record here
    exact counted.lawful
  restarts driving := by cases driving

/-- `terminate` records the termination of the last generation. -/
theorem OnTheWay.terminate (concluding : Concluding view) :
    OnTheWay view terminateWrites .terminated := by
  have ended : ∀ record,
      (view.perform .recordTerminated).current = some record →
      ∃ exit decision, Tallied record (some exit) decision 1 := by
    intro record here
    obtain ⟨earlier, isCurrent, rfl⟩ := Option.map_eq_some_iff.mp here
    obtain ⟨exit, decision, counted⟩ := concluding.ended earlier isCurrent
    exact ⟨exit, decision, counted.recordTerminated⟩
  have uncut : (view.perform .recordTerminated).cutShort = false := concluding.uncut
  have finished : Over
      { view.perform .recordTerminated with planeWritten := some .terminated } :=
    ⟨rfl, by simpa only [uncut, Bool.false_eq_true, if_false] using ended⟩
  apply before concluding.always
  apply OnTheWay.announce
  · refine ⟨?_, by
      intro driving
      cases driving⟩
    intro record here
    obtain ⟨exit, decision, counted⟩ := ended record here
    exact counted.lawful
  · exact finished

/-- The exit of an open generation. -/
theorem Open.recordExit (opened : Open requested view)
    (exit : GenerationExit) (reloads : exit.kind = .reload → requested = true) :
    ∃ record, (view.perform (.recordExit exit)).current = some record ∧
      Tallied record (some exit) none 0 := by
  obtain ⟨record, isCurrent, counted, requests⟩ := opened.isOpen
  refine ⟨record.perform (.recordExit exit), ?_, ?_⟩
  · exact congrArg (Option.map _) isCurrent
  · apply counted.recordExit exit
    intro reload
    rw [requests, reloads reload]
    rfl

theorem Open.ends (opened : Open requested view)
    (reloads : exit.kind = .reload → requested = true) (restarts : exit.Restarts decision) :
    Ended decision (view.perform (.recordExit exit)) where
  uncut := opened.uncut
  restarts := opened.restarts
  ended := by
    obtain ⟨record, isCurrent, counted⟩ := opened.recordExit exit reloads
    exact ⟨record, exit, isCurrent, restarts, counted⟩

theorem Open.concluding (opened : Open requested view)
    (reloads : exit.kind = .reload → requested = true) :
    Concluding (view.perform (.recordExit exit)) where
  uncut := opened.uncut
  ended := by
    intro record here
    obtain ⟨cur, isCurrent, counted⟩ := opened.recordExit exit reloads
    cases isCurrent.symm.trans here
    exact ⟨exit, none, counted⟩

theorem Between.concluding (between : Between view) : Concluding view where
  uncut := between.uncut
  ended := by
    intro record here
    obtain ⟨exit, decision, counted⟩ := between.closed record here
    exact ⟨exit, some decision, counted⟩

/-- The exit is recorded between the two cancellations of the daemon token, if
there are any. -/
theorem OnTheWay.recorded (shutdownDaemon : Bool) (always : Always point view)
    (settles : OnTheWay (view.perform (.recordExit exit)) rest point) :
    OnTheWay view
      ((if shutdownDaemon then
          [.cancelDaemonToken, .recordExit exit, .cancelDaemonToken]
        else [.recordExit exit]) ++ rest) point := by
  cases shutdownDaemon with
  | false => exact before always settles
  | true =>
    apply before always
    rw [LifecycleView.perform_cancelDaemonToken]
    apply before always
    apply before settles.now
    rw [LifecycleView.perform_cancelDaemonToken]
    exact settles

/-- What `on_outcome` writes after the classification. -/
theorem OnTheWay.outcome (opened : Open requested view)
    (restart : record.shouldRestart = !record.exitKind.isFinal)
    (reloads : record.exitKind = .reload → requested = true)
    (origin : GenerationOrigin) (early : Bool) :
    OnTheWay view (outcomeWrites origin early record)
      (if record.shouldRestart then .resetBackoff record.restartDecision else .terminated) := by
  apply OnTheWay.recorded record.shouldShutdownDaemon opened.always
  cases decided : record.shouldRestart with
  | true =>
    have more : record.exitKind.isFinal = false := by
      simpa [decided] using restart
    have ended : Ended record.restartDecision (view.perform
        (.recordExit ⟨origin, early, record.exitKind, some record⟩)) :=
      opened.ends reloads ⟨more, record, rfl, rfl⟩
    apply OnTheWay.announce _ ended.always
    exact ⟨ended.uncut, ended.restarts, ended.ended⟩
  | false =>
    have concluding : Concluding (view.perform
        (.recordExit ⟨origin, early, record.exitKind, some record⟩)) :=
      opened.concluding reloads
    apply before concluding.always
    rw [LifecycleView.perform_recordServiceStatus]
    exact OnTheWay.terminate concluding

theorem saturatingSucc_min (count : Nat) :
    saturatingSucc (min count u64Max) = min (count + 1) u64Max := by
  simp only [saturatingSucc]
  omega

theorem Ended.closes (ended : Ended decision view) (policyDelay effectiveDelay : Duration)
    (rateLimited : Bool)
    (here :
      (view.perform (.recordRestart decision policyDelay effectiveDelay rateLimited)).current =
      some record) :
    ∃ exit, Tallied record (some exit) (some decision) 0 := by
  obtain ⟨cur, exit, isCurrent, restarts, counted⟩ := ended.ended
  simp only [LifecycleView.perform, isCurrent, Option.map_some, Option.some.injEq] at here
  cases here
  exact ⟨exit, counted.recordRestart restarts ..⟩

/-- The restart decision and the restart fact, in any order, lead to the next
generation. -/
theorem Ended.between (ended : Ended decision view)
    (policyDelay effectiveDelay : Duration) (rateLimited : Bool) :
    Between
      { view.perform
          (.recordRestart decision policyDelay effectiveDelay rateLimited) with
        restartCount := saturatingSucc view.restartCount } where
  uncut := ended.uncut
  restarts := by
    obtain ⟨record, exit, isCurrent, -, -⟩ := ended.ended
    simp only [ended.restarts, saturatingSucc_min, LifecycleView.generations,
      LifecycleView.perform, isCurrent, Option.map_some, Option.toList_some,
      List.length_append, List.length_singleton]
  closed record here := by
    obtain ⟨exit, counted⟩ := ended.closes policyDelay effectiveDelay rateLimited here
    exact ⟨exit, decision, counted⟩

/-- A restart without delay: the decision first, then the fact. -/
theorem OnTheWay.restartNow (ended : Ended .immediate view) :
    OnTheWay view
      [.recordRestart .immediate 0 0 false, .recordServiceRestart none]
      .restartNow := by
  have between := ended.between 0 0 false
  apply before ended.always
  apply before
  · exact ⟨fun record here => (between.closed record here).lawful, by
      intro driving
      cases driving⟩
  rw [LifecycleView.perform_recordServiceRestart]
  exact OnTheWay.arrived between

/-- A restart with backoff: the fact first, then the decision. -/
theorem OnTheWay.backoff (ended : Ended (.withBackoff kind) view)
    (policyDelay effectiveDelay : Duration) (rateLimited : Bool) :
    OnTheWay view
      [.recordServiceRestart (some effectiveDelay),
        .recordRestart (.withBackoff kind) policyDelay effectiveDelay rateLimited]
      (.beginWait effectiveDelay) := by
  have between := ended.between policyDelay effectiveDelay rateLimited
  apply before ended.always
  rw [LifecycleView.perform_recordServiceRestart]
  apply before
  · have always : Always (.beginWait effectiveDelay) view := ended.always
    exact ⟨always.lawful, by
      intro driving
      cases driving⟩
  apply OnTheWay.arrived
  refine ⟨between, ?_⟩
  intro record here
  obtain ⟨exit, counted⟩ := ended.closes policyDelay effectiveDelay rateLimited here
  rw [counted.decided]
  cases kind <;> simp [RestartDecision.diagnosticsKind]

/-- A reload request of an open generation. -/
theorem OnTheWay.reload (opened : Open false view) (future : GenerationFuture) :
    OnTheWay view [.recordReloadRequested, .cancelReloadToken]
      (.reloading future) := by
  obtain ⟨record, isCurrent, counted, requests⟩ := opened.isOpen
  have requested :
      Tallied (record.perform .recordReloadRequested) none none 0 :=
    counted.recordReloadRequested
  apply before opened.always
  apply before
  · refine ⟨?_, fun _ => opened.restarts⟩
    intro after here
    simp only [LifecycleView.perform, isCurrent, Option.map_some, Option.some.injEq] at here
    cases here
    exact requested.lawful
  have reloading : Open true
      ((view.perform .recordReloadRequested).perform .cancelReloadToken) :=
    { uncut := opened.uncut
      restarts := opened.restarts
      token := by simp [LifecycleView.perform, opened.token]
      isOpen := by
        refine ⟨record.perform .recordReloadRequested, ?_, requested, ?_⟩
        · simp only [LifecycleView.perform, isCurrent, Option.map_some]
          rfl
        · simp [perform,
            LifecycleStats.recordReloadRequested, requests] }
  exact OnTheWay.arrived reloading

end OnTheWay

/-! ### The ledger of a run -/

/-- The accounts of a supervisor with these writes pending on the way to this
point. -/
structure LifecycleLedger (view : LifecycleView) (pending : List SupervisorWrite)
    (point : SupervisorPoint) : Prop where
  numbers : view.generations.map GenerationRecord.generation =
    (List.range view.generations.length).map fun i =>
      min (i + 1) u64Max
  generation : view.generation = min view.generations.length u64Max
  first : view.current = none → view.past = []
  closed : ∀ record ∈ view.past, record.Closed
  settles : OnTheWay view pending point

namespace LifecycleLedger

variable {view : LifecycleView} {pending : List SupervisorWrite}
  {point : SupervisorPoint}

theorem new (cfg : SupervisorConfig) (now : Instant) (statusPlane : Option ServiceStatus) :
    LifecycleLedger (SupervisorState.new cfg now statusPlane).view [] .starting where
  numbers := rfl
  generation := rfl
  first _ := rfl
  closed record member := by cases member
  settles := by
    have between : Between (SupervisorState.new cfg now statusPlane).view :=
      ⟨rfl, rfl, by
        intro record here
        cases here⟩
    exact OnTheWay.arrived between

theorem moves (inv : LifecycleLedger view pending point) (settles : OnTheWay view writes target) :
    LifecycleLedger view writes target :=
  { inv with settles := settles }

theorem performs (inv : LifecycleLedger view (write :: pending) point) :
    LifecycleLedger (view.perform write) pending point := by
  have numbers :
      (view.perform write).generations.map GenerationRecord.generation =
        view.generations.map GenerationRecord.generation := by
    have same : ∀ record : GenerationRecord,
        (record.perform write).generation = record.generation := by
      intro record
      cases write <;> rfl
    simp only [LifecycleView.generations, LifecycleView.perform, List.map_append]
    cases view.current with
    | none => rfl
    | some record => simp [same]
  have count :
      (view.perform write).generations.length = view.generations.length := by
    have lengths := congrArg List.length numbers
    simpa using lengths
  constructor
  · rw [numbers, count]
    exact inv.numbers
  · rw [count]
    exact inv.generation
  · intro noneYet
    exact inv.first (Option.map_eq_none_iff.mp noneYet)
  · exact inv.closed
  · exact inv.settles.performs

end LifecycleLedger

/-- The ledger of a state. -/
def Accounts (s : SupervisorState) : Prop :=
  LifecycleLedger s.view s.pending s.point

namespace Accounts

variable {cfg : SupervisorConfig} {s next : SupervisorState}
  {a : SupervisorAction}

theorem ready (accounts : Accounts s) (idle : s.pending = []) : Ready s.point s.view := by
  have settles := accounts.settles
  rw [idle] at settles
  exact settles.here

theorem ready_at (accounts : Accounts s) (idle : s.pending = []) (here : s.point = point) :
    Ready point s.view := by
  rw [← here]
  exact accounts.ready idle

theorem leaves (accounts : Accounts s) (same : next.view = s.view)
    (settles : OnTheWay s.view next.pending next.point) : Accounts next := by
  unfold Accounts
  rw [same]
  exact accounts.moves settles

theorem arrives (accounts : Accounts s) (idle : next.pending = [])
    (same : next.view = s.view) (ready : Ready next.point s.view) : Accounts next := by
  apply accounts.leaves same
  rw [idle]
  exact OnTheWay.arrived ready

/-- The next generation. -/
theorem prepares (accounts : Accounts s) (between : Between s.view) : Accounts (s.prepare cfg) := by
  have opened : Open false (s.prepare cfg).view :=
    { uncut := between.uncut
      restarts := between.restarts
      token := rfl
      isOpen := ⟨_, rfl, Tallied.new .., rfl⟩ }
  have number : (s.prepare cfg).generation = min (s.generations.length + 1) u64Max := by
    have gen : s.generation = min s.generations.length u64Max := accounts.generation
    simp only [SupervisorState.prepare, gen, saturatingSucc_min]
  have generations : (s.prepare cfg).view.generations =
      s.generations ++ (s.prepare cfg).current.toList := rfl
  constructor
  · have numbers : s.generations.map generation =
        (List.range s.generations.length).map fun i =>
          min (i + 1) u64Max := accounts.numbers
    rw [generations]
    simp only [SupervisorState.prepare, Option.toList_some, List.map_append,
      List.length_append, List.length_singleton, List.range_succ, numbers,
      List.map_cons, List.map_nil]
    exact congrArg _ (congrArg (fun number => [number]) number)
  · rw [generations]
    simp only [SupervisorState.prepare, Option.toList_some, List.length_append,
      List.length_singleton]
    exact number
  · intro noneYet
    cases noneYet
  · intro record mem
    rcases List.mem_append.mp mem with earlier | last
    · exact accounts.closed record earlier
    · exact between.closed record (Option.mem_toList.mp last)
  · apply before opened.always
    rw [LifecycleView.perform_recordServiceStarted]
    apply before opened.always
    rw [LifecycleView.perform_insertStatus]
    have started : Open false
        { (s.prepare cfg).view with planeWritten := some s.determineStartStatus } :=
      ⟨opened.uncut, opened.restarts, opened.token, opened.isOpen⟩
    apply before started.always
    rw [LifecycleView.perform_notifyStatusChanged]
    apply OnTheWay.arrived
    simp only [SupervisorState.prepare]
    split
    · exact ⟨false, started⟩
    · exact started

/-- A shutdown during a backoff wait: the status is announced, and nothing is
counted. -/
theorem cutsShort (accounts : Accounts s) (between : Between s.view)
    (same : next.view = { s.view with cutShort := true })
    (pending : next.pending = announceStatus .terminated)
    (point : next.point = .terminated) : Accounts next := by
  unfold Accounts
  rw [same, pending, point]
  refine ⟨accounts.numbers, accounts.generation, accounts.first, accounts.closed, ?_⟩
  apply OnTheWay.announce
  · exact ⟨fun record here => (between.closed record here).lawful, by
      intro driving
      cases driving⟩
  · refine ⟨rfl, ?_⟩
    intro record here
    obtain ⟨exit, decision, counted⟩ := between.closed record here
    exact ⟨exit, some decision, counted⟩

theorem step (accounts : Accounts s) (h : Supervisor.step cfg s a = some next) : Accounts next := by
  cases SupervisorMove.of_step h with
  | performs pending =>
    have ledger := accounts
    unfold Accounts at ledger
    rw [pending] at ledger
    have performed := ledger.performs
    rw [← SupervisorState.view_perform, ← SupervisorState.perform_point] at performed
    exact performed
  | stops idle here cancelled =>
    have between := accounts.ready_at idle here
    exact accounts.leaves rfl (OnTheWay.terminate between.concluding)
  | starts idle here uncancelled =>
    have between := accounts.ready_at idle here
    exact accounts.arrives idle rfl between
  | prepares idle here =>
    have between := accounts.ready_at idle here
    exact accounts.prepares between
  | entersWithout idle here absent =>
    have opened := accounts.ready_at idle here
    exact accounts.arrives idle rfl ⟨false, opened⟩
  | enters idle here resolved =>
    have opened := accounts.ready_at idle here
    exact accounts.arrives idle rfl opened
  | checksCancelled idle here cancelled =>
    have opened := accounts.ready_at idle here
    obtain ⟨requested, opened⟩ := opened
    refine accounts.leaves rfl ?_
    apply before opened.always
    apply OnTheWay.terminate
    apply opened.concluding
    intro reload
    cases reload
  | checksWithout idle here absent =>
    have opened := accounts.ready_at idle here
    obtain ⟨requested, opened⟩ := opened
    cases opened.token.symm.trans absent
  | checks idle here uncancelled =>
    have opened := accounts.ready_at idle here
    exact accounts.arrives idle rfl opened
  | classifies idle here =>
    have opened := accounts.ready_at idle here
    obtain ⟨requested, opened⟩ := opened
    refine accounts.leaves rfl ?_
    apply OnTheWay.outcome opened
    · exact handleOutcome_shouldRestart ..
    · intro reload
      have requests := handleOutcome_reload reload
      rwa [show s.reloadToken = some requested from opened.token] at requests
  | resets idle here | skipsReset idle here =>
    have ended := accounts.ready_at idle here
    exact accounts.arrives idle rfl ended
  | decides idle here =>
    have ended := accounts.ready_at idle here
    exact accounts.leaves rfl (OnTheWay.restartNow ended)
  | delays idle here =>
    have ended := accounts.ready_at idle here
    exact accounts.leaves rfl (OnTheWay.backoff ended ..)
  | restartsNow idle here | waits idle here =>
    have between := accounts.ready_at idle here
    exact accounts.arrives idle rfl between
  | runs here advanced | runsReloading here advanced =>
    have settles := accounts.settles
    rw [here] at settles
    refine accounts.leaves rfl (settles.redirect ?_ ?_)
    · exact fun _ always => ⟨always.lawful, always.restarts⟩
    · exact fun _ ready => ready
  | takesResult idle here =>
    have opened := accounts.ready_at idle here
    exact accounts.arrives idle rfl ⟨false, opened⟩
  | takesReloadResult idle here =>
    have opened := accounts.ready_at idle here
    exact accounts.arrives idle rfl ⟨true, opened⟩
  | takesDependency idle here | takesReload idle here =>
    have opened := accounts.ready_at idle here
    exact accounts.leaves rfl (OnTheWay.reload opened _)
  | elapses idle here | reloadsWait idle here =>
    have ready := accounts.ready_at idle here
    exact accounts.arrives idle (SupervisorState.view_noteWait _ _ rfl) ready.1
  | stopsWait idle here cancelled =>
    have ready := accounts.ready_at idle here
    refine accounts.cutsShort ready.1 ?_ rfl rfl
    simp [SupervisorState.noteWait, SupervisorState.view]
  | ticks => exact accounts
  | cancels => exact accounts
  | cancelsDaemon => exact accounts
  | triggersReload => exact accounts
  | changes watched =>
    refine accounts.leaves rfl (accounts.settles.redirect ?_ ?_)
    · intro view always
      refine ⟨always.lawful, ?_⟩
      rw [SupervisorPoint.noteChange_congr SupervisorPoint.driving fun _ _ => rfl]
      exact always.restarts
    · intro view ready
      rw [SupervisorPoint.noteChange_congr Ready fun _ _ => rfl]
      exact ready
  | writesStatus => exact accounts
  | recordsStatus =>
    refine accounts.leaves ?_ accounts.settles
    simp [SupervisorState.view]

theorem of_run {now statusPlane acts}
    (run : Run (Supervisor.step cfg) (.new cfg now statusPlane) acts s) : Accounts s := by
  refine run.invariant (LifecycleLedger.new cfg now statusPlane) ?_
  intro _ _ _ accounts _ h
  exact accounts.step h

end Accounts

end ServiceDaemon
