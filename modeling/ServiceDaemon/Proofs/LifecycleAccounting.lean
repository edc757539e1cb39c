/-
Purpose: What the lifecycle records of a supervisor say about its generations:
  their numbers, their exits, their restart decisions, and the termination of
  the last one.
Main exports: LifecycleRecords, lifecycle_accounted, terminated_recorded_once
-/
import ServiceDaemon.Proofs.LifecycleLedger

namespace ServiceDaemon

open StepSystem SupervisorState

/-!
Everything here is read off the ledger of the run.  The termination of the last
generation is counted by `terminate`; the branch of the backoff wait that a
shutdown takes announces the same status without it.

[SRC runner/supervisor.rs]
[SRC docs/guide/diagnostics.md, Lifecycle Facts and Restart Decisions]
-/

/-! ### What the records say -/

/-- The service function is running. -/
def SupervisorState.bodyRunning (s : SupervisorState) : Bool :=
  match s.point with
  | .running future _ | .reloading future => future.bodyRunning
  | _ => false

/-- The counters show one exit, of this kind, and no other. -/
def LifecycleStats.OneExit (stats : LifecycleStats) (kind : GenerationExitKind) :
    Prop :=
  (∀ other, stats.exitCount other = if other = kind then 1 else 0) ∧ stats.lastExitKind = some kind

/-- The lifecycle records of the generations of a supervisor.  The number of a
generation and the number of restarts are `u64`s that saturate. -/
structure LifecycleRecords (s : SupervisorState) : Prop where
  /-- generations are numbered from one on -/
  numbered : ∀ i record, s.generations[i]? = some record → record.generation = min (i + 1) u64Max
  /-- a generation that another one follows has one exit and one decision -/
  earlier : ∀ record ∈ s.past,
    (∃ kind, record.lifecycle.OneExit kind) ∧ record.lifecycle.restart = 1
  /-- the last one has at most one decision, and one exit when all is over -/
  last : ∀ record, s.current = some record →
    (record.lifecycle.restart = 0 ∨ record.lifecycle.restart = 1) ∧
      (s.finished → ∃ kind, record.lifecycle.OneExit kind)
  /-- no decision and no generation follow a final exit -/
  final : ∀ i record kind, s.generations[i]? = some record →
    kind ∈ [GenerationExitKind.fatalServiceError, .providerInitError,
      .shutdown] → record.lifecycle.exitCount kind ≠ 0 →
    record.lifecycle.restart = 0 ∧ i + 1 = s.generations.length
  /-- a reload exit follows one reload request -/
  reload : ∀ record ∈ s.generations, record.lifecycle.reloadExit ≠ 0 →
    record.lifecycle.reloadRequested = 1
  /-- a running body has one restart less than generations behind it -/
  restarts : s.bodyRunning = true → s.generation = min s.generations.length u64Max ∧
      s.runtimeFacts.restartCount = min (s.generations.length - 1) u64Max

theorem Tallied.oneExit {record exit decision terminations}
    (counted : Tallied record (some exit) decision terminations) :
    record.lifecycle.OneExit exit.kind := by
  refine ⟨?_, counted.last⟩
  intro other
  rw [counted.exits other]
  simp [eq_comm]

theorem Tallied.exit_eq {record exit decision terminations}
    (counted : Tallied record exit decision terminations) {kind}
    (recorded : record.lifecycle.exitCount kind ≠ 0) :
    exit.map GenerationExit.kind = some kind := by
  rw [counted.exits kind] at recorded
  by_contra other
  rw [if_neg other] at recorded
  exact recorded rfl

/-- No decision follows a final exit. -/
theorem Tallied.undecided {record exit decision terminations}
    (counted : Tallied record exit decision terminations) {kind} (final : kind.isFinal = true)
    (recorded : record.lifecycle.exitCount kind ≠ 0) : decision = none := by
  cases decided : decision with
  | none => rfl
  | some choice =>
    obtain ⟨made, isExit, more, -⟩ := counted.justified choice decided
    have kinds := counted.exit_eq recorded
    rw [isExit] at kinds
    cases kinds
    simp [final] at more

namespace Accounts

variable {s : SupervisorState}

theorem number (accounts : Accounts s) {i record} (here : s.generations[i]? = some record) :
    record.generation = min (i + 1) u64Max := by
  have numbers : s.generations.map GenerationRecord.generation =
      (List.range s.generations.length).map fun i =>
        min (i + 1) u64Max := accounts.numbers
  have inside : i < s.generations.length := (List.getElem?_eq_some_iff.mp here).1
  have entry := congrArg (·[i]?) numbers
  simpa [here, List.getElem?_range inside] using entry

/-- A record of a run: closed, or the last one. -/
theorem closed_or_last (accounts : Accounts s) {i record} (here : s.generations[i]? = some record) :
    record.Closed ∨ s.current = some record ∧ i + 1 = s.generations.length := by
  rcases Nat.lt_or_ge i s.past.length with earlier | last
  · left
    apply accounts.closed
    rw [generations, List.getElem?_append_left earlier] at here
    exact List.mem_of_getElem? here
  · right
    rw [generations, List.getElem?_append_right last] at here
    have isCurrent : s.current = some record := Option.mem_toList.mp (List.mem_of_getElem? here)
    have inside := (List.getElem?_eq_some_iff.mp here).1
    refine ⟨isCurrent, ?_⟩
    simp only [isCurrent, Option.toList_some, List.length_singleton] at inside
    simp only [generations, isCurrent, Option.toList_some,
      List.length_append, List.length_singleton]
    omega

theorem lawful (accounts : Accounts s) {record} (mem : record ∈ s.generations) : record.Lawful := by
  rcases List.mem_append.mp mem with earlier | last
  · exact (accounts.closed record earlier).lawful
  · exact accounts.settles.now.lawful record (Option.mem_toList.mp last)

theorem isOver (accounts : Accounts s) (finished : s.finished) : Over s.view := by
  have ready := accounts.ready finished.1
  rw [finished.2] at ready
  exact ready

theorem records (accounts : Accounts s) : LifecycleRecords s where
  numbered index record here := accounts.number here
  earlier record member := by
    obtain ⟨exit, decision, counted⟩ := accounts.closed record member
    exact ⟨⟨exit.kind, counted.oneExit⟩, counted.restarts⟩
  last record here := by
    constructor
    · obtain ⟨exit, decision, terminations, counted⟩ := accounts.settles.now.lawful record here
      rw [counted.restarts]
      cases decision with
      | none => exact .inl rfl
      | some choice => exact .inr rfl
    · intro finished
      obtain ⟨exit, decision, counted⟩ := (accounts.isOver finished).ended record here
      exact ⟨exit.kind, counted.oneExit⟩
  final index record kind here isFinal recorded := by
    have closing : kind.isFinal = true := by
      fin_cases isFinal <;> rfl
    rcases accounts.closed_or_last here with closed | ⟨isCurrent, isLast⟩
    · obtain ⟨exit, decision, counted⟩ := closed
      cases counted.undecided closing recorded
    · obtain ⟨exit, decision, terminations, counted⟩ := accounts.settles.now.lawful record isCurrent
      refine ⟨?_, isLast⟩
      rw [counted.restarts, counted.undecided closing recorded]
      rfl
  reload record member recorded := by
    obtain ⟨exit, decision, terminations, counted⟩ := accounts.lawful member
    have reload : record.lifecycle.exitCount .reload ≠ 0 := recorded
    exact counted.reloads (counted.exit_eq reload)
  restarts running := by
    refine ⟨accounts.generation, ?_⟩
    have driving : s.point.driving = true := by
      unfold bodyRunning at running
      split at running <;> simp_all [SupervisorPoint.driving]
    have counted : s.runtimeFacts.restartCount =
        min s.past.length u64Max := accounts.settles.now.restarts driving
    have count : s.generations.length - 1 = s.past.length := by
      cases cur : s.current with
      | none =>
        have empty : s.past = [] := accounts.first cur
        simp [generations, cur, empty]
      | some record => simp [generations, cur]
    rw [counted, count]

end Accounts

/-- A service of the default policy. -/
def workerConfig (scheduling : ServiceScheduling) (watched : Bool) :
    SupervisorConfig :=
  { name := "worker"
    scheduling := scheduling
    highPriority := false
    watched := watched
    policy := .default }

/-- From `Starting` into the `select!` of `Running`. -/
def startSchedule : List SupervisorAction :=
  [.advance, .advance, .perform, .perform, .perform, .advance]

/-- From the result of the generation through the records of its exit. -/
def exitSchedule : List SupervisorAction :=
  [.takeResult, .advance, .advance, .perform, .perform, .perform, .perform]

/-- Generations are numbered consecutively, each that ends has one exit, each
but the last has one restart decision, final exits are last, reload exits have
one request, and a running body finds one restart for each generation before
its own. -/
theorem lifecycle_accounted {config : SupervisorConfig} {now : Instant}
    {statusPlane : Option ServiceStatus} {schedule : List SupervisorAction}
    {state : SupervisorState}
    (run : Run (Supervisor.step config) (.new config now statusPlane) schedule state) :
    LifecycleRecords state :=
  (Accounts.of_run run).records

/-- A generation that a dependency change reloads, and one with a fatal
error. -/
def reloadThenFatal : List SupervisorAction :=
  List.flatten
    [startSchedule, [.dependencyChange, .takeDependency, .perform, .perform,
        .generation (.bodyEnds .returned)],
      exitSchedule, [.advance, .advance, .perform, .perform, .advance],
      startSchedule,
      [.generation (.bodyEnds (.failed { AnyError.msg "fatal" with isFatal := true }))],
      exitSchedule, [.perform, .perform]]

theorem lifecycle_accounted_reload_then_fatal :
    ∃ state,
      Run (Supervisor.step (workerConfig .standard true))
          (.new (workerConfig .standard true) 0 none) reloadThenFatal state ∧
        (state.finished ∧ state.generations.map (·.lifecycle.lastExitKind) =
            [some .reload, some .fatalServiceError]) ∧
        LifecycleRecords state :=
  Run.exists_and (by decide +kernel) fun _ run _ => lifecycle_accounted run

/-! ### The termination of the last generation -/

/-- Only the shutdown branch of a backoff wait cuts the supervisor short. -/
theorem cutShort_step (other : a ≠ .shutdownDuringDelay)
    (h : Supervisor.step cfg s a = some next) : next.view.cutShort = s.view.cutShort := by
  cases SupervisorMove.of_step h with
  | stopsWait idle here cancelled => exact absurd rfl other
  | performs pending => simp [view]
  | elapses idle here reached => simp [view, noteWait]
  | reloadsWait idle here signalled => simp [view, noteWait, clearBackoff]
  | _ => rfl

theorem uncut_of_run {cfg now statusPlane acts s}
    (run : GuardedRun (Supervisor.step cfg) (fun _ a => a ≠ .shutdownDuringDelay)
      (.new cfg now statusPlane) acts s) :
    s.view.cutShort = false := by
  induction run with
  | nil => rfl
  | snoc _ other h ih =>
    rw [cutShort_step other h]
    exact ih

/-- Whatever ends the supervisor, the termination is counted once, on the last
generation, and the status plane is left at `Terminated`, unless a shutdown
arrives during a backoff wait. -/
theorem terminated_recorded_once {config : SupervisorConfig} {now : Instant}
    {statusPlane : Option ServiceStatus} {schedule : List SupervisorAction}
    {state : SupervisorState}
    (run : GuardedRun (Supervisor.step config) (fun _ action => action ≠ .shutdownDuringDelay)
      (.new config now statusPlane) schedule state)
    (finished : state.finished) (started : state.generations ≠ []) :
    (∃ record, state.current = some record ∧ record.lifecycle.terminated = 1) ∧
      (∀ record ∈ state.past, record.lifecycle.terminated = 0) ∧
      state.planeWritten = some .terminated := by
  have accounts : Accounts state := Accounts.of_run run.toRun
  have uncut := uncut_of_run run
  have ended := accounts.isOver finished
  refine ⟨?_, ?_, ended.written⟩
  · cases current : state.current with
    | none =>
      have empty : state.past = [] := accounts.first current
      exact absurd (by simp [SupervisorState.generations, current, empty])
        started
    | some record =>
      obtain ⟨exit, decision, counted⟩ := ended.ended record current
      rw [uncut] at counted
      exact ⟨record, rfl, counted.terminations⟩
  · intro record member
    obtain ⟨exit, decision, counted⟩ := accounts.closed record member
    exact counted.terminations

theorem terminated_recorded_once_fatal :
    ∃ state,
      GuardedRun (Supervisor.step (workerConfig .standard true))
          (fun _ action => action ≠ .shutdownDuringDelay)
          (.new (workerConfig .standard true) 0 none) reloadThenFatal state ∧
        (state.finished ∧ state.generations ≠ []) ∧
        (∃ record, state.current = some record ∧ record.lifecycle.terminated = 1) ∧
        (∀ record ∈ state.past, record.lifecycle.terminated = 0) ∧
        state.planeWritten = some .terminated :=
  GuardedRun.exists_and (by decide +kernel) fun _ run ended =>
    terminated_recorded_once run ended.1 ended.2

/-- A generation that fails, with the restart decision of its backoff. -/
def failIntoBackoff : List SupervisorAction :=
  List.flatten
    [startSchedule, [.generation (.bodyEnds (.failed (.msg "connection lost")))],
      exitSchedule, [.advance, .advance, .perform, .perform, .advance]]

/-- A shutdown during the backoff wait ends the supervisor with the counter of
its only generation at zero. -/
theorem shutdown_in_backoff_not_counted :
    ∃ state,
      Run (Supervisor.step (workerConfig .standard false))
          (.new (workerConfig .standard false) 0 none)
          (List.flatten [failIntoBackoff,
              [.cancel, .shutdownDuringDelay, .perform, .perform, .perform]])
          state ∧
        state.finished ∧ state.generations.map (·.lifecycle.terminated) = [0] :=
  Run.exists_of_check (by decide +kernel)

end ServiceDaemon
