/-
Purpose: What the steps of a service with its writers insert into the status
  plane, how its runs project to runs of the supervisor, and how far `done` acts
  on the status that `state` shows.
Main exports: LifecycleState.inserts, LifecycleState.decision,
  LifecycleMove.entry_eq, done_follows_state_iff
-/
import ServiceDaemon.Core.ServiceLifecycle

namespace ServiceDaemon

open AsyncLib StepSystem

/-!
`state` looks at the service token, then at the reload token of the caller, and
only then at the entry of the service; `done` looks at the entry alone.

[SRC core/context/api.rs state, done]
[SRC docs/architecture/lifecycle-management.md]
-/

/-! ### The entry -/

/-- The status that a write of the supervisor inserts. -/
def SupervisorWrite.inserts : SupervisorWrite → Option ServiceStatus
  | .insertStatus status => some status
  | _ => none

theorem SupervisorState.perform_statusPlane (s : SupervisorState) (write : SupervisorWrite) :
    (s.perform write).statusPlane = write.inserts.or s.statusPlane := by
  cases write <;> rfl

/-- The status that the next operation of the shutdown inserts. -/
def ServiceStop.inserts : ServiceStop → Option ServiceStatus
  | .signalled => some .shuttingDown
  | .joined => some .terminated
  | _ => none

theorem ServiceStop.inserts_eq_none {stop : ServiceStop}
    (begun : stop.announced = true) (waits : stop ≠ .joined) : stop.inserts = none := by
  cases stop with
  | signalled => cases begun
  | joined => exact absurd rfl waits
  | _ => rfl

/-- The status that a step inserts into the status plane. -/
def LifecycleState.inserts (s : LifecycleState) :
    LifecycleAction → Option ServiceStatus
  | .supervisor .perform => s.supervisor.pending.head?.bind (·.inserts)
  | .proceed i => s.tasks[i]?.bind (·.point.armed)
  | .stop => s.stop.inserts
  | .refuse => some .terminated
  | _ => none

/-- The status that the call decides for if it reads the entry now. -/
def CallPoint.decides (entry : Option ServiceStatus) :
    CallPoint → Option ServiceStatus
  | .reading call => call.decides entry
  | _ => none

/-- The decision that the next operation of a task makes. -/
def LifecycleState.decision (s : LifecycleState) (i : Nat) :
    Option ServiceStatus :=
  s.tasks[i]?.bind (·.point.decides s.entry)

theorem LifecycleState.decision_eq {s : LifecycleState} {i : Nat} {task : LifecycleTask}
    {call : LifecycleCall} (found : s.tasks[i]? = some task) (here : task.point = .reading call) :
    s.decision i = call.decides s.entry := by
  simp [LifecycleState.decision, found, here, CallPoint.decides]

/-- A call raises a service that is starting, and lowers one that is to end. -/
theorem LifecycleCall.decides_cases {call : LifecycleCall} {entry : Option ServiceStatus}
    {status : ServiceStatus} (decided : call.decides entry = some status) :
    status = .healthy ∧ (entry.getD .initializing).starting = true ∨ status = .terminated ∧
        (entry = some .needReload ∨ entry = some .shuttingDown) := by
  cases call with
  | done =>
    rcases entry with _ | entry
    · cases decided
      exact .inl ⟨rfl, rfl⟩
    · cases entry <;> cases decided
      · exact .inl ⟨rfl, rfl⟩
      · exact .inl ⟨rfl, rfl⟩
      · exact .inl ⟨rfl, rfl⟩
      · exact .inr ⟨rfl, .inl rfl⟩
      · exact .inr ⟨rfl, .inr rfl⟩
  | utility kind =>
    simp only [LifecycleCall.decides] at decided
    split at decided <;> cases decided
    rename_i raised
    obtain ⟨cur, rfl, starting⟩ := (Option.any_eq_true _ _).mp raised
    exact .inl ⟨rfl, starting⟩

section Moves

variable {config : LifecycleConfig} {s next : LifecycleState}

/-- The entry changes by what is inserted, and by nothing else. -/
theorem LifecycleMove.entry_eq {a : LifecycleAction} (move : LifecycleMove config s a next) :
    next.entry = (s.inserts a).or s.entry := by
  cases move with
  | supervises permitted moved =>
    cases SupervisorMove.of_step moved with
    | @performs write writes pending =>
      change (s.supervisor.perform write).statusPlane = _
      simp [SupervisorState.perform_statusPlane, LifecycleState.inserts,
        pending, LifecycleState.entry]
    | cancels | writesStatus | recordsStatus => cases permitted
    | _ => rfl
  | decides found here | inserts found here =>
    simp [LifecycleState.inserts, found, here, CallPoint.armed,
      LifecycleState.entry, LifecycleState.setTask,
      LifecycleState.insertStatus]
  | proceeds mine found idle =>
    rcases mine with ⟨call, rfl⟩ | rfl | ⟨branch, rfl⟩
    · rfl
    · simp [LifecycleState.inserts, found, idle, LifecycleState.entry]
    · rfl
  | signals here | announces here | terminates here =>
    simp [LifecycleState.inserts, ServiceStop.inserts, here,
      LifecycleState.entry, LifecycleState.insertStatus]
  | stops mine begun waits =>
    rcases mine with rfl | rfl | rfl
    · simp [LifecycleState.inserts, ServiceStop.inserts_eq_none begun waits, LifecycleState.entry]
    · rfl
    · rfl
  | _ => rfl

/-! ### The supervisor in the service -/

theorem LifecycleState.Records.supervisor_run (records : s.Records facts) :
    ∃ acts,
      Run (Supervisor.step config.supervisor) s.supervisor acts
        { s.supervisor with runtimeFacts := facts } := by
  rcases records with rfl | ⟨status, rfl⟩
  · exact ⟨[], .nil⟩
  · exact ⟨[.recordStatus status], .snoc .nil trivial rfl⟩

/-- To the supervisor a step is one of its own, or what it knows of the
environment. -/
theorem LifecycleMove.supervisor_run (move : LifecycleMove config s a next) :
    ∃ acts,
      Run (Supervisor.step config.supervisor) s.supervisor acts
        next.supervisor := by
  cases move with
  | supervises _ moved => exact ⟨[_], .snoc .nil trivial moved⟩
  | refuses _ =>
    exact ⟨[.writeStatus .terminated, .cancelDaemon], .snoc (.snoc .nil trivial rfl) trivial rfl⟩
  | @inserts _ _ _ status => exact ⟨[.writeStatus status], .snoc .nil trivial rfl⟩
  | signals _ => exact ⟨[.cancel], .snoc .nil trivial rfl⟩
  | announces _ => exact ⟨[.writeStatus .shuttingDown], .snoc .nil trivial rfl⟩
  | terminates _ => exact ⟨[.writeStatus .terminated], .snoc .nil trivial rfl⟩
  | proceeds _ _ _ _ _ records => exact records.supervisor_run
  | stops _ _ _ _ records => exact records.supervisor_run
  | _ => exact ⟨[], .nil⟩

end Moves

/-- A run of the service is a run of its supervisor among the other writers, so
what holds of every run of the supervisor holds here. -/
theorem Lifecycle.supervisor_run {guard : LifecycleState → LifecycleAction → Prop}
    (run : GuardedRun (Lifecycle.step config) guard (.new config now) acts s) :
    ∃ projected,
      Run (Supervisor.step config.supervisor) (.new config.supervisor now none)
        projected s.supervisor := by
  induction run with
  | nil => exact ⟨[], .nil⟩
  | snoc _ _ h ih =>
    obtain ⟨earlier, before⟩ := ih
    obtain ⟨later, after⟩ := (LifecycleMove.of_step h).supervisor_run
    exact ⟨earlier ++ later, before.append after⟩

/-! ### The order of the writers -/

namespace LifecycleState

variable {config : LifecycleConfig} {s next : LifecycleState}

section Permits

variable {a : SupervisorAction} {after : SupervisorState}

theorem permits_cancelled (permitted : s.permits a = true)
    (moved : Supervisor.step config.supervisor s.supervisor a = some after) :
    after.cancelled = s.supervisor.cancelled := by
  cases SupervisorMove.of_step moved with
  | performs pending => simp
  | cancels => cases permitted
  | _ => rfl

theorem permits_current (permitted : s.permits a = true)
    (moved : Supervisor.step config.supervisor s.supervisor a = some after)
    (refused : s.startup.supervised = false) : after.current = s.supervisor.current := by
  cases SupervisorMove.of_step moved with
  | runs | runsReloading | ticks | cancelsDaemon | triggersReload | changes => rfl
  | _ => simp [permits, refused] at permitted

end Permits

theorem rests_set (rests : moved.point.armed = none) :
    ∀ task ∈ s.tasks.set i moved,
      task ∈ s.tasks ∨ task.point.armed = none := by
  intro task mem
  rcases List.mem_or_eq_of_mem_set mem with old | rfl
  · exact .inl old
  · exact .inr rests

theorem rests_concat :
    ∀ task ∈ s.tasks ++ [⟨gen, .idle, none⟩],
      task ∈ s.tasks ∨ task.point.armed = none := by
  intro task mem
  rcases List.mem_append.mp mem with old | new
  · exact .inl old
  · cases List.mem_singleton.mp new
    exact .inr rfl

/-- What holds in every run: the token is cancelled by the shutdown, an abort
comes after that, and without a supervisor there are no generations. -/
structure Ordered (s : LifecycleState) : Prop where
  begun : s.supervisor.cancelled = true ↔ s.stop ≠ .notStarted
  aborted : s.dropped = true → s.supervisor.cancelled = true
  unspawned : s.startup.supervised = false → s.supervisor.current = none ∧ s.tasks = []

namespace Ordered

theorem initial : (new config now).Ordered where
  begun := by simp [new, SupervisorState.new]
  aborted := by rintro ⟨⟩
  unspawned _ := ⟨rfl, rfl⟩

theorem signalled (ordered : s.Ordered) (announced : s.stop.announced = true) :
    s.supervisor.cancelled = true := by
  refine ordered.begun.mpr fun unstarted => ?_
  simp [unstarted, ServiceStop.announced] at announced

theorem supervised (ordered : s.Ordered) {i : Nat}
    {task : LifecycleTask} (found : s.tasks[i]? = some task) : s.startup.supervised = true := by
  by_contra refused
  have empty := (ordered.unspawned (Bool.eq_false_iff.mpr refused)).2
  simp [empty] at found

theorem keep (ordered : s.Ordered)
    (begun : next.supervisor.cancelled = true ↔ next.stop ≠ .notStarted)
    (cur : next.supervisor.current = s.supervisor.current)
    (dropped : next.dropped = true → next.supervisor.cancelled = true)
    (unspawned : next.startup.supervised = false →
      s.startup.supervised = false ∧ next.tasks = s.tasks) :
    next.Ordered where
  begun := begun
  aborted := dropped
  unspawned refused := by
    obtain ⟨before, same⟩ := unspawned refused
    rw [cur, same]
    exact ordered.unspawned before

theorem supervises (ordered : s.Ordered)
    (permitted : s.permits a = true)
    (moved : Supervisor.step config.supervisor s.supervisor a =
      some after) : (s.note a after).Ordered where
  begun := by
    change after.cancelled = true ↔ _
    rw [permits_cancelled permitted moved]
    exact ordered.begun
  aborted gone := (permits_cancelled permitted moved).trans (ordered.aborted gone)
  unspawned refused := by
    obtain ⟨none, empty⟩ := ordered.unspawned refused
    exact ⟨(permits_current permitted moved refused).trans none, empty⟩

theorem step (ordered : s.Ordered) {a : LifecycleAction}
    (h : Lifecycle.step config s a = some next) : next.Ordered := by
  cases LifecycleMove.of_step h with
  | supervises permitted moved => exact ordered.supervises permitted moved
  | spawns unstarted | insertsHandle spawned =>
    exact ordered.keep ordered.begun rfl ordered.aborted (by rintro ⟨⟩)
  | refuses unstarted =>
    refine ordered.keep ordered.begun rfl ordered.aborted fun _ => ⟨?_, rfl⟩
    rw [unstarted]
    rfl
  | drops aborting =>
    refine ordered.keep ordered.begun rfl (fun _ => ordered.begun.mpr ?_)
      fun refused => ⟨refused, rfl⟩
    simp [aborting]
  | startsBody cur running =>
    refine ordered.keep ordered.begun rfl ordered.aborted fun refused => ?_
    rw [(ordered.unspawned refused).1] at cur
    cases cur
  | spawnsTask found | decides found | inserts found =>
    refine ordered.keep ordered.begun rfl ordered.aborted fun refused => ?_
    exact absurd (ordered.supervised found) (Bool.eq_false_iff.mp refused)
  | proceeds mine found =>
    refine ordered.keep ordered.begun rfl ordered.aborted fun refused => ?_
    exact absurd (ordered.supervised found) (Bool.eq_false_iff.mp refused)
  | signals here => exact ordered.keep (by simp) rfl (fun _ => rfl) fun refused => ⟨refused, rfl⟩
  | announces here | terminates here =>
    have signalled : s.supervisor.cancelled = true := ordered.begun.mpr (by simp [here])
    exact ordered.keep (by simpa [insertStatus] using signalled) rfl
      ordered.aborted fun refused => ⟨refused, rfl⟩
  | stops mine begun waits stays =>
    have signalled := ordered.signalled begun
    refine ordered.keep ⟨fun _ => ?_, fun _ => signalled⟩ rfl ordered.aborted
      fun refused => ⟨refused, rfl⟩
    rintro rfl
    cases stays

theorem of_run {guard : LifecycleState → LifecycleAction → Prop}
    (run : GuardedRun (Lifecycle.step config) guard (new config now) acts s) : s.Ordered :=
  run.invariant initial fun ordered _ h => ordered.step h

end Ordered

end LifecycleState

/-! ### The call of `done` -/

/-- Nobody but the task at `index` moves, and it only goes on in its call. -/
def Alone (i : Nat) (_ : LifecycleState) (a : LifecycleAction) : Prop :=
  a = .proceed i

instance (i : Nat) (s : LifecycleState) (a : LifecycleAction) :
    Decidable (Alone i s a) :=
  inferInstanceAs (Decidable (a = _))

/-- Where a call of `done` is that found the entry at `before`, and what the
entry is there. -/
inductive DoneAt (before entry : Option ServiceStatus) : CallPoint → Prop where
  | reading (unread : entry = before) : DoneAt before entry (.reading .done)
  | inserting {status} (unchanged : entry = before)
      (decided : LifecycleCall.done.decides before = some status) :
      DoneAt before entry (.inserting .done status)
  | recording {status}
      (written : entry = (LifecycleCall.done.decides before).or before) :
      DoneAt before entry (.recording .done status)
  | notifying
      (written : entry = (LifecycleCall.done.decides before).or before) :
      DoneAt before entry (.notifying .done)
  | returned (written : entry = (LifecycleCall.done.decides before).or before) :
      DoneAt before entry .idle

namespace DoneAt

variable {before : Option ServiceStatus} {s next : LifecycleState}
  {i : Nat} {task : LifecycleTask}

theorem proceed (progress : DoneAt before s.entry task.point) (found : s.tasks[i]? = some task)
    (h : Lifecycle.proceed s i task = some next) :
    ∃ moved, next.tasks[i]? = some moved ∧ DoneAt before next.entry moved.point := by
  obtain ⟨gen, point, returned⟩ := task
  cases progress with
  | reading unread =>
    simp only [Lifecycle.proceed, unread] at h
    split at h <;> rename_i decision <;> cases h
    · exact ⟨_, Threads.set_self found, .inserting unread decision⟩
    · refine ⟨_, Threads.set_self found, .returned ?_⟩
      rw [decision]
      exact unread
  | inserting unchanged decided =>
    cases h
    refine ⟨_, Threads.set_self found, .recording ?_⟩
    rw [decided]
    rfl
  | recording written =>
    cases h
    exact ⟨_, Threads.set_self found, .notifying written⟩
  | notifying written =>
    cases h
    exact ⟨_, Threads.set_self found, .returned written⟩
  | returned => cases h

/-- The call goes on as long as nobody else moves. -/
theorem of_run (called : Lifecycle.step config s (.call i .done) = some begun)
    (alone : GuardedRun (Lifecycle.step config) (Alone i) begun acts next) :
    ∃ moved, next.tasks[i]? = some moved ∧ DoneAt s.entry next.entry moved.point := by
  induction alone with
  | nil =>
    simp only [Lifecycle.step] at called
    split at called <;> cases called
    rename_i found
    exact ⟨_, Threads.set_self found, .reading rfl⟩
  | snoc _ mine h ih =>
    obtain ⟨before, here, progress⟩ := ih
    cases mine
    obtain ⟨actor, acting, moved⟩ := Option.bind_eq_some_iff.mp h
    rw [here] at acting
    cases acting
    exact progress.proceed here moved

theorem entry_eq (progress : DoneAt before s.entry .idle) :
    s.entry = (LifecycleCall.done.decides before).or before := by
  cases progress with
  | returned written => exact written

end DoneAt

/-- The entry that the documentation promises after `done`, for what `state`
showed: the successor of a starting or a descending status, and the entry as it
is for `Healthy` and `Terminated`. -/
def documentedSuccessor (entry : Option ServiceStatus) :
    ServiceStatus → Option ServiceStatus
  | .initializing | .restoring | .recovering _ => some .healthy
  | .needReload | .shuttingDown => some .terminated
  | .healthy | .terminated => entry

theorem lowered_iff (entry : Option ServiceStatus) :
    (LifecycleCall.done.decides entry).or entry = some .terminated ↔
      entry.any (·.descending) = true := by
  cases entry with
  | none => decide
  | some status => cases status <;> simp [LifecycleCall.decides,
      ServiceStatus.afterDone, ServiceStatus.descending]

theorem raised (entry : Option ServiceStatus) :
    (LifecycleCall.done.decides entry).or entry =
      documentedSuccessor entry (entry.getD .initializing) := by
  cases entry with
  | none => rfl
  | some status => cases status <;> rfl

/-- What `done` makes of the entry against what `state` shows, token by token. -/
theorem successor_iff (s : LifecycleState) (gen : Nat) :
    (LifecycleCall.done.decides s.entry).or s.entry = documentedSuccessor s.entry (s.observed gen) ↔
      (s.supervisor.cancelled = true ∨ s.reloadCancelled gen = true →
        s.entry.any (·.descending) = true) := by
  unfold LifecycleState.observed
  by_cases cancelled : s.supervisor.cancelled = true
  · simp only [cancelled, if_true, true_or, true_implies]
    exact lowered_iff s.entry
  · by_cases reload : s.reloadCancelled gen = true
    · simp only [cancelled, reload, Bool.false_eq_true, if_false, if_true, or_true, true_implies]
      split <;> exact lowered_iff s.entry
    · simp only [cancelled, reload, Bool.false_eq_true, if_false, or_self, false_implies, iff_true]
      exact raised s.entry

/-- An uninterrupted `done` leaves the successor of what `state` showed its task
just before, if and only if a cancelled token goes with a descending entry. -/
theorem done_follows_state_iff {config : LifecycleConfig} {state begun next : LifecycleState}
    {index : Nat} {task : LifecycleTask} {schedule : List LifecycleAction}
    (called : Lifecycle.step config state (.call index .done) = some begun)
    (alone : GuardedRun (Lifecycle.step config) (Alone index) begun schedule next)
    (there : next.tasks[index]? = some task) (returned : task.point = .idle) :
    next.entry = documentedSuccessor state.entry (state.observed task.generation) ↔
      (state.supervisor.cancelled = true ∨ state.reloadCancelled task.generation = true →
        state.entry.any (·.descending) = true) := by
  obtain ⟨moved, same, progress⟩ := DoneAt.of_run called alone
  rw [there] at same
  cases same
  rw [returned] at progress
  rw [progress.entry_eq]
  exact successor_iff state task.generation

/-- A service on the standard lane. -/
def webService : LifecycleConfig :=
  { supervisor :=
      { name := "web"
        scheduling := .standard
        highPriority := false
        watched := false
        policy := .default }
    gracePeriod := 3 }

/-- The first generation starts and its body is called. -/
def startService : List LifecycleAction :=
  [.spawnSupervisor, .insertHandle, .supervisor .advance, .supervisor .advance,
    .supervisor .perform, .supervisor .perform, .supervisor .perform,
    .supervisor .advance, .startBody]

theorem done_follows_state_first :
    ∃ state begun next task,
      Run (Lifecycle.step webService) (.new webService 0) startService state ∧
      Lifecycle.step webService state (.call 0 .done) = some begun ∧
      GuardedRun (Lifecycle.step webService) (Alone 0) begun
        (List.replicate 4 (.proceed 0)) next ∧
      (next.tasks[0]? = some task ∧ task.point = .idle) ∧
      (state.observed task.generation = .initializing ∧ next.entry = some .healthy) ∧
      (next.entry = documentedSuccessor state.entry (state.observed task.generation) ↔
        (state.supervisor.cancelled = true ∨ state.reloadCancelled task.generation = true →
          state.entry.any (·.descending) = true)) := by
  obtain ⟨state, run, checked⟩ :
      ∃ state,
        Run (Lifecycle.step webService) (.new webService 0) startService state ∧
        (Lifecycle.step webService state (.call 0 .done)).any
          (fun begun =>
            (runGuarded (Lifecycle.step webService) (Alone 0) begun
                (List.replicate 4 (.proceed 0))).any
              fun next =>
                next.tasks[0]?.any fun task =>
                  task.point = .idle && (state.observed task.generation = .initializing &&
                      next.entry = some .healthy)) = true :=
    Run.exists_of_check (by decide +kernel)
  obtain ⟨begun, called, checked⟩ := (Option.any_eq_true _ _).mp checked
  obtain ⟨next, alone, checked⟩ := (Option.any_eq_true _ _).mp checked
  obtain ⟨task, there, checked⟩ := (Option.any_eq_true _ _).mp checked
  simp only [Bool.and_eq_true, decide_eq_true_eq] at checked
  obtain ⟨idle, outcome⟩ := checked
  have alone := GuardedRun.of_runGuarded alone
  exact ⟨state, begun, next, task, run, called, alone, ⟨there, idle⟩, outcome,
    done_follows_state_iff called alone there idle⟩

/-- The service is Healthy when a reload is requested. -/
def reloadHealthy : List LifecycleAction :=
  List.flatten
    [startService, [.call 0 .done], List.replicate 4 (.proceed 0),
      [.supervisor .triggerReload, .supervisor .takeReload,
        .supervisor .perform, .supervisor .perform]]

/-- `done` does not act on what `state` shows: after a reload request it leaves
the service Healthy instead of terminating it, and between the cancellation of
the token and the announcement of the shutdown it makes the service Healthy. -/
theorem done_misses_tokens :
    (∃ state next, Run (Lifecycle.step webService) (.new webService 0) reloadHealthy state ∧
      state.observed 0 = .needReload ∧
      Run (Lifecycle.step webService) state [.call 0 .done, .proceed 0] next ∧
      next.tasks = [⟨0, .idle, none⟩] ∧ next.entry = some .healthy) ∧
    ∃ state next,
      Run (Lifecycle.step webService) (.new webService 0)
        (startService ++ [.stop]) state ∧
      state.observed 0 = .shuttingDown ∧
      Run (Lifecycle.step webService) state
        (.call 0 .done :: List.replicate 4 (.proceed 0)) next ∧
      next.tasks = [⟨0, .idle, none⟩] ∧ next.entry = some .healthy := by
  constructor
  · obtain ⟨state, run, seen, checked⟩ :
        ∃ state,
          Run (Lifecycle.step webService) (.new webService 0) reloadHealthy
            state ∧
          state.observed 0 = .needReload ∧
          (runSchedule (Lifecycle.step webService) state [.call 0 .done, .proceed 0]).any
            (fun next => decide (next.tasks = [⟨0, .idle, none⟩] ∧
              next.entry = some .healthy)) = true :=
      Run.exists_of_check (by decide +kernel)
    obtain ⟨next, done, outcome⟩ := Run.exists_of_check checked
    exact ⟨state, next, run, seen, done, outcome⟩
  · obtain ⟨state, run, seen, checked⟩ :
        ∃ state,
          Run (Lifecycle.step webService) (.new webService 0)
            (startService ++ [.stop]) state ∧
          state.observed 0 = .shuttingDown ∧
          (runSchedule (Lifecycle.step webService) state
              (.call 0 .done :: List.replicate 4 (.proceed 0))).any
            (fun next => decide (next.tasks = [⟨0, .idle, none⟩] ∧
              next.entry = some .healthy)) = true :=
      Run.exists_of_check (by decide +kernel)
    obtain ⟨next, done, outcome⟩ := Run.exists_of_check checked
    exact ⟨state, next, run, seen, done, outcome⟩

end ServiceDaemon
