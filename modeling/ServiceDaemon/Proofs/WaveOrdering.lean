/-
Purpose: The order of the waves over every run: which spawns and waits precede a
  spawn, which joins precede a signal, that nothing is done twice, and that a
  shutdown comes to its end.
Main exports: WaveOrder, waves_ordered
-/
import ServiceDaemon.Proofs.WaveProgress

namespace ServiceDaemon

open AsyncLib StepSystem OrderedGroups EventLog Wave StopPoint

section Ordering

variable {config : WaveConfig} {s next : WaveState config}

/-! ### Lookups in `running_tasks` -/

section Lookups

variable {between before : List (WaveEvent config)}

/-- While nothing is inserted, an entry stays until a lookup finds it. -/
theorem running_kept_or_found {id task}
    (justified : Justified (WaveAllowed config) (between ++ before))
    (noInsert : ∀ svc task, .inserted svc task ∉ between)
    (held : running config before id = some task) :
    running config (between ++ before) id = some task ∨
      ∃ svc, .lookedUp svc (some task) ∈ between := by
  induction between with
  | nil => exact .inl held
  | cons event between ih =>
    have noEarlier : ∀ svc task, .inserted svc task ∉ between :=
      fun svc task listed =>
        noInsert svc task (List.mem_cons_of_mem _ listed)
    rcases ih justified.2 noEarlier with kept | found
    · cases event with
      | inserted svc other => exact absurd List.mem_cons_self (noInsert svc other)
      | lookedUp svc answer =>
        have answered : answer = running config (between ++ before) (config.id svc) := justified.1
        by_cases same : id = config.id svc
        · right
          rw [← same, kept] at answered
          exact ⟨svc, answered ▸ List.mem_cons_self⟩
        · left
          rw [List.cons_append, running, Function.update_of_ne same]
          exact kept
      | _ => exact .inl kept
    · obtain ⟨svc, listed⟩ := found
      exact .inr ⟨svc, List.mem_cons_of_mem _ listed⟩

/-- While nothing is inserted, a service that was looked up has no entry. -/
theorem running_none_of_lookedUp (noInsert : ∀ svc task, .inserted svc task ∉ between)
    (lookedUp : .lookedUp svc found ∈ between) :
    running config (between ++ before) (config.id svc) = none := by
  induction between with
  | nil => exact absurd lookedUp List.not_mem_nil
  | cons event between ih =>
    have noEarlier : ∀ svc task, .inserted svc task ∉ between :=
      fun svc task listed =>
        noInsert svc task (List.mem_cons_of_mem _ listed)
    rcases List.mem_cons.mp lookedUp with rfl | lookedUp
    · exact Function.update_self _ _ _
    · have absent := ih noEarlier lookedUp
      cases event with
      | inserted other task => exact absurd List.mem_cons_self (noInsert other task)
      | lookedUp other answer =>
        by_cases same : config.id svc = config.id other
        · rw [List.cons_append, running, same]
          exact Function.update_self _ _ _
        · rw [List.cons_append, running, Function.update_of_ne same]
          exact absent
      | _ => exact absent

end Lookups

/-! ### The order of the waves -/

/-- The order of the events in a log, newest first. -/
structure WaveOrder (config : WaveConfig) (log : List (WaveEvent config)) :
    Prop where
  /-- When a service is spawned, every service of a higher priority has been
  spawned and the wait for its wave is over. -/
  spawned_after :
    ∀ {later earlier : List (WaveEvent config)}
      {svc higher : config.Service},
      log = later ++ .spawned svc :: earlier →
      config.priority svc < config.priority higher →
      .spawned higher ∈ earlier ∧ ∃ reason, .waitEnded (config.priority higher) reason ∈ earlier
  /-- A wait ends when its services have been seen healthy, when its timeout is
  over, or when the daemon token is cancelled. -/
  wait_ended :
    ∀ {later earlier : List (WaveEvent config)} {priority : Fin 256}
      {reason : WaitEnd},
      log = later ++ .waitEnded priority reason :: earlier →
      reason.Grounded config priority earlier
  /-- When a service is signalled, every service of a lower priority has been
  looked up in `running_tasks`, and the task found there has been joined. -/
  signalled_after :
    ∀ {later earlier : List (WaveEvent config)}
      {svc lower : config.Service},
      log = later ++ .signalled svc :: earlier →
      config.priority lower < config.priority svc →
      ∃ between before,
        earlier = between ++ .lookedUp lower (running config before (config.id lower)) ::
                before ∧
          ∀ task, running config before (config.id lower) = some task → .joined task ∈ earlier
  /-- What is joined has finished. -/
  joined_after :
    ∀ {later earlier : List (WaveEvent config)} {task : SupervisorTask},
      log = later ++ .joined task :: earlier → .finished task ∈ earlier
  /-- An abort comes after the grace period. -/
  aborted_after :
    ∀ {later earlier : List (WaveEvent config)} {task : SupervisorTask}
      {now : Instant},
      log = later ++ .aborted task now :: earlier →
      ∃ began, .awaited task began ∈ earlier ∧ config.gracePeriod ≤ now - began
  spawned_once : ∀ svc, log.count (.spawned svc) ≤ 1
  signalled_once : ∀ svc, log.count (.signalled svc) ≤ 1

theorem lookup_split (justified : Justified (WaveAllowed config) log)
    (lookedUp : .lookedUp svc found ∈ log) :
    ∃ between before,
      log = between ++ .lookedUp svc (running config before (config.id svc)) ::
              before ∧
        found = running config before (config.id svc) := by
  obtain ⟨between, before, split⟩ := List.append_of_mem lookedUp
  rw [split] at justified
  have answered : found = running config before (config.id svc) := justified.allows
  exact ⟨between, before, by rw [← answered]; exact split, answered⟩

/-- A justified log has the order of the waves. -/
theorem WaveOrder.of_justified (justified : Justified (WaveAllowed config) log) :
    WaveOrder config log := by
  constructor
  case spawned_after =>
      rintro later earlier svc higher rfl above
      exact justified.allows.2 higher above
  case wait_ended =>
      rintro later earlier priority reason rfl
      exact justified.allows
  case signalled_after =>
      rintro later earlier svc lower rfl below
      obtain ⟨_, lookedUp, joined⟩ := justified.allows
      obtain ⟨found, mem⟩ := lookedUp lower below
      obtain ⟨between, before, split, answered⟩ := lookup_split justified.of_append.2 mem
      refine ⟨between, before, split, ?_⟩
      intro task held
      rw [answered, held] at mem
      exact joined lower task mem
  case joined_after =>
      rintro later earlier task rfl
      exact justified.allows
  case aborted_after =>
      rintro later earlier task now rfl
      exact justified.allows
  case spawned_once =>
      intro svc
      exact justified.count_le_one fun _ allowed => allowed.1
  case signalled_once =>
      intro svc
      exact justified.count_le_one fun _ allowed => allowed.1

/-! ### A shutdown after the startup -/

/-- The log has grown, and not by an insertion. -/
def GrowsWithoutInsert (log longer : List (WaveEvent config)) : Prop :=
  ∃ added, longer = added ++ log ∧ ∀ svc task, .inserted svc task ∉ added

namespace GrowsWithoutInsert

variable {log longer longest : List (WaveEvent config)}
  {event : WaveEvent config}

theorem refl : GrowsWithoutInsert log log := ⟨[], rfl, by simp⟩

theorem trans (first : GrowsWithoutInsert log longer) (second : GrowsWithoutInsert longer longest) :
    GrowsWithoutInsert log longest := by
  obtain ⟨added, rfl, noInsert⟩ := first
  obtain ⟨more, rfl, noMore⟩ := second
  refine ⟨more ++ added, (List.append_assoc _ _ _).symm, ?_⟩
  intro svc task mem
  rcases List.mem_append.mp mem with mem | mem
  · exact noMore svc task mem
  · exact noInsert svc task mem

theorem cons (other : ∀ svc task, event ≠ .inserted svc task) :
    GrowsWithoutInsert log (event :: log) := by
  refine ⟨[event], rfl, ?_⟩
  intro svc task mem
  exact other svc task (List.mem_singleton.mp mem).symm

end GrowsWithoutInsert

theorem StopMove.grows (move : StopMove s next) : GrowsWithoutInsert s.log next.log := by
  cases move with
  | beginsWave | signalledAll | announces | collectedAll | joinedAll | ends => exact .refl
  | finishes | signals | collects | polls | joins | aborts =>
    exact .cons fun _ _ same => by cases same

theorem StopMove.startup_eq (move : StopMove s next) : next.startup = s.startup := by
  cases move <;> rfl

/-- A startup that has returned inserts nothing more. -/
theorem returned_step (ended : s.startup = .returned) (h : step s a = some next) :
    next.startup = .returned ∧ GrowsWithoutInsert s.log next.log := by
  cases WaveMove.of_step h with
  | startupCalled here =>
    rw [ended] at here
    cases here
  | startup _ move => cases move <;> simp_all
  | stop _ move => exact ⟨move.startup_eq.trans ended, move.grows⟩
  | stopCalled | statusWritten | statusNotified | timePasses => exact ⟨ended, .refl⟩
  | taskFinishes | daemonCancelled => exact ⟨ended, .cons fun _ _ same => by cases same⟩

theorem returned_run (ended : s.startup = .returned) (run : Run step s acts next) :
    next.startup = .returned ∧ GrowsWithoutInsert s.log next.log := by
  induction run with
  | nil => exact ⟨ended, .refl⟩
  | snoc _ _ h ih =>
    obtain ⟨still, grown⟩ := ih
    obtain ⟨after, more⟩ := returned_step still h
    exact ⟨after, grown.trans more⟩

/-- When the startup has returned before the shutdown begins, a service is
signalled after the tasks that `running_tasks` had for the services of a lower
priority have been joined, and no entry of those services is left. -/
def EntriesJoined (s finish : WaveState config) : Prop :=
  ∀ (later earlier : List (WaveEvent config)) (svc lower : config.Service),
    finish.log = later ++ .signalled svc :: earlier →
    config.priority lower < config.priority svc →
    running config earlier (config.id lower) = none ∧
      ∀ task, s.runningTasks (config.id lower) = some task → .joined task ∈ earlier

theorem EntriesJoined.of_run {acts} (progress : WaveProgress s)
    (ended : s.startup = .returned) (idle : s.stop = .notStarted)
    (run : Run step s acts next) (after : WaveProgress next) : EntriesJoined s next := by
  intro later earlier svc lower split below
  obtain ⟨noSignal, noLookup⟩ : StopProgress s.log .notStarted := idle ▸ progress.stop
  obtain ⟨_, added, grown, noInsert⟩ := returned_run ended run
  obtain ⟨between, rfl, rfl⟩ := new_event_split (noSignal svc) (split.symm.trans grown)
  have noRecent : ∀ other task, .inserted other task ∉ between :=
    fun other task listed => noInsert other task (by simp [listed])
  have justified := after.justified
  rw [split] at justified
  obtain ⟨_, lookedUp, joined⟩ := justified.allows
  obtain ⟨found, listed⟩ := lookedUp lower below
  have recent : .lookedUp lower found ∈ between :=
    (List.mem_append.mp listed).resolve_right (noLookup lower found)
  have absent : running config (between ++ s.log) (config.id lower) = none :=
    running_none_of_lookedUp noRecent recent
  refine ⟨absent, ?_⟩
  intro task held
  rw [progress.shared.tasks] at held
  rcases running_kept_or_found justified.of_append.2 noRecent held with
    kept | ⟨other, found⟩
  · rw [kept] at absent
    cases absent
  · exact joined other task (List.mem_append_left _ found)

/-! ### The shutdown comes to its end -/

/-- What a future has to do. -/
def JoinPhase.remaining : JoinPhase → Nat
  | .created => 4
  | .waiting _ => 3
  | .aborted => 2
  | .joined => 1
  | .done => 0

/-- What the waves that have not begun have to do. -/
def wavesRemaining (rest : List (ServiceWave config)) : Nat :=
  (rest.map fun wave => 7 * wave.2.length + 4).sum

/-- The operations the shutdown has before it, at most. -/
def StopPoint.remaining : StopPoint config → Nat
  | .notStarted | .returned => 0
  | .nextWave rest => wavesRemaining rest + 1
  | .signalling wave todo rest =>
    2 * todo.length + 5 * wave.2.length + 3 + (wavesRemaining rest + 1)
  | .announcing wave _ todo rest =>
    2 * todo.length + 1 + 5 * wave.2.length + 3 + (wavesRemaining rest + 1)
  | .collecting _ todo handles rest =>
    5 * todo.length + 4 * handles.length + 2 + (wavesRemaining rest + 1)
  | .joining _ fs rest =>
    (fs.map fun future => future.phase.remaining).sum + 1 + (wavesRemaining rest + 1)

@[simp] theorem wavesRemaining_cons (wave : ServiceWave config) (rest : List (ServiceWave config)) :
    wavesRemaining (wave :: rest) = 7 * wave.2.length + 4 + wavesRemaining rest := rfl

theorem length_collect_le (svc : config.Service) (found : Option SupervisorTask)
    (handles : List (config.Service × SupervisorTask)) :
    (collect svc found handles).length ≤ handles.length + 1 := by
  cases found <;> simp [collect]

/-- A future that moves on has less to do. -/
theorem sum_remaining_set {fs : List (ShutdownFuture config)} {i : Nat}
    {future : ShutdownFuture config} (phase : JoinPhase) (found : fs[i]? = some future)
    (less : phase.remaining < future.phase.remaining) :
    ((fs.set i { future with phase := phase }).map fun future => future.phase.remaining).sum <
      (fs.map fun future => future.phase.remaining).sum := by
  induction fs generalizing i with
  | nil => simp at found
  | cons head fs ih =>
    cases i with
    | zero =>
      rw [List.getElem?_cons_zero] at found
      cases found
      simpa using less
    | succ i =>
      rw [List.getElem?_cons_succ] at found
      simpa using ih found

/-- Each operation of the shutdown leaves it less to do. -/
theorem StopMove.remaining_lt (move : StopMove s next) :
    next.stop.remaining < s.stop.remaining := by
  cases move with
  | finishes here | signalledAll here | signals here | announces here =>
    simp only [here, remaining, List.length_cons, List.length_nil]
    omega
  | beginsWave here =>
    simp only [here, remaining, wavesRemaining_cons]
    omega
  | collectedAll here =>
    simp only [here, remaining, List.length_nil, List.map_map]
    have created : ∀ handles : List (config.Service × SupervisorTask),
        (handles.map ((fun future => future.phase.remaining) ∘
          shutdownFuture)).sum = 4 * handles.length := by
      intro handles
      simp [Function.comp_def, shutdownFuture, JoinPhase.remaining, Nat.mul_comm]
    rw [created]
    omega
  | @collects wave svc todo handles rest here =>
    have grows := length_collect_le svc (s.runningTasks (config.id svc)) handles
    simp only [here, remaining, List.length_cons]
    omega
  | joinedAll here finished =>
    simp only [here, remaining]
    omega
  | polls here found phase =>
    have less := sum_remaining_set (.waiting s.clock) found (by simp [phase, JoinPhase.remaining])
    simp only [here, setPhase, remaining]
    omega
  | joins here found phase finished =>
    have less := sum_remaining_set .joined found
      (by rcases phase with ⟨began, phase⟩ | phase <;> simp [phase, JoinPhase.remaining])
    simp only [here, setPhase, remaining]
    omega
  | aborts here found phase elapsed =>
    have less := sum_remaining_set .aborted found (by simp [phase, JoinPhase.remaining])
    simp only [here, setPhase, remaining]
    omega
  | ends here found phase =>
    have less := sum_remaining_set .done found (by simp [phase, JoinPhase.remaining])
    simp only [here, announce, setPhase, remaining]
    omega

/-- The action is an operation of the shutdown. -/
def WaveAction.ofStop : WaveAction → Bool
  | .stop | .join .. => true
  | _ => false

theorem StartupMove.stop_eq (move : StartupMove s next) : next.stop = s.stop := by
  cases move <;> rfl

theorem StopMove.begun (move : StopMove s next) : next.stop ≠ .notStarted := by
  cases move <;> simp [announce, setPhase]

/-- A shutdown that has begun goes on, and only its own operations count. -/
theorem remaining_step (begun : s.stop ≠ .notStarted) (h : step s a = some next) :
    next.stop ≠ .notStarted ∧ a.ofStop.toNat + next.stop.remaining ≤ s.stop.remaining := by
  cases WaveMove.of_step h with
  | startup mine move =>
    rw [move.stop_eq]
    rcases mine with rfl | ⟨branch, rfl⟩
    · exact ⟨begun, by simp [WaveAction.ofStop]⟩
    · exact ⟨begun, by simp [WaveAction.ofStop]⟩
  | stopCalled here => exact absurd here begun
  | stop mine move =>
    have less := move.remaining_lt
    refine ⟨move.begun, ?_⟩
    rcases mine with rfl | ⟨i, step, rfl⟩
    · simp only [WaveAction.ofStop, Bool.toNat_true]
      omega
    · simp only [WaveAction.ofStop, Bool.toNat_true]
      omega
  | _ => exact ⟨begun, by simp [WaveAction.ofStop]⟩

/-- The operations of a shutdown are bounded from any of its states on. -/
theorem operations_bounded (begun : s.stop ≠ .notStarted) (run : Run step s acts next) :
    next.stop ≠ .notStarted ∧ acts.countP WaveAction.ofStop + next.stop.remaining ≤
        s.stop.remaining := by
  induction run with
  | nil => exact ⟨begun, by simp⟩
  | @snoc acts middle last a _ _ h ih =>
    obtain ⟨still, bound⟩ := ih
    obtain ⟨after, less⟩ := remaining_step still h
    refine ⟨after, ?_⟩
    rw [List.countP_append, List.countP_singleton]
    cases mine : a.ofStop with
    | false =>
      rw [mine] at less
      simp only [Bool.toNat_false, Bool.false_eq_true, if_false] at less ⊢
      omega
    | true =>
      rw [mine] at less
      simp only [Bool.toNat_true, if_true] at less ⊢
      omega

/-! ### A shutdown is never stuck -/

/-- The task that `spawn_service` is about to insert. -/
def StartupPoint.tasks : StartupPoint config → List SupervisorTask
  | .inserting _ _ task _ _ => [task]
  | _ => []

/-- The tasks whose handles the shutdown has. -/
def StopPoint.tasks : StopPoint config → List SupervisorTask
  | .collecting _ _ handles _ => handles.map Prod.snd
  | .joining _ fs _ => fs.map ShutdownFuture.task
  | _ => []

/-- The handles belong to tasks that have been spawned. -/
structure TasksSpawned (s : WaveState config) : Prop where
  entries : ∀ id task, s.runningTasks id = some task → task < s.spawnedTasks
  startup : ∀ task ∈ s.startup.tasks, task < s.spawnedTasks
  stop : ∀ task ∈ s.stop.tasks, task < s.spawnedTasks

/-- An entry that is written leaves the others. -/
theorem entries_update {tasks : ServiceId → Option SupervisorTask} {bound : Nat} {key : ServiceId}
    {value : Option SupervisorTask} (entries : ∀ id task, tasks id = some task → task < bound)
    (written : ∀ task, value = some task → task < bound) :
    ∀ id task, Function.update tasks key value id = some task → task < bound := by
  intro id task held
  by_cases same : id = key
  · rw [same, Function.update_self] at held
    exact written task held
  · rw [Function.update_of_ne same] at held
    exact entries id task held

theorem TasksSpawned.initial : TasksSpawned (.initial config) :=
  ⟨by simp [WaveState.initial], by simp [WaveState.initial, StartupPoint.tasks],
    by simp [WaveState.initial, tasks]⟩

/-- The startup keeps the invariant. -/
theorem TasksSpawned.startupMove (spawned : TasksSpawned s)
    (move : StartupMove s next) : TasksSpawned next := by
  cases move with
  | spawns here =>
    refine ⟨?_, ?_, ?_⟩
    · exact fun id task held =>
        Nat.lt_succ_of_lt (spawned.entries id task held)
    · intro task mem
      rw [List.mem_singleton.mp mem]
      exact Nat.lt_succ_self _
    · exact fun task mem => Nat.lt_succ_of_lt (spawned.stop task mem)
  | @inserts wave svc task todo rest here =>
    have known := spawned.startup
    rw [here] at known
    refine ⟨entries_update spawned.entries ?_, by simp [StartupPoint.tasks], spawned.stop⟩
    rintro other ⟨⟩
    exact known task List.mem_cons_self
  | _ => exact ⟨spawned.entries, by simp [StartupPoint.tasks, endWait], spawned.stop⟩

/-- A future that moves keeps its task. -/
theorem TasksSpawned.setPhase (spawned : TasksSpawned s)
    (here : s.stop = .joining wave fs rest) (found : fs[i]? = some future) (phase : JoinPhase) :
    TasksSpawned
      (setPhase s wave fs rest i future phase) := by
  have known := spawned.stop
  rw [here] at known
  refine ⟨spawned.entries, spawned.startup, ?_⟩
  intro task mem
  obtain ⟨other, inside, rfl⟩ := List.mem_map.mp mem
  rcases List.mem_or_eq_of_mem_set inside with mem | same
  · exact known _ (List.mem_map_of_mem mem)
  · rw [same]
    exact known future.task (List.mem_map_of_mem (List.mem_of_getElem? found))

/-- The shutdown keeps the invariant. -/
theorem TasksSpawned.stopMove (spawned : TasksSpawned s)
    (move : StopMove s next) : TasksSpawned next := by
  have known := spawned.stop
  cases move with
  | collectedAll here =>
    rw [here] at known
    refine ⟨spawned.entries, spawned.startup, ?_⟩
    intro task listed
    refine known task ?_
    simpa [tasks, shutdownFuture] using listed
  | @collects wave svc todo handles rest here =>
    rw [here] at known
    refine ⟨entries_update spawned.entries ?_, spawned.startup, ?_⟩
    · rintro task ⟨⟩
    · intro task listed
      cases held : s.runningTasks (config.id svc) with
      | none =>
        rw [held] at listed
        exact known task listed
      | some found =>
        rw [held] at listed
        simp only [tasks, collect, List.map_append, List.map_cons, List.map_nil, List.mem_append,
          List.mem_singleton] at listed
        rcases listed with listed | rfl
        · exact known task listed
        · exact spawned.entries _ _ held
  | polls here found phase =>
    have kept := spawned.setPhase here found (.waiting s.clock)
    exact ⟨kept.entries, kept.startup, kept.stop⟩
  | joins here found phase finished =>
    have kept := spawned.setPhase here found .joined
    exact ⟨kept.entries, kept.startup, kept.stop⟩
  | aborts here found phase elapsed =>
    have kept := spawned.setPhase here found .aborted
    exact ⟨kept.entries, kept.startup, kept.stop⟩
  | ends here found phase =>
    have kept := spawned.setPhase here found .done
    exact ⟨kept.entries, kept.startup, kept.stop⟩
  | _ => exact ⟨spawned.entries, spawned.startup, by simp [tasks]⟩

theorem TasksSpawned.step (spawned : TasksSpawned s)
    (h : step s a = some next) : TasksSpawned next := by
  cases WaveMove.of_step h with
  | startup _ move => exact spawned.startupMove move
  | stop _ move => exact spawned.stopMove move
  | startupCalled => exact ⟨spawned.entries, by simp [StartupPoint.tasks], spawned.stop⟩
  | stopCalled => exact ⟨spawned.entries, spawned.startup, by simp [tasks]⟩
  | taskFinishes | statusWritten | statusNotified | daemonCancelled
  | timePasses => exact ⟨spawned.entries, spawned.startup, spawned.stop⟩

theorem TasksSpawned.of_run (spawned : TasksSpawned s)
    (run : Run Wave.step s acts next) : TasksSpawned next := by
  induction run with
  | nil => exact spawned
  | snoc _ _ h ih => exact ih.step h

/-- The shutdown gets on, possibly after a task has finished. -/
def GetsOn (s : WaveState config) : Prop :=
  ∃ acts next, Run Wave.step s acts next ∧ next.stop.remaining < s.stop.remaining

theorem GetsOn.of_enabled (a : WaveAction) (mine : a.ofStop = true)
    (begun : s.stop ≠ .notStarted) (enabled : (step s a).isSome = true) : GetsOn s := by
  obtain ⟨next, h⟩ := Option.isSome_iff_exists.mp enabled
  obtain ⟨_, less⟩ := remaining_step begun h
  rw [mine, Bool.toNat_true] at less
  exact ⟨[a], next, .snoc .nil trivial h, by omega⟩

/-- A future that waits for a spawned task gets on when the task finishes. -/
theorem GetsOn.of_pending {wave : ServiceWave config} {fs : List (ShutdownFuture config)}
    {rest : List (ServiceWave config)} {i : Nat} {future : ShutdownFuture config}
    (here : s.stop = .joining wave fs rest) (found : fs[i]? = some future)
    (phase : (∃ began, future.phase = .waiting began) ∨ future.phase = .aborted)
    (spawned : future.task < s.spawnedTasks) : GetsOn s := by
  have ready : ∀ s : WaveState config,
      s.stop = .joining wave fs rest →
      future.task ∈ s.finishedTasks → GetsOn s := by
    intro s here finished
    refine of_enabled (.join i .ready) rfl (by simp [here]) ?_
    rcases phase with ⟨began, phase⟩ | phase
    · simp [step, join, here, found, phase, finished]
    · simp [step, join, here, found, phase, finished]
  by_cases finished : future.task ∈ s.finishedTasks
  · exact ready s here finished
  · let middle : WaveState config :=
      { s with
        finishedTasks := future.task :: s.finishedTasks
        log := .finished future.task :: s.log }
    have h : step s (.finish future.task) = some middle := by
      simp [step, spawned, finished, middle]
    obtain ⟨acts, next, run, less⟩ := ready middle here List.mem_cons_self
    exact ⟨_, next, .cons trivial h run, less⟩

/-- A shutdown that has begun and has not returned gets on. -/
theorem GetsOn.of_begun (spawned : TasksSpawned s)
    (begun : s.stop ≠ .notStarted) (going : s.stop ≠ .returned) : GetsOn s := by
  have advance : (stop s).isSome = true → GetsOn s := of_enabled .stop rfl begun
  cases here : s.stop with
  | notStarted => exact absurd here begun
  | returned => exact absurd here going
  | nextWave rest => cases rest <;> exact advance (by simp [stop, here])
  | signalling wave todo rest => cases todo <;> exact advance (by simp [stop, here])
  | announcing wave svc todo rest => exact advance (by simp [stop, here])
  | collecting wave todo handles rest => cases todo <;> exact advance (by simp [stop, here])
  | joining wave fs rest =>
    by_cases finished : ∀ future ∈ fs, future.phase = .done
    · exact advance (by simpa [stop, here] using finished)
    · push Not at finished
      obtain ⟨future, mem, going⟩ := finished
      obtain ⟨i, found⟩ := List.mem_iff_getElem?.mp mem
      have known : future.task < s.spawnedTasks := by
        refine spawned.stop _ ?_
        rw [here]
        exact List.mem_map_of_mem mem
      cases phase : future.phase with
      | created =>
        refine of_enabled (.join i .poll) rfl begun ?_
        simp [step, join, here, found, phase]
      | waiting began => exact of_pending here found (.inl ⟨began, phase⟩) known
      | aborted => exact of_pending here found (.inr phase) known
      | joined =>
        refine of_enabled (.join i .announce) rfl begun ?_
        simp [step, join, here, found, phase]
      | done => exact absurd phase going

/-- A shutdown that has begun can come to its end. -/
theorem stop_returns (spawned : TasksSpawned s) (begun : s.stop ≠ .notStarted) :
    ∃ acts finish, Run Wave.step s acts finish ∧ finish.stop = .returned := by
  -- By induction on the operations the shutdown has before it.
  induction bound : s.stop.remaining using Nat.strong_induction_on
    generalizing s with
  | _ remaining ih =>
    by_cases going : s.stop = .returned
    · exact ⟨[], s, .nil, going⟩
    · obtain ⟨first, middle, run, less⟩ := GetsOn.of_begun spawned begun going
      obtain ⟨acts, finish, rest, finished⟩ :=
        ih _ (bound ▸ less) (spawned.of_run run) (operations_bounded begun run).1 rfl
      exact ⟨first ++ acts, finish, run.append rest, finished⟩

/-! ### Every run -/

/-- In every run of a startup and a shutdown over any list of services: a
service is spawned after all services of a higher priority, whose waits are
over, and signalled after the tasks that the shutdown found for the services of
a lower priority have been joined; none is spawned or signalled twice.  What the
shutdown finds is what `running_tasks` holds, all of it when the startup had
returned.  A shutdown that has begun takes a bounded number of operations, can
always be brought to its end, and has signalled every service once when it
returns. -/
theorem waves_ordered {state : WaveState config} {schedule : List WaveAction}
    (run : Run Wave.step (WaveState.initial config) schedule state) :
    WaveOrder config state.log ∧ state.runningTasks = running config state.log ∧
      (state.startup = .returned → state.stop = .notStarted →
        ∀ more finish, Run Wave.step state more finish → EntriesJoined state finish) ∧
      (state.stop = .returned → ∀ service, state.log.count (.signalled service) = 1) ∧
      (state.stop ≠ .notStarted → (∃ more finish, Run Wave.step state more finish ∧
          finish.stop = .returned) ∧
        ∀ more finish, Run Wave.step state more finish →
          more.countP WaveAction.ofStop ≤ state.stop.remaining) := by
  have progress := WaveProgress.of_run run
  have order := WaveOrder.of_justified progress.justified
  refine ⟨order, progress.shared.tasks, ?_, ?_, ?_⟩
  · intro ended idle more finish rest
    exact EntriesJoined.of_run progress ended idle rest
      (.of_run (run.append rest))
  · intro finished service
    have signalled := progress.stop
    rw [finished] at signalled
    have least : 0 < state.log.count (.signalled service) :=
      List.count_pos_iff.mpr (signalled service)
    have most := order.signalled_once service
    omega
  · intro begun
    constructor
    · exact stop_returns (TasksSpawned.initial.of_run run) begun
    · intro more finish rest
      have bound := (operations_bounded begun rest).2
      omega

/-- A service that others need, and one that needs it. -/
def twoWaves : WaveConfig :=
  { services := [⟨⟨0⟩, 0, .standard⟩, ⟨⟨1⟩, 100, .isolated⟩]
    highPriorityRuntime := false
    waveSpawnTimeout := 5
    gracePeriod := 3 }

/-- The first wave becomes healthy after a notification, the second one times
out. -/
def startTwoWaves : List WaveAction :=
  List.flatten
    [[.runStartup], List.replicate 8 .startup,
      [.writeStatus ⟨1⟩ .healthy, .notifyStatus, .wake .notification],
      List.replicate 9 .startup, [.tick 5, .startup, .startup]]

/-- The service of the first wave to stop outlives the grace period. -/
def stopTwoWaves : List WaveAction :=
  List.flatten
    [[.runStop], List.replicate 6 .stop, [.join 0 .poll, .tick 3, .join 0 .graceElapsed, .finish 1,
        .join 0 .ready, .join 0 .announce],
      List.replicate 7 .stop,
      [.join 0 .poll, .finish 0, .join 0 .ready, .join 0 .announce, .stop, .stop]]

theorem waves_ordered_two_waves :
    ∃ state, Run Wave.step (WaveState.initial twoWaves)
        (startTwoWaves ++ stopTwoWaves) state ∧
      (state.stop = .returned ∧ .waitEnded 100 .healthy ∈ state.log ∧
        .waitEnded 0 (.timedOut 0 5) ∈ state.log ∧
        .aborted 1 8 ∈ state.log ∧ .joined 0 ∈ state.log) ∧
      WaveOrder twoWaves state.log := by
  obtain ⟨state, run, outcome⟩ : ∃ state,
      Run Wave.step (WaveState.initial twoWaves)
        (startTwoWaves ++ stopTwoWaves) state ∧
      (state.stop = .returned ∧ .waitEnded 100 .healthy ∈ state.log ∧
        .waitEnded 0 (.timedOut 0 5) ∈ state.log ∧
        .aborted 1 8 ∈ state.log ∧ .joined 0 ∈ state.log) :=
    Run.exists_of_check (by decide +kernel)
  exact ⟨state, run, outcome, (waves_ordered run).1⟩

end Ordering

end ServiceDaemon
