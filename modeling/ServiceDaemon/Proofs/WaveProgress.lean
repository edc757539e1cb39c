/-
Purpose: How far the startup and the shutdown are in their loops over the waves,
  read off the log, and that every event of the log is allowed by the ones
  before it.
Main exports: running, WaitEnd.Grounded, WaveAllowed
-/
import ServiceDaemon.Lib.EventLog
import ServiceDaemon.Lib.Threads
import ServiceDaemon.Core.Wave

namespace ServiceDaemon

open AsyncLib StepSystem OrderedGroups EventLog

/-!
The order of the events follows from the positions of the two loops.  A loop
over the waves has passed the waves before its current one, and the log says
what happened to those.  The groups are ordered by priority, so a service of
another priority is in a passed wave exactly when its priority comes first.
-/

/-! ### What an event needs -/

/-- What `running_tasks` holds after the events of a log. -/
def running (config : WaveConfig) :
    List (WaveEvent config) → ServiceId → Option SupervisorTask
  | [] => fun _ => none
  | .inserted svc task :: earlier =>
    Function.update (running config earlier) (config.id svc) (some task)
  | .lookedUp svc _ :: earlier =>
    Function.update (running config earlier) (config.id svc) none
  | _ :: earlier => running config earlier

/-- The reason for which a wait ended is true. -/
def WaitEnd.Grounded (config : WaveConfig) (priority : Fin 256)
    (earlier : List (WaveEvent config)) : WaitEnd → Prop
  | .healthy =>
    ∀ svc, config.priority svc = priority → .sawHealthy svc ∈ earlier
  | .timedOut began now =>
    .waitBegan priority began ∈ earlier ∧ config.waveSpawnTimeout ≤ now - began
  | .shutdown => .daemonCancelled ∈ earlier

/-- What an event needs to have happened, and not to have happened, before
it. -/
def WaveAllowed (config : WaveConfig) (earlier : List (WaveEvent config)) :
    WaveEvent config → Prop
  | .spawned svc =>
    .spawned svc ∉ earlier ∧ ∀ higher, config.priority svc < config.priority higher →
        .spawned higher ∈ earlier ∧ ∃ reason, .waitEnded (config.priority higher) reason ∈ earlier
  | .waitEnded priority reason => reason.Grounded config priority earlier
  | .signalled svc =>
    .signalled svc ∉ earlier ∧ (∀ lower, config.priority lower < config.priority svc →
        ∃ found, .lookedUp lower found ∈ earlier) ∧
      ∀ other task, .lookedUp other (some task) ∈ earlier → .joined task ∈ earlier
  | .lookedUp svc found =>
    found = running config earlier (config.id svc)
  | .aborted task now =>
    ∃ began, .awaited task began ∈ earlier ∧ config.gracePeriod ≤ now - began
  | .joined task => .finished task ∈ earlier
  | .inserted .. | .waitBegan .. | .sawHealthy _ | .awaited .. | .finished _
  | .daemonCancelled => True

/-- The event moves the startup on. -/
def WaveEvent.ofStartup {config : WaveConfig} : WaveEvent config → Bool
  | .spawned _ => true
  | _ => false

/-- The event moves the shutdown on. -/
def WaveEvent.ofStop {config : WaveConfig} : WaveEvent config → Bool
  | .signalled _ | .lookedUp .. => true
  | _ => false

section Progress

variable {config : WaveConfig} {log : List (WaveEvent config)}
  {event : WaveEvent config}

/-! ### The waves -/

theorem fromServices_grouping (config : WaveConfig) :
    Grouping (· < ·) config.priority
      (List.finRange config.services.length)
      (ServiceWave.fromServices config) :=
  Grouping.of_group _

theorem fromServices_reverse_grouping (config : WaveConfig) :
    Grouping (fun first second => second < first) config.priority
      (List.finRange config.services.length)
      (ServiceWave.fromServices config).reverse :=
  (fromServices_grouping config).reverse

/-- The services that a loop has before it, none of which has been marked in
the log. -/
structure Unmarked (mark : config.Service → WaveEvent config)
    (log : List (WaveEvent config)) (pending : List config.Service) :
    Prop where
  distinct : pending.Nodup
  absent : ∀ svc ∈ pending, mark svc ∉ log

namespace Unmarked

variable {mark : config.Service → WaveEvent config}
  {pending : List config.Service} {svc : config.Service}

theorem start {before : Fin 256 → Fin 256 → Prop}
    (grouping : Grouping before config.priority (List.finRange config.services.length) waves)
    (absent : ∀ svc, mark svc ∉ log) :
    Unmarked mark log (members waves) :=
  ⟨grouping.nodup (List.nodup_finRange _), fun svc _ => absent svc⟩

theorem mono (foreign : ∀ svc, event ≠ mark svc) (unmarked : Unmarked mark log pending) :
    Unmarked mark (event :: log) pending := by
  refine ⟨unmarked.distinct, ?_⟩
  intro svc mem marked
  rcases List.mem_cons.mp marked with same | marked
  · exact foreign svc same.symm
  · exact unmarked.absent svc mem marked

/-- Marking the next service leaves the others unmarked. -/
theorem next (injective : Function.Injective mark) (unmarked : Unmarked mark log (svc :: pending)) :
    Unmarked mark (mark svc :: log) pending := by
  have apart := List.nodup_cons.mp unmarked.distinct
  refine ⟨apart.2, ?_⟩
  intro other mem marked
  rcases List.mem_cons.mp marked with same | marked
  · exact apart.1 (injective same ▸ mem)
  · exact unmarked.absent other (List.mem_cons_of_mem _ mem) marked

end Unmarked

/-! ### The startup -/

theorem ne_spawned (foreign : event.ofStartup = false)
    (service : config.Service) : event ≠ .spawned service := by
  rintro rfl
  cases foreign

/-- The wave has been spawned, and the wait for it is over. -/
def Launched (log : List (WaveEvent config)) (wave : ServiceWave config) :
    Prop :=
  (∀ svc ∈ wave.2, .spawned svc ∈ log) ∧ ∃ reason, .waitEnded wave.1 reason ∈ log

/-- The startup is in a wave and has spawned its services up to `todo`. -/
structure Launching (log : List (WaveEvent config))
    (wave : ServiceWave config) (todo : List config.Service)
    (rest : List (ServiceWave config)) : Prop where
  waves :
    Passed (ServiceWave.fromServices config).reverse (Launched log)
      (wave :: rest)
  services : Passed wave.2 (fun svc => .spawned svc ∈ log) todo
  ahead : Unmarked .spawned log (todo ++ members rest)

/-- How far the startup is. -/
def StartupProgress (log : List (WaveEvent config)) :
    StartupPoint config → Prop
  | .notStarted => ∀ svc, .spawned svc ∉ log
  | .nextWave rest =>
    Passed (ServiceWave.fromServices config).reverse (Launched log) rest ∧
      Unmarked .spawned log (members rest)
  | .spawning wave todo rest | .inserting wave _ _ todo rest =>
    Launching log wave todo rest
  | .waiting wave began rest | .tokenCheck wave began rest
  | .arming wave began rest | .sleeping wave began _ _ rest =>
    Launching log wave [] rest ∧ .waitBegan wave.1 began ∈ log
  | .checking wave began _ todo rest =>
    Launching log wave [] rest ∧ .waitBegan wave.1 began ∈ log ∧
      Passed wave.2 (fun svc => .sawHealthy svc ∈ log) todo
  | .returned => True

theorem Launched.mono (event : WaveEvent config)
    (launched : Launched log wave) : Launched (event :: log) wave := by
  obtain ⟨spawned, reason, ended⟩ := launched
  exact ⟨fun svc listed => List.mem_cons_of_mem _ (spawned svc listed),
    reason, List.mem_cons_of_mem _ ended⟩

namespace Launching

variable {wave : ServiceWave config} {todo : List config.Service}
  {rest : List (ServiceWave config)} {svc : config.Service}

theorem mono (foreign : event.ofStartup = false) (launching : Launching log wave todo rest) :
    Launching (event :: log) wave todo rest where
  waves := launching.waves.mono fun _ => Launched.mono event
  services := launching.services.mono fun _ => List.mem_cons_of_mem _
  ahead := launching.ahead.mono (ne_spawned foreign)

theorem spawns (launching : Launching log wave (svc :: todo) rest) :
    Launching (.spawned svc :: log) wave todo rest where
  waves := launching.waves.mono fun _ => Launched.mono _
  services := (launching.services.mono fun _ => List.mem_cons_of_mem _).next List.mem_cons_self
  ahead := launching.ahead.next fun _ _ same => WaveEvent.spawned.inj same

/-- The next service of the wave may be spawned. -/
theorem allowed (launching : Launching log wave (svc :: todo) rest) :
    WaveAllowed config log (.spawned svc) := by
  constructor
  · exact launching.ahead.absent svc List.mem_cons_self
  · intro higher above
    have here : config.priority svc = wave.1 :=
      (fromServices_reverse_grouping config).keyed wave launching.waves.mem
        svc launching.services.mem
    rw [here] at above
    obtain ⟨group, launched, inside, keyed⟩ :=
      (fromServices_reverse_grouping config).mem_passed (fun _ => lt_irrefl _)
        (fun _ _ => lt_asymm) launching.waves (List.mem_finRange higher) above
    rw [← keyed]
    exact ⟨launched.1 higher inside, launched.2⟩

/-- The services of the wave are all services of its priority, so a pass over
the wave sees every one of them. -/
theorem healthy (launching : Launching log wave todo rest)
    (seen : Passed wave.2 (fun svc => .sawHealthy svc ∈ log) []) :
    WaitEnd.healthy.Grounded config wave.1 log := by
  intro svc same
  obtain ⟨group, listed, inside, keyed⟩ :=
    (fromServices_reverse_grouping config).group_of (List.mem_finRange svc)
  have mine : group = wave :=
    (fromServices_reverse_grouping config).unique (fun _ => lt_irrefl _) listed
      launching.waves.mem (keyed.trans same)
  rw [mine] at inside
  exact seen.whole svc inside

theorem ends (launching : Launching log wave [] rest) (reason : WaitEnd) :
    StartupProgress (.waitEnded wave.1 reason :: log) (.nextWave rest) := by
  have kept : Launching (.waitEnded wave.1 reason :: log) wave [] rest := launching.mono rfl
  refine ⟨kept.waves.next ⟨?_, reason, List.mem_cons_self⟩, kept.ahead⟩
  exact kept.services.whole

end Launching

/-- An event that is no spawn leaves the startup where it is. -/
theorem StartupProgress.mono (foreign : event.ofStartup = false)
    (progress : StartupProgress log point) : StartupProgress (event :: log) point := by
  cases point with
  | notStarted =>
    intro svc spawned
    rcases List.mem_cons.mp spawned with same | spawned
    · exact ne_spawned foreign svc same.symm
    · exact progress svc spawned
  | nextWave rest =>
    exact ⟨progress.1.mono fun _ => Launched.mono event, progress.2.mono (ne_spawned foreign)⟩
  | spawning wave todo rest => exact Launching.mono foreign progress
  | inserting wave svc task todo rest => exact Launching.mono foreign progress
  | waiting wave began rest | tokenCheck wave began rest
  | arming wave began rest | sleeping wave began seen wakeAt rest =>
    exact ⟨progress.1.mono foreign, List.mem_cons_of_mem _ progress.2⟩
  | checking wave began seen todo rest =>
    exact ⟨progress.1.mono foreign, List.mem_cons_of_mem _ progress.2.1,
      progress.2.2.mono fun _ => List.mem_cons_of_mem _⟩
  | returned => trivial

/-! ### The shutdown -/

theorem ne_signalled (foreign : event.ofStop = false)
    (service : config.Service) : event ≠ .signalled service := by
  rintro rfl
  cases foreign

theorem ne_lookedUp (foreign : event.ofStop = false) (svc : config.Service)
    (found : Option SupervisorTask) : event ≠ .lookedUp svc found := by
  rintro rfl
  cases foreign

/-- The wave has been signalled, and its handles have been looked up. -/
def Stopped (log : List (WaveEvent config)) (wave : ServiceWave config) :
    Prop :=
  ∀ svc ∈ wave.2, .signalled svc ∈ log ∧ ∃ found, .lookedUp svc found ∈ log

/-- The shutdown is in a wave and has signalled its services up to `todo`. -/
structure Signalling (log : List (WaveEvent config))
    (wave : ServiceWave config) (todo : List config.Service)
    (rest : List (ServiceWave config)) : Prop where
  waves :
    Passed (ServiceWave.fromServices config) (Stopped log) (wave :: rest)
  services : Passed wave.2 (fun svc => .signalled svc ∈ log) todo
  ahead : Unmarked .signalled log (todo ++ members rest)

/-- Every task that was found has been joined, except those the shutdown still
has to wait for. -/
def Outstanding (log : List (WaveEvent config)) (owed : SupervisorTask → Prop) : Prop :=
  ∀ svc task, .lookedUp svc (some task) ∈ log → .joined task ∈ log ∨ owed task

/-- The future has not seen its task finish. -/
def JoinPhase.pending : JoinPhase → Bool
  | .created | .waiting _ | .aborted => true
  | .joined | .done => false

/-- One of the futures has to wait for the task. -/
def Owed (fs : List (ShutdownFuture config)) (task : SupervisorTask) :
    Prop :=
  ∃ future ∈ fs, future.task = task ∧ future.phase.pending = true

/-- The wait of a future that is in its `select!` is in the log. -/
def WaitsLogged (log : List (WaveEvent config)) (fs : List (ShutdownFuture config)) : Prop :=
  ∀ future ∈ fs, ∀ began, future.phase = .waiting began → .awaited future.task began ∈ log

/-- How far the shutdown is. -/
def StopProgress (log : List (WaveEvent config)) : StopPoint config → Prop
  | .notStarted =>
    (∀ svc, .signalled svc ∉ log) ∧ ∀ svc found, .lookedUp svc found ∉ log
  | .nextWave rest =>
    Passed (ServiceWave.fromServices config) (Stopped log) rest ∧
      Unmarked .signalled log (members rest) ∧
      Outstanding log fun _ => False
  | .signalling wave todo rest | .announcing wave _ todo rest =>
    Signalling log wave todo rest ∧ Outstanding log fun _ => False
  | .collecting wave todo handles rest =>
    Signalling log wave [] rest ∧ Passed wave.2 (fun svc => ∃ found, .lookedUp svc found ∈ log)
        todo ∧
      Outstanding log (· ∈ handles.map Prod.snd)
  | .joining wave fs rest =>
    Signalling log wave [] rest ∧ (∀ svc ∈ wave.2, ∃ found, .lookedUp svc found ∈ log) ∧
      Outstanding log (Owed fs) ∧ WaitsLogged log fs
  | .returned => ∀ svc, .signalled svc ∈ log

theorem Stopped.mono (event : WaveEvent config)
    (stopped : Stopped log wave) : Stopped (event :: log) wave := by
  intro svc listed
  obtain ⟨signalled, found, lookedUp⟩ := stopped svc listed
  exact ⟨List.mem_cons_of_mem _ signalled, found, List.mem_cons_of_mem _ lookedUp⟩

theorem WaitsLogged.mono (event : WaveEvent config) (awaited : WaitsLogged log futures) :
    WaitsLogged (event :: log) futures :=
  fun future listed began phase =>
    List.mem_cons_of_mem _ (awaited future listed began phase)

namespace Signalling

variable {wave : ServiceWave config} {todo : List config.Service}
  {rest : List (ServiceWave config)} {svc : config.Service}

theorem mono (foreign : ∀ svc, event ≠ .signalled svc)
    (signalling : Signalling log wave todo rest) :
    Signalling (event :: log) wave todo rest where
  waves := signalling.waves.mono fun _ => Stopped.mono event
  services := signalling.services.mono fun _ => List.mem_cons_of_mem _
  ahead := signalling.ahead.mono foreign

theorem signals (signalling : Signalling log wave (svc :: todo) rest) :
    Signalling (.signalled svc :: log) wave todo rest where
  waves := signalling.waves.mono fun _ => Stopped.mono _
  services := (signalling.services.mono fun _ => List.mem_cons_of_mem _).next List.mem_cons_self
  ahead := signalling.ahead.next fun _ _ same => WaveEvent.signalled.inj same

/-- The next service of the wave may be signalled, when nothing is left to
join. -/
theorem allowed (signalling : Signalling log wave (svc :: todo) rest)
    (outstanding : Outstanding log fun _ => False) : WaveAllowed config log (.signalled svc) := by
  refine ⟨signalling.ahead.absent svc List.mem_cons_self, ?_, ?_⟩
  · intro lower below
    have here : config.priority svc = wave.1 :=
      (fromServices_grouping config).keyed wave signalling.waves.mem svc signalling.services.mem
    rw [here] at below
    obtain ⟨group, stopped, inside, _⟩ :=
      (fromServices_grouping config).mem_passed (fun _ => lt_irrefl _)
        (fun _ _ => lt_asymm) signalling.waves (List.mem_finRange lower) below
    exact (stopped lower inside).2
  · intro other task found
    rcases outstanding other task found with joined | impossible
    · exact joined
    · exact impossible.elim

theorem ends (signalling : Signalling log wave [] rest)
    (lookedUp : ∀ svc ∈ wave.2, ∃ found, .lookedUp svc found ∈ log) :
    Passed (ServiceWave.fromServices config) (Stopped log) rest ∧
      Unmarked .signalled log (members rest) := by
  refine ⟨signalling.waves.next ?_, signalling.ahead⟩
  intro svc listed
  exact ⟨signalling.services.whole svc listed, lookedUp svc listed⟩

end Signalling

namespace Outstanding

variable {owed fewer : SupervisorTask → Prop}

theorem mono (foreign : ∀ svc found, event ≠ .lookedUp svc found)
    (outstanding : Outstanding log owed)
    (shrinks : ∀ task, owed task → event = .joined task ∨ fewer task) :
    Outstanding (event :: log) fewer := by
  intro svc task lookedUp
  rcases List.mem_cons.mp lookedUp with same | lookedUp
  · exact absurd same.symm (foreign svc (some task))
  · rcases outstanding svc task lookedUp with joined | waiting
    · exact .inl (List.mem_cons_of_mem _ joined)
    · rcases shrinks task waiting with same | waiting
      · exact .inl (same ▸ List.mem_cons_self)
      · exact .inr waiting

theorem weaken (outstanding : Outstanding log owed)
    (shrinks : ∀ task, owed task → fewer task) : Outstanding log fewer := by
  intro svc task lookedUp
  exact (outstanding svc task lookedUp).imp_right (shrinks task)

/-- What a lookup finds is owed from then on. -/
theorem collects (outstanding : Outstanding log owed)
    (kept : ∀ task, owed task → fewer task) (added : ∀ task, found = some task → fewer task) :
    Outstanding (.lookedUp svc found :: log) fewer := by
  intro other task lookedUp
  rcases List.mem_cons.mp lookedUp with same | lookedUp
  · cases same
    exact .inr (added task rfl)
  · rcases outstanding other task lookedUp with joined | waiting
    · exact .inl (List.mem_cons_of_mem _ joined)
    · exact .inr (kept task waiting)

end Outstanding

/-- An event that is no signal and no lookup leaves the shutdown where it
is. -/
theorem StopProgress.mono (foreign : event.ofStop = false)
    (progress : StopProgress log point) : StopProgress (event :: log) point := by
  have noSignal := ne_signalled foreign
  have noLookup := ne_lookedUp foreign
  have stays : ∀ {owed : SupervisorTask → Prop}, Outstanding log owed →
      Outstanding (event :: log) owed :=
    fun outstanding => outstanding.mono noLookup fun _ => .inr
  cases point with
  | notStarted =>
    constructor
    · intro svc signalled
      rcases List.mem_cons.mp signalled with same | signalled
      · exact noSignal svc same.symm
      · exact progress.1 svc signalled
    · intro svc found lookedUp
      rcases List.mem_cons.mp lookedUp with same | lookedUp
      · exact noLookup svc found same.symm
      · exact progress.2 svc found lookedUp
  | nextWave rest =>
    exact ⟨progress.1.mono fun _ => Stopped.mono event,
      progress.2.1.mono noSignal, stays progress.2.2⟩
  | signalling wave todo rest | announcing wave svc todo rest =>
    exact ⟨progress.1.mono noSignal, stays progress.2⟩
  | collecting wave todo handles rest =>
    refine ⟨progress.1.mono noSignal, progress.2.1.mono ?_, stays progress.2.2⟩
    rintro svc ⟨found, lookedUp⟩
    exact ⟨found, List.mem_cons_of_mem _ lookedUp⟩
  | joining wave fs rest =>
    refine ⟨progress.1.mono noSignal, ?_, stays progress.2.2.1, progress.2.2.2.mono event⟩
    intro svc listed
    obtain ⟨found, lookedUp⟩ := progress.2.1 svc listed
    exact ⟨found, List.mem_cons_of_mem _ lookedUp⟩
  | returned => exact fun svc => List.mem_cons_of_mem _ (progress svc)

namespace StopProgress

variable {wave : ServiceWave config} {rest : List (ServiceWave config)}

/-- The next handle of the wave is looked up. -/
theorem collects (progress : StopProgress log (.collecting wave (svc :: todo) handles rest))
    (found : Option SupervisorTask) :
    StopProgress (.lookedUp svc found :: log)
      (.collecting wave todo (Wave.collect svc found handles) rest) := by
  obtain ⟨signalling, passed, outstanding⟩ := progress
  refine ⟨signalling.mono ?_, ?_, outstanding.collects ?_ ?_⟩
  · rintro _ ⟨⟩
  · refine Passed.next (passed.mono ?_) ⟨found, List.mem_cons_self⟩
    rintro other ⟨answer, lookedUp⟩
    exact ⟨answer, List.mem_cons_of_mem _ lookedUp⟩
  · intro task mem
    cases found with
    | none => exact mem
    | some answer =>
      simp only [Wave.collect, List.map_append, List.mem_append]
      exact .inl mem
  · rintro task rfl
    simp [Wave.collect]

/-- All handles of the wave have been looked up, and their futures made. -/
theorem collectedAll (progress : StopProgress log (.collecting wave [] handles rest)) :
    StopProgress log
      (.joining wave (handles.map Wave.shutdownFuture) rest) := by
  obtain ⟨signalling, passed, outstanding⟩ := progress
  refine ⟨signalling, passed.whole, outstanding.weaken ?_, ?_⟩
  · intro task mem
    obtain ⟨handle, mem, same⟩ := List.mem_map.mp mem
    exact ⟨Wave.shutdownFuture handle, List.mem_map.mpr ⟨handle, mem, rfl⟩, same, rfl⟩
  · intro future mem began waiting
    obtain ⟨handle, _, rfl⟩ := List.mem_map.mp mem
    cases waiting

/-- The futures of the wave are done. -/
theorem joinedAll (progress : StopProgress log (.joining wave fs rest))
    (finished : ∀ future ∈ fs, future.phase = .done) : StopProgress log (.nextWave rest) := by
  obtain ⟨signalling, lookedUp, outstanding, _⟩ := progress
  obtain ⟨waves, ahead⟩ := signalling.ends lookedUp
  refine ⟨waves, ahead, outstanding.weaken ?_⟩
  rintro task ⟨future, mem, _, pending⟩
  rw [finished future mem] at pending
  cases pending

theorem finishes (progress : StopProgress log (.nextWave [])) :
    StopProgress log (.returned : StopPoint config) := by
  intro svc
  obtain ⟨wave, listed, inside, _⟩ :=
    (fromServices_grouping config).group_of (List.mem_finRange svc)
  exact (progress.1.whole wave listed svc inside).1

end StopProgress

/-! ### The whole state -/

/-- What the log knows of the shared data. -/
structure SharedData (s : WaveState config) : Prop where
  cancelled : s.daemonCancelled = true → .daemonCancelled ∈ s.log
  finished : ∀ task ∈ s.finishedTasks, .finished task ∈ s.log
  tasks : s.runningTasks = running config s.log

/-- The invariant of the two calls. -/
structure WaveProgress (s : WaveState config) : Prop where
  justified : Justified (WaveAllowed config) s.log
  startup : StartupProgress s.log s.startup
  stop : StopProgress s.log s.stop
  shared : SharedData s

variable {s next : WaveState config}

theorem WaveProgress.initial : WaveProgress (.initial config) where
  justified := trivial
  startup := by simp [StartupProgress, WaveState.initial]
  stop := by simp [StopProgress, WaveState.initial]
  shared := ⟨by simp [WaveState.initial], by simp [WaveState.initial], rfl⟩

namespace SharedData

/-- A step that touches none of the shared data and records nothing. -/
theorem silent (shared : SharedData s) (log : next.log = s.log)
    (cancelled : next.daemonCancelled = s.daemonCancelled)
    (finished : next.finishedTasks = s.finishedTasks)
    (tasks : next.runningTasks = s.runningTasks) : SharedData next := by
  constructor
  · rw [cancelled, log]
    exact shared.cancelled
  · rw [finished, log]
    exact shared.finished
  · rw [tasks, log]
    exact shared.tasks

/-- A step that touches none of the shared data but the log. -/
theorem records (shared : SharedData s) (log : next.log = event :: s.log)
    (cancelled : next.daemonCancelled = s.daemonCancelled)
    (finished : next.finishedTasks = s.finishedTasks)
    (tasks : next.runningTasks = running config (event :: s.log)) : SharedData next := by
  constructor
  · intro now
    rw [log]
    rw [cancelled] at now
    exact List.mem_cons_of_mem _ (shared.cancelled now)
  · intro task listed
    rw [log]
    rw [finished] at listed
    exact List.mem_cons_of_mem _ (shared.finished task listed)
  · rw [tasks, log]

/-- The daemon token is cancelled. -/
theorem cancels (shared : SharedData s) (log : next.log = .daemonCancelled :: s.log)
    (finished : next.finishedTasks = s.finishedTasks)
    (tasks : next.runningTasks = s.runningTasks) : SharedData next := by
  constructor
  · intro _
    rw [log]
    exact List.mem_cons_self
  · intro task mem
    rw [log]
    rw [finished] at mem
    exact List.mem_cons_of_mem _ (shared.finished task mem)
  · rw [tasks, log]
    exact shared.tasks

end SharedData

theorem WaveProgress.endWait (progress : WaveProgress s) (launching : Launching s.log wave [] rest)
    (grounded : reason.Grounded config wave.1 s.log) :
    WaveProgress (Wave.endWait s wave rest reason) where
  justified := ⟨grounded, progress.justified⟩
  startup := launching.ends reason
  stop := progress.stop.mono rfl
  shared := progress.shared.records rfl rfl rfl progress.shared.tasks

/-- The startup keeps the invariant. -/
theorem WaveProgress.startupMove (progress : WaveProgress s)
    (move : StartupMove s next) : WaveProgress next := by
  have point := progress.startup
  cases move with
  | finishes here | skipsWaves here cancelled =>
    exact ⟨progress.justified, trivial, progress.stop, progress.shared.silent rfl rfl rfl rfl⟩
  | beginsWave here =>
    rw [here] at point
    exact ⟨progress.justified, ⟨point.1, .start, point.2⟩, progress.stop,
      progress.shared.silent rfl rfl rfl rfl⟩
  | beginsWait here =>
    rw [here] at point
    exact ⟨⟨trivial, progress.justified⟩,
      ⟨point.mono rfl, List.mem_cons_self⟩, progress.stop.mono rfl,
      progress.shared.records rfl rfl rfl progress.shared.tasks⟩
  | fails here missing =>
    exact ⟨⟨trivial, progress.justified⟩, trivial,
      progress.stop.mono rfl, progress.shared.cancels rfl rfl rfl⟩
  | spawns here =>
    rw [here] at point
    exact ⟨⟨point.allowed, progress.justified⟩, point.spawns, progress.stop.mono rfl,
      progress.shared.records rfl rfl rfl progress.shared.tasks⟩
  | inserts here =>
    rw [here] at point
    refine ⟨⟨trivial, progress.justified⟩, Launching.mono rfl point,
      progress.stop.mono rfl, progress.shared.records rfl rfl rfl ?_⟩
    simp only [running, progress.shared.tasks]
  | looksAtToken here | arms here =>
    rw [here] at point
    exact ⟨progress.justified, point, progress.stop, progress.shared.silent rfl rfl rfl rfl⟩
  | timesOut here elapsed =>
    rw [here] at point
    exact progress.endWait point.1 ⟨point.2, elapsed⟩
  | interrupted here cancelled =>
    have grounded := progress.shared.cancelled cancelled
    rcases here with ⟨began, here⟩ | ⟨began, seen, wakeAt, here⟩
    · rw [here] at point
      exact progress.endWait point.1 grounded
    · rw [here] at point
      exact progress.endWait point.1 grounded
  | beginsCheck here =>
    rw [here] at point
    exact ⟨progress.justified, ⟨point.1, point.2, .start⟩, progress.stop,
      progress.shared.silent rfl rfl rfl rfl⟩
  | allHealthy here =>
    rw [here] at point
    exact progress.endWait point.1 (point.1.healthy point.2.2)
  | seesHealthy here healthy =>
    rw [here] at point
    refine ⟨⟨trivial, progress.justified⟩, ⟨point.1.mono rfl, List.mem_cons_of_mem _ point.2.1, ?_⟩,
      progress.stop.mono rfl,
      progress.shared.records rfl rfl rfl progress.shared.tasks⟩
    exact (point.2.2.mono fun _ => List.mem_cons_of_mem _).next List.mem_cons_self
  | sleeps here =>
    rw [here] at point
    exact ⟨progress.justified, ⟨point.1, point.2.1⟩, progress.stop,
      progress.shared.silent rfl rfl rfl rfl⟩
  | wakes here =>
    rw [here] at point
    exact ⟨progress.justified, point, progress.stop, progress.shared.silent rfl rfl rfl rfl⟩

/-! ### The futures of the shutdown -/

section Futures

variable {fs : List (ShutdownFuture config)} {index : Nat}
  {future : ShutdownFuture config} {phase : JoinPhase}

/-- What is owed stays owed while a future moves, unless it is the task of that
future. -/
theorem Owed.set (found : fs[index]? = some future) (owed : Owed fs task) :
    future.task = task ∨ Owed (fs.set index { future with phase := phase }) task := by
  obtain ⟨other, mem, mine, pending⟩ := owed
  rcases Threads.mem_set_cases found mem with same | mem
  · exact .inl (same ▸ mine)
  · exact .inr ⟨other, mem, mine, pending⟩

theorem Owed.set_pending (found : fs[index]? = some future)
    (pending : phase.pending = true) (owed : Owed fs task) :
    Owed (fs.set index { future with phase := phase }) task := by
  rcases owed.set found with same | owed
  · exact ⟨_, Threads.mem_set_self found, same, pending⟩
  · exact owed

/-- A future that has joined its task owes nothing, and neither did it after
the join. -/
theorem Owed.set_joined (found : fs[index]? = some future)
    (joined : future.phase = .joined) (owed : Owed fs task) :
    Owed (fs.set index { future with phase := phase }) task := by
  obtain ⟨other, mem, mine, pending⟩ := owed
  rcases Threads.mem_set_cases found mem with same | mem
  · rw [same, joined] at pending
    cases pending
  · exact ⟨other, mem, mine, pending⟩

theorem WaitsLogged.set (logged : WaitsLogged log fs)
    (now : ∀ began, phase = .waiting began → .awaited future.task began ∈ log) :
    WaitsLogged log (fs.set index { future with phase := phase }) := by
  intro other mem began waiting
  rcases List.mem_or_eq_of_mem_set mem with mem | same
  · exact logged other mem began waiting
  · rw [same] at waiting ⊢
    exact now began waiting

end Futures

/-- A future moves and the event is recorded. -/
theorem WaveProgress.futureMoves (progress : WaveProgress state)
    (here : state.stop = .joining wave fs rest) (allowed : WaveAllowed config state.log event)
    (noSpawn : event.ofStartup = false) (noStop : event.ofStop = false)
    (tasks : running config (event :: state.log) = running config state.log)
    (shrinks : ∀ task, Owed fs task → event = .joined task ∨
      Owed (fs.set index { future with phase := phase }) task)
    (logged : ∀ began, phase = .waiting began → event = .awaited future.task began) :
    WaveProgress
      { Wave.setPhase state wave fs rest index future phase with log := event :: state.log } := by
  have point := progress.stop
  rw [here] at point
  refine ⟨⟨allowed, progress.justified⟩, progress.startup.mono noSpawn,
    ⟨point.1.mono (ne_signalled noStop), ?_, point.2.2.1.mono (ne_lookedUp noStop) shrinks, ?_⟩,
    progress.shared.records rfl rfl rfl ?_⟩
  · intro svc listed
    obtain ⟨found, lookedUp⟩ := point.2.1 svc listed
    exact ⟨found, List.mem_cons_of_mem _ lookedUp⟩
  · refine (point.2.2.2.mono event).set fun began waiting => ?_
    rw [logged began waiting]
    exact List.mem_cons_self
  · rw [tasks]
    exact progress.shared.tasks

/-- The shutdown keeps the invariant. -/
theorem WaveProgress.stopMove (progress : WaveProgress s)
    (move : StopMove s next) : WaveProgress next := by
  have point := progress.stop
  cases move with
  | finishes here =>
    rw [here] at point
    exact ⟨⟨trivial, progress.justified⟩, progress.startup.mono rfl,
      point.finishes.mono rfl, progress.shared.cancels rfl rfl rfl⟩
  | beginsWave here =>
    rw [here] at point
    exact ⟨progress.justified, progress.startup, ⟨⟨point.1, .start, point.2.1⟩, point.2.2⟩,
      progress.shared.silent rfl rfl rfl rfl⟩
  | signalledAll here =>
    rw [here] at point
    exact ⟨progress.justified, progress.startup,
      ⟨point.1, .start, point.2.weaken fun _ => False.elim⟩,
      progress.shared.silent rfl rfl rfl rfl⟩
  | signals here =>
    rw [here] at point
    refine ⟨⟨point.1.allowed point.2, progress.justified⟩,
      progress.startup.mono rfl, ⟨point.1.signals, point.2.mono ?_ ?_⟩,
      progress.shared.records rfl rfl rfl progress.shared.tasks⟩
    · rintro _ _ ⟨⟩
    · exact fun _ => .inr
  | announces here =>
    rw [here] at point
    exact ⟨progress.justified, progress.startup, point, progress.shared.silent rfl rfl rfl rfl⟩
  | collectedAll here =>
    rw [here] at point
    exact ⟨progress.justified, progress.startup, point.collectedAll,
      progress.shared.silent rfl rfl rfl rfl⟩
  | collects here =>
    rw [here] at point
    refine ⟨⟨congrFun progress.shared.tasks _, progress.justified⟩,
      progress.startup.mono rfl, point.collects _,
      progress.shared.records rfl rfl rfl ?_⟩
    simp only [running, progress.shared.tasks]
  | joinedAll here finished =>
    rw [here] at point
    exact ⟨progress.justified, progress.startup, point.joinedAll finished,
      progress.shared.silent rfl rfl rfl rfl⟩
  | polls here found phase =>
    refine progress.futureMoves here trivial rfl rfl rfl ?_ ?_
    · exact fun _ owed => .inr (owed.set_pending found rfl)
    · rintro began ⟨⟩
      rfl
  | @joins wave fs rest index future here found phase finished =>
    refine progress.futureMoves here (progress.shared.finished _ finished) rfl rfl rfl ?_ ?_
    · intro task owed
      rcases owed.set found with same | owed
      · exact .inl (congrArg WaveEvent.joined same)
      · exact .inr owed
    · exact fun _ waiting => by cases waiting
  | @aborts wave fs rest index future began here found phase elapsed =>
    rw [here] at point
    have listed := List.mem_of_getElem? found
    refine progress.futureMoves here
      ⟨began, point.2.2.2 future listed began phase, elapsed⟩
      rfl rfl rfl ?_ ?_
    · exact fun _ owed => .inr (owed.set_pending found rfl)
    · exact fun _ waiting => by cases waiting
  | ends here found phase =>
    rw [here] at point
    refine ⟨progress.justified, progress.startup,
      ⟨point.1, point.2.1, point.2.2.1.weaken ?_, point.2.2.2.set ?_⟩,
      progress.shared.silent rfl rfl rfl rfl⟩
    · exact fun _ owed => owed.set_joined found phase
    · exact fun _ waiting => by cases waiting

/-- Every step keeps the invariant. -/
theorem WaveProgress.step (progress : WaveProgress s)
    (h : Wave.step s action = some next) : WaveProgress next := by
  cases WaveMove.of_step h with
  | startupCalled here =>
    have point := progress.startup
    rw [here] at point
    exact ⟨progress.justified, ⟨.start, .start (fromServices_reverse_grouping config) point⟩,
      progress.stop, progress.shared.silent rfl rfl rfl rfl⟩
  | startup _ move => exact progress.startupMove move
  | stopCalled here =>
    have point := progress.stop
    rw [here] at point
    refine ⟨progress.justified, progress.startup,
      ⟨.start, .start (fromServices_grouping config) point.1, ?_⟩,
      progress.shared.silent rfl rfl rfl rfl⟩
    intro svc task lookedUp
    exact absurd lookedUp (point.2 svc (some task))
  | stop _ move => exact progress.stopMove move
  | @taskFinishes task spawned isRunning =>
    refine ⟨⟨trivial, progress.justified⟩, progress.startup.mono rfl,
      progress.stop.mono rfl, ?_, ?_, progress.shared.tasks⟩
    · exact fun now => List.mem_cons_of_mem _ (progress.shared.cancelled now)
    · intro other listed
      rcases List.mem_cons.mp listed with rfl | listed
      · exact List.mem_cons_self
      · exact List.mem_cons_of_mem _ (progress.shared.finished other listed)
  | statusWritten | statusNotified | timePasses =>
    exact ⟨progress.justified, progress.startup, progress.stop,
      progress.shared.silent rfl rfl rfl rfl⟩
  | daemonCancelled =>
    exact ⟨⟨trivial, progress.justified⟩, progress.startup.mono rfl,
      progress.stop.mono rfl, progress.shared.cancels rfl rfl rfl⟩

theorem WaveProgress.of_run (run : Run Wave.step (WaveState.initial config) acts s) :
    WaveProgress s := by
  induction run with
  | nil => exact .initial
  | snoc _ _ h ih => exact ih.step h

end Progress

end ServiceDaemon
