/-
Purpose: What the status plane holds when the shutdown returns, against how far
  the startup came.
Main exports: StopPoint.Awaits, WaveState.CleanStop, WaveTermination,
  stop_terminates_all
-/
import ServiceDaemon.Proofs.WaveOrdering

namespace ServiceDaemon

open AsyncLib StepSystem OrderedGroups

/-!
`stop_all_services` writes `ShuttingDown` for every service and `Terminated` for
those whose handle it found.  A service that the startup did not reach has no
handle, so its entry stays `ShuttingDown`.

[SRC core/service_daemon/runner/wave.rs]
[SRC docs/architecture/lifecycle-management.md]
-/

variable {config : WaveConfig}

/-- The service has a future that is through. -/
def Through (fs : List (ShutdownFuture config)) (svc : config.Service) :
    Prop :=
  ∃ future ∈ fs, future.service = svc ∧ future.phase = .done

instance (fs : List (ShutdownFuture config)) (svc : config.Service) :
    Decidable (Through fs svc) :=
  inferInstanceAs (Decidable (∃ future ∈ fs, _))

/-- The shutdown has not written the last status of the service yet. -/
def StopPoint.Awaits (svc : config.Service) : StopPoint config → Prop
  | .notStarted => True
  | .nextWave rest => svc ∈ members rest
  | .signalling wave _ rest | .announcing wave _ _ rest
  | .collecting wave _ _ rest => svc ∈ wave.2 ∨ svc ∈ members rest
  | .joining wave fs rest =>
    svc ∈ wave.2 ∧ ¬Through fs svc ∨ svc ∈ members rest
  | .returned => False

instance (svc : config.Service) (point : StopPoint config) :
    Decidable (point.Awaits svc) := by
  unfold StopPoint.Awaits
  split <;> infer_instance

/-- Every service has a handle when the shutdown looks for it, and no other task
changes an entry once the shutdown has written its last status. -/
def WaveState.CleanStop (s : WaveState config) : WaveAction → Prop
  | .stop =>
    match s.stop with
    | .collecting _ (svc :: _) _ _ =>
      s.runningTasks (config.id svc) ≠ none
    | _ => True
  | .writeStatus id status =>
    status = .terminated ∨ ∀ svc, config.id svc = id → s.stop.Awaits svc
  | _ => True

instance (s : WaveState config) (a : WaveAction) :
    Decidable (s.CleanStop a) := by
  unfold WaveState.CleanStop
  split
  · split <;> infer_instance
  · infer_instance
  · infer_instance

/-- The services in the loops of the shutdown. -/
def StopPoint.Handled : StopPoint config → Prop
  | .signalling wave todo _ => todo ⊆ wave.2
  | .announcing wave svc todo _ => svc ∈ wave.2 ∧ todo ⊆ wave.2
  | .collecting wave todo handles _ => wave.2 = handles.map Prod.fst ++ todo
  | .joining wave fs _ => wave.2 = fs.map (·.service)
  | .notStarted | .nextWave _ | .returned => True

/-- What the steps keep.  Two entries of the list with one identifier share
their status, so the later one may still change it. -/
structure WaveTermination (s : WaveState config) : Prop where
  handled : s.stop.Handled
  entries : ∀ svc, ¬s.stop.Awaits svc → s.statusPlane (config.id svc) = some .terminated ∨
      ∃ other, config.id other = config.id svc ∧ s.stop.Awaits other

section Steps

variable {s next : WaveState config}

/-- A future that moves is through if it was, or if it moves to the end. -/
theorem through_set (found : fs[i]? = some future) (unfinished : future.phase ≠ .done)
    (phase : JoinPhase) (svc : config.Service) :
    Through (fs.set i { future with phase := phase }) svc ↔
      Through fs svc ∨ svc = future.service ∧ phase = .done := by
  constructor
  · rintro ⟨other, mem, same, finished⟩
    rcases List.mem_or_eq_of_mem_set mem with before | rfl
    · exact .inl ⟨other, before, same, finished⟩
    · exact .inr ⟨same.symm, finished⟩
  · rintro (⟨other, mem, same, finished⟩ | ⟨rfl, rfl⟩)
    · rcases Threads.mem_set_cases found mem with rfl | stays
      · exact absurd finished unfinished
      · exact ⟨other, stays, same, finished⟩
    · exact ⟨_, Threads.mem_set_self found, rfl, rfl⟩

/-- A future that moves keeps its service. -/
theorem services_set {wave : ServiceWave config} {fs : List (ShutdownFuture config)}
    {i : Nat} {future : ShutdownFuture config} (found : fs[i]? = some future)
    (handled : wave.2 = fs.map (·.service)) {phase : JoinPhase} :
    wave.2 = (fs.set i { future with phase := phase }).map (·.service) := by
  rw [handled, List.map_set]
  apply List.ext_getElem?
  intro place
  rw [List.getElem?_set]
  split
  · rename_i same
    rw [← same, List.getElem?_map, found]
    simp [(List.getElem?_eq_some_iff.mp found).1]
  · rfl

namespace WaveTermination

theorem keep (termination : WaveTermination s)
    (plane : next.statusPlane = s.statusPlane) (handled : next.stop.Handled)
    (awaits : ∀ service, next.stop.Awaits service ↔ s.stop.Awaits service) :
    WaveTermination next where
  handled := handled
  entries service settled := by
    rw [awaits] at settled
    rcases termination.entries service settled with terminated | ⟨other, same, waits⟩
    · exact .inl (plane ▸ terminated)
    · exact .inr ⟨other, same, (awaits other).mpr waits⟩

/-- A step that terminates an entry and leaves the same services to do. -/
theorem terminate (termination : WaveTermination s) {id}
    (plane : next.statusPlane = Function.update s.statusPlane id (some .terminated))
    (stop : next.stop = s.stop) : WaveTermination next where
  handled := stop ▸ termination.handled
  entries service settled := by
    rw [stop] at settled ⊢
    rcases termination.entries service settled with terminated | waits
    · refine .inl ?_
      rw [plane]
      by_cases same : config.id service = id
      · rw [same, Function.update_self]
      · rw [Function.update_of_ne same]
        exact terminated
    · exact .inr waits

/-- A status is written to an entry that the shutdown will write again. -/
theorem write (termination : WaveTermination s)
    (plane : next.statusPlane = Function.update s.statusPlane (config.id svc) (some status))
    (handled : next.stop.Handled) (awaits : ∀ svc, next.stop.Awaits svc ↔ s.stop.Awaits svc)
    (waits : s.stop.Awaits svc) : WaveTermination next where
  handled := handled
  entries other settled := by
    rw [awaits] at settled
    by_cases same : config.id other = config.id svc
    · exact .inr ⟨svc, same.symm, (awaits svc).mpr waits⟩
    · rcases termination.entries other settled with terminated | ⟨third, equal, later⟩
      · refine .inl ?_
        rw [plane, Function.update_of_ne same]
        exact terminated
      · exact .inr ⟨third, equal, (awaits third).mpr later⟩

theorem foreign (termination : WaveTermination s) {id status}
    (unlisted : ¬∃ service, config.id service = id) :
    WaveTermination
      { s with statusPlane := Function.update s.statusPlane id (some status) } where
  handled := termination.handled
  entries service settled := by
    have apart : config.id service ≠ id := fun same => unlisted ⟨service, same⟩
    rcases termination.entries service settled with terminated | waits
    · exact .inl ((Function.update_of_ne apart _ _).trans terminated)
    · exact .inr waits

/-- The last status of a service whose task has been joined. -/
theorem ends (termination : WaveTermination s) {wave : ServiceWave config}
    {fs : List (ShutdownFuture config)} {rest : List (ServiceWave config)} {index : Nat}
    {future : ShutdownFuture config} (here : s.stop = .joining wave fs rest)
    (found : fs[index]? = some future) (phase : future.phase = .joined) :
    WaveTermination
      (Wave.announce (Wave.setPhase s wave fs rest index future .done)
        future.service .terminated) := by
  have handled := termination.handled
  rw [here] at handled
  have through := through_set found (by simp [phase]) JoinPhase.done
  have entries := termination.entries
  simp only [here, StopPoint.Awaits] at entries
  refine ⟨services_set found handled, fun svc settled => ?_⟩
  simp only [Wave.announce, Wave.setPhase, StopPoint.Awaits, through] at settled ⊢
  by_cases same : config.id svc = config.id future.service
  · exact .inl (by rw [same, Function.update_self])
  · have apart : svc ≠ future.service := fun equal => same (by rw [equal])
    rw [Function.update_of_ne same]
    rcases entries svc (by simpa [apart] using settled) with
      terminated | ⟨other, equal, waits⟩
    · exact .inl terminated
    · have otherApart : other ≠ future.service := by
        rintro rfl
        exact same equal.symm
      exact .inr ⟨other, equal, by simpa [otherApart] using waits⟩

/-- A future moves on and is not through yet. -/
theorem moves (termination : WaveTermination s) {wave : ServiceWave config}
    {fs : List (ShutdownFuture config)} {rest : List (ServiceWave config)} {index : Nat}
    {future : ShutdownFuture config} {phase : JoinPhase} (here : s.stop = .joining wave fs rest)
    (found : fs[index]? = some future) (unfinished : future.phase ≠ .done) (goes : phase ≠ .done)
    (plane : next.statusPlane = s.statusPlane)
    (stop : next.stop = .joining wave (fs.set index { future with phase := phase }) rest) :
    WaveTermination next := by
  have handled := termination.handled
  rw [here] at handled
  refine termination.keep plane (stop ▸ services_set found handled) ?_
  intro svc
  rw [stop, here]
  simp [StopPoint.Awaits, through_set found unfinished, goes]

/-- The wave is through when all its futures are. -/
theorem joinedAll (termination : WaveTermination s)
    (here : s.stop = .joining wave fs rest) (finished : ∀ future ∈ fs, future.phase = .done) :
    WaveTermination { s with stop := .nextWave rest } := by
  have handled := termination.handled
  rw [here] at handled
  have whole : ∀ service ∈ wave.2, Through fs service := by
    intro service mem
    rw [show wave.2 = _ from handled] at mem
    obtain ⟨future, present, rfl⟩ := List.mem_map.mp mem
    exact ⟨future, present, rfl, finished future present⟩
  refine termination.keep rfl trivial fun service => ?_
  rw [here]
  constructor
  · exact .inr
  · rintro (⟨mem, unfinished⟩ | later)
    · exact absurd (whole service mem) unfinished
    · exact later

/-- The shutdown takes a handle. -/
theorem collects (termination : WaveTermination s)
    (here : s.stop = .collecting wave (svc :: todo) handles rest)
    (plane : next.statusPlane = s.statusPlane)
    (stop : next.stop = .collecting wave todo (Wave.collect svc (some task) handles) rest) :
    WaveTermination next := by
  have handled := termination.handled
  rw [here] at handled
  refine termination.keep plane ?_ fun other => by rw [stop, here]; rfl
  rw [stop]
  change wave.2 = (handles ++ [(svc, task)]).map Prod.fst ++ todo
  rw [show wave.2 = _ from handled]
  simp

theorem stop (termination : WaveTermination s)
    (clean : ∀ wave svc todo handles rest, s.stop = .collecting wave (svc :: todo) handles rest →
        s.runningTasks (config.id svc) ≠ none) (move : StopMove s next) : WaveTermination next := by
  have handled := termination.handled
  cases move with
  | finishes here =>
    exact termination.keep rfl trivial fun svc => by
      rw [here]
      simp [StopPoint.Awaits, members]
  | beginsWave here =>
    refine termination.keep rfl (List.Subset.refl _) fun svc => ?_
    rw [here]
    simp [StopPoint.Awaits, members]
  | signalledAll here => exact termination.keep rfl rfl fun svc => by rw [here]; rfl
  | signals here =>
    rw [here] at handled
    refine termination.keep rfl ?_ fun svc => by rw [here]; rfl
    exact ⟨handled List.mem_cons_self, fun other listed => handled (List.mem_cons_of_mem _ listed)⟩
  | announces here =>
    rw [here] at handled
    refine termination.write rfl handled.2 (fun svc => by rw [here]; rfl) ?_
    rw [here]
    exact .inl handled.1
  | collectedAll here =>
    rw [here] at handled
    refine termination.keep rfl ?_ fun svc => ?_
    · change _ = _
      rw [show _ = _ from handled]
      simp [Wave.shutdownFuture, Function.comp_def]
    · rw [here]
      simp [StopPoint.Awaits, Through, Wave.shutdownFuture]
  | @collects wave svc todo handles rest here =>
    obtain ⟨task, running⟩ := Option.ne_none_iff_exists'.mp (clean _ _ _ _ _ here)
    rw [running]
    exact termination.collects here rfl rfl
  | joinedAll here finished => exact termination.joinedAll here finished
  | polls here found phase => exact termination.moves here found (by simp [phase]) (by simp) rfl rfl
  | joins here found phase finished =>
    refine termination.moves here found ?_ (by simp) rfl rfl
    rcases phase with ⟨began, phase⟩ | phase <;> simp [phase]
  | aborts here found phase elapsed =>
    exact termination.moves here found (by simp [phase]) (by simp) rfl rfl
  | ends here found phase => exact termination.ends here found phase

theorem step {action} (termination : WaveTermination s)
    (clean : s.CleanStop action) (h : Wave.step s action = some next) :
    WaveTermination next := by
  cases WaveMove.of_step h with
  | startup mine move =>
    cases move with
    | fails here missing => exact termination.terminate rfl rfl
    | _ => exact termination.keep rfl termination.handled fun _ => .rfl
  | stopCalled here =>
    refine termination.keep rfl trivial fun svc => ?_
    have listed : svc ∈ members (ServiceWave.fromServices config) :=
      (fromServices_grouping config).complete.mem_iff.mpr (List.mem_finRange svc)
    rw [here]
    exact ⟨fun _ => trivial, fun _ => listed⟩
  | stop mine move =>
    refine termination.stop ?_ move
    intro wave svc todo handles rest here
    rcases mine with rfl | ⟨index, joined, rfl⟩
    · simpa only [WaveState.CleanStop, here] using clean
    · -- The futures are there only while the shutdown joins them.
      simp [Wave.step, Wave.join, here] at h
  | @statusWritten id status =>
    rcases clean with rfl | waits
    · exact termination.terminate rfl rfl
    · by_cases listed : ∃ svc, config.id svc = id
      · obtain ⟨svc, rfl⟩ := listed
        exact termination.write rfl termination.handled (fun _ => .rfl) (waits svc rfl)
      · exact termination.foreign listed
  | _ => exact termination.keep rfl termination.handled fun _ => .rfl

theorem initial : WaveTermination (.initial config) :=
  ⟨trivial, fun _ settled => absurd trivial settled⟩

end WaveTermination

end Steps

/-- When the shutdown returns, every service is Terminated, wherever the startup
was interrupted, as long as every service had a handle and nobody changed an
entry after its last status. -/
theorem stop_terminates_all {schedule : List WaveAction} {state : WaveState config}
    (run : GuardedRun Wave.step WaveState.CleanStop (.initial config) schedule state)
    (returned : state.stop = .returned) :
    ∀ service, state.statusPlane (config.id service) = some .terminated := by
  have termination : WaveTermination state :=
    run.invariant .initial fun termination clean stepped =>
      termination.step clean stepped
  have entries := termination.entries
  rw [returned] at entries
  intro service
  rcases entries service id with terminated | ⟨other, -, waits⟩
  · exact terminated
  · exact waits.elim

/-- The shutdown of a wave whose service has a handle. -/
def stopWithHandle (task : SupervisorTask) : List WaveAction :=
  List.flatten
    [List.replicate 6 .stop,
      [.join 0 .poll, .finish task, .join 0 .ready, .join 0 .announce, .stop]]

/-- The shutdown of a wave whose service was not started. -/
def stopWithoutHandle : List WaveAction := List.replicate 7 .stop

theorem stop_terminates_all_started :
    ∃ state,
      GuardedRun Wave.step WaveState.CleanStop (.initial twoWaves)
        (List.flatten [[.runStartup], List.replicate 4 .startup, [.tick 5],
            List.replicate 5 .startup, [.runStop],
            stopWithHandle 1, stopWithHandle 0, [.stop]])
        state ∧
      state.stop = .returned ∧
      ∀ service, state.statusPlane (twoWaves.id service) = some .terminated :=
  GuardedRun.exists_and (by decide +kernel) fun _ run returned =>
    stop_terminates_all run returned

/-- A service that was not started stays at `ShuttingDown`: both of them when the
shutdown comes before the first wave, the one of the later wave when it comes
between the two. -/
theorem unstarted_stays_shutting_down :
    (∃ state, Run Wave.step (.initial twoWaves) (List.flatten
          [[.runStop], stopWithoutHandle, stopWithoutHandle, [.stop]])
        state ∧
      state.stop = .returned ∧
      ∀ service, state.statusPlane (twoWaves.id service) = some .shuttingDown) ∧
    ∃ state,
      Run Wave.step (.initial twoWaves)
        (List.flatten [[.runStartup], List.replicate 4 .startup, [.cancelDaemon],
            List.replicate 3 .startup, [.runStop],
            stopWithoutHandle, stopWithHandle 0, [.stop]])
        state ∧
      (state.startup = .returned ∧ state.stop = .returned) ∧
      state.statusPlane ⟨0⟩ = some .shuttingDown ∧
      state.statusPlane ⟨1⟩ = some .terminated :=
  ⟨Run.exists_of_check (by decide +kernel), Run.exists_of_check (by decide +kernel)⟩

end ServiceDaemon
