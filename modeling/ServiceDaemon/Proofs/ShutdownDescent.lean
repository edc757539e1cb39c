/-
Purpose: What is written to the status of a service once its token is cancelled,
  and after its supervisor has ended with the status Terminated.
Main exports: SupervisorState.raises, LifecycleState.CleanDescent, Descent,
  status_descends
-/
import ServiceDaemon.Proofs.LifecycleCalls

namespace ServiceDaemon

open AsyncLib StepSystem LifecycleState

/-!
The supervisor looks at the token before it starts a generation and before it
processes an outcome, so that a service that is shut down is not announced as
starting or recovering.  The writes that follow the two checks are not protected
by them, the calls of the body do not look at the token at all, and the shutdown
announces `ShuttingDown` after it has cancelled the token, whatever the entry
is by then.

[SRC runner/supervisor.rs on_starting, on_outcome; runner/wave.rs]
[SRC core/context/api.rs]
-/

/-! ### What the supervisor is going to write -/

/-- The write raises the status. -/
def SupervisorWrite.raises (write : SupervisorWrite) : Bool :=
  write.inserts.any (!·.descending)

/-- The supervisor is past a token check that leads to a raised status. -/
def SupervisorPoint.raises (name : String) : SupervisorPoint → Bool
  | .prepare => true
  | .classify origin _ => (failureKind (origin.outcome name)).all (!·.isFinal)
  | _ => false

/-- The supervisor is going to raise the status, whatever happens. -/
def SupervisorState.raises (cfg : SupervisorConfig) (s : SupervisorState) :
    Bool :=
  s.pending.any (·.raises) || s.point.raises cfg.name

theorem handleOutcome_restarts (signals : GenerationSignalFacts)
    (outcome : ServiceGenerationOutcome) :
    (handleOutcome signals outcome).shouldRestart = (failureKind outcome).all (!·.isFinal) := by
  cases kind : failureKind outcome with
  | some exitKind =>
    rw [handleOutcome_shouldRestart, handleOutcome_exitKind signals kind]
    rfl
  | none =>
    cases outcome with
    | returned => rfl
    | panicked payload => cases kind
    | failed error =>
      rw [(handleError_spec ⟨false, false⟩ error).1] at kind
      cases kind

/-- A service that restarts is announced with a starting status. -/
theorem handleOutcome_starting (restarts : (handleOutcome signals outcome).shouldRestart = true) :
    (handleOutcome signals outcome).nextStatus.starting = true := by
  cases outcome with
  | returned =>
    simp only [handleOutcome]
    split <;> rfl
  | panicked payload => rfl
  | failed error =>
    rcases handleError_ends_or_recovers signals error with
      ⟨ends, -⟩ | ⟨kind, msg, -, status⟩
    · exact absurd (ends.symm.trans restarts) Bool.false_ne_true
    · simp only [handleOutcome, status]
      rfl

/-- The statuses that the supervisor inserts. -/
def SupervisorWrite.Sound (write : SupervisorWrite) : Prop :=
  ∀ status, write.inserts = some status → status.starting = true ∨ status = .terminated

namespace SupervisorState

variable {cfg : SupervisorConfig} {s next : SupervisorState}
  {a : SupervisorAction}

/-- Every write that is pending is sound. -/
def Sound (s : SupervisorState) : Prop :=
  ∀ write ∈ s.pending, write.Sound

theorem sound_announceStatus (fits : status.starting = true ∨ status = .terminated) :
    ∀ write ∈ announceStatus status, write.Sound := by
  intro write mem inserted isInserted
  simp only [announceStatus, List.mem_cons, List.not_mem_nil, or_false] at mem
  rcases mem with rfl | rfl | rfl <;> cases isInserted
  exact fits

theorem sound_terminateWrites : ∀ write ∈ terminateWrites, write.Sound := by
  intro write mem
  rcases List.mem_cons.mp mem with rfl | announced
  · rintro status ⟨⟩
  · exact sound_announceStatus (.inr rfl) write announced

theorem sound_outcomeWrites
    (fits : record.shouldRestart = true → record.nextStatus.starting = true) :
    ∀ write ∈ outcomeWrites origin early record, write.Sound := by
  intro write mem
  rcases List.mem_append.mp mem with recorded | announced
  · split at recorded
    · simp only [List.mem_cons, List.not_mem_nil, or_false] at recorded
      rcases recorded with rfl | rfl | rfl <;> rintro status ⟨⟩
    · cases List.mem_singleton.mp recorded
      rintro status ⟨⟩
  · split at announced
    · rename_i restarts
      exact sound_announceStatus (.inl (fits restarts)) write announced
    · rcases List.mem_cons.mp announced with rfl | ends
      · rintro status ⟨⟩
      · exact sound_terminateWrites write ends

theorem determineStartStatus_starting (s : SupervisorState) :
    s.determineStartStatus.starting = true := by
  unfold determineStartStatus
  split <;> rfl

theorem Sound.step (sound : s.Sound) (h : Supervisor.step cfg s a = some next) : next.Sound := by
  cases SupervisorMove.of_step h with
  | performs pending =>
    intro write mem
    exact sound write (pending ▸ List.mem_cons_of_mem _ mem)
  | prepares idle here =>
    intro write mem
    simp only [SupervisorState.prepare, List.mem_cons, List.not_mem_nil, or_false] at mem
    rcases mem with rfl | rfl | rfl <;> rintro status ⟨⟩
    exact .inl s.determineStartStatus_starting
  | stops idle here cancelled => exact sound_terminateWrites
  | checksCancelled idle here cancelled =>
    intro write mem
    rcases List.mem_append.mp mem with exit | ends
    · cases List.mem_singleton.mp exit
      rintro status ⟨⟩
    · exact sound_terminateWrites write ends
  | checksWithout idle here absent => exact sound_announceStatus (.inl rfl)
  | classifies idle here => exact sound_outcomeWrites handleOutcome_starting
  | stopsWait idle here cancelled => exact sound_announceStatus (.inr rfl)
  | decides idle here | delays idle here | takesDependency idle here behind
  | takesReload idle here signalled =>
    intro write mem
    simp only [SupervisorState.restart, SupervisorState.requestReload,
      List.mem_cons, List.not_mem_nil, or_false] at mem
    rcases mem with rfl | rfl <;> rintro status ⟨⟩
  | _ => exact sound

theorem Sound.of_run {now plane acts}
    (run : Run (Supervisor.step cfg) (.new cfg now plane) acts s) :
    s.Sound :=
  run.invariant (fun write mem => by cases mem) fun sound _ h =>
    sound.step h

theorem calm_iff :
    s.raises cfg = false ↔ s.pending.any (·.raises) = false ∧ s.point.raises cfg.name = false :=
  Bool.or_eq_false_iff

/-- The classification of a final result raises nothing. -/
theorem classify_calm (final : (failureKind (origin.outcome cfg.name)).all (!·.isFinal) = false) :
    (s.classify cfg origin early).raises cfg = false := by
  have stops := (handleOutcome_restarts
    { reloadRequested := s.reloadToken.getD false, shutdownRequested := s.cancelled }
    (origin.outcome cfg.name)).trans final
  unfold classify outcomeWrites
  simp only [stops, Bool.false_eq_true, if_false]
  refine calm_iff.mpr ⟨?_, rfl⟩
  rw [List.any_append, Bool.or_eq_false_iff]
  constructor
  · split <;> rfl
  · rfl

/-- Once the token is cancelled, a supervisor that is not going to raise the
status never will. -/
theorem raises_step (h : Supervisor.step cfg s a = some next)
    (cancelled : s.cancelled = true) (calm : s.raises cfg = false) : next.raises cfg = false := by
  obtain ⟨quiet, elsewhere⟩ := calm_iff.mp calm
  cases SupervisorMove.of_step h with
  | performs pending =>
    rw [pending, List.any_cons, Bool.or_eq_false_iff] at quiet
    rw [calm_iff]
    exact ⟨quiet.2, by simpa using elsewhere⟩
  | prepares idle here =>
    rw [here] at elsewhere
    cases elsewhere
  | starts idle here uncancelled | checks idle here uncancelled
  | checksWithout idle here absent uncancelled =>
    rw [cancelled] at uncancelled
    cases uncancelled
  | classifies idle here =>
    rw [here] at elsewhere
    exact classify_calm elsewhere
  | changes watched =>
    refine calm_iff.mpr ⟨quiet, ?_⟩
    exact (SupervisorPoint.noteChange_congr (SupervisorPoint.raises cfg.name)
      (fun _ _ => rfl) s.point).trans elsewhere
  | ticks | cancels | cancelsDaemon | triggersReload | writesStatus
  | recordsStatus => exact calm
  | stops | checksCancelled | stopsWait | decides | delays | takesDependency
  | takesReload => rfl
  | _ => exact calm_iff.mpr ⟨quiet, rfl⟩

/-- The loop ends with its last write. -/
theorem finished_step (h : Supervisor.step cfg s a = some next) (finished : next.finished) :
    s.finished ∨ a = .perform ∧ s.point = .terminated ∧ ∃ write, s.pending = [write] := by
  obtain ⟨idle, ends⟩ := finished
  cases SupervisorMove.of_step h with
  | @performs write writes pending =>
    refine .inr ⟨rfl, by simpa using ends, write, ?_⟩
    rw [pending]
    exact congrArg _ idle
  | classifies _ here =>
    exact absurd idle (List.append_ne_nil_of_right_ne_nil _
      (by split <;> exact List.cons_ne_nil _ _))
  | prepares _ here => cases idle
  | changes watched => exact .inl ⟨idle, SupervisorPoint.of_noteChange ends (by simp)⟩
  | ticks | cancels | cancelsDaemon | triggersReload | writesStatus
  | recordsStatus => exact .inl ⟨idle, ends⟩
  | stops | checksCancelled | stopsWait => cases idle
  | _ => cases ends

end SupervisorState

/-! ### Steps that keep the descent -/

namespace LifecycleState

variable {cfg : LifecycleConfig} {s : LifecycleState}
  {a : SupervisorAction}

/-- What a supervisor inserts that is not going to raise the status. -/
theorem inserts_descending (calm : s.supervisor.raises cfg.supervisor = false)
    (inserted : s.inserts (.supervisor a) = some status) : status.descending = true := by
  cases a with
  | perform =>
    obtain ⟨write, first, writes⟩ := Option.bind_eq_some_iff.mp inserted
    have mem : write ∈ s.supervisor.pending := List.mem_of_mem_head? first
    have quiet := (SupervisorState.calm_iff.mp calm).1
    have lowers := Bool.eq_false_iff.mpr (List.any_eq_false.mp quiet write mem)
    simpa [SupervisorWrite.raises, writes] using lowers
  | _ => cases inserted

theorem inserts_sound (sound : s.supervisor.Sound)
    (inserted : s.inserts (.supervisor a) = some status) :
    status.starting = true ∨ status = .terminated := by
  cases a with
  | perform =>
    obtain ⟨write, first, writes⟩ := Option.bind_eq_some_iff.mp inserted
    exact sound write (List.mem_of_mem_head? first) status writes
  | _ => cases inserted

/-- No task is about to make the service Healthy. -/
def Unarmed (s : LifecycleState) : Prop :=
  ∀ task ∈ s.tasks, task.point.armed ≠ some .healthy

instance (s : LifecycleState) : Decidable s.Unarmed :=
  inferInstanceAs (Decidable (∀ task ∈ s.tasks, _))

/-- The token is cancelled only when nobody is about to raise the status, no call
decides to raise it before `ShuttingDown` is inserted, `ShuttingDown` is not
inserted over the last status of a supervisor that has ended, and the
supervisor does not end while a call is about to overwrite its last status. -/
def CleanDescent (cfg : LifecycleConfig) (s : LifecycleState) :
    LifecycleAction → Prop
  | .stop =>
    match s.stop with
    | .notStarted =>
      s.supervisor.raises cfg.supervisor = false ∧ s.Unarmed
    | .signalled => ¬(s.entry = some .terminated ∧ s.ended)
    | _ => True
  | .proceed i =>
    s.stop = .signalled → s.decision i ≠ some .healthy
  | .supervisor .perform =>
    match s.supervisor.pending, s.supervisor.point with
    | [write], .terminated =>
      write.inserts.or s.entry = some .terminated → s.Unarmed
    | _, _ => True
  | _ => True

instance (cfg : LifecycleConfig) (s : LifecycleState)
    (a : LifecycleAction) : Decidable (s.CleanDescent cfg a) := by
  unfold CleanDescent
  split
  · split <;> infer_instance
  · infer_instance
  · split <;> infer_instance
  · infer_instance

end LifecycleState

/-- What the steps keep. -/
structure Descent (cfg : LifecycleConfig) (s : LifecycleState) : Prop where
  /-- what a task is about to insert -/
  armed : ∀ task ∈ s.tasks, ∀ status, task.point.armed = some status →
    status = .healthy ∨ status = .terminated ∧ s.supervisor.cancelled = true
  calm : s.supervisor.cancelled = true → s.supervisor.raises cfg.supervisor = false ∧ s.Unarmed
  lowered : s.stop.announced = true → s.entry.any (·.descending) = true
  /-- before the shutdown nobody asks for the end of the service -/
  upright : s.supervisor.cancelled = false →
    s.entry ≠ some .needReload ∧ s.entry ≠ some .shuttingDown
  last : s.entry = some .terminated → s.ended → s.Unarmed

namespace Descent

variable {cfg : LifecycleConfig} {s next : LifecycleState}
  {a : LifecycleAction}

theorem initial : Descent cfg (.new cfg now) where
  armed task listed := by cases listed
  calm := by rintro ⟨⟩
  lowered := by rintro ⟨⟩
  upright _ := ⟨by simp [new, entry, SupervisorState.new],
    by simp [new, entry, SupervisorState.new]⟩
  last := by rintro ⟨⟩

/-- A step of anybody but the supervisor that arms no task: what it makes of the
entry decides. -/
theorem change (descent : Descent cfg s)
    (cancelled : next.supervisor.cancelled = s.supervisor.cancelled)
    (pending : next.supervisor.pending = s.supervisor.pending)
    (point : next.supervisor.point = s.supervisor.point)
    (tasks : ∀ task ∈ next.tasks, task ∈ s.tasks ∨ task.point.armed = none)
    (lowered : next.stop.announced = true → next.entry.any (·.descending) = true)
    (upright : s.supervisor.cancelled = false →
      next.entry ≠ some .needReload ∧ next.entry ≠ some .shuttingDown)
    (last : next.entry = some .terminated → next.ended → s.Unarmed) : Descent cfg next := by
  have unarmed (before : s.Unarmed) : next.Unarmed := by
    intro task mem
    rcases tasks task mem with old | rests
    · exact before task old
    · simp [rests]
  constructor
  · intro task mem status about
    rcases tasks task mem with old | rests
    · rw [cancelled]
      exact descent.armed task old status about
    · rw [rests] at about
      cases about
  · intro signalled
    obtain ⟨calm, before⟩ := descent.calm (cancelled ▸ signalled)
    rw [SupervisorState.raises, pending, point]
    exact ⟨calm, unarmed before⟩
  · exact lowered
  · exact fun clear => upright (cancelled ▸ clear)
  · exact fun ends gone => unarmed (last ends gone)

/-- A step that leaves the entry as it is. -/
theorem keep (descent : Descent cfg s)
    (supervisor : next.supervisor = { s.supervisor with runtimeFacts := facts })
    (tasks : ∀ task ∈ next.tasks, task ∈ s.tasks ∨ task.point.armed = none)
    (announced : next.stop.announced = true → s.stop.announced = true)
    (dropped : next.dropped = true → s.dropped = true ∨ s.supervisor.cancelled = true) :
    Descent cfg next := by
  have entry : next.entry = s.entry := by
    simp only [entry, supervisor]
  refine descent.change (by rw [supervisor]) (by rw [supervisor])
    (by rw [supervisor]) tasks ?_ ?_ ?_
  · intro later
    rw [entry]
    exact descent.lowered (announced later)
  · rw [entry]
    exact descent.upright
  · intro ends ended
    rw [entry] at ends
    rcases ended with finished | lost
    · rw [supervisor] at finished
      exact descent.last ends (.inl finished)
    · exact (dropped lost).elim (fun gone => descent.last ends (.inr gone))
        fun signalled => (descent.calm signalled).2

/-- A call decides for a status. -/
theorem decides (descent : Descent cfg s) (ordered : s.Ordered)
    (clean : s.CleanDescent cfg (.proceed i)) (found : s.tasks[i]? = some task)
    (here : task.point = .reading call) (decided : call.decides s.entry = some status) :
    Descent cfg
      (s.setTask i { task with point := .inserting call status }) := by
  -- Past the cancellation a call can only lower the status.
  have lowers (cancelled : s.supervisor.cancelled = true) :
      status ≠ .healthy := by
    rintro rfl
    by_cases announced : s.stop.announced = true
    · have descends := descent.lowered announced
      rcases LifecycleCall.decides_cases decided with ⟨-, starting⟩ | ⟨⟨⟩, -⟩
      cases entry : s.entry with
      | none => simp [entry] at descends
      | some cur =>
        rw [entry] at descends starting
        cases cur <;> simp [ServiceStatus.descending, ServiceStatus.starting] at descends starting
    · have signalled : s.stop = .signalled := by
        have begun := ordered.begun.mp cancelled
        cases stop : s.stop with
        | notStarted => exact absurd stop begun
        | signalled => rfl
        | _ => simp [stop, ServiceStop.announced] at announced
      refine clean signalled ?_
      rw [decision_eq found here, decided]
  have unarmed (before : s.Unarmed) (lowers : status ≠ .healthy) :
      (s.setTask i { task with point := .inserting call status }).Unarmed := by
    intro other mem
    rcases List.mem_or_eq_of_mem_set mem with old | rfl
    · exact before other old
    · exact fun raised => lowers (Option.some.inj raised)
  constructor
  · intro other mem about isAbout
    rcases List.mem_or_eq_of_mem_set mem with old | rfl
    · exact descent.armed other old about isAbout
    · cases isAbout
      rcases LifecycleCall.decides_cases decided with ⟨rfl, -⟩ | ⟨rfl, asked⟩
      · exact .inl rfl
      · refine .inr ⟨rfl, ?_⟩
        by_contra clear
        have upright := descent.upright (Bool.eq_false_iff.mpr clear)
        exact asked.elim upright.1 upright.2
  · intro cancelled
    have calm := descent.calm cancelled
    exact ⟨calm.1, unarmed calm.2 (lowers cancelled)⟩
  · exact descent.lowered
  · exact descent.upright
  · intro ends ended
    refine unarmed (descent.last ends ended) ?_
    rintro rfl
    have terminated : s.entry = some .terminated := ends
    rw [terminated] at decided
    cases call <;> cases decided

/-- A step of the supervisor, the generation or the environment. -/
theorem supervises (descent : Descent cfg s) (ordered : s.Ordered) (sound : s.supervisor.Sound)
    {a after} (clean : s.CleanDescent cfg (.supervisor a)) (permitted : s.permits a = true)
    (moved : Supervisor.step cfg.supervisor s.supervisor a = some after) :
    Descent cfg (s.note a after) := by
  have cancelled := permits_cancelled permitted moved
  have entry := LifecycleMove.entry_eq (LifecycleMove.supervises permitted moved)
  constructor
  · intro task mem status about
    rcases descent.armed task mem status about with raised | ⟨lowered, before⟩
    · exact .inl raised
    · exact .inr ⟨lowered, cancelled.trans before⟩
  · intro signalled
    have before := cancelled.symm.trans signalled
    obtain ⟨calm, unarmed⟩ := descent.calm before
    exact ⟨SupervisorState.raises_step moved before calm, unarmed⟩
  · intro announced
    have signalled := ordered.signalled announced
    rw [entry]
    cases inserted : s.inserts (.supervisor a) with
    | none => exact descent.lowered announced
    | some status => exact inserts_descending (descent.calm signalled).1 inserted
  · intro clear
    rw [entry]
    cases inserted : s.inserts (.supervisor a) with
    | none => exact descent.upright (cancelled.symm.trans clear)
    | some status =>
      rcases inserts_sound sound inserted with starting | rfl
      · constructor <;> rintro ⟨⟩ <;> cases starting
      · exact ⟨by simp, by simp⟩
  · intro ends ended
    rw [entry] at ends
    rcases ended with finished | gone
    · rcases SupervisorState.finished_step moved finished with
        before | ⟨rfl, here, write, pending⟩
      · -- The supervisor has nothing left to write.
        refine descent.last ?_ (.inl before)
        cases a <;> simpa [inserts, before.1] using ends
      · simp only [LifecycleState.CleanDescent, pending, here] at clean
        refine clean ?_
        simpa [inserts, pending] using ends
    · exact (descent.calm (ordered.aborted gone)).2

/-- The token is cancelled. -/
theorem signals (descent : Descent cfg s) (here : s.stop = .notStarted)
    (clean : s.CleanDescent cfg .stop) :
    Descent cfg
      { s with supervisor := { s.supervisor with cancelled := true }, stop := .signalled } := by
  simp only [LifecycleState.CleanDescent, here] at clean
  constructor
  · intro task mem status about
    rcases descent.armed task mem status about with raised | ⟨lowered, -⟩
    · exact .inl raised
    · exact .inr ⟨lowered, rfl⟩
  · exact fun _ => clean
  · rintro ⟨⟩
  · rintro ⟨⟩
  · exact fun _ _ => clean.2

/-- The status of the entry is a call's, and its task moves on. -/
theorem inserts (descent : Descent cfg s) (ordered : s.Ordered)
    (found : s.tasks[i]? = some task) (here : task.point = .inserting call status) :
    Descent cfg
      ((s.insertStatus status).setTask i { task with point := .recording call status }) := by
  have about : task.point.armed = some status := by
    rw [here]
    rfl
  have listed := List.mem_of_getElem? found
  have kind := descent.armed task listed status about
  refine descent.change rfl rfl rfl (rests_set rfl) ?_ ?_ ?_
  · intro announced
    have signalled := ordered.signalled announced
    rcases kind with rfl | ⟨rfl, -⟩
    · exact absurd about ((descent.calm signalled).2 task listed)
    · rfl
  · intro clear
    rcases kind with rfl | ⟨rfl, signalled⟩
    · exact ⟨by simp [entry, setTask, insertStatus], by simp [entry, setTask, insertStatus]⟩
    · rw [clear] at signalled
      cases signalled
  · intro ends _
    rcases kind with rfl | ⟨rfl, signalled⟩
    · cases ends
    · exact (descent.calm signalled).2

theorem step (descent : Descent cfg s) (ordered : s.Ordered) (sound : s.supervisor.Sound)
    (clean : s.CleanDescent cfg a) (h : Lifecycle.step cfg s a = some next) : Descent cfg next := by
  cases LifecycleMove.of_step h with
  | supervises permitted moved => exact descent.supervises ordered sound clean permitted moved
  | decides found here decided => exact descent.decides ordered clean found here decided
  | inserts found here => exact descent.inserts ordered found here
  | signals here => exact descent.signals here clean
  | spawns unstarted | insertsHandle spawned => exact descent.keep rfl (fun _ => .inl) id .inl
  | refuses unstarted =>
    refine descent.change rfl rfl rfl (fun _ => .inl) (fun _ => rfl)
      (fun _ => ⟨by simp [entry], by simp [entry]⟩) ?_
    intro _ _ task mem
    rw [(ordered.unspawned (by rw [unstarted]; rfl)).2] at mem
    cases mem
  | drops aborting =>
    refine descent.keep rfl (fun _ => .inl) id
      fun _ => .inr (ordered.begun.mpr ?_)
    simp [aborting]
  | startsBody cur running => exact descent.keep rfl rests_concat id .inl
  | spawnsTask found => exact descent.keep rfl rests_concat id .inl
  | proceeds mine found idle rests same records => exact descent.keep rfl (rests_set rests) id .inl
  | announces here =>
    have signalled : s.supervisor.cancelled = true := ordered.begun.mpr (by simp [here])
    refine descent.change rfl rfl rfl (fun _ => .inl) (fun _ => rfl) ?_ (by rintro ⟨⟩)
    intro clear
    rw [signalled] at clear
    cases clear
  | terminates here =>
    have signalled : s.supervisor.cancelled = true := ordered.begun.mpr (by simp [here])
    exact descent.change rfl rfl rfl (fun _ => .inl) (fun _ => rfl)
      (fun _ => ⟨by simp [entry, insertStatus], by simp [entry, insertStatus]⟩)
      fun _ _ => (descent.calm signalled).2
  | stops mine begun waits stays records =>
    exact descent.keep rfl (fun _ => .inl) (fun _ => begun) .inl

theorem of_run
    (run : GuardedRun (Lifecycle.step cfg) (LifecycleState.CleanDescent cfg)
      (.new cfg now) acts s) : Descent cfg s := by
  induction run with
  | nil => exact .initial
  | snoc earlier clean h ih =>
    obtain ⟨projected, supervised⟩ := Lifecycle.supervisor_run earlier
    exact ih.step (.of_run earlier) (.of_run supervised) clean h

/-- What a step inserts once the token is cancelled. -/
theorem inserts_descend (descent : Descent cfg s) (cancelled : s.supervisor.cancelled = true)
    (inserted : s.inserts a = some status) : status.descending = true := by
  obtain ⟨calm, unarmed⟩ := descent.calm cancelled
  cases a with
  | supervisor a => exact inserts_descending calm inserted
  | proceed i =>
    obtain ⟨task, found, about⟩ := Option.bind_eq_some_iff.mp inserted
    have listed := List.mem_of_getElem? found
    rcases descent.armed task listed status about with rfl | ⟨rfl, -⟩
    · exact absurd about (unarmed task listed)
    · rfl
  | stop =>
    have written : s.stop.inserts = some status := inserted
    cases here : s.stop <;> rw [here] at written <;> cases written <;> rfl
  | refuse =>
    cases inserted
    rfl
  | _ => cases inserted

/-- What a step inserts over the last status of a supervisor that has ended. -/
theorem inserts_terminated (descent : Descent cfg s) (clean : s.CleanDescent cfg a)
    (h : Lifecycle.step cfg s a = some next) (terminated : s.entry = some .terminated)
    (ended : s.ended) (inserted : s.inserts a = some status) : status = .terminated := by
  cases a with
  | supervisor a =>
    cases a with
    | perform =>
      -- A supervisor that has ended writes nothing.
      rcases ended with finished | gone
      · simp [LifecycleState.inserts, finished.1] at inserted
      · simp [Lifecycle.step, LifecycleState.permits, gone] at h
    | _ => cases inserted
  | proceed i =>
    obtain ⟨task, found, about⟩ := Option.bind_eq_some_iff.mp inserted
    have listed := List.mem_of_getElem? found
    rcases descent.armed task listed status about with rfl | ⟨rfl, -⟩
    · exact absurd about (descent.last terminated ended task listed)
    · rfl
  | stop =>
    have written : s.stop.inserts = some status := inserted
    cases here : s.stop with
    | signalled =>
      simp only [LifecycleState.CleanDescent, here] at clean
      exact absurd ⟨terminated, ended⟩ clean
    | joined =>
      rw [here] at written
      cases written
      rfl
    | _ =>
      rw [here] at written
      cases written
  | refuse =>
    cases inserted
    rfl
  | _ => cases inserted

end Descent

/-- Status only descends during shutdown: once the token is cancelled no step
inserts a starting status or `Healthy`, and the last status of a supervisor that
has ended stays, as long as the shutdown begins and announces itself at a clean
moment. -/
theorem status_descends {config : LifecycleConfig} {now : Instant} {schedule : List LifecycleAction}
    {state next : LifecycleState} {action : LifecycleAction}
    (run : GuardedRun (Lifecycle.step config) (LifecycleState.CleanDescent config)
      (.new config now) schedule state) (clean : state.CleanDescent config action)
    (stepped : Lifecycle.step config state action = some next) :
    (state.supervisor.cancelled = true →
      ∀ status, state.inserts action = some status → status.descending = true) ∧
    (state.entry = some .terminated → state.ended → next.entry = some .terminated) := by
  have descent := Descent.of_run run
  constructor
  · exact fun cancelled status inserted =>
      descent.inserts_descend cancelled inserted
  · intro terminated ended
    rw [(LifecycleMove.of_step stepped).entry_eq]
    cases inserted : state.inserts action with
    | none => exact terminated
    | some status =>
      rw [descent.inserts_terminated clean stepped terminated ended inserted]
      rfl

/-- A Healthy service is shut down, its supervisor ends, and the shutdown is
about to insert the last status. -/
def shutDownHealthy : List LifecycleAction :=
  List.flatten
    [startService, [.call 0 .done], List.replicate 4 (.proceed 0), List.replicate 5 .stop,
      [.supervisor (.generation (.bodyEnds .returned)), .supervisor .takeResult,
        .supervisor .advance],
      List.replicate 5 (.supervisor .perform), [.joinReady]]

theorem status_descends_healthy :
    ∃ state next,
      GuardedRun (Lifecycle.step webService)
        (LifecycleState.CleanDescent webService) (.new webService 0)
        shutDownHealthy state ∧
      Lifecycle.step webService state .stop = some next ∧
      (state.supervisor.cancelled = true ∧ state.inserts .stop = some .terminated ∧
        state.entry = some .terminated ∧ state.ended) ∧
      (state.supervisor.cancelled = true →
        ∀ status, state.inserts .stop = some status → status.descending = true) ∧
      (state.entry = some .terminated → state.ended → next.entry = some .terminated) := by
  obtain ⟨state, run, clean, moves, outcome⟩ :
      ∃ state,
        GuardedRun (Lifecycle.step webService)
          (LifecycleState.CleanDescent webService) (.new webService 0)
          shutDownHealthy state ∧
        state.CleanDescent webService .stop ∧
        (Lifecycle.step webService state .stop).isSome = true ∧
        state.supervisor.cancelled = true ∧
        state.inserts .stop = some .terminated ∧
        state.entry = some .terminated ∧ state.ended :=
    GuardedRun.exists_of_check (by decide +kernel)
  obtain ⟨next, stepped⟩ := Option.isSome_iff_exists.mp moves
  exact ⟨state, next, run, stepped, outcome, status_descends run clean stepped⟩

/-- The body asks `is_shutdown` just before the token is cancelled. -/
def handshakeLate : List LifecycleAction :=
  List.flatten
    [startService, [.call 0 (.utility .isShutdown), .stop], List.replicate 2 (.proceed 0)]

/-- The token is cancelled after the check of `on_starting`. -/
def startLate : List LifecycleAction :=
  [.spawnSupervisor, .insertHandle, .supervisor .advance, .stop,
    .supervisor .advance, .supervisor .perform]

/-- The service ends with a fatal error, and then the daemon is shut down. -/
def shutDownFatal : List LifecycleAction :=
  List.flatten
    [startService, [.supervisor (.generation (.bodyEnds
          (.failed { AnyError.msg "broken" with isFatal := true }))),
        .supervisor .takeResult, .supervisor .advance, .supervisor .advance],
      List.replicate 6 (.supervisor .perform), [.stop]]

/-- After the cancellation a handshake makes the service Healthy and the
supervisor announces its first generation, and the shutdown takes the last
status of a service that has ended back to `ShuttingDown`. -/
theorem status_rises_after_cancel :
    (∃ state, Run (Lifecycle.step webService) (.new webService 0) handshakeLate state ∧
      state.supervisor.cancelled = true ∧
      (Lifecycle.step webService state (.proceed 0)).isSome = true ∧
      state.inserts (.proceed 0) = some .healthy) ∧
    (∃ state, Run (Lifecycle.step webService) (.new webService 0) startLate state ∧
      state.supervisor.cancelled = true ∧
      (Lifecycle.step webService state (.supervisor .perform)).isSome = true ∧
      state.inserts (.supervisor .perform) = some .initializing) ∧
    ∃ state,
      Run (Lifecycle.step webService) (.new webService 0) shutDownFatal state ∧
      (state.entry = some .terminated ∧ state.ended) ∧
      (Lifecycle.step webService state .stop).map (·.entry) = some (some .shuttingDown) :=
  ⟨Run.exists_of_check (by decide +kernel), Run.exists_of_check (by decide +kernel),
    Run.exists_of_check (by decide +kernel)⟩

end ServiceDaemon
