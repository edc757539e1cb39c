/-
Purpose: When the runtime facts of a service agree with its entry in the status
  plane.  They do as long as the pairs of writes do not overlap, the shutdown
  does not replace a Healthy entry by its last write, and no supervisor is
  dropped in a backoff wait.
Main exports: FactsTrace, FactsTrace.step, StatusWriter, facts_agree_with_plane
-/
import ServiceDaemon.Lib.PendingWrites
import ServiceDaemon.Proofs.StatusAgreement

namespace ServiceDaemon

open ServiceRuntimeState

open AsyncLib StepSystem PendingWrites LifecycleState SupervisorState Lifecycle

/-!
A status goes to two places, the status plane and the runtime facts, by two
writes of the same task.  The supervisor, the calls of `done` and of the
handshake, and the shutdown write both; the last write of the shutdown and that
of a startup that refuses the service go to the plane only.

[SRC core/runtime_facts.rs, core/context/api.rs]
[SRC runner/supervisor.rs, runner/wave.rs]
-/

/-! ### Health in the two places -/

/-- Whether the entry is Healthy, and whether the facts say so. -/
structure HealthView where
  entry : Bool
  facts : Bool
deriving Repr, DecidableEq

namespace HealthView

def Agree (view : HealthView) : Prop :=
  view.entry = view.facts

/-- What a write of the supervisor does to the health. -/
def perform (view : HealthView) : SupervisorWrite → HealthView
  | .insertStatus status => { view with entry := decide (status = .healthy) }
  | .recordServiceStarted _ status | .recordServiceStatus status =>
    { view with facts := decide (status = .healthy) }
  | _ => view

end HealthView

/-- The write brings a status to the plane or to the facts. -/
def SupervisorWrite.touches : SupervisorWrite → Bool
  | .insertStatus _ | .recordServiceStarted .. | .recordServiceStatus _ => true
  | _ => false

/-- The write brings a status to the facts. -/
def SupervisorWrite.records : SupervisorWrite → Bool
  | .recordServiceStarted .. | .recordServiceStatus _ => true
  | _ => false

theorem HealthView.perform_eq {view : HealthView} {write : SupervisorWrite}
    (other : write.touches = false) : view.perform write = view := by
  cases write <;> first | rfl | cases other

theorem HealthView.drain_eq {view : HealthView} {writes : List SupervisorWrite}
    (others : writes.any SupervisorWrite.touches = false) :
    drain HealthView.perform view writes = view := by
  induction writes generalizing view with
  | nil => rfl
  | cons write writes ih =>
    rw [List.any_cons, Bool.or_eq_false_iff] at others
    rw [drain, List.foldl_cons, HealthView.perform_eq others.1]
    exact ih others.2

/-- Writes after which the two agree if they agreed before. -/
def Neutral (writes : List SupervisorWrite) : Prop :=
  ∀ view : HealthView,
    view.Agree → (drain HealthView.perform view writes).Agree

namespace Neutral

theorem of_others (others : writes.any SupervisorWrite.touches = false) : Neutral writes := by
  intro view agree
  rw [HealthView.drain_eq others]
  exact agree

theorem append (left : Neutral first) (right : Neutral second) :
    Neutral (first ++ second) := by
  intro view agree
  rw [drain, List.foldl_append]
  exact right _ (left view agree)

theorem announceStatus (status : ServiceStatus) :
    Neutral (announceStatus status) :=
  fun _ _ => rfl

theorem terminateWrites : Neutral terminateWrites :=
  fun _ _ => rfl

theorem outcomeWrites (origin : GenerationOrigin) (early : Bool) (record : GenerationExitRecord) :
    Neutral (outcomeWrites origin early record) := by
  unfold ServiceDaemon.outcomeWrites
  apply append
  · apply of_others
    split <;> rfl
  · split
    · exact announceStatus _
    · exact fun _ _ => rfl

end Neutral

/-- Writes that bring the same statuses. -/
def SamePlan (first second : List SupervisorWrite) : Prop :=
  first.any SupervisorWrite.touches = second.any SupervisorWrite.touches ∧
    ∀ view, drain HealthView.perform view first = drain HealthView.perform view second

theorem SamePlan.refl (writes : List SupervisorWrite) : SamePlan writes writes :=
  ⟨rfl, fun _ => rfl⟩

theorem SamePlan.tail {write : SupervisorWrite} {writes : List SupervisorWrite}
    (other : write.touches = false) : SamePlan writes (write :: writes) := by
  refine ⟨?_, ?_⟩
  · rw [List.any_cons, other, Bool.false_or]
  · intro view
    rw [drain, drain, List.foldl_cons, HealthView.perform_eq other]

theorem ServiceRuntimeState.recordStatusFacts_healthySince
    (facts : ServiceRuntimeState) (now : Instant) (status : ServiceStatus) :
    (facts.recordStatusFacts now status).healthySince.isSome = decide (status = .healthy) := by
  cases status <;> rfl

namespace LifecycleState

def health (s : LifecycleState) : HealthView :=
  { entry := decide (s.entry = some .healthy)
    facts := s.supervisor.runtimeFacts.healthySince.isSome }

end LifecycleState

/-- The health after a write of the supervisor. -/
theorem SupervisorState.perform_health (s : SupervisorState) (write : SupervisorWrite) :
    HealthView.mk
        (decide ((s.perform write).statusPlane = some .healthy))
        (s.perform write).runtimeFacts.healthySince.isSome =
      HealthView.perform
        ⟨decide (s.statusPlane = some .healthy), s.runtimeFacts.healthySince.isSome⟩ write := by
  cases write with
  | insertStatus status => simp [perform, HealthView.perform]
  | recordServiceStarted generation status =>
    have recorded :=
      recordStatusFacts_healthySince
        { s.runtimeFacts with
          generation := generation
          lastStartedAt := some s.now
          currentBackoff := none
          healthySince := none }
        s.now status
    exact congrArg (HealthView.mk _) recorded
  | recordServiceStatus status =>
    exact congrArg (HealthView.mk _) (recordStatusFacts_healthySince _ _ status)
  | _ => rfl

/-! ### Writers -/

/-- The tasks that write a status of the service. -/
inductive StatusWriter where
  | startup
  | supervisor
  | task (index : Nat)
  | stop
deriving Repr, DecidableEq

/-- The call has written the plane and not the facts. -/
def CallPoint.between : CallPoint → Bool
  | .recording .. => true
  | _ => false

/-- Whose write of a status the action is. -/
def LifecycleState.writerOf (s : LifecycleState) :
    LifecycleAction → Option StatusWriter
  | .refuse => some .startup
  | .supervisor .perform =>
    if s.supervisor.pending.head?.any SupervisorWrite.touches then
      some .supervisor
    else none
  | .proceed i =>
    match s.tasks[i]?.map LifecycleTask.point with
    | some (.inserting ..) | some (.recording ..) => some (.task i)
    | _ => none
  | .stop =>
    match s.stop with
    | .signalled | .inserted | .joined => some .stop
    | _ => none
  | _ => none

/-- The point is in the backoff wait, from the record of the delay on. -/
def SupervisorPoint.inWait : SupervisorPoint → Bool
  | .beginWait _ | .waiting .. => true
  | _ => false

/-- The service with two facts about its supervisor as history: it has begun to
write a status and has not finished, and it has left a backoff wait and not
recorded anything since. -/
structure FactsTrace where
  state : LifecycleState
  begun : Bool
  left : Bool
deriving DecidableEq

namespace FactsTrace

def new (config : LifecycleConfig) (now : Instant) : FactsTrace :=
  { state := .new config now, begun := false, left := false }

/-- The next write of the supervisor, if it is to be performed. -/
def performed (t : FactsTrace) : LifecycleAction → Option SupervisorWrite
  | .supervisor .perform => t.state.supervisor.pending.head?
  | _ => none

/-- The action ends a backoff wait. -/
def endsWait : LifecycleAction → Bool
  | .supervisor (.sleepElapsed _) | .supervisor .reloadDuringDelay
  | .supervisor .shutdownDuringDelay => true
  | _ => false

def step (config : LifecycleConfig) (t : FactsTrace) (a : LifecycleAction) : Option FactsTrace :=
  (Lifecycle.step config t.state a).map fun next =>
    { state := next
      begun :=
        (t.begun || (t.performed a).any SupervisorWrite.touches) &&
          next.supervisor.pending.any SupervisorWrite.touches
      left :=
        if endsWait a then true
        else if (t.performed a).any SupervisorWrite.records then false
        else t.left }

/-- The writers that have made one of their writes and not the other. -/
def between (t : FactsTrace) : List StatusWriter :=
  (if t.begun then [.supervisor] else []) ++ (if t.state.stop = .inserted then [.stop] else []) ++
    ((List.range t.state.tasks.length).filter fun i =>
      t.state.tasks[i]?.any fun task => task.point.between).map .task

/-- In the backoff wait of `wait_for_restart`. -/
def inBackoffWait (t : FactsTrace) : Bool :=
  !t.state.dropped && t.state.supervisor.point.inWait

end FactsTrace

/-- The pairs of writes do not overlap: while a writer is between its two
writes, nobody else writes.  The last write of the shutdown does not replace a
Healthy entry, and no supervisor is dropped in its backoff wait. -/
def WritesApart (t : FactsTrace) (a : LifecycleAction) : Prop :=
  (t.between.all fun writer =>
      (t.state.writerOf a).all fun actor => actor = writer) = true ∧
    (a = .stop → t.state.stop = .joined → t.state.entry ≠ some .healthy) ∧
    (a = .drop → t.state.supervisor.point.backingOff = false)

instance (t : FactsTrace) (a : LifecycleAction) :
    Decidable (WritesApart t a) :=
  inferInstanceAs (Decidable (_ ∧ _ ∧ _))

/-- The task has inserted the status and is about to record it. -/
def LifecycleState.RecordingAt (s : LifecycleState) (i : Nat)
    (call : LifecycleCall) (status : ServiceStatus) : Prop :=
  s.tasks[i]?.map LifecycleTask.point = some (.recording call status)

namespace LifecycleState

variable {s : LifecycleState} {i other : Nat}
  {task moved : LifecycleTask} {call : LifecycleCall} {status : ServiceStatus}

theorem recordingAt_set (found : s.tasks[i]? = some task) :
    (s.setTask i moved).RecordingAt other call status ↔
      (other = i ∧ moved.point = .recording call status) ∨
        (other ≠ i ∧ s.RecordingAt other call status) := by
  unfold RecordingAt
  by_cases own : other = i
  · subst own
    have there : (s.setTask other moved).tasks[other]? = some moved := Threads.set_self found
    simp [there]
  · have there : (s.setTask i moved).tasks[other]? =
        s.tasks[other]? := List.getElem?_set_ne (Ne.symm own)
    simp [there, own]

/-- A task that moves outside of its pair of writes. -/
theorem recordingAt_quiet (found : s.tasks[i]? = some task)
    (before : task.point.between = false) (after : moved.point.between = false) :
    (s.setTask i moved).RecordingAt other call status ↔ s.RecordingAt other call status := by
  rw [recordingAt_set found]
  constructor
  · rintro (⟨_, records⟩ | ⟨_, records⟩)
    · rw [records] at after
      cases after
    · exact records
  · intro records
    refine .inr ⟨?_, records⟩
    rintro rfl
    unfold RecordingAt at records
    rw [found] at records
    rw [Option.some.inj records] at before
    cases before

/-- A task that starts has written nothing. -/
theorem recordingAt_concat {gen} :
    RecordingAt
        { s with tasks := s.tasks ++ [⟨gen, .idle, none⟩] } other
        call status ↔
      s.RecordingAt other call status := by
  unfold RecordingAt
  constructor
  · intro records
    obtain ⟨task, there, same⟩ := Option.map_eq_some_iff.mp records
    rcases Threads.concat_cases there with there | ⟨_, rfl⟩
    · rw [there, Option.map_some, same]
    · cases same
  · intro records
    obtain ⟨task, there, same⟩ := Option.map_eq_some_iff.mp records
    rw [Threads.concat_old there, Option.map_some, same]

end LifecycleState

namespace LifecycleState

/-- The writer has made one of its writes and not the other.  Of the supervisor
that is said by the bit. -/
def Between (s : LifecycleState) (writing : Bool) : StatusWriter → Prop
  | .startup => False
  | .supervisor => writing = true
  | .task i => ∃ call status, s.RecordingAt i call status
  | .stop => s.stop = .inserted

theorem Between.eq {s : LifecycleState} {writing : Bool} {writer actor : StatusWriter}
    (between : s.Between writing writer) (supervisor : writing = true → .supervisor = actor)
    (task : ∀ i call status, s.RecordingAt i call status → .task i = actor)
    (stop : s.stop = .inserted → .stop = actor) : writer = actor := by
  cases writer with
  | startup => cases between
  | supervisor => exact supervisor between
  | task i =>
    obtain ⟨call, status, records⟩ := between
    exact task i call status records
  | stop => exact stop between

/-- While somebody is between its two writes, only that writer writes. -/
def Alone (s : LifecycleState) (writing : Bool) (a : LifecycleAction) : Prop :=
  ∀ {actor writer}, s.writerOf a = some actor → s.Between writing writer → actor = writer

theorem exists_recordingAt {s : LifecycleState} {i : Nat} :
    (∃ call status, s.RecordingAt i call status) ↔ i < s.tasks.length ∧
        (s.tasks[i]?.any fun task => task.point.between) = true := by
  unfold RecordingAt
  constructor
  · rintro ⟨call, status, records⟩
    obtain ⟨task, there, point⟩ := Option.map_eq_some_iff.mp records
    refine ⟨(List.getElem?_eq_some_iff.mp there).1, ?_⟩
    rw [there, Option.any_some, point]
    rfl
  · rintro ⟨_, between⟩
    obtain ⟨task, there, between⟩ := (Option.any_eq_true _ _).mp between
    cases point : task.point with
    | recording call status =>
      refine ⟨call, status, ?_⟩
      rw [there, Option.map_some, point]
    | _ =>
      rw [point] at between
      cases between

end LifecycleState

theorem FactsTrace.mem_between {t : FactsTrace} {writer : StatusWriter} :
    writer ∈ t.between ↔ t.state.Between t.begun writer := by
  simp only [between, List.mem_append, List.mem_map, List.mem_filter, List.mem_range]
  cases writer with
  | task i => simp [LifecycleState.Between, exists_recordingAt]
  | _ => simp [LifecycleState.Between]

theorem WritesApart.alone {t : FactsTrace} {action : LifecycleAction}
    (apart : WritesApart t action) : t.state.Alone t.begun action := by
  intro actor writer writes between
  have exclusive := List.all_eq_true.mp apart.1 writer (FactsTrace.mem_between.mpr between)
  rw [writes] at exclusive
  simpa using exclusive

/-- A step of the supervisor, or of somebody else. -/
theorem Lifecycle.supervises_or_foreign (h : step config s a = some after) :
    (∃ operation moved, a = .supervisor operation ∧ s.permits operation = true ∧
        Supervisor.step config.supervisor s.supervisor operation = some moved ∧
        after = s.note operation moved) ∨
      ∀ operation, a ≠ .supervisor operation := by
  cases a with
  | supervisor operation =>
    simp only [step] at h
    split at h
    · rename_i permitted
      obtain ⟨moved, advanced, rfl⟩ := Option.map_eq_some_iff.mp h
      exact .inl ⟨operation, moved, rfl, permitted, advanced, rfl⟩
    · cases h
  | _ =>
    right
    intro operation same
    cases same

theorem FactsTrace.performed_eq_none {t : FactsTrace} {a : LifecycleAction}
    (foreign : ∀ operation, a ≠ .supervisor operation) : t.performed a = none := by
  cases a with
  | supervisor operation => exact absurd rfl (foreign operation)
  | _ => rfl

/-! ### The pairs of writes -/

/-- Nothing has happened to a service that is not spawned. -/
def LifecycleState.Unspawned (s : LifecycleState) : Prop :=
  s.startup = .notStarted → s.supervisor.point = .starting ∧ s.tasks = [] ∧
      s.supervisor.runtimeFacts.healthySince = none

/-- The two places agree unless a writer is between its writes, and then they
will when it has finished. -/
structure FactsLedger (s : LifecycleState) (writing : Bool) : Prop where
  unfinished : writing = true → s.supervisor.pending.any SupervisorWrite.touches = true
  batch : writing = false → Neutral s.supervisor.pending
  finishing : writing = true → (drain HealthView.perform s.health s.supervisor.pending).Agree
  one : ∀ first second, s.Between writing first → s.Between writing second → first = second
  settled : (∀ writer, ¬ s.Between writing writer) → s.health.Agree
  recorded : ∀ i call status, s.RecordingAt i call status → s.entry = some status
  announced : s.stop = .inserted → s.entry = some .shuttingDown
  unspawned : s.Unspawned

namespace FactsLedger

variable {config : LifecycleConfig} {s after : LifecycleState}
  {writing : Bool} {a : LifecycleAction}

theorem new (now : Instant) : FactsLedger (.new config now) false := by
  refine
    { unfinished := ?_
      batch := fun _ => .of_others rfl
      finishing := ?_
      one := ?_
      settled := fun _ => rfl
      recorded := ?_
      announced := ?_
      unspawned := fun _ => ⟨rfl, rfl, rfl⟩ }
  · intro begun
    cases begun
  · intro begun
    cases begun
  · intro first second between _
    exact between.eq nofun nofun nofun
  · intro i call status records
    cases records
  · intro inserted
    cases inserted

/-- The bit of the supervisor stays unless it writes a status. -/
theorem begun_eq (inv : FactsLedger s writing) {planned}
    (pending : SamePlan planned s.supervisor.pending ∨
      s.supervisor.pending = [] ∧ Neutral planned) :
    (writing && planned.any SupervisorWrite.touches) = writing := by
  cases writing with
  | false => rfl
  | true =>
    have unfinished := inv.unfinished rfl
    rcases pending with same | ⟨idle, _⟩
    · rw [same.1, unfinished, Bool.and_self]
    · rw [idle] at unfinished
      cases unfinished

/-- What writes no status.  With nothing left to write, the supervisor may plan
its next writes. -/
theorem keeps (inv : FactsLedger s writing)
    (health : after.health = s.health) (entry : after.entry = s.entry)
    (pending : SamePlan after.supervisor.pending s.supervisor.pending ∨
      s.supervisor.pending = [] ∧ Neutral after.supervisor.pending)
    (recording : ∀ i call status, after.RecordingAt i call status ↔ s.RecordingAt i call status)
    (stop : after.stop = .inserted ↔ s.stop = .inserted)
    (unspawned : after.Unspawned) : FactsLedger after writing := by
  have same : ∀ writer,
      after.Between writing writer ↔ s.Between writing writer := by
    intro writer
    cases writer with
    | startup => exact Iff.rfl
    | supervisor => exact Iff.rfl
    | task i =>
      refine exists_congr fun call => exists_congr fun status => ?_
      exact recording i call status
    | stop => exact stop
  have planned : writing = true → SamePlan after.supervisor.pending s.supervisor.pending := by
    intro begun
    rcases pending with same | ⟨idle, _⟩
    · exact same
    · have unfinished := inv.unfinished begun
      rw [idle] at unfinished
      cases unfinished
  refine
    { unfinished := ?_
      batch := ?_
      finishing := ?_
      one := ?_
      settled := ?_
      recorded := ?_
      announced := ?_
      unspawned := unspawned }
  · intro begun
    exact (planned begun).1.trans (inv.unfinished begun)
  · intro resting
    rcases pending with same | ⟨_, neutral⟩
    · intro view agree
      rw [same.2]
      exact inv.batch resting view agree
    · exact neutral
  · intro begun
    rw [(planned begun).2, health]
    exact inv.finishing begun
  · intro first second one two
    exact inv.one first second ((same first).mp one) ((same second).mp two)
  · intro quiet
    rw [health]
    exact inv.settled fun writer between =>
      quiet writer ((same writer).mpr between)
  · intro i call status records
    refine entry.trans ?_
    exact inv.recorded i call status ((recording i call status).mp records)
  · intro inserted
    exact entry.trans (inv.announced (stop.mp inserted))

/-- The supervisor writes a status; nobody else is between its writes. -/
theorem performs (inv : FactsLedger s writing) (apart : s.Alone writing (.supervisor .perform))
    {write : SupervisorWrite} {writes : List SupervisorWrite} (touches : write.touches = true)
    (pending : s.supervisor.pending = write :: writes) (spawned : s.startup ≠ .notStarted)
    (health : after.health = s.health.perform write) (planned : after.supervisor.pending = writes)
    (tasks : after.tasks = s.tasks) (stop : after.stop = s.stop)
    (startup : after.startup = s.startup) :
    FactsLedger after (writes.any SupervisorWrite.touches) := by
  have alone : ∀ writer, s.Between writing writer → writer = .supervisor := by
    intro writer between
    refine (apart ?_ between).symm
    simp [writerOf, pending, touches]
  have agree : (drain HealthView.perform s.health (write :: writes)).Agree := by
    rw [← pending]
    cases writing with
    | true => exact inv.finishing rfl
    | false =>
      refine inv.batch rfl _ (inv.settled ?_)
      intro writer between
      cases alone writer between
      cases between
  have others : ∀ writer,
      after.Between (writes.any SupervisorWrite.touches) writer → writer = .supervisor := by
    intro writer between
    refine between.eq (fun _ => rfl) ?_ ?_
    · intro i call status records
      refine alone (.task i) ⟨call, status, ?_⟩
      unfold LifecycleState.RecordingAt at records ⊢
      rw [← tasks]
      exact records
    · intro inserted
      exact alone .stop (stop.symm.trans inserted)
  refine
    { unfinished := ?_
      batch := fun resting => .of_others ?_
      finishing := ?_
      one := fun first second one two =>
        (others first one).trans (others second two).symm
      settled := ?_
      recorded := ?_
      announced := ?_
      unspawned := ?_ }
  · rw [planned]
    exact id
  · rw [planned]
    exact resting
  · intro _
    rw [planned, health]
    exact agree
  · intro quiet
    have done : writes.any SupervisorWrite.touches = false :=
      Bool.eq_false_iff.mpr (quiet .supervisor)
    have finished : drain HealthView.perform (s.health.perform write)
        writes = s.health.perform write := HealthView.drain_eq done
    rw [health, ← finished]
    exact agree
  · intro i call status records
    cases others (.task i) ⟨call, status, records⟩
  · intro inserted
    cases others .stop inserted
  · intro unstarted
    exact absurd (startup.symm.trans unstarted) spawned

/-- Another writer writes, and only that writer was or is between its writes. -/
theorem writes (inv : FactsLedger s writing) (actor : StatusWriter) (foreign : actor ≠ .supervisor)
    (alone : ∀ writer, s.Between writing writer → writer = actor)
    (pending : after.supervisor.pending = s.supervisor.pending)
    (still : ∀ writer, after.Between writing writer → writer = actor)
    (settled : (∀ writer, ¬ after.Between writing writer) → after.health.Agree)
    (recorded : ∀ i call status, after.RecordingAt i call status → after.entry = some status)
    (announced : after.stop = .inserted → after.entry = some .shuttingDown)
    (unspawned : after.Unspawned) : FactsLedger after writing := by
  have resting : writing ≠ true := by
    intro begun
    exact foreign (alone .supervisor begun).symm
  refine
    { unfinished := fun begun => absurd begun resting
      batch := ?_
      finishing := fun begun => absurd begun resting
      one := fun first second one two =>
        (still first one).trans (still second two).symm
      settled := settled
      recorded := recorded
      announced := announced
      unspawned := unspawned }
  intro begun
  rw [pending]
  exact inv.batch begun

end FactsLedger

/-! ### Steps of the supervisor -/

/-- Without a write, the supervisor leaves the health alone, and it plans writes
only when none is left. -/
theorem SupervisorMove.plans (move : SupervisorMove config s a next)
    (decides : a ≠ .perform) (own : ∀ status, a ≠ .writeStatus status ∧ a ≠ .recordStatus status) :
    next.statusPlane = s.statusPlane ∧ next.runtimeFacts = s.runtimeFacts ∧
      (next.pending = s.pending ∨ s.pending = [] ∧ Neutral next.pending) := by
  cases move with
  | performs _ => exact absurd rfl decides
  | stops idle _ _ => exact ⟨rfl, rfl, .inr ⟨idle, Neutral.terminateWrites⟩⟩
  | prepares idle _ => exact ⟨rfl, rfl, .inr ⟨idle, fun _ _ => rfl⟩⟩
  | checksCancelled idle _ _ => exact ⟨rfl, rfl, .inr ⟨idle, fun _ _ => rfl⟩⟩
  | checksWithout idle _ _ _ => exact ⟨rfl, rfl, .inr ⟨idle, Neutral.announceStatus _⟩⟩
  | classifies idle _ => exact ⟨rfl, rfl, .inr ⟨idle, Neutral.outcomeWrites _ _ _⟩⟩
  | decides idle _ => exact ⟨rfl, rfl, .inr ⟨idle, .of_others rfl⟩⟩
  | delays idle _ => exact ⟨rfl, rfl, .inr ⟨idle, .of_others rfl⟩⟩
  | takesDependency idle _ _ => exact ⟨rfl, rfl, .inr ⟨idle, .of_others rfl⟩⟩
  | takesReload idle _ _ => exact ⟨rfl, rfl, .inr ⟨idle, .of_others rfl⟩⟩
  | stopsWait idle _ _ => exact ⟨rfl, rfl, .inr ⟨idle, Neutral.announceStatus _⟩⟩
  | writesStatus => exact absurd rfl (own _).1
  | recordsStatus => exact absurd rfl (own _).2
  | _ => exact ⟨rfl, rfl, .inl rfl⟩

/-- Before the supervisor is spawned, it stays at its start. -/
theorem SupervisorMove.unspawned {config : SupervisorConfig} {s : LifecycleState}
    {next : SupervisorState} {a : SupervisorAction}
    (move : SupervisorMove config s.supervisor a next) (permitted : s.permits a = true)
    (unstarted : s.startup = .notStarted)
    (here : s.supervisor.point = .starting) :
    next.point = .starting ∧ next.runtimeFacts = s.supervisor.runtimeFacts := by
  have away : (s.startup.supervised && !s.dropped) = false := by
    rw [unstarted]
    rfl
  cases move with
  | runs there _ => cases here.symm.trans there
  | runsReloading there _ => cases here.symm.trans there
  | ticks => exact ⟨here, rfl⟩
  | cancelsDaemon => exact ⟨here, rfl⟩
  | triggersReload => exact ⟨here, rfl⟩
  | changes _ => exact ⟨congrArg SupervisorPoint.noteChange here, rfl⟩
  | cancels | writesStatus | recordsStatus => cases permitted
  | _ => cases away.symm.trans permitted

namespace FactsLedger

variable {config : LifecycleConfig} {s after : LifecycleState}
  {writing : Bool} {a : LifecycleAction}

/-- A write that is no status. -/
theorem performsOther (inv : FactsLedger s writing) {write : SupervisorWrite}
    {writes : List SupervisorWrite} (touches : write.touches = false)
    (pending : s.supervisor.pending = write :: writes)
    (health : after.health = s.health.perform write) (entry : after.entry = s.entry)
    (planned : after.supervisor.pending = writes) (tasks : after.tasks = s.tasks)
    (stop : after.stop = s.stop) (unspawned : after.Unspawned) :
    FactsLedger after (writing && writes.any SupervisorWrite.touches) := by
  have plan : SamePlan writes s.supervisor.pending := by
    rw [pending]
    exact .tail touches
  rw [inv.begun_eq (.inl plan)]
  refine inv.keeps (health.trans (HealthView.perform_eq touches)) entry
    (.inl (planned ▸ plan)) ?_ (by rw [stop]) unspawned
  intro i call status
  unfold LifecycleState.RecordingAt
  rw [tasks]

theorem supervises {t : FactsTrace} (inv : FactsLedger t.state t.begun) {a : SupervisorAction}
    {moved : SupervisorState} (apart : t.state.Alone t.begun (.supervisor a))
    (permitted : t.state.permits a = true)
    (h : Supervisor.step config.supervisor t.state.supervisor a = some moved) :
    FactsLedger (t.state.note a moved)
      ((t.begun || (t.performed (.supervisor a)).any SupervisorWrite.touches) &&
        moved.pending.any SupervisorWrite.touches) := by
  have move := SupervisorMove.of_step h
  have unspawned : (t.state.note a moved).Unspawned := by
    intro unstarted
    obtain ⟨here, none, unhealthy⟩ := inv.unspawned unstarted
    obtain ⟨point, facts⟩ := move.unspawned permitted unstarted here
    exact ⟨point, none, (congrArg (·.healthySince) facts).trans unhealthy⟩
  by_cases performing : a = .perform
  · subst performing
    cases move with
    | @performs write writes pending =>
      have spawned : t.state.startup ≠ .notStarted := by
        intro unstarted
        simp [permits, unstarted, SpawnPoint.supervised] at permitted
      have health := perform_health t.state.supervisor write
      have performed : t.performed (.supervisor .perform) = some write := by
        simp [FactsTrace.performed, pending]
      rw [performed, Option.any_some]
      cases touches : write.touches with
      | true =>
        rw [Bool.or_true, Bool.true_and]
        exact inv.performs apart touches pending spawned health rfl rfl rfl rfl
      | false =>
        rw [Bool.or_false]
        refine inv.performsOther touches pending health ?_ rfl rfl rfl unspawned
        cases write <;> first | rfl | cases touches
  · have own : ∀ status, a ≠ .writeStatus status ∧ a ≠ .recordStatus status := by
      intro status
      constructor
      · rintro rfl
        cases permitted
      · rintro rfl
        cases permitted
    obtain ⟨plane, facts, planned⟩ := move.plans performing own
    have pending : SamePlan moved.pending t.state.supervisor.pending ∨
        t.state.supervisor.pending = [] ∧ Neutral moved.pending := by
      rcases planned with same | planned
      · rw [same]
        exact .inl (.refl _)
      · exact .inr planned
    have foreign : t.performed (.supervisor a) = none := by
      cases a <;> first | rfl | exact absurd rfl performing
    have health : (t.state.note a moved).health = t.state.health := by
      change HealthView.mk (decide (moved.statusPlane = some .healthy))
        moved.runtimeFacts.healthySince.isSome = _
      rw [plane, facts]
      rfl
    rw [foreign, Option.any_none, Bool.or_false, inv.begun_eq pending]
    exact inv.keeps health plane pending (fun _ _ _ => Iff.rfl) Iff.rfl unspawned

/-! ### Steps of the calls and of the shutdown -/

theorem spawned_of_task (inv : FactsLedger s writing) {i : Nat}
    {task : LifecycleTask} (found : s.tasks[i]? = some task) : s.startup ≠ .notStarted := by
  intro unstarted
  rw [(inv.unspawned unstarted).2.1] at found
  cases found

/-- A call moves outside of its pair of writes. -/
theorem moves (inv : FactsLedger s writing) {i : Nat} {task moved : LifecycleTask}
    (found : s.tasks[i]? = some task) (before : task.point.between = false)
    (rests : moved.point.between = false) (health : after.health = s.health)
    (entry : after.entry = s.entry) (pending : after.supervisor.pending = s.supervisor.pending)
    (tasks : after.tasks = s.tasks.set i moved) (stop : after.stop = s.stop)
    (startup : after.startup = s.startup) : FactsLedger after writing := by
  refine inv.keeps health entry (.inl (pending ▸ .refl _)) ?_ (by rw [stop])
    ?_
  · intro other call status
    have quiet : (s.setTask i moved).RecordingAt other call status ↔
        s.RecordingAt other call status :=
      recordingAt_quiet found before rests
    unfold LifecycleState.RecordingAt at quiet ⊢
    rw [tasks]
    exact quiet
  · intro unstarted
    exact absurd (startup.symm.trans unstarted) (inv.spawned_of_task found)

theorem nobody_of_writer (apart : s.Alone writing a) (actor : StatusWriter)
    (writes : s.writerOf a = some actor) (rests : ¬ s.Between writing actor) :
    ∀ writer, ¬ s.Between writing writer := by
  intro writer between
  cases apart writes between
  exact rests between

/-- A call inserts its status. -/
theorem inserts (inv : FactsLedger s writing) {i : Nat} {task : LifecycleTask}
    {call : LifecycleCall} {status : ServiceStatus} (apart : s.Alone writing (.proceed i))
    (found : s.tasks[i]? = some task) (here : task.point = .inserting call status) :
    FactsLedger
      ((s.insertStatus status).setTask i
        { task with point := .recording call status }) writing := by
  have nobody := nobody_of_writer apart (.task i)
    (by simp [writerOf, found, here])
    (by simp [LifecycleState.Between, LifecycleState.RecordingAt, found, here])
  have recording : ∀ other kind recorded,
      ((s.insertStatus status).setTask i
        { task with point := .recording call status }).RecordingAt other kind
          recorded →
        other = i ∧ status = recorded := by
    intro other kind recorded records
    have found : (s.insertStatus status).tasks[i]? = some task := found
    rcases (recordingAt_set found).mp records with
      ⟨own, same⟩ | ⟨_, old⟩
    · cases same
      exact ⟨own, rfl⟩
    · exact absurd ⟨kind, recorded, old⟩ (nobody (.task other))
  refine inv.writes (.task i) (by simp)
    (fun writer between => absurd between (nobody writer)) rfl ?_ ?_ ?_ ?_ ?_
  · intro writer between
    refine between.eq (fun begun => absurd begun (nobody .supervisor)) ?_
      fun inserted => absurd inserted (nobody .stop)
    intro other kind recorded records
    rw [(recording other kind recorded records).1]
  · intro quiet
    refine absurd ⟨call, status, ?_⟩ (quiet (.task i))
    exact (recordingAt_set found).mpr (.inl ⟨rfl, rfl⟩)
  · intro other kind recorded records
    rw [← (recording other kind recorded records).2]
    rfl
  · intro inserted
    exact absurd inserted (nobody .stop)
  · intro unstarted
    exact absurd unstarted (inv.spawned_of_task found)

/-- A call records the status it has inserted. -/
theorem records (inv : FactsLedger s writing) {index : Nat} {task : LifecycleTask}
    {call : LifecycleCall} {status : ServiceStatus} (apart : s.Alone writing (.proceed index))
    (found : s.tasks[index]? = some task) (here : task.point = .recording call status) :
    FactsLedger
      ((s.recordStatus status).setTask index { task with point := .notifying call }) writing := by
  have alone : ∀ writer, s.Between writing writer → writer = .task index := by
    intro writer between
    refine (apart ?_ between).symm
    simp [writerOf, found, here]
  have entry : s.entry = some status := by
    refine inv.recorded index call status ?_
    unfold LifecycleState.RecordingAt
    rw [found, Option.map_some, here]
  have nobody : ∀ other kind recorded,
      ¬ ((s.recordStatus status).setTask index
        { task with point := .notifying call }).RecordingAt other kind
          recorded := by
    intro other kind recorded records
    have found : (s.recordStatus status).tasks[index]? = some task := found
    rcases (recordingAt_set found).mp records with
      ⟨_, same⟩ | ⟨apart, old⟩
    · cases same
    · cases alone (.task other) ⟨kind, recorded, old⟩
      exact apart rfl
  refine inv.writes (.task index) (by simp) alone rfl ?_ ?_ ?_ ?_ ?_
  · intro writer between
    refine between.eq (alone .supervisor) ?_ (alone .stop)
    intro other kind recorded records
    exact absurd records (nobody other kind recorded)
  · intro _
    change decide (s.entry = some .healthy) = (s.supervisor.runtimeFacts.recordStatusFacts
        s.supervisor.now status).healthySince.isSome
    rw [entry, recordStatusFacts_healthySince]
    simp
  · intro other kind recorded records
    exact absurd records (nobody other kind recorded)
  · intro inserted
    cases alone .stop inserted
  · intro unstarted
    exact absurd unstarted (inv.spawned_of_task found)

/-- The next operation of a call. -/
theorem proceeds (inv : FactsLedger s writing) {i task} (apart : s.Alone writing (.proceed i))
    (found : s.tasks[i]? = some task) (h : proceed s i task = some after) :
    FactsLedger after writing := by
  unfold proceed at h
  simp only at h
  split at h <;> rename_i here
  · cases h
  · cases h
  · cases h
    refine inv.moves found (by rw [here]; rfl) ?_ rfl rfl rfl rfl rfl rfl
    dsimp only
    split <;> rfl
  · rename_i call
    split at h <;> cases h
    · exact inv.moves found (by rw [here]; rfl) rfl rfl rfl rfl rfl rfl rfl
    · refine inv.moves found (by rw [here]; rfl) ?_ rfl rfl rfl rfl rfl rfl
      cases call <;> rfl
  · cases h
    exact inv.inserts apart found here
  · cases h
    exact inv.records apart found here
  · rename_i call
    cases h
    refine inv.moves found (by rw [here]; rfl) ?_ rfl rfl rfl rfl rfl rfl
    cases call <;> rfl
  all_goals
    cases h
    exact inv.moves found (by rw [here]; rfl) rfl rfl rfl rfl rfl rfl rfl

/-- The shutdown or the startup inserts a status while nobody is between its
writes. -/
theorem replaces (inv : FactsLedger s writing) (actor : StatusWriter)
    (foreign : actor ≠ .supervisor)
    (nobody : ∀ writer, ¬ s.Between writing writer)
    (pending : after.supervisor.pending = s.supervisor.pending)
    (tasks : after.tasks = s.tasks)
    (still : after.stop = .inserted → actor = .stop ∧ after.entry = some .shuttingDown)
    (agree : after.stop ≠ .inserted → after.health.Agree)
    (unspawned : after.Unspawned) : FactsLedger after writing := by
  have recording : ∀ i call status,
      ¬ after.RecordingAt i call status := by
    intro i call status records
    unfold LifecycleState.RecordingAt at records
    rw [tasks] at records
    exact nobody (.task i) ⟨call, status, records⟩
  refine inv.writes actor foreign
    (fun writer between => absurd between (nobody writer)) pending ?_ ?_ ?_ ?_
    unspawned
  · intro writer between
    refine between.eq (fun begun => absurd begun (nobody .supervisor)) ?_
      fun inserted => (still inserted).1.symm
    intro i call status records
    exact absurd records (recording i call status)
  · intro quiet
    exact agree (quiet .stop)
  · intro i call status records
    exact absurd records (recording i call status)
  · intro inserted
    exact (still inserted).2

/-- The shutdown records the status it has inserted. -/
theorem stopRecords (inv : FactsLedger s writing)
    (apart : s.Alone writing .stop) (here : s.stop = .inserted) :
    FactsLedger { s.recordStatus .shuttingDown with stop := .recorded }
      writing := by
  have alone : ∀ writer, s.Between writing writer → writer = .stop := by
    intro writer between
    refine (apart ?_ between).symm
    simp [writerOf, here]
  refine inv.writes .stop (by simp) alone rfl ?_ ?_ ?_ ?_ ?_
  · intro writer between
    refine between.eq (alone .supervisor) ?_ fun _ => rfl
    intro i call status records
    exact alone (.task i) ⟨call, status, records⟩
  · intro _
    change decide (s.entry = some .healthy) = false
    rw [inv.announced here]
    rfl
  · intro i call status records
    cases alone (.task i) ⟨call, status, records⟩
  · intro inserted
    cases inserted
  · intro unstarted
    obtain ⟨point, none, _⟩ := inv.unspawned unstarted
    exact ⟨point, none, rfl⟩

theorem stopMoves (inv : FactsLedger s writing) {point notifications}
    (here : s.stop ≠ .inserted) (there : point ≠ .inserted) :
    FactsLedger
      { s with stop := point, notifications := notifications } writing :=
  inv.keeps rfl rfl (.inl (.refl _)) (fun _ _ _ => Iff.rfl)
    ⟨fun inserted => absurd inserted there, fun inserted => absurd inserted here⟩
    inv.unspawned

/-- The next operation of the shutdown. -/
theorem stops (inv : FactsLedger s writing) (apart : s.Alone writing .stop)
    (unhealthy : s.stop = .joined → s.entry ≠ some .healthy) (h : Lifecycle.stop s = some after) :
    FactsLedger after writing := by
  unfold Lifecycle.stop at h
  split at h <;> rename_i here
  · cases h
    refine inv.keeps rfl rfl (.inl (.refl _)) (fun _ _ _ => Iff.rfl) ?_ inv.unspawned
    simp [here]
  · cases h
    have nobody := nobody_of_writer apart .stop
      (by simp [writerOf, here])
      (by simp [LifecycleState.Between, here])
    exact inv.replaces .stop (by simp) nobody rfl rfl
      (fun _ => ⟨rfl, rfl⟩) (fun away => absurd rfl away) inv.unspawned
  · cases h
    exact inv.stopRecords apart here
  · cases h
    exact inv.stopMoves (by simp [here]) (by simp)
  · split at h <;> cases h <;>
      exact inv.stopMoves (by simp [here]) (by simp)
  · split at h <;> cases h
    exact inv.stopMoves (by simp [here]) (by simp)
  · cases h
    have nobody := nobody_of_writer apart .stop
      (by simp [writerOf, here])
      (by simp [LifecycleState.Between, here])
    refine inv.replaces .stop (by simp) nobody rfl rfl ?_ ?_ inv.unspawned
    · intro inserted
      cases inserted
    · intro _
      -- The write goes to the plane alone, so the facts must not be healthy.
      have agree : decide (s.entry = some .healthy) =
          s.supervisor.runtimeFacts.healthySince.isSome :=
        inv.settled nobody
      change decide (some ServiceStatus.terminated = some .healthy) =
        s.supervisor.runtimeFacts.healthySince.isSome
      rw [← agree, decide_eq_false (unhealthy here)]
      rfl
  · cases h
    exact inv.stopMoves (by simp [here]) (by simp)
  · cases h
  · cases h

/-- The startup refuses the service. -/
theorem refuses (inv : FactsLedger s writing) {notifications}
    (apart : s.Alone writing .refuse) (unstarted : s.startup = .notStarted) :
    FactsLedger
      { s with
        supervisor :=
          { s.supervisor with statusPlane := some .terminated, daemonCancelled := true }
        startup := .refused
        notifications := notifications } writing := by
  have nobody := nobody_of_writer apart .startup rfl id
  refine inv.replaces .startup (by simp) nobody rfl rfl ?_ ?_ ?_
  · intro inserted
    exact absurd inserted (nobody .stop)
  · intro _
    change decide (some ServiceStatus.terminated = some .healthy) =
      s.supervisor.runtimeFacts.healthySince.isSome
    rw [(inv.unspawned unstarted).2.2]
    rfl
  · intro refused
    cases refused

theorem pending_eq (foreign : ∀ operation, a ≠ .supervisor operation)
    (move : LifecycleMove config s a after) : after.supervisor.pending = s.supervisor.pending := by
  cases move with
  | supervises _ _ => exact absurd rfl (foreign _)
  | _ => rfl

/-- A step of anybody but the supervisor. -/
theorem foreign_step (inv : FactsLedger s writing) (apart : s.Alone writing a)
    (unhealthy : a = .stop → s.stop = .joined → s.entry ≠ some .healthy)
    (foreign : ∀ operation, a ≠ .supervisor operation) (h : step config s a = some after) :
    FactsLedger after writing := by
  cases a with
  | supervisor operation => exact absurd rfl (foreign operation)
  | spawnSupervisor | insertHandle =>
    simp only [step] at h
    split at h <;> cases h
    refine inv.keeps rfl rfl (.inl (.refl _)) (fun _ _ _ => Iff.rfl) Iff.rfl ?_
    intro unstarted
    cases unstarted
  | refuse =>
    simp only [step] at h
    split at h <;> cases h
    rename_i refused
    simp only [Bool.and_eq_true, decide_eq_true_eq] at refused
    exact inv.refuses apart refused.1
  | drop =>
    simp only [step] at h
    split at h <;> cases h
    exact inv.keeps rfl rfl (.inl (.refl _)) (fun _ _ _ => Iff.rfl) Iff.rfl inv.unspawned
  | startBody =>
    simp only [step] at h
    split at h
    · split at h <;> cases h
      rename_i running
      simp only [Bool.and_eq_true] at running
      refine inv.keeps rfl rfl (.inl (.refl _)) (fun _ _ _ => recordingAt_concat) Iff.rfl ?_
      intro unstarted
      have away := running.1
      rw [(inv.unspawned unstarted).1] at away
      cases away
    · cases h
  | spawn parent =>
    simp only [step] at h
    split at h <;> cases h
    rename_i found
    refine inv.keeps rfl rfl (.inl (.refl _)) (fun _ _ _ => recordingAt_concat) Iff.rfl ?_
    intro unstarted
    exact absurd unstarted (inv.spawned_of_task found)
  | call i call =>
    simp only [step] at h
    split at h <;> cases h
    rename_i found
    refine inv.moves found rfl ?_ rfl rfl rfl rfl rfl rfl
    cases call <;> rfl
  | proceed i =>
    obtain ⟨task, found, moved⟩ := Option.bind_eq_some_iff.mp h
    exact inv.proceeds apart found moved
  | wake i branch =>
    obtain ⟨task, found, moved⟩ := Option.bind_eq_some_iff.mp h
    unfold wake at moved
    split at moved
    · rename_i here
      simp only at moved
      split at moved <;> cases moved
      exact inv.moves found (by rw [here]; rfl) rfl rfl rfl rfl rfl rfl rfl
    · cases moved
  | stop => exact inv.stops apart (unhealthy rfl) h
  | joinReady | graceElapsed =>
    simp only [step] at h
    split at h
    · rename_i here
      split at h <;> cases h
      exact inv.stopMoves (by simp [here]) (by simp)
    · cases h

theorem step {t next : FactsTrace} (inv : FactsLedger t.state t.begun)
    (apart : WritesApart t a) (h : t.step config a = some next) :
    FactsLedger next.state next.begun := by
  obtain ⟨after, moved, rfl⟩ := Option.map_eq_some_iff.mp h
  rcases Lifecycle.supervises_or_foreign moved with
    ⟨operation, supervisor, rfl, permitted, advanced, rfl⟩ | foreign
  · exact inv.supervises apart.alone permitted advanced
  · have pending := pending_eq foreign (LifecycleMove.of_step moved)
    have plan : SamePlan after.supervisor.pending
        t.state.supervisor.pending := by
      rw [pending]
      exact .refl _
    have same : ((t.begun || (t.performed a).any SupervisorWrite.touches) &&
        after.supervisor.pending.any SupervisorWrite.touches) = t.begun := by
      rw [t.performed_eq_none foreign, Option.any_none, Bool.or_false, inv.begun_eq (.inl plan)]
    exact (congrArg (FactsLedger after) same).mpr
      (inv.foreign_step apart.alone apart.2.1 foreign moved)

end FactsLedger

/-! ### The backoff -/

theorem ServiceRuntimeState.recordStatusFacts_currentBackoff {facts : ServiceRuntimeState}
    {now : Instant} {status : ServiceStatus}
    (waiting : (facts.recordStatusFacts now status).currentBackoff.isSome = true) :
    facts.currentBackoff.isSome = true := by
  cases status <;> first | exact waiting | cases waiting

theorem ServiceRuntimeState.recordServiceStarted_currentBackoff (facts : ServiceRuntimeState)
    (now : Instant) (gen : Nat) (status : ServiceStatus) :
    (facts.recordServiceStarted now gen status).currentBackoff = none := by
  cases status <;> rfl

/-- The next record of a status will clear the backoff. -/
def clearsBackoff : List SupervisorWrite → Bool
  | [] => false
  | .recordServiceStarted .. :: _ => true
  | .recordServiceStatus status :: _ => status = .terminated
  | _ :: writes => clearsBackoff writes

theorem recordServiceRestart_notMem_outcomeWrites (origin : GenerationOrigin)
    (early : Bool) (record : GenerationExitRecord) (delay : Duration) :
    .recordServiceRestart (some delay) ∉ outcomeWrites origin early record := by
  unfold outcomeWrites
  cases record.shouldShutdownDaemon <;> cases record.shouldRestart <;>
    simp [announceStatus, terminateWrites]

/-- A backoff in the facts is that of a wait, or of one that the supervisor has
left, and then it clears it as soon as it records anything. -/
structure BackoffLedger (s : SupervisorState) (dropped left : Bool) :
    Prop where
  backoff : s.runtimeFacts.currentBackoff.isSome = true →
    left = true ∨ (!dropped && s.point.inWait) = true
  planned : ∀ delay, .recordServiceRestart (some delay) ∈ s.pending →
    ∃ wait, s.point = .beginWait wait
  leaving : left = true → (s.pending = [] ∧ (s.point = .starting ∨ s.point = .prepare)) ∨
      (clearsBackoff s.pending = true ∧ s.point.awaits = false)

namespace BackoffLedger

variable {config : SupervisorConfig} {s next : SupervisorState}
  {dropped left : Bool}

theorem new (config : LifecycleConfig) (now : Instant) :
    BackoffLedger (new config now).supervisor false false := by
  refine ⟨?_, ?_, ?_⟩
  · intro waiting
    cases waiting
  · intro delay mem
    cases mem
  · intro left
    cases left

/-- At rest and away from its start, the supervisor is not leaving a wait. -/
theorem left_eq_false (inv : BackoffLedger s dropped left)
    (idle : s.pending = []) (away : s.point ≠ .starting ∧ s.point ≠ .prepare) : left ≠ true := by
  intro left
  rcases inv.leaving left with ⟨_, here | here⟩ | ⟨clears, _⟩
  · exact away.1 here
  · exact away.2 here
  · rw [idle] at clears
    cases clears

/-- The supervisor performs a write. -/
theorem performs (inv : BackoffLedger s dropped left)
    {write : SupervisorWrite} {writes : List SupervisorWrite}
    (pending : s.pending = write :: writes) (alive : dropped = false) :
    BackoffLedger { s.perform write with pending := writes } dropped
      (if write.records then false else left) := by
  have point := s.perform_point write
  refine ⟨?_, ?_, ?_⟩
  · dsimp only
    rw [point]
    intro waiting
    cases write with
    | recordServiceRestart backoff =>
      cases backoff with
      | none => cases waiting
      | some delay =>
        obtain ⟨wait, here⟩ := inv.planned delay (by simp [pending])
        rw [here, alive]
        exact .inr rfl
    | recordServiceStarted gen status =>
      have cleared := recordServiceStarted_currentBackoff s.runtimeFacts s.now gen status
      exact absurd waiting (by simp [perform, cleared])
    | recordServiceStatus status =>
      have before := recordStatusFacts_currentBackoff waiting
      rcases inv.backoff before with left | inWait
      · rcases inv.leaving left with ⟨idle, _⟩ | ⟨clears, _⟩
        · cases idle.symm.trans pending
        · rw [pending] at clears
          obtain rfl : status = .terminated := by simpa [clearsBackoff] using clears
          cases waiting
      · exact .inr inWait
    | _ => exact inv.backoff waiting
  · intro delay mem
    obtain ⟨wait, here⟩ := inv.planned delay (by
      rw [pending]
      exact List.mem_cons_of_mem write mem)
    exact ⟨wait, point.trans here⟩
  · intro still
    obtain ⟨quiet, still⟩ : write.records = false ∧ left = true := by
      cases records : write.records with
      | true => simp [records] at still
      | false => simpa [records] using still
    rcases inv.leaving still with ⟨idle, _⟩ | ⟨clears, resting⟩
    · cases idle.symm.trans pending
    · refine .inr ⟨?_, (congrArg SupervisorPoint.awaits point).trans resting⟩
      rw [pending] at clears
      cases write <;> first | exact clears | cases quiet

/-- The facts keep their backoff or lose it, and the supervisor stays where it
is. -/
theorem keeps (inv : BackoffLedger s dropped left)
    (facts : next.runtimeFacts.currentBackoff.isSome = true →
      s.runtimeFacts.currentBackoff.isSome = true)
    (pending : next.pending = s.pending) (point : next.point = s.point) :
    BackoffLedger next dropped left := by
  refine ⟨?_, ?_, ?_⟩
  · intro waiting
    rw [point]
    exact inv.backoff (facts waiting)
  · rw [pending, point]
    exact inv.planned
  · rw [pending, point]
    exact inv.leaving

/-- The supervisor goes on awaiting, in a wait or outside of it as before. -/
theorem goesOn (inv : BackoffLedger s dropped left) (awaits : s.point.awaits = true)
    (facts : next.runtimeFacts = s.runtimeFacts) (pending : next.pending = s.pending)
    (wait : next.point.inWait = s.point.inWait) : BackoffLedger next dropped left := by
  refine ⟨?_, ?_, ?_⟩
  · rw [facts, wait]
    exact inv.backoff
  · intro delay mem
    rw [pending] at mem
    obtain ⟨wait, here⟩ := inv.planned delay mem
    rw [here] at awaits
    cases awaits
  · intro left
    rcases inv.leaving left with ⟨_, here | here⟩ | ⟨_, resting⟩
    · rw [here] at awaits
      cases awaits
    · rw [here] at awaits
      cases awaits
    · cases resting.symm.trans awaits

/-- A decision of the supervisor outside of its start and of a wait. -/
theorem decides (inv : BackoffLedger s dropped left) (idle : s.pending = [])
    (away : s.point ≠ .starting ∧ s.point ≠ .prepare) (outside : s.point.inWait = false)
    (facts : next.runtimeFacts = s.runtimeFacts)
    (planned : ∀ delay, .recordServiceRestart (some delay) ∈ next.pending →
      ∃ wait, next.point = .beginWait wait) :
    BackoffLedger next dropped left := by
  have present := inv.left_eq_false idle away
  refine ⟨?_, planned, fun left => absurd left present⟩
  intro waiting
  rw [facts] at waiting
  rcases inv.backoff waiting with left | inWait
  · exact .inl left
  · rw [outside, Bool.and_false] at inWait
    cases inWait

/-- A decision after which a backoff is that of a wait that was left. -/
theorem leaves (inv : BackoffLedger s dropped left) {leaves}
    (facts : next.runtimeFacts = s.runtimeFacts) (away : s.point.inWait = false ∨ leaves = true)
    (still : left = true → leaves = true)
    (planned : ∀ delay, .recordServiceRestart (some delay) ∉ next.pending)
    (leaving : (next.pending = [] ∧ (next.point = .starting ∨ next.point = .prepare)) ∨
      (clearsBackoff next.pending = true ∧ next.point.awaits = false)) :
    BackoffLedger next dropped leaves := by
  refine ⟨?_, fun delay mem => absurd mem (planned delay), fun _ => leaving⟩
  intro waiting
  rw [facts] at waiting
  rcases away with outside | left
  · rcases inv.backoff waiting with left | inWait
    · exact .inl (still left)
    · rw [outside, Bool.and_false] at inWait
      cases inWait
  · exact .inl left

/-- What a move of the supervisor does to the history bit, by the write it
performs. -/
theorem supervises (inv : BackoffLedger s dropped left) {a : SupervisorAction}
    {performed : Option SupervisorWrite} (alive : a = .perform → dropped = false)
    (records : ∀ status, a ≠ .recordStatus status)
    (performs : performed = if a = .perform then s.pending.head? else none)
    (h : Supervisor.step config s a = some next) :
    BackoffLedger next dropped
      (if FactsTrace.endsWait (.supervisor a) then true
      else if performed.any SupervisorWrite.records then false
      else left) := by
  subst performs
  cases SupervisorMove.of_step h with
  | @performs write writes pending =>
    simp only [pending]
    exact inv.performs pending (alive rfl)
  | stops idle here _ =>
    exact inv.leaves rfl (.inl (by rw [here]; rfl)) id
      (by simp [terminate, terminateWrites, announceStatus])
      (.inr ⟨rfl, rfl⟩)
  | starts idle here _ =>
    exact inv.leaves rfl (.inl (by rw [here]; rfl)) id
      (by simp [idle]) (.inl ⟨idle, .inr rfl⟩)
  | prepares idle here =>
    refine inv.leaves rfl (.inl (by rw [here]; rfl)) id
      (by simp [prepare]) (.inr ⟨rfl, ?_⟩)
    simp only [prepare]
    split <;> rfl
  | elapses idle _ _ | reloadsWait idle _ _ =>
    exact inv.leaves rfl (.inr rfl) (fun _ => rfl)
      (by simp [noteWait, clearBackoff, idle])
      (.inl ⟨idle, .inl rfl⟩)
  | stopsWait idle _ _ =>
    exact inv.leaves rfl (.inr rfl) (fun _ => rfl)
      (by simp [noteWait, announceStatus]) (.inr ⟨rfl, rfl⟩)
  | delays idle here =>
    exact inv.decides idle (by simp [here]) (by rw [here]; rfl) rfl
      fun _ _ => ⟨_, rfl⟩
  | waits idle here =>
    have present := inv.left_eq_false idle (by simp [here])
    refine ⟨?_, ?_, fun left => absurd left present⟩
    · have backoff := inv.backoff
      rw [here] at backoff
      exact backoff
    · intro delay mem
      exact absurd (idle ▸ mem) List.not_mem_nil
  | classifies idle here =>
    refine inv.decides idle (by simp [here]) (by rw [here]; rfl) rfl ?_
    intro delay mem
    exact absurd mem (recordServiceRestart_notMem_outcomeWrites _ _ _ delay)
  | entersWithout idle here _ | enters idle here _ | checks idle here _
  | resets idle here _ | skipsReset idle here | restartsNow idle here
  | takesResult idle here | takesReloadResult idle here =>
    refine inv.decides idle (by simp [here]) (by rw [here]; rfl) rfl ?_
    intro delay mem
    exact absurd (idle ▸ mem) List.not_mem_nil
  | checksCancelled idle here _ | checksWithout idle here _ _
  | decides idle here | takesDependency idle here _ | takesReload idle here _ =>
    exact inv.decides idle (by simp [here]) (by rw [here]; rfl) rfl
      (by simp [terminate, terminateWrites, announceStatus, restart, requestReload])
  | runs here _ | runsReloading here _ =>
    exact inv.goesOn (by rw [here]; rfl) rfl rfl (by rw [here]; rfl)
  | changes _ =>
    cases here : s.point with
    | waiting deadline changed =>
      refine inv.goesOn (by rw [here]; rfl) rfl rfl ?_
      rw [here]
      rfl
    | _ => exact inv.keeps id rfl here.symm
  | ticks | cancels | cancelsDaemon | triggersReload | writesStatus => exact inv.keeps id rfl rfl
  | recordsStatus => exact absurd rfl (records _)

/-- A supervisor that is dropped outside of its wait has no backoff. -/
theorem drops (inv : BackoffLedger s dropped left) (outside : s.point.backingOff = false)
    (suspended : s.suspended = true) : BackoffLedger s true left := by
  refine ⟨?_, inv.planned, inv.leaving⟩
  intro waiting
  rcases inv.backoff waiting with left | inWait
  · exact .inl left
  · rw [Bool.and_eq_true] at inWait
    cases here : s.point with
    | beginWait delay => simp [SupervisorState.suspended, here] at suspended
    | waiting deadline changed =>
      rw [here] at outside
      cases outside
    | _ =>
      have away := inWait.2
      rw [here] at away
      cases away

theorem records {lifecycle : LifecycleState} {facts : ServiceRuntimeState}
    (inv : BackoffLedger lifecycle.supervisor dropped left)
    (records : lifecycle.Records facts) {plane : Option ServiceStatus} :
    BackoffLedger
      { lifecycle.supervisor with statusPlane := plane, runtimeFacts := facts }
      dropped left := by
  refine inv.keeps ?_ rfl rfl
  intro waiting
  rcases records with rfl | ⟨status, rfl⟩
  · exact waiting
  · exact recordStatusFacts_currentBackoff waiting

theorem step {config : LifecycleConfig} {t next : FactsTrace} {a : LifecycleAction}
    (inv : BackoffLedger t.state.supervisor t.state.dropped t.left)
    (apart : WritesApart t a) (h : t.step config a = some next) :
    BackoffLedger next.state.supervisor next.state.dropped next.left := by
  obtain ⟨after, moved, rfl⟩ := Option.map_eq_some_iff.mp h
  rcases Lifecycle.supervises_or_foreign moved with
    ⟨operation, supervisor, rfl, permitted, advanced, rfl⟩ | foreign
  · refine inv.supervises ?_ ?_ ?_ advanced
    · rintro rfl
      simp only [permits, Bool.and_eq_true, Bool.not_eq_true'] at permitted
      exact permitted.2
    · rintro status rfl
      cases permitted
    · cases operation <;> rfl
  · have same : (if FactsTrace.endsWait a then true
        else if (t.performed a).any SupervisorWrite.records then false
        else t.left) = t.left := by
      rw [t.performed_eq_none foreign]
      cases a with
      | supervisor operation => exact absurd rfl (foreign operation)
      | _ => rfl
    have kept : BackoffLedger after.supervisor after.dropped t.left := by
      by_cases dropping : a = .drop
      · subst dropping
        simp only [Lifecycle.step] at moved
        split at moved <;> cases moved
        rename_i dropped
        simp only [Bool.and_eq_true] at dropped
        exact inv.drops (apart.2.2 rfl) dropped.2
      · cases LifecycleMove.of_step moved with
        | supervises _ _ => exact absurd rfl (foreign _)
        | drops _ => exact absurd rfl dropping
        | proceeds _ _ _ _ _ records => exact inv.records records
        | stops _ _ _ _ records => exact inv.records records
        | _ => exact inv.keeps id rfl rfl
    exact (congrArg (BackoffLedger after.supervisor after.dropped) same).mpr kept

end BackoffLedger

/-! ### The facts and the plane -/

/-- As long as the pairs of writes are kept apart, in every state in which no
writer is between its two writes: `healthy_since` is set exactly if the entry is
Healthy, and a backoff is set only in the backoff wait, or on the way from it to
the next record of the supervisor. -/
theorem facts_agree_with_plane {config : LifecycleConfig} {now : Instant}
    {schedule : List LifecycleAction} {trace : FactsTrace}
    (run : GuardedRun (FactsTrace.step config) WritesApart (.new config now) schedule trace)
    (quiet : trace.between = []) :
    (trace.state.supervisor.runtimeFacts.healthySince.isSome = true ↔
        trace.state.entry = some .healthy) ∧
      (trace.left = false → trace.state.supervisor.runtimeFacts.currentBackoff.isSome = true →
          trace.inBackoffWait = true) := by
  have ledgers : FactsLedger trace.state trace.begun ∧
      BackoffLedger trace.state.supervisor trace.state.dropped trace.left := by
    apply run.invariant
    · exact ⟨.new now, .new config now⟩
    · intro trace next action ledgers apart stepped
      exact ⟨ledgers.1.step apart stepped, ledgers.2.step apart stepped⟩
  have nobody : ∀ writer, ¬ trace.state.Between trace.begun writer := by
    intro writer between
    have listed := FactsTrace.mem_between.mpr between
    rw [quiet] at listed
    cases listed
  constructor
  · have agree : decide (trace.state.entry = some .healthy) =
        trace.state.supervisor.runtimeFacts.healthySince.isSome :=
      ledgers.1.settled nobody
    rw [← agree, decide_eq_true_eq]
  · intro arrived waiting
    rcases ledgers.2.backoff waiting with left | inWait
    · cases arrived.symm.trans left
    · exact inWait

/-- The handshake of the first generation makes the service Healthy. -/
theorem facts_agree_with_plane_handshake :
    ∃ trace : FactsTrace,
      (GuardedRun (FactsTrace.step webService) WritesApart (.new webService 0)
          (startService ++ .call 0 (.utility .isShutdown) :: List.replicate 5 (.proceed 0)) trace ∧
        trace.between = []) ∧
      trace.state.entry = some .healthy ∧
      trace.state.supervisor.runtimeFacts.healthySince.isSome = true := by
  obtain ⟨trace, run, quiet, healthy⟩ :
      ∃ trace : FactsTrace,
        GuardedRun (FactsTrace.step webService) WritesApart (.new webService 0)
          (startService ++ .call 0 (.utility .isShutdown) :: List.replicate 5 (.proceed 0)) trace ∧
          trace.between = [] ∧ trace.state.entry = some .healthy :=
    GuardedRun.exists_of_check (by decide +kernel)
  exact ⟨trace, ⟨run, quiet⟩, healthy, (facts_agree_with_plane run quiet).1.mpr healthy⟩

/-- The shutdown announces `ShuttingDown` between the two writes of a
handshake. -/
def shutdownDuringHandshake : List LifecycleAction :=
  List.flatten
    [startService, [.call 0 (.utility .isShutdown)],
      List.replicate 3 (.proceed 0), List.replicate 4 .stop,
      List.replicate 4 (.proceed 0)]

/-- The body fails, and the supervisor waits for its first delay. -/
def failToBackoff : List LifecycleAction :=
  List.flatten
    [startService, [.supervisor (.generation (.bodyEnds (.failed (AnyError.msg "broken")))),
        .supervisor .takeResult, .supervisor .advance, .supervisor .advance],
      List.replicate 4 (.supervisor .perform),
      List.replicate 2 (.supervisor .advance),
      List.replicate 2 (.supervisor .perform), [.supervisor .advance]]

/-- The facts stay Healthy for good under an entry that is `ShuttingDown`.  The
backoff outlives its wait, until the next generation is announced, and for good
if the supervisor is aborted in the wait. -/
theorem facts_disagree_with_plane :
    (∃ trace : FactsTrace, Run (FactsTrace.step webService) (.new webService 0)
          shutdownDuringHandshake trace ∧
        trace.between = [] ∧
        trace.state.entry = some .shuttingDown ∧
        trace.state.supervisor.runtimeFacts.healthySince.isSome = true) ∧
    (∃ trace : FactsTrace, Run (FactsTrace.step webService) (.new webService 0)
          (failToBackoff ++ [.supervisor (.tick (fromSecs 1)),
              .supervisor (.sleepElapsed (fromSecs 2))]) trace ∧
        trace.between = [] ∧ trace.inBackoffWait = false ∧
        trace.state.supervisor.runtimeFacts.currentBackoff.isSome = true) ∧
    ∃ trace : FactsTrace,
      Run (FactsTrace.step webService) (.new webService 0)
          (failToBackoff ++ List.replicate 5 .stop ++
            [.supervisor (.tick (fromSecs 1)), .graceElapsed, .drop] ++
            List.replicate 3 .stop) trace ∧
        trace.between = [] ∧ trace.inBackoffWait = false ∧
        trace.state.stop = .returned ∧
        trace.state.supervisor.runtimeFacts.currentBackoff.isSome = true :=
  ⟨Run.exists_of_check (by decide +kernel), Run.exists_of_check (by decide +kernel),
    Run.exists_of_check (by decide +kernel)⟩

end ServiceDaemon
