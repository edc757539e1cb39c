/-
Purpose: What the lifecycle calls of a generation can do to the status of the
  service after the supervisor has recorded its exit.
Main exports: SupervisorState.planned, SupervisorState.Leaves,
  LifecycleState.FencedCall, stale_calls_fenced
-/
import ServiceDaemon.Proofs.LifecycleCalls

namespace ServiceDaemon

open AsyncLib StepSystem LifecycleState SupervisorState Supervisor

/-!
The identity of a generation names the service, and the entry in the status plane
is the service's.  A task of an earlier generation that calls `done`, or that
makes its first lifecycle call, so finds the entry that the supervisor wrote for
the restart and makes it Healthy, and the next generation is started as a
restored one.

[SRC core/context/api.rs; runner/supervisor.rs determine_start_status]
-/

/-! ### How the supervisor leaves a generation -/

/-- The write records an exit. -/
def SupervisorWrite.recordsExit : SupervisorWrite → Bool
  | .recordExit _ => true
  | _ => false

/-- A status is inserted after every exit that is recorded. -/
def ExitsAnnounced : List SupervisorWrite → Bool
  | [] => true
  | write :: rest =>
    (!write.recordsExit || rest.any (·.inserts.isSome)) && ExitsAnnounced rest

namespace SupervisorPoint

/-- Between the outcome of a generation and the start of the next one. -/
def restarting : SupervisorPoint → Bool
  | .starting | .prepare | .resetBackoff _ | .restart _ | .restartNow
  | .beginWait _ | .waiting .. => true
  | _ => false

/-- From the wait of a backoff to the start that follows it. -/
def returning : SupervisorPoint → Bool
  | .waiting .. | .starting | .prepare => true
  | _ => false

/-- Between the outcome of a failed generation and the end of its backoff. -/
def afterFailure : SupervisorPoint → Bool
  | .resetBackoff (.withBackoff _) | .restart (.withBackoff _) | .beginWait _
  | .waiting .. => true
  | _ => false

theorem of_resetBackoff {decision} (failed : (resetBackoff decision).afterFailure = true) :
    ∃ kind, decision = .withBackoff kind := by
  cases decision with
  | immediate => cases failed
  | withBackoff kind => exact ⟨kind, rfl⟩

end SupervisorPoint

/-- A result that restarts after a backoff is announced as recovering. -/
theorem handleOutcome_recovering
    (backoff : (handleOutcome signals outcome).restartDecision = .withBackoff kind) :
    ∃ message,
      (handleOutcome signals outcome).nextStatus = .recovering message := by
  cases outcome with
  | returned => cases backoff
  | panicked payload => exact ⟨_, rfl⟩
  | failed error =>
    rcases handleError_ends_or_recovers signals error with
      ⟨-, immediate⟩ | ⟨kind, message, -, status⟩
    · cases immediate.symm.trans backoff
    · exact ⟨message, status⟩

namespace SupervisorState

variable {config : SupervisorConfig} {s next : SupervisorState}
  {a : SupervisorAction}

/-- The exit of the current generation is recorded. -/
def exitRecorded (s : SupervisorState) : Bool :=
  s.current.any fun record => !record.exits.isEmpty

theorem exitRecorded_perform (s : SupervisorState) (write : SupervisorWrite) :
    (s.perform write).exitRecorded = (s.exitRecorded || s.current.isSome && write.recordsExit) := by
  simp only [exitRecorded, perform_current]
  cases s.current with
  | none => rfl
  | some record => cases write <;> simp [GenerationRecord.perform, SupervisorWrite.recordsExit]

/-- The last status that the supervisor will have written after its pending
writes. -/
def planned (s : SupervisorState) : Option ServiceStatus :=
  s.pending.foldl (fun written write => write.inserts.or written)
    s.planeWritten

theorem perform_planeWritten (s : SupervisorState) (write : SupervisorWrite) :
    (s.perform write).planeWritten = write.inserts.or s.planeWritten := by
  cases write <;> rfl

theorem planned_perform (pending : s.pending = write :: writes) :
    planned { s.perform write with pending := writes } = s.planned := by
  simp only [planned, perform_planeWritten, pending, List.foldl_cons]

/-- With nothing left to insert, the plan is done. -/
theorem planned_eq (quiet : ∀ write ∈ s.pending, write.inserts = none) :
    s.planned = s.planeWritten := by
  unfold planned
  generalize s.planeWritten = written
  revert quiet
  induction s.pending with
  | nil => exact fun _ => rfl
  | cons write writes ih =>
    intro quiet
    rw [List.foldl_cons, quiet write List.mem_cons_self]
    exact ih fun other mem =>
      quiet other (List.mem_cons_of_mem _ mem)

/-- What holds in every run of the supervisor: what was prepared stays, the exit
of a generation is recorded before the next one starts, and a failed generation
leaves the service recovering. -/
structure Leaves (s : SupervisorState) : Prop where
  prepared : s.reloadToken = none ∨ s.current = none →
    s.point = .starting ∨ s.point = .prepare ∨ s.point = .terminated
  left : s.point.restarting = true → s.current = none ∨ s.pending.any (·.recordsExit) = true ∨
      s.exitRecorded = true
  announced : ExitsAnnounced s.pending = true
  recovers : s.point.afterFailure = true → ∃ msg, s.planned = some (.recovering msg)

namespace Leaves

/-- The write neither inserts a status nor records an exit. -/
def silent (write : SupervisorWrite) : Bool :=
  write.inserts.isNone && !write.recordsExit

theorem announced_of_silent (quiet : writes.all silent = true) :
    ExitsAnnounced writes = true := by
  induction writes with
  | nil => rfl
  | cons write writes ih =>
    rw [List.all_cons, Bool.and_eq_true] at quiet
    have unrecorded : write.recordsExit = false := by
      simpa [silent] using (Bool.and_eq_true_iff.mp quiet.1).2
    simp [ExitsAnnounced, unrecorded, ih quiet.2]

/-- A step to a point that belongs to a generation, or to the end. -/
theorem arrives
    (prepared : next.reloadToken = none ∨ next.current = none →
      next.point = .terminated) (announced : ExitsAnnounced next.pending = true)
    (elsewhere : next.point.restarting = false) : next.Leaves where
  prepared absent := .inr (.inr (prepared absent))
  left restarting := by
    rw [elsewhere] at restarting
    cases restarting
  announced := announced
  recovers failed := by
    cases here : next.point <;> simp [here, SupervisorPoint.restarting,
      SupervisorPoint.afterFailure] at elsewhere failed

/-- A decision between two generations that announces nothing. -/
theorem advances (leaves : s.Leaves) (idle : s.pending = []) (cur : next.current = s.current)
    (written : next.planeWritten = s.planeWritten) (token : next.reloadToken = s.reloadToken)
    (quiet : next.pending.all silent = true)
    (early : s.point = .starting ∨ s.point = .prepare ∨ s.point = .terminated →
      next.point = .starting ∨ next.point = .prepare ∨ next.point = .terminated)
    (restarting : s.point.restarting = true)
    (failed : next.point.afterFailure = true → s.point.afterFailure = true) : next.Leaves where
  prepared absent := by
    rw [token, cur] at absent
    exact early (leaves.prepared absent)
  left _ := by
    rcases leaves.left restarting with none | queued | recorded
    · exact .inl (cur.trans none)
    · simp [idle] at queued
    · refine .inr (.inr ?_)
      rw [exitRecorded, cur]
      exact recorded
  announced := announced_of_silent quiet
  recovers failing := by
    obtain ⟨msg, plan⟩ := leaves.recovers (failed failing)
    rw [planned_eq (by simp [idle])] at plan
    refine ⟨msg, (planned_eq ?_).trans (written.trans plan)⟩
    intro write mem
    have still := List.all_eq_true.mp quiet write mem
    exact Option.isNone_iff_eq_none.mp (Bool.and_eq_true_iff.mp still).1

/-- A step of the generation or the environment. -/
theorem same (leaves : s.Leaves) (pending : next.pending = s.pending)
    (cur : next.current = s.current) (written : next.planeWritten = s.planeWritten)
    (token : next.reloadToken = s.reloadToken)
    (point : next.point = s.point.noteChange ∨ next.point = s.point) :
    next.Leaves where
  prepared absent := by
    rw [token, cur] at absent
    have before := leaves.prepared absent
    rcases point with noted | same
    · rcases before with here | here | here <;>
        simp [noted, here, SupervisorPoint.noteChange]
    · rwa [same]
  left restarting := by
    rw [pending, exitRecorded, cur]
    refine leaves.left ?_
    rcases point with noted | same
    · rwa [noted, SupervisorPoint.noteChange_congr SupervisorPoint.restarting
        fun _ _ => rfl] at restarting
    · rwa [same] at restarting
  announced := pending ▸ leaves.announced
  recovers failed := by
    rw [planned, pending, written]
    refine leaves.recovers ?_
    rcases point with noted | same
    · rwa [noted, SupervisorPoint.noteChange_congr SupervisorPoint.afterFailure
        fun _ _ => rfl] at failed
    · rwa [same] at failed

theorem performs (leaves : s.Leaves) (pending : s.pending = write :: writes) :
    SupervisorState.Leaves { s.perform write with pending := writes } where
  prepared absent := by
    simpa using leaves.prepared (by simpa using absent)
  left restarting := by
    have before := leaves.left (by simpa using restarting)
    rw [pending, List.any_cons, Bool.or_eq_true] at before
    have recorded := exitRecorded_perform s write
    rcases before with none | (records | queued) | already
    · exact .inl (by simp [none])
    · cases cur : s.current with
      | none => exact .inl (by simp [cur])
      | some record =>
        refine .inr (.inr (recorded.trans ?_))
        simp [cur, records]
    · exact .inr (.inl queued)
    · refine .inr (.inr (recorded.trans ?_))
      simp [already]
  announced := by
    have before := leaves.announced
    rw [pending, ExitsAnnounced, Bool.and_eq_true] at before
    exact before.2
  recovers failed := by
    rw [planned_perform pending]
    exact leaves.recovers (by simpa using failed)

theorem outcomeWrites_announced (origin : GenerationOrigin) (early : Bool)
    (record : GenerationExitRecord) :
    (outcomeWrites origin early record).any (·.recordsExit) = true ∧
      ExitsAnnounced (outcomeWrites origin early record) = true := by
  unfold outcomeWrites
  split <;> split <;> exact ⟨rfl, rfl⟩

theorem classify_planned (restarts : record.shouldRestart = true) (written : Option ServiceStatus) :
    (outcomeWrites origin early record).foldl
      (fun written write => write.inserts.or written) written = some record.nextStatus := by
  unfold outcomeWrites
  simp only [restarts, if_true]
  split <;> rfl

theorem classifies (leaves : s.Leaves) {origin early} (here : s.point = .classify origin early) :
    (s.classify config origin early).Leaves where
  prepared absent := by
    have before := leaves.prepared absent
    simp [here] at before
  left _ := .inr (.inl (outcomeWrites_announced ..).1)
  announced := (outcomeWrites_announced ..).2
  recovers failed := by
    simp only [classify] at failed
    split at failed
    · rename_i restarts
      obtain ⟨kind, backoff⟩ := SupervisorPoint.of_resetBackoff failed
      obtain ⟨msg, status⟩ := handleOutcome_recovering backoff
      refine ⟨msg, ?_⟩
      rw [← status]
      exact classify_planned restarts _
    · cases failed

theorem step (leaves : s.Leaves) (h : step config s a = some next) : next.Leaves := by
  cases SupervisorMove.of_step h with
  | performs pending => exact leaves.performs pending
  | classifies idle here => exact leaves.classifies here
  | stops idle here | stopsWait idle here => exact arrives (fun _ => rfl) rfl rfl
  | checksCancelled idle here => exact arrives (fun _ => rfl) rfl rfl
  | starts idle here =>
    exact leaves.advances idle rfl rfl rfl (by simp [idle])
      (fun _ => .inr (.inl rfl)) (by rw [here]; rfl) (by rintro ⟨⟩)
  | prepares idle here =>
    refine arrives (by rintro (absent | absent) <;> cases absent) rfl ?_
    simp only [prepare]
    split <;> rfl
  | checksWithout idle here absent =>
    have before := leaves.prepared (.inl absent)
    simp [here] at before
  | entersWithout idle here | enters idle here | checks idle here
  | takesResult idle here | takesReloadResult idle here | runs here
  | runsReloading here =>
    refine arrives (fun absent => ?_) leaves.announced rfl
    have before := leaves.prepared absent
    simp [here] at before
  | takesDependency idle here | takesReload idle here =>
    refine arrives (fun absent => ?_) rfl rfl
    have before := leaves.prepared absent
    simp [here] at before
  | resets idle here started =>
    exact leaves.advances idle rfl rfl rfl (by simp [idle]) (by simp [here])
      (by rw [here]; rfl) fun _ => by rw [here]; rfl
  | @skipsReset decision idle here =>
    refine leaves.advances idle rfl rfl rfl (by simp [idle]) (by simp [here])
      (by rw [here]; rfl) fun failed => ?_
    rw [here]
    cases decision with
    | immediate => cases failed
    | withBackoff kind => rfl
  | decides idle here =>
    exact leaves.advances idle rfl rfl rfl rfl (by simp [here])
      (by rw [here]; rfl) (by rintro ⟨⟩)
  | delays idle here =>
    exact leaves.advances idle rfl rfl rfl rfl (by simp [here])
      (by rw [here]; rfl) fun _ => by rw [here]; rfl
  | waits idle here =>
    exact leaves.advances idle rfl rfl rfl (by simp [idle]) (by simp [here])
      (by rw [here]; rfl) fun _ => by rw [here]; rfl
  | restartsNow idle here | elapses idle here | reloadsWait idle here =>
    exact leaves.advances idle rfl rfl rfl
      (by simp [noteWait, clearBackoff, idle]) (by simp [here])
      (by rw [here]; rfl) (by rintro ⟨⟩)
  | changes watched => exact leaves.same rfl rfl rfl rfl (.inl rfl)
  | ticks | cancels | cancelsDaemon | triggersReload | writesStatus
  | recordsStatus => exact leaves.same rfl rfl rfl rfl (.inr rfl)

theorem of_run {now plane acts}
    (run : Run (Supervisor.step config) (.new config now plane) acts s) :
    s.Leaves := by
  refine run.invariant ?_ fun leaves _ h => leaves.step h
  exact ⟨fun _ => .inl rfl, fun _ => .inl rfl, rfl, by rintro ⟨⟩⟩

end Leaves

end SupervisorState

/-! ### The fence -/

/-- The call that looks at the entry next. -/
def CallPoint.reads : CallPoint → Option LifecycleCall
  | .reading call => some call
  | _ => none

/-- The entry is one that the call acts on: a starting status, and for `done` also
`NeedReload` and `ShuttingDown`. -/
def LifecycleCall.ActsOn (entry : Option ServiceStatus) : LifecycleCall → Prop
  | .done => (entry.getD .initializing).starting = true ∨
      entry = some .needReload ∨ entry = some .shuttingDown
  | .utility _ => entry.any (·.starting) = true

instance (entry : Option ServiceStatus) :
    (call : LifecycleCall) → Decidable (call.ActsOn entry)
  | .done => inferInstanceAs (Decidable (_ ∨ _ ∨ _))
  | .utility _ => inferInstanceAs (Decidable (_ = true))

theorem LifecycleCall.actsOn_of_decides {call : LifecycleCall} {entry : Option ServiceStatus}
    {status : ServiceStatus} (decided : call.decides entry = some status) :
    call.ActsOn entry := by
  cases call with
  | done => exact (decides_cases decided).imp And.right And.right
  | utility kind =>
    simp only [decides] at decided
    split at decided
    · assumption
    · cases decided

/-- A call with the identity of a generation whose exit is recorded does not find
an entry that it acts on, and no call is between its look at the status plane and
its insert when an exit is recorded. -/
def LifecycleState.FencedCall (s : LifecycleState) : LifecycleAction → Prop
  | .proceed i =>
    ∀ task ∈ s.tasks[i]?, s.exited task.generation = true →
      ∀ call ∈ task.point.reads, ¬ call.ActsOn s.entry
  | .supervisor .perform =>
    s.supervisor.pending.head?.any (·.recordsExit) = true →
      ∀ task ∈ s.tasks, task.point.armed = none
  | _ => True

instance (s : LifecycleState) :
    (a : LifecycleAction) → Decidable (s.FencedCall a)
  | .proceed i =>
    inferInstanceAs (Decidable (∀ task ∈ s.tasks[i]?, _ → ∀ call ∈ task.point.reads, _))
  | .supervisor a =>
    decidable_of_iff
      (a = .perform → s.supervisor.pending.head?.any (·.recordsExit) = true →
          ∀ task ∈ s.tasks, task.point.armed = none)
      (by cases a <;> simp [LifecycleState.FencedCall])
  | .spawnSupervisor | .insertHandle | .refuse | .drop | .startBody | .spawn _
  | .call .. | .wake .. | .stop | .joinReady | .graceElapsed =>
    inferInstanceAs (Decidable True)

/-- The task that makes the step. -/
def LifecycleAction.caller : LifecycleAction → Option Nat
  | .spawn i | .call i _ | .proceed i | .wake i _ => some i
  | _ => none

/-- What the steps keep. -/
structure Fence (s : LifecycleState) : Prop where
  owned : s.tasks ≠ [] → s.supervisor.current ≠ none
  stale : ∀ task ∈ s.tasks, s.exited task.generation = true → task.point.armed = none
  /-- the supervisor finds what it wrote -/
  settled : s.supervisor.exitRecorded = true →
    (∀ write ∈ s.supervisor.pending, write.inserts = none) →
      s.supervisor.cancelled = false → s.entry = s.supervisor.planeWritten
  waits : s.supervisor.point.backingOff = true → s.backedOff = true
  returning : s.backedOff = true → s.supervisor.point = .terminated ∨
      s.supervisor.point.returning = true ∧ s.supervisor.pending = [] ∧
        s.supervisor.exitRecorded = true ∧
        ∃ msg, s.supervisor.planeWritten = some (.recovering msg)

namespace Fence

variable {config : LifecycleConfig} {s next : LifecycleState}
  {a : LifecycleAction}

theorem initial {now} : Fence (.new config now) where
  owned := by
    intro some
    exact absurd rfl some
  stale task listed := by cases listed
  settled := by rintro ⟨⟩
  waits := by rintro ⟨⟩
  returning := by rintro ⟨⟩

/-- A step of anybody but the supervisor. -/
theorem keep (fence : Fence s) (point : next.supervisor.point = s.supervisor.point)
    (pending : next.supervisor.pending = s.supervisor.pending)
    (cur : next.supervisor.current = s.supervisor.current)
    (past : next.supervisor.past = s.supervisor.past)
    (written : next.supervisor.planeWritten = s.supervisor.planeWritten)
    (backedOff : next.backedOff = s.backedOff)
    (owned : next.tasks ≠ [] → s.supervisor.current ≠ none)
    (stale : ∀ task ∈ next.tasks, s.exited task.generation = true → task.point.armed = none)
    (settled : next.supervisor.cancelled = false → s.supervisor.exitRecorded = true →
      s.supervisor.cancelled = false ∧ next.entry = s.entry) :
    Fence next := by
  have recorded :
      next.supervisor.exitRecorded = s.supervisor.exitRecorded := by
    rw [exitRecorded, cur]
    rfl
  constructor
  · rw [cur]
    exact owned
  · intro task mem gone
    refine stale task mem ?_
    rwa [exited, past, cur] at gone
  · intro exited quiet clear
    rw [recorded] at exited
    rw [pending] at quiet
    obtain ⟨before, same⟩ := settled clear exited
    rw [same, written]
    exact fence.settled exited quiet before
  · rw [point, backedOff]
    exact fence.waits
  · rw [point, pending, recorded, written, backedOff]
    exact fence.returning

theorem running (fence : Fence s) {i : Nat} {task : LifecycleTask}
    (found : s.tasks[i]? = some task) (about : task.point.armed ≠ none) :
    s.exited task.generation = false ∧ s.supervisor.exitRecorded = false := by
  have runs : s.exited task.generation = false := by
    refine Bool.eq_false_iff.mpr fun gone => about ?_
    exact fence.stale task (List.mem_of_getElem? found) gone
  exact ⟨runs, (Bool.or_eq_false_iff.mp runs).2⟩

theorem owned_of (fence : Fence s) {i : Nat} {task : LifecycleTask}
    (found : s.tasks[i]? = some task) : s.supervisor.current ≠ none := by
  refine fence.owned fun empty => ?_
  simp [empty] at found

theorem stale_of (fence : Fence s)
    (tasks : ∀ task ∈ next.tasks, task ∈ s.tasks ∨ task.point.armed = none) :
    ∀ task ∈ next.tasks, s.exited task.generation = true → task.point.armed = none := by
  intro task mem gone
  rcases tasks task mem with old | rests
  · exact fence.stale task old gone
  · exact rests

section Supervises

variable {a : SupervisorAction} {after : SupervisorState}

/-- A generation is left when its exit is recorded. -/
theorem exited_note (leaves : s.supervisor.Leaves)
    (moved : step config.supervisor s.supervisor a = some after)
    (gone : (s.note a after).exited gen = true) :
    s.exited gen = true ∨ a = .perform ∧ s.supervisor.pending.head?.any (·.recordsExit) = true := by
  rw [exited, Bool.or_eq_true, decide_eq_true_eq] at gone ⊢
  cases SupervisorMove.of_step moved with
  | @performs write writes pending =>
    rcases gone with earlier | recorded
    · exact .inl (.inl (by simpa [note] using earlier))
    · have now := (exitRecorded_perform _ write).symm.trans recorded
      rw [Bool.or_eq_true, Bool.and_eq_true] at now
      rcases now with already | ⟨-, records⟩
      · exact .inl (.inr already)
      · exact .inr ⟨rfl, by simp [pending, records]⟩
  | prepares idle here =>
    left
    rcases gone with earlier | recorded
    · -- The generation before was left before this one is prepared.
      rcases leaves.left (by rw [here]; rfl) with none | queued | recorded
      · left
        simpa [note, prepare, generations, none] using earlier
      · simp [idle] at queued
      · exact .inr recorded
    · cases recorded
  | _ => exact .inl gone

/-- The entry is what the supervisor wrote for as long as the generation is
left. -/
theorem settled_note (fence : Fence s) (leaves : s.supervisor.Leaves)
    (permitted : s.permits a = true) (moved : step config.supervisor s.supervisor a = some after)
    (recorded : after.exitRecorded = true) (quiet : ∀ write ∈ after.pending, write.inserts = none)
    (clear : after.cancelled = false) : after.statusPlane = after.planeWritten := by
  cases SupervisorMove.of_step moved with
  | @performs write writes pending =>
    change (s.supervisor.perform write).statusPlane = (s.supervisor.perform write).planeWritten
    rw [perform_statusPlane, perform_planeWritten]
    cases inserts : write.inserts with
    | some status => rfl
    | none =>
      have announced := leaves.announced
      rw [pending, ExitsAnnounced, Bool.and_eq_true] at announced
      have still : writes.any (·.inserts.isSome) = false := by
        refine Bool.eq_false_iff.mpr fun later => ?_
        obtain ⟨other, mem, inserts⟩ := List.any_eq_true.mp later
        rw [quiet other mem] at inserts
        cases inserts
      have ordinary : write.recordsExit = false := by
        simpa [still] using announced.1
      have now := (exitRecorded_perform _ write).symm.trans recorded
      rw [ordinary, Bool.and_false, Bool.or_false] at now
      refine fence.settled now ?_ (by simpa using clear)
      rw [pending]
      intro other mem
      rcases List.mem_cons.mp mem with rfl | later
      · exact inserts
      · exact quiet other later
  | prepares => cases recorded
  | cancels | writesStatus | recordsStatus => cases permitted
  | runs | runsReloading | ticks | cancelsDaemon | triggersReload | changes =>
    exact fence.settled recorded quiet clear
  | stops idle | starts idle | entersWithout idle | enters idle
  | checksCancelled idle | checksWithout idle | checks idle | classifies idle
  | resets idle | skipsReset idle | decides idle | delays idle | restartsNow idle
  | waits idle | takesResult idle | takesReloadResult idle
  | takesDependency idle | takesReload idle | elapses idle | reloadsWait idle
  | stopsWait idle => exact fence.settled recorded (by simp [idle]) clear

/-- Away from a backoff nothing is remembered of it. -/
theorem backedOff_note (fence : Fence s) (elsewhere : s.supervisor.point.returning = false)
    (alive : s.supervisor.point ≠ .terminated) (runs : after.point.backingOff = false) :
    (s.note a after).backedOff = false := by
  have before : s.backedOff = false := by
    refine Bool.eq_false_iff.mpr fun remembered => ?_
    rcases fence.returning remembered with terminated | ⟨returning, -⟩
    · exact alive terminated
    · rw [elsewhere] at returning
      cases returning
  simp [note, before, runs]

theorem remembers (remembered : (s.note a after).backedOff = true) :
    s.prepares a = false ∧ (s.backedOff = true ∨ after.point.backingOff = true) := by
  simpa [note] using remembered

/-- From the wait to the start of the next generation nothing is written. -/
theorem returning_note (fence : Fence s) (leaves : s.supervisor.Leaves)
    (moved : step config.supervisor s.supervisor a = some after)
    (remembered : (s.note a after).backedOff = true) :
    after.point = .terminated ∨ after.point.returning = true ∧ after.pending = [] ∧
        after.exitRecorded = true ∧
        ∃ msg, after.planeWritten = some (.recovering msg) := by
  have waited (still : after.point.backingOff = s.supervisor.point.backingOff) :
      s.backedOff = true := by
    rcases (remembers remembered).2 with before | waiting
    · exact before
    · exact fence.waits (still ▸ waiting)
  cases SupervisorMove.of_step moved with
  | performs pending =>
    rcases fence.returning (waited (by simp)) with terminated | ⟨-, idle, -⟩
    · exact .inl (by simpa using terminated)
    · rw [pending] at idle
      cases idle
  | stops | checksCancelled | stopsWait => exact .inl rfl
  | starts idle here =>
    have before := (fence.returning (waited (by rw [here]; rfl))).resolve_left
      (by simp [here])
    exact .inr ⟨rfl, before.2⟩
  | prepares idle here =>
    have unprepared := (remembers remembered).1
    simp [prepares, here] at unprepared
  | waits idle here =>
    refine .inr ⟨rfl, idle, ?_, ?_⟩
    · rcases leaves.left (by rw [here]; rfl) with none | queued | recorded
      · have before := leaves.prepared (.inr none)
        simp [here] at before
      · simp [idle] at queued
      · exact recorded
    · rw [← planned_eq (by simp [idle])]
      exact leaves.recovers (by rw [here]; rfl)
  | elapses idle here | reloadsWait idle here =>
    have before :=
      (fence.returning (fence.waits (by rw [here]; rfl))).resolve_left
        (by simp [here])
    exact .inr ⟨rfl, before.2⟩
  | changes watched =>
    have before := waited
      (SupervisorPoint.noteChange_congr SupervisorPoint.backingOff (fun _ _ => rfl) _)
    rcases fence.returning before with terminated | ⟨returning, rest⟩
    · exact .inl (by simp [terminated, SupervisorPoint.noteChange])
    · refine .inr ⟨?_, rest⟩
      exact (SupervisorPoint.noteChange_congr SupervisorPoint.returning
        (fun _ _ => rfl) _).trans returning
  | ticks | cancels | cancelsDaemon | triggersReload | writesStatus
  | recordsStatus => exact fence.returning (waited rfl)
  | @classifies origin early idle here =>
    have runs :
        (s.supervisor.classify config.supervisor origin early).point.backingOff = false := by
      simp only [classify]
      split <;> rfl
    rw [fence.backedOff_note (by rw [here]; rfl) (by simp [here]) runs] at remembered
    cases remembered
  | entersWithout _ here | enters _ here | checksWithout _ here | checks _ here
  | resets _ here | skipsReset _ here | decides _ here | delays _ here
  | restartsNow _ here | runs here | runsReloading here | takesResult _ here
  | takesReloadResult _ here | takesDependency _ here | takesReload _ here =>
    rw [fence.backedOff_note (by rw [here]; rfl) (by simp [here]) rfl] at remembered
    cases remembered

/-- The supervisor waits only in a backoff. -/
theorem waits_note (moved : step config.supervisor s.supervisor a = some after)
    (waiting : after.point.backingOff = true) : (s.note a after).backedOff = true := by
  have unprepared : s.prepares a = false := by
    refine Bool.eq_false_iff.mpr fun prepares => ?_
    simp only [LifecycleState.prepares, Bool.and_eq_true, beq_iff_eq] at prepares
    obtain ⟨here, rfl⟩ := prepares
    simp only [step, advance, here] at moved
    split at moved <;> cases moved
    simp only [prepare] at waiting
    split at waiting <;> cases waiting
  simp [LifecycleState.note, unprepared, waiting]

theorem supervises (fence : Fence s) (leaves : s.supervisor.Leaves)
    (fenced : s.FencedCall (.supervisor a)) (permitted : s.permits a = true)
    (moved : step config.supervisor s.supervisor a = some after) : Fence (s.note a after) where
  owned some none := by
    refine fence.owned some ?_
    cases SupervisorMove.of_step moved with
    | performs => simpa [note] using none
    | prepares => cases none
    | _ => exact none
  stale task listed gone := by
    rcases exited_note leaves moved gone with before | ⟨rfl, records⟩
    · exact fence.stale task listed before
    · exact fenced records task listed
  settled recorded quiet clear := fence.settled_note leaves permitted moved recorded quiet clear
  waits waiting := waits_note moved waiting
  returning remembered := fence.returning_note leaves moved remembered

end Supervises

theorem step (fence : Fence s) (ordered : s.Ordered) (leaves : s.supervisor.Leaves)
    (fenced : s.FencedCall a) (h : Lifecycle.step config s a = some next) : Fence next := by
  cases LifecycleMove.of_step h with
  | supervises permitted moved => exact fence.supervises leaves fenced permitted moved
  | spawns | insertsHandle | drops =>
    exact fence.keep rfl rfl rfl rfl rfl rfl fence.owned fence.stale
      fun clear _ => ⟨clear, rfl⟩
  | refuses unstarted =>
    refine fence.keep rfl rfl rfl rfl rfl rfl fence.owned fence.stale
      fun _ recorded => ?_
    have none := (ordered.unspawned (by rw [unstarted]; rfl)).1
    simp [exitRecorded, none] at recorded
  | startsBody cur =>
    exact fence.keep rfl rfl rfl rfl rfl rfl (fun _ => by simp [cur])
      (fence.stale_of rests_concat) fun clear _ => ⟨clear, rfl⟩
  | spawnsTask found =>
    exact fence.keep rfl rfl rfl rfl rfl rfl (fun _ => fence.owned_of found)
      (fence.stale_of rests_concat) fun clear _ => ⟨clear, rfl⟩
  | proceeds mine found idle rests =>
    exact fence.keep rfl rfl rfl rfl rfl rfl (fun _ => fence.owned_of found)
      (fence.stale_of (rests_set rests)) fun clear _ => ⟨clear, rfl⟩
  | @decides i task call status found here decided =>
    refine fence.keep rfl rfl rfl rfl rfl rfl (fun _ => fence.owned_of found) ?_
      fun clear _ => ⟨clear, rfl⟩
    intro other mem gone
    rcases List.mem_or_eq_of_mem_set mem with old | rfl
    · exact fence.stale other old gone
    · have declined := fenced task found gone call (by rw [here]; rfl)
      exact absurd (LifecycleCall.actsOn_of_decides decided) declined
  | inserts found here =>
    have runs := fence.running found (by simp [here, CallPoint.armed])
    refine fence.keep rfl rfl rfl rfl rfl rfl (fun _ => fence.owned_of found)
      (fence.stale_of (rests_set rfl)) fun _ recorded => ?_
    rw [runs.2] at recorded
    cases recorded
  | signals here =>
    refine fence.keep rfl rfl rfl rfl rfl rfl fence.owned fence.stale ?_
    rintro ⟨⟩
  | announces here | terminates here =>
    refine fence.keep rfl rfl rfl rfl rfl rfl fence.owned fence.stale
      fun clear _ => ?_
    have signalled : s.supervisor.cancelled = true := ordered.begun.mpr (by simp [here])
    rw [show s.supervisor.cancelled = false from clear] at signalled
    cases signalled
  | stops =>
    exact fence.keep rfl rfl rfl rfl rfl rfl fence.owned fence.stale
      fun clear _ => ⟨clear, rfl⟩

theorem of_run {now acts}
    (run : GuardedRun (Lifecycle.step config) LifecycleState.FencedCall
      (.new config now) acts s) : Fence s := by
  induction run with
  | nil => exact .initial
  | snoc earlier fenced h ih =>
    obtain ⟨projected, supervised⟩ := Lifecycle.supervisor_run earlier
    exact ih.step (.of_run earlier) (.of_run supervised) fenced h

theorem recovering (fence : Fence s) (remembered : s.backedOff = true)
    (returning : s.supervisor.point.returning = true) (clear : s.supervisor.cancelled = false) :
    ∃ msg, s.entry = some (.recovering msg) := by
  rcases fence.returning remembered with terminated | ⟨-, idle, recorded, written⟩
  · rw [terminated] at returning
    cases returning
  · rw [fence.settled recorded (by simp [idle]) clear]
    exact written

end Fence

/-- Generation fencing: no call with the identity of a generation whose exit is
recorded changes the entry of the service; a service that waits in backoff is
Recovering, and so is the generation it starts afterwards, unless the shutdown
comes in between.  It holds as long as no such call meets an entry that it acts
on. -/
theorem stale_calls_fenced {config : LifecycleConfig} {now : Instant}
    {schedule : List LifecycleAction} {state : LifecycleState}
    (run : GuardedRun (Lifecycle.step config) LifecycleState.FencedCall
      (.new config now) schedule state) :
    (∀ action index task next, action.caller = some index →
      state.tasks[index]? = some task → state.exited task.generation = true →
      Lifecycle.step config state action = some next → next.entry = state.entry) ∧
    (state.supervisor.cancelled = false → (state.supervisor.point.backingOff = true →
        ∃ message, state.entry = some (.recovering message)) ∧
      (state.supervisor.point = .prepare → state.backedOff = true → ∃ message,
          state.supervisor.determineStartStatus = .recovering message)) := by
  have fence := Fence.of_run run
  refine ⟨?_, fun clear => ⟨?_, ?_⟩⟩
  · intro action index task next mine found gone stepped
    rw [(LifecycleMove.of_step stepped).entry_eq]
    have unarmed := fence.stale task (List.mem_of_getElem? found) gone
    have nothing : state.inserts action = none := by
      cases action <;> cases mine
      · rfl
      · rfl
      · simp [LifecycleState.inserts, found, unarmed]
      · rfl
    rw [nothing]
    rfl
  · intro waiting
    refine fence.recovering (fence.waits waiting) ?_ clear
    cases here : state.supervisor.point <;> rw [here] at waiting <;> cases waiting
    rfl
  · intro here remembered
    obtain ⟨message, entry⟩ := fence.recovering remembered (by rw [here]; rfl) clear
    refine ⟨message, ?_⟩
    have plane : state.supervisor.statusPlane = some (.recovering message) := entry
    simp [SupervisorState.determineStartStatus, plane]

/-- The body fails and the supervisor waits in backoff. -/
def serviceFails : List LifecycleAction :=
  List.flatten
    [[.supervisor (.generation (.bodyEnds (.failed (.msg "connection lost")))),
        .supervisor .takeResult, .supervisor .advance, .supervisor .advance],
      List.replicate 4 (.supervisor .perform),
      [.supervisor .advance, .supervisor .advance, .supervisor .perform,
        .supervisor .perform, .supervisor .advance]]

/-- The body has called `is_shutdown` and started a task that does so in its turn
during the backoff. -/
def askInBackoff : List LifecycleAction :=
  List.flatten
    [startService, [.call 0 (.utility .isShutdown)], List.replicate 7 (.proceed 0),
      [.spawn 0], serviceFails, [.call 1 (.utility .isShutdown), .proceed 1]]

theorem stale_calls_fenced_backoff :
    ∃ state,
      GuardedRun (Lifecycle.step webService) LifecycleState.FencedCall
        (.new webService 0) askInBackoff state ∧
      (state.tasks[1]? = some ⟨0, .handshaken .isShutdown, none⟩ ∧ state.exited 0 = true ∧
        state.supervisor.cancelled = false ∧
        state.supervisor.point.backingOff = true) ∧
      (∀ action index task next, action.caller = some index →
        state.tasks[index]? = some task → state.exited task.generation = true →
        Lifecycle.step webService state action = some next → next.entry = state.entry) ∧
      (state.supervisor.cancelled = false → (state.supervisor.point.backingOff = true →
          ∃ message, state.entry = some (.recovering message)) ∧
        (state.supervisor.point = .prepare → state.backedOff = true → ∃ message,
            state.supervisor.determineStartStatus = .recovering message)) :=
  GuardedRun.exists_and (by decide +kernel) fun _ run _ =>
    stale_calls_fenced run

/-- A task of the failed generation calls `done` during the backoff. -/
def doneInBackoff : List LifecycleAction :=
  List.flatten
    [startService, [.spawn 0], serviceFails, [.call 1 .done, .proceed 1]]

/-- A task of the failed generation makes the service Healthy that waits in
backoff, and the next generation is started as Restoring. -/
theorem stale_done_heals :
    (∃ state, Run (Lifecycle.step webService) (.new webService 0) doneInBackoff state ∧
      (state.exited 0 = true ∧ state.supervisor.cancelled = false ∧
        state.supervisor.point.backingOff = true) ∧
      state.entry = some (.recovering "connection lost") ∧
      (Lifecycle.step webService state (.proceed 1)).map (·.entry) = some (some .healthy)) ∧
    ∃ state,
      Run (Lifecycle.step webService) (.new webService 0)
        (List.flatten [doneInBackoff, List.replicate 3 (.proceed 1),
            [.supervisor (.tick 1000000000),
              .supervisor (.sleepElapsed 2000000000), .supervisor .advance]])
        state ∧
      (state.supervisor.point = .prepare ∧ state.backedOff = true ∧
        state.supervisor.cancelled = false) ∧
      state.supervisor.determineStartStatus = .restoring :=
  ⟨Run.exists_of_check (by decide +kernel), Run.exists_of_check (by decide +kernel)⟩

end ServiceDaemon
