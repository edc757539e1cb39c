/-
Purpose: Where the recorded exits of a supervisor come from: the result a
  generation produced, carried to the classification, and what a shutdown on
  the way does to it.
Main exports: SupervisorPoint.unchecked, Recorded, Recorded.step,
  early_failure_kept
-/
import ServiceDaemon.Proofs.LifecycleAccounting

namespace ServiceDaemon

open StepSystem SupervisorState

/-!
A result is produced by the generation future, taken by the supervisor, checked
against the service token, and classified.  The exit it is recorded as is
decided at the last two of these points, so a property of exits is kept by a
run if it is established there.

[SRC runner/supervisor.rs on_running, on_outcome, handle_outcome]
[SRC docs/architecture/runtime-lifecycle-semantics.md, Design principles]
-/

/-! ### Recorded exits -/

/-- Every exit on record has the property, and so has every exit that is about
to be recorded. -/
structure Recorded (holds : GenerationExit → Prop) (s : SupervisorState) :
    Prop where
  exits : ∀ record ∈ s.generations, ∀ exit ∈ record.exits, holds exit
  pending : ∀ exit, .recordExit exit ∈ s.pending → holds exit

/-- The exit of a generation that the service token stops. -/
def shutdownExit (origin : GenerationOrigin) (early : Bool) : GenerationExit :=
  { origin := origin, early := early, kind := .shutdown, record := none }

/-- The exit of a generation under its classification. -/
def classifiedExit (cfg : SupervisorConfig) (origin : GenerationOrigin)
    (early : Bool) (signals : GenerationSignalFacts) : GenerationExit :=
  let record := handleOutcome signals (origin.outcome cfg.name)
  { origin := origin, early := early, kind := record.exitKind, record := some record }

/-- A write adds no exit but the one it records. -/
theorem GenerationRecord.mem_exits_perform {record : GenerationRecord} {write : SupervisorWrite}
    {exit : GenerationExit} (mem : exit ∈ (record.perform write).exits) :
    exit ∈ record.exits ∨ write = .recordExit exit := by
  cases write with
  | recordExit other =>
    rcases List.mem_append.mp mem with earlier | last
    · exact .inl earlier
    · cases List.mem_singleton.mp last
      exact .inr rfl
  | _ => exact .inl mem

theorem recordExit_notin_announce :
    SupervisorWrite.recordExit exit ∉ announceStatus status := by
  simp [announceStatus]

theorem recordExit_notin_terminate : SupervisorWrite.recordExit exit ∉ terminateWrites := by
  simp [terminateWrites, announceStatus]

/-- The writes after a classification record its exit and no other. -/
theorem recordExit_mem_outcome (mem : .recordExit exit ∈ outcomeWrites origin early record) :
    exit =
      { origin := origin, early := early, kind := record.exitKind, record := some record } := by
  rcases List.mem_append.mp mem with recorded | rest
  · cases shutdown : record.shouldShutdownDaemon <;>
      simpa [shutdown] using recorded
  · cases restart : record.shouldRestart <;>
      simp [restart, recordExit_notin_announce, recordExit_notin_terminate] at rest

namespace Recorded

variable {holds : GenerationExit → Prop} {cfg : SupervisorConfig}
  {s next : SupervisorState} {a : SupervisorAction}

theorem new (now : Instant) (statusPlane : Option ServiceStatus) :
    Recorded holds (new cfg now statusPlane) where
  exits record member := by cases member
  pending exit member := by cases member

theorem current (recorded : Recorded holds s) (isCurrent : s.current = some record)
    (exited : exit ∈ record.exits) : holds exit := by
  apply recorded.exits record _ exit exited
  exact List.mem_append_right _ (Option.mem_toList.mpr isCurrent)

/-- A move that leaves the records alone and decides on writes without exits. -/
theorem keeps (recorded : Recorded holds s)
    (records : next.generations = s.generations)
    (writes : ∀ exit, .recordExit exit ∈ next.pending →
      .recordExit exit ∈ s.pending ∨ holds exit) : Recorded holds next where
  exits := by
    rw [records]
    exact recorded.exits
  pending exit member := by
    rcases writes exit member with earlier | established
    · exact recorded.pending exit earlier
    · exact established

theorem performs (recorded : Recorded holds s) {write : SupervisorWrite}
    {writes : List SupervisorWrite} (pending : s.pending = write :: writes) :
    Recorded holds { s.perform write with pending := writes } := by
  have queued : ∀ exit, .recordExit exit ∈ write :: writes → holds exit := by
    rw [← pending]
    exact recorded.pending
  constructor
  · intro record mem exit exited
    rcases List.mem_append.mp mem with earlier | last
    · rw [perform_past] at earlier
      exact recorded.exits record (List.mem_append_left _ earlier) exit exited
    · -- the current record, after the write
      rw [perform_current] at last
      obtain ⟨before, isCurrent, rfl⟩ := Option.map_eq_some_iff.mp (Option.mem_toList.mp last)
      rcases GenerationRecord.mem_exits_perform exited with already | written
      · exact recorded.current isCurrent already
      · apply queued exit
        rw [written]
        exact List.mem_cons_self
  · intro exit mem
    exact queued exit (List.mem_cons_of_mem write mem)

/-- A new generation has no exits. -/
theorem prepares (recorded : Recorded holds s) :
    Recorded holds (s.prepare cfg) where
  exits record member exit exited := by
    rcases List.mem_append.mp member with earlier | last
    · exact recorded.exits record earlier exit exited
    · cases Option.mem_toList.mp last
      cases exited
  pending exit member := by
    simp [prepare] at member

/-- A property of exits is kept if it is established where exits are decided. -/
theorem step (recorded : Recorded holds s)
    (stopped : ∀ origin early, s.point = .outcome origin early →
      s.cancelled = true → holds (shutdownExit origin early))
    (classified : ∀ origin early signals, s.point = .classify origin early →
      holds (classifiedExit cfg origin early signals)) (h : Supervisor.step cfg s a = some next) :
    Recorded holds next := by
  cases SupervisorMove.of_step h with
  | performs pending => exact recorded.performs pending
  | prepares idle here => exact recorded.prepares
  | @checksCancelled origin early idle here cancelled =>
    refine recorded.keeps rfl ?_
    intro exit mem
    rcases List.mem_append.mp mem with isExit | rest
    · cases List.mem_singleton.mp isExit
      exact .inr (stopped origin early here cancelled)
    · exact absurd rest recordExit_notin_terminate
  | @classifies origin early idle here =>
    refine recorded.keeps rfl ?_
    intro exit mem
    cases recordExit_mem_outcome mem
    exact .inr (classified origin early _ here)
  | stops idle here cancelled =>
    refine recorded.keeps rfl ?_
    intro exit mem
    exact absurd mem recordExit_notin_terminate
  | checksWithout idle here absent =>
    refine recorded.keeps rfl ?_
    intro exit mem
    exact absurd mem recordExit_notin_announce
  | stopsWait idle here cancelled =>
    refine recorded.keeps rfl ?_
    intro exit mem
    exact absurd mem recordExit_notin_announce
  | decides idle here | delays idle here | takesDependency idle here behind
  | takesReload idle here signalled =>
    refine recorded.keeps rfl ?_
    intro exit mem
    simp [restart, requestReload] at mem
  | _ => exact recorded.keeps rfl fun exit mem => .inl mem

end Recorded

/-! ### Results before a shutdown -/

/-- The result of the future that is ready. -/
def GenerationFuture.result : GenerationFuture → Option (GenerationOrigin × Bool)
  | .ready origin early => some (origin, early)
  | _ => none

/-- The result that the token check of `on_outcome` has not seen yet. -/
def SupervisorPoint.unchecked :
    SupervisorPoint → Option (GenerationOrigin × Bool)
  | .running future _ | .reloading future => future.result
  | .outcome origin early => some (origin, early)
  | _ => none

/-- A result is early only if the token was not cancelled when it was
produced. -/
theorem GenerationFuture.result_step {cancelled reloadCancelled : Bool}
    {future next : GenerationFuture} {event : GenerationEvent} {origin : GenerationOrigin}
    {early : Bool} (h : future.step cancelled reloadCancelled event = some next)
    (ready : next.result = some (origin, early)) (isEarly : early = true) : cancelled = false := by
  subst isEarly
  unfold step at h
  split at h
  -- two branches of the startup gate watch a token
  all_goals try split at h
  all_goals cases h
  all_goals simp_all [result]

/-- A result that waits for its check was there before the step, or is new. -/
theorem unchecked_step {cfg : SupervisorConfig} {s next : SupervisorState} {a : SupervisorAction}
    (h : Supervisor.step cfg s a = some next) {origin : GenerationOrigin}
    (waiting : next.point.unchecked = some (origin, true)) :
    s.point.unchecked = some (origin, true) ∨ next.cancelled = false := by
  cases SupervisorMove.of_step h with
  | performs pending =>
    rw [perform_point] at waiting
    exact .inl waiting
  | runs here advanced => exact .inr (GenerationFuture.result_step advanced waiting rfl)
  | runsReloading here advanced => exact .inr (GenerationFuture.result_step advanced waiting rfl)
  | changes watched =>
    rw [SupervisorPoint.noteChange_congr SupervisorPoint.unchecked fun _ _ => rfl] at waiting
    exact .inl waiting
  | takesResult idle here =>
    left
    rw [here]
    exact waiting
  | takesReloadResult idle here =>
    left
    rw [here]
    exact waiting
  | ticks | cancels | cancelsDaemon | triggersReload | writesStatus
  | recordsStatus => exact .inl waiting
  | prepares idle here =>
    simp only [prepare] at waiting
    split at waiting <;> cases waiting
  | @enters lane idle here resolved => cases lane <;> cases waiting
  | classifies idle here =>
    simp only [classify] at waiting
    split at waiting <;> cases waiting
  | takesDependency idle here behind =>
    left
    rw [here]
    exact waiting
  | takesReload idle here signalled =>
    left
    rw [here]
    exact waiting
  | _ => cases waiting

/-- A failure that was produced in time waits for its check. -/
def failureWaiting (cfg : SupervisorConfig) (s : SupervisorState) : Bool :=
  match s.point.unchecked with
  | some (origin, true) => (failureKind (origin.outcome cfg.name)).isSome
  | _ => false

theorem failureWaiting_iff :
    failureWaiting cfg s = true ↔ ∃ origin, s.point.unchecked = some (origin, true) ∧
        (failureKind (origin.outcome cfg.name)).isSome = true := by
  unfold failureWaiting
  split
  · rename_i origin waiting
    rw [waiting]
    simp
  · rename_i other
    constructor
    · intro waiting
      cases waiting
    · rintro ⟨origin, waiting, -⟩
      exact absurd waiting (other origin)

/-- The service token is not cancelled while a failure waits for its check. -/
def Unhurried (cfg : SupervisorConfig) (s : SupervisorState) (a : SupervisorAction) : Prop :=
  a = .cancel → failureWaiting cfg s = false

instance (cfg : SupervisorConfig) (s : SupervisorState)
    (a : SupervisorAction) : Decidable (Unhurried cfg s a) :=
  inferInstanceAs (Decidable (_ → _))

/-- A failure that waits was produced in time, and the token is still not
cancelled. -/
def InTime (cfg : SupervisorConfig) (s : SupervisorState) : Prop :=
  failureWaiting cfg s = true → s.cancelled = false

theorem cancelled_step (other : a ≠ .cancel)
    (h : Supervisor.step cfg s a = some next) : next.cancelled = s.cancelled := by
  cases SupervisorMove.of_step h with
  | @performs write _ pending => cases write <;> rfl
  | cancels => exact absurd rfl other
  | _ => rfl

theorem InTime.step (inTime : InTime cfg s)
    (unhurried : Unhurried cfg s a) (h : Supervisor.step cfg s a = some next) :
    InTime cfg next := by
  intro waiting
  obtain ⟨origin, unchecked, failed⟩ := failureWaiting_iff.mp waiting
  rcases unchecked_step h unchecked with before | fresh
  · have waited : failureWaiting cfg s = true := failureWaiting_iff.mpr ⟨origin, before, failed⟩
    have other : a ≠ .cancel := by
      intro cancel
      rw [unhurried cancel] at waited
      cases waited
    rw [cancelled_step other h]
    exact inTime waited
  · exact fresh

/-- The exit keeps the kind of a failure that was produced in time. -/
def KeepsFailure (cfg : SupervisorConfig) (exit : GenerationExit) : Prop :=
  ∀ kind, exit.early = true →
    failureKind (exit.origin.outcome cfg.name) = some kind → exit.kind = kind

theorem KeepsFailure.classified (cfg : SupervisorConfig) (origin : GenerationOrigin) (early : Bool)
    (signals : GenerationSignalFacts) :
    KeepsFailure cfg (classifiedExit cfg origin early signals) := by
  intro kind _ failed
  exact handleOutcome_exitKind signals failed

/-- A shutdown that finds a result finds no failure of that kind. -/
theorem KeepsFailure.stopped (inTime : InTime cfg s)
    (here : s.point = .outcome origin early) (cancelled : s.cancelled = true) :
    KeepsFailure cfg (shutdownExit origin early) := by
  intro kind isEarly failed
  have waiting : failureWaiting cfg s = true := by
    apply failureWaiting_iff.mpr
    refine ⟨origin, ?_, ?_⟩
    · rw [here, ← show early = true from isEarly]
      rfl
    · rw [show failureKind (origin.outcome cfg.name) = some kind from failed]
      rfl
  rw [inTime waiting] at cancelled
  cases cancelled

theorem Accounts.oneExit (accounts : Accounts s)
    (mem : record ∈ s.generations) (exited : exit ∈ record.exits) :
    record.lifecycle.OneExit exit.kind := by
  obtain ⟨only, decision, terminations, counted⟩ := accounts.lawful mem
  rw [counted.history] at exited
  cases Option.mem_toList.mp exited
  exact counted.oneExit

theorem failures_kept_of_run {cfg now statusPlane schedule s}
    (run : GuardedRun (Supervisor.step cfg) (Unhurried cfg) (.new cfg now statusPlane) schedule s) :
    InTime cfg s ∧ Recorded (KeepsFailure cfg) s := by
  induction run with
  | nil =>
    refine ⟨?_, Recorded.new now statusPlane⟩
    intro waiting
    cases waiting
  | snoc _ unhurried h ih =>
    obtain ⟨inTime, recorded⟩ := ih
    refine ⟨inTime.step unhurried h, recorded.step ?_ ?_ h⟩
    · intro origin early here cancelled
      exact KeepsFailure.stopped inTime here cancelled
    · intro origin early signals _
      exact KeepsFailure.classified cfg origin early signals

/-- A failure that the generation produced before the service token was
cancelled is the exit that is recorded, if the token is not cancelled before
the supervisor has looked at it. -/
theorem early_failure_kept {config : SupervisorConfig} {now : Instant}
    {statusPlane : Option ServiceStatus} {schedule : List SupervisorAction}
    {state : SupervisorState}
    (run : GuardedRun (Supervisor.step config) (Unhurried config)
      (.new config now statusPlane) schedule state) {record : GenerationRecord}
    (member : record ∈ state.generations) {exit : GenerationExit} (exited : exit ∈ record.exits)
    (early : exit.early = true) {kind : GenerationExitKind}
    (failed : failureKind (exit.origin.outcome config.name) = some kind) :
    record.lifecycle.OneExit kind := by
  obtain ⟨-, recorded⟩ := failures_kept_of_run run
  have same : exit.kind = kind :=
    recorded.exits record member exit exited kind early failed
  rw [← same]
  exact (Accounts.of_run run.toRun).oneExit member exited

/-- A panic of the service function. -/
def indexPanic : ServiceGenerationOutcome :=
  .panicked (.str "index out of bounds")

/-- A panic, and a shutdown as soon as the supervisor has looked at it. -/
def panicThenShutdown : List SupervisorAction :=
  List.flatten
    [startSchedule, [.generation (.bodyEnds indexPanic), .takeResult, .advance, .cancel,
        .advance, .perform]]

theorem early_failure_kept_panic :
    ∃ state record,
      GuardedRun (Supervisor.step (workerConfig .standard false))
          (Unhurried (workerConfig .standard false))
          (.new (workerConfig .standard false) 0 none) panicThenShutdown state ∧
        (state.cancelled = true ∧ state.current = some record ∧ record.exits =
            [classifiedExit (workerConfig .standard false) (.body indexPanic) true ⟨false, true⟩]) ∧
        record.lifecycle.OneExit .panic := by
  obtain ⟨state, run, cancelled, exits⟩ :
      ∃ state,
        GuardedRun (Supervisor.step (workerConfig .standard false))
            (Unhurried (workerConfig .standard false))
            (.new (workerConfig .standard false) 0 none) panicThenShutdown
            state ∧
          state.cancelled = true ∧ state.current.map (·.exits) =
              some [classifiedExit (workerConfig .standard false)
                (.body indexPanic) true ⟨false, true⟩] :=
    GuardedRun.exists_of_check (by decide +kernel)
  obtain ⟨record, current, exited⟩ := Option.map_eq_some_iff.mp exits
  have member : record ∈ state.generations :=
    List.mem_append_right _ (Option.mem_toList.mpr current)
  have only : classifiedExit (workerConfig .standard false) (.body indexPanic)
      true ⟨false, true⟩ ∈ record.exits := by
    rw [exited]
    exact List.mem_singleton_self _
  exact ⟨state, record, run, ⟨cancelled, current, exited⟩,
    early_failure_kept run member only rfl rfl⟩

/-- A shutdown between the panic and the token check erases it. -/
theorem shutdown_erases_panic :
    ∃ state,
      Run (Supervisor.step (workerConfig .standard false))
          (.new (workerConfig .standard false) 0 none)
          (List.flatten [startSchedule, [.generation (.bodyEnds indexPanic), .takeResult, .cancel,
                .advance, .perform, .perform, .perform, .perform, .perform]])
          state ∧
        state.finished ∧ state.generations.map (·.exits) =
            [[shutdownExit (.body indexPanic) true]] ∧
          state.generations.map (·.lifecycle.lastExitKind) = [some .shutdown] :=
  Run.exists_of_check (by decide +kernel)

end ServiceDaemon
