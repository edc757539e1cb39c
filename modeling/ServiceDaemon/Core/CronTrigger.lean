/-
Purpose: The cron triggers of a process: the generations that set a `CronHost`
  up, and the jobs they add to the scheduler that all of them share.
Main exports: CronJob, CronPhase, CronGeneration
-/
import ServiceDaemon.Lib.Threads
import ServiceDaemon.Lib.StepSystem

namespace ServiceDaemon

open AsyncLib StepSystem

/-!
`run_as_service` runs once for each generation of a trigger and begins with
`setup`.  A `CronHost` is set up in three operations: the shared scheduler is
fetched, and created by whoever comes first; a job is made from the schedule;
the job is added.  Each can fail, and then the generation ends with a fatal
error.  When the host is dropped, nothing is done to the scheduler, which keeps
a job until it is removed.

Generations are known by their position in the list; a trigger starts one when
all its earlier ones have ended, for whatever reason, be it under the same
daemon or a later one of the process.

[SRC core/triggers.rs, models/trigger.rs]
-/

/-- A job of the scheduler, with the generation whose bridge it notifies. -/
structure CronJob where
  trigger : Nat
  generation : Nat
  schedule : String
deriving Repr, DecidableEq

/-- How a generation ended. -/
inductive CronExit where
  /-- `setup` returned a fatal error -/
  | fatal (message : String)
  /-- the future was dropped before `setup` had returned -/
  | dropped
  /-- `run_with_host` returned, for a reload or otherwise, or was dropped -/
  | finished (result : Except String Unit)
deriving Repr, DecidableEq

/-- Where a generation is. -/
inductive CronPhase where
  | getScheduler
  | newJob
  | addJob
  | running
  | ended (exit : CronExit)
deriving Repr, DecidableEq

namespace CronPhase

def hasEnded : CronPhase → Bool
  | ended _ => true
  | _ => false

/-- `sched.add(job)` has succeeded. -/
def pastSetup : CronPhase → Bool
  | running | ended (.finished _) => true
  | _ => false

end CronPhase

/-- One generation of a cron trigger. -/
structure CronGeneration where
  trigger : Nat
  schedule : String
  phase : CronPhase
deriving Repr, DecidableEq

/-- The message of `to_fatal`. -/
def CronGeneration.toFatal (generation : CronGeneration) (source : String) :
    CronExit :=
  .fatal s!"CronHost setup failed for schedule '{generation.schedule}': {source}"

/-- The cron triggers of a process.  `SHARED_SCHEDULER` is empty until it has
been created. -/
structure CronProcess where
  sharedScheduler : Option (List CronJob)
  generations : List CronGeneration
deriving Repr, DecidableEq

/-- What can happen.  The answers of the scheduler come with the actions. -/
inductive CronAction where
  | start (trigger : Nat) (schedule : String)
  | getScheduler (generation : Nat) (created : Except String Unit)
  | newJob (generation : Nat) (parsed : Except String Unit)
  | addJob (generation : Nat) (added : Except String Unit)
  | finish (generation : Nat) (result : Except String Unit)
  | drop (generation : Nat)

namespace CronProcess

def new : CronProcess :=
  { sharedScheduler := none, generations := [] }

/-- The jobs of the scheduler. -/
def jobs (process : CronProcess) : List CronJob :=
  process.sharedScheduler.getD []

/-- Move a generation to `phase`. -/
def goto (process : CronProcess) (index : Nat) (generation : CronGeneration)
    (phase : CronPhase) : CronProcess :=
  { process with generations := process.generations.set index { generation with phase := phase } }

/-- A failing operation of `setup`. -/
def fail (process : CronProcess) (index : Nat) (generation : CronGeneration)
    (source : String) : CronProcess :=
  process.goto index generation (.ended (generation.toFatal source))

/-- `get_shared_scheduler`. -/
def getScheduler (process : CronProcess) (index : Nat)
    (generation : CronGeneration) (created : Except String Unit) : CronProcess :=
  match process.sharedScheduler, created with
  | some _, _ => process.goto index generation .newJob
  | none, .ok _ =>
    { process.goto index generation .newJob with sharedScheduler := some [] }
  | none, .error source => process.fail index generation source

def step (process : CronProcess) : CronAction → Option CronProcess
  | .start trigger schedule =>
    if process.generations.all fun generation =>
        generation.trigger != trigger || generation.phase.hasEnded then
      some
        { process with generations := process.generations ++ [⟨trigger, schedule, .getScheduler⟩] }
    else none
  | .getScheduler index created =>
    process.generations[index]?.bind fun generation =>
      match generation.phase with
      | .getScheduler => some (process.getScheduler index generation created)
      | _ => none
  | .newJob index parsed =>
    process.generations[index]?.bind fun generation =>
      match generation.phase, parsed with
      | .newJob, .ok _ => some (process.goto index generation .addJob)
      | .newJob, .error source => some (process.fail index generation source)
      | _, _ => none
  | .addJob index added =>
    process.generations[index]?.bind fun generation =>
      match generation.phase, added, process.sharedScheduler with
      | .addJob, .ok _, some jobs =>
        let job := ⟨generation.trigger, index, generation.schedule⟩
        some
          { process.goto index generation .running with sharedScheduler := some (jobs ++ [job]) }
      | .addJob, .error source, _ =>
        some (process.fail index generation source)
      | _, _, _ => none
  | .finish index result =>
    process.generations[index]?.bind fun generation =>
      match generation.phase with
      | .running =>
        some (process.goto index generation (.ended (.finished result)))
      | _ => none
  | .drop index =>
    process.generations[index]?.bind fun generation =>
      match generation.phase with
      | .getScheduler | .newJob | .addJob =>
        some (process.goto index generation (.ended .dropped))
      | .running | .ended _ => none

end CronProcess

/-! ### What an action can do -/

/-- The moves of the process: a generation starts, a job is added, or a
generation moves on and the jobs stay. -/
inductive CronMove (process : CronProcess) : CronProcess → Prop where
  | starts {trigger schedule}
      (alone : ∀ gen ∈ process.generations, gen.trigger = trigger → gen.phase.hasEnded = true) :
      CronMove process
        { process with generations := process.generations ++ [⟨trigger, schedule, .getScheduler⟩] }
  | moves {i gen phase scheduler}
      (here : process.generations[i]? = some gen)
      (same : phase.pastSetup = gen.phase.pastSetup)
      (jobs : scheduler.getD [] = process.jobs) :
      CronMove process
        { process.goto i gen phase with sharedScheduler := scheduler }
  | adds {i gen jobs}
      (here : process.generations[i]? = some gen)
      (phase : gen.phase = .addJob)
      (shared : process.sharedScheduler = some jobs) :
      CronMove process
        { process.goto i gen .running with
          sharedScheduler :=
            some (jobs ++ [⟨gen.trigger, i, gen.schedule⟩]) }

namespace CronMove

variable {process next : CronProcess} {i : Nat}
  {gen : CronGeneration}

theorem goes (here : process.generations[i]? = some gen)
    (same : phase.pastSetup = gen.phase.pastSetup) :
    CronMove process (process.goto i gen phase) :=
  .moves here same rfl

theorem of_getScheduler (here : process.generations[i]? = some gen)
    (phase : gen.phase = .getScheduler) (created : Except String Unit) :
    CronMove process (process.getScheduler i gen created) := by
  unfold CronProcess.getScheduler
  split
  · exact goes here (by rw [phase]; rfl)
  · rename_i missing
    refine .moves here (by rw [phase]; rfl) ?_
    rw [CronProcess.jobs, missing]
    rfl
  · exact goes here (by rw [phase]; rfl)

theorem of_step (h : process.step a = some next) : CronMove process next := by
  cases a with
  | start trigger schedule =>
    simp only [CronProcess.step] at h
    split at h
    · rename_i alone
      cases h
      refine .starts ?_
      intro gen mem mine
      have ended := List.all_eq_true.mp alone gen mem
      simpa [mine] using ended
    · cases h
  | getScheduler i created =>
    simp only [CronProcess.step, Option.bind_eq_some_iff] at h
    obtain ⟨gen, here, moved⟩ := h
    split at moved
    · rename_i phase
      cases moved
      exact of_getScheduler here phase created
    · cases moved
  | newJob i parsed =>
    simp only [CronProcess.step, Option.bind_eq_some_iff] at h
    obtain ⟨gen, here, moved⟩ := h
    split at moved
    · rename_i phase
      cases moved
      exact goes here (by rw [phase]; rfl)
    · rename_i phase
      cases moved
      exact goes here (by rw [phase]; rfl)
    · cases moved
  | addJob i added =>
    simp only [CronProcess.step, Option.bind_eq_some_iff] at h
    obtain ⟨gen, here, moved⟩ := h
    split at moved
    · rename_i phase shared
      cases moved
      exact .adds here phase shared
    · rename_i phase
      cases moved
      exact goes here (by rw [phase]; rfl)
    · cases moved
  | finish i res =>
    simp only [CronProcess.step, Option.bind_eq_some_iff] at h
    obtain ⟨gen, here, moved⟩ := h
    split at moved
    · rename_i phase
      cases moved
      exact goes here (by rw [phase]; rfl)
    · cases moved
  | drop i =>
    simp only [CronProcess.step, Option.bind_eq_some_iff] at h
    obtain ⟨gen, here, moved⟩ := h
    split at moved
    case h_4 => cases moved
    case h_5 => cases moved
    all_goals
      rename_i phase
      cases moved
      exact goes here (by rw [phase]; rfl)

end CronMove

end ServiceDaemon
