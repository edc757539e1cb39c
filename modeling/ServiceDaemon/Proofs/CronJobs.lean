/-
Purpose: What the shared scheduler holds after any number of generations: one
  job for each generation that got past its setup.  A trigger keeps to the job
  of its current generation exactly if no earlier one got that far.
Main exports: CronProcess.Registered, JobsRegistered, JobsRegistered.reaches,
  cron_jobs_current_iff
-/
import ServiceDaemon.Core.CronTrigger

namespace ServiceDaemon

open AsyncLib StepSystem

namespace CronProcess

/-- The generation belongs to the trigger and has added its job. -/
def Registered (process : CronProcess) (trigger i : Nat) : Prop :=
  ∃ gen, process.generations[i]? = some gen ∧ gen.trigger = trigger ∧ gen.phase.pastSetup = true

/-- No later generation of the trigger has started. -/
def IsCurrent (process : CronProcess) (trigger i : Nat) : Prop :=
  ∀ (other : Nat) (gen : CronGeneration),
    process.generations[other]? = some gen → gen.trigger = trigger → other ≤ i

/-- The jobs on behalf of a trigger. -/
def jobsOf (process : CronProcess) (trigger : Nat) : List CronJob :=
  process.jobs.filter fun job => job.trigger = trigger

variable {process : CronProcess} {trigger i : Nat}
  {gen : CronGeneration} {phase : CronPhase}

theorem mem_jobsOf :
    job ∈ process.jobsOf trigger ↔ job ∈ process.jobs ∧ job.trigger = trigger := by
  simp only [jobsOf, List.mem_filter, decide_eq_true_eq]

/-- A generation that moves within its setup, or after it, registers nothing. -/
theorem registered_goto (here : process.generations[i]? = some gen)
    (same : phase.pastSetup = gen.phase.pastSetup) :
    Registered
        { process.goto i gen phase with sharedScheduler := scheduler } trigger other ↔
      process.Registered trigger other := by
  constructor
  · rintro ⟨moved, there, mine, past⟩
    rcases Threads.set_cases there with ⟨rfl, rfl⟩ | ⟨_, there⟩
    · exact ⟨gen, here, mine, same.symm.trans past⟩
    · exact ⟨moved, there, mine, past⟩
  · rintro ⟨before, there, mine, past⟩
    by_cases own : other = i
    · subst own
      cases here.symm.trans there
      exact ⟨_, Threads.set_self here, mine, same.trans past⟩
    · refine ⟨before, ?_, mine, past⟩
      exact (List.getElem?_set_ne (Ne.symm own)).trans there

/-- A generation that starts has registered nothing. -/
theorem registered_start :
    Registered
        { process with generations := process.generations ++ [⟨started, schedule, .getScheduler⟩] }
        trigger other ↔
      process.Registered trigger other := by
  constructor
  · rintro ⟨moved, there, mine, past⟩
    rcases Threads.concat_cases there with there | ⟨_, rfl⟩
    · exact ⟨moved, there, mine, past⟩
    · cases past
  · rintro ⟨before, there, mine, past⟩
    exact ⟨before, Threads.concat_old there, mine, past⟩

/-- A generation that adds its job registers itself. -/
theorem registered_add (here : process.generations[i]? = some gen) :
    Registered
        { process.goto i gen .running with sharedScheduler := scheduler } trigger other ↔
      process.Registered trigger other ∨ (gen.trigger = trigger ∧ i = other) := by
  constructor
  · rintro ⟨moved, there, mine, past⟩
    rcases Threads.set_cases there with ⟨rfl, rfl⟩ | ⟨_, there⟩
    · exact .inr ⟨mine, rfl⟩
    · exact .inl ⟨moved, there, mine, past⟩
  · rintro (⟨before, there, mine, past⟩ | ⟨mine, rfl⟩)
    · by_cases own : other = i
      · subst own
        cases here.symm.trans there
        exact ⟨_, Threads.set_self here, mine, rfl⟩
      · refine ⟨before, ?_, mine, past⟩
        exact (List.getElem?_set_ne (Ne.symm own)).trans there
    · exact ⟨_, Threads.set_self here, mine, rfl⟩

end CronProcess

/-! ### The jobs of a run -/

/-- The scheduler holds one job for each generation that has added one. -/
structure JobsRegistered (process : CronProcess) : Prop where
  distinct : (process.jobs.map CronJob.generation).Nodup
  registered : ∀ trigger i : Nat,
    (∃ job ∈ process.jobs, job.trigger = trigger ∧ job.generation = i) ↔
      process.Registered trigger i

namespace JobsRegistered

variable {process next : CronProcess}

theorem new : JobsRegistered CronProcess.new := by
  refine ⟨List.nodup_nil, ?_⟩
  intro trigger i
  constructor
  · rintro ⟨job, mem, _⟩
    cases mem
  · rintro ⟨gen, here, _⟩
    cases here

/-- A generation is registered once, so the job it adds is a new one. -/
theorem adds (known : JobsRegistered process) (here : process.generations[i]? = some gen)
    (phase : gen.phase = .addJob) (shared : process.sharedScheduler = some jobs) :
    JobsRegistered
      { process.goto i gen .running with
        sharedScheduler :=
          some (jobs ++ [⟨gen.trigger, i, gen.schedule⟩]) } := by
  have held : process.jobs = jobs := by
    rw [CronProcess.jobs, shared]
    rfl
  have unregistered : i ∉ jobs.map CronJob.generation := by
    intro mem
    obtain ⟨job, mem, mine⟩ := List.mem_map.mp mem
    rw [← held] at mem
    obtain ⟨before, there, _, past⟩ := (known.registered job.trigger i).mp ⟨job, mem, rfl, mine⟩
    cases here.symm.trans there
    rw [phase] at past
    cases past
  refine ⟨?_, ?_⟩
  · have distinct := known.distinct
    rw [held] at distinct
    simp only [CronProcess.jobs, Option.getD_some, List.map_append, List.map_cons, List.map_nil]
    exact List.nodup_append.mpr ⟨distinct, List.nodup_singleton _, by
      rintro other mem _ last rfl
      exact unregistered (List.mem_singleton.mp last ▸ mem)⟩
  · intro trigger other
    rw [CronProcess.registered_add here, ← known.registered, held]
    simp only [CronProcess.jobs, Option.getD_some, List.mem_append,
      List.mem_singleton, or_and_right, exists_or, exists_eq_left]

theorem step (known : JobsRegistered process)
    (h : process.step a = some next) : JobsRegistered next := by
  have move := CronMove.of_step h
  cases move with
  | starts _ =>
    refine ⟨known.distinct, ?_⟩
    intro trigger i
    rw [CronProcess.registered_start]
    exact known.registered trigger i
  | moves here same jobs =>
    refine ⟨?_, ?_⟩
    · rw [CronProcess.jobs, jobs]
      exact known.distinct
    · intro trigger i
      rw [CronProcess.registered_goto here same, CronProcess.jobs, jobs]
      exact known.registered trigger i
  | adds here phase shared => exact known.adds here phase shared

theorem reaches (run : Run CronProcess.step .new acts process) :
    JobsRegistered process :=
  run.invariant new fun known _ h => known.step h

end JobsRegistered

/-! ### The current job -/

/-- A trigger has at most one job, that of its current generation, exactly if no
earlier generation of it has got past its setup. -/
theorem cron_jobs_current_iff {schedule : List CronAction} {process : CronProcess}
    (run : Run CronProcess.step .new schedule process) (trigger : Nat) :
    ((process.jobsOf trigger).length ≤ 1 ∧ ∀ job ∈ process.jobsOf trigger,
          process.IsCurrent trigger job.generation) ↔
      ∀ (index : Nat) (generation : CronGeneration),
        process.generations[index]? = some generation →
          generation.trigger = trigger → generation.phase.pastSetup = true →
            process.IsCurrent trigger index := by
  have known := JobsRegistered.reaches run
  constructor
  · rintro ⟨-, current⟩ index generation here mine past
    obtain ⟨job, member, owner, rfl⟩ :=
      (known.registered trigger index).mpr ⟨generation, here, mine, past⟩
    exact current job (CronProcess.mem_jobsOf.mpr ⟨member, owner⟩)
  · intro last
    have current : ∀ job ∈ process.jobsOf trigger,
        process.IsCurrent trigger job.generation ∧ process.Registered trigger job.generation := by
      intro job member
      obtain ⟨member, owner⟩ := CronProcess.mem_jobsOf.mp member
      have registered :=
        (known.registered trigger job.generation).mp ⟨job, member, owner, rfl⟩
      obtain ⟨generation, here, mine, past⟩ := registered
      exact ⟨last _ generation here mine past, generation, here, mine, past⟩
    -- Two jobs would be of one generation, and a generation has one.
    have distinct : ((process.jobsOf trigger).map CronJob.generation).Nodup :=
      (List.filter_sublist.map _).nodup known.distinct
    refine ⟨?_, fun job member => (current job member).1⟩
    match jobs : process.jobsOf trigger with
    | [] => exact Nat.zero_le 1
    | [_] => exact Nat.le_refl 1
    | first :: second :: rest =>
      rw [jobs] at current distinct
      obtain ⟨latest, generation, here, mine, _⟩ :=
        current first List.mem_cons_self
      obtain ⟨latest', generation', here', mine', _⟩ :=
        current second (List.mem_cons_of_mem _ List.mem_cons_self)
      have same : first.generation = second.generation :=
        Nat.le_antisymm (latest' _ generation here mine)
          (latest _ generation' here' mine')
      rw [List.map_cons, List.map_cons, same] at distinct
      exact absurd List.mem_cons_self (List.nodup_cons.mp distinct).1

/-- The actions of a generation that adds its job. -/
def cronSetup (i : Nat) : List CronAction :=
  [.start 0 "0 * * * * *", .getScheduler i (.ok ()), .newJob i (.ok ()), .addJob i (.ok ())]

/-- The first generation ends in its setup and the second is running: the
trigger has one job. -/
theorem cron_jobs_current_iff_failed_setup :
    ∃ process : CronProcess,
      (Run CronProcess.step .new ([.start 0 "0 * * * * *", .getScheduler 0 (.error "no runtime")] ++
            cronSetup 1) process ∧
        process.jobs = [⟨0, 1, "0 * * * * *"⟩]) ∧
      (process.jobsOf 0).length ≤ 1 := by
  obtain ⟨process, run, jobs, phases⟩ :
      ∃ process : CronProcess,
        Run CronProcess.step .new
            ([.start 0 "0 * * * * *", .getScheduler 0 (.error "no runtime")] ++
              cronSetup 1) process ∧
          process.jobs = [⟨0, 1, "0 * * * * *"⟩] ∧
          process.generations.map (fun generation => generation.phase.pastSetup) = [false, true] :=
    Run.exists_of_check (by decide +kernel)
  have two : process.generations.length = 2 := by
    simpa using congrArg List.length phases
  refine ⟨process, ⟨run, jobs⟩, ((cron_jobs_current_iff run 0).mpr ?_).1⟩
  intro index generation here _ past
  have phase := congrArg (fun phases => phases[index]?) phases
  simp only [List.getElem?_map, here, Option.map_some, past] at phase
  intro other latest there _
  have bound := (List.getElem?_eq_some_iff.mp there).1
  match index with
  | 0 => cases phase
  | index + 1 => omega

/-- A trigger is reloaded twice: the scheduler holds the jobs of all three
generations. -/
theorem cron_jobs_accumulate :
    ∃ process : CronProcess,
      Run CronProcess.step .new
          (List.flatten [cronSetup 0, [.finish 0 (.ok ())], cronSetup 1,
              [.finish 1 (.ok ())], cronSetup 2]) process ∧
        (process.jobsOf 0).map CronJob.generation = [0, 1, 2] ∧
        process.generations.length = 3 :=
  Run.exists_of_check (by decide +kernel)

end ServiceDaemon
