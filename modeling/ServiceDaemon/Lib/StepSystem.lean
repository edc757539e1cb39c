/-
Purpose: Systems whose next state is computed from a state and an action, the
  schedules they run, and the induction rules for facts about whole runs.
Main exports: runSchedule, GuardedRun, Run
-/
import Mathlib

namespace StepSystem

/-!
A system is a partial function `step : State → Action → Option State`; `none`
means that the action is not enabled.  Every source of nondeterminism (which
thread moves, what the environment answers) is part of the action, so a
schedule, which is a list of actions, determines the run.

`GuardedRun` carries a condition on the steps of the run.  A property of every
run is stated with `Run`, whose condition is trivial; a property of the runs
whose steps keep some discipline is stated with that discipline as the guard.
-/

universe u v

variable {State : Type u} {Action : Type v}

/-- Execute a schedule, failing at the first action that is not enabled. -/
def runSchedule (step : State → Action → Option State) :
    State → List Action → Option State
  | state, [] => some state
  | state, action :: acts =>
    (step state action).bind fun next => runSchedule step next acts

/-- Execute a schedule, failing also at the first step the guard rejects. -/
def runGuarded (step : State → Action → Option State) (allowed : State → Action → Prop)
    [∀ state action, Decidable (allowed state action)] :
    State → List Action → Option State
  | state, [] => some state
  | state, action :: acts =>
    if allowed state action then
      (step state action).bind fun next =>
        runGuarded step allowed next acts
    else none

/-- A run whose every step satisfies `allowed`, read from its last step. -/
inductive GuardedRun (step : State → Action → Option State)
    (allowed : State → Action → Prop) (start : State) :
    List Action → State → Prop where
  | nil : GuardedRun step allowed start [] start
  | snoc {acts s next a}
      (earlier : GuardedRun step allowed start acts s)
      (permitted : allowed s a)
      (stepped : step s a = some next) :
      GuardedRun step allowed start (acts ++ [a]) next

/-- A run with no condition on its steps. -/
abbrev Run (step : State → Action → Option State) (start : State)
    (schedule : List Action) (finish : State) : Prop :=
  GuardedRun step (fun _ _ => True) start schedule finish

variable {step : State → Action → Option State}
  {allowed weaker : State → Action → Prop} {start middle finish : State}
  {acts earlier later : List Action}

namespace GuardedRun

/-- The run rule: what holds at the start and is kept by every permitted step
holds at the end. -/
theorem invariant {holds : State → Prop}
    (run : GuardedRun step allowed start acts finish) (initially : holds start)
    (kept : ∀ {s next : State} {a : Action}, holds s →
      allowed s a → step s a = some next → holds next) :
    holds finish := by
  induction run with
  | nil => exact initially
  | snoc _ permitted h ih => exact kept ih permitted h

theorem mono (run : GuardedRun step allowed start acts finish)
    (weaken : ∀ s a, allowed s a → weaker s a) : GuardedRun step weaker start acts finish := by
  induction run with
  | nil => exact .nil
  | snoc _ permitted h ih => exact .snoc ih (weaken _ _ permitted) h

theorem toRun (run : GuardedRun step allowed start acts finish) :
    Run step start acts finish :=
  run.mono fun _ _ _ => trivial

theorem append (first : GuardedRun step allowed start earlier middle)
    (second : GuardedRun step allowed middle later finish) :
    GuardedRun step allowed start (earlier ++ later) finish := by
  induction second with
  | nil => simpa using first
  | snoc _ permitted h ih =>
    rw [← List.append_assoc]
    exact .snoc ih permitted h

theorem cons (permitted : allowed start a) (h : step start a = some middle)
    (rest : GuardedRun step allowed middle acts finish) :
    GuardedRun step allowed start (a :: acts) finish := by
  have first : GuardedRun step allowed start [a] middle := .snoc .nil permitted h
  exact first.append rest

/-- A schedule that executes under the decidable guard is a guarded run. -/
theorem of_runGuarded [∀ s a, Decidable (allowed s a)]
    (executed : runGuarded step allowed start acts = some finish) :
    GuardedRun step allowed start acts finish := by
  induction acts generalizing start with
  | nil =>
    cases executed
    exact .nil
  | cons a acts ih =>
    by_cases permitted : allowed start a
    · simp only [runGuarded, permitted, if_true, Option.bind_eq_some_iff] at executed
      obtain ⟨next, h, rest⟩ := executed
      exact cons permitted h (ih rest)
    · simp [runGuarded, permitted] at executed

/-- A schedule that executes under the decidable guard, and whose last state
passes a decidable test, gives a guarded run to such a state. -/
theorem exists_of_check [∀ s a, Decidable (allowed s a)] {holds : State → Prop}
    [DecidablePred holds]
    (checked : (runGuarded step allowed start acts).any (fun s => decide (holds s)) = true) :
    ∃ finish, GuardedRun step allowed start acts finish ∧ holds finish := by
  cases executed : runGuarded step allowed start acts with
  | none => simp [executed] at checked
  | some finish =>
    refine ⟨finish, of_runGuarded executed, ?_⟩
    simpa [executed] using checked

theorem exists_and [∀ s a, Decidable (allowed s a)] {holds goal : State → Prop}
    [DecidablePred holds]
    (checked : (runGuarded step allowed start acts).any (fun s => decide (holds s)) = true)
    (follows : ∀ finish, GuardedRun step allowed start acts finish → holds finish → goal finish) :
    ∃ finish, GuardedRun step allowed start acts finish ∧ holds finish ∧ goal finish := by
  obtain ⟨finish, run, seen⟩ := exists_of_check checked
  exact ⟨finish, run, seen, follows finish run seen⟩

end GuardedRun

/-! ### Reachability -/

/-- A guarded run leads from the state to one of the target. -/
def Reaches (step : State → Action → Option State)
    (allowed : State → Action → Prop) (start : State) (target : State → Prop) :
    Prop :=
  ∃ schedule finish,
    GuardedRun step allowed start schedule finish ∧ target finish

namespace Reaches

variable {target further : State → Prop}

theorem refl (here : target start) : Reaches step allowed start target :=
  ⟨[], start, .nil, here⟩

theorem cons (h : step start a = some middle) (permitted : allowed start a)
    (rest : Reaches step allowed middle target) : Reaches step allowed start target := by
  obtain ⟨acts, finish, run, reached⟩ := rest
  exact ⟨a :: acts, finish, run.cons permitted h, reached⟩

theorem trans (first : Reaches step allowed start target)
    (second : ∀ {s}, target s → Reaches step allowed s further) :
    Reaches step allowed start further := by
  obtain ⟨acts, s, run, reached⟩ := first
  obtain ⟨more, finish, rest, reachedFurther⟩ := second reached
  exact ⟨acts ++ more, finish, run.append rest, reachedFurther⟩

end Reaches

/-- A schedule that executes is a run. -/
theorem Run.of_runSchedule (executed : runSchedule step start acts = some finish) :
    Run step start acts finish := by
  induction acts generalizing start with
  | nil =>
    cases executed
    exact .nil
  | cons a acts ih =>
    simp only [runSchedule, Option.bind_eq_some_iff] at executed
    obtain ⟨next, h, rest⟩ := executed
    exact GuardedRun.cons trivial h (ih rest)

/-- A schedule that executes and whose last state passes a decidable test gives
a run to such a state. -/
theorem Run.exists_of_check {holds : State → Prop} [DecidablePred holds]
    (checked : (runSchedule step start acts).any (fun s => decide (holds s)) = true) :
    ∃ finish, Run step start acts finish ∧ holds finish := by
  cases executed : runSchedule step start acts with
  | none => simp [executed] at checked
  | some finish =>
    refine ⟨finish, Run.of_runSchedule executed, ?_⟩
    simpa [executed] using checked

theorem Run.exists_and {holds goal : State → Prop} [DecidablePred holds]
    (checked : (runSchedule step start acts).any (fun s => decide (holds s)) = true)
    (follows : ∀ finish, Run step start acts finish → holds finish → goal finish) :
    ∃ finish, Run step start acts finish ∧ holds finish ∧ goal finish := by
  obtain ⟨finish, run, seen⟩ := Run.exists_of_check checked
  exact ⟨finish, run, seen, follows finish run seen⟩

end StepSystem
