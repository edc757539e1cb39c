/-
Purpose: Which slot of a provider the resolutions of a generation use.  Every
  resolution looks the binding up afresh; as long as no override touches the
  slot or the binding while a generation lasts, all of them use the slot of the
  baseline.
Main exports: OverridesBetween, BindingMove, resolutions_use_baseline
-/
import ServiceDaemon.Core.GenerationRun

namespace ServiceDaemon

open AsyncLib StepSystem

/-!
The slot and the binding are read in two steps, so an override can come between
them; it is told apart from the rest of what happens in the scope.

[SRC core/provider_scope.rs]
-/

namespace BindingState

variable {Arc Error : Type}

/-- The action is the part of an override that replaces the slot or changes the
binding. -/
def rebinds (s : BindingState Arc Error) : BindingAction Arc Error → Bool
  | .scope (.install thread) =>
    match s.scope.overrides[thread]? with
    | some (.insert _ _) | some (.mutate _) => true
    | _ => false
  | _ => false

end BindingState

variable {Arc Error : Type} {s next : BindingState Arc Error}
  {a : BindingAction Arc Error} {scope after : ScopeState Arc Error}

/-- An override touches the slot or the binding only while no generation
lasts. -/
def OverridesBetween (s : BindingState Arc Error) (a : BindingAction Arc Error) : Prop :=
  s.rebinds a = true → s.generations.all GenerationRun.ended = true

instance (s : BindingState Arc Error) (a : BindingAction Arc Error) :
    Decidable (OverridesBetween s a) :=
  inferInstanceAs (Decidable (_ → _))

/-! ### What a step can do -/

/-- What the lookups of a generation depend on. -/
def ScopeState.SameBinding (scope after : ScopeState Arc Error) : Prop :=
  after.id = scope.id ∧ after.localSlot = scope.localSlot ∧ after.localBinding = scope.localBinding

namespace ScopeState.SameBinding

theorem effectiveBinding (same : SameBinding scope after) :
    after.effectiveBinding = scope.effectiveBinding := by
  obtain ⟨id, -, binding⟩ := same
  simp only [ScopeState.effectiveBinding, id, binding]

theorem managerFor (same : SameBinding scope after) (binding : ProviderBindingSnapshot) :
    after.managerFor binding = scope.managerFor binding := by
  obtain ⟨id, slot, -⟩ := same
  simp only [ScopeState.managerFor, id, slot]

theorem of_step [DecidableEq Arc]
    (h : scope.step operation = some after) (generations : List GenerationRun)
    (kept : BindingState.rebinds ⟨scope, generations⟩ (.scope operation) =
      false) : SameBinding scope after := by
  cases ScopeMove.of_step h with
  | inserts here => simp [BindingState.rebinds, here] at kept
  | mutates here more => simp [BindingState.rebinds, here] at kept
  | _ => exact ⟨rfl, rfl, rfl⟩

/-- A lookup changes no binding. -/
theorem of_lookup (found : BindingState.lookup scope entry point = some (after, there)) :
    SameBinding scope after := by
  cases point with
  | readBinding =>
    cases found
    exact ⟨rfl, rfl, rfl⟩
  | readSlot binding =>
    simp only [BindingState.lookup, Option.bind_eq_some_iff,
      Option.map_eq_some_iff, Prod.mk.injEq] at found
    obtain ⟨m, -, called, -, rfl, -⟩ := found
    exact ⟨rfl, rfl, rfl⟩
  | calling _ _ => cases found

end ScopeState.SameBinding

/-- A resolution reads the binding in effect, then finds its manager. -/
theorem BindingState.lookup_cases
    (found : BindingState.lookup scope entry point = some (after, there)) :
    (point = .readBinding ∧ there = .readSlot scope.effectiveBinding) ∨
      ∃ binding caller, point = .readSlot binding ∧
        there = .calling (scope.managerFor binding) caller := by
  cases point with
  | readBinding =>
    cases found
    exact .inl ⟨rfl, rfl⟩
  | readSlot binding =>
    simp only [BindingState.lookup, Option.bind_eq_some_iff,
      Option.map_eq_some_iff, Prod.mk.injEq] at found
    obtain ⟨m, -, called, -, -, rfl⟩ := found
    exact .inr ⟨binding, _, rfl, rfl⟩
  | calling _ _ => cases found

/-- The moves of the system: one constructor for each operation. -/
inductive BindingMove [DecidableEq Arc] (s : BindingState Arc Error) :
    BindingAction Arc Error → BindingState Arc Error → Prop where
  | scope {operation scope}
      (stepped : s.scope.step operation = some scope) :
      BindingMove s (.scope operation) { s with scope := scope }
  | starts :
      BindingMove s .start
        { s with generations := s.generations ++ [⟨.readBinding, [], false⟩] }
  | captures {i gen point}
      (here : s.generations[i]? = some gen)
      (live : gen.ended = false)
      (captured : s.scope.capture gen.capture = some point) :
      BindingMove s (.capture i)
        (s.setGeneration i { gen with capture := point })
  | resolves {i gen baseline entry}
      (here : s.generations[i]? = some gen)
      (captured : gen.capture = .captured baseline) :
      BindingMove s (.resolve i entry)
        (s.setGeneration i { gen with resolves := gen.resolves ++ [(entry, .readBinding)] })
  | looksUp {i resolve gen entry point there scope}
      (here : s.generations[i]? = some gen)
      (live : gen.ended = false)
      (stands : gen.resolves[resolve]? = some (entry, point))
      (found : BindingState.lookup s.scope entry point = some (scope, there)) :
      BindingMove s (.lookup i resolve)
        { scope := scope
          generations :=
            s.generations.set i
              { gen with resolves := gen.resolves.set resolve (entry, there) } }
  | finishes {i gen}
      (here : s.generations[i]? = some gen) :
      BindingMove s (.finish i)
        (s.setGeneration i { gen with ended := true })

theorem BindingMove.of_step [DecidableEq Arc] (h : s.step a = some next) :
    BindingMove s a next := by
  cases a with
  | scope operation =>
    simp only [BindingState.step] at h
    split at h
    · cases h
    · rw [Option.map_eq_some_iff] at h
      obtain ⟨scope, moved, rfl⟩ := h
      exact .scope moved
  | start =>
    cases h
    exact .starts
  | capture i =>
    simp only [BindingState.step, Option.bind_eq_some_iff] at h
    obtain ⟨gen, here, captured⟩ := h
    split at captured
    · cases captured
    · rename_i live
      rw [Option.map_eq_some_iff] at captured
      obtain ⟨point, captured, rfl⟩ := captured
      exact .captures here (by simpa using live) captured
  | resolve i entry =>
    simp only [BindingState.step, Option.bind_eq_some_iff] at h
    obtain ⟨gen, here, resolved⟩ := h
    split at resolved
    · rename_i baseline live captured
      cases resolved
      exact .resolves here captured
    · cases resolved
  | lookup i resolve =>
    simp only [BindingState.step, Option.bind_eq_some_iff] at h
    obtain ⟨gen, here, looked⟩ := h
    split at looked
    · cases looked
    · rename_i live
      simp only [Option.bind_eq_some_iff, Option.map_eq_some_iff, Prod.exists] at looked
      obtain ⟨entry, point, stands, scope, there, found, rfl⟩ := looked
      exact .looksUp here (by simpa using live) stands found
  | finish i =>
    simp only [BindingState.step, Option.map_eq_some_iff] at h
    obtain ⟨gen, here, rfl⟩ := h
    exact .finishes here

/-! ### Bindings stay -/

/-- What a capture has read so far is still so. -/
def CapturePoint.Current (scope : ScopeState Arc Error) : CapturePoint → Prop
  | .readBinding => True
  | .readSlot binding => binding = scope.effectiveBinding
  | .readEpoch binding m =>
    binding = scope.effectiveBinding ∧ m = scope.managerFor binding
  | .captured baseline =>
    baseline.binding = scope.effectiveBinding ∧ baseline.manager = scope.managerFor baseline.binding

/-- A generation that lasts has read the bindings that are in effect, and
whatever a generation has resolved it resolved from the slot of its baseline. -/
structure GenerationRun.Bound (scope : ScopeState Arc Error)
    (gen : GenerationRun) : Prop where
  current : gen.ended = false → gen.capture.Current scope
  reading : gen.ended = false → ∀ (entry : ResolveEntry) (binding : ProviderBindingSnapshot),
      (entry, .readSlot binding) ∈ gen.resolves → binding = scope.effectiveBinding
  resolving : gen.resolves ≠ [] → ∃ baseline, gen.capture = .captured baseline ∧
      ∀ (entry : ResolveEntry) (m c : Nat),
        (entry, .calling m c) ∈ gen.resolves → m = baseline.manager

/-- Every generation is bound. -/
def AllBound (s : BindingState Arc Error) : Prop :=
  ∀ (i : Nat) (gen : GenerationRun),
    s.generations[i]? = some gen → gen.Bound s.scope

namespace GenerationRun.Bound

variable {gen : GenerationRun}

/-- Nothing a generation depends on has changed. -/
theorem rescope (bound : gen.Bound scope) (same : scope.SameBinding after) : gen.Bound after := by
  refine ⟨?_, ?_, bound.resolving⟩
  · intro live
    have current := bound.current live
    cases point : gen.capture with
    | readBinding => trivial
    | readSlot binding =>
      rw [point] at current
      exact current.trans same.effectiveBinding.symm
    | readEpoch binding m =>
      rw [point] at current
      exact ⟨current.1.trans same.effectiveBinding.symm,
        current.2.trans (same.managerFor binding).symm⟩
    | captured baseline =>
      rw [point] at current
      exact ⟨current.1.trans same.effectiveBinding.symm, current.2.trans (same.managerFor _).symm⟩
  · intro live entry binding reads
    exact (bound.reading live entry binding reads).trans same.effectiveBinding.symm

/-- A generation that has ended does not look at the scope any more. -/
theorem rescope_ended (bound : gen.Bound scope) (ended : gen.ended = true) : gen.Bound after := by
  refine ⟨?_, ?_, bound.resolving⟩
  · intro live
    rw [ended] at live
    cases live
  · intro live
    rw [ended] at live
    cases live

theorem started : GenerationRun.Bound scope ⟨.readBinding, [], false⟩ :=
  ⟨fun _ => trivial, fun _ _ _ reads => absurd reads List.not_mem_nil,
    fun resolved => absurd rfl resolved⟩

theorem finished (bound : gen.Bound scope) :
    GenerationRun.Bound scope { gen with ended := true } :=
  ⟨nofun, nofun, bound.resolving⟩

/-- A step of the capture.  Nothing has been resolved yet. -/
theorem captures [DecidableEq Arc] (bound : gen.Bound scope) (live : gen.ended = false)
    (captured : scope.capture gen.capture = some point) :
    GenerationRun.Bound scope { gen with capture := point } := by
  have unresolved : gen.resolves = [] := by
    by_contra resolved
    obtain ⟨baseline, done, -⟩ := bound.resolving resolved
    rw [done] at captured
    cases captured
  have current := bound.current live
  refine ⟨?_, bound.reading, fun resolved => absurd unresolved resolved⟩
  intro _
  cases stands : gen.capture with
  | readBinding =>
    rw [stands] at captured
    cases captured
    rfl
  | readSlot binding =>
    rw [stands] at captured current
    cases captured
    exact ⟨current, rfl⟩
  | readEpoch binding m =>
    rw [stands] at captured current
    simp only [ScopeState.capture, Option.map_eq_some_iff] at captured
    obtain ⟨_, -, rfl⟩ := captured
    exact current
  | captured baseline =>
    rw [stands] at captured
    cases captured

/-- A resolution begins. -/
theorem resolves (bound : gen.Bound scope) {baseline}
    (captured : gen.capture = .captured baseline) (entry : ResolveEntry) :
    GenerationRun.Bound scope
      { gen with resolves := gen.resolves ++ [(entry, .readBinding)] } := by
  refine ⟨bound.current, ?_, fun _ => ⟨baseline, captured, ?_⟩⟩
  · intro live other binding reads
    rcases List.mem_append.mp reads with old | new
    · exact bound.reading live other binding old
    · cases List.mem_singleton.mp new
  · intro other m c called
    rcases List.mem_append.mp called with old | new
    · obtain ⟨_, same, slots⟩ := bound.resolving (List.ne_nil_of_mem old)
      cases captured.symm.trans same
      exact slots other m c old
    · cases List.mem_singleton.mp new

/-- A resolution reads the binding, or finds the manager: both are those of the
baseline, because they are still in effect. -/
theorem looksUp (bound : gen.Bound scope) (live : gen.ended = false)
    (stands : gen.resolves[resolve]? = some (entry, point))
    (found : BindingState.lookup scope entry point = some (after, there)) :
    GenerationRun.Bound scope
      { gen with resolves := gen.resolves.set resolve (entry, there) } := by
  have listed : (entry, point) ∈ gen.resolves := List.mem_of_getElem? stands
  obtain ⟨baseline, captured, slots⟩ := bound.resolving (List.ne_nil_of_mem listed)
  have current := bound.current live
  rw [captured] at current
  refine ⟨bound.current, ?_, fun _ => ⟨baseline, captured, ?_⟩⟩
  · intro _ other binding reads
    rcases List.mem_or_eq_of_mem_set reads with old | new
    · exact bound.reading live other binding old
    · cases new
      rcases BindingState.lookup_cases found with
        ⟨-, same⟩ | ⟨_, _, -, same⟩
      · cases same
        rfl
      · cases same
  · intro other m c called
    rcases List.mem_or_eq_of_mem_set called with old | new
    · exact slots other m c old
    · cases new
      rcases BindingState.lookup_cases found with
        ⟨-, same⟩ | ⟨binding, _, rfl, same⟩
      · cases same
      · cases same
        have read := bound.reading live entry binding listed
        rw [read, ← current.1]
        exact current.2.symm

end GenerationRun.Bound

namespace AllBound

theorem new (id : Nat) : AllBound (BindingState.new id : BindingState Arc Error) := by
  intro i gen here
  simp [BindingState.new] at here

theorem moves (bound : AllBound s) (same : s.scope.SameBinding after) (moved : gen.Bound s.scope) :
    AllBound
      { scope := after, generations := s.generations.set i gen } := by
  intro other run here
  rcases Threads.set_cases here with ⟨rfl, rfl⟩ | ⟨-, here⟩
  · exact moved.rescope same
  · exact (bound other run here).rescope same

/-- The step lemma. -/
theorem step [DecidableEq Arc] (bound : AllBound s) (quiet : OverridesBetween s a)
    (h : s.step a = some next) : AllBound next := by
  have refl : s.scope.SameBinding s.scope := ⟨rfl, rfl, rfl⟩
  cases BindingMove.of_step h with
  | scope moved =>
    rename_i operation scope
    intro i gen here
    cases rebinds : s.rebinds (.scope operation) with
    | false =>
      have same := ScopeState.SameBinding.of_step moved s.generations rebinds
      exact (bound i gen here).rescope same
    | true =>
      have ended := List.all_eq_true.mp (quiet rebinds) gen (List.mem_of_getElem? here)
      exact (bound i gen here).rescope_ended ended
  | starts =>
    intro i gen here
    rcases Threads.concat_cases here with old | ⟨-, rfl⟩
    · exact bound i gen old
    · exact .started
  | captures here live captured => exact bound.moves refl ((bound _ _ here).captures live captured)
  | resolves here captured => exact bound.moves refl ((bound _ _ here).resolves captured _)
  | looksUp here live stands found =>
    exact bound.moves (.of_lookup found) ((bound _ _ here).looksUp live stands found)
  | finishes here => exact bound.moves refl (bound _ _ here).finished

theorem reaches [DecidableEq Arc] {id acts}
    (run : GuardedRun BindingState.step OverridesBetween (BindingState.new id)
      acts s) : AllBound s :=
  run.invariant (AllBound.new id) fun bound quiet h =>
    bound.step quiet h

end AllBound

/-- Bindings are fixed per generation, as long as overrides keep to the time
between generations: every resolution of a generation, through any entry point,
uses the slot of its baseline, and while the generation lasts that slot and the
binding of the baseline are the ones in effect. -/
theorem resolutions_use_baseline [DecidableEq Arc] {id index : Nat}
    {schedule : List (BindingAction Arc Error)} {state : BindingState Arc Error}
    {generation : GenerationRun} {baseline : Baseline}
    (run : GuardedRun BindingState.step OverridesBetween (BindingState.new id) schedule state)
    (here : state.generations[index]? = some generation)
    (captured : generation.capture = .captured baseline) :
    (∀ (entry : ResolveEntry) (manager caller : Nat),
        (entry, .calling manager caller) ∈ generation.resolves → manager = baseline.manager) ∧
      (generation.ended = false → baseline.binding = state.scope.effectiveBinding ∧
          baseline.manager = state.scope.managerFor baseline.binding) := by
  have bound := AllBound.reaches run index generation here
  constructor
  · intro entry manager caller called
    obtain ⟨_, same, slots⟩ := bound.resolving (List.ne_nil_of_mem called)
    cases captured.symm.trans same
    exact slots entry manager caller called
  · intro live
    have current := bound.current live
    rw [captured] at current
    exact current

/-- The actions of one override. -/
def overrideWith (thread arc : Nat) : List (BindingAction Nat Unit) :=
  [.scope (.installLocalSlot arc .override), .scope (.install thread),
    .scope (.install thread), .scope (.install thread)]

/-- A generation starts and captures its baseline. -/
def startsAs (i : Nat) : List (BindingAction Nat Unit) :=
  .start :: List.replicate 3 (.capture i)

/-- A generation resolves the provider. -/
def resolvesOnce (i resolve : Nat) (entry : ResolveEntry) :
    List (BindingAction Nat Unit) :=
  .resolve i entry :: List.replicate 2 (.lookup i resolve)

/-- An override between two generations: the first uses the root manager, the
second the new slot. -/
theorem resolutions_use_baseline_two_generations :
    ∃ (state : BindingState Nat Unit) (generation : GenerationRun)
      (baseline : Baseline),
      GuardedRun BindingState.step OverridesBetween (BindingState.new 1)
          (List.flatten [startsAs 0, resolvesOnce 0 0 .snapshot, [.finish 0],
              overrideWith 0 7, startsAs 1, resolvesOnce 1 0 .rwlock,
              resolvesOnce 1 1 .managed])
          state ∧
        state.generations[1]? = some generation ∧
        generation.capture = .captured baseline ∧ baseline.manager = 1 ∧
        ∀ (entry : ResolveEntry) (manager caller : Nat),
          (entry, .calling manager caller) ∈ generation.resolves → manager = baseline.manager := by
  obtain ⟨state, run, here⟩ :
      ∃ state : BindingState Nat Unit,
        GuardedRun BindingState.step OverridesBetween (BindingState.new 1)
            (List.flatten [startsAs 0, resolvesOnce 0 0 .snapshot, [.finish 0],
                overrideWith 0 7, startsAs 1, resolvesOnce 1 0 .rwlock,
                resolvesOnce 1 1 .managed])
            state ∧
          state.generations[1]? = some
            ⟨.captured ⟨⟨1, .override, 1⟩, 1, 0, true⟩,
              [(.rwlock, .calling 1 0), (.managed, .calling 1 1)], false⟩ :=
    GuardedRun.exists_of_check (by decide +kernel)
  exact ⟨state, _, _, run, here, rfl, rfl, (resolutions_use_baseline run here rfl).1⟩

/-- An override reaches a generation that is running.  The generation captured
the root manager; a resolution it makes after the override uses the new
slot. -/
theorem override_reaches_running_generation :
    ∃ state : BindingState Nat Unit,
      Run BindingState.step (BindingState.new 1)
          (List.flatten [startsAs 0, resolvesOnce 0 0 .snapshot, overrideWith 0 7,
              resolvesOnce 0 1 .snapshot])
          state ∧
        state.generations[0]? = some
          ⟨.captured ⟨⟨0, .inheritedRoot, 0⟩, 0, 0, false⟩,
            [(.snapshot, .calling 0 0), (.snapshot, .calling 1 0)], false⟩ :=
  Run.exists_of_check (by decide +kernel)

end ServiceDaemon
