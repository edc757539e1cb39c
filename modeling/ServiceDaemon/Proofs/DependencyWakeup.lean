/-
Purpose: No wakeup of a dependency watch is lost: a watcher that is parked while
  what it watches has changed still has a notification coming.
Main exports: ValueAwaited, BindingAwaited, no_lost_wakeup
-/
import ServiceDaemon.Core.ProviderScope
import ServiceDaemon.Proofs.SlotInitialisation

namespace ServiceDaemon

open AsyncLib StepSystem

variable {Arc Error : Type}

/-! ### Watchers of a value -/

/-- The holder of the write guard has advanced the epoch and will notify. -/
def StateManager.notifies (m : StateManager Arc Error) : Bool :=
  m.guardPoint.any GuardPoint.isAdvanced

/-- A `changed_since` call is parked on a notification that has not come. -/
def StateManager.isParked (m : StateManager Arc Error) (watcher : Nat)
    (call : ChangedCall) : Prop :=
  m.watchers[watcher]? = some call ∧ call.point = .parked ∧ m.changeNotify.isWaiting watcher = true

/-- Whoever is parked sees no new epoch yet, or a notification is coming. -/
def ValueAwaited (m : StateManager Arc Error) : Prop :=
  ∀ watcher call, m.isParked watcher call → m.valueEpoch = call.observed ∨ m.notifies = true

namespace ValueAwaited

variable {m next : StateManager Arc Error}
  {a : ManagerAction Arc Error}

theorem new : ValueAwaited (StateManager.new : StateManager Arc Error) := by
  intro watcher call parked
  cases parked.1

theorem withArc (arc : Arc) : ValueAwaited (StateManager.withArc arc : StateManager Arc Error) := by
  intro watcher call parked
  cases parked.1

theorem of_parked (awaited : ValueAwaited m)
    (parked : ∀ watcher call, next.isParked watcher call → m.isParked watcher call)
    (epoch : next.valueEpoch = m.valueEpoch) (notifies : m.notifies = true → next.notifies = true) :
    ValueAwaited next := by
  intro watcher call still
  rcases awaited watcher call (parked watcher call still) with same | coming
  · exact .inl (epoch.trans same)
  · exact .inr (notifies coming)

/-- A watcher moves; the registrations of the others stay. -/
theorem of_setWatcher (awaited : ValueAwaited m) {watcher call point notify}
    (others : ∀ other ≠ watcher, notify.isWaiting other = m.changeNotify.isWaiting other)
    (parks : point = .parked → m.valueEpoch = call.observed) :
    ValueAwaited
      { m.setWatcher watcher call point with changeNotify := notify } := by
  intro other moved parked
  obtain ⟨there, point, waiting⟩ := parked
  rcases Threads.set_cases there with ⟨rfl, rfl⟩ | ⟨apart, there⟩
  · exact .inl (parks point)
  · refine awaited other moved ⟨there, point, ?_⟩
    rw [← others other apart]
    exact waiting

/-- A guard operation that is not the notification has none coming. -/
theorem of_guard (awaited : ValueAwaited m) (found : m.tracked = some tracked)
    (here : tracked.guard = before) (quiet : before.any GuardPoint.isAdvanced = false)
    (effects : effect = .nothing ∨ effect = .sent) : ValueAwaited (m.applyEffect after effect) := by
  have none : m.notifies = false := by
    simp only [StateManager.notifies, StateManager.guardPoint, found, Option.bind_some, here, quiet]
  have rest : ∀ {published : Bool},
      ValueAwaited
        { m with tracked := some after, published := published } := by
    intro published
    refine awaited.of_parked (fun _ _ parked => parked) rfl ?_
    intro coming
    cases none.symm.trans coming
  rcases effects with rfl | rfl
  · exact rest
  · exact rest

theorem step (awaited : ValueAwaited m) (owned : CellsOwned m)
    (h : m.step a = some next) : ValueAwaited next := by
  have move := ManagerMove.of_step h
  cases move with
  | polls here parks => exact awaited.of_setWatcher (fun _ _ => rfl) parks
  | arms here =>
    refine awaited.of_setWatcher ?_ (by intro parks; cases parks)
    intro other apart
    exact Notify.isWaiting_enable_of_ne apart
  | leaves here gone =>
    refine awaited.of_setWatcher ?_ (fun parks => absurd parks gone)
    intro other apart
    exact Notify.isWaiting_remove_of_ne apart
  | watches =>
    refine awaited.of_parked ?_ rfl id
    intro watcher call parked
    obtain ⟨there, point, waiting⟩ := parked
    rcases Threads.concat_cases there with there | ⟨_, rfl⟩
    · exact ⟨there, point, waiting⟩
    · cases point
  | channelMade here point =>
    -- There is no lock yet, so nobody can be publishing.
    have owns := owned.points _ _ here
    rw [point] at owns
    refine awaited.of_parked (fun _ _ parked => parked) rfl ?_
    intro coming
    simp only [StateManager.notifies, StateManager.guardPoint, owns.2] at coming
    cases coming
  | guards opened found move =>
    cases move with
    | advances _ =>
      intro watcher call parked
      exact .inr rfl
    | notifies _ =>
      intro watcher call parked
      cases parked.2.2
    | acquires here | reads here | derefs here | commitsClean here
    | dropsClean here => exact awaited.of_guard found here rfl (.inl rfl)
    | commits here | publishes here | drops here => exact awaited.of_guard found here rfl (.inr rfl)
  | _ => exact awaited

end ValueAwaited

/-! ### Watchers of a binding -/

/-- An override has changed the binding and will notify. -/
def ScopeState.notifies (s : ScopeState Arc Error) : Prop :=
  ∃ (thread : Nat) (kind : ProviderBindingKind) (epoch : Nat),
    s.overrides[thread]? = some (.notify kind epoch)

/-- A `binding_changed_from` call is parked on a notification that has not
come. -/
def ScopeState.isParked (s : ScopeState Arc Error) (watcher : Nat) (call : BindingWatcher) : Prop :=
  s.bindingWatchers[watcher]? = some call ∧ call.point = .parked ∧
    s.bindingNotify.isWaiting watcher = true

/-- Whoever is parked sees no new binding yet, or a notification is coming. -/
def BindingAwaited (s : ScopeState Arc Error) : Prop :=
  ∀ watcher call, s.isParked watcher call → s.effectiveBinding = call.observed ∨ s.notifies

namespace BindingAwaited

variable {s next : ScopeState Arc Error}

/-- A watcher moves; the registrations of the others stay. -/
theorem of_setBindingWatcher (awaited : BindingAwaited s)
    (others : ∀ other ≠ watcher, (changes.getD .new).isWaiting other =
      s.bindingNotify.isWaiting other)
    (parks : point = .parked → s.effectiveBinding = call.observed) :
    BindingAwaited
      { s.setBindingWatcher watcher call point with bindingChanges := changes } := by
  intro other moved parked
  obtain ⟨there, point, waiting⟩ := parked
  rcases Threads.set_cases there with ⟨rfl, rfl⟩ | ⟨apart, there⟩
  · exact .inl (parks point)
  · refine awaited other moved ⟨there, point, ?_⟩
    rw [← others other apart]
    exact waiting

theorem of_overrides (awaited : BindingAwaited s)
    (parked : ∀ watcher call, next.isParked watcher call → s.isParked watcher call)
    (binding : next.effectiveBinding = s.effectiveBinding)
    (pending : ∀ (thread : Nat) (kind : ProviderBindingKind) (epoch : Nat),
      s.overrides[thread]? = some (.notify kind epoch) →
        next.overrides[thread]? = some (.notify kind epoch)) :
    BindingAwaited next := by
  intro watcher call still
  rcases awaited watcher call (parked watcher call still) with same | coming
  · exact .inl (binding.trans same)
  · obtain ⟨thread, kind, epoch, here⟩ := coming
    exact .inr ⟨thread, kind, epoch, pending thread kind epoch here⟩

theorem step [DecidableEq Arc] {a : ScopeAction Arc Error} (awaited : BindingAwaited s)
    (h : s.step a = some next) : BindingAwaited next := by
  have move := ScopeMove.of_step h
  cases move with
  | polls here parks => exact awaited.of_setBindingWatcher (fun _ _ => rfl) parks
  | arms here =>
    refine awaited.of_setBindingWatcher ?_ (by intro parks; cases parks)
    intro other apart
    exact Notify.isWaiting_enable_of_ne apart
  | leaves here gone =>
    refine awaited.of_setBindingWatcher ?_ (fun parks => absurd parks gone)
    intro other apart
    simp only [ScopeState.release, ScopeState.bindingNotify]
    cases s.bindingChanges with
    | none => rfl
    | some notify => exact Notify.isWaiting_remove_of_ne apart
  | watches =>
    intro watcher call parked
    obtain ⟨there, point, waiting⟩ := parked
    rcases Threads.concat_cases there with there | ⟨_, rfl⟩
    · exact awaited watcher call ⟨there, point, waiting⟩
    · cases point
  | overrides =>
    refine awaited.of_overrides (fun _ _ parked => parked) rfl ?_
    intro thread kind epoch here
    exact Threads.concat_old here
  | inserts moved =>
    refine awaited.of_overrides (fun _ _ parked => parked) rfl ?_
    intro other kind epoch here
    rw [List.getElem?_set_ne]
    · exact here
    · rintro rfl
      cases moved.symm.trans here
  | mutates here more =>
    intro watcher call parked
    exact .inr ⟨_, _, _, Threads.set_self here⟩
  | notifies here =>
    intro watcher call parked
    obtain ⟨_, _, waiting⟩ := parked
    simp only [ScopeState.bindingNotify] at waiting
    cases changes : s.bindingChanges with
    | none =>
      rw [changes] at waiting
      cases waiting
    | some notify =>
      rw [changes] at waiting
      cases waiting
  | _ => exact awaited

end BindingAwaited

/-! ### No wakeup is lost -/

/-- What holds of every manager of the scope. -/
structure ChangesAwaited (s : ScopeState Arc Error) : Prop where
  managers : ∀ (i : Nat) (m : StateManager Arc Error),
    s.managers[i]? = some m → CellsOwned m ∧ ValueAwaited m
  bindings : BindingAwaited s

namespace ChangesAwaited

theorem new (id : Nat) : ChangesAwaited (ScopeState.new id : ScopeState Arc Error) := by
  refine ⟨?_, ?_⟩
  · intro i m here
    obtain rfl := List.mem_singleton.mp (List.mem_of_getElem? here)
    exact ⟨.new, .new⟩
  · intro watcher call parked
    cases parked.1

theorem step [DecidableEq Arc] {s next : ScopeState Arc Error} {a : ScopeAction Arc Error}
    (awaited : ChangesAwaited s) (h : s.step a = some next) : ChangesAwaited next := by
  refine ⟨?_, awaited.bindings.step h⟩
  apply ScopeState.managers_step _ _ awaited.managers h
  · intro arc
    exact ⟨.withArc arc, .withArc arc⟩
  · intro m after operation held moved
    exact ⟨held.1.step moved, held.2.step held.1 moved⟩

end ChangesAwaited

/-- In no reachable state is a watcher parked on a notification that has not
come although what it watches has changed, unless somebody is about to notify:
for a `changed_since` call the holder of the write guard of its manager, for a
`binding_changed_from` call an override. -/
theorem no_lost_wakeup [DecidableEq Arc] (id : Nat) {schedule : List (ScopeAction Arc Error)}
    {state : ScopeState Arc Error} (run : Run ScopeState.step (ScopeState.new id) schedule state) :
    (∀ (index : Nat) (manager : StateManager Arc Error), state.managers[index]? = some manager →
      ∀ watcher call, manager.isParked watcher call →
        manager.valueEpoch ≠ call.observed → manager.notifies = true) ∧
      ∀ watcher call, state.isParked watcher call →
        state.effectiveBinding ≠ call.observed → state.notifies := by
  have awaited : ChangesAwaited state :=
    run.invariant (.new id) fun awaited _ stepped => awaited.step stepped
  refine ⟨?_, ?_⟩
  · intro index manager here watcher call parked changed
    rcases (awaited.managers index manager here).2 watcher call parked with
      same | coming
    · exact absurd same changed
    · exact coming
  · intro watcher call parked changed
    rcases awaited.bindings watcher call parked with same | coming
    · exact absurd same changed
    · exact coming

/-- A watcher of the root manager and a watcher of the binding are parked; a
publication has advanced the epoch and an override has changed the binding, and
neither has notified yet. -/
theorem no_lost_wakeup_before_notify :
    ∃ state : ScopeState Nat Unit,
      Run ScopeState.step (ScopeState.new 3)
          [.manager 0 (.resolve .rwlock), .manager 0 (.advance 0),
            .manager 0 (.advance 0), .manager 0 (.initReturns 0 (.ok 1)),
            .manager 0 (.advance 0), .manager 0 (.advance 0),
            .manager 0 (.advance 0), .manager 0 (.changedSince 0),
            .manager 0 (.poll 0), .manager 0 (.poll 0), .manager 0 (.poll 0),
            .bindingChangedFrom ⟨0, .inheritedRoot, 0⟩, .pollBinding 0,
            .pollBinding 0, .manager 0 (.guard .write),
            .manager 0 (.guard (.publish 2)), .manager 0 (.guard .fetchAdd),
            .installLocalSlot 5 .override, .install 0, .install 0] state ∧
        (state.bindingWatchers = [⟨⟨0, .inheritedRoot, 0⟩, .parked⟩] ∧ state.bindingNotify = ⟨[0]⟩ ∧
          state.effectiveBinding = ⟨3, .override, 1⟩) ∧
        state.notifies := by
  refine Run.exists_and (by decide +kernel) fun state run outcome => ?_
  obtain ⟨watchers, notify, binding⟩ := outcome
  refine (no_lost_wakeup 3 run).2 0 _ ⟨by rw [watchers]; rfl, rfl, ?_⟩ ?_
  · rw [notify]
    rfl
  · rw [binding]
    decide

end ServiceDaemon
