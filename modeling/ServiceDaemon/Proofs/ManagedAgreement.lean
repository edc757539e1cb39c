/-
Purpose: When a managed resolution returns the value of the slot.  On a local
  slot it always does; on the root slot it does once the lock exists, and with
  no more than a cached snapshot it runs the initialiser again.
Main exports: LockMade, ManagedScope.managedNow_root,
  ManagedScope.managedNow_local, managed_agrees_iff
-/
import ServiceDaemon.Core.ManagedResolution
import ServiceDaemon.Proofs.SlotInitialisation

namespace ServiceDaemon

open AsyncLib StepSystem

variable {Arc Error : Type} {m next : StateManager Arc Error}
  {a : ManagerAction Arc Error}

/-! ### The lock and its watch -/

/-- The watch is there before the lock is. -/
structure LockMade (m : StateManager Arc Error) : Prop where
  owned : CellsOwned m
  made : m.lock = .set () → m.tracked ≠ none

namespace LockMade

theorem new : LockMade (StateManager.new : StateManager Arc Error) := by
  refine ⟨.new, ?_⟩
  intro opened
  cases opened

theorem withArc (arc : Arc) : LockMade (StateManager.withArc arc : StateManager Arc Error) := by
  refine ⟨.withArc arc, ?_⟩
  intro opened
  cases opened

theorem step (lockMade : LockMade m) (h : m.step a = some next) : LockMade next := by
  refine ⟨lockMade.owned.step h, ?_⟩
  have move := ManagerMove.of_step h
  cases move with
  | lockTaken _ _ _ | lockFailed _ _ =>
    intro opened
    cases opened
  | channelMade _ _ =>
    intro _
    exact Option.some_ne_none _
  | lockSet here point =>
    have owns := lockMade.owned.points _ _ here
    rw [point] at owns
    intro _
    exact owns.2
  | guards _ _ _ =>
    intro _
    rw [StateManager.applyEffect_tracked]
    exact Option.some_ne_none _
  | _ => exact lockMade.made

end LockMade

/-! ### Calls that run by themselves -/

namespace StateManager

/-- A call that has returned stays where it is. -/
theorem drive_of_result (returned : m.resultOf c = some res) (operations : Nat) :
    m.drive c operations = m := by
  cases operations with
  | zero => rfl
  | succ operations =>
    simp only [resultOf, Option.bind_eq_some_iff] at returned
    obtain ⟨call, here, same⟩ := returned
    have stays : m.step (.advance c) = none := by
      simp only [step, here, Option.bind_some, advance]
      split at same
      · rename_i point
        simp only [point]
      · cases same
    simp only [drive, stays]

theorem snapshotNow_of_tracked {tracked} (found : m.tracked = some tracked) :
    m.snapshotNow = some (.ok (.snapshot tracked.watchTx)) := by
  simp [snapshotNow, step, drive, advance, ResolveKind.entry, found, resultOf, setPoint]

theorem snapshotNow_of_cached (untracked : m.tracked = none)
    (found : m.snapshotCache.get = some arc) : m.snapshotNow = some (.ok (.snapshot arc)) := by
  simp [snapshotNow, step, drive, advance, ResolveKind.entry, untracked, found, resultOf, setPoint]

/-- A slot that holds a value returns it. -/
theorem snapshotNow_of_holds (lockMade : LockMade m) (holds : m.HoldsValue) :
    ∃ arc, m.snapshotNow = some (.ok (.snapshot arc)) := by
  cases found : m.tracked with
  | some tracked => exact ⟨_, snapshotNow_of_tracked found⟩
  | none =>
    rcases holds with opened | cached
    · exact absurd found (lockMade.made opened)
    · obtain ⟨arc, cached⟩ := Option.isSome_iff_exists.mp cached
      exact ⟨arc, snapshotNow_of_cached found cached⟩

end StateManager

namespace ManagedScope

variable [DecidableEq Arc] {s : ManagedScope Arc Error} {call : Nat}

theorem drive_of_step (h : s.step (.advance call) = some after) (operations : Nat) :
    s.drive call (operations + 1) = after.drive call operations := by
  simp only [drive, h]

theorem drive_of_returned (here : s.managed[call]? = some (.returned res)) (operations : Nat) :
    s.drive call operations = s := by
  cases operations with
  | zero => rfl
  | succ operations => simp only [drive, step, here, Option.bind_some, advance]

/-- A managed call on a local manager returns what the snapshot call it makes
returns, one operation later. -/
theorem drive_calling (operations : Nat) (here : s.managed[call]? = some (.calling i c))
    (found : s.scope.managers[i]? = some m)
    (returns : (m.drive c operations).resultOf c = some (.ok (.snapshot arc))) :
    (s.drive call (operations + 1)).resultOf call = some (.ok arc) := by
  -- Once the snapshot call has returned, so does the managed call.
  have finish : ∀ {s : ManagedScope Arc Error}
      {m : StateManager Arc Error} (more : Nat),
      s.managed[call]? = some (.calling i c) →
      s.scope.managers[i]? = some m →
      m.resultOf c = some (.ok (.snapshot arc)) →
        (s.drive call (more + 1)).resultOf call = some (.ok arc) := by
    intro s m more here found returned
    have h : s.step (.advance call) = some (s.setPoint call (.returned (.ok arc))) := by
      simp only [step, here, Option.bind_some, advance, found, returned]
    have there : (s.setPoint call (.returned (.ok arc))).managed[call]? =
        some (.returned (.ok arc)) := Threads.set_self here
    rw [drive_of_step h, drive_of_returned there]
    simp only [resultOf, there, Option.bind_some]
  induction operations generalizing s m with
  | zero => exact finish 0 here found returns
  | succ operations ih =>
    cases res : m.resultOf c with
    | some returned =>
      rw [StateManager.drive_of_result res, res] at returns
      cases returns
      exact finish _ here found res
    | none =>
      cases moved : m.step (.advance c) with
      | none =>
        simp only [StateManager.drive, moved, res] at returns
        cases returns
      | some after =>
        simp only [StateManager.drive, moved] at returns
        have h : s.step (.advance call) = some (s.setManager i after) := by
          simp only [step, here, Option.bind_some, advance, found, res, moved, Option.map_some]
        rw [drive_of_step h]
        exact ih here (Threads.set_self found) returns

/-- With one more managed call, at `point`. -/
def withCall (s : ManagedScope Arc Error)
    (point : ManagedPoint Arc Error) : ManagedScope Arc Error :=
  { s with managed := s.managed ++ [point] }

omit [DecidableEq Arc] in
theorem withCall_last (point : ManagedPoint Arc Error) :
    (s.withCall point).managed[s.managed.length]? = some point :=
  List.getElem?_concat_length

omit [DecidableEq Arc] in
theorem setPoint_withCall (point after : ManagedPoint Arc Error) :
    (s.withCall point).setPoint s.managed.length after = s.withCall after := by
  simp [withCall, setPoint]

/-- The lookup of a managed call. -/
theorem managedNow_eq :
    s.managedNow = ((s.withCall (.readSlot s.scope.effectiveBinding)).drive
        s.managed.length 5).resultOf s.managed.length := by
  have looked : (s.withCall .readBinding).step
      (.advance s.managed.length) = some (s.withCall (.readSlot s.scope.effectiveBinding)) := by
    simp only [step, withCall_last, Option.bind_some, advance, setPoint_withCall]
    rfl
  exact congrArg (resultOf · _) (drive_of_step looked 5)

/-- On the root slot, a managed call returns what the watch shows; without a
watch it needs the initialiser. -/
theorem managedNow_root (inherited : s.scope.managerFor s.scope.effectiveBinding = 0)
    (here : s.scope.managers[0]? = some root) :
    s.managedNow = root.tracked.map fun tracked => .ok tracked.watchTx := by
  have routed : (s.withCall (.readSlot s.scope.effectiveBinding)).step
      (.advance s.managed.length) = some (s.withCall .rootWatch) := by
    simp only [step, withCall_last, Option.bind_some, advance, setPoint_withCall]
    exact if_pos inherited
  rw [managedNow_eq, drive_of_step routed]
  cases found : root.tracked with
  | some tracked =>
    have watched : (s.withCall .rootWatch).step
        (.advance s.managed.length) = some (s.withCall (.returned (.ok tracked.watchTx))) := by
      simp only [step, withCall_last, Option.bind_some, advance, setPoint_withCall]
      simp only [withCall, here, Option.map_some, found]
    rw [drive_of_step watched, drive_of_returned (withCall_last _)]
    simp only [resultOf, withCall_last, Option.bind_some, Option.map_some]
  | none =>
    have missed : (s.withCall .rootWatch).step
        (.advance s.managed.length) = some (s.withCall .rootInit) := by
      simp only [step, withCall_last, Option.bind_some, advance, setPoint_withCall]
      simp only [withCall, here, Option.map_some, found]
    have waits : (s.withCall .rootInit).step
        (.advance s.managed.length) = none := by
      simp only [step, withCall_last, Option.bind_some, advance]
    rw [drive_of_step missed]
    simp only [drive, waits, resultOf, withCall_last, Option.bind_some, Option.map_none]

/-- On a local slot, a managed call returns what a snapshot call would. -/
theorem managedNow_local (bound : s.scope.managerFor s.scope.effectiveBinding ≠ 0)
    (here : s.effectiveManager = some m) (returns : m.snapshotNow = some (.ok (.snapshot arc))) :
    s.managedNow = some (.ok arc) := by
  let index := s.scope.managerFor s.scope.effectiveBinding
  let called : StateManager Arc Error :=
    { m with calls := m.calls ++ [⟨.snapshot, .checkWatch⟩] }
  have found : s.scope.managers[index]? = some m := here
  have routed : (s.withCall (.readSlot s.scope.effectiveBinding)).step
      (.advance s.managed.length) = some ((s.setManager index called).withCall
          (.calling index m.calls.length)) := by
    simp only [step, withCall_last, Option.bind_some, advance]
    refine (if_neg bound).trans ?_
    refine (congrArg (Option.bind · _) found).trans ?_
    simp only [Option.bind_some, StateManager.step, Option.map_some]
    simp only [withCall, setManager, setPoint, List.set_append_right _ _
      (Nat.le_refl _), Nat.sub_self, List.set_cons_zero]
    rfl
  rw [managedNow_eq, drive_of_step routed]
  exact drive_calling 3 (withCall_last _) (Threads.set_self found) returns

end ManagedScope

/-! ### The slots of a run -/

/-- Every slot makes its watch before its lock. -/
def ManagedScope.AllMade (s : ManagedScope Arc Error) : Prop :=
  ∀ (i : Nat) (m : StateManager Arc Error),
    s.scope.managers[i]? = some m → LockMade m

namespace ManagedScope.AllMade

theorem new (id : Nat) : AllMade (ManagedScope.new id : ManagedScope Arc Error) := by
  intro i m here
  have only := List.mem_of_getElem? here
  simp only [ManagedScope.new, ScopeState.new, List.mem_singleton] at only
  subst only
  exact .new

theorem step [DecidableEq Arc] {s next : ManagedScope Arc Error} {a : ManagedAction Arc Error}
    (all : AllMade s) (h : s.step a = some next) : AllMade next := by
  rcases ManagedScope.scope_step h with same | ⟨operation, moved⟩
  · intro i m here
    rw [same] at here
    exact all i m here
  · exact ScopeState.managers_step LockMade.withArc LockMade.step all moved

theorem reaches [DecidableEq Arc] {id : Nat}
    {acts : List (ManagedAction Arc Error)} {state : ManagedScope Arc Error}
    (run : Run ManagedScope.step (ManagedScope.new id) acts state) :
    AllMade state :=
  run.invariant (.new id) fun all _ h => all.step h

end ManagedScope.AllMade

/-! ### The managed resolution and the slot -/

/-- Whatever calls have been made and wherever they are: on a slot that holds a
value, a managed resolution returns what a snapshot resolution returns, without
an initialiser, exactly if the slot is a local one or has its watch.  A root
slot with no more than a cached snapshot is initialised again. -/
theorem managed_agrees_iff [DecidableEq Arc] {id : Nat} {schedule : List (ManagedAction Arc Error)}
    {state : ManagedScope Arc Error} {manager : StateManager Arc Error}
    (run : Run ManagedScope.step (ManagedScope.new id) schedule state)
    (here : state.effectiveManager = some manager) (holds : manager.HoldsValue) :
    (∃ arc, manager.snapshotNow = some (.ok (.snapshot arc)) ∧ state.managedNow = some (.ok arc)) ↔
      state.scope.managerFor state.scope.effectiveBinding ≠ 0 ∨ manager.tracked.isSome = true := by
  have lockMade := ManagedScope.AllMade.reaches run _ manager here
  obtain ⟨arc, returns⟩ := StateManager.snapshotNow_of_holds lockMade holds
  by_cases inherited :
      state.scope.managerFor state.scope.effectiveBinding = 0
  · have root : state.scope.managers[0]? = some manager := by
      rw [← inherited]
      exact here
    have answer := ManagedScope.managedNow_root inherited root
    constructor
    · rintro ⟨arc, -, managed⟩
      rw [answer] at managed
      obtain ⟨tracked, found, -⟩ := Option.map_eq_some_iff.mp managed
      exact .inr (Option.isSome_of_eq_some found)
    · intro either
      have made := either.resolve_left (not_not.mpr inherited)
      obtain ⟨tracked, found⟩ := Option.isSome_iff_exists.mp made
      refine ⟨tracked.watchTx, StateManager.snapshotNow_of_tracked found, ?_⟩
      rw [answer, found, Option.map_some]
  · constructor
    · intro _
      exact .inl inherited
    · intro _
      exact ⟨arc, returns, ManagedScope.managedNow_local inherited here returns⟩

/-- The calls of one resolution of the root slot that finds it empty and whose
`init` returns `arc`. -/
def cachedSnapshot (arc : Nat) : List (ManagedAction Nat Unit) :=
  [.scope (.manager 0 (.resolve .snapshot)), .scope (.manager 0 (.advance 0)),
    .scope (.manager 0 (.advance 0)), .scope (.manager 0 (.advance 0)),
    .scope (.manager 0 (.initReturns 0 (.ok arc))),
    .scope (.manager 0 (.advance 0))]

/-- The lock is resolved after a snapshot: the managed resolution returns the
snapshot. -/
theorem managed_agrees_iff_promoted :
    ∃ (state : ManagedScope Nat Unit) (manager : StateManager Nat Unit),
      (Run ManagedScope.step (.new 1) (cachedSnapshot 4 ++ [.scope (.manager 0 (.resolve .rwlock)),
              .scope (.manager 0 (.advance 1)),
              .scope (.manager 0 (.advance 1)),
              .scope (.manager 0 (.advance 1)),
              .scope (.manager 0 (.advance 1)),
              .scope (.manager 0 (.advance 1))]) state ∧
        state.effectiveManager = some manager ∧ manager.HoldsValue ∧
        manager.tracked.isSome = true) ∧
      ∃ arc, manager.snapshotNow = some (.ok (.snapshot arc)) ∧
        state.managedNow = some (.ok arc) := by
  obtain ⟨state, run, promoted⟩ :
      ∃ state : ManagedScope Nat Unit,
        Run ManagedScope.step (.new 1)
            (cachedSnapshot 4 ++ [.scope (.manager 0 (.resolve .rwlock)),
                .scope (.manager 0 (.advance 1)),
                .scope (.manager 0 (.advance 1)),
                .scope (.manager 0 (.advance 1)),
                .scope (.manager 0 (.advance 1)),
                .scope (.manager 0 (.advance 1))]) state ∧
          (state.effectiveManager.map fun manager =>
            (manager.lock, manager.tracked.isSome)) = some (.set (), true) :=
    Run.exists_of_check (by decide +kernel)
  obtain ⟨manager, here, same⟩ := Option.map_eq_some_iff.mp promoted
  have opened : manager.lock = .set () := congrArg Prod.fst same
  have made : manager.tracked.isSome = true := congrArg Prod.snd same
  exact ⟨state, manager, ⟨run, here, .inl opened, made⟩,
    (managed_agrees_iff run here (.inl opened)).mpr (.inr made)⟩

/-- The root slot has a cached snapshot, 1.  A managed resolution runs the
initialiser again and returns 2, while snapshots still return 1; the next one
needs the initialiser once more. -/
theorem managed_resolution_initialises_again :
    ∃ state : ManagedScope Nat Unit,
      Run ManagedScope.step (.new 1)
          (cachedSnapshot 1 ++ [.resolveProviderManaged, .advance 0, .advance 0, .advance 0,
              .initReturns 0 (.ok 2)]) state ∧
        (state.effectiveManager.map fun manager =>
          (manager.snapshotCache, manager.snapshotNow)) = some (.set 1, some (.ok (.snapshot 1))) ∧
        state.resultOf 0 = some (.ok 2) ∧ state.managedNow = none :=
  Run.exists_of_check (by decide +kernel)

end ServiceDaemon
