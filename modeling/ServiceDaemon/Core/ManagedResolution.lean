/-
Purpose: The calls of `resolve_provider_managed` beside the slots of one
  provider type.  A local slot is resolved as a snapshot; on the root slot the
  call reads the watch or runs the initialiser itself.
Main exports: ManagedPoint, ManagedScope, ManagedAction
-/
import ServiceDaemon.Core.ProviderScope
import ServiceDaemon.Core.ProviderEntry

namespace ServiceDaemon

open AsyncLib StepSystem

/-!
`resolve_provider_managed` looks the slot up as the other three bridges do.
With a local slot it makes the call that `resolve_provider_snapshot` makes; with
the root slot it calls `resolve_managed_result`, which looks at `watch_rx` alone
and hands the result of `init` to its caller without keeping it.

[SRC core/provider_scope.rs, core/managed_state.rs]
-/

/-- Where a `resolve_provider_managed` call is. -/
inductive ManagedPoint (Arc Error : Type) where
  | readBinding
  | readSlot (binding : ProviderBindingSnapshot)
  /-- in `resolve_snapshot_result`, on a local manager -/
  | calling (manager caller : Nat)
  /-- `resolve_managed_result`, on the root manager: before `watch_rx.get()` -/
  | rootWatch
  | rootInit
  | returned (result : Except Error Arc)

/-- The slots of a provider type with the managed calls on them. -/
structure ManagedScope (Arc Error : Type) where
  scope : ScopeState Arc Error
  managed : List (ManagedPoint Arc Error)

/-- What can happen. -/
inductive ManagedAction (Arc Error : Type) where
  | scope (action : ScopeAction Arc Error)
  | resolveProviderManaged
  /-- the next operation of a managed call -/
  | advance (call : Nat)
  | initReturns (call : Nat) (result : Except Error Arc)

namespace ManagedScope

variable {Arc Error : Type}

def new (id : Nat) : ManagedScope Arc Error :=
  { scope := .new id, managed := [] }

/-- Move a managed call to `point`. -/
def setPoint (state : ManagedScope Arc Error) (call : Nat)
    (point : ManagedPoint Arc Error) : ManagedScope Arc Error :=
  { state with managed := state.managed.set call point }

/-- A manager has changed. -/
def setManager (state : ManagedScope Arc Error) (index : Nat)
    (manager : StateManager Arc Error) : ManagedScope Arc Error :=
  { state with scope := { state.scope with managers := state.scope.managers.set index manager } }

/-- The next operation of a managed call, unless it waits. -/
def advance (state : ManagedScope Arc Error) (call : Nat) :
    ManagedPoint Arc Error → Option (ManagedScope Arc Error)
  | .readBinding =>
    some (state.setPoint call (.readSlot state.scope.effectiveBinding))
  | .readSlot binding =>
    let index := state.scope.managerFor binding
    if index = 0 then some (state.setPoint call .rootWatch)
    else
      state.scope.managers[index]?.bind fun manager =>
        (manager.step (.resolve .snapshot)).map fun after =>
          (state.setManager index after).setPoint call
            (.calling index manager.calls.length)
  | .calling index caller =>
    state.scope.managers[index]?.bind fun manager =>
      match manager.resultOf caller with
      | some (.ok (.snapshot arc)) =>
        some (state.setPoint call (.returned (.ok arc)))
      | some (.error error) =>
        some (state.setPoint call (.returned (.error error)))
      -- A snapshot call does not return a lock.
      | some (.ok .rwlock) | some (.ok .mutex) => none
      | none =>
        (manager.step (.advance caller)).map (state.setManager index)
  | .rootWatch =>
    state.scope.managers[0]?.map fun root =>
      match root.tracked with
      | some tracked =>
        state.setPoint call (.returned (.ok tracked.watchTx))
      | none => state.setPoint call .rootInit
  | .rootInit | .returned _ => none

def step [DecidableEq Arc] (state : ManagedScope Arc Error) :
    ManagedAction Arc Error → Option (ManagedScope Arc Error)
  | .scope action =>
    (state.scope.step action).map fun scope => { state with scope := scope }
  | .resolveProviderManaged =>
    some { state with managed := state.managed ++ [.readBinding] }
  | .advance call => state.managed[call]?.bind (state.advance call)
  -- The result goes to the caller; no cell of the manager keeps it.
  | .initReturns call result =>
    match state.managed[call]? with
    | some .rootInit => some (state.setPoint call (.returned result))
    | _ => none

/-- A managed call moves on until it waits or has returned, for at most so many
operations. -/
def drive [DecidableEq Arc] (call : Nat) :
    Nat → ManagedScope Arc Error → ManagedScope Arc Error
  | 0, state => state
  | operations + 1, state =>
    match state.step (.advance call) with
    | none => state
    | some next => drive call operations next

/-- What a managed call returned, if it has. -/
def resultOf (state : ManagedScope Arc Error) (call : Nat) :
    Option (Except Error Arc) :=
  state.managed[call]?.bind fun point =>
    match point with
    | .returned result => some result
    | _ => none

/-- What a managed call returns that is made now and runs by itself, unless it
needs an initialiser: the lookup, three operations of a snapshot and its
return. -/
def managedNow [DecidableEq Arc] (state : ManagedScope Arc Error) :
    Option (Except Error Arc) :=
  (state.step .resolveProviderManaged).bind fun called =>
    (called.drive state.managed.length 6).resultOf state.managed.length

/-- The manager of the slot in effect. -/
def effectiveManager (state : ManagedScope Arc Error) :
    Option (StateManager Arc Error) :=
  state.scope.managers[state.scope.managerFor state.scope.effectiveBinding]?

end ManagedScope

/-- What a snapshot call returns that is made on the manager now and runs by
itself, unless it needs an initialiser. -/
def StateManager.snapshotNow {Arc Error : Type} (manager : StateManager Arc Error) :
    Option (Except Error (Resolved Arc)) :=
  (manager.step (.resolve .snapshot)).bind fun called =>
    (called.drive manager.calls.length 3).resultOf manager.calls.length

/-- The slot holds a value: a promoted lock or a cached snapshot. -/
def StateManager.HoldsValue {Arc Error : Type} (manager : StateManager Arc Error) : Prop :=
  manager.lock = .set () ∨ manager.snapshotCache.get.isSome = true

/-- The slots change as those of a scope do. -/
theorem ManagedScope.scope_step {Arc Error : Type} [DecidableEq Arc]
    {s next : ManagedScope Arc Error} {a : ManagedAction Arc Error} (h : s.step a = some next) :
    next.scope = s.scope ∨ ∃ operation, s.scope.step operation = some next.scope := by
  have manages : ∀ {i : Nat} {m after : StateManager Arc Error}
      {operation : ManagerAction Arc Error},
      s.scope.managers[i]? = some m →
      m.step operation = some after → s.scope.step (.manager i operation) =
          some (s.setManager i after).scope := by
    intro i m after operation here moved
    simp only [ScopeState.step, here, Option.bind_some, moved, Option.map_some, setManager]
  cases a with
  | scope operation =>
    simp only [step, Option.map_eq_some_iff] at h
    obtain ⟨scope, moved, rfl⟩ := h
    exact .inr ⟨operation, moved⟩
  | resolveProviderManaged =>
    cases h
    exact .inl rfl
  | initReturns call res =>
    simp only [step] at h
    split at h <;> cases h
    exact .inl rfl
  | advance call =>
    simp only [step, Option.bind_eq_some_iff] at h
    obtain ⟨point, -, moved⟩ := h
    cases point with
    | readBinding =>
      cases moved
      exact .inl rfl
    | readSlot binding =>
      simp only [advance] at moved
      split at moved
      · cases moved
        exact .inl rfl
      · simp only [Option.bind_eq_some_iff, Option.map_eq_some_iff] at moved
        obtain ⟨m, here, after, called, rfl⟩ := moved
        exact .inr ⟨_, manages here called⟩
    | calling i c =>
      simp only [advance, Option.bind_eq_some_iff] at moved
      obtain ⟨m, here, moved⟩ := moved
      split at moved
      · cases moved
        exact .inl rfl
      · cases moved
        exact .inl rfl
      · cases moved
      · cases moved
      · simp only [Option.map_eq_some_iff] at moved
        obtain ⟨after, advanced, rfl⟩ := moved
        exact .inr ⟨_, manages here advanced⟩
    | rootWatch =>
      simp only [advance, Option.map_eq_some_iff] at moved
      obtain ⟨root, -, rfl⟩ := moved
      split <;> exact .inl rfl
    | rootInit => cases moved
    | returned res => cases moved

end ServiceDaemon
