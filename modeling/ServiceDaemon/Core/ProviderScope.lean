/-
Purpose: The slots of one provider type in one scope: the root manager and the
  local ones, the binding that says which is in effect, overrides, and the
  generations of services that capture a baseline and then resolve the provider.
Main exports: ProviderBindingSnapshot, ScopeState, ScopeAction
-/
import ServiceDaemon.Models.Policy
import ServiceDaemon.Core.StateManager

namespace ServiceDaemon

open AsyncLib StepSystem

/-!
A scope keeps, for each provider type, a binding, a slot and a notification.
The maps are keyed by type, so the entries of one type are a system of their
own.  An override is three operations on them: the slot is inserted, the binding
is changed, and the watchers of the binding are notified, if the notification
exists.

The root manager is shared by all scopes; what other daemons do to it is among
the actions on manager `0`.

[SRC core/provider_scope.rs]
-/

inductive ProviderBindingKind where
  | inheritedRoot
  | localSlot
  | override
deriving Repr, DecidableEq

structure ProviderBinding where
  kind : ProviderBindingKind
  epoch : Nat
deriving Repr, DecidableEq

/-- `ProviderBindingSnapshot`, of a fixed type. -/
structure ProviderBindingSnapshot where
  scopeId : Nat
  kind : ProviderBindingKind
  epoch : Nat
deriving Repr, DecidableEq

/-- `ProviderScopeId::root()`. -/
def rootScopeId : Nat := 0

/-- Where an `install_local_slot` call is. -/
inductive OverridePoint (Arc : Type) where
  | insert (arc : Arc) (kind : ProviderBindingKind)
  | mutate (kind : ProviderBindingKind)
  | notify (kind : ProviderBindingKind) (epoch : Nat)
  | returned (binding : ProviderBindingSnapshot)
deriving Repr, DecidableEq

/-- Where a `binding_changed_from` call is. -/
inductive BindingPoint where
  /-- before `binding_notify`, `notified` and `enable` -/
  | arm
  | check
  | parked
  | returned
  | dropped
deriving Repr, DecidableEq

/-- One `binding_changed_from` call. -/
structure BindingWatcher where
  observed : ProviderBindingSnapshot
  point : BindingPoint
deriving Repr, DecidableEq

/-- What `provider_dependency_watch` captures.  `settled` is history: whether at
that moment the slot held a value that no initialisation under way could
change. -/
structure Baseline where
  binding : ProviderBindingSnapshot
  manager : Nat
  epoch : UInt64
  settled : Bool
deriving Repr, DecidableEq

/-- Where the capture of a baseline is. -/
inductive CapturePoint where
  | readBinding
  | readSlot (binding : ProviderBindingSnapshot)
  | readEpoch (binding : ProviderBindingSnapshot) (manager : Nat)
  | captured (baseline : Baseline)
deriving Repr, DecidableEq

/-- Where a `resolve_provider_snapshot` call is: on its way to the manager, or
in a call on the manager. -/
inductive LookupPoint where
  | readBinding
  | readSlot (binding : ProviderBindingSnapshot)
  | calling (manager caller : Nat)
deriving Repr, DecidableEq

/-- A generation: the capture of its watch, and what its body resolves. -/
structure Generation where
  capture : CapturePoint
  resolves : List LookupPoint
deriving Repr, DecidableEq

/-- The entries of one provider type in a scope.  Manager `0` is the root
manager; the others are the local slots, in the order of their creation. -/
structure ScopeState (Arc Error : Type) where
  id : Nat
  managers : List (StateManager Arc Error)
  localSlot : Option Nat
  localBinding : Option ProviderBinding
  bindingChanges : Option Notify
  overrides : List (OverridePoint Arc)
  bindingWatchers : List BindingWatcher
  generations : List Generation

/-- What can happen in a scope. -/
inductive ScopeAction (Arc Error : Type) where
  | manager (index : Nat) (action : ManagerAction Arc Error)
  | installLocalSlot (arc : Arc) (kind : ProviderBindingKind)
  | install (thread : Nat)
  | bindingChangedFrom (observed : ProviderBindingSnapshot)
  | pollBinding (watcher : Nat)
  | dropBindingWatcher (watcher : Nat)
  | startGeneration
  | capture (generation : Nat)
  | resolveProviderSnapshot (generation : Nat)
  | lookup (generation resolve : Nat)

/-- An initialiser of the lock that has looked at the cache found `arc` in
it. -/
def ResolvePoint.agrees {Arc Error : Type} [DecidableEq Arc] (arc : Arc) :
    ResolvePoint Arc Error → Bool
  | .lockInit => false
  | .lockNotify seed | .lockChannel seed => seed = arc
  | _ => true

/-- The value of the manager does not depend on an initialisation that is still
running: the lock exists, or the cache holds the value and every initialiser of
the lock that has looked found it there. -/
def StateManager.settled {Arc Error : Type} [DecidableEq Arc]
    (manager : StateManager Arc Error) : Bool :=
  manager.tracked.isSome ||
    match manager.snapshotCache with
    | .set arc => manager.calls.all fun call => call.point.agrees arc
    | .empty | .initialising _ => false

namespace ScopeState

variable {Arc Error : Type}

def new (id : Nat) : ScopeState Arc Error :=
  { id := id
    managers := [.new]
    localSlot := none
    localBinding := none
    bindingChanges := none
    overrides := []
    bindingWatchers := []
    generations := [] }

def effectiveBinding (state : ScopeState Arc Error) :
    ProviderBindingSnapshot :=
  match state.localBinding with
  | some binding => ⟨state.id, binding.kind, binding.epoch⟩
  | none => ⟨rootScopeId, .inheritedRoot, 0⟩

/-- `local_slot_for_binding`, or the root manager. -/
def managerFor (state : ScopeState Arc Error) (binding : ProviderBindingSnapshot) : Nat :=
  if binding.scopeId ≠ state.id then 0 else state.localSlot.getD 0

/-- One operation of an `install_local_slot` call. -/
def install (state : ScopeState Arc Error) (thread : Nat) :
    OverridePoint Arc → Option (ScopeState Arc Error)
  | .insert arc kind =>
    some
      { state with
        managers := state.managers ++ [.withArc arc]
        localSlot := some state.managers.length
        overrides := state.overrides.set thread (.mutate kind) }
  | .mutate kind =>
    let binding := state.localBinding.getD ⟨kind, 0⟩
    let epoch := saturatingSucc binding.epoch
    some
      { state with
        localBinding := some ⟨kind, epoch⟩
        overrides := state.overrides.set thread (.notify kind epoch) }
  | .notify kind epoch =>
    some
      { state with
        bindingChanges := state.bindingChanges.map Notify.notifyWaiters
        overrides :=
          state.overrides.set thread (.returned ⟨state.id, kind, epoch⟩) }
  | .returned _ => none

/-- Move a watcher of the binding. -/
def setBindingWatcher (state : ScopeState Arc Error) (watcher : Nat)
    (call : BindingWatcher) (point : BindingPoint) : ScopeState Arc Error :=
  { state with bindingWatchers := state.bindingWatchers.set watcher { call with point := point } }

/-- `binding_notify`: the notification is created by whoever asks first. -/
def bindingNotify (state : ScopeState Arc Error) : Notify :=
  state.bindingChanges.getD .new

/-- The registration of a watcher that is not parked on it any more. -/
def release (state : ScopeState Arc Error) (watcher : Nat) : Option Notify :=
  state.bindingChanges.map fun notify => notify.remove watcher

/-- The next operation of a `binding_changed_from` call, unless it is parked. -/
def pollBinding (state : ScopeState Arc Error) (watcher : Nat)
    (call : BindingWatcher) : Option (ScopeState Arc Error) :=
  let goto := state.setBindingWatcher watcher call
  match call.point with
  | .arm =>
    some
      { goto .check with bindingChanges := some (state.bindingNotify.enable watcher) }
  | .check =>
    if state.effectiveBinding ≠ call.observed then
      some { goto .returned with bindingChanges := state.release watcher }
    else some (goto .parked)
  | .parked =>
    if state.bindingNotify.isWaiting watcher then none
    else some (goto .arm)
  | .returned | .dropped => none

/-- The next operation of `provider_dependency_watch`. -/
def capture [DecidableEq Arc] (state : ScopeState Arc Error) :
    CapturePoint → Option CapturePoint
  | .readBinding => some (.readSlot state.effectiveBinding)
  | .readSlot binding => some (.readEpoch binding (state.managerFor binding))
  | .readEpoch binding index =>
    state.managers[index]?.map fun manager =>
      .captured
        { binding := binding
          manager := index
          epoch := manager.valueEpoch
          settled := manager.settled }
  | .captured _ => none

/-- The next operation of `resolve_provider_snapshot`, up to the call on the
manager. -/
def lookup (state : ScopeState Arc Error) :
    LookupPoint → Option (LookupPoint × List (StateManager Arc Error))
  | .readBinding => some (.readSlot state.effectiveBinding, state.managers)
  | .readSlot binding =>
    let index := state.managerFor binding
    state.managers[index]?.bind fun manager =>
      (manager.step (.resolve .snapshot)).map fun after =>
        (.calling index manager.calls.length, state.managers.set index after)
  | .calling _ _ => none

def step [DecidableEq Arc] (state : ScopeState Arc Error) :
    ScopeAction Arc Error → Option (ScopeState Arc Error)
  | .manager index action =>
    state.managers[index]?.bind fun manager =>
      (manager.step action).map fun after =>
        { state with managers := state.managers.set index after }
  | .installLocalSlot arc kind =>
    some { state with overrides := state.overrides ++ [.insert arc kind] }
  | .install thread =>
    state.overrides[thread]?.bind (state.install thread)
  | .bindingChangedFrom observed =>
    some
      { state with bindingWatchers := state.bindingWatchers ++ [⟨observed, .arm⟩] }
  | .pollBinding watcher =>
    state.bindingWatchers[watcher]?.bind (state.pollBinding watcher)
  | .dropBindingWatcher watcher =>
    state.bindingWatchers[watcher]?.map fun call =>
      { state.setBindingWatcher watcher call .dropped with bindingChanges := state.release watcher }
  | .startGeneration =>
    some
      { state with generations := state.generations ++ [⟨.readBinding, []⟩] }
  | .capture index =>
    state.generations[index]?.bind fun generation =>
      (state.capture generation.capture).map fun point =>
        { state with
          generations :=
            state.generations.set index
              { generation with capture := point } }
  -- The body runs once the watch has been captured.
  | .resolveProviderSnapshot index =>
    state.generations[index]?.bind fun generation =>
      match generation.capture with
      | .captured _ =>
        some
          { state with
            generations :=
              state.generations.set index
                { generation with resolves := generation.resolves ++ [.readBinding] } }
      | _ => none
  | .lookup index resolve =>
    state.generations[index]?.bind fun generation =>
      generation.resolves[resolve]?.bind fun point =>
        (state.lookup point).map fun (next, managers) =>
          { state with
            managers := managers
            generations :=
              state.generations.set index
                { generation with resolves := generation.resolves.set resolve next } }

end ScopeState

/-! ### What an action can do -/

/-- The moves of a scope: one constructor for each operation. -/
inductive ScopeMove {Arc Error : Type} [DecidableEq Arc]
    (s : ScopeState Arc Error) :
    ScopeAction Arc Error → ScopeState Arc Error → Prop where
  | manages {i m after action}
      (here : s.managers[i]? = some m)
      (stepped : m.step action = some after) :
      ScopeMove s (.manager i action)
        { s with managers := s.managers.set i after }
  | overrides {arc kind} :
      ScopeMove s (.installLocalSlot arc kind)
        { s with overrides := s.overrides ++ [.insert arc kind] }
  | inserts {thread arc kind}
      (here : s.overrides[thread]? = some (.insert arc kind)) :
      ScopeMove s (.install thread)
        { s with
          managers := s.managers ++ [.withArc arc]
          localSlot := some s.managers.length
          overrides := s.overrides.set thread (.mutate kind) }
  | mutates {thread epoch kind}
      (here : s.overrides[thread]? = some (.mutate kind))
      (more : epoch = saturatingSucc (s.localBinding.getD ⟨kind, 0⟩).epoch) :
      ScopeMove s (.install thread)
        { s with
          localBinding := some ⟨kind, epoch⟩
          overrides := s.overrides.set thread (.notify kind epoch) }
  | notifies {thread epoch kind}
      (here : s.overrides[thread]? = some (.notify kind epoch)) :
      ScopeMove s (.install thread)
        { s with
          bindingChanges := s.bindingChanges.map Notify.notifyWaiters
          overrides :=
            s.overrides.set thread (.returned ⟨s.id, kind, epoch⟩) }
  | watches {observed} :
      ScopeMove s (.bindingChangedFrom observed)
        { s with bindingWatchers := s.bindingWatchers ++ [⟨observed, .arm⟩] }
  /-- a watcher moves without touching the notification -/
  | polls {watcher call point}
      (here : s.bindingWatchers[watcher]? = some call)
      (parks : point = .parked → s.effectiveBinding = call.observed) :
      ScopeMove s (.pollBinding watcher)
        (s.setBindingWatcher watcher call point)
  | arms {watcher call} (here : s.bindingWatchers[watcher]? = some call) :
      ScopeMove s (.pollBinding watcher)
        { s.setBindingWatcher watcher call .check with
          bindingChanges := some (s.bindingNotify.enable watcher) }
  | leaves {action watcher call point}
      (here : s.bindingWatchers[watcher]? = some call)
      (gone : point ≠ .parked) :
      ScopeMove s action
        { s.setBindingWatcher watcher call point with bindingChanges := s.release watcher }
  | starts :
      ScopeMove s .startGeneration
        { s with generations := s.generations ++ [⟨.readBinding, []⟩] }
  | captures {i gen point}
      (here : s.generations[i]? = some gen)
      (captured : s.capture gen.capture = some point) :
      ScopeMove s (.capture i)
        { s with generations := s.generations.set i { gen with capture := point } }
  | resolves {i gen baseline}
      (here : s.generations[i]? = some gen)
      (captured : gen.capture = .captured baseline) :
      ScopeMove s (.resolveProviderSnapshot i)
        { s with
          generations :=
            s.generations.set i
              { gen with resolves := gen.resolves ++ [.readBinding] } }
  | looksUpBinding {i resolve gen}
      (here : s.generations[i]? = some gen)
      (stands : gen.resolves[resolve]? = some .readBinding) :
      ScopeMove s (.lookup i resolve)
        { s with
          generations :=
            s.generations.set i
              { gen with resolves := gen.resolves.set resolve (.readSlot s.effectiveBinding) } }
  | looksUpSlot {i resolve gen binding m}
      (here : s.generations[i]? = some gen)
      (stands : gen.resolves[resolve]? = some (.readSlot binding))
      (found : s.managers[s.managerFor binding]? = some m) :
      ScopeMove s (.lookup i resolve)
        { s with
          managers :=
            s.managers.set (s.managerFor binding)
              { m with calls := m.calls ++ [⟨.snapshot, .checkWatch⟩] }
          generations :=
            s.generations.set i
              { gen with
                resolves :=
                  gen.resolves.set resolve
                    (.calling (s.managerFor binding)
                      m.calls.length) } }

namespace ScopeMove

variable {Arc Error : Type} [DecidableEq Arc]
  {s next : ScopeState Arc Error} {action : ScopeAction Arc Error}

theorem of_install (here : s.overrides[thread]? = some point)
    (installed : s.install thread point = some next) : ScopeMove s (.install thread) next := by
  cases point with
  | insert arc kind =>
    cases installed
    exact .inserts here
  | mutate kind =>
    cases installed
    exact .mutates here rfl
  | notify kind epoch =>
    cases installed
    exact .notifies here
  | returned binding => cases installed

theorem of_pollBinding (here : s.bindingWatchers[watcher]? = some call)
    (polled : s.pollBinding watcher call = some next) :
    ScopeMove s (.pollBinding watcher) next := by
  unfold ScopeState.pollBinding at polled
  cases point : call.point with
  | arm =>
    simp only [point] at polled
    cases polled
    exact .arms here
  | check =>
    simp only [point] at polled
    split at polled <;> rename_i seen <;> cases polled
    · exact .leaves here (by intro parks; cases parks)
    · exact .polls here fun _ => not_not.mp seen
  | parked =>
    simp only [point] at polled
    split at polled <;> cases polled
    exact .polls here (by intro parks; cases parks)
  | returned | dropped =>
    simp only [point] at polled
    cases polled

theorem of_lookup (here : s.generations[i]? = some gen)
    (stands : gen.resolves[resolve]? = some point)
    (found : s.lookup point = some (after, managers)) :
    ScopeMove s (.lookup i resolve)
      { s with
        managers := managers
        generations :=
          s.generations.set i
            { gen with resolves := gen.resolves.set resolve after } } := by
  cases point with
  | readBinding =>
    cases found
    exact .looksUpBinding here stands
  | readSlot binding =>
    simp only [ScopeState.lookup, Option.bind_eq_some_iff, Option.map_eq_some_iff] at found
    obtain ⟨m, there, called, h, same⟩ := found
    cases h
    cases same
    exact .looksUpSlot here stands there
  | calling _ _ => cases found

theorem of_step (h : s.step action = some next) : ScopeMove s action next := by
  cases action with
  | manager index operation =>
    simp only [ScopeState.step, Option.bind_eq_some_iff, Option.map_eq_some_iff] at h
    obtain ⟨manager, here, after, moved, rfl⟩ := h
    exact .manages here moved
  | installLocalSlot arc kind =>
    cases h
    exact .overrides
  | install thread =>
    simp only [ScopeState.step, Option.bind_eq_some_iff] at h
    obtain ⟨point, here, installed⟩ := h
    exact of_install here installed
  | bindingChangedFrom observed =>
    cases h
    exact .watches
  | pollBinding watcher =>
    simp only [ScopeState.step, Option.bind_eq_some_iff] at h
    obtain ⟨call, here, polled⟩ := h
    exact of_pollBinding here polled
  | dropBindingWatcher watcher =>
    simp only [ScopeState.step, Option.map_eq_some_iff] at h
    obtain ⟨call, here, rfl⟩ := h
    exact .leaves here (by intro parks; cases parks)
  | startGeneration =>
    cases h
    exact .starts
  | capture index =>
    simp only [ScopeState.step, Option.bind_eq_some_iff, Option.map_eq_some_iff] at h
    obtain ⟨generation, here, point, captured, rfl⟩ := h
    exact .captures here captured
  | resolveProviderSnapshot index =>
    simp only [ScopeState.step, Option.bind_eq_some_iff] at h
    obtain ⟨generation, here, resolved⟩ := h
    split at resolved
    · rename_i baseline captured
      cases resolved
      exact .resolves here captured
    · cases resolved
  | lookup index resolve =>
    simp only [ScopeState.step, Option.bind_eq_some_iff, Option.map_eq_some_iff, Prod.exists] at h
    obtain ⟨generation, here, point, stands, after, managers, found, rfl⟩ := h
    exact of_lookup here stands found

end ScopeMove

namespace ScopeState

variable {Arc Error : Type} [DecidableEq Arc]
  {s next : ScopeState Arc Error} {action : ScopeAction Arc Error}

/-- A manager of the scope takes at most one step at a time. -/
theorem manager_step (h : s.step action = some next) {i : Nat}
    {m : StateManager Arc Error} (here : s.managers[i]? = some m) :
    ∃ after, next.managers[i]? = some after ∧
      (after = m ∨ ∃ operation, m.step operation = some after) := by
  have others : ∀ {other : Nat} {before after : StateManager Arc Error}
      {operation : ManagerAction Arc Error},
      s.managers[other]? = some before →
      before.step operation = some after →
        ∃ moved, (s.managers.set other after)[i]? = some moved ∧ (moved = m ∨
            ∃ operation, m.step operation = some moved) := by
    intro other before after operation there moved
    by_cases same : other = i
    · subst same
      cases here.symm.trans there
      exact ⟨after, Threads.set_self here, .inr ⟨operation, moved⟩⟩
    · refine ⟨m, ?_, .inl rfl⟩
      rw [List.getElem?_set_ne same]
      exact here
  have move := ScopeMove.of_step h
  cases move with
  | manages there moved => exact others there moved
  | looksUpSlot _ _ found =>
    rename_i before _ _
    have called : before.step (.resolve .snapshot) = some
        { before with calls := before.calls ++ [⟨.snapshot, .checkWatch⟩] } := rfl
    exact others found called
  | inserts _ => exact ⟨m, Threads.concat_old here, .inl rfl⟩
  | _ => exact ⟨m, here, .inl rfl⟩

/-- What a fresh local slot has and every step of a manager keeps holds of every
manager. -/
theorem managers_step {holds : StateManager Arc Error → Prop}
    (inserted : ∀ arc, holds (.withArc arc))
    (kept : ∀ {manager after : StateManager Arc Error}
      {operation : ManagerAction Arc Error}, holds manager →
        manager.step operation = some after → holds after)
    (all : ∀ (i : Nat) (manager : StateManager Arc Error),
      s.managers[i]? = some manager → holds manager) (h : s.step action = some next) (i : Nat)
    (manager : StateManager Arc Error) (there : next.managers[i]? = some manager) :
    holds manager := by
  cases here : s.managers[i]? with
  | some before =>
    obtain ⟨after, same, moved⟩ := manager_step h here
    cases there.symm.trans same
    rcases moved with rfl | ⟨operation, moved⟩
    · exact all i _ here
    · exact kept (all i before here) moved
  | none =>
    -- Only an override adds a manager.
    have move := ScopeMove.of_step h
    cases move with
    | inserts _ =>
      rcases Threads.concat_cases there with there | ⟨_, rfl⟩
      · cases here.symm.trans there
      · exact inserted _
    | manages _ _ =>
      rcases Threads.set_cases there with ⟨rfl, rfl⟩ | ⟨_, there⟩
      · rename_i found _
        cases here.symm.trans found
      · cases here.symm.trans there
    | looksUpSlot _ _ found =>
      rcases Threads.set_cases there with ⟨rfl, rfl⟩ | ⟨_, there⟩
      · cases here.symm.trans found
      · cases here.symm.trans there
    | _ => cases here.symm.trans there

end ScopeState

end ServiceDaemon
