/-
Purpose: One slot of a managed provider value: the two once-cells of a
  `StateManager`, the calls that fill and read them, the calls that wait for a
  change of the value, and the sessions on its tracked lock.
Main exports: StateManager, ResolveCall, ChangedCall
-/
import ServiceDaemon.Lib.SyncCells
import ServiceDaemon.Lib.Threads
import ServiceDaemon.Core.ManagedState

namespace ServiceDaemon

open AsyncLib StepSystem

/-!
A `StateManager` holds its value in two places.  `snapshot_cache` is filled by
`resolve_snapshot_result`; `lock` is filled by `resolve_rwlock_result`, together
with the watch channel of the tracked lock, whose receiver is `watch_rx`.  Each
of the two calls looks at the other's cell once, without waiting.

A call moves by one operation on a shared cell at a time.  What its `init`
closure returns, and when, is up to the schedule: the call waits at `awaitInit`
or `lockInit` for as long as the schedule likes.

[SRC core/managed_state.rs]
-/

/-- The three fallible `resolve_…_result` entry points. -/
inductive ResolveKind where
  | snapshot
  | rwlock
  | mutex
deriving Repr, DecidableEq

/-- What a successful call returns. -/
inductive Resolved (Arc : Type) where
  | snapshot (arc : Arc)
  | rwlock
  | mutex
deriving Repr, DecidableEq

/-- Where a `resolve_…_result` call is.  The points of `resolve_mutex_result`
are those of the `resolve_rwlock_result` call it makes. -/
inductive ResolvePoint (Arc Error : Type) where
  /-- `resolve_snapshot_result`: before `watch_rx.get()` -/
  | checkWatch
  /-- before `snapshot_cache.get()` -/
  | checkCache
  /-- at `snapshot_cache.get_or_try_init` -/
  | enterCache
  | awaitInit
  | setCache (arc : Arc)
  /-- `resolve_rwlock_result`: at `lock.get_or_try_init` -/
  | enterLock
  /-- the initialiser, before `snapshot_cache.get()` -/
  | lockSeed
  | lockInit
  /-- before `get_notify().await` and `epoch_counter()` -/
  | lockNotify (arc : Arc)
  /-- before `watch::channel` and `watch_rx.set` -/
  | lockChannel (arc : Arc)
  | setLock
  | returned (result : Except Error (Resolved Arc))

/-- The first point of a call. -/
def ResolveKind.entry {Arc Error : Type} :
    ResolveKind → ResolvePoint Arc Error
  | .snapshot => .checkWatch
  | .rwlock | .mutex => .enterLock

/-- What a call that has the tracked lock returns. -/
def ResolveKind.locked {Arc : Type} : ResolveKind → Resolved Arc
  | .snapshot | .rwlock => .rwlock
  | .mutex => .mutex

/-- One call. -/
structure ResolveCall (Arc Error : Type) where
  kind : ResolveKind
  point : ResolvePoint Arc Error

/-- Where a `changed_since` call is. -/
inductive ChangedPoint where
  | check
  /-- before `get_notify`, `notified` and `enable` -/
  | arm
  /-- registered, before the second look at the epoch -/
  | recheck
  | parked
  | returned (epoch : UInt64)
  | dropped
deriving Repr, DecidableEq

/-- One `changed_since` call. -/
structure ChangedCall where
  observed : UInt64
  point : ChangedPoint
deriving Repr, DecidableEq

/-- A `StateManager` with the calls made on it.  `tracked` is the tracked lock
with its channel, from the moment `watch_rx` has the receiver; clients get at it
once `lock` is set.  `change_notify` and `value_epoch` are created on first use,
by whoever comes first; their initial value stands for them until then.  The
last three fields are history. -/
structure StateManager (Arc Error : Type) where
  lock : OnceCell Unit
  snapshotCache : OnceCell Arc
  tracked : Option (TrackedRwLock Arc)
  changeNotify : Notify
  valueEpoch : UInt64
  calls : List (ResolveCall Arc Error)
  watchers : List ChangedCall
  /-- what the successful `init` closures returned -/
  completed : List Arc
  seed : Option Arc
  published : Bool

/-- What can happen to a manager. -/
inductive ManagerAction (Arc Error : Type) where
  | resolve (kind : ResolveKind)
  /-- the call's next operation -/
  | advance (caller : Nat)
  | initReturns (caller : Nat) (result : Except Error Arc)
  | changedSince (observed : UInt64)
  | poll (watcher : Nat)
  /-- the future of a `changed_since` call is dropped -/
  | dropWatcher (watcher : Nat)
  | guard (action : GuardAction Arc)

namespace StateManager

variable {Arc Error : Type}

def new : StateManager Arc Error :=
  { lock := .empty
    snapshotCache := .empty
    tracked := none
    changeNotify := .new
    valueEpoch := 0
    calls := []
    watchers := []
    completed := []
    seed := none
    published := false }

def withArc (arc : Arc) : StateManager Arc Error :=
  { (new : StateManager Arc Error) with snapshotCache := .set arc }

/-- Move a call to `point`. -/
def setPoint (manager : StateManager Arc Error) (caller : Nat)
    (call : ResolveCall Arc Error) (point : ResolvePoint Arc Error) :
    StateManager Arc Error :=
  { manager with calls := manager.calls.set caller { call with point := point } }

/-- The next operation of a call, unless it waits. -/
def advance (manager : StateManager Arc Error) (caller : Nat)
    (call : ResolveCall Arc Error) : Option (StateManager Arc Error) :=
  let goto := manager.setPoint caller call
  let done := fun arc => goto (.returned (.ok (.snapshot arc)))
  match call.point with
  | .checkWatch =>
    match manager.tracked with
    | some tracked => some (done tracked.watchTx)
    | none => some (goto .checkCache)
  | .checkCache =>
    match manager.snapshotCache.get with
    | some snapshot => some (done snapshot)
    | none => some (goto .enterCache)
  | .enterCache =>
    match manager.snapshotCache with
    | .set snapshot => some (done snapshot)
    | .empty =>
      some
        { goto .awaitInit with snapshotCache := .initialising caller }
    | .initialising _ => none
  | .setCache arc => some { done arc with snapshotCache := .set arc }
  | .enterLock =>
    match manager.lock with
    | .set _ =>
      some (goto (.returned (.ok call.kind.locked)))
    | .empty => some { goto .lockSeed with lock := .initialising caller }
    | .initialising _ => none
  | .lockSeed =>
    match manager.snapshotCache.get with
    | some snapshot => some (goto (.lockNotify snapshot))
    | none => some (goto .lockInit)
  | .lockNotify arc => some (goto (.lockChannel arc))
  -- Only an initialiser of `lock` sets `watch_rx`, so the cell is empty here.
  | .lockChannel arc =>
    some
      { goto .setLock with tracked := some (.new arc), seed := some arc }
  | .setLock =>
    some
      { goto (.returned (.ok call.kind.locked)) with lock := .set () }
  | .awaitInit | .lockInit | .returned _ => none

/-- The `init` closure of a call returns. -/
def initReturns (manager : StateManager Arc Error) (caller : Nat)
    (call : ResolveCall Arc Error) (result : Except Error Arc) :
    Option (StateManager Arc Error) :=
  match call.point, result with
  | .awaitInit, .ok arc =>
    some
      { manager.setPoint caller call (.setCache arc) with completed := manager.completed ++ [arc] }
  | .awaitInit, .error error =>
    some
      { manager.setPoint caller call (.returned (.error error)) with snapshotCache := .empty }
  | .lockInit, .ok arc =>
    some
      { manager.setPoint caller call (.lockNotify arc) with
        completed := manager.completed ++ [arc] }
  | .lockInit, .error error =>
    some
      { manager.setPoint caller call (.returned (.error error)) with lock := .empty }
  | _, _ => none

/-- Move a watcher to `point`. -/
def setWatcher (manager : StateManager Arc Error) (watcher : Nat)
    (call : ChangedCall) (point : ChangedPoint) : StateManager Arc Error :=
  { manager with watchers := manager.watchers.set watcher { call with point := point } }

/-- The next operation of a `changed_since` call, unless it is parked. -/
def poll (manager : StateManager Arc Error) (watcher : Nat)
    (call : ChangedCall) : Option (StateManager Arc Error) :=
  let goto := manager.setWatcher watcher call
  match call.point with
  | .check =>
    if manager.valueEpoch ≠ call.observed then
      some (goto (.returned manager.valueEpoch))
    else some (goto .arm)
  | .arm =>
    some
      { goto .recheck with changeNotify := manager.changeNotify.enable watcher }
  | .recheck =>
    if manager.valueEpoch ≠ call.observed then
      some
        { goto (.returned manager.valueEpoch) with
          changeNotify := manager.changeNotify.remove watcher }
    else some (goto .parked)
  | .parked =>
    if manager.changeNotify.isWaiting watcher then none
    else some (goto .check)
  | .returned _ | .dropped => none

/-- The tracked lock moves to `after`, with an effect on the shared handles. -/
def applyEffect (manager : StateManager Arc Error)
    (after : TrackedRwLock Arc) : GuardEffect → StateManager Arc Error
  | .nothing => { manager with tracked := some after }
  | .sent => { manager with tracked := some after, published := true }
  | .epochAdvanced =>
    { manager with tracked := some after, valueEpoch := manager.valueEpoch + 1 }
  | .waitersNotified =>
    { manager with tracked := some after, changeNotify := manager.changeNotify.notifyWaiters }

section

variable (m : StateManager Arc Error) (after : TrackedRwLock Arc)
  (effect : GuardEffect)

@[simp] theorem applyEffect_lock :
    (m.applyEffect after effect).lock = m.lock := by
  cases effect <;> rfl

@[simp] theorem applyEffect_snapshotCache :
    (m.applyEffect after effect).snapshotCache = m.snapshotCache := by
  cases effect <;> rfl

@[simp] theorem applyEffect_tracked :
    (m.applyEffect after effect).tracked = some after := by
  cases effect <;> rfl

@[simp] theorem applyEffect_calls :
    (m.applyEffect after effect).calls = m.calls := by
  cases effect <;> rfl

end

/-- Apply an operation of a write guard on the tracked lock. -/
def guard (manager : StateManager Arc Error) (tracked : TrackedRwLock Arc)
    (action : GuardAction Arc) : Option (StateManager Arc Error) :=
  (tracked.guardStep action).map fun (after, effect) =>
    manager.applyEffect after effect

def step (manager : StateManager Arc Error) :
    ManagerAction Arc Error → Option (StateManager Arc Error)
  | .resolve kind =>
    some
      { manager with calls := manager.calls ++ [⟨kind, kind.entry⟩] }
  | .advance caller =>
    manager.calls[caller]?.bind (manager.advance caller)
  | .initReturns caller result =>
    manager.calls[caller]?.bind fun call =>
      manager.initReturns caller call result
  | .changedSince observed =>
    some
      { manager with watchers := manager.watchers ++ [⟨observed, .check⟩] }
  | .poll watcher =>
    manager.watchers[watcher]?.bind (manager.poll watcher)
  | .dropWatcher watcher =>
    manager.watchers[watcher]?.map fun call =>
      { manager.setWatcher watcher call .dropped with
        changeNotify := manager.changeNotify.remove watcher }
  | .guard action =>
    match manager.lock, manager.tracked with
    | .set _, some tracked => manager.guard tracked action
    | _, _ => none

/-- What `resolve_snapshot_result` returns in one go, if it need not
initialise. -/
def current (manager : StateManager Arc Error) : Option Arc :=
  match manager.tracked with
  | some tracked => some tracked.watchTx
  | none => manager.snapshotCache.get

/-- Where the holder of the write guard is, if there is one. -/
def guardPoint (manager : StateManager Arc Error) : Option GuardPoint :=
  manager.tracked.bind TrackedRwLock.guard

end StateManager

/-! ### What an action can do -/

/-- The moves of a manager: one constructor for each branch of the calls. -/
inductive ManagerMove {Arc Error : Type} (m : StateManager Arc Error) :
    ManagerAction Arc Error → StateManager Arc Error → Prop where
  | begins {kind} :
      ManagerMove m (.resolve kind)
        { m with calls := m.calls ++ [⟨kind, kind.entry⟩] }
  | watchFound {c call tracked} (here : m.calls[c]? = some call)
      (point : call.point = .checkWatch)
      (found : m.tracked = some tracked) :
      ManagerMove m (.advance c)
        (m.setPoint c call (.returned (.ok (.snapshot tracked.watchTx))))
  | watchMissing {c call} (here : m.calls[c]? = some call)
      (point : call.point = .checkWatch) (missing : m.tracked = none) :
      ManagerMove m (.advance c)
        (m.setPoint c call .checkCache)
  | cacheFound {c call arc} (here : m.calls[c]? = some call)
      (point : call.point = .checkCache ∨ call.point = .enterCache)
      (found : m.snapshotCache = .set arc) :
      ManagerMove m (.advance c)
        (m.setPoint c call (.returned (.ok (.snapshot arc))))
  | cacheMissing {c call} (here : m.calls[c]? = some call)
      (point : call.point = .checkCache)
      (missing : m.snapshotCache.get = none) :
      ManagerMove m (.advance c)
        (m.setPoint c call .enterCache)
  | cacheTaken {c call} (here : m.calls[c]? = some call)
      (point : call.point = .enterCache)
      (free : m.snapshotCache = .empty) :
      ManagerMove m (.advance c)
        { m.setPoint c call .awaitInit with snapshotCache := .initialising c }
  | cacheInitialised {c call arc}
      (here : m.calls[c]? = some call)
      (point : call.point = .awaitInit) :
      ManagerMove m (.initReturns c (.ok arc))
        { m.setPoint c call (.setCache arc) with completed := m.completed ++ [arc] }
  | cacheFailed {c call error} (here : m.calls[c]? = some call)
      (point : call.point = .awaitInit) :
      ManagerMove m (.initReturns c (.error error))
        { m.setPoint c call (.returned (.error error)) with snapshotCache := .empty }
  | cacheSet {c call arc} (here : m.calls[c]? = some call)
      (point : call.point = .setCache arc) :
      ManagerMove m (.advance c)
        { m.setPoint c call
            (.returned (.ok (.snapshot arc))) with
          snapshotCache := .set arc }
  | lockFound {c call} (here : m.calls[c]? = some call)
      (point : call.point = .enterLock) (found : m.lock = .set ()) :
      ManagerMove m (.advance c)
        (m.setPoint c call (.returned (.ok call.kind.locked)))
  | lockTaken {c call} (here : m.calls[c]? = some call)
      (point : call.point = .enterLock) (free : m.lock = .empty) :
      ManagerMove m (.advance c)
        { m.setPoint c call .lockSeed with lock := .initialising c }
  | lockSeeded {c call arc} (here : m.calls[c]? = some call)
      (point : call.point = .lockSeed)
      (found : m.snapshotCache = .set arc) :
      ManagerMove m (.advance c)
        (m.setPoint c call (.lockNotify arc))
  | lockUnseeded {c call} (here : m.calls[c]? = some call)
      (point : call.point = .lockSeed)
      (missing : m.snapshotCache.get = none) :
      ManagerMove m (.advance c)
        (m.setPoint c call .lockInit)
  | lockInitialised {c call arc}
      (here : m.calls[c]? = some call)
      (point : call.point = .lockInit) :
      ManagerMove m (.initReturns c (.ok arc))
        { m.setPoint c call (.lockNotify arc) with completed := m.completed ++ [arc] }
  | lockFailed {c call error} (here : m.calls[c]? = some call)
      (point : call.point = .lockInit) :
      ManagerMove m (.initReturns c (.error error))
        { m.setPoint c call (.returned (.error error)) with lock := .empty }
  | lockNotified {c call arc} (here : m.calls[c]? = some call)
      (point : call.point = .lockNotify arc) :
      ManagerMove m (.advance c)
        (m.setPoint c call (.lockChannel arc))
  | channelMade {c call arc} (here : m.calls[c]? = some call)
      (point : call.point = .lockChannel arc) :
      ManagerMove m (.advance c)
        { m.setPoint c call .setLock with tracked := some (.new arc), seed := some arc }
  | lockSet {c call} (here : m.calls[c]? = some call)
      (point : call.point = .setLock) :
      ManagerMove m (.advance c)
        { m.setPoint c call
            (.returned (.ok call.kind.locked)) with
          lock := .set () }
  | watches {observed} :
      ManagerMove m (.changedSince observed)
        { m with watchers := m.watchers ++ [⟨observed, .check⟩] }
  /-- a watcher moves without touching the notification -/
  | polls {watcher call point} (here : m.watchers[watcher]? = some call)
      (parks : point = .parked → m.valueEpoch = call.observed) :
      ManagerMove m (.poll watcher)
        (m.setWatcher watcher call point)
  | arms {watcher call} (here : m.watchers[watcher]? = some call) :
      ManagerMove m (.poll watcher)
        { m.setWatcher watcher call .recheck with changeNotify := m.changeNotify.enable watcher }
  | leaves {action watcher call point}
      (here : m.watchers[watcher]? = some call) (gone : point ≠ .parked) :
      ManagerMove m action
        { m.setWatcher watcher call point with changeNotify := m.changeNotify.remove watcher }
  | guards {action tracked after effect} (opened : m.lock = .set ())
      (found : m.tracked = some tracked)
      (move : GuardMove tracked action after effect) :
      ManagerMove m (.guard action) (m.applyEffect after effect)

namespace ManagerMove

variable {Arc Error : Type} {m next : StateManager Arc Error}
  {a : ManagerAction Arc Error}

theorem of_advance (here : m.calls[c]? = some call)
    (advanced : m.advance c call = some next) : ManagerMove m (.advance c) next := by
  unfold StateManager.advance at advanced
  cases point : call.point with
  | checkWatch =>
    simp only [point] at advanced
    split at advanced <;> rename_i seen <;> cases advanced
    · exact .watchFound here point seen
    · exact .watchMissing here point seen
  | checkCache =>
    simp only [point] at advanced
    split at advanced <;> rename_i seen <;> cases advanced
    · exact .cacheFound here (.inl point) (OnceCell.get_eq_some.mp seen)
    · exact .cacheMissing here point seen
  | enterCache =>
    simp only [point] at advanced
    split at advanced <;> rename_i seen <;> cases advanced
    · exact .cacheFound here (.inr point) seen
    · exact .cacheTaken here point seen
  | setCache arc =>
    simp only [point] at advanced
    cases advanced
    exact .cacheSet here point
  | enterLock =>
    simp only [point] at advanced
    split at advanced <;> rename_i seen <;> cases advanced
    · exact .lockFound here point seen
    · exact .lockTaken here point seen
  | lockSeed =>
    simp only [point] at advanced
    split at advanced <;> rename_i seen <;> cases advanced
    · exact .lockSeeded here point (OnceCell.get_eq_some.mp seen)
    · exact .lockUnseeded here point seen
  | lockNotify arc =>
    simp only [point] at advanced
    cases advanced
    exact .lockNotified here point
  | lockChannel arc =>
    simp only [point] at advanced
    cases advanced
    exact .channelMade here point
  | setLock =>
    simp only [point] at advanced
    cases advanced
    exact .lockSet here point
  | awaitInit | lockInit | returned _ =>
    simp only [point] at advanced
    cases advanced

theorem of_initReturns (here : m.calls[c]? = some call)
    (returns : m.initReturns c call res = some next) : ManagerMove m (.initReturns c res) next := by
  unfold StateManager.initReturns at returns
  split at returns <;> rename_i point <;> cases returns
  · exact .cacheInitialised here point
  · exact .cacheFailed here point
  · exact .lockInitialised here point
  · exact .lockFailed here point

theorem of_poll (here : m.watchers[watcher]? = some call)
    (polled : m.poll watcher call = some next) : ManagerMove m (.poll watcher) next := by
  unfold StateManager.poll at polled
  cases point : call.point with
  | check =>
    simp only [point] at polled
    split at polled <;> cases polled
    · exact .polls here (by intro parks; cases parks)
    · exact .polls here (by intro parks; cases parks)
  | arm =>
    simp only [point] at polled
    cases polled
    exact .arms here
  | recheck =>
    simp only [point] at polled
    split at polled <;> rename_i seen <;> cases polled
    · exact .leaves here (by intro parks; cases parks)
    · exact .polls here fun _ => not_not.mp seen
  | parked =>
    simp only [point] at polled
    split at polled <;> cases polled
    exact .polls here (by intro parks; cases parks)
  | returned _ | dropped =>
    simp only [point] at polled
    cases polled

theorem of_step (h : m.step a = some next) : ManagerMove m a next := by
  cases a with
  | resolve kind =>
    cases h
    exact .begins
  | advance c =>
    simp only [StateManager.step, Option.bind_eq_some_iff] at h
    obtain ⟨call, here, advanced⟩ := h
    exact of_advance here advanced
  | initReturns c res =>
    simp only [StateManager.step, Option.bind_eq_some_iff] at h
    obtain ⟨call, here, returns⟩ := h
    exact of_initReturns here returns
  | changedSince observed =>
    cases h
    exact .watches
  | poll watcher =>
    simp only [StateManager.step, Option.bind_eq_some_iff] at h
    obtain ⟨call, here, polled⟩ := h
    exact of_poll here polled
  | dropWatcher watcher =>
    simp only [StateManager.step, Option.map_eq_some_iff] at h
    obtain ⟨call, here, rfl⟩ := h
    exact .leaves here (by intro parks; cases parks)
  | guard operation =>
    simp only [StateManager.step] at h
    split at h
    · rename_i opened found
      simp only [StateManager.guard, Option.map_eq_some_iff, Prod.exists] at h
      obtain ⟨after, effect, moved, rfl⟩ := h
      exact .guards opened found (.of_guardStep moved)
    · cases h

end ManagerMove

end ServiceDaemon
