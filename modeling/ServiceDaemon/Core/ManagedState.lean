/-
Purpose: The tracked lock of a managed provider value: the write guard with its
  dirty flag and its three ways to publish, and the clients of one lock, who
  hold snapshots of the value while others write it.
Main exports: TrackedRwLock, GuardPoint, GuardAction
-/
import ServiceDaemon.Lib.ArcHeap
import ServiceDaemon.Lib.StepSystem

namespace ServiceDaemon

open AsyncLib StepSystem

/-!
`TrackedRwLock` keeps its value behind an `Arc` and publishes it into a watch
channel, from which snapshots are taken without the lock.  A publication is
three operations: the channel receives the new value, the value epoch advances,
and the waiters are notified.  Each of them is a step, because the channel, the
counter and the notify handle are shared with threads that do not hold the
lock.  What the guard does with `inner` between them is not visible to anyone.

The lock is generic in the type of the pointers.  The systems below decide what
a pointer is: an address with counted owners here, any `Arc` elsewhere.

[SRC core/managed_state.rs]
-/

/-- Where the holder of the write guard is. -/
inductive GuardPoint where
  | held (isDirty : Bool)
  /-- the channel has the new value; `closing` in `drop` -/
  | replaced (closing : Bool)
  /-- the epoch has advanced, the waiters are not notified yet -/
  | advanced (closing : Bool)
deriving Repr, DecidableEq

/-- `TrackedRwLock` without the handles it shares with its manager.  `guard` is
the write guard, when one is held. -/
structure TrackedRwLock (Arc : Type) where
  inner : Arc
  watchTx : Arc
  guard : Option GuardPoint
deriving Repr, DecidableEq

/-- The operations on a write guard.  `fetchAdd` and `notifyWaiters` go on with
a publication. -/
inductive GuardAction (Arc : Type) where
  | write
  | deref
  /-- `made` is the pointer `Arc::make_mut` leaves in the lock -/
  | derefMut (made : Arc)
  | commit
  | publish (value : Arc)
  | drop
  | fetchAdd
  | notifyWaiters
deriving Repr, DecidableEq

/-- What an operation does outside the lock. -/
inductive GuardEffect where
  | nothing
  | sent
  | epochAdvanced
  | waitersNotified
deriving Repr, DecidableEq

namespace TrackedRwLock

variable {Arc : Type}

/-- `TokioRwLock::new(val)` beside `watch::channel(initial_arc)`. -/
def new (arc : Arc) : TrackedRwLock Arc :=
  { inner := arc, watchTx := arc, guard := none }

/-- The first operation of `publish_current`: send the current pointer. -/
def publishCurrent (lock : TrackedRwLock Arc) (closing : Bool) :
    TrackedRwLock Arc :=
  { lock with watchTx := lock.inner, guard := some (.replaced closing) }

/-- One operation on the guard. -/
def guardStep (lock : TrackedRwLock Arc) :
    GuardAction Arc → Option (TrackedRwLock Arc × GuardEffect)
  | .write =>
    match lock.guard with
    | none => some ({ lock with guard := some (.held false) }, .nothing)
    | some _ => none
  | .deref =>
    match lock.guard with
    | some (.held _) => some (lock, .nothing)
    | _ => none
  | .derefMut made =>
    match lock.guard with
    | some (.held _) =>
      some
        ({ lock with inner := made, guard := some (.held true) }, .nothing)
    | _ => none
  | .commit =>
    match lock.guard with
    | some (.held true) => some (lock.publishCurrent false, .sent)
    | some (.held false) => some (lock, .nothing)
    | _ => none
  | .publish value =>
    match lock.guard with
    | some (.held _) =>
      some
        ({ inner := value, watchTx := value, guard := some (.replaced false) }, .sent)
    | _ => none
  | .drop =>
    match lock.guard with
    | some (.held true) => some (lock.publishCurrent true, .sent)
    | some (.held false) => some ({ lock with guard := none }, .nothing)
    | _ => none
  | .fetchAdd =>
    match lock.guard with
    | some (.replaced closing) =>
      some
        ({ lock with guard := some (.advanced closing) }, .epochAdvanced)
    | _ => none
  -- The publication ends: `is_dirty = false`, and `drop` returns.
  | .notifyWaiters =>
    match lock.guard with
    | some (.advanced closing) =>
      some
        ({ lock with guard := if closing then none else some (.held false) }, .waitersNotified)
    | _ => none

end TrackedRwLock

/-- A publication is between its first and its last operation. -/
def GuardPoint.publishing : GuardPoint → Bool
  | .held _ => false
  | .replaced _ | .advanced _ => true

/-- The value is sent and the epoch is behind. -/
def GuardPoint.isReplaced : GuardPoint → Bool
  | .replaced _ => true
  | .held _ | .advanced _ => false

/-- The epoch has advanced and the notification is to come. -/
def GuardPoint.isAdvanced : GuardPoint → Bool
  | .advanced _ => true
  | .held _ | .replaced _ => false

/-! ### What a guard operation can do -/

/-- The moves of a write guard. -/
inductive GuardMove {Arc : Type} (lock : TrackedRwLock Arc) :
    GuardAction Arc → TrackedRwLock Arc → GuardEffect → Prop where
  | acquires (free : lock.guard = none) :
      GuardMove lock .write { lock with guard := some (.held false) } .nothing
  | reads {isDirty} (held : lock.guard = some (.held isDirty)) :
      GuardMove lock .deref lock .nothing
  | derefs {isDirty made} (held : lock.guard = some (.held isDirty)) :
      GuardMove lock (.derefMut made)
        { lock with inner := made, guard := some (.held true) } .nothing
  | commits (dirty : lock.guard = some (.held true)) :
      GuardMove lock .commit (lock.publishCurrent false) .sent
  | commitsClean (clean : lock.guard = some (.held false)) :
      GuardMove lock .commit lock .nothing
  | publishes {isDirty value} (held : lock.guard = some (.held isDirty)) :
      GuardMove lock (.publish value)
        { inner := value, watchTx := value, guard := some (.replaced false) }
        .sent
  | drops (dirty : lock.guard = some (.held true)) :
      GuardMove lock .drop (lock.publishCurrent true) .sent
  | dropsClean (clean : lock.guard = some (.held false)) :
      GuardMove lock .drop { lock with guard := none } .nothing
  | advances {closing} (replaced : lock.guard = some (.replaced closing)) :
      GuardMove lock .fetchAdd
        { lock with guard := some (.advanced closing) } .epochAdvanced
  | notifies {closing} (advanced : lock.guard = some (.advanced closing)) :
      GuardMove lock .notifyWaiters
        { lock with guard := if closing then none else some (.held false) }
        .waitersNotified

theorem GuardMove.of_guardStep {Arc : Type} {lock after : TrackedRwLock Arc} {a : GuardAction Arc}
    {effect : GuardEffect} (h : lock.guardStep a = some (after, effect)) :
    GuardMove lock a after effect := by
  cases a <;> simp only [TrackedRwLock.guardStep] at h <;>
    split at h <;> rename_i here <;> cases h
  · exact .acquires here
  · exact .reads here
  · exact .derefs here
  · exact .commits here
  · exact .commitsClean here
  · exact .publishes here
  · exact .drops here
  · exact .dropsClean here
  · exact .advances here
  · exact .notifies here

theorem GuardMove.watchTx_eq {Arc : Type} {lock after : TrackedRwLock Arc} {a : GuardAction Arc}
    {effect : GuardEffect} (move : GuardMove lock a after effect) (unsent : effect ≠ .sent) :
    after.watchTx = lock.watchTx := by
  cases move with
  | commits _ | publishes _ | drops _ => exact absurd rfl unsent
  | _ => rfl

/-! ### The clients of one lock -/

/-- One lock over counted allocations.  `handles` are the pointers that clients
hold: snapshots, and allocations of their own.  The last two fields are history:
the pointer and the value of the last publication, the initial one included, and
the number of publications since. -/
structure LockState (Value : Type) where
  heap : ArcHeap Value
  lock : TrackedRwLock Nat
  valueEpoch : UInt64
  handles : List Nat
  published : Nat × Option Value
  publications : Nat

/-- The operations on the lock and on the pointers of its clients. -/
inductive LockAction (Value : Type) where
  | write
  | deref
  | derefMut (update : Value → Value)
  | commit
  | publish (arc : Nat)
  | drop
  | fetchAdd
  | notifyWaiters
  /-- `watch_rx.borrow().clone()` -/
  | snapshot
  | newArc (value : Value)
  | cloneArc (arc : Nat)
  | dropArc (arc : Nat)

namespace LockState

variable {Value : Type}

/-- A lock made around `value`, of which `shared` snapshots exist already. -/
def new (value : Value) (epoch : UInt64) (shared : Nat) : LockState Value :=
  { heap := ⟨[value]⟩
    lock := .new 0
    valueEpoch := epoch
    handles := List.replicate shared 0
    published := (0, some value)
    publications := 0 }

/-- The strong pointers to the allocation of the lock, other than its own. -/
def otherPointers (state : LockState Value) : Nat :=
  state.handles.count state.lock.inner + if state.lock.watchTx = state.lock.inner then 1 else 0

/-- The lock moves to `lock`, with an effect on the shared handles. -/
def applyEffect (state : LockState Value) (lock : TrackedRwLock Nat) :
    GuardEffect → LockState Value
  | .nothing | .waitersNotified => { state with lock := lock }
  | .epochAdvanced =>
    { state with lock := lock, valueEpoch := state.valueEpoch + 1 }
  | .sent =>
    { state with
      lock := lock
      published := (lock.watchTx, state.heap.read lock.watchTx)
      publications := state.publications + 1 }

/-- Apply an operation of the guard. -/
def guard (state : LockState Value) (action : GuardAction Nat) :
    Option (LockState Value) :=
  (state.lock.guardStep action).map fun (lock, effect) =>
    state.applyEffect lock effect

end LockState

namespace TrackedLock

variable {Value : Type}

def step (state : LockState Value) :
    LockAction Value → Option (LockState Value)
  | .write => state.guard .write
  | .deref => state.guard .deref
  | .derefMut update =>
    let made :=
      state.heap.makeMut state.lock.inner state.otherPointers update
    (state.guard (.derefMut made.2)).map fun next =>
      { next with heap := made.1 }
  | .commit => state.guard .commit
  -- The pointer of the caller moves into the lock and the channel.
  | .publish arc =>
    if arc ∈ state.handles then
      (state.guard (.publish arc)).map fun next =>
        { next with handles := state.handles.erase arc }
    else none
  | .drop => state.guard .drop
  | .fetchAdd => state.guard .fetchAdd
  | .notifyWaiters => state.guard .notifyWaiters
  | .snapshot =>
    some { state with handles := state.lock.watchTx :: state.handles }
  | .newArc value =>
    let made := state.heap.alloc value
    some { state with heap := made.1, handles := made.2 :: state.handles }
  | .cloneArc arc =>
    if arc ∈ state.handles then
      some { state with handles := arc :: state.handles }
    else none
  | .dropArc arc =>
    if arc ∈ state.handles then
      some { state with handles := state.handles.erase arc }
    else none

end TrackedLock

end ServiceDaemon
