/-
Purpose: The write guard of a tracked lock publishes exactly the dirty states,
  and no write reaches an `Arc` that a client has been given.
Main exports: LockMove, Published, Counted, guard_publishes_dirty
-/
import ServiceDaemon.Core.ManagedState

namespace ServiceDaemon

open AsyncLib StepSystem ArcHeap TrackedLock

variable {Value : Type} {s next : LockState Value}
  {action : LockAction Value}

/-! ### What an operation can do -/

/-- The publications of `commit` and `drop`. -/
def LockState.sends (s : LockState Value) (closing : Bool) :
    LockState Value :=
  { s with
    lock := s.lock.publishCurrent closing
    published := (s.lock.inner, s.heap.read s.lock.inner)
    publications := s.publications + 1 }

/-- The moves of the clients of one lock. -/
inductive LockMove (s : LockState Value) :
    LockAction Value → LockState Value → Prop where
  | acquires (free : s.lock.guard = none) :
      LockMove s .write
        { s with lock := { s.lock with guard := some (.held false) } }
  | reads : LockMove s .deref s
  | derefs {update isDirty} (held : s.lock.guard = some (.held isDirty)) :
      LockMove s (.derefMut update)
        { s with
          heap :=
            (s.heap.makeMut s.lock.inner s.otherPointers
              update).1
          lock :=
            { s.lock with
              inner :=
                (s.heap.makeMut s.lock.inner s.otherPointers
                  update).2
              guard := some (.held true) } }
  | commits (dirty : s.lock.guard = some (.held true)) :
      LockMove s .commit (s.sends false)
  | commitsClean : LockMove s .commit s
  | publishes {arc isDirty} (owned : arc ∈ s.handles)
      (held : s.lock.guard = some (.held isDirty)) :
      LockMove s (.publish arc)
        { s with
          lock :=
            { inner := arc, watchTx := arc, guard := some (.replaced false) }
          handles := s.handles.erase arc
          published := (arc, s.heap.read arc)
          publications := s.publications + 1 }
  | drops (dirty : s.lock.guard = some (.held true)) :
      LockMove s .drop (s.sends true)
  | dropsClean (clean : s.lock.guard = some (.held false)) :
      LockMove s .drop
        { s with lock := { s.lock with guard := none } }
  | advances {closing}
      (replaced : s.lock.guard = some (.replaced closing)) :
      LockMove s .fetchAdd
        { s with
          lock := { s.lock with guard := some (.advanced closing) }
          valueEpoch := s.valueEpoch + 1 }
  | notifies {closing}
      (advanced : s.lock.guard = some (.advanced closing)) :
      LockMove s .notifyWaiters
        { s with lock := { s.lock with guard := if closing then none else some (.held false) } }
  | takes :
      LockMove s .snapshot
        { s with handles := s.lock.watchTx :: s.handles }
  | allocates {value} :
      LockMove s (.newArc value)
        { s with heap := (s.heap.alloc value).1, handles := s.heap.size :: s.handles }
  | clones {arc} (owned : arc ∈ s.handles) :
      LockMove s (.cloneArc arc)
        { s with handles := arc :: s.handles }
  | forgets {arc} :
      LockMove s (.dropArc arc)
        { s with handles := s.handles.erase arc }

theorem LockMove.of_step (h : step s action = some next) : LockMove s action next := by
  have guarded : ∀ {operation : GuardAction Nat} {after : LockState Value},
      s.guard operation = some after → ∃ lock effect, GuardMove s.lock operation lock effect ∧
          after = s.applyEffect lock effect := by
    intro operation after applied
    simp only [LockState.guard, Option.map_eq_some_iff, Prod.exists] at applied
    obtain ⟨lock, effect, moved, rfl⟩ := applied
    exact ⟨lock, effect, .of_guardStep moved, rfl⟩
  cases action with
  | write =>
    obtain ⟨lock, effect, move, rfl⟩ := guarded h
    cases move with
    | acquires free => exact .acquires free
  | deref =>
    obtain ⟨lock, effect, move, rfl⟩ := guarded h
    cases move
    exact .reads
  | derefMut update =>
    simp only [step, Option.map_eq_some_iff] at h
    obtain ⟨after, applied, rfl⟩ := h
    obtain ⟨lock, effect, move, rfl⟩ := guarded applied
    cases move with
    | derefs held => exact .derefs held
  | commit =>
    obtain ⟨lock, effect, move, rfl⟩ := guarded h
    cases move with
    | commits dirty => exact .commits dirty
    | commitsClean clean => exact .commitsClean
  | publish arc =>
    simp only [step] at h
    split at h
    · rename_i owned
      simp only [Option.map_eq_some_iff] at h
      obtain ⟨after, applied, rfl⟩ := h
      obtain ⟨lock, effect, move, rfl⟩ := guarded applied
      cases move with
      | publishes held => exact .publishes owned held
    · cases h
  | drop =>
    obtain ⟨lock, effect, move, rfl⟩ := guarded h
    cases move with
    | drops dirty => exact .drops dirty
    | dropsClean clean => exact .dropsClean clean
  | fetchAdd =>
    obtain ⟨lock, effect, move, rfl⟩ := guarded h
    cases move with
    | advances replaced => exact .advances replaced
  | notifyWaiters =>
    obtain ⟨lock, effect, move, rfl⟩ := guarded h
    cases move with
    | notifies advanced => exact .notifies advanced
  | snapshot =>
    cases h
    exact .takes
  | newArc value =>
    cases h
    exact .allocates
  | cloneArc arc =>
    simp only [step] at h
    split at h
    · rename_i owned
      cases h
      exact .clones owned
    · cases h
  | dropArc arc =>
    simp only [step] at h
    split at h
    · cases h
      exact .forgets
    · cases h

/-! ### The channel and the lock -/

/-- The pointers are allocated, the channel and the lock share their pointer
unless the guard is dirty, and then nobody else has the one in the lock. -/
structure Published (s : LockState Value) : Prop where
  inner : s.lock.inner < s.heap.size
  channel : s.lock.watchTx < s.heap.size
  handles : ∀ arc ∈ s.handles, arc < s.heap.size
  clean : s.lock.guard ≠ some (.held true) → s.lock.watchTx = s.lock.inner
  hidden : s.lock.inner ≠ s.lock.watchTx → s.lock.inner ∉ s.handles
  last : (s.lock.watchTx, s.heap.read s.lock.watchTx) = s.published

namespace Published

theorem new (value : Value) (epoch : UInt64) (shared : Nat) :
    Published (LockState.new value epoch shared) := by
  refine ⟨Nat.one_pos, Nat.one_pos, ?_, fun _ => rfl, ?_, rfl⟩
  · intro arc held
    rw [List.eq_of_mem_replicate held]
    exact Nat.one_pos
  · intro apart
    exact absurd rfl apart

/-- The two ways in which `make_mut` can answer.  The lock has its pointer to
itself, and keeps it, or it gets a fresh one. -/
theorem makeMut_cases (published : Published s) (update : Value → Value) :
    (s.lock.inner ≠ s.lock.watchTx ∧ s.heap.makeMut s.lock.inner s.otherPointers update =
          s.heap.makeMut s.lock.inner 0 update) ∨
      ∃ value, s.heap.makeMut s.lock.inner s.otherPointers
        update = s.heap.alloc value := by
  by_cases shared : s.otherPointers = 0
  · left
    refine ⟨?_, by rw [shared]⟩
    intro same
    simp [LockState.otherPointers, same] at shared
  · right
    obtain ⟨value, -, made⟩ := makeMut_shared update shared published.inner
    exact ⟨update value, made⟩

/-- A write leaves the allocation of the channel alone. -/
theorem derefs (published : Published s) {update}
    (move : LockMove s (.derefMut update) next) : Published next := by
  cases move with
  | derefs _ =>
    rcases published.makeMut_cases update with ⟨apart, made⟩ | ⟨value, made⟩
    · rw [made]
      obtain ⟨same, size, kept⟩ := makeMut_unshared s.heap s.lock.inner update
      refine ⟨?_, ?_, ?_, ?_, ?_, ?_⟩
      · simp only [same, size]
        exact published.inner
      · simp only [size]
        exact published.channel
      · simp only [size]
        exact published.handles
      · intro undirty
        exact absurd rfl undirty
      · simp only [same]
        exact published.hidden
      · simp only [kept _ (Ne.symm apart)]
        exact published.last
    · rw [made]
      refine ⟨?_, ?_, ?_, ?_, ?_, ?_⟩
      · rw [size_alloc]
        exact Nat.lt_succ_self _
      · rw [size_alloc]
        exact Nat.lt_succ_of_lt published.channel
      · intro arc owned
        rw [size_alloc]
        exact Nat.lt_succ_of_lt (published.handles arc owned)
      · intro undirty
        exact absurd rfl undirty
      · intro _ owned
        exact Nat.lt_irrefl _ (published.handles _ owned)
      · simp only [read_alloc_old value published.channel]
        exact published.last

theorem sends (published : Published s) (closing : Bool) : Published (s.sends closing) := by
  refine ⟨published.inner, published.inner, published.handles, fun _ => rfl, ?_, rfl⟩
  intro apart
  exact absurd rfl apart

/-- An operation that moves on a guard without unpublished changes. -/
theorem relabels (published : Published s) {before} (here : s.lock.guard = before)
    (clean : before ≠ some (.held true)) (guard : Option GuardPoint) (epoch : UInt64) :
    Published
      { s with lock := { s.lock with guard := guard }, valueEpoch := epoch } := by
  refine ⟨published.inner, published.channel, published.handles, ?_,
    published.hidden, published.last⟩
  intro _
  apply published.clean
  rw [here]
  exact clean

/-- Clients get pointers from each other and from the channel only. -/
theorem owns (published : Published s) {handles}
    (origin : ∀ arc ∈ handles, arc ∈ s.handles ∨ arc = s.lock.watchTx) :
    Published { s with handles := handles } := by
  refine ⟨published.inner, published.channel, ?_, published.clean, ?_, published.last⟩
  · intro arc mem
    rcases origin arc mem with owned | rfl
    · exact published.handles arc owned
    · exact published.channel
  · intro apart mem
    rcases origin _ mem with owned | same
    · exact published.hidden apart owned
    · exact apart same

/-- A fresh allocation of a client. -/
theorem allocates (published : Published s) (value : Value) :
    Published
      { s with heap := (s.heap.alloc value).1, handles := s.heap.size :: s.handles } := by
  refine ⟨?_, ?_, ?_, published.clean, ?_, ?_⟩
  · rw [size_alloc]
    exact Nat.lt_succ_of_lt published.inner
  · rw [size_alloc]
    exact Nat.lt_succ_of_lt published.channel
  · intro arc mem
    rw [size_alloc]
    rcases List.mem_cons.mp mem with rfl | owned
    · exact Nat.lt_succ_self _
    · exact Nat.lt_succ_of_lt (published.handles arc owned)
  · intro apart mem
    rcases List.mem_cons.mp mem with same | owned
    · exact Nat.lt_irrefl _ (same ▸ published.inner)
    · exact published.hidden apart owned
  · simp only [read_alloc_old _ published.channel]
    exact published.last

theorem step (published : Published s) (h : step s action = some next) : Published next := by
  have move := LockMove.of_step h
  cases move with
  | derefs held => exact published.derefs (.derefs held)
  | commits dirty => exact published.sends false
  | drops dirty => exact published.sends true
  | reads | commitsClean => exact published
  | acquires here => exact published.relabels here (by decide) _ _
  | dropsClean here => exact published.relabels here (by decide) _ _
  | advances here => exact published.relabels here (by simp) _ _
  | notifies here => exact published.relabels here (by simp) _ _
  | allocates => exact published.allocates _
  | publishes owned _ =>
    refine ⟨published.handles _ owned, published.handles _ owned, ?_, fun _ => rfl, ?_, rfl⟩
    · intro arc mem
      exact published.handles arc (List.mem_of_mem_erase mem)
    · intro apart
      exact absurd rfl apart
  | takes =>
    apply published.owns
    intro arc mem
    rcases List.mem_cons.mp mem with same | owned
    · exact .inr same
    · exact .inl owned
  | clones owned =>
    apply published.owns
    intro arc mem
    rcases List.mem_cons.mp mem with rfl | other
    · exact .inl owned
    · exact .inl other
  | forgets =>
    apply published.owns
    intro arc mem
    exact .inl (List.mem_of_mem_erase mem)

end Published

/-! ### The epoch -/

/-- The epoch counts the publications from `epoch` on; one that has sent its
value and not yet advanced the epoch is ahead by one. -/
def Counted (epoch : UInt64) (s : LockState Value) : Prop :=
  s.valueEpoch + (match s.lock.guard with
      | some (.replaced _) => 1
      | _ => 0) =
    epoch + UInt64.ofNat s.publications

namespace Counted

variable {epoch : UInt64}

theorem new (value : Value) (epoch : UInt64) (shared : Nat) :
    Counted epoch (LockState.new value epoch shared) := rfl

theorem sent (counted : Counted epoch s) (here : s.lock.guard = some (.held isDirty))
    (epochs : next.valueEpoch = s.valueEpoch) (there : next.lock.guard = some (.replaced closing))
    (more : next.publications = s.publications + 1) : Counted epoch next := by
  unfold Counted at counted ⊢
  rw [here] at counted
  rw [there, epochs, more, UInt64.ofNat_add, ← UInt64.add_assoc, ← counted]
  simp

theorem step (counted : Counted epoch s) (h : step s action = some next) : Counted epoch next := by
  have move := LockMove.of_step h
  cases move with
  | acquires here =>
    unfold Counted at counted ⊢
    rw [here] at counted
    exact counted
  | derefs here =>
    unfold Counted at counted ⊢
    rw [here] at counted
    exact counted
  | dropsClean here =>
    unfold Counted at counted ⊢
    rw [here] at counted
    exact counted
  | advances here =>
    unfold Counted at counted ⊢
    rw [here] at counted
    simpa using counted
  | notifies here =>
    rename_i closing
    unfold Counted at counted ⊢
    rw [here] at counted
    cases closing <;> exact counted
  | commits here => exact counted.sent here rfl rfl rfl
  | drops here => exact counted.sent here rfl rfl rfl
  | publishes _ here => exact counted.sent here rfl rfl rfl
  | reads | commitsClean | takes | allocates | clones _ | forgets => exact counted

end Counted

/-! ### What clients hold -/

/-- The allocation `arc` has the contents `value`, and the lock does not have it
for itself. -/
structure Frozen (arc : Nat) (value : Option Value) (s : LockState Value) :
    Prop where
  kept : s.heap.read arc = value
  allocated : arc < s.heap.size
  shown : s.lock.inner = arc → s.lock.watchTx = arc

namespace Frozen

variable {arc : Nat} {value : Option Value}

theorem of_handle (published : Published s) (owned : arc ∈ s.handles) :
    Frozen arc (s.heap.read arc) s := by
  refine ⟨rfl, published.handles arc owned, ?_⟩
  intro same
  by_contra apart
  subst same
  exact published.hidden (Ne.symm apart) owned

theorem derefs (frozen : Frozen arc value s) (published : Published s)
    {update} (move : LockMove s (.derefMut update) next) : Frozen arc value next := by
  cases move with
  | derefs _ =>
    rcases published.makeMut_cases update with ⟨apart, made⟩ | ⟨value, made⟩
    · rw [made]
      obtain ⟨same, size, kept⟩ := makeMut_unshared s.heap s.lock.inner update
      -- The pointer is written in place, so the channel does not have it.
      have other : arc ≠ s.lock.inner := by
        rintro rfl
        exact apart (frozen.shown rfl).symm
      refine ⟨?_, ?_, ?_⟩
      · simp only [kept arc other]
        exact frozen.kept
      · simp only [size]
        exact frozen.allocated
      · simp only [same]
        exact frozen.shown
    · rw [made]
      refine ⟨?_, ?_, ?_⟩
      · simp only [read_alloc_old value frozen.allocated]
        exact frozen.kept
      · rw [size_alloc]
        exact Nat.lt_succ_of_lt frozen.allocated
      · intro fresh
        exact absurd frozen.allocated (Nat.not_lt.mpr (Nat.le_of_eq fresh))

theorem step (frozen : Frozen arc value s) (published : Published s)
    (h : step s action = some next) : Frozen arc value next := by
  have move := LockMove.of_step h
  cases move with
  | derefs held => exact frozen.derefs published (.derefs held)
  | commits dirty => exact ⟨frozen.kept, frozen.allocated, id⟩
  | drops dirty => exact ⟨frozen.kept, frozen.allocated, id⟩
  | publishes owned held => exact ⟨frozen.kept, frozen.allocated, id⟩
  | allocates =>
    refine ⟨?_, ?_, frozen.shown⟩
    · simp only [read_alloc_old _ frozen.allocated]
      exact frozen.kept
    · rw [size_alloc]
      exact Nat.lt_succ_of_lt frozen.allocated
  | _ => exact ⟨frozen.kept, frozen.allocated, frozen.shown⟩

end Frozen

/-! ### Sessions that write nothing -/

/-- The operation can make the guard dirty, or replaces the value. -/
def LockAction.mutates : LockAction Value → Bool
  | .derefMut _ | .publish _ => true
  | _ => false

/-- No guard of the session has anything to publish, and the channel and the
epoch are as they were. -/
structure Quiet (channel : Nat) (epoch : UInt64) (s : LockState Value) :
    Prop where
  clean : s.lock.guard = none ∨ s.lock.guard = some (.held false)
  channel : s.lock.watchTx = channel
  epoch : s.valueEpoch = epoch

namespace Quiet

variable {channel : Nat} {epoch : UInt64}

/-- A guard without changes is at neither of the other points. -/
theorem guard_ne (quiet : Quiet channel epoch s)
    (here : s.lock.guard = some point) : point = .held false := by
  rcases quiet.clean with free | held
  · rw [here] at free
    cases free
  · rw [here] at held
    cases held
    rfl

theorem step (quiet : Quiet channel epoch s) (silent : action.mutates = false)
    (h : step s action = some next) : Quiet channel epoch next := by
  have move := LockMove.of_step h
  cases move with
  | derefs _ => cases silent
  | publishes _ _ => cases silent
  | commits dirty => cases quiet.guard_ne dirty
  | drops dirty => cases quiet.guard_ne dirty
  | advances replaced => cases quiet.guard_ne replaced
  | notifies advanced => cases quiet.guard_ne advanced
  | acquires _ => exact ⟨.inr rfl, quiet.channel, quiet.epoch⟩
  | dropsClean _ => exact ⟨.inl rfl, quiet.channel, quiet.epoch⟩
  | reads | commitsClean | takes | allocates | clones _ | forgets =>
    exact ⟨quiet.clean, quiet.channel, quiet.epoch⟩

end Quiet

/-! ### The guard publishes exactly the dirty states -/

/-- The holder of the guard is inside a publication. -/
def LockState.publishing (s : LockState Value) : Bool :=
  s.lock.guard.any GuardPoint.publishing

/-- For every sequence of sessions on one lock: without a guard the channel
holds the pointer of the lock; it always holds the pointer and the value of the
last publication; the epoch counts the publications (in 64 bits); operations
that neither write nor publish leave the channel and the epoch alone; and what
a client holds keeps its value, whatever happens later. -/
theorem guard_publishes_dirty (value : Value) (epoch : UInt64) (shared : Nat)
    {schedule : List (LockAction Value)} {state : LockState Value}
    (run : Run TrackedLock.step (LockState.new value epoch shared) schedule state) :
    (state.lock.guard = none → state.lock.watchTx = state.lock.inner) ∧
      (state.lock.watchTx, state.heap.read state.lock.watchTx) = state.published ∧
      (state.publishing = false → state.valueEpoch = epoch + UInt64.ofNat state.publications) ∧
      (∀ later finish, GuardedRun TrackedLock.step (fun _ action => action.mutates = false)
          state later finish → state.lock.guard = none →
        finish.lock.watchTx = state.lock.watchTx ∧ finish.valueEpoch = state.valueEpoch) ∧
      ∀ later finish, Run TrackedLock.step state later finish → ∀ arc ∈ state.handles,
          finish.heap.read arc = state.heap.read arc := by
  have published : Published state :=
    run.invariant (.new value epoch shared) fun published _ stepped =>
      published.step stepped
  have counted : Counted epoch state :=
    run.invariant (.new value epoch shared) fun counted _ stepped =>
      counted.step stepped
  refine ⟨?_, published.last, ?_, ?_, ?_⟩
  · intro free
    apply published.clean
    rw [free]
    decide
  · intro idle
    unfold Counted at counted
    unfold LockState.publishing at idle
    cases here : state.lock.guard with
    | none => simpa [here] using counted
    | some point =>
      cases point with
      | held isDirty => simpa [here] using counted
      | replaced closing => simp [here, GuardPoint.publishing] at idle
      | advanced closing => simp [here, GuardPoint.publishing] at idle
  · intro later finish silent free
    have quiet : Quiet state.lock.watchTx state.valueEpoch finish :=
      silent.invariant ⟨.inl free, rfl, rfl⟩ fun quiet silent stepped =>
        quiet.step silent stepped
    exact ⟨quiet.channel, quiet.epoch⟩
  · intro later finish continued arc owned
    have both : Published finish ∧ Frozen arc (state.heap.read arc) finish := by
      apply continued.invariant ⟨published, .of_handle published owned⟩
      intro _ _ _ held _ stepped
      exact ⟨held.1.step stepped, held.2.step held.1 stepped⟩
    exact both.2.kept

/-- Two sessions around a snapshot: the first commits and writes again before
it drops the guard, the second publishes a value of its own. -/
theorem guard_publishes_dirty_two_sessions :
    ∃ state : LockState Nat,
      Run TrackedLock.step (LockState.new 7 5 1)
          [.write, .derefMut (· + 1), .commit, .fetchAdd, .notifyWaiters,
            .snapshot, .derefMut (· + 1), .drop, .fetchAdd, .notifyWaiters,
            .newArc 20, .write, .publish 3, .fetchAdd, .notifyWaiters,
            .drop] state ∧
        (state.handles.map state.heap.read = [some 8, some 7] ∧
          state.valueEpoch = 8 ∧ state.published = (3, some 20)) ∧
        (state.lock.guard = none → state.lock.watchTx = state.lock.inner) :=
  Run.exists_and (by decide +kernel) fun _ run _ =>
    (guard_publishes_dirty 7 5 1 run).1

end ServiceDaemon
