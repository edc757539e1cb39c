/-
Purpose: An unordered set of futures with its ready-to-run queue, and the facts
  about which members have been polled.
Main exports: FuturesUnordered, push, wake
-/
import Mathlib

namespace AsyncLib

/-!
Polling the set takes futures from the ready queue in first-in first-out order
and polls each of them; the first one that is ready is yielded and leaves the
set, and the futures behind it stay queued without having been polled.  A new
future is queued when it is pushed.  A future that was polled and is pending
comes back to the queue when it is woken.
-/

universe u

/-- The futures of the set, the ready queue, and the futures polled so far. -/
structure FuturesUnordered (Key : Type u) where
  members : List Key
  ready : List Key
  polled : List Key
deriving Repr, DecidableEq

namespace FuturesUnordered

variable {Key : Type u}

/-- The empty set. -/
def new : FuturesUnordered Key :=
  { members := [], ready := [], polled := [] }

/-- Number of futures whose output has not been yielded. -/
def len (futures : FuturesUnordered Key) : Nat :=
  futures.members.length

def isEmpty (futures : FuturesUnordered Key) : Bool :=
  futures.members.isEmpty

/-- Add a future; it is queued for its first poll. -/
def push (futures : FuturesUnordered Key) (key : Key) :
    FuturesUnordered Key :=
  { futures with members := futures.members ++ [key], ready := futures.ready ++ [key] }

/-- Take the next queued future, which is about to be polled. -/
def dequeue (futures : FuturesUnordered Key) :
    Option (Key × FuturesUnordered Key) :=
  match futures.ready with
  | [] => none
  | key :: rest => some (key, { futures with ready := rest })

theorem dequeue_some {fs rest : FuturesUnordered Key} {key : Key}
    (dequeued : fs.dequeue = some (key, rest)) :
    fs.ready = key :: rest.ready ∧ rest.members = fs.members ∧ rest.polled = fs.polled := by
  unfold dequeue at dequeued
  split at dequeued
  · cases dequeued
  · rename_i head tail queue
    cases dequeued
    exact ⟨queue, rfl, rfl⟩

/-- The polled future is pending and has registered its waker. -/
def suspend (futures : FuturesUnordered Key) (key : Key) :
    FuturesUnordered Key :=
  { futures with polled := key :: futures.polled }

section Wake

variable [DecidableEq Key]

/-- Wake a pending future.  Only a polled member has a registered waker, and a
future that is already queued is not queued twice. -/
def wake (futures : FuturesUnordered Key) (key : Key) :
    FuturesUnordered Key :=
  if key ∈ futures.members ∧ key ∈ futures.polled ∧ key ∉ futures.ready then
    { futures with ready := futures.ready ++ [key] }
  else futures

@[simp] theorem wake_members (fs : FuturesUnordered Key) (key : Key) :
    (fs.wake key).members = fs.members := by
  unfold wake
  split <;> rfl

@[simp] theorem wake_polled (fs : FuturesUnordered Key) (key : Key) :
    (fs.wake key).polled = fs.polled := by
  unfold wake
  split <;> rfl

/-- Waking queues at most the future that is woken. -/
theorem mem_wake {fs : FuturesUnordered Key} {key other : Key}
    (queued : other ∈ (fs.wake key).ready) : other ∈ fs.ready ∨ other = key := by
  unfold wake at queued
  split at queued
  · rcases List.mem_append.mp queued with before | new
    · exact .inl before
    · exact .inr (List.mem_singleton.mp new)
  · exact .inl queued

/-- The polled future was ready: its output is yielded and it leaves the
set. -/
def remove (futures : FuturesUnordered Key) (key : Key) :
    FuturesUnordered Key :=
  { futures with members := futures.members.erase key }

end Wake

/-- What the set keeps about its members: they are distinct, the queue holds
members only and each at most once, and a member that was never polled is
still queued. -/
structure Tracked (fs : FuturesUnordered Key) : Prop where
  distinct : fs.members.Nodup
  queueDistinct : fs.ready.Nodup
  queued_mem : ∀ key ∈ fs.ready, key ∈ fs.members
  unpolled_queued :
    ∀ key ∈ fs.members, key ∉ fs.polled → key ∈ fs.ready

private theorem nodup_snoc {entries : List Key} {key : Key}
    (distinct : entries.Nodup) (fresh : key ∉ entries) : (entries ++ [key]).Nodup := by
  refine List.nodup_append.mpr ⟨distinct, by simp, ?_⟩
  intro other mem last lastMember same
  rw [List.mem_singleton] at lastMember
  exact fresh (lastMember ▸ same ▸ mem)

namespace Tracked

theorem new : Tracked (FuturesUnordered.new : FuturesUnordered Key) :=
  ⟨List.nodup_nil, List.nodup_nil, by simp [FuturesUnordered.new], by simp [FuturesUnordered.new]⟩

variable {fs : FuturesUnordered Key}

theorem push (tracked : Tracked fs) {key : Key}
    (fresh : key ∉ fs.members) : Tracked (fs.push key) := by
  refine ⟨nodup_snoc tracked.distinct fresh, nodup_snoc tracked.queueDistinct
      fun queued => fresh (tracked.queued_mem key queued), ?_, ?_⟩
  · intro other queued
    simp only [FuturesUnordered.push, List.mem_append, List.mem_singleton] at queued ⊢
    exact queued.imp_left (tracked.queued_mem other)
  · intro other mem unpolled
    simp only [FuturesUnordered.push, List.mem_append, List.mem_singleton] at mem unpolled ⊢
    exact mem.imp_left fun old => tracked.unpolled_queued other old unpolled

/-- Polling a queued future that turns out pending. -/
theorem suspend (tracked : Tracked fs) {key : Key} {rest : FuturesUnordered Key}
    (dequeued : fs.dequeue = some (key, rest)) : Tracked (rest.suspend key) := by
  obtain ⟨queue, members, polled⟩ := dequeue_some dequeued
  have nodup : (key :: rest.ready).Nodup := queue ▸ tracked.queueDistinct
  refine ⟨members ▸ tracked.distinct, (List.nodup_cons.mp nodup).2, ?_, ?_⟩
  · intro other queued
    have before : other ∈ fs.ready := by
      rw [queue]
      exact List.mem_cons_of_mem key queued
    exact members ▸ tracked.queued_mem other before
  · intro other mem unpolled
    simp only [FuturesUnordered.suspend, List.mem_cons, not_or] at unpolled
    have queued := tracked.unpolled_queued other (members ▸ mem) (polled ▸ unpolled.2)
    rw [queue] at queued
    exact (List.mem_cons.mp queued).resolve_left unpolled.1

section Wake

variable [DecidableEq Key]

theorem wake (tracked : Tracked fs) (key : Key) : Tracked (fs.wake key) := by
  unfold FuturesUnordered.wake
  split
  · rename_i pending
    refine ⟨tracked.distinct, nodup_snoc tracked.queueDistinct pending.2.2, ?_, ?_⟩
    · intro other queued
      simp only [List.mem_append, List.mem_singleton] at queued
      rcases queued with old | new
      · exact tracked.queued_mem other old
      · subst new
        exact pending.1
    · intro other mem unpolled
      exact List.mem_append_left _ (tracked.unpolled_queued other mem unpolled)
  · exact tracked

/-- Polling a queued future that turns out ready. -/
theorem remove (tracked : Tracked fs) {key : Key} {rest : FuturesUnordered Key}
    (dequeued : fs.dequeue = some (key, rest)) : Tracked (rest.remove key) := by
  obtain ⟨queue, members, polled⟩ := dequeue_some dequeued
  have nodup : (key :: rest.ready).Nodup := queue ▸ tracked.queueDistinct
  obtain ⟨headFresh, tailDistinct⟩ := List.nodup_cons.mp nodup
  have distinct : rest.members.Nodup := members ▸ tracked.distinct
  refine ⟨distinct.erase key, tailDistinct, ?_, ?_⟩
  · intro other queued
    have different : other ≠ key := fun same => headFresh (same ▸ queued)
    have before : other ∈ fs.ready := by
      rw [queue]
      exact List.mem_cons_of_mem key queued
    exact (List.mem_erase_of_ne different).mpr (members ▸ tracked.queued_mem other before)
  · intro other mem unpolled
    obtain ⟨different, kept⟩ := distinct.mem_erase_iff.mp mem
    have queued := tracked.unpolled_queued other (members ▸ kept) (polled ▸ unpolled)
    rw [queue] at queued
    exact (List.mem_cons.mp queued).resolve_left different

end Wake

theorem polled_of_exhausted (tracked : Tracked fs) (exhausted : fs.ready = []) :
    ∀ key ∈ fs.members, key ∈ fs.polled := by
  intro key mem
  by_contra unpolled
  have queued := tracked.unpolled_queued key mem unpolled
  simp [exhausted] at queued

end Tracked

/-! ### The order of the queue -/

/-- The future `key` is queued, and `settled` holds of every future that will
be polled before it. -/
def QueuedBehind (futures : FuturesUnordered Key) (settled : Key → Prop) (key : Key) : Prop :=
  ∃ front back, futures.ready = front ++ key :: back ∧ ∀ other ∈ front, settled other

namespace QueuedBehind

variable {fs rest : FuturesUnordered Key} {settled weaker : Key → Prop}
  {key head : Key}

theorem mono (behind : fs.QueuedBehind settled key)
    (weaken : ∀ other, settled other → weaker other) : fs.QueuedBehind weaker key := by
  obtain ⟨front, back, queue, ahead⟩ := behind
  exact ⟨front, back, queue, fun other mem =>
    weaken other (ahead other mem)⟩

theorem push (ahead : ∀ other ∈ fs.ready, settled other) :
    (fs.push key).QueuedBehind settled key :=
  ⟨fs.ready, [], rfl, ahead⟩

/-- The next future to be polled is among those ahead. -/
theorem head_settled (behind : fs.QueuedBehind settled key)
    (dequeued : fs.dequeue = some (head, rest)) (different : key ≠ head) : settled head := by
  obtain ⟨front, back, queue, ahead⟩ := behind
  rw [(dequeue_some dequeued).1] at queue
  cases front with
  | nil => exact absurd (List.cons.inj queue).1.symm different
  | cons first front =>
    obtain ⟨rfl, -⟩ := List.cons.inj queue
    exact ahead _ List.mem_cons_self

/-- Taking the next future leaves the others behind what was ahead. -/
theorem dequeue (behind : fs.QueuedBehind settled key) (dequeued : fs.dequeue = some (head, rest))
    (different : key ≠ head) : rest.QueuedBehind settled key := by
  obtain ⟨front, back, queue, ahead⟩ := behind
  rw [(dequeue_some dequeued).1] at queue
  cases front with
  | nil => exact absurd (List.cons.inj queue).1.symm different
  | cons first front =>
    obtain ⟨rfl, tail⟩ := List.cons.inj queue
    refine ⟨front, back, tail, ?_⟩
    intro other mem
    exact ahead other (List.mem_cons_of_mem _ mem)

/-- A woken future joins the queue at its end. -/
theorem wake [DecidableEq Key] (behind : fs.QueuedBehind settled key)
    (woken : Key) : (fs.wake woken).QueuedBehind settled key := by
  unfold FuturesUnordered.wake
  split
  · obtain ⟨front, back, queue, ahead⟩ := behind
    refine ⟨front, back ++ [woken], ?_, ahead⟩
    simp only [queue, List.append_assoc, List.cons_append]
  · exact behind

end QueuedBehind

end FuturesUnordered

end AsyncLib
