/-
Purpose: A counting semaphore with a first-in first-out queue of waiting
  acquires, and the conservation law of its permits.
Main exports: Semaphore, addPermits, tryAcquire
-/
import Mathlib

namespace AsyncLib

/-!
The semaphore hands a released permit to the oldest queued acquire before it
becomes available to anyone else.  Such a permit is *assigned*: the waiting
task owns it although that task has not run yet.  `outstanding` therefore
counts the permits that are idle or assigned; the permits the program holds
are outside the structure.
-/

universe u

/-- Idle permits, queued acquires, and acquires a permit was assigned to. -/
structure Semaphore (Waiter : Type u) where
  permits : Nat
  waiters : List Waiter
  assigned : List Waiter
deriving Repr, DecidableEq

namespace Semaphore

variable {Waiter : Type u}

/-- A semaphore with `permits` idle permits and no waiter. -/
def new (permits : Nat) : Semaphore Waiter :=
  { permits := permits, waiters := [], assigned := [] }

/-- The idle permits, as the semaphore reports them. -/
def availablePermits (semaphore : Semaphore Waiter) : Nat :=
  semaphore.permits

/-- Release `count` permits: queued acquires are served first, in order. -/
def addPermits (semaphore : Semaphore Waiter) (count : Nat) :
    Semaphore Waiter :=
  { permits := semaphore.permits + (count - semaphore.waiters.length)
    waiters := semaphore.waiters.drop count
    assigned := semaphore.assigned ++ semaphore.waiters.take count }

/-- Take an idle permit without waiting. -/
def tryAcquire (semaphore : Semaphore Waiter) : Option (Semaphore Waiter) :=
  if semaphore.permits = 0 then none
  else some { semaphore with permits := semaphore.permits - 1 }

/-- First poll of an acquire: take an idle permit (`true`) or join the queue
(`false`). -/
def acquire (semaphore : Semaphore Waiter) (waiter : Waiter) :
    Semaphore Waiter × Bool :=
  if semaphore.permits = 0 then
    ({ semaphore with waiters := semaphore.waiters ++ [waiter] }, false)
  else
    ({ semaphore with permits := semaphore.permits - 1 }, true)

/-- Poll of a queued acquire: take over the permit assigned to it. -/
def claim [DecidableEq Waiter] (semaphore : Semaphore Waiter)
    (waiter : Waiter) : Option (Semaphore Waiter) :=
  if waiter ∈ semaphore.assigned then
    some { semaphore with assigned := semaphore.assigned.erase waiter }
  else none

/-- Drop an acquire that has not returned: an assigned permit goes back, a
queued acquire leaves the queue. -/
def abandon [DecidableEq Waiter] (semaphore : Semaphore Waiter)
    (waiter : Waiter) : Semaphore Waiter :=
  if waiter ∈ semaphore.assigned then
    ({ semaphore with assigned := semaphore.assigned.erase waiter }).addPermits 1
  else { semaphore with waiters := semaphore.waiters.erase waiter }

/-- Permits that are idle or already assigned to a waiting acquire. -/
def outstanding (semaphore : Semaphore Waiter) : Nat :=
  semaphore.permits + semaphore.assigned.length

/-- The most idle permits a semaphore may have: the word that counts them, of
64 bits here, keeps three bits for flags. -/
def maxPermits : Nat :=
  (2 ^ 64 - 1) >>> 3

/-- What `new` and `addPermits` assert of the semaphore they leave behind; they
panic where it fails. -/
def WithinMax (semaphore : Semaphore Waiter) : Prop :=
  semaphore.permits ≤ maxPermits

/-! ### Conservation -/

@[simp] theorem outstanding_new (permits : Nat) :
    (new permits : Semaphore Waiter).outstanding = permits := by
  simp [outstanding, new]

/-- Releasing `count` permits makes exactly `count` more outstanding, however
many of them are assigned. -/
@[simp] theorem outstanding_addPermits (sem : Semaphore Waiter) (count : Nat) :
    (sem.addPermits count).outstanding = sem.outstanding + count := by
  simp only [outstanding, addPermits, List.length_append, List.length_take]
  omega

/-- A permit taken without waiting was idle. -/
theorem tryAcquire_some {sem after : Semaphore Waiter} (acquired : sem.tryAcquire = some after) :
    sem.permits ≠ 0 ∧ after = { sem with permits := sem.permits - 1 } := by
  unfold tryAcquire at acquired
  split at acquired
  · cases acquired
  · rename_i idle
    cases acquired
    exact ⟨idle, rfl⟩

theorem outstanding_tryAcquire {sem after : Semaphore Waiter}
    (acquired : sem.tryAcquire = some after) : after.outstanding + 1 = sem.outstanding := by
  obtain ⟨idle, rfl⟩ := tryAcquire_some acquired
  simp only [outstanding]
  omega

theorem permits_of_tryAcquire_none {sem : Semaphore Waiter}
    (refused : sem.tryAcquire = none) : sem.permits = 0 := by
  unfold tryAcquire at refused
  split at refused
  · assumption
  · cases refused

theorem outstanding_acquire_granted {sem : Semaphore Waiter}
    (waiter : Waiter) (idle : sem.permits ≠ 0) :
    (sem.acquire waiter).1.outstanding + 1 = sem.outstanding := by
  simp only [acquire, idle, if_false, outstanding]
  omega

theorem outstanding_acquire_queued {sem : Semaphore Waiter}
    (waiter : Waiter) (exhausted : sem.permits = 0) :
    (sem.acquire waiter).1.outstanding = sem.outstanding := by
  simp [acquire, exhausted, outstanding]

section Claim

variable [DecidableEq Waiter]

theorem outstanding_claim {sem after : Semaphore Waiter}
    {waiter : Waiter} (claimed : sem.claim waiter = some after) :
    after.outstanding + 1 = sem.outstanding := by
  unfold claim at claimed
  split at claimed
  · rename_i mem
    cases claimed
    have positive : 0 < sem.assigned.length := List.length_pos_of_mem mem
    simp only [outstanding, List.length_erase_of_mem mem]
    omega
  · cases claimed

/-- Dropping an acquire neither creates nor loses a permit. -/
@[simp] theorem outstanding_abandon (sem : Semaphore Waiter) (waiter : Waiter) :
    (sem.abandon waiter).outstanding = sem.outstanding := by
  unfold abandon
  split
  · rename_i mem
    have positive : 0 < sem.assigned.length := List.length_pos_of_mem mem
    rw [outstanding_addPermits]
    simp only [outstanding, List.length_erase_of_mem mem]
    omega
  · rfl

end Claim

/-! ### At most one waiter -/

/-- Only `waiter`, if anyone, is waiting: its acquire is queued, or a permit
was assigned to it. -/
def SingleWaiter (semaphore : Semaphore Waiter) : Option Waiter → Prop
  | none => semaphore.waiters = [] ∧ semaphore.assigned = []
  | some waiter =>
    (semaphore.waiters = [waiter] ∧ semaphore.assigned = []) ∨
      (semaphore.waiters = [] ∧ semaphore.assigned = [waiter])

namespace SingleWaiter

variable {sem after : Semaphore Waiter} {waiting : Option Waiter}

theorem new (permits : Nat) :
    SingleWaiter (Semaphore.new permits : Semaphore Waiter) none :=
  ⟨rfl, rfl⟩

/-- Released permits reach the waiter first. -/
theorem addPermits (single : SingleWaiter sem waiting) (count : Nat) :
    SingleWaiter (sem.addPermits count) waiting := by
  cases waiting with
  | none =>
    obtain ⟨queue, assigned⟩ := single
    exact ⟨by simp [Semaphore.addPermits, queue], by simp [Semaphore.addPermits, queue, assigned]⟩
  | some waiter =>
    rcases single with ⟨queue, assigned⟩ | ⟨queue, assigned⟩
    · cases count with
      | zero =>
        left
        simp [Semaphore.addPermits, queue, assigned]
      | succ count =>
        right
        simp [Semaphore.addPermits, queue, assigned]
    · right
      simp [Semaphore.addPermits, queue, assigned]

/-- The waiters do not depend on the idle permits. -/
theorem of_same (single : SingleWaiter sem waiting) (queue : after.waiters = sem.waiters)
    (assigned : after.assigned = sem.assigned) : SingleWaiter after waiting := by
  cases waiting with
  | none => exact ⟨queue.trans single.1, assigned.trans single.2⟩
  | some waiter =>
    rcases single with ⟨oldQueue, oldAssigned⟩ | ⟨oldQueue, oldAssigned⟩
    · exact .inl ⟨queue.trans oldQueue, assigned.trans oldAssigned⟩
    · exact .inr ⟨queue.trans oldQueue, assigned.trans oldAssigned⟩

theorem tryAcquire (single : SingleWaiter sem waiting) (acquired : sem.tryAcquire = some after) :
    SingleWaiter after waiting := by
  obtain ⟨-, rfl⟩ := tryAcquire_some acquired
  exact single.of_same rfl rfl

theorem acquire_granted (single : SingleWaiter sem none)
    (waiter : Waiter) (idle : sem.permits ≠ 0) : SingleWaiter (sem.acquire waiter).1 none := by
  simp only [Semaphore.acquire, idle, if_false]
  exact single

theorem acquire_queued (single : SingleWaiter sem none)
    (waiter : Waiter) (exhausted : sem.permits = 0) :
    SingleWaiter (sem.acquire waiter).1 (some waiter) := by
  left
  simp [Semaphore.acquire, exhausted, single.1, single.2]

section Claim

variable [DecidableEq Waiter]

theorem claim (single : SingleWaiter sem (some waiter))
    (claimed : sem.claim waiter = some after) : SingleWaiter after none := by
  unfold Semaphore.claim at claimed
  split at claimed
  · rename_i mem
    cases claimed
    rcases single with ⟨queue, assigned⟩ | ⟨queue, assigned⟩
    · simp [assigned] at mem
    · exact ⟨queue, by simp [assigned]⟩
  · cases claimed

theorem abandon (single : SingleWaiter sem (some waiter)) :
    SingleWaiter (sem.abandon waiter) none := by
  unfold Semaphore.abandon
  rcases single with ⟨queue, assigned⟩ | ⟨queue, assigned⟩
  · rw [if_neg (by simp [assigned])]
    exact ⟨by simp [queue], assigned⟩
  · rw [if_pos (by simp [assigned])]
    apply addPermits
    exact ⟨queue, by simp [assigned]⟩

end Claim

end SingleWaiter

end Semaphore

end AsyncLib
