/-
Purpose: Two shared cells of an asynchronous program: a cell that is initialised
  once, by one initialiser at a time, and a notification without memory.
Main exports: OnceCell, Notify
-/
import Mathlib

namespace AsyncLib

universe u

/-! ### A cell that is initialised once -/

/-- A cell that holds nothing, is being initialised by one caller, or holds its
value for good.  An initialiser that fails leaves the cell empty. -/
inductive OnceCell (Value : Type u) where
  | empty
  | initialising (caller : Nat)
  | set (value : Value)
deriving Repr, DecidableEq

/-- What a reader that does not wait sees. -/
def OnceCell.get {Value : Type u} : OnceCell Value → Option Value
  | .set value => some value
  | .empty | .initialising _ => none

theorem OnceCell.get_eq_some {Value : Type u} {cell : OnceCell Value}
    {value : Value} : cell.get = some value ↔ cell = .set value := by
  cases cell <;> simp [get]

/-! ### A notification without memory -/

/-- The waiters of a notification that are registered and not yet woken.  To
wake them is to forget them: a notification reaches who is registered, and
nobody who comes later. -/
structure Notify where
  waiters : List Nat
deriving Repr, DecidableEq

namespace Notify

def new : Notify := ⟨[]⟩

/-- Register a waiter. -/
def enable (notify : Notify) (waiter : Nat) : Notify :=
  ⟨waiter :: notify.waiters⟩

/-- Wake every registered waiter. -/
def notifyWaiters (_ : Notify) : Notify := ⟨[]⟩

/-- A waiter gives up its registration. -/
def remove (notify : Notify) (waiter : Nat) : Notify :=
  ⟨notify.waiters.filter (· ≠ waiter)⟩

/-- The waiter is registered and has not been woken. -/
def isWaiting (notify : Notify) (waiter : Nat) : Bool :=
  notify.waiters.contains waiter

variable {notify : Notify} {waiter other : Nat}

@[simp] theorem isWaiting_new : new.isWaiting waiter = false := rfl

@[simp] theorem isWaiting_notifyWaiters :
    notify.notifyWaiters.isWaiting waiter = false := rfl

theorem isWaiting_enable_of_ne (apart : other ≠ waiter) :
    (notify.enable waiter).isWaiting other = notify.isWaiting other := by
  simp [isWaiting, enable, apart]

theorem isWaiting_remove_of_ne (apart : other ≠ waiter) :
    (notify.remove waiter).isWaiting other = notify.isWaiting other := by
  simp [isWaiting, remove, apart]

end Notify

end AsyncLib
