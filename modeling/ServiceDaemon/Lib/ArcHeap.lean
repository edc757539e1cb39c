/-
Purpose: Reference-counted allocations and the copy-on-write access to them.
Main exports: ArcHeap, ArcHeap.alloc, ArcHeap.makeMut
-/
import Mathlib

namespace AsyncLib

/-!
An `Arc` is an address.  Addresses are never reused, so a pointer that has been
dropped says nothing about a later allocation.  The number of strong pointers
is not stored: whoever owns the pointers knows it, and hands the number of the
other ones to `makeMut`.
-/

/-- The contents of the allocations, by address. -/
structure ArcHeap (Value : Type) where
  cells : List Value

namespace ArcHeap

variable {Value : Type}

/-- The number of allocations, which is the next address. -/
def size (heap : ArcHeap Value) : Nat := heap.cells.length

def read (heap : ArcHeap Value) (address : Nat) : Option Value :=
  heap.cells[address]?

/-- `Arc::new`. -/
def alloc (heap : ArcHeap Value) (value : Value) : ArcHeap Value × Nat :=
  (⟨heap.cells ++ [value]⟩, heap.size)

/-- `Arc::make_mut` and a write through the reference it returns: in place when
no other pointer to the allocation exists, and in a fresh copy otherwise. -/
def makeMut (heap : ArcHeap Value) (address others : Nat)
    (update : Value → Value) : ArcHeap Value × Nat :=
  match heap.read address with
  | none => (heap, address)
  | some value =>
    if others = 0 then
      (⟨heap.cells.set address (update value)⟩, address)
    else heap.alloc (update value)

variable {heap : ArcHeap Value} {address others : Nat}

theorem read_isSome : (heap.read address).isSome = true ↔ address < heap.size := by
  simp [read, size]

@[simp] theorem size_alloc (value : Value) :
    (heap.alloc value).1.size = heap.size + 1 := by
  simp [alloc, size]

theorem read_alloc_old (value : Value) (old : address < heap.size) :
    (heap.alloc value).1.read address = heap.read address := by
  simpa [alloc, read] using List.getElem?_append_left old

theorem makeMut_shared (update : Value → Value) (shared : others ≠ 0) (old : address < heap.size) :
    ∃ value, heap.read address = some value ∧
      heap.makeMut address others update = heap.alloc (update value) := by
  obtain ⟨value, found⟩ := Option.isSome_iff_exists.mp (read_isSome.mpr old)
  refine ⟨value, found, ?_⟩
  simp [makeMut, found, shared]

/-- An unshared allocation is written in place, and no other one changes. -/
theorem makeMut_unshared (heap : ArcHeap Value) (address : Nat) (update : Value → Value) :
    (heap.makeMut address 0 update).2 = address ∧
      (heap.makeMut address 0 update).1.size = heap.size ∧
      ∀ other, other ≠ address →
        (heap.makeMut address 0 update).1.read other = heap.read other := by
  cases found : heap.read address with
  | none => simp [makeMut, found]
  | some value =>
    refine ⟨?_, ?_, ?_⟩
    · simp [makeMut, found]
    · simp [makeMut, found, size]
    · intro other apart
      simp only [makeMut, found, if_true]
      exact List.getElem?_set_ne (Ne.symm apart)

end ArcHeap

end AsyncLib
