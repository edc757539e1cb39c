/-
Purpose: Threads kept in a list and known by their position: what a thread is
  after one of them has moved, and after a new one has started.
Main exports: Threads.set_cases, Threads.concat_cases
-/
import Mathlib

namespace AsyncLib.Threads

universe u

variable {Thread : Type u} {threads : List Thread} {thread moved : Thread}
  {i other : Nat}

/-- After a thread has moved, a thread is the one that moved or it is as it
was. -/
theorem set_cases (here : (threads.set i moved)[other]? = some thread) :
    (other = i ∧ thread = moved) ∨ (other ≠ i ∧ threads[other]? = some thread) := by
  by_cases same : other = i
  · subst same
    have bound : other < threads.length := by
      simpa using (List.getElem?_eq_some_iff.mp here).1
    rw [List.getElem?_set_self bound] at here
    cases here
    exact .inl ⟨rfl, rfl⟩
  · rw [List.getElem?_set_ne (Ne.symm same)] at here
    exact .inr ⟨same, here⟩

/-- After a thread has started, a thread is the new one or it was there. -/
theorem concat_cases (here : (threads ++ [moved])[other]? = some thread) :
    threads[other]? = some thread ∨ (other = threads.length ∧ thread = moved) := by
  rcases Nat.lt_or_ge other threads.length with old | new
  · rw [List.getElem?_append_left old] at here
    exact .inl here
  · rw [List.getElem?_append_right new] at here
    obtain ⟨bound, same⟩ := List.getElem?_eq_some_iff.mp here
    have last : other = threads.length := by
      simp only [List.length_singleton] at bound
      omega
    subst last
    simp only [Nat.sub_self, List.getElem_cons_zero] at same
    exact .inr ⟨rfl, same.symm⟩

theorem concat_old (here : threads[other]? = some thread) :
    (threads ++ [moved])[other]? = some thread := by
  rw [List.getElem?_append_left (List.getElem?_eq_some_iff.mp here).1]
  exact here

theorem set_self (here : threads[i]? = some thread) :
    (threads.set i moved)[i]? = some moved :=
  List.getElem?_set_self (List.getElem?_eq_some_iff.mp here).1

/-- When one thread moves, the others stay in the list. -/
theorem mem_set_cases (here : threads[i]? = some mover) (mem : thread ∈ threads) :
    thread = mover ∨ thread ∈ threads.set i moved := by
  obtain ⟨place, found⟩ := List.mem_iff_getElem?.mp mem
  by_cases same : place = i
  · subst same
    rw [here] at found
    cases found
    exact .inl rfl
  · right
    refine List.mem_iff_getElem?.mpr ⟨place, ?_⟩
    rw [List.getElem?_set_ne (Ne.symm same)]
    exact found

theorem mem_set_self (here : threads[i]? = some mover) :
    moved ∈ threads.set i moved :=
  List.mem_of_getElem? (set_self here)

end AsyncLib.Threads
