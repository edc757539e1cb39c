/-
Purpose: A thread that decides at control points and performs a list of shared
  writes between two of them, one write at a time, and the rule that carries an
  invariant of the control points over the writes in between.
Main exports: drain, Along, Settles
-/
import Mathlib

namespace AsyncLib.PendingWrites

universe u v w

variable {View : Type u} {Write : Type v} {Point : Type w}

/-- The writes that are left, performed in one go. -/
def drain (perform : View → Write → View) (view : View) (writes : List Write) : View :=
  writes.foldl perform view

/-- `always` holds now and after each of the writes that are left. -/
def Along (perform : View → Write → View) (always : View → Prop) :
    View → List Write → Prop
  | view, [] => always view
  | view, write :: writes =>
    always view ∧ Along perform always (perform view write) writes

theorem Along.mono {perform : View → Write → View} {always weaker : View → Prop}
    (weaken : ∀ view, always view → weaker view) {view : View}
    {writes : List Write} (along : Along perform always view writes) :
    Along perform weaker view writes := by
  induction writes generalizing view with
  | nil => exact weaken view along
  | cons write writes ih => exact ⟨weaken view along.1, ih along.2⟩

/-- The thread is on its way to `point`: `always` holds up to there, and `ready`
holds when it arrives. -/
structure Settles (perform : View → Write → View) (always : View → Prop)
    (ready : Point → View → Prop) (view : View) (writes : List Write)
    (point : Point) : Prop where
  along : Along perform always view writes
  arrives : ready point (drain perform view writes)

namespace Settles

variable {perform : View → Write → View} {always : View → Prop}
  {ready : Point → View → Prop} {view : View} {write : Write}
  {writes : List Write} {point : Point}

theorem performs (settles : Settles perform always ready view (write :: writes) point) :
    Settles perform always ready (perform view write) writes point :=
  ⟨settles.along.2, settles.arrives⟩

theorem now (settles : Settles perform always ready view writes point) : always view := by
  cases writes with
  | nil => exact settles.along
  | cons write writes => exact settles.along.1

theorem here (settles : Settles perform always ready view [] point) :
    ready point view :=
  settles.arrives

theorem at_point (holds : always view) (arrived : ready point view) :
    Settles perform always ready view [] point :=
  ⟨holds, arrived⟩

theorem redirect {weaker : View → Prop} {target : Point}
    (settles : Settles perform always ready view writes point)
    (weaken : ∀ view, always view → weaker view)
    (arrived : ∀ view, ready point view → ready target view) :
    Settles perform weaker ready view writes target :=
  ⟨settles.along.mono weaken, arrived _ settles.arrives⟩

theorem before (holds : always view)
    (settles : Settles perform always ready (perform view write) writes point) :
    Settles perform always ready view (write :: writes) point :=
  ⟨⟨holds, settles.along⟩, settles.arrives⟩

end Settles

end AsyncLib.PendingWrites
