/-
Purpose: When a pressure snapshot is not inflated.  It reports no more
  dispatches than held a permit during the call as long as no permit is taken
  back between its two reads, and none is still counted at the first of them.
Main exports: RunnerState.total, RunnerState.total_step, PressureState,
  pressure_not_inflated
-/
import ServiceDaemon.Core.TriggerPressure
import ServiceDaemon.Proofs.ScaleUpThreshold

namespace ServiceDaemon

open AsyncLib StepSystem

/-!
Shrinking takes permits out of the semaphore first and lowers the limit at the
end.  In between the permits that are gone look as if dispatches held them.

[SRC core/runtime_facts.rs, core/trigger_policy_overlay.rs]
-/

/-! ### Permits that are taken back -/

variable {Payload : Type} {cfg : RunnerConfig}
  {s next : RunnerState Payload} {a : Action Payload}

/-- The next operation of the thread takes a permit back. -/
def ResizePoint.takesBack (shared : ConcurrencyState) : ResizePoint → Bool
  | .revoke _ (_ + 1) _ => shared.semaphore.tryAcquire.isSome
  | _ => false

namespace RunnerState

/-- The idle, the assigned and the held permits. -/
def total (s : RunnerState Payload) : Nat :=
  s.shared.semaphore.outstanding + s.holders

/-- Permits that are taken back and still in the limit. -/
def revoking (s : RunnerState Payload) : Nat :=
  s.loop.reconcilePoint.pendingResize.revoked + s.monitor.pendingResize.revoked

/-- The step takes a permit back. -/
def takesBack (s : RunnerState Payload) : Action Payload → Bool
  | .loop => s.loop.reconcilePoint.pendingResize.takesBack s.shared
  | .monitor => s.monitor.pendingResize.takesBack s.shared
  | _ => false

theorem total_eq (s : RunnerState Payload) :
    s.total = s.shared.semaphore.availablePermits + s.permitsHeld := by
  simp only [total, permitsHeld, Semaphore.outstanding, Semaphore.availablePermits]
  omega

end RunnerState

theorem ResizeMove.outstanding_le {shared after point next}
    (move : ResizeMove shared point after next) (spares : point.takesBack shared = false) :
    shared.semaphore.outstanding ≤ after.semaphore.outstanding := by
  cases move with
  | adds =>
    rw [Semaphore.outstanding_addPermits]
    exact Nat.le_add_right _ _
  | revokes acquired =>
    rw [ResizePoint.takesBack, acquired] at spares
    cases spares
  | raises | ends _ | lowers => exact Nat.le_refl _

theorem ReconcileMove.outstanding_le {base actor shared after point next}
    (move : ReconcileMove base actor shared point after next)
    (spares : point.pendingResize.takesBack shared = false) :
    shared.semaphore.outstanding ≤ after.semaphore.outstanding := by
  cases move with
  | resizes inner => exact inner.outstanding_le spares
  | _ => exact Nat.le_refl _

theorem monitorStep_outstanding_le
    (h : monitorStep base scaling inDaemon shared here = some (after, there))
    (spares : here.pendingResize.takesBack shared = false) :
    shared.semaphore.outstanding ≤ after.semaphore.outstanding := by
  cases resizing : here.resizes with
  | false => rw [(monitorStep_samples resizing h).1]
  | true =>
    cases here with
    | reconciling idleSince point =>
      rcases monitorStep_reconciling h with
        ⟨next, move, -⟩ | ⟨-, rfl, -⟩
      · exact move.outstanding_le spares
      · exact Nat.le_refl _
    | resizing idleSince point =>
      rcases monitorStep_resizing h with
        ⟨next, move, -⟩ | ⟨-, rfl, -⟩
      · exact move.outstanding_le spares
      · exact Nat.le_refl _
    | _ => cases resizing

/-- The permits of a runner are what its limit says, corrected by the resizes in
progress. -/
theorem Ledger.total_eq (inv : Ledger cfg s) (after : Ledger cfg next)
    (limit : next.shared.currentLimit = s.shared.currentLimit)
    (loop : next.loop.reconcilePoint.pendingResize = s.loop.reconcilePoint.pendingResize)
    (monitor : next.monitor.pendingResize = s.monitor.pendingResize) : next.total = s.total := by
  have before := inv.balanced
  have later := after.balanced
  rw [limit, loop, monitor] at later
  simp only [RunnerState.total]
  omega

theorem Ledger.limit_le_total (inv : Ledger cfg s) (counted : s.revoking = 0) :
    s.shared.currentLimit ≤ s.total := by
  have balanced := inv.balanced
  simp only [RunnerState.revoking, RunnerState.total] at counted ⊢
  omega

namespace RunnerState

/-- A dispatch adds and takes back permits only where it reconciles. -/
theorem total_dispatch (inv : Ledger cfg s) (after : Ledger cfg next)
    (here : s.loop = .dispatching frame point) (move : DispatchMove cfg frame s point next)
    (spares : s.takesBack .loop = false) : s.total ≤ next.total := by
  have same := inv.total_eq after
  rw [here] at same
  cases move with
  | reconciles h =>
    rw [takesBack, here] at spares
    have more := (ReconcileMove.of_reconcileStep h).outstanding_le spares
    simp only [total, holders, tasksHolding, here] at more ⊢
    exact Nat.add_le_add_right more _
  | spawns =>
    rename_i pol
    have settled :
        (s.spawnDispatch cfg frame pol).loop.reconcilePoint = .finished 0 := by
      apply LoopPoint.reconcilePoint_of_not_dispatches
      simp only [RunnerState.spawnDispatch]
      split <;> rfl
    refine Nat.le_of_eq (same rfl ?_ rfl).symm
    rw [settled]
    rfl
  | _ => exact Nat.le_of_eq (same rfl rfl rfl).symm

/-- A step that takes no permit back leaves as many as there were, or more. -/
theorem total_step (inv : Ledger cfg s) (h : Runner.step cfg s a = some next)
    (spares : s.takesBack a = false) : s.total ≤ next.total := by
  have after := inv.step h
  have same := inv.total_eq after
  cases Move.of_step h with
  | loop elsewhere move =>
    have frame := move.frame elsewhere
    refine Nat.le_of_eq (same frame.currentLimit ?_ ?_).symm
    · rw [frame.settled.2.1, LoopPoint.reconcilePoint_of_not_dispatches elsewhere]
    · rw [frame.monitor]
  | dispatch here move => exact total_dispatch inv after here move spares
  | hostReady here | hostPending here =>
    refine Nat.le_of_eq (same rfl ?_ rfl).symm
    rw [here]
    rfl
  | drops here =>
    refine Nat.le_of_eq (same rfl ?_ rfl).symm
    rcases here with parked | parked | parked <;>
    · rw [parked]
      rfl
  | dropsQueued here =>
    refine Nat.le_of_eq (same rfl ?_ rfl).symm
    rw [here]
    rfl
  | monitor scaled ticked =>
    have more := monitorStep_outstanding_le ticked spares
    exact Nat.add_le_add_right more _
  | monitorEnds asleep =>
    refine Nat.le_of_eq (same rfl rfl ?_).symm
    rw [asleep]
    rfl
  | _ => exact Nat.le_of_eq (same rfl rfl rfl).symm

end RunnerState

/-! ### Calls -/

/-- A call of `pressure_snapshot`, with the most permits that dispatches held at
an instant of the call as history. -/
structure PressureCall where
  point : PressurePoint
  most : Nat
deriving Repr, DecidableEq

/-- The call goes on while the runner moves. -/
def PressureCall.witness (call : PressureCall) (held : Nat) : PressureCall :=
  if call.point.running then { call with most := max call.most held } else call

/-- A trigger generation and the calls of `pressure_snapshot`. -/
structure PressureState (Payload : Type) where
  runner : RunnerState Payload
  calls : List PressureCall

inductive PressureAction (Payload : Type) where
  | runner (action : Action Payload)
  /-- somebody calls `pressure_snapshot` -/
  | call
  /-- the next read of a call -/
  | proceed (call : Nat)

namespace PressureState

def new (cfg : RunnerConfig) (now : Instant) : PressureState Payload :=
  { runner := .new cfg now, calls := [] }

/-- There is a record to call it on inside a daemon only. -/
def step (cfg : RunnerConfig) (s : PressureState Payload) :
    PressureAction Payload → Option (PressureState Payload)
  | .runner a =>
    (Runner.step cfg s.runner a).map fun next =>
      { runner := next, calls := s.calls.map (·.witness next.permitsHeld) }
  | .call =>
    if cfg.inDaemon then
      some
        { s with calls := s.calls ++ [⟨.loadLimit, s.runner.permitsHeld⟩] }
    else none
  | .proceed i =>
    s.calls[i]?.bind fun call =>
      (call.point.proceed cfg s.runner).map fun point =>
        { s with calls := s.calls.set i { call with point := point } }

end PressureState

/-- No permit is taken back while a call is between its two reads, and none is
taken back and still counted when a call reads the limit. -/
def Unshrunk (s : PressureState Payload) : PressureAction Payload → Prop
  | .runner a =>
    s.runner.takesBack a = true → (s.calls.any fun call => call.point.between) = false
  | .call => True
  | .proceed i =>
    s.calls[i]?.map PressureCall.point = some .loadLimit → s.runner.revoking = 0

instance (s : PressureState Payload) (a : PressureAction Payload) :
    Decidable (Unshrunk s a) :=
  match a with
  | .runner _ => inferInstanceAs (Decidable (_ → _))
  | .call => inferInstanceAs (Decidable True)
  | .proceed _ => inferInstanceAs (Decidable (_ → _))

/-! ### The bound -/

/-- What a call has read is covered by permits that are there, and what it
returns by permits that were held. -/
def PressurePoint.Covered (runner : RunnerState Payload) (most : Nat) :
    PressurePoint → Prop
  | .loadLimit => runner.permitsHeld ≤ most
  | .readPermits currentLimit =>
    currentLimit ≤ runner.total ∧ runner.permitsHeld ≤ most
  | .readFacts currentLimit availablePermits =>
    currentLimit - availablePermits ≤ most
  | .returned snapshot => snapshot.inFlight ≤ most

/-- The permits of the runner are accounted for, and the calls are covered. -/
structure PressureLedger (cfg : RunnerConfig) (s : PressureState Payload) :
    Prop where
  ledger : Ledger cfg s.runner
  covered : ∀ call ∈ s.calls, call.point.Covered s.runner call.most

namespace PressureLedger

variable {s next : PressureState Payload} {a : PressureAction Payload}

theorem new (cfg : RunnerConfig) (now : Instant) :
    PressureLedger cfg (.new cfg now : PressureState Payload) :=
  ⟨.new cfg now, fun _ mem => absurd mem List.not_mem_nil⟩

/-- The runner moves. -/
theorem runs {runner after : RunnerState Payload} {call : PressureCall}
    (covered : call.point.Covered runner call.most)
    (kept : call.point.between = true → runner.total ≤ after.total) :
    (call.witness after.permitsHeld).point.Covered after
      (call.witness after.permitsHeld).most := by
  obtain ⟨point, most⟩ := call
  cases point with
  | loadLimit => exact Nat.le_max_right _ _
  | readPermits currentLimit => exact ⟨covered.1.trans (kept rfl), Nat.le_max_right _ _⟩
  | readFacts currentLimit availablePermits => exact Nat.le_trans covered (Nat.le_max_left _ _)
  | returned snapshot => exact covered

/-- A call reads. -/
theorem reads (inv : PressureLedger cfg s) {call : PressureCall}
    {point : PressurePoint} (covered : call.point.Covered s.runner call.most)
    (counted : call.point = .loadLimit → s.runner.revoking = 0)
    (proceeded : call.point.proceed cfg s.runner = some point) :
    point.Covered s.runner call.most := by
  cases here : call.point with
  | loadLimit =>
    rw [here] at proceeded covered
    cases proceeded
    exact ⟨inv.ledger.limit_le_total (counted here), covered⟩
  | readPermits currentLimit =>
    rw [here] at proceeded covered
    cases proceeded
    have limited := covered.1
    rw [s.runner.total_eq] at limited
    have held := covered.2
    change _ - _ ≤ _
    omega
  | readFacts currentLimit availablePermits =>
    rw [here] at proceeded covered
    cases proceeded
    exact covered
  | returned snapshot =>
    rw [here] at proceeded
    cases proceeded

theorem step (inv : PressureLedger cfg s) (unshrunk : Unshrunk s a) (h : s.step cfg a = some next) :
    PressureLedger cfg next := by
  cases a with
  | runner a =>
    obtain ⟨after, moved, rfl⟩ := Option.map_eq_some_iff.mp h
    refine ⟨inv.ledger.step moved, ?_⟩
    intro call mem
    obtain ⟨call, old, rfl⟩ := List.mem_map.mp mem
    refine runs (inv.covered call old) ?_
    intro between
    apply RunnerState.total_step inv.ledger moved
    cases takes : s.runner.takesBack a with
    | false => rfl
    | true =>
      have none_between := unshrunk takes
      rw [List.any_eq_false] at none_between
      exact absurd between (none_between call old)
  | call =>
    simp only [PressureState.step] at h
    split at h <;> cases h
    refine ⟨inv.ledger, ?_⟩
    intro call mem
    rcases List.mem_append.mp mem with old | new
    · exact inv.covered call old
    · rw [List.mem_singleton.mp new]
      exact Nat.le_refl _
  | proceed i =>
    simp only [PressureState.step] at h
    obtain ⟨call, found, h⟩ := Option.bind_eq_some_iff.mp h
    obtain ⟨point, proceeded, rfl⟩ := Option.map_eq_some_iff.mp h
    have counted : call.point = .loadLimit → s.runner.revoking = 0 := by
      intro loading
      apply unshrunk
      rw [found, Option.map_some, loading]
    have read : point.Covered s.runner call.most :=
      inv.reads (inv.covered call (List.mem_of_getElem? found)) counted proceeded
    refine ⟨inv.ledger, ?_⟩
    intro other there
    rcases List.mem_or_eq_of_mem_set there with old | rfl
    · exact inv.covered other old
    · exact read

end PressureLedger

/-- As long as no permit is taken back between the two reads of a call, and none
is still counted at the first of them, a snapshot reports at most as many
dispatches as held a permit at some instant of its call. -/
theorem pressure_not_inflated {config : RunnerConfig} {now : Instant}
    {schedule : List (PressureAction Payload)} {state : PressureState Payload}
    (run : GuardedRun (PressureState.step config) Unshrunk (.new config now) schedule state)
    {call : PressureCall} (listed : call ∈ state.calls) {snapshot : TriggerPressureSnapshot}
    (returned : call.point = .returned snapshot) :
    snapshot.inFlight ≤ call.most := by
  have ledger : PressureLedger config state :=
    run.invariant (.new config now) fun ledger unshrunk stepped =>
      ledger.step unshrunk stepped
  have covered := ledger.covered call listed
  rw [returned] at covered
  exact covered

/-- A snapshot, from its call to its return. -/
def oneSnapshot : List (PressureAction Unit) :=
  .call :: List.replicate 3 (.proceed 0)

/-- One dispatch is running and reported. -/
theorem pressure_not_inflated_one_dispatch :
    ∃ (state : PressureState Unit) (snapshot : TriggerPressureSnapshot),
      GuardedRun (PressureState.step (.managed none)) Unshrunk
          (.new (.managed none) 0)
          ((Runner.arrival 4 () ++ Runner.loops 14).map .runner ++ oneSnapshot)
          state ∧
        state.calls = [⟨.returned snapshot, 1⟩] ∧ snapshot.inFlight ≤ 1 := by
  obtain ⟨state, run, calls⟩ :
      ∃ state : PressureState Unit,
        GuardedRun (PressureState.step (.managed none)) Unshrunk
            (.new (.managed none) 0)
            ((Runner.arrival 4 () ++ Runner.loops 14).map .runner ++ oneSnapshot) state ∧
          state.calls = [⟨.returned ⟨⟨1⟩, "trigger", 1, 1, 1, 0, 1, 0, 0, none⟩, 1⟩] :=
    GuardedRun.exists_of_check (by decide +kernel)
  refine ⟨state, _, run, calls, ?_⟩
  exact pressure_not_inflated run (calls ▸ List.mem_cons_self) rfl

/-- An overlay of one, and a dispatch that has taken back three of four
permits. -/
def takingBack : List (Action Unit) :=
  List.flatten
    [[.requestOverlay (limitOverlay 1)], Runner.arrival 4 (), Runner.loops 10]

/-- Three dispatches are reported and none is running. -/
theorem pressure_inflated_while_shrinking :
    ∃ state : PressureState Unit,
      Run (PressureState.step (.managed (some fourPermitPolicy)))
          (.new (.managed (some fourPermitPolicy)) 0)
          (takingBack.map .runner ++ oneSnapshot) state ∧
        state.calls = [⟨.returned ⟨⟨1⟩, "trigger", 1, 3, 4, 1, 0, 0, 0, none⟩, 0⟩] :=
  Run.exists_of_check (by decide +kernel)

end ServiceDaemon
