/-
Purpose: Who changes the concurrency limit while no overlay is requested.  A
  dispatch reads the limit before it takes the lock and reconciles to what it
  read; as long as the monitor stores no other limit in between, the dispatch
  changes nothing, and every new limit is the monitor's.
Main exports: ResizePoint.stores, LoopPoint.holdsRead, Undisturbed,
  dispatch_leaves_limit
-/
import ServiceDaemon.Proofs.OverlayEnforcement

namespace ServiceDaemon

open AsyncLib StepSystem

/-- The limit a resizing thread is about to store. -/
def ResizePoint.stores : ResizePoint → Option Nat
  | .storeRaised _ desired => some desired
  | .storeLowered cur revoked => some (cur - revoked)
  | _ => none

/-! ### A record without an overlay -/

namespace TriggerPolicyOverlayState

/-- Without an overlay and without a restore to make up for, a reconciliation
goes to the target it was called with. -/
theorem chooseDesired_default (base : TriggerBasePolicy) (now : Instant) (baseTarget : Nat) :
    default.chooseDesired base now baseTarget = (default, baseTarget) :=
  rfl

theorem clearOverlay_default
    (accepted : default.clearOverlay registered reason = .ok record) : record = default := by
  obtain ⟨-, rfl⟩ := clearOverlay_ok accepted
  rfl

end TriggerPolicyOverlayState

/-! ### One thread -/

section Threads

variable {base : TriggerBasePolicy} {shared after : ConcurrencyState}

theorem ResizeMove.currentLimit (move : ResizeMove shared point after next) :
    after.currentLimit = point.stores.getD shared.currentLimit := by
  cases move <;> rfl

theorem ReconcileMove.currentLimit (move : ReconcileMove base actor shared point after next) :
    after.currentLimit = point.pendingResize.stores.getD shared.currentLimit := by
  cases move with
  | resizes move => exact move.currentLimit
  | _ => rfl

/-- Reconciling requests no overlay and registers no record. -/
theorem ReconcileMove.untouched
    (move : ReconcileMove base actor shared point after next) (absent : shared.overlay = .default) :
    after.overlay = .default ∧ after.registered = shared.registered := by
  cases move with
  | chooses =>
    rw [absent]
    exact ⟨rfl, rfl⟩
  | resizes move =>
    obtain ⟨-, kept, registered, -⟩ := move.frame
    exact ⟨kept.trans absent, registered⟩
  | _ => exact ⟨absent, rfl⟩

/-- A tick of the monitor changes the limit where it stores one. -/
theorem monitorStep_currentLimit
    (h : monitorStep base scaling inDaemon shared here = some (after, there)) :
    after.currentLimit = here.pendingResize.stores.getD shared.currentLimit := by
  cases here with
  | reconciling idleSince point =>
    rcases monitorStep_reconciling h with
      ⟨next, move, -⟩ | ⟨outside, rfl, -⟩
    · exact move.currentLimit
    · show after.currentLimit = point.pendingResize.stores.getD after.currentLimit
      rw [ReconcilePoint.pendingResize_of_not_critical outside]
      rfl
  | resizing idleSince point =>
    rcases monitorStep_resizing h with
      ⟨next, move, -⟩ | ⟨⟨limit, rfl⟩, rfl, -⟩
    · exact move.currentLimit
    · rfl
  | _ =>
    obtain ⟨same, -, -⟩ := monitorStep_samples rfl h
    rw [same]
    rfl

theorem monitorStep_untouched
    (h : monitorStep base scaling inDaemon shared here = some (after, there))
    (absent : shared.overlay = .default) :
    after.overlay = .default ∧ after.registered = shared.registered := by
  cases here with
  | reconciling idleSince point =>
    rcases monitorStep_reconciling h with
      ⟨next, move, -⟩ | ⟨-, rfl, -⟩
    · exact move.untouched absent
    · exact ⟨absent, rfl⟩
  | resizing idleSince point =>
    rcases monitorStep_resizing h with ⟨next, move, -⟩ | ⟨-, rfl, -⟩
    · obtain ⟨-, kept, registered, -⟩ := move.frame
      exact ⟨kept.trans absent, registered⟩
    · exact ⟨absent, rfl⟩
  | _ =>
    obtain ⟨same, pruned, -⟩ := monitorStep_samples rfl h
    refine ⟨?_, by rw [same]⟩
    rcases pruned with kept | pruned
    · exact kept.trans absent
    · rw [pruned, absent]
      rfl

/-- A reconciliation whose target is the limit itself.  A target that was read
from an unregistered record is never used. -/
def ReconcilePoint.Keeps (registered : Bool) (limit : Nat) :
    ReconcilePoint → Prop
  | .lookup baseTarget => registered = true → baseTarget = limit
  | .lock baseTarget | .choose baseTarget => baseTarget = limit
  | .loadLimit desired => desired = limit
  | .readAvailable desired cur => desired = limit ∧ cur = limit
  | .resize _ => False
  | .unlock _ | .finished _ => True

/-- Such a reconciliation touches neither the limit nor a permit, and its
target stays the limit. -/
theorem ReconcileMove.keeps (move : ReconcileMove base actor shared point after next)
    (absent : shared.overlay = .default)
    (fits : 1 ≤ shared.currentLimit ∧ shared.currentLimit ≤ base.maxConcurrency)
    (keeps : point.Keeps shared.registered shared.currentLimit) :
    next.Keeps shared.registered shared.currentLimit ∧ after.currentLimit = shared.currentLimit ∧
      after.semaphore = shared.semaphore := by
  cases move with
  | finds registered => exact ⟨keeps registered, rfl, rfl⟩
  | locks free => exact ⟨keeps, rfl, rfl⟩
  | chooses =>
    refine ⟨?_, rfl, rfl⟩
    rw [absent, TriggerPolicyOverlayState.chooseDesired_default]
    cases keeps
    exact clampDesired_of_fits fits
  | loadsLimit => exact ⟨⟨keeps, rfl⟩, rfl, rfl⟩
  | readsAvailable =>
    obtain ⟨rfl, rfl⟩ := keeps
    refine ⟨?_, rfl, rfl⟩
    simp [startResize, ReconcilePoint.Keeps]
  | resizes move => exact keeps.elim
  | resized => exact keeps.elim
  | misses _ | unlocks => exact ⟨trivial, rfl, rfl⟩

end Threads

/-! ### The generation -/

variable {Payload : Type} {config : RunnerConfig}
  {s next : RunnerState Payload}

/-- The loop has read the limit it will reconcile to, and does not hold the
lock yet. -/
def LoopPoint.holdsRead (point : LoopPoint Payload) : Bool :=
  match point.reconcilePoint with
  | .lookup _ | .lock _ => true
  | _ => false

/-- No overlay is requested, and the monitor stores no other limit while a
dispatch holds its read of the limit. -/
def Undisturbed (s : RunnerState Payload) : Action Payload → Prop
  | .requestOverlay _ => False
  | .monitor =>
    s.loop.holdsRead = true → s.monitor.pendingResize.stores.getD s.shared.currentLimit =
        s.shared.currentLimit
  | _ => True

instance (s : RunnerState Payload) :
    DecidablePred (Undisturbed s)
  | .requestOverlay _ => inferInstanceAs (Decidable False)
  | .monitor => inferInstanceAs (Decidable (_ → _ = _))
  | .loop | .hostReady _ | .hostPending | .dropFuture
  | .taskReturnsPermit _ _ | .taskCompletes _ | .monitorEnds _
  | .clearOverlay _ | .cancel | .requestReload | .advance _ =>
    inferInstanceAs (Decidable True)

/-- No overlay is stored and none has to be made up for, and a dispatch that
reconciles reconciles to the limit there is. -/
structure Steady (s : RunnerState Payload) : Prop where
  absent : s.shared.overlay = .default
  target : s.loop.reconcilePoint.Keeps s.shared.registered
    s.shared.currentLimit

namespace Steady

theorem new (config : RunnerConfig) (now : Instant) :
    Steady (RunnerState.new config now : RunnerState Payload) :=
  ⟨rfl, trivial⟩

/-- A thread that leaves the limit, the record and the loop's reconciliation
alone. -/
theorem same (steady : Steady s) (overlay : next.shared.overlay = s.shared.overlay)
    (registered : next.shared.registered = s.shared.registered)
    (limit : next.shared.currentLimit = s.shared.currentLimit)
    (point : next.loop.reconcilePoint = s.loop.reconcilePoint) : Steady next := by
  refine ⟨overlay.trans steady.absent, ?_⟩
  rw [registered, limit, point]
  exact steady.target

theorem settled (absent : next.shared.overlay = .default)
    (outside : next.loop.reconcilePoint = .finished 0) : Steady next := by
  refine ⟨absent, ?_⟩
  rw [outside]
  trivial

theorem absent_dropLocals (steady : Steady s) : s.dropLocals.shared.overlay = .default := by
  show ({ s.shared.overlay with overlay := none } : TriggerPolicyOverlayState) = .default
  rw [steady.absent]
  rfl

theorem loops (steady : Steady s) (frame : LoopFrame config s next) : Steady next := by
  have absent : next.shared.overlay = .default := by
    rcases frame.shared with same | dropped
    · rw [same]
      exact steady.absent
    · rw [dropped]
      exact steady.absent_dropLocals
  apply settled absent
  rcases frame.lands with elsewhere | ⟨payload, identity, reload, rfl⟩
  · exact LoopPoint.reconcilePoint_of_not_dispatches elsewhere
  · simp only [RunnerState.enterDispatch]
    cases config.inDaemon <;> rfl

/-- A step of `dispatch`: while it applies the overlay it changes neither the
limit nor a permit. -/
theorem dispatches (steady : Steady s) (inv : Ledger config s)
    (here : s.loop = .dispatching frame point) (move : DispatchMove config frame s point next) :
    Steady next ∧ next.shared.currentLimit = s.shared.currentLimit ∧ (s.loop.appliesOverlay = true →
        next.shared.semaphore = s.shared.semaphore) := by
  cases move with
  | loadsLimit =>
    refine ⟨⟨steady.absent, ?_⟩, rfl, fun _ => rfl⟩
    intro registered
    have found : s.shared.registered = true := registered
    simp [currentLimitOrBase, found]
  | reconciles h =>
    have move := ReconcileMove.of_reconcileStep h
    have target := steady.target
    rw [here] at target
    obtain ⟨keeps, limit, sem⟩ := move.keeps steady.absent ⟨inv.limit_pos, inv.limit_le⟩ target
    obtain ⟨absent, registered⟩ := move.untouched steady.absent
    refine ⟨⟨absent, ?_⟩, limit, fun _ => sem⟩
    rw [registered, limit]
    exact keeps
  | reconciled => exact ⟨settled steady.absent rfl, rfl, fun _ => rfl⟩
  | prunes _ =>
    refine ⟨settled ?_ rfl, rfl, ?_⟩
    · show s.shared.overlay.pruneExpiredOverlay _ = .default
      rw [steady.absent]
      rfl
    · rw [here]
      intro applies
      cases applies
  | spawns =>
    refine ⟨settled steady.absent ?_, rfl, ?_⟩
    · simp only [RunnerState.spawnDispatch]
      split <;> rfl
    · rw [here]
      intro applies
      cases applies
  | _ =>
    refine ⟨settled steady.absent rfl, rfl, ?_⟩
    rw [here]
    intro applies
    cases applies

/-- Where the monitor stores a new limit, the loop is not reconciling: the
guard forbids it before the loop has the lock, and the lock forbids it from
then on. -/
theorem loop_finished (inv : Ledger config s) (guarded : Undisturbed s .monitor)
    (changes : s.monitor.pendingResize.stores.getD s.shared.currentLimit ≠ s.shared.currentLimit) :
    ∃ limit, s.loop.reconcilePoint = .finished limit := by
  have unread : s.loop.holdsRead = false := by
    cases reads : s.loop.holdsRead with
    | false => rfl
    | true => exact absurd (guarded reads) changes
  have outside : s.loop.reconcilePoint.critical = false := by
    cases inside : s.loop.reconcilePoint.critical with
    | false => rfl
    | true =>
      have managed : config.inDaemon = true := by
        cases alone : config.inDaemon with
        | true => rfl
        | false =>
          rw [inv.loop_settled alone] at inside
          cases inside
      have sound := inv.monitorSound
      rw [managed] at sound
      rw [MonitorPoint.pendingResize_of_not_critical sound (inv.monitor_outside inside)] at changes
      exact absurd rfl changes
  cases point : s.loop.reconcilePoint with
  | finished limit => exact ⟨limit, rfl⟩
  | lookup _ | lock _ =>
    simp only [LoopPoint.holdsRead, point] at unread
    cases unread
  | _ =>
    rw [point] at outside
    cases outside

theorem monitors (steady : Steady s) (inv : Ledger config s) (guarded : Undisturbed s .monitor)
    (h : monitorStep config.base scaling config.inDaemon s.shared s.monitor =
      some (shared, after)) :
    Steady { s with shared := shared, monitor := after } := by
  obtain ⟨absent, registered⟩ := monitorStep_untouched h steady.absent
  have limit := monitorStep_currentLimit h
  by_cases kept : s.monitor.pendingResize.stores.getD s.shared.currentLimit = s.shared.currentLimit
  · exact steady.same (absent.trans steady.absent.symm) registered (limit.trans kept) rfl
  · obtain ⟨reached, finished⟩ := loop_finished inv guarded kept
    refine ⟨absent, ?_⟩
    show s.loop.reconcilePoint.Keeps _ _
    rw [finished]
    trivial

/-- The step lemma. -/
theorem step (steady : Steady s) (inv : Ledger config s)
    (guarded : Undisturbed s a) (h : Runner.step config s a = some next) : Steady next := by
  cases Move.of_step h with
  | loop elsewhere move => exact steady.loops (move.frame elsewhere)
  | dispatch here move => exact (steady.dispatches inv here move).1
  | hostReady here | hostPending here => exact settled steady.absent rfl
  | drops here => exact settled steady.absent_dropLocals rfl
  | dropsQueued here => exact settled steady.absent_dropLocals rfl
  | monitor scaled ticked => exact steady.monitors inv guarded ticked
  | requested _ | requestRejected => exact guarded.elim
  | cleared accepted =>
    rw [steady.absent] at accepted
    exact ⟨TriggerPolicyOverlayState.clearOverlay_default accepted, steady.target⟩
  | clearRejected => exact steady
  | _ => exact steady.same rfl rfl rfl rfl

theorem reaches
    (run : GuardedRun (Runner.step config) Undisturbed
      (RunnerState.new config now) acts s) : Steady s := by
  induction run with
  | nil => exact new config now
  | snoc earlier guarded h ih => exact ih.step (Ledger.reaches earlier.toRun) guarded h

end Steady

/-- Outside a reconciliation only the monitor stores a limit. -/
theorem currentLimit_of_step (steady : Steady s) (inv : Ledger config s)
    (h : Runner.step config s a = some next) :
    next.shared.currentLimit = s.shared.currentLimit ∨ a = .monitor ∧
        s.monitor.pendingResize.stores = some next.shared.currentLimit := by
  cases Move.of_step h with
  | loop elsewhere move => exact .inl (move.frame elsewhere).currentLimit
  | dispatch here move => exact .inl (steady.dispatches inv here move).2.1
  | monitor scaled ticked =>
    have limit := monitorStep_currentLimit ticked
    cases stored : s.monitor.pendingResize.stores with
    | none =>
      rw [stored] at limit
      exact .inl limit
    | some reached =>
      rw [stored] at limit
      exact .inr ⟨rfl, congrArg some limit.symm⟩
  | _ => exact .inl rfl

/-- Dispatches do not fight the scaler.  In every run without an overlay in
which the monitor stores no new limit between a dispatch's read of the limit and
its lock: `apply_effective_concurrency` changes neither the limit nor a permit,
a step that changes the limit is the monitor's store of that limit, and a
reconciliation always goes to the target its caller decided on. -/
theorem dispatch_leaves_limit {now : Instant} {schedule : List (Action Payload)}
    {state : RunnerState Payload} {action : Action Payload}
    (run : GuardedRun (Runner.step config) Undisturbed (RunnerState.new config now) schedule state)
    (stepped : Runner.step config state action = some next) :
    (state.loop.appliesOverlay = true → action = .loop →
        next.shared.currentLimit = state.shared.currentLimit ∧
          next.shared.semaphore = state.shared.semaphore) ∧
      (next.shared.currentLimit ≠ state.shared.currentLimit →
        action = .monitor ∧ state.monitor.pendingResize.stores = some next.shared.currentLimit) ∧
      ∀ baseTarget,
        (state.shared.overlay.chooseDesired config.base state.shared.now
          baseTarget).2 = baseTarget := by
  have steady := Steady.reaches run
  have ledger := Ledger.reaches run.toRun
  refine ⟨?_, ?_, ?_⟩
  · rintro applies rfl
    cases Move.of_step stepped with
    | loop elsewhere move =>
      rw [LoopPoint.appliesOverlay_of_not_dispatches elsewhere] at applies
      cases applies
    | dispatch here move =>
      obtain ⟨-, limit, semaphore⟩ := steady.dispatches ledger here move
      exact ⟨limit, semaphore applies⟩
  · intro changed
    rcases currentLimit_of_step steady ledger stepped with same | stores
    · exact absurd same changed
    · exact stores
  · intro baseTarget
    rw [steady.absent]
    rfl

/-- One handler runs, the next dispatch is about to read the limit, and the
monitor raises it to two. -/
theorem dispatch_leaves_limit_scaled_up :
    ∃ state next : RunnerState Unit,
      GuardedRun (Runner.step (.managed (some .default))) Undisturbed
          (RunnerState.new (.managed (some .default)) 0)
          (List.flatten [Runner.arrival 4 (), Runner.loops 14, Runner.arrival 5 (),
              Runner.loops 1, [.advance monitorInterval],
              List.replicate 12 .monitor])
          state ∧
        Runner.step (.managed (some .default)) state .monitor = some next ∧
        next.shared.currentLimit ≠ state.shared.currentLimit ∧
        state.monitor.pendingResize.stores = some next.shared.currentLimit := by
  obtain ⟨state, run, checked⟩ :
      ∃ state : RunnerState Unit,
        GuardedRun (Runner.step (.managed (some .default))) Undisturbed
            (RunnerState.new (.managed (some .default)) 0)
            (List.flatten [Runner.arrival 4 (), Runner.loops 14, Runner.arrival 5 (),
                Runner.loops 1, [.advance monitorInterval],
                List.replicate 12 .monitor])
            state ∧
          (Runner.step (.managed (some .default)) state .monitor).any
            (fun next => decide (next.shared.currentLimit ≠ state.shared.currentLimit)) = true :=
    GuardedRun.exists_of_check (by decide +kernel)
  cases stepped : Runner.step (.managed (some .default)) state .monitor with
  | none =>
    rw [stepped] at checked
    cases checked
  | some next =>
    rw [stepped] at checked
    have changed : next.shared.currentLimit ≠ state.shared.currentLimit :=
      of_decide_eq_true checked
    exact ⟨state, next, run, stepped, changed, ((dispatch_leaves_limit run stepped).2.1 changed).2⟩

/-- A dispatch undoes a scale-up.  It reads the limit, one; the monitor finds
the only permit in use and raises the limit to two; the dispatch takes the lock
and reconciles to the one it had read, revoking the permit the monitor added
while the handler still runs. -/
theorem dispatch_revokes_scale_up :
    ∃ before after : RunnerState Unit,
      Runner.Reaches (.managed (some .default)) 0
          (List.flatten [Runner.arrival 4 (), Runner.loops 14, Runner.arrival 5 (),
              Runner.loops 2, [.advance monitorInterval],
              List.replicate 16 .monitor])
          before ∧
        Run (Runner.step (.managed (some .default))) before (Runner.loops 8)
          after ∧
        before.loop.appliesOverlay = true ∧
        after.loop.appliesOverlay = true ∧
        before.shared.currentLimit = 2 ∧ after.shared.currentLimit = 1 ∧
        before.shared.semaphore.permits = 1 ∧
        after.shared.semaphore.permits = 0 ∧ after.tasksHolding = 1 := by
  obtain ⟨before, reached, applies, limit, idle, checked⟩ :
      ∃ before : RunnerState Unit,
        Runner.Reaches (.managed (some .default)) 0
            (List.flatten [Runner.arrival 4 (), Runner.loops 14, Runner.arrival 5 (),
                Runner.loops 2, [.advance monitorInterval],
                List.replicate 16 .monitor])
            before ∧
          before.loop.appliesOverlay = true ∧
          before.shared.currentLimit = 2 ∧
          before.shared.semaphore.permits = 1 ∧
          (runSchedule (Runner.step (.managed (some .default))) before (Runner.loops 8)).any
              (fun after => decide (after.loop.appliesOverlay = true ∧
                after.shared.currentLimit = 1 ∧
                after.shared.semaphore.permits = 0 ∧
                after.tasksHolding = 1)) = true :=
    Run.exists_of_check (by decide +kernel)
  obtain ⟨after, run, still, lowered, revoked, held⟩ :=
    Run.exists_of_check checked
  exact ⟨before, after, reached, run, applies, still, limit, lowered, idle, revoked, held⟩

end ServiceDaemon
