/-
Purpose: Permit accounting of a whole trigger generation.  In every reachable
  state the limit counter, corrected by the resize in progress, equals the
  permits that are idle, assigned or held, and it stays within the base policy.
Main exports: RunnerState.permitsHeld, Ledger, Ledger.step, permits_accounted,
  serial_unless_overridden
-/
import ServiceDaemon.Core.DaemonBuilder
import ServiceDaemon.Core.Moves
import ServiceDaemon.Proofs.Resize

namespace ServiceDaemon

open AsyncLib StepSystem RunnerState LoopPoint ReconcilePoint

variable {Payload : Type} {cfg : RunnerConfig}
  {s next : RunnerState Payload}

/-! ### Who holds a permit -/

namespace LoopPoint

/-- Where the loop stands in a reconciliation; `finished` elsewhere. -/
def reconcilePoint : LoopPoint Payload → ReconcilePoint
  | .dispatching _ (.reconcile point) => point
  | _ => .finished 0

/-- Between its acquire and its spawn a dispatch holds its permit in the
loop. -/
def holdsPermit : LoopPoint Payload → Bool
  | .dispatching _ .record | .dispatching _ .prune
  | .dispatching _ .readPolicy | .dispatching _ (.spawn _) => true
  | _ => false

/-- The loop is in the part of `dispatch` that runs inside a daemon only. -/
def appliesOverlay : LoopPoint Payload → Bool
  | .dispatching _ .loadLimit | .dispatching _ (.reconcile _) => true
  | _ => false

theorem reconcilePoint_of_not_dispatches {point : LoopPoint Payload}
    (elsewhere : point.dispatches = false) : point.reconcilePoint = .finished 0 := by
  cases point with
  | dispatching frame inner => cases elsewhere
  | _ => rfl

theorem holdsPermit_of_not_dispatches {point : LoopPoint Payload}
    (elsewhere : point.dispatches = false) : point.holdsPermit = false := by
  cases point with
  | dispatching frame inner => cases elsewhere
  | _ => rfl

theorem appliesOverlay_of_not_dispatches {point : LoopPoint Payload}
    (elsewhere : point.dispatches = false) : point.appliesOverlay = false := by
  cases point with
  | dispatching frame inner => cases elsewhere
  | _ => rfl

end LoopPoint

namespace RunnerState

/-- Dispatch tasks that have not returned their permit. -/
def tasksHolding (s : RunnerState Payload) : Nat :=
  s.tasks.countP DispatchTask.holdsPermit

/-- Permits taken by dispatches: by their tasks, or by the loop on behalf of
the dispatch it is about to spawn. -/
def holders (s : RunnerState Payload) : Nat :=
  s.tasksHolding + s.loop.holdsPermit.toNat

/-- Permits held by dispatches; a permit that was assigned to the waiting
acquire counts as held. -/
def permitsHeld (s : RunnerState Payload) : Nat :=
  s.shared.semaphore.assigned.length + s.holders

/-- No thread is resizing: the `reconcile` section is free, and a monitor that
runs without an overlay record is not in the middle of its own resize. -/
def Unresized (cfg : RunnerConfig) (s : RunnerState Payload) : Prop :=
  s.shared.reconcileLock = none ∧ (cfg.inDaemon = false →
      ∀ idleSince point, s.monitor ≠ .resizing idleSince point)

end RunnerState

theorem countP_holdsPermit (tasks : List (DispatchTask Payload)) :
    tasks.countP DispatchTask.holdsPermit =
      (tasks.map DispatchTask.state).countP (fun s => s = .running) := by
  rw [List.countP_map]
  rfl

theorem countP_dropObservers (inFlight : FuturesUnordered Nat)
    (tasks : List (DispatchTask Payload)) :
    (dropObservers inFlight tasks).countP
        DispatchTask.holdsPermit =
      tasks.countP DispatchTask.holdsPermit := by
  rw [countP_holdsPermit, dropObservers_state, ← countP_holdsPermit]

/-- Replacing one task changes the count by what the task held and holds. -/
theorem countP_set_task {tasks : List (DispatchTask Payload)} {id : Nat}
    {task : DispatchTask Payload} (found : tasks[id]? = some task)
    (changed : DispatchTask Payload) :
    (tasks.set id changed).countP DispatchTask.holdsPermit + task.holdsPermit.toNat =
      tasks.countP DispatchTask.holdsPermit + changed.holdsPermit.toNat := by
  induction tasks generalizing id with
  | nil => cases found
  | cons head tail ih =>
    cases id with
    | zero =>
      cases found
      simp only [List.set_cons_zero, List.countP_cons, Bool.toNat, Bool.cond_eq_ite]
      omega
    | succ id =>
      have tailCount := ih found
      simp only [List.set_cons_succ, List.countP_cons]
      omega

/-! ### Moves outside `dispatch` -/

namespace LoopFrame

theorem semaphore (frame : LoopFrame cfg s next) : next.shared.semaphore = s.shared.semaphore := by
  rcases frame.shared with same | dropped
  · rw [same]
  · rw [dropped]
    rfl

theorem currentLimit (frame : LoopFrame cfg s next) :
    next.shared.currentLimit = s.shared.currentLimit := by
  rcases frame.shared with same | dropped
  · rw [same]
  · rw [dropped]
    rfl

theorem reconcileLock (frame : LoopFrame cfg s next) :
    next.shared.reconcileLock = s.shared.reconcileLock := by
  rcases frame.shared with same | dropped
  · rw [same]
  · rw [dropped]
    rfl

theorem tasksHolding (frame : LoopFrame cfg s next) : next.tasksHolding = s.tasksHolding := by
  simp only [RunnerState.tasksHolding, countP_holdsPermit, frame.tasks]

/-- Outside `dispatch`, and where `dispatch` begins, the loop holds no permit
and does not reconcile. -/
theorem settled (frame : LoopFrame cfg s next) :
    next.loop.holdsPermit = false ∧ next.loop.reconcilePoint = .finished 0 ∧
      (cfg.inDaemon = false → next.loop.appliesOverlay = false) := by
  rcases frame.lands with elsewhere | ⟨payload, identity, reload, rfl⟩
  · exact ⟨holdsPermit_of_not_dispatches elsewhere, reconcilePoint_of_not_dispatches elsewhere,
      fun _ => appliesOverlay_of_not_dispatches elsewhere⟩
  · simp only [enterDispatch]
    refine ⟨?_, ?_, ?_⟩
    · split <;> rfl
    · split <;> rfl
    · intro alone
      simp [alone, appliesOverlay]

end LoopFrame

/-! ### The ledger -/

/-- The books of a generation.  At most one thread has permits pending, because
the threads that resize exclude each other. -/
structure Ledger (cfg : RunnerConfig) (s : RunnerState Payload) :
    Prop where
  balanced :
    s.shared.semaphore.outstanding + s.holders + (s.loop.reconcilePoint.pendingResize.revoked +
          s.monitor.pendingResize.revoked) =
      s.shared.currentLimit + (s.loop.reconcilePoint.pendingResize.added +
          s.monitor.pendingResize.added)
  loopSound : s.loop.reconcilePoint.Sound cfg.base.maxConcurrency
    s.shared.currentLimit
  monitorSound : s.monitor.Sound cfg.inDaemon
    cfg.base.maxConcurrency s.shared.currentLimit
  loopLock : s.loop.reconcilePoint.critical = true ↔ s.shared.reconcileLock = some .dispatcher
  monitorLock : s.monitor.critical = true ↔ s.shared.reconcileLock = some .monitor
  unmanaged : cfg.inDaemon = false → s.loop.appliesOverlay = false
  limit_pos : 1 ≤ s.shared.currentLimit
  limit_le : s.shared.currentLimit ≤ cfg.base.maxConcurrency

namespace Ledger

/-- A fresh runner has all its permits idle. -/
theorem new (cfg : RunnerConfig) (now : Instant) :
    Ledger cfg (RunnerState.new cfg now : RunnerState Payload) := by
  constructor
  · have quiet : (RunnerState.new cfg now :
        RunnerState Payload).monitor.pendingResize = .finished 0 := by
      simp only [RunnerState.new]
      split <;> rfl
    rw [quiet]
    simp [RunnerState.new, RunnerState.holders, RunnerState.tasksHolding,
      reconcilePoint, holdsPermit,
      pendingResize, ResizePoint.added, ResizePoint.revoked]
  · trivial
  · simp only [RunnerState.new]
    split <;> trivial
  · constructor
    · intro inside
      cases inside
    · intro held
      cases held
  · constructor
    · intro inside
      simp only [RunnerState.new] at inside
      split at inside <;> cases inside
    · intro held
      cases held
  · exact fun _ => rfl
  · exact cfg.base.initialConcurrency_pos
  · exact cfg.base.initialConcurrency_le_max

/-- The two threads are never in the critical section together. -/
theorem monitor_outside (ledger : Ledger cfg s) (inside : s.loop.reconcilePoint.critical = true) :
    s.monitor.critical = false := by
  cases other : s.monitor.critical with
  | false => rfl
  | true =>
    have first := ledger.loopLock.mp inside
    rw [ledger.monitorLock.mp other] at first
    cases first

theorem loop_outside (ledger : Ledger cfg s) (inside : s.monitor.critical = true) :
    s.loop.reconcilePoint.critical = false := by
  cases other : s.loop.reconcilePoint.critical with
  | false => rfl
  | true =>
    have first := ledger.monitorLock.mp inside
    rw [ledger.loopLock.mp other] at first
    cases first

/-- A runner outside a daemon never reconciles in its loop. -/
theorem loop_settled (ledger : Ledger cfg s) (alone : cfg.inDaemon = false) :
    s.loop.reconcilePoint.critical = false := by
  have unmanaged := ledger.unmanaged alone
  cases point : s.loop with
  | dispatching frame inner =>
    rw [point] at unmanaged
    cases inner with
    | reconcile _ => cases unmanaged
    | _ => rfl
  | _ => rfl

/-- A move that leaves the counter, the lock and the monitor alone, conserves
the permits, and does not move the loop across the critical section. -/
theorem keeps (ledger : Ledger cfg s)
    (total : next.shared.semaphore.outstanding + next.holders =
      s.shared.semaphore.outstanding + s.holders)
    (limit : next.shared.currentLimit = s.shared.currentLimit)
    (lock : next.shared.reconcileLock = s.shared.reconcileLock) (monitor : next.monitor = s.monitor)
    (point : next.loop.reconcilePoint = s.loop.reconcilePoint ∨
      (s.loop.reconcilePoint.critical = false ∧ next.loop.reconcilePoint.critical = false))
    (unmanaged : cfg.inDaemon = false → next.loop.appliesOverlay = false) : Ledger cfg next := by
  have pending : next.loop.reconcilePoint.pendingResize = s.loop.reconcilePoint.pendingResize := by
    rcases point with same | ⟨before, after⟩
    · rw [same]
    · rw [pendingResize_of_not_critical before, pendingResize_of_not_critical after]
  have inside : next.loop.reconcilePoint.critical = s.loop.reconcilePoint.critical := by
    rcases point with same | ⟨before, after⟩
    · rw [same]
    · rw [before, after]
  constructor
  · rw [pending, monitor, limit, total]
    exact ledger.balanced
  · rw [limit]
    rcases point with same | ⟨_, after⟩
    · rw [same]
      exact ledger.loopSound
    · exact sound_of_not_critical after
  · rw [monitor, limit]
    exact ledger.monitorSound
  · rw [inside, lock]
    exact ledger.loopLock
  · rw [monitor, lock]
    exact ledger.monitorLock
  · exact unmanaged
  · rw [limit]
    exact ledger.limit_pos
  · rw [limit]
    exact ledger.limit_le

/-- A step of the dispatcher's reconciliation. -/
theorem reconciles (ledger : Ledger cfg s) {frame point after shared}
    (here : s.loop = .dispatching frame (.reconcile point))
    (h : reconcileStep cfg.base .dispatcher s.shared point = some (shared, after)) :
    Ledger cfg
      { s with shared := shared, loop := .dispatching frame (.reconcile after) } := by
  have managed : cfg.inDaemon = true := by
    cases inDaemon : cfg.inDaemon with
    | true => rfl
    | false =>
      have unmanaged := ledger.unmanaged inDaemon
      rw [here] at unmanaged
      cases unmanaged
  have balanced := ledger.balanced
  have owned := ledger.loopLock
  have sound := ledger.loopSound
  have outsideMonitor := ledger.monitor_outside
  have unheld : s.loop.holdsPermit = false := by rw [here]; rfl
  rw [here] at balanced owned sound outsideMonitor
  -- The monitor's pending permits are a constant of this step.
  have books : ReconcileBooks cfg.base.maxConcurrency
      (s.holders + s.monitor.pendingResize.revoked)
      s.monitor.pendingResize.added s.shared point := by
    refine ⟨⟨?_, pendingResize_sound sound, ledger.limit_pos, ledger.limit_le⟩, sound⟩
    simp only [reconcilePoint] at balanced
    omega
  have move := ReconcileMove.of_reconcileStep h
  have kept := books.reconciles move
  obtain ⟨own, others⟩ := move.lock owned
  have sameHolders : holders
      { s with shared := shared, loop := .dispatching frame (.reconcile after) } = s.holders := by
    simp only [holders, unheld]
    rfl
  constructor
  · rw [sameHolders]
    have balancedAfter := kept.books.balanced
    simp only [reconcilePoint]
    omega
  · exact kept.sound
  · show s.monitor.Sound cfg.inDaemon cfg.base.maxConcurrency shared.currentLimit
    have monitorSound := ledger.monitorSound
    cases inside : point.critical with
    | true =>
      rw [managed] at monitorSound ⊢
      exact MonitorPoint.sound_of_not_critical monitorSound (outsideMonitor inside)
    | false =>
      rw [(move.outside inside).2]
      exact monitorSound
  · exact own
  · exact ledger.monitorLock.trans (others .monitor nofun).symm
  · intro alone
    rw [managed] at alone
    cases alone
  · exact kept.books.limit_pos
  · exact kept.books.limit_le

/-- A step of the scale monitor. -/
theorem monitors (ledger : Ledger cfg s) {scaling shared after}
    (scaled : cfg.base.scaling = some scaling)
    (h : monitorStep cfg.base scaling cfg.inDaemon s.shared s.monitor = some (shared, after)) :
    Ledger cfg { s with shared := shared, monitor := after } := by
  have books : MonitorBooks cfg.inDaemon cfg.base.maxConcurrency
      (s.holders + s.loop.reconcilePoint.pendingResize.revoked)
      s.loop.reconcilePoint.pendingResize.added s.shared
      s.monitor := by
    refine ⟨⟨?_, MonitorPoint.pendingResize_sound ledger.monitorSound,
      ledger.limit_pos, ledger.limit_le⟩, ledger.monitorSound⟩
    have balanced := ledger.balanced
    omega
  have kept := books.monitorStep scaled h
  obtain ⟨own, others⟩ := monitorStep_lock ledger.monitorLock h
  constructor
  · have balancedAfter := kept.books.balanced
    show shared.semaphore.outstanding + s.holders + _ = _
    simp only
    omega
  · show s.loop.reconcilePoint.Sound cfg.base.maxConcurrency shared.currentLimit
    cases inside : s.monitor.critical with
    | true => exact sound_of_not_critical (ledger.loop_outside inside)
    | false =>
      cases managed : cfg.inDaemon with
      | true =>
        have monitorSound := ledger.monitorSound
        rw [managed] at monitorSound h
        rw [(monitorStep_outside inside monitorSound h).2]
        exact ledger.loopSound
      | false => exact sound_of_not_critical (ledger.loop_settled managed)
  · exact kept.sound
  · exact ledger.loopLock.trans others.symm
  · exact own
  · exact ledger.unmanaged
  · exact kept.books.limit_pos
  · exact kept.books.limit_le

/-- Every step of `dispatch` keeps the ledger. -/
theorem dispatches (ledger : Ledger cfg s) {frame : DispatchFrame Payload} {point : DispatchPoint}
    (here : s.loop = .dispatching frame point) (move : DispatchMove cfg frame s point next) :
    Ledger cfg next := by
  have unmanaged := ledger.unmanaged
  rw [here] at unmanaged
  cases move with
  | loadsLimit =>
    refine ledger.keeps ?_ rfl rfl rfl (.inr ⟨?_, rfl⟩) unmanaged
    · simp only [holders, here]
      rfl
    · rw [here]
      rfl
  | reconciles h => exact ledger.reconciles here h
  | granted idle =>
    have fewer := Semaphore.outstanding_acquire_granted frame.instanceSeq.toNat idle
    refine ledger.keeps ?_ rfl rfl rfl (.inr ⟨?_, rfl⟩) (fun _ => rfl)
    · simp only [holders, tasksHolding, here, holdsPermit, Bool.toNat_true, Bool.toNat_false]
      omega
    · rw [here]
      rfl
  | claims claimed =>
    have fewer := Semaphore.outstanding_claim claimed
    refine ledger.keeps ?_ rfl rfl rfl (.inr ⟨?_, rfl⟩) (fun _ => rfl)
    · simp only [holders, tasksHolding, here, holdsPermit, Bool.toNat_true, Bool.toNat_false]
      omega
    · rw [here]
      rfl
  | queues exhausted =>
    have same := Semaphore.outstanding_acquire_queued frame.instanceSeq.toNat exhausted
    refine ledger.keeps ?_ rfl rfl rfl (.inr ⟨?_, rfl⟩) (fun _ => rfl)
    · simp only [holders, here, same]
      rfl
    · rw [here]
      rfl
  | spawns =>
    -- The permit passes from the loop to the new task.
    rename_i policy
    have settled :
        (s.spawnDispatch cfg frame policy).loop.dispatches = false := by
      simp only [spawnDispatch]
      split <;> rfl
    refine ledger.keeps ?_ rfl rfl rfl (.inr ⟨?_, ?_⟩) ?_
    · have unheld := holdsPermit_of_not_dispatches settled
      rw [holders, holders, unheld, here]
      simp [tasksHolding, spawnDispatch, newTask, DispatchTask.holdsPermit, holdsPermit]
    · rw [here]
      rfl
    · rw [reconcilePoint_of_not_dispatches settled]
      rfl
    · intro _
      exact appliesOverlay_of_not_dispatches settled
  | reconciled | records _ | unmanaged _ | prunes _ | unregistered _
  | readsPolicy =>
    refine ledger.keeps ?_ rfl rfl rfl (.inr ⟨?_, rfl⟩) (fun _ => rfl)
    · simp only [holders, here]
      rfl
    · rw [here]
      rfl

/-- Every step of the loop outside `dispatch` keeps the ledger. -/
theorem loops (ledger : Ledger cfg s) (elsewhere : s.loop.dispatches = false)
    (frame : LoopFrame cfg s next) : Ledger cfg next := by
  obtain ⟨unheld, point, unmanaged⟩ := frame.settled
  refine ledger.keeps ?_ frame.currentLimit frame.reconcileLock frame.monitor (.inl ?_) unmanaged
  · simp only [holders, frame.semaphore, frame.tasksHolding, unheld,
      holdsPermit_of_not_dispatches elsewhere]
  · rw [point, reconcilePoint_of_not_dispatches elsewhere]

/-- The future of the loop is dropped where it is suspended. -/
private theorem drops (ledger : Ledger cfg s)
    (settled : s.loop.reconcilePoint = .finished 0)
    (unheld : s.loop.holdsPermit = false)
    (semaphore : next.shared.semaphore.outstanding = s.shared.semaphore.outstanding)
    (limit : next.shared.currentLimit = s.shared.currentLimit)
    (lock : next.shared.reconcileLock = s.shared.reconcileLock)
    (monitor : next.monitor = s.monitor)
    (tasks : next.tasks = dropObservers s.inFlight s.tasks)
    (there : next.loop = .dropped) : Ledger cfg next := by
  refine ledger.keeps ?_ limit lock monitor (.inl ?_) ?_
  · simp only [holders, tasksHolding, semaphore, tasks, there, unheld, countP_dropObservers]
    rfl
  · rw [there, settled]
    rfl
  · intro _
    rw [there]
    rfl

/-- The step lemma: whatever moves, the ledger is kept. -/
theorem step (ledger : Ledger cfg s) {a : Action Payload}
    (h : Runner.step cfg s a = some next) : Ledger cfg next := by
  cases Move.of_step h with
  | loop elsewhere move => exact ledger.loops elsewhere (move.frame elsewhere)
  | dispatch here move => exact ledger.dispatches here move
  | hostReady here =>
    refine ledger.keeps ?_ rfl rfl rfl (.inl ?_) (fun _ => rfl)
    · simp only [holders, here]
      rfl
    · rw [here]
      rfl
  | hostPending here =>
    refine ledger.keeps ?_ rfl rfl rfl (.inl ?_) (fun _ => rfl)
    · simp only [holders, here]
      rfl
    · rw [here]
      rfl
  | drops here =>
    have settled : s.loop.dispatches = false := by
      rcases here with parked | parked | parked <;>
      · rw [parked]
        rfl
    exact ledger.drops (reconcilePoint_of_not_dispatches settled)
      (holdsPermit_of_not_dispatches settled) rfl rfl rfl rfl rfl
      rfl
  | dropsQueued here =>
    refine ledger.drops ?_ ?_ (Semaphore.outstanding_abandon ..) rfl rfl rfl rfl rfl
    · rw [here]
      rfl
    · rw [here]
      rfl
  | returnsPermit found running =>
    rename_i result task
    refine ledger.keeps ?_ rfl rfl rfl (.inl rfl) ledger.unmanaged
    have counted := countP_set_task found { task with state := .released result }
    have held : task.holdsPermit = true := by
      simp [DispatchTask.holdsPermit, running]
    have given : DispatchTask.holdsPermit
        { task with state := .released result } = false := rfl
    rw [held, given, Bool.toNat_true, Bool.toNat_false] at counted
    simp only [holders, tasksHolding, Semaphore.outstanding_addPermits]
    omega
  | completes found released =>
    rename_i result task
    refine ledger.keeps ?_ rfl rfl rfl (.inl rfl) ledger.unmanaged
    have counted := countP_set_task found { task with state := .finished result }
    have unheld : task.holdsPermit = false := by
      simp [DispatchTask.holdsPermit, released]
    have ended : DispatchTask.holdsPermit
        { task with state := .finished result } = false := rfl
    rw [unheld, ended, Bool.toNat_false] at counted
    simp only [holders, tasksHolding]
    omega
  | monitor scaled ticked => exact ledger.monitors scaled ticked
  | monitorEnds asleep =>
    obtain ⟨balanced, loopSound, monitorSound, loopLock, monitorLock,
      unmanaged, positive, bounded⟩ := ledger
    rw [asleep] at balanced monitorLock
    exact ⟨balanced, loopSound, trivial, loopLock, monitorLock, unmanaged, positive, bounded⟩
  | requestRejected | clearRejected => exact ledger
  | requested _ | cleared _ | cancel | requestReload | advance =>
    exact ledger.keeps rfl rfl rfl rfl (.inl rfl) ledger.unmanaged

theorem reaches (reached : Runner.Reaches cfg now schedule s) :
    Ledger cfg s :=
  reached.invariant (Ledger.new cfg now)
    fun ledger _ h => ledger.step h

end Ledger

/-! ### Permit accounting -/

namespace Ledger

/-- Where no thread resizes, no permit is pending. -/
theorem monitor_quiet (ledger : Ledger cfg s) (unresized : s.Unresized cfg) :
    s.monitor.pendingResize = .finished 0 := by
  have outside : s.monitor.critical = false := by
    cases inside : s.monitor.critical with
    | false => rfl
    | true =>
      have locked := ledger.monitorLock.mp inside
      rw [unresized.1] at locked
      cases locked
  cases point : s.monitor with
  | reconciling idleSince inner =>
    rw [point] at outside
    exact pendingResize_of_not_critical outside
  | resizing idleSince inner =>
    have sound := ledger.monitorSound
    rw [point] at sound
    exact absurd point (unresized.2 sound.1 idleSince inner)
  | _ => rfl

theorem loop_quiet (ledger : Ledger cfg s) (unresized : s.Unresized cfg) :
    s.loop.reconcilePoint.pendingResize = .finished 0 := by
  apply pendingResize_of_not_critical
  cases inside : s.loop.reconcilePoint.critical with
  | false => rfl
  | true =>
    have locked := ledger.loopLock.mp inside
    rw [unresized.1] at locked
    cases locked

/-- Where no thread resizes, the counter is the number of permits. -/
theorem accounted (ledger : Ledger cfg s) (unresized : s.Unresized cfg) :
    s.shared.semaphore.availablePermits + s.permitsHeld = s.shared.currentLimit := by
  have balanced := ledger.balanced
  rw [ledger.monitor_quiet unresized, ledger.loop_quiet unresized] at balanced
  simp only [ResizePoint.added, ResizePoint.revoked, Semaphore.outstanding] at balanced
  simp only [Semaphore.availablePermits, permitsHeld]
  omega

/-- A raise in progress stays within the base policy. -/
private theorem added_le {bound limit : Nat} {point : ResizePoint}
    (sound : point.Sound bound limit) (fits : limit ≤ bound) : limit + point.added ≤ bound := by
  cases point with
  | storeRaised current desired =>
    obtain ⟨rfl, raises, wanted⟩ := sound
    simp only [ResizePoint.added]
    omega
  | _ => simpa [ResizePoint.added] using fits

/-- In every state, resizing or not, the permits respect the maximum. -/
theorem outstanding_le (ledger : Ledger cfg s) :
    s.shared.semaphore.outstanding + s.holders ≤ cfg.base.maxConcurrency := by
  have balanced := ledger.balanced
  have loopFits := added_le (pendingResize_sound ledger.loopSound) ledger.limit_le
  have monitorFits := added_le
    (MonitorPoint.pendingResize_sound ledger.monitorSound) ledger.limit_le
  have exclusive : s.loop.reconcilePoint.pendingResize.added = 0 ∨
      s.monitor.pendingResize.added = 0 := by
    cases inside : s.loop.reconcilePoint.critical with
    | false =>
      left
      rw [pendingResize_of_not_critical inside]
      rfl
    | true =>
      right
      have outside := ledger.monitor_outside inside
      cases point : s.monitor with
      | reconciling idleSince inner =>
        rw [point] at outside
        rw [MonitorPoint.pendingResize, pendingResize_of_not_critical outside]
        rfl
      | resizing idleSince inner =>
        have sound := ledger.monitorSound
        rw [point] at sound
        rw [ledger.loop_settled sound.1] at inside
        cases inside
      | _ => rfl
  omega

theorem permitsHeld_le (ledger : Ledger cfg s) : s.permitsHeld ≤ cfg.base.maxConcurrency := by
  have bounded := ledger.outstanding_le
  simp only [Semaphore.outstanding] at bounded
  simp only [permitsHeld]
  omega

end Ledger

/-- Permit accounting of a trigger generation.  Whatever the schedule, as long
as no thread is resizing the idle and the held permits add up to the limit; the
limit stays between one and the maximum of the base policy, which is one without
a scaling policy; and never do more tasks hold a permit than that maximum. -/
theorem permits_accounted {config : RunnerConfig} {now : Instant} {schedule : List (Action Payload)}
    {state : RunnerState Payload} (reached : Runner.Reaches config now schedule state) :
    (state.Unresized config → state.shared.semaphore.availablePermits + state.permitsHeld =
          state.shared.currentLimit) ∧
      1 ≤ state.shared.currentLimit ∧
      state.shared.currentLimit ≤ config.base.maxConcurrency ∧
      (config.base.scaling = none → config.base.maxConcurrency = 1) ∧
      state.tasksHolding ≤ config.base.maxConcurrency := by
  have ledger := Ledger.reaches reached
  refine ⟨ledger.accounted, ledger.limit_pos, ledger.limit_le, ?_, ?_⟩
  · intro serial
    simp [TriggerBasePolicy.maxConcurrency, serial]
  · have held := ledger.permitsHeld_le
    simp only [RunnerState.permitsHeld, RunnerState.holders] at held
    omega

/-- One serial dispatch: its task holds the only permit. -/
theorem permits_accounted_one_dispatch :
    ∃ state : RunnerState Unit,
      Runner.Reaches (.managed none) 0
          (Runner.arrival 4 () ++ Runner.loops 14)
          state ∧
        state.tasksHolding = 1 ∧
        state.shared.semaphore.availablePermits + state.permitsHeld =
          state.shared.currentLimit := by
  obtain ⟨state, reached, holding, unlocked⟩ :
      ∃ state : RunnerState Unit,
        Runner.Reaches (.managed none) 0
            (Runner.arrival 4 () ++ Runner.loops 14) state ∧
          state.tasksHolding = 1 ∧ state.shared.reconcileLock = none :=
    Run.exists_of_check (by decide +kernel)
  exact ⟨state, reached, holding, (permits_accounted reached).1 ⟨unlocked, nofun⟩⟩

/-! ### Serial triggers -/

/-- A template that declares no scaling policy gets the one registered with the
daemon, if any. -/
theorem runAsService_maxConcurrency {builder : ServiceDaemonBuilder}
    {name : String} {serviceId : ServiceId} {gen : Nat}
    (unscaled : ∀ policy, builder.triggerConfigs.scaling = some policy →
      policy.maxConcurrency = 1) :
    (runAsService builder.build none name serviceId gen).base.maxConcurrency = 1 := by
  cases registered : builder.triggerConfigs.scaling with
  | none => simp [runAsService, TriggerBasePolicy.maxConcurrency, registered]
  | some policy =>
    simpa [runAsService, TriggerBasePolicy.maxConcurrency, registered] using
      unscaled policy registered

/-- A trigger whose host declares no scaling policy runs one handler at a time
as long as the daemon was not built with a scaling policy that allows more. -/
theorem serial_unless_overridden {builder : ServiceDaemonBuilder} {name : String}
    {serviceId : ServiceId} {generation : Nat} {now : Instant} {schedule : List (Action Payload)}
    {state : RunnerState Payload}
    (unscaled : ∀ policy, builder.triggerConfigs.scaling = some policy → policy.maxConcurrency = 1)
    (reached : Runner.Reaches
      (runAsService builder.build none name serviceId generation) now schedule
      state) :
    state.tasksHolding ≤ 1 := by
  have held := (Ledger.reaches reached).permitsHeld_le
  rw [runAsService_maxConcurrency unscaled] at held
  simp only [RunnerState.permitsHeld, RunnerState.holders] at held
  omega

/-- A default daemon: the one task that was spawned is the one that runs. -/
theorem serial_unless_overridden_default :
    ∃ state : RunnerState Unit,
      Runner.Reaches
          (runAsService ServiceDaemonBuilder.new.build none "cron" ⟨1⟩ 1) 0
          (Runner.arrival 4 () ++ Runner.loops 14)
          state ∧
        state.tasks.length = 1 ∧ state.tasksHolding ≤ 1 := by
  have unscaled : ∀ policy, ServiceDaemonBuilder.new.triggerConfigs.scaling =
      some policy → policy.maxConcurrency = 1 := by
    intro policy registered
    cases registered
  exact Run.exists_and (by decide +kernel) fun _ reached _ =>
    serial_unless_overridden unscaled reached

/-- With a scaling policy registered for the queues of the daemon, a host that
declares none runs two handlers at once. -/
theorem overridden_host_runs_two :
    ∃ state : RunnerState Unit,
      Runner.Reaches
          (runAsService (ServiceDaemonBuilder.new.withTriggerConfig (.scaling
                (ScalingPolicy.builder.withInitialConcurrency 2).build)).build
            none "cron" ⟨1⟩ 1) 0
          (Runner.arrival 4 () ++ Runner.loops 14 ++ Runner.arrival 5 () ++ Runner.loops 14)
          state ∧
        state.tasksHolding = 2 :=
  Run.exists_of_check (by decide +kernel)

end ServiceDaemon
