/-
Purpose: What an active concurrency overlay guarantees to a dispatch.  A
  dispatch that starts while no more permits are held than the overlay allows
  is spawned within the overlay's limit; a saturated one need not be.
Main exports: Tidy, Orderly, Orderly.reaches, overlay_enforced
-/
import ServiceDaemon.Proofs.InFlight
import ServiceDaemon.Proofs.PermitLedger

namespace ServiceDaemon

open AsyncLib StepSystem TriggerPolicyOverlayState LoopPoint RunnerState

variable {Payload : Type} {cfg : RunnerConfig}
  {s next : RunnerState Payload}

/-! ### The wait queue and the record -/

/-- At most `waiting` waits for a permit, the stored overlay lies within the
base policy, and a record that was removed stores none. -/
structure Tidy (base : TriggerBasePolicy) (waiting : Option Nat)
    (shared : ConcurrencyState) : Prop where
  waiters : shared.semaphore.SingleWaiter waiting
  fits : shared.overlay.Fits base
  recorded : shared.registered = false → shared.overlay.overlay = none

section Shared

variable {base : TriggerBasePolicy} {waiting : Option Nat}
  {shared after : ConcurrencyState}

theorem Tidy.resizes {point next} (tidy : Tidy base waiting shared)
    (move : ResizeMove shared point after next) : Tidy base waiting after := by
  cases move with
  | adds => exact ⟨tidy.waiters.addPermits _, tidy.fits, tidy.recorded⟩
  | revokes acquired => exact ⟨tidy.waiters.tryAcquire acquired, tidy.fits, tidy.recorded⟩
  | ends enough => exact tidy
  | raises | lowers => exact ⟨tidy.waiters, tidy.fits, tidy.recorded⟩

theorem Tidy.reconciles {actor point next} (tidy : Tidy base waiting shared)
    (move : ReconcileMove base actor shared point after next) : Tidy base waiting after := by
  cases move with
  | chooses =>
    refine ⟨tidy.waiters, tidy.fits.chooseDesired _ _, ?_⟩
    intro removed
    rw [chooseDesired_overlay]
    exact takeExpiredOverlay_of_none (tidy.recorded removed) _
  | resizes move => exact tidy.resizes move
  | locks _ | unlocks => exact ⟨tidy.waiters, tidy.fits, tidy.recorded⟩
  | finds _ | misses _ | loadsLimit | readsAvailable | resized => exact tidy

theorem Tidy.pruneExpiredOverlay (tidy : Tidy base waiting shared) :
    Tidy base waiting
      { shared with overlay := shared.overlay.pruneExpiredOverlay shared.now } := by
  refine ⟨tidy.waiters, tidy.fits.takeExpiredOverlay _, ?_⟩
  intro removed
  exact takeExpiredOverlay_of_none (tidy.recorded removed) _

theorem Tidy.monitorStep (tidy : Tidy base waiting shared)
    (h : monitorStep base scaling inDaemon shared here = some (after, there)) :
    Tidy base waiting after := by
  cases here with
  | reconciling idleSince inner =>
    rcases monitorStep_reconciling h with
      ⟨next, reconciled, rfl⟩ | ⟨_, rfl, rfl⟩
    · exact tidy.reconciles reconciled
    · exact tidy
  | resizing idleSince inner =>
    rcases monitorStep_resizing h with
      ⟨next, resized, rfl⟩ | ⟨_, rfl, rfl⟩
    · exact tidy.resizes resized
    · exact tidy
  | _ =>
    obtain ⟨same, pruned, -⟩ := monitorStep_samples rfl h
    rw [same]
    rcases pruned with kept | dropped
    · rw [kept]
      exact ⟨tidy.waiters, tidy.fits, tidy.recorded⟩
    · rw [dropped]
      exact tidy.pruneExpiredOverlay

end Shared

namespace LoopPoint

/-- The dispatch whose acquire waits. -/
def waiter : LoopPoint Payload → Option Nat
  | .dispatching frame .queued => some frame.instanceSeq.toNat
  | _ => none

theorem waiter_of_not_dispatches {point : LoopPoint Payload}
    (elsewhere : point.dispatches = false) : point.waiter = none := by
  cases point with
  | dispatching frame inner => cases elsewhere
  | _ => rfl

end LoopPoint

/-- Only the dispatch in progress waits for a permit, and the stored overlay lies
within the base policy. -/
def Orderly (cfg : RunnerConfig) (s : RunnerState Payload) : Prop :=
  Tidy cfg.base s.loop.waiter s.shared

namespace Orderly

theorem new (cfg : RunnerConfig) (now : Instant) :
    Orderly cfg (new cfg now : RunnerState Payload) :=
  ⟨Semaphore.SingleWaiter.new _, .of_none rfl, fun _ => rfl⟩

theorem loops (orderly : Orderly cfg s) (elsewhere : s.loop.dispatches = false)
    (frame : LoopFrame cfg s next) : Orderly cfg next := by
  have idle := waiter_of_not_dispatches elsewhere
  have waiters : next.shared.semaphore.SingleWaiter none := by
    rw [frame.semaphore, ← idle]
    exact orderly.waiters
  have tidy : Tidy cfg.base none next.shared := by
    rcases frame.shared with same | dropped
    · exact ⟨waiters, same ▸ orderly.fits, same ▸ orderly.recorded⟩
    · exact ⟨waiters, dropped ▸ .of_none rfl, fun _ => dropped ▸ rfl⟩
  have unqueued : next.loop.waiter = none := by
    rcases frame.lands with outside | ⟨payload, identity, reload, rfl⟩
    · exact waiter_of_not_dispatches outside
    · simp only [enterDispatch]
      split <;> rfl
  rw [Orderly, unqueued]
  exact tidy

theorem dispatches (orderly : Orderly cfg s) {frame : DispatchFrame Payload} {point : DispatchPoint}
    (here : s.loop = .dispatching frame point) (move : DispatchMove cfg frame s point next) :
    Orderly cfg next := by
  have tidy := orderly
  rw [Orderly, here] at tidy
  cases move with
  | loadsLimit | reconciled | readsPolicy => exact tidy
  | reconciles h => exact tidy.reconciles (.of_reconcileStep h)
  | granted idle => exact ⟨tidy.waiters.acquire_granted _ idle, tidy.fits, tidy.recorded⟩
  | queues exhausted =>
    exact ⟨tidy.waiters.acquire_queued _ exhausted, tidy.fits, tidy.recorded⟩
  | claims claimed => exact ⟨tidy.waiters.claim claimed, tidy.fits, tidy.recorded⟩
  | records _ | unmanaged _ | unregistered _ =>
    exact ⟨tidy.waiters, tidy.fits, tidy.recorded⟩
  | prunes registered => exact tidy.pruneExpiredOverlay
  | spawns =>
    rename_i pol
    have outside : (s.spawnDispatch cfg frame pol).loop.waiter = none := by
      simp only [spawnDispatch]
      split <;> rfl
    rw [Orderly, outside]
    exact ⟨tidy.waiters, tidy.fits, tidy.recorded⟩

theorem step (orderly : Orderly cfg s) {a} (h : Runner.step cfg s a = some next) :
    Orderly cfg next := by
  cases Move.of_step h with
  | loop elsewhere move => exact orderly.loops elsewhere (move.frame elsewhere)
  | dispatch here move => exact orderly.dispatches here move
  | hostReady here | hostPending here =>
    rw [Orderly, here] at orderly
    exact orderly
  | drops here =>
    have idle : s.loop.waiter = none := by
      rcases here with parked | parked | parked <;>
      · rw [parked]
        rfl
    rw [Orderly, idle] at orderly
    exact ⟨orderly.waiters, .of_none rfl, fun _ => rfl⟩
  | dropsQueued here =>
    rw [Orderly, here] at orderly
    exact ⟨orderly.waiters.abandon, .of_none rfl, fun _ => rfl⟩
  | returnsPermit found running =>
    exact ⟨orderly.waiters.addPermits 1, orderly.fits, orderly.recorded⟩
  | monitor scaled ticked => exact orderly.monitorStep ticked
  | requested accepted =>
    refine ⟨orderly.waiters, .requestOverlay accepted, ?_⟩
    intro removed
    have registered := (requestOverlay_ok accepted).2.1
    rw [removed] at registered
    cases registered
  | cleared accepted =>
    refine ⟨orderly.waiters, .clearOverlay accepted, ?_⟩
    obtain ⟨-, rfl⟩ := clearOverlay_ok accepted
    exact fun _ => rfl
  | completes found released | requestRejected | clearRejected => exact orderly
  | monitorEnds _ | cancel | requestReload | advance =>
    exact ⟨orderly.waiters, orderly.fits, orderly.recorded⟩

theorem reaches (reached : Runner.Reaches cfg now acts s) :
    Orderly cfg s :=
  reached.invariant (Orderly.new cfg now)
    fun orderly _ h => orderly.step h

end Orderly

/-! ### While the overlay is active -/

/-- A reconciling thread will leave a limit of `limit` as it is. -/
def ReconcilePoint.Agrees (limit : Nat) : ReconcilePoint → Prop
  | .loadLimit desired | .readAvailable desired _ => desired = limit
  | .resize _ => False
  | _ => True

/-- The monitor will leave a limit of `limit` as it is. -/
def MonitorPoint.Agrees (limit : Nat) : MonitorPoint → Prop
  | .reconciling _ point => point.Agrees limit
  | _ => True

theorem MonitorPoint.agrees_of_not_critical {point : MonitorPoint}
    (limit : Nat) (outside : point.critical = false) : point.Agrees limit := by
  cases point with
  | reconciling idleSince inner =>
    cases inner with
    | lookup baseTarget => trivial
    | lock baseTarget => trivial
    | finished reached => trivial
    | _ => cases outside
  | _ => trivial

theorem clampDesired_of_fits {base limit} (fits : 1 ≤ limit ∧ limit ≤ base.maxConcurrency) :
    clampDesired base limit = limit := by
  unfold clampDesired
  omega

section Agreement

variable {base : TriggerBasePolicy} {shared after : ConcurrencyState}
  {limit : Nat}

/-- Once the limit is the overlay's, a reconciliation keeps it. -/
private theorem ReconcileMove.agrees {actor point next}
    (move : ReconcileMove base actor shared point after next)
    (active : shared.overlay.limitsTo shared.now limit = true)
    (fits : 1 ≤ limit ∧ limit ≤ base.maxConcurrency)
    (sound : point.Sound base.maxConcurrency shared.currentLimit)
    (reached : shared.currentLimit = limit) (agrees : point.Agrees limit) :
    after.currentLimit = limit ∧ next.Agrees limit := by
  cases move with
  | chooses =>
    refine ⟨reached, ?_⟩
    rw [chooseDesired_of_limitsTo active]
    exact clampDesired_of_fits fits
  | loadsLimit => exact ⟨reached, agrees⟩
  | @readsAvailable desired cur =>
    refine ⟨reached, ?_⟩
    have wanted : desired = limit := agrees
    have loaded : cur = shared.currentLimit := sound.2
    rw [wanted, loaded, reached]
    simp [startResize, ReconcilePoint.Agrees]
  | resizes move => exact agrees.elim
  | finds _ | misses _ | locks _ | resized | unlocks => exact ⟨reached, trivial⟩

private theorem monitorStep_agrees {scaling : ScalingPolicy} {here there : MonitorPoint}
    (active : shared.overlay.limitsTo shared.now limit = true)
    (fits : 1 ≤ limit ∧ limit ≤ base.maxConcurrency)
    (sound : here.Sound true base.maxConcurrency shared.currentLimit)
    (reached : shared.currentLimit = limit) (agrees : here.Agrees limit)
    (h : monitorStep base scaling true shared here = some (after, there)) :
    after.currentLimit = limit ∧ there.Agrees limit := by
  cases here with
  | reconciling idleSince inner =>
    rcases monitorStep_reconciling h with
      ⟨next, reconciled, rfl⟩ | ⟨_, rfl, rfl⟩
    · exact reconciled.agrees active fits sound.2 reached agrees
    · exact ⟨reached, trivial⟩
  | resizing idleSince inner => cases sound.1
  | _ =>
    obtain ⟨same, -, outside⟩ := monitorStep_samples rfl h
    refine ⟨?_, MonitorPoint.agrees_of_not_critical limit outside⟩
    rw [same]
    exact reached

end Agreement

/-- How far a dispatch has got in enforcing the overlay limit `limit`. -/
def Enforces (limit : Nat) (s : RunnerState Payload) :
    DispatchPoint → Prop
  -- nothing has been read yet: at most `limit` permits are held
  | .loadLimit | .reconcile (.lookup _) | .reconcile (.lock _)
  | .reconcile (.choose _) => s.tasksHolding ≤ limit
  | .reconcile (.loadLimit desired)
  | .reconcile (.readAvailable desired _) =>
    desired = limit ∧ s.tasksHolding ≤ limit
  -- the resize leads to `limit`, and it cannot run out of idle permits
  | .reconcile (.resize (.addPermits _ desired))
  | .reconcile (.resize (.storeRaised _ desired)) => desired = limit
  | .reconcile (.resize (.revoke cur left revoked)) =>
    cur = limit + (left + revoked) ∧ left ≤ s.shared.semaphore.permits
  | .reconcile (.resize (.storeLowered cur revoked)) =>
    cur = limit + revoked
  | .reconcile (.resize (.finished _)) | .reconcile (.unlock _) =>
    s.shared.currentLimit = limit
  -- the limit is in force, and the monitor leaves it alone
  | _ => s.shared.currentLimit = limit ∧ s.monitor.Agrees limit

/-- The dispatch that follows `number` others has been entered, unless the loop is
gone. -/
def RunnerState.Begun (number : Nat) (s : RunnerState Payload) : Prop :=
  s.loop.gone = false → number < s.tasks.length + s.loop.dispatches.toNat

private theorem running_of_step {a} (h : Runner.step cfg s a = some next)
    (running : next.loop.gone = false) : s.loop.gone = false := by
  by_contra gone
  rw [(gone_stays (by simpa using gone) h).1] at running
  exact gone running

theorem RunnerState.Begun.step {number a} (begun : s.Begun number)
    (h : Runner.step cfg s a = some next) : next.Begun number := by
  intro running
  have entered := begun (running_of_step h running)
  cases Move.of_step h with
  | loop elsewhere move =>
    have count : next.tasks.length = s.tasks.length := by
      simpa using congrArg List.length (move.frame elsewhere).tasks
    rw [elsewhere] at entered
    rw [count]
    exact Nat.lt_of_lt_of_le entered (Nat.le_add_right _ _)
  | dispatch here move =>
    rw [here] at entered
    cases move with
    | spawns =>
      simp only [spawnDispatch, List.length_append]
      exact Nat.lt_of_lt_of_le entered (Nat.le_add_right _ _)
    | _ => exact entered
  | hostReady here | hostPending here =>
    rw [here] at entered
    exact entered
  | drops | dropsQueued => cases running
  | returnsPermit | completes => simpa using entered
  | _ => exact entered

/-- The dispatch that follows `number` others enforces the limit, whatever the
other threads do. -/
structure Window (cfg : RunnerConfig) (limit number : Nat)
    (s : RunnerState Payload) : Prop where
  ledger : Ledger cfg s
  orderly : Orderly cfg s
  managed : cfg.inDaemon = true
  begun : s.Begun number
  enforces : ∀ frame point, s.loop = .dispatching frame point →
    s.tasks.length = number → Enforces limit s point

namespace Window

variable {limit number : Nat}

/-- Inside the critical section only the dispatcher has permits pending. -/
theorem accounted (window : Window cfg limit number s) {frame point}
    (here : s.loop = .dispatching frame (.reconcile point)) (inside : point.critical = true) :
    s.shared.semaphore.permits + s.tasksHolding + point.pendingResize.revoked =
      s.shared.currentLimit + point.pendingResize.added := by
  have balanced := window.ledger.balanced
  have sound := window.ledger.monitorSound
  have outside : s.monitor.critical = false := by
    apply window.ledger.monitor_outside
    rw [here]
    exact inside
  rw [window.managed] at sound
  rw [MonitorPoint.pendingResize_of_not_critical sound outside] at balanced
  have unassigned : s.shared.semaphore.assigned = [] := by
    have waiters := window.orderly.waiters
    rw [here] at waiters
    exact waiters.2
  have quiet : (ResizePoint.finished 0).added = 0 ∧
      (ResizePoint.finished 0).revoked = 0 := ⟨rfl, rfl⟩
  simp only [holders, here, holdsPermit, reconcilePoint, Semaphore.outstanding, unassigned, quiet,
    Bool.toNat_false, List.length_nil] at balanced
  omega

/-- The overlay that is in force fits the base policy. -/
theorem fits (window : Window cfg limit number s)
    (active : s.shared.overlay.limitsTo s.shared.now limit = true) :
    1 ≤ limit ∧ limit ≤ cfg.base.maxConcurrency := by
  apply window.orderly.fits
  unfold limitsTo at active
  split at active
  · rename_i stored found
    simp only [Bool.and_eq_true, decide_eq_true_eq] at active
    simp [activeConcurrencyLimit, found, active.1]
  · cases active

/-- A step of the dispatcher's resize: the revocation finds every permit it
wants idle, so it does not stop early. -/
private theorem resizes (window : Window cfg limit number s) {frame inner after shared}
    (here : s.loop = .dispatching frame (.reconcile (.resize inner)))
    (numbered : s.tasks.length = number) (move : ResizeMove s.shared inner shared after) :
    Enforces limit
      { s with shared := shared, loop := .dispatching frame (.reconcile (.resize after)) }
      (.reconcile (.resize after)) := by
  have enforced := window.enforces _ _ here numbered
  cases move with
  | adds => exact enforced
  | raises => exact enforced
  | @revokes cur left revoked sem acquired =>
    obtain ⟨leads, enough⟩ := enforced
    obtain ⟨idle, rfl⟩ := Semaphore.tryAcquire_some acquired
    constructor
    · omega
    · show left ≤ s.shared.semaphore.permits - 1
      omega
  | @ends cur left revoked stops =>
    obtain ⟨leads, enough⟩ := enforced
    show cur = limit + revoked
    rcases stops with none | exhausted
    · omega
    · have drained := Semaphore.permits_of_tryAcquire_none exhausted
      omega
  | @lowers cur revoked =>
    have leads : cur = limit + revoked := enforced
    show cur - revoked = limit
    omega

/-- A step of the dispatcher's reconciliation gets the limit closer. -/
private theorem reconciles (window : Window cfg limit number s)
    (active : s.shared.overlay.limitsTo s.shared.now limit = true) {frame : DispatchFrame Payload}
    {point after : ReconcilePoint} {shared : ConcurrencyState}
    (here : s.loop = .dispatching frame (.reconcile point)) (numbered : s.tasks.length = number)
    (move : ReconcileMove cfg.base .dispatcher s.shared point shared after) :
    Enforces limit
      { s with shared := shared, loop := .dispatching frame (.reconcile after) }
      (.reconcile after) := by
  have enforced := window.enforces _ _ here numbered
  have sound := window.ledger.loopSound
  rw [here] at sound
  have accounted := window.accounted here
  cases move with
  | misses removed =>
    have absent := window.orderly.recorded removed
    simp [limitsTo, absent] at active
  | chooses =>
    refine ⟨?_, enforced⟩
    rw [chooseDesired_of_limitsTo active]
    exact clampDesired_of_fits (window.fits active)
  | @readsAvailable desired cur =>
    obtain ⟨rfl, held⟩ := enforced
    obtain ⟨-, rfl⟩ := sound
    have balanced := accounted rfl
    simp only [ReconcilePoint.pendingResize, ResizePoint.added, ResizePoint.revoked] at balanced
    -- The permits that are not idle are held by tasks, at most `limit`.
    simp only [startResize, Semaphore.availablePermits]
    split
    · rfl
    · split
      · constructor
        · omega
        · show s.shared.currentLimit - _ ≤ s.shared.semaphore.permits
          omega
      · show s.shared.currentLimit = desired
        omega
  | resizes move => exact window.resizes here numbered move
  | unlocks =>
    refine ⟨enforced, ?_⟩
    apply MonitorPoint.agrees_of_not_critical
    apply window.ledger.monitor_outside
    rw [here]
    rfl
  | finds _ | locks _ | loadsLimit | resized => exact enforced

/-- A step of the dispatch itself. -/
private theorem dispatches (window : Window cfg limit number s)
    (active : s.shared.overlay.limitsTo s.shared.now limit = true) {frame : DispatchFrame Payload}
    {point : DispatchPoint} (here : s.loop = .dispatching frame point)
    (move : DispatchMove cfg frame s point next) :
    ∀ other after, next.loop = .dispatching other after →
      next.tasks.length = number → Enforces limit next after := by
  have enforced := window.enforces _ _ here
  intro other after there numbered
  cases move with
  | reconciles h =>
    cases there
    exact window.reconciles active here numbered (.of_reconcileStep h)
  | spawns =>
    simp only [spawnDispatch] at there
    split at there <;> cases there
  | _ =>
    cases there
    exact enforced numbered

private theorem enforces_of_elsewhere (elsewhere : next.loop.dispatches = false) :
    ∀ frame point, next.loop = .dispatching frame point →
      next.tasks.length = number → Enforces limit next point := by
  intro frame point here
  rw [here] at elsewhere
  cases elsewhere

/-- Nothing another thread does takes the enforcement back. -/
private theorem enforces_of_same (window : Window cfg limit number s) (loop : next.loop = s.loop)
    (count : next.tasks.length = s.tasks.length)
    (monitor : s.monitor.Agrees limit → next.monitor.Agrees limit)
    (tasks : next.tasksHolding ≤ s.tasksHolding)
    (permits : s.shared.semaphore.permits ≤ next.shared.semaphore.permits)
    (kept : next.shared.currentLimit = s.shared.currentLimit) :
    ∀ frame point, next.loop = .dispatching frame point →
      next.tasks.length = number → Enforces limit next point := by
  intro frame point here numbered
  have enforced := window.enforces frame point (loop ▸ here) (count ▸ numbered)
  cases point with
  | loadLimit => exact Nat.le_trans tasks enforced
  | reconcile inner =>
    cases inner with
    | lookup baseTarget => exact Nat.le_trans tasks enforced
    | lock baseTarget => exact Nat.le_trans tasks enforced
    | choose baseTarget => exact Nat.le_trans tasks enforced
    | loadLimit desired => exact ⟨enforced.1, Nat.le_trans tasks enforced.2⟩
    | readAvailable desired cur => exact ⟨enforced.1, Nat.le_trans tasks enforced.2⟩
    | resize resizing =>
      cases resizing with
      | addPermits cur desired => exact enforced
      | storeRaised cur desired => exact enforced
      | revoke cur left revoked => exact ⟨enforced.1, Nat.le_trans enforced.2 permits⟩
      | storeLowered cur revoked => exact enforced
      | finished reached => exact kept.trans enforced
    | unlock reached => exact kept.trans enforced
    | finished reached => exact ⟨kept.trans enforced.1, monitor enforced.2⟩
  | _ => exact ⟨kept.trans enforced.1, monitor enforced.2⟩

/-- A step of the monitor. -/
private theorem monitors (window : Window cfg limit number s)
    (active : s.shared.overlay.limitsTo s.shared.now limit = true) {scaling shared after}
    (ticked : monitorStep cfg.base scaling cfg.inDaemon s.shared s.monitor = some (shared, after)) :
    ∀ frame point, s.loop = .dispatching frame point → s.tasks.length = number →
      Enforces limit { s with shared := shared, monitor := after }
        point := by
  intro frame point here numbered
  have enforced := window.enforces frame point here numbered
  have sound := window.ledger.monitorSound
  rw [window.managed] at ticked sound
  -- Before and after the critical section the monitor may run through a tick,
  -- inside the dispatcher excludes it.
  have excluded : s.loop.reconcilePoint.critical = true → shared.semaphore = s.shared.semaphore ∧
        shared.currentLimit = s.shared.currentLimit := by
    intro inside
    exact monitorStep_outside (window.ledger.monitor_outside inside) sound ticked
  rw [here] at excluded
  have agreement : s.shared.currentLimit = limit ∧ s.monitor.Agrees limit →
      shared.currentLimit = limit ∧ after.Agrees limit := by
    intro settled
    exact monitorStep_agrees active (window.fits active) sound settled.1 settled.2 ticked
  cases point with
  | loadLimit => exact enforced
  | reconcile inner =>
    cases inner with
    | resize resizing =>
      obtain ⟨sem, kept⟩ := excluded rfl
      cases resizing with
      | revoke cur left revoked =>
        refine ⟨enforced.1, ?_⟩
        rw [sem]
        exact enforced.2
      | finished reached => exact kept.trans enforced
      | _ => exact enforced
    | unlock reached => exact (excluded rfl).2.trans enforced
    | finished reached => exact agreement enforced
    | _ => exact enforced
  | _ => exact agreement enforced

/-- The step lemma: as long as the overlay is active, the window stays
intact. -/
theorem step (window : Window cfg limit number s)
    (active : s.shared.overlay.limitsTo s.shared.now limit = true)
    {a} (h : Runner.step cfg s a = some next) : Window cfg limit number next := by
  refine ⟨window.ledger.step h, window.orderly.step h, window.managed, window.begun.step h, ?_⟩
  cases Move.of_step h with
  | loop elsewhere move =>
    rcases (move.frame elsewhere).lands with outside | ⟨payload, identity, reload, rfl⟩
    · exact enforces_of_elsewhere outside
    · intro frame point here same
      -- The next dispatch has another number.
      have passed := window.begun (running_of_step h (by rw [here]; rfl))
      rw [elsewhere] at passed
      exact absurd same (Nat.ne_of_gt passed)
  | dispatch here move => exact window.dispatches active here move
  | monitor scaled ticked => exact window.monitors active ticked
  | hostReady _ | hostPending _ | drops _ | dropsQueued _ => exact enforces_of_elsewhere rfl
  | returnsPermit found running =>
    rename_i res task
    refine window.enforces_of_same rfl List.length_set id ?_ ?_ rfl
    · have counted := countP_set_task found { task with state := .released res }
      have given : DispatchTask.holdsPermit
          { task with state := .released res } = false := rfl
      rw [given, Bool.toNat_false] at counted
      simp only [tasksHolding]
      omega
    · simp [Semaphore.addPermits]
  | completes found released =>
    rename_i res task
    refine window.enforces_of_same rfl List.length_set id ?_ (Nat.le_refl _) rfl
    have counted := countP_set_task found { task with state := .finished res }
    have ended : DispatchTask.holdsPermit
        { task with state := .finished res } = false := rfl
    rw [ended, Bool.toNat_false] at counted
    simp only [tasksHolding]
    omega
  | monitorEnds asleep =>
    exact window.enforces_of_same rfl rfl (fun _ => trivial) (Nat.le_refl _) (Nat.le_refl _) rfl
  | requestRejected | clearRejected => exact window.enforces
  | requested _ | cleared _ | cancel | requestReload | advance =>
    exact window.enforces_of_same rfl rfl id (Nat.le_refl _) (Nat.le_refl _) rfl

end Window

/-! ### The result -/

namespace RunnerState

/-- The loop has just entered the dispatch that follows `number` others. -/
def enters (number : Nat) (s : RunnerState Payload) : Bool :=
  match s.loop with
  | .dispatching _ .loadLimit => decide (s.tasks.length = number)
  | _ => false

/-- The loop is about to spawn the task of the dispatch that follows `number`
others. -/
def spawns (number : Nat) (s : RunnerState Payload) : Bool :=
  match s.loop with
  | .dispatching _ (.spawn _) => decide (s.tasks.length = number)
  | _ => false

end RunnerState

/-- The steps taken while an overlay that limits concurrency to `limit` is
active. -/
def WhileLimited (limit : Nat) (s : RunnerState Payload) (_ : Action Payload) : Prop :=
  s.shared.overlay.limitsTo s.shared.now limit = true

instance (limit : Nat) (s : RunnerState Payload)
    (a : Action Payload) : Decidable (WhileLimited limit s a) :=
  inferInstanceAs (Decidable (_ = true))

/-- The window opens when the loop enters `dispatch` unsaturated. -/
theorem Window.opens (reached : Runner.Reaches cfg now acts s)
    (entered : s.enters number = true) (unsaturated : s.tasksHolding ≤ limit) :
    Window cfg limit number s := by
  have ledger := Ledger.reaches reached
  have orderly := Orderly.reaches reached
  unfold enters at entered
  split at entered
  · rename_i frame here
    have numbered : s.tasks.length = number := by simpa using entered
    refine ⟨ledger, orderly, ?_, fun _ => ?_, ?_⟩
    · cases managed : cfg.inDaemon with
      | true => rfl
      | false =>
        have unmanaged := ledger.unmanaged managed
        rw [here] at unmanaged
        cases unmanaged
    · rw [here, numbered]
      exact Nat.lt_succ_self number
    · intro other point there _
      rw [here] at there
      cases there
      exact unsaturated
  · cases entered

/-- Where the window reaches the spawn, fewer other dispatches than the limit
hold a permit. -/
theorem Window.spawns (window : Window cfg limit number s)
    (spawning : s.spawns number = true) : s.tasksHolding < limit := by
  unfold RunnerState.spawns at spawning
  split at spawning
  · rename_i frame pol here
    obtain ⟨limited, agrees⟩ := window.enforces frame _ here (by simpa using spawning)
    have quiet : s.monitor.pendingResize = .finished 0 := by
      have sound := window.ledger.monitorSound
      rw [window.managed] at sound
      cases point : s.monitor with
      | reconciling idleSince inner =>
        rw [point] at agrees
        cases inner with
        | resize resizing => exact agrees.elim
        | _ => rfl
      | resizing idleSince inner =>
        rw [point] at sound
        cases sound.1
      | _ => rfl
    have balanced := window.ledger.balanced
    have settled : (ResizePoint.finished 0).added = 0 ∧
        (ResizePoint.finished 0).revoked = 0 := ⟨rfl, rfl⟩
    simp only [quiet, settled, holders, here, LoopPoint.holdsPermit, LoopPoint.reconcilePoint,
      ReconcilePoint.pendingResize, Bool.toNat_true, limited] at balanced
    omega
  · cases spawning

/-- An active concurrency overlay is enforced for a dispatch that starts
unsaturated: if no more than `limit` dispatches hold a permit when the loop
enters `dispatch`, and the overlay stays active, then the task is spawned while
fewer than `limit` others hold one. -/
theorem overlay_enforced {config : RunnerConfig} {now : Instant}
    {before window : List (Action Payload)} {entered spawning : RunnerState Payload}
    {limit number : Nat}
    (reached : Runner.Reaches config now before entered) (starts : entered.enters number = true)
    (unsaturated : entered.tasksHolding ≤ limit)
    (limited : GuardedRun (Runner.step config) (WhileLimited limit) entered window spawning)
    (spawns : spawning.spawns number = true) :
    spawning.tasksHolding < limit := by
  have kept : Window config limit number spawning :=
    limited.invariant (Window.opens reached starts unsaturated)
      fun kept active stepped => kept.step active stepped
  exact kept.spawns spawns

/-- An overlay that asks for one dispatch at a time. -/
def oneAtATime : TriggerPolicyOverlay :=
  { reason := "downstream pressure"
    ttl := fromSecs 30
    concurrencyLimit := some 1
    dispatchTimeout := none
    retryPolicy := none }

/-- Two permits and an overlay of one: the first dispatch revokes the idle
permit and is spawned alone. -/
theorem overlay_enforced_first_dispatch :
    ∃ entered spawning : RunnerState Unit,
      Runner.Reaches
          (.managed (some (ScalingPolicy.builder.withInitialConcurrency 2).build)) 0
          ([.requestOverlay oneAtATime] ++ Runner.arrival 4 () ++ Runner.loops 1) entered ∧
        GuardedRun (Runner.step (.managed (some
            (ScalingPolicy.builder.withInitialConcurrency 2).build)))
          (WhileLimited 1) entered (Runner.loops 16) spawning ∧
        spawning.spawns 0 = true ∧ spawning.tasksHolding < 1 := by
  obtain ⟨entered, reached, starts, unsaturated, checked⟩ :
      ∃ entered : RunnerState Unit,
        Runner.Reaches
            (.managed (some (ScalingPolicy.builder.withInitialConcurrency 2).build)) 0
            ([.requestOverlay oneAtATime] ++ Runner.arrival 4 () ++ Runner.loops 1) entered ∧
          entered.enters 0 = true ∧ entered.tasksHolding ≤ 1 ∧
          (runGuarded (Runner.step (.managed (some
              (ScalingPolicy.builder.withInitialConcurrency 2).build)))
            (WhileLimited 1) entered (Runner.loops 16)).any
              (fun state => decide (state.spawns 0 = true)) = true :=
    Run.exists_of_check (by decide +kernel)
  obtain ⟨spawning, limited, spawns⟩ := GuardedRun.exists_of_check checked
  exact ⟨entered, spawning, reached, limited, spawns,
    overlay_enforced reached starts unsaturated limited spawns⟩

/-- A saturated dispatch escapes the overlay.  Both permits are held when an
overlay of one is accepted, so the dispatch that follows finds nothing to
revoke; the permit that the first handler returns is handed to it without ever
being idle, and it is spawned while the other handler still runs. -/
theorem overlay_escaped_when_saturated :
    ∃ entered spawning : RunnerState Unit,
      Runner.Reaches
          (.managed (some (ScalingPolicy.builder.withInitialConcurrency 2).build)) 0
          (Runner.arrival 4 () ++ Runner.loops 14 ++ Runner.arrival 5 () ++
            Runner.loops 14 ++ [.requestOverlay oneAtATime] ++
            Runner.arrival 5 () ++ Runner.loops 1) entered ∧
        entered.enters 2 = true ∧
        GuardedRun (Runner.step (.managed (some
            (ScalingPolicy.builder.withInitialConcurrency 2).build)))
          (WhileLimited 1) entered
          (Runner.loops 12 ++ [.taskReturnsPermit 0 .ok] ++ Runner.loops 4)
          spawning ∧
        spawning.spawns 2 = true ∧
        spawning.shared.overlay.limitsTo spawning.shared.now 1 = true ∧
        spawning.tasksHolding = 1 := by
  obtain ⟨entered, reached, starts, checked⟩ :
      ∃ entered : RunnerState Unit,
        Runner.Reaches
            (.managed (some (ScalingPolicy.builder.withInitialConcurrency 2).build)) 0
            (Runner.arrival 4 () ++ Runner.loops 14 ++ Runner.arrival 5 () ++
              Runner.loops 14 ++ [.requestOverlay oneAtATime] ++
              Runner.arrival 5 () ++ Runner.loops 1) entered ∧
          entered.enters 2 = true ∧
          (runGuarded (Runner.step (.managed (some
              (ScalingPolicy.builder.withInitialConcurrency 2).build)))
            (WhileLimited 1) entered
            (Runner.loops 12 ++ [.taskReturnsPermit 0 .ok] ++ Runner.loops 4)).any
              (fun state => decide (state.spawns 2 = true ∧
                state.shared.overlay.limitsTo state.shared.now 1 = true ∧
                state.tasksHolding = 1)) = true :=
    Run.exists_of_check (by decide +kernel)
  obtain ⟨spawning, limited, escaped⟩ := GuardedRun.exists_of_check checked
  exact ⟨entered, spawning, reached, starts, limited, escaped⟩

end ServiceDaemon
