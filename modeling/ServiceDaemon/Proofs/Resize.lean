/-
Purpose: The permit books of one thread that resizes the semaphore: which
  permits the limit counter does not account for yet, and that every step of
  a reconciliation and of a scale-monitor tick keeps the books balanced.
Main exports: ResizePoint.Sound, ReconcilePoint.Sound, Books
-/
import ServiceDaemon.Core.Scaling

namespace ServiceDaemon

open AsyncLib MonitorPoint

/-!
While a thread resizes, the counter and the semaphore disagree: permits were
added and the counter is still to be raised, or permits were revoked and it is
still to be lowered.  `added` and `revoked` name that difference at each point,
and `Books` says that it is the whole difference.  `held` stands for the
permits that are neither idle nor assigned, and `owed` for permits that another
thread has added and not counted yet.
-/

/-! ### Resizing -/

namespace ResizePoint

/-- Permits in the semaphore that the counter does not include yet. -/
def added : ResizePoint → Nat
  | .storeRaised cur desired => desired - cur
  | _ => 0

/-- Permits that left the semaphore and are still counted. -/
def revoked : ResizePoint → Nat
  | .revoke _ _ revoked => revoked
  | .storeLowered _ revoked => revoked
  | _ => 0

/-- The locals of a resizing thread describe the current limit, and its target
lies between one and `bound`. -/
def Sound (bound limit : Nat) : ResizePoint → Prop
  | .addPermits cur desired | .storeRaised cur desired =>
    cur = limit ∧ cur < desired ∧ desired ≤ bound
  | .revoke cur left revoked => cur = limit ∧ left + revoked < cur
  | .storeLowered cur revoked => cur = limit ∧ revoked < cur
  | .finished _ => True

end ResizePoint

/-- The counter, corrected by what the resizing thread has pending, accounts
for every permit; it lies between one and `bound`. -/
structure Books (bound held owed : Nat) (shared : ConcurrencyState)
    (point : ResizePoint) : Prop where
  balanced : shared.semaphore.outstanding + held + point.revoked =
    shared.currentLimit + point.added + owed
  sound : point.Sound bound shared.currentLimit
  limit_pos : 1 ≤ shared.currentLimit
  limit_le : shared.currentLimit ≤ bound

variable {bound held owed : Nat} {shared after : ConcurrencyState}

/-- Each semaphore operation and each store keeps the books. -/
theorem Books.resizes {point next} (books : Books bound held owed shared point)
    (move : ResizeMove shared point after next) : Books bound held owed after next := by
  obtain ⟨balanced, sound, positive, bounded⟩ := books
  cases move with
  | adds =>
    obtain ⟨rfl, raises, fits⟩ := sound
    refine ⟨?_, ⟨rfl, raises, fits⟩, positive, bounded⟩
    simp only [ResizePoint.added, ResizePoint.revoked,
      Semaphore.outstanding_addPermits] at balanced ⊢
    omega
  | raises =>
    rename_i cur desired
    obtain ⟨rfl, raises, fits⟩ := sound
    refine ⟨?_, trivial, ?_, fits⟩
    · simp only [ResizePoint.added, ResizePoint.revoked] at balanced ⊢
      omega
    · show 1 ≤ desired
      omega
  | revokes acquired =>
    obtain ⟨rfl, keepsOne⟩ := sound
    have fewer := Semaphore.outstanding_tryAcquire acquired
    refine ⟨?_, ⟨rfl, by omega⟩, positive, bounded⟩
    simp only [ResizePoint.added, ResizePoint.revoked] at balanced ⊢
    omega
  | ends _ =>
    obtain ⟨rfl, keepsOne⟩ := sound
    exact ⟨balanced, ⟨rfl, by omega⟩, positive, bounded⟩
  | lowers =>
    rename_i cur revoked
    obtain ⟨rfl, keepsOne⟩ := sound
    refine ⟨?_, trivial, ?_, ?_⟩
    · simp only [ResizePoint.added, ResizePoint.revoked] at balanced ⊢
      omega
    · show 1 ≤ shared.currentLimit - revoked
      omega
    · show shared.currentLimit - revoked ≤ bound
      omega

theorem ResizeMove.frame {point next} (move : ResizeMove shared point after next) :
    after.reconcileLock = shared.reconcileLock ∧ after.overlay = shared.overlay ∧
      after.registered = shared.registered ∧ after.now = shared.now := by
  cases move <;> exact ⟨rfl, rfl, rfl, rfl⟩

/-! ### Reconciling -/

namespace ReconcilePoint

/-- The thread is inside the `reconcile` critical section. -/
def critical : ReconcilePoint → Bool
  | .lookup _ | .lock _ | .finished _ => false
  | _ => true

/-- The resize in progress; `finished` where there is none. -/
def pendingResize : ReconcilePoint → ResizePoint
  | .resize point => point
  | _ => .finished 0

/-- What the locals of a reconciling thread satisfy. -/
def Sound (bound limit : Nat) : ReconcilePoint → Prop
  | .loadLimit desired => 1 ≤ desired ∧ desired ≤ bound
  | .readAvailable desired cur =>
    (1 ≤ desired ∧ desired ≤ bound) ∧ cur = limit
  | .resize point => point.Sound bound limit
  | _ => True

theorem pendingResize_sound {limit : Nat} {point : ReconcilePoint}
    (sound : point.Sound bound limit) : point.pendingResize.Sound bound limit := by
  cases point with
  | resize inner => exact sound
  | _ => trivial

theorem sound_of_not_critical {limit : Nat} {point : ReconcilePoint}
    (outside : point.critical = false) : point.Sound bound limit := by
  cases point with
  | lookup baseTarget => trivial
  | lock baseTarget => trivial
  | finished limit => trivial
  | _ => cases outside

theorem pendingResize_of_not_critical {point : ReconcilePoint}
    (outside : point.critical = false) : point.pendingResize = .finished 0 := by
  cases point with
  | resize inner => cases outside
  | _ => rfl

end ReconcilePoint

theorem clampDesired_range (base : TriggerBasePolicy) (desired : Nat) :
    1 ≤ clampDesired base desired ∧ clampDesired base desired ≤ base.maxConcurrency := by
  have positive := base.maxConcurrency_pos
  unfold clampDesired
  omega

/-- The branch taken after the semaphore was read is sound, and it has not
changed a permit yet. -/
theorem startResize_sound (available : Nat) (wanted : 1 ≤ desired ∧ desired ≤ bound) :
    (startResize desired limit available).Sound bound limit ∧
      (startResize desired limit available).pendingResize.added = 0 ∧
      (startResize desired limit available).pendingResize.revoked = 0 := by
  unfold startResize
  split
  · rename_i raises
    exact ⟨⟨rfl, raises, wanted.2⟩, rfl, rfl⟩
  · split
    · refine ⟨⟨rfl, ?_⟩, rfl, rfl⟩
      omega
    · exact ⟨trivial, rfl, rfl⟩

theorem startResize_critical (desired cur available : Nat) :
    (startResize desired cur available).critical = true := by
  unfold startResize
  split
  · rfl
  · split <;> rfl

/-- What holds of the shared state while one thread may be reconciling. -/
structure ReconcileBooks (bound held owed : Nat) (shared : ConcurrencyState)
    (point : ReconcilePoint) : Prop where
  books : Books bound held owed shared point.pendingResize
  sound : point.Sound bound shared.currentLimit

variable {base : TriggerBasePolicy} {actor : Actor}
  {point next : ReconcilePoint}

/-- A step that moves between points with no permit pending. -/
private theorem ReconcileBooks.moves (kept : ReconcileBooks bound held owed shared point)
    (sem : after.semaphore = shared.semaphore) (limit : after.currentLimit = shared.currentLimit)
    (sound : next.Sound bound shared.currentLimit)
    (added : next.pendingResize.added = point.pendingResize.added)
    (revoked : next.pendingResize.revoked = point.pendingResize.revoked) :
    ReconcileBooks bound held owed after next := by
  have limited : next.Sound bound after.currentLimit := limit ▸ sound
  refine ⟨⟨?_, ReconcilePoint.pendingResize_sound limited, ?_, ?_⟩, limited⟩
  · rw [sem, limit, added, revoked]
    exact kept.books.balanced
  · rw [limit]
    exact kept.books.limit_pos
  · rw [limit]
    exact kept.books.limit_le

/-- Every step of a reconciliation keeps the books. -/
theorem ReconcileBooks.reconciles (kept : ReconcileBooks base.maxConcurrency held owed shared point)
    (move : ReconcileMove base actor shared point after next) :
    ReconcileBooks base.maxConcurrency held owed after next := by
  cases move with
  | finds _ | misses _ | locks _ | resized | unlocks => exact kept.moves rfl rfl trivial rfl rfl
  | chooses => exact kept.moves rfl rfl (clampDesired_range base _) rfl rfl
  | loadsLimit => exact kept.moves rfl rfl ⟨kept.sound, rfl⟩ rfl rfl
  | readsAvailable =>
    obtain ⟨wanted, rfl⟩ := kept.sound
    obtain ⟨sound, added, revoked⟩ := startResize_sound shared.semaphore.availablePermits wanted
    exact kept.moves rfl rfl sound added revoked
  | resizes inner =>
    have books := kept.books.resizes inner
    exact ⟨books, books.sound⟩

theorem ReconcileMove.now (move : ReconcileMove base actor shared point after next) :
    after.now = shared.now := by
  cases move with
  | resizes inner => exact inner.frame.2.2.2
  | _ => rfl

/-- Outside the critical section a reconciliation changes no permit and no
limit. -/
theorem ReconcileMove.outside (move : ReconcileMove base actor shared point after next)
    (outside : point.critical = false) :
    after.semaphore = shared.semaphore ∧ after.currentLimit = shared.currentLimit := by
  cases move with
  | resizes _ => cases outside
  | _ => exact ⟨rfl, rfl⟩

/-- The lock is held by the thread that is in the critical section, and a
thread neither takes nor frees the lock for another. -/
theorem ReconcileMove.lock (move : ReconcileMove base actor shared point after next)
    (owned : point.critical = true ↔ shared.reconcileLock = some actor) :
    (next.critical = true ↔ after.reconcileLock = some actor) ∧
      ∀ other, other ≠ actor → (after.reconcileLock = some other ↔
          shared.reconcileLock = some other) := by
  cases move with
  | finds _ | misses _ | chooses | loadsLimit | resized => exact ⟨owned, fun _ _ => Iff.rfl⟩
  | locks free =>
    refine ⟨⟨fun _ => rfl, fun _ => rfl⟩, ?_⟩
    intro other different
    rw [free]
    constructor
    · intro same
      exact absurd (Option.some.inj same).symm different
    · intro taken
      cases taken
  | readsAvailable =>
    refine ⟨?_, fun _ _ => Iff.rfl⟩
    have locked := owned.mp rfl
    exact ⟨fun _ => locked, fun _ => startResize_critical ..⟩
  | resizes inner =>
    rw [inner.frame.1]
    exact ⟨owned, fun _ _ => Iff.rfl⟩
  | unlocks =>
    have locked := owned.mp rfl
    refine ⟨⟨nofun, nofun⟩, ?_⟩
    intro other different
    rw [locked]
    constructor
    · intro taken
      cases taken
    · intro same
      exact absurd (Option.some.inj same).symm different

/-! ### The scale monitor -/

namespace MonitorPoint

/-- The monitor is inside the `reconcile` critical section. -/
def critical : MonitorPoint → Bool
  | .reconciling _ point => point.critical
  | _ => false

/-- The monitor is past its sample and changes the limit. -/
def resizes : MonitorPoint → Bool
  | .reconciling _ _ | .resizing _ _ => true
  | _ => false

/-- The resize in progress; `finished` where there is none. -/
def pendingResize : MonitorPoint → ResizePoint
  | .reconciling _ point => point.pendingResize
  | .resizing _ point => point
  | _ => .finished 0

/-- What the locals of the monitor satisfy.  Inside a daemon its sample of the
limit may be stale; outside nobody else writes the limit. -/
def Sound (inDaemon : Bool) (bound limit : Nat) : MonitorPoint → Prop
  | .readAvailable _ loaded | .sampled _ loaded _ _
  | .scaleDown _ loaded _ => inDaemon = false → loaded = limit
  | .lookupOverlay _ _ _ | .pruneOverlay _ _ _ | .readOverlay _ _ _ =>
    inDaemon = true
  | .reconciling _ point => inDaemon = true ∧ point.Sound bound limit
  | .resizing _ point => inDaemon = false ∧ point.Sound bound limit
  | _ => True

theorem pendingResize_sound {inDaemon : Bool} {limit : Nat}
    {point : MonitorPoint} (sound : point.Sound inDaemon bound limit) :
    point.pendingResize.Sound bound limit := by
  cases point with
  | reconciling idleSince inner => exact ReconcilePoint.pendingResize_sound sound.2
  | resizing idleSince inner => exact sound.2
  | _ => trivial

/-- Inside a daemon, a monitor that is not in the critical section does not
depend on the limit. -/
theorem sound_of_not_critical {limit other : Nat} {point : MonitorPoint}
    (sound : point.Sound true bound limit)
    (outside : point.critical = false) : point.Sound true bound other := by
  cases point with
  | readAvailable idleSince loaded => exact nofun
  | sampled idleSince loaded inFlight effectiveMax => exact nofun
  | scaleDown idleSince loaded effectiveMax => exact nofun
  | reconciling idleSince inner => exact ⟨rfl, ReconcilePoint.sound_of_not_critical outside⟩
  | resizing idleSince inner => cases sound.1
  | _ => exact sound

theorem pendingResize_of_not_critical {limit : Nat} {point : MonitorPoint}
    (sound : point.Sound true bound limit) (outside : point.critical = false) :
    point.pendingResize = .finished 0 := by
  cases point with
  | reconciling idleSince inner => exact ReconcilePoint.pendingResize_of_not_critical outside
  | resizing idleSince inner => cases sound.1
  | _ => rfl

end MonitorPoint

/-- A scale-up target stays within the policy. -/
theorem scaleUpTarget_le (scaling : ScalingPolicy) (limit inFlight effectiveMax : Nat) :
    scaleUpTarget scaling limit inFlight effectiveMax ≤ scaling.maxConcurrency := by
  have positive := scaling.max_pos
  unfold scaleUpTarget
  simp only
  split
  · omega
  · split <;> omega

/-- A scale-down target keeps one permit. -/
theorem scaleDownTarget_pos (scaling : ScalingPolicy)
    (limit effectiveMax : Nat) (idleSince : Option Instant) (now : Instant) :
    1 ≤ (scaleDownTarget scaling limit effectiveMax idleSince now).1 := by
  unfold scaleDownTarget
  split
  · simp only
    omega
  · simp only
    split <;> simp only <;> omega

/-- What holds of the shared state while the monitor may be resizing. -/
structure MonitorBooks (inDaemon : Bool) (bound held owed : Nat)
    (shared : ConcurrencyState) (point : MonitorPoint) : Prop where
  books : Books bound held owed shared point.pendingResize
  sound : point.Sound inDaemon bound shared.currentLimit

section Monitor

variable {scaling : ScalingPolicy} {inDaemon : Bool}
  {here there : MonitorPoint}

/-- A reconciling monitor reconciles, or goes back to sleep. -/
theorem monitorStep_reconciling {idleSince}
    (h : monitorStep base scaling inDaemon shared (.reconciling idleSince point) =
      some (after, there)) :
    (∃ next, ReconcileMove base .monitor shared point after next ∧
      there = .reconciling idleSince next) ∨
      (point.critical = false ∧ after = shared ∧ there = .sleepFrom shared.now idleSince) := by
  cases point with
  | finished limit =>
    cases h
    exact .inr ⟨rfl, rfl, rfl⟩
  | _ =>
    simp only [monitorStep, Option.map_eq_some_iff, Prod.exists, Prod.mk.injEq] at h
    obtain ⟨_, next, reconciled, rfl, rfl⟩ := h
    exact .inl ⟨next, .of_reconcileStep reconciled, rfl⟩

/-- A monitor that resizes without a record resizes, or goes back to sleep. -/
theorem monitorStep_resizing {idleSince inner}
    (h : monitorStep base scaling inDaemon shared (.resizing idleSince inner) =
      some (after, there)) :
    (∃ next, ResizeMove shared inner after next ∧ there = .resizing idleSince next) ∨
      ((∃ limit, inner = .finished limit) ∧ after = shared ∧
        there = .sleepFrom shared.now idleSince) := by
  cases inner with
  | finished limit =>
    cases h
    exact .inr ⟨⟨limit, rfl⟩, rfl, rfl⟩
  | _ =>
    simp only [monitorStep, Option.map_eq_some_iff, Prod.exists, Prod.mk.injEq] at h
    obtain ⟨_, next, resized, rfl, rfl⟩ := h
    exact .inl ⟨next, .of_resizeStep resized, rfl⟩

theorem MonitorPoint.afterScaleUp_critical (now : Instant) (limit target : Nat) :
    (afterScaleUp inDaemon now limit target).critical = false := by
  unfold afterScaleUp
  split
  · rfl
  · split <;> rfl

theorem MonitorPoint.afterScaleDown_critical (now : Instant)
    (limit target : Nat) (idleSince : Option Instant) :
    (afterScaleDown inDaemon now limit target idleSince).critical = false := by
  unfold afterScaleDown
  split
  · rfl
  · split <;> rfl

/-- While it samples, the monitor changes at most the overlay, which it prunes,
and it does not enter the critical section. -/
theorem monitorStep_samples (sampling : here.resizes = false)
    (h : monitorStep base scaling inDaemon shared here = some (after, there)) :
    after = { shared with overlay := after.overlay } ∧ (after.overlay = shared.overlay ∨
        after.overlay = shared.overlay.pruneExpiredOverlay shared.now) ∧
      there.critical = false := by
  cases here with
  | absent => cases h
  | sleeping idleSince wakeAt =>
    simp only [monitorStep] at h
    split at h
    · cases h
      exact ⟨rfl, .inl rfl, rfl⟩
    · cases h
  | readAvailable idleSince limit =>
    simp only [monitorStep] at h
    split at h <;>
    · cases h
      exact ⟨rfl, .inl rfl, rfl⟩
  | lookupOverlay idleSince limit inFlight =>
    simp only [monitorStep] at h
    split at h <;>
    · cases h
      exact ⟨rfl, .inl rfl, rfl⟩
  | pruneOverlay idleSince limit inFlight =>
    cases h
    exact ⟨rfl, .inr rfl, rfl⟩
  | readOverlay idleSince limit inFlight =>
    cases h
    exact ⟨rfl, .inl rfl, rfl⟩
  | sampled idleSince limit inFlight effectiveMax =>
    simp only [monitorStep] at h
    split at h
    · cases h
      exact ⟨rfl, .inl rfl, rfl⟩
    · cases h
      exact ⟨rfl, .inl rfl, afterScaleUp_critical ..⟩
  | scaleDown idleSince limit effectiveMax =>
    cases h
    exact ⟨rfl, .inl rfl, afterScaleDown_critical ..⟩
  | reconciling idleSince inner => cases sampling
  | resizing idleSince inner => cases sampling
  | ended joinError => cases h

/-- Neither does the monitor. -/
theorem monitorStep_now (h : monitorStep base scaling inDaemon shared here = some (after, there)) :
    after.now = shared.now := by
  cases here with
  | reconciling idleSince inner =>
    rcases monitorStep_reconciling h with
      ⟨next, reconciled, rfl⟩ | ⟨_, rfl, rfl⟩
    · exact reconciled.now
    · rfl
  | resizing idleSince inner =>
    rcases monitorStep_resizing h with
      ⟨next, resized, rfl⟩ | ⟨_, rfl, rfl⟩
    · exact resized.frame.2.2.2
    · rfl
  | _ =>
    obtain ⟨same, -, -⟩ := monitorStep_samples rfl h
    rw [same]

/-- Inside a daemon, a monitor outside the critical section changes no permit
and no limit. -/
theorem monitorStep_outside (outside : here.critical = false)
    (sound : here.Sound true bound shared.currentLimit)
    (h : monitorStep base scaling true shared here = some (after, there)) :
    after.semaphore = shared.semaphore ∧ after.currentLimit = shared.currentLimit := by
  cases here with
  | reconciling idleSince inner =>
    rcases monitorStep_reconciling h with
      ⟨next, reconciled, rfl⟩ | ⟨_, rfl, rfl⟩
    · exact reconciled.outside outside
    · exact ⟨rfl, rfl⟩
  | resizing idleSince inner => cases sound.1
  | _ =>
    rw [(monitorStep_samples rfl h).1]
    exact ⟨rfl, rfl⟩

/-- The monitor takes and frees the lock for itself only. -/
theorem monitorStep_lock (owned : here.critical = true ↔ shared.reconcileLock = some .monitor)
    (h : monitorStep base scaling inDaemon shared here = some (after, there)) :
    (there.critical = true ↔ after.reconcileLock = some .monitor) ∧
      (after.reconcileLock = some .dispatcher ↔ shared.reconcileLock = some .dispatcher) := by
  cases here with
  | reconciling idleSince inner =>
    rcases monitorStep_reconciling h with
      ⟨next, reconciled, rfl⟩ | ⟨outside, rfl, rfl⟩
    · obtain ⟨own, others⟩ := reconciled.lock owned
      exact ⟨own, others .dispatcher nofun⟩
    · have free : ¬ after.reconcileLock = some .monitor := by
        intro locked
        have inside := owned.mpr locked
        rw [critical, outside] at inside
        cases inside
      exact ⟨⟨nofun, fun locked => absurd locked free⟩, Iff.rfl⟩
  | resizing idleSince inner =>
    rcases monitorStep_resizing h with
      ⟨next, resized, rfl⟩ | ⟨_, rfl, rfl⟩
    · rw [resized.frame.1]
      exact ⟨owned, Iff.rfl⟩
    · exact ⟨owned, Iff.rfl⟩
  | _ =>
    obtain ⟨same, -, outside⟩ := monitorStep_samples rfl h
    rw [same, outside]
    exact ⟨owned, Iff.rfl⟩

/-- A step of the monitor that changes no permit. -/
private theorem MonitorBooks.moves (kept : MonitorBooks inDaemon bound held owed shared here)
    (sem : after.semaphore = shared.semaphore) (limit : after.currentLimit = shared.currentLimit)
    (sound : there.Sound inDaemon bound shared.currentLimit)
    (added : there.pendingResize.added = here.pendingResize.added)
    (revoked : there.pendingResize.revoked = here.pendingResize.revoked) :
    MonitorBooks inDaemon bound held owed after there := by
  have limited : there.Sound inDaemon bound after.currentLimit := limit ▸ sound
  refine ⟨⟨?_, pendingResize_sound limited, ?_, ?_⟩, limited⟩
  · rw [sem, limit, added, revoked]
    exact kept.books.balanced
  · rw [limit]
    exact kept.books.limit_pos
  · rw [limit]
    exact kept.books.limit_le

/-- After the busy branch chose its target. -/
private theorem MonitorBooks.afterScaleUp {idleSince limit inFlight effectiveMax}
    (kept : MonitorBooks inDaemon scaling.maxConcurrency held owed shared
      (.sampled idleSince limit inFlight effectiveMax)) :
    MonitorBooks inDaemon scaling.maxConcurrency held owed shared
      (.afterScaleUp inDaemon shared.now limit
        (scaleUpTarget scaling limit inFlight effectiveMax)) := by
  unfold MonitorPoint.afterScaleUp
  split
  · rename_i managed
    exact kept.moves rfl rfl ⟨managed, trivial⟩ rfl rfl
  · rename_i alone
    have standalone : inDaemon = false := by simpa using alone
    split
    · exact kept.moves rfl rfl trivial rfl rfl
    · rename_i raises
      refine kept.moves rfl rfl ⟨standalone, ?_⟩ rfl rfl
      exact ⟨kept.sound standalone, by omega, scaleUpTarget_le ..⟩

/-- After the idle branch chose its target. -/
private theorem MonitorBooks.afterScaleDown {idleSince later limit effectiveMax target}
    (kept : MonitorBooks inDaemon bound held owed shared (.scaleDown idleSince limit effectiveMax))
    (positive : 1 ≤ target) :
    MonitorBooks inDaemon bound held owed shared
      (.afterScaleDown inDaemon shared.now limit target later) := by
  unfold MonitorPoint.afterScaleDown
  split
  · rename_i managed
    exact kept.moves rfl rfl ⟨managed, trivial⟩ rfl rfl
  · rename_i alone
    have standalone : inDaemon = false := by simpa using alone
    split
    · exact kept.moves rfl rfl trivial rfl rfl
    · rename_i lowers
      refine kept.moves rfl rfl ⟨standalone, ?_⟩ rfl rfl
      exact ⟨kept.sound standalone, by omega⟩

/-- Every step of the monitor keeps the books. -/
theorem MonitorBooks.monitorStep (scaled : base.scaling = some scaling)
    (kept : MonitorBooks inDaemon base.maxConcurrency held owed shared here)
    (h : monitorStep base scaling inDaemon shared here = some (after, there)) :
    MonitorBooks inDaemon base.maxConcurrency held owed after there := by
  have bound : base.maxConcurrency = scaling.maxConcurrency := by
    simp [TriggerBasePolicy.maxConcurrency, scaled]
  cases here with
  | absent => cases h
  | sleeping idleSince wakeAt =>
    simp only [ServiceDaemon.monitorStep] at h
    split at h
    · cases h
      exact kept.moves rfl rfl (fun _ => rfl) rfl rfl
    · cases h
  | readAvailable idleSince limit =>
    simp only [ServiceDaemon.monitorStep] at h
    split at h
    · rename_i managed
      cases h
      exact kept.moves rfl rfl managed rfl rfl
    · cases h
      exact kept.moves rfl rfl kept.sound rfl rfl
  | lookupOverlay idleSince limit inFlight =>
    have managed : inDaemon = true := kept.sound
    simp only [ServiceDaemon.monitorStep] at h
    split at h
    · cases h
      exact kept.moves rfl rfl managed rfl rfl
    · cases h
      exact kept.moves rfl rfl (by simp [MonitorPoint.Sound, managed])
        rfl rfl
  | pruneOverlay idleSince limit inFlight =>
    cases h
    exact kept.moves rfl rfl kept.sound rfl rfl
  | readOverlay idleSince limit inFlight =>
    have managed : inDaemon = true := kept.sound
    cases h
    exact kept.moves rfl rfl (by simp [MonitorPoint.Sound, managed]) rfl rfl
  | sampled idleSince limit inFlight effectiveMax =>
    simp only [ServiceDaemon.monitorStep] at h
    split at h
    · cases h
      exact kept.moves rfl rfl kept.sound rfl rfl
    · cases h
      rw [bound] at kept ⊢
      exact kept.afterScaleUp
  | scaleDown idleSince limit effectiveMax =>
    cases h
    exact kept.afterScaleDown (scaleDownTarget_pos ..)
  | reconciling idleSince inner =>
    rcases monitorStep_reconciling h with
      ⟨next, reconciled, rfl⟩ | ⟨outside, rfl, rfl⟩
    · have reconciling :
          ReconcileBooks base.maxConcurrency held owed shared inner :=
        ⟨kept.books, kept.sound.2⟩
      have books := reconciling.reconciles reconciled
      exact ⟨books.books, kept.sound.1, books.sound⟩
    · have none := ReconcilePoint.pendingResize_of_not_critical outside
      refine kept.moves rfl rfl trivial ?_ ?_ <;>
      · simp only [pendingResize, sleepFrom, none]
  | resizing idleSince inner =>
    rcases monitorStep_resizing h with
      ⟨next, resized, rfl⟩ | ⟨⟨limit, rfl⟩, rfl, rfl⟩
    · have books := kept.books.resizes resized
      exact ⟨books, kept.sound.1, books.sound⟩
    · exact kept.moves rfl rfl trivial rfl rfl
  | ended joinError => cases h

end Monitor

end ServiceDaemon
