/-
Purpose: The overlay store of a daemon: the records of all trigger generations,
  the map that says which record is current for a service, and the calls on
  them.  Finding a record and using it are separate steps.
Main exports: OverlayRecord, OverlayArguments, OverlayUse
-/
import ServiceDaemon.Core.Dispatch
import ServiceDaemon.Core.PolicyOverlay
import ServiceDaemon.Lib.StepSystem
import ServiceDaemon.Lib.Threads

namespace ServiceDaemon

open AsyncLib StepSystem

/-!
The store maps a service to the record of its current generation.  A call looks
its record up once (`apply_effective_concurrency` twice) and goes on with the
record it found, which it shares with everybody else who found it; that record
may have been replaced in the map, or removed from it, by then.

Records are named by the order of their registration and are never reused.  A
critical section on the `state` lock is one step, and so is an operation on the
map.  The permits of a record's semaphore are taken and returned by the
dispatches of its generation.

[SRC core/trigger_policy_overlay.rs]
-/

/-- `TriggerPolicyOverlayRecord`, with the service it was registered for. -/
structure OverlayRecord where
  serviceId : ServiceId
  generation : Nat
  base : TriggerBasePolicy
  semaphore : Semaphore Nat
  currentLimit : Nat
  overlay : TriggerPolicyOverlayState
  reconcileLock : Option Actor

namespace OverlayRecord

/-- What the reconciliation works on. -/
def shared (record : OverlayRecord) (now : Instant) : ConcurrencyState :=
  { semaphore := record.semaphore
    currentLimit := record.currentLimit
    reconcileLock := record.reconcileLock
    overlay := record.overlay
    registered := true
    now := now }

def withShared (record : OverlayRecord) (shared : ConcurrencyState) :
    OverlayRecord :=
  { record with
    semaphore := shared.semaphore
    currentLimit := shared.currentLimit
    overlay := shared.overlay
    reconcileLock := shared.reconcileLock }

/-- The service and the generation of the record. -/
def tag (record : OverlayRecord) : ServiceId × Nat :=
  (record.serviceId, record.generation)

end OverlayRecord

/-- The calls on the store, with their arguments other than the service and the
generation. -/
inductive OverlayArguments where
  | request (overlay : TriggerPolicyOverlay)
  | clear (reason : String)
  | effectivePolicy (fallback : TriggerBasePolicy)
  | apply
  | reconcile (baseTarget : Nat)
  | concurrencyLimit (fallback : Nat)
  | remove

/-- Who reconciles: dispatches apply the overlay, the scale monitor reconciles
to a target. -/
def OverlayArguments.actor : OverlayArguments → Actor
  | .apply => .dispatcher
  | _ => .monitor

def OverlayArguments.isRemove : OverlayArguments → Bool
  | .remove => true
  | _ => false

/-- What a call that has found its record does next. -/
inductive OverlayUse where
  -- `request_overlay`
  | checkBounds (overlay : TriggerPolicyOverlay)
  | install (overlay : TriggerPolicyOverlay) (expiresAt : Instant)
  -- `clear_overlay`
  | clear
  -- `effective_policy`
  | prunePolicy
  | readPolicy
  -- `current_limit_or_base` and `reconcile_effective_concurrency`
  | loadLimit
  | reconcile (point : ReconcilePoint)
  -- `effective_concurrency_limit`
  | pruneLimit (fallback : Nat)
  | readLimit (fallback : Nat)
  -- `remove_trigger_generation`
  | take

/-- What a call returns. -/
inductive OverlayOutcome where
  | requested (result : Except TriggerPolicyOverlayError Unit)
  | cleared (result : Except TriggerPolicyOverlayError Unit)
  | policy (policy : EffectiveTriggerPolicy)
  | reconciled (limit : Nat)
  | concurrencyLimit (limit : Nat)
  | removed

/-- Where a call stands. -/
inductive OverlayPoint where
  | lookup
  /-- the second lookup of `apply_effective_concurrency` -/
  | lookupReconcile (baseTarget : Nat)
  | holding (record : Nat) (use : OverlayUse)
  | returned (outcome : OverlayOutcome)

/-- A call tagged with a service and a generation. -/
structure OverlayCall where
  serviceId : ServiceId
  generation : Nat
  arguments : OverlayArguments
  point : OverlayPoint

namespace OverlayCall

def tag (call : OverlayCall) : ServiceId × Nat :=
  (call.serviceId, call.generation)

/-- Where the second lookup leads. -/
def afterReconcileLookup (baseTarget : Nat) : Option Nat → OverlayPoint
  | some record => .holding record (.reconcile (.lock baseTarget))
  | none => .returned (.reconciled (max baseTarget 1))

/-- Where the lookup leads, depending on what it found. -/
def afterLookup (call : OverlayCall) (found : Option Nat) : OverlayPoint :=
  match call.arguments with
  | .request overlay =>
    match overlay.validateShape, found with
    | .error error, _ => .returned (.requested (.error error))
    | .ok (), none =>
      .returned (.requested (.error .triggerOverlayUnavailable))
    | .ok (), some record => .holding record (.checkBounds overlay)
  | .clear reason =>
    match validateOverlayClearReason reason, found with
    | .error error, _ => .returned (.cleared (.error error))
    | .ok (), none =>
      .returned (.cleared (.error .triggerOverlayUnavailable))
    | .ok (), some record => .holding record .clear
  | .effectivePolicy fallback =>
    match found with
    | none =>
      .returned
        (.policy { restartPolicy := fallback.restartPolicy, dispatchTimeout := none })
    | some record => .holding record .prunePolicy
  | .apply =>
    match found with
    | none => .lookupReconcile 1
    | some record => .holding record .loadLimit
  | .reconcile baseTarget => afterReconcileLookup baseTarget found
  | .concurrencyLimit fallback =>
    match found with
    | none => .returned (.concurrencyLimit fallback)
    | some record => .holding record (.pruneLimit fallback)
  | .remove =>
    match found with
    | none => .returned .removed
    | some record => .holding record .take

end OverlayCall

/-- One step of a call on the record it holds, `index`. -/
def OverlayRecord.use (record : OverlayRecord) (now : Instant) (actor : Actor)
    (index : Nat) : OverlayUse → Option (OverlayRecord × OverlayPoint)
  | .checkBounds overlay =>
    match TriggerPolicyOverlayState.validateOverlayBounds record.base
        overlay with
    | .error error => some (record, .returned (.requested (.error error)))
    | .ok () =>
      some (record, .holding index (.install overlay (now + overlay.ttl)))
  | .install overlay expiresAt =>
    some
      ({ record with
          overlay :=
            { overlay := some { overlay := overlay, expiresAt := expiresAt }
              restoreBaseOnNextReconcile :=
                record.overlay.activeConcurrencyLimit.isSome &&
                  !overlay.concurrencyLimit.isSome } },
        .returned (.requested (.ok ())))
  | .clear =>
    some
      ({ record with
          overlay :=
            { overlay := none
              restoreBaseOnNextReconcile :=
                if record.overlay.activeConcurrencyLimit.isSome then true
                else record.overlay.restoreBaseOnNextReconcile } },
        .returned (.cleared (.ok ())))
  | .prunePolicy =>
    some
      ({ record with overlay := record.overlay.pruneExpiredOverlay now },
        .holding index .readPolicy)
  | .readPolicy =>
    some (record, .returned (.policy (record.overlay.effectivePolicy record.base)))
  | .loadLimit => some (record, .lookupReconcile record.currentLimit)
  | .reconcile (.finished limit) =>
    some (record, .returned (.reconciled limit))
  | .reconcile point =>
    (reconcileStep record.base actor (record.shared now) point).map
      fun (shared, after) =>
        (record.withShared shared, .holding index (.reconcile after))
  | .pruneLimit fallback =>
    some
      ({ record with overlay := record.overlay.pruneExpiredOverlay now },
        .holding index (.readLimit fallback))
  | .readLimit fallback =>
    some (record, .returned (.concurrencyLimit
          (record.overlay.activeConcurrencyLimit.getD fallback)))
  | .take =>
    some
      ({ record with overlay := { record.overlay with overlay := none } }, .returned .removed)

/-- The store, the records that were ever registered, and the calls. -/
structure OverlayStore where
  records : List OverlayRecord
  current : ServiceId → Option Nat
  calls : List OverlayCall
  now : Instant

/-- What can happen. -/
inductive OverlayAction where
  | register (serviceId : ServiceId) (generation : Nat)
      (base : TriggerBasePolicy) (semaphore : Semaphore Nat)
      (currentLimit : Nat)
  | call (serviceId : ServiceId) (generation : Nat)
      (arguments : OverlayArguments)
  | step (thread : Nat)
  /-- a dispatch of the record's generation takes or returns a permit -/
  | takePermit (record : Nat)
  | returnPermit (record : Nat)
  | advance (duration : Duration)

namespace OverlayStore

def new (now : Instant) : OverlayStore :=
  { records := [], current := fun _ => none, calls := [], now := now }

def recordForGeneration (store : OverlayStore) (serviceId : ServiceId)
    (generation : Nat) : Option Nat :=
  (store.current serviceId).filter fun index =>
    (store.records[index]?).any fun record => record.generation == generation

/-- The map after a lookup: `remove_trigger_generation` takes what it found out
of it. -/
def currentAfter (store : OverlayStore) (call : OverlayCall)
    (found : Option Nat) : ServiceId → Option Nat :=
  if call.arguments.isRemove && found.isSome then
    Function.update store.current call.serviceId none
  else store.current

/-- One step of a call. -/
def stepCall (store : OverlayStore) (thread : Nat) (call : OverlayCall) :
    Option OverlayStore :=
  let goto := fun point => store.calls.set thread { call with point := point }
  match call.point with
  | .lookup =>
    let found := store.recordForGeneration call.serviceId call.generation
    some
      { store with
        current := store.currentAfter call found
        calls := goto (call.afterLookup found) }
  | .lookupReconcile baseTarget =>
    let found := store.recordForGeneration call.serviceId call.generation
    some
      { store with calls := goto (OverlayCall.afterReconcileLookup baseTarget found) }
  | .holding index use =>
    store.records[index]?.bind fun record =>
      (record.use store.now call.arguments.actor index use).map
        fun (after, point) =>
          { store with records := store.records.set index after, calls := goto point }
  | .returned _ => none

/-- An operation of a dispatch on the semaphore of its record. -/
def setSemaphore (store : OverlayStore) (index : Nat)
    (operate : Semaphore Nat → Option (Semaphore Nat)) : Option OverlayStore :=
  store.records[index]?.bind fun record =>
    (operate record.semaphore).map fun semaphore =>
      { store with records := store.records.set index { record with semaphore := semaphore } }

def step (store : OverlayStore) : OverlayAction → Option OverlayStore
  | .register serviceId generation base semaphore currentLimit =>
    some
      { store with
        records :=
          store.records ++
            [{ serviceId := serviceId
               generation := generation
               base := base
               semaphore := semaphore
               currentLimit := currentLimit
               overlay := .default
               reconcileLock := none }]
        current :=
          Function.update store.current serviceId store.records.length }
  | .call serviceId generation arguments =>
    some
      { store with calls := store.calls ++ [⟨serviceId, generation, arguments, .lookup⟩] }
  | .step thread => store.calls[thread]?.bind (store.stepCall thread)
  | .takePermit index => store.setSemaphore index Semaphore.tryAcquire
  | .returnPermit index =>
    store.setSemaphore index fun semaphore => some (semaphore.addPermits 1)
  | .advance duration => some { store with now := store.now + duration }

end OverlayStore

/-! ### What a step can do -/

/-- The moves of the store: one constructor for each kind of step. -/
inductive OverlayMove (store : OverlayStore) :
    OverlayAction → OverlayStore → Prop where
  | registers {serviceId gen base semaphore currentLimit} :
      OverlayMove store
        (.register serviceId gen base semaphore currentLimit)
        { store with
          records :=
            store.records ++
              [⟨serviceId, gen, base, semaphore, currentLimit, .default,
                none⟩]
          current :=
            Function.update store.current serviceId store.records.length }
  | calls {serviceId gen arguments} :
      OverlayMove store (.call serviceId gen arguments)
        { store with calls := store.calls ++ [⟨serviceId, gen, arguments, .lookup⟩] }
  | looksUp {thread call found} (here : store.calls[thread]? = some call)
      (stands : call.point = .lookup)
      (looked : found = store.recordForGeneration call.serviceId call.generation) :
      OverlayMove store (.step thread)
        { store with
          current := store.currentAfter call found
          calls :=
            store.calls.set thread
              { call with point := call.afterLookup found } }
  | looksUpAgain {thread baseTarget call found}
      (here : store.calls[thread]? = some call)
      (stands : call.point = .lookupReconcile baseTarget)
      (looked : found = store.recordForGeneration call.serviceId call.generation) :
      OverlayMove store (.step thread)
        { store with
          calls :=
            store.calls.set thread
              { call with point := OverlayCall.afterReconcileLookup baseTarget found } }
  | uses {thread i call use record after point}
      (here : store.calls[thread]? = some call)
      (stands : call.point = .holding i use)
      (found : store.records[i]? = some record)
      (used : record.use store.now call.arguments.actor i use = some (after, point)) :
      OverlayMove store (.step thread)
        { store with
          records := store.records.set i after
          calls := store.calls.set thread { call with point := point } }
  /-- a dispatch takes or returns a permit -/
  | permits {action i record semaphore}
      (found : store.records[i]? = some record)
      (which : action = .takePermit i ∨ action = .returnPermit i) :
      OverlayMove store action
        { store with records := store.records.set i { record with semaphore := semaphore } }
  | advances {duration} :
      OverlayMove store (.advance duration)
        { store with now := store.now + duration }

namespace OverlayMove

variable {store next : OverlayStore} {a : OverlayAction}

theorem of_setSemaphore (which : a = .takePermit i ∨ a = .returnPermit i)
    (h : store.setSemaphore i operate = some next) : OverlayMove store a next := by
  simp only [OverlayStore.setSemaphore, Option.bind_eq_some_iff, Option.map_eq_some_iff] at h
  obtain ⟨record, found, sem, -, rfl⟩ := h
  exact .permits found which

theorem of_stepCall (here : store.calls[thread]? = some call)
    (h : store.stepCall thread call = some next) : OverlayMove store (.step thread) next := by
  unfold OverlayStore.stepCall at h
  cases stands : call.point with
  | lookup =>
    simp only [stands] at h
    cases h
    exact .looksUp here stands rfl
  | lookupReconcile baseTarget =>
    simp only [stands] at h
    cases h
    exact .looksUpAgain here stands rfl
  | holding i use =>
    simp only [stands, Option.bind_eq_some_iff, Option.map_eq_some_iff, Prod.exists] at h
    obtain ⟨record, found, after, point, used, rfl⟩ := h
    exact .uses here stands found used
  | returned outcome =>
    simp only [stands] at h
    cases h

theorem of_step (h : store.step a = some next) : OverlayMove store a next := by
  cases a with
  | register serviceId gen base sem currentLimit =>
    cases h
    exact .registers
  | call serviceId gen arguments =>
    cases h
    exact .calls
  | step thread =>
    simp only [OverlayStore.step, Option.bind_eq_some_iff] at h
    obtain ⟨call, here, h⟩ := h
    exact of_stepCall here h
  | takePermit i =>
    simp only [OverlayStore.step] at h
    exact of_setSemaphore (.inl rfl) h
  | returnPermit i =>
    simp only [OverlayStore.step] at h
    exact of_setSemaphore (.inr rfl) h
  | advance duration =>
    cases h
    exact .advances

end OverlayMove

/-- A lookup finds the current record of the service, and only if it is of the
generation that was asked for. -/
theorem OverlayStore.recordForGeneration_eq_some {store : OverlayStore} {serviceId : ServiceId}
    {generation i : Nat} (found : store.recordForGeneration serviceId generation = some i) :
    store.current serviceId = some i ∧ ∃ record, store.records[i]? = some record ∧
        record.generation = generation := by
  simp only [recordForGeneration, Option.filter_eq_some_iff] at found
  obtain ⟨cur, fits⟩ := found
  cases there : store.records[i]? with
  | none => simp [there] at fits
  | some record =>
    refine ⟨cur, record, rfl, ?_⟩
    simpa [there] using fits

end ServiceDaemon
