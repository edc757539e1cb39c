/-
Purpose: The overlay store keeps generations apart.  A call works on the record
  of its own service and generation only, whatever has happened to the map since
  it looked the record up.
Main exports: DistinctGenerations, Fenced, Fenced.step, overlay_calls_fenced
-/
import ServiceDaemon.Core.OverlayStore

namespace ServiceDaemon

open AsyncLib StepSystem Threads OverlayRecord

variable {store next : OverlayStore} {a : OverlayAction}

/-! ### One record -/

theorem TriggerPolicyOverlayState.stored_of_takeExpiredOverlay {s : TriggerPolicyOverlayState}
    {now : Instant} {active : ActiveTriggerPolicyOverlay}
    (stored : (s.takeExpiredOverlay now).1.overlay = some active) : s.overlay = some active := by
  rcases takeExpiredOverlay_cases s now with same | gone
  · rwa [same] at stored
  · rw [gone] at stored
    cases stored

theorem TriggerPolicyOverlayState.effectivePolicy_cases
    (s : TriggerPolicyOverlayState) (base : TriggerBasePolicy) :
    s.effectivePolicy base = ⟨base.restartPolicy, none⟩ ∨
      ∃ active, s.overlay = some active ∧ s.effectivePolicy base =
          ⟨active.overlay.retryPolicy.getD base.restartPolicy, active.overlay.dispatchTimeout⟩ := by
  unfold TriggerPolicyOverlayState.effectivePolicy
  cases stored : s.overlay with
  | none => exact .inl rfl
  | some active => exact .inr ⟨active, rfl, rfl⟩

/-- Neither does a reconciliation. -/
theorem ReconcileMove.stored {base : TriggerBasePolicy} {actor : Actor}
    {shared after : ConcurrencyState} {point there : ReconcilePoint}
    {active : ActiveTriggerPolicyOverlay} (move : ReconcileMove base actor shared point after there)
    (stored : after.overlay.overlay = some active) : shared.overlay.overlay = some active := by
  cases move with
  | chooses =>
    rw [TriggerPolicyOverlayState.chooseDesired_overlay] at stored
    exact TriggerPolicyOverlayState.stored_of_takeExpiredOverlay stored
  | resizes move => cases move <;> exact stored
  | _ => exact stored

namespace OverlayRecord

variable {record after : OverlayRecord} {now : Instant} {actor : Actor}
  {i : Nat} {use : OverlayUse} {point : OverlayPoint}

/-- Using a record does not change whose record it is. -/
theorem use_frame (used : record.use now actor i use = some (after, point)) :
    after.tag = record.tag ∧ after.base = record.base := by
  cases use with
  | checkBounds overlay =>
    simp only [use] at used
    split at used <;> cases used <;> exact ⟨rfl, rfl⟩
  | reconcile inner =>
    cases inner with
    | finished limit =>
      cases used
      exact ⟨rfl, rfl⟩
    | _ =>
      simp only [use, Option.map_eq_some_iff, Prod.exists, Prod.mk.injEq] at used
      obtain ⟨_, _, -, rfl, -⟩ := used
      exact ⟨rfl, rfl⟩
  | _ =>
    cases used
    exact ⟨rfl, rfl⟩

/-- The overlay of a record was there before, or is the one a request installs
in this step. -/
theorem use_overlay {active : ActiveTriggerPolicyOverlay}
    (used : record.use now actor i use = some (after, point))
    (stored : after.overlay.overlay = some active) :
    record.overlay.overlay = some active ∨ ∃ expiresAt, use = .install active.overlay expiresAt ∧
        point = .returned (.requested (.ok ())) := by
  cases use with
  | checkBounds overlay =>
    simp only [use] at used
    split at used <;> cases used <;> exact .inl stored
  | install overlay expiresAt =>
    cases used
    cases stored
    exact .inr ⟨expiresAt, rfl, rfl⟩
  | prunePolicy | pruneLimit _ =>
    cases used
    exact .inl (TriggerPolicyOverlayState.stored_of_takeExpiredOverlay stored)
  | reconcile inner =>
    cases inner with
    | finished limit =>
      cases used
      exact .inl stored
    | _ =>
      simp only [use, Option.map_eq_some_iff, Prod.exists, Prod.mk.injEq] at used
      obtain ⟨shared, _, h, rfl, -⟩ := used
      have move := ReconcileMove.of_reconcileStep h
      exact .inl (move.stored stored)
  | clear | take =>
    cases used
    cases stored
  | readPolicy | loadLimit | readLimit _ =>
    cases used
    exact .inl stored

/-- A policy is read from the record as it is. -/
theorem use_policy (used : record.use now actor i use = some (after, .returned (.policy pol))) :
    after = record ∧ pol = record.overlay.effectivePolicy record.base := by
  cases use with
  | readPolicy =>
    cases used
    exact ⟨rfl, rfl⟩
  | checkBounds overlay =>
    simp only [use] at used
    split at used <;> cases used
  | reconcile inner =>
    cases inner with
    | finished limit => cases used
    | _ => simp [use] at used
  | _ => cases used

end OverlayRecord

/-! ### One call -/

/-- The steps that belong to a call. -/
def OverlayArguments.Allows : OverlayArguments → OverlayUse → Prop
  | .request overlay, .checkBounds checked => checked = overlay
  | .request overlay, .install installed _ => installed = overlay
  | .clear _, .clear => True
  | .effectivePolicy _, .prunePolicy | .effectivePolicy _, .readPolicy => True
  | .apply, .loadLimit | .apply, .reconcile _ => True
  | .reconcile _, .reconcile _ => True
  | .concurrencyLimit _, .pruneLimit _
  | .concurrencyLimit _, .readLimit _ => True
  | .remove, .take => True
  | _, _ => False

theorem OverlayArguments.request_of_allows {arguments : OverlayArguments}
    {overlay : TriggerPolicyOverlay} {expiresAt : Instant}
    (allowed : arguments.Allows (.install overlay expiresAt)) : arguments = .request overlay := by
  cases arguments with
  | request requested =>
    cases allowed
    rfl
  | _ => exact allowed.elim

/-- The point of a call fits its arguments. -/
def OverlayArguments.Fits (arguments : OverlayArguments) :
    OverlayPoint → Prop
  | .lookup => True
  | .lookupReconcile _ => arguments = .apply
  | .holding _ use => arguments.Allows use
  | .returned (.requested _) => ∃ overlay, arguments = .request overlay
  | .returned (.cleared _) => ∃ reason, arguments = .clear reason
  | .returned (.policy _) => ∃ fallback, arguments = .effectivePolicy fallback
  | .returned _ => True

/-- The call has got hold of a record, or has used one successfully. -/
def OverlayPoint.hasRecord : OverlayPoint → Bool
  | .holding _ _ => true
  | .returned (.requested (.ok ())) | .returned (.cleared (.ok ())) => true
  | _ => false

namespace OverlayCall

variable {call : OverlayCall}

theorem afterLookup_fits (call : OverlayCall) (found : Option Nat) :
    call.arguments.Fits (call.afterLookup found) := by
  unfold afterLookup
  cases arguments : call.arguments with
  | request overlay =>
    simp only
    split
    · exact ⟨overlay, rfl⟩
    · exact ⟨overlay, rfl⟩
    · rfl
  | clear reason =>
    simp only
    split
    · exact ⟨reason, rfl⟩
    · exact ⟨reason, rfl⟩
    · trivial
  | effectivePolicy fallback =>
    cases found with
    | none => exact ⟨fallback, rfl⟩
    | some record => trivial
  | apply =>
    cases found with
    | none => rfl
    | some record => trivial
  | reconcile _ | concurrencyLimit _ | remove => cases found <;> trivial

/-- A call holds the record that it found. -/
theorem found_of_afterLookup {found i use}
    (holds : call.afterLookup found = .holding i use) : found = some i := by
  unfold afterLookup at holds
  cases arguments : call.arguments with
  | request _ | clear _ =>
    simp only [arguments] at holds
    split at holds <;> cases holds
    rfl
  | effectivePolicy _ | apply | reconcile _ | concurrencyLimit _ | remove =>
    simp only [arguments] at holds
    cases found <;> cases holds
    rfl

/-- A lookup that finds nothing leads to no record and to no success. -/
theorem found_of_hasRecord (used : (call.afterLookup found).hasRecord = true) :
    ∃ index, found = some index := by
  cases found with
  | some index => exact ⟨index, rfl⟩
  | none =>
    unfold afterLookup at used
    cases arguments : call.arguments with
    | request _ | clear _ =>
      simp only [arguments] at used
      split at used <;> contradiction
    | effectivePolicy _ | apply | reconcile _ | concurrencyLimit _
    | remove =>
      simp only [arguments] at used
      cases used

/-- A policy returned by the lookup is the fallback. -/
theorem policy_of_afterLookup (returned : call.afterLookup found = .returned (.policy pol)) :
    ∃ fallback : TriggerBasePolicy, call.arguments = .effectivePolicy fallback ∧
      pol = ⟨fallback.restartPolicy, none⟩ := by
  unfold afterLookup at returned
  cases arguments : call.arguments with
  | effectivePolicy fallback =>
    simp only [arguments] at returned
    cases found <;> cases returned
    exact ⟨fallback, rfl, rfl⟩
  | request _ | clear _ =>
    simp only [arguments] at returned
    split at returned <;> cases returned
  | apply | reconcile _ | concurrencyLimit _ | remove =>
    simp only [arguments] at returned
    cases found <;> cases returned

theorem found_of_afterReconcileLookup {found i baseTarget use}
    (holds : afterReconcileLookup baseTarget found = .holding i use) : found = some i := by
  cases found <;> cases holds
  rfl

end OverlayCall

namespace OverlayPoint

variable {i : Nat}

theorem returned_holds_none (other : Nat) (more : OverlayUse)
    (holds : returned outcome = .holding other more) : other = i := by
  cases holds

theorem lookupReconcile_holds_none (other : Nat) (more : OverlayUse)
    (holds : lookupReconcile baseTarget = .holding other more) : other = i := by
  cases holds

theorem holding_holds {use} (other : Nat) (more : OverlayUse)
    (holds : holding i use = .holding other more) : other = i := by
  cases holds
  rfl

end OverlayPoint

open OverlayPoint in
/-- A call goes on with the record it holds, as its arguments say. -/
theorem OverlayRecord.use_fits {record after : OverlayRecord} {now : Instant}
    {arguments : OverlayArguments} {index : Nat} {use : OverlayUse} {point : OverlayPoint}
    (used : record.use now arguments.actor index use = some (after, point))
    (allowed : arguments.Allows use) :
    arguments.Fits point ∧ ∀ other more, point = .holding other more → other = index := by
  cases use with
  | checkBounds checked =>
    cases arguments with
    | request overlay =>
      simp only [use] at used
      split at used <;> cases used
      · exact ⟨⟨overlay, rfl⟩, returned_holds_none⟩
      · exact ⟨allowed, holding_holds⟩
    | _ => exact allowed.elim
  | install installed expiresAt =>
    cases arguments with
    | request overlay =>
      cases used
      exact ⟨⟨overlay, rfl⟩, returned_holds_none⟩
    | _ => exact allowed.elim
  | clear =>
    cases arguments with
    | clear reason =>
      cases used
      exact ⟨⟨reason, rfl⟩, returned_holds_none⟩
    | _ => exact allowed.elim
  | prunePolicy =>
    cases arguments with
    | effectivePolicy fallback =>
      cases used
      exact ⟨trivial, holding_holds⟩
    | _ => exact allowed.elim
  | readPolicy =>
    cases arguments with
    | effectivePolicy fallback =>
      cases used
      exact ⟨⟨fallback, rfl⟩, returned_holds_none⟩
    | _ => exact allowed.elim
  | loadLimit =>
    cases arguments with
    | apply =>
      cases used
      exact ⟨rfl, lookupReconcile_holds_none⟩
    | _ => exact allowed.elim
  | reconcile inner =>
    cases inner with
    | finished limit =>
      cases used
      exact ⟨trivial, returned_holds_none⟩
    | _ =>
      simp only [use, Option.map_eq_some_iff, Prod.exists, Prod.mk.injEq] at used
      obtain ⟨_, after, -, -, rfl⟩ := used
      refine ⟨?_, holding_holds⟩
      cases arguments with
      | apply | reconcile _ => trivial
      | _ => exact allowed.elim
  | pruneLimit _ =>
    cases arguments with
    | concurrencyLimit fallback =>
      cases used
      exact ⟨trivial, holding_holds⟩
    | _ => exact allowed.elim
  | readLimit _ | take =>
    cases used
    exact ⟨trivial, returned_holds_none⟩

/-! ### The store -/

/-- Someone requested this overlay under this service and generation, and the
request succeeded. -/
def OverlayStore.Requested (store : OverlayStore) (tag : ServiceId × Nat)
    (overlay : TriggerPolicyOverlay) : Prop :=
  ∃ (thread : Nat) (call : OverlayCall), store.calls[thread]? = some call ∧
    call.tag = tag ∧ call.arguments = .request overlay ∧
    call.point = .returned (.requested (.ok ()))

/-- What the policy of a dispatch is made of: the caller's fallback, where there
was no record any more; or the base policy of the record of its own service and
generation; or an overlay requested under that service and generation, over that
base policy. -/
def OverlayStore.Captured (store : OverlayStore) (call : OverlayCall)
    (pol : EffectiveTriggerPolicy) : Prop :=
  (∃ fallback : TriggerBasePolicy, call.arguments = .effectivePolicy fallback ∧
        pol = ⟨fallback.restartPolicy, none⟩) ∨
    ∃ (i : Nat) (record : OverlayRecord),
      store.records[i]? = some record ∧ record.tag = call.tag ∧
        (pol = ⟨record.base.restartPolicy, none⟩ ∨
          ∃ overlay, store.Requested call.tag overlay ∧ pol =
              ⟨overlay.retryPolicy.getD record.base.restartPolicy, overlay.dispatchTimeout⟩)

/-- What a step leaves as it was: every record stays, with its owner and its
base policy, and every call stays, with its arguments; a call that has returned
does not change at all. -/
structure Extends (store next : OverlayStore) : Prop where
  record : ∀ (i : Nat) (record : OverlayRecord),
    store.records[i]? = some record →
      ∃ after, next.records[i]? = some after ∧ after.tag = record.tag ∧ after.base = record.base
  call : ∀ (thread : Nat) (call : OverlayCall),
    store.calls[thread]? = some call →
      ∃ point, next.calls[thread]? = some { call with point := point } ∧
        ∀ outcome, call.point = .returned outcome → point = .returned outcome

namespace Extends

theorem requested (extended : Extends store next) {tag overlay}
    (asked : store.Requested tag overlay) : next.Requested tag overlay := by
  obtain ⟨thread, call, here, tagged, arguments, returned⟩ := asked
  obtain ⟨point, there, final⟩ := extended.call thread call here
  refine ⟨thread, { call with point := point }, there, tagged, arguments, ?_⟩
  exact final _ returned

theorem captured (extended : Extends store next) {call policy}
    (captured : store.Captured call policy) : next.Captured call policy := by
  rcases captured with fallback | ⟨i, record, found, tagged, made⟩
  · exact .inl fallback
  · obtain ⟨after, there, owner, base⟩ := extended.record i record found
    refine .inr ⟨i, after, there, owner.trans tagged, ?_⟩
    rw [base]
    rcases made with bare | ⟨overlay, asked, overlaid⟩
    · exact .inl bare
    · exact .inr ⟨overlay, extended.requested asked, overlaid⟩

theorem same_records (kept : next.records = store.records) (i : Nat)
    (record : OverlayRecord) (found : store.records[i]? = some record) :
    ∃ after, next.records[i]? = some after ∧ after.tag = record.tag ∧ after.base = record.base := by
  refine ⟨record, ?_, rfl, rfl⟩
  rw [kept]
  exact found

/-- One record is updated in place. -/
theorem set_record {i record after} (found : store.records[i]? = some record)
    (owner : after.tag = record.tag) (base : after.base = record.base)
    (kept : next.records = store.records.set i after) (other : Nat)
    (before : OverlayRecord) (there : store.records[other]? = some before) :
    ∃ later, next.records[other]? = some later ∧ later.tag = before.tag ∧
      later.base = before.base := by
  rw [kept]
  by_cases same : i = other
  · subst same
    cases found.symm.trans there
    exact ⟨after, set_self found, owner, base⟩
  · exact ⟨before, by rw [List.getElem?_set_ne same]; exact there, rfl, rfl⟩

theorem same_calls (kept : next.calls = store.calls) (thread : Nat)
    (call : OverlayCall) (here : store.calls[thread]? = some call) :
    ∃ point, next.calls[thread]? = some { call with point := point } ∧
      ∀ outcome, call.point = .returned outcome → point = .returned outcome := by
  refine ⟨call.point, ?_, fun _ returned => returned⟩
  rw [kept]
  exact here

/-- One call moves, and it had not returned. -/
theorem set_call {thread call point} (here : store.calls[thread]? = some call)
    (running : ∀ outcome, call.point ≠ .returned outcome)
    (kept : next.calls = store.calls.set thread { call with point := point }) (other : Nat)
    (before : OverlayCall) (there : store.calls[other]? = some before) :
    ∃ later, next.calls[other]? = some { before with point := later } ∧
      ∀ outcome, before.point = .returned outcome → later = .returned outcome := by
  rw [kept]
  by_cases same : thread = other
  · subst same
    cases here.symm.trans there
    exact ⟨point, set_self here, fun outcome returned =>
      absurd returned (running outcome)⟩
  · refine ⟨before.point, ?_, fun _ returned => returned⟩
    rw [List.getElem?_set_ne same]
    exact there

theorem of_move (move : OverlayMove store a next) : Extends store next := by
  cases move with
  | registers =>
    refine ⟨?_, same_calls rfl⟩
    intro i record found
    exact ⟨record, concat_old found, rfl, rfl⟩
  | calls =>
    refine ⟨same_records rfl, ?_⟩
    intro thread call here
    exact ⟨call.point, concat_old here, fun _ returned => returned⟩
  | looksUp here stands looked =>
    refine ⟨same_records rfl, set_call here ?_ rfl⟩
    rw [stands]
    exact nofun
  | looksUpAgain here stands looked =>
    refine ⟨same_records rfl, set_call here ?_ rfl⟩
    rw [stands]
    exact nofun
  | uses here stands found used =>
    obtain ⟨owner, base⟩ := use_frame used
    refine ⟨set_record found owner base rfl, set_call here ?_ rfl⟩
    rw [stands]
    exact nofun
  | permits found which =>
    refine ⟨set_record found ?_ ?_ rfl, same_calls rfl⟩
    · rfl
    · rfl
  | advances => exact ⟨same_records rfl, same_calls rfl⟩

end Extends

/-- The numbers of a service's generations are distinct. -/
def DistinctGenerations (store : OverlayStore) : OverlayAction → Prop
  | .register serviceId gen _ _ _ =>
    ∀ record ∈ store.records, record.tag ≠ (serviceId, gen)
  | _ => True

instance (store : OverlayStore) : DecidablePred (DistinctGenerations store)
  | .register serviceId gen _ _ _ =>
    inferInstanceAs (Decidable (∀ record ∈ store.records, record.tag ≠ (serviceId, gen)))
  | .call _ _ _ | .step _ | .takePermit _ | .returnPermit _ | .advance _ =>
    inferInstanceAs (Decidable True)

namespace OverlayMove

/-- A record was there before, with the same owner, or is being registered. -/
theorem record_back (move : OverlayMove store a next) (there : next.records[i]? = some after) :
    (∃ record, store.records[i]? = some record ∧ record.tag = after.tag) ∨
      (i = store.records.length ∧ ∃ base sem currentLimit,
        a = .register after.serviceId after.generation base sem currentLimit) := by
  have unchanged : next.records = store.records →
      ∃ record, store.records[i]? = some record ∧ record.tag = after.tag := by
    intro kept
    rw [kept] at there
    exact ⟨after, there, rfl⟩
  cases move with
  | registers =>
    rcases concat_cases there with old | ⟨last, rfl⟩
    · exact .inl ⟨after, old, rfl⟩
    · exact .inr ⟨last, _, _, _, rfl⟩
  | uses here stands found used =>
    rcases set_cases there with ⟨rfl, rfl⟩ | ⟨-, old⟩
    · exact .inl ⟨_, found, (use_frame used).1.symm⟩
    · exact .inl ⟨after, old, rfl⟩
  | permits found which =>
    rcases set_cases there with ⟨rfl, rfl⟩ | ⟨-, old⟩
    · exact .inl ⟨_, found, rfl⟩
    · exact .inl ⟨after, old, rfl⟩
  | calls | looksUp _ _ _ | looksUpAgain _ _ _ | advances => exact .inl (unchanged rfl)

/-- A record becomes current when it is registered. -/
theorem current_back (move : OverlayMove store a next) {serviceId i}
    (cur : next.current serviceId = some i) :
    store.current serviceId = some i ∨ (i = store.records.length ∧ ∃ gen base sem currentLimit,
          a = .register serviceId gen base sem currentLimit ∧ next.records[i]? = some
              ⟨serviceId, gen, base, sem, currentLimit, .default, none⟩) := by
  cases move with
  | registers =>
    rename_i registered gen base sem currentLimit
    by_cases same : serviceId = registered
    · subst same
      simp only [Function.update_self, Option.some.injEq] at cur
      subst cur
      refine .inr ⟨rfl, gen, base, sem, currentLimit, rfl, ?_⟩
      simp
    · simp only [Function.update_of_ne same] at cur
      exact .inl cur
  | looksUp here stands looked =>
    rename_i call _
    left
    simp only [OverlayStore.currentAfter] at cur
    split at cur
    · by_cases same : serviceId = call.serviceId
      · subst same
        simp at cur
      · simpa only [Function.update_of_ne same] using cur
    · exact cur
  | calls | looksUpAgain _ _ _ | uses _ _ _ _ | permits _ _ | advances => exact .inl cur

end OverlayMove

/-- What keeps the generations apart. -/
structure Fenced (store : OverlayStore) : Prop where
  unique : ∀ (first second : Nat) (one other : OverlayRecord),
    store.records[first]? = some one →
      store.records[second]? = some other → one.tag = other.tag → first = second
  keyed : ∀ (serviceId : ServiceId) (i : Nat),
    store.current serviceId = some i →
      ∃ record, store.records[i]? = some record ∧ record.serviceId = serviceId
  fits : ∀ (thread : Nat) (call : OverlayCall),
    store.calls[thread]? = some call → call.arguments.Fits call.point
  holds : ∀ (thread : Nat) (call : OverlayCall) (i : Nat)
    (use : OverlayUse), store.calls[thread]? = some call → call.point = .holding i use →
        ∃ record, store.records[i]? = some record ∧ record.tag = call.tag
  asked : ∀ (i : Nat) (record : OverlayRecord)
    (active : ActiveTriggerPolicyOverlay),
    store.records[i]? = some record → record.overlay.overlay = some active →
        store.Requested record.tag active.overlay
  captured : ∀ (thread : Nat) (call : OverlayCall)
    (pol : EffectiveTriggerPolicy), store.calls[thread]? = some call →
      call.point = .returned (.policy pol) → store.Captured call pol

namespace Fenced

theorem new (now : Instant) : Fenced (OverlayStore.new now) := by
  constructor <;> simp [OverlayStore.new]

theorem found_tag (fenced : Fenced store) {serviceId gen i}
    (found : store.recordForGeneration serviceId gen = some i) :
    ∃ record, store.records[i]? = some record ∧ record.tag = (serviceId, gen) := by
  obtain ⟨cur, record, there, numbered⟩ := OverlayStore.recordForGeneration_eq_some found
  obtain ⟨_, same, owned⟩ := fenced.keyed serviceId i cur
  cases there.symm.trans same
  exact ⟨record, there, Prod.ext owned numbered⟩

theorem unique_step (fenced : Fenced store) (distinct : DistinctGenerations store a)
    (move : OverlayMove store a next) (first second : Nat) (one other : OverlayRecord)
    (here : next.records[first]? = some one) (there : next.records[second]? = some other)
    (same : one.tag = other.tag) : first = second := by
  rcases move.record_back here with
    ⟨before, old, owner⟩ | ⟨last, _, _, _, registers⟩ <;>
  rcases move.record_back there with
    ⟨previous, former, possessor⟩ | ⟨final, _, _, _, registered⟩
  · exact fenced.unique first second before previous old former
      (owner.trans (same.trans possessor.symm))
  · subst registered
    exact absurd (owner.trans same) (distinct before (List.mem_of_getElem? old))
  · subst registers
    exact absurd (possessor.trans same.symm) (distinct previous (List.mem_of_getElem? former))
  · exact last.trans final.symm

theorem keyed_step (fenced : Fenced store) (move : OverlayMove store a next)
    (serviceId : ServiceId) (i : Nat) (cur : next.current serviceId = some i) :
    ∃ record, next.records[i]? = some record ∧ record.serviceId = serviceId := by
  rcases move.current_back cur with
    old | ⟨-, _, _, _, _, -, there⟩
  · obtain ⟨record, found, owned⟩ := fenced.keyed serviceId i old
    obtain ⟨after, there, owner, -⟩ := (Extends.of_move move).record i record found
    exact ⟨after, there, (congrArg Prod.fst owner).trans owned⟩
  · exact ⟨_, there, rfl⟩

theorem fits_step (fenced : Fenced store) (move : OverlayMove store a next)
    (thread : Nat) (call : OverlayCall) (here : next.calls[thread]? = some call) :
    call.arguments.Fits call.point := by
  cases move with
  | calls =>
    rcases concat_cases here with old | ⟨-, rfl⟩
    · exact fenced.fits thread call old
    · trivial
  | looksUp there stands looked =>
    rcases set_cases here with ⟨rfl, rfl⟩ | ⟨-, old⟩
    · exact OverlayCall.afterLookup_fits _ _
    · exact fenced.fits thread call old
  | looksUpAgain there stands looked =>
    rename_i found
    rcases set_cases here with ⟨rfl, rfl⟩ | ⟨-, old⟩
    · have fits := fenced.fits _ _ there
      rw [stands] at fits
      cases found with
      | none => trivial
      | some record =>
        show OverlayArguments.Allows _ _
        rw [show _ = OverlayArguments.apply from fits]
        trivial
    · exact fenced.fits thread call old
  | uses there stands found used =>
    rcases set_cases here with ⟨rfl, rfl⟩ | ⟨-, old⟩
    · have fits := fenced.fits _ _ there
      rw [stands] at fits
      exact (use_fits used fits).1
    · exact fenced.fits thread call old
  | registers | permits _ _ | advances => exact fenced.fits thread call here

theorem holds_step (fenced : Fenced store) (move : OverlayMove store a next) (thread : Nat)
    (call : OverlayCall) (i : Nat) (use : OverlayUse) (here : next.calls[thread]? = some call)
    (stands : call.point = .holding i use) :
    ∃ record, next.records[i]? = some record ∧ record.tag = call.tag := by
  have unmoved : store.calls[thread]? = some call →
      ∃ record, next.records[i]? = some record ∧ record.tag = call.tag := by
    intro old
    obtain ⟨record, found, tagged⟩ := fenced.holds thread call i use old stands
    obtain ⟨after, there, owner, -⟩ := (Extends.of_move move).record i record found
    exact ⟨after, there, owner.trans tagged⟩
  cases move with
  | calls =>
    rcases concat_cases here with old | ⟨-, rfl⟩
    · exact unmoved old
    · cases stands
  | looksUp there start looked =>
    rcases set_cases here with ⟨rfl, rfl⟩ | ⟨-, old⟩
    · have found := OverlayCall.found_of_afterLookup stands
      exact fenced.found_tag (looked.symm.trans found)
    · exact unmoved old
  | looksUpAgain there start looked =>
    rcases set_cases here with ⟨rfl, rfl⟩ | ⟨-, old⟩
    · have found := OverlayCall.found_of_afterReconcileLookup stands
      exact fenced.found_tag (looked.symm.trans found)
    · exact unmoved old
  | uses there start found used =>
    rcases set_cases here with ⟨rfl, rfl⟩ | ⟨-, old⟩
    · have fits := fenced.fits _ _ there
      rw [start] at fits
      obtain rfl := (use_fits used fits).2 i use stands
      obtain ⟨_, same, tagged⟩ := fenced.holds _ _ _ _ there start
      cases found.symm.trans same
      exact ⟨_, set_self found, (use_frame used).1.trans tagged⟩
    · exact unmoved old
  | registers | permits _ _ | advances => exact unmoved here

theorem asked_step (fenced : Fenced store) (move : OverlayMove store a next) (i : Nat)
    (record : OverlayRecord) (active : ActiveTriggerPolicyOverlay)
    (there : next.records[i]? = some record) (stored : record.overlay.overlay = some active) :
    next.Requested record.tag active.overlay := by
  have extended := Extends.of_move move
  have unmoved : store.records[i]? = some record →
      next.Requested record.tag active.overlay := fun old =>
    extended.requested (fenced.asked i record active old stored)
  cases move with
  | registers =>
    rcases concat_cases there with old | ⟨-, rfl⟩
    · exact unmoved old
    · cases stored
  | @uses thread _ call _ before _ _ here stands found used =>
    rcases set_cases there with ⟨rfl, rfl⟩ | ⟨-, old⟩
    · rw [(use_frame used).1]
      rcases use_overlay used stored with
        old | ⟨expiresAt, rfl, rfl⟩
      · exact extended.requested (fenced.asked _ _ active found old)
      · -- The request that installs the overlay has just returned.
        have fits := fenced.fits _ _ here
        rw [stands] at fits
        obtain ⟨_, same, tagged⟩ := fenced.holds _ _ _ _ here stands
        cases found.symm.trans same
        exact ⟨thread, _, set_self here, tagged.symm, OverlayArguments.request_of_allows fits, rfl⟩
    · exact unmoved old
  | @permits _ place before _ found which =>
    rcases set_cases there with ⟨rfl, rfl⟩ | ⟨-, old⟩
    · exact extended.requested (fenced.asked i before active found stored)
    · exact unmoved old
  | calls | looksUp _ _ _ | looksUpAgain _ _ _ | advances => exact unmoved there

theorem captured_step (fenced : Fenced store) (move : OverlayMove store a next) (thread : Nat)
    (call : OverlayCall) (policy : EffectiveTriggerPolicy) (here : next.calls[thread]? = some call)
    (returned : call.point = .returned (.policy policy)) : next.Captured call policy := by
  have extended := Extends.of_move move
  have unmoved : store.calls[thread]? = some call → next.Captured call policy := fun old =>
    extended.captured (fenced.captured thread call policy old returned)
  cases move with
  | calls =>
    rcases concat_cases here with old | ⟨-, rfl⟩
    · exact unmoved old
    · cases returned
  | looksUp there stands looked =>
    rcases set_cases here with ⟨rfl, rfl⟩ | ⟨-, old⟩
    · exact .inl (OverlayCall.policy_of_afterLookup returned)
    · exact unmoved old
  | looksUpAgain there stands looked =>
    rename_i found
    rcases set_cases here with ⟨rfl, rfl⟩ | ⟨-, old⟩
    · cases found <;> cases returned
    · exact unmoved old
  | @uses _ _ _ _ _ record _ there stands found used =>
    rcases set_cases here with ⟨rfl, rfl⟩ | ⟨-, old⟩
    · cases returned
      obtain ⟨same, rfl⟩ := use_policy used
      subst same
      obtain ⟨_, same, tagged⟩ := fenced.holds _ _ _ _ there stands
      cases found.symm.trans same
      refine .inr ⟨_, record, set_self found, tagged, ?_⟩
      rcases record.overlay.effectivePolicy_cases record.base with
        bare | ⟨active, stored, overlaid⟩
      · exact .inl bare
      · have asked := extended.requested (fenced.asked _ record active found stored)
        rw [tagged] at asked
        exact .inr ⟨active.overlay, asked, overlaid⟩
    · exact unmoved old
  | registers | permits _ _ | advances => exact unmoved here

theorem step (fenced : Fenced store) (distinct : DistinctGenerations store a)
    (h : store.step a = some next) : Fenced next := by
  have move := OverlayMove.of_step h
  exact ⟨fenced.unique_step distinct move, fenced.keyed_step move,
    fenced.fits_step move, fenced.holds_step move, fenced.asked_step move,
    fenced.captured_step move⟩

theorem reaches
    (run : GuardedRun OverlayStore.step DistinctGenerations
      (OverlayStore.new now) acts store) : Fenced store :=
  run.invariant (Fenced.new now) fun fenced distinct h =>
    fenced.step distinct h

end Fenced

/-! ### Who found what -/

/-- The call looked its record up in a step of the run, and the record of its
service and generation was the current one of the service at that step. -/
def LookedUpCurrent (start : OverlayStore) (acts : List OverlayAction)
    (thread : Nat) (call : OverlayCall) : Prop :=
  ∃ (earlier later : List OverlayAction) (middle : OverlayStore)
    (i : Nat) (record : OverlayRecord),
    acts = earlier ++ .step thread :: later ∧
      GuardedRun OverlayStore.step DistinctGenerations start earlier middle ∧
      middle.calls[thread]? = some { call with point := .lookup } ∧
      middle.current call.serviceId = some i ∧
      middle.records[i]? = some record ∧ record.tag = call.tag

/-- More of the run, and other steps of the call, change nothing about what it
has looked up. -/
theorem LookedUpCurrent.extend (looked : LookedUpCurrent start acts thread call)
    (point : OverlayPoint) (more : List OverlayAction) :
    LookedUpCurrent start (acts ++ more) thread
      { call with point := point } := by
  obtain ⟨earlier, later, middle, i, record, rfl, run, rest⟩ := looked
  exact ⟨earlier, later ++ more, middle, i, record, List.append_assoc .., run, rest⟩

/-- A request or a clear that holds a record, or has succeeded, found its record
in the map. -/
theorem lookedUp_current {now acts}
    (run : GuardedRun OverlayStore.step DistinctGenerations (OverlayStore.new now) acts store)
    {thread call} (here : store.calls[thread]? = some call) (once : call.arguments ≠ .apply)
    (used : call.point.hasRecord = true) :
    LookedUpCurrent (OverlayStore.new now) acts thread call := by
  induction run generalizing call with
  | nil => simp [OverlayStore.new] at here
  | @snoc acts store next a earlier distinct h
      ih =>
    have fenced := Fenced.reaches earlier
    have unmoved : store.calls[thread]? = some call →
        LookedUpCurrent (OverlayStore.new now) (acts ++ [a]) thread
          call := by
      intro old
      exact (ih old once used).extend call.point [a]
    cases OverlayMove.of_step h with
    | calls =>
      rcases concat_cases here with old | ⟨-, rfl⟩
      · exact unmoved old
      · cases used
    | looksUp there stands looked =>
      rcases set_cases here with ⟨rfl, rfl⟩ | ⟨-, old⟩
      · obtain ⟨i, found⟩ := OverlayCall.found_of_hasRecord used
        have lookup := looked.symm.trans found
        obtain ⟨cur, -⟩ := OverlayStore.recordForGeneration_eq_some lookup
        obtain ⟨record, kept, tagged⟩ := fenced.found_tag lookup
        refine ⟨acts, [], store, i, record, rfl, earlier, ?_, cur, kept, tagged⟩
        rw [there, ← stands]
      · exact unmoved old
    | looksUpAgain there stands looked =>
      rcases set_cases here with ⟨rfl, rfl⟩ | ⟨-, old⟩
      · have fits := fenced.fits _ _ there
        rw [stands] at fits
        exact absurd fits once
      · exact unmoved old
    | uses there stands found moved =>
      rcases set_cases here with ⟨rfl, rfl⟩ | ⟨-, old⟩
      · have before := ih there once (by rw [stands]; rfl)
        exact before.extend _ _
      · exact unmoved old
    | registers | permits _ _ | advances => exact unmoved here

/-! ### Generation fencing -/

/-- Whose step an action is. -/
def OverlayAction.tag (store : OverlayStore) :
    OverlayAction → Option (ServiceId × Nat)
  | .register serviceId gen _ _ _ => some (serviceId, gen)
  | .call serviceId gen _ => some (serviceId, gen)
  | .step thread => (store.calls[thread]?).map OverlayCall.tag
  | _ => none

/-- A step of a call changes no record but the one of its service and
generation. -/
theorem records_of_tag (fenced : Fenced store) {tag : ServiceId × Nat}
    (h : store.step a = some next) (tagged : a.tag store = some tag) {index : Nat}
    {record : OverlayRecord} (found : store.records[index]? = some record)
    (foreign : record.tag ≠ tag) : next.records[index]? = some record := by
  cases OverlayMove.of_step h with
  | registers => exact concat_old found
  | @uses _ place _ _ _ _ _ here stands held used =>
    simp only [OverlayAction.tag, here, Option.map_some, Option.some.injEq] at tagged
    obtain ⟨_, same, owner⟩ := fenced.holds _ _ _ _ here stands
    cases held.symm.trans same
    have apart : place ≠ index := by
      rintro rfl
      cases held.symm.trans found
      exact foreign (owner.trans tagged)
    show (store.records.set place _)[index]? = some record
    rw [List.getElem?_set_ne apart]
    exact found
  | permits _ which => rcases which with rfl | rfl <;> cases tagged
  | calls | looksUp _ _ _ | looksUpAgain _ _ _ | advances => exact found

/-- A record leaves the map when its own generation is removed, or when another
one of the service is registered. -/
theorem current_of_step (fenced : Fenced store) (h : store.step a = some next) {serviceId i record}
    (cur : store.current serviceId = some i) (found : store.records[i]? = some record)
    (gone : next.current serviceId ≠ some i) :
    (∃ gen base sem currentLimit, a = .register serviceId gen base sem currentLimit) ∨
      ∃ (thread : Nat) (call : OverlayCall), a = .step thread ∧ store.calls[thread]? = some call ∧
        call.arguments.isRemove = true ∧ call.tag = record.tag := by
  cases OverlayMove.of_step h with
  | @registers registered gen base sem currentLimit =>
    by_cases same : serviceId = registered
    · subst same
      exact .inl ⟨gen, base, sem, currentLimit, rfl⟩
    · exact absurd (by simpa only [Function.update_of_ne same] using cur)
        gone
  | @looksUp thread call looked here stands lookup =>
    simp only [OverlayStore.currentAfter] at gone
    split at gone
    · rename_i removes
      rw [Bool.and_eq_true] at removes
      by_cases same : serviceId = call.serviceId
      · subst same
        obtain ⟨place, place_found⟩ := Option.isSome_iff_exists.mp removes.2
        have lookedUp := lookup.symm.trans place_found
        obtain ⟨now_current, -⟩ := OverlayStore.recordForGeneration_eq_some lookedUp
        obtain ⟨_, there, tagged⟩ := fenced.found_tag lookedUp
        cases cur.symm.trans now_current
        cases found.symm.trans there
        exact .inr ⟨thread, call, rfl, here, removes.1, tagged.symm⟩
      · exact absurd (by simpa only [Function.update_of_ne same] using cur) gone
    · exact absurd cur gone
  | calls | looksUpAgain _ _ _ | uses _ _ _ _ | permits _ _ | advances => exact absurd cur gone

/-- Overlay generation fencing, for every interleaving of calls over any number
of services and generations with distinct numbers: a step of a call changes no
record but the one registered for its service and generation, of which there is
only one; a request or clear that succeeded found that record as the current one
of the service; a record leaves the map only when its own generation is removed
or another generation of the service is registered; and a captured policy
contains no overlay but one requested under the same service and generation. -/
theorem overlay_calls_fenced {now : Instant} {schedule : List OverlayAction}
    {action : OverlayAction}
    (run : GuardedRun OverlayStore.step DistinctGenerations (OverlayStore.new now) schedule store)
    (stepped : store.step action = some next) :
    (∀ (tag : ServiceId × Nat) (index : Nat) (record : OverlayRecord),
        action.tag store = some tag → store.records[index]? = some record →
          record.tag ≠ tag → next.records[index]? = some record) ∧
      (∀ (first second : Nat) (one other : OverlayRecord), store.records[first]? = some one →
          store.records[second]? = some other → one.tag = other.tag → first = second) ∧
      (∀ (thread : Nat) (call : OverlayCall), store.calls[thread]? = some call →
          call.point = .returned (.requested (.ok ())) ∨
              call.point = .returned (.cleared (.ok ())) →
            LookedUpCurrent (OverlayStore.new now) schedule thread call) ∧
      (∀ (serviceId : ServiceId) (index : Nat) (record : OverlayRecord),
        store.current serviceId = some index → store.records[index]? = some record →
          next.current serviceId ≠ some index → (∃ generation base semaphore currentLimit,
                action = .register serviceId generation base semaphore currentLimit) ∨
              ∃ (thread : Nat) (call : OverlayCall), action = .step thread ∧
                store.calls[thread]? = some call ∧
                call.arguments.isRemove = true ∧ call.tag = record.tag) ∧
      ∀ (thread : Nat) (call : OverlayCall) (policy : EffectiveTriggerPolicy),
        store.calls[thread]? = some call → call.point = .returned (.policy policy) →
            store.Captured call policy := by
  have fenced := Fenced.reaches run
  refine ⟨?_, fenced.unique, ?_, ?_, fenced.captured⟩
  · intro tag index record tagged found foreign
    exact records_of_tag fenced stepped tagged found foreign
  · intro thread call here succeeded
    have fits := fenced.fits thread call here
    apply lookedUp_current run here
    · intro applies
      rcases succeeded with returned | returned <;>
      · rw [returned, applies] at fits
        obtain ⟨_, other⟩ := fits
        cases other
    · rcases succeeded with returned | returned <;>
      · rw [returned]
        rfl
  · intro serviceId index record current found gone
    exact current_of_step fenced stepped current found gone

/-- A generation of a serial trigger is registered. -/
def registerSerial (serviceId : ServiceId) (gen : Nat) :
    OverlayAction :=
  .register serviceId gen { restartPolicy := .default, scaling := none }
    (Semaphore.new 1) 1

/-- An overlay that sets a timeout of five seconds. -/
def slowDownstream : TriggerPolicyOverlay :=
  { reason := "slow downstream"
    ttl := fromSecs 30
    concurrencyLimit := none
    dispatchTimeout := some (fromSecs 5)
    retryPolicy := none }

/-- The overlay that is stored in a record. -/
def OverlayStore.overlayAt (store : OverlayStore) (i : Nat) :
    Option TriggerPolicyOverlay :=
  (store.records[i]?).bind fun record =>
    record.overlay.overlay.map (·.overlay)

/-- A request under generation one finds its record; then the generation is
removed and the next one registered.  The request still installs its overlay,
but in the record that it found, and leaves the current one as it was. -/
theorem overlay_calls_fenced_late_request :
    ∃ store next : OverlayStore,
      GuardedRun OverlayStore.step DistinctGenerations (OverlayStore.new 0)
          [registerSerial ⟨1⟩ 1, .call ⟨1⟩ 1 (.request slowDownstream),
            .step 0, .step 0, .call ⟨1⟩ 1 .remove, .step 1, .step 1,
            registerSerial ⟨1⟩ 2]
          store ∧
        store.step (.step 0) = some next ∧
        next.overlayAt 0 = some slowDownstream ∧
        ∃ record, store.records[1]? = some record ∧ record.tag = (⟨1⟩, 2) ∧
          next.records[1]? = some record := by
  obtain ⟨store, run, installs, registered, tagged⟩ :
      ∃ store : OverlayStore,
        GuardedRun OverlayStore.step DistinctGenerations (OverlayStore.new 0)
            [registerSerial ⟨1⟩ 1, .call ⟨1⟩ 1 (.request slowDownstream), .step 0, .step 0,
              .call ⟨1⟩ 1 .remove, .step 1, .step 1, registerSerial ⟨1⟩ 2]
            store ∧
          (store.step (.step 0)).map (·.overlayAt 0) = some (some slowDownstream) ∧
          (store.records[1]?).map OverlayRecord.tag = some (⟨1⟩, 2) ∧
          OverlayAction.tag store (.step 0) = some (⟨1⟩, 1) :=
    GuardedRun.exists_of_check (by decide +kernel)
  obtain ⟨next, stepped, installed⟩ := Option.map_eq_some_iff.mp installs
  obtain ⟨record, found, owner⟩ := Option.map_eq_some_iff.mp registered
  have foreign : record.tag ≠ (⟨1⟩, 1) := by
    rw [owner]
    decide
  have kept :=
    (overlay_calls_fenced run stepped).1 _ _ record tagged found foreign
  exact ⟨store, next, run, stepped, installed, record, found, owner, kept⟩

end ServiceDaemon
