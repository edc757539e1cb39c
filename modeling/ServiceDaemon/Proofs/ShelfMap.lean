/-
Purpose: How far the shelf is a map of typed values for each service.  Services
  do not meet on it, and it is a map exactly as long as nobody takes a value
  under the wrong type.
Main exports: Shelf.content, lastShelved, ReadsLast, shelf_typed_map_iff
-/
import ServiceDaemon.Core.Shelf

namespace ServiceDaemon

open ShelfCall

/-!
`unshelve` removes the boxed value and then casts it, and a failed cast drops
it.  `shelve_clone` casts a reference and loses nothing.

[SRC core/context/api.rs]
-/

variable {Kind : Type} [DecidableEq Kind] {Value : Kind → Type}
  {shelf : Shelf Value} {scope : TaskScope} {call : ShelfCall Value}
  {service : ServiceId} {key : String}

/-! ### What the calls do -/

/-- The value of the service under the key. -/
def Shelf.content (shelf : Shelf Value) (service : ServiceId) (key : String) :
    Option (BoxedAny Value) :=
  (shelf service).bind fun bucket => bucket key

/-- The value as a read of the given type sees it. -/
def ofKind (kind : Kind) (stored : Option (BoxedAny Value)) :
    Option (BoxedAny Value) :=
  stored.filter fun boxed => decide (boxed.kind = kind)

theorem downcast_boxed (kind : Kind) (boxed : BoxedAny Value) :
    ((boxed.downcast kind).map fun value => (⟨kind, value⟩ : BoxedAny Value)) =
      ofKind kind (some boxed) := by
  obtain ⟨actual, value⟩ := boxed
  by_cases same : actual = kind
  · subst same
    simp [BoxedAny.downcast, ofKind, Option.filter]
  · simp [BoxedAny.downcast, ofKind, Option.filter, same]

/-- The call reads the key under the type. -/
def ShelfCall.Reads (key : String) (kind : Kind) (call : ShelfCall Value) :
    Prop :=
  call = .unshelve key kind ∨ call = .shelveClone key kind

/-- A read returns what the service has under the key, if the type fits. -/
theorem perform_returned {kind} (caller : scope.caller = some service)
    (reads : call.Reads key kind) :
    (call.perform scope shelf).1 = ofKind kind (shelf.content service key) := by
  rcases reads with rfl | rfl
  · simp only [perform, unshelve, caller, Shelf.content]
    cases bucket : shelf service with
    | none => rfl
    | some entry =>
      cases found : entry key with
      | none => simp [found, ofKind]
      | some boxed => simp [found, downcast_boxed]
  · simp only [perform, shelveClone, caller, Shelf.content]
    cases bucket : shelf service with
    | none => rfl
    | some entry =>
      cases found : entry key with
      | none => simp [found, ofKind]
      | some boxed => simp [found, downcast_boxed]

/-- A call outside every service changes nothing and reads nothing. -/
theorem perform_outside (outside : scope.caller = none) :
    call.perform scope shelf = (none, shelf) := by
  cases call with
  | shelve key data => simp only [perform, shelve, outside]
  | unshelve key kind => simp only [perform, unshelve, outside, Option.map_none]
  | shelveClone key kind => simp only [perform, shelveClone, outside, Option.map_none]

/-- The bucket of another service stays as it is. -/
theorem perform_other (other : scope.caller ≠ some service) :
    (call.perform scope shelf).2 service = shelf service := by
  cases caller : scope.caller with
  | none => rw [perform_outside caller]
  | some owner =>
    have apart : service ≠ owner := by
      rintro rfl
      exact other caller
    cases call with
    | shelve key data =>
      simp only [perform, shelve, caller]
      exact Function.update_of_ne apart _ _
    | unshelve key kind =>
      simp only [perform, unshelve, caller]
      split
      · rfl
      · split
        · rfl
        · exact Function.update_of_ne apart _ _
    | shelveClone key kind => rfl

/-- A call depends on the bucket of its service only. -/
theorem perform_own (caller : scope.caller = some service) (same : shelf service = other service) :
    (call.perform scope shelf).1 = (call.perform scope other).1 ∧
      (call.perform scope shelf).2 service = (call.perform scope other).2 service := by
  cases call with
  | shelve key data => simp only [perform, shelve, caller, same, Function.update_self, and_self]
  | unshelve key kind =>
    simp only [perform, unshelve, caller]
    cases bucket : other service with
    | none => simp only [same.trans bucket, bucket, and_self]
    | some entry =>
      cases found : entry key with
      | none => simp only [same.trans bucket, bucket, found, and_self]
      | some boxed => simp only [same.trans bucket, found, Function.update_self, and_self]
  | shelveClone key kind => simp only [perform, shelveClone, caller, same, and_self]

/-- A destructive read empties its key, whatever it returns. -/
theorem unshelve_content {read} (kind : Kind) (caller : scope.caller = some service) :
    (unshelve scope kind read shelf).2.content service key =
      if read = key then none else shelf.content service key := by
  simp only [unshelve, caller]
  cases bucket : shelf service with
  | none => simp [Shelf.content, bucket]
  | some entry =>
    cases found : entry read with
    | none =>
      by_cases same : read = key
      · subst same
        simp [Shelf.content, bucket, found]
      · simp [same, found]
    | some boxed =>
      simp only [found, Shelf.content, Function.update_self, Option.bind_some, bucket]
      by_cases same : read = key
      · subst same
        simp
      · rw [if_neg same, Function.update_of_ne (Ne.symm same)]

/-- A read that finds nothing changes nothing. -/
theorem unshelve_absent (kind : Kind) (caller : scope.caller = some service)
    (absent : shelf.content service key = none) : (unshelve scope kind key shelf).2 = shelf := by
  simp only [unshelve, caller]
  cases bucket : shelf service with
  | none => rfl
  | some entry =>
    simp only [Shelf.content, bucket, Option.bind_some] at absent
    simp only [absent]

/-! ### Events -/

namespace ShelfEvent

/-- The calling service. -/
def caller (event : ShelfEvent Value) : Option ServiceId := event.scope.caller

/-- What the event makes of the value of a service under a key, as its caller
sees it: a value is taken when it is returned. -/
def leaves (service : ServiceId) (key : String)
    (stored : Option (BoxedAny Value)) (event : ShelfEvent Value) :
    Option (BoxedAny Value) :=
  if event.caller = some service then
    match event.call with
    | .shelve written data => if written = key then some data else stored
    | .unshelve read _ =>
      if read = key ∧ event.returned.isSome = true then none else stored
    | .shelveClone _ _ => stored
  else stored

/-- The event is a destructive read of a value of another type. -/
def Mismatched (event : ShelfEvent Value) : Prop :=
  ∃ service key kind boxed, event.caller = some service ∧ event.call = .unshelve key kind ∧
    event.before.content service key = some boxed ∧ boxed.kind ≠ kind

/-- The event is what its call does. -/
structure Genuine (event : ShelfEvent Value) : Prop where
  returned : event.returned = (event.call.perform event.scope event.before).1
  after : event.after = (event.call.perform event.scope event.before).2

end ShelfEvent

/-- The last value that the service shelved under the key and has not taken,
according to the events. -/
def lastShelved (service : ServiceId) (key : String)
    (events : List (ShelfEvent Value)) : Option (BoxedAny Value) :=
  events.foldl (ShelfEvent.leaves service key) none

/-- Every typed read returns the last value shelved, if it has the type and was
not taken. -/
def ReadsLast (events : List (ShelfEvent Value)) : Prop :=
  ∀ earlier event later, events = earlier ++ event :: later →
    ∀ service key kind, event.caller = some service → event.call.Reads key kind →
        event.returned = ofKind kind (lastShelved service key earlier)

/-- A read that returns nothing leaves the shelf as it was. -/
def KeptOnNone (events : List (ShelfEvent Value)) : Prop :=
  ∀ event ∈ events, (∃ key kind, event.call.Reads key kind) →
    event.returned = none → event.after = event.before

theorem recordShelf_genuine (shelf : Shelf Value) (history : List (TaskScope × ShelfCall Value)) :
    ∀ event ∈ recordShelf shelf history, event.Genuine := by
  induction history generalizing shelf with
  | nil => exact nofun
  | cons entry history ih =>
    intro event mem
    rcases List.mem_cons.mp mem with rfl | later
    · exact ⟨rfl, rfl⟩
    · exact ih _ event later

/-- What a mismatched read does: it returns nothing, and the value is gone. -/
theorem ShelfEvent.Mismatched.drops {event : ShelfEvent Value}
    (genuine : event.Genuine) (mismatched : event.Mismatched) :
    event.returned = none ∧ event.after ≠ event.before := by
  obtain ⟨service, key, kind, boxed, caller, call, stored, differs⟩ := mismatched
  have reads : event.call.Reads key kind := .inl call
  constructor
  · rw [genuine.returned, perform_returned caller reads, stored]
    simp [ofKind, Option.filter, differs]
  · intro kept
    have lost : event.after.content service key = none := by
      rw [genuine.after, call]
      exact (unshelve_content kind caller).trans (if_pos rfl)
    rw [kept, stored] at lost
    cases lost

/-- What any other call leaves under a key. -/
theorem ShelfEvent.content_after {event : ShelfEvent Value} (genuine : event.Genuine)
    (matched : ¬ event.Mismatched) (service : ServiceId) (key : String) :
    event.after.content service key =
      event.leaves service key (event.before.content service key) := by
  obtain ⟨scope, call, before, returned, after⟩ := event
  obtain ⟨returns, left⟩ := genuine
  simp only at returns left
  subst returns left
  simp only [ShelfEvent.leaves, ShelfEvent.caller]
  by_cases caller : scope.caller = some service
  · rw [if_pos caller]
    cases call with
    | shelve written data =>
      simp only [ShelfCall.perform, shelve, caller, Shelf.content,
        Function.update_self, Option.bind_some]
      by_cases same : written = key
      · subst same
        simp
      · rw [if_neg same, Function.update_of_ne (Ne.symm same)]
        cases before service <;> rfl
    | unshelve read kind =>
      have answer : ((ShelfCall.unshelve read kind).perform scope
          before).1 = ofKind kind (before.content service read) :=
        perform_returned caller (.inl rfl)
      refine (unshelve_content kind caller).trans ?_
      by_cases same : read = key
      · subst same
        cases stored : before.content service read with
        | none => simp
        | some boxed =>
          have fits : boxed.kind = kind := by
            by_contra differs
            exact matched ⟨service, read, kind, boxed, caller, rfl, stored, differs⟩
          simp [answer, stored, ofKind, Option.filter, fits]
      · simp [same]
    | shelveClone read kind => rfl
  · rw [if_neg caller]
    simp only [Shelf.content, perform_other caller]

/-- As long as no read mismatches, the shelf holds what the events say. -/
theorem content_of_events {history : List (TaskScope × ShelfCall Value)}
    {earlier later : List (ShelfEvent Value)} {event : ShelfEvent Value}
    (recorded : recordShelf shelf history = earlier ++ event :: later)
    (matched : ∀ event ∈ earlier, ¬ event.Mismatched) (service : ServiceId) (key : String) :
    event.before.content service key = earlier.foldl (ShelfEvent.leaves service key)
        (shelf.content service key) := by
  induction earlier generalizing shelf history with
  | nil =>
    cases history with
    | nil => cases recorded
    | cons entry history =>
      have head := (List.cons.inj recorded).1
      rw [← head]
      rfl
  | cons first earlier ih =>
    cases history with
    | nil => cases recorded
    | cons entry history =>
      have genuine : first.Genuine :=
        recordShelf_genuine shelf (entry :: history) first
          (by rw [recorded]; exact List.mem_cons_self)
      obtain ⟨head, tail⟩ := List.cons.inj recorded
      have started : first.before = shelf := (congrArg ShelfEvent.before head).symm
      have ended : (entry.2.perform entry.1 shelf).2 = first.after := congrArg ShelfEvent.after head
      replace tail : recordShelf (entry.2.perform entry.1 shelf).2 history =
        earlier ++ event :: later := tail
      rw [ended] at tail
      rw [List.foldl_cons, ih tail fun other mem =>
          matched other (List.mem_cons_of_mem _ mem),
        ShelfEvent.content_after genuine (matched first List.mem_cons_self) service key, started]

/-! ### The shelf -/

/-- The calls of one service in a history. -/
def callsOf (service : ServiceId) (history : List (TaskScope × ShelfCall Value)) :
    List (TaskScope × ShelfCall Value) :=
  history.filter fun (scope, _) => decide (scope.caller = some service)

/-- What the calls of one service return. -/
def returnsOf (service : ServiceId) (events : List (ShelfEvent Value)) :
    List (Option (BoxedAny Value)) :=
  (events.filter fun event =>
    decide (event.caller = some service)).map ShelfEvent.returned

/-- Two shelves that agree on the bucket of a service give its calls the same
answers, whatever other services do in between. -/
theorem returnsOf_callsOf (service : ServiceId)
    (history : List (TaskScope × ShelfCall Value)) (same : shelf service = other service) :
    returnsOf service (recordShelf shelf history) =
      returnsOf service (recordShelf other (callsOf service history)) := by
  induction history generalizing shelf other with
  | nil => rfl
  | cons entry history ih =>
    obtain ⟨scope, call⟩ := entry
    by_cases caller : scope.caller = some service
    · obtain ⟨returned, after⟩ :
          (call.perform scope shelf).1 = (call.perform scope other).1 ∧
            (call.perform scope shelf).2 service = (call.perform scope other).2 service :=
        perform_own caller same
      have rest := ih after
      simp only [returnsOf] at rest
      simp only [returnsOf, callsOf, recordShelf, List.filter_cons,
        ShelfEvent.caller, caller, decide_true, if_true, List.map_cons,
        returned]
      exact congrArg _ rest
    · have kept : (call.perform scope shelf).2 service = other service :=
        (perform_other caller).trans same
      have rest := ih kept
      simp only [returnsOf] at rest
      simp only [returnsOf, callsOf, recordShelf, List.filter_cons,
        ShelfEvent.caller, caller, decide_false, Bool.false_eq_true,
        if_false]
      exact rest

/-- For every sequence of calls: what a service reads does not depend on the
calls of others, and the shelf is a map of typed values (a read returns the
last value shelved, if it has the type and was not taken, and one that returns
nothing changes nothing) exactly when no destructive read finds a value of
another type. -/
theorem shelf_typed_map_iff (history : List (TaskScope × ShelfCall Value)) :
    (∀ service, returnsOf service (recordShelf .empty history) =
      returnsOf service (recordShelf .empty (callsOf service history))) ∧
      ((ReadsLast (recordShelf .empty history) ∧ KeptOnNone (recordShelf .empty history)) ↔
        ∀ event ∈ recordShelf .empty history, ¬ event.Mismatched) := by
  refine ⟨fun service => returnsOf_callsOf service history rfl, ?_⟩
  have genuine := recordShelf_genuine (Shelf.empty : Shelf Value) history
  constructor
  · rintro ⟨-, kept⟩ event listed mismatched
    obtain ⟨service, key, kind, boxed, caller, call, -⟩ := id mismatched
    obtain ⟨nothing, changed⟩ := mismatched.drops (genuine event listed)
    exact changed (kept event listed ⟨key, kind, .inl call⟩ nothing)
  · intro matched
    constructor
    · intro earlier event later recorded service key kind caller reads
      have here : event ∈ recordShelf .empty history := by
        rw [recorded]
        exact List.mem_append_right _ List.mem_cons_self
      have before : ∀ other ∈ earlier, ¬ other.Mismatched := by
        intro other listed
        apply matched
        rw [recorded]
        exact List.mem_append_left _ listed
      rw [(genuine event here).returned, perform_returned caller reads,
        content_of_events recorded before service key]
      rfl
    · rintro event listed ⟨key, kind, reads⟩ nothing
      rw [(genuine event listed).after]
      rcases reads with call | call
      · cases caller : event.scope.caller with
        | none => rw [perform_outside caller]
        | some service =>
          rw [(genuine event listed).returned, perform_returned caller (.inl call)] at nothing
          rw [call]
          refine unshelve_absent kind caller ?_
          cases stored : event.before.content service key with
          | none => rfl
          | some boxed =>
            -- a value that is there has the type, so it was returned
            have fits : boxed.kind = kind := by
              by_contra differs
              exact matched event listed ⟨service, key, kind, boxed, caller, call, stored, differs⟩
            simp [stored, ofKind, Option.filter, fits] at nothing
      · rw [call]
        rfl

/-- A service shelves a number, asks for a text under its key, and then for the
number: both reads return nothing, and the first one has changed the shelf. -/
theorem unshelve_wrong_type_loses :
    ∃ shelved wrong right : ShelfEvent (fun isText : Bool =>
        if isText then String else Nat),
      recordShelf .empty
          [(.inService ⟨1⟩, .shelve "count" ⟨false, (7 : Nat)⟩),
            (.inService ⟨1⟩, .unshelve "count" true),
            (.inService ⟨1⟩, .unshelve "count" false)] =
        [shelved, wrong, right] ∧
      (wrong.returned = none ∧ wrong.after ≠ wrong.before) ∧
      right.returned = none := by
  refine ⟨_, _, _, rfl, ⟨rfl, ?_⟩, rfl⟩
  intro same
  have content := congrArg (fun shelf =>
    (Shelf.content shelf ⟨1⟩ "count").isSome) same
  exact absurd content (by decide)

end ServiceDaemon
