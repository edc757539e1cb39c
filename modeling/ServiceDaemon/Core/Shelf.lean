/-
Purpose: The shelf of a daemon: the calls that store values under a key for the
  calling service and take them back, with the type of a value checked when it
  is read.
Main exports: BoxedAny, Shelf, TaskScope
-/
import ServiceDaemon.Core.Dispatch

namespace ServiceDaemon

/-!
The shelf maps services to buckets and the keys of a bucket to boxed values.
The types that can be boxed are an arbitrary family: `Kind` stands for `TypeId`
and `Value kind` for the type it names.  A bucket appears with the first value
of its service and stays when it becomes empty.

[SRC core/context/api.rs]
-/

variable {Kind : Type}

/-- `Box<dyn Any>`: a value that knows its type. -/
structure BoxedAny (Value : Kind → Type) where
  kind : Kind
  value : Value kind

variable [DecidableEq Kind] {Value : Kind → Type}

/-- `downcast::<T>()`. -/
def BoxedAny.downcast (kind : Kind) (boxed : BoxedAny Value) :
    Option (Value kind) :=
  if same : boxed.kind = kind then some (same ▸ boxed.value) else none

/-- The values of one service by key. -/
abbrev ShelfBucket (Value : Kind → Type) := String → Option (BoxedAny Value)

abbrev Shelf (Value : Kind → Type) := ServiceId → Option (ShelfBucket Value)

/-- The task-locals of the calling task: `CURRENT_SERVICE`, and whether
`CURRENT_RESOURCES` is set. -/
structure TaskScope where
  service : Option ServiceId
  resources : Bool
deriving Repr, DecidableEq

/-- The service whose bucket a call works on. -/
def TaskScope.caller (scope : TaskScope) : Option ServiceId :=
  if scope.resources then scope.service else none

/-- The scope of a task of the service. -/
def TaskScope.inService (service : ServiceId) : TaskScope :=
  { service := some service, resources := true }

def shelve (scope : TaskScope) (key : String) (data : BoxedAny Value)
    (shelf : Shelf Value) : Shelf Value :=
  match scope.caller with
  | none => shelf
  | some service =>
    -- `entry(service_id).or_default()`
    let entry := (shelf service).getD fun _ => none
    Function.update shelf service
      (some (Function.update entry key (some data)))

/-- `unshelve`.  The value is removed before its type is looked at. -/
def unshelve (scope : TaskScope) (kind : Kind) (key : String)
    (shelf : Shelf Value) : Option (Value kind) × Shelf Value :=
  match scope.caller with
  | none => (none, shelf)
  | some service =>
    match shelf service with
    | none => (none, shelf)
    | some entry =>
      match entry key with
      | none => (none, shelf)
      | some boxed =>
        (boxed.downcast kind, Function.update shelf service (some (Function.update entry key none)))

def shelveClone (scope : TaskScope) (kind : Kind) (key : String)
    (shelf : Shelf Value) : Option (Value kind) :=
  match scope.caller with
  | none => none
  | some service =>
    (shelf service).bind fun entry =>
      (entry key).bind fun boxed => boxed.downcast kind

/-! ### Histories -/

/-- A call on the shelf. -/
inductive ShelfCall (Value : Kind → Type) where
  | shelve (key : String) (data : BoxedAny Value)
  | unshelve (key : String) (kind : Kind)
  | shelveClone (key : String) (kind : Kind)

/-- What a call returns and leaves; a value that was read is boxed again. -/
def ShelfCall.perform (scope : TaskScope) (shelf : Shelf Value) :
    ShelfCall Value → Option (BoxedAny Value) × Shelf Value
  | .shelve key data => (none, ServiceDaemon.shelve scope key data shelf)
  | .unshelve key kind =>
    let (taken, after) := ServiceDaemon.unshelve scope kind key shelf
    (taken.map fun value => ⟨kind, value⟩, after)
  | .shelveClone key kind =>
    ((ServiceDaemon.shelveClone scope kind key shelf).map fun value =>
      ⟨kind, value⟩, shelf)

/-- A call with what it found, returned and left. -/
structure ShelfEvent (Value : Kind → Type) where
  scope : TaskScope
  call : ShelfCall Value
  before : Shelf Value
  returned : Option (BoxedAny Value)
  after : Shelf Value

/-- The events of a sequence of calls. -/
def recordShelf : Shelf Value → List (TaskScope × ShelfCall Value) → List (ShelfEvent Value)
  | _, [] => []
  | shelf, (scope, call) :: rest =>
    let (returned, after) := call.perform scope shelf
    { scope := scope
      call := call
      before := shelf
      returned := returned
      after := after } :: recordShelf after rest

/-- The shelf of a new daemon. -/
def Shelf.empty : Shelf Value := fun _ => none

end ServiceDaemon
