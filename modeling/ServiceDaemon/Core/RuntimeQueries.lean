/-
Purpose: The registered services of a daemon, each with everybody who writes its
  status, and the public queries of their status: `get_service_status`,
  `runtime_service` and the groups of `runtime_readiness`.
Main exports: ServiceRuntimeMetadata, FleetMember, Fleet
-/
import ServiceDaemon.Core.ServiceLifecycle

namespace ServiceDaemon

open AsyncLib StepSystem

/-!
The status plane and the runtime facts are keyed by service, so the services of
a daemon are systems beside each other; a step of the daemon is a step of one of
them.  Waves put these steps in an order, which is not assumed here.

The two lookups of a status differ when the service has no entry: one takes
`Terminated`, the other `Initializing`.

[SRC core/service_daemon/mod.rs, core/runtime_facts.rs, models/runtime.rs]
-/

structure ServiceRuntimeMetadata where
  serviceId : ServiceId
  serviceName : String
  /-- a `u8` -/
  priority : Fin 256
  declaredScheduling : ServiceScheduling
deriving Repr, DecidableEq

/-- A registered service. -/
structure FleetMember where
  metadata : ServiceRuntimeMetadata
  config : LifecycleConfig
  state : LifecycleState
deriving DecidableEq

namespace FleetMember

def id (member : FleetMember) : ServiceId :=
  member.metadata.serviceId

/-- Before the startup. -/
def new (metadata : ServiceRuntimeMetadata) (config : LifecycleConfig)
    (now : Instant) : FleetMember :=
  { metadata := metadata, config := config, state := .new config now }

end FleetMember

/-- The services of a daemon.  The registry gives every service an id of its
own. -/
structure Fleet where
  members : List FleetMember
  distinct : (members.map FleetMember.id).Nodup

namespace Fleet

/-- A service of the daemon has moved. -/
def setState (fleet : Fleet) (index : Nat) (member : FleetMember)
    (here : fleet.members[index]? = some member) (next : LifecycleState) :
    Fleet :=
  { members := fleet.members.set index { member with state := next }
    distinct := by
      have same : (fleet.members.map FleetMember.id).set index member.id =
          fleet.members.map FleetMember.id := by
        apply List.ext_getElem?
        intro other
        rw [List.getElem?_set]
        split
        · rename_i own
          subst own
          obtain ⟨bound, got⟩ := List.getElem?_eq_some_iff.mp here
          simp [bound, got]
        · rfl
      have mapped : (fleet.members.set index
          { member with state := next }).map FleetMember.id =
            fleet.members.map FleetMember.id := by
        rw [List.map_set]
        exact same
      rw [mapped]
      exact fleet.distinct }

/-- A step of one of the services. -/
def step (fleet : Fleet) (action : Nat × LifecycleAction) : Option Fleet :=
  match here : fleet.members[action.1]? with
  | some member =>
    (Lifecycle.step member.config member.state action.2).map
      (fleet.setState action.1 member here)
  | none => none

/-- The entry of a service. -/
def find (fleet : Fleet) (id : ServiceId) : Option FleetMember :=
  fleet.members.find? fun member => member.id = id

/-- `status_plane.get`. -/
def statusPlane (fleet : Fleet) (id : ServiceId) : Option ServiceStatus :=
  (fleet.find id).bind fun member => member.state.entry

end Fleet

/-! ### Snapshots -/

structure ServiceRuntimeSnapshot where
  serviceId : ServiceId
  serviceName : String
  priority : Fin 256
  declaredScheduling : ServiceScheduling
  status : ServiceStatus
  generation : Nat
  restartCount : Nat
  lastStartedAt : Option Instant
  lastStoppedAt : Option Instant
  lastError : Option String
  currentBackoff : Option Duration
  healthySince : Option Instant
deriving Repr, DecidableEq

def FleetMember.snapshot (member : FleetMember) (status : ServiceStatus) :
    ServiceRuntimeSnapshot :=
  let state := member.state.supervisor.runtimeFacts
  { serviceId := member.metadata.serviceId
    serviceName := member.metadata.serviceName
    priority := member.metadata.priority
    declaredScheduling := member.metadata.declaredScheduling
    status := status
    generation := state.generation
    restartCount := state.restartCount
    lastStartedAt := state.lastStartedAt
    lastStoppedAt := state.lastStoppedAt
    lastError := state.lastError
    currentBackoff := state.currentBackoff
    healthySince := state.healthySince }

structure ReadinessServiceError where
  serviceId : ServiceId
  serviceName : String
  status : ServiceStatus
  message : String
deriving Repr, DecidableEq

structure ReadinessSnapshot where
  healthy : List ServiceRuntimeSnapshot
  initializing : List ServiceRuntimeSnapshot
  recovering : List ServiceRuntimeSnapshot
  restoring : List ServiceRuntimeSnapshot
  needReload : List ServiceRuntimeSnapshot
  shuttingDown : List ServiceRuntimeSnapshot
  terminated : List ServiceRuntimeSnapshot
  recentErrors : List ReadinessServiceError
  generatedAt : Instant
deriving Repr, DecidableEq

namespace ReadinessSnapshot

def empty (now : Instant) : ReadinessSnapshot :=
  { healthy := []
    initializing := []
    recovering := []
    restoring := []
    needReload := []
    shuttingDown := []
    terminated := []
    recentErrors := []
    generatedAt := now }

/-- The message of a service in `recent_errors`, if it is listed there. -/
def errorOf (service : ServiceRuntimeSnapshot) : Option String :=
  match service.status with
  | .recovering message => some message
  | _ => service.lastError

/-- The first half of an iteration of `readiness_from_services`. -/
def recordError (snapshot : ReadinessSnapshot)
    (service : ServiceRuntimeSnapshot) : ReadinessSnapshot :=
  match errorOf service with
  | some message =>
    { snapshot with
      recentErrors :=
        snapshot.recentErrors ++
          [{ serviceId := service.serviceId
             serviceName := service.serviceName
             status := service.status
             message := message }] }
  | none => snapshot

/-- One iteration of `readiness_from_services`. -/
def push (before : ReadinessSnapshot) (service : ServiceRuntimeSnapshot) :
    ReadinessSnapshot :=
  let snapshot := before.recordError service
  match service.status with
  | .healthy => { snapshot with healthy := snapshot.healthy ++ [service] }
  | .initializing =>
    { snapshot with initializing := snapshot.initializing ++ [service] }
  | .recovering _ =>
    { snapshot with recovering := snapshot.recovering ++ [service] }
  | .restoring => { snapshot with restoring := snapshot.restoring ++ [service] }
  | .needReload =>
    { snapshot with needReload := snapshot.needReload ++ [service] }
  | .shuttingDown =>
    { snapshot with shuttingDown := snapshot.shuttingDown ++ [service] }
  | .terminated =>
    { snapshot with terminated := snapshot.terminated ++ [service] }

end ReadinessSnapshot

def readinessFromServices (now : Instant)
    (services : List ServiceRuntimeSnapshot) : ReadinessSnapshot :=
  services.foldl ReadinessSnapshot.push (.empty now)

/-! ### Queries -/

namespace Fleet

def getServiceStatus (fleet : Fleet) (id : ServiceId) : ServiceStatus :=
  (fleet.statusPlane id).getD .terminated

def statusForSnapshot (fleet : Fleet) (id : ServiceId) : ServiceStatus :=
  (fleet.statusPlane id).getD .initializing

def runtimeService (fleet : Fleet) (id : ServiceId) :
    Option ServiceRuntimeSnapshot :=
  (fleet.find id).map fun member =>
    member.snapshot (fleet.statusForSnapshot id)

/-- `runtime_services`, in the order of the ids. -/
def runtimeServices (fleet : Fleet) : List ServiceRuntimeSnapshot :=
  (fleet.members.map fun member =>
    member.snapshot (fleet.statusForSnapshot member.id)).insertionSort
      fun first second => first.serviceId.value ≤ second.serviceId.value

def runtimeReadiness (fleet : Fleet) (now : Instant) : ReadinessSnapshot :=
  readinessFromServices now fleet.runtimeServices

end Fleet

/-! ### Groups -/

/-- The groups of a readiness snapshot. -/
inductive ReadinessGroup where
  | healthy
  | initializing
  | recovering
  | restoring
  | needReload
  | shuttingDown
  | terminated
deriving Repr, DecidableEq

/-- The group that is named after a status. -/
def ServiceStatus.group : ServiceStatus → ReadinessGroup
  | .healthy => .healthy
  | .initializing => .initializing
  | .recovering _ => .recovering
  | .restoring => .restoring
  | .needReload => .needReload
  | .shuttingDown => .shuttingDown
  | .terminated => .terminated

def ReadinessSnapshot.group (snapshot : ReadinessSnapshot) :
    ReadinessGroup → List ServiceRuntimeSnapshot
  | .healthy => snapshot.healthy
  | .initializing => snapshot.initializing
  | .recovering => snapshot.recovering
  | .restoring => snapshot.restoring
  | .needReload => snapshot.needReload
  | .shuttingDown => snapshot.shuttingDown
  | .terminated => snapshot.terminated

theorem ReadinessSnapshot.recordError_group (snapshot : ReadinessSnapshot)
    (svc : ServiceRuntimeSnapshot) (group : ReadinessGroup) :
    (snapshot.recordError svc).group group = snapshot.group group := by
  unfold recordError
  split <;> cases group <;> rfl

theorem ReadinessSnapshot.push_group (snapshot : ReadinessSnapshot)
    (svc : ServiceRuntimeSnapshot) (group : ReadinessGroup) :
    (snapshot.push svc).group group = snapshot.group group ++
        [svc].filter fun svc => svc.status.group = group := by
  rw [← recordError_group snapshot svc, List.filter_singleton]
  unfold push
  generalize snapshot.recordError svc = recorded
  cases status : svc.status <;> cases group <;>
    simp [ReadinessSnapshot.group, ServiceStatus.group]

/-- Every service is listed in the group of its status, and in no other. -/
theorem readinessFromServices_group (now : Instant)
    (services : List ServiceRuntimeSnapshot) (group : ReadinessGroup) :
    (readinessFromServices now services).group group =
      services.filter fun svc => svc.status.group = group := by
  unfold readinessFromServices
  induction services using List.reverseRecOn with
  | nil => cases group <;> rfl
  | append_singleton services svc ih =>
    rw [List.foldl_append, List.foldl_cons, List.foldl_nil,
      ReadinessSnapshot.push_group, ih, List.filter_append]

end ServiceDaemon
