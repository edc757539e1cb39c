/-
Purpose: The diagnostics counters: what an observation adds to them, the
  aggregates of generations, services and lanes, and the store that registers
  generations and evicts the details of old ones.
Main exports: ObservationStats.record, Counter, DiagnosticsAggregate.record
-/
import ServiceDaemon.Lib.StepSystem
import ServiceDaemon.Models.Lifecycle
import ServiceDaemon.Core.Dispatch

namespace ServiceDaemon

/-!
An atomic counter is a `UInt64`, whose addition wraps as `fetch_add` does.  The
counters of shutdown boundaries and of provider failures are left out.

[SRC core/diagnostics.rs]
-/

inductive RuntimeLane where
  | control
  | standard
  | highPriority
  | isolated
deriving DecidableEq

inductive SleepObservationSource where
  | serviceSleep
  | runtimeProbe
deriving DecidableEq

inductive SleepExitReason where
  | completed
  | reload
  | shutdown
  | probeCancelled
deriving DecidableEq

structure SleepObservation where
  source : SleepObservationSource
  reason : SleepExitReason
  requested : Duration
  elapsed : Duration
  drift : Duration

/-- Whole nanoseconds, saturated. -/
def durationNanos (duration : Duration) : UInt64 :=
  UInt64.ofNat (min duration u64Max)

def nanosToMillis (nanos : UInt64) : UInt64 := nanos / 1000000

/-! ### Observations -/

structure ObservationStats where
  completed : UInt64
  interrupted : UInt64
  totalRequestedNs : UInt64
  totalElapsedNs : UInt64
  totalDriftNs : UInt64
  maxDriftNs : UInt64
  lastDriftNs : UInt64

/-- The counters of `ObservationStats` that accumulate. -/
inductive ObservationCounter where
  | completed
  | interrupted
  | totalRequested
  | totalElapsed
  | totalDrift

namespace ObservationStats

def new : ObservationStats :=
  { completed := 0
    interrupted := 0
    totalRequestedNs := 0
    totalElapsedNs := 0
    totalDriftNs := 0
    maxDriftNs := 0
    lastDriftNs := 0 }

def updateMax (current value : UInt64) : UInt64 :=
  if current < value then value else current

def record (stats : ObservationStats) (observation : SleepObservation) :
    ObservationStats :=
  let requested := stats.totalRequestedNs + durationNanos observation.requested
  let elapsed := stats.totalElapsedNs + durationNanos observation.elapsed
  if observation.reason = .completed then
    let drift := durationNanos observation.drift
    { completed := stats.completed + 1
      interrupted := stats.interrupted
      totalRequestedNs := requested
      totalElapsedNs := elapsed
      totalDriftNs := stats.totalDriftNs + drift
      maxDriftNs := updateMax stats.maxDriftNs drift
      lastDriftNs := drift }
  else
    { stats with
      interrupted := stats.interrupted + 1
      totalRequestedNs := requested
      totalElapsedNs := elapsed }

def count (stats : ObservationStats) : ObservationCounter → UInt64
  | .completed => stats.completed
  | .interrupted => stats.interrupted
  | .totalRequested => stats.totalRequestedNs
  | .totalElapsed => stats.totalElapsedNs
  | .totalDrift => stats.totalDriftNs

end ObservationStats

/-- What an observation adds to a counter. -/
def SleepObservation.amount (observation : SleepObservation) :
    ObservationCounter → UInt64
  | .completed => if observation.reason = .completed then 1 else 0
  | .interrupted => if observation.reason = .completed then 0 else 1
  | .totalRequested => durationNanos observation.requested
  | .totalElapsed => durationNanos observation.elapsed
  | .totalDrift =>
    if observation.reason = .completed then durationNanos observation.drift
    else 0

theorem ObservationStats.count_record (stats : ObservationStats)
    (observation : SleepObservation) (counter : ObservationCounter) :
    (stats.record observation).count counter =
      stats.count counter + observation.amount counter := by
  unfold record
  split <;> rename_i reason <;> cases counter <;>
    simp [count, SleepObservation.amount, reason]

/-! ### Aggregates -/

/-- The counters of `LifecycleStats`; the eight counters of exits are named by
the kind of the exit. -/
inductive LifecycleCounter where
  | reloadRequested
  | restart
  | backoffRestart
  | rateLimitedRestart
  | terminated
  | exit (kind : GenerationExitKind)

def LifecycleStats.count (stats : LifecycleStats) : LifecycleCounter → UInt64
  | .reloadRequested => stats.reloadRequested
  | .restart => stats.restart
  | .backoffRestart => stats.backoffRestart
  | .rateLimitedRestart => stats.rateLimitedRestart
  | .terminated => stats.terminated
  | .exit kind => stats.exitCount kind

structure DiagnosticsAggregate where
  serviceSleep : ObservationStats
  runtimeProbe : ObservationStats
  lifecycle : LifecycleStats

/-- What a handle records, at each of its three levels. -/
inductive DiagnosticsEvent where
  | sleepObservation (observation : SleepObservation)
  | exit (kind : GenerationExitKind)
  | reloadRequested
  | restart (decision : RestartDecisionKind)
      (policyDelay effectiveDelay : Duration) (rateLimited : Bool)
  | terminated

inductive Counter where
  | observation (source : SleepObservationSource) (counter : ObservationCounter)
  | lifecycle (counter : LifecycleCounter)

namespace DiagnosticsAggregate

def new : DiagnosticsAggregate :=
  { serviceSleep := .new, runtimeProbe := .new, lifecycle := .new }

def recordObservation (aggregate : DiagnosticsAggregate)
    (observation : SleepObservation) : DiagnosticsAggregate :=
  match observation.source with
  | .serviceSleep =>
    { aggregate with serviceSleep := aggregate.serviceSleep.record observation }
  | .runtimeProbe =>
    { aggregate with runtimeProbe := aggregate.runtimeProbe.record observation }

def record (aggregate : DiagnosticsAggregate) :
    DiagnosticsEvent → DiagnosticsAggregate
  | .sleepObservation observation => aggregate.recordObservation observation
  | .exit kind =>
    { aggregate with lifecycle := aggregate.lifecycle.recordExit kind }
  | .reloadRequested =>
    { aggregate with lifecycle := aggregate.lifecycle.recordReloadRequested }
  | .restart decision policyDelay effectiveDelay rateLimited =>
    { aggregate with
      lifecycle := aggregate.lifecycle.recordRestart decision policyDelay
        effectiveDelay rateLimited }
  | .terminated =>
    { aggregate with lifecycle := aggregate.lifecycle.recordTerminated }

def count (aggregate : DiagnosticsAggregate) : Counter → UInt64
  | .observation .serviceSleep counter => aggregate.serviceSleep.count counter
  | .observation .runtimeProbe counter => aggregate.runtimeProbe.count counter
  | .lifecycle counter => aggregate.lifecycle.count counter

end DiagnosticsAggregate

/-- What an event adds to a counter. -/
def DiagnosticsEvent.amount : DiagnosticsEvent → Counter → UInt64
  | .sleepObservation observation, .observation source counter =>
    if observation.source = source then observation.amount counter else 0
  | .exit kind, .lifecycle (.exit other) => if kind = other then 1 else 0
  | .reloadRequested, .lifecycle .reloadRequested => 1
  | .restart _ _ _ _, .lifecycle .restart => 1
  | .restart decision _ _ _, .lifecycle .backoffRestart =>
    if decision.usesBackoff then 1 else 0
  | .restart _ _ _ rateLimited, .lifecycle .rateLimitedRestart =>
    if rateLimited then 1 else 0
  | .terminated, .lifecycle .terminated => 1
  | _, _ => 0

@[simp] theorem ObservationStats.count_new (counter : ObservationCounter) :
    new.count counter = 0 := by
  cases counter <;> rfl

@[simp] theorem LifecycleStats.count_new (counter : LifecycleCounter) :
    new.count counter = 0 := by
  cases counter
  case exit kind => cases kind <;> rfl
  all_goals rfl

theorem DiagnosticsAggregate.count_new (counter : Counter) : new.count counter = 0 := by
  rcases counter with (_ | _) | _ <;> simp [count, new]

theorem LifecycleStats.count_recordExit (stats : LifecycleStats)
    (kind : GenerationExitKind) (counter : LifecycleCounter) :
    (stats.recordExit kind).count counter = stats.count counter +
      (DiagnosticsEvent.exit kind).amount (.lifecycle counter) := by
  cases kind <;> rcases counter with _ | _ | _ | _ | _ | (_ | _) <;>
    simp [count, exitCount, recordExit, DiagnosticsEvent.amount]

theorem LifecycleStats.count_recordRestart (stats : LifecycleStats) (decision : RestartDecisionKind)
    (policyDelay effectiveDelay : Duration) (rateLimited : Bool) (counter : LifecycleCounter) :
    (stats.recordRestart decision policyDelay effectiveDelay
        rateLimited).count counter = stats.count counter +
      (DiagnosticsEvent.restart decision policyDelay effectiveDelay
        rateLimited).amount (.lifecycle counter) := by
  rcases counter with _ | _ | _ | _ | _ | (_ | _) <;>
    simp [count, exitCount, recordRestart, DiagnosticsEvent.amount] <;>
    split <;> simp

/-- Every counter grows by what the event adds to it. -/
theorem DiagnosticsAggregate.count_record (aggregate : DiagnosticsAggregate)
    (event : DiagnosticsEvent) (counter : Counter) :
    (aggregate.record event).count counter = aggregate.count counter + event.amount counter := by
  cases event with
  | sleepObservation observation =>
    simp only [record, recordObservation]
    cases source : observation.source <;> rcases counter with (_ | _) | _ <;>
      simp [count, DiagnosticsEvent.amount, source, ObservationStats.count_record]
  | exit kind =>
    rcases counter with (_ | _) | counter
    case lifecycle => exact LifecycleStats.count_recordExit _ kind counter
    all_goals simp [count, record, DiagnosticsEvent.amount]
  | restart decision policyDelay effectiveDelay rateLimited =>
    rcases counter with (_ | _) | counter
    case lifecycle => exact LifecycleStats.count_recordRestart _ _ _ _ _ counter
    all_goals simp [count, record, DiagnosticsEvent.amount]
  | reloadRequested =>
    rcases counter with (_ | _) | (_ | _ | _ | _ | _ | (_ | _)) <;>
      simp [count, record, DiagnosticsEvent.amount, LifecycleStats.count,
        LifecycleStats.exitCount, LifecycleStats.recordReloadRequested]
  | terminated =>
    rcases counter with (_ | _) | (_ | _ | _ | _ | _ | (_ | _)) <;>
      simp [count, record, DiagnosticsEvent.amount, LifecycleStats.count,
        LifecycleStats.exitCount, LifecycleStats.recordTerminated]

/-! ### The store -/

def retainedGenerationsPerService : Nat := 1024

/-- `ServiceDiagnostics`, less the identifier, which is its key in the store. -/
structure ServiceDiagnostics where
  serviceName : String
  currentGeneration : UInt64
  runtimeLane : RuntimeLane
  aggregate : DiagnosticsAggregate

structure GenerationDiagnostics where
  serviceId : ServiceId
  serviceName : String
  generation : UInt64
  runtimeLane : RuntimeLane
  aggregate : DiagnosticsAggregate

/-- `DiagnosticsStore`, with what its handles keep alive: the handle of a
registration points to the generation at that index of `registered`, evicted or
not.  The keys of `generations` map to the same indices. -/
structure DiagnosticsStore where
  services : ServiceId → Option ServiceDiagnostics
  registered : List GenerationDiagnostics
  generations : List ((ServiceId × UInt64) × Nat)
  lanes : RuntimeLane → DiagnosticsAggregate

namespace DiagnosticsStore

def new : DiagnosticsStore :=
  { services := fun _ => none, registered := [], generations := [], lanes := fun _ => .new }

/-- The generation numbers of a service among the keys. -/
def generationsOf (id : ServiceId) (keys : List (ServiceId × UInt64)) :
    List UInt64 :=
  (keys.filter (·.1 = id)).map (·.2)

def retainRecentGenerations (id : ServiceId) (generations : List ((ServiceId × UInt64) × Nat)) :
    List ((ServiceId × UInt64) × Nat) :=
  let numbers := generationsOf id (generations.map (·.1))
  if numbers.length ≤ retainedGenerationsPerService then generations
  else
    let evicted := (numbers.mergeSort (· ≤ ·)).take
      (numbers.length - retainedGenerationsPerService)
    generations.filter fun entry =>
      ¬(entry.1.1 = id ∧ entry.1.2 ∈ evicted)

def registerGeneration (store : DiagnosticsStore) (id : ServiceId)
    (name : String) (generation : UInt64) (lane : RuntimeLane) :
    DiagnosticsStore :=
  let service := (store.services id).getD
    { serviceName := name, currentGeneration := 0, runtimeLane := lane, aggregate := .new }
  { store with
    services := fun other =>
      if other = id then
        some { service with currentGeneration := generation, runtimeLane := lane }
      else store.services other
    registered := store.registered ++
      [{ serviceId := id
         serviceName := name
         generation := generation
         runtimeLane := lane
         aggregate := .new }]
    generations := retainRecentGenerations id
      (store.generations.filter (·.1 ≠ (id, generation)) ++
        [((id, generation), store.registered.length)]) }

/-- A recording of the lane's own aggregate. -/
def recordLane (store : DiagnosticsStore) (lane : RuntimeLane)
    (event : DiagnosticsEvent) : DiagnosticsStore :=
  { store with
    lanes := fun other =>
      if other = lane then (store.lanes lane).record event
      else store.lanes other }

/-- A recording through the handle of a registration. -/
def recordHandle (store : DiagnosticsStore) (handle : Nat)
    (event : DiagnosticsEvent) : Option DiagnosticsStore :=
  store.registered[handle]?.map fun target =>
    recordLane
      { store with
        registered := store.registered.modify handle fun generation =>
          { generation with aggregate := generation.aggregate.record event }
        services := fun id =>
          if id = target.serviceId then
            (store.services id).map fun service =>
              { service with aggregate := service.aggregate.record event }
          else store.services id }
      target.runtimeLane event

inductive Call where
  | registerGeneration (id : ServiceId) (name : String) (generation : UInt64)
      (lane : RuntimeLane)
  | recordHandle (handle : Nat) (event : DiagnosticsEvent)
  | recordLaneObservation (lane : RuntimeLane) (observation : SleepObservation)

def step (store : DiagnosticsStore) : Call → Option DiagnosticsStore
  | .registerGeneration id name generation lane =>
    some (store.registerGeneration id name generation lane)
  | .recordHandle handle event => store.recordHandle handle event
  | .recordLaneObservation lane observation =>
    some (store.recordLane lane (.sleepObservation observation))

end DiagnosticsStore

end ServiceDaemon
