/-
Purpose: Snapshots of the diagnostics, the windows between two of them, and the
  evaluator that turns a window into scheduling recommendations.
Main exports: observationWindow, DiagnosticsWindow.fromSnapshots,
  DiagnosticsSampler.sample
-/
import ServiceDaemon.Core.Diagnostics

namespace ServiceDaemon

/-!
An entry of a snapshot or of a window is what it is about with its aggregate;
services, generations and lanes go through the same join with the previous
snapshot.  The fields of `LifecycleWindow` are its counters by name.

[SRC core/adaptive_scheduling.rs, core/diagnostics.rs]
-/

/-! ### Snapshots -/

structure ObservationStatsSnapshot where
  completed : UInt64
  interrupted : UInt64
  totalRequestedMs : UInt64
  totalElapsedMs : UInt64
  totalDriftMs : UInt64
  maxDriftMs : UInt64
  lastDriftMs : UInt64
  avgDriftMs : UInt64

def ObservationStats.snapshot (stats : ObservationStats) :
    ObservationStatsSnapshot :=
  { completed := stats.completed
    interrupted := stats.interrupted
    totalRequestedMs := nanosToMillis stats.totalRequestedNs
    totalElapsedMs := nanosToMillis stats.totalElapsedNs
    totalDriftMs := nanosToMillis stats.totalDriftNs
    maxDriftMs := nanosToMillis stats.maxDriftNs
    lastDriftMs := nanosToMillis stats.lastDriftNs
    avgDriftMs :=
      if stats.completed = 0 then 0
      else nanosToMillis (stats.totalDriftNs / stats.completed) }

/-- The lifecycle part of a snapshot is a copy of the counters. -/
structure DiagnosticsAggregateSnapshot where
  serviceSleep : ObservationStatsSnapshot
  runtimeProbe : ObservationStatsSnapshot
  lifecycle : LifecycleStats

structure ServiceSubject where
  serviceId : ServiceId
  serviceName : String
  currentGeneration : UInt64
  runtimeLane : RuntimeLane

structure GenerationSubject where
  serviceId : ServiceId
  serviceName : String
  generation : UInt64
  runtimeLane : RuntimeLane

def GenerationSubject.key (subject : GenerationSubject) : ServiceId × UInt64 :=
  (subject.serviceId, subject.generation)

structure Diagnosed (Subject Aggregate : Type) where
  subject : Subject
  aggregate : Aggregate

/-- A snapshot of the store, which has one entry for each key. -/
structure DiagnosticsSnapshot where
  services : List (Diagnosed ServiceSubject DiagnosticsAggregateSnapshot)
  generations : List (Diagnosed GenerationSubject DiagnosticsAggregateSnapshot)
  lanes : List (Diagnosed RuntimeLane DiagnosticsAggregateSnapshot)
  servicesDistinct : (services.map (·.subject.serviceId)).Nodup
  generationsDistinct : (generations.map (·.subject.key)).Nodup
  lanesComplete : lanes.map (·.subject) = [.control, .standard, .highPriority, .isolated]

/-! ### Windows -/

structure ObservationWindow where
  completed : UInt64
  interrupted : UInt64
  totalRequestedMs : UInt64
  totalElapsedMs : UInt64
  totalDriftMs : UInt64
  provenMaxDriftMs : Option UInt64
  lastDriftMs : UInt64
  avgDriftMs : UInt64

structure LifecycleWindow where
  count : LifecycleCounter → UInt64
  lastPolicyDelayMs : Nat
  lastEffectiveRestartDelayMs : Nat

structure DiagnosticsAggregateWindow where
  serviceSleep : ObservationWindow
  runtimeProbe : ObservationWindow
  lifecycle : LifecycleWindow

/-- What a counter has grown by; the subtraction saturates. -/
def delta (previous : Option UInt64) (current : UInt64) : UInt64 :=
  match previous with
  | none => current
  | some previous => if previous ≤ current then current - previous else 0

def observationWindow (previous : Option ObservationStatsSnapshot)
    (current : ObservationStatsSnapshot) : ObservationWindow :=
  let completed := delta (previous.map (·.completed)) current.completed
  let totalDriftMs := delta (previous.map (·.totalDriftMs)) current.totalDriftMs
  { completed := completed
    interrupted := delta (previous.map (·.interrupted)) current.interrupted
    totalRequestedMs :=
      delta (previous.map (·.totalRequestedMs)) current.totalRequestedMs
    totalElapsedMs :=
      delta (previous.map (·.totalElapsedMs)) current.totalElapsedMs
    totalDriftMs := totalDriftMs
    provenMaxDriftMs :=
      match previous with
      | some previous =>
        if 0 < completed ∧ previous.maxDriftMs < current.maxDriftMs then
          some current.maxDriftMs
        else none
      | none => if 0 < completed then some current.maxDriftMs else none
    lastDriftMs := if 0 < completed then current.lastDriftMs else 0
    avgDriftMs := if completed = 0 then 0 else totalDriftMs / completed }

def lifecycleWindow (previous : Option LifecycleStats)
    (current : LifecycleStats) : LifecycleWindow :=
  { count := fun counter =>
      delta (previous.map (·.count counter)) (current.count counter)
    lastPolicyDelayMs := current.lastPolicyDelayMs
    lastEffectiveRestartDelayMs := current.lastEffectiveRestartDelayMs }

def aggregateWindow (previous : Option DiagnosticsAggregateSnapshot)
    (current : DiagnosticsAggregateSnapshot) : DiagnosticsAggregateWindow :=
  { serviceSleep :=
      observationWindow (previous.map (·.serviceSleep)) current.serviceSleep
    runtimeProbe :=
      observationWindow (previous.map (·.runtimeProbe)) current.runtimeProbe
    lifecycle := lifecycleWindow (previous.map (·.lifecycle)) current.lifecycle }

section Entries

variable {Subject Key : Type} [DecidableEq Key] (key : Subject → Key)
  (le : Key → Key → Bool)
  (previous current : List (Diagnosed Subject DiagnosticsAggregateSnapshot))

/-- An entry joined with the previous one of its key. -/
def windowEntry (entry : Diagnosed Subject DiagnosticsAggregateSnapshot) :
    Diagnosed Subject DiagnosticsAggregateWindow :=
  { subject := entry.subject
    aggregate := aggregateWindow
      ((previous.find? fun before =>
        key before.subject = key entry.subject).map (·.aggregate))
      entry.aggregate }

/-- The entries of a window, sorted by key. -/
def windowEntries : List (Diagnosed Subject DiagnosticsAggregateWindow) :=
  (current.map (windowEntry key previous)).mergeSort
    fun first second => le (key first.subject) (key second.subject)

theorem windowEntries_keys (distinct : (current.map fun entry => key entry.subject).Nodup) :
    ((windowEntries key le previous current).map fun entry =>
      key entry.subject).Nodup := by
  refine ((List.mergeSort_perm _ _).map _).nodup_iff.mpr ?_
  rw [List.map_map]
  exact distinct

end Entries

def laneSortKey : RuntimeLane → Nat
  | .control => 0
  | .standard => 1
  | .highPriority => 2
  | .isolated => 3

structure DiagnosticsWindow where
  hasBaseline : Bool
  services : List (Diagnosed ServiceSubject DiagnosticsAggregateWindow)
  generations : List (Diagnosed GenerationSubject DiagnosticsAggregateWindow)
  lanes : List (Diagnosed RuntimeLane DiagnosticsAggregateWindow)
  servicesDistinct : (services.map (·.subject.serviceId)).Nodup

def DiagnosticsWindow.fromSnapshots (previous : Option DiagnosticsSnapshot)
    (current : DiagnosticsSnapshot) : DiagnosticsWindow :=
  { hasBaseline := previous.isSome
    services := windowEntries (·.serviceId) (·.value ≤ ·.value)
      (previous.elim [] (·.services)) current.services
    generations := windowEntries (·.key)
      (fun first second => first.1.value < second.1.value ∨
        first.1 = second.1 ∧ first.2 ≤ second.2)
      (previous.elim [] (·.generations)) current.generations
    lanes := windowEntries id (laneSortKey · ≤ laneSortKey ·)
      (previous.elim [] (·.lanes)) current.lanes
    servicesDistinct := windowEntries_keys _ _ _ _ current.servicesDistinct }

structure DiagnosticsSampler where
  previous : Option DiagnosticsSnapshot

namespace DiagnosticsSampler

def new : DiagnosticsSampler := { previous := none }

def sample (sampler : DiagnosticsSampler) (current : DiagnosticsSnapshot) :
    DiagnosticsSampler × DiagnosticsWindow :=
  ({ previous := some current }, .fromSnapshots sampler.previous current)

end DiagnosticsSampler

/-! ### Recommendations -/

inductive SchedulingRecommendationTarget where
  | runtimeLane (lane : RuntimeLane)
  | service (serviceId : ServiceId) (serviceName : String)
      (currentGeneration : UInt64)
  | generation (serviceId : ServiceId) (serviceName : String)
      (generation : UInt64) (runtimeLane : RuntimeLane)

inductive SchedulingRecommendationAction where
  | keepCurrentLane
  | observe
  | investigateControlPlane
  | considerIsolation
deriving DecidableEq

inductive SchedulingRecommendationReason where
  | standardLanePressure
  | standardServiceSleepDrift
  | controlPlanePressure
  | highPrioritySaturation
  | isolatedResourcePressure
  | lifecycleInstability
deriving DecidableEq

inductive RecommendationConfidence where
  | low
  | medium
  | high

/-- The windows that `from_aggregate` copies. -/
structure RecommendationObservation where
  observation : ObservationWindow
  lifecycle : LifecycleWindow

structure SchedulingRecommendation where
  target : SchedulingRecommendationTarget
  currentLane : Option RuntimeLane
  action : SchedulingRecommendationAction
  reason : SchedulingRecommendationReason
  confidence : RecommendationConfidence
  observation : RecommendationObservation

/-- The evaluator is its thresholds. -/
structure SchedulingPolicyThresholds where
  minimumCompletedSamples : UInt64
  highAvgDriftMs : UInt64
  restartInstabilityThreshold : UInt64
  isolatedPressureThreshold : UInt64

namespace SchedulingPolicyThresholds

def default : SchedulingPolicyThresholds :=
  { minimumCompletedSamples := 3
    highAvgDriftMs := 100
    restartInstabilityThreshold := 2
    isolatedPressureThreshold := 1 }

variable (thresholds : SchedulingPolicyThresholds)

def observationHasDriftPressure (observation : ObservationWindow) : Bool :=
  !(observation.completed < thresholds.minimumCompletedSamples) &&
    thresholds.highAvgDriftMs ≤ observation.avgDriftMs

def lifecycleHasInstability (lifecycle : LifecycleWindow) : Bool :=
  0 < lifecycle.count .rateLimitedRestart ||
    thresholds.restartInstabilityThreshold ≤ lifecycle.count .backoffRestart ||
    thresholds.restartInstabilityThreshold ≤ lifecycle.count .restart ||
    thresholds.restartInstabilityThreshold ≤ lifecycle.count (.exit .recoverableError) ||
    0 < lifecycle.count (.exit .panic) ||
    0 < lifecycle.count (.exit .fatalServiceError) ||
    0 < lifecycle.count (.exit .providerInitError)

def lifecycleHasIsolatedPressure (lifecycle : LifecycleWindow) : Bool :=
  thresholds.isolatedPressureThreshold ≤ lifecycle.count (.exit .isolatedStartupFailure) +
      lifecycle.count .rateLimitedRestart

def confidenceForObservation (observation : ObservationWindow) :
    RecommendationConfidence :=
  let double := fun value : UInt64 => UInt64.ofNat (min (2 * value.toNat) u64Max)
  if double thresholds.minimumCompletedSamples ≤ observation.completed ∧
      double thresholds.highAvgDriftMs ≤ observation.avgDriftMs then .high
  else .medium

def evaluateLane (lane : Diagnosed RuntimeLane DiagnosticsAggregateWindow) :
    List SchedulingRecommendation :=
  let observation :=
    { observation := lane.aggregate.runtimeProbe, lifecycle := lane.aggregate.lifecycle }
  (if thresholds.observationHasDriftPressure lane.aggregate.runtimeProbe then
    let (action, reason) :=
      match lane.subject with
      | .control => (.investigateControlPlane, .controlPlanePressure)
      | .standard => (.observe, .standardLanePressure)
      | .highPriority => (.observe, .highPrioritySaturation)
      | .isolated => (.observe, .isolatedResourcePressure)
    [{ target := .runtimeLane lane.subject
       currentLane := some lane.subject
       action := action
       reason := reason
       confidence :=
         thresholds.confidenceForObservation lane.aggregate.runtimeProbe
       observation := observation }]
  else []) ++
  if lane.subject = .isolated ∧
      thresholds.lifecycleHasIsolatedPressure lane.aggregate.lifecycle then
    [{ target := .runtimeLane .isolated
       currentLane := some .isolated
       action := .observe
       reason := .isolatedResourcePressure
       confidence := .high
       observation := observation }]
  else []

def evaluateGeneration (generation : Diagnosed GenerationSubject DiagnosticsAggregateWindow) :
    List SchedulingRecommendation :=
  let subject := generation.subject
  let recommend (action : SchedulingRecommendationAction)
      (reason : SchedulingRecommendationReason) :
      List SchedulingRecommendation :=
    [{ target := .generation subject.serviceId subject.serviceName
         subject.generation subject.runtimeLane
       currentLane := some subject.runtimeLane
       action := action
       reason := reason
       confidence := .high
       observation :=
         { observation := generation.aggregate.serviceSleep
           lifecycle := generation.aggregate.lifecycle } }]
  if thresholds.lifecycleHasInstability generation.aggregate.lifecycle then
    recommend .keepCurrentLane .lifecycleInstability
  else if subject.runtimeLane = .isolated ∧
      thresholds.lifecycleHasIsolatedPressure generation.aggregate.lifecycle then
    recommend .observe .isolatedResourcePressure
  else []

def evaluateService (standardLanePressure isolatedPressure : Bool)
    (service : Diagnosed ServiceSubject DiagnosticsAggregateWindow) :
    List SchedulingRecommendation :=
  let subject := service.subject
  let recommend (action : SchedulingRecommendationAction)
      (reason : SchedulingRecommendationReason)
      (confidence : RecommendationConfidence) :
      List SchedulingRecommendation :=
    [{ target := .service subject.serviceId subject.serviceName
         subject.currentGeneration
       currentLane := some subject.runtimeLane
       action := action
       reason := reason
       confidence := confidence
       observation :=
         { observation := service.aggregate.serviceSleep
           lifecycle := service.aggregate.lifecycle } }]
  if thresholds.lifecycleHasInstability service.aggregate.lifecycle then
    recommend .keepCurrentLane .lifecycleInstability .high
  else if subject.runtimeLane ≠ .standard ∨
      !thresholds.observationHasDriftPressure service.aggregate.serviceSleep then
    []
  else
    recommend
      (if standardLanePressure || isolatedPressure then .observe
      else .considerIsolation) .standardServiceSleepDrift .low

def runtimeLaneHasProbePressure (window : DiagnosticsWindow) (lane : RuntimeLane) : Bool :=
  window.lanes.any fun entry => entry.subject = lane &&
    thresholds.observationHasDriftPressure entry.aggregate.runtimeProbe

def hasIsolatedPressure (window : DiagnosticsWindow) : Bool :=
  (window.lanes.any fun lane => lane.subject = .isolated &&
    thresholds.lifecycleHasIsolatedPressure lane.aggregate.lifecycle) ||
  window.generations.any fun generation =>
    generation.subject.runtimeLane = .isolated &&
      thresholds.lifecycleHasIsolatedPressure generation.aggregate.lifecycle

def evaluate (window : DiagnosticsWindow) : List SchedulingRecommendation :=
  if window.hasBaseline then
    window.lanes.flatMap thresholds.evaluateLane ++
      window.generations.flatMap thresholds.evaluateGeneration ++
      window.services.flatMap (thresholds.evaluateService
        (thresholds.runtimeLaneHasProbePressure window .standard)
        (thresholds.hasIsolatedPressure window))
  else []

end SchedulingPolicyThresholds

end ServiceDaemon
