/-
Purpose: When the recommendations of one window agree with each other.  They do
  unless the probes of the isolated lane alone report its pressure, which the
  advice to isolate a service does not look at.
Main exports: SelfConsistent, advice_consistent_iff
-/
import ServiceDaemon.Core.AdaptiveScheduling

namespace ServiceDaemon

/-- The service a recommendation is for; lanes and generations are not. -/
def SchedulingRecommendationTarget.service? :
    SchedulingRecommendationTarget → Option ServiceId
  | .service serviceId _ _ => some serviceId
  | _ => none

structure SelfConsistent (advice : List SchedulingRecommendation) : Prop where
  pressure : ∀ isolate ∈ advice, isolate.action = .considerIsolation →
    ∀ other ∈ advice, other.reason ≠ .isolatedResourcePressure ∧
      other.reason ≠ .standardLanePressure
  instability : ∀ isolate ∈ advice, isolate.action = .considerIsolation →
    ∀ other ∈ advice, other.target.service? = isolate.target.service? →
      other.reason ≠ .lifecycleInstability
  single : (advice.filterMap (·.target.service?)).Nodup

namespace SchedulingPolicyThresholds

variable {thresholds : SchedulingPolicyThresholds}
  {advice : SchedulingRecommendation} {window : DiagnosticsWindow}

theorem mem_evaluateLane {lane : Diagnosed RuntimeLane DiagnosticsAggregateWindow}
    (mem : advice ∈ thresholds.evaluateLane lane) :
    advice.target.service? = none ∧ advice.action ≠ .considerIsolation ∧
      (advice.reason = .standardLanePressure → lane.subject = .standard ∧
        thresholds.observationHasDriftPressure lane.aggregate.runtimeProbe) ∧
      (advice.reason = .isolatedResourcePressure → lane.subject = .isolated ∧
        (thresholds.observationHasDriftPressure lane.aggregate.runtimeProbe ∨
          thresholds.lifecycleHasIsolatedPressure lane.aggregate.lifecycle)) := by
  obtain ⟨subject, aggregate⟩ := lane
  simp only [evaluateLane, List.mem_append] at mem
  rcases mem with probed | failed
  · split at probed
    · cases subject <;> cases List.mem_singleton.mp probed <;>
        simp_all [SchedulingRecommendationTarget.service?]
    · simp at probed
  · split at failed
    · cases List.mem_singleton.mp failed
      simp_all [SchedulingRecommendationTarget.service?]
    · simp at failed

theorem mem_evaluateGeneration {gen : Diagnosed GenerationSubject DiagnosticsAggregateWindow}
    (mem : advice ∈ thresholds.evaluateGeneration gen) :
    advice.target.service? = none ∧ advice.action ≠ .considerIsolation ∧
      advice.reason ≠ .standardLanePressure ∧
      (advice.reason = .isolatedResourcePressure → gen.subject.runtimeLane = .isolated ∧
          thresholds.lifecycleHasIsolatedPressure gen.aggregate.lifecycle) := by
  simp only [evaluateGeneration] at mem
  split at mem
  · cases List.mem_singleton.mp mem
    simp [SchedulingRecommendationTarget.service?]
  · split at mem
    · rename_i isolated
      cases List.mem_singleton.mp mem
      simp [SchedulingRecommendationTarget.service?, isolated]
    · simp at mem

/-- What makes the evaluator look at the lane of a service at all. -/
def drifts (thresholds : SchedulingPolicyThresholds)
    (service : Diagnosed ServiceSubject DiagnosticsAggregateWindow) : Bool :=
  !thresholds.lifecycleHasInstability service.aggregate.lifecycle &&
    service.subject.runtimeLane = .standard &&
    thresholds.observationHasDriftPressure service.aggregate.serviceSleep

theorem mem_evaluateService {standardLanePressure isolatedPressure : Bool}
    {svc : Diagnosed ServiceSubject DiagnosticsAggregateWindow}
    (mem : advice ∈ thresholds.evaluateService standardLanePressure isolatedPressure svc) :
    advice.target.service? = some svc.subject.serviceId ∧ advice.reason ≠ .standardLanePressure ∧
      advice.reason ≠ .isolatedResourcePressure ∧
      (advice.action = .considerIsolation → thresholds.drifts svc ∧
        standardLanePressure = false ∧ isolatedPressure = false) ∧
      (advice.reason = .lifecycleInstability → thresholds.drifts svc = false) := by
  simp only [evaluateService] at mem
  split at mem
  · rename_i unstable
    cases List.mem_singleton.mp mem
    simp [SchedulingRecommendationTarget.service?, drifts, unstable]
  · split at mem
    · simp at mem
    · cases List.mem_singleton.mp mem
      simp_all [SchedulingRecommendationTarget.service?, drifts]

/-- Where a recommendation comes from. -/
theorem mem_evaluate : advice ∈ thresholds.evaluate window ↔ window.hasBaseline ∧
      ((∃ lane ∈ window.lanes, advice ∈ thresholds.evaluateLane lane) ∨ (∃ gen ∈ window.generations,
          advice ∈ thresholds.evaluateGeneration gen) ∨
        ∃ svc ∈ window.services, advice ∈ thresholds.evaluateService
          (thresholds.runtimeLaneHasProbePressure window .standard)
          (thresholds.hasIsolatedPressure window) svc) := by
  rw [evaluate]
  split <;> simp_all

/-- The advice to isolate comes from a service that drifts. -/
theorem isolate_mem_evaluate (mem : advice ∈ thresholds.evaluate window)
    (isolate : advice.action = .considerIsolation) :
    window.hasBaseline ∧ thresholds.runtimeLaneHasProbePressure window .standard = false ∧
      thresholds.hasIsolatedPressure window = false ∧
      ∃ svc ∈ window.services, thresholds.drifts svc ∧
        advice.target.service? = some svc.subject.serviceId := by
  obtain ⟨baseline, ⟨_, _, here⟩ | ⟨_, _, here⟩ | ⟨svc, listed, here⟩⟩ := mem_evaluate.mp mem
  · exact absurd isolate (mem_evaluateLane here).2.1
  · exact absurd isolate (mem_evaluateGeneration here).2.1
  · obtain ⟨target, -, -, quiet, -⟩ := mem_evaluateService here
    obtain ⟨drifts, standard, isolated⟩ := quiet isolate
    exact ⟨baseline, standard, isolated, svc, listed, drifts, target⟩

/-- Without pressure that suppresses the advice to isolate, only the probes of
the isolated lane report any. -/
theorem pressure_mem_evaluate (mem : advice ∈ thresholds.evaluate window)
    (standard : thresholds.runtimeLaneHasProbePressure window .standard = false)
    (isolated : thresholds.hasIsolatedPressure window = false) :
    advice.reason ≠ .standardLanePressure ∧ (advice.reason = .isolatedResourcePressure →
        thresholds.runtimeLaneHasProbePressure window .isolated) := by
  simp only [runtimeLaneHasProbePressure, hasIsolatedPressure, List.any_eq_false,
    Bool.or_eq_false_iff, Bool.and_eq_true, decide_eq_true_eq, not_and,
    List.any_eq_true] at standard isolated ⊢
  obtain ⟨-, ⟨lane, listed, here⟩ | ⟨gen, listed, here⟩ | ⟨_, _, here⟩⟩ := mem_evaluate.mp mem
  · obtain ⟨-, -, ofStandard, ofIsolated⟩ := mem_evaluateLane here
    refine ⟨fun reason => ?_, fun reason => ?_⟩
    · obtain ⟨subject, probed⟩ := ofStandard reason
      exact standard lane listed subject probed
    · obtain ⟨subject, probed | failed⟩ := ofIsolated reason
      · exact ⟨lane, listed, subject, probed⟩
      · exact absurd failed (isolated.1 lane listed subject)
  · obtain ⟨-, -, notStandard, ofIsolated⟩ := mem_evaluateGeneration here
    refine ⟨notStandard, fun reason => ?_⟩
    obtain ⟨subject, failed⟩ := ofIsolated reason
    exact absurd failed (isolated.2 gen listed subject)
  · obtain ⟨-, notStandard, notIsolated, -⟩ := mem_evaluateService here
    exact ⟨notStandard, fun reason => absurd reason notIsolated⟩

/-- A recommendation for a service says what its own entry in the window does. -/
theorem service_mem_evaluate (mem : advice ∈ thresholds.evaluate window)
    (listed : svc ∈ window.services) (target : advice.target.service? = some svc.subject.serviceId)
    (reason : advice.reason = .lifecycleInstability) : thresholds.drifts svc = false := by
  obtain ⟨-, ⟨_, _, here⟩ | ⟨_, _, here⟩ | ⟨other, there, here⟩⟩ := mem_evaluate.mp mem
  · simp [(mem_evaluateLane here).1] at target
  · simp [(mem_evaluateGeneration here).1] at target
  · obtain ⟨same, -, -, -, unstable⟩ := mem_evaluateService here
    rw [same, Option.some.injEq] at target
    have entry : other = svc := List.inj_on_of_nodup_map window.servicesDistinct there listed target
    exact entry ▸ unstable reason

theorem evaluateServices_single (standardLanePressure isolatedPressure : Bool)
    (services : List (Diagnosed ServiceSubject DiagnosticsAggregateWindow)) :
    ((services.flatMap (thresholds.evaluateService standardLanePressure
      isolatedPressure)).filterMap (·.target.service?)).Sublist
      (services.map (·.subject.serviceId)) := by
  induction services with
  | nil => exact .slnil
  | cons svc rest ih =>
    rw [List.flatMap_cons, List.filterMap_append, List.map_cons, ← List.singleton_append]
    refine List.Sublist.append ?_ ih
    simp only [evaluateService]
    split
    · exact .refl _
    · split
      · exact List.nil_sublist _
      · exact .refl _

theorem evaluate_single : ((thresholds.evaluate window).filterMap (·.target.service?)).Nodup := by
  have lanes : (window.lanes.flatMap thresholds.evaluateLane).filterMap
      (·.target.service?) = [] := by
    simp only [List.filterMap_eq_nil_iff, List.mem_flatMap]
    rintro _ ⟨_, _, here⟩
    exact (mem_evaluateLane here).1
  have gens : (window.generations.flatMap
      thresholds.evaluateGeneration).filterMap (·.target.service?) = [] := by
    simp only [List.filterMap_eq_nil_iff, List.mem_flatMap]
    rintro _ ⟨_, _, here⟩
    exact (mem_evaluateGeneration here).1
  rw [evaluate]
  split
  · rw [List.filterMap_append, List.filterMap_append, lanes, gens]
    exact window.servicesDistinct.sublist (evaluateServices_single _ _ _)
  · exact .nil

theorem exists_mem_evaluateLane {lane : Diagnosed RuntimeLane DiagnosticsAggregateWindow}
    (isolated : lane.subject = .isolated)
    (probed : thresholds.observationHasDriftPressure lane.aggregate.runtimeProbe) :
    ∃ report ∈ thresholds.evaluateLane lane,
      report.reason = .isolatedResourcePressure := by
  simp [evaluateLane, probed, isolated]

theorem exists_mem_evaluateService {svc : Diagnosed ServiceSubject DiagnosticsAggregateWindow}
    (drifting : thresholds.drifts svc) :
    ∃ isolate ∈ thresholds.evaluateService false false svc,
      isolate.action = .considerIsolation := by
  simp_all [drifts, evaluateService]

/-- The recommendations of a window agree with each other exactly if the probes
of the isolated lane do not show pressure while a standard service drifts and
nothing else suppresses the advice to isolate it. -/
theorem advice_consistent_iff (thresholds : SchedulingPolicyThresholds)
    (window : DiagnosticsWindow) :
    SelfConsistent (thresholds.evaluate window) ↔ ¬(window.hasBaseline ∧
        thresholds.runtimeLaneHasProbePressure window .isolated ∧
        thresholds.runtimeLaneHasProbePressure window .standard = false ∧
        thresholds.hasIsolatedPressure window = false ∧
        ∃ service ∈ window.services, thresholds.drifts service) := by
  constructor
  · rintro consistent ⟨baseline, probed, standard, isolated, svc, listed, drifting⟩
    obtain ⟨lane, there, here⟩ := List.any_eq_true.mp probed
    simp only [Bool.and_eq_true, decide_eq_true_eq] at here
    obtain ⟨report, reported, reason⟩ := exists_mem_evaluateLane here.1 here.2
    obtain ⟨isolate, advised, action⟩ := exists_mem_evaluateService drifting
    refine (consistent.pressure isolate ?_ action report ?_).1 reason
    · rw [mem_evaluate, standard, isolated]
      exact ⟨baseline, .inr (.inr ⟨svc, listed, advised⟩)⟩
    · exact mem_evaluate.mpr ⟨baseline, .inl ⟨lane, there, reported⟩⟩
  · intro quiet
    refine ⟨fun isolate mem action other there => ?_,
      fun isolate mem action other there same reason => ?_, evaluate_single⟩
    · obtain ⟨baseline, standard, isolated, svc, listed, drifts, -⟩ :=
        isolate_mem_evaluate mem action
      obtain ⟨notStandard, ofIsolated⟩ := pressure_mem_evaluate there standard isolated
      exact ⟨fun reason => quiet ⟨baseline, ofIsolated reason, standard,
        isolated, svc, listed, drifts⟩, notStandard⟩
    · obtain ⟨-, -, -, svc, listed, drifts, target⟩ := isolate_mem_evaluate mem action
      have unstable := service_mem_evaluate there listed (same.trans target) reason
      exact absurd drifts (by simp [unstable])

/-- A window in which the probes of the isolated lane and the sleeps of a
standard service are late on average by the threshold. -/
def lateWindow : DiagnosticsWindow :=
  let late : ObservationWindow :=
    { completed := 3
      interrupted := 0
      totalRequestedMs := 300
      totalElapsedMs := 600
      totalDriftMs := 300
      provenMaxDriftMs := none
      lastDriftMs := 100
      avgDriftMs := 100 }
  let lifecycle := lifecycleWindow none .new
  { hasBaseline := true
    services := [⟨⟨⟨1⟩, "worker", 1, .standard⟩,
      { serviceSleep := late
        runtimeProbe := observationWindow none ObservationStats.new.snapshot
        lifecycle := lifecycle }⟩]
    generations := []
    lanes := [⟨.isolated,
      { serviceSleep := observationWindow none ObservationStats.new.snapshot
        runtimeProbe := late
        lifecycle := lifecycle }⟩]
    servicesDistinct := List.nodup_singleton _ }

theorem late_advice_conflicts :
    (SchedulingPolicyThresholds.default.evaluate lateWindow).map
        (fun advice => (advice.action, advice.reason)) =
      [(.observe, .isolatedResourcePressure),
        (.considerIsolation, .standardServiceSleepDrift)] := by
  decide +kernel

end SchedulingPolicyThresholds

end ServiceDaemon
