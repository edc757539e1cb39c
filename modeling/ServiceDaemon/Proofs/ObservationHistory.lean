/-
Purpose: What the observation counters say about the observations: the totals of
  the durations, and the largest drift of a window.
Main exports: totals_saturate_iff, windowsOf, proven_max_drift_sound
-/
import ServiceDaemon.Core.AdaptiveScheduling

namespace ServiceDaemon

/-! ### Totals -/

def totalAfter (counter : ObservationCounter) (observations : List SleepObservation) : UInt64 :=
  (observations.foldl ObservationStats.record .new).count counter

/-- The sum of what is recorded, without wrapping. -/
def recordedSum (counter : ObservationCounter) (observations : List SleepObservation) : Nat :=
  (observations.map fun observation => (observation.amount counter).toNat).sum

/-- The counters that add up durations. -/
def durationTotals : List ObservationCounter :=
  [.totalRequested, .totalElapsed, .totalDrift]

theorem count_foldl_record (stats : ObservationStats) (counter)
    (observations : List SleepObservation) :
    ((observations.foldl ObservationStats.record stats).count counter).toNat =
      ((stats.count counter).toNat + recordedSum counter observations) %
        2 ^ 64 := by
  induction observations generalizing stats with
  | nil => simp [recordedSum]
  | cons observation rest ih =>
    rw [List.foldl_cons, ih, ObservationStats.count_record, UInt64.toNat_add]
    simp only [recordedSum, List.map_cons, List.sum_cons]
    omega

theorem totalAfter_toNat (counter observations) :
    (totalAfter counter observations).toNat = recordedSum counter observations % 2 ^ 64 := by
  rw [totalAfter, count_foldl_record, ObservationStats.count_new]
  simp

theorem recordedSum_succ_le (counter) (observations : List SleepObservation)
    (n : Nat) : ∃ added ≤ u64Max,
      recordedSum counter (observations.take (n + 1)) =
        recordedSum counter (observations.take n) + added := by
  rw [List.take_add_one]
  cases observations[n]? with
  | none => exact ⟨0, Nat.zero_le _, by simp⟩
  | some observation =>
    refine ⟨(observation.amount counter).toNat, ?_, by simp [recordedSum]⟩
    exact Nat.le_pred_of_lt (UInt64.toNat_lt _)

/-- The totals of the durations never go back and are the sums, saturated, after
every observation of a sequence exactly if no sum exceeds the largest `u64`. -/
theorem totals_saturate_iff (observations : List SleepObservation) :
    (∀ counter ∈ durationTotals, ∀ n, totalAfter counter (observations.take n) ≤
          totalAfter counter (observations.take (n + 1)) ∧
        (totalAfter counter (observations.take n)).toNat =
          min u64Max (recordedSum counter (observations.take n))) ↔
      ∀ counter ∈ durationTotals, recordedSum counter observations ≤ u64Max := by
  constructor
  · intro saturated counter listed
    have fits : ∀ n, recordedSum counter (observations.take n) ≤ u64Max := by
      intro n
      induction n with
      | zero => simp [recordedSum]
      | succ n ih =>
        -- At a first overflow the wrapped total is below the largest value.
        obtain ⟨added, bound, sum⟩ := recordedSum_succ_le counter observations n
        have value := (saturated counter listed (n + 1)).2
        rw [totalAfter_toNat] at value
        simp only [u64Max] at *
        omega
    simpa using fits observations.length
  · intro fits counter listed n
    have below : ∀ m, recordedSum counter (observations.take m) ≤ u64Max := by
      intro m
      have whole := fits counter listed
      rw [← List.take_append_drop m observations, recordedSum, List.map_append,
        List.sum_append] at whole
      exact Nat.le_trans (Nat.le_add_right _ _) whole
    obtain ⟨added, -, sum⟩ := recordedSum_succ_le counter observations n
    have here := below n
    have next := below (n + 1)
    simp only [UInt64.le_iff_toNat_le, totalAfter_toNat]
    simp only [u64Max] at *
    omega

/-- A sleep of `Duration::MAX` that a reload interrupts, then a short one. -/
def interruptedSleeps : List SleepObservation :=
  [{ source := .serviceSleep
     reason := .reload
     requested := fromSecs u64Max + 999999999
     elapsed := 5000000
     drift := 0 },
    { source := .serviceSleep
      reason := .completed
      requested := 10000000
      elapsed := 10000000
      drift := 0 }]

theorem totals_wrap :
    totalAfter .totalRequested (interruptedSleeps.take 1) = .ofNat u64Max ∧
      totalAfter .totalRequested interruptedSleeps = 9999999 := by
  decide +kernel

/-! ### The largest drift of a window -/

inductive SampleEvent where
  | observe (observation : SleepObservation)
  | sample

/-- The windows of a sequence of observations and samples, each with the
observations recorded in it.  Without a previous snapshot the window reaches
back to the first observation. -/
def windowsOf (stats : ObservationStats) (previous : Option ObservationStatsSnapshot)
    (inside : List SleepObservation) :
    List SampleEvent → List (List SleepObservation × ObservationWindow)
  | [] => []
  | .observe observation :: rest =>
    windowsOf (stats.record observation) previous (inside ++ [observation]) rest
  | .sample :: rest =>
    (inside, observationWindow previous stats.snapshot) ::
      windowsOf stats (some stats.snapshot) [] rest

/-- The drift in whole milliseconds, of the nanoseconds that are recorded. -/
def SleepObservation.driftMs (observation : SleepObservation) : UInt64 :=
  nanosToMillis (durationNanos observation.drift)

theorem nanosToMillis_mono {first second : UInt64} (le : first ≤ second) :
    nanosToMillis first ≤ nanosToMillis second := by
  rw [UInt64.le_iff_toNat_le] at le ⊢
  simp only [nanosToMillis, UInt64.toNat_div]
  exact Nat.div_le_div_right le

/-- What the observations made of the counters they found. -/
theorem record_history (stats : ObservationStats) (inside : List SleepObservation) :
    let after := inside.foldl ObservationStats.record stats
    (∀ o ∈ inside, o.reason = .completed → durationNanos o.drift ≤ after.maxDriftNs) ∧
      (after.maxDriftNs = stats.maxDriftNs ∨ ∃ o ∈ inside,
        o.reason = .completed ∧ durationNanos o.drift = after.maxDriftNs) ∧
      stats.maxDriftNs ≤ after.maxDriftNs ∧
      ((∀ o ∈ inside, o.reason ≠ .completed) → after.completed = stats.completed) := by
  induction inside generalizing stats with
  | nil => simp
  | cons first rest ih =>
    have later := ih (stats.record first)
    by_cases completed : first.reason = .completed
    · have max : (stats.record first).maxDriftNs = ObservationStats.updateMax stats.maxDriftNs
            (durationNanos first.drift) := by
        simp [ObservationStats.record, completed]
      simp only [ObservationStats.updateMax] at max
      grind
    · have same : (stats.record first).maxDriftNs = stats.maxDriftNs ∧
          (stats.record first).completed = stats.completed := by
        simp [ObservationStats.record, completed]
      grind

theorem provenMaxDriftMs_eq_some {previous : Option ObservationStatsSnapshot}
    {current : ObservationStatsSnapshot} {m : UInt64}
    (proven : (observationWindow previous current).provenMaxDriftMs = some m) :
    m = current.maxDriftMs ∧ 0 < delta (previous.map (·.completed)) current.completed ∧
      ∀ before, previous = some before → before.maxDriftMs < current.maxDriftMs := by
  cases previous <;> dsimp only [observationWindow] at proven <;>
    split at proven <;> cases proven
  · rename_i completed
    exact ⟨rfl, completed, nofun⟩
  · rename_i grown
    exact ⟨rfl, grown.1, fun _ same => Option.some.inj same ▸ grown.2⟩

/-- A window with what it saw. -/
theorem window_sound {old : ObservationStats} {inside : List SleepObservation} {m : UInt64}
    {previous : Option ObservationStatsSnapshot}
    (base : previous = none ∧ old = .new ∨ previous = some old.snapshot)
    (proven : (observationWindow previous
      (inside.foldl ObservationStats.record old).snapshot).provenMaxDriftMs = some m) :
    (∃ o ∈ inside, o.reason = .completed ∧ o.driftMs = m) ∧
      ∀ o ∈ inside, o.reason = .completed → o.driftMs ≤ m := by
  obtain ⟨bounded, attained, -, counted⟩ := record_history old inside
  obtain ⟨rfl, grows, above⟩ := provenMaxDriftMs_eq_some proven
  refine ⟨?_, fun o listed completed => nanosToMillis_mono (bounded o listed completed)⟩
  rcases attained with same | ⟨o, listed, completed, drift⟩
  · rcases base with ⟨rfl, rfl⟩ | rfl
    · -- Something was completed, and its drift is zero as the maximum is.
      have seen : ∃ o ∈ inside, o.reason = .completed := by
        by_contra nothing
        simp only [not_exists, not_and] at nothing
        have none : (inside.foldl ObservationStats.record .new).completed = 0 := counted nothing
        simp [delta, ObservationStats.snapshot, none] at grows
      obtain ⟨o, listed, completed⟩ := seen
      refine ⟨o, listed, completed, congrArg nanosToMillis ?_⟩
      exact UInt64.le_antisymm (bounded o listed completed) (same ▸ UInt64.zero_le)
    · -- The maximum of the snapshots has grown.
      have less := above old.snapshot rfl
      simp [ObservationStats.snapshot, same] at less
  · exact ⟨o, listed, completed, congrArg nanosToMillis drift⟩

theorem windowsOf_sound {old : ObservationStats} {previous : Option ObservationStatsSnapshot}
    (base : previous = none ∧ old = .new ∨ previous = some old.snapshot)
    (inside : List SleepObservation) (events : List SampleEvent) :
    ∀ entry ∈ windowsOf (inside.foldl ObservationStats.record old) previous
        inside events, ∀ m, entry.2.provenMaxDriftMs = some m →
      (∃ o ∈ entry.1, o.reason = .completed ∧ o.driftMs = m) ∧
        ∀ o ∈ entry.1, o.reason = .completed → o.driftMs ≤ m := by
  induction events generalizing old previous inside with
  | nil => simp [windowsOf]
  | cons event rest ih =>
    cases event with
    | observe observation =>
      have later := ih base (inside ++ [observation])
      rw [List.foldl_append] at later
      exact later
    | sample =>
      intro entry listed m proven
      rcases List.mem_cons.mp listed with rfl | listed
      · exact window_sound base proven
      · exact ih (.inr rfl) [] entry listed m proven

/-- Whatever is recorded and whenever it is sampled: if a window reports a
largest drift, a completed observation recorded in it had that drift in whole
milliseconds, and none in it had a larger one. -/
theorem proven_max_drift_sound (events : List SampleEvent) :
    ∀ entry ∈ windowsOf .new none [] events, ∀ m,
      entry.2.provenMaxDriftMs = some m → (∃ o ∈ entry.1, o.reason = .completed ∧ o.driftMs = m) ∧
          ∀ o ∈ entry.1, o.reason = .completed → o.driftMs ≤ m :=
  windowsOf_sound (.inl ⟨rfl, rfl⟩) [] events

/-- A late sleep in each of two windows, the second later than the first. -/
def lateSleeps : List SampleEvent :=
  [.observe ⟨.serviceSleep, .completed, 0, 3000000, 3000000⟩, .sample,
    .observe ⟨.serviceSleep, .completed, 0, 5000000, 5000000⟩, .sample]

theorem proven_max_drift_sound_second :
    ∃ entry, (windowsOf .new none [] lateSleeps)[1]? = some entry ∧
      entry.2.provenMaxDriftMs = some 5 ∧
      ∃ o ∈ entry.1, o.reason = .completed ∧ o.driftMs = 5 := by
  have second : ((windowsOf .new none [] lateSleeps)[1]?.any fun entry =>
      entry.2.provenMaxDriftMs = some 5) = true := by
    decide +kernel
  obtain ⟨entry, here, proven⟩ := (Option.any_eq_true _ _).mp second
  have max := of_decide_eq_true proven
  exact ⟨entry, here, max, (proven_max_drift_sound lateSleeps entry
    (List.mem_of_getElem? here) 5 max).1⟩

/-- A drift of more nanoseconds than a `u64` holds is reported as the largest
one that fits. -/
theorem proven_max_drift_saturates :
    ∃ observation : SleepObservation, observation.reason = .completed ∧
      observation.drift / 1000000 = 18446744073710 ∧
      (windowsOf .new none [] [.observe observation, .sample]).map
        (·.2.provenMaxDriftMs) = [some 18446744073709] :=
  ⟨⟨.serviceSleep, .completed, 0, 2 ^ 64 + 1000000, 2 ^ 64 + 1000000⟩, by decide +kernel⟩

end ServiceDaemon
