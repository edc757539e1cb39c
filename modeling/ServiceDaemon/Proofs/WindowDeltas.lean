/-
Purpose: The windows of a sampler add up: for every counter their sum is its
  value in the last snapshot.
Main exports: countedAt, Grows, window_deltas_telescope
-/
import ServiceDaemon.Core.AdaptiveScheduling

namespace ServiceDaemon

def ObservationStatsSnapshot.count (stats : ObservationStatsSnapshot) :
    ObservationCounter → UInt64
  | .completed => stats.completed
  | .interrupted => stats.interrupted
  | .totalRequested => stats.totalRequestedMs
  | .totalElapsed => stats.totalElapsedMs
  | .totalDrift => stats.totalDriftMs

def ObservationWindow.count (window : ObservationWindow) :
    ObservationCounter → UInt64
  | .completed => window.completed
  | .interrupted => window.interrupted
  | .totalRequested => window.totalRequestedMs
  | .totalElapsed => window.totalElapsedMs
  | .totalDrift => window.totalDriftMs

def DiagnosticsAggregateSnapshot.count (aggregate : DiagnosticsAggregateSnapshot) : Counter → UInt64
  | .observation .serviceSleep counter => aggregate.serviceSleep.count counter
  | .observation .runtimeProbe counter => aggregate.runtimeProbe.count counter
  | .lifecycle counter => aggregate.lifecycle.count counter

def DiagnosticsAggregateWindow.count (aggregate : DiagnosticsAggregateWindow) :
    Counter → UInt64
  | .observation .serviceSleep counter => aggregate.serviceSleep.count counter
  | .observation .runtimeProbe counter => aggregate.runtimeProbe.count counter
  | .lifecycle counter => aggregate.lifecycle.count counter

theorem aggregateWindow_count (previous : Option DiagnosticsAggregateSnapshot)
    (current : DiagnosticsAggregateSnapshot) (counter : Counter) :
    (aggregateWindow previous current).count counter =
      delta (previous.map (·.count counter)) (current.count counter) := by
  cases previous <;> rcases counter with (_ | _) | counter
  case none.lifecycle | some.lifecycle => rfl
  all_goals rename_i counter; cases counter <;> rfl

/-! ### One key -/

section Keyed

variable {Subject Key A : Type} [DecidableEq Key]

/-- The sum of a counter over the entries of a key. -/
def countedAt (key : Subject → Key) (count : A → UInt64) (k : Key)
    (entries : List (Diagnosed Subject A)) : Nat :=
  ((entries.filter fun entry => key entry.subject = k).map fun entry =>
    (count entry.aggregate).toNat).sum

theorem filter_key_eq {key : Subject → Key} {k : Key} {entries : List (Diagnosed Subject A)}
    (distinct : (entries.map fun entry => key entry.subject).Nodup) :
    entries.filter (fun entry => key entry.subject = k) =
      (entries.find? fun entry => key entry.subject = k).toList := by
  induction entries with
  | nil => rfl
  | cons entry entries ih =>
    rw [List.map_cons, List.nodup_cons] at distinct
    by_cases same : key entry.subject = k
    · have others : entries.filter (fun entry => key entry.subject = k) = [] := by
        rw [List.filter_eq_nil_iff]
        intro other listed found
        have again : key other.subject = k := by simpa using found
        apply distinct.1
        rw [same, ← again]
        exact List.mem_map_of_mem listed
      simp [same, others]
    · simp [same, ih distinct.2]

variable {key : Subject → Key} {le : Key → Key → Bool} {k : Key}
  {counter : Counter}
  {before after : List (Diagnosed Subject DiagnosticsAggregateSnapshot)}

/-- The entry of the key stays, and its counter does not fall. -/
def Kept (key : Subject → Key) (k : Key) (counter : Counter)
    (before after : List (Diagnosed Subject DiagnosticsAggregateSnapshot)) :
    Prop :=
  ∀ entry ∈ before, key entry.subject = k → ∃ later ∈ after,
    key later.subject = k ∧ entry.aggregate.count counter ≤ later.aggregate.count counter

theorem Kept.find {entry : Diagnosed Subject DiagnosticsAggregateSnapshot}
    (kept : Kept key k counter before after)
    (distinct : (after.map fun entry => key entry.subject).Nodup)
    (found : (before.find? fun entry => key entry.subject = k) = some entry) :
    ∃ later, (after.find? fun entry => key entry.subject = k) = some later ∧
      entry.aggregate.count counter ≤ later.aggregate.count counter := by
  have same : key entry.subject = k := by simpa using List.find?_some found
  obtain ⟨later, listed, there, grown⟩ := kept entry (List.mem_of_find?_eq_some found) same
  have only : later ∈ after.filter fun entry => key entry.subject = k := by
    simp [listed, there]
  rw [filter_key_eq distinct] at only
  exact ⟨later, Option.mem_toList.mp only, grown⟩

/-- The window of a key is what its counter has grown by. -/
theorem countedAt_windowEntries (distinct : (after.map fun entry => key entry.subject).Nodup) :
    countedAt key (·.count counter) k (windowEntries key le before after) =
      ((after.find? fun entry => key entry.subject = k).map fun entry =>
        (delta ((before.find? fun entry => key entry.subject = k).map (·.aggregate.count counter))
          (entry.aggregate.count counter)).toNat).getD 0 := by
  have sorted := (((List.mergeSort_perm (after.map (windowEntry key before))
    fun first second => le (key first.subject) (key second.subject)).filter
      fun entry => key entry.subject = k).map
      fun entry => (entry.aggregate.count counter).toNat).sum_eq
  have entries := filter_key_eq (k := k) distinct
  rw [countedAt, windowEntries, sorted, List.filter_map, List.map_map]
  change ((after.filter fun entry => key entry.subject = k).map _).sum = _
  rw [entries]
  cases found : after.find? fun entry => key entry.subject = k with
  | none => rfl
  | some entry =>
    have same : key entry.subject = k := by simpa using List.find?_some found
    simp [windowEntry, aggregateWindow_count, same, Function.comp_def]

theorem countedAt_snapshot (distinct : (after.map fun entry => key entry.subject).Nodup) :
    countedAt key (·.count counter) k after =
      ((after.find? fun entry => key entry.subject = k).map fun entry =>
        (entry.aggregate.count counter).toNat).getD 0 := by
  rw [countedAt, filter_key_eq distinct]
  cases after.find? fun entry => key entry.subject = k <;> simp

theorem countedAt_grows (distinctBefore : (before.map fun entry => key entry.subject).Nodup)
    (distinct : (after.map fun entry => key entry.subject).Nodup)
    (kept : Kept key k counter before after) :
    countedAt key (·.count counter) k before +
        countedAt key (·.count counter) k (windowEntries key le before after) =
      countedAt key (·.count counter) k after := by
  rw [countedAt_snapshot distinctBefore, countedAt_snapshot distinct,
    countedAt_windowEntries distinct]
  cases found : before.find? fun entry => key entry.subject = k with
  | none => simp [delta]
  | some entry =>
    obtain ⟨later, there, grown⟩ := kept.find distinct found
    simp only [there, Option.map_some, Option.getD_some, delta, grown, if_true,
      UInt64.toNat_sub_of_le _ _ grown]
    exact Nat.add_sub_cancel' (UInt64.le_iff_toNat_le.mp grown)

end Keyed

/-! ### Sampling -/

/-- The windows of snapshots that are sampled in order. -/
def DiagnosticsSampler.sampleAll (sampler : DiagnosticsSampler) :
    List DiagnosticsSnapshot → List DiagnosticsWindow
  | [] => []
  | current :: rest =>
    (sampler.sample current).2 :: (sampler.sample current).1.sampleAll rest

theorem sampleAll_append (sampler : DiagnosticsSampler) (earlier later : List DiagnosticsSnapshot) :
    (sampler.sampleAll (earlier ++ later)).drop earlier.length = DiagnosticsSampler.sampleAll
        ⟨earlier.getLast?.or sampler.previous⟩ later := by
  induction earlier generalizing sampler with
  | nil => rfl
  | cons current rest ih =>
    have later := ih (sampler.sample current).1
    rw [List.cons_append, DiagnosticsSampler.sampleAll, List.length_cons,
      List.drop_succ_cons, later]
    cases rest <;> simp [DiagnosticsSampler.sample, List.getLast?_cons]

/-- The windows of a key add up to what its counter has grown by. -/
theorem sampleAll_telescopes {Subject Key : Type} [DecidableEq Key] {key : Subject → Key} {k : Key}
    {counter : Counter}
    (entries : DiagnosticsSnapshot → List (Diagnosed Subject DiagnosticsAggregateSnapshot))
    (windows : DiagnosticsWindow → List (Diagnosed Subject DiagnosticsAggregateWindow))
    (made : ∀ previous current, ∃ le, windows (.fromSnapshots previous current) =
      windowEntries key le (previous.elim [] entries) (entries current))
    (distinct : ∀ snapshot, ((entries snapshot).map fun entry => key entry.subject).Nodup)
    (snapshots : List DiagnosticsSnapshot) (previous : Option DiagnosticsSnapshot)
    (starts : ∀ first ∈ snapshots.head?,
      Kept key k counter (previous.elim [] entries) (entries first))
    (kept : snapshots.IsChain fun before after =>
      Kept key k counter (entries before) (entries after)) :
    countedAt key (·.count counter) k (previous.elim [] entries) +
        ((DiagnosticsSampler.sampleAll ⟨previous⟩ snapshots).map fun window =>
          countedAt key (·.count counter) k (windows window)).sum =
      countedAt key (·.count counter) k
        ((snapshots.getLast?.or previous).elim [] entries) := by
  induction snapshots generalizing previous with
  | nil => simp [DiagnosticsSampler.sampleAll]
  | cons current rest ih =>
    rw [List.isChain_cons] at kept
    have later := ih (some current) kept.1 kept.2
    have before : ((previous.elim [] entries).map fun entry =>
        key entry.subject).Nodup := by
      cases previous with
      | none => exact .nil
      | some snapshot => exact distinct snapshot
    obtain ⟨le, window⟩ := made previous current
    have grown : _ + countedAt key (·.count counter) k
        (windowEntries key le _ _) = _ :=
      countedAt_grows before (distinct current) (starts current rfl)
    simp only [DiagnosticsSampler.sampleAll, DiagnosticsSampler.sample,
      List.map_cons, List.sum_cons, window]
    have last : ((current :: rest).getLast?.or previous) = rest.getLast?.or (some current) := by
      cases rest <;> simp [List.getLast?_cons]
    rw [last, ← later, ← Nat.add_assoc, grown]
    rfl

theorem lanes_distinct (snapshot : DiagnosticsSnapshot) :
    (snapshot.lanes.map fun entry => id entry.subject).Nodup := by
  change (snapshot.lanes.map (·.subject)).Nodup
  rw [snapshot.lanesComplete]
  decide

/-- Counters do not fall, and no service or lane disappears. -/
structure Grows (before after : DiagnosticsSnapshot) : Prop where
  services : ∀ id counter,
    Kept (·.serviceId) id counter before.services after.services
  lanes : ∀ lane counter, Kept id lane counter before.lanes after.lanes
  generations : ∀ entry ∈ before.generations, ∀ later ∈ after.generations,
    entry.subject.key = later.subject.key → ∀ counter,
      entry.aggregate.count counter ≤ later.aggregate.count counter

/-- For every counter of a service or a lane, the sum over all windows is its
value in the last snapshot; for a generation that sum starts with the first
snapshot from which on it is retained. -/
theorem window_deltas_telescope {snapshots : List DiagnosticsSnapshot} {last : DiagnosticsSnapshot}
    (ends : snapshots.getLast? = some last) (grows : snapshots.IsChain Grows) :
    let windows := DiagnosticsSampler.new.sampleAll snapshots
    (∀ id counter, (windows.map fun window =>
        countedAt (·.serviceId) (·.count counter) id window.services).sum =
      countedAt (·.serviceId) (·.count counter) id last.services) ∧
    (∀ lane counter, (windows.map fun window =>
        countedAt id (·.count counter) lane window.lanes).sum =
      countedAt id (·.count counter) lane last.lanes) ∧
    ∀ earlier retained key counter, snapshots = earlier ++ retained →
      (∀ before ∈ earlier.getLast?, ∀ entry ∈ before.generations, entry.subject.key ≠ key) →
      (∀ snapshot ∈ retained, ∃ entry ∈ snapshot.generations, entry.subject.key = key) →
      ((windows.drop earlier.length).map fun window =>
          countedAt (·.key) (·.count counter) key window.generations).sum =
        countedAt (·.key) (·.count counter) key last.generations := by
  refine ⟨?_, ?_, ?_⟩
  · intro id counter
    have sum := sampleAll_telescopes (·.services) (·.services)
      (fun _ _ => ⟨_, by rw [DiagnosticsWindow.fromSnapshots]⟩) (·.servicesDistinct) snapshots none
      (by simp [Kept]) (grows.imp fun _ _ h => h.services id counter)
    simpa [ends, countedAt, DiagnosticsSampler.new] using sum
  · intro lane counter
    have sum := sampleAll_telescopes (·.lanes) (·.lanes)
      (fun _ _ => ⟨_, by rw [DiagnosticsWindow.fromSnapshots]⟩)
      lanes_distinct snapshots none (by simp [Kept])
      (grows.imp fun _ _ h => h.lanes lane counter)
    simpa [ends, countedAt, DiagnosticsSampler.new] using sum
  · rintro earlier retained key counter rfl absent present
    have kept : retained.IsChain fun before after =>
        Kept (·.key) key counter before.generations after.generations := by
      refine (grows.right_of_append).imp_of_mem_imp ?_
      intro before after _ mem h entry listed here
      obtain ⟨later, there, same⟩ := present after mem
      exact ⟨later, there, same,
        h.generations entry listed later there (here.trans same.symm) counter⟩
    -- The window of the first snapshot that retains the generation has no
    -- earlier entry to subtract.
    have fresh : ∀ entry ∈ earlier.getLast?.elim [] (·.generations),
        entry.subject.key ≠ key := by
      cases before : earlier.getLast? with
      | none => simp
      | some snapshot => exact absent snapshot before
    have none : countedAt (·.key) (·.count counter) key
        (earlier.getLast?.elim [] (·.generations)) = 0 := by
      rw [countedAt, List.filter_eq_nil_iff.mpr (by simpa using fresh)]
      rfl
    have sum := sampleAll_telescopes (·.generations) (·.generations)
      (fun _ _ => ⟨_, by rw [DiagnosticsWindow.fromSnapshots]⟩)
      (·.generationsDistinct) retained earlier.getLast?
      (fun _ _ entry listed here => absurd here (fresh entry listed)) kept
    have windows := sampleAll_append .new earlier retained
    rw [List.getLast?_append] at ends
    rw [none, ends, Nat.zero_add] at sum
    rw [windows]
    simpa [DiagnosticsSampler.new] using sum

/-- A service, in its first generation, after `completed` sleeps. -/
def slept (completed : UInt64) : DiagnosticsAggregateSnapshot :=
  { serviceSleep := { ObservationStats.new with completed := completed }.snapshot
    runtimeProbe := ObservationStats.new.snapshot
    lifecycle := .new }

def sampledAfter (completed : UInt64) : DiagnosticsSnapshot :=
  { services := [⟨⟨⟨1⟩, "worker", 1, .standard⟩, slept completed⟩]
    generations := [⟨⟨⟨1⟩, "worker", 1, .standard⟩, slept completed⟩]
    lanes := [.control, .standard, .highPriority, .isolated].map
      (⟨·, slept completed⟩)
    servicesDistinct := List.nodup_singleton _
    generationsDistinct := List.nodup_singleton _
    lanesComplete := rfl }

theorem slept_count_le {completed more : UInt64} (le : completed ≤ more) (counter : Counter) :
    (slept completed).count counter ≤ (slept more).count counter := by
  rcases counter with (_ | _) | _
  case observation.serviceSleep counter =>
    cases counter <;> first | exact le | exact UInt64.le_refl _
  all_goals exact UInt64.le_refl _

theorem grows_sampledAfter {completed more : UInt64} (le : completed ≤ more) :
    Grows (sampledAfter completed) (sampledAfter more) := by
  constructor <;> simp [sampledAfter, Kept, slept_count_le le]
  tauto

theorem window_deltas_telescope_two_samples :
    ((DiagnosticsSampler.new.sampleAll [sampledAfter 2, sampledAfter 5]).map
      fun window => countedAt (·.serviceId) (·.count (.observation .serviceSleep .completed)) ⟨1⟩
        window.services).sum = 5 :=
  (window_deltas_telescope rfl (.cons_cons (grows_sampledAfter (by decide)) (.singleton _))).1 ⟨1⟩ _

end ServiceDaemon
