/-
Purpose: The eviction of generation details loses no count: the aggregates of
  services and lanes are the sums over all generations ever registered, each with
  what was recorded through its handle, and the details kept are those of the
  latest generations.
Main exports: Accounted, Retained, aggregates_survive_eviction
-/
import ServiceDaemon.Core.Diagnostics

namespace ServiceDaemon

open StepSystem

namespace DiagnosticsStore

variable {store next : DiagnosticsStore} {schedule : List Call}

/-- The sum of a counter over the generations that a filter keeps; it wraps. -/
def sumOver (keep : GenerationDiagnostics → Bool) (counter : Counter)
    (registered : List GenerationDiagnostics) : UInt64 :=
  ((registered.filter keep).map (·.aggregate.count counter)).sum

/-- The keys of the generations ever registered, in order. -/
def keys (store : DiagnosticsStore) : List (ServiceId × UInt64) :=
  store.registered.map fun gen =>
    (gen.serviceId, gen.generation)

/-- The direct observations of a lane in a schedule. -/
def directObservations (lane : RuntimeLane) (schedule : List Call) :
    List SleepObservation :=
  schedule.filterMap fun
    | .recordLaneObservation other observation =>
      if other = lane then some observation else none
    | _ => none

/-- What the direct observations of a lane add to a counter; it wraps. -/
def directCount (lane : RuntimeLane) (counter : Counter) (schedule : List Call) : UInt64 :=
  ((directObservations lane schedule).map fun observation =>
    (DiagnosticsEvent.sleepObservation observation).amount counter).sum

/-- What was recorded through the handle of a registration. -/
def recordedEvents (handle : Nat) (schedule : List Call) :
    List DiagnosticsEvent :=
  schedule.filterMap fun
    | .recordHandle other event => if other = handle then some event else none
    | _ => none

/-- What the recordings through a handle add to a counter; it wraps. -/
def recordedCount (handle : Nat) (counter : Counter) (schedule : List Call) : UInt64 :=
  ((recordedEvents handle schedule).map (·.amount counter)).sum

/-- Generation numbers increase for each service. -/
def Increasing (store : DiagnosticsStore) : Call → Prop
  | .registerGeneration id _ gen _ =>
    ∀ number ∈ generationsOf id store.keys, number < gen
  | _ => True

/-! ### Sums -/

section Sums

variable {keep : GenerationDiagnostics → Bool} {counter : Counter}
  {registered : List GenerationDiagnostics}

theorem sumOver_append_new (gen : GenerationDiagnostics) (fresh : gen.aggregate = .new) :
    sumOver keep counter (registered ++ [gen]) = sumOver keep counter registered := by
  simp only [sumOver, List.filter_append, List.filter_cons]
  split <;> simp [fresh, DiagnosticsAggregate.count_new]

theorem sumOver_modify (event : DiagnosticsEvent) (found : registered[handle]? = some target)
    (blind : ∀ gen aggregate, keep { gen with aggregate := aggregate } = keep gen) :
    sumOver keep counter (registered.modify handle fun gen =>
        { gen with aggregate := gen.aggregate.record event }) =
      sumOver keep counter registered + if keep target then event.amount counter else 0 := by
  induction registered generalizing handle with
  | nil => cases found
  | cons first rest ih =>
    cases handle with
    | zero =>
      cases found
      simp only [sumOver, List.modify_zero_cons, List.filter_cons, blind]
      split
      · simp only [List.map_cons, List.sum_cons, DiagnosticsAggregate.count_record]
        grind
      · simp
    | succ handle =>
      have later := ih found
      simp only [sumOver, List.modify_succ_cons, List.filter_cons] at later ⊢
      split <;> simp only [List.map_cons, List.sum_cons, later]
      grind

end Sums

/-- The counter of a service aggregate; a service without one counts nothing. -/
def serviceCount (store : DiagnosticsStore) (id : ServiceId) (counter : Counter) : UInt64 :=
  match store.services id with
  | none => 0
  | some svc => svc.aggregate.count counter

section Recorded

variable {lane other : RuntimeLane} {handle : Nat} {counter : Counter}

theorem directCount_concat (call : Call) :
    directCount lane counter (schedule ++ [call]) =
      directCount lane counter schedule + directCount lane counter [call] := by
  simp only [directCount, directObservations, List.filterMap_append,
    List.map_append, List.sum_append]

theorem recordedCount_concat (call : Call) :
    recordedCount handle counter (schedule ++ [call]) = recordedCount handle counter schedule +
        recordedCount handle counter [call] := by
  simp only [recordedCount, recordedEvents, List.filterMap_append, List.map_append, List.sum_append]

@[simp] theorem directCount_observation (observation : SleepObservation) :
    directCount lane counter [.recordLaneObservation other observation] = if other = lane then
        (DiagnosticsEvent.sleepObservation observation).amount counter
      else 0 := by
  by_cases same : other = lane <;> simp [directCount, directObservations, same]

@[simp] theorem recordedCount_event (other : Nat) (event : DiagnosticsEvent) :
    recordedCount handle counter [.recordHandle other event] =
      if other = handle then event.amount counter else 0 := by
  by_cases same : other = handle <;> simp [recordedCount, recordedEvents, same]

theorem recordedCount_none (unused : ∀ event, Call.recordHandle handle event ∉ schedule) :
    recordedCount handle counter schedule = 0 := by
  have nothing : recordedEvents handle schedule = [] := by
    apply List.filterMap_eq_nil_iff.mpr
    intro call mem
    cases call with
    | recordHandle other event =>
      by_cases same : other = handle
      · subst same
        exact absurd mem (unused event)
      · simp [same]
    | _ => rfl
  rw [recordedCount, nothing]
  rfl

end Recorded

/-- The aggregates are the sums over the registered generations, and a
generation counts what was recorded through its handle. -/
structure Accounted (schedule : List Call) (store : DiagnosticsStore) :
    Prop where
  known : ∀ key ∈ store.keys, (store.services key.1).isSome
  services : ∀ id counter, store.serviceCount id counter =
    sumOver (·.serviceId = id) counter store.registered
  lanes : ∀ lane counter, (store.lanes lane).count counter =
    sumOver (·.runtimeLane = lane) counter store.registered + directCount lane counter schedule
  handles : ∀ handle event, .recordHandle handle event ∈ schedule → handle < store.registered.length
  recorded : ∀ (handle : Nat) (gen : GenerationDiagnostics),
    store.registered[handle]? = some gen → ∀ counter,
      gen.aggregate.count counter = recordedCount handle counter schedule

theorem Accounted.register {id name gen lane} (h : Accounted schedule store) :
    Accounted (schedule ++ [.registerGeneration id name gen lane])
      (store.registerGeneration id name gen lane) := by
  refine ⟨?_, ?_, ?_, ?_, ?_⟩
  · intro key mem
    simp only [registerGeneration]
    split
    · rfl
    · rename_i different
      simp only [keys, registerGeneration, List.map_append, List.mem_append] at mem
      rcases mem with earlier | last
      · exact h.known key earlier
      · simp_all
  · intro other counter
    rw [registerGeneration, sumOver_append_new _ rfl, ← h.services]
    simp only [serviceCount]
    by_cases same : other = id
    · subst same
      cases store.services other <;> simp [DiagnosticsAggregate.count_new]
    · simp [same]
  · intro other counter
    rw [registerGeneration, sumOver_append_new _ rfl, h.lanes]
    simp [directCount, directObservations]
  · intro handle event mem
    have earlier : Call.recordHandle handle event ∈ schedule := by simpa using mem
    simp only [registerGeneration, List.length_append]
    exact Nat.lt_add_right _ (h.handles handle event earlier)
  · intro handle registered found counter
    rw [recordedCount_concat]
    simp only [registerGeneration, List.getElem?_append] at found
    split at found
    · rw [h.recorded handle registered found counter]
      exact (UInt64.add_zero _).symm
    · -- The handle is new, so nothing was recorded through it.
      rename_i new
      have fresh : registered.aggregate = .new := by
        have mem := List.mem_of_getElem? found
        rw [List.mem_singleton.mp mem]
      rw [recordedCount_none fun event mem => new (h.handles handle event mem),
        fresh, DiagnosticsAggregate.count_new]
      rfl

theorem Accounted.recordLane {lane observation} (h : Accounted schedule store) :
    Accounted (schedule ++ [.recordLaneObservation lane observation])
      (store.recordLane lane (.sleepObservation observation)) := by
  refine ⟨h.known, h.services, ?_, ?_, ?_⟩
  · intro other counter
    rw [directCount_concat, directCount_observation, ← UInt64.add_assoc]
    simp only [DiagnosticsStore.recordLane]
    rw [← h.lanes other counter]
    by_cases same : other = lane
    · subst same
      simp [DiagnosticsAggregate.count_record]
    · simp [same, Ne.symm same]
  · intro handle event mem
    exact h.handles handle event (by simpa using mem)
  · intro handle gen found counter
    rw [recordedCount_concat, h.recorded handle gen found counter]
    exact (UInt64.add_zero _).symm

theorem recordHandle_keys {handle event} (recorded : store.recordHandle handle event = some next) :
    next.keys = store.keys := by
  obtain ⟨target, -, rfl⟩ := Option.map_eq_some_iff.mp recorded
  apply List.ext_getElem?
  intro i
  simp only [keys, DiagnosticsStore.recordLane, List.getElem?_map, List.getElem?_modify]
  cases store.registered[i]? with
  | none => rfl
  | some gen => by_cases here : handle = i <;> simp [here]

theorem Accounted.recordHandle {handle event} (h : Accounted schedule store)
    (recorded : store.recordHandle handle event = some next) :
    Accounted (schedule ++ [.recordHandle handle event]) next := by
  obtain ⟨target, found, rfl⟩ := Option.map_eq_some_iff.mp recorded
  have known := h.known _ (List.mem_map_of_mem (List.mem_of_getElem? found))
  obtain ⟨svc, present⟩ := Option.isSome_iff_exists.mp known
  refine ⟨?_, ?_, ?_, ?_, ?_⟩
  · intro key mem
    rw [recordHandle_keys recorded] at mem
    simp only [DiagnosticsStore.recordLane]
    split
    · rw [Option.isSome_map]
      exact h.known key mem
    · exact h.known key mem
  · intro id counter
    rw [DiagnosticsStore.recordLane, sumOver_modify event found fun _ _ => rfl, ← h.services]
    simp only [serviceCount]
    by_cases same : id = target.serviceId
    · subst same
      simp [present, DiagnosticsAggregate.count_record]
    · simp [same, Ne.symm same]
  · intro lane counter
    rw [DiagnosticsStore.recordLane, sumOver_modify event found fun _ _ => rfl]
    have before := h.lanes lane counter
    simp only [directCount, directObservations, List.filterMap_append] at before ⊢
    by_cases same : lane = target.runtimeLane
    · subst same
      simp [DiagnosticsAggregate.count_record, before]
      grind
    · simp [same, Ne.symm same, before]
  · intro other event mem
    simp only [DiagnosticsStore.recordLane, List.length_modify]
    rcases List.mem_append.mp mem with earlier | last
    · exact h.handles other event earlier
    · cases List.mem_singleton.mp last
      exact (List.getElem?_eq_some_iff.mp found).1
  · intro other gen there counter
    rw [recordedCount_concat, recordedCount_event]
    simp only [DiagnosticsStore.recordLane, List.getElem?_modify,
      Option.map_eq_map, Option.map_eq_some_iff] at there
    obtain ⟨before, here, rfl⟩ := there
    rw [← h.recorded other before here counter]
    split
    · exact DiagnosticsAggregate.count_record _ _ _
    · exact (UInt64.add_zero _).symm

/-! ### What is retained -/

theorem filter_take_drop {numbers : List UInt64} (n : Nat) (distinct : numbers.Nodup) :
    numbers.filter (· ∉ numbers.take n) = numbers.drop n := by
  have apart := List.disjoint_take_drop distinct (Nat.le_refl n)
  have split : ∀ early late : List UInt64, early.Disjoint late →
      (early ++ late).filter (· ∉ early) = late := by
    intro early late apart
    rw [List.filter_append, List.filter_eq_nil_iff.mpr, List.filter_eq_self.mpr, List.nil_append]
    · intro number later
      simpa using fun early => apart early later
    · simp
  have := split _ _ apart
  rwa [List.take_append_drop] at this

/-- The last ones of a list, kept while it grows. -/
theorem drop_concat (numbers : List UInt64) (number : UInt64) (limit : Nat) :
    (numbers.drop (numbers.length - limit) ++ [number]).drop
        ((numbers.drop (numbers.length - limit) ++ [number]).length - limit) =
      (numbers ++ [number]).drop ((numbers ++ [number]).length - limit) := by
  rw [← List.drop_append_of_le_length (Nat.sub_le _ _), List.drop_drop]
  simp only [List.length_drop, List.length_append, List.length_singleton]
  congr 1
  omega

theorem retain_self {id generations}
    (sorted : (generationsOf id (generations.map (·.1))).Pairwise (· < ·)) :
    generationsOf id ((retainRecentGenerations id generations).map (·.1)) =
      (generationsOf id (generations.map (·.1))).drop
        ((generationsOf id (generations.map (·.1))).length - retainedGenerationsPerService) := by
  have ordered : (generationsOf id (generations.map (·.1))).mergeSort (· ≤ ·) =
      generationsOf id (generations.map (·.1)) :=
    List.mergeSort_of_pairwise (sorted.imp fun below => by simpa using UInt64.le_of_lt below)
  simp only [retainRecentGenerations, ordered]
  split
  · rename_i few
    rw [Nat.sub_eq_zero_of_le few, List.drop_zero]
  · rw [← filter_take_drop _ (sorted.imp fun below => UInt64.ne_of_lt below)]
    simp only [generationsOf, List.filter_map, List.filter_filter, List.map_map]
    refine congrArg _ (List.filter_congr fun entry _ => ?_)
    by_cases same : entry.1.1 = id <;> simp [same]

theorem retain_other {id other generations} (different : other ≠ id) :
    generationsOf other ((retainRecentGenerations id generations).map (·.1)) =
      generationsOf other (generations.map (·.1)) := by
  simp only [retainRecentGenerations]
  split
  · rfl
  · simp only [generationsOf, List.filter_map, List.filter_filter, List.map_map]
    refine congrArg _ (List.filter_congr fun entry _ => ?_)
    by_cases same : entry.1.1 = other <;> simp [same, different]

theorem retain_subset {id generations entry}
    (mem : entry ∈ retainRecentGenerations id generations) : entry ∈ generations := by
  simp only [retainRecentGenerations] at mem
  split at mem
  · exact mem
  · exact List.mem_of_mem_filter mem

theorem generationsOf_append (id : ServiceId)
    (keys : List (ServiceId × UInt64)) (key : ServiceId × UInt64) :
    generationsOf id (keys ++ [key]) =
      generationsOf id keys ++ if key.1 = id then [key.2] else [] := by
  by_cases same : key.1 = id <;> simp [generationsOf, same]

/-- The keys of each service are those of its latest generations, and each
points to its generation. -/
structure Retained (store : DiagnosticsStore) : Prop where
  increasing : ∀ id, (generationsOf id store.keys).Pairwise (· < ·)
  latest : ∀ id, generationsOf id (store.generations.map (·.1)) = (generationsOf id store.keys).drop
      ((generationsOf id store.keys).length - retainedGenerationsPerService)
  details : ∀ entry ∈ store.generations, store.keys[entry.2]? = some entry.1

theorem Retained.register {id name gen lane} (h : Retained store)
    (above : Increasing store (.registerGeneration id name gen lane)) :
    Retained (store.registerGeneration id name gen lane) := by
  have grown : (store.registerGeneration id name gen lane).keys = store.keys ++ [(id, gen)] := by
    simp [keys, registerGeneration]
  -- The key is new, so that the insertion replaces nothing.
  have fresh : store.generations.filter (·.1 ≠ (id, gen)) = store.generations := by
    apply List.filter_eq_self.mpr
    intro entry mem
    have known := List.mem_of_getElem? (h.details entry mem)
    refine decide_eq_true fun same => ?_
    rw [same] at known
    have old : gen ∈ generationsOf id store.keys := by
      simp [generationsOf, known]
    exact UInt64.lt_irrefl _ (above gen old)
  have sorted : ∀ other, (generationsOf other (store.keys ++ [(id, gen)])).Pairwise (· < ·) := by
    intro other
    rw [generationsOf_append, List.pairwise_append]
    refine ⟨h.increasing other, ?_, ?_⟩
    · split <;> simp
    · intro number mem last appended
      by_cases same : id = other
      · subst same
        simp only [if_true, List.mem_singleton] at appended
        exact appended ▸ above number mem
      · simp [same] at appended
  refine ⟨?_, ?_, ?_⟩
  · rw [grown]
    exact sorted
  · intro other
    rw [grown]
    simp only [registerGeneration, fresh]
    by_cases same : other = id
    · subst same
      have inserted : generationsOf other ((store.generations ++
          [((other, gen), store.registered.length)]).map (·.1)) =
          (generationsOf other store.keys).drop
            ((generationsOf other store.keys).length - retainedGenerationsPerService) ++ [gen] := by
        simp [generationsOf_append, h.latest]
      have appended := generationsOf_append other store.keys (other, gen)
      rw [if_pos rfl] at appended
      rw [retain_self, inserted, appended]
      · exact drop_concat _ _ _
      · have kept := sorted other
        rw [appended] at kept
        rw [inserted]
        exact kept.sublist ((List.drop_sublist _ _).append_right _)
    · rw [retain_other same]
      simp [generationsOf_append, Ne.symm same, h.latest]
  · intro entry mem
    rw [grown]
    have inserted := retain_subset mem
    rw [fresh] at inserted
    rcases List.mem_append.mp inserted with earlier | last
    · have found := h.details entry earlier
      obtain ⟨bound, -⟩ := List.getElem?_eq_some_iff.mp found
      rw [List.getElem?_append_left bound]
      exact found
    · rw [List.mem_singleton.mp last]
      simp [keys]

theorem run_accounted (run : GuardedRun step Increasing new schedule store) :
    Accounted schedule store ∧ Retained store := by
  induction run with
  | nil =>
    refine ⟨⟨by simp [keys, new], fun _ _ => rfl, ?_, by simp, by simp [new]⟩,
      ⟨fun _ => .nil, by simp [new, keys, generationsOf], by simp [new]⟩⟩
    intro lane counter
    exact DiagnosticsAggregate.count_new counter
  | @snoc _ s next call _ permitted h ih =>
    obtain ⟨accounted, retained⟩ := ih
    cases call with
    | registerGeneration id name gen lane =>
      cases h
      exact ⟨accounted.register, retained.register permitted⟩
    | recordHandle handle event =>
      have same := recordHandle_keys h
      obtain ⟨target, -, rfl⟩ := Option.map_eq_some_iff.mp h
      refine ⟨accounted.recordHandle h, ?_, ?_, ?_⟩
      · rw [same]
        exact retained.increasing
      · rw [same]
        exact retained.latest
      · rw [same]
        exact retained.details
    | recordLaneObservation lane observation =>
      cases h
      exact ⟨accounted.recordLane, retained.increasing, retained.latest, retained.details⟩

end DiagnosticsStore

open DiagnosticsStore in
/-- Along every run that registers the generations of a service with increasing
numbers: each counter of a service is the sum over all generations ever
registered for it, each counter of a lane the sum over those registered in it
with the lane's direct observations, each counter of a generation what was
recorded through its handle, evicted or not, and the details kept for a service
are those of its highest generations, 1024 at most. -/
theorem aggregates_survive_eviction {schedule : List Call} {store : DiagnosticsStore}
    (run : GuardedRun step Increasing .new schedule store) :
    (∀ id service, store.services id = some service → ∀ counter, service.aggregate.count counter =
        sumOver (·.serviceId = id) counter store.registered) ∧
    (∀ lane counter, (store.lanes lane).count counter =
      sumOver (·.runtimeLane = lane) counter store.registered + directCount lane counter schedule) ∧
    (∀ (handle : Nat) (generation : GenerationDiagnostics),
      store.registered[handle]? = some generation → ∀ counter, generation.aggregate.count counter =
          recordedCount handle counter schedule) ∧
    ∀ id,
      let numbers := generationsOf id store.keys
      let kept := generationsOf id (store.generations.map (·.1))
      kept.length = min numbers.length 1024 ∧ kept.Nodup ∧ (∀ number ∈ kept, number ∈ numbers ∧
          ∀ other ∈ numbers, other ∉ kept → other < number) ∧
        ∀ entry ∈ store.generations, store.keys[entry.2]? = some entry.1 := by
  obtain ⟨accounted, retained⟩ := run_accounted run
  refine ⟨?_, accounted.lanes, accounted.recorded, ?_⟩
  · intro id service present counter
    rw [← accounted.services id counter, serviceCount, present]
  · intro id numbers kept
    have sorted : numbers.Pairwise (· < ·) := retained.increasing id
    have latest : kept = numbers.drop (numbers.length - retainedGenerationsPerService) :=
      retained.latest id
    rw [latest]
    refine ⟨?_, ?_, ?_, retained.details⟩
    · rw [List.length_drop, retainedGenerationsPerService]
      omega
    · exact (sorted.imp fun below => UInt64.ne_of_lt below).sublist
        (List.drop_sublist _ _)
    · intro number mem
      refine ⟨List.mem_of_mem_drop mem, ?_⟩
      intro other registered evicted
      -- What is not among the last ones is among those before them.
      rw [← List.take_append_drop
        (numbers.length - retainedGenerationsPerService) numbers] at sorted
      rw [← List.take_append_drop
        (numbers.length - retainedGenerationsPerService) numbers] at registered
      have early := (List.mem_append.mp registered).resolve_right evicted
      exact (List.pairwise_append.mp sorted).2.2 other early number mem

/-! ### A service with more generations than are kept -/

namespace DiagnosticsStore

/-- The number of the generation after `index` others. -/
def numberAt (index : Nat) : UInt64 := UInt64.ofNat (index + 1)

/-- The first generations of one service, in the standard lane. -/
def registrations (count : Nat) : List Call :=
  (List.range count).map fun index =>
    .registerGeneration ⟨0⟩ "worker" (numberAt index) .standard

/-- What the store holds after them. -/
structure OnlyRegistered (count : Nat) (store : DiagnosticsStore) : Prop where
  length : store.registered.length = count
  numbers : generationsOf ⟨0⟩ store.keys = (List.range count).map numberAt
  owned : ∀ gen ∈ store.registered,
    gen.serviceId = ⟨0⟩ ∧ gen.runtimeLane = .standard
  unrecorded : ∀ keep counter, sumOver keep counter store.registered = 0

theorem registrations_run (count : Nat) (fits : count < 2 ^ 64) :
    ∃ store, GuardedRun step Increasing .new (registrations count) store ∧
      OnlyRegistered count store := by
  induction count with
  | zero => exact ⟨.new, .nil, rfl, rfl, nofun, fun _ _ => rfl⟩
  | succ count ih =>
    obtain ⟨store, run, only⟩ := ih (Nat.lt_of_succ_lt fits)
    refine ⟨store.registerGeneration ⟨0⟩ "worker" (numberAt count) .standard, ?_, ?_, ?_, ?_, ?_⟩
    · rw [registrations, List.range_succ, List.map_append]
      refine run.snoc ?_ rfl
      intro number mem
      rw [only.numbers] at mem
      obtain ⟨index, below, rfl⟩ := List.mem_map.mp mem
      rw [List.mem_range] at below
      simp only [numberAt, UInt64.lt_iff_toNat_lt, UInt64.toNat_ofNat']
      omega
    · simp [registerGeneration, only.length]
    · have grown : (store.registerGeneration ⟨0⟩ "worker" (numberAt count)
          .standard).keys = store.keys ++ [(⟨0⟩, numberAt count)] := by
        simp [keys, registerGeneration]
      rw [grown, generationsOf_append, only.numbers, List.range_succ, List.map_append]
      rfl
    · intro gen mem
      rcases List.mem_append.mp mem with earlier | last
      · exact only.owned gen earlier
      · rw [List.mem_singleton.mp last]
        exact ⟨rfl, rfl⟩
    · intro keep counter
      rw [registerGeneration, sumOver_append_new _ rfl]
      exact only.unrecorded keep counter

/-- The first of the generations panics. -/
theorem OnlyRegistered.panics (only : OnlyRegistered count store) (positive : 0 < count) :
    ∃ next, store.recordHandle 0 (.exit .panic) = some next ∧
      generationsOf ⟨0⟩ next.keys = (List.range count).map numberAt ∧
      ∀ counter,
        sumOver (·.serviceId = ⟨0⟩) counter next.registered =
            (DiagnosticsEvent.exit .panic).amount counter ∧
          sumOver (·.runtimeLane = .standard) counter next.registered =
            (DiagnosticsEvent.exit .panic).amount counter := by
  rw [← only.length] at positive
  have found := List.getElem?_eq_getElem positive
  obtain ⟨owner, lane⟩ := only.owned _ (List.getElem_mem positive)
  have panicked : store.recordHandle 0 (.exit .panic) = _ := congrArg (Option.map _) found
  refine ⟨_, panicked, ?_, fun counter => ⟨?_, ?_⟩⟩
  · rw [recordHandle_keys panicked]
    exact only.numbers
  · simp only [recordLane]
    rw [sumOver_modify _ found fun _ _ => rfl, only.unrecorded]
    simp [owner]
  · simp only [recordLane]
    rw [sumOver_modify _ found fun _ _ => rfl, only.unrecorded]
    simp [lane]

theorem directObservations_registrations (lane : RuntimeLane) (count : Nat) (later : List Call) :
    directObservations lane (registrations count ++ later) = directObservations lane later := by
  have none : directObservations lane (registrations count) = [] := by
    simp [directObservations, registrations]
  rw [directObservations, List.filterMap_append]
  exact congrArg (· ++ _) none

/-- The lowest of the numbers is not among the others. -/
theorem numberAt_zero_evicted (fits : count < 2 ^ 64) :
    numberAt 0 ∉ ((List.range count).map numberAt).drop 1 := by
  rw [← List.map_drop, List.mem_map]
  rintro ⟨index, later, same⟩
  have positive : 0 < index ∧ index < count := by
    cases count with
    | zero => simp at later
    | succ count =>
      rw [List.range_succ_eq_map] at later
      obtain ⟨before, below, rfl⟩ := List.mem_map.mp later
      rw [List.mem_range] at below
      omega
  have numbers := congrArg UInt64.toNat same
  simp only [numberAt, UInt64.toNat_ofNat'] at numbers
  omega

end DiagnosticsStore

/-- A sleep of one second that ends another second late. -/
def lateSleep : SleepObservation :=
  { source := .serviceSleep
    reason := .completed
    requested := fromSecs 1
    elapsed := fromSecs 2
    drift := fromSecs 1 }

open DiagnosticsStore in
/-- The first of 1025 generations is evicted, and then it panics; the lane
observes a late sleep of its own. -/
theorem aggregates_survive_eviction_panic :
    ∃ store, GuardedRun step Increasing .new
        (registrations 1025 ++ [.recordHandle 0 (.exit .panic),
            .recordLaneObservation .standard lateSleep]) store ∧
      (generationsOf ⟨0⟩ store.keys).length = 1025 ∧
      (generationsOf ⟨0⟩ (store.generations.map (·.1))).length = 1024 ∧
      numberAt 0 ∉ generationsOf ⟨0⟩ (store.generations.map (·.1)) ∧
      (∃ service, store.services ⟨0⟩ = some service ∧
        service.aggregate.count (.lifecycle (.exit .panic)) = 1) ∧
      (store.lanes .standard).count (.lifecycle (.exit .panic)) = 1 ∧
      (store.lanes .standard).count (.observation .serviceSleep .totalDrift) = 1000000000 := by
  obtain ⟨before, registered, only⟩ := registrations_run 1025 (by decide)
  obtain ⟨panicked, recorded, numbers, sums⟩ := only.panics (by decide)
  let store := panicked.recordLane .standard (.sleepObservation lateSleep)
  have run : GuardedRun step Increasing .new
      (registrations 1025 ++ [.recordHandle 0 (.exit .panic)] ++
        [.recordLaneObservation .standard lateSleep]) store := by
    refine .snoc (.snoc registered ?_ recorded) ?_ rfl
    · exact True.intro
    · exact True.intro
  rw [List.append_assoc, List.singleton_append] at run
  replace numbers : generationsOf ⟨0⟩ store.keys = (List.range 1025).map numberAt := numbers
  have first : numberAt 0 ∈ generationsOf ⟨0⟩ store.keys := by
    rw [numbers]
    exact List.mem_map_of_mem (List.mem_range.mpr (by decide))
  have known : (store.services ⟨0⟩).isSome := by
    obtain ⟨key, mem, -⟩ := List.mem_map.mp first
    obtain ⟨listed, owner⟩ := List.mem_filter.mp mem
    rw [← of_decide_eq_true owner]
    exact (run_accounted run).1.known key listed
  have latest := (run_accounted run).2.latest ⟨0⟩
  rw [numbers] at latest
  obtain ⟨services, lanes, -, retained⟩ := aggregates_survive_eviction run
  obtain ⟨length, -⟩ := retained ⟨0⟩
  refine ⟨store, run, ?_, ?_, ?_, ?_, ?_, ?_⟩
  · rw [numbers, List.length_map, List.length_range]
  · rw [length, numbers, List.length_map, List.length_range]
    rfl
  · rw [latest, List.length_map, List.length_range]
    exact numberAt_zero_evicted (by decide)
  · obtain ⟨service, present⟩ := Option.isSome_iff_exists.mp known
    refine ⟨service, present, ?_⟩
    rw [services _ _ present]
    exact (sums _).1
  · rw [lanes, directCount, directObservations_registrations]
    show sumOver _ _ panicked.registered + _ = _
    rw [(sums _).2]
    decide
  · rw [lanes, directCount, directObservations_registrations]
    show sumOver _ _ panicked.registered + _ = _
    rw [(sums _).2]
    decide

end ServiceDaemon
