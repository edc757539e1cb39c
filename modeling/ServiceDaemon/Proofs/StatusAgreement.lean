/-
Purpose: When the public queries of a status agree.  A service has an entry in
  the status plane from the first write of its supervisor, of the startup that
  refuses it or of the shutdown; the queries agree from then on, and before it
  they do not.
Main exports: LifecycleState.Announced, EntryHistory, EntryHistory.step,
  queries_agree_iff
-/
import ServiceDaemon.Core.RuntimeQueries
import ServiceDaemon.Proofs.GenerationFence

namespace ServiceDaemon

open AsyncLib StepSystem

/-! ### The first write of the supervisor -/

/-- In one of the awaits of the supervisor. -/
def SupervisorPoint.awaits : SupervisorPoint → Bool
  | .running .. | .reloading _ | .waiting .. => true
  | _ => false

namespace SupervisorState

variable {config : SupervisorConfig} {s next : SupervisorState}
  {a : SupervisorAction}

/-- A supervisor that has written no status is at its start, or is about to
write one and awaits nothing before. -/
def BeforeFirst (s : SupervisorState) : Prop :=
  s.planeWritten = none → (s.pending = [] ∧ (s.point = .starting ∨ s.point = .prepare)) ∨
      ((∃ write ∈ s.pending, write.inserts ≠ none) ∧ s.point.awaits = false)

namespace BeforeFirst

theorem idle (before : s.BeforeFirst) (unwritten : s.planeWritten = none) (idle : s.pending = []) :
    s.point = .starting ∨ s.point = .prepare := by
  rcases before unwritten with ⟨_, point⟩ | ⟨⟨write, mem, _⟩, _⟩
  · exact point
  · rw [idle] at mem
    cases mem

theorem not_awaits (before : s.BeforeFirst)
    (unwritten : s.planeWritten = none) : s.point.awaits = false := by
  rcases before unwritten with ⟨_, here | here⟩ | ⟨_, resting⟩
  · rw [here]
    rfl
  · rw [here]
    rfl
  · exact resting

theorem step (before : s.BeforeFirst) (moved : Supervisor.step config s a = some next) :
    next.BeforeFirst := by
  intro unwritten
  have move := SupervisorMove.of_step moved
  cases move with
  | @performs write writes pending =>
    have written : write.inserts.or s.planeWritten = none :=
      (perform_planeWritten s write).symm.trans unwritten
    obtain ⟨quiet, unwritten⟩ := Option.or_eq_none_iff.mp written
    rcases before unwritten with ⟨none, _⟩ | ⟨⟨insert, mem, inserts⟩, stays⟩
    · cases none.symm.trans pending
    · refine .inr ⟨⟨insert, ?_, inserts⟩, ?_⟩
      · rw [pending] at mem
        rcases List.mem_cons.mp mem with rfl | later
        · exact absurd quiet inserts
        · exact later
      · exact (congrArg SupervisorPoint.awaits (perform_point s write)).trans stays
  | stops _ _ _ =>
    refine .inr ⟨⟨.insertStatus .terminated, ?_, Option.some_ne_none _⟩, rfl⟩
    simp [terminate, terminateWrites, announceStatus]
  | starts idle _ _ => exact .inl ⟨idle, .inr rfl⟩
  | prepares _ _ =>
    refine .inr ⟨⟨.insertStatus s.determineStartStatus, ?_, Option.some_ne_none _⟩, ?_⟩
    · simp [prepare]
    · simp only [prepare]
      split <;> rfl
  | entersWithout idle here _ | enters idle here _ | checksCancelled idle here _
  | checksWithout idle here _ _ | checks idle here _ | classifies idle here
  | resets idle here _ | skipsReset idle here | decides idle here
  | delays idle here | restartsNow idle here | waits idle here
  | takesResult idle here | takesReloadResult idle here
  | takesDependency idle here _ | takesReload idle here _ | elapses idle here _
  | reloadsWait idle here _ | stopsWait idle here _ =>
    have point := before.idle unwritten idle
    rw [here] at point
    rcases point with point | point <;> cases point
  | runs here _ | runsReloading here _ =>
    have resting := before.not_awaits unwritten
    rw [here] at resting
    cases resting
  | changes _ =>
    rcases before unwritten with ⟨idle, here | here⟩ | ⟨inserts, resting⟩
    · exact .inl ⟨idle, .inl (congrArg SupervisorPoint.noteChange here)⟩
    · exact .inl ⟨idle, .inr (congrArg SupervisorPoint.noteChange here)⟩
    · refine .inr ⟨inserts, ?_⟩
      have blind := SupervisorPoint.noteChange_congr SupervisorPoint.awaits (fun _ _ => rfl) s.point
      exact blind.trans resting
  | ticks | cancels | cancelsDaemon | triggersReload | writesStatus
  | recordsStatus => exact before unwritten

end BeforeFirst

/-- What the supervisor inserts, it has written. -/
theorem inserted_step (foreign : ∀ status, a ≠ .writeStatus status)
    (moved : Supervisor.step config s a = some next) :
    ∃ inserted : Option ServiceStatus,
      next.statusPlane = inserted.or s.statusPlane ∧
        next.planeWritten = inserted.or s.planeWritten := by
  have move := SupervisorMove.of_step moved
  cases move with
  | @performs write writes _ =>
    exact ⟨write.inserts, perform_statusPlane s write, perform_planeWritten s write⟩
  | writesStatus => exact absurd rfl (foreign _)
  | _ => exact ⟨none, rfl, rfl⟩

end SupervisorState

/-! ### The entry of a service -/

/-- Somebody has announced a status of the service: the startup that refuses it,
its supervisor, or the shutdown. -/
def LifecycleState.Announced (s : LifecycleState) : Prop :=
  s.startup = .refused ∨ s.supervisor.planeWritten.isSome = true ∨ s.stop.announced = true

/-- Where the entry comes from. -/
structure EntryHistory (s : LifecycleState) : Prop where
  first : s.supervisor.BeforeFirst
  tasks : s.tasks ≠ [] → s.supervisor.planeWritten.isSome = true
  entry : s.entry.isSome = true ↔ s.Announced

namespace EntryHistory

variable {config : LifecycleConfig} {s next : LifecycleState}

theorem new (now : Instant) : EntryHistory (LifecycleState.new config now) := by
  refine ⟨fun _ => .inl ⟨rfl, .inl rfl⟩, fun some => absurd rfl some, ?_⟩
  constructor
  · intro present
    cases present
  · rintro (refused | written | announced)
    · cases refused
    · cases written
    · cases announced

theorem supervises (history : EntryHistory s)
    (permitted : s.permits a = true)
    (moved : Supervisor.step config.supervisor s.supervisor a =
      some after) : EntryHistory (s.note a after) := by
  have foreign : ∀ status, a ≠ .writeStatus status := by
    rintro status rfl
    cases permitted
  obtain ⟨inserted, plane, written⟩ := SupervisorState.inserted_step foreign moved
  refine ⟨history.first.step moved, ?_, ?_⟩
  · intro some
    have before := history.tasks some
    change after.planeWritten.isSome = true
    rw [written, Option.isSome_or, before, Bool.or_true]
  · change after.statusPlane.isSome = true ↔
      s.startup = .refused ∨ after.planeWritten.isSome = true ∨ s.stop.announced = true
    rw [plane, written]
    cases inserted with
    | none => exact history.entry
    | some status => exact ⟨fun _ => .inr (.inl rfl), fun _ => rfl⟩

theorem announced_of_task (history : EntryHistory s) {index : Nat}
    {task : LifecycleTask} (found : s.tasks[index]? = some task) :
    s.supervisor.planeWritten.isSome = true :=
  history.tasks (List.ne_nil_of_mem (List.mem_of_getElem? found))

/-- What changes neither the entry nor its sources. -/
theorem keeps (history : EntryHistory s) (plane : next.entry = s.entry)
    (written : next.supervisor.planeWritten = s.supervisor.planeWritten)
    (pending : next.supervisor.pending = s.supervisor.pending)
    (point : next.supervisor.point = s.supervisor.point)
    (refused : next.startup = .refused ↔ s.startup = .refused)
    (announced : next.stop.announced = s.stop.announced)
    (tasks : next.tasks ≠ [] → s.supervisor.planeWritten.isSome = true) : EntryHistory next := by
  refine ⟨?_, ?_, ?_⟩
  · unfold SupervisorState.BeforeFirst
    rw [written, pending, point]
    exact history.first
  · rw [written]
    exact tasks
  · unfold LifecycleState.Announced
    rw [plane, written, refused, announced]
    exact history.entry

theorem step (history : EntryHistory s) {a : LifecycleAction}
    (h : Lifecycle.step config s a = some next) : EntryHistory next := by
  have move := LifecycleMove.of_step h
  cases move with
  | supervises permitted moved => exact history.supervises permitted moved
  | spawns unstarted =>
    refine history.keeps rfl rfl rfl rfl ?_ rfl history.tasks
    simp [unstarted]
  | insertsHandle spawned =>
    refine history.keeps rfl rfl rfl rfl ?_ rfl history.tasks
    simp [spawned]
  | refuses unstarted => exact ⟨history.first, history.tasks, fun _ => .inl rfl, fun _ => rfl⟩
  | drops _ => exact history.keeps rfl rfl rfl rfl Iff.rfl rfl history.tasks
  | startsBody _ running =>
    refine history.keeps rfl rfl rfl rfl Iff.rfl rfl ?_
    -- The body runs in an await, so the supervisor has written its start.
    intro _
    cases written : s.supervisor.planeWritten with
    | some status => rfl
    | none =>
      have resting := history.first.not_awaits written
      cases point : s.supervisor.point with
      | running _ _ | reloading _ =>
        rw [point] at resting
        cases resting
      | _ =>
        rw [point] at running
        cases running
  | spawnsTask found =>
    exact history.keeps rfl rfl rfl rfl Iff.rfl rfl
      fun _ => history.announced_of_task found
  | decides found _ _ =>
    exact history.keeps rfl rfl rfl rfl Iff.rfl rfl
      fun _ => history.announced_of_task found
  | inserts found _ =>
    have written := history.announced_of_task found
    exact ⟨history.first, fun _ => written, fun _ => .inr (.inl written), fun _ => rfl⟩
  | proceeds _ found _ _ _ _ =>
    exact history.keeps rfl rfl rfl rfl Iff.rfl rfl
      fun _ => history.announced_of_task found
  | signals here =>
    refine history.keeps rfl rfl rfl rfl Iff.rfl ?_ history.tasks
    rw [here]
    rfl
  | announces _ => exact ⟨history.first, history.tasks, fun _ => .inr (.inr rfl), fun _ => rfl⟩
  | terminates _ => exact ⟨history.first, history.tasks, fun _ => .inr (.inr rfl), fun _ => rfl⟩
  | stops _ begun _ stays _ =>
    exact history.keeps rfl rfl rfl rfl Iff.rfl (stays.trans begun.symm) history.tasks

end EntryHistory

/-! ### The services of a daemon -/

namespace Fleet

variable {fleet next : Fleet} {index : Nat} {mem : FleetMember}

theorem step_cases (h : fleet.step a = some next) :
    ∃ (mem : FleetMember) (after : LifecycleState),
      fleet.members[a.1]? = some mem ∧ Lifecycle.step mem.config mem.state a.2 = some after ∧
        next.members = fleet.members.set a.1 { mem with state := after } := by
  unfold step at h
  split at h
  · rename_i mem here
    obtain ⟨after, moved, rfl⟩ := Option.map_eq_some_iff.mp h
    exact ⟨mem, after, here, moved, rfl⟩
  · cases h

theorem eq_of_id (mine : mem ∈ fleet.members)
    (theirs : other ∈ fleet.members) (same : other.id = mem.id) :
    other = mem :=
  List.inj_on_of_nodup_map fleet.distinct theirs mine same

theorem find_id (mine : mem ∈ fleet.members) : fleet.find mem.id = some mem := by
  cases found : fleet.find mem.id with
  | none =>
    have missing := List.find?_eq_none.mp found mem mine
    simp at missing
  | some other =>
    have same : other.id = mem.id := by
      simpa using List.find?_some found
    rw [eq_of_id mine (List.mem_of_find?_eq_some found) same]

theorem statusPlane_id (mine : mem ∈ fleet.members) :
    fleet.statusPlane mem.id = mem.state.entry := by
  rw [statusPlane, find_id mine]
  rfl

/-- The readiness lists the service in this group. -/
def Listed (fleet : Fleet) (now : Instant) (id : ServiceId) (group : ReadinessGroup) : Prop :=
  ∃ svc ∈ (fleet.runtimeReadiness now).group group, svc.serviceId = id

/-- The readiness lists a service in the group of the status that the snapshots
show. -/
theorem listed_iff (mine : mem ∈ fleet.members) (now : Instant) (group : ReadinessGroup) :
    fleet.Listed now mem.id group ↔ group = (fleet.statusForSnapshot mem.id).group := by
  unfold Listed runtimeReadiness
  rw [readinessFromServices_group]
  simp only [runtimeServices, List.mem_filter, List.mem_insertionSort,
    List.mem_map, decide_eq_true_eq]
  constructor
  · rintro ⟨_, ⟨⟨other, theirs, rfl⟩, grouped⟩, same⟩
    have same : other.id = mem.id := same
    rw [eq_of_id mine theirs same] at grouped
    exact grouped.symm
  · rintro rfl
    exact ⟨_, ⟨⟨mem, mine, rfl⟩, rfl⟩, rfl⟩

/-- The three queries agree on a service. -/
def QueriesAgree (fleet : Fleet) (id : ServiceId) : Prop :=
  ∃ snapshot, fleet.runtimeService id = some snapshot ∧
    snapshot.status = fleet.getServiceStatus id ∧
    ∀ (now : Instant) (group : ReadinessGroup),
      fleet.Listed now id group ↔ group = (fleet.getServiceStatus id).group

theorem queriesAgree_iff_entry (mine : mem ∈ fleet.members) :
    fleet.QueriesAgree mem.id ↔ mem.state.entry.isSome = true := by
  have service : fleet.runtimeService mem.id =
      some (mem.snapshot (fleet.statusForSnapshot mem.id)) := by
    rw [runtimeService, find_id mine]
    rfl
  constructor
  · rintro ⟨snapshot, found, agrees, -⟩
    cases service.symm.trans found
    have agrees : fleet.statusForSnapshot mem.id = fleet.getServiceStatus mem.id := agrees
    rw [statusForSnapshot, getServiceStatus, statusPlane_id mine] at agrees
    cases entry : mem.state.entry with
    | some status => rfl
    | none =>
      rw [entry] at agrees
      cases agrees
  · intro present
    obtain ⟨status, entry⟩ := Option.isSome_iff_exists.mp present
    have agrees : fleet.statusForSnapshot mem.id = fleet.getServiceStatus mem.id := by
      rw [statusForSnapshot, getServiceStatus, statusPlane_id mine, entry]
      rfl
    refine ⟨_, service, agrees, ?_⟩
    intro now group
    rw [listed_iff mine, agrees]

/-- Every service knows where its entry comes from. -/
def Historied (fleet : Fleet) : Prop :=
  ∀ (index : Nat) (mem : FleetMember),
    fleet.members[index]? = some mem → EntryHistory mem.state

/-- Before the startup. -/
def Fresh (fleet : Fleet) : Prop :=
  ∀ mem ∈ fleet.members,
    ∃ now, mem.state = LifecycleState.new mem.config now

theorem Historied.of_fresh (fresh : fleet.Fresh) : fleet.Historied := by
  intro index mem here
  obtain ⟨now, initial⟩ := fresh mem (List.mem_of_getElem? here)
  rw [initial]
  exact .new now

theorem Historied.step (historied : fleet.Historied) (h : fleet.step a = some next) :
    next.Historied := by
  obtain ⟨mem, after, here, moved, members⟩ := step_cases h
  intro other moving there
  rw [members] at there
  rcases Threads.set_cases there with ⟨rfl, rfl⟩ | ⟨_, there⟩
  · exact (historied _ mem here).step moved
  · exact historied other moving there

end Fleet

/-- In every state of every daemon, the three queries agree on a registered
service exactly if somebody has announced a status of it.  Before that,
`get_service_status` says `Terminated` and the other two say `Initializing`. -/
theorem queries_agree_iff {start fleet : Fleet} (fresh : start.Fresh)
    {schedule : List (Nat × LifecycleAction)} (run : Run Fleet.step start schedule fleet)
    {index : Nat} {member : FleetMember} (here : fleet.members[index]? = some member) :
    fleet.QueriesAgree member.id ↔ member.state.Announced := by
  have historied : fleet.Historied :=
    run.invariant (.of_fresh fresh) fun historied _ stepped =>
      historied.step stepped
  rw [Fleet.queriesAgree_iff_entry (List.mem_of_getElem? here)]
  exact (historied index member here).entry

/-- Two services of different priorities, before the startup. -/
def twoServices : Fleet :=
  let config : LifecycleConfig :=
    { supervisor :=
        { name := "worker"
          scheduling := .standard
          highPriority := false
          watched := false
          policy := .default }
      gracePeriod := fromSecs 30 }
  { members :=
      [.new ⟨⟨1⟩, "first", 100, .standard⟩ config 0,
        .new ⟨⟨2⟩, "second", 50, .standard⟩ config 0]
    distinct := by decide }

theorem twoServices_fresh : twoServices.Fresh := by
  intro member mem
  refine ⟨0, ?_⟩
  rcases List.mem_cons.mp mem with rfl | mem
  · rfl
  · rw [List.mem_singleton.mp mem]
    rfl

/-- The supervisor of the first service prepares its first generation. -/
def firstStarts : List (Nat × LifecycleAction) :=
  [(0, .spawnSupervisor), (0, .insertHandle), (0, .supervisor .advance),
    (0, .supervisor .advance), (0, .supervisor .perform),
    (0, .supervisor .perform), (0, .supervisor .perform)]

/-- Once the supervisor of the first service has announced it, the queries agree
on it. -/
theorem queries_agree_iff_started :
    ∃ fleet : Fleet,
      (twoServices.Fresh ∧ Run Fleet.step twoServices firstStarts fleet) ∧
      fleet.QueriesAgree ⟨1⟩ := by
  obtain ⟨fleet, run, started⟩ :
      ∃ fleet : Fleet, Run Fleet.step twoServices firstStarts fleet ∧
        (fleet.members[0]?.map fun member =>
          (member.id, member.state.supervisor.planeWritten.isSome)) = some (⟨1⟩, true) :=
    Run.exists_of_check (by decide +kernel)
  obtain ⟨member, here, same⟩ := Option.map_eq_some_iff.mp started
  have mine : member.id = ⟨1⟩ := congrArg Prod.fst same
  refine ⟨fleet, ⟨twoServices_fresh, run⟩, ?_⟩
  rw [← mine]
  exact (queries_agree_iff twoServices_fresh run here).mpr
    (.inr (.inl (congrArg Prod.snd same)))

/-- Between the waves: the second service is terminated for one query and
initialising for the other two. -/
theorem queries_disagree_between_waves :
    ∃ fleet : Fleet, Run Fleet.step twoServices firstStarts fleet ∧
      fleet.getServiceStatus ⟨2⟩ = .terminated ∧
      (fleet.runtimeService ⟨2⟩).map (fun service => service.status) = some .initializing ∧
      ((fleet.runtimeReadiness 0).terminated = [] ∧ (fleet.runtimeReadiness 0).initializing.map
          (fun service => service.serviceId) = [⟨1⟩, ⟨2⟩]) :=
  Run.exists_of_check (by decide +kernel)

end ServiceDaemon
