/-
Purpose: When snapshot and lock are initialised in turn, one initialisation of a
  slot succeeds and every caller sees its value.  When they are not, two
  initialisations complete and the callers see different values.
Main exports: CellsOwned, InTurn, SingleInit, slot_initialised_once
-/
import ServiceDaemon.Core.StateManager

namespace ServiceDaemon

open AsyncLib StepSystem StateManager

variable {Arc Error : Type} {m next : StateManager Arc Error}
  {a : ManagerAction Arc Error}

/-! ### Who initialises a cell -/

/-- The call is the initialiser of the lock and has looked at the snapshot
cache. -/
def ResolvePoint.hasLooked : ResolvePoint Arc Error → Bool
  | .lockInit | .lockNotify _ | .lockChannel _ | .setLock => true
  | _ => false

/-- The call at this point owns the cell that it initialises, and an
initialiser of the lock makes the channel. -/
def ResolvePoint.Owns (m : StateManager Arc Error) (c : Nat) :
    ResolvePoint Arc Error → Prop
  | .awaitInit | .setCache _ => m.snapshotCache = .initialising c
  | .lockSeed | .lockInit | .lockNotify _ | .lockChannel _ =>
    m.lock = .initialising c ∧ m.tracked = none
  | .setLock =>
    m.lock = .initialising c ∧ m.tracked ≠ none
  | .checkWatch | .checkCache | .enterCache | .enterLock | .returned _ => True

/-- Every initialiser owns its cell, so it is the only one. -/
structure CellsOwned (m : StateManager Arc Error) : Prop where
  points : ∀ (c : Nat) (call : ResolveCall Arc Error),
    m.calls[c]? = some call → call.point.Owns m c
  unlocked : m.lock = .empty → m.tracked = none

namespace CellsOwned

variable {c : Nat} {call : ResolveCall Arc Error}

theorem new : CellsOwned (new : StateManager Arc Error) := by
  refine ⟨?_, fun _ => rfl⟩
  intro c call here
  cases here

theorem withArc (arc : Arc) : CellsOwned (withArc arc : StateManager Arc Error) := by
  refine ⟨?_, fun _ => rfl⟩
  intro c call here
  cases here

/-- The call that owns the lock is the only one that has looked. -/
theorem unlooked (owned : CellsOwned m) (owner : m.lock = .initialising c) (other : Nat)
    (apart : other ≠ c) (moved : ResolveCall Arc Error) (there : m.calls[other]? = some moved) :
    moved.point.hasLooked = false := by
  have owns := owned.points other moved there
  cases point : moved.point with
  | lockInit | lockNotify _ | lockChannel _ | setLock =>
    rw [point] at owns
    cases owner.symm.trans owns.1
    exact absurd rfl apart
  | _ => rfl

/-- One call moves, and changes a cell only if no other call initialises it. -/
theorem of_move (owned : CellsOwned m) (c : Nat) (call : ResolveCall Arc Error)
    (point : ResolvePoint Arc Error) (calls : next.calls = (m.setPoint c call point).calls)
    (owns : point.Owns next c)
    (fillers : next.snapshotCache = m.snapshotCache ∨
      ∀ other ≠ c, m.snapshotCache ≠ .initialising other)
    (lockers : (next.lock = m.lock ∧ next.tracked = m.tracked) ∨
      ∀ other ≠ c, m.lock ≠ .initialising other)
    (unlocked : next.lock = .empty → next.tracked = none) : CellsOwned next := by
  refine ⟨?_, unlocked⟩
  intro other moved there
  rw [calls] at there
  rcases Threads.set_cases there with ⟨rfl, rfl⟩ | ⟨apart, there⟩
  · exact owns
  have before := owned.points other moved there
  cases stands : moved.point with
  | checkWatch | checkCache | enterCache | enterLock | returned _ => trivial
  | awaitInit | setCache _ =>
    rw [stands] at before
    rcases fillers with same | none
    · exact same.trans before
    · exact absurd before (none other apart)
  | lockSeed | lockInit | lockNotify _ | lockChannel _ | setLock =>
    rw [stands] at before
    rcases lockers with ⟨same, tracked⟩ | none
    · refine ⟨same.trans before.1, ?_⟩
      rw [tracked]
      exact before.2
    · exact absurd before.1 (none other apart)

theorem moves (owned : CellsOwned m) {point} (owns : point.Owns (m.setPoint c call point) c) :
    CellsOwned (m.setPoint c call point) :=
  owned.of_move c call point rfl owns (.inl rfl) (.inl ⟨rfl, rfl⟩) owned.unlocked

theorem alone {Value : Type} {cell : OnceCell Value} (owner : cell = .initialising c) :
    ∀ other ≠ c, cell ≠ .initialising other := by
  intro other apart also
  cases owner.symm.trans also
  exact apart rfl

/-- Once a write guard can exist, the lock has no initialiser any more. -/
theorem guards (owned : CellsOwned m) (opened : m.lock = .set ())
    (after : TrackedRwLock Arc) (effect : GuardEffect) :
    CellsOwned (m.applyEffect after effect) := by
  refine ⟨?_, ?_⟩
  · intro other moved there
    rw [applyEffect_calls] at there
    have before := owned.points other moved there
    cases point : moved.point with
    | checkWatch | checkCache | enterCache | enterLock | returned _ => trivial
    | awaitInit | setCache _ =>
      rw [point] at before
      exact (applyEffect_snapshotCache _ _ _).trans before
    | lockSeed | lockInit | lockNotify _ | lockChannel _ | setLock =>
      rw [point] at before
      cases opened.symm.trans before.1
  · intro free
    rw [applyEffect_lock, opened] at free
    cases free

theorem step (owned : CellsOwned m) (h : m.step a = some next) : CellsOwned next := by
  have move := ManagerMove.of_step h
  cases move with
  | begins =>
    rename_i kind
    refine ⟨?_, owned.unlocked⟩
    intro other moved there
    rcases Threads.concat_cases there with there | ⟨_, rfl⟩
    · exact owned.points other moved there
    · cases kind <;> trivial
  | watchFound _ _ _ => exact owned.moves trivial
  | watchMissing _ _ _ => exact owned.moves trivial
  | cacheFound _ _ _ => exact owned.moves trivial
  | cacheMissing _ _ _ => exact owned.moves trivial
  | lockFound _ _ _ => exact owned.moves trivial
  | cacheTaken _ _ free =>
    refine owned.of_move _ _ .awaitInit rfl rfl (.inr ?_) (.inl ⟨rfl, rfl⟩) owned.unlocked
    intro other _ busy
    cases free.symm.trans busy
  | cacheInitialised here point =>
    have owns := owned.points _ _ here
    rw [point] at owns
    exact owned.of_move _ _ (.setCache _) rfl owns (.inl rfl) (.inl ⟨rfl, rfl⟩) owned.unlocked
  | cacheFailed here point =>
    have owns := owned.points _ _ here
    rw [point] at owns
    exact owned.of_move _ _ (.returned _) rfl trivial (.inr (alone owns))
      (.inl ⟨rfl, rfl⟩) owned.unlocked
  | cacheSet here point =>
    have owns := owned.points _ _ here
    rw [point] at owns
    exact owned.of_move _ _ (.returned _) rfl trivial (.inr (alone owns))
      (.inl ⟨rfl, rfl⟩) owned.unlocked
  | lockTaken _ _ free =>
    refine owned.of_move _ _ .lockSeed rfl ⟨rfl, owned.unlocked free⟩
      (.inl rfl) (.inr ?_) (fun _ => owned.unlocked free)
    intro other _ owner
    cases free.symm.trans owner
  | lockSeeded here point _ =>
    have owns := owned.points _ _ here
    rw [point] at owns
    exact owned.moves owns
  | lockUnseeded here point _ =>
    have owns := owned.points _ _ here
    rw [point] at owns
    exact owned.moves owns
  | lockInitialised here point =>
    have owns := owned.points _ _ here
    rw [point] at owns
    exact owned.of_move _ _ (.lockNotify _) rfl owns (.inl rfl) (.inl ⟨rfl, rfl⟩) owned.unlocked
  | lockFailed here point =>
    have owns := owned.points _ _ here
    rw [point] at owns
    exact owned.of_move _ _ (.returned _) rfl trivial (.inl rfl)
      (.inr (alone owns.1)) (fun _ => owns.2)
  | lockNotified here point =>
    have owns := owned.points _ _ here
    rw [point] at owns
    exact owned.moves owns
  | channelMade here point =>
    have owns := owned.points _ _ here
    rw [point] at owns
    refine owned.of_move _ _ .setLock rfl
      ⟨owns.1, Option.some_ne_none _⟩ (.inl rfl) (.inr (alone owns.1)) ?_
    intro free
    cases owns.1.symm.trans free
  | lockSet here point =>
    have owns := owned.points _ _ here
    rw [point] at owns
    refine owned.of_move _ _ (.returned _) rfl trivial (.inl rfl) (.inr (alone owns.1)) ?_
    intro free
    cases free
  | watches | polls _ _ | arms _ | leaves _ _ => exact ⟨owned.points, owned.unlocked⟩
  | guards opened _ _ => exact owned.guards opened _ _

end CellsOwned

/-! ### Initialisations in turn -/

/-- No lock has been made, and no initialiser of it has looked at the snapshot
cache. -/
def StateManager.lockAhead (m : StateManager Arc Error) : Bool :=
  m.tracked.isNone &&
    m.calls.all fun call => !call.point.hasLooked

/-- A snapshot call is initialising the cache. -/
def StateManager.cacheBusy (m : StateManager Arc Error) : Bool :=
  match m.snapshotCache with
  | .initialising _ => true
  | .empty | .set _ => false

/-- The two paths initialise in turn: the initialiser of the lock looks at the
cache while no snapshot call initialises it, and a snapshot call starts to
initialise the cache before any initialiser of the lock has looked. -/
def StateManager.inTurn (m : StateManager Arc Error) :
    ManagerAction Arc Error → Bool
  | .advance c =>
    match m.calls[c]?.map ResolveCall.point with
    | some .lockSeed => !m.cacheBusy
    | some .enterCache =>
      m.snapshotCache.get.isSome || m.lockAhead
    | _ => true
  | _ => true

/-- The discipline of the runs below. -/
def InTurn (m : StateManager Arc Error) (a : ManagerAction Arc Error) : Prop :=
  m.inTurn a = true

instance (m : StateManager Arc Error)
    (a : ManagerAction Arc Error) : Decidable (InTurn m a) :=
  inferInstanceAs (Decidable (m.inTurn a = true))

theorem StateManager.lockAhead_iff :
    m.lockAhead = true ↔ m.tracked = none ∧ ∀ (c : Nat) (call : ResolveCall Arc Error),
        m.calls[c]? = some call → call.point.hasLooked = false := by
  simp only [lockAhead, Bool.and_eq_true, Option.isNone_iff_eq_none,
    List.all_eq_true, Bool.not_eq_true']
  refine and_congr_right fun _ => ⟨?_, ?_⟩
  · intro unlooked c call here
    exact unlooked call (List.mem_of_getElem? here)
  · intro unlooked call mem
    obtain ⟨c, here⟩ := List.getElem?_of_mem mem
    exact unlooked c call here

/-! ### The invariant -/

/-- What the initialisations have returned while a call is at a point. -/
def ResolvePoint.Sound (m : StateManager Arc Error) :
    ResolvePoint Arc Error → Prop
  | .awaitInit => m.tracked = none ∧ m.completed = []
  | .setCache arc => m.tracked = none ∧ m.completed = [arc]
  | .lockInit => m.snapshotCache = .empty ∧ m.completed = []
  | .lockNotify arc | .lockChannel arc =>
    m.cacheBusy = false ∧ m.completed = [arc]
  | .returned (.ok (.snapshot arc)) =>
    m.published = false → m.completed = [arc]
  | .checkWatch | .checkCache | .enterCache | .enterLock | .lockSeed
  | .setLock | .returned _ => True

/-- One initialisation at most, and everything that callers see comes from
it. -/
structure SingleInit (m : StateManager Arc Error) : Prop where
  atMostOne : m.completed.length ≤ 1
  points : ∀ (c : Nat) (call : ResolveCall Arc Error),
    m.calls[c]? = some call → call.point.Sound m
  cached : ∀ arc, m.snapshotCache = .set arc → m.completed = [arc]
  tracked : ∀ tracked, m.tracked = some tracked → m.cacheBusy = false ∧
      ∃ arc, m.seed = some arc ∧ m.completed = [arc] ∧ (m.published = false → tracked.watchTx = arc)
  seeded : m.seed.isSome = m.tracked.isSome
  fresh : m.snapshotCache = .empty → m.lockAhead = true → m.completed = []

namespace SingleInit

theorem new : SingleInit (new : StateManager Arc Error) := by
  refine ⟨Nat.zero_le 1, ?_, ?_, ?_, rfl, fun _ _ => rfl⟩
  · intro c call here
    cases here
  · intro arc set
    cases set
  · intro tracked found
    cases found

variable {c : Nat} {call : ResolveCall Arc Error}
  {point : ResolvePoint Arc Error}

/-- What holds at the points of the calls after one of them has moved: its own
new fact, and of the others each fact whose fields it has left alone. -/
theorem points_of_move (single : SingleInit m) (owned : CellsOwned m) (c : Nat)
    (call : ResolveCall Arc Error) (point : ResolvePoint Arc Error)
    (calls : next.calls = (m.setPoint c call point).calls)
    (published : next.published = m.published) (sound : point.Sound next)
    (fillers : (next.tracked = m.tracked ∧ next.completed = m.completed) ∨
      ∀ other ≠ c, m.snapshotCache ≠ .initialising other)
    (lookers : (next.snapshotCache = m.snapshotCache ∧ next.completed = m.completed) ∨
      ∀ other ≠ c, ∀ moved, m.calls[other]? = some moved →
        moved.point.hasLooked = false) (readers : next.completed = m.completed ∨ m.completed = []) :
    ∀ (other : Nat) (moved : ResolveCall Arc Error),
      next.calls[other]? = some moved → moved.point.Sound next := by
  intro other moved there
  rw [calls] at there
  rcases Threads.set_cases there with ⟨rfl, rfl⟩ | ⟨apart, there⟩
  · exact sound
  have before := single.points other moved there
  have owns := owned.points other moved there
  cases stands : moved.point with
  | checkWatch | checkCache | enterCache | enterLock | lockSeed | setLock => trivial
  | awaitInit | setCache _ =>
    rw [stands] at before owns
    rcases fillers with ⟨tracked, completed⟩ | none
    · simpa only [ResolvePoint.Sound, tracked, completed] using before
    · exact absurd owns (none other apart)
  | lockInit | lockNotify _ | lockChannel _ =>
    rw [stands] at before
    rcases lookers with ⟨cache, completed⟩ | none
    · simpa only [ResolvePoint.Sound, cacheBusy, cache, completed] using before
    · have unlooked := none other apart moved there
      rw [stands] at unlooked
      cases unlooked
  | returned res =>
    rw [stands] at before
    rcases res with error | (arc | _ | _)
    · trivial
    · intro early
      have one : m.completed = [arc] := before (published ▸ early)
      rcases readers with same | none
      · exact same.trans one
      · cases none.symm.trans one
    · trivial
    · trivial

/-- Nobody has looked before this call moved, if nobody has looked after it. -/
theorem lockAhead_of_move (here : m.calls[c]? = some call)
    (calls : next.calls = (m.setPoint c call point).calls)
    (tracked : next.tracked = m.tracked)
    (looks : call.point.hasLooked = true → point.hasLooked = true)
    (ahead : next.lockAhead = true) : m.lockAhead = true := by
  obtain ⟨untracked, unlooked⟩ := lockAhead_iff.mp ahead
  refine lockAhead_iff.mpr ⟨tracked ▸ untracked, ?_⟩
  intro other moved there
  by_cases same : other = c
  · subst same
    rw [here] at there
    cases there
    have now : point.hasLooked = false := by
      apply unlooked other { call with point := point }
      rw [calls]
      exact Threads.set_self here
    by_contra looked
    rw [looks (by simpa using looked)] at now
    cases now
  · apply unlooked other
    rw [calls]
    simp only [setPoint]
    rw [List.getElem?_set_ne (Ne.symm same)]
    exact there

/-- A move of one call that leaves the cells as they are. -/
theorem moves (single : SingleInit m) (owned : CellsOwned m) (here : m.calls[c]? = some call)
    (sound : point.Sound (m.setPoint c call point))
    (looks : call.point.hasLooked = true → point.hasLooked = true) :
    SingleInit (m.setPoint c call point) := by
  refine ⟨single.atMostOne, ?_, single.cached, single.tracked, single.seeded, ?_⟩
  · exact single.points_of_move owned c call point rfl rfl sound
      (.inl ⟨rfl, rfl⟩) (.inl ⟨rfl, rfl⟩) (.inl rfl)
  · intro empty ahead
    exact single.fresh empty (lockAhead_of_move here rfl rfl looks ahead)

/-- While the initialiser of the lock has not looked, nobody has. -/
theorem lockAhead (owned : CellsOwned m) (here : m.calls[c]? = some call)
    (point : call.point = .lockSeed) : m.lockAhead = true := by
  have owns := owned.points c call here
  rw [point] at owns
  refine lockAhead_iff.mpr ⟨owns.2, ?_⟩
  intro other moved there
  by_cases same : other = c
  · subst same
    rw [here] at there
    cases there
    rw [point]
    rfl
  · exact owned.unlooked owns.1 other same moved there

/-- While a snapshot call initialises the cache nobody has looked at it. -/
theorem unlooked (single : SingleInit m) (owned : CellsOwned m)
    (busy : m.snapshotCache = .initialising c) (untracked : m.tracked = none) (other : Nat)
    (moved : ResolveCall Arc Error) (there : m.calls[other]? = some moved) :
    moved.point.hasLooked = false := by
  have sound := single.points other moved there
  have owns := owned.points other moved there
  cases point : moved.point with
  | lockInit =>
    rw [point] at sound
    cases busy.symm.trans sound.1
  | lockNotify _ | lockChannel _ =>
    rw [point] at sound
    have idle := sound.1
    simp only [cacheBusy, busy] at idle
    cases idle
  | setLock =>
    rw [point] at owns
    exact absurd untracked owns.2
  | _ => rfl

/-- A snapshot call starts to initialise the cache. -/
theorem cacheTaken (single : SingleInit m) (owned : CellsOwned m)
    (free : m.snapshotCache = .empty) (ahead : m.lockAhead = true) :
    SingleInit
      { m.setPoint c call .awaitInit with snapshotCache := .initialising c } := by
  obtain ⟨untracked, unlooked⟩ := lockAhead_iff.mp ahead
  refine ⟨single.atMostOne, ?_, ?_, ?_, single.seeded, ?_⟩
  · refine single.points_of_move owned c call .awaitInit rfl rfl
      ⟨untracked, single.fresh free ahead⟩ (.inl ⟨rfl, rfl⟩) (.inr ?_)
      (.inl rfl)
    intro other _ moved there
    exact unlooked other moved there
  · intro arc set
    cases set
  · intro tracked found
    cases untracked.symm.trans found
  · intro empty
    cases empty

/-- The initialisation of the cache succeeds. -/
theorem cacheInitialised (single : SingleInit m) (owned : CellsOwned m)
    (here : m.calls[c]? = some call) (point : call.point = .awaitInit) (arc : Arc) :
    SingleInit
      { m.setPoint c call (.setCache arc) with completed := m.completed ++ [arc] } := by
  have owns := owned.points c call here
  have sound := single.points c call here
  rw [point] at owns sound
  obtain ⟨untracked, none⟩ := sound
  have unlooked := single.unlooked owned owns untracked
  refine ⟨by simp [none], ?_, ?_, ?_, single.seeded, ?_⟩
  · exact single.points_of_move owned c call (.setCache arc) rfl rfl
      ⟨untracked, by simp [none]⟩ (.inr (CellsOwned.alone owns))
      (.inr fun other _ => unlooked other) (.inr none)
  · intro other set
    cases owns.symm.trans set
  · intro tracked found
    cases untracked.symm.trans found
  · intro empty
    cases owns.symm.trans empty

/-- The initialisation of the cache fails. -/
theorem cacheFailed (single : SingleInit m) (owned : CellsOwned m) (here : m.calls[c]? = some call)
    (point : call.point = .awaitInit) (error : Error) :
    SingleInit
      { m.setPoint c call (.returned (.error error)) with snapshotCache := .empty } := by
  have owns := owned.points c call here
  have sound := single.points c call here
  rw [point] at owns sound
  obtain ⟨untracked, none⟩ := sound
  have unlooked := single.unlooked owned owns untracked
  refine ⟨single.atMostOne, ?_, ?_, ?_, single.seeded, fun _ _ => none⟩
  · exact single.points_of_move owned c call (.returned (.error error))
      rfl rfl trivial (.inr (CellsOwned.alone owns))
      (.inr fun other _ => unlooked other) (.inl rfl)
  · intro arc set
    cases set
  · intro tracked found
    cases untracked.symm.trans found

/-- The cache gets its value. -/
theorem cacheSet (single : SingleInit m) (owned : CellsOwned m)
    (here : m.calls[c]? = some call) {arc} (point : call.point = .setCache arc) :
    SingleInit
      { m.setPoint c call (.returned (.ok (.snapshot arc))) with snapshotCache := .set arc } := by
  have owns := owned.points c call here
  have sound := single.points c call here
  rw [point] at owns sound
  obtain ⟨untracked, one⟩ := sound
  have unlooked := single.unlooked owned owns untracked
  refine ⟨single.atMostOne, ?_, ?_, ?_, single.seeded, ?_⟩
  · exact single.points_of_move owned c call
      (.returned (.ok (.snapshot arc))) rfl rfl (fun _ => one)
      (.inr (CellsOwned.alone owns)) (.inr fun other _ => unlooked other)
      (.inl rfl)
  · intro other set
    cases set
    exact one
  · intro tracked found
    cases untracked.symm.trans found
  · intro empty
    cases empty

/-- A call starts to initialise the lock. -/
theorem lockTaken (single : SingleInit m) (owned : CellsOwned m)
    (here : m.calls[c]? = some call) (point : call.point = .enterLock) :
    SingleInit
      { m.setPoint c call .lockSeed with lock := .initialising c } := by
  refine ⟨single.atMostOne, ?_, single.cached, single.tracked, single.seeded, ?_⟩
  · exact single.points_of_move owned c call .lockSeed rfl rfl trivial
      (.inl ⟨rfl, rfl⟩) (.inl ⟨rfl, rfl⟩) (.inl rfl)
  · intro empty ahead
    apply single.fresh empty
    refine lockAhead_of_move here rfl rfl ?_ ahead
    rw [point]
    exact id

/-- The initialisation of the lock succeeds. -/
theorem lockInitialised (single : SingleInit m) (owned : CellsOwned m)
    (here : m.calls[c]? = some call) (point : call.point = .lockInit) (arc : Arc) :
    SingleInit
      { m.setPoint c call (.lockNotify arc) with completed := m.completed ++ [arc] } := by
  have owns := owned.points c call here
  have sound := single.points c call here
  rw [point] at owns sound
  obtain ⟨free, none⟩ := sound
  refine ⟨by simp [none], ?_, ?_, ?_, single.seeded, ?_⟩
  · refine single.points_of_move owned c call (.lockNotify arc) rfl rfl
      ⟨?_, by simp [none]⟩ (.inr ?_) (.inr (owned.unlooked owns.1))
      (.inr none)
    · simp only [cacheBusy, setPoint, free]
    · intro other _ busy
      cases free.symm.trans busy
  · intro other set
    cases free.symm.trans set
  · intro tracked found
    cases owns.2.symm.trans found
  · intro _ ahead
    have now := (lockAhead_iff.mp ahead).2 c
      { call with point := .lockNotify arc } (Threads.set_self here)
    cases now

/-- The initialisation of the lock fails. -/
theorem lockFailed (single : SingleInit m) (owned : CellsOwned m) (here : m.calls[c]? = some call)
    (point : call.point = .lockInit) (error : Error) :
    SingleInit
      { m.setPoint c call (.returned (.error error)) with lock := .empty } := by
  have sound := single.points c call here
  rw [point] at sound
  refine ⟨single.atMostOne, ?_, single.cached, single.tracked, single.seeded, fun _ _ => sound.2⟩
  exact single.points_of_move owned c call (.returned (.error error)) rfl
    rfl trivial (.inl ⟨rfl, rfl⟩) (.inl ⟨rfl, rfl⟩) (.inl rfl)

/-- The channel is made and `watch_rx` set. -/
theorem channelMade (single : SingleInit m) (owned : CellsOwned m) (here : m.calls[c]? = some call)
    {arc} (point : call.point = .lockChannel arc) :
    SingleInit
      { m.setPoint c call .setLock with tracked := some (.new arc), seed := some arc } := by
  have sound := single.points c call here
  rw [point] at sound
  obtain ⟨idle, one⟩ := sound
  refine ⟨single.atMostOne, ?_, single.cached, ?_, rfl, ?_⟩
  · refine single.points_of_move owned c call .setLock rfl rfl trivial
      (.inr ?_) (.inl ⟨rfl, rfl⟩) (.inl rfl)
    intro other _ busy
    simp only [cacheBusy, busy] at idle
    cases idle
  · intro tracked found
    cases found
    exact ⟨idle, arc, rfl, one, fun _ => rfl⟩
  · intro _ ahead
    cases (lockAhead_iff.mp ahead).1

/-- The lock is set. -/
theorem lockSet (single : SingleInit m) (owned : CellsOwned m)
    (here : m.calls[c]? = some call) (point : call.point = .setLock) :
    SingleInit
      { m.setPoint c call (.returned (.ok call.kind.locked)) with lock := .set () } := by
  have owns := owned.points c call here
  rw [point] at owns
  refine ⟨single.atMostOne, ?_, single.cached, single.tracked, single.seeded, ?_⟩
  · refine single.points_of_move owned c call
      (.returned (.ok call.kind.locked)) rfl rfl ?_ (.inl ⟨rfl, rfl⟩)
      (.inl ⟨rfl, rfl⟩) (.inl rfl)
    cases call.kind <;> trivial
  · intro _ ahead
    exact absurd (lockAhead_iff.mp ahead).1 owns.2

/-- A new call. -/
theorem begins (single : SingleInit m) (kind : ResolveKind) :
    SingleInit
      { m with calls := m.calls ++ [⟨kind, kind.entry⟩] } := by
  refine ⟨single.atMostOne, ?_, single.cached, single.tracked, single.seeded, ?_⟩
  · intro other moved there
    rcases Threads.concat_cases there with there | ⟨_, rfl⟩
    · exact single.points other moved there
    · cases kind <;> trivial
  · intro empty ahead
    obtain ⟨untracked, unlooked⟩ := lockAhead_iff.mp ahead
    apply single.fresh empty
    refine lockAhead_iff.mpr ⟨untracked, ?_⟩
    intro other moved there
    exact unlooked other moved (Threads.concat_old there)

/-- An operation of a write guard. -/
theorem guards (single : SingleInit m) (owned : CellsOwned m) (opened : m.lock = .set ())
    {tracked after operation effect} (found : m.tracked = some tracked)
    (move : GuardMove tracked operation after effect) :
    SingleInit (m.applyEffect after effect) := by
  obtain ⟨idle, arc, seed, one, early⟩ := single.tracked tracked found
  -- Everybody who initialises has returned.
  have rest : ∀ {published : Bool} {epoch : UInt64} {notify : Notify},
      (published = false → m.published = false ∧ after.watchTx = tracked.watchTx) →
      SingleInit
        { m with
          tracked := some after
          published := published
          valueEpoch := epoch
          changeNotify := notify } := by
    intro published epoch notify unsent
    refine ⟨single.atMostOne, ?_, single.cached, ?_, ?_, ?_⟩
    · intro other moved there
      have sound := single.points other moved there
      have owns := owned.points other moved there
      cases point : moved.point with
      | awaitInit | setCache _ =>
        rw [point] at sound
        cases sound.1.symm.trans found
      | lockInit | lockNotify _ | lockChannel _ =>
        rw [point] at owns
        cases opened.symm.trans owns.1
      | returned res =>
        rw [point] at sound
        rcases res with error | (arc | _ | _)
        · trivial
        · exact fun before => sound (unsent before).1
        · trivial
        · trivial
      | checkWatch | checkCache | enterCache | enterLock | lockSeed
      | setLock => trivial
    · intro now same
      cases same
      refine ⟨idle, arc, seed, one, ?_⟩
      intro before
      rw [(unsent before).2]
      exact early (unsent before).1
    · rw [single.seeded, found]
      rfl
    · intro _ ahead
      cases (lockAhead_iff.mp ahead).1
  cases effect with
  | nothing => exact rest fun before => ⟨before, move.watchTx_eq (by decide)⟩
  | sent =>
    refine rest ?_
    intro before
    cases before
  | epochAdvanced => exact rest fun before => ⟨before, move.watchTx_eq (by decide)⟩
  | waitersNotified => exact rest fun before => ⟨before, move.watchTx_eq (by decide)⟩

theorem step (single : SingleInit m) (owned : CellsOwned m) (turn : InTurn m a)
    (h : m.step a = some next) : SingleInit next := by
  have move := ManagerMove.of_step h
  cases move with
  | begins => exact single.begins _
  | watchFound here point found =>
    obtain ⟨_, arc, _, one, early⟩ := single.tracked _ found
    apply single.moves owned here
    · intro before
      rw [early before]
      exact one
    · rw [point]
      exact id
  | watchMissing here point _ =>
    apply single.moves owned here
    · trivial
    · rw [point]
      exact id
  | cacheFound here point found =>
    apply single.moves owned here
    · exact fun _ => single.cached _ found
    · rcases point with point | point <;> rw [point] <;> exact id
  | cacheMissing here point _ =>
    apply single.moves owned here
    · trivial
    · rw [point]
      exact id
  | cacheTaken here point free =>
    simp only [InTurn, inTurn, here, Option.map_some, point, free] at turn
    exact single.cacheTaken owned free turn
  | cacheInitialised here point => exact single.cacheInitialised owned here point _
  | cacheFailed here point => exact single.cacheFailed owned here point _
  | cacheSet here point => exact single.cacheSet owned here point
  | lockFound here point _ =>
    rename_i call _
    apply single.moves owned here
    · cases call.kind <;> trivial
    · rw [point]
      exact id
  | lockTaken here point _ => exact single.lockTaken owned here point
  | lockSeeded here point found =>
    apply single.moves owned here
    · refine ⟨?_, single.cached _ found⟩
      simp only [cacheBusy, setPoint, found]
    · exact fun _ => rfl
  | lockUnseeded here point missing =>
    simp only [InTurn, inTurn, here, Option.map_some, point, Bool.not_eq_true'] at turn
    have free : m.snapshotCache = .empty := by
      cases cell : m.snapshotCache with
      | empty => rfl
      | initialising other =>
        simp only [cacheBusy, cell] at turn
        cases turn
      | set arc =>
        rw [cell] at missing
        cases missing
    apply single.moves owned here
    · exact ⟨free, single.fresh free (lockAhead owned here point)⟩
    · exact fun _ => rfl
  | lockInitialised here point => exact single.lockInitialised owned here point _
  | lockFailed here point => exact single.lockFailed owned here point _
  | lockNotified here point =>
    have sound := single.points _ _ here
    rw [point] at sound
    exact single.moves owned here sound fun _ => rfl
  | channelMade here point => exact single.channelMade owned here point
  | lockSet here point => exact single.lockSet owned here point
  | watches | polls _ _ | arms _ | leaves _ _ =>
    exact ⟨single.atMostOne, single.points, single.cached, single.tracked,
      single.seeded, single.fresh⟩
  | guards opened found move => exact single.guards owned opened found move

end SingleInit

/-! ### One initialisation per slot -/

/-- What callers have been shown of the initial value: the snapshots returned,
and the pointer that seeds the lock. -/
def StateManager.shown (m : StateManager Arc Error) : List Arc :=
  m.seed.toList ++ m.calls.filterMap fun call =>
    match call.point with
    | .returned (.ok (.snapshot arc)) => some arc
    | _ => none

/-- When the two paths initialise in turn, at most one initialisation of the
slot succeeds, and until the first publication every snapshot returned and the
seed of the lock are the pointer it returned. -/
theorem slot_initialised_once {schedule : List (ManagerAction Arc Error)}
    {manager : StateManager Arc Error}
    (run : GuardedRun StateManager.step InTurn StateManager.new schedule manager) :
    manager.completed.length ≤ 1 ∧ (manager.published = false →
        ∀ arc ∈ manager.shown, manager.completed = [arc]) := by
  have both : CellsOwned manager ∧ SingleInit manager := by
    apply run.invariant ⟨CellsOwned.new, SingleInit.new⟩
    intro _ _ _ held turn stepped
    exact ⟨held.1.step stepped, held.2.step held.1 turn stepped⟩
  have single := both.2
  refine ⟨single.atMostOne, ?_⟩
  intro early arc member
  rcases List.mem_append.mp member with seeded | returned
  · have seed : manager.seed = some arc := by simpa using seeded
    have made : manager.tracked.isSome = true := by
      rw [← single.seeded, seed]
      rfl
    obtain ⟨tracked, found⟩ := Option.isSome_iff_exists.mp made
    obtain ⟨_, first, same, one, _⟩ := single.tracked tracked found
    cases seed.symm.trans same
    exact one
  · obtain ⟨call, called, point⟩ := List.mem_filterMap.mp returned
    obtain ⟨caller, here⟩ := List.getElem?_of_mem called
    have sound := single.points caller call here
    split at point
    · rename_i stands
      cases point
      rw [stands] at sound
      exact sound early
    · cases point

/-- A snapshot is initialised first; then the lock is made from it, and a second
snapshot is taken from the channel. -/
theorem slot_initialised_once_then_locked :
    ∃ manager : StateManager Nat Unit,
      GuardedRun StateManager.step InTurn StateManager.new
          [.resolve .snapshot, .resolve .rwlock, .advance 0, .advance 0,
            .advance 0, .initReturns 0 (.ok 4), .advance 0, .advance 1,
            .advance 1, .advance 1, .advance 1, .advance 1,
            .resolve .snapshot, .advance 2] manager ∧
        (manager.shown = [4, 4, 4] ∧ manager.published = false) ∧
        manager.completed.length ≤ 1 :=
  GuardedRun.exists_and (by decide +kernel) fun _ run _ =>
    (slot_initialised_once run).1

/-- A snapshot call arrives while the initialiser of the lock waits for its
`init`: both initialisations complete, the snapshot returned is 2, and the lock
is seeded with 1. -/
theorem snapshot_and_lock_initialise_twice :
    ∃ manager : StateManager Nat Unit,
      Run StateManager.step StateManager.new
          [.resolve .rwlock, .advance 0, .advance 0, .resolve .snapshot,
            .advance 1, .advance 1, .advance 1, .initReturns 1 (.ok 2),
            .advance 1, .initReturns 0 (.ok 1), .advance 0, .advance 0,
            .advance 0] manager ∧
        manager.completed = [2, 1] ∧ manager.shown = [1, 2] ∧
        manager.published = false :=
  Run.exists_of_check (by decide +kernel)

end ServiceDaemon
