/-
Purpose: Which stale generations are noticed: when the value a generation has
  resolved is not the current one any more, its watch has seen the epoch of the
  value or the binding change, unless the lock of the slot was being initialised
  past the cached value when the watch was captured.
Main exports: Current, Fresh, Bound, stale_generation_noticed
-/
import ServiceDaemon.Core.ProviderScope
import ServiceDaemon.Proofs.SlotInitialisation

namespace ServiceDaemon

open AsyncLib StepSystem StateManager ScopeState ManagerMove Threads

variable {Arc Error : Type}

/-! ### The value of a settled manager -/

section Manager

variable {m next : StateManager Arc Error}
  {a : ManagerAction Arc Error}

/-- A publication has sent its value and not yet advanced the epoch. -/
def StateManager.sending (m : StateManager Arc Error) : Bool :=
  m.guardPoint.any GuardPoint.isReplaced

/-- Since the epoch was `epoch` the value has been `arc`, or a publication has
come in between. -/
def Current (epoch : UInt64) (m : StateManager Arc Error) (arc : Arc) :
    Prop :=
  m.current = some arc ∨ epoch < m.valueEpoch ∨ m.sending = true

namespace StateManager

theorem settled_iff [DecidableEq Arc] :
    m.settled = true ↔ m.tracked ≠ none ∨ ∃ arc, m.snapshotCache = .set arc ∧
        ∀ (c : Nat) (call : ResolveCall Arc Error),
          m.calls[c]? = some call → call.point.agrees arc = true := by
  simp only [settled, Bool.or_eq_true, Option.isSome_iff_ne_none]
  refine or_congr Iff.rfl ?_
  cases m.snapshotCache with
  | empty | initialising _ => simp
  | set arc =>
    simp only [List.all_eq_true, OnceCell.set.injEq, exists_eq_left']
    constructor
    · intro agreed c call here
      exact agreed call (List.mem_of_getElem? here)
    · intro agreed call mem
      obtain ⟨c, here⟩ := List.getElem?_of_mem mem
      exact agreed c call here

/-- A cache that is set stays so. -/
theorem cache_step (owned : CellsOwned m)
    (set : m.snapshotCache = .set arc) (h : m.step a = some next) :
    next.snapshotCache = .set arc := by
  have move := of_step h
  cases move with
  | cacheTaken _ _ free => cases set.symm.trans free
  | cacheFailed here point =>
    have owns := owned.points _ _ here
    rw [point] at owns
    cases set.symm.trans owns
  | cacheSet here point =>
    have owns := owned.points _ _ here
    rw [point] at owns
    cases set.symm.trans owns
  | guards _ _ _ =>
    rw [applyEffect_snapshotCache]
    exact set
  | _ => exact set

/-- A lock that has been made stays. -/
theorem tracked_step (made : m.tracked ≠ none)
    (h : m.step a = some next) : next.tracked ≠ none := by
  have move := of_step h
  cases move with
  | channelMade _ _ => exact Option.some_ne_none _
  | guards _ _ _ =>
    rw [applyEffect_tracked]
    exact Option.some_ne_none _
  | _ => exact made

theorem agrees_of_move [DecidableEq Arc]
    (agreed : ∀ (c : Nat) (call : ResolveCall Arc Error),
      m.calls[c]? = some call → call.point.agrees arc = true) (agrees : point.agrees arc = true)
    (other : Nat) (moved : ResolveCall Arc Error)
    (there : (m.setPoint c call point).calls[other]? = some moved) :
    moved.point.agrees arc = true := by
  rcases set_cases there with ⟨rfl, rfl⟩ | ⟨_, there⟩
  · exact agrees
  · exact agreed other moved there

/-- A settled manager stays settled. -/
theorem settled_step [DecidableEq Arc] (owned : CellsOwned m) (settled : m.settled = true)
    (h : m.step a = some next) : next.settled = true := by
  rcases settled_iff.mp settled with made | ⟨arc, set, agreed⟩
  · exact settled_iff.mpr (.inl (tracked_step made h))
  have kept : next.snapshotCache = .set arc := cache_step owned set h
  -- The initialisers of the lock: those that have looked agree, and who looks
  -- now finds the cache set.
  suffices still : next.tracked ≠ none ∨ ∀ (c : Nat) (call : ResolveCall Arc Error),
        next.calls[c]? = some call → call.point.agrees arc = true by
    rcases still with made | agreed
    · exact settled_iff.mpr (.inl made)
    · exact settled_iff.mpr (.inr ⟨arc, kept, agreed⟩)
  have move := of_step h
  cases move with
  | begins =>
    rename_i kind
    right
    intro other moved there
    rcases concat_cases there with there | ⟨_, rfl⟩
    · exact agreed other moved there
    · cases kind <;> rfl
  | channelMade _ _ => exact .inl (Option.some_ne_none _)
  | guards _ _ _ =>
    rw [applyEffect_tracked]
    exact .inl (Option.some_ne_none _)
  | lockSeeded here point found =>
    cases set.symm.trans found
    exact .inr (agrees_of_move agreed (by simp [ResolvePoint.agrees]))
  | lockUnseeded _ _ missing =>
    rw [set] at missing
    cases missing
  | lockInitialised here point =>
    have agrees := agreed _ _ here
    rw [point] at agrees
    cases agrees
  | lockNotified here point =>
    have agrees := agreed _ _ here
    rw [point] at agrees
    exact .inr (agrees_of_move agreed agrees)
  | watches | polls _ _ | arms _ | leaves _ _ => exact .inr agreed
  | _ => exact .inr (agrees_of_move agreed rfl)

theorem current_of_tracked {tracked} (found : m.tracked = some tracked) :
    m.current = some tracked.watchTx := by
  simp only [current, found]

theorem tracked_of_settled [DecidableEq Arc] (settled : m.settled = true)
    (unset : ∀ arc, m.snapshotCache ≠ .set arc) : ∃ tracked, m.tracked = some tracked := by
  rcases settled_iff.mp settled with made | ⟨arc, set, _⟩
  · exact Option.ne_none_iff_exists'.mp made
  · exact absurd set (unset arc)

/-- A step leaves the value of a settled manager alone, or it sends one. -/
theorem current_step [DecidableEq Arc] (owned : CellsOwned m)
    (settled : m.settled = true) (h : m.step a = some next) :
    next.current = m.current ∨ next.sending = true := by
  have move := of_step h
  -- While the cache is empty or being initialised the value is the lock's.
  have locked : (∀ arc, m.snapshotCache ≠ .set arc) →
      next.tracked = m.tracked → next.current = m.current := by
    intro unset same
    obtain ⟨tracked, found⟩ := tracked_of_settled settled unset
    rw [current_of_tracked found, current_of_tracked (same.trans found)]
  cases move with
  | cacheTaken _ _ free =>
    left
    apply locked _ rfl
    intro arc set
    cases free.symm.trans set
  | cacheFailed here point =>
    have owns := owned.points _ _ here
    rw [point] at owns
    left
    apply locked _ rfl
    intro arc set
    cases owns.symm.trans set
  | cacheSet here point =>
    have owns := owned.points _ _ here
    rw [point] at owns
    left
    apply locked _ rfl
    intro arc set
    cases owns.symm.trans set
  | channelMade here point =>
    have owns := owned.points _ _ here
    rw [point] at owns
    rcases settled_iff.mp settled with made | ⟨arc, set, agreed⟩
    · exact absurd owns.2 made
    -- The seed is what the cache holds.
    have agrees := agreed _ _ here
    rw [point] at agrees
    have same := of_decide_eq_true agrees
    left
    simp only [current, owns.2, set, OnceCell.get, TrackedRwLock.new, same]
  | guards _ found move =>
    rw [current_of_tracked found, current_of_tracked (applyEffect_tracked _ _ _)]
    cases move with
    | commits _ | publishes _ | drops _ => exact .inr rfl
    | _ => exact .inl rfl
  | _ => exact .inl rfl

theorem epoch_lt_succ {epoch : UInt64} (below : epoch.toNat < u64Max) : epoch < epoch + 1 := by
  rw [UInt64.lt_iff_toNat_lt, UInt64.toNat_add]
  simp only [u64Max] at below
  have one : (1 : UInt64).toNat = 1 := rfl
  omega

/-- A value that has been sent has its epoch to come. -/
theorem sending_step (owned : CellsOwned m) (below : m.valueEpoch.toNat < u64Max)
    (sending : m.sending = true) (h : m.step a = some next) :
    next.sending = true ∨ m.valueEpoch < next.valueEpoch := by
  have move := of_step h
  cases move with
  | channelMade here point =>
    have owns := owned.points _ _ here
    rw [point] at owns
    simp only [StateManager.sending, guardPoint, owns.2] at sending
    cases sending
  | guards _ found move =>
    simp only [StateManager.sending, guardPoint, found, Option.bind_some] at sending
    cases move with
    | advances _ => exact .inr (epoch_lt_succ below)
    | acquires here | reads here | derefs here | commits here
    | commitsClean here | publishes here | drops here | dropsClean here
    | notifies here =>
      rw [here] at sending
      cases sending
  | _ => exact .inl sending

/-- The epoch never decreases. -/
theorem epoch_step (below : m.valueEpoch.toNat < u64Max) (h : m.step a = some next) :
    m.valueEpoch ≤ next.valueEpoch := by
  have move := of_step h
  cases move with
  | guards _ _ move =>
    cases move with
    | advances _ => exact UInt64.le_of_lt (epoch_lt_succ below)
    | _ => exact UInt64.le_refl _
  | _ => exact UInt64.le_refl _

end StateManager

/-- The value stays current as long as nothing is published. -/
theorem Current.step [DecidableEq Arc] {epoch arc} (held : Current epoch m arc)
    (owned : CellsOwned m) (settled : m.settled = true) (since : epoch ≤ m.valueEpoch)
    (below : m.valueEpoch.toNat < u64Max) (h : m.step a = some next) : Current epoch next arc := by
  have later : m.valueEpoch ≤ next.valueEpoch := epoch_step below h
  rcases held with cur | passed | sending
  · rcases current_step owned settled h with same | sends
    · exact .inl (same.trans cur)
    · exact .inr (.inr sends)
  · exact .inr (.inl (UInt64.lt_of_lt_of_le passed later))
  · rcases sending_step owned below sending h with
      still | passes
    · exact .inr (.inr still)
    · exact .inr (.inl (UInt64.lt_of_le_of_lt since passes))

/-- What a snapshot call has read since the epoch was `epoch`. -/
def Fresh (epoch : UInt64) (m : StateManager Arc Error) :
    ResolvePoint Arc Error → Prop
  | .checkWatch => True
  | .checkCache =>
    ∃ arc, m.snapshotCache = .set arc ∧ Current epoch m arc
  | .returned (.ok (.snapshot arc)) => Current epoch m arc
  | _ => False

/-- The call that an action moves on. -/
def ManagerAction.mover : ManagerAction Arc Error → Option Nat
  | .advance c | .initReturns c _ => some c
  | _ => none

/-- A call stays as it is, unless the action moves it on. -/
theorem StateManager.call_step (here : m.calls[c]? = some call)
    (h : m.step a = some next) : next.calls[c]? = some call ∨ a.mover = some c := by
  have others : ∀ {other : Nat} {moved : ResolveCall Arc Error},
      (m.calls.set other moved)[c]? = some call ∨ some other = some c := by
    intro other moved
    by_cases same : other = c
    · exact .inr (congrArg some same)
    · left
      rw [List.getElem?_set_ne same]
      exact here
  have move := of_step h
  cases move with
  | begins => exact .inl (concat_old here)
  | watches | polls _ _ | arms _ | leaves _ _ => exact .inl here
  | guards _ _ _ =>
    rw [applyEffect_calls]
    exact .inl here
  | _ => exact others

namespace Fresh

variable {epoch : UInt64} {c : Nat} {call : ResolveCall Arc Error}

/-- What a call has read stays fresh while others move. -/
theorem kept [DecidableEq Arc] (fresh : Fresh epoch m point) (owned : CellsOwned m)
    (settled : m.settled = true) (since : epoch ≤ m.valueEpoch)
    (below : m.valueEpoch.toNat < u64Max) (h : m.step a = some next) : Fresh epoch next point := by
  cases point with
  | checkWatch => trivial
  | checkCache =>
    obtain ⟨arc, set, cur⟩ := fresh
    exact ⟨arc, cache_step owned set h, cur.step owned settled since below h⟩
  | returned res =>
    rcases res with error | (arc | _ | _)
    · exact fresh
    · exact Current.step fresh owned settled since below h
    · exact fresh
    · exact fresh
  | _ => exact fresh

/-- The call itself moves on: it reads the value, without initialising
anything. -/
theorem moves [DecidableEq Arc] (fresh : Fresh epoch m call.point) (here : m.calls[c]? = some call)
    (settled : m.settled = true) (h : m.step a = some next) (moved : a.mover = some c) :
    ∃ moved, next.calls[c]? = some moved ∧ Fresh epoch next moved.point := by
  have move := of_step h
  cases move with
  | watchFound there _ found =>
    cases moved
    refine ⟨_, set_self there, ?_⟩
    exact .inl (current_of_tracked found)
  | watchMissing there _ missing =>
    cases moved
    rcases settled_iff.mp settled with made | ⟨arc, set, _⟩
    · exact absurd missing made
    refine ⟨_, set_self there, arc, set, .inl ?_⟩
    simp only [current, setPoint, missing, set]
    rfl
  | cacheFound there point found =>
    cases moved
    cases here.symm.trans there
    rcases point with point | point <;> rw [point] at fresh
    · obtain ⟨arc, set, cur⟩ := fresh
      cases set.symm.trans found
      exact ⟨_, set_self there, cur⟩
    · exact fresh.elim
  | cacheMissing there point missing =>
    cases moved
    cases here.symm.trans there
    rw [point] at fresh
    obtain ⟨arc, set, _⟩ := fresh
    rw [set] at missing
    cases missing
  | begins | watches | polls _ _ | arms _ | guards _ _ _ => cases moved
  | leaves _ _ => exact ⟨call, here, fresh⟩
  | cacheTaken there point _ | cacheInitialised there point
  | cacheFailed there point | cacheSet there point | lockFound there point _
  | lockTaken there point _ | lockSeeded there point _
  | lockUnseeded there point _ | lockInitialised there point
  | lockFailed there point | lockNotified there point
  | channelMade there point | lockSet there point =>
    cases moved
    cases here.symm.trans there
    rw [point] at fresh
    exact fresh.elim

theorem step [DecidableEq Arc] (fresh : Fresh epoch m call.point) (here : m.calls[c]? = some call)
    (owned : CellsOwned m) (settled : m.settled = true) (since : epoch ≤ m.valueEpoch)
    (below : m.valueEpoch.toNat < u64Max) (h : m.step a = some next) :
    ∃ moved, next.calls[c]? = some moved ∧ Fresh epoch next moved.point := by
  rcases call_step here h with same | moved
  · exact ⟨call, same, fresh.kept owned settled since below h⟩
  · exact fresh.moves here settled h moved

end Fresh

end Manager

/-! ### The binding of a baseline -/

variable {s next : ScopeState Arc Error}
  {a : ScopeAction Arc Error}

namespace ScopeState

/-- An override has inserted its slot and not yet changed the binding. -/
def pending (s : ScopeState Arc Error) : Prop :=
  ∃ (thread : Nat) (kind : ProviderBindingKind),
    s.overrides[thread]? = some (.mutate kind)

/-- The binding is not in effect any more, or will not be when the overrides
that are under way have ended. -/
def Overtakes (s : ScopeState Arc Error) (binding : ProviderBindingSnapshot) : Prop :=
  binding.epoch < s.effectiveBinding.epoch ∨ s.pending

/-- No counter has reached its largest value. -/
def countersBelow (s : ScopeState Arc Error) : Bool :=
  s.effectiveBinding.epoch < u64Max &&
    s.managers.all fun m => m.valueEpoch.toNat < u64Max

/-- A step leaves the binding and the slot alone, or it overtakes every binding
that was in effect before. -/
theorem binding_step [DecidableEq Arc] (below : s.countersBelow = true) (h : s.step a = some next) :
    (next.effectiveBinding = s.effectiveBinding ∧ next.localSlot = s.localSlot ∧ next.id = s.id ∧
        (s.pending → next.pending)) ∨
      ∀ binding : ProviderBindingSnapshot,
        binding.epoch ≤ s.effectiveBinding.epoch → binding.epoch ≤ next.effectiveBinding.epoch ∧
            next.Overtakes binding := by
  have move := ScopeMove.of_step h
  cases move with
  | inserts here =>
    right
    intro binding before
    exact ⟨before, .inr ⟨_, _, set_self here⟩⟩
  | mutates here more =>
    rename_i epoch kind
    right
    intro binding before
    have base : (s.localBinding.getD ⟨kind, 0⟩).epoch = s.effectiveBinding.epoch := by
      unfold effectiveBinding
      cases s.localBinding <;> rfl
    have small : s.effectiveBinding.epoch < u64Max := by
      simp only [countersBelow, Bool.and_eq_true, decide_eq_true_eq] at below
      exact below.1
    have grown : epoch = s.effectiveBinding.epoch + 1 := by
      rw [more, base, saturatingSucc]
      omega
    have passes : binding.epoch < epoch := by omega
    exact ⟨Nat.le_of_lt passes, .inl passes⟩
  | overrides =>
    left
    refine ⟨rfl, rfl, rfl, ?_⟩
    rintro ⟨thread, kind, here⟩
    exact ⟨thread, kind, concat_old here⟩
  | notifies here =>
    rename_i thread _ _
    left
    refine ⟨rfl, rfl, rfl, ?_⟩
    rintro ⟨other, kind, there⟩
    refine ⟨other, kind, ?_⟩
    rw [List.getElem?_set_ne]
    · exact there
    · rintro rfl
      cases here.symm.trans there
  | _ => exact .inl ⟨rfl, rfl, rfl, fun still => still⟩

end ScopeState

/-- A generation has read a binding and the slot for it: both are in effect, or
they have been overtaken. -/
structure Bound (s : ScopeState Arc Error)
    (binding : ProviderBindingSnapshot) (i : Nat) : Prop where
  before : binding.epoch ≤ s.effectiveBinding.epoch
  inEffect : s.Overtakes binding ∨ (binding = s.effectiveBinding ∧
      i = s.managerFor s.effectiveBinding)

/-- What a body that resolves the provider has read, compared with the
baseline. -/
def LookupPoint.Follows (s : ScopeState Arc Error) (baseline : Baseline)
    (point : LookupPoint) : Prop :=
  s.Overtakes baseline.binding ∨ match point with
    | .readBinding => True
    | .readSlot binding => binding = baseline.binding
    | .calling i _ => i = baseline.manager

/-- The captured slot has held a settled value since, and what the body has read
from it is current, or the epoch tells. -/
def HeldSince (s : ScopeState Arc Error) [DecidableEq Arc]
    (baseline : Baseline) (resolves : List LookupPoint) : Prop :=
  ∃ m, s.managers[baseline.manager]? = some m ∧ m.settled = true ∧ baseline.epoch ≤ m.valueEpoch ∧
    ∀ c, .calling baseline.manager c ∈ resolves →
      ∃ call, m.calls[c]? = some call ∧ Fresh baseline.epoch m call.point

/-- What a generation knows at each point of its capture. -/
def Tracks [DecidableEq Arc] (s : ScopeState Arc Error) (gen : Generation) : Prop :=
  match gen.capture with
  | .readBinding => gen.resolves = []
  | .readSlot binding =>
    gen.resolves = [] ∧ binding.epoch ≤ s.effectiveBinding.epoch ∧
      (s.Overtakes binding ∨ binding = s.effectiveBinding)
  | .readEpoch binding i =>
    gen.resolves = [] ∧ Bound s binding i
  | .captured baseline =>
    Bound s baseline.binding baseline.manager ∧ (∀ point ∈ gen.resolves, point.Follows s baseline) ∧
      (baseline.settled = true → HeldSince s baseline gen.resolves)

/-- All managers are owned, and all generations know what they should. -/
structure BaselineWatched [DecidableEq Arc] (s : ScopeState Arc Error) :
    Prop where
  managers : ∀ (i : Nat) (m : StateManager Arc Error),
    s.managers[i]? = some m → CellsOwned m
  generations : ∀ (i : Nat) (gen : Generation),
    s.generations[i]? = some gen → Tracks s gen

/-! ### The steps of a scope -/

section Steps

variable [DecidableEq Arc]

theorem ScopeState.overtakes_step (below : s.countersBelow = true)
    (before : binding.epoch ≤ s.effectiveBinding.epoch)
    (overtakes : s.Overtakes binding) (h : s.step a = some next) : next.Overtakes binding := by
  rcases binding_step below h with ⟨same, _, _, still⟩ | overtaken
  · rcases overtakes with passed | pending
    · left
      rw [same]
      exact passed
    · exact .inr (still pending)
  · exact (overtaken binding before).2

theorem ScopeState.before_step {binding : ProviderBindingSnapshot} (below : s.countersBelow = true)
    (before : binding.epoch ≤ s.effectiveBinding.epoch) (h : s.step a = some next) :
    binding.epoch ≤ next.effectiveBinding.epoch := by
  rcases binding_step below h with ⟨same, _⟩ | overtaken
  · rw [same]
    exact before
  · exact (overtaken binding before).1

theorem Bound.step {binding index} (bound : Bound s binding index) (below : s.countersBelow = true)
    (h : s.step a = some next) : Bound next binding index := by
  refine ⟨before_step below bound.before h, ?_⟩
  rcases bound.inEffect with overtakes | ⟨rfl, rfl⟩
  · exact .inl (overtakes_step below bound.before overtakes h)
  rcases binding_step below h with
    ⟨same, slot, scope, _⟩ | overtaken
  · refine .inr ⟨same.symm, ?_⟩
    simp only [managerFor, same, slot, scope]
  · exact .inl (overtaken _ (Nat.le_refl _)).2

theorem LookupPoint.Follows.step {baseline : Baseline} {point : LookupPoint}
    (follows : point.Follows s baseline)
    (before : baseline.binding.epoch ≤ s.effectiveBinding.epoch)
    (below : s.countersBelow = true) (h : s.step a = some next) : point.Follows next baseline := by
  rcases follows with overtakes | same
  · exact .inl (overtakes_step below before overtakes h)
  · exact .inr same

theorem HeldSince.step {baseline resolves} (held : HeldSince s baseline resolves)
    (owned : ∀ (i : Nat) (m : StateManager Arc Error), s.managers[i]? = some m → CellsOwned m)
    (below : s.countersBelow = true) (h : s.step a = some next) :
    HeldSince next baseline resolves := by
  obtain ⟨m, here, settled, since, fresh⟩ := held
  obtain ⟨after, there, moved⟩ := manager_step h here
  rcases moved with rfl | ⟨operation, moved⟩
  · exact ⟨_, there, settled, since, fresh⟩
  have owned := owned _ _ here
  have small : m.valueEpoch.toNat < u64Max := by
    simp only [countersBelow, Bool.and_eq_true, List.all_eq_true, decide_eq_true_eq] at below
    exact below.2 m (List.mem_of_getElem? here)
  refine ⟨after, there, settled_step owned settled moved,
    UInt64.le_trans since (epoch_step small moved), ?_⟩
  intro c mem
  obtain ⟨call, called, fresh⟩ := fresh c mem
  exact fresh.step called owned settled since small moved

/-- A generation that does nothing itself keeps track. -/
theorem Tracks.step {generation : Generation} (tracks : Tracks s generation)
    (owned : ∀ (i : Nat) (m : StateManager Arc Error), s.managers[i]? = some m → CellsOwned m)
    (below : s.countersBelow = true) (h : s.step a = some next) : Tracks next generation := by
  unfold Tracks at tracks ⊢
  cases point : generation.capture with
  | readBinding =>
    rw [point] at tracks
    exact tracks
  | readSlot binding =>
    rw [point] at tracks
    obtain ⟨none, before, known⟩ := tracks
    refine ⟨none, before_step below before h, ?_⟩
    rcases known with overtakes | rfl
    · exact .inl (overtakes_step below before overtakes h)
    · rcases binding_step below h with
        ⟨same, _⟩ | overtaken
      · exact .inr same.symm
      · exact .inl (overtaken _ (Nat.le_refl _)).2
  | readEpoch binding i =>
    rw [point] at tracks
    exact ⟨tracks.1, tracks.2.step below h⟩
  | captured baseline =>
    rw [point] at tracks
    obtain ⟨bound, follows, held⟩ := tracks
    refine ⟨bound.step below h, ?_, ?_⟩
    · intro lookup mem
      exact (follows lookup mem).step bound.before below h
    · intro settled
      exact (held settled).step owned below h

/-! ### The steps of a generation -/

/-- A generation that has resolved something has captured its baseline. -/
theorem Tracks.captured {gen : Generation} {point : LookupPoint} {resolve : Nat}
    (tracks : Tracks s gen) (stands : gen.resolves[resolve]? = some point) :
    ∃ baseline, gen.capture = .captured baseline := by
  unfold Tracks at tracks
  cases here : gen.capture with
  | captured baseline => exact ⟨baseline, rfl⟩
  | readBinding =>
    rw [here] at tracks
    rw [show gen.resolves = [] from tracks] at stands
    cases stands
  | readSlot _ | readEpoch _ _ =>
    rw [here] at tracks
    rw [tracks.1] at stands
    cases stands

/-- The next operation of the capture. -/
theorem Tracks.captures (tracks : Tracks s gen)
    (captured : s.capture gen.capture = some point) (generations : List Generation) :
    Tracks { s with generations := generations }
      { gen with capture := point } := by
  unfold Tracks at tracks
  cases here : gen.capture with
  | readBinding =>
    rw [here] at tracks captured
    cases captured
    exact ⟨tracks, Nat.le_refl _, .inr rfl⟩
  | readSlot binding =>
    rw [here] at tracks captured
    cases captured
    obtain ⟨none, before, known⟩ := tracks
    refine ⟨none, before, ?_⟩
    rcases known with overtakes | rfl
    · exact .inl overtakes
    · exact .inr ⟨rfl, rfl⟩
  | readEpoch binding i =>
    rw [here] at tracks captured
    simp only [capture, Option.map_eq_some_iff] at captured
    obtain ⟨m, there, rfl⟩ := captured
    obtain ⟨none, bound⟩ := tracks
    refine ⟨⟨bound.before, bound.inEffect⟩, ?_, ?_⟩
    · intro lookup mem
      rw [none] at mem
      cases mem
    · intro settled
      refine ⟨m, there, settled, UInt64.le_refl _, ?_⟩
      intro c mem
      rw [none] at mem
      cases mem
  | captured baseline =>
    rw [here] at captured
    cases captured

/-- A body starts to resolve the provider. -/
theorem Tracks.resolves {gen baseline} (tracks : Tracks s gen)
    (captured : gen.capture = .captured baseline) (generations : List Generation) :
    Tracks { s with generations := generations }
      { gen with resolves := gen.resolves ++ [.readBinding] } := by
  unfold Tracks at tracks ⊢
  simp only [captured] at tracks ⊢
  obtain ⟨bound, follows, held⟩ := tracks
  refine ⟨⟨bound.before, bound.inEffect⟩, ?_, ?_⟩
  · intro lookup mem
    rcases List.mem_append.mp mem with old | new
    · exact follows lookup old
    · cases List.mem_singleton.mp new
      exact .inr trivial
  · intro settled
    obtain ⟨m, here, settled, since, fresh⟩ := held settled
    refine ⟨m, here, settled, since, ?_⟩
    intro c mem
    rcases List.mem_append.mp mem with old | new
    · exact fresh c old
    · cases List.mem_singleton.mp new

/-- The body reads the binding. -/
theorem Tracks.looksUpBinding {gen : Generation} {resolve : Nat} (tracks : Tracks s gen)
    (stands : gen.resolves[resolve]? = some .readBinding) (generations : List Generation) :
    Tracks { s with generations := generations }
      { gen with resolves := gen.resolves.set resolve (.readSlot s.effectiveBinding) } := by
  obtain ⟨baseline, captured⟩ := tracks.captured stands
  unfold Tracks at tracks ⊢
  simp only [captured] at tracks ⊢
  obtain ⟨bound, follows, held⟩ := tracks
  refine ⟨⟨bound.before, bound.inEffect⟩, ?_, ?_⟩
  · intro lookup mem
    rcases List.mem_or_eq_of_mem_set mem with old | rfl
    · exact follows lookup old
    · rcases bound.inEffect with overtakes | ⟨same, _⟩
      · exact .inl overtakes
      · exact .inr same.symm
  · intro settled
    obtain ⟨m, here, settled, since, fresh⟩ := held settled
    refine ⟨m, here, settled, since, ?_⟩
    intro c mem
    rcases List.mem_or_eq_of_mem_set mem with old | new
    · exact fresh c old
    · cases new

/-- The body reads the slot and calls the manager. -/
theorem Tracks.looksUpSlot {gen : Generation} {resolve : Nat} {binding : ProviderBindingSnapshot}
    {m : StateManager Arc Error} (tracks : Tracks next gen)
    (stands : gen.resolves[resolve]? = some (.readSlot binding))
    (called : next.managers[next.managerFor binding]? = some m) {c : Nat}
    (begun : m.calls[c]? = some ⟨.snapshot, .checkWatch⟩) :
    Tracks next
      { gen with resolves := gen.resolves.set resolve (.calling (next.managerFor binding) c) } := by
  obtain ⟨baseline, captured⟩ := tracks.captured stands
  unfold Tracks at tracks ⊢
  simp only [captured] at tracks ⊢
  obtain ⟨bound, follows, held⟩ := tracks
  refine ⟨bound, ?_, ?_⟩
  · intro lookup mem
    rcases List.mem_or_eq_of_mem_set mem with old | rfl
    · exact follows lookup old
    · rcases follows _ (List.mem_of_getElem? stands) with overtakes | known
      · exact .inl overtakes
      rcases bound.inEffect with overtakes | ⟨same, i⟩
      · exact .inl overtakes
      · right
        show next.managerFor binding = baseline.manager
        rw [show binding = baseline.binding from known, i, same]
  · intro settled
    obtain ⟨held, here, settled, since, fresh⟩ := held settled
    refine ⟨held, here, settled, since, ?_⟩
    intro other mem
    rcases List.mem_or_eq_of_mem_set mem with old | new
    · exact fresh other old
    · obtain ⟨i, rfl⟩ := LookupPoint.calling.inj new
      rw [← i] at called
      cases here.symm.trans called
      exact ⟨_, begun, trivial⟩

namespace BaselineWatched

theorem new (id : Nat) : BaselineWatched (new id : ScopeState Arc Error) := by
  refine ⟨?_, ?_⟩
  · intro i m here
    obtain rfl := List.mem_singleton.mp (List.mem_of_getElem? here)
    exact .new
  · intro i gen here
    cases here

theorem generations_of_set (watched : BaselineWatched s) (below : s.countersBelow = true)
    (h : s.step a = some next) (tracks : Tracks next moved) (other : Nat)
    (generation : Generation) (there : (s.generations.set i moved)[other]? = some generation) :
    Tracks next generation := by
  rcases set_cases there with ⟨_, rfl⟩ | ⟨_, there⟩
  · exact tracks
  · exact (watched.generations other generation there).step watched.managers below h

theorem step (watched : BaselineWatched s) (below : s.countersBelow = true)
    (h : s.step a = some next) : BaselineWatched next := by
  refine ⟨?_, ?_⟩
  · exact managers_step CellsOwned.withArc (fun owned moved => owned.step moved) watched.managers h
  have frame : ∀ (i : Nat) (generation : Generation),
      s.generations[i]? = some generation → Tracks next generation := by
    intro i generation here
    exact (watched.generations i generation here).step watched.managers below h
  have move := ScopeMove.of_step h
  cases move with
  | starts =>
    intro i generation there
    rcases concat_cases there with there | ⟨_, rfl⟩
    · exact frame i generation there
    · exact rfl
  | captures here captured =>
    exact watched.generations_of_set below h ((watched.generations _ _ here).captures captured _)
  | resolves here captured =>
    exact watched.generations_of_set below h ((watched.generations _ _ here).resolves captured _)
  | looksUpBinding here stands =>
    exact watched.generations_of_set below h
      ((watched.generations _ _ here).looksUpBinding stands _)
  | looksUpSlot here stands found =>
    refine watched.generations_of_set below h ?_
    exact (frame _ _ here).looksUpSlot stands (set_self found) List.getElem?_concat_length
  | _ => exact frame

end BaselineWatched

end Steps

/-! ### No stale generation goes unnoticed -/

namespace ScopeState

/-- No publication and no override is half done. -/
def quiescent (s : ScopeState Arc Error) : Bool :=
  (s.managers.all fun m =>
      !m.guardPoint.any GuardPoint.publishing) &&
    s.overrides.all fun point =>
      match point with
      | .insert _ _ | .returned _ => true
      | .mutate _ | .notify _ _ => false

/-- What the effective slot would return now. -/
def effectiveValue (s : ScopeState Arc Error) : Option Arc :=
  s.managers[s.managerFor s.effectiveBinding]?.bind
    StateManager.current

/-- The value that a `resolve_provider_snapshot` call has returned. -/
def resolved (s : ScopeState Arc Error) : LookupPoint → Option Arc
  | .calling i c =>
    s.managers[i]?.bind fun m =>
      m.calls[c]?.bind fun call =>
        match call.point with
        | .returned (.ok (.snapshot arc)) => some arc
        | _ => none
  | .readBinding | .readSlot _ => none

/-- The dependency watch is ready: the epoch of the value or the binding differs
from the baseline. -/
def watchReady (s : ScopeState Arc Error) (baseline : Baseline) : Prop :=
  s.managers[baseline.manager]?.map StateManager.valueEpoch ≠ some baseline.epoch ∨
    s.effectiveBinding ≠ baseline.binding

instance (s : ScopeState Arc Error) (baseline : Baseline) :
    Decidable (s.watchReady baseline) :=
  inferInstanceAs (Decidable (_ ∨ _))

/-- Nothing overtakes a binding that is in effect while nothing is half done. -/
theorem not_overtakes (quiescent : s.quiescent = true) : ¬ s.Overtakes s.effectiveBinding := by
  simp only [ScopeState.quiescent, Bool.and_eq_true, List.all_eq_true] at quiescent
  rintro (passed | ⟨thread, kind, here⟩)
  · exact Nat.lt_irrefl _ passed
  · have idle := quiescent.2 _ (List.mem_of_getElem? here)
    cases idle

/-- No manager is inside a publication while nothing is half done. -/
theorem not_sending (quiescent : s.quiescent = true) {i : Nat}
    {m : StateManager Arc Error} (here : s.managers[i]? = some m) : m.sending = false := by
  simp only [ScopeState.quiescent, Bool.and_eq_true, List.all_eq_true] at quiescent
  have idle := quiescent.1 _ (List.mem_of_getElem? here)
  unfold sending
  cases reached : m.guardPoint with
  | none => rfl
  | some point =>
    cases point with
    | held _ | advanced _ => rfl
    | replaced _ =>
      rw [reached] at idle
      cases idle

/-- A value is returned by a call on a manager. -/
theorem resolved_calling {lookup arc} (returned : s.resolved lookup = some arc) :
    ∃ i c m call, lookup = .calling i c ∧ s.managers[i]? = some m ∧ m.calls[c]? = some call ∧
      call.point = .returned (.ok (.snapshot arc)) := by
  cases lookup with
  | readBinding | readSlot _ => cases returned
  | calling i c =>
    simp only [resolved, Option.bind_eq_some_iff] at returned
    obtain ⟨m, here, call, called, point⟩ := returned
    refine ⟨i, c, m, call, rfl, here, called, ?_⟩
    split at point
    · rename_i stands
      cases point
      exact stands
    · cases point

end ScopeState

/-- In every state of every run without counter overflow in which nothing is
half done: when a generation captured its baseline while the value of the slot
was settled, and what it has resolved is not what the slot would return now,
then its dependency watch is ready. -/
theorem stale_generation_noticed [DecidableEq Arc] (id : Nat)
    {schedule : List (ScopeAction Arc Error)} {state : ScopeState Arc Error}
    (run : GuardedRun ScopeState.step
      (fun state _ => state.countersBelow = true) (ScopeState.new id) schedule
      state) (quiescent : state.quiescent = true) :
    ∀ generation ∈ state.generations, ∀ baseline,
      generation.capture = .captured baseline → baseline.settled = true →
      ∀ lookup ∈ generation.resolves, ∀ arc,
        state.resolved lookup = some arc →
        state.effectiveValue ≠ some arc → state.watchReady baseline := by
  have watched : BaselineWatched state :=
    run.invariant (.new id) fun watched below stepped =>
      watched.step below stepped
  intro generation member baseline captured settled lookup looked arc returned
    stale
  obtain ⟨number, there⟩ := List.getElem?_of_mem member
  have tracks := watched.generations number generation there
  unfold Tracks at tracks
  simp only [captured] at tracks
  obtain ⟨bound, follows, held⟩ := tracks
  obtain ⟨manager, here, _, _, fresh⟩ := held settled
  by_contra unready
  simp only [ScopeState.watchReady, not_or, not_not, here, Option.map_some,
    Option.some.injEq] at unready
  obtain ⟨epoch, binding⟩ := unready
  -- The binding is still the captured one, so body and watch share a manager.
  have current : ¬ state.Overtakes baseline.binding := by
    rw [← binding]
    exact ScopeState.not_overtakes quiescent
  have slot : baseline.manager = state.managerFor state.effectiveBinding := by
    rcases bound.inEffect with overtakes | ⟨_, slot⟩
    · exact absurd overtakes current
    · exact slot
  obtain ⟨index, caller, _, call, rfl, found, called, point⟩ :=
    ScopeState.resolved_calling returned
  have same : index = baseline.manager := by
    rcases follows _ looked with overtakes | same
    · exact absurd overtakes current
    · exact same
  subst same
  cases here.symm.trans found
  obtain ⟨_, again, read⟩ := fresh caller looked
  cases called.symm.trans again
  rw [point] at read
  rcases read with now | passed | sending
  · apply stale
    rw [ScopeState.effectiveValue, ← slot, here]
    exact now
  · rw [epoch] at passed
    exact UInt64.lt_irrefl _ passed
  · cases (ScopeState.not_sending quiescent here).symm.trans sending

/-- The root slot holds 1 when a generation captures its baseline; the body
resolves 1, and then an override installs 5 and a publication writes 2 into the
root slot. -/
theorem stale_generation_noticed_override :
    ∃ state : ScopeState Nat Unit,
      GuardedRun ScopeState.step (fun state _ => state.countersBelow = true)
          (ScopeState.new 3)
          [.manager 0 (.resolve .rwlock), .manager 0 (.advance 0),
            .manager 0 (.advance 0), .manager 0 (.initReturns 0 (.ok 1)),
            .manager 0 (.advance 0), .manager 0 (.advance 0),
            .manager 0 (.advance 0), .startGeneration, .capture 0,
            .capture 0, .capture 0, .resolveProviderSnapshot 0, .lookup 0 0,
            .lookup 0 0, .manager 0 (.advance 1),
            .manager 0 (.guard .write), .manager 0 (.guard (.publish 2)),
            .installLocalSlot 5 .override, .install 0, .install 0,
            .install 0, .manager 0 (.guard .fetchAdd),
            .manager 0 (.guard .notifyWaiters)] state ∧
        (state.quiescent = true ∧ state.generations =
            [⟨.captured ⟨⟨0, .inheritedRoot, 0⟩, 0, 0, true⟩, [.calling 0 1]⟩] ∧
          state.resolved (.calling 0 1) = some 1 ∧
          state.effectiveValue = some 5) ∧
        state.watchReady ⟨⟨0, .inheritedRoot, 0⟩, 0, 0, true⟩ := by
  refine GuardedRun.exists_and (by decide +kernel) fun state run outcome => ?_
  obtain ⟨quiescent, generations, returned, value⟩ := outcome
  refine stale_generation_noticed 3 run quiescent
    ⟨.captured ⟨⟨0, .inheritedRoot, 0⟩, 0, 0, true⟩, [.calling 0 1]⟩ ?_ _ rfl
    rfl (.calling 0 1) ?_ 1 returned ?_
  · rw [generations]
    exact List.mem_singleton_self _
  · exact List.mem_singleton_self _
  · rw [value]
    decide

/-- An initialiser of the lock has found the cache empty and awaits its value;
meanwhile another call has cached 2. -/
def cachedWhileLocking : List (ScopeAction Nat Unit) :=
  [.manager 0 (.resolve .rwlock), .manager 0 (.advance 0),
    .manager 0 (.advance 0), .manager 0 (.resolve .snapshot),
    .manager 0 (.advance 1), .manager 0 (.advance 1),
    .manager 0 (.advance 1), .manager 0 (.initReturns 1 (.ok 2)),
    .manager 0 (.advance 1)]

/-- The capture of a generation, whose body then resolves the provider. -/
def capturesAndResolves : List (ScopeAction Nat Unit) :=
  [.startGeneration, .capture 0, .capture 0, .capture 0,
    .resolveProviderSnapshot 0, .lookup 0 0, .lookup 0 0,
    .manager 0 (.advance 2), .manager 0 (.advance 2)]

/-- The slot holds 2 when the baseline is captured and the body resolves 2.
Then the lock is made with the 1 of its own initialiser: the slot returns 1
from there on, and neither epoch nor binding has changed. -/
theorem stale_generation_unnoticed :
    (∃ state : ScopeState Nat Unit,
      GuardedRun ScopeState.step (fun state _ => state.countersBelow = true)
          (ScopeState.new 3) cachedWhileLocking state ∧
        state.effectiveValue = some 2) ∧
      ∃ state : ScopeState Nat Unit,
        GuardedRun ScopeState.step (fun state _ => state.countersBelow = true)
            (ScopeState.new 3)
            (cachedWhileLocking ++ capturesAndResolves ++
              [.manager 0 (.initReturns 0 (.ok 1)), .manager 0 (.advance 0),
                .manager 0 (.advance 0), .manager 0 (.advance 0)]) state ∧
          state.quiescent = true ∧
          state.generations = [⟨.captured ⟨⟨0, .inheritedRoot, 0⟩, 0, 0, false⟩, [.calling 0 2]⟩] ∧
          state.resolved (.calling 0 2) = some 2 ∧
          state.effectiveValue = some 1 ∧
          ¬ state.watchReady ⟨⟨0, .inheritedRoot, 0⟩, 0, 0, false⟩ :=
  ⟨GuardedRun.exists_of_check (by decide +kernel), GuardedRun.exists_of_check (by decide +kernel)⟩

end ServiceDaemon
