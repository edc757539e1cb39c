/-
Purpose: What identity the messages of a cascade carry: each its own new
  identifier and the service whose handler published it.
Main exports: OnePending, Cascade.Traced, CausalChain, causal_origin_iff
-/
import ServiceDaemon.Proofs.RelayIdentity

namespace ServiceDaemon

open AsyncLib StepSystem

/-!
Along one hop an identity is passed on as it was captured.  It is captured from
the task-local service of the publisher, so a handler stamps its message with
its own service and not with the source of the message it handles.

[SRC core/managed_state.rs, core/trigger_runner/dispatch.rs]
[SRC docs/architecture/causal-tracing.md]
-/

/-! ### The daemon -/

/-- A publication begins only when no other message of its provider is
pending. -/
def OnePending {Payload : Type} (cascade : Cascade Payload) :
    CascadeAction Payload → Prop
  | .publish _ target _ _ => (cascade.relays[target]?.all Relay.idle) = true
  | .relay _ _ => True

instance {Payload : Type} (cascade : Cascade Payload) :
    (a : CascadeAction Payload) → Decidable (OnePending cascade a)
  | .publish _ _ _ _ => inferInstanceAs (Decidable (_ = true))
  | .relay _ _ => isTrue trivial

namespace Cascade

variable {Payload : Type} {cascade next : Cascade Payload}

/-- The publication was made by the handler of the dispatch, which handles an
earlier one, and in the service of its trigger or in none. -/
structure CausedBy (cascade : Cascade Payload) (i : Nat)
    (pub : Publication) (cause : DispatchRef) (relay : Relay Payload)
    (handled : Dispatched) : Prop where
  trigger : cascade.relays[cause.trigger]? = some relay
  dispatch : relay.dispatch cause.seq = some handled
  earlier : ∃ before < i,
    cascade.published[before]? = some handled.publication
  scope : pub.scope = some relay.config.serviceId ∨ pub.scope = none

/-- Every trigger passes on what was published, under distinct identifiers, and
what a handler published comes after what it handles. -/
structure Traced (cascade : Cascade Payload) : Prop where
  carried : ∀ relay ∈ cascade.relays, relay.Carries (· ∈ cascade.published)
  distinct : (cascade.published.map Publication.messageId).Nodup
  caused : ∀ i pub cause,
    cascade.published[i]? = some pub → pub.cause = some cause →
        ∃ relay handled, cascade.CausedBy i pub cause relay handled

/-- A cause stays when triggers go on and more is published. -/
theorem CausedBy.extend
    (caused : cascade.CausedBy i pub cause relay handled) (more : List Publication)
    (found : cascade.relays[target]? = some mover) (extended : mover.Extends moved) :
    ∃ relay handled,
      CausedBy
        { relays := cascade.relays.set target moved, published := cascade.published ++ more }
        i pub cause relay handled := by
  obtain ⟨before, less, mem⟩ := caused.earlier
  have earlier : ∃ before < i,
      (cascade.published ++ more)[before]? = some handled.publication :=
    ⟨before, less, getElem?_of_grows (List.prefix_append _ _) mem⟩
  by_cases same : cause.trigger = target
  · have mover_eq : relay = mover := by
      have there := caused.trigger
      rw [same, found] at there
      exact (Option.some.inj there).symm
    subst mover_eq
    refine ⟨moved, handled, ?_, extended.dispatch caused.dispatch, earlier, ?_⟩
    · rw [same]
      exact Threads.set_self found
    · rw [extended.config]
      exact caused.scope
  · refine ⟨relay, handled, ?_, caused.dispatch, earlier, caused.scope⟩
    rw [List.getElem?_set_ne (Ne.symm same)]
    exact caused.trigger

namespace Traced

theorem new (now : Instant) (triggers : List (RunnerConfig × ProviderKind)) :
    (Cascade.new now triggers : Cascade Payload).Traced where
  carried := by
    intro relay mem
    obtain ⟨⟨cfg, kind⟩, -, rfl⟩ := List.mem_map.mp mem
    exact .new now cfg kind
  distinct := List.nodup_nil
  caused := nofun

theorem relay (traced : cascade.Traced)
    (found : cascade.relays[i]? = some mover) (h : mover.step a = some moved) :
    Traced { cascade with relays := cascade.relays.set i moved } where
  carried := by
    intro other mem
    rcases List.mem_or_eq_of_mem_set mem with old | rfl
    · exact traced.carried other old
    · exact (traced.carried mover (List.mem_of_getElem? found)).step h
  distinct := traced.distinct
  caused := by
    intro place pub cause mem because
    obtain ⟨relay, handled, caused⟩ := traced.caused place pub cause mem because
    have extended := caused.extend [] found (.step h)
    rwa [List.append_nil] at extended

/-- What a publisher does is recorded as it was done. -/
theorem publication_cause (traced : cascade.Traced) {messageId publisher publication cause}
    (made : cascade.publication messageId publisher = some publication)
    (because : publication.cause = some cause) :
    ∃ relay handled,
      cascade.CausedBy cascade.published.length publication cause relay
        handled := by
  cases publisher with
  | service scope =>
    cases made
    cases because
  | handler dispatch inScope =>
    simp only [Cascade.publication] at made
    split at made
    · cases made
    case h_2 relay found =>
      split at made
      case isFalse => cases made
      case isTrue handles =>
        cases made
        cases because
        have carries := traced.carried relay (List.mem_of_getElem? found)
        obtain ⟨handled, dispatched⟩ := carries.handles handles
        obtain ⟨before, mem⟩ := List.mem_iff_getElem?.mp (carries.dispatch dispatched).2
        refine ⟨relay, handled, found, dispatched,
          ⟨before, (List.getElem?_eq_some_iff.mp mem).1, mem⟩, ?_⟩
        cases inScope with
        | true => exact .inl rfl
        | false => exact .inr rfl

/-- The publication has the identifier that was drawn for it. -/
theorem publication_messageId {messageId publisher publication}
    (made : cascade.publication messageId publisher = some publication) :
    publication.messageId = messageId := by
  cases publisher with
  | service scope =>
    cases made
    rfl
  | handler dispatch inScope =>
    simp only [Cascade.publication] at made
    split at made
    · cases made
    · split at made
      · cases made
        rfl
      · cases made

theorem publish (traced : cascade.Traced) {publisher target messageId value}
    (guarded : OnePending cascade (.publish publisher target messageId value))
    (h : cascade.publish publisher target messageId value = some next) : next.Traced := by
  unfold Cascade.publish at h
  split at h
  case isTrue => cases h
  case isFalse fresh =>
    split at h
    case h_2 => cases h
    case h_1 pub mover made found =>
      obtain ⟨moved, stored, rfl⟩ := Option.map_eq_some_iff.mp h
      have idle : mover.idle = true := by
        simpa only [OnePending, found, Option.all_some] using guarded
      refine ⟨?_, ?_, ?_⟩
      · intro other mem
        have widens : ∀ other, other ∈ cascade.published → other ∈ cascade.published ++ [pub] :=
          fun _ => List.mem_append_left _
        rcases List.mem_or_eq_of_mem_set mem with old | rfl
        · exact (traced.carried other old).mono widens
        · have carries := traced.carried mover (List.mem_of_getElem? found)
          exact (carries.mono widens).store idle
            (List.mem_append_right _ (List.mem_singleton_self _)) stored
      · rw [List.map_append, List.map_singleton, publication_messageId made]
        exact List.nodup_append.mpr ⟨traced.distinct, List.nodup_singleton _,
          fun old mem new added same => fresh (by
            rw [List.mem_singleton.mp added] at same
            rwa [same] at mem)⟩
      · intro place other cause mem because
        rcases Threads.concat_cases mem with old | ⟨rfl, rfl⟩
        · obtain ⟨relay, handled, caused⟩ := traced.caused place other cause old because
          exact caused.extend _ found (.store stored)
        · obtain ⟨relay, handled, caused⟩ := traced.publication_cause made because
          exact caused.extend _ found (.store stored)

theorem step (traced : cascade.Traced) (guarded : OnePending cascade a)
    (h : cascade.step a = some next) : next.Traced := by
  cases a with
  | publish publisher target messageId value => exact traced.publish guarded h
  | relay i a =>
    simp only [Cascade.step] at h
    split at h
    · cases h
    case h_2 mover found =>
      obtain ⟨moved, step, rfl⟩ := Option.map_eq_some_iff.mp h
      exact traced.relay found step

/-- A dispatch of the daemon has the identity of what it handles, which was
published. -/
theorem dispatch (traced : cascade.Traced) (found : cascade.dispatch ref = some dispatched) :
    dispatched.messageId = dispatched.publication.messageId ∧
      dispatched.sourceId = currentServiceId dispatched.publication.scope ∧
      dispatched.publication ∈ cascade.published := by
  obtain ⟨relay, there, here⟩ := Option.bind_eq_some_iff.mp found
  obtain ⟨own, published⟩ := (traced.carried relay (List.mem_of_getElem? there)).dispatch here
  exact ⟨congrArg Prod.fst own, congrArg Prod.snd own, published⟩

/-- Publications at different places have different identifiers. -/
theorem place_unique (traced : cascade.Traced) {one two : Nat} {first second : Publication}
    (here : cascade.published[one]? = some first) (there : cascade.published[two]? = some second)
    (same : first.messageId = second.messageId) : one = two := by
  have inside : one < (cascade.published.map Publication.messageId).length := by
    rw [List.length_map]
    exact (List.getElem?_eq_some_iff.mp here).1
  refine (List.getElem?_inj inside traced.distinct).mp ?_
  rw [List.getElem?_map, List.getElem?_map, here, there, Option.map_some, Option.map_some, same]

end Traced

end Cascade

/-! ### Chains -/

section Chain

variable {Payload : Type} {cascade : Cascade Payload} {first : Dispatched}
  {rest : List Dispatched} {last : DispatchRef}

/-- Dispatches of which each handles what the handler of the one before it
published; no handler published what the first one handles. -/
inductive CausalChain (cascade : Cascade Payload) (first : Dispatched) :
    List Dispatched → DispatchRef → Prop where
  | start {ref} (found : cascade.dispatch ref = some first)
      (origin : first.publication.cause = none) :
      CausalChain cascade first [] ref
  | next {rest last ref dispatched}
      (earlier : CausalChain cascade first rest last)
      (found : cascade.dispatch ref = some dispatched)
      (because : dispatched.publication.cause = some last) :
      CausalChain cascade first (rest ++ [dispatched]) ref

/-- The publication was made under the given service: by a handler in the
service of its trigger, or outside of every service, where the identifier is
zero. -/
def Cascade.PublishedUnder (cascade : Cascade Payload) (svc : ServiceId)
    (pub : Publication) : Prop :=
  match pub.scope with
  | none => svc = ⟨0⟩
  | some _ => ∃ cause relay, pub.cause = some cause ∧ cascade.relays[cause.trigger]? = some relay ∧
      relay.config.serviceId = svc

namespace CausalChain

/-- The dispatches of a chain. -/
theorem dispatched (chain : CausalChain cascade first rest last) :
    ∀ each ∈ first :: rest, ∃ ref, cascade.dispatch ref = some each := by
  induction chain with
  | start found _ =>
    intro each mem
    rw [List.mem_singleton.mp mem]
    exact ⟨_, found⟩
  | next _ found _ ih =>
    intro each mem
    rw [← List.cons_append] at mem
    rcases List.mem_append.mp mem with old | new
    · exact ih each old
    · rw [List.mem_singleton.mp new]
      exact ⟨_, found⟩

/-- All but the first were published by a handler. -/
theorem caused (chain : CausalChain cascade first rest last) :
    ∀ each ∈ rest, ∃ cause, each.publication.cause = some cause := by
  induction chain with
  | start _ _ => exact nofun
  | next _ _ because ih =>
    intro each mem
    rcases List.mem_append.mp mem with old | new
    · exact ih each old
    · rw [List.mem_singleton.mp new]
      exact ⟨_, because⟩

/-- What a chain handles was published in the order of the chain: wherever the
last publication stands, the others stand no later, and no identifier comes
twice. -/
theorem ordered (traced : cascade.Traced) (chain : CausalChain cascade first rest last) :
    ((first :: rest).map Dispatched.messageId).Nodup ∧ ∃ final, cascade.dispatch last = some final ∧
        ∀ i : Nat, cascade.published[i]? = some final.publication →
          ∀ each ∈ first :: rest, ∃ place ≤ i,
            cascade.published[place]? = some each.publication := by
  induction chain with
  | start found _ =>
    refine ⟨List.nodup_singleton _, first, found, ?_⟩
    intro i here each mem
    rw [List.mem_singleton.mp mem]
    exact ⟨i, Nat.le_refl _, here⟩
  | @next rest before ref dispatched earlier found because
      ih =>
    obtain ⟨distinct, final, ending, places⟩ := ih
    -- the publications of the chain so far stand before the new one
    have precedes : ∀ i : Nat,
        cascade.published[i]? = some dispatched.publication → ∀ each ∈ first :: rest, ∃ place < i,
            cascade.published[place]? = some each.publication := by
      intro i here each mem
      obtain ⟨relay, handled, caused⟩ := traced.caused i _ before here because
      have same : handled = final := by
        have again := ending
        rw [Cascade.dispatch, caused.trigger, Option.bind_some, caused.dispatch] at again
        exact Option.some.inj again
      obtain ⟨middle, less, there⟩ := caused.earlier
      rw [same] at there
      obtain ⟨place, most, standing⟩ := places middle there each mem
      exact ⟨place, Nat.lt_of_le_of_lt most less, standing⟩
    refine ⟨?_, dispatched, found, ?_⟩
    · rw [← List.cons_append, List.map_append, List.map_singleton]
      refine List.nodup_append.mpr ⟨distinct, List.nodup_singleton _, ?_⟩
      intro old mem new added same
      rw [List.mem_singleton.mp added] at same
      obtain ⟨each, member, rfl⟩ := List.mem_map.mp mem
      obtain ⟨own, -, published⟩ := traced.dispatch found
      obtain ⟨i, here⟩ := List.mem_iff_getElem?.mp published
      obtain ⟨place, less, standing⟩ := precedes i here each member
      obtain ⟨ref, dispatches⟩ := earlier.dispatched each member
      have ids : each.publication.messageId = dispatched.publication.messageId := by
        rw [← (traced.dispatch dispatches).1, ← own]
        exact same
      exact absurd (traced.place_unique standing here ids) (Nat.ne_of_lt less)
    · intro i here each mem
      rw [← List.cons_append] at mem
      rcases List.mem_append.mp mem with old | new
      · obtain ⟨place, less, standing⟩ := precedes i here each old
        exact ⟨place, Nat.le_of_lt less, standing⟩
      · rw [List.mem_singleton.mp new]
        exact ⟨i, Nat.le_refl _, here⟩

end CausalChain

/-- A dispatch has its publisher's service as source. -/
theorem Cascade.Traced.sourceId_eq_iff (traced : cascade.Traced)
    (found : cascade.dispatch ref = some dispatched)
    (because : dispatched.publication.cause = some cause) (svc : ServiceId) :
    dispatched.sourceId = svc ↔ cascade.PublishedUnder svc dispatched.publication := by
  obtain ⟨-, source, published⟩ := traced.dispatch found
  obtain ⟨i, here⟩ := List.mem_iff_getElem?.mp published
  obtain ⟨relay, handled, caused⟩ := traced.caused i _ cause here because
  rw [source, Cascade.PublishedUnder]
  rcases caused.scope with inside | outside
  · rw [inside]
    constructor
    · intro same
      exact ⟨cause, relay, because, caused.trigger, same⟩
    · rintro ⟨other, found, sameCause, there, same⟩
      rw [because] at sameCause
      cases sameCause
      rw [caused.trigger] at there
      cases there
      exact same
  · rw [outside]
    exact eq_comm

/-- Along every chain of dispatches, with one message of a provider pending at a
time: the first message has the service that published it as its source, every
message has a new identifier, which no earlier publication had and none of the
chain has twice, and all messages have the source of the first exactly when
every handler of the chain published under that service. -/
theorem causal_origin_iff {now : Instant} {triggers : List (RunnerConfig × ProviderKind)}
    {schedule : List (CascadeAction Payload)}
    (run : GuardedRun Cascade.step OnePending (Cascade.new now triggers) schedule cascade)
    (chain : CausalChain cascade first rest last) :
    first.sourceId = currentServiceId first.publication.scope ∧
      ((first :: rest).map Dispatched.messageId).Nodup ∧
      (∀ each ∈ first :: rest, ∃ index, cascade.published[index]? = some each.publication ∧
          each.messageId = each.publication.messageId ∧
          each.messageId ∉ (cascade.published.take index).map Publication.messageId) ∧
      ((∀ each ∈ rest, each.sourceId = first.sourceId) ↔ ∀ each ∈ rest,
          cascade.PublishedUnder first.sourceId each.publication) := by
  have traced : cascade.Traced :=
    run.invariant (.new now triggers) fun traced guarded stepped =>
      traced.step guarded stepped
  refine ⟨?_, (chain.ordered traced).1, ?_, ?_⟩
  · obtain ⟨ref, found⟩ := chain.dispatched first List.mem_cons_self
    exact (traced.dispatch found).2.1
  · intro each listed
    obtain ⟨ref, found⟩ := chain.dispatched each listed
    obtain ⟨identifier, -, published⟩ := traced.dispatch found
    obtain ⟨index, here⟩ := List.mem_iff_getElem?.mp published
    refine ⟨index, here, identifier, ?_⟩
    intro before
    obtain ⟨other, taken, same⟩ := List.mem_map.mp before
    obtain ⟨place, there⟩ := List.mem_iff_getElem?.mp taken
    rw [List.getElem?_take] at there
    split at there
    · have clash := traced.place_unique there here (same.trans identifier)
      omega
    · cases there
  · have each_iff : ∀ each ∈ rest, each.sourceId = first.sourceId ↔
        cascade.PublishedUnder first.sourceId each.publication := by
      intro each listed
      obtain ⟨ref, found⟩ :=
        chain.dispatched each (List.mem_cons_of_mem _ listed)
      obtain ⟨cause, because⟩ := chain.caused each listed
      exact traced.sourceId_eq_iff found because first.sourceId
    constructor
    · intro same each listed
      exact (each_iff each listed).mp (same each listed)
    · intro under each listed
      exact (each_iff each listed).mpr (under each listed)

end Chain

/-! ### Two hops -/

/-- A queue whose trigger runs in service 1, and a signal whose trigger runs in
service 2. -/
def queueThenSignal : List (RunnerConfig × ProviderKind) :=
  [(.managed none, .queue 16), ({ RunnerConfig.managed none with serviceId := ⟨2⟩ }, .notify)]

/-- A service pushes to the queue, and the handler of its message notifies the
signal, whose trigger is already waiting. -/
def twoHops (origin : ServiceId) : List (CascadeAction Nat) :=
  List.flatten
    [[.publish (.service (some origin)) 0 100 5, .relay 0 (.deliver 0)],
      List.replicate 4 (.relay 0 (.queueRunner .loop)),
      [.relay 0 .recv, .relay 0 .takeIdentity],
      List.replicate 14 (.relay 0 (.queueRunner .loop)),
      List.replicate 4 (.relay 1 (.signalRunner .loop)),
      [.relay 1 .pollStep, .relay 1 .pollStep,
        .publish (.handler ⟨0, 0⟩ true) 1 101 0, .relay 1 (.deliver 0)],
      List.replicate 5 (.relay 1 (.signalRunner .loop)),
      [.relay 1 .pollStep],
      List.replicate 14 (.relay 1 (.signalRunner .loop))]

/-- The message of the service. -/
def firstHop (origin : ServiceId) : Dispatched :=
  { publication := { cause := none, scope := some origin, messageId := 100 }
    messageId := 100
    sourceId := origin }

/-- The message of the handler. -/
def secondHop : Dispatched :=
  { publication :=
      { cause := some ⟨0, 0⟩, scope := some ⟨1⟩, messageId := 101 }
    messageId := 101
    sourceId := ⟨1⟩ }

theorem two_hops_chain {cascade : Cascade Nat} {origin : ServiceId}
    (first : cascade.dispatch ⟨0, 0⟩ = some (firstHop origin))
    (second : cascade.dispatch ⟨1, 0⟩ = some secondHop) :
    CausalChain cascade (firstHop origin) [secondHop] ⟨1, 0⟩ :=
  .next (.start first rfl) second rfl

/-- The service of the queue's trigger publishes to its own queue. -/
theorem causal_origin_iff_same_service :
    ∃ cascade : Cascade Nat,
      GuardedRun Cascade.step OnePending (Cascade.new 0 queueThenSignal)
          (twoHops ⟨1⟩) cascade ∧
        CausalChain cascade (firstHop ⟨1⟩) [secondHop] ⟨1, 0⟩ ∧
        (∀ each ∈ [secondHop], cascade.PublishedUnder ⟨1⟩ each.publication) ∧
        ∀ each ∈ [secondHop], each.sourceId = (firstHop ⟨1⟩).sourceId := by
  obtain ⟨cascade, run, first, second, trigger⟩ :
      ∃ cascade : Cascade Nat,
        GuardedRun Cascade.step OnePending (Cascade.new 0 queueThenSignal)
            (twoHops ⟨1⟩) cascade ∧
          cascade.dispatch ⟨0, 0⟩ = some (firstHop ⟨1⟩) ∧
          cascade.dispatch ⟨1, 0⟩ = some secondHop ∧
          cascade.relays[0]?.map (fun relay => relay.config.serviceId) = some ⟨1⟩ :=
    GuardedRun.exists_of_check (by decide +kernel)
  obtain ⟨relay, found, service⟩ := Option.map_eq_some_iff.mp trigger
  have chain := two_hops_chain first second
  have under : ∀ each ∈ [secondHop],
      cascade.PublishedUnder ⟨1⟩ each.publication := by
    intro each listed
    rw [List.mem_singleton.mp listed]
    exact ⟨⟨0, 0⟩, relay, rfl, found, service⟩
  exact ⟨cascade, run, chain, under, (causal_origin_iff run chain).2.2.2.mpr under⟩

/-- Service 7 starts the chain, and its second message has service 1 as its
source. -/
theorem causal_origin_replaced :
    ∃ cascade : Cascade Nat,
      GuardedRun Cascade.step OnePending (Cascade.new 0 queueThenSignal)
          (twoHops ⟨7⟩) cascade ∧
        CausalChain cascade (firstHop ⟨7⟩) [secondHop] ⟨1, 0⟩ ∧
        secondHop.sourceId ≠ (firstHop ⟨7⟩).sourceId := by
  obtain ⟨cascade, run, first, second⟩ :
      ∃ cascade : Cascade Nat,
        GuardedRun Cascade.step OnePending (Cascade.new 0 queueThenSignal)
            (twoHops ⟨7⟩) cascade ∧
          cascade.dispatch ⟨0, 0⟩ = some (firstHop ⟨7⟩) ∧
          cascade.dispatch ⟨1, 0⟩ = some secondHop :=
    GuardedRun.exists_of_check (by decide +kernel)
  exact ⟨cascade, run, two_hops_chain first second, by decide⟩

end ServiceDaemon
