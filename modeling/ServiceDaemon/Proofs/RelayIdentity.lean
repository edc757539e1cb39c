/-
Purpose: A signal or queue with one message pending and its trigger pass every
  message on under the identity that its publisher captured.
Main exports: SignalRelay.Carries, QueueTriggerState.Carries, QueueMove
-/
import ServiceDaemon.Core.Cascade
import ServiceDaemon.Proofs.DispatchAccounting
import ServiceDaemon.Proofs.QueueIdentity

namespace ServiceDaemon

open AsyncLib StepSystem SignalTrigger

/-!
The identity goes from the slot to the host, from there into the frame of
`dispatch`, and into the context of the task.  A signal keeps it beside the
future that the call has woken, a queue beside the value in the channel.

[SRC core/managed_state.rs, core/triggers.rs, core/trigger_runner/dispatch.rs]
-/

/-! ### Dispatches stay -/

section Runner

variable {Payload : Type} {cfg : RunnerConfig}
  {s next : RunnerState Payload}

/-- The dispatches of a generation are only added to. -/
theorem contexts_grow (h : Runner.step cfg s a = some next) : s.contexts <+: next.contexts := by
  have same (contexts : next.contexts = s.contexts) :
      s.contexts <+: next.contexts := by
    rw [contexts]
  cases Move.of_step h with
  | loop elsewhere move =>
    rcases move.idle with idle | ⟨_, _, _, _, rfl⟩
    · exact same idle.contexts
    · exact same rfl
  | dispatch here move =>
    cases move with
    | spawns =>
      simp only [RunnerState.contexts, RunnerState.spawnDispatch, List.map_append]
      exact List.prefix_append _ _
    | _ => exact same rfl
  | drops | dropsQueued => exact same (dropObservers_contexts _ _)
  | returnsPermit found _ | completes found _ => exact same (contexts_set found rfl)
  | _ => exact same rfl

theorem DispatchOrder.silent (order : DispatchOrder cfg accepted s)
    (h : Runner.step cfg s a = some next)
    (none : a.accepted = none) : DispatchOrder cfg accepted next := by
  have after := order.step h
  rwa [none, Option.toList_none, List.append_nil] at after

end Runner

theorem getElem?_of_grows {Item : Type} {items longer : List Item} {i : Nat} {item : Item}
    (grows : items <+: longer) (found : items[i]? = some item) : longer[i]? = some item := by
  obtain ⟨inside, rfl⟩ := List.getElem?_eq_some_iff.mp found
  exact List.prefix_iff_getElem?.mp grows i inside

/-! ### Signals -/

/-- The host answers only through a poll, so nothing is accepted by another
step of the generation. -/
theorem SignalTrigger.runner_of_step (h : step cfg s (.runner a) = some next) :
    a.accepted = none ∧ runnerMoves cfg s a = some next := by
  cases a with
  | hostReady _ | hostPending => cases h
  | _ => exact ⟨rfl, h⟩

/-- The dispatches of a signal trigger are only added to. -/
theorem SignalTrigger.contexts_grow (h : step cfg s a = some next) :
    s.runner.contexts <+: next.runner.contexts := by
  cases a with
  | writeIdentity identity =>
    cases h
    exact List.prefix_rfl
  | notifyWaiters =>
    obtain ⟨signal, _, rfl⟩ := Option.map_eq_some_iff.mp h
    exact List.prefix_rfl
  | pollStep =>
    simp only [step, pollStep] at h
    split at h
    · split at h
      · cases h
        exact List.prefix_rfl
      · cases h
    · obtain ⟨runner, moved, rfl⟩ := Option.map_eq_some_iff.mp h
      exact ServiceDaemon.contexts_grow moved
    · obtain ⟨runner, moved, rfl⟩ := Option.map_eq_some_iff.mp h
      exact ServiceDaemon.contexts_grow moved
  | runner a =>
    obtain ⟨runner, moved, rfl⟩ := Option.map_eq_some_iff.mp (runner_of_step h).2
    exact ServiceDaemon.contexts_grow moved

namespace SignalRelay

/-- The slot holds the identity of the only call under way, or of the call that
woke the future, and the dispatches have the identities of the accepted
calls. -/
structure Carries (cfg : RunnerConfig) (known : Publication → Prop)
    (s : SignalRelay) : Prop where
  calling : ∀ pub ∈ s.calls, s.calls = [pub] ∧ s.trigger.signal.lastId = some pub.identity ∧
    s.trigger.signal.future ≠ some .notified
  waking : s.trigger.signal.future = some .notified →
    ∃ pub, s.woken = some pub ∧ s.trigger.signal.lastId = some pub.identity
  known_calls : ∀ pub ∈ s.calls, known pub
  known_woken : ∀ pub, s.woken = some pub → known pub
  known_accepted : ∀ pub ∈ s.accepted, known pub
  order : DispatchOrder cfg
    (s.accepted.map fun pub => ((), some pub.identity))
    s.trigger.runner

namespace Carries

variable {cfg : RunnerConfig} {known wider : Publication → Prop}
  {s next : SignalRelay}

theorem new (now : Instant) : Carries cfg known (.new cfg now) where
  calling := nofun
  waking := nofun
  known_calls := nofun
  known_woken := nofun
  known_accepted := nofun
  order := .new cfg now

theorem mono (carries : Carries cfg known s) (widens : ∀ pub, known pub → wider pub) :
    Carries cfg wider s where
  calling := carries.calling
  waking := carries.waking
  known_calls := fun pub mem =>
    widens pub (carries.known_calls pub mem)
  known_woken := fun pub woke =>
    widens pub (carries.known_woken pub woke)
  known_accepted := fun pub mem =>
    widens pub (carries.known_accepted pub mem)
  order := carries.order

theorem store (carries : Carries cfg known s) {pub} (idle : s.idle = true)
    (new : known pub) (h : s.store cfg pub = some next) : Carries cfg known next := by
  simp only [SignalRelay.idle, Bool.and_eq_true, List.isEmpty_iff, bne_iff_ne] at idle
  cases h
  have only : s.calls ++ [pub] = [pub] := by
    rw [idle.1, List.nil_append]
  refine ⟨?_, ?_, ?_, carries.known_woken, carries.known_accepted, carries.order⟩
  · intro other mem
    rw [only, List.mem_singleton] at mem
    subst mem
    exact ⟨only, rfl, idle.2⟩
  · intro notified
    exact absurd notified idle.2
  · intro other mem
    rw [only, List.mem_singleton] at mem
    rw [mem]
    exact new

theorem deliver (carries : Carries cfg known s) (h : s.deliver cfg call = some next) :
    Carries cfg known next := by
  unfold SignalRelay.deliver at h
  split at h
  · cases h
  case h_2 pub found =>
    have listed := List.mem_of_getElem? found
    obtain ⟨only, stored, -⟩ := carries.calling pub listed
    have first : call = 0 := by
      have inside := (List.getElem?_eq_some_iff.mp found).1
      simp only [only, List.length_singleton] at inside
      omega
    have rest : s.calls.eraseIdx call = [] := by
      rw [first, only]
      rfl
    simp only [step, Option.map_map, Option.map_eq_some_iff] at h
    obtain ⟨signal, woke, rfl⟩ := h
    have kept : signal.lastId = s.trigger.signal.lastId ∧ signal.future =
          s.trigger.signal.future.map fun _ => Notified.notified := by
      unfold TrackedNotify.notifyWaiters at woke
      split at woke
      · cases woke
      · cases woke
        exact ⟨rfl, rfl⟩
    refine ⟨?_, ?_, ?_, ?_, carries.known_accepted, carries.order⟩
    · intro other still
      simp only [Function.comp_apply, rest] at still
      cases still
    · intro notified
      simp only [Function.comp_apply, kept.2] at notified
      refine ⟨pub, ?_, kept.1.trans stored⟩
      cases future : s.trigger.signal.future with
      | none =>
        rw [future] at notified
        cases notified
      | some _ => rfl
    · intro other still
      simp only [Function.comp_apply, rest] at still
      cases still
    · intro other woken
      simp only [Function.comp_apply] at woken
      split at woken
      · cases woken
        exact carries.known_calls pub listed
      · exact carries.known_woken other woken

theorem pollStep (carries : Carries cfg known s) (h : s.pollStep cfg = some next) :
    Carries cfg known next := by
  simp only [SignalRelay.pollStep, SignalTrigger.step, Option.map_eq_some_iff] at h
  obtain ⟨trigger, polled, rfl⟩ := h
  unfold SignalTrigger.pollStep at polled
  split at polled
  case h_1 absent =>
    split at polled
    · cases polled
      rw [if_neg (by rw [absent]; nofun)]
      refine ⟨?_, nofun, carries.known_calls, carries.known_woken,
        carries.known_accepted, carries.order⟩
      intro pub mem
      obtain ⟨only, stored, -⟩ := carries.calling pub mem
      exact ⟨only, stored, nofun⟩
    · cases polled
  case h_2 waiting =>
    rw [Option.map_eq_some_iff] at polled
    obtain ⟨runner, moved, rfl⟩ := polled
    rw [if_neg (by rw [waiting]; nofun)]
    exact ⟨carries.calling, carries.waking, carries.known_calls,
      carries.known_woken, carries.known_accepted,
      carries.order.silent moved rfl⟩
  case h_3 notified =>
    rw [Option.map_eq_some_iff] at polled
    obtain ⟨runner, moved, rfl⟩ := polled
    rw [if_pos notified]
    obtain ⟨pub, woke, stored⟩ := carries.waking notified
    have order := carries.order.step moved
    refine ⟨?_, nofun, carries.known_calls, nofun, ?_, ?_⟩
    · intro other mem
      exact absurd notified (carries.calling other mem).2.2
    · intro other mem
      rw [woke, Option.toList_some, List.mem_append, List.mem_singleton] at mem
      rcases mem with old | rfl
      · exact carries.known_accepted other old
      · exact carries.known_woken other woke
    · rw [stored] at order
      simpa [woke, Action.accepted] using order

theorem runnerMoves (carries : Carries cfg known s) (h : s.runnerMoves cfg a = some next) :
    Carries cfg known next := by
  simp only [SignalRelay.runnerMoves, Option.map_eq_some_iff] at h
  obtain ⟨trigger, moved, rfl⟩ := h
  obtain ⟨silent, moved⟩ := SignalTrigger.runner_of_step moved
  simp only [SignalTrigger.runnerMoves, Option.map_eq_some_iff] at moved
  obtain ⟨runner, ran, rfl⟩ := moved
  have future {found : Notified}
      (held : (if runner.holdsStep then s.trigger.signal.future else none) = some found) :
      s.trigger.signal.future = some found := by
    split at held
    · exact held
    · cases held
  refine ⟨?_, ?_, carries.known_calls, carries.known_woken,
    carries.known_accepted, carries.order.silent ran silent⟩
  · intro pub mem
    obtain ⟨only, stored, quiet⟩ := carries.calling pub mem
    exact ⟨only, stored, fun held => quiet (future held)⟩
  · intro held
    exact carries.waking (future held)

end Carries

/-- The dispatches and the accepted calls are only added to. -/
theorem grows {Payload : Type} {cfg : RunnerConfig} {s next : SignalRelay}
    {a : RelayAction Payload} (h : signalStep cfg s a = some next) :
    s.trigger.runner.contexts <+: next.trigger.runner.contexts ∧ s.accepted <+: next.accepted := by
  cases a with
  | deliver call =>
    simp only [signalStep, SignalRelay.deliver] at h
    split at h
    · cases h
    · obtain ⟨trigger, woke, rfl⟩ := Option.map_eq_some_iff.mp h
      exact ⟨SignalTrigger.contexts_grow woke, List.prefix_rfl⟩
  | pollStep =>
    obtain ⟨trigger, polled, rfl⟩ := Option.map_eq_some_iff.mp h
    have contexts := SignalTrigger.contexts_grow polled
    split
    · exact ⟨contexts, List.prefix_append _ _⟩
    · exact ⟨contexts, List.prefix_rfl⟩
  | signalRunner a =>
    obtain ⟨trigger, moved, rfl⟩ := Option.map_eq_some_iff.mp h
    exact ⟨SignalTrigger.contexts_grow moved, List.prefix_rfl⟩
  | recv | recvPending | takeIdentity | dropHost | queueRunner _ => cases h

end SignalRelay

/-! ### Queues -/

section Queue

variable {Payload : Type} {capacity : Nat}

/-- No operation but a send makes messages. -/
theorem TopicState.step_messages {s next : TopicState Payload} {a : TopicAction Payload}
    (unsent : ∀ value identity, a ≠ .storeIdentity value identity)
    (h : s.step capacity a = some next) :
    s.channel <+: next.channel ∧ ∀ msg, msg ∈ next.sending ∨ msg ∈ next.channel →
        msg ∈ s.sending ∨ msg ∈ s.channel := by
  have same (sending : next.sending = s.sending)
      (channel : next.channel = s.channel) :
      s.channel <+: next.channel ∧ ∀ msg, msg ∈ next.sending ∨ msg ∈ next.channel →
          msg ∈ s.sending ∨ msg ∈ s.channel := by
    rw [sending, channel]
    exact ⟨List.prefix_rfl, fun _ => id⟩
  cases a with
  | storeIdentity value identity => exact absurd rfl (unsent value identity)
  | subscribe =>
    cases h
    exact same rfl rfl
  | sendValue send =>
    simp only [TopicState.step, TopicState.sendValue] at h
    split at h
    · cases h
    case h_2 sent found =>
      cases h
      constructor
      · simp only
        split
        · exact List.prefix_rfl
        · exact List.prefix_append _ _
      · rintro msg (still | mem)
        · exact .inl (List.mem_of_mem_eraseIdx still)
        · simp only at mem
          split at mem
          · exact .inr mem
          · rcases List.mem_append.mp mem with old | new
            · exact .inr old
            · rw [List.mem_singleton.mp new]
              exact .inl (List.mem_of_getElem? found)
  | unsubscribe host =>
    simp only [TopicState.step, TopicState.unsubscribe] at h
    split at h
    · cases h
      exact same rfl rfl
    · cases h
  | recv host =>
    simp only [TopicState.step, TopicState.recv] at h
    split at h
    · split at h
      · cases h
        exact same rfl rfl
      · split at h
        · cases h
          exact same rfl rfl
        · cases h
    · cases h
  | takeIdentity host =>
    simp only [TopicState.step, TopicState.takeIdentity] at h
    split at h
    · split at h
      · cases h
        exact same rfl rfl
      · cases h
    · cases h

namespace QueueTriggerState

variable {cfg : RunnerConfig} {known wider : Publication → Prop}
  {s next : QueueTriggerState (QueuedValue Payload)}

/-- Every message has the identity of its publication, and every dispatch is of
a message of the channel under its identity. -/
structure Carries (cfg : RunnerConfig) (known : Publication → Prop)
    (s : QueueTriggerState (QueuedValue Payload)) : Prop where
  inStep : InStep s.topic
  own : ∀ msg,
    msg ∈ s.topic.sending ∨ msg ∈ s.topic.channel → msg.identity = msg.value.publication.identity ∧
        known msg.value.publication
  order : ∃ events, DispatchOrder cfg events s.runner ∧ ∀ event ∈ events, ∃ msg ∈ s.topic.channel,
      event = (msg.value, some msg.identity)

namespace Carries

theorem new (now : Instant) :
    Carries cfg known
      (QueueTrigger.new cfg now : QueueTriggerState (QueuedValue Payload)) where
  inStep := InStep.new.subscribe rfl
  own := by
    rintro msg (mem | mem) <;> cases mem
  order := ⟨[], .new cfg now, nofun⟩

theorem mono (carries : s.Carries cfg known) (widens : ∀ pub, known pub → wider pub) :
    s.Carries cfg wider where
  inStep := carries.inStep
  own := fun msg mem =>
    ⟨(carries.own msg mem).1, widens _ (carries.own msg mem).2⟩
  order := carries.order

/-- The queue takes a step of its own. -/
theorem topicMoves (carries : s.Carries cfg known) {a : TopicAction (QueuedValue Payload)}
    {topic : TopicState (QueuedValue Payload)} (h : s.topic.step capacity a = some topic)
    (unsent : ∀ value identity, a ≠ .storeIdentity value identity)
    (guarded : OneMessageAtATime s.topic a) : Carries cfg known { s with topic := topic } := by
  obtain ⟨grows, kept⟩ := TopicState.step_messages unsent h
  obtain ⟨events, order, mem⟩ := carries.order
  refine ⟨carries.inStep.step guarded h, fun msg here => carries.own msg (kept msg here),
    events, order, ?_⟩
  intro event member
  obtain ⟨msg, found, same⟩ := mem event member
  exact ⟨msg, grows.subset found, same⟩

theorem store (carries : s.Carries cfg known) {pub value topic}
    (guarded : OneMessageAtATime s.topic (.storeIdentity ⟨pub, value⟩ pub.identity))
    (new : known pub)
    (h : s.topic.step capacity (.storeIdentity ⟨pub, value⟩ pub.identity) = some topic) :
    Carries cfg known { s with topic := topic } := by
  have inStep := carries.inStep.step guarded h
  cases h
  refine ⟨inStep, ?_, carries.order⟩
  rintro msg (mem | mem)
  · rcases List.mem_append.mp mem with old | added
    · exact carries.own msg (.inl old)
    · rw [List.mem_singleton.mp added]
      exact ⟨rfl, new⟩
  · exact carries.own msg (.inr mem)

theorem runnerSteps (carries : s.Carries cfg known) {a runner} (silent : a.accepted = none)
    (h : Runner.step cfg s.runner a = some runner) :
    Carries cfg known { s with runner := runner } := by
  obtain ⟨events, order, mem⟩ := carries.order
  exact ⟨carries.inStep, carries.own, events, order.silent h silent, mem⟩

theorem takeIdentity (carries : s.Carries cfg known)
    (h : QueueTrigger.takeIdentity cfg s = some next) : next.Carries cfg known := by
  unfold QueueTrigger.takeIdentity at h
  split at h
  · cases h
  case h_2 topic taken =>
    split at h
    · cases h
    case h_2 delivery last =>
      rw [Option.map_eq_some_iff] at h
      obtain ⟨runner, accepted, rfl⟩ := h
      have step : s.topic.step 0 (.takeIdentity 0) = some topic := taken
      have moved := carries.topicMoves step nofun trivial
      obtain ⟨msg, found, returned⟩ := moved.inStep.faithful delivery (List.mem_of_getLast? last)
      obtain ⟨events, order, mem⟩ := moved.order
      refine ⟨moved.inStep, moved.own, _, order.step accepted, ?_⟩
      intro event member
      rcases List.mem_append.mp member with old | new
      · exact mem event old
      · rw [returned] at new
        exact ⟨msg, List.mem_of_getElem? found, List.mem_singleton.mp new⟩

end Carries

end QueueTriggerState

/-- The moves of a queue trigger after the first half of a publication. -/
inductive QueueMove (cfg : RunnerConfig) (capacity : Nat)
    (s : QueueTriggerState (QueuedValue Payload)) :
    QueueTriggerState (QueuedValue Payload) → Prop where
  | topic {a topic} (step : s.topic.step capacity a = some topic)
      (unsent : ∀ value identity, a ≠ .storeIdentity value identity)
      (free : OneMessageAtATime s.topic a) :
      QueueMove cfg capacity s { s with topic := topic }
  | runner {a runner}
      (step : Runner.step cfg s.runner a = some runner)
      (silent : a.accepted = none) :
      QueueMove cfg capacity s { s with runner := runner }
  | takes {next} (step : QueueTrigger.takeIdentity cfg s = some next) :
      QueueMove cfg capacity s next

namespace QueueMove

variable {cfg : RunnerConfig}
  {s next : QueueTriggerState (QueuedValue Payload)}

theorem of_step (h : queueStep cfg capacity s a = some next) :
    QueueMove cfg capacity s next := by
  cases a with
  | deliver call =>
    obtain ⟨topic, step, rfl⟩ := Option.map_eq_some_iff.mp h
    exact .topic step nofun trivial
  | recv =>
    simp only [queueStep, QueueTrigger.recv] at h
    split at h
    · obtain ⟨topic, received, rfl⟩ := Option.map_eq_some_iff.mp h
      have step : s.topic.step capacity (.recv 0) = some topic := received
      exact .topic step nofun trivial
    · cases h
  | recvPending =>
    simp only [queueStep, QueueTrigger.recvPending] at h
    split at h
    · split at h
      · obtain ⟨runner, step, rfl⟩ := Option.map_eq_some_iff.mp h
        exact .runner step rfl
      · cases h
    · cases h
  | takeIdentity => exact .takes h
  | dropHost =>
    obtain ⟨topic, step, rfl⟩ : ∃ topic,
        s.topic.step capacity (.unsubscribe 0) = some topic ∧ { s with topic := topic } = next := by
      simp only [queueStep, QueueTrigger.dropHost] at h
      split at h
      · exact Option.map_eq_some_iff.mp h
      · exact Option.map_eq_some_iff.mp h
      · cases h
    exact .topic step nofun trivial
  | queueRunner a =>
    obtain ⟨silent, runner, step, rfl⟩ : a.accepted = none ∧ ∃ runner,
        Runner.step cfg s.runner a = some runner ∧ { s with runner := runner } = next := by
      cases a with
      | hostReady _ | hostPending => cases h
      | _ => exact ⟨rfl, Option.map_eq_some_iff.mp h⟩
    exact .runner step silent
  | pollStep | signalRunner _ => cases h

/-- The dispatches are only added to. -/
theorem contexts_grow (move : QueueMove cfg capacity s next) :
    s.runner.contexts <+: next.runner.contexts := by
  cases move with
  | topic _ _ _ => exact List.prefix_rfl
  | runner step _ => exact ServiceDaemon.contexts_grow step
  | takes step =>
    unfold QueueTrigger.takeIdentity at step
    split at step
    · cases step
    · split at step
      · cases step
      · obtain ⟨runner, accepted, rfl⟩ := Option.map_eq_some_iff.mp step
        exact ServiceDaemon.contexts_grow accepted

end QueueMove

end Queue

/-! ### Triggers -/

namespace Relay

variable {Payload : Type} {known wider : Publication → Prop}
  {relay next : Relay Payload}

/-- The trigger and its provider pass identities on as they were captured. -/
def Carries (known : Publication → Prop) (relay : Relay Payload) : Prop :=
  match relay.state with
  | .signal s => s.Carries relay.config known
  | .queue _ s => s.Carries relay.config known

theorem Carries.new (now : Instant) (cfg : RunnerConfig) (kind : ProviderKind) :
    (Relay.new now cfg kind : Relay Payload).Carries known := by
  cases kind with
  | notify => exact SignalRelay.Carries.new now
  | queue capacity => exact QueueTriggerState.Carries.new now

theorem Carries.mono (carries : relay.Carries known) (widens : ∀ pub, known pub → wider pub) :
    relay.Carries wider := by
  obtain ⟨cfg, s⟩ := relay
  cases s with
  | signal s => exact SignalRelay.Carries.mono carries widens
  | queue capacity s => exact QueueTriggerState.Carries.mono carries widens

theorem Carries.store (carries : relay.Carries known) {pub value} (idle : relay.idle = true)
    (new : known pub) (stored : relay.store pub value = some next) : next.Carries known := by
  obtain ⟨cfg, s⟩ := relay
  cases s with
  | signal s =>
    simp only [Relay.store, Option.map_eq_some_iff] at stored
    obtain ⟨after, h, rfl⟩ := stored
    exact SignalRelay.Carries.store carries idle new h
  | queue capacity s =>
    simp only [Relay.store, Option.map_eq_some_iff] at stored
    obtain ⟨topic, h, rfl⟩ := stored
    have guarded : OneMessageAtATime s.topic
        (.storeIdentity ⟨pub, value⟩ pub.identity) := by
      simp only [Relay.idle, Bool.and_eq_true] at idle
      exact idle
    exact QueueTriggerState.Carries.store carries guarded new h

theorem Carries.step (carries : relay.Carries known) {a} (h : relay.step a = some next) :
    next.Carries known := by
  obtain ⟨cfg, s⟩ := relay
  cases s with
  | signal s =>
    simp only [Relay.step, Option.map_eq_some_iff] at h
    obtain ⟨after, moved, rfl⟩ := h
    cases a with
    | deliver call => exact SignalRelay.Carries.deliver carries moved
    | pollStep => exact SignalRelay.Carries.pollStep carries moved
    | signalRunner a => exact SignalRelay.Carries.runnerMoves carries moved
    | _ => cases moved
  | queue capacity s =>
    simp only [Relay.step, Option.map_eq_some_iff] at h
    obtain ⟨after, moved, rfl⟩ := h
    have queue : s.Carries cfg known := carries
    cases QueueMove.of_step moved with
    | topic step unsent free => exact queue.topicMoves step unsent free
    | runner step silent => exact queue.runnerSteps silent step
    | takes step => exact queue.takeIdentity step

theorem dispatch_signal :
    (⟨cfg, .signal s⟩ : Relay Payload).dispatch seq =
      s.trigger.runner.contexts[seq]?.bind fun context =>
        s.accepted[seq]?.map fun pub =>
          ⟨pub, context.messageId, context.sourceId⟩ := by
  simp only [Relay.dispatch, RunnerState.contexts, List.getElem?_map]
  cases s.trigger.runner.tasks[seq]? <;> rfl

theorem dispatch_queue :
    (⟨cfg, .queue capacity s⟩ : Relay Payload).dispatch seq =
      s.runner.contexts[seq]?.map fun context =>
        ⟨context.payload.publication, context.messageId, context.sourceId⟩ := by
  simp only [Relay.dispatch, RunnerState.contexts, List.getElem?_map]
  cases s.runner.tasks[seq]? <;> rfl

/-- A dispatch has the identity of the publication it handles. -/
theorem Carries.dispatch (carries : relay.Carries known)
    (found : relay.dispatch seq = some dispatched) :
    (dispatched.messageId, dispatched.sourceId) = dispatched.publication.identity ∧
      known dispatched.publication := by
  obtain ⟨cfg, s⟩ := relay
  cases s with
  | signal s =>
    simp only [dispatch_signal, Option.bind_eq_some_iff, Option.map_eq_some_iff] at found
    obtain ⟨context, mem, pub, accepted, rfl⟩ := found
    have signal : s.Carries cfg known := carries
    obtain ⟨event, taken, delivers⟩ := signal.order.delivered seq _ mem
    rw [List.getElem?_map, accepted] at taken
    cases taken
    exact ⟨delivers.identified _ rfl, signal.known_accepted pub (List.mem_of_getElem? accepted)⟩
  | queue capacity s =>
    simp only [dispatch_queue, Option.map_eq_some_iff] at found
    obtain ⟨context, mem, rfl⟩ := found
    have queue : s.Carries cfg known := carries
    obtain ⟨events, order, sent⟩ := queue.order
    obtain ⟨event, taken, delivers⟩ := order.delivered seq _ mem
    obtain ⟨msg, inChannel, rfl⟩ := sent event (List.mem_of_getElem? taken)
    obtain ⟨own, isKnown⟩ := queue.own msg (.inr inChannel)
    have payload : context.payload = msg.value := delivers.payload
    simp only [payload]
    exact ⟨(delivers.identified _ rfl).trans own, isKnown⟩

/-- What a handler is at work on is a dispatch. -/
theorem Carries.handles (carries : relay.Carries known) (handles : relay.handles seq = true) :
    ∃ dispatched, relay.dispatch seq = some dispatched := by
  obtain ⟨cfg, s⟩ := relay
  cases s with
  | signal s =>
    simp only [Relay.handles, Option.any_eq_true] at handles
    obtain ⟨task, spawned, -⟩ := handles
    have signal : s.Carries cfg known := carries
    have mem : s.trigger.runner.contexts[seq]? = some task.context := by
      rw [RunnerState.contexts, List.getElem?_map, spawned]
      rfl
    obtain ⟨event, taken, -⟩ := signal.order.delivered seq _ mem
    rw [List.getElem?_map, Option.map_eq_some_iff] at taken
    obtain ⟨pub, accepted, -⟩ := taken
    simp only [Relay.dispatch, spawned, accepted, Option.bind_some, Option.map_some]
    exact ⟨_, rfl⟩
  | queue capacity s =>
    simp only [Relay.handles, Option.any_eq_true] at handles
    obtain ⟨task, spawned, -⟩ := handles
    simp only [Relay.dispatch, spawned, Option.map_some]
    exact ⟨_, rfl⟩

/-- The trigger keeps its configuration and its dispatches. -/
structure Extends (relay next : Relay Payload) : Prop where
  config : next.config = relay.config
  dispatch : ∀ {seq : Nat} {dispatched : Dispatched},
    relay.dispatch seq = some dispatched → next.dispatch seq = some dispatched

theorem Extends.signal {config : RunnerConfig} {s after : SignalRelay}
    (contexts : s.trigger.runner.contexts <+: after.trigger.runner.contexts)
    (accepted : s.accepted <+: after.accepted) :
    Extends (⟨config, .signal s⟩ : Relay Payload)
      ⟨config, .signal after⟩ where
  config := rfl
  dispatch := by
    intro seq dispatched found
    rw [dispatch_signal, Option.bind_eq_some_iff] at found ⊢
    obtain ⟨context, spawned, found⟩ := found
    obtain ⟨pub, taken, same⟩ := Option.map_eq_some_iff.mp found
    refine ⟨context, getElem?_of_grows contexts spawned, ?_⟩
    rw [getElem?_of_grows accepted taken, Option.map_some, same]

theorem Extends.queue {config : RunnerConfig} {capacity : Nat}
    {s after : QueueTriggerState (QueuedValue Payload)}
    (contexts : s.runner.contexts <+: after.runner.contexts) :
    Extends (⟨config, .queue capacity s⟩ : Relay Payload)
      ⟨config, .queue capacity after⟩ where
  config := rfl
  dispatch := by
    intro seq dispatched found
    rw [dispatch_queue] at found ⊢
    obtain ⟨context, spawned, same⟩ := Option.map_eq_some_iff.mp found
    rw [getElem?_of_grows contexts spawned, Option.map_some, same]

theorem Extends.store (stored : relay.store pub value = some next) :
    Extends relay next := by
  obtain ⟨cfg, s⟩ := relay
  cases s with
  | signal s =>
    simp only [Relay.store, Option.map_eq_some_iff] at stored
    obtain ⟨after, h, rfl⟩ := stored
    cases h
    exact .signal List.prefix_rfl List.prefix_rfl
  | queue capacity s =>
    simp only [Relay.store, Option.map_eq_some_iff] at stored
    obtain ⟨topic, h, rfl⟩ := stored
    exact .queue List.prefix_rfl

theorem Extends.step {a : RelayAction Payload}
    (h : relay.step a = some next) : Extends relay next := by
  obtain ⟨cfg, s⟩ := relay
  cases s with
  | signal s =>
    obtain ⟨after, moved, rfl⟩ := Option.map_eq_some_iff.mp h
    obtain ⟨contexts, accepted⟩ := SignalRelay.grows moved
    exact .signal contexts accepted
  | queue capacity s =>
    obtain ⟨after, moved, rfl⟩ := Option.map_eq_some_iff.mp h
    exact .queue (QueueMove.of_step moved).contexts_grow

end Relay

end ServiceDaemon
