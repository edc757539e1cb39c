/-
Purpose: When a delivered queue message carries the identity of its own send.
Main exports: OneMessageAtATime, InStep, delivered_own_identity
-/
import ServiceDaemon.Core.TopicTrigger

namespace ServiceDaemon

open StepSystem

variable {Payload : Type} {capacity : Nat}
  {s next : TopicState Payload}

/-!
Values are buffered and fanned out, identities share one slot that the first
reader empties.  The two agree as long as there is one host and every message
has been delivered before the next send begins.

[SRC core/managed_state.rs, core/triggers.rs]
-/

/-- The host has delivered every message sent to it, of `sent` in all. -/
def TopicReceiver.caughtUp (sent : Nat) (receiver : TopicReceiver) : Bool :=
  decide (receiver = { position := sent, holding := none })

/-- There is one host, and a send begins only when no other send is under way
and the host has delivered everything before it. -/
def OneMessageAtATime (s : TopicState Payload) :
    TopicAction Payload → Prop
  | .storeIdentity _ _ =>
    s.sending.isEmpty = true ∧ s.receivers.all
        (TopicReceiver.caughtUp s.channel.length) = true
  | .subscribe => s.receivers.isEmpty = true
  | _ => True

instance (s : TopicState Payload) :
    (a : TopicAction Payload) → Decidable (OneMessageAtATime s a)
  | .storeIdentity _ _ => inferInstanceAs (Decidable (_ ∧ _))
  | .subscribe => inferInstanceAs (Decidable (_ = true))
  | .sendValue _ | .unsubscribe _ | .recv _ | .takeIdentity _ =>
    isTrue trivial

/-- The delivery returned the value of its message with the identity that the
send of this message captured. -/
def TopicDelivery.Faithful (channel : List (QueueMessage Payload))
    (delivery : TopicDelivery Payload) : Prop :=
  ∃ msg, channel[delivery.index]? = some msg ∧
    delivery.transition = .next msg.value (some msg.identity)

theorem TopicDelivery.Faithful.append {channel : List (QueueMessage Payload)}
    {delivery : TopicDelivery Payload} (faithful : delivery.Faithful channel)
    (later : List (QueueMessage Payload)) : delivery.Faithful (channel ++ later) := by
  obtain ⟨msg, found, returned⟩ := faithful
  refine ⟨msg, ?_, returned⟩
  rw [List.getElem?_append_left (List.getElem?_eq_some_iff.mp found).1]
  exact found

/-- The last message of the channel is still to be delivered by this host, and
the slot holds its identity. -/
def TopicState.Owes (s : TopicState Payload) (receiver : TopicReceiver) :
    Prop :=
  ∃ delivered msg, s.channel = delivered ++ [msg] ∧ s.lastId = some msg.identity ∧ s.sending = [] ∧
    (receiver = { position := delivered.length, holding := none } ∨ receiver =
        { position := delivered.length + 1, holding := some delivered.length })

/-- One message at a time passes through the slot and the channel. -/
structure InStep (s : TopicState Payload) : Prop where
  single : s.receivers.length ≤ 1
  alone : s.sending = [] ∨ ∃ msg, s.sending = [msg] ∧ s.lastId = some msg.identity
  received : ∀ receiver ∈ s.receivers,
    receiver.caughtUp s.channel.length = true ∨ s.Owes receiver
  faithful : ∀ delivery ∈ s.delivered, delivery.Faithful s.channel

/-- The only host of a queue. -/
theorem receivers_eq {receivers : List TopicReceiver} {receiver : TopicReceiver} {host : Nat}
    (single : receivers.length ≤ 1) (found : receivers[host]? = some receiver) :
    receivers = [receiver] ∧ host = 0 := by
  match receivers, host with
  | [only], 0 => exact ⟨congrArg (fun r => [r]) (Option.some.inj found), rfl⟩
  | [_], _ + 1 => cases found
  | [], _ => cases found
  | _ :: _ :: rest, _ =>
    simp only [List.length_cons] at single
    omega

namespace InStep

theorem new : InStep (TopicState.new : TopicState Payload) where
  single := Nat.zero_le _
  alone := .inl rfl
  received := nofun
  faithful := nofun

/-- A send stores its identity when nothing is under way. -/
theorem storeIdentity (inStep : InStep s) (value : Payload) (identity : Uuid × ServiceId)
    (guarded : OneMessageAtATime s (.storeIdentity value identity)) :
    InStep
      { s with
        lastId := some identity
        sending := s.sending ++ [{ value := value, identity := identity }] }
    where
  single := inStep.single
  alone := by
    right
    refine ⟨{ value := value, identity := identity }, ?_, rfl⟩
    rw [List.isEmpty_iff.mp guarded.1]
    rfl
  received := by
    intro receiver mem
    exact .inl (List.all_eq_true.mp guarded.2 receiver mem)
  faithful := inStep.faithful

/-- The value follows its identity. -/
theorem sendValue (inStep : InStep s) {send : Nat}
    (h : s.sendValue send = some next) : InStep next := by
  unfold TopicState.sendValue at h
  split at h
  · cases h
  · rename_i msg found
    cases h
    rcases inStep.alone with none | ⟨only, sending, stored⟩
    · rw [none] at found
      cases found
    · rw [sending] at found
      obtain ⟨same, rfl⟩ : only = msg ∧ send = 0 := by
        cases send with
        | zero => exact ⟨Option.some.inj found, rfl⟩
        | succ _ => cases found
      subst same
      have settled : s.sending.eraseIdx 0 = [] := by
        rw [sending]
        rfl
      refine ⟨inStep.single, .inl settled, ?_, ?_⟩
      · intro receiver mem
        -- A host that owed a message would have kept the send from starting.
        have caughtUp : receiver.caughtUp s.channel.length = true := by
          rcases inStep.received receiver mem with caughtUp | owes
          · exact caughtUp
          · obtain ⟨_, _, _, _, none, _⟩ := owes
            rw [sending] at none
            cases none
        have subscribed : s.receivers.isEmpty = false := by
          rw [List.isEmpty_eq_false_iff]
          exact List.ne_nil_of_mem mem
        right
        refine ⟨s.channel, only, ?_, stored, settled, .inl ?_⟩
        · simp only [subscribed]
          rfl
        · exact of_decide_eq_true caughtUp
      · intro delivery mem
        have faithful := inStep.faithful delivery mem
        simp only
        split
        · exact faithful
        · exact faithful.append [only]

/-- The first host subscribes at the end of the channel. -/
theorem subscribe (inStep : InStep s) (guarded : OneMessageAtATime s .subscribe) :
    InStep
      { s with
        receivers :=
          s.receivers ++
            [{ position := s.channel.length, holding := none }] } := by
  have first : s.receivers = [] := List.isEmpty_iff.mp guarded
  refine ⟨?_, inStep.alone, ?_, inStep.faithful⟩
  · rw [first]
    exact Nat.le_refl 1
  · intro receiver mem
    rw [first] at mem
    rw [List.mem_singleton.mp mem]
    exact .inl (decide_eq_true rfl)

/-- The host leaves. -/
theorem unsubscribe (inStep : InStep s) (h : s.unsubscribe host = some next) : InStep next := by
  unfold TopicState.unsubscribe at h
  split at h
  · cases h
    refine ⟨?_, inStep.alone, ?_, inStep.faithful⟩
    · exact Nat.le_trans (List.length_eraseIdx_le _ _) inStep.single
    · intro receiver mem
      exact inStep.received receiver (List.mem_of_mem_eraseIdx mem)
  · cases h

/-- The only host changes its place. -/
theorem moves (inStep : InStep s) (found : s.receivers[host]? = some receiver)
    (received : after.caughtUp s.channel.length = true ∨ s.Owes after) :
    InStep { s with receivers := s.receivers.set host after } := by
  obtain ⟨only, rfl⟩ := receivers_eq inStep.single found
  refine ⟨?_, inStep.alone, ?_, inStep.faithful⟩
  · rw [List.length_set]
    exact inStep.single
  · intro other mem
    rw [only] at mem
    rw [List.mem_singleton.mp mem]
    exact received

/-- The host receives the message that it owes.  It never lags behind a buffer
that has room for this one. -/
theorem recv (inStep : InStep s) (h : s.recv capacity host = some next) : InStep next := by
  unfold TopicState.recv at h
  split at h
  · rename_i position found
    have mem : ({ position := position, holding := none } :
        TopicReceiver) ∈ s.receivers := List.mem_of_getElem? found
    rcases inStep.received _ mem with caughtUp | owes
    · have idle : position = s.channel.length := by
        have same := of_decide_eq_true caughtUp
        exact congrArg TopicReceiver.position same
      rw [idle, Nat.sub_self, if_neg (Nat.not_lt_zero _), if_neg (Nat.lt_irrefl _)] at h
      cases h
    · obtain ⟨delivered, msg, channel, slot, settled, place⟩ := owes
      have here : position = delivered.length := by
        rcases place with waiting | holding
        · exact congrArg TopicReceiver.position waiting
        · cases congrArg TopicReceiver.holding holding
      have sent : s.channel.length = delivered.length + 1 := by
        rw [channel, List.length_append]
        rfl
      split at h
      · rename_i lagging
        cases h
        have empty : capacity = 0 := by omega
        apply inStep.moves found
        left
        apply decide_eq_true
        rw [empty]
        rfl
      · split at h
        · cases h
          apply inStep.moves found
          right
          refine ⟨delivered, msg, channel, slot, settled, .inr ?_⟩
          rw [here]
        · cases h
  · cases h

/-- The slot holds the identity of the message that the host returns. -/
theorem takeIdentity (inStep : InStep s) (h : s.takeIdentity host = some next) : InStep next := by
  unfold TopicState.takeIdentity at h
  split at h
  · rename_i position i found
    have mem : ({ position := position, holding := some i } :
        TopicReceiver) ∈ s.receivers := List.mem_of_getElem? found
    have owes : s.Owes { position := position, holding := some i } := by
      rcases inStep.received _ mem with caughtUp | owes
      · cases congrArg TopicReceiver.holding (of_decide_eq_true caughtUp)
      · exact owes
    obtain ⟨delivered, message, channel, slot, settled, place⟩ := owes
    obtain ⟨here, last⟩ : position = delivered.length + 1 ∧ i = delivered.length := by
      rcases place with waiting | holding
      · cases congrArg TopicReceiver.holding waiting
      · exact ⟨congrArg TopicReceiver.position holding,
          Option.some.inj (congrArg TopicReceiver.holding holding)⟩
    have own : s.channel[i]? = some message := by
      rw [channel, last]
      exact List.getElem?_concat_length
    have sent : s.channel.length = delivered.length + 1 := by
      rw [channel, List.length_append]
      rfl
    rw [own] at h
    cases h
    obtain ⟨only, rfl⟩ := receivers_eq inStep.single found
    refine ⟨?_, .inl settled, ?_, ?_⟩
    · rw [List.length_set]
      exact inStep.single
    · intro other there
      rw [only] at there
      rw [List.mem_singleton.mp there]
      left
      apply decide_eq_true
      rw [here, sent]
    · intro delivery there
      rcases List.mem_append.mp there with before | new
      · exact inStep.faithful delivery before
      · rw [List.mem_singleton.mp new]
        refine ⟨message, own, ?_⟩
        rw [slot]
  · cases h

theorem step (inStep : InStep s) (guarded : OneMessageAtATime s a)
    (h : s.step capacity a = some next) : InStep next := by
  cases a with
  | storeIdentity value identity =>
    cases h
    exact inStep.storeIdentity value identity guarded
  | sendValue send => exact inStep.sendValue h
  | subscribe =>
    cases h
    exact inStep.subscribe guarded
  | unsubscribe host => exact inStep.unsubscribe h
  | recv host => exact inStep.recv h
  | takeIdentity host => exact inStep.takeIdentity h

end InStep

/-- Every delivered message carries the identity of its own send when messages
pass one at a time to one host: whatever `handle_step` returned for message
number `index` is the value of that message with the identity its send
captured. -/
theorem delivered_own_identity {schedule : List (TopicAction Payload)} {state : TopicState Payload}
    (run : GuardedRun (TopicState.step capacity) OneMessageAtATime TopicState.new schedule state) :
    ∀ delivery ∈ state.delivered, delivery.Faithful state.channel := by
  have inStep : InStep state :=
    run.invariant .new fun inStep guarded stepped =>
      inStep.step guarded stepped
  exact inStep.faithful

/-- Two messages, each delivered before the next one is sent. -/
theorem delivered_own_identity_in_turn :
    ∃ state : TopicState Nat,
      GuardedRun (TopicState.step 16) OneMessageAtATime TopicState.new
          [.subscribe, .storeIdentity 5 (10, ⟨1⟩), .sendValue 0, .recv 0,
            .takeIdentity 0, .storeIdentity 6 (11, ⟨2⟩), .sendValue 0,
            .recv 0, .takeIdentity 0] state ∧
        state.delivered.length = 2 ∧
        ∀ delivery ∈ state.delivered, delivery.Faithful state.channel :=
  GuardedRun.exists_and (by decide +kernel) fun _ run _ =>
    delivered_own_identity run

/-- Two services send before the host receives: the first value is returned
with the identity of the second send, and the second with none. -/
theorem delivered_foreign_identity :
    ∃ state : TopicState Nat,
      Run (TopicState.step 16) TopicState.new
          [.subscribe, .storeIdentity 5 (10, ⟨1⟩), .sendValue 0,
            .storeIdentity 6 (11, ⟨2⟩), .sendValue 0, .recv 0,
            .takeIdentity 0, .recv 0, .takeIdentity 0] state ∧
        state.channel.map QueueMessage.identity = [(10, ⟨1⟩), (11, ⟨2⟩)] ∧
        state.delivered.map
            (fun delivery => (delivery.index, delivery.transition)) =
          [(0, .next 5 (some (11, ⟨2⟩))), (1, .next 6 none)] :=
  Run.exists_of_check (by decide +kernel)

end ServiceDaemon
