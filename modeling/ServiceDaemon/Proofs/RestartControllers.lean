/-
Purpose: The two controllers of a restart over whole sequences of calls: the cap
  of the backoff delay, the sliding window of the storm guard, and the calls the
  supervisor makes.
Main exports: BackoffCall, delay_capped_iff, StormRecord, StormRecord.step,
  storm_bounded, supervisor_feeds
-/
import ServiceDaemon.Core.Supervisor
import ServiceDaemon.Lib.SlidingWindow

namespace ServiceDaemon

open StepSystem SlidingWindow

/-!
Both controllers are private data with a few methods, so what holds of them in
the program is what holds after every sequence of calls.  The backoff controller
draws its next delay from `next_delay`, of which only the upper bound is used.
The storm guard is fed by the supervisor, which waits out the delay it was told
before the next failure can come.

[SRC models/policy.rs]
[SRC runner/supervisor.rs]
[SRC docs/architecture/lifecycle-management.md]
-/

/-! ### The cap of the backoff delay -/

/-- A call that changes a `BackoffController`. -/
inductive BackoffCall where
  | recordSuccess
  /-- `next` is the result of `next_delay` -/
  | recordFailure (next : Duration)
  | maybeReset (elapsed : Duration)
deriving Repr, DecidableEq

namespace BackoffController

def step (backoff : BackoffController) : BackoffCall → Option BackoffController
  | .recordSuccess => some backoff.recordSuccess
  | .recordFailure next => some (backoff.recordFailure next)
  | .maybeReset elapsed => some (backoff.maybeReset elapsed)

/-- `next_delay` returns at most the largest delay of the policy. -/
def NextCapped (backoff : BackoffController) : BackoffCall → Prop
  | .recordFailure next => next ≤ backoff.policy.maxDelay
  | _ => True

instance (backoff : BackoffController) (call : BackoffCall) :
    Decidable (backoff.NextCapped call) := by
  unfold NextCapped
  cases call <;> infer_instance

/-- The policy is fixed and the delay is at most its cap. -/
structure Capped (policy : RestartPolicy) (backoff : BackoffController) :
    Prop where
  fixed : backoff.policy = policy
  capped : backoff.currentDelay ≤ policy.maxDelay

variable {policy : RestartPolicy} {backoff : BackoffController}

theorem Capped.recordSuccess (ordered : policy.initialDelay ≤ policy.maxDelay)
    (capped : Capped policy backoff) : Capped policy backoff.recordSuccess := by
  refine ⟨capped.fixed, ?_⟩
  simpa [BackoffController.recordSuccess, capped.fixed] using ordered

theorem Capped.step (ordered : policy.initialDelay ≤ policy.maxDelay)
    (capped : Capped policy backoff) (bounded : backoff.NextCapped call)
    (h : backoff.step call = some next) : Capped policy next := by
  cases call with
  | recordSuccess =>
    cases h
    exact capped.recordSuccess ordered
  | recordFailure delay =>
    cases h
    refine ⟨capped.fixed, ?_⟩
    have bound : delay ≤ backoff.policy.maxDelay := bounded
    rwa [capped.fixed] at bound
  | maybeReset elapsed =>
    cases h
    unfold maybeReset
    split
    · exact capped.recordSuccess ordered
    · exact capped

end BackoffController

/-- The delay stays at most `max_delay` through every sequence of calls exactly
for the policies whose `initial_delay` is. -/
theorem delay_capped_iff (policy : RestartPolicy) :
    (∀ calls backoff, GuardedRun BackoffController.step BackoffController.NextCapped
        (.new policy) calls backoff →
      backoff.currentDelay ≤ policy.maxDelay) ↔
      policy.initialDelay ≤ policy.maxDelay := by
  constructor
  · intro always
    exact always [] (.new policy) .nil
  · intro ordered calls backoff run
    have initially : BackoffController.Capped policy (.new policy) :=
      ⟨rfl, ordered⟩
    exact (run.invariant initially (fun capped bounded stepped =>
      capped.step ordered bounded stepped)).capped

theorem delay_capped_default :
    RestartPolicy.default.initialDelay ≤ RestartPolicy.default.maxDelay ∧ ∀ calls backoff,
        GuardedRun BackoffController.step BackoffController.NextCapped
          (.new .default) calls backoff →
        backoff.currentDelay ≤ RestartPolicy.default.maxDelay :=
  ⟨by decide, (delay_capped_iff _).mpr (by decide)⟩

/-- `RestartPolicy::builder().initial_delay(10 s).max_delay(5 s)`. -/
def uncappedPolicy : RestartPolicy :=
  { RestartPolicy.default with initialDelay := fromSecs 10, maxDelay := fromSecs 5 }

/-- The first delay is above the cap, and so is the delay after every reset. -/
theorem delay_above_cap :
    ∃ backoff,
      GuardedRun BackoffController.step BackoffController.NextCapped
        (.new uncappedPolicy)
        [.recordFailure (fromSecs 5), .maybeReset (fromSecs 60)] backoff ∧
      uncappedPolicy.maxDelay < (BackoffController.new uncappedPolicy).currentDelay ∧
      uncappedPolicy.maxDelay < backoff.currentDelay :=
  GuardedRun.exists_of_check (by decide +kernel)

/-! ### The sliding window of the storm guard -/

/-- A failure the guard decided about. -/
structure StormFailure where
  failedAt : Instant
  decision : RestartStormDecision
deriving Repr, DecidableEq

/-- When the next failure can come: after the delay of the decision. -/
def StormFailure.due (failure : StormFailure) : Instant :=
  failure.failedAt + failure.decision.effectiveDelay

/-- A storm guard with its history since the last reset: the times of the
failures, oldest first, and the last one with its decision. -/
structure StormRecord where
  guard : RestartStormGuard
  sinceReset : List Instant
  last : Option StormFailure
deriving Repr, DecidableEq

/-- A call that changes a `RestartStormGuard`. -/
inductive StormCall where
  | recordFailure (now : Instant) (policyDelay : Duration)
  | reset
  | maybeReset (elapsed resetAfter : Duration)
deriving Repr, DecidableEq

namespace StormRecord

def new (cfg : RestartStormConfig) : StormRecord :=
  { guard := .new cfg, sinceReset := [], last := none }

def reset (record : StormRecord) : StormRecord :=
  { guard := record.guard.reset, sinceReset := [], last := none }

def recordFailure (record : StormRecord) (now : Instant) (policyDelay : Duration) : StormRecord :=
  let (guard, decision) := record.guard.recordFailure now policyDelay
  { guard := guard
    sinceReset := record.sinceReset ++ [now]
    last := some { failedAt := now, decision := decision } }

def step (record : StormRecord) : StormCall → Option StormRecord
  | .recordFailure now policyDelay => some (record.recordFailure now policyDelay)
  | .reset => some record.reset
  | .maybeReset elapsed resetAfter =>
    if resetAfter ≤ elapsed then some record.reset else some record

/-- The next failure comes no earlier than the previous one plus the delay it
was told to wait.  So the clock does not go back between two resets. -/
def Waited (record : StormRecord) : StormCall → Prop
  | .recordFailure now _ => ∀ failure ∈ record.last, failure.due ≤ now
  | _ => True

instance (record : StormRecord) (call : StormCall) :
    Decidable (record.Waited call) := by
  unfold Waited
  cases call <;> infer_instance

end StormRecord

section Storm

variable {cfg : RestartStormConfig} {record : StormRecord} {now : Instant}
  {policyDelay : Duration}

/-- What the calls keep.  The deque is what was recent at the last failure, and
a deque that has reached the threshold told the supervisor to wait out the
window. -/
structure StormRecord.Windowed (cfg : RestartStormConfig)
    (record : StormRecord) : Prop where
  fixed : record.guard.config = cfg
  ordered : record.sinceReset.Pairwise (· ≤ ·)
  unfailed : record.last = none → record.sinceReset = []
  past : ∀ failure ∈ record.last, ∀ time ∈ record.sinceReset,
    time ≤ failure.failedAt
  deque : ∀ now, (∀ failure ∈ record.last, failure.failedAt ≤ now) →
    recent cfg.window now record.guard.failures = recent cfg.window now record.sinceReset
  sublist : record.guard.failures.Sublist record.sinceReset
  counted : ∀ failure ∈ record.last,
    failure.decision.windowFailures = (recent cfg.window failure.failedAt record.sinceReset).length
  suppressed : ∀ failure ∈ record.last,
    cfg.failureThreshold ≤ record.guard.failures.length →
      cfg.suppressionDelay ≤ failure.decision.effectiveDelay
  limited : Limited cfg.window cfg.failureThreshold record.sinceReset
  few : record.guard.failures.length ≤ cfg.failureThreshold

namespace StormRecord

theorem Windowed.of_empty (fixed : record.guard.config = cfg)
    (unrecorded : record.guard.failures = []) (none : record.sinceReset = [])
    (unfailed : record.last = .none) : Windowed cfg record where
  fixed := fixed
  ordered := by simp [none]
  unfailed _ := none
  past := by simp [unfailed]
  deque := by simp [unrecorded, none]
  sublist := by simp [unrecorded]
  counted := by simp [unfailed]
  suppressed := by simp [unfailed]
  limited := none ▸ .nil
  few := by simp [unrecorded]

/-- The next failure is not before any earlier one. -/
theorem Windowed.not_before (windowed : Windowed cfg record)
    (waited : ∀ failure ∈ record.last, failure.due ≤ now) :
    ∀ time ∈ record.sinceReset, time ≤ now := by
  intro time present
  cases failed : record.last with
  | none =>
    rw [windowed.unfailed failed] at present
    cases present
  | some failure =>
    calc time ≤ failure.failedAt := windowed.past failure failed time present
      _ ≤ failure.due := Nat.le_add_right _ _
      _ ≤ now := waited failure failed

/-- Pruning keeps exactly what is recent. -/
theorem Windowed.prune (windowed : Windowed cfg record)
    (waited : ∀ failure ∈ record.last, failure.due ≤ now) :
    (record.guard.prune now).failures = recent cfg.window now record.sinceReset := by
  have ordered : record.guard.failures.Pairwise (· ≤ ·) := windowed.ordered.sublist windowed.sublist
  have notBefore : ∀ time ∈ record.guard.failures, time ≤ now := fun time kept =>
    windowed.not_before waited time (windowed.sublist.mem kept)
  have reached : ∀ failure ∈ record.last, failure.failedAt ≤ now :=
    fun failure failed => le_trans (Nat.le_add_right _ _) (waited failure failed)
  rw [← windowed.deque now reached]
  unfold RestartStormGuard.prune
  rw [dropWhile_eq_filter_not (fun {earlier later} before old => ?_) ordered]
  · apply List.filter_congr
    intro time kept
    have bound : time ≤ now := notBefore time kept
    simp only [windowed.fixed, bound, true_and]
    rw [← decide_not]
    apply decide_eq_decide.mpr
    exact not_lt.trans Nat.sub_le_iff_le_add'
  · simp only [decide_eq_true_eq] at old ⊢
    exact ⟨before.trans old.1, old.2.trans_le (Nat.sub_le_sub_left before now)⟩

/-- At most the threshold is recent when the next failure comes: either the
deque was below it, or the suppression has outlasted the window. -/
theorem Windowed.recent_lt (windowed : Windowed cfg record) (positive : 0 < cfg.failureThreshold)
    (outlasts : cfg.window < cfg.suppressionDelay)
    (waited : ∀ failure ∈ record.last, failure.due ≤ now) :
    (recent cfg.window now record.sinceReset).length < cfg.failureThreshold := by
  cases failed : record.last with
  | none => simpa [windowed.unfailed failed, recent] using positive
  | some failure =>
    have due : failure.due ≤ now := waited failure failed
    by_cases full : cfg.failureThreshold ≤ record.guard.failures.length
    · -- Every earlier failure is older than the window.
      have delay := windowed.suppressed failure failed full
      have aged : recent cfg.window now record.sinceReset = [] := by
        rw [recent, List.filter_eq_nil_iff]
        intro time present
        have past := windowed.past failure failed time present
        have old : time + cfg.window < now :=
          calc time + cfg.window
              < failure.failedAt + failure.decision.effectiveDelay :=
                add_lt_add_of_le_of_lt past (outlasts.trans_le delay)
            _ ≤ now := due
        simpa using old
      simpa [aged] using positive
    · have reached : ∀ other ∈ record.last, other.failedAt ≤ now :=
        fun other present =>
          le_trans (Nat.le_add_right _ _) (waited other present)
      rw [← windowed.deque now reached]
      exact lt_of_le_of_lt (List.length_filter_le _ _) (not_le.mp full)

theorem Windowed.recordFailure (windowed : Windowed cfg record)
    (positive : 0 < cfg.failureThreshold) (outlasts : cfg.window < cfg.suppressionDelay)
    (waited : ∀ failure ∈ record.last, failure.due ≤ now) :
    Windowed cfg (record.recordFailure now policyDelay) := by
  have pruned : (record.guard.prune now).failures ++ [now] =
      recent cfg.window now (record.sinceReset ++ [now]) := by
    rw [windowed.prune waited]
    simp [recent]
  have length : (recent cfg.window now (record.sinceReset ++ [now])).length ≤
      cfg.failureThreshold := by
    have lt := windowed.recent_lt positive outlasts waited
    simpa [recent] using lt
  have notBefore := windowed.not_before waited
  refine
    { fixed := windowed.fixed
      ordered := ?_
      unfailed := fun none => by cases none
      past := ?_
      deque := ?_
      sublist := ?_
      counted := ?_
      suppressed := ?_
      limited := windowed.limited.snoc length
      few := ?_ }
  · exact List.pairwise_append.mpr
      ⟨windowed.ordered, List.pairwise_singleton _ _, by simpa using notBefore⟩
  · rintro failure ⟨⟩ time present
    rcases List.mem_append.mp present with earlier | last
    · exact notBefore time earlier
    · exact (List.mem_singleton.mp last).le
  · intro later reached
    have passed : now ≤ later := reached _ rfl
    change recent _ later ((record.guard.prune now).failures ++ [now]) = _
    rw [pruned]
    exact recent_recent passed
  · change ((record.guard.prune now).failures ++ [now]).Sublist _
    rw [pruned]
    exact List.filter_sublist
  · rintro failure ⟨⟩
    exact congrArg List.length pruned
  · rintro failure ⟨⟩ full
    have reached : record.guard.config.failureThreshold ≤
        ((record.guard.prune now).failures ++ [now]).length :=
      windowed.fixed ▸ full
    have suppression :
        (if record.guard.config.failureThreshold ≤
            ((record.guard.prune now).failures ++ [now]).length then
          record.guard.config.suppressionDelay else 0) =
          cfg.suppressionDelay := by
      rw [if_pos reached, windowed.fixed]
    calc cfg.suppressionDelay ≤ max policyDelay cfg.suppressionDelay :=
          le_max_right _ _
      _ = _ := by rw [← suppression]
  · change ((record.guard.prune now).failures ++ [now]).length ≤ _
    rw [pruned]
    exact length

theorem Windowed.step (positive : 0 < cfg.failureThreshold)
    (outlasts : cfg.window < cfg.suppressionDelay) (windowed : Windowed cfg record)
    (waited : record.Waited call) (h : record.step call = some next) : Windowed cfg next := by
  have reset : Windowed cfg record.reset := .of_empty windowed.fixed rfl rfl rfl
  cases call with
  | recordFailure now policyDelay =>
    cases h
    exact windowed.recordFailure positive outlasts waited
  | reset =>
    cases h
    exact reset
  | maybeReset elapsed resetAfter =>
    simp only [StormRecord.step] at h
    split at h <;> cases h
    · exact reset
    · exact windowed

theorem Windowed.of_run (positive : 0 < cfg.failureThreshold)
    (outlasts : cfg.window < cfg.suppressionDelay)
    (run : GuardedRun StormRecord.step Waited (new cfg) calls record) : Windowed cfg record := by
  have threshold : max cfg.failureThreshold 1 = cfg.failureThreshold := max_eq_left positive
  have initially : Windowed cfg (new cfg) :=
    .of_empty (by simp [new, RestartStormGuard.new, threshold]) rfl rfl rfl
  exact run.invariant initially fun windowed waited h =>
    windowed.step positive outlasts waited h

end StormRecord

end Storm

/-- The bound of the default storm guard, over every sequence of failures that
waits out its decisions: a decision counts the failures of the last 20 s since
the last reset, the deque holds at most 6 entries, and no closed interval of
20 s between two resets holds more than 6 failures. -/
theorem storm_bounded {calls : List StormCall} {record : StormRecord}
    (run : GuardedRun StormRecord.step StormRecord.Waited (.new .default) calls record) :
    (∀ failure ∈ record.last, failure.decision.windowFailures =
        (record.sinceReset.filter fun time =>
          failure.failedAt - time ≤ fromSecs 20).length) ∧
      record.guard.failures.length ≤ 6 ∧
      ∀ start : Instant,
        (record.sinceReset.filter fun time =>
          start ≤ time ∧ time ≤ start + fromSecs 20).length ≤ 6 := by
  have windowed : record.Windowed .default :=
    .of_run (by decide) (by decide) run
  refine ⟨?_, windowed.few, fun start => windowed.limited.within_le⟩
  intro failure failed
  rw [windowed.counted failure failed, recent]
  congr 2
  funext time
  apply decide_eq_decide.mpr
  exact Nat.sub_le_iff_le_add'.symm

/-- Six failures one second apart. -/
def stormBurst : List StormCall :=
  (List.range 6).map fun second => .recordFailure (fromSecs second) 0

/-- After the burst a seventh failure that has waited out the suppression, a reset,
and a failure after it. -/
def stormCalls : List StormCall :=
  stormBurst ++ [.recordFailure (fromSecs 35) 0, .maybeReset (fromSecs 70) (fromSecs 60),
      .recordFailure (fromSecs 36) (fromSecs 1)]

/-- The burst fills a window, and a reset empties it. -/
theorem storm_bounded_reset :
    (∃ record, GuardedRun StormRecord.step StormRecord.Waited (.new .default) stormBurst record ∧
      (record.guard.failures.length = 6 ∧ record.last.map (·.decision.windowFailures) = some 6 ∧
        (record.sinceReset.filter fun time => time ≤ fromSecs 20).length = 6) ∧
      ((∀ failure ∈ record.last, failure.decision.windowFailures =
          (record.sinceReset.filter fun time =>
            failure.failedAt - time ≤ fromSecs 20).length) ∧
        record.guard.failures.length ≤ 6 ∧
        ∀ start : Instant,
          (record.sinceReset.filter fun time =>
            start ≤ time ∧ time ≤ start + fromSecs 20).length ≤ 6)) ∧
    ∃ record, GuardedRun StormRecord.step StormRecord.Waited (.new .default)
        stormCalls record ∧
      record.sinceReset = [fromSecs 36] ∧
      ((∀ failure ∈ record.last, failure.decision.windowFailures =
          (record.sinceReset.filter fun time =>
            failure.failedAt - time ≤ fromSecs 20).length) ∧
        record.guard.failures.length ≤ 6 ∧
        ∀ start : Instant,
          (record.sinceReset.filter fun time =>
            start ≤ time ∧ time ≤ start + fromSecs 20).length ≤ 6) :=
  ⟨GuardedRun.exists_and (by decide +kernel) fun _ run _ => storm_bounded run,
    GuardedRun.exists_and (by decide +kernel) fun _ run _ => storm_bounded run⟩

/-! ### What the supervisor feeds -/

/-- The earliest moment at which the supervisor can record its next failure. -/
def SupervisorPoint.nextFailure (now : Instant) :
    SupervisorPoint → Option Instant
  | .beginWait delay => some (now + delay)
  | .waiting deadline _ => some deadline
  | .terminated => none
  | _ => some now

/-- The guard of the supervisor is the guard of the record, and the supervisor
waits out the last decision. -/
structure StormFed (s : SupervisorState) (record : StormRecord) : Prop where
  guard : record.guard = s.restartStorm
  waits : ∀ failure ∈ record.last,
    ∀ moment ∈ s.point.nextFailure s.now, failure.due ≤ moment

section Supervisor

variable {cfg : SupervisorConfig} {s next : SupervisorState}
  {a : SupervisorAction} {record : StormRecord}

theorem SupervisorPoint.nextFailure_tick {point : SupervisorPoint} {now moment : Instant}
    {elapsed : Duration} (reached : moment ∈ point.nextFailure (now + elapsed)) :
    ∃ earlier ∈ point.nextFailure now, earlier ≤ moment := by
  cases point with
  | waiting deadline changed => exact ⟨moment, reached, le_rfl⟩
  | terminated => cases reached
  | beginWait delay =>
    cases reached
    exact ⟨_, rfl, Nat.add_le_add_right (Nat.le_add_right now elapsed) delay⟩
  | _ =>
    cases reached
    exact ⟨now, rfl, Nat.le_add_right now elapsed⟩

/-- The calls on a record that a step of the supervisor makes. -/
def StormRecord.After (record : StormRecord) (next : SupervisorState) : Prop :=
  ∃ calls after,
    GuardedRun StormRecord.step StormRecord.Waited record calls after ∧ StormFed next after

/-- A step that leaves the guard alone and does not bring the next failure
forward. -/
theorem StormFed.after_same (fed : StormFed s record) (same : next.restartStorm = s.restartStorm)
    (later : ∀ moment ∈ next.point.nextFailure next.now,
      ∃ earlier ∈ s.point.nextFailure s.now, earlier ≤ moment) :
    record.After next := by
  refine ⟨[], record, .nil, fed.guard.trans same.symm, ?_⟩
  intro failure failed moment reached
  obtain ⟨earlier, possible, before⟩ := later moment reached
  exact (fed.waits failure failed earlier possible).trans before

theorem StormFed.after_reset (fed : StormFed s record)
    (cleared : next.restartStorm = s.restartStorm.reset) : record.After next := by
  refine ⟨[.reset], record.reset, .snoc .nil trivial rfl, ?_, ?_⟩
  · rw [cleared, ← fed.guard]
    rfl
  · intro failure failed
    cases failed

theorem StormFed.after_resets (fed : StormFed s record)
    (here : s.point = .resetBackoff (.withBackoff kind)) (stays : next.now = s.now)
    (goes : next.point = .restart (.withBackoff kind))
    (cleared : next.restartStorm = s.restartStorm.maybeReset elapsed s.backoff.policy.resetAfter) :
    record.After next := by
  by_cases reached : s.backoff.policy.resetAfter ≤ elapsed
  · refine fed.after_reset ?_
    rw [cleared, RestartStormGuard.maybeReset, if_pos reached]
  · refine fed.after_same ?_ ?_
    · rw [cleared, RestartStormGuard.maybeReset, if_neg reached]
    · simp [goes, stays, here, SupervisorPoint.nextFailure]

theorem StormFed.after_delays (fed : StormFed s record)
    (here : s.point = .restart (.withBackoff kind)) :
    record.After (s.restart (.withBackoff kind)) := by
  let call : StormCall := .recordFailure s.now s.backoff.currentDelay
  have waited : record.Waited call := by
    intro failure failed
    exact fed.waits failure failed s.now (by rw [here]; rfl)
  refine ⟨[call], _, .snoc .nil waited rfl, ?_, ?_⟩
  · simp [StormRecord.recordFailure, fed.guard, SupervisorState.restart]
  · rintro failure ⟨⟩ moment reached
    cases reached
    simp [StormFailure.due, fed.guard, SupervisorState.restart]

theorem StormFed.step (fed : StormFed s record) (h : Supervisor.step cfg s a = some next) :
    record.After next := by
  cases SupervisorMove.of_step h with
  | performs pending =>
    refine fed.after_same (by simp) ?_
    intro moment reached
    rw [s.perform_point, s.perform_now] at reached
    exact ⟨moment, reached, le_rfl⟩
  | resets idle here => exact fed.after_resets here rfl rfl rfl
  | delays idle here => exact fed.after_delays here
  | restartsNow idle here => exact fed.after_reset rfl
  | reloadsWait idle here _ => exact fed.after_reset rfl
  | stops idle here | checksCancelled idle here | stopsWait idle here =>
    exact fed.after_same rfl (by rintro moment ⟨⟩)
  | starts idle here | entersWithout idle here | enters idle here
  | checksWithout idle here | checks idle here | skipsReset idle here
  | decides idle here | waits idle here | runs here | runsReloading here
  | takesResult idle here | takesReloadResult idle here
  | takesDependency idle here | takesReload idle here =>
    exact fed.after_same rfl (by rw [here]; rintro moment ⟨⟩; exact ⟨_, rfl, le_rfl⟩)
  | prepares idle here =>
    refine fed.after_same rfl ?_
    unfold SupervisorState.prepare
    simp only [here]
    intro moment reached
    split at reached <;> cases reached <;> exact ⟨_, rfl, le_rfl⟩
  | classifies idle here =>
    refine fed.after_same rfl ?_
    unfold SupervisorState.classify
    simp only [here]
    intro moment reached
    split at reached <;> cases reached
    exact ⟨_, rfl, le_rfl⟩
  | elapses idle here reached =>
    refine fed.after_same rfl ?_
    rw [here]
    rintro moment ⟨⟩
    exact ⟨_, rfl, reached⟩
  | ticks =>
    exact fed.after_same rfl fun moment reached =>
      SupervisorPoint.nextFailure_tick reached
  | changes _ =>
    refine fed.after_same rfl fun moment reached => ⟨moment, ?_, le_rfl⟩
    rwa [SupervisorPoint.noteChange_congr (·.nextFailure _) fun _ _ => rfl] at reached
  | cancels | cancelsDaemon | triggersReload | writesStatus | recordsStatus =>
    exact fed.after_same rfl fun moment reached => ⟨moment, reached, le_rfl⟩

/-- What the supervisor does to its storm guard is a sequence of calls that waits
out every decision between two resets. -/
theorem supervisor_feeds (run : Run (Supervisor.step cfg) (.new cfg start plane) acts s) :
    ∃ calls record,
      GuardedRun StormRecord.step StormRecord.Waited (.new .default) calls record ∧
      StormFed s record := by
  induction run with
  | nil =>
    refine ⟨[], .new .default, .nil, rfl, ?_⟩
    intro failure failed
    cases failed
  | snoc _ _ h ih =>
    obtain ⟨calls, record, fedBefore, fed⟩ := ih
    obtain ⟨more, after, fedAfter, fedNext⟩ := fed.step h
    exact ⟨calls ++ more, after, fedBefore.append fedAfter, fedNext⟩

end Supervisor

end ServiceDaemon
