/-
Purpose: When `UnixListen` never unlinks a live socket: as long as no probe
  fails on a live socket, and nobody binds while a process takes the path for a
  stale socket.
Main exports: Unraced, Spared, live_socket_spared
-/
import ServiceDaemon.Core.UnixListen

namespace ServiceDaemon

open AsyncLib StepSystem

/-!
The probe tells a live socket from a stale one, and what it finds is acted upon
two system calls later.  It is wrong if it failed for another reason than a
missing listener, and it is out of date if the path was bound in between.

[SRC service-daemon-macro/src/provider/templates/unix.rs]
[SRC docs/guide/resilience.md]
-/

/-- No probe fails on a live socket, and no process binds the path while another
takes it for a stale socket. -/
def Unraced (s : SocketPath) : SocketAction → Prop
  | .proceed i fault =>
    ∀ process ∈ s.processes[i]?,
      (process.point = .probe → s.entry.live = true → fault = none) ∧
        (process.point = .bind → s.entry = .absent → fault = none →
          ∀ other ∈ s.processes, other.point.removing = false)
  | _ => True

instance (s : SocketPath) :
    (a : SocketAction) → Decidable (Unraced s a)
  | .proceed i _ =>
    inferInstanceAs (Decidable (∀ process ∈ s.processes[i]?, _ ∧ _))
  | .start _ | .close _ | .closeOther => isTrue trivial

/-- The path is not live while a process takes it for a stale socket, and
nothing live was unlinked. -/
structure Spared (s : SocketPath) : Prop where
  stale : ∀ process ∈ s.processes, process.point.removing = true → s.entry.live = false
  removed : ∀ entry ∈ s.removed, entry.live = false

theorem PathEntry.live_close {entry : PathEntry} (owner : Option Nat)
    (dead : entry.live = false) : (entry.close owner).live = false := by
  unfold close
  split
  · rfl
  · exact dead

namespace Spared

variable {s next : SocketPath} {i : Nat} {process : ListenProcess}
  {point : ListenPoint} {entry : PathEntry}

theorem new : Spared (.new path entry providers) := by
  constructor
  · intro process mem removing
    obtain ⟨provider, -, rfl⟩ := List.mem_map.mp mem
    cases removing
  · intro entry mem
    cases mem

/-- A process moves, and what was stale stays stale. -/
theorem goto (spared : Spared s)
    (processes : next.processes = s.processes.set i { process with point := point })
    (kept : s.entry.live = false → next.entry.live = false)
    (moved : point.removing = true → next.entry.live = false)
    (removed : ∀ entry ∈ next.removed, entry ∈ s.removed ∨ entry.live = false) : Spared next := by
  constructor
  · intro other mem removing
    rw [processes] at mem
    rcases List.mem_or_eq_of_mem_set mem with old | rfl
    · exact kept (spared.stale other old removing)
    · exact moved removing
  · intro entry mem
    rcases removed entry mem with old | dead
    · exact spared.removed entry old
    · exact dead

/-- The next system call of a process. -/
theorem proceeds (spared : Spared s) {fault : Option IoError}
    (unraced : Unraced s (.proceed i fault)) (found : s.processes[i]? = some process)
    (move : ListenMove i s.entry fault process.point entry point) :
    Spared
      { s.goto i process point with
        entry := entry
        removed := s.removed ++ process.unlinks s.entry fault } := by
  have listed := List.mem_of_getElem? found
  have removed : ∀ entry ∈ s.removed ++ process.unlinks s.entry fault,
      entry ∈ s.removed ∨ entry.live = false := by
    intro entry mem
    refine (List.mem_append.mp mem).imp_right fun unlinked => ?_
    obtain ⟨here, rfl⟩ := ListenProcess.mem_unlinks unlinked
    exact spared.stale process listed (by rw [here]; rfl)
  obtain ⟨probes, alone⟩ := unraced process found
  generalize here : process.point = before at move
  cases move with
  | suspects refused =>
    refine spared.goto rfl id (fun _ => ?_) removed
    cases live : s.entry.live with
    | false => rfl
    | true => simp [PathEntry.connects, live, probes here live] at refused
  | confirms =>
    refine spared.goto rfl id (fun _ => ?_) removed
    exact spared.stale process listed (by rw [here]; rfl)
  | unlinks => exact spared.goto rfl (fun _ => rfl) (fun _ => rfl) removed
  | binds absent faultless =>
    -- The path becomes live while nobody is on the way to unlink it.
    refine ⟨?_, fun entry mem =>
      (removed entry mem).elim (spared.removed entry) id⟩
    intro other mem removing
    rcases List.mem_or_eq_of_mem_set mem with old | rfl
    · cases (alone here absent faultless other old).symm.trans removing
    · cases removing
  | drops => exact spared.goto rfl (PathEntry.live_close _) nofun removed
  | others there =>
    refine spared.goto rfl id (fun removing => ?_) removed
    cases there.symm.trans removing

theorem step {a : SocketAction} (spared : Spared s)
    (unraced : Unraced s a) (h : s.step a = some next) : Spared next := by
  cases a with
  | start i =>
    simp only [SocketPath.step] at h
    split at h <;> cases h <;>
      exact spared.goto rfl id nofun fun _ => .inl
  | proceed i fault =>
    obtain ⟨process, found, moved⟩ := Option.bind_eq_some_iff.mp h
    obtain ⟨⟨entry, point⟩, proceeded, rfl⟩ := Option.map_eq_some_iff.mp moved
    exact spared.proceeds unraced found (.of_proceed proceeded)
  | close i =>
    simp only [SocketPath.step] at h
    split at h <;> cases h
    exact spared.goto rfl (PathEntry.live_close _) nofun fun _ => .inl
  | closeOther =>
    cases h
    refine ⟨?_, spared.removed⟩
    intro process mem removing
    exact PathEntry.live_close none (spared.stale process mem removing)

end Spared

/-- As long as no probe fails on a live socket and nobody binds while a process
takes the path for a stale socket: whatever was unlinked, by any of the
processes, had no live listener at that moment. -/
theorem live_socket_spared {path : String} {entry : PathEntry} {providers : List String}
    {schedule : List SocketAction} {state : SocketPath}
    (run : GuardedRun SocketPath.step Unraced (.new path entry providers) schedule state) :
    ∀ removed ∈ state.removed, removed.live = false := by
  have spared : Spared state :=
    run.invariant .new fun spared unraced stepped => spared.step unraced stepped
  exact spared.removed

/-- A process that finds a dead socket, replaces it and listens; another one
that is refused then. -/
def replaceThenRefuse : List SocketAction :=
  .start 0 :: List.replicate 6 (.proceed 0 none) ++ .start 1 :: List.replicate 2 (.proceed 1 none)

theorem live_socket_spared_dead :
    ∃ state : SocketPath,
      GuardedRun SocketPath.step Unraced
          (.new "/run/app.sock" .deadSocket ["Front", "Back"])
          replaceThenRefuse state ∧
        (state.removed = [.deadSocket] ∧ state.processes.map ListenProcess.point = [.listening,
              .failed (UnixListen.heldByLive "Back" "/run/app.sock")]) ∧
        ∀ removed ∈ state.removed, removed.live = false :=
  GuardedRun.exists_and (by decide +kernel) fun _ run _ =>
    live_socket_spared run

/-- Both processes find the socket dead.  One of them replaces it and listens,
and then the other looks again, finds a socket and unlinks it. -/
def replaceTwice : List SocketAction :=
  List.flatten
    [[.start 0], List.replicate 2 (.proceed 0 none), [.start 1],
      List.replicate 6 (.proceed 1 none), List.replicate 2 (.proceed 0 none)]

/-- What `connect` answers on a socket that the caller may not write to. -/
def permissionDenied : IoError :=
  ⟨.other "PermissionDenied", "Permission denied (os error 13)"⟩

/-- A live socket is unlinked: by the slower one of two processes that have
found it dead, and by a process that may not connect to it. -/
theorem live_socket_unlinked :
    (∃ state : SocketPath, Run SocketPath.step (.new "/run/app.sock" .deadSocket ["Front", "Back"])
          replaceTwice state ∧
        state.removed = [.deadSocket, .liveSocket (some 1)]) ∧
    ∃ state : SocketPath,
      Run SocketPath.step (.new "/run/app.sock" (.liveSocket none) ["Front"])
          [.start 0, .proceed 0 none, .proceed 0 (some permissionDenied),
            .proceed 0 none, .proceed 0 none] state ∧
        state.removed = [.liveSocket none] :=
  ⟨Run.exists_of_check (by decide +kernel), Run.exists_of_check (by decide +kernel)⟩

end ServiceDaemon
