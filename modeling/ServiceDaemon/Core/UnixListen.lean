/-
Purpose: The constructor that the `UnixListen` template generates: how processes
  inspect, probe, unlink and bind one socket path, one system call at a time.
Main exports: PathEntry, IoError, ListenPoint
-/
import ServiceDaemon.Core.ProviderInit
import ServiceDaemon.Lib.Threads

namespace ServiceDaemon

/-!
`try_new` looks at the path, tries to connect to it, looks again, unlinks it and
binds.  Each of these is a system call of its own, and nothing holds the path in
between.  A system call can fail for reasons that the path does not show; such a
fault is part of the action.  Any of the processes may call `try_new` again when
it has failed, and close its listener when it has one.

[SRC service-daemon-macro/src/provider/templates/unix.rs]
-/

/-! ### The path -/

/-- What is at the path.  The owner of a live listener is one of the processes,
or another program. -/
inductive PathEntry where
  | absent
  | regularFile
  | deadSocket
  | liveSocket (owner : Option Nat)
deriving Repr, DecidableEq

namespace PathEntry

def isSocket : PathEntry → Bool
  | .deadSocket | .liveSocket _ => true
  | .absent | .regularFile => false

/-- A listener is bound to the socket. -/
def live : PathEntry → Bool
  | .liveSocket _ => true
  | _ => false

/-- The listener of the owner is closed; its socket file stays. -/
def close (entry : PathEntry) (owner : Option Nat) : PathEntry :=
  if entry = .liveSocket owner then .deadSocket else entry

end PathEntry

/-- `std::io::ErrorKind`, as far as it is told apart. -/
inductive IoErrorKind where
  | notFound
  | addrInUse
  | interrupted
  | timedOut
  | other (name : String)
deriving Repr, DecidableEq

namespace IoErrorKind

/-- `{:?}`. -/
def debug : IoErrorKind → String
  | .notFound => "NotFound"
  | .addrInUse => "AddrInUse"
  | .interrupted => "Interrupted"
  | .timedOut => "TimedOut"
  | .other name => name

end IoErrorKind

/-- `std::io::Error`. -/
structure IoError where
  kind : IoErrorKind
  display : String
deriving Repr, DecidableEq

namespace IoError

def notFound : IoError :=
  ⟨.notFound, "No such file or directory (os error 2)"⟩

def addrInUse : IoError :=
  ⟨.addrInUse, "Address already in use (os error 98)"⟩

end IoError

namespace PathEntry

/-- `symlink_metadata`, and whether `remove_file` finds something. -/
def lookup (entry : PathEntry) : Option IoError → Except IoError PathEntry
  | some fault => .error fault
  | none => if entry = .absent then .error .notFound else .ok entry

/-- `UnixStream::connect` succeeds. -/
def connects (entry : PathEntry) (fault : Option IoError) : Bool :=
  entry.live && fault.isNone

end PathEntry

/-! ### The errors -/

namespace UnixListen

def heldByLive (provider path : String) : ProviderError :=
  .fatal <|
    "Provider '" ++ provider ++ "': socket '" ++ path ++
      "' is held by another live process; refusing to bind"

def notASocket (provider path : String) : ProviderError :=
  .fatal <|
    "Provider '" ++ provider ++ "': path '" ++ path ++
      "' exists but is not a Unix socket; refusing to remove"

/-- `{} (kind={:?})`. -/
def withKind (error : IoError) : String :=
  error.display ++ " (kind=" ++ error.kind.debug ++ ")"

def inspectFailed (provider path : String) (error : IoError) : ProviderError :=
  .fatal <|
    "Provider '" ++ provider ++ "': failed to inspect existing socket path '" ++
      path ++ "': " ++ withKind error

def removeFailed (provider path : String) (error : IoError) : ProviderError :=
  .fatal <|
    "Provider '" ++ provider ++ "': failed to remove stale socket '" ++ path ++
      "': " ++ withKind error

/-- `bind_and_classify`. -/
def bindFailed (provider path : String) (error : IoError) : ProviderError :=
  let message :=
    "Provider '" ++ provider ++ "' failed to bind Unix socket '" ++ path ++ "': " ++ error.display
  match error.kind with
  | .addrInUse | .interrupted | .timedOut => .retryable message
  | .notFound | .other _ => .fatal message

def nonblockingFailed (provider path : String) (error : IoError) :
    ProviderError :=
  .fatal <|
    "Provider '" ++ provider ++ "' failed to set nonblocking for '" ++ path ++
      "': " ++ error.display

end UnixListen

/-! ### The processes -/

/-- Where a process stands in `try_new`. -/
inductive ListenPoint where
  | idle
  /-- before the first `symlink_metadata` -/
  | stat
  /-- before `UnixStream::connect` -/
  | probe
  /-- the probe has failed, before the second `symlink_metadata` -/
  | statAgain
  /-- before `remove_file` -/
  | unlink
  /-- before `UnixListener::bind` -/
  | bind
  /-- before `set_nonblocking` -/
  | setNonblocking
  | listening
  | failed (error : ProviderError)
deriving Repr, DecidableEq

structure ListenProcess where
  provider : String
  point : ListenPoint
deriving Repr, DecidableEq

namespace ListenProcess

/-- The next system call of a process: what is at the path then, and where the
process goes. -/
def proceed (path : String) (self : Nat) (entry : PathEntry)
    (fault : Option IoError) (process : ListenProcess) :
    Option (PathEntry × ListenPoint) :=
  let provider := process.provider
  match process.point with
  | .idle | .listening | .failed _ => none
  | .stat =>
    match entry.lookup fault with
    | .ok _ => some (entry, .probe)
    | .error error =>
      if error.kind = .notFound then some (entry, .bind)
      else some (entry, .failed (UnixListen.inspectFailed provider path error))
  | .probe =>
    if entry.connects fault then
      some (entry, .failed (UnixListen.heldByLive provider path))
    else some (entry, .statAgain)
  | .statAgain =>
    match entry.lookup fault with
    | .ok found =>
      if found.isSocket then some (entry, .unlink)
      else some (entry, .failed (UnixListen.notASocket provider path))
    | .error error =>
      if error.kind = .notFound then some (entry, .bind)
      else some (entry, .failed (UnixListen.inspectFailed provider path error))
  | .unlink =>
    match entry.lookup fault with
    | .ok _ => some (.absent, .bind)
    | .error error =>
      if error.kind = .notFound then some (entry, .bind)
      else some (entry, .failed (UnixListen.removeFailed provider path error))
  | .bind =>
    match fault with
    | some error =>
      some (entry, .failed (UnixListen.bindFailed provider path error))
    | none =>
      if entry = .absent then
        some (.liveSocket (some self), .setNonblocking)
      else
        some (entry, .failed (UnixListen.bindFailed provider path .addrInUse))
  | .setNonblocking =>
    match fault with
    | none => some (entry, .listening)
    | some error =>
      -- the listener is dropped
      some (entry.close (some self), .failed (UnixListen.nonblockingFailed provider path error))

/-- What the next system call unlinks. -/
def unlinks (entry : PathEntry) (fault : Option IoError)
    (process : ListenProcess) : List PathEntry :=
  match process.point, entry.lookup fault with
  | .unlink, .ok found => [found]
  | _, _ => []

end ListenProcess

/-- A path and the processes that run `try_new` on it.  `removed` is history:
what was at the path each time it was unlinked. -/
structure SocketPath where
  path : String
  entry : PathEntry
  processes : List ListenProcess
  removed : List PathEntry
deriving Repr, DecidableEq

inductive SocketAction where
  /-- a process calls `try_new`, for the first time or again -/
  | start (index : Nat)
  /-- the next system call of a process, which may fail by a fault -/
  | proceed (index : Nat) (fault : Option IoError)
  /-- a process drops its listener -/
  | close (index : Nat)
  /-- another program closes its listener -/
  | closeOther
deriving Repr, DecidableEq

namespace SocketPath

/-- Before anybody calls `try_new`. -/
def new (path : String) (entry : PathEntry) (providers : List String) :
    SocketPath :=
  { path := path
    entry := entry
    processes := providers.map fun provider => ⟨provider, .idle⟩
    removed := [] }

/-- A process goes to a point. -/
def goto (state : SocketPath) (index : Nat) (process : ListenProcess)
    (point : ListenPoint) : SocketPath :=
  { state with processes := state.processes.set index { process with point := point } }

def step (state : SocketPath) : SocketAction → Option SocketPath
  | .start index =>
    match state.processes[index]? with
    | some ⟨provider, .idle⟩ =>
      some (state.goto index ⟨provider, .idle⟩ .stat)
    | some ⟨provider, .failed error⟩ =>
      some (state.goto index ⟨provider, .failed error⟩ .stat)
    | _ => none
  | .proceed index fault =>
    state.processes[index]?.bind fun process =>
      (process.proceed state.path index state.entry fault).map
        fun (entry, point) =>
          { state.goto index process point with
            entry := entry
            removed := state.removed ++ process.unlinks state.entry fault }
  | .close index =>
    match state.processes[index]? with
    | some ⟨provider, .listening⟩ =>
      some
        { state.goto index ⟨provider, .listening⟩ .idle with
          entry := state.entry.close (some index) }
    | _ => none
  | .closeOther => some { state with entry := state.entry.close none }

end SocketPath

/-! ### What a system call can do -/

/-- The process takes what is at the path for a stale socket. -/
def ListenPoint.removing : ListenPoint → Bool
  | .statAgain | .unlink => true
  | _ => false

/-- The system calls of a process, by what they mean for the path. -/
inductive ListenMove (self : Nat) (entry : PathEntry) (fault : Option IoError) :
    ListenPoint → PathEntry → ListenPoint → Prop where
  | suspects (refused : entry.connects fault = false) :
      ListenMove self entry fault .probe entry .statAgain
  | confirms (socket : entry.isSocket = true) :
      ListenMove self entry fault .statAgain entry .unlink
  | unlinks (present : entry ≠ .absent) (faultless : fault = none) :
      ListenMove self entry fault .unlink .absent .bind
  | binds (absent : entry = .absent) (faultless : fault = none) :
      ListenMove self entry fault .bind (.liveSocket (some self))
        .setNonblocking
  | drops {error} :
      ListenMove self entry fault .setNonblocking (entry.close (some self))
        (.failed error)
  | others {point after} (there : after.removing = false) :
      ListenMove self entry fault point entry after

theorem PathEntry.lookup_ok {entry found : PathEntry} {fault : Option IoError}
    (present : entry.lookup fault = .ok found) :
    fault = none ∧ entry ≠ .absent ∧ found = entry := by
  unfold lookup at present
  split at present
  · cases present
  · split at present
    · cases present
    · rename_i there
      cases present
      exact ⟨rfl, there, rfl⟩

theorem ListenMove.of_proceed {path : String} {self : Nat} {entry after : PathEntry}
    {fault : Option IoError} {process : ListenProcess} {point : ListenPoint}
    (proceeded : process.proceed path self entry fault = some (after, point)) :
    ListenMove self entry fault process.point after point := by
  unfold ListenProcess.proceed at proceeded
  dsimp only at proceeded
  split at proceeded <;> rename_i here
  · cases proceeded
  · cases proceeded
  · cases proceeded
  · split at proceeded
    · cases proceeded
      exact .others rfl
    · split at proceeded <;> cases proceeded <;> exact .others rfl
  · rw [here]
    split at proceeded <;> rename_i refused <;> cases proceeded
    · exact .others rfl
    · exact .suspects (Bool.eq_false_iff.mpr refused)
  · rw [here]
    split at proceeded
    · rename_i found present
      obtain ⟨-, -, rfl⟩ := PathEntry.lookup_ok present
      split at proceeded <;> rename_i socket <;> cases proceeded
      · exact .confirms socket
      · exact .others rfl
    · split at proceeded <;> cases proceeded <;> exact .others rfl
  · rw [here]
    split at proceeded
    · rename_i present
      obtain ⟨faultless, there, -⟩ := PathEntry.lookup_ok present
      cases proceeded
      exact .unlinks there faultless
    · split at proceeded <;> cases proceeded <;> exact .others rfl
  · rw [here]
    split at proceeded
    · cases proceeded
      exact .others rfl
    · split at proceeded <;> rename_i absent <;> cases proceeded
      · exact .binds absent rfl
      · exact .others rfl
  · rw [here]
    split at proceeded <;> cases proceeded
    · exact .others rfl
    · exact .drops

/-- Only `remove_file` unlinks, and it unlinks what it finds. -/
theorem ListenProcess.mem_unlinks {entry found : PathEntry} {fault : Option IoError}
    {process : ListenProcess} (unlinked : found ∈ process.unlinks entry fault) :
    process.point = .unlink ∧ found = entry := by
  unfold unlinks at unlinked
  split at unlinked
  · rename_i here present
    rw [List.mem_singleton.mp unlinked]
    exact ⟨here, (PathEntry.lookup_ok present).2.2⟩
  · cases unlinked

end ServiceDaemon
