/-
What a supervisor does to the world around it during one handoff.

The operations are those of `perform_handoff` and its helpers in
`supervisor.rs`.  The clock, the journal and the child process answer like any
other peer.  Additions to an `Instant` or a `Duration` panic when they leave the
range of the type; a panic unwinds, so the drops of the source still run.
-/

import Handoff.Primitive.Ops
import Handoff.Text

namespace Handoff

inductive Phase where
  | negotiating
  | draining
  | sealing
  | awaitingReady
  | committed
  | resumingAfterAbort
  deriving DecidableEq, Repr

structure StateJournal where
  handoffId : HandoffId
  phase : Phase
  incumbentPid : UInt32
  successorPid : Option UInt32
  startedAtUnixMs : UInt64
  deriving DecidableEq, Repr

/-! ### Commands -/

def envHandoffRole : String := "HANDOFF_ROLE"

def envHandoffSockFd : String := "HANDOFF_SOCK_FD"

def envListenFds : String := "LISTEN_FDS"

def envListenFdnames : String := "LISTEN_FDNAMES"

def envListenPid : String := "LISTEN_PID"

/-- A `Command`, without the descriptors that are arranged in the child.  Of two
settings for one variable the later one counts. -/
structure SpawnCommand where
  binary : String
  args : List String
  env : List (String × String)
  deriving DecidableEq, Repr

/-- The settings of `pass_listener_fds_on_spawn`, on a command that already has some. -/
def SpawnCommand.passListeners (command : SpawnCommand) (listeners : List (String × Int)) :
    SpawnCommand :=
  { command with
    env := command.env ++
      [(envListenFds, toString listeners.length),
        (envListenFdnames, joinAt ':' (listeners.map Prod.fst))] }

/-! ### Operations -/

inductive SupOp where
  | tryLockInFlight
  | newHandoffId
  | now
  | nowUnixMs
  | connect (path : String)
  | configureControlStream (peer : Side)
  | setReadTimeout (peer : Side) (timeout : Option Duration)
  | readWouldBlock (peer : Side)
  | pollRead (peer : Side)
  | readMessage (peer : Side)
  | writeFrame (peer : Side) (version : ProtoVersion) (message : Message)
  | makeSocketpair
  | spawn (command : SpawnCommand)
  | closeChildEnd
  | journalRead
  | journalWrite (record : StateJournal)
  | journalDelete
  | kill (pid : UInt32)
  | wait (pid : UInt32)
  | close (peer : Side)
  -- a mutex guard dropped by a panic poisons the mutex
  | releaseInFlight (poison : Bool)
  | outOfFuel
  deriving DecidableEq, Repr

@[reducible]
def SupAns : SupOp → Type
  | .tryLockInFlight => Bool
  | .newHandoffId => HandoffId
  | .now => Instant
  | .nowUnixMs => UInt64
  | .connect _ => Except IoError Unit
  | .configureControlStream _ => Except IoError Unit
  | .setReadTimeout .. => Except IoError Unit
  | .readWouldBlock _ => Bool
  | .pollRead _ => Polled
  | .readMessage _ => Except Error (ProtoVersion × Message)
  | .writeFrame .. => Except Error Unit
  | .makeSocketpair => Except Error Unit
  | .spawn _ => Except IoError UInt32
  | .closeChildEnd => Unit
  | .journalRead => Except Error (Option StateJournal)
  | .journalWrite _ => Except Error Unit
  | .journalDelete => Except Error Unit
  | .kill _ => Except IoError Unit
  | .wait _ => Except IoError Unit
  | .close _ => Unit
  | .releaseInFlight _ => Unit
  | .outOfFuel => Empty

/-- `guard` is the pid of the child that `ChildGuard` still owns. -/
structure SupStore where
  guard : Option UInt32 := none
  deriving DecidableEq, Repr

inductive Halt where
  | error (cause : Error)
  | panic
  deriving DecidableEq, Repr

/-- `Supervisor`, with the pid of the process it runs in. -/
structure Supervisor where
  socketPath : String
  listenerFds : List (String × Int)
  journalPath : Option String
  pid : UInt32
  deriving DecidableEq, Repr

structure SpawnSpec where
  binary : String
  args : List String := []
  env : List (String × String) := []
  deadline : Duration := Duration.fromSecs 300
  drainGrace : Duration := Duration.fromSecs 60
  deriving DecidableEq, Repr

structure HandoffOutcome where
  handoffId : HandoffId
  committed : Bool
  abortReason : Option String
  child : Option UInt32
  deriving DecidableEq, Repr

abbrev SupM (Value : Type) : Type := Effects.Code SupStore SupAns Halt Value

abbrev SupEvent : Type := Effects.Event (Effects.Call SupStore SupOp)
  (Effects.CallAns SupStore SupAns)

abbrev SupPast : Type := Effects.Past SupStore SupAns

namespace SupM

open Effects (Code)

abbrev ask (op : SupOp) : SupM (SupAns op) := Code.call op

def orErr {Value : Type} (outcome : Except Error Value) : SupM Value :=
  Code.ofExcept (outcome.mapError Halt.error)

def orIo {Value : Type} (outcome : Except IoError Value) : SupM Value :=
  orErr (outcome.mapError Error.io)

def raise {Value : Type} (cause : Error) : SupM Value := Code.fail (.error cause)

def panic {Value : Type} : SupM Value := Code.fail .panic

/-- A `Result` the caller looks at; a panic is not one. -/
def catchError {Value : Type} (code : SupM Value) : SupM (Except Error Value) := do
  match ← Code.attempt code with
  | .ok value => pure (.ok value)
  | .error (.error cause) => pure (.error cause)
  | .error .panic => Code.fail .panic

def stall {Value : Type} : SupM Value :=
  fun store => .call ⟨store, .outOfFuel⟩ fun answer => answer.elim

end SupM

end Handoff
