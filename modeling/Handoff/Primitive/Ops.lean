/-
What a primitive process does to the world around it.

A primitive is one daemon process, first as successor and then as incumbent, or
from cold start as incumbent.  Its operations are the system calls of
`incumbent.rs`, `role.rs`, `lock.rs` and `sock.rs`, the three `Drainable` hooks
and the frame reads and writes on its two kinds of control stream.  Log lines
and crash points are left out: the first have no effect and a crash may be
placed between any two operations.

Durations and instants are counted in nanoseconds.
-/

import Handoff.Effects.Code
import Handoff.Protocol

namespace Handoff

abbrev Instant : Type := Nat

abbrev Duration : Type := Nat

def Duration.fromMillis (millis : Nat) : Duration := millis * 1000000

def Duration.fromSecs (secs : Nat) : Duration := secs * 1000000000

/-- What `FrameAccumulator::poll_read` reports.  `waiting` is `Ok(None)`, with
`has_partial()` as the caller would see it next. -/
inductive Polled where
  | frame (version : ProtoVersion) (message : Message)
  | waiting (midFrame : Bool)
  | failed (cause : Error)
  deriving DecidableEq, Repr

structure DrainReport where
  openConnsRemaining : UInt32
  acceptClosed : Bool
  deriving DecidableEq, Repr

structure SealReport where
  lastRevisionPerShard : List UInt64
  dataDirFingerprint : Vector UInt8 32
  deriving DecidableEq, Repr

structure ReadinessSnapshot where
  listeningOn : List String
  healthzOk : Bool
  advertisedRevisionPerShard : List UInt64
  deriving DecidableEq, Repr

/-- `session` is the connection an incumbent accepted, `control` the socketpair
end a successor inherited. -/
inductive Channel where
  | session
  | control
  deriving DecidableEq, Repr

/-- `Flock::lock` with `LockExclusiveNonblock`. -/
inductive FlockAnswer where
  | locked
  | wouldBlock
  | failed (errno : Errno) (text : String)
  deriving DecidableEq, Repr

inductive PrimOp where
  -- the control socket of an incumbent
  | accept
  | sleep (duration : Duration)
  | peerUid
  | configureControlStream
  | setReadTimeout (timeout : Duration)
  -- `armed` tells the bounded read of `HelloAck` from the reads of the session loop
  | pollRead (armed : Bool)
  | readMessage
  | writeFrame (channel : Channel) (version : ProtoVersion) (message : Message)
  | close (channel : Channel)
  | now
  | nowUnixMs
  | tryClone
  -- the consumer
  | drain (deadline : Instant)
  | seal
  | resumeAfterAbort
  -- `DataDirLock::acquire`
  | createDataDir
  | openLockFile
  | flock
  | readPidfile
  | openPidTemp
  | writePidTemp (pid : UInt32)
  | syncPidTemp
  | renamePidTemp
  | removePidTemp
  | syncDataDir
  | closeLockFile
  -- `DataDirLock::drop`
  | removePidfile
  | releaseFlock
  -- `kill` with signal 0, in `is_pid_alive`
  | probePid (pid : Int)
  -- `bind_socket`
  | createSocketDir
  | removeStaging
  | bindStaging
  | chmodStaging
  | renameStaging
  | setCloexec
  | closeListener
  -- the bound on loop iterations is used up; there is no answer
  | outOfFuel
  deriving DecidableEq, Repr

@[reducible]
def PrimAns : PrimOp → Type
  | .accept => Except IoError Unit
  | .sleep _ => Unit
  | .peerUid => Except IoError UInt32
  | .configureControlStream => Except IoError Unit
  | .setReadTimeout _ => Except IoError Unit
  | .pollRead _ => Polled
  | .readMessage => Except Error (ProtoVersion × Message)
  | .writeFrame .. => Except Error Unit
  | .close _ => Unit
  | .now => Instant
  | .nowUnixMs => UInt64
  | .tryClone => Except IoError Unit
  | .drain _ => Except Error DrainReport
  | .seal => Except Error SealReport
  | .resumeAfterAbort => Except Error Unit
  | .createDataDir => Except IoError Unit
  | .openLockFile => Except IoError Unit
  | .flock => FlockAnswer
  | .readPidfile => Option Int
  | .openPidTemp => Except IoError Unit
  | .writePidTemp _ => Except IoError Unit
  | .syncPidTemp => Except IoError Unit
  | .renamePidTemp => Except IoError Unit
  | .removePidTemp => Unit
  | .syncDataDir => Except IoError Unit
  | .closeLockFile => Unit
  | .removePidfile => Unit
  | .releaseFlock => Unit
  | .probePid _ => Except Errno Unit
  | .createSocketDir => Except IoError Unit
  | .removeStaging => Unit
  | .bindStaging => Except IoError Unit
  | .chmodStaging => Except IoError Unit
  | .renameStaging => Except IoError Unit
  | .setCloexec => Except IoError Unit
  | .closeListener => Unit
  | .outOfFuel => Empty

/-- `DataDirLock`.  The pidfile path is a function of the directory. -/
structure DataDirLock where
  dataDir : String
  deriving DecidableEq, Repr

/-- `SessionState` of `incumbent.rs`. -/
structure SessionState where
  active : Option HandoffId := none
  sealed : Bool := false
  drained : Bool := false
  deriving DecidableEq, Repr

/-- The mutable variables of the process: `Incumbent.lock`, the `state` local of
`handle_session`, and whether a heartbeat thread is running beside a hook. -/
structure PrimStore where
  lock : Option DataDirLock := none
  state : SessionState := {}
  heartbeats : Bool := false
  deriving DecidableEq, Repr

/-- What does not change over the life of the process.  `socketDir` is the parent
of the control-socket path when it names a directory, and `stagingPath` the
sibling that `staging_path` derives from the pid and the first counter value. -/
structure Host where
  pid : UInt32
  euid : UInt32
  dataDir : String
  socketPath : String
  socketDir : Option String
  stagingPath : String
  maxSocketPathLen : Nat
  buildId : List UInt8
  deriving DecidableEq, Repr

abbrev PrimM (Value : Type) : Type := Effects.Code PrimStore PrimAns Error Value

abbrev PrimEvent : Type := Effects.Event (Effects.Call PrimStore PrimOp)
  (Effects.CallAns PrimStore PrimAns)

abbrev PrimPast : Type := Effects.Past PrimStore PrimAns

namespace PrimM

open Effects (Code)

abbrev ask (op : PrimOp) : PrimM (PrimAns op) := Code.call op

def orIo {Value : Type} (outcome : Except IoError Value) : PrimM Value :=
  Code.ofExcept (outcome.mapError Error.io)

/-- A loop whose iteration bound is used up: it is never answered again. -/
def stall {Value : Type} : PrimM Value :=
  fun store => .call ⟨store, .outOfFuel⟩ fun answer => answer.elim

end PrimM

end Handoff
