/-
`role.rs` and the binding half of `sock.rs`: a successor on its way to becoming
the incumbent.

`runSuccessor` is the documented order: handshake, `wait_for_begin`, the data-dir
lock, `announce_and_bind`, `serve`.  The three typestates of the source are the
values that each step hands to the next.  The inherited listeners of the consumer
play no part in the protocol and are left out.
-/

import Handoff.Primitive.Incumbent

namespace Handoff

open Effects PrimM
open Effects.Code (attempt fail ofExcept ensuring)

/-- `HandshookSuccessor` and `BegunSuccessor`, without their stream. -/
structure Negotiated where
  handoffId : HandoffId
  protoVersion : ProtoVersion
  deriving DecidableEq, Repr

/-! ### Until `Begin` -/

/-- `Successor::handshake` in a build. -/
def successorHandshakeOf (build : Build) (host : Host) : PrimM Negotiated := do
  ofExcept (← ask (.writeFrame .control build.protoMax
    (.hello .successor host.pid host.buildId build.protoMin build.protoMax {})))
  match ← ofExcept (← ask .readMessage) with
  | (_, .helloAck protoVersionChosen handoffId) =>
      pure { handoffId := handoffId, protoVersion := protoVersionChosen }
  | (_, other) => fail (.unexpectedMessage (shortName other))

def successorHandshake (host : Host) : PrimM Negotiated := successorHandshakeOf .current host

def waitForBegin (expected : HandoffId) : Nat → PrimM Unit
  | 0 => stall
  | fuel + 1 => do
      match ← ofExcept (← ask .readMessage) with
      | (_, .begin handoffId) =>
          if handoffId = expected then pure ()
          else fail (.protocol ("Begin handoff_id " ++ handoffId.display ++
            " does not match handshake id " ++ expected.display))
      | (_, .abort _ reason) => fail (.aborted reason)
      | (_, .heartbeat _) => waitForBegin expected fuel
      | (_, other) => fail (.unexpectedMessage (shortName other))

/-! ### The control socket -/

def validateSocketPath (host : Host) (path : String) : PrimM Unit :=
  if host.maxSocketPathLen < path.utf8ByteSize then
    fail (.socketPathTooLong path path.utf8ByteSize host.maxSocketPathLen)
  else pure ()

/-- The `create_dir_all` of `bind_socket`, for a path that names a directory. -/
def createSocketDir (host : Host) : PrimM Unit :=
  match host.socketDir with
  | none => pure ()
  | some _ => do
      orIo (← ask .createSocketDir)

/-- The closure of `bind_socket`: the mode first, the name second. -/
def publishStaging : PrimM Unit := do
  orIo (← ask .chmodStaging)
  orIo (← ask .renameStaging)

/-- `bind_socket`: the listener is bound under a staging name and renamed over
the path.  A listener that cannot be used is dropped. -/
def bindSocket (host : Host) : PrimM Unit := do
  validateSocketPath host host.socketPath
  createSocketDir host
  validateSocketPath host host.stagingPath
  ask .removeStaging
  orIo (← ask .bindStaging)
  match ← attempt publishStaging with
  | .error cause =>
      ask .closeListener
      ask .removeStaging
      fail cause
  | .ok () =>
      match ← ask .setCloexec with
      | Except.error cause =>
          ask .closeListener
          fail (.io cause)
      | Except.ok () => pure ()

/-- `bind_replacing`, which `bind_cold_start` and `bind_after_ready` share.  The
lock moves into the `Incumbent`, or is dropped with the failed call. -/
def bindReplacing (host : Host) (lock : DataDirLock) : PrimM Unit := do
  match ← attempt (bindSocket host) with
  | .ok () => setLock (some lock)
  | .error cause =>
      lock.drop
      fail cause

/-! ### From `Begin` to serving -/

/-- `announce_ready` consumes the stream. -/
def announceReady (negotiated : Negotiated) (snapshot : ReadinessSnapshot) : PrimM Unit :=
  ensuring (do
    ofExcept (← ask (.writeFrame .control negotiated.protoVersion
      (.ready negotiated.handoffId snapshot.listeningOn snapshot.healthzOk
        snapshot.advertisedRevisionPerShard)))) (ask (.close .control))

def announceAndBind (host : Host) (negotiated : Negotiated) (snapshot : ReadinessSnapshot)
    (lock : DataDirLock) : PrimM Unit := do
  match ← attempt (announceReady negotiated snapshot) with
  | .ok () => bindReplacing host lock
  | .error cause =>
      lock.drop
      fail cause

/-- The way to the lock; every failure drops the stream. -/
def begunWithLock (host : Host) (fuel : Nat) : PrimM (Negotiated × DataDirLock) := do
  match ← attempt (do
    let negotiated ← successorHandshake host
    waitForBegin negotiated.handoffId fuel
    let lock ← DataDirLock.acquire host
    pure (negotiated, lock)) with
  | .ok begun => pure begun
  | .error cause =>
      ask (.close .control)
      fail cause

def runSuccessor (host : Host) (snapshot : ReadinessSnapshot) (fuel : Nat) : PrimM Unit := do
  let (negotiated, lock) ← begunWithLock host fuel
  announceAndBind host negotiated snapshot lock
  serve host fuel

end Handoff
