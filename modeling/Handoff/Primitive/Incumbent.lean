/-
`incumbent.rs`: the control-socket server of an incumbent.

`serve` accepts one supervisor session at a time, `handleSession` runs one and
`runSessionLoop` handles its messages.  The loops take a bound on the number of
iterations; a run that needs more stalls at `outOfFuel`, so a statement about
every bound is a statement about every finite run.

The listener and the accepted stream are values of the process that owns them
and do not appear in the store.  Dropping them is an operation.
-/

import Handoff.Primitive.Lock

namespace Handoff

open Effects PrimM
open Effects.Code (attempt fail load update ofExcept ensuring)

/-! ### Constants -/

def resumeFlockTimeout : Duration := Duration.fromSecs 2

def retryInterval : Duration := Duration.fromMillis 25

def incumbentHelloReadTimeout : Duration := Duration.fromSecs 5

def acceptBackoffMin : Duration := Duration.fromMillis 5

def acceptBackoffMax : Duration := Duration.fromSecs 1

/-! ### Accept failures -/

inductive AcceptFailure where
  | retry
  | exhausted
  | fatal
  deriving DecidableEq, Repr

def classifyAcceptError (cause : IoError) : AcceptFailure :=
  if cause.kind = .interrupted then .retry
  else match cause.rawOsError with
    | some .econnaborted | some .eproto | some .eperm => .retry
    | some .emfile | some .enfile | some .enobufs | some .enomem | some .eagain => .exhausted
    | _ => .fatal

/-! ### Sessions -/

inductive SessionOutcome where
  | committed
  | closed
  deriving DecidableEq, Repr

/-- The consumer hook runs while a background thread writes heartbeats.  When
the stream cannot be cloned it runs without them. -/
def runWithHeartbeats {Value : Type} (work : PrimM Value) : PrimM Value := do
  match ← ask .tryClone with
  | Except.error _ => work
  | Except.ok () =>
      update fun store => { store with heartbeats := true }
      ensuring work (update fun store => { store with heartbeats := false })

def setActive (active : Option HandoffId) : PrimM Unit :=
  update fun store => { store with state := { store.state with active := active } }

def setSealed (sealed : Bool) : PrimM Unit :=
  update fun store => { store with state := { store.state with sealed := sealed } }

def setDrained (drained : Bool) : PrimM Unit :=
  update fun store => { store with state := { store.state with drained := drained } }

def setLock (lock : Option DataDirLock) : PrimM Unit :=
  update fun store => { store with lock := lock }

/-- `self.lock.take();` the value taken is dropped at the end of the statement. -/
def takeLock : PrimM Unit := do
  let held := (← load).lock
  setLock none
  match held with
  | some lock => lock.drop
  | none => pure ()

def onPrepareHandoff (chosen : ProtoVersion) (handoffId : HandoffId)
    (deadlineMs drainGraceMs : UInt64) : PrimM Unit := do
  let active := (← load).state.active
  if active.isSome ∧ active ≠ some handoffId then fail .handoffInProgress
  else
    setActive (some handoffId)
    let now ← ask .now
    let deadline := now + Duration.fromMillis (min drainGraceMs deadlineMs).toNat
    let report ← runWithHeartbeats do ofExcept (← ask (.drain deadline))
    setDrained true
    ofExcept (← ask (.writeFrame .session chosen
      (.drained report.openConnsRemaining report.acceptClosed)))

def onSealRequest (chosen : ProtoVersion) (handoffId : HandoffId) : PrimM Unit := do
  if (← load).state.active ≠ some handoffId then
    fail (.unexpectedMessage "SealRequest for unknown id")
  else
    match ← attempt (runWithHeartbeats do ofExcept (← ask .seal)) with
    | .ok report =>
        takeLock
        setSealed true
        ofExcept (← ask (.writeFrame .session chosen
          (.sealComplete handoffId report.lastRevisionPerShard report.dataDirFingerprint)))
    | .error cause =>
        ofExcept (← ask (.writeFrame .session chosen
          (.sealFailed handoffId cause.display "")))
        ofExcept (← ask .resumeAfterAbort)
        setDrained false
        setActive none

def onCommit (handoffId : HandoffId) : PrimM SessionOutcome := do
  let state := (← load).state
  if state.active ≠ some handoffId then fail (.unexpectedMessage "Commit for unknown id")
  else if state.sealed = false then fail (.protocol "Commit before SealComplete")
  else pure .committed

/-- The `ResumeAfterAbort` and `Abort` arms differ in the text for an unknown id
only.  The lock is taken before the consumer resumes. -/
def onRollback (host : Host) (unknown : String) (handoffId : HandoffId) : PrimM Unit := do
  let state := (← load).state
  if state.active ≠ some handoffId then fail (.unexpectedMessage unknown)
  else
    if state.sealed then
      let lock ← DataDirLock.acquire host
      setLock (some lock)
      ofExcept (← ask .resumeAfterAbort)
      setSealed false
      setDrained false
    else if state.drained then
      ofExcept (← ask .resumeAfterAbort)
      setDrained false
    setActive none

def onResumeAfterAbort (host : Host) (handoffId : HandoffId) : PrimM Unit :=
  onRollback host "Resume for unknown id" handoffId

def onAbort (host : Host) (handoffId : HandoffId) : PrimM Unit :=
  onRollback host "Abort for unknown id" handoffId

def onHeartbeat (chosen : ProtoVersion) : PrimM Unit := do
  let tsMs ← ask .nowUnixMs
  ofExcept (← ask (.writeFrame .session chosen (.heartbeat tsMs)))

/-- The `match msg` of `run_session_loop`; `none` goes round the loop again. -/
def onMessage (host : Host) (chosen : ProtoVersion) : Message → PrimM (Option SessionOutcome)
  | .prepareHandoff handoffId _ deadlineMs drainGraceMs => do
      onPrepareHandoff chosen handoffId deadlineMs drainGraceMs
      pure none
  | .sealRequest handoffId => do
      onSealRequest chosen handoffId
      pure none
  | .commit handoffId => do
      let outcome ← onCommit handoffId
      pure (some outcome)
  | .resumeAfterAbort handoffId => do
      onResumeAfterAbort host handoffId
      pure none
  | .abort handoffId _ => do
      onAbort host handoffId
      pure none
  | .heartbeat _ => do
      onHeartbeat chosen
      pure none
  | other => fail (.unexpectedMessage (shortName other))

def runSessionLoop (host : Host) (chosen : ProtoVersion) : Nat → PrimM SessionOutcome
  | 0 => stall
  | fuel + 1 => do
      match ← ask (.pollRead false) with
      | Polled.waiting _ => runSessionLoop host chosen fuel
      | Polled.failed cause =>
          if cause.isDisconnect then
            -- after a seal the caller has to take the flock back
            if (← load).state.sealed then
              fail (.protocol "supervisor disconnected after seal; resuming")
            else pure .closed
          else fail cause
      | Polled.frame _ message =>
          match ← onMessage host chosen message with
          | some outcome => pure outcome
          | none => runSessionLoop host chosen fuel

/-- `Hello` out, `HelloAck` in: the handshake of `handle_session` in a build. -/
def incumbentHandshakeOf (build : Build) (host : Host) : PrimM ProtoVersion := do
  ofExcept (← ask (.writeFrame .session build.protoMax
    (.hello .incumbent host.pid host.buildId build.protoMin build.protoMax {})))
  orIo (← ask (.setReadTimeout incumbentHelloReadTimeout))
  match ← ask (.pollRead true) with
  | Polled.frame _ (.helloAck protoVersionChosen _) =>
      ofExcept (negotiateVersion build.protoMin build.protoMax protoVersionChosen
        protoVersionChosen)
  | Polled.frame _ other => fail (.unexpectedMessage (shortName other))
  | Polled.waiting _ => fail (.timeout "HelloAck")
  | Polled.failed cause => fail cause

def incumbentHandshake (host : Host) : PrimM ProtoVersion := incumbentHandshakeOf .current host

/-- The drained-session cleanup of `handle_session`; a failing hook is logged. -/
def resumeDrained (outcome : Except Error SessionOutcome) : PrimM Unit := do
  let state := (← load).state
  if state.drained ∧ state.sealed = false ∧ outcome ≠ .ok .committed then
    let _ ← ask .resumeAfterAbort

/-- `handle_session` in a build; `stream` is moved into it and closed when it returns. -/
def handleSessionOf (build : Build) (host : Host) (fuel : Nat) : PrimM SessionOutcome :=
  ensuring (do
    let chosen ← incumbentHandshakeOf build host
    update fun store => { store with state := {} }
    let outcome ← attempt (runSessionLoop host chosen fuel)
    resumeDrained outcome
    ofExcept outcome) (ask (.close .session))

def handleSession (host : Host) (fuel : Nat) : PrimM SessionOutcome :=
  handleSessionOf .current host fuel

/-! ### The serve loop -/

def peerUidIsAllowed (euid uid : UInt32) (extraAllowed : List UInt32) : Bool :=
  uid == euid || uid == 0 || extraAllowed.contains uid

def prepareSessionStream (host : Host) : PrimM Unit := do
  let uid ← orIo (← ask .peerUid)
  if peerUidIsAllowed host.euid uid [] then orIo (← ask .configureControlStream)
  else fail (.peerNotPermitted uid)

def acquireRetryLoop (host : Host) (deadline : Instant) : Nat → PrimM DataDirLock
  | 0 => stall
  | fuel + 1 => do
      match ← attempt (DataDirLock.acquire host) with
      | .ok lock => pure lock
      | .error (.lockHeld holderPid) =>
          let now ← ask .now
          if now < deadline then
            ask (.sleep retryInterval)
            acquireRetryLoop host deadline fuel
          else fail (.lockHeld holderPid)
      | .error cause => fail cause

def acquireWithShortRetry (host : Host) (timeout : Duration) (fuel : Nat) : PrimM DataDirLock := do
  let now ← ask .now
  acquireRetryLoop host (now + timeout) fuel

/-- What `serve` does after a session that ended with an error. -/
def recoverSession (host : Host) (fuel : Nat) : PrimM Unit := do
  if (← load).lock.isNone then
    let lock ← acquireWithShortRetry host resumeFlockTimeout fuel
    setLock (some lock)
    let _ ← ask .resumeAfterAbort

/-- One accepted connection, from its authentication to the point where `serve`
either accepts again (`none`) or returns. -/
def serveConnection (host : Host) (fuel : Nat) : PrimM (Option Unit) := do
  match ← attempt (prepareSessionStream host) with
  | .error _ =>
      ask (.close .session)
      pure none
  | .ok () =>
      match ← attempt (handleSession host fuel) with
      | .ok .committed => pure (some ())
      | .ok .closed => pure none
      | .error _ =>
          recoverSession host fuel
          pure none

def serveLoop (host : Host) : Nat → Duration → PrimM Unit
  | 0, _ => stall
  | fuel + 1, backoff => do
      match ← ask .accept with
      | Except.ok () =>
          match ← serveConnection host fuel with
          | some () => pure ()
          | none => serveLoop host fuel acceptBackoffMin
      | Except.error cause =>
          match classifyAcceptError cause with
          | .retry => serveLoop host fuel backoff
          | .exhausted =>
              ask (.sleep backoff)
              serveLoop host fuel (min (backoff * 2) acceptBackoffMax)
          | .fatal => fail (.io cause)

/-- `serve` consumes the `Incumbent`: every return drops the listener and then
whatever lock is still there. -/
def serve (host : Host) (fuel : Nat) : PrimM Unit :=
  ensuring (serveLoop host fuel acceptBackoffMin) do
    ask .closeListener
    takeLock

end Handoff
