/-
`Supervisor::perform_handoff` of `supervisor.rs`.

The function is cut at its numbered steps.  Locals with a destructor are nested
in the order in which the source declares them: the in-flight lock, the stream
to the incumbent, the child guard and last the stream to the successor, so that
they are dropped the other way round on every exit.
-/

import Handoff.Supervisor.Ops

namespace Handoff

open Effects SupM
open Effects.Code (attempt fail load update ensuring ensuringWith)

/-! ### Constants and time -/

def minReadTimeout : Duration := Duration.fromMillis 100

def livenessTimeout : Duration := Duration.fromSecs 10

def helloReadTimeout : Duration := Duration.fromSecs 5

def wireSlack : Duration := Duration.fromSecs 1

/-- A `Duration` counts its seconds in 64 bits. -/
@[irreducible]
def Duration.limit : Nat := 2 ^ 64 * 1000000000

/-- An `Instant` counts its seconds in a signed 64-bit integer. -/
@[irreducible]
def Instant.limit : Nat := 2 ^ 63 * 1000000000

def addDuration (first second : Duration) : SupM Duration :=
  if first + second < Duration.limit then pure (first + second) else panic

def addInstant (instant : Instant) (duration : Duration) : SupM Instant :=
  if instant + duration < Instant.limit then pure (instant + duration) else panic

/-- `as_millis() as u64`: the cast keeps the low 64 bits. -/
def asMillis (duration : Duration) : UInt64 := UInt64.ofNat (duration / 1000000)

def remainingUntil (deadline : Instant) : SupM Duration := do
  let now ← ask .now
  pure (max (if now ≤ deadline then deadline - now else minReadTimeout) minReadTimeout)

/-! ### Bounded reads -/

def armRecvTimeout (peer : Side) (timeout : Duration) : SupM Unit := do
  match ← ask (.setReadTimeout peer (some timeout)) with
  | Except.ok () => pure ()
  | Except.error cause =>
      if cause.rawOsError = some .einval then
        if ← ask (.readWouldBlock peer) then raise (.io cause) else pure ()
      else raise (.io cause)

def clearRecvTimeout (peer : Side) : SupM Unit := do
  let _ ← ask (.setReadTimeout peer none)

/-- The receive timeout of one read: what is left of the budget, but no more
than the liveness bound and no less than the floor. -/
def recvTimeout (deadline now : Instant) : Duration :=
  max (min livenessTimeout (deadline - now)) minReadTimeout

def readUntilLoop (peer : Side) (deadline : Instant) (awaiting : String)
    (pred : Message → Bool) : Nat → SupM Message
  | 0 => stall
  | fuel + 1 => do
      let now ← ask .now
      if deadline ≤ now then
        clearRecvTimeout peer
        raise (.timeout awaiting)
      else
        armRecvTimeout peer (recvTimeout deadline now)
        match ← ask (.pollRead peer) with
        | Polled.frame _ (.heartbeat _) => readUntilLoop peer deadline awaiting pred fuel
        | Polled.frame _ (.sealProgress ..) => readUntilLoop peer deadline awaiting pred fuel
        | Polled.frame _ message =>
            clearRecvTimeout peer
            if pred message then pure message
            else raise (.unexpectedMessage (shortName message))
        | Polled.waiting true => readUntilLoop peer deadline awaiting pred fuel
        | Polled.waiting false =>
            clearRecvTimeout peer
            raise (.timeout awaiting)
        | Polled.failed cause =>
            clearRecvTimeout peer
            raise cause

def readUntil (peer : Side) (timeout : Duration) (awaiting : String) (pred : Message → Bool)
    (fuel : Nat) : SupM Message := do
  let start ← ask .now
  let deadline ← addInstant start (max timeout minReadTimeout)
  readUntilLoop peer deadline awaiting pred fuel

/-! ### Handshake, journal and child -/

/-- What `exchange_hello_as_supervisor` of a build does with the answer to its read. -/
def ruleOnHello (build : Build) (peer : Side) (handoffId : HandoffId) (expectedRole : Side)
    (expectedPid : Option UInt32) : Polled → SupM ProtoVersion
  | .waiting _ => raise (.timeout "peer Hello")
  | .failed cause => raise cause
  | .frame _ (.hello theirRole theirPid _ theirMin theirMax _) => do
      if theirRole ≠ expectedRole then
        raise (.protocol ("peer announced role " ++ theirRole.debug ++ ", expected " ++
          expectedRole.debug))
      else
        match expectedPid with
        | some expected =>
            if theirPid ≠ expected then raise (.pidMismatch expected theirPid) else pure ()
        | none => pure ()
        let chosen ← orErr (negotiateVersion build.protoMin build.protoMax theirMin theirMax)
        orErr (← ask (.writeFrame peer chosen (.helloAck chosen handoffId)))
        pure chosen
  | .frame _ other => raise (.unexpectedMessage (shortName other))

def exchangeHelloOf (build : Build) (peer : Side) (handoffId : HandoffId) (expectedRole : Side)
    (expectedPid : Option UInt32) : SupM ProtoVersion := do
  armRecvTimeout peer helloReadTimeout
  let polled ← ask (.pollRead peer)
  clearRecvTimeout peer
  ruleOnHello build peer handoffId expectedRole expectedPid polled

def exchangeHelloAsSupervisor (peer : Side) (handoffId : HandoffId) (expectedRole : Side)
    (expectedPid : Option UInt32) : SupM ProtoVersion :=
  exchangeHelloOf .current peer handoffId expectedRole expectedPid

def journalSet (supervisor : Supervisor) (handoffId : HandoffId) (phase : Phase)
    (successorPid : UInt32) (startedAtUnixMs : UInt64) : SupM Unit :=
  match supervisor.journalPath with
  | none => pure ()
  | some _ => do
      orErr (← ask (.journalWrite
        { handoffId := handoffId, phase := phase, incumbentPid := supervisor.pid
          successorPid := some successorPid, startedAtUnixMs := startedAtUnixMs }))

def journalClear (supervisor : Supervisor) : SupM Unit :=
  match supervisor.journalPath with
  | none => pure ()
  | some _ => do
      let _ ← ask .journalDelete

def sendBestEffortAbort (version : ProtoVersion) (handoffId : HandoffId) (reason : String) :
    SupM Unit := do
  let _ ← ask (.writeFrame .successor version (.abort handoffId reason))

/-- `ChildGuard::kill_and_reap`, and `drop` of a guard that was not consumed. -/
def killAndReap : SupM Unit := do
  match (← load).guard with
  | none => pure ()
  | some pid =>
      let _ ← ask (.kill pid)
      let _ ← ask (.wait pid)
      update fun store => { store with guard := none }

def disarm : SupM UInt32 := do
  match (← load).guard with
  | none => panic
  | some pid =>
      update fun store => { store with guard := none }
      pure pid

/-- The command of `spawn_successor`, up to the listeners. -/
def successorCommand (supervisor : Supervisor) (spec : SpawnSpec) : SpawnCommand :=
  { binary := spec.binary
    args := spec.args
    env := spec.env ++ [(envHandoffRole, "successor"),
      (envHandoffSockFd, toString (3 + supervisor.listenerFds.length))] }

def spawnCommand (supervisor : Supervisor) (spec : SpawnSpec) : SpawnCommand :=
  (successorCommand supervisor spec).passListeners supervisor.listenerFds

/-! ### The steps of a handoff -/

structure HandoffLocals where
  supervisor : Supervisor
  spec : SpawnSpec
  handoffId : HandoffId
  startedUnixMs : UInt64
  totalDeadlineAt : Instant
  chosenO : ProtoVersion
  successorPid : UInt32
  chosenN : ProtoVersion
  deriving DecidableEq, Repr

def HandoffLocals.journal (locals : HandoffLocals) (phase : Phase) : SupM Unit :=
  journalSet locals.supervisor locals.handoffId phase locals.successorPid locals.startedUnixMs

def HandoffLocals.notCommitted (locals : HandoffLocals) (reason : String) : HandoffOutcome :=
  { handoffId := locals.handoffId, committed := false, abortReason := some reason, child := none }

def isDrained : Message → Bool
  | .drained .. => true
  | _ => false

def isReady : Message → Bool
  | .ready .. => true
  | _ => false

/-- Step 5: `PrepareHandoff` out, `Drained` in. -/
def prepare (locals : HandoffLocals) (fuel : Nat) : SupM Unit := do
  let remaining ← remainingUntil locals.totalDeadlineAt
  orErr (← ask (.writeFrame .incumbent locals.chosenO (.prepareHandoff locals.handoffId
    locals.successorPid (asMillis remaining) (asMillis locals.spec.drainGrace))))
  let timeout ← addDuration locals.spec.drainGrace wireSlack
  let _ ← readUntil .incumbent timeout "Drained" isDrained fuel
  locals.journal .draining

/-- The successor is aborted and killed, and the wait for `SealComplete` ends. -/
def abandonSeal (locals : HandoffLocals) (reason : String) : SupM (Except String Unit) := do
  clearRecvTimeout .incumbent
  sendBestEffortAbort locals.chosenN locals.handoffId reason
  killAndReap
  journalClear locals.supervisor
  raise (.timeout "SealComplete")

/-- `SealComplete` or `SealFailed` for this handoff; any other frame is none. -/
def sealVerdict (handoffId : HandoffId) : Message → Option (Except String Unit)
  | .sealComplete id _ _ => if id = handoffId then some (.ok ()) else none
  | .sealFailed id error _ => if id = handoffId then some (.error error) else none
  | _ => none

/-- The seal-wait loop; `error` is the text of a `SealFailed`. -/
def sealWaitLoop (locals : HandoffLocals) (deadline : Instant) : Nat → SupM (Except String Unit)
  | 0 => stall
  | fuel + 1 => do
      let now ← ask .now
      if deadline ≤ now then abandonSeal locals "seal phase timed out"
      else
        armRecvTimeout .incumbent (recvTimeout deadline now)
        match ← ask (.pollRead .incumbent) with
        | Polled.frame _ (.sealProgress ..) => sealWaitLoop locals deadline fuel
        | Polled.frame _ (.heartbeat _) => sealWaitLoop locals deadline fuel
        | Polled.frame _ message =>
            match sealVerdict locals.handoffId message with
            | some verdict => pure verdict
            | none =>
                clearRecvTimeout .incumbent
                raise (.unexpectedMessage (shortName message))
        | Polled.waiting true => sealWaitLoop locals deadline fuel
        | Polled.waiting false => abandonSeal locals "incumbent unresponsive during seal"
        | Polled.failed cause =>
            clearRecvTimeout .incumbent
            raise cause

/-- Step 7 up to the verdict: `Begin` out, `Ready` in.  A failing journal write
is not part of the verdict. -/
def awaitReady (locals : HandoffLocals) (fuel : Nat) : SupM (Except Error Message) := do
  match ← ask (.writeFrame .successor locals.chosenN (.begin locals.handoffId)) with
  | Except.error cause => pure (.error cause)
  | Except.ok () =>
      locals.journal .awaitingReady
      let remaining ← remainingUntil locals.totalDeadlineAt
      let timeout ← addDuration remaining wireSlack
      catchError (readUntil .successor timeout "Ready" isReady fuel)

/-- A `Ready` for another handoff is a protocol error. -/
def checkReady (handoffId : HandoffId) : Except Error Message → Except Error Message
  | .ok (.ready id listeningOn healthzOk advertised) =>
      if id ≠ handoffId then
        .error (.protocol ("Ready carries wrong handoff_id: got " ++ id.display ++
          ", expected " ++ handoffId.display))
      else .ok (.ready id listeningOn healthzOk advertised)
  | other => other

/-- Step 8: the guard is disarmed before `Commit` is written, and nothing after
that can fail the handoff. -/
def commitHandoff (locals : HandoffLocals) : SupM HandoffOutcome := do
  let child ← disarm
  let _ ← ask (.writeFrame .incumbent locals.chosenO (.commit locals.handoffId))
  let _ ← catchError (locals.journal .committed)
  journalClear locals.supervisor
  pure { handoffId := locals.handoffId, committed := true, abortReason := none
         child := some child }

def abortReason : Except Error Message → String
  | .ok message => "expected Ready, got " ++ shortName message
  | .error (.timeout awaiting) => "ready phase timed out waiting for " ++ awaiting
  | .error cause => "ready read failed: " ++ cause.display

/-- The successor is aborted and killed before the incumbent is told to resume. -/
def abortHandoff (locals : HandoffLocals) (verdict : Except Error Message) :
    SupM HandoffOutcome := do
  let reason := abortReason verdict
  sendBestEffortAbort locals.chosenN locals.handoffId reason
  killAndReap
  orErr (← ask (.writeFrame .incumbent locals.chosenO (.resumeAfterAbort locals.handoffId)))
  locals.journal .resumingAfterAbort
  journalClear locals.supervisor
  pure (locals.notCommitted reason)

/-- The arm of the last `match` that takes a verdict. -/
def isOwnReady (handoffId : HandoffId) : Except Error Message → Bool
  | .ok (.ready id _ _ _) => id == handoffId
  | _ => false

/-- Steps 7 and 8, after `SealComplete`. -/
def finishHandoff (locals : HandoffLocals) (fuel : Nat) : SupM HandoffOutcome := do
  locals.journal .sealing
  let verdict := checkReady locals.handoffId (← awaitReady locals fuel)
  if isOwnReady locals.handoffId verdict then commitHandoff locals
  else abortHandoff locals verdict

/-- Step 6: `SealRequest` out, then the wait. -/
def sealAndFinish (locals : HandoffLocals) (fuel : Nat) : SupM HandoffOutcome := do
  orErr (← ask (.writeFrame .incumbent locals.chosenO (.sealRequest locals.handoffId)))
  let deadline ← addInstant locals.totalDeadlineAt wireSlack
  let outcome ← sealWaitLoop locals deadline fuel
  clearRecvTimeout .incumbent
  match outcome with
  | .error error =>
      sendBestEffortAbort locals.chosenN locals.handoffId ("seal failed: " ++ error)
      killAndReap
      journalClear locals.supervisor
      pure (locals.notCommitted ("seal failed: " ++ error))
  | .ok () => finishHandoff locals fuel

/-- Steps 4 to 8, with both streams open and the child under guard. -/
def driveHandoff (supervisor : Supervisor) (spec : SpawnSpec) (handoffId : HandoffId)
    (startedUnixMs : UInt64) (totalDeadlineAt : Instant) (chosenO : ProtoVersion)
    (successorPid : UInt32) (fuel : Nat) : SupM HandoffOutcome := do
  orIo (← ask (.configureControlStream .successor))
  let chosenN ← exchangeHelloAsSupervisor .successor handoffId .successor (some successorPid)
  let locals : HandoffLocals :=
    { supervisor := supervisor, spec := spec, handoffId := handoffId
      startedUnixMs := startedUnixMs, totalDeadlineAt := totalDeadlineAt
      chosenO := chosenO, successorPid := successorPid, chosenN := chosenN }
  locals.journal .negotiating
  prepare locals fuel
  sealAndFinish locals fuel

/-- Steps 2 and 3: the successor is spawned on one end of a socketpair. -/
def spawnAndDrive (supervisor : Supervisor) (spec : SpawnSpec) (handoffId : HandoffId)
    (startedUnixMs : UInt64) (totalDeadlineAt : Instant) (chosenO : ProtoVersion) (fuel : Nat) :
    SupM HandoffOutcome := do
  orErr (← ask .makeSocketpair)
  match ← ask (.spawn (spawnCommand supervisor spec)) with
  | Except.error cause =>
      ask .closeChildEnd
      ask (.close .successor)
      raise (.io cause)
  | Except.ok successorPid =>
      update fun store => { store with guard := some successorPid }
      ask .closeChildEnd
      ensuring
        (ensuring
          (driveHandoff supervisor spec handoffId startedUnixMs totalDeadlineAt chosenO
            successorPid fuel)
          (ask (.close .successor)))
        killAndReap

/-- Step 1 and what follows on the open stream to the incumbent. -/
def connectAndDrive (supervisor : Supervisor) (spec : SpawnSpec) (handoffId : HandoffId)
    (startedUnixMs : UInt64) (totalDeadlineAt : Instant) (fuel : Nat) : SupM HandoffOutcome := do
  orIo (← ask (.connect supervisor.socketPath))
  ensuring (do
    orIo (← ask (.configureControlStream .incumbent))
    let chosenO ← exchangeHelloAsSupervisor .incumbent handoffId .incumbent none
    spawnAndDrive supervisor spec handoffId startedUnixMs totalDeadlineAt chosenO fuel)
    (ask (.close .incumbent))

def performHandoff (supervisor : Supervisor) (spec : SpawnSpec) (fuel : Nat) :
    SupM HandoffOutcome := do
  if ← ask .tryLockInFlight then
    ensuringWith (do
      let handoffId ← ask .newHandoffId
      let startedInstant ← ask .now
      let startedUnixMs ← ask .nowUnixMs
      let totalDeadlineAt ← addInstant startedInstant spec.deadline
      connectAndDrive supervisor spec handoffId startedUnixMs totalDeadlineAt fuel)
      (fun outcome => ask (.releaseInFlight (outcome matches .error .panic)))
  else raise .handoffInProgress

/-! ### After a restart -/

/-- `resume_from_journal`: the probe of the incumbent reads its `Hello` and hangs up. -/
def resumeFromJournal (supervisor : Supervisor) : SupM (Option StateJournal) :=
  match supervisor.journalPath with
  | none => pure none
  | some _ => do
      match ← orErr (← ask .journalRead) with
      | none => pure none
      | some journal =>
          match ← ask (.connect supervisor.socketPath) with
          | Except.ok () =>
              let _ ← ask (.setReadTimeout .incumbent (some (Duration.fromSecs 2)))
              let _ ← ask (.readMessage .incumbent)
              ask (.close .incumbent)
          | Except.error _ => pure ()
          orErr (← ask .journalDelete)
          pure (some journal)

end Handoff
