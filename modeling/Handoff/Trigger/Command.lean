/-
The trigger socket of `handoff-supervisor`: one client, from its authentication
to the reply.

The command line is read from the socket first, so the client is a value: what
the kernel says about its peer, and a source of bytes.  Everything that happens
afterwards is an operation.
-/

import Handoff.Primitive.Incumbent
import Handoff.Supervisor.PerformHandoff
import Handoff.Text
import Handoff.Wire.Accumulator

namespace Handoff.Trigger

open Effects
open Effects.Code (attempt fail ofExcept)

/-! ### Reading a line -/

def triggerMaxLine : Nat := 4096

def bufferSize : Nat := 8192

def newline : UInt8 := 0x0A

/-- `read_until` for a newline on `BufReader::new(stream.take(limit))`.  Each round
takes all that one read brought, so the buffer is empty when the next one starts. -/
def readUntil (limit : Nat) (buf : List UInt8) (source : Source) : Except IoError (List UInt8) :=
  -- `Take` does not read once its limit is used up
  if _open : 0 < limit then
    match _step : source.read (min limit bufferSize) with
    | (.ok [], _) => .ok buf
    | (.ok (byte :: chunk), next) =>
        if newline ∈ byte :: chunk then
          .ok (buf ++ (byte :: chunk).takeWhile (· ≠ newline) ++ [newline])
        else readUntil (limit - (byte :: chunk).length) (buf ++ byte :: chunk) next
    | (.error cause, next) =>
        if cause.kind = .interrupted then readUntil limit buf next else .error cause
  else .ok buf
termination_by source.size
decreasing_by
  · exact Source.read_size _step (by unfold bufferSize; omega) (by simp)
  · exact Source.read_size _step (by unfold bufferSize; omega) (by simp)

def invalidUtf8 : IoError := IoError.ofKind .other "stream did not contain valid UTF-8"

/-- `read_line`: the bytes have to be text. -/
def readLine (limit : Nat) (source : Source) : Except IoError String :=
  match readUntil limit [] source with
  | .error cause => .error cause
  | .ok bytes =>
      match String.fromUTF8? ⟨bytes.toArray⟩ with
      | some line => .ok line
      | none => .error invalidUtf8

def splitWhitespace (text : List Char) : List (List Char) :=
  (text.splitOnP isWhitespace).filter fun token => token ≠ []

/-! ### Operations -/

/-- The fields of `Config` that a trigger reads. -/
structure Config where
  binary : String
  args : List String := []
  env : List (String × String) := []
  allowedUids : List UInt32 := []
  allowedBinaries : List String := []
  drainGraceSecs : UInt64 := 25
  deadlineSecs : UInt64 := 60
  deriving DecidableEq, Repr

/-- A reply line, by the values that it prints. -/
inductive Reply where
  | ok (handoffId : HandoffId) (committed : Bool) (abortReason : Option String)
  | err (text : String)
  deriving DecidableEq, Repr

inductive TriggerOp where
  | writeReply (reply : Reply)
  | canonicalize (path : String)
  | performHandoff (spec : SpawnSpec)
  -- `current_child`
  | lockChild
  | tryWait
  | replaceChild (pid : UInt32)
  | now
  | sleep (duration : Duration)
  | outOfFuel
  deriving DecidableEq, Repr

@[reducible]
def TriggerAns : TriggerOp → Type
  | .writeReply _ => Except IoError Unit
  | .canonicalize _ => Except IoError String
  | .performHandoff _ => Except Halt HandoffOutcome
  | .lockChild => Bool
  | .tryWait => Except IoError (Option Int)
  | .replaceChild _ => Unit
  | .now => Instant
  | .sleep _ => Unit
  | .outOfFuel => Empty

/-- An `anyhow::Error` by the text it displays, or a panic. -/
inductive TriggerFailure where
  | error (display : String)
  | panic
  deriving DecidableEq, Repr

abbrev TriggerM (Value : Type) : Type := Code Unit TriggerAns TriggerFailure Value

abbrev TriggerPast : Type := Past Unit TriggerAns

abbrev TriggerEvent : Type := Event (Call Unit TriggerOp) (CallAns Unit TriggerAns)

abbrev ask (op : TriggerOp) : TriggerM (TriggerAns op) := Code.call op

/-! ### The client -/

/-- What `read_trigger_command` finds on the connection. -/
structure Client where
  peerUid : Except IoError UInt32
  readTimeout : Except IoError Unit := .ok ()
  writeTimeout : Except IoError Unit := .ok ()
  source : Source

def readTriggerCommand (euid : UInt32) (cfg : Config) (client : Client) :
    TriggerM (Option String) := do
  match client.peerUid with
  | .error _ => pure none
  | .ok uid =>
      if peerUidIsAllowed euid uid cfg.allowedUids = false then
        let _ ← ask (.writeReply (.err "not permitted"))
        pure none
      else
        match client.readTimeout, client.writeTimeout with
        | .ok (), .ok () =>
            match readLine triggerMaxLine client.source with
            | .ok "" => pure none
            | .ok line => pure (some line)
            | .error _ => pure none
        | _, _ => pure none

/-! ### The command -/

/-- Is `path`, in its canonical form, the file that was asked for? -/
def anyCanonical (canonical : String) : List String → TriggerM Bool
  | [] => pure false
  | path :: paths => do
      match ← ask (.canonicalize path) with
      | Except.ok allowed =>
          if allowed = canonical then pure true else anyCanonical canonical paths
      | Except.error _ => anyCanonical canonical paths

def resolveRequestedBinary (requested : String) (cfg : Config) : TriggerM String := do
  match ← ask (.canonicalize requested) with
  | Except.error _ => fail (.error ("resolve requested binary " ++ requested))
  | Except.ok canonical =>
      if ← anyCanonical canonical (cfg.binary :: cfg.allowedBinaries) then pure canonical
      else
        fail (.error ("binary " ++ requested ++
          " is not in the configured allowlist (`binary` + `allowed_binaries`)"))

/-- The loop of `wait_child_with_timeout`; how it ends is only logged. -/
def waitChildLoop (deadline : Instant) : Nat → TriggerM Unit
  | 0 => fun store => .call ⟨store, .outOfFuel⟩ fun answer => answer.elim
  | fuel + 1 => do
      match ← ask .tryWait with
      | Except.ok (some _) => pure ()
      | Except.error _ => pure ()
      | Except.ok none =>
          let now ← ask .now
          if deadline ≤ now then pure ()
          else
            ask (.sleep (Duration.fromMillis 50))
            waitChildLoop deadline fuel

def waitChildWithTimeout (timeout : Duration) (fuel : Nat) : TriggerM Unit := do
  let now ← ask .now
  if now + timeout < Instant.limit then waitChildLoop (now + timeout) fuel else fail .panic

/-- After a committed handoff the new child takes the place of the old one. -/
def adoptChild (cfg : Config) (outcome : HandoffOutcome) (fuel : Nat) : TriggerM Unit :=
  match outcome.committed, outcome.child with
  | true, some child => do
      if ← ask .lockChild then
        waitChildWithTimeout (Duration.fromSecs cfg.deadlineSecs.toNat) fuel
        ask (.replaceChild child)
  | _, _ => pure ()

def Config.spec (cfg : Config) (binary : String) : SpawnSpec where
  binary := binary
  args := cfg.args
  env := cfg.env
  deadline := Duration.fromSecs cfg.deadlineSecs.toNat
  drainGrace := Duration.fromSecs cfg.drainGraceSecs.toNat

def runHandoff (cfg : Config) (binary : String) (fuel : Nat) : TriggerM Reply := do
  match ← ask (.performHandoff (cfg.spec binary)) with
  | Except.error (.error _) => fail (.error "perform_handoff")
  | Except.error .panic => fail .panic
  | Except.ok outcome =>
      adoptChild cfg outcome fuel
      pure (.ok outcome.handoffId outcome.committed outcome.abortReason)

def handleTrigger (cmd : List Char) (cfg : Config) (fuel : Nat) : TriggerM Reply :=
  match splitWhitespace cmd with
  | [] => pure (.err "empty command")
  | verb :: rest =>
      if verb = "handoff".toList then
        match rest with
        | [] => runHandoff cfg cfg.binary fuel
        | requested :: _ => do
            let binary ← resolveRequestedBinary (String.ofList requested) cfg
            runHandoff cfg binary fuel
      else pure (.err ("unknown command '" ++ String.ofList verb ++ "'"))

/-- One turn of the trigger loop in `main`. -/
def serveClient (euid : UInt32) (cfg : Config) (client : Client) (fuel : Nat) : TriggerM Unit := do
  match ← readTriggerCommand euid cfg client with
  | none => pure ()
  | some cmd =>
      match ← attempt (handleTrigger (trimText cmd.toList) cfg fuel) with
      | .ok reply =>
          let _ ← ask (.writeReply reply)
      | .error (.error display) =>
          let _ ← ask (.writeReply (.err display))
      | .error .panic => fail .panic

end Handoff.Trigger
