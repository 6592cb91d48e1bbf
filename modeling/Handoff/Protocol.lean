/-
The wire protocol of `protocol.rs`: message types and version negotiation.

Integers are of the source's widths.  A handoff id is the 128-bit value of its
UUID and is shown in the hyphenated form that `Uuid` prints.
-/

import Handoff.Error

namespace Handoff

abbrev ProtoVersion : Type := UInt16

def protoMin : ProtoVersion := 1

/-- Equal to `protoMin` until a second version ships. -/
def protoMax : ProtoVersion := 1

/-- `PROTO_MIN` and `PROTO_MAX` of a build. -/
structure Build where
  protoMin : ProtoVersion
  protoMax : ProtoVersion
  deriving DecidableEq, Repr

def Build.current : Build := ⟨Handoff.protoMin, Handoff.protoMax⟩

inductive Side where
  | incumbent
  | successor
  deriving DecidableEq, Repr

def Side.debug : Side → String
  | .incumbent => "Incumbent"
  | .successor => "Successor"

structure HandoffId where
  uuid : BitVec 128
  deriving DecidableEq, Repr

/-- The 32 hex digits in groups of 8, 4, 4, 4 and 12. -/
def HandoffId.display (id : HandoffId) : String :=
  let digits := id.uuid.toHex.toList
  let group (start count : Nat) : String := String.ofList ((digits.drop start).take count)
  group 0 8 ++ "-" ++ group 8 4 ++ "-" ++ group 12 4 ++ "-" ++ group 16 4 ++ "-" ++ group 20 12

structure Capabilities where
  reserved : UInt64 := 0
  deriving DecidableEq, Repr

inductive Message where
  | hello (role : Side) (pid : UInt32) (buildId : List UInt8) (protoMin protoMax : ProtoVersion)
      (capabilities : Capabilities)
  | helloAck (protoVersionChosen : ProtoVersion) (handoffId : HandoffId)
  | prepareHandoff (handoffId : HandoffId) (successorPid : UInt32) (deadlineMs drainGraceMs : UInt64)
  | drained (openConnsRemaining : UInt32) (acceptClosed : Bool)
  | sealRequest (handoffId : HandoffId)
  | sealProgress (shardsSealed shardsTotal : UInt32) (lastRevision : UInt64)
  | sealComplete (handoffId : HandoffId) (lastRevisionPerShard : List UInt64)
      (dataDirFingerprint : Vector UInt8 32)
  | sealFailed (handoffId : HandoffId) (error partialState : String)
  | begin (handoffId : HandoffId)
  | ready (handoffId : HandoffId) (listeningOn : List String) (healthzOk : Bool)
      (advertisedRevisionPerShard : List UInt64)
  | commit (handoffId : HandoffId)
  | abort (handoffId : HandoffId) (reason : String)
  | resumeAfterAbort (handoffId : HandoffId)
  | heartbeat (tsMs : UInt64)
  deriving DecidableEq, Repr

def shortName : Message → String
  | .hello .. => "Hello"
  | .helloAck .. => "HelloAck"
  | .prepareHandoff .. => "PrepareHandoff"
  | .drained .. => "Drained"
  | .sealRequest .. => "SealRequest"
  | .sealProgress .. => "SealProgress"
  | .sealComplete .. => "SealComplete"
  | .sealFailed .. => "SealFailed"
  | .begin .. => "Begin"
  | .ready .. => "Ready"
  | .commit .. => "Commit"
  | .abort .. => "Abort"
  | .resumeAfterAbort .. => "ResumeAfterAbort"
  | .heartbeat .. => "Heartbeat"

def isHeartbeat : Message → Bool
  | .heartbeat _ => true
  | _ => false

/-- A message with the version its frame is stamped with. -/
abbrev Frame : Type := ProtoVersion × Message

def negotiateVersion (ourMin ourMax theirMin theirMax : ProtoVersion) :
    Except Error ProtoVersion :=
  let lo := max ourMin theirMin
  let hi := min ourMax theirMax
  if lo > hi then .error (.versionMismatch ourMin ourMax theirMin theirMax) else .ok hi

end Handoff
