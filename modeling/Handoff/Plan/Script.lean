/-
The plan of a handoff in which nothing fails.

The acts are what one party does and another may wait for: connections, frames
that are written and read, the flock and the name of the control socket.  They
stand in one order here, which no party knows; each of them has its own script.
Heartbeats are not acts, and neither is anything that a party does on its own.
-/

import Handoff.Effects.Choreography
import Handoff.Negotiation

namespace Handoff.Plan

open Effects

/-! ### Acts -/

inductive Party where
  | supervisor
  | incumbent
  | successor
  deriving DecidableEq, Repr

inductive Topic where
  | hello
  | ack
  | prepare
  | drained
  | sealRequest
  | sealed
  | begin
  | ready
  | commit
  deriving DecidableEq, Repr

def Topic.fromSupervisor : Topic → Bool
  | .ack | .prepare | .sealRequest | .begin | .commit => true
  | .hello | .drained | .sealed | .ready => false

/-- `lane` is the primitive at the other end of the supervisor's stream. -/
inductive Act where
  | connect
  | accept
  | pair
  | spawn
  | say (lane : Side) (topic : Topic)
  | hear (lane : Side) (topic : Topic)
  | release
  | lock
  | publish
  deriving DecidableEq, Repr

def laneParty : Side → Party
  | .incumbent => .incumbent
  | .successor => .successor

def Act.party : Act → Party
  | .connect | .pair | .spawn => .supervisor
  | .accept | .release => .incumbent
  | .lock | .publish => .successor
  | .say lane topic => if topic.fromSupervisor then .supervisor else laneParty lane
  | .hear lane topic => if topic.fromSupervisor then laneParty lane else .supervisor

def Act.needs : Act → Option Act
  | .accept => some .connect
  | .say .successor .hello => some .spawn
  | .hear lane topic => some (.say lane topic)
  | _ => none

def order : List Act :=
  [.connect, .accept,
   .say .incumbent .hello, .hear .incumbent .hello, .say .incumbent .ack, .hear .incumbent .ack,
   .pair, .spawn,
   .say .successor .hello, .hear .successor .hello, .say .successor .ack, .hear .successor .ack,
   .say .incumbent .prepare, .hear .incumbent .prepare,
   .say .incumbent .drained, .hear .incumbent .drained,
   .say .incumbent .sealRequest, .hear .incumbent .sealRequest, .release,
   .say .incumbent .sealed, .hear .incumbent .sealed,
   .say .successor .begin, .hear .successor .begin, .lock,
   .say .successor .ready, .hear .successor .ready, .publish,
   .say .incumbent .commit, .hear .incumbent .commit]

def handoffPlan : Choreography Party Act where
  order := order
  party := Act.party
  needs := Act.needs
  distinct := by decide
  grounded := by decide

def supScript : List Act :=
  [.connect, .hear .incumbent .hello, .say .incumbent .ack, .pair, .spawn,
   .hear .successor .hello, .say .successor .ack, .say .incumbent .prepare,
   .hear .incumbent .drained, .say .incumbent .sealRequest, .hear .incumbent .sealed,
   .say .successor .begin, .hear .successor .ready, .say .incumbent .commit]

def incumbentScript : List Act :=
  [.accept, .say .incumbent .hello, .hear .incumbent .ack, .hear .incumbent .prepare,
   .say .incumbent .drained, .hear .incumbent .sealRequest, .release, .say .incumbent .sealed,
   .hear .incumbent .commit]

def successorScript : List Act :=
  [.say .successor .hello, .hear .successor .ack, .hear .successor .begin, .lock,
   .say .successor .ready, .publish]

theorem script_supervisor : handoffPlan.script .supervisor = supScript := by decide

theorem script_incumbent : handoffPlan.script .incumbent = incumbentScript := by decide

theorem script_successor : handoffPlan.script .successor = successorScript := by decide

/-! ### Messages -/

def topic? : Message → Option Topic
  | .hello .. => some .hello
  | .helloAck .. => some .ack
  | .prepareHandoff .. => some .prepare
  | .drained .. => some .drained
  | .sealRequest _ => some .sealRequest
  | .sealComplete .. => some .sealed
  | .begin _ => some .begin
  | .ready .. => some .ready
  | .commit _ => some .commit
  | _ => none

/-- What the environment settles in advance: the id that is drawn, the pid of the
child, and how many heartbeats the incumbent sends at most. -/
structure Course where
  spec : SpawnSpec
  handoffId : HandoffId
  successor : UInt32
  beats : Nat
  deriving DecidableEq, Repr

def negotiable (theirMin theirMax : ProtoVersion) : Bool :=
  (negotiateVersion protoMin protoMax theirMin theirMax).isOk

def Course.told (course : Course) : Message → Bool
  | .helloAck version handoffId =>
      negotiable version version && handoffId == course.handoffId
  | .prepareHandoff handoffId _ _ _ | .sealRequest handoffId | .begin handoffId
  | .commit handoffId => handoffId == course.handoffId
  | _ => false

/-- The frames that a primitive sends it, with their contents. -/
def Course.replied (course : Course) : Side → Message → Bool
  | .incumbent, .hello role _ _ theirMin theirMax _ =>
      role == .incumbent && negotiable theirMin theirMax
  | .incumbent, .drained .. => true
  | .incumbent, .sealComplete handoffId _ _ => handoffId == course.handoffId
  | .incumbent, .heartbeat _ => true
  | .successor, .hello role pid _ theirMin theirMax _ =>
      role == .successor && pid == course.successor && negotiable theirMin theirMax
  | .successor, .ready handoffId _ _ _ => handoffId == course.handoffId
  | _, _ => false

theorem negotiable_iff {theirMin theirMax : ProtoVersion} :
    negotiable theirMin theirMax = true ↔
      ∃ chosen, negotiateVersion protoMin protoMax theirMin theirMax = .ok chosen := by
  unfold negotiable
  cases negotiateVersion protoMin protoMax theirMin theirMax with
  | ok chosen => simp [Except.isOk, Except.toBool]
  | error cause => simp [Except.isOk, Except.toBool]

theorem negotiable_chosen {theirMin theirMax chosen : ProtoVersion}
    (agreed : negotiateVersion protoMin protoMax theirMin theirMax = .ok chosen) :
    negotiable chosen chosen = true := by
  have picked : Build.current.negotiate ⟨theirMin, theirMax⟩ = .ok chosen := agreed
  have shared := (Build.negotiate_ok picked).1
  rw [negotiable_iff]
  cases again : negotiateVersion protoMin protoMax chosen chosen with
  | ok version => exact ⟨version, rfl⟩
  | error cause =>
      have refused : Build.current.negotiate ⟨chosen, chosen⟩ = .error cause := again
      refine absurd ?_ (Build.negotiate_error refused)
      exact ⟨chosen, shared.1, UInt16.le_rfl, UInt16.le_rfl⟩

end Handoff.Plan
