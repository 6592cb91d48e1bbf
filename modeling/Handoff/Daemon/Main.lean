/-
The reference supervisor, `main` of `handoff-supervisor`.

One thread starts the first primitive and then serves one trigger client after
another.  A trigger runs `handle_trigger`, and there the call to the library is
not an operation any more: the events of `perform_handoff` stand in the history
of the daemon where the call is.
-/

import Handoff.Effects.Inline
import Handoff.Spawn.Activation
import Handoff.Trigger.Turn

namespace Handoff.Daemon

open Effects
open Effects.Code (fail)
open Trigger (Client TriggerOp TriggerAns TriggerFailure TriggerM serveClient)

structure ListenerConfig where
  name : String
  addr : String
  deriving DecidableEq, Repr

/-- The whole of `Config`. -/
structure Settings extends Trigger.Config where
  controlSocket : String
  listeners : List ListenerConfig := []
  triggerSocket : String
  journal : Option String := none
  deriving DecidableEq, Repr

structure Machine where
  euid : UInt32
  pid : UInt32
  maxSocketPathLen : Nat
  deriving DecidableEq, Repr

inductive DaemonOp where
  | bindListener (addr : String)
  | setBlocking (fd : Int)
  | coldStart (command : SpawnCommand)
  | supervise (call : Call SupStore SupOp)
  | bindTrigger (path : String)
  | accept
  | trigger (op : TriggerOp)
  | outOfFuel
  deriving DecidableEq

@[reducible]
def DaemonAns : DaemonOp → Type
  | .bindListener _ => Except IoError Int
  | .setBlocking _ => Except IoError Unit
  | .coldStart _ => Except IoError UInt32
  | .supervise call => SupAns call.op
  | .bindTrigger _ => Except Error Unit
  | .accept => Except IoError Client
  | .trigger op => TriggerAns op
  | .outOfFuel => Empty

abbrev DaemonM (Value : Type) : Type := Code Unit DaemonAns TriggerFailure Value

abbrev DaemonPast : Type := Past Unit DaemonAns

abbrev DaemonEvent : Type := Event (Call Unit DaemonOp) (CallAns Unit DaemonAns)

abbrev DaemonProgram (Result : Type) : Type :=
  Program (Call Unit DaemonOp) (CallAns Unit DaemonAns) Result

abbrev ask (op : DaemonOp) : DaemonM (DaemonAns op) := Code.call op

/-! ### The library, called in place -/

/-- A method of `Supervisor` on the thread of the daemon. -/
def supervised {Value : Type} (code : SupM Value) : DaemonProgram (Except Halt Value) :=
  ((code {}).inline (Program.rename (fun call => ⟨(), .supervise call⟩)
    fun _ answer => answer)).bind fun result => .done result.1

/-- The operations of a trigger.  A handoff is many.  The mutex `current_child` is
locked on this thread only, and a panic that would poison it unwinds `main`: no
turn finds it poisoned. -/
def performing (supervisor : Supervisor) (fuel : Nat) :
    (call : Call Unit TriggerOp) → DaemonProgram (TriggerAns call.op)
  | ⟨_, .performHandoff spec⟩ => supervised (performHandoff supervisor spec fuel)
  | ⟨_, .lockChild⟩ => .done true
  | ⟨_, op⟩ => .call ⟨(), .trigger op⟩ fun answer => .done answer

def serve (machine : Machine) (settings : Settings) (supervisor : Supervisor) (client : Client)
    (fuel : Nat) : DaemonM Unit :=
  fun _ => (serveClient machine.euid settings.toConfig client fuel ()).inline
    (performing supervisor fuel)

/-! ### `main` -/

def bindListeners : List ListenerConfig → DaemonM (List (String × Int))
  | [] => pure []
  | config :: configs => do
      match ← ask (.bindListener config.addr) with
      | Except.error _ => fail (.error ("bind " ++ config.name ++ " -> " ++ config.addr))
      | Except.ok fd =>
          match ← ask (.setBlocking fd) with
          | Except.error cause => fail (.error cause.text)
          | Except.ok () =>
              let listeners ← bindListeners configs
              pure ((config.name, fd) :: listeners)

def coldStartCommand (settings : Settings) (listenerFds : List (String × Int)) : SpawnCommand :=
  (Handoff.spawnPrimitiveColdStart settings.binary settings.args settings.env listenerFds).command

def spawnPrimitiveColdStart (settings : Settings) (listenerFds : List (String × Int)) :
    DaemonM UInt32 := do
  match ← ask (.coldStart (coldStartCommand settings listenerFds)) with
  | Except.error _ => fail (.error "cold-start primitive spawn")
  | Except.ok pid => pure pid

def newSupervisor (machine : Machine) (settings : Settings) (listenerFds : List (String × Int)) :
    DaemonM Supervisor :=
  let path := settings.controlSocket
  if machine.maxSocketPathLen < path.utf8ByteSize then
    fail (.error (Error.socketPathTooLong path path.utf8ByteSize machine.maxSocketPathLen).display)
  else
    pure { socketPath := path, listenerFds := listenerFds, journalPath := settings.journal
           pid := machine.pid }

/-- A failure to resume is only logged. -/
def resume (supervisor : Supervisor) : DaemonM Unit :=
  fun _ => (supervised (resumeFromJournal supervisor)).bind fun
    | .error .panic => .done (.error .panic, ())
    | _ => .done (.ok (), ())

def triggerLoop (machine : Machine) (settings : Settings) (supervisor : Supervisor) (fuel : Nat) :
    Nat → DaemonM Unit
  | 0 => fun store => .call ⟨store, .outOfFuel⟩ fun answer => answer.elim
  | rounds + 1 => do
      match ← ask .accept with
      | Except.error _ => triggerLoop machine settings supervisor fuel rounds
      | Except.ok client =>
          serve machine settings supervisor client fuel
          triggerLoop machine settings supervisor fuel rounds

/-- `rounds` bounds the clients that are looked at, `fuel` every loop of a turn. -/
def main (machine : Machine) (settings : Settings) (fuel rounds : Nat) : DaemonM Unit := do
  let listenerFds ← bindListeners settings.listeners
  let _ ← spawnPrimitiveColdStart settings listenerFds
  let supervisor ← newSupervisor machine settings listenerFds
  resume supervisor
  match ← ask (.bindTrigger settings.triggerSocket) with
  | Except.error _ => fail (.error ("bind trigger socket " ++ settings.triggerSocket))
  | Except.ok () => triggerLoop machine settings supervisor fuel rounds

end Handoff.Daemon
