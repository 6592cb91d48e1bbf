/-
The three parties of a handoff, run together.

A world holds every primitive process, the supervisor with its current call, the
flock, the name of the control socket and the streams.  A step is one operation
of one process, answered as the rest of the world allows; or a heartbeat of an
incumbent; or the death of a process; or the next call of the supervisor.

The world says as little as it can about answers.  Frames arrive in order and
unaltered, a write needs the other end open, the flock excludes, a connection
needs a listener behind the name, and a child is reaped once it is dead.
Everything else, and in particular every failure and every time-out, is left to
the environment.
-/

import Handoff.Effects.System
import Handoff.Primitive.ServeRuns
import Handoff.Primitive.SuccessorDuty
import Handoff.Supervisor.HandoffRuns

namespace Handoff

open Effects

/-! ### Streams -/

/-- A connection between the supervisor and a primitive.  Both directions keep
what was ever written, and how much of it the other side has read. -/
structure Stream where
  sent : List Frame := []
  taken : Nat := 0
  replies : List Frame := []
  heard : Nat := 0
  supOpen : Bool := true
  primOpen : Bool := true
  deriving DecidableEq, Repr

namespace Stream

def toPrim (stream : Stream) : Option Frame := stream.sent[stream.taken]?

def toSup (stream : Stream) : Option Frame := stream.replies[stream.heard]?

def take (stream : Stream) : Stream := { stream with taken := stream.taken + 1 }

def hear (stream : Stream) : Stream := { stream with heard := stream.heard + 1 }

def send (frame : Frame) (stream : Stream) : Stream :=
  { stream with sent := stream.sent ++ [frame] }

def reply (frame : Frame) (stream : Stream) : Stream :=
  { stream with replies := stream.replies ++ [frame] }

def closePrim (stream : Stream) : Stream := { stream with primOpen := false }

def closeSup (stream : Stream) : Stream := { stream with supOpen := false }

end Stream

structure Traffic where
  ids : List Nat
  change : Stream → Stream

def Traffic.none : Traffic := ⟨[], id⟩

def Traffic.apply (traffic : Traffic) (streams : Nat → Stream) : Nat → Stream :=
  fun id => if id ∈ traffic.ids then traffic.change (streams id) else streams id

/-! ### Processes -/

/-- What is fixed: the supervisor, the machine each pid finds itself on, and a
bound on the rounds of every loop. -/
structure System where
  supervisor : Supervisor
  host : UInt32 → Host
  snapshot : ReadinessSnapshot
  fuel : Nat

/-- How a primitive came to be: it was serving from the beginning, or it was
spawned by the supervisor. -/
inductive Kind where
  | incumbent (lock : DataDirLock)
  | successor
  deriving DecidableEq, Repr

def Kind.holding : Kind → Bool
  | .incumbent _ => true
  | .successor => false

def System.program (system : System) (pid : UInt32) : Kind → Process PrimStore PrimAns Error Unit
  | .incumbent lock => serve (system.host pid) system.fuel (.incumbent lock)
  | .successor => runSuccessor (system.host pid) system.snapshot system.fuel {}

/-- The control sockets of a primitive.  `backlog` are the connections that wait
to be accepted. -/
structure Sockets where
  listening : Bool := false
  backlog : List Nat := []
  session : Option Nat := none
  control : Option Nat := none
  deriving DecidableEq, Repr

structure Prim (system : System) (pid : UInt32) where
  kind : Kind
  thread : Thread (system.program pid kind)
  alive : Bool := true
  sockets : Sockets := {}

inductive Task where
  | handoff (spec : SpawnSpec)
  | resume
  deriving DecidableEq, Repr

def System.code (system : System) : Task → Process SupStore SupAns Halt (Option HandoffOutcome)
  | .handoff spec =>
      (do
        let outcome ← performHandoff system.supervisor spec system.fuel
        pure (some outcome) : SupM (Option HandoffOutcome)) {}
  | .resume =>
      (do
        let _ ← resumeFromJournal system.supervisor
        pure none : SupM (Option HandoffOutcome)) {}

structure Ends where
  incumbent : Option Nat := none
  successor : Option Nat := none
  deriving DecidableEq, Repr

structure Sup (system : System) where
  task : Task
  thread : Thread (system.code task)
  alive : Bool := true
  ends : Ends := {}

/-- `path` is the process whose listener the control-socket path names, and
`opened` the number of streams so far. -/
structure World (system : System) where
  prims : (pid : UInt32) → Option (Prim system pid)
  sup : Sup system
  flock : Option UInt32
  path : Option UInt32
  streams : Nat → Stream := fun _ => {}
  opened : Nat := 0

namespace Sockets

def channel (sockets : Sockets) : Channel → Option Nat
  | .session => sockets.session
  | .control => sockets.control

def all (sockets : Sockets) : List Nat :=
  sockets.session.toList ++ sockets.control.toList ++ sockets.backlog

def after (sockets : Sockets) : PrimEvent → Sockets
  | ⟨⟨_, .accept⟩, .ok _⟩ =>
      { sockets with session := sockets.backlog.head?, backlog := sockets.backlog.tail }
  | ⟨⟨_, .close .session⟩, _⟩ => { sockets with session := none }
  | ⟨⟨_, .close .control⟩, _⟩ => { sockets with control := none }
  | ⟨⟨_, .renameStaging⟩, .ok _⟩ => { sockets with listening := true }
  | ⟨⟨_, .closeListener⟩, _⟩ => { sockets with listening := false, backlog := [] }
  | _ => sockets

def traffic (sockets : Sockets) : PrimEvent → Traffic
  | ⟨⟨_, .pollRead _⟩, .frame _ _⟩ => ⟨sockets.session.toList, .take⟩
  | ⟨⟨_, .readMessage⟩, .ok _⟩ => ⟨sockets.control.toList, .take⟩
  | ⟨⟨_, .writeFrame channel version message⟩, .ok _⟩ =>
      ⟨(sockets.channel channel).toList, .reply (version, message)⟩
  | ⟨⟨_, .close channel⟩, _⟩ => ⟨(sockets.channel channel).toList, .closePrim⟩
  | ⟨⟨_, .closeListener⟩, _⟩ => ⟨sockets.backlog, .closePrim⟩
  | _ => .none

end Sockets

def opens : SupEvent → Bool
  | ⟨⟨_, .connect _⟩, .ok _⟩ | ⟨⟨_, .makeSocketpair⟩, .ok _⟩ => true
  | _ => false

namespace Ends

def peer (ends : Ends) : Side → Option Nat
  | .incumbent => ends.incumbent
  | .successor => ends.successor

/-- `opened` is the id of a new stream. -/
def after (ends : Ends) (opened : Nat) : SupEvent → Ends
  | ⟨⟨_, .connect _⟩, .ok _⟩ => { ends with incumbent := some opened }
  | ⟨⟨_, .makeSocketpair⟩, .ok _⟩ => { ends with successor := some opened }
  | ⟨⟨_, .close .incumbent⟩, _⟩ => { ends with incumbent := none }
  | ⟨⟨_, .close .successor⟩, _⟩ => { ends with successor := none }
  | _ => ends

def all (ends : Ends) : List Nat := ends.incumbent.toList ++ ends.successor.toList

def traffic (ends : Ends) : SupEvent → Traffic
  | ⟨⟨_, .pollRead peer⟩, .frame _ _⟩ => ⟨(ends.peer peer).toList, .hear⟩
  | ⟨⟨_, .readMessage peer⟩, .ok _⟩ => ⟨(ends.peer peer).toList, .hear⟩
  | ⟨⟨_, .writeFrame peer version message⟩, .ok _⟩ =>
      ⟨(ends.peer peer).toList, .send (version, message)⟩
  | ⟨⟨_, .close peer⟩, _⟩ => ⟨(ends.peer peer).toList, .closeSup⟩
  | _ => .none

end Ends

/-- Whether the process holds the flock, by its own account. -/
def Prim.holds {system : System} {pid : UInt32} (prim : Prim system pid) : Bool :=
  flockHeld prim.kind.holding prim.thread.past

/-! ### What the world answers -/

namespace World

variable {system : System}

/-- The live process that a connection to the control socket would reach. -/
def listener (world : World system) : Option UInt32 :=
  world.path.filter fun pid =>
    (world.prims pid).any fun prim => prim.alive && prim.sockets.listening

def admitsPrim (world : World system) (sockets : Sockets) : (op : PrimOp) → PrimAns op → Bool
  | .accept, .ok _ => !sockets.backlog.isEmpty
  | .pollRead _, .frame version message =>
      sockets.session.any fun id => (world.streams id).toPrim == some (version, message)
  | .readMessage, .ok frame =>
      sockets.control.any fun id => (world.streams id).toPrim == some frame
  | .writeFrame channel _ _, .ok _ =>
      (sockets.channel channel).any fun id => (world.streams id).supOpen
  | .flock, .locked => world.flock.isNone
  | .flock, .wouldBlock => world.flock.isSome
  | _, _ => true

def admitsSup (world : World system) : (op : SupOp) → SupAns op → Bool
  | .connect _, .ok _ => world.listener.isSome
  | .pollRead peer, .frame version message =>
      (world.sup.ends.peer peer).any fun id => (world.streams id).toSup == some (version, message)
  | .readMessage peer, .ok frame =>
      (world.sup.ends.peer peer).any fun id => (world.streams id).toSup == some frame
  | .writeFrame peer _ _, .ok _ =>
      (world.sup.ends.peer peer).any fun id => (world.streams id).primOpen
  | .spawn _, .ok pid => (world.prims pid).isNone
  | .wait pid, _ => (world.prims pid).all fun prim => !prim.alive
  | _, _ => true

/-! ### What an answered operation changes -/

def flockAfter (world : World system) (pid : UInt32) (event : PrimEvent) : Option UInt32 :=
  match flockChange? event with
  | some true => some pid
  | some false => if world.flock = some pid then none else world.flock
  | none => world.flock

def pathAfter (world : World system) (pid : UInt32) : PrimEvent → Option UInt32
  | ⟨⟨_, .renameStaging⟩, .ok _⟩ => some pid
  | _ => world.path

def afterPrim (world : World system) {pid : UInt32} (prim : Prim system pid) (event : PrimEvent)
    (thread : Thread (system.program pid prim.kind)) : World system :=
  { world with
    prims := Function.update world.prims pid
      (some { prim with thread := thread, sockets := prim.sockets.after event })
    flock := world.flockAfter pid event
    path := world.pathAfter pid event
    streams := (prim.sockets.traffic event).apply world.streams }

def enqueue (world : World system) (pid : UInt32) : (other : UInt32) → Option (Prim system other) :=
  Function.update world.prims pid ((world.prims pid).map fun prim =>
    { prim with sockets := { prim.sockets with backlog := prim.sockets.backlog ++ [world.opened] } })

def child (system : System) (pid : UInt32) (control : Option Nat) : Prim system pid :=
  { kind := .successor, thread := .start _, sockets := { control := control } }

def primsAfterSup (world : World system) : SupEvent → (pid : UInt32) → Option (Prim system pid)
  | ⟨⟨_, .connect _⟩, .ok _⟩ =>
      match world.listener with
      | some pid => world.enqueue pid
      | none => world.prims
  | ⟨⟨_, .spawn _⟩, .ok pid⟩ =>
      Function.update world.prims pid (some (child system pid world.sup.ends.successor))
  | _ => world.prims

def afterSup (world : World system) (event : SupEvent)
    (thread : Thread (system.code world.sup.task)) : World system :=
  { world with
    prims := world.primsAfterSup event
    sup := { world.sup with thread := thread, ends := world.sup.ends.after world.opened event }
    streams := (world.sup.ends.traffic event).apply world.streams
    opened := if opens event then world.opened + 1 else world.opened }

/-- The kernel closes what a dead process had open. -/
def afterDeath (world : World system) {pid : UInt32} (prim : Prim system pid) : World system :=
  { world with
    prims := Function.update world.prims pid (some { prim with alive := false })
    flock := if world.flock = some pid then none else world.flock
    streams := Traffic.apply ⟨prim.sockets.all, .closePrim⟩ world.streams }

def afterCrash (world : World system) : World system :=
  { world with
    sup := { world.sup with alive := false }
    streams := Traffic.apply ⟨world.sup.ends.all, .closeSup⟩ world.streams }

def afterHeartbeat (world : World system) (session : Nat) (frame : Frame) : World system :=
  { world with streams := Traffic.apply ⟨[session], .reply frame⟩ world.streams }

def called (world : World system) (task : Task) : World system :=
  { world with sup := { task := task, thread := .start _ } }

end World

/-! ### Steps -/

inductive Label where
  | prim (pid : UInt32) (event : PrimEvent)
  | sup (event : SupEvent)
  | heartbeat (pid : UInt32) (version : ProtoVersion) (tsMs : UInt64)
  | die (pid : UInt32)
  | crash
  | call (task : Task)

/-- A supervisor takes a new task when it has finished the last one, or when it
is started again after a crash. -/
def Sup.idle {system : System} (sup : Sup system) : Bool :=
  !sup.alive || sup.thread.rest.result?.isSome

inductive Step {system : System} : World system → Label → World system → Prop where
  | prim {world : World system} {pid : UInt32} {prim : Prim system pid}
      {call : Call PrimStore PrimOp}
      {resume : PrimAns call.op → Process PrimStore PrimAns Error Unit}
      (there : world.prims pid = some prim) (alive : prim.alive = true)
      (next : prim.thread.rest = .call call resume) (answer : PrimAns call.op)
      (admitted : world.admitsPrim prim.sockets call.op answer = true) :
      Step world (.prim pid ⟨call, answer⟩)
        (world.afterPrim prim ⟨call, answer⟩ (prim.thread.answered next answer))
  | sup {world : World system} {call : Call SupStore SupOp}
      {resume : SupAns call.op → Process SupStore SupAns Halt (Option HandoffOutcome)}
      (alive : world.sup.alive = true) (next : world.sup.thread.rest = .call call resume)
      (answer : SupAns call.op) (admitted : world.admitsSup call.op answer = true) :
      Step world (.sup ⟨call, answer⟩)
        (world.afterSup ⟨call, answer⟩ (world.sup.thread.answered next answer))
  | heartbeat {world : World system} {pid : UInt32} {prim : Prim system pid}
      {call : Call PrimStore PrimOp}
      {resume : PrimAns call.op → Process PrimStore PrimAns Error Unit} {session : Nat}
      (there : world.prims pid = some prim) (alive : prim.alive = true)
      (next : prim.thread.rest = .call call resume) (beating : call.store.heartbeats = true)
      (connected : prim.sockets.session = some session)
      (supOpen : (world.streams session).supOpen = true) (version : ProtoVersion)
      (tsMs : UInt64) :
      Step world (.heartbeat pid version tsMs)
        (world.afterHeartbeat session (version, .heartbeat tsMs))
  | die {world : World system} {pid : UInt32} {prim : Prim system pid}
      (there : world.prims pid = some prim) (alive : prim.alive = true) :
      Step world (.die pid) (world.afterDeath prim)
  | crash {world : World system} (alive : world.sup.alive = true) :
      Step world .crash world.afterCrash
  | call {world : World system} (idle : world.sup.idle = true) (task : Task) :
      Step world (.call task) (world.called task)

/-- One incumbent is serving and the supervisor is about to do its first task. -/
def World.opening (system : System) (pid : UInt32) (lock : DataDirLock) (task : Task) :
    World system :=
  { prims := Function.update (fun _ => none) pid
      (some { kind := .incumbent lock, thread := .start _, sockets := { listening := true } })
    sup := { task := task, thread := .start _ }
    flock := some pid
    path := some pid }

end Handoff
