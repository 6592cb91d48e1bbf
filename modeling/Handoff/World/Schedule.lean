/-
Schedules: worlds that can be computed.

A move says who goes next.  The process gets the answer that the world suggests,
or the one that the move insists on; a move that the world does not admit fails.
Since every move is a step, a schedule that goes through is a path, and a fact
about the world at its end is a fact about a reachable world.
-/

import Handoff.World.State

namespace Handoff

open Effects

variable {system : System}

/-! ### The answers that the world suggests -/

def hangUp : Error := .io (.ofKind .unexpectedEof "")

def brokenPipe : Error := .io (.ofKind .brokenPipe "")

namespace World

/-- Frames that have arrived, the end of a stream whose other side is gone, the
flock as it is.  A read of an open and empty stream has no answer yet. -/
def replyPrim (world : World system) (euid : UInt32) (sockets : Sockets) :
    (op : PrimOp) → Option (PrimAns op)
  | .accept => if sockets.backlog.isEmpty then none else some (.ok ())
  | .pollRead _ =>
      sockets.session.bind fun id =>
        match (world.streams id).toPrim with
        | some (version, message) => some (.frame version message)
        | none => if (world.streams id).supOpen then none else some (.failed hangUp)
  | .readMessage =>
      sockets.control.bind fun id =>
        match (world.streams id).toPrim with
        | some frame => some (.ok frame)
        | none => if (world.streams id).supOpen then none else some (.error hangUp)
  | .writeFrame channel _ _ =>
      (sockets.channel channel).map fun id =>
        if (world.streams id).supOpen then .ok () else .error brokenPipe
  | .flock => some (if world.flock.isNone then .locked else .wouldBlock)
  | op => PrimOp.succeeds euid op

def replySup (world : World system) : (op : SupOp) → Option (SupAns op)
  | .connect _ =>
      some (if world.listener.isSome then .ok () else .error (.ofKind .other "connection refused"))
  | .pollRead peer =>
      (world.sup.ends.peer peer).bind fun id =>
        match (world.streams id).toSup with
        | some (version, message) => some (.frame version message)
        | none => if (world.streams id).primOpen then none else some (.failed hangUp)
  | .readMessage peer =>
      (world.sup.ends.peer peer).bind fun id =>
        match (world.streams id).toSup with
        | some frame => some (.ok frame)
        | none => if (world.streams id).primOpen then none else some (.error hangUp)
  | .writeFrame peer _ _ =>
      (world.sup.ends.peer peer).map fun id =>
        if (world.streams id).primOpen then .ok () else .error brokenPipe
  | op => SupOp.succeeds op

end World

/-! ### Moves -/

/-- `given` is the answer that a move insists on, if any. -/
inductive Move where
  | prim (pid : UInt32) (given : (op : PrimOp) → Option (PrimAns op) := fun _ => none)
  | sup (given : (op : SupOp) → Option (SupAns op) := fun _ => none)
  | die (pid : UInt32)
  | crash
  | call (task : Task)

namespace World

def answerPrim (world : World system) {pid : UInt32} (prim : Prim system pid)
    (given : (op : PrimOp) → Option (PrimAns op)) : Option (Label × World system) :=
  match next : prim.thread.rest with
  | .done _ => none
  | .call call _ =>
      match (given call.op).or (world.replyPrim (system.host pid).euid prim.sockets call.op) with
      | none => none
      | some answer =>
          if world.admitsPrim prim.sockets call.op answer then
            some (.prim pid ⟨call, answer⟩,
              world.afterPrim prim ⟨call, answer⟩ (prim.thread.answered next answer))
          else none

def answerSup (world : World system) (given : (op : SupOp) → Option (SupAns op)) :
    Option (Label × World system) :=
  match next : world.sup.thread.rest with
  | .done _ => none
  | .call call _ =>
      match (given call.op).or (world.replySup call.op) with
      | none => none
      | some answer =>
          if world.admitsSup call.op answer then
            some (.sup ⟨call, answer⟩,
              world.afterSup ⟨call, answer⟩ (world.sup.thread.answered next answer))
          else none

def turn (world : World system) : Move → Option (Label × World system)
  | .prim pid given =>
      match world.prims pid with
      | none => none
      | some prim => if prim.alive then world.answerPrim prim given else none
  | .sup given => if world.sup.alive then world.answerSup given else none
  | .die pid =>
      match world.prims pid with
      | none => none
      | some prim => if prim.alive then some (.die pid, world.afterDeath prim) else none
  | .crash => if world.sup.alive then some (.crash, world.afterCrash) else none
  | .call task => if world.sup.idle then some (.call task, world.called task) else none

/-! ### Every move is a step -/

private theorem answerPrim_step {world next : World system} {label : Label} {pid : UInt32}
    {prim : Prim system pid} {given : (op : PrimOp) → Option (PrimAns op)}
    (there : world.prims pid = some prim) (alive : prim.alive = true)
    (answered : world.answerPrim prim given = some (label, next)) : Step world label next := by
  unfold answerPrim at answered
  split at answered
  · contradiction
  · next call resume pending =>
      split at answered
      · contradiction
      · next answer _ =>
          split at answered
          · next admitted =>
              cases answered
              exact .prim there alive pending answer admitted
          · contradiction

private theorem answerSup_step {world next : World system} {label : Label}
    {given : (op : SupOp) → Option (SupAns op)} (alive : world.sup.alive = true)
    (answered : world.answerSup given = some (label, next)) : Step world label next := by
  unfold answerSup at answered
  split at answered
  · contradiction
  · next call resume pending =>
      split at answered
      · contradiction
      · next answer _ =>
          split at answered
          · next admitted =>
              cases answered
              exact .sup alive pending answer admitted
          · contradiction

theorem turn_step (world : World system) (move : Move) (label : Label) (next : World system)
    (turned : world.turn move = some (label, next)) : Step world label next := by
  cases move with
  | prim pid given =>
      cases there : world.prims pid with
      | none => simp [turn, there] at turned
      | some prim =>
          simp only [turn, there] at turned
          split at turned
          · next alive => exact answerPrim_step there alive turned
          · contradiction
  | sup given =>
      simp only [turn] at turned
      split at turned
      · next alive => exact answerSup_step alive turned
      · contradiction
  | die pid =>
      cases there : world.prims pid with
      | none => simp [turn, there] at turned
      | some prim =>
          simp only [turn, there] at turned
          split at turned
          · next alive =>
              cases turned
              exact .die there alive
          · contradiction
  | crash =>
      simp only [turn] at turned
      split at turned
      · next alive =>
          cases turned
          exact .crash alive
      · contradiction
  | call task =>
      simp only [turn] at turned
      split at turned
      · next idle =>
          cases turned
          exact .call idle task
      · contradiction

end World

/-! ### A rehearsed system -/

def times (count : Nat) (move : Move) : List Move := List.replicate count move

def rehearsalSystem : System :=
  { supervisor := rehearsalSupervisor
    host := fun pid => { rehearsalHost with pid := pid }
    snapshot := ⟨[], true, []⟩
    fuel := 40 }

/-- Process 1 is the incumbent, and the supervisor will spawn process 7. -/
def rehearsalOpening : World rehearsalSystem :=
  .opening rehearsalSystem 1 ⟨"/data"⟩ (.handoff rehearsalSpec)

/-- A handoff in which nothing fails, up to the wait for `Ready`.  The successor
has not read `Begin` yet. -/
def untilBegin : List Move :=
  times 7 .sup ++ times 5 (.prim 1) ++ times 8 .sup ++ times 1 (.prim 1) ++ times 1 (.prim 7) ++
    times 9 .sup ++ times 5 (.prim 1) ++ times 1 (.prim 7) ++ times 6 .sup ++ times 6 (.prim 1) ++
    times 9 .sup

/-- A schedule that goes through reaches a world with the facts that hold at its end. -/
theorem rehearsal_reaches (moves : List Move)
    (guard : World rehearsalSystem → Label → World rehearsalSystem → Bool)
    (facts : World rehearsalSystem → Bool)
    (goes : (perform World.turn guard moves rehearsalOpening).any facts = true) :
    ∃ world, Reaches Step guard rehearsalOpening world ∧ facts world = true := by
  obtain ⟨world, performed, holds⟩ := (Option.any_eq_true ..).mp goes
  exact ⟨world, perform_reaches World.turn_step moves rehearsalOpening performed, holds⟩

end Handoff
