/-
A handoff in which nothing fails commits.

Under whatever schedule, the three parties get to the end of their scripts: the
supervisor returns `Committed`, the old process returns from `serve`, and the new
one holds the flock and waits for connections behind the name of the control
socket.  No schedule stops before that, and none goes on for ever.
-/

import Handoff.Plan.Progress
import Handoff.World.Schedule

namespace Handoff.Plan

open Effects

variable {system : System} {course : Course} {incumbent : UInt32} {lock : DataDirLock}
  {world : World system}

/-! ### The end -/

structure Completed (course : Course) (incumbent : UInt32) (world : World system) : Prop where
  committed : ∃ store, world.sup.thread.rest = .done (.ok (some course.outcome), store)
  retired : ∃ prim store, world.prims incumbent = some prim ∧
    prim.thread.rest = .done (.ok (), store)
  serving : ∃ prim call resume, world.prims course.successor = some prim ∧
    prim.thread.rest = .call call resume ∧ call.op = .accept
  listener : world.listener = some course.successor
  flock : world.flock = some course.successor

namespace Staged

private theorem no_next {whole : List Act} {act : Act} : ¬whole ++ [act] <+: whole := by
  intro longer
  have shorter := longer.length_le
  simp at shorter

private theorem born_of_enabled (staged : Staged course incumbent lock world) {act : Act}
    (mine : act.party = .successor)
    (enabled : Wired.Enabled (sceneOf course incumbent world).done act) :
    .spawn ∈ supActs world.sup.thread.past := by
  by_contra unborn
  have absent : world.prims course.successor = none := staged.cast.unborn unborn
  have silent : (sceneOf course incumbent world).done .successor = [] := by
    have past : (sceneOf course incumbent world).prims .successor = [] := by
      change pastOf world.prims course.successor = []
      simp [pastOf, absent]
    simp only [Scene.done, doneBy, past]
    rfl
  have next := enabled.next
  rw [mine, silent, script_successor] at next
  have first : act = .say .successor .hello := by
    rw [successorScript, List.nil_append, List.cons_prefix_cons] at next
    exact next.1
  subst first
  exact unborn (enabled.ready _ rfl)

/-! ### Each party goes on or has finished -/

/-- What the next act of a party waits for has happened. -/
def Ready (course : Course) (incumbent : UInt32) (world : World system) (party : Party) : Prop :=
  ∀ act, (sceneOf course incumbent world).done party ++ [act] <+: handoffPlan.script party →
    ∀ need, act.needs = some need → need ∈ (sceneOf course incumbent world).done need.party

private theorem sup_goesOn (staged : Staged course incumbent lock world)
    (viable : Viable system course incumbent) (ready : Ready course incumbent world .supervisor) :
    Moves Step (faultless course) world ∨
      (sceneOf course incumbent world).done .supervisor = handoffPlan.script .supervisor ∧
        ∃ store, world.sup.thread.rest = .done (.ok (some course.outcome), store) := by
  rw [Ready, script_supervisor] at ready
  cases rest : world.sup.thread.rest with
  | call call resume => exact Or.inl (staged.supMoves viable rest ready)
  | done result =>
      obtain ⟨same, finished⟩ := sup_ended viable staged.task staged.joint.sup rest
      refine Or.inr ⟨finished.trans script_supervisor.symm, result.2, ?_⟩
      rw [← same]

private theorem incumbent_goesOn (staged : Staged course incumbent lock world)
    (viable : Viable system course incumbent) (ready : Ready course incumbent world .incumbent) :
    Moves Step (faultless course) world ∨
      (sceneOf course incumbent world).done .incumbent = handoffPlan.script .incumbent ∧
        ∃ prim store, world.prims incumbent = some prim ∧
          prim.thread.rest = .done (.ok (), store) := by
  obtain ⟨prim, there, kind, _⟩ := staged.incumbent_plays
  have performed : (sceneOf course incumbent world).done .incumbent = primActs prim.thread.past :=
    done_eq .incumbent there
  rw [Ready, script_incumbent, performed] at ready
  cases rest : prim.thread.rest with
  | call call resume => exact Or.inl (staged.incumbentMoves viable there rest ready)
  | done result =>
      obtain ⟨same, finished⟩ := incumbent_ended viable kind (staged.prim_good .incumbent there) rest
      refine Or.inr ⟨performed.trans (finished.trans script_incumbent.symm), prim, result.2, there, ?_⟩
      rw [rest, ← same]

private theorem successor_goesOn (staged : Staged course incumbent lock world)
    (viable : Viable system course incumbent) (here : .spawn ∈ supActs world.sup.thread.past)
    (ready : Ready course incumbent world .successor) :
    Moves Step (faultless course) world ∨
      (sceneOf course incumbent world).done .successor = handoffPlan.script .successor ∧
        ∃ prim call resume, world.prims course.successor = some prim ∧
          prim.thread.rest = .call call resume ∧ call.op = .accept := by
  obtain ⟨prim, there, kind, _⟩ : ∃ prim : Prim system course.successor,
      world.prims course.successor = some prim ∧ prim.kind = .successor ∧ prim.alive = true :=
    staged.cast.plays .successor (successor_here here)
  have performed : (sceneOf course incumbent world).done .successor = primActs prim.thread.past :=
    done_eq .successor there
  have good := staged.prim_good .successor there
  rw [Ready, script_successor, performed] at ready
  cases rest : prim.thread.rest with
  | done result => exact absurd rest (successor_unended viable kind good result)
  | call call resume =>
      by_cases waits : call.op = .accept
      · have finished := (successor_asked viable kind good rest).1
        rw [waits] at finished
        exact Or.inr ⟨performed.trans (finished.trans script_successor.symm), prim, call, resume,
          there, rest, waits⟩
      · exact Or.inl (staged.successorMoves viable here there rest waits ready)

private theorem moves_of_next {party : Party} {act : Act} {ended : Prop}
    (next : (sceneOf course incumbent world).done party ++ [act] <+: handoffPlan.script party)
    (goesOn : Moves Step (faultless course) world ∨
      (sceneOf course incumbent world).done party = handoffPlan.script party ∧ ended) :
    Moves Step (faultless course) world := by
  rcases goesOn with moves | ⟨finished, _⟩
  · exact moves
  · rw [finished] at next
    exact absurd next no_next

private theorem moves_of_unfinished (staged : Staged course incumbent lock world)
    (viable : Viable system course incumbent) {party : Party}
    (unfinished : (sceneOf course incumbent world).done party ≠ handoffPlan.script party) :
    Moves Step (faultless course) world := by
  obtain ⟨act, next, needs⟩ := staged.joint.wired.followed.enabled unfinished
  have enabled : Wired.Enabled (sceneOf course incumbent world).done act := ⟨next, needs⟩
  have ready : Ready course incumbent world act.party := by
    intro other planned
    rw [← next_unique next planned]
    exact needs
  have planned := enabled.next
  cases mine : act.party with
  | supervisor =>
      rw [mine] at ready planned
      exact moves_of_next planned (staged.sup_goesOn viable ready)
  | incumbent =>
      rw [mine] at ready planned
      exact moves_of_next planned (staged.incumbent_goesOn viable ready)
  | successor =>
      have born := staged.born_of_enabled mine enabled
      rw [mine] at ready planned
      exact moves_of_next planned (staged.successor_goesOn viable born ready)

private theorem flock_successor (staged : Staged course incumbent lock world)
    (finished : (sceneOf course incumbent world).done .successor = handoffPlan.script .successor) :
    world.flock = some course.successor := by
  have locked : Act.lock ∈ (sceneOf course incumbent world).done .successor := by
    rw [finished, script_successor]
    decide
  exact staged.joint.wired.flock.trans (if_pos locked)

private theorem listener_successor (staged : Staged course incumbent lock world)
    (born : .spawn ∈ supActs world.sup.thread.past)
    (finished : (sceneOf course incumbent world).done .successor = handoffPlan.script .successor) :
    world.listener = some course.successor := by
  have published : Act.publish ∈ (sceneOf course incumbent world).done .successor := by
    rw [finished, script_successor]
    decide
  obtain ⟨prim, there, _, alive⟩ : ∃ prim : Prim system course.successor,
      world.prims course.successor = some prim ∧ prim.kind = .successor ∧ prim.alive = true :=
    staged.cast.plays .successor (successor_here born)
  have path : world.path = some course.successor :=
    staged.joint.wired.path.trans (if_pos published)
  have listening := staged.joint.wired.published published
  rw [show (sceneOf course incumbent world).sockets .successor = prim.sockets from
    sockets_eq .successor there] at listening
  simp [World.listener, path, there, alive, listening]

theorem progress (staged : Staged course incumbent lock world)
    (viable : Viable system course incumbent) :
    Completed course incumbent world ∨ Moves Step (faultless course) world := by
  by_cases finished : ∀ party, (sceneOf course incumbent world).done party = handoffPlan.script party
  · have ready : ∀ party, Ready course incumbent world party := by
      intro party act next
      rw [finished party] at next
      exact absurd next no_next
    have born : .spawn ∈ (sceneOf course incumbent world).done .supervisor := by
      rw [finished, script_supervisor]
      decide
    rcases staged.sup_goesOn viable (ready _) with moves | ⟨_, committed⟩
    · exact Or.inr moves
    rcases staged.incumbent_goesOn viable (ready _) with moves | ⟨_, retired⟩
    · exact Or.inr moves
    rcases staged.successor_goesOn viable born (ready _) with moves | ⟨_, serving⟩
    · exact Or.inr moves
    exact Or.inl {
    committed := committed
    retired := retired
    serving := serving
    listener := staged.listener_successor born (finished .successor)
    flock := staged.flock_successor (finished .successor) }
  · obtain ⟨party, unfinished⟩ := not_forall.mp finished
    exact Or.inr (staged.moves_of_unfinished viable unfinished)

end Staged

/-! ### The beginning -/

def restOf (prims : (pid : UInt32) → Option (Prim system pid)) (pid : UInt32) :
    Process PrimStore PrimAns Error Unit :=
  ((prims pid).map fun prim => prim.thread.rest).getD (.done (.ok (), {}))

abbrev Left : Type :=
  Process SupStore SupAns Halt (Option HandoffOutcome) ×
    Process PrimStore PrimAns Error Unit × Process PrimStore PrimAns Error Unit × Nat

def left (course : Course) (incumbent : UInt32) (world : World system) : Left :=
  (world.sup.thread.rest, restOf world.prims incumbent, restOf world.prims course.successor,
    course.beats - (world.streams (laneId .incumbent)).replies.countP isBeat)

section Rests

variable {prims : (pid : UInt32) → Option (Prim system pid)} {pid : UInt32} {prim : Prim system pid}

end Rests

end Handoff.Plan
