/-
Handoffs that are not committed.

Nothing but a rename moves the control-socket path, and a call that has read
`Ready` commits.  So a call that ends without commit leaves the path alone if
every rename waits until the supervisor has read `Ready`.  A successor that
announces itself and then binds does not wait for that.
-/

import Handoff.World.SingleWriter

namespace Handoff

open Effects

variable {system : System} {world next : World system} {label : Label} {sup : Sup system}
  {past : SupPast} {store : SupStore} {result : HandoffOutcome} {spec : SpawnSpec} {pid : UInt32}

/-! ### One call -/

theorem readyHeard_append {event : SupEvent} (duty : SupOpDuty past event.op.store event.op.op)
    (heard : readyHeard past = true) : readyHeard (past ++ [event]) = true := by
  obtain ⟨handoffId, identity, ready⟩ := readyHeard_iff.mp heard
  refine readyHeard_iff.mpr ⟨handoffId, ?_, readyRead_append.mpr (Or.inl ready)⟩
  rw [handoffIdOf_append]
  cases fresh : handoffIdOf? event with
  | none => exact identity
  | some other =>
      obtain ⟨⟨store, op⟩, answer⟩ := event
      cases op with
      | newHandoffId =>
          rw [show handoffIdOf past = none from duty.1] at identity
          contradiction
      | _ => contradiction

theorem Step.keeps (step : Step world label next) (same : ∀ task, label ≠ .call task)
    (claim : SupPast → Prop) (grows : ∀ {past : SupPast} {event : SupEvent}, claim past →
      SupOpDuty past event.op.store event.op.op → claim (past ++ [event]))
    (holds : claim world.sup.thread.past) : claim next.sup.thread.past := by
  cases step with
  | sup alive pending answer admitted => exact grows holds (Sup.duty pending)
  | call idle task => exact absurd rfl (same task)
  | _ => exact holds

theorem Step.heard (step : Step world label next) (same : ∀ task, label ≠ .call task)
    (heard : readyHeard world.sup.thread.past = true) : readyHeard next.sup.thread.past = true :=
  step.keeps same (fun past => readyHeard past = true)
    (fun before duty => readyHeard_append duty before) heard

def Sup.aborted (sup : Sup system) : Prop :=
  ∃ outcome store, sup.thread.rest = .done (outcome, store) ∧
    ∀ result, outcome = .ok (some result) → result.committed = false

theorem Sup.ended {outcome : Except Halt (Option HandoffOutcome)}
    (done : sup.thread.rest = .done (outcome, store)) :
    TaskEnd sup.task outcome store sup.thread.past :=
  sup.thread.ended (code_keeps system sup.task) done

def Sup.returned? (sup : Sup system) : Option HandoffOutcome :=
  sup.thread.rest.result?.bind fun result =>
    match result.1 with
    | .ok outcome => outcome
    | .error _ => none

theorem Sup.returned_done (returned : sup.returned? = some result) :
    ∃ store, sup.thread.rest = .done (.ok (some result), store) := by
  obtain ⟨⟨outcome, store⟩, ended, same⟩ := Option.bind_eq_some_iff.mp returned
  refine ⟨store, Program.eq_done_of_result? ?_⟩
  cases outcome with
  | error halt => contradiction
  | ok outcome =>
      rw [ended]
      cases same
      rfl

private theorem Sup.returned_aborted (returned : sup.returned? = some result)
    (uncommitted : result.committed = false) : sup.aborted := by
  obtain ⟨store, done⟩ := Sup.returned_done returned
  refine ⟨_, store, done, ?_⟩
  intro other same
  cases same
  exact uncommitted

theorem TaskEnd.gone {task : Task} {outcome : Except Halt (Option HandoffOutcome)}
    (ended : TaskEnd task outcome store past) (handoff : task = .handoff spec)
    (uncommitted : ∀ result, outcome = .ok (some result) → result.committed = false) :
    Gone past store := by
  subst handoff
  match outcome with
  | .error halt => exact ended
  | .ok none => exact ended.elim
  | .ok (some result) =>
      change Finished (.ok result) store past at ended
      unfold Finished at ended
      dsimp only at ended
      rw [uncommitted result rfl] at ended
      exact ended

theorem TaskEnd.installed {task : Task} (ended : TaskEnd task (.ok (some result)) store past)
    (handoff : task = .handoff spec) (committed : result.committed = true) :
    Installed result.handoffId past store ∧ result.child = spawned past ∧
      result.child.isSome = true := by
  subst handoff
  change Finished (.ok result) store past at ended
  unfold Finished at ended
  dsimp only at ended
  rw [if_pos committed] at ended
  exact ended

private theorem Sup.aborted_unready (task : sup.task = .handoff spec) (aborted : sup.aborted) :
    readyHeard sup.thread.past = false := by
  obtain ⟨outcome, store, done, uncommitted⟩ := aborted
  have gone := (Sup.ended done).gone task uncommitted
  apply Bool.eq_false_iff.mpr
  intro heard
  obtain ⟨handoffId, identity, ready⟩ := readyHeard_iff.mp heard
  exact gone.unready handoffId identity ready

/-! ### The path -/

/-- A rename waits until the supervisor has read `Ready`, and the supervisor
takes no further task. -/
def renamesAfterReady (world : World system) (label : Label) (_ : World system) : Bool :=
  match label with
  | .prim _ event => !renames event || readyHeard world.sup.thread.past
  | .call _ => false
  | _ => true

theorem pathAfter_kept {event : PrimEvent} (still : renames event = false) :
    world.pathAfter pid event = world.path := by
  unfold World.pathAfter
  split
  · contradiction
  · rfl

private theorem path_kept {path : Option UInt32}
    (kept : world.path = path ∨ readyHeard world.sup.thread.past = true)
    (step : Step world label next) (admitted : renamesAfterReady world label next = true) :
    next.path = path ∨ readyHeard next.sup.thread.past = true := by
  have same : ∀ task, label ≠ .call task := by
    rintro task rfl
    contradiction
  rcases kept with unmoved | heard
  · cases step with
    | @prim pid prim call resume present alive pending answer permitted =>
        cases moved : renames ⟨call, answer⟩ with
        | false => exact Or.inl ((pathAfter_kept moved).trans unmoved)
        | true =>
            change (!renames ⟨call, answer⟩ || readyHeard world.sup.thread.past) = true at admitted
            rw [moved] at admitted
            exact Or.inr admitted
    | call idle task => exact absurd rfl (same task)
    | _ => exact Or.inl unmoved
  · exact Or.inr (step.heard same heard)

theorem task_kept (step : Step world label next) (same : ∀ task, label ≠ .call task) :
    next.sup.task = world.sup.task := by
  cases step with
  | call idle task => exact absurd rfl (same task)
  | _ => rfl

/-! ### The listener -/

/-- The process listens, unless it closed its listener itself. -/
def Listens {pid : UInt32} (prim : Prim system pid) : Prop :=
  prim.sockets.listening = true ∨ prim.thread.past.any closesListener = true

theorem Sockets.after_listening {sockets : Sockets} {event : PrimEvent}
    (listening : sockets.listening = true) (open_ : closesListener event = false) :
    (sockets.after event).listening = true := by
  unfold Sockets.after
  split
  · exact listening
  · exact listening
  · exact listening
  · rfl
  · contradiction
  · exact listening

private theorem listens_kept (step : Step world label next)
    (listens : ∃ prim, world.prims pid = some prim ∧ Listens prim) :
    ∃ prim, next.prims pid = some prim ∧ Listens prim := by
  obtain ⟨old, present, listens⟩ := listens
  obtain ⟨prim, there⟩ := step.persists present
  refine ⟨prim, there, ?_⟩
  cases step.origin there with
  | @moved before call resume same alive pending answer admitted shape =>
      rw [present] at same
      cases same
      change _ ∨ (old.thread.past ++ [(⟨call, answer⟩ : PrimEvent)]).any closesListener = true
      cases closing : closesListener ⟨call, answer⟩ with
      | true =>
          right
          rw [List.any_append, Bool.or_eq_true]
          right
          rw [List.any_cons, closing, Bool.true_or]
      | false =>
          rcases listens with listening | closed
          · exact Or.inl (Sockets.after_listening listening closing)
          · exact Or.inr (any_append_of_any closed _)
  | kept same =>
      rw [present] at same
      cases same
      exact listens
  | died same =>
      rw [present] at same
      cases same
      exact listens
  | born absent =>
      rw [present] at absent
      contradiction

theorem World.listener_some :
    world.listener = some pid ↔ world.path = some pid ∧ ∃ prim, world.prims pid = some prim ∧
      prim.alive = true ∧ prim.sockets.listening = true := by
  unfold World.listener
  rw [Option.filter_eq_some_iff, Option.any_eq_true]
  simp only [Bool.and_eq_true]

/-! ### An aborted handoff -/

/-- A call that ends without commit leaves the listener that it found reachable,
whoever that belongs to and whatever went before: on `Ok` with `committed` false,
on an error and on a panic alike.  The process must still be there, and must not
have closed its listener itself. -/
theorem aborted_handoff_reachable {start world : World system} {spec : SpawnSpec} {pid : UInt32}
    (reachable : start.listener = some pid)
    (reached : Reaches Step renamesAfterReady (start.called (.handoff spec)) world)
    (aborted : world.sup.aborted) {prim : Prim system pid} (there : world.prims pid = some prim)
    (alive : prim.alive = true) (serving : prim.thread.past.any closesListener = false) :
    world.listener = some pid := by
  obtain ⟨path, old, present, _, listening⟩ := World.listener_some.mp reachable
  have kept := reached.invariant
    (fun now => now.sup.task = .handoff spec ∧
      (now.path = some pid ∨ readyHeard now.sup.thread.past = true) ∧
      ∃ prim, now.prims pid = some prim ∧ Listens prim)
    ⟨rfl, Or.inl path, old, present, Or.inl listening⟩
    (by
      rintro before label after ⟨task, named, listens⟩ step admitted
      have same : ∀ task, label ≠ .call task := by
        rintro task rfl
        contradiction
      exact ⟨(task_kept step same).trans task, path_kept named step admitted,
        listens_kept step listens⟩)
  obtain ⟨task, named, last, present, listens⟩ := kept
  rw [there] at present
  cases present
  refine World.listener_some.mpr ⟨?_, prim, there, alive, ?_⟩
  · rcases named with unmoved | heard
    · exact unmoved
    · rw [Sup.aborted_unready task aborted] at heard
      contradiction
  · rcases listens with listening | closed
    · exact listening
    · rw [serving] at closed
      contradiction

def timedOut : (op : SupOp) → Option (SupAns op)
  | .pollRead _ => some (.waiting false)
  | _ => none

def timedOutOutcome : HandoffOutcome :=
  { handoffId := ⟨1⟩, committed := false, child := none
    abortReason := some "ready phase timed out waiting for Ready" }

/-- The wait for `Ready` runs out before the successor has read `Begin`. -/
theorem aborted_handoff_reachable_slow : ∃ world : World rehearsalSystem,
    Reaches Step renamesAfterReady (rehearsalOpening.called (.handoff rehearsalSpec)) world ∧
      world.sup.returned? = some timedOutOutcome ∧ world.listener = some 1 := by
  obtain ⟨world, reached, facts⟩ := rehearsal_reaches
    (untilBegin ++ [.sup timedOut] ++ times 3 .sup ++ [.die 7] ++ times 7 .sup ++
      times 12 (.prim 1)) renamesAfterReady
    (fun world => world.sup.returned? == some timedOutOutcome && (world.prims 1).any fun prim =>
      prim.alive && prim.thread.past.any closesListener == false) (by decide +kernel)
  rw [Bool.and_eq_true, Option.any_eq_true] at facts
  obtain ⟨returned, prim, there, serving⟩ := facts
  rw [Bool.and_eq_true] at serving
  have reachable : rehearsalOpening.listener = some 1 :=
    World.listener_some.mpr ⟨rfl, _, opening_incumbent, rfl, rfl⟩
  refine ⟨world, reached, eq_of_beq returned, ?_⟩
  exact aborted_handoff_reachable reachable reached
    (Sup.returned_aborted (eq_of_beq returned) rfl) there serving.1 (eq_of_beq serving.2)

/-- The incumbent does not die, the supervisor does not crash and takes no further task. -/
def incumbentStays (pid : UInt32) (_ : World system) (label : Label) (_ : World system) : Bool :=
  match label with
  | .die victim => victim != pid
  | .crash | .call _ => false
  | _ => true

/-- The wait for `Ready` runs out, and before it is killed the successor announces
itself and binds.  The incumbent is back at `accept`, and nobody can reach it. -/
theorem aborted_handoff_unreachable : ∃ world : World rehearsalSystem,
    Reaches Step (incumbentStays 1) rehearsalOpening world ∧
      world.sup.returned? = some timedOutOutcome ∧ world.listener = none ∧
      ∃ prim, world.prims 1 = some prim ∧ prim.alive = true ∧ prim.holds = true ∧
        prim.sockets.listening = true := by
  obtain ⟨world, reached, facts⟩ := rehearsal_reaches
    (untilBegin ++ times 9 (.prim 7) ++ [.sup timedOut] ++ times 2 .sup ++ times 8 (.prim 7) ++
      times 1 .sup ++ [.die 7] ++ times 7 .sup ++ times 12 (.prim 1)) (incumbentStays 1)
    (fun world => world.sup.returned? == some timedOutOutcome && world.listener == none &&
      (world.prims 1).any fun prim => prim.alive && prim.holds && prim.sockets.listening)
    (by decide +kernel)
  rw [Bool.and_eq_true, Bool.and_eq_true, Option.any_eq_true] at facts
  obtain ⟨⟨returned, unreachable⟩, prim, there, serving⟩ := facts
  rw [Bool.and_eq_true, Bool.and_eq_true] at serving
  exact ⟨world, reached, eq_of_beq returned, eq_of_beq unreachable, prim, there, serving.1.1,
    serving.1.2, serving.2⟩

end Handoff
