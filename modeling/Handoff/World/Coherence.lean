/-
What holds in every world, whatever fails.

The contracts of the single programs are carried over to the processes that run
them.  On top of that, the flock of the world is the one its holder accounts for,
the frames read in a session are frames that were sent on it, and no stream
carries a `PrepareHandoff` or `SealRequest` behind a `SealRequest`.
-/

import Handoff.World.State

namespace Handoff

open Effects SupM
open Effects.Code hiding pure bind

variable {system : System} {world next : World system} {pid : UInt32} {label : Label}

/-! ### Contracts of the processes -/

def TaskEnd (task : Task) (outcome : Except Halt (Option HandoffOutcome)) (store : SupStore)
    (past : SupPast) : Prop :=
  match task, outcome with
  | .handoff _, .ok (some result) => Finished (.ok result) store past
  | .handoff _, .ok none => False
  | .handoff _, .error halt => Finished (.error halt) store past
  | .resume, _ => True

private theorem reaped_of_childless {past : SupPast} (childless : spawned past = none) :
    Reaped past := by
  intro pid child
  rw [childless] at child
  contradiction

private theorem resumeFromJournal_meets (supervisor : Supervisor) :
    Meets SupDuty (fun _ _ _ => True) (resumeFromJournal supervisor) {} [] := by
  unfold resumeFromJournal
  split
  · trivial
  · refine Meets.callBind trivial fun read => ?_
    refine Meets.ofExceptBind (fun found _ => ?_) (fun _ _ => trivial)
    cases found with
    | none => trivial
    | some journal =>
        refine Meets.callBind rfl fun connected => ?_
        cases connected with
        | error cause =>
            refine Meets.callBind trivial fun deleted => ?_
            exact Meets.ofExceptBind (fun _ _ => trivial) (fun _ _ => trivial)
        | ok _ =>
            refine Meets.callBind trivial fun armed => Meets.callBind trivial fun greeted => ?_
            refine Meets.callBind (Or.inl (reaped_of_childless rfl)) fun _ => ?_
            refine Meets.callBind trivial fun deleted => ?_
            exact Meets.ofExceptBind (fun _ _ => trivial) (fun _ _ => trivial)

theorem code_keeps (system : System) (task : Task) :
    Program.Keeps SupDuty (fun result now => TaskEnd task result.1 result.2 now) (system.code task)
      [] := by
  cases task with
  | handoff spec =>
      have met : Meets SupDuty (TaskEnd (.handoff spec)) (do
          let outcome ← performHandoff system.supervisor spec system.fuel
          Pure.pure (some outcome)) {} [] :=
        Meets.bind (performHandoff_meets system.supervisor spec system.fuel)
          (fun _ _ _ finished => finished) (fun _ _ _ finished => finished)
      exact met
  | resume =>
      have met : Meets SupDuty (TaskEnd .resume) (do
          let _ ← resumeFromJournal system.supervisor
          Pure.pure none) {} [] :=
        Meets.bind (resumeFromJournal_meets system.supervisor) (fun _ _ _ _ => trivial)
          (fun _ _ _ _ => trivial)
      exact met

def PrimDuty (host : Host) : Kind → PrimPast → Call PrimStore PrimOp → Prop
  | .incumbent _ => Duty true
  | .successor => SuccDuty host

def PrimEnd (host : Host) (kind : Kind) (store : PrimStore) (past : PrimPast) : Prop :=
  match kind with
  | .incumbent _ => store.lock = none ∧ Guarded past store ∧ flockHeld true past = false
  | .successor => SuccEnd host past store

theorem program_keeps (system : System) (pid : UInt32) (kind : Kind) :
    Program.Keeps (PrimDuty (system.host pid) kind)
      (fun result now => PrimEnd (system.host pid) kind result.2 now) (system.program pid kind)
      [] := by
  cases kind with
  | incumbent lock => exact serve_meets (system.host pid) system.fuel (incumbent_accepting lock)
  | successor => exact runSuccessor_meets (system.host pid) system.snapshot system.fuel

def servedBy (kind : Kind) (past : PrimPast) : Bool :=
  kind.holding || past.any fun event => event.op.op == .accept

/-- A process that has served holds the flock, or its consumer was sealed last,
or its session went astray. -/
def Accounted (kind : Kind) (past : PrimPast) : Prop :=
  flockHeld kind.holding past = true ∨ lastHook past = some (.seal true) ∨
    past.any sealedRepeat = true ∨ past.any fatalAccept = true

private theorem not_prelude {past : PrimPast} (served : servedBy .successor past = true) :
    ¬Prelude past := by
  intro prelude
  obtain ⟨event, member, accept⟩ := List.any_eq_true.mp served
  have early := List.all_eq_true.mp prelude event member
  rw [eq_of_beq accept] at early
  contradiction

theorem Guarded.accounted {kind : Kind} {past : PrimPast} {store : PrimStore}
    (guarded : Guarded past store)
    (held : store.lock.isSome = true → flockHeld kind.holding past = true) :
    Accounted kind past :=
  guarded.imp_left held

section Contracts

variable {host : Host} {kind : Kind} {past : PrimPast} {store : PrimStore} {op : PrimOp}

/-- An operation that no prelude issues is issued under the contract of an incumbent. -/
theorem PrimDuty.serving (duty : PrimDuty host kind past ⟨store, op⟩)
    (late : preludeOp op = false) : Duty kind.holding past ⟨store, op⟩ := by
  cases kind with
  | incumbent lock => exact duty
  | successor =>
      rcases duty.lawful with ⟨_, early⟩ | duty
      · exact absurd early (Bool.eq_false_iff.mp late)
      · exact duty

theorem PrimDuty.accounted (duty : PrimDuty host kind past ⟨store, op⟩)
    (served : servedBy kind past = true) : Accounted kind past := by
  cases kind with
  | incumbent lock => exact duty.1.guarded.accounted duty.1.held
  | successor =>
      rcases duty.lawful with ⟨prelude, _⟩ | duty
      · exact absurd prelude (not_prelude served)
      · exact duty.1.guarded.accounted duty.1.held

theorem PrimEnd.released (ended : PrimEnd host kind store past) :
    flockHeld kind.holding past = false := by
  cases kind with
  | incumbent lock => exact ended.2.2
  | successor => exact SuccEnd.released ended

theorem PrimEnd.accounted (ended : PrimEnd host kind store past)
    (served : servedBy kind past = true) : Accounted kind past := by
  have unheld (free : store.lock = none) :
      store.lock.isSome = true → flockHeld kind.holding past = true := by
    intro held
    rw [free] at held
    contradiction
  cases kind with
  | incumbent lock => exact Guarded.accounted ended.2.1 (unheld ended.1)
  | successor =>
      rcases SuccEnd.guarded ended with prelude | ⟨guarded, free⟩
      · exact absurd prelude (not_prelude served)
      · exact guarded.accounted (unheld free)

end Contracts

section Prim

variable {pid : UInt32} {prim : Prim system pid}

theorem Prim.duty {call : Call PrimStore PrimOp}
    {resume : PrimAns call.op → Process PrimStore PrimAns Error Unit}
    (next : prim.thread.rest = .call call resume) :
    PrimDuty (system.host pid) prim.kind prim.thread.past call :=
  prim.thread.asked (program_keeps system pid prim.kind) next

theorem Prim.ended {result : Except Error Unit × PrimStore}
    (done : prim.thread.rest = .done result) :
    PrimEnd (system.host pid) prim.kind result.2 prim.thread.past :=
  prim.thread.ended (program_keeps system pid prim.kind) done

theorem Prim.accounted (served : servedBy prim.kind prim.thread.past = true) :
    Accounted prim.kind prim.thread.past := by
  cases state : prim.thread.rest with
  | call call resume => exact (Prim.duty state).accounted served
  | done result => exact (Prim.ended state).accounted served

end Prim

theorem Sup.duty {sup : Sup system} {call : Call SupStore SupOp}
    {resume : SupAns call.op → Process SupStore SupAns Halt (Option HandoffOutcome)}
    (next : sup.thread.rest = .call call resume) :
    SupOpDuty sup.thread.past call.store call.op :=
  sup.thread.asked (code_keeps system sup.task) next

/-! ### Where a process comes from -/

def connects : SupEvent → Bool
  | ⟨⟨_, .connect _⟩, .ok _⟩ => true
  | _ => false

def Prim.queued {pid : UInt32} (prim : Prim system pid) (backlog : List Nat) : Prim system pid :=
  { prim with sockets := { prim.sockets with backlog := backlog } }

variable {prim : Prim system pid}

private theorem World.primsAfterSup_some {event : SupEvent}
    (there : world.primsAfterSup event pid = some prim) :
    (∃ old backlog, world.prims pid = some old ∧ prim = old.queued backlog ∧
      (backlog = old.sockets.backlog ∨ connects event = true)) ∨
    spawns? event = some pid ∧ prim = World.child system pid world.sup.ends.successor := by
  have unchanged (there : world.prims pid = some prim) : ∃ old backlog,
      world.prims pid = some old ∧ prim = old.queued backlog ∧
        (backlog = old.sockets.backlog ∨ connects event = true) :=
    ⟨prim, prim.sockets.backlog, there, rfl, Or.inl rfl⟩
  unfold World.primsAfterSup at there
  split at there
  · cases found : world.listener with
    | none =>
        rw [found] at there
        exact Or.inl (unchanged there)
    | some target =>
        rw [found] at there
        change Function.update world.prims target _ pid = some prim at there
        by_cases same : pid = target
        · subst same
          rw [Function.update_self] at there
          obtain ⟨old, present, rfl⟩ := Option.map_eq_some_iff.mp there
          exact Or.inl ⟨old, _, present, rfl, Or.inr rfl⟩
        · rw [Function.update_of_ne same] at there
          exact Or.inl (unchanged there)
  · next command child =>
      by_cases same : pid = child
      · subst same
        rw [Function.update_self] at there
        exact Or.inr ⟨rfl, (Option.some.inj there).symm⟩
      · rw [Function.update_of_ne same] at there
        exact Or.inl (unchanged there)
  · exact Or.inl (unchanged there)

def Label.mover : Label → Option UInt32
  | .prim pid _ | .die pid => some pid
  | _ => none

/-- What a step makes of a process: it issues an operation, it dies, it is
spawned, or at most a connection is queued for it. -/
inductive Origin (world : World system) (label : Label) (pid : UInt32) :
    Prim system pid → Prop where
  | moved {prim : Prim system pid} {call : Call PrimStore PrimOp}
      {resume : PrimAns call.op → Process PrimStore PrimAns Error Unit}
      (there : world.prims pid = some prim) (alive : prim.alive = true)
      (next : prim.thread.rest = .call call resume) (answer : PrimAns call.op)
      (admitted : world.admitsPrim prim.sockets call.op answer = true)
      (same : label = .prim pid ⟨call, answer⟩) :
      Origin world label pid
        { prim with
          thread := prim.thread.answered next answer
          sockets := prim.sockets.after ⟨call, answer⟩ }
  | kept {prim : Prim system pid} (there : world.prims pid = some prim)
      (still : label.mover ≠ some pid) (backlog : List Nat)
      (queue : backlog = prim.sockets.backlog ∨
        ∃ event, label = .sup event ∧ connects event = true) :
      Origin world label pid (prim.queued backlog)
  | died {prim : Prim system pid} (there : world.prims pid = some prim) (same : label = .die pid) :
      Origin world label pid { prim with alive := false }
  | born {event : SupEvent} (absent : world.prims pid = none) (same : label = .sup event)
      (spawn : spawns? event = some pid) :
      Origin world label pid (World.child system pid world.sup.ends.successor)

theorem spawn_absent {call : Call SupStore SupOp} {answer : SupAns call.op}
    (spawn : spawns? ⟨call, answer⟩ = some pid) (admitted : world.admitsSup call.op answer = true) :
    world.prims pid = none := by
  obtain ⟨store, op⟩ := call
  cases op with
  | spawn command =>
      cases answer with
      | error cause => contradiction
      | ok child =>
          cases spawn
          exact Option.isNone_iff_eq_none.mp admitted
  | _ => contradiction

theorem Step.origin (step : Step world label next) (there : next.prims pid = some prim) :
    Origin world label pid prim := by
  cases step with
  | @prim mover old call resume present alive pending answer admitted =>
      by_cases same : pid = mover
      · subst same
        change Function.update world.prims pid _ pid = some prim at there
        rw [Function.update_self] at there
        cases there
        exact .moved present alive pending answer admitted rfl
      · change Function.update world.prims mover _ pid = some prim at there
        rw [Function.update_of_ne same] at there
        refine .kept there ?_ _ (Or.inl rfl)
        intro moves
        exact same (Option.some.inj moves).symm
  | sup alive pending answer admitted =>
      rcases World.primsAfterSup_some there with ⟨old, backlog, present, rfl, queue⟩ | ⟨spawn, rfl⟩
      · exact .kept present (by simp [Label.mover]) backlog
          (queue.imp_right fun connected => ⟨_, rfl, connected⟩)
      · exact .born (spawn_absent spawn admitted) rfl spawn
  | heartbeat =>
      change world.prims pid = some prim at there
      exact .kept there (by simp [Label.mover]) _ (Or.inl rfl)
  | @die victim old present alive =>
      by_cases same : pid = victim
      · subst same
        change Function.update world.prims pid _ pid = some prim at there
        rw [Function.update_self] at there
        cases there
        exact .died present rfl
      · change Function.update world.prims victim _ pid = some prim at there
        rw [Function.update_of_ne same] at there
        refine .kept there ?_ _ (Or.inl rfl)
        intro moves
        exact same (Option.some.inj moves).symm
  | crash =>
      change world.prims pid = some prim at there
      exact .kept there (by simp [Label.mover]) _ (Or.inl rfl)
  | call =>
      change world.prims pid = some prim at there
      exact .kept there (by simp [Label.mover]) _ (Or.inl rfl)

private theorem World.primsAfterSup_persists {event : SupEvent}
    (there : world.prims pid = some prim) :
    ∃ after, world.primsAfterSup event pid = some after := by
  unfold World.primsAfterSup
  split
  · cases found : world.listener with
    | none => exact ⟨prim, there⟩
    | some target =>
        change ∃ after, Function.update world.prims target _ pid = some after
        by_cases same : pid = target
        · subst same
          rw [Function.update_self, there]
          exact ⟨_, rfl⟩
        · rw [Function.update_of_ne same]
          exact ⟨prim, there⟩
  · next command child =>
      by_cases same : pid = child
      · subst same
        rw [Function.update_self]
        exact ⟨_, rfl⟩
      · rw [Function.update_of_ne same]
        exact ⟨prim, there⟩
  · exact ⟨prim, there⟩

theorem Step.persists (step : Step world label next) (there : world.prims pid = some prim) :
    ∃ after, next.prims pid = some after := by
  cases step with
  | @prim mover old call resume present alive pending answer admitted =>
      change ∃ after, Function.update world.prims mover _ pid = some after
      by_cases same : pid = mover
      · subst same
        rw [Function.update_self]
        exact ⟨_, rfl⟩
      · rw [Function.update_of_ne same]
        exact ⟨prim, there⟩
  | sup => exact World.primsAfterSup_persists there
  | heartbeat => exact ⟨prim, there⟩
  | @die victim old present alive =>
      change ∃ after, Function.update world.prims victim _ pid = some after
      by_cases same : pid = victim
      · subst same
        rw [Function.update_self]
        exact ⟨_, rfl⟩
      · rw [Function.update_of_ne same]
        exact ⟨prim, there⟩
  | crash => exact ⟨prim, there⟩
  | call => exact ⟨prim, there⟩

/-! ### The flock -/

/-- The flock of the world is the one that its holder accounts for. -/
structure Coherent (world : World system) : Prop where
  account : ∀ pid prim, world.prims pid = some prim → prim.alive = true →
    (prim.holds = true ↔ world.flock = some pid)
  owner : ∀ pid, world.flock = some pid → ∃ prim, world.prims pid = some prim ∧ prim.alive = true

private theorem flockAfter_self (world : World system) (pid : UInt32) (event : PrimEvent) :
    world.flockAfter pid event = some pid ↔
      (flockChange? event).getD (world.flock = some pid) = true := by
  unfold World.flockAfter
  cases flockChange? event with
  | none => simp
  | some held =>
      cases held with
      | true => simp
      | false =>
          simp only [Option.getD_some, Bool.false_eq_true, iff_false]
          split
          · simp
          · next other => exact other

private theorem locked_free {sockets : Sockets} {call : Call PrimStore PrimOp}
    {answer : PrimAns call.op} (locks : flockChange? ⟨call, answer⟩ = some true)
    (admitted : world.admitsPrim sockets call.op answer = true) : world.flock = none := by
  obtain ⟨store, op⟩ := call
  cases op with
  | flock =>
      cases answer with
      | locked => exact Option.isNone_iff_eq_none.mp admitted
      | _ => contradiction
  | closeLockFile => cases locks
  | releaseFlock => cases locks
  | _ => contradiction

private theorem flockAfter_other {other : UInt32} {event : PrimEvent}
    (free : flockChange? event = some true → world.flock = none) (different : other ≠ pid) :
    world.flockAfter pid event = some other ↔ world.flock = some other := by
  have distinct : some pid ≠ some other := fun same => different (Option.some.inj same).symm
  unfold World.flockAfter
  cases change : flockChange? event with
  | none => rfl
  | some held =>
      cases held with
      | true =>
          rw [free change]
          simp [distinct]
      | false =>
          dsimp only
          split
          · next own =>
              rw [own]
              simp [distinct]
          · rfl

private theorem Prim.holds_answered {call : Call PrimStore PrimOp}
    {resume : PrimAns call.op → Process PrimStore PrimAns Error Unit}
    (next : prim.thread.rest = .call call resume) (answer : PrimAns call.op) (sockets : Sockets) :
    Prim.holds { prim with thread := prim.thread.answered next answer, sockets := sockets } =
      (flockChange? ⟨call, answer⟩).getD prim.holds :=
  flockHeld_append _ _ _

def World.flockStep (world : World system) : Label → Option UInt32
  | .prim pid event => world.flockAfter pid event
  | .die pid => if world.flock = some pid then none else world.flock
  | _ => world.flock

theorem Step.flock (step : Step world label next) : next.flock = world.flockStep label := by
  cases step <;> rfl

theorem Step.flock_other (step : Step world label next) (still : label.mover ≠ some pid) :
    next.flock = some pid ↔ world.flock = some pid := by
  rw [step.flock]
  cases step with
  | @prim mover old call resume present alive pending answer admitted =>
      exact flockAfter_other (fun locks => locked_free locks admitted)
        fun same => still (congrArg some same.symm)
  | @die victim old present alive =>
      change (if world.flock = some victim then none else world.flock) = some pid ↔ _
      split
      · next own =>
          rw [own]
          exact ⟨fun impossible => by contradiction, fun same => absurd same still⟩
      · rfl
  | _ => rfl

theorem Coherent.step (coherent : Coherent world) (step : Step world label next) :
    Coherent next := by
  refine ⟨?_, ?_⟩
  · intro pid prim there living
    cases step.origin there with
    | moved present alive pending answer admitted same =>
        subst same
        rw [step.flock]
        change _ ↔ world.flockAfter pid _ = some pid
        rw [Prim.holds_answered, flockAfter_self]
        cases flockChange? ⟨_, answer⟩ with
        | none => simpa using coherent.account pid _ present alive
        | some held => simp
    | @kept old present still =>
        rw [step.flock_other still]
        exact coherent.account pid old present living
    | died present same => contradiction
    | born absent same spawn =>
        subst same
        rw [step.flock]
        refine ⟨fun holds => by contradiction, fun held => ?_⟩
        obtain ⟨prim, there, _⟩ := coherent.owner pid held
        rw [absent] at there
        contradiction
  · intro pid held
    by_cases moves : label.mover = some pid
    · cases step with
      | @prim mover old call resume present alive pending answer admitted =>
          cases moves
          exact ⟨_, Function.update_self .., alive⟩
      | @die victim old present alive =>
          cases moves
          change (if world.flock = some pid then none else world.flock) = some pid at held
          split at held
          · contradiction
          · contradiction
      | _ => contradiction
    · obtain ⟨old, present, living⟩ := coherent.owner pid ((step.flock_other moves).mp held)
      obtain ⟨after, there⟩ := step.persists present
      refine ⟨after, there, ?_⟩
      cases step.origin there with
      | moved _ alive => exact alive
      | kept same =>
          rw [present] at same
          cases same
          exact living
      | died _ same =>
          subst same
          exact absurd rfl moves
      | born => rfl

end Handoff
