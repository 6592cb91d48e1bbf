/-
Worlds in which one handoff is under way.

`sceneOf` forgets what does not matter for the plan.  What the steps of a world do
to its scene is computed here once, for every operation; that they keep the scene
as the plan wants it is then a fact about scenes.
-/

import Handoff.Plan.Joint

namespace Handoff.Plan

open Effects

variable {system : System} {pid : UInt32} {prim : Prim system pid}

/-! ### The parts of a world -/

section Parts

variable (prims : (pid : UInt32) → Option (Prim system pid))

def pastOf (pid : UInt32) : PrimPast := ((prims pid).map fun prim => prim.thread.past).getD []

def socketsOf (pid : UInt32) : Sockets := ((prims pid).map fun prim => prim.sockets).getD {}

end Parts

def lanePid (course : Course) (incumbent : UInt32) : Side → UInt32
  | .incumbent => incumbent
  | .successor => course.successor

def sceneOf (course : Course) (incumbent : UInt32) (world : World system) : Scene where
  sup := world.sup.thread.past
  prims lane := pastOf world.prims (lanePid course incumbent lane)
  ends := world.sup.ends
  opened := world.opened
  sockets lane := socketsOf world.prims (lanePid course incumbent lane)
  lanes lane := world.streams (laneId lane)
  flock := world.flock
  path := world.path

variable {course : Course} {incumbent : UInt32}

private theorem lanePid_injective (distinct : course.successor ≠ incumbent) :
    Function.Injective (lanePid course incumbent) := by
  intro one two same
  cases one <;> cases two <;> simp_all [lanePid, eq_comm]

section Updates

variable {prims : (pid : UInt32) → Option (Prim system pid)}

theorem pastOf_some (there : prims pid = some prim) : pastOf prims pid = prim.thread.past := by
  simp [pastOf, there]

theorem socketsOf_some (there : prims pid = some prim) : socketsOf prims pid = prim.sockets := by
  simp [socketsOf, there]

theorem pastOf_update (distinct : course.successor ≠ incumbent) (lane : Side)
    (prim : Prim system (lanePid course incumbent lane)) :
    (fun other => pastOf (Function.update prims (lanePid course incumbent lane) (some prim))
      (lanePid course incumbent other)) =
    Function.update (fun other => pastOf prims (lanePid course incumbent other)) lane
      prim.thread.past := by
  funext other
  by_cases same : other = lane
  · subst same
    simp [pastOf]
  · have apart : lanePid course incumbent other ≠ lanePid course incumbent lane :=
      fun equal => same (lanePid_injective distinct equal)
    simp [pastOf, same, apart]

theorem pastOf_same (distinct : course.successor ≠ incumbent) (lane : Side)
    {prim changed : Prim system (lanePid course incumbent lane)}
    (there : prims (lanePid course incumbent lane) = some prim)
    (same : changed.thread.past = prim.thread.past) :
    (fun other => pastOf (Function.update prims (lanePid course incumbent lane) (some changed))
      (lanePid course incumbent other)) =
    fun other => pastOf prims (lanePid course incumbent other) := by
  rw [pastOf_update distinct, same, ← pastOf_some there]
  exact Function.update_eq_self lane _

theorem socketsOf_update (distinct : course.successor ≠ incumbent) (lane : Side)
    (prim : Prim system (lanePid course incumbent lane)) :
    (fun other => socketsOf (Function.update prims (lanePid course incumbent lane) (some prim))
      (lanePid course incumbent other)) =
    Function.update (fun other => socketsOf prims (lanePid course incumbent other)) lane
      prim.sockets := by
  funext other
  by_cases same : other = lane
  · subst same
    simp [socketsOf]
  · have apart : lanePid course incumbent other ≠ lanePid course incumbent lane :=
      fun equal => same (lanePid_injective distinct equal)
    simp [socketsOf, same, apart]

theorem lanes_update (lane : Side) (streams : Nat → Stream) (change : Stream → Stream) :
    (fun other => (Traffic.mk [laneId lane] change).apply streams (laneId other)) =
    Function.update (fun other => streams (laneId other)) lane (change (streams (laneId lane))) := by
  funext other
  cases lane <;> cases other <;> simp [Traffic.apply, laneId]

end Updates

/-! ### Who is there -/

def laneKind (lock : DataDirLock) : Side → Kind
  | .incumbent => .incumbent lock
  | .successor => .successor

/-- The incumbent is there from the beginning and the successor once it was `born`. -/
structure Cast (course : Course) (incumbent : UInt32) (lock : DataDirLock) (born : Prop)
    (prims : (pid : UInt32) → Option (Prim system pid)) : Prop where
  plays : ∀ lane, (lane = .successor → born) → ∃ prim,
    prims (lanePid course incumbent lane) = some prim ∧ prim.kind = laneKind lock lane ∧
      prim.alive = true
  unborn : ¬born → prims course.successor = none
  nobody : ∀ pid, pid ≠ incumbent → pid ≠ course.successor → prims pid = none

namespace Cast

variable {lock : DataDirLock} {born : Prop} {prims : (pid : UInt32) → Option (Prim system pid)}

theorem lane (cast : Cast course incumbent lock born prims) (there : prims pid = some prim) :
    ∃ lane, pid = lanePid course incumbent lane ∧ (lane = .successor → born) := by
  by_cases first : pid = incumbent
  · exact ⟨.incumbent, first, fun other => by cases other⟩
  · by_cases second : pid = course.successor
    · refine ⟨.successor, second, fun _ => ?_⟩
      subst second
      by_contra unborn
      rw [cast.unborn unborn] at there
      cases there
    · rw [cast.nobody pid first second] at there
      cases there

theorem kind (cast : Cast course incumbent lock born prims) {lane : Side}
    (here : lane = .successor → born) {prim : Prim system (lanePid course incumbent lane)}
    (there : prims (lanePid course incumbent lane) = some prim) :
    prim.kind = laneKind lock lane ∧ prim.alive = true := by
  obtain ⟨same, found, facts⟩ := cast.plays lane here
  rw [there, Option.some.injEq] at found
  rw [found]
  exact facts

theorem goesOn (cast : Cast course incumbent lock born prims)
    (distinct : course.successor ≠ incumbent) (lane : Side) (here : lane = .successor → born)
    {prim : Prim system (lanePid course incumbent lane)} (kind : prim.kind = laneKind lock lane)
    (alive : prim.alive = true) :
    Cast course incumbent lock born
      (Function.update prims (lanePid course incumbent lane) (some prim)) where
  plays other present := by
    by_cases same : other = lane
    · subst same
      exact ⟨prim, Function.update_self .., kind, alive⟩
    · have apart : lanePid course incumbent other ≠ lanePid course incumbent lane :=
        fun equal => same (lanePid_injective distinct equal)
      obtain ⟨found, there, facts⟩ := cast.plays other present
      exact ⟨found, by rw [Function.update_of_ne apart]; exact there, facts⟩
  unborn absent := by
    have elsewhere : course.successor ≠ lanePid course incumbent lane := by
      cases lane with
      | incumbent => exact distinct
      | successor => exact absurd (here rfl) absent
    rw [Function.update_of_ne elsewhere]
    exact cast.unborn absent
  nobody pid first second := by
    have elsewhere : pid ≠ lanePid course incumbent lane := by
      cases lane with
      | incumbent => exact first
      | successor => exact second
    rw [Function.update_of_ne elsewhere]
    exact cast.nobody pid first second

theorem congr {later : Prop} (cast : Cast course incumbent lock born prims)
    (same : later ↔ born) : Cast course incumbent lock later prims := by
  rw [propext same]
  exact cast

end Cast

/-! ### The stage -/

structure Viable (system : System) (course : Course) (incumbent : UInt32) : Prop where
  distinct : course.successor ≠ incumbent
  bounded : course.Bounded
  enough : course.beats + 4 ≤ system.fuel
  own : (system.host course.successor).pid = course.successor
  addressable : Addressable (system.host course.successor)

def euidOf (system : System) (course : Course) (incumbent : UInt32) (lane : Side) : UInt32 :=
  (system.host (lanePid course incumbent lane)).euid

structure Staged (course : Course) (incumbent : UInt32) (lock : DataDirLock)
    (world : World system) : Prop where
  joint : Joint course incumbent (euidOf system course incumbent) (sceneOf course incumbent world)
  task : world.sup.task = .handoff course.spec
  alive : world.sup.alive = true
  cast : Cast course incumbent lock (.spawn ∈ supActs world.sup.thread.past) world.prims

namespace Staged

variable {lock : DataDirLock} {world : World system}

/-! ### What the parties do next -/

section Duties

private theorem code_fulfils (viable : Viable system course incumbent) :
    Code.Fulfils (supAssumption course) (SupDuty course)
      (fun outcome _ later => outcome = some course.outcome ∧ supActs later = supScript)
      (do
        let outcome ← performHandoff system.supervisor course.spec system.fuel
        pure (some outcome) : SupM (Option HandoffOutcome)) {} [] := by
  have enough : course.beats < system.fuel := by
    have more := viable.enough
    omega
  refine Code.Fulfils.bind (performHandoff_fulfils system.supervisor enough) ?_
  rintro _ _ later _ ⟨rfl, finished⟩
  exact Code.fulfils_pure ⟨rfl, finished⟩

theorem sup_asked (viable : Viable system course incumbent) {sup : Sup system}
    (task : sup.task = .handoff course.spec) (good : SupGood course sup.thread.past)
    {call : Call SupStore SupOp}
    {resume : SupAns call.op → Process SupStore SupAns Halt (Option HandoffOutcome)}
    (next : sup.thread.rest = .call call resume) : SupNext course sup.thread.past call.op := by
  obtain ⟨_, thread, alive, ends⟩ := sup
  cases task
  exact (code_fulfils viable).asked good next

theorem sup_ended (viable : Viable system course incumbent) {sup : Sup system}
    (task : sup.task = .handoff course.spec) (good : SupGood course sup.thread.past)
    {result : Except Halt (Option HandoffOutcome) × SupStore}
    (done : sup.thread.rest = .done result) :
    result.1 = .ok (some course.outcome) ∧ supActs sup.thread.past = supScript := by
  obtain ⟨_, thread, alive, ends⟩ := sup
  cases task
  obtain ⟨outcome, same, rfl, finished⟩ := (code_fulfils viable).ended good done
  exact ⟨same, finished⟩

theorem incumbent_asked (viable : Viable system course incumbent)
    (kind : prim.kind = .incumbent lock)
    (good : PrimGood course (system.host pid).euid incumbentScript prim.thread.past)
    {call : Call PrimStore PrimOp}
    {resume : PrimAns call.op → Process PrimStore PrimAns Error Unit}
    (next : prim.thread.rest = .call call resume) :
    IncumbentDuty course prim.thread.past call := by
  obtain ⟨_, thread, alive, sockets⟩ := prim
  cases kind
  have serves : Serves course (system.host pid) (fun _ _ later => primActs later = incumbentScript)
      (serve (system.host pid) system.fuel) (.incumbent lock) [] :=
    serve_serves (Nat.le_of_add_left_le viable.enough)
  exact serves.asked good next

theorem incumbent_ended (viable : Viable system course incumbent)
    (kind : prim.kind = .incumbent lock)
    (good : PrimGood course (system.host pid).euid incumbentScript prim.thread.past)
    {result : Except Error Unit × PrimStore} (done : prim.thread.rest = .done result) :
    result.1 = .ok () ∧ primActs prim.thread.past = incumbentScript := by
  obtain ⟨_, thread, alive, sockets⟩ := prim
  cases kind
  have serves : Serves course (system.host pid) (fun _ _ later => primActs later = incumbentScript)
      (serve (system.host pid) system.fuel) (.incumbent lock) [] :=
    serve_serves (Nat.le_of_add_left_le viable.enough)
  obtain ⟨_, same, finished⟩ := serves.ended good done
  exact ⟨same, finished⟩

private theorem program_takes (viable : Viable system course incumbent) :
    Takes course (system.host course.successor) (fun _ _ _ => False)
      (runSuccessor (system.host course.successor) system.snapshot system.fuel) {} [] := by
  obtain ⟨fuel, same⟩ : ∃ fuel, system.fuel = fuel + 1 := by
    have more := viable.enough
    exact ⟨system.fuel - 1, by omega⟩
  rw [same]
  exact runSuccessor_takes viable.addressable viable.own

theorem successor_asked (viable : Viable system course incumbent)
    {prim : Prim system course.successor} (kind : prim.kind = .successor)
    (good : PrimGood course (system.host course.successor).euid successorScript prim.thread.past)
    {call : Call PrimStore PrimOp} {resume : PrimAns call.op → Process PrimStore PrimAns Error Unit}
    (next : prim.thread.rest = .call call resume) : SuccessorDuty course prim.thread.past call := by
  obtain ⟨_, thread, alive, sockets⟩ := prim
  cases kind
  exact (program_takes viable).asked good next

theorem successor_unended (viable : Viable system course incumbent)
    {prim : Prim system course.successor} (kind : prim.kind = .successor)
    (good : PrimGood course (system.host course.successor).euid successorScript prim.thread.past)
    (result : Except Error Unit × PrimStore) : prim.thread.rest ≠ .done result := by
  intro done
  obtain ⟨_, thread, alive, sockets⟩ := prim
  cases kind
  obtain ⟨_, _, impossible⟩ := (program_takes viable).ended good done
  exact impossible

end Duties

end Staged

end Handoff.Plan
