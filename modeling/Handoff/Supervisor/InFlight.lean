/-
The in-flight lock of `perform_handoff`.

The lock is the first thing that a call asks for and the last that it gives back,
and nothing in between touches it.  The only process that a handoff starts is the
one that its specification names.
-/

import Handoff.Effects.Crew
import Handoff.Supervisor.HandoffRuns

namespace Handoff

open Effects SupM
open Effects.Code hiding pure bind

variable {past : SupPast} {supervisor : Supervisor} {spec : SpawnSpec} {call : Call SupStore SupOp}

/-! ### The lock of one call -/

def latchAfter (held : Bool) : SupEvent → Bool
  | ⟨⟨_, .tryLockInFlight⟩, taken⟩ => taken
  | ⟨⟨_, .releaseInFlight _⟩, _⟩ => false
  | _ => held

def holding (past : SupPast) : Bool := past.foldl latchAfter false

@[simp]
theorem holding_append (past : SupPast) (event : SupEvent) :
    holding (past ++ [event]) = latchAfter (holding past) event := by
  simp [holding]

/-- The lock is tried first, and whatever else is done is done under it.  It is
given back poisoned by a panic only. -/
def InFlightDuty (supervisor : Supervisor) (spec : SpawnSpec) (past : SupPast)
    (call : Call SupStore SupOp) : Prop :=
  match call.op with
  | .tryLockInFlight => past = []
  | .spawn command => holding past = true ∧ command = spawnCommand supervisor spec
  | _ => holding past = true

/-- A call that has returned holds nothing.  It was refused at once, or it has
given the lock back. -/
def Unlocked (outcome : Except Halt HandoffOutcome) (store : SupStore) (past : SupPast) : Prop :=
  (past = [⟨⟨{}, .tryLockInFlight⟩, false⟩] ∧ outcome = .error (.error .handoffInProgress) ∧
    store = {}) ∨
  ∃ earlier, past = earlier ++ [⟨⟨store, .releaseInFlight (outcome matches .error .panic)⟩, ()⟩] ∧
    holding earlier = true

theorem Unlocked.calm {outcome : Except Halt HandoffOutcome} {store : SupStore}
    (unlocked : Unlocked outcome store past) (calm : outcome ≠ .error .panic) :
    past = [⟨⟨{}, .tryLockInFlight⟩, false⟩] ∨
      ∃ earlier, past = earlier ++ [⟨⟨store, .releaseInFlight false⟩, ()⟩] ∧
        holding earlier = true := by
  rcases unlocked with ⟨refused, _⟩ | released
  · exact Or.inl refused
  · right
    cases outcome with
    | ok result => exact released
    | error halt =>
        cases halt with
        | error cause => exact released
        | panic => exact absurd rfl calm

private theorem bodyOp_lock (held : holding past = true)
    (permitted : bodyOp (spawnCommand supervisor spec) call.op = true) :
    InFlightDuty supervisor spec past call ∧
      ∀ answer, holding (past ++ [⟨call, answer⟩]) = true := by
  obtain ⟨store, op⟩ := call
  cases op with
  | tryLockInFlight => contradiction
  | releaseInFlight poison => contradiction
  | spawn command => exact ⟨⟨held, eq_of_beq permitted⟩, fun _ => (holding_append _ _).trans held⟩
  | _ => exact ⟨held, fun _ => (holding_append _ _).trans held⟩

private theorem body_locked {Value : Type} {code : SupM Value} {store : SupStore}
    (body : Body (spawnCommand supervisor spec) code) (held : holding past = true) :
    Meets (InFlightDuty supervisor spec) (fun _ _ later => holding later = true) code store past := by
  refine (Issues.meets body trivial (fun now => holding now = true) held ?_ ?_).mono
    fun _ _ _ kept => kept.2
  · intro now call held _ permitted
    exact (bodyOp_lock held permitted).1
  · intro now call answer held _ permitted
    exact (bodyOp_lock held permitted).2 answer

theorem performHandoff_locks (supervisor : Supervisor) (spec : SpawnSpec) (fuel : Nat) :
    Meets (InFlightDuty supervisor spec) Unlocked (performHandoff supervisor spec fuel) {} [] := by
  unfold performHandoff
  refine Meets.callBind rfl fun taken => ?_
  cases taken with
  | false => exact Or.inl ⟨rfl, rfl, rfl⟩
  | true =>
      rw [if_pos rfl, meets_ensuringWith]
      have body : Body (spawnCommand supervisor spec) (do
          let handoffId ← ask .newHandoffId
          let startedInstant ← ask .now
          let startedUnixMs ← ask .nowUnixMs
          let totalDeadlineAt ← addInstant startedInstant spec.deadline
          connectAndDrive supervisor spec handoffId startedUnixMs totalDeadlineAt fuel) := by
        refine issues_callBind rfl fun handoffId => issues_callBind rfl fun _ => ?_
        refine issues_callBind rfl fun _ => ?_
        refine issues_bind (addInstant_within _ _).issues fun _ => ?_
        exact connectAndDrive_body supervisor spec handoffId _ _ fuel
      apply (body_locked body rfl).mono
      intro outcome store later held
      exact ⟨held, fun _ => Or.inr ⟨later, rfl, held⟩⟩

def poisons (event : SupEvent) : Bool := event.op.op == .releaseInFlight true

/-- The lock is given back once, by the last operation: what comes before it has
not poisoned it. -/
theorem unpoisoned_of_holding {fuel : Nat} {rest : Process SupStore SupAns Halt HandoffOutcome}
    (run : (performHandoff supervisor spec fuel {}).Run past rest) :
    ∀ earlier, earlier <+: past → holding earlier = true → earlier.any poisons = false := by
  intro earlier
  induction earlier using List.reverseRecOn with
  | nil =>
      intro _ _
      rfl
  | append_singleton earlier event ih =>
      intro front held
      obtain ⟨more, same⟩ := front
      rw [List.append_assoc, List.singleton_append] at same
      have asked := run.asked (performHandoff_locks supervisor spec fuel) same.symm
      rw [List.nil_append] at asked
      rw [List.any_append]
      obtain ⟨⟨store, op⟩, answer⟩ := event
      cases op with
      | tryLockInFlight =>
          change earlier = [] at asked
          rw [asked]
          rfl
      | releaseInFlight poison =>
          rw [holding_append] at held
          contradiction
      | spawn command =>
          rw [ih ⟨_, same⟩ asked.1]
          rfl
      | _ =>
          rw [ih ⟨_, same⟩ asked]
          rfl

/-! ### Any number of calls on one supervisor -/

/-- The state of the mutex: a guard that is dropped by a panic poisons it. -/
inductive Latch (Index : Type) where
  | free
  | held (owner : Index)
  | poisoned
  deriving DecidableEq

section Crew

variable {Index : Type}

/-- `try_lock` succeeds on a free mutex only; everything else is answered at will. -/
inductive LatchAnswers : Latch Index → Index → (call : Call SupStore SupOp) → SupAns call.op →
    Latch Index → Prop where
  | taken (index : Index) (store : SupStore) :
      LatchAnswers .free index ⟨store, .tryLockInFlight⟩ true (.held index)
  | refused (latch : Latch Index) (index : Index) (store : SupStore) (busy : latch ≠ .free) :
      LatchAnswers latch index ⟨store, .tryLockInFlight⟩ false latch
  | released (latch : Latch Index) (index : Index) (store : SupStore) (poison : Bool) :
      LatchAnswers latch index ⟨store, .releaseInFlight poison⟩ ()
        (if poison then .poisoned else .free)
  | other (latch : Latch Index) (index : Index) (call : Call SupStore SupOp)
      (answer : SupAns call.op) (aside : call.op ≠ .tryLockInFlight)
      (keeps : ∀ poison, call.op ≠ .releaseInFlight poison) :
      LatchAnswers latch index call answer latch

/-- The mutex is held exactly by the call that is between its lock and its release. -/
def LatchFits (latch : Latch Index) (pasts : Index → SupPast) : Prop :=
  ∀ index, holding (pasts index) = true ↔ latch = .held index

variable [DecidableEq Index]

private theorem latchAfter_other {answer : SupAns call.op} {held : Bool}
    (aside : call.op ≠ .tryLockInFlight) (keeps : ∀ poison, call.op ≠ .releaseInFlight poison) :
    latchAfter held ⟨call, answer⟩ = held := by
  obtain ⟨store, op⟩ := call
  cases op with
  | tryLockInFlight => exact absurd rfl aside
  | releaseInFlight poison => exact absurd rfl (keeps poison)
  | _ => rfl

private theorem latchFits_step {now later : Latch Index} {pasts : Index → SupPast} {index : Index}
    {answer : SupAns call.op} (fits : LatchFits now pasts)
    (asked : InFlightDuty supervisor spec (pasts index) call)
    (answered : LatchAnswers now index call answer later) :
    LatchFits later (Function.update pasts index (pasts index ++ [⟨call, answer⟩])) := by
  intro other
  have here := fits other
  by_cases same : other = index
  · subst same
    rw [Function.update_self, holding_append]
    cases answered with
    | taken => simp [latchAfter]
    | refused =>
        -- a call that tries the lock has not done anything, so it does not hold it
        change pasts other = [] at asked
        rw [asked] at here
        simpa [latchAfter, holding] using here
    | released _ _ _ poison => cases poison <;> simp [latchAfter]
    | other _ _ _ _ aside keeps =>
        rw [latchAfter_other aside keeps]
        exact here
  · rw [Function.update_of_ne same, here]
    cases answered with
    | taken => simp [Ne.symm same]
    | refused => rfl
    | released _ _ _ poison =>
        have mine : now = .held index := (fits index).mp asked
        cases poison <;> simp [mine, Ne.symm same]
    | other => rfl

private theorem poisoned_step {now later : Latch Index} {pasts : Index → SupPast} {index : Index}
    {answer : SupAns call.op} (fits : LatchFits now pasts)
    (asked : InFlightDuty supervisor spec (pasts index) call)
    (answered : LatchAnswers now index call answer later)
    (poisoned : (∃ other, (pasts other).any poisons = true) → now = .poisoned)
    (found : ∃ other, (Function.update pasts index (pasts index ++ [⟨call, answer⟩]) other).any
      poisons = true) : later = .poisoned := by
  have earlier (kept : poisons ⟨call, answer⟩ = false) : now = .poisoned := by
    obtain ⟨other, found⟩ := found
    apply poisoned
    by_cases same : other = index
    · subst same
      rw [Function.update_self, List.any_append, List.any_cons, kept] at found
      exact ⟨other, by simpa using found⟩
    · rw [Function.update_of_ne same] at found
      exact ⟨other, found⟩
  cases answered with
  | taken => exact absurd (earlier rfl) (by simp)
  | refused => exact earlier rfl
  | released _ _ _ poison =>
      cases poison with
      | true => rfl
      | false =>
          have mine : now = .held index := (fits index).mp asked
          exact absurd (mine.symm.trans (earlier rfl)) (by simp)
  | other _ _ _ _ aside keeps =>
      apply earlier
      simpa [poisons] using keeps true

private theorem returned_of_unlocked {fuel : Nat}
    (thread : Thread (performHandoff supervisor spec fuel {})) (begun : thread.past ≠ [])
    (unlocked : holding thread.past = false) :
    ∃ outcome store, thread.rest = .done (outcome, store) ∧
      Finished outcome store thread.past ∧ Unlocked outcome store thread.past := by
  cases left : thread.rest with
  | done result =>
      exact ⟨result.1, result.2, rfl, thread.ended (performHandoff_meets supervisor spec fuel) left,
        thread.ended (performHandoff_locks supervisor spec fuel) left⟩
  | call call resume =>
      have asked := thread.asked (performHandoff_locks supervisor spec fuel) left
      obtain ⟨store, op⟩ := call
      cases op with
      | tryLockInFlight => exact absurd asked begun
      | spawn command => exact absurd (unlocked.symm.trans asked.1) Bool.false_ne_true
      | _ => exact absurd (unlocked.symm.trans asked) Bool.false_ne_true

/-- Any number of calls on one supervisor: at most one is between its lock and its
release, every other one has not begun or has returned with its child installed or
gone, a refused one has done nothing else, and after a panic nobody gets in. -/
theorem performHandoff_exclusive (supervisor : Supervisor) (specs : Index → SpawnSpec) (fuel : Nat)
    {crew : Crew (Latch Index) fun index => performHandoff supervisor (specs index) fuel {}}
    (reached : Crew.Reachable LatchAnswers .free crew) :
    (∀ one other, holding (crew.pasts one) = true → holding (crew.pasts other) = true →
      one = other) ∧
    (∀ index, holding (crew.pasts index) = false → crew.pasts index ≠ [] →
      ∃ outcome store, (crew.threads index).rest = .done (outcome, store) ∧
        Finished outcome store (crew.pasts index) ∧ Unlocked outcome store (crew.pasts index)) ∧
    ∀ index store, (crew.threads index).rest = .done (.error .panic, store) →
      ∀ other, holding (crew.pasts other) = false := by
  have kept (index : Index) := performHandoff_locks supervisor (specs index) fuel
  have held := reached.invariant kept
    (fun latch pasts => LatchFits latch pasts ∧
      ((∃ other, (pasts other).any poisons = true) → latch = .poisoned))
    ⟨fun _ => by simp [holding], fun found => by simp at found⟩
    (fun now pasts index call answer later held asked answered =>
      ⟨latchFits_step held.1 asked answered,
        poisoned_step held.1 asked answered held.2⟩)
  refine ⟨?_, ?_, ?_⟩
  · intro one other mine theirs
    have same := ((held.1 one).mp mine).symm.trans ((held.1 other).mp theirs)
    exact Latch.held.inj same
  · intro index unlocked begun
    exact returned_of_unlocked (crew.threads index) begun unlocked
  · intro index store panics other
    rw [← Bool.not_eq_true, held.1 other]
    intro theirs
    have broken : crew.shared = .poisoned := by
      apply held.2
      refine ⟨index, ?_⟩
      rcases (crew.threads index).ended (kept index) panics with refused | ⟨earlier, split, _⟩
      · exact absurd refused.2.1 (by simp)
      · change (crew.threads index).past.any poisons = true
        rw [split]
        simp [poisons]
    exact absurd (theirs.symm.trans broken) (by simp)

end Crew

abbrev PairCrew : Type :=
  Crew (Latch Bool) fun _ : Bool => performHandoff rehearsalSupervisor rehearsalSpec 0 {}

/-- The first has the lock, and the second is refused. -/
theorem performHandoff_exclusive_pair :
    ∃ crew : PairCrew, Crew.Reachable LatchAnswers .free crew ∧
      holding (crew.pasts true) = true ∧
      (∀ other, holding (crew.pasts other) = true → other = true) ∧
      ∃ outcome store, (crew.threads false).rest = .done (outcome, store) ∧
        Finished outcome store (crew.pasts false) := by
  let first : PairCrew := Crew.start .free _
  let second : PairCrew :=
    ⟨.held true, Function.update first.threads true ((first.threads true).answered rfl true)⟩
  let third : PairCrew :=
    ⟨.held true, Function.update second.threads false ((second.threads false).answered rfl false)⟩
  have locked : Crew.Step LatchAnswers first true second :=
    Crew.Step.answer rfl (LatchAnswers.taken true {})
  have refused : Crew.Step LatchAnswers second false third :=
    Crew.Step.answer rfl (LatchAnswers.refused _ false {} (by simp [second]))
  have reached : Crew.Reachable LatchAnswers .free third :=
    (Relation.ReflTransGen.single ⟨true, locked, rfl⟩).tail ⟨false, refused, rfl⟩
  obtain ⟨exclusive, returned, _⟩ := performHandoff_exclusive rehearsalSupervisor
    (fun _ => rehearsalSpec) 0 reached
  have inside : holding (third.pasts true) = true := rfl
  refine ⟨third, reached, inside, fun other theirs => exclusive other true theirs inside, ?_⟩
  have begun : third.pasts false ≠ [] := List.cons_ne_nil _ _
  obtain ⟨outcome, store, done, finished, _⟩ := returned false rfl begun
  exact ⟨outcome, store, done, finished⟩

end Handoff
