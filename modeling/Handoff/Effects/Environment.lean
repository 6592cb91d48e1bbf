/-
Environments that have a state.

A run leaves the answers free.  Here they come from an environment which answers
each operation out of its own state and may change it.  What the program owes at
its operations and what the environment does with them together carry an
invariant over the histories that both can produce.
-/

import Handoff.Effects.Program

namespace Handoff.Effects

variable {Op : Type} {Ans : Op → Type} {Result State : Type}

/-- The environment answers the events of a history one after the other, and goes
from the first state to the last. -/
inductive Attends (answers : State → (op : Op) → Ans op → State → Prop) :
    State → History Op Ans → State → Prop where
  | stop (state : State) : Attends answers state [] state
  | step {state middle last : State} {op : Op} {answer : Ans op} {events : History Op Ans}
      (first : answers state op answer middle) (later : Attends answers middle events last) :
      Attends answers state (⟨op, answer⟩ :: events) last

variable {answers : State → (op : Op) → Ans op → State → Prop}

/-- An invariant of the history and the state of the environment holds after every
run that the environment attends, if each operation preserves it that the program
may issue. -/
theorem Program.Run.attended {asks : History Op Ans → Op → Prop}
    {post : Result → History Op Ans → Prop} {program rest : Program Op Ans Result}
    {past events : History Op Ans} {first last : State} (run : Run program events rest)
    (kept : Keeps asks post program past) (attends : Attends answers first events last)
    (inv : History Op Ans → State → Prop) (start : inv past first)
    (each : ∀ now state op answer next, inv now state → asks now op →
      answers state op answer next → inv (now ++ [⟨op, answer⟩]) next) :
    inv (past ++ events) last := by
  induction run generalizing past first with
  | stop program =>
      cases attends
      rw [List.append_nil]
      exact start
  | step answer tail ih =>
      rw [keeps_call] at kept
      cases attends with
      | step answered later =>
          have further := ih (kept.2 answer) later (each _ _ _ _ _ start kept.1 answered)
          rw [List.append_assoc, List.singleton_append] at further
          exact further

/-! ### Environments that compute their answers -/

namespace Program

/-- Let an environment answer at most `steps` operations. -/
def attend (respond : State → (op : Op) → Option (Ans op × State)) :
    Nat → State → Program Op Ans Result → History Op Ans × State × Program Op Ans Result
  | 0, state, program => ([], state, program)
  | _ + 1, state, .done result => ([], state, .done result)
  | steps + 1, state, .call op resume =>
      match respond state op with
      | none => ([], state, .call op resume)
      | some (answer, next) =>
          let (events, last, rest) := attend respond steps next (resume answer)
          (⟨op, answer⟩ :: events, last, rest)

variable {respond : State → (op : Op) → Option (Ans op × State)}

theorem attend_run (steps : Nat) (state : State) (program : Program Op Ans Result) :
    Run program (attend respond steps state program).1 (attend respond steps state program).2.2 := by
  induction steps generalizing state program with
  | zero => exact Run.stop program
  | succ steps ih =>
      cases program with
      | done result => exact Run.stop _
      | call op resume =>
          cases answered : respond state op with
          | none =>
              simp only [attend, answered]
              exact Run.stop _
          | some both =>
              simp only [attend, answered]
              exact Run.step both.1 (ih both.2 (resume both.1))

theorem attend_attends
    (sound : ∀ state op answer next, respond state op = some (answer, next) →
      answers state op answer next)
    (steps : Nat) (state : State) (program : Program Op Ans Result) :
    Attends answers state (attend respond steps state program).1
      (attend respond steps state program).2.1 := by
  induction steps generalizing state program with
  | zero => exact .stop state
  | succ steps ih =>
      cases program with
      | done result => exact .stop state
      | call op resume =>
          cases answered : respond state op with
          | none =>
              simp only [attend, answered]
              exact .stop state
          | some both =>
              simp only [attend, answered]
              exact .step (sound _ _ _ _ answered) (ih both.2 (resume both.1))

end Program

end Handoff.Effects
