/-
Programs under way, and systems with labelled steps.

A `Thread` is a program together with how far it has come; it cannot be built
without the run that got it there, so whatever a program keeps is known of each
of its threads.

A system is a step relation with labels.  `Reaches` follows the steps that a
guard admits, and `perform` computes such a path from a list of moves, which
turns a concrete schedule into a fact about reachability.
-/

import Handoff.Effects.Program

namespace Handoff.Effects

/-! ### Programs under way -/

structure Thread {Op : Type} {Ans : Op → Type} {Result : Type}
    (program : Program Op Ans Result) where
  past : History Op Ans
  rest : Program Op Ans Result
  run : program.Run past rest

namespace Thread

variable {Op : Type} {Ans : Op → Type} {Result : Type} {program : Program Op Ans Result}

def start (program : Program Op Ans Result) : Thread program :=
  ⟨[], program, .stop program⟩

def answered (thread : Thread program) {op : Op} {resume : Ans op → Program Op Ans Result}
    (next : thread.rest = .call op resume) (answer : Ans op) : Thread program where
  past := thread.past ++ [⟨op, answer⟩]
  rest := resume answer
  run := by
    apply thread.run.trans
    rw [next]
    exact .step answer (.stop _)

variable {asks : History Op Ans → Op → Prop} {post : Result → History Op Ans → Prop}

theorem keeps (thread : Thread program) (kept : Program.Keeps asks post program []) :
    Program.Keeps asks post thread.rest thread.past :=
  thread.run.keeps kept

theorem asked (thread : Thread program) (kept : Program.Keeps asks post program [])
    {op : Op} {resume : Ans op → Program Op Ans Result} (next : thread.rest = .call op resume) :
    asks thread.past op := by
  have here := thread.keeps kept
  rw [next] at here
  exact here.1

theorem ended (thread : Thread program) (kept : Program.Keeps asks post program [])
    {result : Result} (done : thread.rest = .done result) : post result thread.past := by
  have here := thread.keeps kept
  rw [done] at here
  exact here

end Thread

/-! ### Labelled steps -/

section Reaches

variable {State Label : Type} {step : State → Label → State → Prop}
  {guard : State → Label → State → Bool}

def Reaches (step : State → Label → State → Prop) (guard : State → Label → State → Bool) :
    State → State → Prop :=
  Relation.ReflTransGen fun before after =>
    ∃ label, step before label after ∧ guard before label after = true

/-- What every admitted step preserves holds in every state reached. -/
theorem Reaches.invariant {start now : State} (reaches : Reaches step guard start now)
    (holds : State → Prop) (first : holds start)
    (each : ∀ before label after, holds before → step before label after →
      guard before label after = true → holds after) : holds now := by
  induction reaches with
  | refl => exact first
  | tail _ last ih =>
      obtain ⟨label, stepped, admitted⟩ := last
      exact each _ label _ ih stepped admitted

variable {Move : Type} {turn : State → Move → Option (Label × State)}

/-- Follow a schedule as long as every move is possible and admitted. -/
def perform (turn : State → Move → Option (Label × State))
    (guard : State → Label → State → Bool) : List Move → State → Option State
  | [], state => some state
  | move :: moves, state =>
      match turn state move with
      | none => none
      | some (label, next) =>
          if guard state label next then perform turn guard moves next else none

theorem perform_reaches
    (sound : ∀ state move label next, turn state move = some (label, next) → step state label next)
    (moves : List Move) (start : State) {last : State}
    (performed : perform turn guard moves start = some last) :
    Reaches step guard start last := by
  induction moves generalizing start with
  | nil =>
      cases performed
      exact Relation.ReflTransGen.refl
  | cons move moves ih =>
      unfold perform at performed
      split at performed
      · contradiction
      · next label next turned =>
          split at performed
          · next admitted =>
              exact Relation.ReflTransGen.head ⟨label, sound _ _ _ _ turned, admitted⟩
                (ih next performed)
          · contradiction

end Reaches

end Handoff.Effects
