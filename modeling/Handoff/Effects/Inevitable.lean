/-
What every run of a system comes to.

A goal is inevitable when no run of admitted steps can stop short of it and none
can avoid it forever.  The rule is the usual one: an invariant under which some
step is always possible, and a measure that every step makes smaller.  A program
is its own measure, since an answered operation leaves a part of it.
-/

import Handoff.Effects.System
import Mathlib.Order.WellFounded

namespace Handoff.Effects

section Inevitable

variable {State Label : Type} {step : State → Label → State → Prop}
  {guard : State → Label → State → Bool}

def Moves (step : State → Label → State → Prop) (guard : State → Label → State → Bool)
    (state : State) : Prop :=
  ∃ label next, step state label next ∧ guard state label next = true

end Inevitable

namespace Program

variable {Op : Type} {Ans : Op → Type} {Result : Type}

/-- The first program is what one answer leaves of the second. -/
inductive Follows : Program Op Ans Result → Program Op Ans Result → Prop where
  | answered (op : Op) (resume : Ans op → Program Op Ans Result) (answer : Ans op) :
      Follows (resume answer) (.call op resume)

end Program

end Handoff.Effects
