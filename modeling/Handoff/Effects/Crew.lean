/-
Threads that share one thing.

A crew is a family of programs under way, any number of them, and the state of
what they share.  One step answers the next operation of one thread; which
answers are possible, and what they do to the shared state, is a parameter.  An
invariant of the shared state and of all histories is shown one operation at a
time, with the contract of the thread at hand.
-/

import Handoff.Effects.System

namespace Handoff.Effects

variable {Index Shared Op Result : Type} {Ans : Op → Type}

structure Crew (Shared : Type) (programs : Index → Program Op Ans Result) where
  shared : Shared
  threads : (index : Index) → Thread (programs index)

namespace Crew

variable {programs : Index → Program Op Ans Result}

def start (shared : Shared) (programs : Index → Program Op Ans Result) : Crew Shared programs where
  shared := shared
  threads := fun index => Thread.start (programs index)

def pasts (crew : Crew Shared programs) (index : Index) : History Op Ans :=
  (crew.threads index).past

variable [DecidableEq Index]

inductive Step (answers : Shared → Index → (op : Op) → Ans op → Shared → Prop) :
    Crew Shared programs → Index → Crew Shared programs → Prop where
  | answer {crew : Crew Shared programs} {index : Index} {op : Op}
      {resume : Ans op → Program Op Ans Result} {answer : Ans op} {shared : Shared}
      (next : (crew.threads index).rest = .call op resume)
      (answered : answers crew.shared index op answer shared) :
      Step answers crew index
        ⟨shared, Function.update crew.threads index ((crew.threads index).answered next answer)⟩

def Reachable (answers : Shared → Index → (op : Op) → Ans op → Shared → Prop) (shared : Shared)
    (crew : Crew Shared programs) : Prop :=
  Reaches (Step answers) (fun _ _ _ => true) (start shared programs) crew

/-- What holds at first and is kept by every operation that a thread may issue
holds whenever. -/
theorem Reachable.invariant {answers : Shared → Index → (op : Op) → Ans op → Shared → Prop}
    {shared : Shared} {crew : Crew Shared programs} (reached : Reachable answers shared crew)
    {asks : Index → History Op Ans → Op → Prop} {post : Index → Result → History Op Ans → Prop}
    (kept : ∀ index, (programs index).Keeps (asks index) (post index) [])
    (holds : Shared → (Index → History Op Ans) → Prop) (first : holds shared fun _ => [])
    (each : ∀ now pasts index op answer later, holds now pasts → asks index (pasts index) op →
      answers now index op answer later →
      holds later (Function.update pasts index (pasts index ++ [⟨op, answer⟩]))) :
    holds crew.shared crew.pasts := by
  apply Reaches.invariant reached (fun crew => holds crew.shared crew.pasts) first
  intro before index after held stepped _
  obtain ⟨next, answered⟩ := stepped
  have asked := (before.threads index).asked (kept index) next
  have later := each _ _ index _ _ _ held asked answered
  convert later using 1
  funext other
  by_cases same : other = index
  · subst same
    simp [pasts, Thread.answered]
  · simp [pasts, Function.update_of_ne same]

end Crew

end Handoff.Effects
