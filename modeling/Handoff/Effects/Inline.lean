/-
Running one interactive program inside another.

`inline` replaces every operation of a program by a program over other
operations.  The obligations of the result follow from those of the program and
of the handler: the proof names a relation between the history that the program
believes in and the history that there is, and the handler keeps it.
-/

import Handoff.Effects.Code

namespace Handoff.Effects

theorem split_append {Item : Type} {first second before after : List Item} {item : Item}
    (split : first ++ second = before ++ item :: after) :
    (∃ rest, first = before ++ item :: rest ∧ after = rest ++ second) ∨
      ∃ front, before = first ++ front ∧ second = front ++ item :: after := by
  rcases List.append_eq_append_iff.mp split with ⟨front, same, rest⟩ | ⟨rest, same, tail⟩
  · exact Or.inr ⟨front, same, rest⟩
  · cases rest with
    | nil => exact Or.inr ⟨[], by simpa using same.symm, tail.symm⟩
    | cons head rest =>
        obtain ⟨rfl, rfl⟩ := List.cons.inj tail
        exact Or.inl ⟨rest, same, rfl⟩

namespace Program

variable {Op Inner Result Next : Type} {Ans : Op → Type} {InnerAns : Inner → Type}

/-- Each operation is carried out by the handler, whose result is the answer. -/
def inline (handle : (op : Op) → Program Inner InnerAns (Ans op)) :
    Program Op Ans Result → Program Inner InnerAns Result
  | .done result => .done result
  | .call op resume => (handle op).bind fun answer => inline handle (resume answer)

variable {asks : History Op Ans → Op → Prop} {post : Result → History Op Ans → Prop}
  {program : Program Op Ans Result} {past : History Op Ans} {inner : History Inner InnerAns}

theorem Keeps.inlined {handle : (op : Op) → Program Inner InnerAns (Ans op)}
    {innerAsks : History Inner InnerAns → Inner → Prop}
    (rel : History Op Ans → History Inner InnerAns → Prop)
    (kept : Keeps asks post program past) (start : rel past inner)
    (each : ∀ now innerNow op, rel now innerNow → asks now op →
      Keeps innerAsks (fun answer later => rel (now ++ [⟨op, answer⟩]) later)
        (handle op) innerNow) :
    Keeps innerAsks (fun result later => ∃ now, rel now later ∧ post result now)
      (inline handle program) inner := by
  induction program generalizing past inner with
  | done result => exact ⟨past, start, kept⟩
  | call op resume ih =>
      rw [keeps_call] at kept
      rw [Program.inline, keeps_bind]
      apply (each past inner op start kept.1).mono
      · intro now next asked
        exact asked
      · intro answer later related
        exact ih answer (kept.2 answer) related

theorem keeps_run (program : Program Op Ans Result) :
    Keeps (fun now op => ∃ rest, Run program now rest ∧ rest.op? = some op)
      (fun result now => Run program now (.done result)) program [] := by
  have grown (start : Program Op Ans Result) (past : History Op Ans)
      (came : Run program past start) :
      Keeps (fun now op => ∃ rest, Run program now rest ∧ rest.op? = some op)
        (fun result now => Run program now (.done result)) start past := by
    induction start generalizing past with
    | done result => exact came
    | call op resume ih =>
        refine ⟨⟨_, came, rfl⟩, ?_⟩
        intro answer
        exact ih answer _ (came.trans (Run.step answer (Run.stop _)))
  exact grown program [] (Run.stop program)

/-- The handler that passes an operation on under another name. -/
def rename (lift : Op → Inner) (back : (op : Op) → InnerAns (lift op) → Ans op) (op : Op) :
    Program Inner InnerAns (Ans op) :=
  .call (lift op) fun answer => .done (back op answer)

theorem Keeps.renamed (lift : Op → Inner) (back : (op : Op) → InnerAns (lift op) → Ans op)
    (host : Event Op Ans → Event Inner InnerAns)
    {innerAsks : History Inner InnerAns → Inner → Prop}
    (kept : Keeps asks post program past) (base : History Inner InnerAns)
    (hosted : ∀ op answer, host ⟨op, back op answer⟩ = ⟨lift op, answer⟩)
    (each : ∀ now op, asks now op → innerAsks (base ++ now.map host) (lift op)) :
    Keeps innerAsks (fun result later => ∃ now, later = base ++ now.map host ∧ post result now)
      (inline (rename lift back) program) (base ++ past.map host) := by
  apply kept.inlined (fun now later => later = base ++ now.map host) rfl
  intro now innerNow op same asked
  subst same
  refine ⟨each now op asked, ?_⟩
  intro answer
  rw [keeps_done, List.map_append, List.map_singleton, hosted, List.append_assoc]

end Program

end Handoff.Effects
