/-
Interactive programs and the histories they leave.

A program either finishes or issues one operation and continues with whatever
the environment answers.  Nothing here fixes what the operations are: answers
are arbitrary values of the type that the operation announces, so a statement
about every run of a program quantifies over every behaviour of its
environment.

A program is specified against its own past.  `Keeps` asks for a condition at
each operation it issues, given the history so far, and for another at its
result; `Run.asked` turns that into a fact about every run.
-/

import Mathlib.Data.List.Basic
import Mathlib.Data.List.Induction
import Mathlib.Logic.Relation

namespace Handoff.Effects

inductive Program (Op : Type) (Ans : Op → Type) (Result : Type) : Type where
  | done (result : Result)
  | call (op : Op) (resume : Ans op → Program Op Ans Result)

structure Event (Op : Type) (Ans : Op → Type) where
  op : Op
  answer : Ans op

abbrev History (Op : Type) (Ans : Op → Type) : Type := List (Event Op Ans)

variable {Op : Type} {Ans : Op → Type} {Result Next : Type}

/-! ### Lists with one more item -/

section

variable {Item Image : Type} {kind : Item → Bool} {pick : Item → Option Image} {items : List Item}
  {item : Item}

theorem any_append_of_any (found : items.any kind = true) (item : Item) :
    (items ++ [item]).any kind = true := by
  rw [List.any_append, found, Bool.true_or]

theorem any_last (now : kind item = true) : (items ++ [item]).any kind = true := by
  rw [List.any_append, List.any_cons, now, Bool.true_or, Bool.or_true]

theorem any_append_false (absent : items.any kind = false) (other : kind item = false) :
    (items ++ [item]).any kind = false := by
  rw [List.any_append, absent, List.any_cons, other]
  rfl

theorem any_append_false_left (absent : (items ++ [item]).any kind = false) :
    items.any kind = false := by
  rw [List.any_append, Bool.or_eq_false_iff] at absent
  exact absent.1

theorem filterMap_snoc (pick : Item → Option Image) (items : List Item) (item : Item) :
    (items ++ [item]).filterMap pick = items.filterMap pick ++ (pick item).toList := by
  rw [List.filterMap_append]
  cases found : pick item with
  | none => simp [found]
  | some image => simp [found]

theorem filterMap_append_none (missed : pick item = none) :
    (items ++ [item]).filterMap pick = items.filterMap pick := by
  rw [filterMap_snoc, missed, Option.toList_none, List.append_nil]

end

/-! ### Growing histories -/

/-- `later` is `past` with further events, all of one kind. -/
def Grows (kind : Event Op Ans → Bool) (past later : History Op Ans) : Prop :=
  ∃ extra, later = past ++ extra ∧ ∀ event ∈ extra, kind event = true

namespace Grows

variable {kind : Event Op Ans → Bool} {past later last : History Op Ans}

theorem refl (past : History Op Ans) : Grows kind past past := by
  refine ⟨[], (List.append_nil past).symm, ?_⟩
  intro event member
  cases member

theorem step (grows : Grows kind past later) (event : Event Op Ans) (fits : kind event = true) :
    Grows kind past (later ++ [event]) := by
  obtain ⟨extra, rfl, each⟩ := grows
  refine ⟨extra ++ [event], List.append_assoc past extra [event], ?_⟩
  intro other member
  rcases List.mem_append.mp member with earlier | ending
  · exact each other earlier
  · rw [List.mem_singleton.mp ending]
    exact fits

theorem trans (first : Grows kind past later) (second : Grows kind later last) :
    Grows kind past last := by
  obtain ⟨extra, rfl, each⟩ := first
  obtain ⟨further, rfl, every⟩ := second
  refine ⟨extra ++ further, List.append_assoc past extra further, ?_⟩
  intro event member
  rcases List.mem_append.mp member with early | late
  · exact each event early
  · exact every event late

theorem induct (grows : Grows kind past later) (property : History Op Ans → Prop)
    (start : property past)
    (each : ∀ now event, kind event = true → property now → property (now ++ [event])) :
    property later := by
  obtain ⟨extra, rfl, fits⟩ := grows
  induction extra using List.reverseRecOn with
  | nil =>
      rw [List.append_nil]
      exact start
  | append_singleton earlier event ih =>
      rw [← List.append_assoc]
      apply each _ event (fits event (by simp))
      apply ih
      intro other member
      exact fits other (List.mem_append_left _ member)

end Grows

namespace Program

def bind : Program Op Ans Result → (Result → Program Op Ans Next) → Program Op Ans Next
  | .done result, next => next result
  | .call op resume, next => .call op fun answer => (resume answer).bind next

@[simp]
theorem done_bind (result : Result) (next : Result → Program Op Ans Next) :
    (Program.done result).bind next = next result :=
  rfl

@[simp]
theorem call_bind (op : Op) (resume : Ans op → Program Op Ans Result)
    (next : Result → Program Op Ans Next) :
    (Program.call op resume).bind next = .call op fun answer => (resume answer).bind next :=
  rfl

/-- `Run start events rest` says that `start`, answered as `events` records,
has `rest` left to do. -/
inductive Run : Program Op Ans Result → History Op Ans → Program Op Ans Result → Prop where
  | stop (program : Program Op Ans Result) : Run program [] program
  | step {op : Op} {resume : Ans op → Program Op Ans Result} (answer : Ans op)
      {events : History Op Ans} {rest : Program Op Ans Result}
      (tail : Run (resume answer) events rest) :
      Run (.call op resume) (⟨op, answer⟩ :: events) rest

def result? : Program Op Ans Result → Option Result
  | .done result => some result
  | .call _ _ => none

def op? : Program Op Ans Result → Option Op
  | .done _ => none
  | .call op _ => some op

variable {program : Program Op Ans Result}

theorem eq_done_of_result? {result : Result} (finished : program.result? = some result) :
    program = .done result := by
  cases program with
  | done other => rw [Option.some.inj finished]
  | call op resume => contradiction

/-! ### Obligations along the history -/

/-- `asks past op` must hold whenever the program issues `op` after `past`, and
`post` must hold of its result and of the complete history. -/
def Keeps (asks : History Op Ans → Op → Prop) (post : Result → History Op Ans → Prop) :
    Program Op Ans Result → History Op Ans → Prop
  | .done result, past => post result past
  | .call op resume, past =>
      asks past op ∧ ∀ answer, Keeps asks post (resume answer) (past ++ [⟨op, answer⟩])

variable {asks : History Op Ans → Op → Prop} {post : Result → History Op Ans → Prop}

@[simp]
theorem keeps_done (result : Result) (past : History Op Ans) :
    Keeps asks post (.done result) past ↔ post result past :=
  Iff.rfl

theorem keeps_call (op : Op) (resume : Ans op → Program Op Ans Result) (past : History Op Ans) :
    Keeps asks post (.call op resume) past ↔
      asks past op ∧ ∀ answer, Keeps asks post (resume answer) (past ++ [⟨op, answer⟩]) :=
  Iff.rfl

theorem keeps_bind {post : Next → History Op Ans → Prop} (program : Program Op Ans Result)
    (next : Result → Program Op Ans Next) (past : History Op Ans) :
    Keeps asks post (program.bind next) past ↔
      Keeps asks (fun result now => Keeps asks post (next result) now) program past := by
  induction program generalizing past with
  | done result => rfl
  | call op resume ih =>
      simp only [call_bind, keeps_call, ih]

variable {past : History Op Ans}

theorem Keeps.mono {asks' : History Op Ans → Op → Prop} {post' : Result → History Op Ans → Prop}
    (kept : Keeps asks post program past) (weakenAsks : ∀ now op, asks now op → asks' now op)
    (weakenPost : ∀ result now, post result now → post' result now) :
    Keeps asks' post' program past := by
  induction program generalizing past with
  | done result => exact weakenPost result past kept
  | call op resume ih =>
      rw [keeps_call] at kept ⊢
      refine ⟨weakenAsks past op kept.1, ?_⟩
      intro answer
      exact ih answer (kept.2 answer)

theorem Keeps.and {asks' : History Op Ans → Op → Prop} {post' : Result → History Op Ans → Prop}
    (kept : Keeps asks post program past) (kept' : Keeps asks' post' program past) :
    Keeps (fun now op => asks now op ∧ asks' now op)
      (fun result now => post result now ∧ post' result now) program past := by
  induction program generalizing past with
  | done result => exact ⟨kept, kept'⟩
  | call op resume ih =>
      exact ⟨⟨kept.1, kept'.1⟩, fun answer => ih answer (kept.2 answer) (kept'.2 answer)⟩

/-- An invariant of the history that every permitted event preserves may be
assumed at each operation and at the end. -/
theorem Keeps.invariant (kept : Keeps asks post program past) (inv : History Op Ans → Prop)
    (start : inv past)
    (each : ∀ now op answer, inv now → asks now op → inv (now ++ [⟨op, answer⟩])) :
    Keeps (fun now op => inv now ∧ asks now op) (fun result now => inv now ∧ post result now)
      program past := by
  induction program generalizing past with
  | done result => exact ⟨start, kept⟩
  | call op resume ih =>
      rw [keeps_call] at kept ⊢
      refine ⟨⟨start, kept.1⟩, ?_⟩
      intro answer
      exact ih answer (kept.2 answer) (each past op answer start kept.1)

theorem keeps_trivial (program : Program Op Ans Result) (past : History Op Ans) :
    Keeps (fun _ _ => True) (fun _ _ => True) program past := by
  induction program generalizing past with
  | done result => trivial
  | call op resume ih => exact ⟨trivial, fun answer => ih answer _⟩

variable {rest : Program Op Ans Result} {events : History Op Ans}

/-- A run leaves a program that still meets its obligations, now counted from
the extended history. -/
theorem Run.keeps (run : Run program events rest) (kept : Keeps asks post program past) :
    Keeps asks post rest (past ++ events) := by
  induction run generalizing past with
  | stop program =>
      rw [List.append_nil]
      exact kept
  | step answer tail ih =>
      rw [keeps_call] at kept
      have extended := ih (kept.2 answer)
      rw [List.append_assoc, List.singleton_append] at extended
      exact extended

theorem Run.owes (run : Run program events rest) (kept : Keeps asks post program past) {op : Op}
    (issues : rest.op? = some op) : asks (past ++ events) op := by
  have here := run.keeps kept
  cases rest with
  | done result => contradiction
  | call next resume =>
      rw [← Option.some.inj issues]
      exact here.1

/-- Every operation of a run was issued with its obligation met. -/
theorem Run.asked (run : Run program events rest) (kept : Keeps asks post program past)
    {before after : History Op Ans} {event : Event Op Ans}
    (split : events = before ++ event :: after) : asks (past ++ before) event.op := by
  induction run generalizing past before with
  | stop program =>
      rw [eq_comm, List.append_eq_nil_iff] at split
      exact absurd split.2 (List.cons_ne_nil event after)
  | step answer tail ih =>
      rw [keeps_call] at kept
      cases before with
      | nil =>
          rw [List.nil_append] at split
          have same := (List.cons.inj split).1
          rw [List.append_nil, ← same]
          exact kept.1
      | cons first before =>
          rw [List.cons_append] at split
          obtain ⟨same, rest⟩ := List.cons.inj split
          have later := ih (kept.2 answer) rest
          rw [List.append_assoc, List.singleton_append, same] at later
          exact later

theorem Run.trans {start middle : Program Op Ans Result} {first second : History Op Ans}
    (run : Run start first middle) (further : Run middle second rest) :
    Run start (first ++ second) rest := by
  induction run with
  | stop program => exact further
  | step answer tail ih => exact Run.step answer (ih further)

theorem Run.bind (run : Run program events rest) (next : Result → Program Op Ans Next) :
    Run (program.bind next) events (rest.bind next) := by
  induction run with
  | stop program => exact Run.stop _
  | step answer tail ih => exact Run.step answer ih

theorem Keeps.traced (kept : Keeps asks post program past) :
    Keeps asks (fun result now => post result now ∧
      ∃ events, now = past ++ events ∧ Run program events (.done result)) program past := by
  induction program generalizing past with
  | done result => exact ⟨kept, [], (List.append_nil past).symm, Run.stop _⟩
  | call op resume ih =>
      rw [keeps_call] at kept ⊢
      refine ⟨kept.1, ?_⟩
      intro answer
      refine (ih answer (kept.2 answer)).mono (fun _ _ asked => asked) ?_
      rintro result now ⟨held, events, rfl, run⟩
      refine ⟨held, ⟨op, answer⟩ :: events, ?_, Run.step answer run⟩
      rw [List.append_assoc, List.singleton_append]

/-! ### Scripted runs -/

/-- Answer at most `steps` operations from a script that sees the past and the
operation. -/
def play (script : History Op Ans → (op : Op) → Option (Ans op)) :
    Nat → History Op Ans → Program Op Ans Result → History Op Ans × Program Op Ans Result
  | 0, _, program => ([], program)
  | _ + 1, _, .done result => ([], .done result)
  | steps + 1, past, .call op resume =>
      match script past op with
      | none => ([], .call op resume)
      | some answer =>
          let (events, rest) := play script steps (past ++ [⟨op, answer⟩]) (resume answer)
          (⟨op, answer⟩ :: events, rest)

theorem play_run (script : History Op Ans → (op : Op) → Option (Ans op)) (steps : Nat)
    (past : History Op Ans) (program : Program Op Ans Result) :
    Run program (play script steps past program).1 (play script steps past program).2 := by
  induction steps generalizing past program with
  | zero => exact Run.stop program
  | succ steps ih =>
      cases program with
      | done result => exact Run.stop _
      | call op resume =>
          cases scripted : script past op with
          | none =>
              simp only [play, scripted]
              exact Run.stop _
          | some answer =>
              simp only [play, scripted]
              exact Run.step answer (ih _ (resume answer))

/-- What a program has left to do after a recorded history, if the history is one of its own. -/
def replay [DecidableEq Op] :
    Program Op Ans Result → History Op Ans → Option (Program Op Ans Result)
  | program, [] => some program
  | .done _, _ :: _ => none
  | .call op resume, event :: events =>
      if same : event.op = op then (resume (same ▸ event.answer)).replay events else none

theorem replay_run [DecidableEq Op] (replayed : program.replay events = some rest) :
    Run program events rest := by
  induction events generalizing program with
  | nil =>
      rw [replay] at replayed
      cases replayed
      exact Run.stop _
  | cons event events ih =>
      cases program with
      | done result => contradiction
      | call op resume =>
          rw [replay] at replayed
          split at replayed
          · next same =>
              subst same
              exact Run.step event.answer (ih replayed)
          · contradiction

end Program

end Handoff.Effects
