/-
Code under an assumption about its environment.

An assumption is a property of histories that no longer history regains once it
is lost.  Code fulfils a specification under it when, as long as the assumption
holds, every operation is one that the specification allows and the code returns
a value: the ways in which it could fail are excluded by the answers.
-/

import Handoff.Effects.Code
import Handoff.Effects.System

namespace Handoff.Effects

structure Assumption (Store : Type) {Op : Type} (Ans : Op → Type) where
  holds : Past Store Ans → Prop
  earlier : ∀ past event, holds (past ++ [event]) → holds past

namespace Code

variable {Store Op Failure Value Other : Type} {Ans : Op → Type}

def Fulfils (good : Assumption Store Ans) (asks : Past Store Ans → Call Store Op → Prop)
    (post : Value → Store → Past Store Ans → Prop) (code : Code Store Ans Failure Value)
    (store : Store) (past : Past Store Ans) : Prop :=
  Meets (fun now call => good.holds now → asks now call)
    (fun outcome now later => good.holds later → ∃ value, outcome = .ok value ∧ post value now later)
    code store past

variable {good : Assumption Store Ans} {asks : Past Store Ans → Call Store Op → Prop}
  {store : Store} {past : Past Store Ans}

theorem Fulfils.void {post : Value → Store → Past Store Ans → Prop}
    (code : Code Store Ans Failure Value) (bad : ¬good.holds past) :
    Fulfils good asks post code store past := by
  unfold Fulfils Meets
  generalize code store = program
  induction program generalizing past with
  | done result =>
      intro holds
      exact absurd holds bad
  | call op resume ih =>
      refine ⟨fun holds => absurd holds bad, fun answer => ih answer ?_⟩
      intro holds
      exact bad (good.earlier _ _ holds)

variable {code : Code Store Ans Failure Value}

theorem Fulfils.assume {post : Value → Store → Past Store Ans → Prop}
    (fulfils : good.holds past → Fulfils good asks post code store past) :
    Fulfils good asks post code store past := by
  by_cases holds : good.holds past
  · exact fulfils holds
  · exact .void code holds

theorem fulfils_pure {post : Value → Store → Past Store Ans → Prop} {value : Value}
    (ends : post value store past) :
    Fulfils good asks post (Pure.pure value : Code Store Ans Failure Value) store past :=
  fun _ => ⟨value, rfl, ends⟩

theorem fulfils_ok {post : Value → Store → Past Store Ans → Prop} {value : Value}
    (ends : post value store past) :
    Fulfils good asks post (ofExcept (.ok value) : Code Store Ans Failure Value) store past :=
  fun _ => ⟨value, rfl, ends⟩

theorem Fulfils.mono {post post' : Value → Store → Past Store Ans → Prop}
    (fulfils : Fulfils good asks post code store past)
    (weaken : ∀ value now later, good.holds later → post value now later →
      post' value now later) : Fulfils good asks post' code store past := by
  refine Meets.mono fulfils ?_
  intro outcome now later ends holds
  obtain ⟨value, same, held⟩ := ends holds
  exact ⟨value, same, weaken value now later holds held⟩

section Steps

variable {post : Other → Store → Past Store Ans → Prop}
  {middle : Value → Store → Past Store Ans → Prop}

theorem Fulfils.bind {next : Value → Code Store Ans Failure Other}
    (first : Fulfils good asks middle code store past)
    (rest : ∀ value now later, good.holds later → middle value now later →
      Fulfils good asks post (next value) now later) :
    Fulfils good asks post (code >>= next) store past := by
  unfold Fulfils
  rw [meets_bind]
  refine Meets.mono first ?_
  intro outcome now later ends
  by_cases holds : good.holds later
  · obtain ⟨value, rfl, held⟩ := ends holds
    exact rest value now later holds held
  · cases outcome with
    | ok value => exact Fulfils.void (next value) holds
    | error failure =>
        intro regained
        exact absurd regained holds

theorem Fulfils.callBind {op : Op} {next : Ans op → Code Store Ans Failure Other}
    (asked : good.holds past → asks past ⟨store, op⟩)
    (rest : ∀ answer, good.holds (past ++ [⟨⟨store, op⟩, answer⟩]) →
      Fulfils good asks post (next answer) store (past ++ [⟨⟨store, op⟩, answer⟩])) :
    Fulfils good asks post (call op >>= next) store past := by
  refine Meets.callBind asked ?_
  intro answer
  exact Fulfils.assume (rest answer)

theorem Fulfils.loadBind {next : Store → Code Store Ans Failure Other}
    (rest : Fulfils good asks post (next store) store past) :
    Fulfils good asks post (load >>= next) store past :=
  rest

theorem Fulfils.updateBind {change : Store → Store} {next : Unit → Code Store Ans Failure Other}
    (rest : Fulfils good asks post (next ()) (change store) past) :
    Fulfils good asks post (update change >>= next) store past :=
  rest

theorem Fulfils.okBind {value : Value} {next : Value → Code Store Ans Failure Other}
    (rest : Fulfils good asks post (next value) store past) :
    Fulfils good asks post (ofExcept (.ok value) >>= next) store past :=
  rest

theorem Fulfils.attempt (inner : Fulfils good asks middle code store past) :
    Fulfils good asks (fun outcome now later => ∃ value, outcome = .ok value ∧ middle value now later)
      (attempt code) store past := by
  unfold Fulfils
  rw [meets_attempt]
  refine Meets.mono inner ?_
  intro outcome now later ends holds
  exact ⟨outcome, rfl, ends holds⟩

theorem Fulfils.ensuringWith {cleanup : Except Failure Value → Code Store Ans Failure Unit}
    {post : Value → Store → Past Store Ans → Prop}
    (inner : Fulfils good asks middle code store past)
    (rest : ∀ value now later, good.holds later → middle value now later →
      Fulfils good asks (fun _ last final => post value last final) (cleanup (.ok value)) now
        later) : Fulfils good asks post (ensuringWith code cleanup) store past := by
  unfold Fulfils
  rw [meets_ensuringWith]
  refine Meets.mono inner ?_
  intro outcome now later ends
  by_cases holds : good.holds later
  · obtain ⟨value, rfl, held⟩ := ends holds
    refine Meets.mono (rest value now later holds held) ?_
    intro _ last final ended holding
    obtain ⟨_, _, reached⟩ := ended holding
    exact ⟨value, rfl, reached⟩
  · have unasked : Fulfils good asks (fun _ _ _ => False) (cleanup outcome) now later :=
      Fulfils.void _ holds
    refine Meets.mono unasked ?_
    intro _ last final ended holding
    obtain ⟨_, _, impossible⟩ := ended holding
    exact impossible.elim

theorem Fulfils.ensuring {cleanup : Code Store Ans Failure Unit}
    {post : Value → Store → Past Store Ans → Prop}
    (inner : Fulfils good asks middle code store past)
    (rest : ∀ value now later, good.holds later → middle value now later →
      Fulfils good asks (fun _ last final => post value last final) cleanup now later) :
    Fulfils good asks post (ensuring code cleanup) store past :=
  Fulfils.ensuringWith inner rest

end Steps

/-! ### Code under way -/

section Threads

variable {post : Value → Store → Past Store Ans → Prop} {code : Code Store Ans Failure Value}
  {thread : Thread (code store)}

theorem Fulfils.asked (fulfils : Fulfils good asks post code store [])
    (holds : good.holds thread.past) {call : Call Store Op}
    {resume : Ans call.op → Process Store Ans Failure Value}
    (next : thread.rest = .call call resume) : asks thread.past call :=
  thread.asked fulfils next holds

theorem Fulfils.ended (fulfils : Fulfils good asks post code store [])
    (holds : good.holds thread.past) {result : Except Failure Value × Store}
    (done : thread.rest = .done result) :
    ∃ value, result.1 = .ok value ∧ post value result.2 thread.past :=
  thread.ended fulfils done holds

end Threads

end Code

end Handoff.Effects
