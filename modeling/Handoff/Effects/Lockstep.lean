/-
Two runs of one piece of code in lockstep.

An environment that computes its answers drives code to its end.  Two runs from
different states of the environment are compared by a relation that holds
between the states again and again, at least where neither run has met an excuse.
`Locks` says that code ends and that its two runs agree; it is proved piece by
piece along the way the code is built.
-/

import Handoff.Effects.Code
import Handoff.Effects.Environment

namespace Handoff.Effects

section Drive

variable {Op : Type} {Ans : Op → Type} {Result Next State : Type}

namespace Program

/-- The result of a program in an environment that computes its answers, with the
last state, unless an operation is not answered. -/
def drive (respond : State → (op : Op) → Option (Ans op × State)) :
    State → Program Op Ans Result → Option (Result × State)
  | state, .done result => some (result, state)
  | state, .call op resume =>
      match respond state op with
      | none => none
      | some (answer, next) => drive respond next (resume answer)

variable {respond : State → (op : Op) → Option (Ans op × State)} {state last : State}

theorem drive_call {op : Op} {answer : Ans op} (resume : Ans op → Program Op Ans Result)
    (answered : respond state op = some (answer, last)) :
    drive respond state (.call op resume) = drive respond last (resume answer) := by
  rw [drive, answered]

theorem drive_bind (program : Program Op Ans Result) (next : Result → Program Op Ans Next) :
    drive respond state (program.bind next) =
      (drive respond state program).bind fun (result, last) => drive respond last (next result) := by
  induction program generalizing state with
  | done result => rfl
  | call op resume ih =>
      rw [call_bind, drive, drive]
      cases respond state op with
      | none => rfl
      | some both => exact ih both.1

theorem drive_invariant (holds : State → Prop)
    (kept : ∀ {state op answer next}, holds state → respond state op = some (answer, next) → holds next)
    {program : Program Op Ans Result} {result : Result} (here : holds state)
    (driven : drive respond state program = some (result, last)) : holds last := by
  induction program generalizing state with
  | done other =>
      cases driven
      exact here
  | call op resume ih =>
      cases answered : respond state op with
      | none =>
          rw [drive, answered] at driven
          contradiction
      | some both =>
          rw [drive_call resume answered] at driven
          exact ih both.1 (kept here answered) driven

theorem drive_run {program : Program Op Ans Result} {result : Result}
    (driven : drive respond state program = some (result, last)) :
    ∃ events, Run program events (.done result) ∧
      Attends (fun state op answer next => respond state op = some (answer, next)) state events
        last := by
  induction program generalizing state with
  | done other =>
      cases driven
      exact ⟨[], Run.stop _, .stop _⟩
  | call op resume ih =>
      rw [drive] at driven
      cases answered : respond state op with
      | none =>
          rw [answered] at driven
          contradiction
      | some both =>
          rw [answered] at driven
          obtain ⟨events, run, attends⟩ := ih both.1 driven
          exact ⟨_ :: events, Run.step both.1 run, .step answered attends⟩

/-- A program whose operations are answered in the same way on both sides ends with
the same result. -/
theorem drive_same {allowed : Op → Prop} {rel : State → State → Prop}
    (same : ∀ left right op, rel left right → allowed op → ∃ answer left' right',
      respond left op = some (answer, left') ∧ respond right op = some (answer, right') ∧
        rel left' right')
    {program : Program Op Ans Result} {past : History Op Ans} {post : Result → History Op Ans → Prop}
    (kept : Keeps (fun _ op => allowed op) post program past) {left right : State}
    (related : rel left right) :
    ∃ result left' right', drive respond left program = some (result, left') ∧
      drive respond right program = some (result, right') ∧ rel left' right' := by
  induction program generalizing past left right with
  | done result => exact ⟨result, left, right, rfl, rfl, related⟩
  | call op resume ih =>
      obtain ⟨answer, left', right', first, second, further⟩ := same left right op related kept.1
      rw [drive_call resume first, drive_call resume second]
      exact ih answer (kept.2 answer) further

end Program

end Drive

/-! ### Comparing two runs of code -/

/-- `fits` are the states from which code ends.  A run is `lost` when its state is, and
stays so however the state grows; a `fatal` failure is one that no code catches. -/
structure Comparison (State Failure : Type) where
  fits : State → Prop
  grows : State → State → Prop
  aligned : State → State → Prop
  lost : State → Prop
  fatal : Failure → Prop
  grows_refl : ∀ state, grows state state
  grows_trans : ∀ {first second third}, grows first second → grows second third → grows first third
  lost_grows : ∀ {first second}, grows first second → lost first → lost second

namespace Code

variable {Store Op Failure Value Other State : Type} {Ans : Op → Type}
  {respond : State → (call : Call Store Op) → Option (CallAns Store Ans call × State)}
  {compare : Comparison State Failure}

def Excused (compare : Comparison State Failure) (outcome : Except Failure Value) (state : State) :
    Prop :=
  compare.lost state ∨ ∃ failure, outcome = .error failure ∧ compare.fatal failure

/-- Code ends from every state that fits, and from states related by `pre` its two
runs have the same outcome and aligned states, related by `post` if they succeed. -/
structure Locks
    (respond : State → (call : Call Store Op) → Option (CallAns Store Ans call × State))
    (compare : Comparison State Failure) (pre post : State → State → Prop)
    (code : Code Store Ans Failure Value) : Prop where
  ends : ∀ store state, compare.fits state → ∃ result last,
    (code store).drive respond state = some (result, last) ∧ compare.grows state last ∧
      compare.fits last
  agrees : ∀ store left right, pre left right → compare.fits left → compare.fits right →
    ∀ {first second left' right'}, (code store).drive respond left = some (first, left') →
      (code store).drive respond right = some (second, right') →
        Excused compare first.1 left' ∨ Excused compare second.1 right' ∨
          first = second ∧ compare.aligned left' right' ∧
            ∀ value, first.1 = .ok value → post left' right'

variable {pre middle post : State → State → Prop}

theorem locks_ofExcept (outcome : Except Failure Value)
    (weaker : ∀ left right, pre left right → compare.aligned left right) :
    Locks respond compare pre pre (ofExcept outcome) := by
  refine ⟨?_, ?_⟩
  · intro store state fits
    exact ⟨_, state, rfl, compare.grows_refl state, fits⟩
  · intro store left right related _ _ first second left' right' one two
    cases one
    cases two
    exact Or.inr (Or.inr ⟨rfl, weaker _ _ related, fun _ _ => related⟩)

theorem locks_call {op : Op}
    (answers : ∀ store state, compare.fits state → ∃ answer last,
      respond state ⟨store, op⟩ = some (answer, last) ∧ compare.grows state last ∧
        compare.fits last)
    (same : ∀ store left right, pre left right → ∃ answer left' right',
      respond left ⟨store, op⟩ = some (answer, left') ∧
        respond right ⟨store, op⟩ = some (answer, right') ∧ post left' right')
    (weaker : ∀ left right, post left right → compare.aligned left right) :
    Locks respond compare pre post (call op) := by
  refine ⟨?_, ?_⟩
  · intro store state fits
    obtain ⟨answer, last, answered, grows, fits'⟩ := answers store state fits
    exact ⟨_, last, Program.drive_call _ answered, grows, fits'⟩
  · intro store left right related _ _ first second left' right' one two
    obtain ⟨answer, next, next', answered, answered', further⟩ := same store left right related
    cases (Program.drive_call _ answered).symm.trans one
    cases (Program.drive_call _ answered').symm.trans two
    exact Or.inr (Or.inr ⟨rfl, weaker _ _ further, fun _ _ => further⟩)

theorem drive_bind (code : Code Store Ans Failure Value)
    (next : Value → Code Store Ans Failure Other) (store : Store) (state : State) :
    ((code >>= next) store).drive respond state =
      ((code store).drive respond state).bind fun (result, last) =>
        match result with
        | (.ok value, now) => (next value now).drive respond last
        | (.error failure, now) => some ((.error failure, now), last) := by
  change ((code store).bind _).drive respond state = _
  rw [Program.drive_bind]
  cases (code store).drive respond state with
  | none => rfl
  | some both =>
      obtain ⟨⟨outcome, now⟩, last⟩ := both
      cases outcome <;> rfl

theorem Excused.later {outcome : Except Failure Value} {other : Except Failure Other}
    {state last : State} (excused : Excused compare outcome state) (grows : compare.grows state last)
    (kept : ∀ failure, outcome = .error failure → other = .error failure) :
    Excused compare other last := by
  rcases excused with lost | ⟨failure, failed, fatal⟩
  · exact Or.inl (compare.lost_grows grows lost)
  · exact Or.inr ⟨failure, kept failure failed, fatal⟩

namespace Locks

variable {code : Code Store Ans Failure Value} {next : Value → Code Store Ans Failure Other}

theorem weaken {pre' post' : State → State → Prop} (locks : Locks respond compare pre post code)
    (stronger : ∀ left right, pre' left right → pre left right)
    (weaker : ∀ left right, post left right → post' left right) :
    Locks respond compare pre' post' code := by
  refine ⟨locks.ends, ?_⟩
  intro store left right related fits fits' first second left' right' one two
  rcases locks.agrees store left right (stronger _ _ related) fits fits' one two with
    lost | lost | ⟨same, aligned, holds⟩
  · exact Or.inl lost
  · exact Or.inr (Or.inl lost)
  · exact Or.inr (Or.inr ⟨same, aligned, fun value ok => weaker _ _ (holds value ok)⟩)

theorem split {store : Store} {state last : State} {result : Except Failure Other × Store}
    (locks : Locks respond compare pre middle code)
    (rest : ∀ value, Locks respond compare middle post (next value)) (fits : compare.fits state)
    (driven : ((code >>= next) store).drive respond state = some (result, last)) :
    ∃ outcome now between, (code store).drive respond state = some ((outcome, now), between) ∧
      compare.fits between ∧ compare.grows between last ∧
      (∀ failure, outcome = .error failure → result = (.error failure, now) ∧ last = between) ∧
      ∀ value, outcome = .ok value →
        (next value now).drive respond between = some (result, last) := by
  obtain ⟨⟨outcome, now⟩, between, first, _, fits'⟩ := locks.ends store state fits
  rw [drive_bind, first, Option.bind_some] at driven
  refine ⟨outcome, now, between, first, fits', ?_⟩
  cases outcome with
  | error failure =>
      cases driven
      refine ⟨compare.grows_refl _, ?_, nofun⟩
      intro other same
      cases same
      exact ⟨rfl, rfl⟩
  | ok value =>
      obtain ⟨_, _, second, grows, _⟩ := (rest value).ends now between fits'
      cases second.symm.trans driven
      refine ⟨grows, nofun, ?_⟩
      intro other same
      cases same
      exact driven

theorem bind (locks : Locks respond compare pre middle code)
    (rest : ∀ value, Locks respond compare middle post (next value)) :
    Locks respond compare pre post (code >>= next) := by
  refine ⟨?_, ?_⟩
  · intro store state fits
    obtain ⟨⟨outcome, now⟩, between, first, grows, fits'⟩ := locks.ends store state fits
    rw [drive_bind, first, Option.bind_some]
    cases outcome with
    | error failure => exact ⟨_, between, rfl, grows, fits'⟩
    | ok value =>
        obtain ⟨result, last, second, more, fits''⟩ := (rest value).ends now between fits'
        exact ⟨result, last, second, compare.grows_trans grows more, fits''⟩
  · intro store left right related fits fits' first second left' right' one two
    obtain ⟨outcome, now, between, done, fitsBetween, grows, failed, went⟩ :=
      locks.split rest fits one
    obtain ⟨outcome', now', between', done', fitsBetween', grows', failed', went'⟩ :=
      locks.split rest fits' two
    rcases locks.agrees store left right related fits fits' done done' with
      excused | excused | ⟨same, aligned, holds⟩
    · exact Or.inl (excused.later grows fun failure error => (failed failure error).1 ▸ rfl)
    · exact Or.inr (Or.inl
        (excused.later grows' fun failure error => (failed' failure error).1 ▸ rfl))
    · cases same
      cases outcome with
      | error failure =>
          obtain ⟨rfl, rfl⟩ := failed failure rfl
          obtain ⟨rfl, rfl⟩ := failed' failure rfl
          exact Or.inr (Or.inr ⟨rfl, aligned, nofun⟩)
      | ok value =>
          exact (rest value).agrees now between between' (holds value rfl) fitsBetween fitsBetween'
            (went value rfl) (went' value rfl)

end Locks

theorem locks_ite {condition : Prop} [Decidable condition]
    {first second : Code Store Ans Failure Value} (yes : Locks respond compare pre post first)
    (no : Locks respond compare pre post second) :
    Locks respond compare pre post (if condition then first else second) := by
  by_cases holds : condition
  · rw [if_pos holds]
    exact yes
  · rw [if_neg holds]
    exact no

section Same

variable {allowed : Op → Bool} {code : Code Store Ans Failure Value}

theorem Issues.drive_same (issues : Issues (fun _ => True) allowed code)
    (same : ∀ left right (call : Call Store Op), pre left right → allowed call.op = true →
      ∃ answer left' right', respond left call = some (answer, left') ∧
        respond right call = some (answer, right') ∧ pre left' right')
    (store : Store) {left right : State} (related : pre left right) :
    ∃ result left' right', (code store).drive respond left = some (result, left') ∧
      (code store).drive respond right = some (result, right') ∧ pre left' right' := by
  have kept : (code store).Keeps (fun _ call => True ∧ allowed call.op = true) (fun _ _ => True) [] :=
    Program.Keeps.mono (issues store [] trivial) (fun _ _ asked => asked) (fun _ _ _ => trivial)
  refine Program.drive_same ?_ kept related
  intro left right call related permitted
  exact same left right call related permitted.2

theorem Issues.locks (issues : Issues (fun _ => True) allowed code)
    (answers : ∀ state (call : Call Store Op), compare.fits state → allowed call.op = true →
      ∃ answer last, respond state call = some (answer, last) ∧ compare.grows state last ∧
        compare.fits last)
    (same : ∀ left right (call : Call Store Op), pre left right → allowed call.op = true →
      ∃ answer left' right', respond left call = some (answer, left') ∧
        respond right call = some (answer, right') ∧ pre left' right')
    (weaker : ∀ left right, pre left right → compare.aligned left right) :
    Locks respond compare pre pre code := by
  refine ⟨?_, ?_⟩
  · -- one run is two runs that do not differ
    intro store state fits
    have unary (left right : State) (call : Call Store Op)
        (related : left = right ∧ compare.grows state left ∧ compare.fits left)
        (permitted : allowed call.op = true) : ∃ answer left' right',
          respond left call = some (answer, left') ∧ respond right call = some (answer, right') ∧
            left' = right' ∧ compare.grows state left' ∧ compare.fits left' := by
      obtain ⟨rfl, grows, fits⟩ := related
      obtain ⟨answer, next, answered, more, fits'⟩ := answers left call fits permitted
      exact ⟨answer, next, next, answered, answered, rfl, compare.grows_trans grows more, fits'⟩
    obtain ⟨result, last, _, driven, _, rfl, grows, fits'⟩ :=
      issues.drive_same unary store ⟨rfl, compare.grows_refl state, fits⟩
    exact ⟨result, last, driven, grows, fits'⟩
  · intro store left right related _ _ first second left' right' one two
    obtain ⟨result, _, _, one', two', further⟩ := issues.drive_same same store related
    cases one.symm.trans one'
    cases two.symm.trans two'
    exact Or.inr (Or.inr ⟨rfl, weaker _ _ further, fun _ _ => further⟩)

end Same

/-- A cleanup is not excused: its outcome is not seen. -/
theorem Locks.ensuringWith {code : Code Store Ans Failure Value}
    {cleanup : Except Failure Value → Code Store Ans Failure Unit}
    (locks : Locks respond compare pre post code)
    (ends : ∀ outcome store state, compare.fits state → ∃ result last,
      (cleanup outcome store).drive respond state = some (result, last) ∧ compare.grows state last ∧
        compare.fits last)
    (same : ∀ outcome store left right, compare.aligned left right → ∃ result left' right',
      (cleanup outcome store).drive respond left = some (result, left') ∧
        (cleanup outcome store).drive respond right = some (result, right') ∧
          compare.aligned left' right') :
    Locks respond compare pre compare.aligned (ensuringWith code cleanup) := by
  have unfolds (store : Store) (state : State) {outcome : Except Failure Value} {now : Store}
      {between : State} (first : (code store).drive respond state = some ((outcome, now), between)) :
      (Code.ensuringWith code cleanup store).drive respond state =
        ((cleanup outcome now).drive respond between).bind fun (result, last) =>
          some ((outcome, result.2), last) := by
    change ((code store).bind _).drive respond state = _
    rw [Program.drive_bind, first, Option.bind_some]
    exact Program.drive_bind _ _
  refine ⟨?_, ?_⟩
  · intro store state fits
    obtain ⟨⟨outcome, now⟩, between, first, grows, fits'⟩ := locks.ends store state fits
    obtain ⟨result, last, second, more, fits''⟩ := ends outcome now between fits'
    rw [unfolds store state first, second]
    exact ⟨_, last, rfl, compare.grows_trans grows more, fits''⟩
  · intro store left right related fits fits' first second left' right' one two
    obtain ⟨⟨outcome, now⟩, between, done, _, fitsBetween⟩ := locks.ends store left fits
    obtain ⟨⟨outcome', now'⟩, between', done', _, fitsBetween'⟩ := locks.ends store right fits'
    obtain ⟨result, last, cleaned, grows, _⟩ := ends outcome now between fitsBetween
    obtain ⟨result', last', cleaned', grows', _⟩ := ends outcome' now' between' fitsBetween'
    rw [unfolds store left done, cleaned] at one
    rw [unfolds store right done', cleaned'] at two
    cases one
    cases two
    rcases locks.agrees store left right related fits fits' done done' with
      excused | excused | ⟨agree, aligned, _⟩
    · exact Or.inl (excused.later grows fun _ error => error)
    · exact Or.inr (Or.inl (excused.later grows' fun _ error => error))
    · cases agree
      obtain ⟨both, _, _, one, two, aligned⟩ := same outcome now between between' aligned
      cases one.symm.trans cleaned
      cases two.symm.trans cleaned'
      exact Or.inr (Or.inr ⟨rfl, aligned, fun _ _ => aligned⟩)

theorem bind_assoc {Last : Type} (code : Code Store Ans Failure Value)
    (next : Value → Code Store Ans Failure Other) (rest : Other → Code Store Ans Failure Last) :
    ((code >>= next) >>= rest) = (code >>= fun value => next value >>= rest) := by
  have inner (program : Process Store Ans Failure Value) :
      ((program.bind fun
        | (.ok value, now) => next value now
        | (.error failure, now) => .done (.error failure, now)).bind fun
        | (.ok value, now) => rest value now
        | (.error failure, now) => .done (.error failure, now)) = program.bind fun
        | (.ok value, now) => (next value >>= rest) now
        | (.error failure, now) => .done (.error failure, now) := by
    induction program with
    | done result =>
        obtain ⟨outcome, now⟩ := result
        cases outcome <;> rfl
    | call op resume ih => exact congrArg (Program.call op) (funext ih)
  exact funext fun store => inner (code store)

theorem Locks.regroup {Last : Type} {code : Code Store Ans Failure Value}
    {next : Value → Code Store Ans Failure Other} {rest : Other → Code Store Ans Failure Last}
    (locks : Locks respond compare pre post ((code >>= next) >>= rest)) :
    Locks respond compare pre post (code >>= fun value => next value >>= rest) := by
  rw [← bind_assoc]
  exact locks

/-- Where nothing is fatal the outcome may be taken as a value. -/
theorem Locks.attempt {code : Code Store Ans Failure Value}
    (locks : Locks respond compare pre post code) (harmless : ∀ failure, ¬compare.fatal failure) :
    Locks respond compare pre compare.aligned (attempt code) := by
  have unfolds (store : Store) (state : State) {outcome : Except Failure Value} {now : Store}
      {last : State} (driven : (code store).drive respond state = some ((outcome, now), last)) :
      (Code.attempt code store).drive respond state = some ((.ok outcome, now), last) := by
    change ((code store).bind _).drive respond state = _
    rw [Program.drive_bind, driven]
    rfl
  refine ⟨?_, ?_⟩
  · intro store state fits
    obtain ⟨⟨outcome, now⟩, last, driven, grows, fits'⟩ := locks.ends store state fits
    exact ⟨_, last, unfolds store state driven, grows, fits'⟩
  · intro store left right related fits fits' first second left' right' one two
    obtain ⟨⟨outcome, now⟩, last, driven, _, _⟩ := locks.ends store left fits
    obtain ⟨⟨outcome', now'⟩, last', driven', _, _⟩ := locks.ends store right fits'
    cases (unfolds store left driven).symm.trans one
    cases (unfolds store right driven').symm.trans two
    rcases locks.agrees store left right related fits fits' driven driven' with
      (lost | ⟨failure, _, fatal⟩) | (lost | ⟨failure, _, fatal⟩) | ⟨same, aligned, _⟩
    · exact Or.inl (Or.inl lost)
    · exact absurd fatal (harmless failure)
    · exact Or.inr (Or.inl (Or.inl lost))
    · exact absurd fatal (harmless failure)
    · cases same
      exact Or.inr (Or.inr ⟨rfl, aligned, fun _ _ => aligned⟩)

end Code

end Handoff.Effects
