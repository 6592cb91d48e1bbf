/-
Stateful, fallible code over interactive programs.

`Code` threads a mutable store through a program and carries a failure beside
the store, so what a callee wrote before it failed is still there for its
caller.  Every operation is labelled with the store at the moment it is issued:
a history then shows the variables of the code as well as its effects.

The rules at the end of the file compute, for each way of building code, what
has to be proved of its parts.  They are equivalences and they are `simp`
lemmas: a specification of straight-line code is unfolded to a statement about
answers and stores, and only loops need an invariant.
-/

import Handoff.Effects.Program

namespace Handoff.Effects

/-- An operation labelled with the store of the code that issues it. -/
structure Call (Store Op : Type) where
  store : Store
  op : Op
  deriving DecidableEq

abbrev CallAns {Op : Type} (Store : Type) (Ans : Op → Type) (call : Call Store Op) : Type :=
  Ans call.op

/-- The history of a piece of code, stores included. -/
abbrev Past (Store : Type) {Op : Type} (Ans : Op → Type) : Type :=
  History (Call Store Op) (CallAns Store Ans)

/-- Code as a process: a program whose result is the outcome and the last store. -/
abbrev Process (Store : Type) {Op : Type} (Ans : Op → Type) (Failure Value : Type) : Type :=
  Program (Call Store Op) (CallAns Store Ans) (Except Failure Value × Store)

def Code (Store : Type) {Op : Type} (Ans : Op → Type) (Failure Value : Type) : Type :=
  Store → Process Store Ans Failure Value

variable {Store Op Failure Value Other : Type} {Ans : Op → Type}

namespace Code

def pure (value : Value) : Code Store Ans Failure Value :=
  fun store => .done (.ok value, store)

def fail (failure : Failure) : Code Store Ans Failure Value :=
  fun store => .done (.error failure, store)

/-- The first failure ends the sequence; the store it left is kept. -/
def bind (code : Code Store Ans Failure Value)
    (next : Value → Code Store Ans Failure Other) : Code Store Ans Failure Other :=
  fun store => (code store).bind fun
    | (.ok value, now) => next value now
    | (.error failure, now) => .done (.error failure, now)

instance : Monad (Code Store Ans Failure) where
  pure := Code.pure
  bind := Code.bind

def call (op : Op) : Code Store Ans Failure (Ans op) :=
  fun store => .call ⟨store, op⟩ fun answer => .done (.ok answer, store)

def load : Code Store Ans Failure Store :=
  fun store => .done (.ok store, store)

def update (change : Store → Store) : Code Store Ans Failure Unit :=
  fun store => .done (.ok (), change store)

/-- The outcome of `code` as a value, for a caller that inspects it. -/
def attempt (code : Code Store Ans Failure Value) :
    Code Store Ans Failure (Except Failure Value) :=
  fun store => (code store).bind fun (outcome, now) => .done (.ok outcome, now)

/-- Pass an outcome on: the value continues, the failure ends the code. -/
def ofExcept (outcome : Except Failure Value) : Code Store Ans Failure Value :=
  fun store => .done (outcome, store)

/-- Run a cleanup that sees the outcome of `code`, and then leave with that outcome. -/
def ensuringWith (code : Code Store Ans Failure Value)
    (cleanup : Except Failure Value → Code Store Ans Failure Unit) :
    Code Store Ans Failure Value :=
  fun store => (code store).bind fun (outcome, now) =>
    (cleanup outcome now).bind fun (_, last) => .done (outcome, last)

/-- Run `cleanup` on every way out of `code`.  Nesting these in the order of
declaration drops in reverse order. -/
def ensuring (code : Code Store Ans Failure Value) (cleanup : Code Store Ans Failure Unit) :
    Code Store Ans Failure Value :=
  ensuringWith code fun _ => cleanup

/-! ### What a specification asks of each construct -/

/-- `code`, started from `store` after `past`, meets `asks` at each operation
and ends with `post`. -/
def Meets (asks : Past Store Ans → Call Store Op → Prop)
    (post : Except Failure Value → Store → Past Store Ans → Prop)
    (code : Code Store Ans Failure Value) (store : Store) (past : Past Store Ans) : Prop :=
  (code store).Keeps asks (fun result now => post result.1 result.2 now) past

variable {asks : Past Store Ans → Call Store Op → Prop} {store : Store} {past : Past Store Ans}
  {post : Except Failure Value → Store → Past Store Ans → Prop}

@[simp]
theorem meets_pure (value : Value) :
    Meets asks post (Pure.pure value) store past ↔ post (.ok value) store past :=
  Iff.rfl

@[simp]
theorem meets_fail (failure : Failure) :
    Meets asks post (fail failure) store past ↔ post (.error failure) store past :=
  Iff.rfl

@[simp]
theorem meets_bind {post : Except Failure Other → Store → Past Store Ans → Prop}
    (code : Code Store Ans Failure Value) (next : Value → Code Store Ans Failure Other) :
    Meets asks post (code >>= next) store past ↔
      Meets asks (fun outcome now later =>
        match outcome with
        | .ok value => Meets asks post (next value) now later
        | .error failure => post (.error failure) now later) code store past := by
  unfold Meets
  change Program.Keeps _ _ (Program.bind _ _) _ ↔ _
  rw [Program.keeps_bind]
  constructor <;>
  · intro kept
    refine kept.mono (fun _ _ met => met) ?_
    rintro ⟨outcome, now⟩ later met
    cases outcome <;> exact met

@[simp]
theorem meets_call {post : Except Failure (Ans op) → Store → Past Store Ans → Prop} :
    Meets asks post (call op) store past ↔
      asks past ⟨store, op⟩ ∧
        ∀ answer, post (.ok answer) store (past ++ [⟨⟨store, op⟩, answer⟩]) :=
  Iff.rfl

@[simp]
theorem meets_load {post : Except Failure Store → Store → Past Store Ans → Prop} :
    Meets asks post load store past ↔ post (.ok store) store past :=
  Iff.rfl

@[simp]
theorem meets_update {post : Except Failure Unit → Store → Past Store Ans → Prop}
    (change : Store → Store) :
    Meets asks post (update change) store past ↔ post (.ok ()) (change store) past :=
  Iff.rfl

@[simp]
theorem meets_ofExcept (outcome : Except Failure Value) :
    Meets asks post (ofExcept outcome) store past ↔ post outcome store past :=
  Iff.rfl

@[simp]
theorem meets_attempt {post : Except Failure (Except Failure Value) → Store → Past Store Ans → Prop}
    (code : Code Store Ans Failure Value) :
    Meets asks post (attempt code) store past ↔
      Meets asks (fun outcome now later => post (.ok outcome) now later) code store past := by
  unfold Meets attempt
  rw [Program.keeps_bind]
  rfl

@[simp]
theorem meets_ensuringWith (code : Code Store Ans Failure Value)
    (cleanup : Except Failure Value → Code Store Ans Failure Unit) :
    Meets asks post (ensuringWith code cleanup) store past ↔
      Meets asks (fun outcome now later =>
        Meets asks (fun _ last final => post outcome last final) (cleanup outcome) now later)
        code store past := by
  unfold Meets ensuringWith
  rw [Program.keeps_bind]
  constructor <;>
  · intro kept
    refine kept.mono (fun _ _ met => met) ?_
    rintro ⟨outcome, now⟩ later met
    simp only [Program.keeps_bind, Program.keeps_done] at met ⊢
    exact met

@[simp]
theorem meets_ensuring (code : Code Store Ans Failure Value)
    (cleanup : Code Store Ans Failure Unit) :
    Meets asks post (ensuring code cleanup) store past ↔
      Meets asks (fun outcome now later =>
        Meets asks (fun _ last final => post outcome last final) cleanup now later)
        code store past :=
  meets_ensuringWith code fun _ => cleanup

@[simp]
theorem meets_ite {condition : Prop} [Decidable condition]
    (first second : Code Store Ans Failure Value) :
    Meets asks post (if condition then first else second) store past ↔
      (condition → Meets asks post first store past) ∧
        (¬condition → Meets asks post second store past) := by
  by_cases holds : condition
  · rw [if_pos holds]
    exact ⟨fun met => ⟨fun _ => met, fun fails => absurd holds fails⟩, fun met => met.1 holds⟩
  · rw [if_neg holds]
    exact ⟨fun met => ⟨fun other => absurd other holds, fun _ => met⟩, fun met => met.2 holds⟩

theorem Meets.mono {post' : Except Failure Value → Store → Past Store Ans → Prop}
    {code : Code Store Ans Failure Value} (met : Meets asks post code store past)
    (weaken : ∀ outcome now later, post outcome now later → post' outcome now later) :
    Meets asks post' code store past :=
  Program.Keeps.mono met (fun _ _ asked => asked)
    (fun result now held => weaken result.1 result.2 now held)

theorem meets_run (code : Code Store Ans Failure Value) (store : Store) (past : Past Store Ans) :
    Meets (fun _ _ => True) (fun outcome now later =>
      ∃ events, later = past ++ events ∧ (code store).Run events (.done (outcome, now)))
      code store past :=
  (Program.Keeps.traced (Program.keeps_trivial (code store) past)).mono
    (fun _ _ asked => asked) (fun _ _ traced => traced.2)

theorem Meets.ended {code : Code Store Ans Failure Value} (met : Meets asks post code store past)
    {events : Past Store Ans} {outcome : Except Failure Value} {last : Store}
    (run : (code store).Run events (.done (outcome, last))) :
    post outcome last (past ++ events) :=
  run.keeps met

variable {next : Value → Code Store Ans Failure Other}

theorem run_bind {code : Code Store Ans Failure Value} {events : Past Store Ans} {value : Value}
    {now : Store} (run : (code store).Run events (.done (.ok value, now))) :
    ((code >>= next) store).Run events (next value now) :=
  Program.Run.bind run _

theorem run_callBind {next : Ans op → Code Store Ans Failure Other} (answer : Ans op)
    {events : Past Store Ans} {rest : Process Store Ans Failure Other}
    (tail : (next answer store).Run events rest) :
    ((call op >>= next) store).Run (⟨⟨store, op⟩, answer⟩ :: events) rest := by
  change Program.Run (.call ⟨store, op⟩ fun answer => next answer store) _ rest
  apply Program.Run.step
  exact tail

/-! ### The same rules one step at a time -/

section Steps

variable {post : Except Failure Other → Store → Past Store Ans → Prop}

theorem Meets.bind {middle : Except Failure Value → Store → Past Store Ans → Prop}
    {code : Code Store Ans Failure Value} (first : Meets asks middle code store past)
    (rest : ∀ value now later, middle (.ok value) now later → Meets asks post (next value) now later)
    (failed : ∀ failure now later, middle (.error failure) now later →
      post (.error failure) now later) : Meets asks post (code >>= next) store past := by
  rw [meets_bind]
  apply first.mono
  intro outcome now later held
  cases outcome with
  | ok value => exact rest value now later held
  | error failure => exact failed failure now later held

theorem Meets.callBind {next : Ans op → Code Store Ans Failure Other}
    (asked : asks past ⟨store, op⟩)
    (rest : ∀ answer, Meets asks post (next answer) store (past ++ [⟨⟨store, op⟩, answer⟩])) :
    Meets asks post (call op >>= next) store past := by
  rw [meets_bind, meets_call]
  exact ⟨asked, rest⟩

theorem Meets.ofExceptBind {outcome : Except Failure Value}
    (rest : ∀ value, outcome = .ok value → Meets asks post (next value) store past)
    (failed : ∀ failure, outcome = .error failure → post (.error failure) store past) :
    Meets asks post (ofExcept outcome >>= next) store past := by
  rw [meets_bind, meets_ofExcept]
  cases outcome with
  | ok value => exact rest value rfl
  | error failure => exact failed failure rfl

theorem Meets.attemptBind {middle : Except Failure Value → Store → Past Store Ans → Prop}
    {code : Code Store Ans Failure Value}
    {next : Except Failure Value → Code Store Ans Failure Other}
    (first : Meets asks middle code store past)
    (rest : ∀ outcome now later, middle outcome now later →
      Meets asks post (next outcome) now later) :
    Meets asks post (attempt code >>= next) store past := by
  rw [meets_bind, meets_attempt]
  exact first.mono rest

theorem Meets.loadBind {next : Store → Code Store Ans Failure Other}
    (rest : Meets asks post (next store) store past) :
    Meets asks post (load >>= next) store past :=
  rest

theorem Meets.updateBind {change : Store → Store} {next : Unit → Code Store Ans Failure Other}
    (rest : Meets asks post (next ()) (change store) past) :
    Meets asks post (update change >>= next) store past :=
  rest

end Steps

/-! ### Code that keeps to some operations and leaves the store alone -/

def Within (allowed : Op → Bool) (code : Code Store Ans Failure Value) : Prop :=
  ∀ store past, Meets (fun _ call => call.store = store ∧ allowed call.op = true)
    (fun _ now _ => now = store) code store past

variable {op : Op}

section Within

variable {allowed : Op → Bool} {code : Code Store Ans Failure Value}

theorem within_call (permitted : allowed op = true) :
    Within allowed (call op : Code Store Ans Failure (Ans op)) := by
  intro store past
  exact ⟨⟨rfl, permitted⟩, fun _ => rfl⟩

theorem within_ofExcept (outcome : Except Failure Value) :
    Within allowed (ofExcept outcome : Code Store Ans Failure Value) := by
  intro store past
  rfl

theorem within_pure (value : Value) :
    Within allowed (Pure.pure value : Code Store Ans Failure Value) :=
  within_ofExcept (.ok value)

theorem within_fail (failure : Failure) :
    Within allowed (fail failure : Code Store Ans Failure Value) :=
  within_ofExcept (.error failure)

theorem within_bind (first : Within allowed code) (rest : ∀ value, Within allowed (next value)) :
    Within allowed (code >>= next) := by
  intro store past
  refine Meets.bind (first store past) ?_ (fun _ _ _ same => same)
  intro value now later same
  rw [same]
  exact rest value store later

theorem within_loadBind {next : Store → Code Store Ans Failure Other}
    (rest : ∀ store, Within allowed (next store)) : Within allowed (load >>= next) := by
  intro store past
  exact Meets.loadBind (rest store store past)

theorem within_tried {outcome : Ans op → Except Failure Value} (permitted : allowed op = true)
    (rest : ∀ value, Within allowed (next value)) :
    Within allowed (do
      let value ← ofExcept (outcome (← call op))
      next value) :=
  within_bind (within_call permitted) fun _ => within_bind (within_ofExcept _) rest

theorem within_attempt (inner : Within allowed code) : Within allowed (attempt code) := by
  intro store past
  rw [meets_attempt]
  exact inner store past

theorem within_ite {condition : Prop} [Decidable condition] {other : Code Store Ans Failure Value}
    (yes : Within allowed code) (no : Within allowed other) :
    Within allowed (if condition then code else other) := by
  intro store past
  rw [meets_ite]
  exact ⟨fun _ => yes store past, fun _ => no store past⟩

theorem Within.mono {other : Op → Bool} (within : Within allowed code)
    (wider : ∀ op, allowed op = true → other op = true) : Within other code := by
  intro store past
  refine Program.Keeps.mono (within store past) ?_ (fun _ _ same => same)
  rintro now call ⟨same, permitted⟩
  exact ⟨same, wider call.op permitted⟩

/-- Such code meets any specification that allows its operations under an
invariant which they preserve. -/
theorem Within.meets (within : Within allowed code) (inv : Past Store Ans → Prop)
    (start : inv past) (easy : ∀ now op, inv now → allowed op = true → asks now ⟨store, op⟩)
    (each : ∀ now op answer, inv now → allowed op = true →
      inv (now ++ [⟨⟨store, op⟩, answer⟩])) :
    Meets asks (fun _ now later => now = store ∧ inv later) code store past := by
  have kept := Program.Keeps.invariant (within store past) inv start (by
    rintro now ⟨other, op⟩ answer held ⟨same, permitted⟩
    change other = store at same
    subst same
    exact each now op answer held permitted)
  refine Program.Keeps.mono kept ?_ ?_
  · rintro now ⟨other, op⟩ ⟨held, same, permitted⟩
    change other = store at same
    subst same
    exact easy now op held permitted
  · rintro result now ⟨held, same⟩
    exact ⟨same, held⟩

end Within

/-! ### Code that keeps to some operations and to some stores -/

def Issues (steady : Store → Prop) (allowed : Op → Bool) (code : Code Store Ans Failure Value) :
    Prop :=
  ∀ store past, steady store → Meets (fun _ call => steady call.store ∧ allowed call.op = true)
    (fun _ now _ => steady now) code store past

section Issues

variable {steady : Store → Prop} {allowed : Op → Bool} {code : Code Store Ans Failure Value}

theorem Within.issues (within : Within allowed code) : Issues steady allowed code := by
  intro store past here
  refine Program.Keeps.mono (within store past) ?_ ?_
  · rintro now call ⟨same, permitted⟩
    exact ⟨same ▸ here, permitted⟩
  · rintro result now same
    exact same ▸ here

theorem Issues.mono {other : Op → Bool} (issues : Issues steady allowed code)
    (wider : ∀ op, allowed op = true → other op = true) : Issues steady other code := by
  intro store past here
  refine Program.Keeps.mono (issues store past here) ?_ (fun _ _ kept => kept)
  rintro now call ⟨calm, permitted⟩
  exact ⟨calm, wider call.op permitted⟩

theorem issues_bind (first : Issues steady allowed code)
    (rest : ∀ value, Issues steady allowed (next value)) :
    Issues steady allowed (code >>= next) := by
  intro store past here
  refine Meets.bind (first store past here) ?_ (fun _ _ _ kept => kept)
  intro value now later kept
  exact rest value now later kept

theorem issues_call (permitted : allowed op = true) :
    Issues steady allowed (call op : Code Store Ans Failure (Ans op)) :=
  (within_call permitted).issues

theorem issues_ofExcept (outcome : Except Failure Value) :
    Issues steady allowed (ofExcept outcome : Code Store Ans Failure Value) :=
  (within_ofExcept outcome).issues

theorem issues_pure (value : Value) :
    Issues steady allowed (Pure.pure value : Code Store Ans Failure Value) :=
  issues_ofExcept (.ok value)

theorem issues_callBind {next : Ans op → Code Store Ans Failure Other}
    (permitted : allowed op = true) (rest : ∀ answer, Issues steady allowed (next answer)) :
    Issues steady allowed (call op >>= next) :=
  issues_bind (issues_call permitted) rest

theorem issues_tried {outcome : Ans op → Except Failure Value} (permitted : allowed op = true)
    (rest : ∀ value, Issues steady allowed (next value)) :
    Issues steady allowed (do
      let value ← ofExcept (outcome (← call op))
      next value) :=
  issues_callBind permitted fun _ => issues_bind (issues_ofExcept _) rest

theorem issues_loadBind {next : Store → Code Store Ans Failure Other}
    (rest : ∀ store, steady store → Issues steady allowed (next store)) :
    Issues steady allowed (load >>= next) := by
  intro store past here
  exact Meets.loadBind (rest store here store past here)

theorem issues_update {change : Store → Store}
    (keeps : ∀ store, steady store → steady (change store)) :
    Issues steady allowed (update change : Code Store Ans Failure Unit) := by
  intro store past here
  exact keeps store here

theorem issues_attempt (inner : Issues steady allowed code) :
    Issues steady allowed (attempt code) := by
  intro store past here
  rw [meets_attempt]
  exact inner store past here

theorem issues_ensuringWith {cleanup : Except Failure Value → Code Store Ans Failure Unit}
    (inner : Issues steady allowed code)
    (cleans : ∀ outcome, Issues steady allowed (cleanup outcome)) :
    Issues steady allowed (ensuringWith code cleanup) := by
  intro store past here
  rw [meets_ensuringWith]
  refine (inner store past here).mono ?_
  intro outcome now later kept
  exact cleans outcome now later kept

theorem issues_ite {condition : Prop} [Decidable condition] {other : Code Store Ans Failure Value}
    (yes : Issues steady allowed code) (no : Issues steady allowed other) :
    Issues steady allowed (if condition then code else other) := by
  intro store past here
  rw [meets_ite]
  exact ⟨fun _ => yes store past here, fun _ => no store past here⟩

theorem Issues.meets (issues : Issues steady allowed code) (here : steady store)
    (inv : Past Store Ans → Prop) (start : inv past)
    (easy : ∀ now call, inv now → steady call.store → allowed call.op = true → asks now call)
    (each : ∀ now call answer, inv now → steady call.store → allowed call.op = true →
      inv (now ++ [⟨call, answer⟩])) :
    Meets asks (fun _ now later => steady now ∧ inv later) code store past := by
  have kept := Program.Keeps.invariant (issues store past here) inv start (by
    rintro now call answer held ⟨calm, permitted⟩
    exact each now call answer held calm permitted)
  refine Program.Keeps.mono kept ?_ ?_
  · rintro now call ⟨held, calm, permitted⟩
    exact easy now call held calm permitted
  · rintro result now ⟨held, calm⟩
    exact ⟨calm, held⟩

end Issues

end Code

end Handoff.Effects
