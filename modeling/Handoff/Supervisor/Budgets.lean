/-
The time budgets of a handoff.

`perform_handoff` computes an instant for each of its waits: the read of
`Drained`, the seal-wait loop and the read of `Ready`.  All of them follow from
the readings of the clock, so they can be read off a history: the first reading
starts the handoff, and the readings since the frame that opened a wait give its
limit.
-/

import Handoff.Supervisor.HandoffRuns

namespace Handoff

open Effects SupM
open Effects.Code hiding pure bind

variable {past : SupPast} {event : SupEvent} {started : Instant} {spec : SpawnSpec}

/-! ### Readings and waits -/

def reading? : SupEvent → Option Instant
  | ⟨⟨_, .now⟩, instant⟩ => some instant
  | _ => none

def readings (past : SupPast) : List Instant := past.filterMap reading?

def startedAt (past : SupPast) : Instant := (readings past).headD 0

inductive Wait where
  | drained
  | sealed
  | ready
  deriving DecidableEq, Repr

def opens? : SupEvent → Option Wait
  | ⟨⟨_, .writeFrame _ _ (.prepareHandoff ..)⟩, _⟩ => some .drained
  | ⟨⟨_, .writeFrame _ _ (.sealRequest _)⟩, _⟩ => some .sealed
  | ⟨⟨_, .writeFrame _ _ (.begin _)⟩, _⟩ => some .ready
  | _ => none

/-- The wait that a history is in, with the readings taken since it was opened. -/
structure Timeline where
  wait : Option Wait := none
  since : List Instant := []
  deriving DecidableEq, Repr

def Timeline.after (line : Timeline) (event : SupEvent) : Timeline :=
  match opens? event with
  | some wait => { wait := some wait, since := [] }
  | none => { line with since := line.since ++ (reading? event).toList }

def timeline (past : SupPast) : Timeline := past.foldl Timeline.after {}

def remainingAt (deadline now : Instant) : Duration :=
  max (if now ≤ deadline then deadline - now else minReadTimeout) minReadTimeout

/-- The instant up to which a wait may last.  `Ready` is the only one for which
the clock is read twice: for what is left of the deadline, and by `read_until`. -/
def Wait.limit (spec : SpawnSpec) (started : Instant) : Wait → List Instant → Option Instant
  | .drained, asked :: _ => some (asked + max (spec.drainGrace + wireSlack) minReadTimeout)
  | .sealed, _ => some (started + spec.deadline + wireSlack)
  | .ready, counted :: asked :: _ =>
      some (asked + max (remainingAt (started + spec.deadline) counted + wireSlack) minReadTimeout)
  | _, _ => none

def waitLimit (spec : SpawnSpec) (past : SupPast) : Option Instant :=
  (timeline past).wait.bind fun wait => wait.limit spec (startedAt past) (timeline past).since

def timeoutSet? : SupEvent → Option (Option Duration)
  | ⟨⟨_, .setReadTimeout _ timeout⟩, _⟩ => some timeout
  | _ => none

def lastTimeout (past : SupPast) : Option (Option Duration) :=
  (past.filterMap timeoutSet?).getLast?

/-! ### One more event -/

@[simp]
theorem readings_append (past : SupPast) (event : SupEvent) :
    readings (past ++ [event]) = readings past ++ (reading? event).toList := by
  unfold readings
  rw [List.filterMap_append]
  cases found : reading? event with
  | none => simp [found]
  | some instant => simp [found]

@[simp]
theorem timeline_append (past : SupPast) (event : SupEvent) :
    timeline (past ++ [event]) = (timeline past).after event := by
  rw [timeline, List.foldl_append]
  rfl

private theorem lastTimeout_set (past : SupPast) (store : SupStore) (peer : Side)
    (timeout : Option Duration) (answer : Except IoError Unit) :
    lastTimeout (past ++ [⟨⟨store, .setReadTimeout peer timeout⟩, answer⟩]) = some timeout := by
  simp [lastTimeout, timeoutSet?]

private theorem lastTimeout_kept (other : timeoutSet? event = none) :
    lastTimeout (past ++ [event]) = lastTimeout past := by
  simp [lastTimeout, other]

def Began (started : Instant) (past : SupPast) : Prop := (readings past).head? = some started

theorem Began.append (began : Began started past) (event : SupEvent) :
    Began started (past ++ [event]) := by
  unfold Began at began ⊢
  rw [readings_append, List.head?_append, began]
  rfl

theorem Began.startedAt (began : Began started past) : startedAt past = started := by
  rw [Handoff.startedAt, List.headD_eq_head?_getD, began]
  rfl

private theorem Wait.limit_append {limit : Instant} {wait : Wait} {since : List Instant}
    (found : wait.limit spec started since = some limit) (more : List Instant) :
    wait.limit spec started (since ++ more) = some limit := by
  cases wait with
  | sealed => exact found
  | drained =>
      cases since with
      | nil => contradiction
      | cons asked since => exact found
  | ready =>
      cases since with
      | nil => contradiction
      | cons counted since =>
          cases since with
          | nil => contradiction
          | cons asked since => exact found

/-- `past` waits until `limit`; further readings do not move it. -/
structure Under (spec : SpawnSpec) (started limit : Instant) (past : SupPast) : Prop where
  began : Began started past
  limited : waitLimit spec past = some limit

theorem Under.append {limit : Instant} (under : Under spec started limit past)
    (other : opens? event = none) : Under spec started limit (past ++ [event]) := by
  have began := under.began.append event
  refine ⟨began, ?_⟩
  have limited := under.limited
  rw [waitLimit, under.began.startedAt] at limited
  rw [waitLimit, began.startedAt, timeline_append, Timeline.after, other]
  cases wait : (timeline past).wait with
  | none =>
      rw [wait] at limited
      contradiction
  | some wait =>
      simp_all only [Option.bind_some]
      exact Wait.limit_append limited _

/-! ### What the history owes at each operation -/

/-- A read of a wait is issued before the limit, under the timeout that follows
from it, and `PrepareHandoff` carries what is left of the two budgets. -/
def BudgetOpDuty (spec : SpawnSpec) (past : SupPast) : SupOp → Prop
  | .pollRead _ => (timeline past).wait = none ∨
      ∃ limit now, waitLimit spec past = some limit ∧ (readings past).getLast? = some now ∧
        now < limit ∧ lastTimeout past = some (some (recvTimeout limit now))
  | .writeFrame _ _ (.prepareHandoff _ _ deadlineMs drainGraceMs) =>
      ∃ counted, (readings past).getLast? = some counted ∧
        deadlineMs = asMillis (remainingAt (startedAt past + spec.deadline) counted) ∧
        drainGraceMs = asMillis spec.drainGrace
  | _ => True

def BudgetDuty (spec : SpawnSpec) (past : SupPast) (call : Call SupStore SupOp) : Prop :=
  BudgetOpDuty spec past call.op

private theorem idleOp_budget {op : SupOp} (idle : idleOp op = true) :
    BudgetOpDuty spec past op := by
  cases op with
  | pollRead peer => contradiction
  | writeFrame peer version message =>
      cases message with
      | prepareHandoff handoffId successorPid deadlineMs drainGraceMs =>
          cases peer <;> contradiction
      | _ => trivial
  | _ => trivial

private theorem calmOp_budget {op : SupOp} (calm : calmOp op = true)
    (unopened : (timeline past).wait = none) : BudgetOpDuty spec past op := by
  cases op with
  | pollRead peer => exact Or.inl unopened
  | _ => exact idleOp_budget calm

private theorem calmOp_opens (calm : calmOp event.op.op = true) : opens? event = none := by
  obtain ⟨⟨store, op⟩, answer⟩ := event
  cases op with
  | writeFrame peer version message =>
      cases message with
      | prepareHandoff handoffId successorPid deadlineMs drainGraceMs =>
          cases peer <;> contradiction
      | sealRequest handoffId => cases peer <;> contradiction
      | begin handoffId => cases peer <;> contradiction
      | _ => rfl
  | _ => rfl

structure Roomy (spec : SpawnSpec) (past : SupPast) : Prop where
  deadline : spec.deadline < Duration.fromMillis (2 ^ 64)
  drainGrace : spec.drainGrace < Duration.fromMillis (2 ^ 64)
  ordered : (readings past).Pairwise (· ≤ ·)
  early : ∀ reading ∈ readings past, reading < Duration.fromSecs (2 ^ 62)

theorem Roomy.earlier (roomy : Roomy spec (past ++ [event])) : Roomy spec past := by
  have ordered := roomy.ordered
  rw [readings_append, List.pairwise_append] at ordered
  refine ⟨roomy.deadline, roomy.drainGrace, ordered.1, ?_⟩
  intro reading member
  apply roomy.early
  rw [readings_append]
  exact List.mem_append_left _ member

/-- How a step of a handoff ends: a panic has left the ranges. -/
def Sound {Value : Type} (spec : SpawnSpec) (started : Instant) (outcome : Except Halt Value)
    (past : SupPast) : Prop :=
  Began started past ∧ (outcome = .error .panic → ¬Roomy spec past)

def Still {Value : Type} (spec : SpawnSpec) (started : Instant) (store : SupStore)
    (outcome : Except Halt Value) (now : SupStore) (past : SupPast) : Prop :=
  Sound spec started outcome past ∧ now = store

/-- A step that has also left the store alone, if it got through. -/
def Held {Value : Type} (spec : SpawnSpec) (started : Instant) (store : SupStore)
    (outcome : Except Halt Value) (now : SupStore) (past : SupPast) : Prop :=
  Sound spec started outcome past ∧ ∀ value, outcome = .ok value → now = store

theorem Began.sound {Value : Type} (began : Began started past) {outcome : Except Halt Value}
    (calm : outcome ≠ .error .panic) : Sound spec started outcome past :=
  ⟨began, fun panics => absurd panics calm⟩

theorem Sound.failed {Value Other : Type} {halt : Halt}
    (sound : Sound spec started (.error halt : Except Halt Value) past) :
    Sound spec started (.error halt : Except Halt Other) past := by
  refine ⟨sound.1, ?_⟩
  intro panics
  apply sound.2
  rw [Except.error.inj panics]

/-! ### Steps that are no waits -/

section Steps

variable {Value Other : Type} {spec : SpawnSpec} {started limit : Instant} {past : SupPast}
  {store : SupStore} {code : SupM Value} {next : Value → SupM Other}
  {post : Except Halt Other → SupStore → SupPast → Prop}

theorem Tame.meets {allowed : SupOp → Bool} {inv : SupPast → Prop} (tame : Tame allowed code)
    (here : inv past) (easy : ∀ now op, inv now → allowed op = true → BudgetOpDuty spec now op)
    (each : ∀ now event, inv now → allowed event.op.op = true → inv (now ++ [event])) :
    Meets (BudgetDuty spec) (fun outcome now later => now = store ∧ inv later ∧
      outcome ≠ .error .panic) code store past := by
  have kept : Meets (BudgetDuty spec) (fun _ now later => now = store ∧ inv later) code store past :=
    tame.within.meets inv here easy (fun now op answer held permitted => each now _ held permitted)
  refine (Program.Keeps.and kept (tame store past)).mono (fun _ _ asked => asked.1) ?_
  intro result later both
  exact ⟨both.1.1, both.1.2, both.2.2⟩

theorem Tame.bind {allowed : SupOp → Bool} {inv : SupPast → Prop} (tame : Tame allowed code)
    (here : inv past) (easy : ∀ now op, inv now → allowed op = true → BudgetOpDuty spec now op)
    (each : ∀ now event, inv now → allowed event.op.op = true → inv (now ++ [event]))
    (rest : ∀ value later, inv later → Meets (BudgetDuty spec) post (next value) store later)
    (failed : ∀ cause later, inv later → post (.error (.error cause)) store later) :
    Meets (BudgetDuty spec) post (code >>= next) store past := by
  refine Meets.bind (tame.meets here easy each) ?_ ?_
  · intro value now later held
    obtain ⟨same, stays, _⟩ := held
    rw [same]
    exact rest value later stays
  · intro halt now later held
    obtain ⟨same, stays, calm⟩ := held
    rw [same]
    cases halt with
    | error cause => exact failed cause later stays
    | panic => exact absurd rfl calm

theorem Began.idle (began : Began started past) (reliable : Reliable idleOp code) :
    Meets (BudgetDuty spec) (Still spec started store) code store past := by
  refine (reliable.tame.meets began (fun _ _ _ idle => idleOp_budget idle)
    (fun _ event began _ => began.append event)).mono ?_
  intro outcome now later held
  obtain ⟨same, began, calm⟩ := held
  exact ⟨began.sound calm, same⟩

theorem Began.idleBind (began : Began started past) (reliable : Reliable idleOp code)
    (rest : ∀ value later, Began started later →
      Meets (BudgetDuty spec) post (next value) store later)
    (failed : ∀ cause later, Began started later → post (.error (.error cause)) store later) :
    Meets (BudgetDuty spec) post (code >>= next) store past :=
  reliable.tame.bind began (fun _ _ _ idle => idleOp_budget idle)
    (fun _ event began _ => began.append event) rest failed

structure Unopened (started : Instant) (past : SupPast) : Prop where
  began : Began started past
  wait : (timeline past).wait = none

theorem Unopened.append (unopened : Unopened started past) (other : opens? event = none) :
    Unopened started (past ++ [event]) := by
  refine ⟨unopened.began.append event, ?_⟩
  rw [timeline_append, Timeline.after, other]
  exact unopened.wait

theorem Unopened.calmBind (unopened : Unopened started past) (tame : Tame calmOp code)
    (rest : ∀ value later, Unopened started later →
      Meets (BudgetDuty spec) post (next value) store later)
    (failed : ∀ cause later, Unopened started later → post (.error (.error cause)) store later) :
    Meets (BudgetDuty spec) post (code >>= next) store past :=
  tame.bind unopened (fun _ _ unopened calm => calmOp_budget calm unopened.wait)
    (fun _ _ unopened calm => unopened.append (calmOp_opens calm)) rest failed

theorem killAndReap_bind {next : Unit → SupM Other} (began : Began started past)
    (rest : ∀ now later, Began started later → Meets (BudgetDuty spec) post (next ()) now later) :
    Meets (BudgetDuty spec) post (killAndReap >>= next) store past := by
  unfold killAndReap
  rw [meets_bind]
  apply Meets.loadBind
  cases store.guard with
  | none => exact rest store past began
  | some pid =>
      refine Meets.callBind trivial fun killed => ?_
      refine Meets.callBind trivial fun waited => ?_
      exact rest _ _ ((began.append _).append _)

/-! ### Waits -/

structure Armed (spec : SpawnSpec) (started limit now : Instant) (past : SupPast) : Prop
    extends Under spec started limit past where
  last : (readings past).getLast? = some now
  armed : lastTimeout past = some (some (recvTimeout limit now))

theorem Armed.append {now : Instant} (armed : Armed spec started limit now past)
    (other : opens? event = none) (unread : reading? event = none)
    (unset : timeoutSet? event = none) : Armed spec started limit now (past ++ [event]) := by
  refine ⟨armed.toUnder.append other, ?_, ?_⟩
  · rw [readings_append, unread]
    simpa using armed.last
  · rw [lastTimeout_kept unset]
    exact armed.armed

private theorem Under.armBind {peer : Side} {now : Instant} {next : Unit → SupM Other}
    (under : Under spec started limit past) (last : (readings past).getLast? = some now)
    (rest : ∀ later, Armed spec started limit now later →
      Meets (BudgetDuty spec) post (next ()) store later)
    (failed : ∀ cause later, Under spec started limit later →
      post (.error (.error cause)) store later) :
    Meets (BudgetDuty spec) post (armRecvTimeout peer (recvTimeout limit now) >>= next) store
      past := by
  unfold armRecvTimeout
  rw [meets_bind]
  refine Meets.callBind trivial fun answer => ?_
  have armed : Armed spec started limit now (past ++ [⟨⟨store, .setReadTimeout peer
      (some (recvTimeout limit now))⟩, answer⟩]) := by
    refine ⟨under.append rfl, ?_, lastTimeout_set _ _ _ _ _⟩
    rw [readings_append]
    simpa [reading?] using last
  cases answer with
  | ok _ => exact rest _ armed
  | error cause =>
      by_cases invalid : cause.rawOsError = some .einval
      · simp only [if_pos invalid]
        refine Meets.callBind trivial fun blocks => ?_
        have probed : Armed spec started limit now (_ ++ [⟨⟨store, .readWouldBlock peer⟩, blocks⟩]) :=
          armed.append rfl rfl rfl
        cases blocks with
        | true => exact failed (.io cause) _ probed.toUnder
        | false => exact rest _ probed
      · simp only [if_neg invalid]
        exact failed (.io cause) _ armed.toUnder

/-- One round of a wait: the clock is read, and if there is time left a timeout
is armed and one frame is asked for. -/
theorem Under.round {peer : Side} {late : SupM Other} {next : Polled → SupM Other}
    (under : Under spec started limit past)
    (expired : ∀ later, Under spec started limit later →
      Meets (BudgetDuty spec) post late store later)
    (polled : ∀ answer later, Under spec started limit later →
      Meets (BudgetDuty spec) post (next answer) store later)
    (failed : ∀ cause later, Under spec started limit later →
      post (.error (.error cause)) store later) :
    Meets (BudgetDuty spec) post (do
      let now ← ask .now
      if limit ≤ now then late
      else do
        armRecvTimeout peer (recvTimeout limit now)
        let answer ← ask (.pollRead peer)
        next answer) store past := by
  refine Meets.callBind trivial fun now => ?_
  have ticked : Under spec started limit (past ++ [⟨⟨store, .now⟩, now⟩]) := under.append rfl
  by_cases elapsed : limit ≤ now
  · rw [if_pos elapsed]
    exact expired _ ticked
  · rw [if_neg elapsed]
    refine ticked.armBind (by simp [reading?]) ?_ failed
    intro later armed
    refine Meets.callBind ?_ fun answer => polled answer _ (armed.toUnder.append rfl)
    exact Or.inr ⟨limit, now, armed.limited, armed.last, Nat.lt_of_not_le elapsed, armed.armed⟩

end Steps

end Handoff
