/-
When the bounded reads of a handoff touch the socket.

`read_until`, the seal-wait loop and the two handshakes look at the clock between
calls of `poll_read`, not inside one.  The environment keeps the clock and one
stream: time passes in socket reads and in every operation but the look at the
clock and the setting of a timeout.  What the code does just before a poll fixes
the clock and the armed timeout with which its reads start; the rest depends on
when the parts of the frame arrive.
-/

import Handoff.Effects.Environment
import Handoff.Negotiation
import Handoff.Supervisor.Budgets
import Handoff.Wire.Pauses

namespace Handoff

open Effects
open Effects.Code hiding pure bind

/-! ### The environment of a supervisor that reads from one peer -/

/-- The operations that read the clock, or look at or set up the stream of `peer`. -/
def clocked (peer : Side) : SupOp → Bool
  | .now => true
  | .setReadTimeout other _ | .readWouldBlock other | .pollRead other => other == peer
  | _ => false

inductive SupAnswers (peer : Side) : Receiver → (op : SupOp) → SupAns op → Receiver → Prop where
  | now (receiver : Receiver) : SupAnswers peer receiver .now receiver.socket.clock receiver
  | armed (receiver : Receiver) (timeout : Option Duration) :
      SupAnswers peer receiver (.setReadTimeout peer timeout) (.ok ()) (receiver.arm timeout)
  -- a socket that takes no options any more is shut down, and its reads do not block
  | shut (receiver : Receiver) (timeout : Option Duration) (cause : IoError) :
      SupAnswers peer receiver (.setReadTimeout peer timeout) (.error cause) (receiver.arm (some 0))
  | probed (receiver : Receiver) (blocks : Bool) :
      SupAnswers peer receiver (.readWouldBlock peer) blocks receiver
  | polled (receiver : Receiver) :
      SupAnswers peer receiver (.pollRead peer) receiver.poll.1 receiver.poll.2
  | aside (receiver : Receiver) {op : SupOp} (other : clocked peer op = false) (answer : SupAns op)
      (elapsed : Duration) : SupAnswers peer receiver op answer (receiver.elapse elapsed)

def supAnswers (peer : Side) (receiver : Receiver) (call : Call SupStore SupOp)
    (answer : CallAns SupStore SupAns call) (next : Receiver) : Prop :=
  SupAnswers peer receiver call.op answer next

structure Poise where
  seen : Option Instant := none
  armed : Option Duration := none

def Poise.after (peer : Side) (poise : Poise) : SupEvent → Poise
  | ⟨⟨_, .now⟩, instant⟩ => { seen := some instant }
  | ⟨⟨_, .setReadTimeout other timeout⟩, _⟩ =>
      if other = peer then { poise with armed := timeout } else {}
  | ⟨⟨_, .readWouldBlock other⟩, _⟩ => if other = peer then poise else {}
  | _ => {}

def poiseOf (peer : Side) (past : SupPast) : Poise := past.foldl (Poise.after peer) {}

@[simp]
theorem poiseOf_append (peer : Side) (past : SupPast) (event : SupEvent) :
    poiseOf peer (past ++ [event]) = (poiseOf peer past).after peer event := by
  rw [poiseOf, List.foldl_append]
  rfl

structure Poise.Fits (poise : Poise) (receiver : Receiver) : Prop where
  seen : ∀ now ∈ poise.seen, receiver.socket.clock = now
  armed : ∀ timeout ∈ poise.armed, ∃ less ≤ timeout, receiver.socket.armed = some less

private theorem Poise.fits_none (receiver : Receiver) : Poise.Fits {} receiver := ⟨nofun, nofun⟩

variable {peer : Side} {receiver next : Receiver} {poise : Poise}

theorem Poise.Fits.step (fits : poise.Fits receiver) {call : Call SupStore SupOp}
    {answer : CallAns SupStore SupAns call} (answered : supAnswers peer receiver call answer next) :
    (poise.after peer ⟨call, answer⟩).Fits next := by
  obtain ⟨store, op⟩ := call
  change SupAnswers peer receiver op answer next at answered
  cases answered with
  | now => exact ⟨fun now seen => Option.some.inj seen, nofun⟩
  | armed timeout =>
      simp only [Poise.after, if_pos]
      refine ⟨fits.seen, ?_⟩
      intro set found
      exact ⟨set, Nat.le_refl set, found⟩
  | shut timeout cause =>
      simp only [Poise.after, if_pos]
      refine ⟨fits.seen, ?_⟩
      intro set _
      exact ⟨0, Nat.zero_le set, rfl⟩
  | probed blocks =>
      simp only [Poise.after, if_pos]
      exact fits
  | polled => exact Poise.fits_none _
  | aside other answer elapsed =>
      cases op with
      | now => contradiction
      | setReadTimeout side timeout =>
          have apart : side ≠ peer := by simpa [clocked] using other
          simp only [Poise.after, if_neg apart]
          exact Poise.fits_none _
      | readWouldBlock side =>
          have apart : side ≠ peer := by simpa [clocked] using other
          simp only [Poise.after, if_neg apart]
          exact Poise.fits_none _
      | _ => exact Poise.fits_none _

/-- The poise of a history is the state of the stream after every run. -/
private theorem poise_fits {Value : Type} {code : SupM Value} {store : SupStore} {events : SupPast}
    {rest : Program (Call SupStore SupOp) (CallAns SupStore SupAns) (Except Halt Value × SupStore)}
    (run : (code store).Run events rest) {start middle : Receiver}
    (attends : Attends (supAnswers peer) start events middle) :
    (poiseOf peer events).Fits middle := by
  refine run.attended (Program.keeps_trivial (code store) []) attends
    (fun past receiver => (poiseOf peer past).Fits receiver) (Poise.fits_none start) ?_
  intro now state call answer next fits _ answered
  rw [poiseOf_append]
  exact fits.step answered

/-! ### What the supervisor does before a poll -/

section Looking

variable {Value Other : Type} {limit : Instant}

/-- A frame is asked for right after a look at the clock that was before the limit. -/
def LookDuty (limit : Instant) (past : SupPast) (call : Call SupStore SupOp) : Prop :=
  match call.op with
  | .pollRead peer => ∃ now, (poiseOf peer past).seen = some now ∧ now < limit
  | _ => True

def Looking (limit : Instant) (code : SupM Value) : Prop :=
  ∀ store past, Meets (LookDuty limit) (fun _ _ _ => True) code store past

private theorem looking_ofExcept (outcome : Except Halt Value) :
    Looking limit (ofExcept outcome : SupM Value) := by
  intro store past
  exact (meets_ofExcept outcome).mpr trivial

private theorem looking_pure (value : Value) : Looking limit (pure value : SupM Value) :=
  looking_ofExcept (.ok value)

private theorem looking_raise (cause : Error) : Looking limit (SupM.raise cause : SupM Value) :=
  looking_ofExcept (.error (.error cause))

private theorem looking_bind {code : SupM Value} {next : Value → SupM Other}
    (first : Looking limit code) (rest : ∀ value, Looking limit (next value)) :
    Looking limit (code >>= next) := by
  intro store past
  exact Meets.bind (first store past) (fun value now later _ => rest value now later)
    (fun _ _ _ _ => trivial)

private theorem looking_ite {condition : Prop} [Decidable condition] {first second : SupM Value}
    (yes : Looking limit first) (no : Looking limit second) :
    Looking limit (if condition then first else second) := by
  intro store past
  rw [meets_ite]
  exact ⟨fun _ => yes store past, fun _ => no store past⟩

private theorem looking_stall : Looking limit (SupM.stall : SupM Value) := by
  intro store past
  exact ⟨trivial, fun answer => answer.elim⟩

/-- Code that waits for nobody polls nobody. -/
private theorem Settling.looking {code : SupM Value} (settling : Settling code) :
    Looking limit code := by
  intro store past
  refine Program.Keeps.mono (settling store past trivial) ?_ (fun _ _ _ => trivial)
  intro now call asked
  unfold LookDuty
  split
  · next peer polls =>
      rw [polls] at asked
      exact absurd asked.2 Bool.false_ne_true
  · trivial

private theorem armRecvTimeout_bind {peer : Side} {timeout : Duration} {next : Unit → SupM Value}
    {asks : SupPast → Call SupStore SupOp → Prop} {store : SupStore} {past : SupPast}
    (easy : ∀ now call, (∀ other, call.op ≠ .pollRead other) → asks now call)
    (rest : ∀ later, (poiseOf peer later).seen = (poiseOf peer past).seen →
      (poiseOf peer later).armed = some timeout →
        Meets asks (fun _ _ _ => True) (next ()) store later) :
    Meets asks (fun _ _ _ => True) (armRecvTimeout peer timeout >>= next) store past := by
  unfold armRecvTimeout
  rw [meets_bind]
  refine Meets.callBind (easy _ _ nofun) fun set => ?_
  cases set with
  | ok _ => exact rest _ (by simp [Poise.after]) (by simp [Poise.after])
  | error cause =>
      by_cases invalid : cause.rawOsError = some .einval
      · simp only [if_pos invalid]
        refine Meets.callBind (easy _ _ nofun) fun blocks => ?_
        cases blocks with
        | true => trivial
        | false =>
            exact rest _ (by simp only [poiseOf_append, Poise.after, if_true])
              (by simp only [poiseOf_append, Poise.after, if_true])
      · simp only [if_neg invalid]
        trivial

private theorem looking_round {peer : Side} {late : SupM Value} {next : Polled → SupM Value}
    (expired : Looking limit late) (polled : ∀ answer, Looking limit (next answer)) :
    Looking limit (do
      let now ← SupM.ask .now
      if limit ≤ now then late
      else do
        armRecvTimeout peer (recvTimeout limit now)
        let answer ← SupM.ask (.pollRead peer)
        next answer) := by
  intro store past
  refine Meets.callBind trivial fun now => ?_
  by_cases elapsed : limit ≤ now
  · rw [if_pos elapsed]
    exact expired store _
  · rw [if_neg elapsed]
    apply armRecvTimeout_bind
    · intro _ _ other
      unfold LookDuty
      split
      · next polls => exact absurd polls (other _)
      · trivial
    · intro later seen _
      refine Meets.callBind ?_ fun answer => polled answer store _
      exact ⟨now, by rw [seen, poiseOf_append]; rfl, Nat.lt_of_not_le elapsed⟩

private theorem readUntilLoop_looking (peer : Side) (awaiting : String) (pred : Message → Bool)
    (fuel : Nat) : Looking limit (readUntilLoop peer limit awaiting pred fuel) := by
  have ends {Result : Type} (cause : Error) : Looking limit (do
      clearRecvTimeout peer
      SupM.raise cause : SupM Result) :=
    looking_bind (clearRecvTimeout_settling peer).looking fun _ => looking_raise cause
  have takes (message : Message) : Looking limit (do
      clearRecvTimeout peer
      if pred message then pure message
      else SupM.raise (.unexpectedMessage (shortName message))) := by
    refine looking_bind (clearRecvTimeout_settling peer).looking fun _ => ?_
    exact looking_ite (looking_pure message) (looking_raise _)
  induction fuel with
  | zero => exact looking_stall
  | succ fuel ih =>
      refine looking_round (ends _) fun answer => ?_
      cases answer with
      | failed cause => exact ends cause
      | waiting midFrame =>
          cases midFrame with
          | true => exact ih
          | false => exact ends _
      | frame version message =>
          cases message with
          | heartbeat tsMs => exact ih
          | sealProgress => exact ih
          | _ => exact takes _

private theorem looking_deadline {instant : Instant} {duration : Duration}
    {next : Instant → SupM Value}
    (rest : Looking (instant + duration) (next (instant + duration))) :
    Looking (instant + duration) (do
      let deadline ← addInstant instant duration
      next deadline) := by
  intro store past
  by_cases fits : instant + duration < Instant.limit
  · rw [addInstant, if_pos fits]
    exact rest store past
  · rw [addInstant, if_neg fits]
    trivial

private theorem sealWaitLoop_looking (locals : HandoffLocals) (fuel : Nat) :
    Looking limit (sealWaitLoop locals limit fuel) := by
  have ends (cause : Error) : Looking limit (do
      clearRecvTimeout .incumbent
      SupM.raise cause : SupM (Except String Unit)) :=
    looking_bind (clearRecvTimeout_settling _).looking fun _ => looking_raise cause
  induction fuel with
  | zero => exact looking_stall
  | succ fuel ih =>
      refine looking_round (abandonSeal_settling locals _).looking fun answer => ?_
      cases answer with
      | failed cause => exact ends cause
      | waiting midFrame =>
          cases midFrame with
          | true => exact ih
          | false => exact (abandonSeal_settling locals _).looking
      | frame version message =>
          have decides : Looking limit (ruleOnSeal locals.handoffId message) := by
            unfold ruleOnSeal
            cases sealVerdict locals.handoffId message with
            | some verdict => exact looking_pure verdict
            | none => exact ends _
          cases message with
          | heartbeat tsMs => exact ih
          | sealProgress => exact ih
          | _ => exact decides

variable {code : SupM Value} {store now : SupStore} {events : SupPast} {start middle : Receiver}
  {rest : Program (Call SupStore SupOp) (CallAns SupStore SupAns) (Except Halt Value × SupStore)}

private theorem Looking.issued_lt (looking : Looking limit code)
    (run : (code store).Run events rest) (polls : rest.op? = some ⟨now, .pollRead peer⟩)
    (attends : Attends (supAnswers peer) start events middle) :
    (∀ read ∈ middle.reads, read.issued < limit) ↔ ∀ instant ∈ middle.pauses, instant < limit := by
  obtain ⟨instant, seen, before⟩ := run.owes (looking store []) polls
  have clock := (poise_fits run attends).seen instant seen
  refine middle.reads_iff (· < limit) ?_
  rwa [clock]

end Looking

/-! ### The handshakes -/

def HelloDuty (past : SupPast) (call : Call SupStore SupOp) : Prop :=
  match call.op with
  | .pollRead peer => (poiseOf peer past).armed = some helloReadTimeout
  | _ => True

private theorem helloDuty_other (past : SupPast) (call : Call SupStore SupOp)
    (other : ∀ peer, call.op ≠ .pollRead peer) : HelloDuty past call := by
  unfold HelloDuty
  split
  · next polls => exact absurd polls (other _)
  · trivial

/-- No look at the clock is before the instant 0: such code asks for no frame. -/
private theorem Looking.unpolled {Value : Type} {code : SupM Value} (looking : Looking 0 code)
    (store : SupStore) (past : SupPast) :
    Meets HelloDuty (fun _ _ _ => True) code store past := by
  refine Program.Keeps.mono (looking store past) ?_ (fun _ _ _ => trivial)
  intro now call duty
  apply helloDuty_other
  intro peer polls
  rw [LookDuty, polls] at duty
  obtain ⟨instant, _, impossible⟩ := duty
  exact absurd impossible (Nat.not_lt_zero instant)

private theorem exchangeHelloAsSupervisor_armed (peer : Side) (handoffId : HandoffId)
    (expectedRole : Side) (expectedPid : Option UInt32) (store : SupStore) :
    Meets HelloDuty (fun _ _ _ => True)
      (exchangeHelloAsSupervisor peer handoffId expectedRole expectedPid) store [] := by
  unfold exchangeHelloAsSupervisor exchangeHelloOf
  apply armRecvTimeout_bind helloDuty_other
  intro later _ armed
  refine Meets.callBind armed fun polled => ?_
  apply Looking.unpolled
  refine looking_bind (clearRecvTimeout_settling peer).looking fun _ => ?_
  exact (ruleOnHello_settling _ _ _ _ _ _).looking

/-! ### The environment of an incumbent -/

def primClocked : PrimOp → Bool
  | .now | .setReadTimeout _ | .pollRead _ => true
  | _ => false

/-- The reads of the session loop have no timeout. -/
inductive PrimAnswers : Receiver → (op : PrimOp) → PrimAns op → Receiver → Prop where
  | now (receiver : Receiver) : PrimAnswers receiver .now receiver.socket.clock receiver
  | armed (receiver : Receiver) (timeout : Duration) :
      PrimAnswers receiver (.setReadTimeout timeout) (.ok ()) (receiver.arm (some timeout))
  | unarmed (receiver : Receiver) (timeout : Duration) (cause : IoError) :
      PrimAnswers receiver (.setReadTimeout timeout) (.error cause) receiver
  | bounded (receiver : Receiver) :
      PrimAnswers receiver (.pollRead true) receiver.poll.1 receiver.poll.2
  | unbounded (receiver : Receiver) :
      PrimAnswers receiver (.pollRead false) (receiver.arm none).poll.1 (receiver.arm none).poll.2
  | aside (receiver : Receiver) {op : PrimOp} (other : primClocked op = false)
      (answer : PrimAns op) (elapsed : Duration) :
      PrimAnswers receiver op answer (receiver.elapse elapsed)

def primAnswers (receiver : Receiver) (call : Call PrimStore PrimOp)
    (answer : CallAns PrimStore PrimAns call) (next : Receiver) : Prop :=
  PrimAnswers receiver call.op answer next

def primPolled : PrimEvent → Bool
  | ⟨⟨_, .pollRead _⟩, _⟩ => true
  | _ => false

def justArmed (past : PrimPast) : Option Duration :=
  match past.getLast? with
  | some ⟨⟨_, .setReadTimeout timeout⟩, .ok ()⟩ => some timeout
  | _ => none

/-- The first poll of a session is the one for `HelloAck`. -/
def AckDuty (past : PrimPast) (call : Call PrimStore PrimOp) : Prop :=
  match call.op with
  | .pollRead _ => past.any primPolled = true ∨ justArmed past = some incumbentHelloReadTimeout
  | _ => True

private theorem meets_polled {Value : Type} (code : PrimM Value) {store : PrimStore}
    {past : PrimPast} (polled : past.any primPolled = true) :
    Meets AckDuty (fun _ _ later => later.any primPolled = true) code store past := by
  have kept := (Program.keeps_trivial (code store) past).invariant
    (fun now => now.any primPolled = true) polled (by
      intro now call answer held _
      rw [List.any_append, held, Bool.true_or])
  refine Program.Keeps.mono kept ?_ (fun _ _ held => held.1)
  intro now call held
  unfold AckDuty
  split
  · exact Or.inl held.1
  · trivial

private theorem incumbentHandshake_armed (host : Host) (store : PrimStore) :
    Meets AckDuty (fun outcome _ later => ∀ chosen, outcome = .ok chosen →
      later.any primPolled = true) (incumbentHandshake host) store [] := by
  unfold incumbentHandshake incumbentHandshakeOf
  refine Meets.callBind trivial fun sent => ?_
  refine Meets.ofExceptBind ?_ (fun _ _ => nofun)
  intro _ _
  refine Meets.callBind trivial fun armed => ?_
  refine Meets.ofExceptBind ?_ (fun _ _ => nofun)
  intro _ set
  obtain ⟨rfl⟩ : armed = .ok () := by
    cases armed with
    | ok _ => rfl
    | error cause => cases set
  refine Meets.callBind (Or.inr rfl) fun polled => ?_
  refine (meets_polled _ (by simp [primPolled])).mono ?_
  intro outcome now later held _ _
  exact held

private theorem handleSession_armed (host : Host) (fuel : Nat) (store : PrimStore) :
    Meets AckDuty (fun _ _ _ => True) (handleSession host fuel) store [] := by
  have closes (now : PrimStore) (later : PrimPast) : Meets AckDuty (fun _ _ _ => True)
      (PrimM.ask (.close .session)) now later :=
    meets_call.mpr ⟨trivial, fun _ => trivial⟩
  unfold handleSession handleSessionOf
  rw [meets_ensuring]
  refine Meets.bind (incumbentHandshake_armed host store) ?_ (fun _ _ _ _ => closes _ _)
  intro chosen now later polled
  exact (meets_polled _ (polled chosen rfl)).mono fun _ _ _ _ => closes _ _

private theorem justArmed_armed {Value : Type} {code : PrimM Value} {store : PrimStore}
    {events : PrimPast} {rest : Process PrimStore PrimAns Error Value}
    (run : (code store).Run events rest) {start middle : Receiver}
    (attends : Attends primAnswers start events middle) :
    ∀ timeout ∈ justArmed events, middle.socket.armed = some timeout := by
  refine run.attended (Program.keeps_trivial (code store) []) attends
    (fun past receiver => ∀ timeout ∈ justArmed past, receiver.socket.armed = some timeout) nofun ?_
  intro now receiver call answer next _ _ answered
  obtain ⟨store, op⟩ := call
  change PrimAnswers receiver op answer next at answered
  rw [justArmed, List.getLast?_concat]
  cases answered with
  | armed => exact fun timeout set => set
  | aside other answer elapsed =>
      cases op with
      | setReadTimeout timeout => contradiction
      | _ => nofun
  | _ => nofun

/-! ### Reads in time -/

/-- The calls of `poll_read` in any run.  Those of `read_until` and of the seal-wait
loop issue no socket read at or past the deadline exactly when no part of the frame
that leaves it unfinished arrives that late; those for `Hello` and `HelloAck` issue
none later than their timeout after they started exactly when no such part does. -/
theorem reads_in_time (peer : Side) (start middle : Receiver) :
    (∀ timeout awaiting pred fuel store events rest now,
      (readUntil peer timeout awaiting pred fuel store).Run events rest →
      rest.op? = some ⟨now, .pollRead peer⟩ → Attends (supAnswers peer) start events middle →
      ((∀ read ∈ middle.reads, read.issued < start.socket.clock + max timeout minReadTimeout) ↔
        ∀ instant ∈ middle.pauses, instant < start.socket.clock + max timeout minReadTimeout)) ∧
    (∀ locals deadline fuel store events rest now,
      (sealWaitLoop locals deadline fuel store).Run events rest →
      rest.op? = some ⟨now, .pollRead .incumbent⟩ →
      Attends (supAnswers .incumbent) start events middle →
      ((∀ read ∈ middle.reads, read.issued < deadline) ↔
        ∀ instant ∈ middle.pauses, instant < deadline)) ∧
    (∀ handoffId expectedRole expectedPid store events rest now,
      (exchangeHelloAsSupervisor peer handoffId expectedRole expectedPid store).Run events rest →
      rest.op? = some ⟨now, .pollRead peer⟩ → Attends (supAnswers peer) start events middle →
      (∃ less ≤ helloReadTimeout, middle.socket.armed = some less) ∧
      ((∀ read ∈ middle.reads, read.issued ≤ middle.socket.clock + helloReadTimeout) ↔
        ∀ instant ∈ middle.pauses, instant ≤ middle.socket.clock + helloReadTimeout)) ∧
    ∀ host fuel store events rest now, (handleSession host fuel store).Run events rest →
      rest.op? = some ⟨now, .pollRead true⟩ → events.any primPolled = false →
      Attends primAnswers start events middle →
      middle.socket.armed = some incumbentHelloReadTimeout ∧
      ((∀ read ∈ middle.reads, read.issued ≤ middle.socket.clock + incumbentHelloReadTimeout) ↔
        ∀ instant ∈ middle.pauses,
          instant ≤ middle.socket.clock + incumbentHelloReadTimeout) := by
  refine ⟨?_, ?_, ?_, ?_⟩
  · intro timeout awaiting pred fuel store events rest now run polls attends
    -- the first look at the clock gives the deadline
    change (Program.call ⟨store, .now⟩ fun instant => (do
      let deadline ← addInstant instant (max timeout minReadTimeout)
      readUntilLoop peer deadline awaiting pred fuel : SupM Message) store).Run events rest at run
    cases run with
    | stop => cases polls
    | step instant tail =>
        cases attends with
        | step answered later =>
            cases answered with
            | aside other => contradiction
            | now =>
                exact (looking_deadline (readUntilLoop_looking peer awaiting pred fuel)).issued_lt
                  tail polls later
  · intro locals deadline fuel store events rest now run polls attends
    exact (sealWaitLoop_looking locals fuel).issued_lt run polls attends
  · intro handoffId expectedRole expectedPid store events rest now run polls attends
    have duty := run.owes (exchangeHelloAsSupervisor_armed peer handoffId expectedRole expectedPid
      store) polls
    exact ⟨(poise_fits run attends).armed helloReadTimeout duty,
      middle.reads_iff (· ≤ middle.socket.clock + helloReadTimeout) (Nat.le_add_right _ _)⟩
  · intro host fuel store events rest now run polls first attends
    have duty := run.owes (handleSession_armed host fuel store) polls
    rcases duty with again | armed
    · rw [List.nil_append, first] at again
      contradiction
    · exact ⟨justArmed_armed run attends _ armed,
        middle.reads_iff (· ≤ middle.socket.clock + incumbentHelloReadTimeout)
          (Nat.le_add_right _ _)⟩

/-! ### Two peers -/

/-- A stream at the instant 0, with a fresh accumulator, that is closed after an hour. -/
def arriving (arrivals : List (Instant × Arrival)) : Receiver where
  socket := { arrivals := arrivals, closed := Duration.fromSecs 3600, armed := none, clock := 0 }
  acc := .new

/-- The timeouts can be set; nothing but the clock and the stream is asked for. -/
def receive (receiver : Receiver) (call : Call SupStore SupOp) :
    Option (CallAns SupStore SupAns call × Receiver) :=
  match call with
  | ⟨_, .now⟩ => some (receiver.socket.clock, receiver)
  | ⟨_, .setReadTimeout .incumbent timeout⟩ => some (.ok (), receiver.arm timeout)
  | ⟨_, .pollRead .incumbent⟩ => some receiver.poll
  | _ => none

private theorem receive_answers (receiver : Receiver) (call : Call SupStore SupOp)
    (answer : CallAns SupStore SupAns call) (next : Receiver)
    (received : receive receiver call = some (answer, next)) :
    supAnswers .incumbent receiver call answer next := by
  unfold receive at received
  split at received
  · cases received
    exact .now receiver
  · cases received
    exact .armed receiver _
  · cases received
    exact .polled receiver
  · contradiction

def drainedFrame : List UInt8 := (encode 1 (.drained 0 true)).toOption.getD []

/-- The header is there after one second, and the body after another. -/
def promptPeer : Receiver := arriving
  (unread (Duration.fromSecs 1) (drainedFrame.take 4) ++
    unread (Duration.fromSecs 2) (drainedFrame.drop 4))

/-- A byte comes every nine seconds; the receive timeout is ten. -/
def drippingPeer : Receiver := arriving <| drainedFrame.mapIdx fun index byte =>
  (Duration.fromSecs (9 * (index + 1)), .bytes byte [])

/-- `read_until` for `Drained` with a grace of ten seconds, up to its first poll. -/
def drainedWait (start : Receiver) := Program.attend receive 3 start
  (readUntil .incumbent (Duration.fromSecs 11) "Drained" isDrained 1 {})

theorem reads_in_time_prompt :
    (drainedWait promptPeer).2.1.pauses = [Duration.fromSecs 1] ∧
      ∀ read ∈ (drainedWait promptPeer).2.1.reads, read.issued < Duration.fromSecs 11 := by
  have polls : (drainedWait promptPeer).2.2.op? = some ⟨{}, .pollRead .incumbent⟩ := by
    decide +kernel
  have pauses : (drainedWait promptPeer).2.1.pauses = [Duration.fromSecs 1] := by decide +kernel
  have exactly := (reads_in_time .incumbent promptPeer (drainedWait promptPeer).2.1).1
    (Duration.fromSecs 11) "Drained" isDrained 1 {} _ _ {} (Program.attend_run ..) polls
    (Program.attend_attends receive_answers ..)
  refine ⟨pauses, exactly.mpr ?_⟩
  rw [pauses]
  decide +kernel

/-- The dripping peer keeps inside the receive timeout and keeps the reads going past
the deadline. -/
theorem reads_late :
    (readUntil .incumbent (Duration.fromSecs 11) "Drained" isDrained 1 {}).Run
      (drainedWait drippingPeer).1 (drainedWait drippingPeer).2.2 ∧
    (drainedWait drippingPeer).2.2.op? = some ⟨{}, .pollRead .incumbent⟩ ∧
    Attends (supAnswers .incumbent) drippingPeer (drainedWait drippingPeer).1
      (drainedWait drippingPeer).2.1 ∧
    (drainedWait drippingPeer).2.1.socket.armed = some (Duration.fromSecs 10) ∧
    (∀ read ∈ (drainedWait drippingPeer).2.1.reads,
      read.returned = read.issued + Duration.fromSecs 9) ∧
    ∃ read ∈ (drainedWait drippingPeer).2.1.reads, Duration.fromSecs 72 ≤ read.issued := by
  have late : ((drainedWait drippingPeer).2.1.reads.any fun read =>
      decide (Duration.fromSecs 72 ≤ read.issued)) = true := by decide +kernel
  obtain ⟨read, member, past⟩ := List.any_eq_true.mp late
  exact ⟨Program.attend_run .., by decide +kernel, Program.attend_attends receive_answers ..,
    by decide +kernel, by decide +kernel, read, member, of_decide_eq_true past⟩

end Handoff
