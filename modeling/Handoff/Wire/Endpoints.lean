/-
The four ends of the control streams, as writers.

Each history of a supervisor or of a primitive is matched with the writes that
it puts on one stream: those of the main thread, in the order of the history,
and the heartbeats of the background threads while the code lets them run.  The
contracts on the writes say that the main thread stops at its first failure, so
only a write that nobody looks at can be followed by another.
-/

import Handoff.Primitive.Writes
import Handoff.Supervisor.HandoffRuns
import Handoff.Supervisor.StageRuns
import Handoff.Wire.Sending

namespace Handoff

open Effects PrimM
open Effects.Code hiding pure bind

variable {new sendings : List Sending} {peer : Side} {past : SupPast} {event : SupEvent}

/-- A write of the main thread, as its history records it. -/
def Written (version : ProtoVersion) (message : Message) (outcome : Except Error Unit)
    (new : List Sending) : Prop :=
  ∃ sending : Sending, new = [sending] ∧ sending.version = version ∧ sending.message = message ∧
    sending.outcome = outcome ∧ sending.background = false

/-- The heartbeats of background threads. -/
def Beats (new : List Sending) : Prop :=
  ∀ beat ∈ new, beat.background = true ∧ isHeartbeat beat.message = true

theorem Written.heeds {version : ProtoVersion} {message : Message} {outcome : Except Error Unit}
    (written : Written version message outcome new) : Heeds new := by
  obtain ⟨sending, rfl, _⟩ := written
  exact heeds_singleton sending

theorem Beats.heeds (beats : Beats new) : Heeds new :=
  heeds_of_background fun beat member => (beats beat member).1

private theorem heeds_nil : Heeds [] := heeds_of_background fun _ impossible => by cases impossible

/-! ### The supervisor -/

def supEmits (peer : Side) (_ : SupPast) (event : SupEvent) (new : List Sending) : Prop :=
  match event with
  | ⟨⟨_, .writeFrame other version message⟩, answer⟩ =>
      if other = peer then Written version message answer new else new = []
  | _ => new = []

/-- A write to `peer` that failed, other than that of `Begin`. -/
def heededFailure (peer : Side) (event : SupEvent) : Bool :=
  failsTo peer event && !writes .successor beginId event

def Stage.spent : Side → Stage → Bool
  | .incumbent, stage => stage == .committed || stage == .halted
  | .successor, stage => stage == .dismissed || stage == .aborted || stage == .resumed ||
      stage == .halted

private theorem Stage.spent_lasting (peer : Side) : Stage.Lasting (Stage.spent peer) where
  halted := by cases peer <;> rfl
  drained := by cases peer <;> decide
  sealed := by cases peer <;> decide
  readied := by cases peer <;> decide
  turns := by
    intro stage turn due now
    cases peer <;> cases stage <;> cases due <;> first | contradiction | exact ⟨rfl, rfl⟩

private theorem heededFailure_write {other : Side} {store : SupStore} {version : ProtoVersion}
    {message : Message} {answer : Except Error Unit}
    (failed : heededFailure peer ⟨⟨store, .writeFrame other version message⟩, answer⟩ = true) :
    other = peer ∧ answer.isOk = false ∧ (peer = .successor → beginId message = none) := by
  obtain ⟨fails, other⟩ := Bool.and_eq_true_iff.mp failed
  obtain ⟨addressed, refused⟩ := Bool.and_eq_true_iff.mp fails
  obtain rfl := of_decide_eq_true addressed
  refine ⟨rfl, by simpa using refused, fun second => ?_⟩
  subst second
  simpa [writes, frameTo] using other

private theorem Stage.sends_spent (stage : Stage) (peer : Side) (message : Message)
    (heeded : peer = .successor → beginId message = none) :
    (stage.sends peer message false).spent peer = true := by
  have lost : Stage.spent peer .halted = true := by cases peer <;> rfl
  unfold Stage.sends
  cases due : stage.turn with
  | none => exact lost
  | some turn =>
      dsimp only
      split
      · next proper =>
          obtain ⟨addressed, expected⟩ := proper
          subst addressed
          cases stage <;> cases due <;> try rfl
          -- the write of `Begin` is left
          change (beginId message).isSome = true at expected
          rw [heeded rfl] at expected
          contradiction
      · exact lost

private theorem stageOf_spent (handoffId : HandoffId)
    (failed : past.any (heededFailure peer) = true) :
    (stageOf handoffId past).spent peer = true := by
  apply (Stage.spent_lasting peer).since (heededFailure peer) _ failed
  intro stage event fails
  obtain ⟨⟨store, op⟩, answer⟩ := event
  cases op with
  | writeFrame other version message =>
      obtain ⟨rfl, refused, heeded⟩ := heededFailure_write fails
      rw [Stage.after, refused]
      exact Stage.sends_spent stage other message heeded
  | _ => contradiction

/-- A failed write is the last one to its peer, unless it was that of `Begin`. -/
theorem StageOpDuty.unfailed {supervisor : Supervisor} {version : ProtoVersion}
    {message : Message} (duty : StageOpDuty supervisor past (.writeFrame peer version message)) :
    past.any (heededFailure peer) = false := by
  obtain ⟨handoffId, turn, _, due, addressed, _⟩ := duty
  apply Bool.eq_false_iff.mpr
  intro failed
  have spent := stageOf_spent handoffId failed
  subst addressed
  cases stage : stageOf handoffId past <;> rw [stage] at due spent <;> cases due <;> contradiction

private theorem supEmits_write (emission : supEmits peer past event new) (some : new ≠ []) :
    ∃ store version message answer, event = ⟨⟨store, .writeFrame peer version message⟩, answer⟩ ∧
      Written version message answer new := by
  obtain ⟨⟨store, op⟩, answer⟩ := event
  cases op with
  | writeFrame other version message =>
      unfold supEmits at emission
      dsimp only at emission
      split at emission
      · next addressed =>
          subst addressed
          exact ⟨store, version, message, answer, rfl, emission⟩
      · exact absurd emission some
  | _ => exact absurd emission some

private theorem supEmits_heeds (emission : supEmits peer past event new) : Heeds new := by
  by_cases silent : new = []
  · rw [silent]
    exact heeds_nil
  · obtain ⟨_, _, _, _, _, written⟩ := supEmits_write emission silent
    exact written.heeds

private theorem supEmits_faults (emission : supEmits peer past event new) {sending : Sending}
    (member : sending ∈ new) (failed : sending.failed = true) (heeded : sending.unheeded = false) :
    heededFailure peer event = true := by
  obtain ⟨store, version, message, answer, rfl, only, rfl, _, carried, outcome, _⟩ :=
    supEmits_write emission (List.ne_nil_of_mem member)
  obtain rfl := List.mem_singleton.mp member
  obtain ⟨_, unbegun⟩ := Bool.or_eq_false_iff.mp heeded
  rw [carried] at unbegun
  rw [Sending.failed, outcome] at failed
  have ordinary : writes .successor beginId
      ⟨⟨store, .writeFrame peer version message⟩, answer⟩ = false := by
    cases peer <;> cases message <;> first | rfl | contradiction
  rw [heededFailure, ordinary, failsTo, failed, decide_eq_true rfl]
  rfl

private theorem performHandoff_heeds {supervisor : Supervisor} {spec : SpawnSpec} {fuel : Nat}
    {events : SupPast} {rest : Process SupStore SupAns Halt HandoffOutcome}
    (run : (performHandoff supervisor spec fuel {}).Run events rest)
    (outbound : Outbound (supEmits peer) (fun _ => false) events sendings) : Heeds sendings := by
  refine (outbound.heeds (fun past => past.any (heededFailure peer)) ?_ ?_ ?_ ?_).1
  · intro past event _ failed
    rw [List.any_append, failed]
    rfl
  · intro past event new _ emission sending member failed heeded
    rw [List.any_append, List.any_cons, supEmits_faults emission member failed heeded]
    simp
  · intro past event new emission
    exact supEmits_heeds emission
  · intro before event after new split _ emission some
    obtain ⟨store, version, message, answer, rfl, _⟩ := supEmits_write emission some
    have duty : StageOpDuty supervisor before (.writeFrame peer version message) :=
      run.asked (performHandoff_stands supervisor spec fuel) split
    exact duty.unfailed

/-! ### The primitive -/

/-- What an event puts on a stream: what the main thread writes or, where
`beating` allows, what a heartbeat thread writes meanwhile. -/
def streamEmits (channel : Channel) (beating : PrimPast → PrimStore → Bool) (past : PrimPast)
    (event : PrimEvent) (new : List Sending) : Prop :=
  match event with
  | ⟨⟨store, .writeFrame other version message⟩, answer⟩ =>
      if other = channel then Written version message answer new
      else if beating past store = true then Beats new else new = []
  | ⟨⟨store, _⟩, _⟩ => if beating past store = true then Beats new else new = []

/-- The heartbeat thread of an incumbent runs beside its hooks. -/
def sessionEmits : PrimPast → PrimEvent → List Sending → Prop :=
  streamEmits .session fun _ store => store.heartbeats

def announces : PrimEvent → Bool
  | ⟨⟨_, .writeFrame .control _ message⟩, _⟩ => isAnnouncement message
  | _ => false

/-- A successor may hold a `HeartbeatGuard` from `Begin` on.  The guard borrows
what `announce_and_bind` consumes, so its thread has joined before `Ready`. -/
def mayBeat (past : PrimPast) : Bool := past.any readsBegin && !past.any announces

def controlEmits : PrimPast → PrimEvent → List Sending → Prop :=
  streamEmits .control fun past _ => mayBeat past

def writesOn (channel : Channel) : PrimEvent → Bool
  | ⟨⟨_, .writeFrame other _ _⟩, _⟩ => decide (other = channel)
  | _ => false

inductive Emission (channel : Channel) (beating : Bool) (event : PrimEvent)
    (new : List Sending) : Prop where
  | written {store : PrimStore} {version : ProtoVersion} {message : Message}
      {answer : Except Error Unit}
      (here : event = ⟨⟨store, .writeFrame channel version message⟩, answer⟩)
      (only : Written version message answer new)
  | beats (allowed : beating = true) (beside : writesOn channel event = false) (all : Beats new)
  | silent (none : new = [])

section Streams

variable {channel : Channel} {beating : PrimPast → PrimStore → Bool}

private theorem streamEmits_emission {past : PrimPast} {event : PrimEvent}
    (emits : streamEmits channel beating past event new) :
    Emission channel (beating past event.op.store) event new := by
  have beside (other : writesOn channel event = false)
      (emits : if beating past event.op.store = true then Beats new else new = []) :
      Emission channel (beating past event.op.store) event new := by
    split at emits
    · next allowed => exact .beats allowed other emits
    · exact .silent emits
  obtain ⟨⟨store, op⟩, answer⟩ := event
  cases op with
  | writeFrame other version message =>
      unfold streamEmits at emits
      dsimp only at emits
      by_cases same : other = channel
      · rw [if_pos same] at emits
        subst same
        exact .written rfl emits
      · rw [if_neg same] at emits
        exact beside (decide_eq_false same) emits
  | _ => exact beside rfl emits

private theorem streamEmits_heeds {past : PrimPast} {event : PrimEvent}
    (emits : streamEmits channel beating past event new) : Heeds new := by
  cases streamEmits_emission emits with
  | written here only => exact only.heeds
  | beats allowed beside all => exact all.heeds
  | silent none =>
      rw [none]
      exact heeds_nil

private theorem Outbound.stream_heeds {opens : PrimEvent → Bool} {past : PrimPast}
    (outbound : Outbound (streamEmits channel beating) opens past sendings)
    (faulty : PrimPast → Bool) (keeps : ∀ past event, opens event = false → faulty past = true →
      faulty (past ++ [event]) = true) (marks : ∀ past store version message cause,
      faulty (past ++ [⟨⟨store, .writeFrame channel version message⟩, .error cause⟩]) = true)
    (careful : ∀ before event after, past = before ++ event :: after →
      writesOn channel event = true ∨ writesOn channel event = false ∧
        beating before event.op.store = true → faulty before = false) : Heeds sendings := by
  refine (outbound.heeds faulty keeps ?_ ?_ ?_).1
  · intro past event new _ emits sending member failed heeded
    cases streamEmits_emission emits with
    | @written store version message answer here only =>
        obtain ⟨_, rfl, _, _, outcome, _⟩ := only
        obtain rfl := List.mem_singleton.mp member
        rw [here]
        cases answer with
        | ok _ =>
            rw [Sending.failed, outcome] at failed
            contradiction
        | error cause => exact marks past store version message cause
    | beats allowed beside all =>
        rw [Sending.unheeded, (all sending member).1] at heeded
        contradiction
    | silent none =>
        rw [none] at member
        contradiction
  · intro past event new emits
    exact streamEmits_heeds emits
  · intro before event after new split _ emits some
    apply careful before event after split
    cases streamEmits_emission emits with
    | written here only =>
        rw [here]
        exact Or.inl (decide_eq_true rfl)
    | beats allowed beside all => exact Or.inr ⟨beside, allowed⟩
    | silent none => exact absurd none some

end Streams

def OrderlyWrites (past : PrimPast) : Prop :=
  ∀ before event after, past = before ++ event :: after → WriteDuty before event.op

theorem OrderlyWrites.append_left {earlier later : PrimPast}
    (orderly : OrderlyWrites (earlier ++ later)) :
    OrderlyWrites earlier := by
  intro before event after split
  apply orderly before event (after ++ later)
  rw [split, List.append_assoc, List.cons_append]

private theorem OrderlyWrites.session_heeds {past : PrimPast} (orderly : OrderlyWrites past)
    (outbound : Outbound sessionEmits opensSession past sendings) : Heeds sendings := by
  apply Outbound.stream_heeds outbound sessionBroken
  · intro past event kept broken
    rw [sessionBroken_append, kept, broken]
    rfl
  · intro past store version message cause
    rw [sessionBroken_append]
    simp [opensSession, failsSession]
  · intro before event after split writing
    have duty := orderly before event after split
    obtain ⟨⟨store, op⟩, answer⟩ := event
    rcases writing with here | ⟨beside, beating⟩
    · cases op with
      | writeFrame other version message =>
          obtain rfl := of_decide_eq_true here
          exact duty.2
      | _ => contradiction
    · cases op with
      | writeFrame other version message =>
          cases other with
          | session => contradiction
          | control => exact absurd (duty.1.symm.trans beating) Bool.false_ne_true
      | readMessage => exact absurd (duty.1.symm.trans beating) Bool.false_ne_true
      | _ => exact duty beating

theorem OrderlyWrites.unfailed {past : PrimPast} (orderly : OrderlyWrites past)
    (beating : mayBeat past = true) : past.any failsControl = false := by
  induction past using List.reverseRecOn with
  | nil => rfl
  | append_singleton past event ih =>
      have duty := orderly past event [] rfl
      obtain ⟨begun, quiet⟩ := Bool.and_eq_true_iff.mp beating
      rw [List.any_append, Bool.not_or, Bool.and_eq_true] at quiet
      rw [List.any_append, Bool.or_eq_true] at begun
      have earlier (other : readsBegin event = false) : past.any readsBegin = true := by
        rcases begun with before | here
        · exact before
        · rw [List.any_cons, other] at here
          contradiction
      have sound (whole : past.any failsControl = false) (fine : failsControl event = false) :
          (past ++ [event]).any failsControl = false := controlWhole_append whole fine
      have settled (other : readsBegin event = false) : past.any failsControl = false :=
        ih orderly.append_left (Bool.and_eq_true_iff.mpr ⟨earlier other, quiet.1⟩)
      obtain ⟨⟨store, op⟩, answer⟩ := event
      cases op with
      | writeFrame other version message =>
          cases other with
          | session => exact sound (settled rfl) rfl
          | control =>
              -- after `Begin` the only write is the announcement, which ends the guard
              have announced := duty.2.2 (earlier rfl)
              have silent : isAnnouncement message = false := by simpa [announces] using quiet.2
              rw [announced] at silent
              contradiction
      | readMessage => exact sound duty.2 rfl
      | _ => exact sound (settled rfl) rfl

private theorem OrderlyWrites.control_heeds {past : PrimPast} (orderly : OrderlyWrites past)
    (outbound : Outbound controlEmits (fun _ => false) past sendings) : Heeds sendings := by
  apply Outbound.stream_heeds outbound fun past => past.any failsControl
  · intro past event _ failed
    rw [List.any_append, failed]
    rfl
  · intro past store version message cause
    rw [List.any_append]
    simp [failsControl]
  · intro before event after split writing
    rcases writing with here | ⟨_, beating⟩
    · have duty := orderly before event after split
      obtain ⟨⟨store, op⟩, answer⟩ := event
      cases op with
      | writeFrame other version message =>
          obtain rfl := of_decide_eq_true here
          exact duty.2.1
      | _ => contradiction
    · rw [split] at orderly
      exact orderly.append_left.unfailed beating

private theorem orderlyWrites_of_run {Value : Type} {code : PrimM Value} {store : PrimStore}
    {post : Except Error Value → PrimStore → PrimPast → Prop}
    (met : Meets WriteDuty post code store []) {events : PrimPast}
    {rest : Process PrimStore PrimAns Error Value} (run : (code store).Run events rest) :
    OrderlyWrites events := by
  intro before event after split
  exact run.asked met split

/-! ### What the readers decode -/

/-- Nothing follows a truncated frame, and the reader decodes a front of what
was passed to `write_frame`. -/
def ReadAsSent (sendings : List Sending) : Prop :=
  Stopped sendings ∧ decoded (wire sendings) <+: passed sendings

private theorem Heeds.readAsSent (heeds : Heeds sendings) (dies : Dies sendings) :
    ReadAsSent sendings :=
  ⟨heeds.stopped dies, (heeds.stopped dies).decoded_sent⟩

/-- If a stream takes nothing more once `Begin` or a heartbeat failed on it, its
reader decodes what was sent: on both streams of the supervisor, on every session
of an incumbent, on the stream that a successor inherits and on the sessions that
it serves later. -/
theorem endpoints_readAsSent {sendings : List Sending} (dies : Dies sendings) :
    (∀ supervisor spec fuel events rest peer,
      (performHandoff supervisor spec fuel {}).Run events rest →
      Outbound (supEmits peer) (fun _ => false) events sendings → ReadAsSent sendings) ∧
    (∀ host fuel store events rest, store.heartbeats = false →
      (serve host fuel store).Run events rest →
      Outbound sessionEmits opensSession events sendings → ReadAsSent sendings) ∧
    ∀ host snapshot fuel events rest, (runSuccessor host snapshot fuel {}).Run events rest →
      Outbound controlEmits (fun _ => false) events sendings ∨
        Outbound sessionEmits opensSession events sendings → ReadAsSent sendings := by
  refine ⟨?_, ?_, ?_⟩
  · intro supervisor spec fuel events rest peer run outbound
    exact (performHandoff_heeds run outbound).readAsSent dies
  · intro host fuel store events rest joined run outbound
    have orderly := orderlyWrites_of_run (serve_wary host fuel store [] joined) run
    exact (orderly.session_heeds outbound).readAsSent dies
  · intro host snapshot fuel events rest run outbound
    have writes := runSuccessor_writes host snapshot fuel (show Joined {} from rfl)
    have orderly := orderlyWrites_of_run writes run
    rcases outbound with control | session
    · exact (orderly.control_heeds control).readAsSent dies
    · exact (orderly.session_heeds session).readAsSent dies

/-! ### Streams on a schedule -/

def sentTo (peer : Side) (schedule : Message → List SendAnswer) : SupEvent → List Sending
  | ⟨⟨_, .writeFrame other version message⟩, _⟩ =>
      if other = peer then
        match returned : sendFrame (schedule message) version message with
        | some (outcome, bytes) =>
            [⟨version, message, false, outcome, bytes, schedule message, returned⟩]
        | none => []
      else []
  | _ => []

/-- The schedule gives the outcome that the history records. -/
def onSchedule (peer : Side) (schedule : Message → List SendAnswer) : SupEvent → Bool
  | ⟨⟨_, .writeFrame other version message⟩, answer⟩ =>
      other != peer || decide ((sendFrame (schedule message) version message).map Prod.fst =
        some answer)
  | _ => true

private theorem sentTo_emits {schedule : Message → List SendAnswer} (past : SupPast)
    (timed : onSchedule peer schedule event = true) :
    supEmits peer past event (sentTo peer schedule event) := by
  obtain ⟨⟨store, op⟩, answer⟩ := event
  cases op with
  | writeFrame other version message =>
      unfold supEmits sentTo
      dsimp only
      by_cases same : other = peer
      · rw [if_pos same, if_pos same]
        have answered : (sendFrame (schedule message) version message).map Prod.fst =
            some answer := by
          rcases Bool.or_eq_true_iff.mp timed with different | agrees
          · exact absurd same (by simpa using different)
          · exact of_decide_eq_true agrees
        split
        · next outcome bytes returned =>
            rw [returned] at answered
            exact ⟨_, rfl, rfl, rfl, Option.some.inj answered, rfl⟩
        · next returned =>
            rw [returned] at answered
            contradiction
      · rw [if_neg same, if_neg same]
  | _ => rfl

private theorem outbound_onSchedule {schedule : Message → List SendAnswer}
    (timed : past.all (onSchedule peer schedule) = true) :
    Outbound (supEmits peer) (fun _ => false) past (past.flatMap (sentTo peer schedule)) := by
  induction past using List.reverseRecOn with
  | nil => exact .start
  | append_singleton past event ih =>
      rw [List.all_append, Bool.and_eq_true, List.all_cons, List.all_nil, Bool.and_true] at timed
      rw [List.flatMap_append, List.flatMap_singleton]
      exact .emitted (ih timed.1) rfl (sentTo_emits past timed.2)

/-- The successor stops reading: the write of `Begin` fails with `cause`, and
that of `Abort` ends as `abort` says. -/
def stalledHandoff (cause : IoError) (abort : Except Error Unit) (past : SupPast) :
    (call : Call SupStore SupOp) → Option (SupAns call.op)
  | ⟨_, .writeFrame .successor _ (.begin _)⟩ => some (.error (.io cause))
  | ⟨_, .writeFrame .successor _ (.abort ..)⟩ => some abort
  | call => abortedHandoff.answer past call

def stalled (cause : IoError) (abort : Except Error Unit) :
    SupPast × Process SupStore SupAns Halt HandoffOutcome :=
  Program.play (stalledHandoff cause abort) 80 []
    (performHandoff rehearsalSupervisor rehearsalSpec 80 {})

/-- The front of `Begin` that gets through, and what `send` says to the rest. -/
def stalls (cause : IoError) (abort : List SendAnswer) : Message → List SendAnswer
  | .begin _ => [.sent 4, .failed cause]
  | .abort .. => abort
  | _ => [.sent 64]

def sendTimeout : IoError :=
  ⟨.wouldBlock, some .eagain, "Resource temporarily unavailable (os error 11)"⟩

def brokenSend : IoError := ⟨.brokenPipe, some (.other 32), "Broken pipe (os error 32)"⟩

def dying : List Sending → Bool
  | [] => true
  | first :: rest =>
      (!(first.failed && first.unheeded) || rest.all fun later => later.bytes.isEmpty) && dying rest

private theorem dies_of_dying (check : dying sendings = true) : Dies sendings := by
  induction sendings with
  | nil =>
      intro before sending after split
      cases before <;> contradiction
  | cons first rest ih =>
      obtain ⟨head, tail⟩ := Bool.and_eq_true_iff.mp check
      intro before sending after split failed unheeded
      cases before with
      | nil =>
          obtain ⟨rfl, rfl⟩ := List.cons.inj split
          rw [failed, unheeded, Bool.and_true, Bool.not_true, Bool.false_or] at head
          intro later member
          exact List.isEmpty_iff.mp (List.all_eq_true.mp head later member)
      | cons other before => exact ih tail before sending after (List.cons.inj split).2 failed unheeded

def brokenSendings : List Sending :=
  (stalled brokenSend (.error (.io brokenSend))).1.flatMap
    (sentTo .successor (stalls brokenSend [.failed brokenSend]))

/-- The pipe breaks in the middle of `Begin`; the reader sees `HelloAck` alone. -/
theorem endpoints_readAsSent_broken :
    brokenSendings.map Sending.failed = [false, true, true] ∧ Dies brokenSendings ∧
      ReadAsSent brokenSendings := by
  have timed : (stalled brokenSend (.error (.io brokenSend))).1.all
      (onSchedule .successor (stalls brokenSend [.failed brokenSend])) = true := by decide +kernel
  have dies : Dies brokenSendings := dies_of_dying (by decide +kernel)
  refine ⟨by decide +kernel, dies, ?_⟩
  exact (endpoints_readAsSent dies).1 rehearsalSupervisor rehearsalSpec 80 _ _ .successor
    (Program.play_run (stalledHandoff brokenSend (.error (.io brokenSend))) 80 [] _)
    (outbound_onSchedule timed)

def unsentHello : ProtoVersion × Message := (90, .hello .incumbent 1 [] 11 16 {})

/-- `Begin` times out after its length and `Abort` gets through: the reader takes
the front of `Abort` for the rest of `Begin`. -/
theorem endpoint_decodes_unsent :
    ∃ supervisor spec fuel events rest sendings frame,
      (performHandoff supervisor spec fuel {}).Run events rest ∧
      Outbound (supEmits .successor) (fun _ => false) events sendings ∧
      frame ∈ decoded (wire sendings) ∧ frame ∉ passed sendings ∧ ¬ReadAsSent sendings := by
  have timed : (stalled sendTimeout (.ok ())).1.all
      (onSchedule .successor (stalls sendTimeout [.sent 200])) = true := by decide +kernel
  have acked : encode 1 (.helloAck 1 ⟨1⟩) = .ok ((wire ((stalled sendTimeout (.ok ())).1.flatMap
      (sentTo .successor (stalls sendTimeout [.sent 200])))).take 25) := by decide +kernel
  have misread : (readMessage ((wire ((stalled sendTimeout (.ok ())).1.flatMap
      (sentTo .successor (stalls sendTimeout [.sent 200])))).drop 25)).1 = .ok unsentHello := by
    decide +kernel
  have unsent : unsentHello ∉ passed ((stalled sendTimeout (.ok ())).1.flatMap
      (sentTo .successor (stalls sendTimeout [.sent 200]))) := by decide +kernel
  generalize sent : (stalled sendTimeout (.ok ())).1.flatMap
      (sentTo .successor (stalls sendTimeout [.sent 200])) = sendings at *
  have read : unsentHello ∈ decoded (wire sendings) := by
    rw [← List.take_append_drop 25 (wire sendings), decoded_frame acked, decoded_eq, misread]
    exact List.mem_cons_of_mem _ (List.mem_append_left _ List.mem_cons_self)
  refine ⟨rehearsalSupervisor, rehearsalSpec, 80, _, _, sendings, unsentHello,
    Program.play_run (stalledHandoff sendTimeout (.ok ())) 80 [] _, ?_, read, unsent, ?_⟩
  · rw [← sent]
    exact outbound_onSchedule timed
  · intro same
    exact unsent (same.2.subset read)

end Handoff
