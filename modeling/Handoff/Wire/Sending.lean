/-
Frames on their way into a stream.

`send_all` repeats `send` until the frame is out or a call fails, so a failed
write may leave the front of a frame in the stream.  A reader cannot tell that
front from a frame: what it decodes is what was sent, provided that nothing
follows a write that failed.
-/

import Handoff.Wire.Accumulator

namespace Handoff

variable {version : ProtoVersion} {message : Message} {frame : List UInt8}

/-! ### `send_all` -/

/-- What one call of `send` answers. -/
inductive SendAnswer where
  | sent (count : Nat)
  | failed (cause : IoError)
  deriving DecidableEq, Repr

/-- The result of `send_all` and the bytes that the stream took; `none` while
the answers run out before it returns. -/
def sendAll : List SendAnswer → List UInt8 → Option (Except IoError Unit × List UInt8)
  | _, [] => some (.ok (), [])
  | [], _ :: _ => none
  | .failed cause :: answers, buf =>
      if cause.kind = .interrupted then sendAll answers buf else some (.error cause, [])
  | .sent 0 :: _, _ => some (.error (IoError.ofKind .writeZero "write zero"), [])
  | .sent (count + 1) :: answers, buf =>
      (sendAll answers (buf.drop (count + 1))).map fun (outcome, bytes) =>
        (outcome, buf.take (count + 1) ++ bytes)

def sendFrame (answers : List SendAnswer) (version : ProtoVersion) (message : Message) :
    Option (Except Error Unit × List UInt8) :=
  match encode version message with
  | .error cause => some (.error cause, [])
  | .ok frame => (sendAll answers frame).map fun (outcome, bytes) =>
      (outcome.mapError Error.io, bytes)

/-- A success has sent everything, a failure less than that. -/
def Took (buf : List UInt8) : Except IoError Unit × List UInt8 → Prop
  | (.ok _, bytes) => bytes = buf
  | (.error _, bytes) => bytes <+: buf ∧ bytes.length < buf.length

private theorem sendAll_took {answers : List SendAnswer} {buf : List UInt8}
    {result : Except IoError Unit × List UInt8} (returned : sendAll answers buf = some result) :
    Took buf result := by
  induction answers generalizing buf result with
  | nil =>
      cases buf with
      | nil =>
          cases returned
          rfl
      | cons first rest => contradiction
  | cons answer answers ih =>
      cases buf with
      | nil =>
          cases returned
          rfl
      | cons first rest =>
          cases answer with
          | failed cause =>
              unfold sendAll at returned
              split at returned
              · exact ih returned
              · cases returned
                exact ⟨List.nil_prefix, Nat.succ_pos _⟩
          | sent count =>
              cases count with
              | zero =>
                  cases returned
                  exact ⟨List.nil_prefix, Nat.succ_pos _⟩
              | succ count =>
                  unfold sendAll at returned
                  obtain ⟨⟨outcome, bytes⟩, further, rfl⟩ := Option.map_eq_some_iff.mp returned
                  have whole := List.take_append_drop (count + 1) (first :: rest)
                  have later := ih further
                  cases outcome with
                  | ok _ =>
                      change _ ++ bytes = _
                      rw [show bytes = _ from later]
                      exact whole
                  | error cause =>
                      obtain ⟨front, shorter⟩ := later
                      have longer := (List.prefix_append_right_inj
                        ((first :: rest).take (count + 1))).mpr front
                      have total := congrArg List.length whole
                      rw [whole] at longer
                      refine ⟨longer, ?_⟩
                      rw [List.length_append] at total ⊢
                      omega

/-! ### What is in a stream -/

/-- One `write_frame` on a stream, with what it sent.  The heartbeat threads
write in the background. -/
structure Sending where
  version : ProtoVersion
  message : Message
  background : Bool
  outcome : Except Error Unit
  bytes : List UInt8
  sends : ∃ answers, sendFrame answers version message = some (outcome, bytes)

def Sending.failed (sending : Sending) : Bool := !sending.outcome.isOk

theorem Sending.delivered (sending : Sending) (done : sending.failed = false) :
    encode sending.version sending.message = .ok sending.bytes := by
  obtain ⟨answers, returned⟩ := sending.sends
  unfold sendFrame at returned
  cases encoded : encode sending.version sending.message with
  | error cause =>
      rw [encoded] at returned
      obtain ⟨failed, _⟩ := Prod.mk.inj (Option.some.inj returned)
      rw [Sending.failed, ← failed] at done
      contradiction
  | ok frame =>
      rw [encoded] at returned
      obtain ⟨⟨outcome, bytes⟩, sent, same⟩ := Option.map_eq_some_iff.mp returned
      obtain ⟨result, taken⟩ := Prod.mk.inj same
      have whole := sendAll_took sent
      cases outcome with
      | error cause =>
          rw [Sending.failed, ← result] at done
          contradiction
      | ok _ =>
          rw [← taken, show bytes = frame from whole]

private theorem Sending.truncated (sending : Sending) (failed : sending.failed = true) :
    sending.bytes = [] ∨ ∃ frame, encode sending.version sending.message = .ok frame ∧
      sending.bytes <+: frame ∧ sending.bytes.length < frame.length := by
  obtain ⟨answers, returned⟩ := sending.sends
  unfold sendFrame at returned
  cases encoded : encode sending.version sending.message with
  | error cause =>
      rw [encoded] at returned
      exact Or.inl (congrArg Prod.snd (Option.some.inj returned)).symm
  | ok frame =>
      rw [encoded] at returned
      obtain ⟨⟨outcome, bytes⟩, sent, same⟩ := Option.map_eq_some_iff.mp returned
      obtain ⟨result, taken⟩ := Prod.mk.inj same
      have part := sendAll_took sent
      cases outcome with
      | ok _ =>
          rw [Sending.failed, ← result] at failed
          contradiction
      | error cause =>
          rw [← taken]
          exact Or.inr ⟨frame, rfl, part⟩

def wire (sendings : List Sending) : List UInt8 := sendings.flatMap Sending.bytes

def passed (sendings : List Sending) : List (ProtoVersion × Message) :=
  sendings.map fun sending => (sending.version, sending.message)

def decoded (bytes : List UInt8) : List (ProtoVersion × Message) :=
  (readResults 0 bytes).filterMap fun observed => observed.result.toOption

/-- Nothing reaches the stream after a write that failed. -/
def Stopped (sendings : List Sending) : Prop :=
  ∀ before sending after, sendings = before ++ sending :: after → sending.failed = true →
    ∀ later ∈ after, later.bytes = []

/-! ### What a reader decodes -/

theorem decoded_eq (bytes : List UInt8) :
    decoded bytes = (readMessage bytes).1.toOption.toList ++
      if isEof (readMessage bytes).1 = false then decoded (readMessage bytes).2 else [] := by
  rw [decoded, readResults_eq, List.filterMap_cons]
  cases (readMessage bytes).1 with
  | ok frame => rfl
  | error cause =>
      cases isEof (Except.error cause : Except Error (ProtoVersion × Message)) <;> rfl

theorem decoded_frame (encoded : encode version message = .ok frame) (rest : List UInt8) :
    decoded (frame ++ rest) = (version, message) :: decoded rest := by
  rw [decoded_eq, readMessage_encode encoded]
  rfl

private theorem encode_length (encoded : encode version message = .ok frame) :
    frame.length = lenPrefix + leValue (frame.take lenPrefix) := by
  obtain ⟨fits, rfl⟩ := (encode_ok_iff version message frame).mp encoded
  have bounded : maxFrameBytes < 256 ^ lenPrefix := by decide
  rw [List.append_assoc, List.take_left' (leBytes_length lenPrefix _),
    leValue_leBytes (by omega), List.length_append, List.length_append, leBytes_length,
    leBytes_length]

private theorem decoded_truncated {bytes : List UInt8}
    (encoded : encode version message = .ok frame) (front : bytes <+: frame)
    (short : bytes.length < frame.length) : decoded bytes = [] := by
  have eof : readMessage bytes = (.error (.io readExactEof), []) := by
    by_cases prefixed : bytes.length < lenPrefix
    · exact readMessage_eof_of_short prefixed
    · obtain ⟨rest, rfl⟩ := front
      have header : (bytes ++ rest).take lenPrefix = bytes.take lenPrefix :=
        List.take_append_of_le_length (by omega)
      have framed := encode_header encoded
      have size := encode_length encoded
      rw [header] at framed size
      rw [readMessage_framed (by omega) framed]
      apply readBody_short
      rw [List.length_drop]
      omega
  rw [decoded_eq, eof]
  rfl

private theorem decoded_nil : decoded [] = [] := by
  rw [decoded_eq]
  rfl

variable {sendings : List Sending}

private theorem wire_silent (silent : ∀ sending ∈ sendings, sending.bytes = []) :
    wire sendings = [] := by
  rw [wire, List.flatMap_eq_nil_iff]
  exact silent

theorem Stopped.tail {first : Sending} {rest : List Sending} (stopped : Stopped (first :: rest)) :
    Stopped rest := by
  intro before sending after split
  apply stopped (first :: before) sending after
  rw [split, List.cons_append]

theorem Stopped.decoded_sent (stopped : Stopped sendings) :
    decoded (wire sendings) <+: passed sendings := by
  induction sendings with
  | nil =>
      rw [wire, List.flatMap_nil, decoded_nil]
      exact List.nil_prefix
  | cons first rest ih =>
      cases failed : first.failed with
      | false =>
          have more := decoded_frame (first.delivered failed) (wire rest)
          rw [wire, List.flatMap_cons, ← wire, more]
          exact (List.prefix_cons_inj _).mpr (ih stopped.tail)
      | true =>
          have silent := wire_silent (stopped [] first rest rfl failed)
          rw [wire, List.flatMap_cons, ← wire, silent, List.append_nil]
          have nothing : decoded first.bytes = [] := by
            rcases first.truncated failed with empty | ⟨frame, encoded, front, short⟩
            · rw [empty, decoded_nil]
            · exact decoded_truncated encoded front short
          rw [nothing]
          exact List.nil_prefix

/-! ### Failures that nobody looks at -/

def isBegin : Message → Bool
  | .begin _ => true
  | _ => false

/-- The code goes on writing after this write, whether it failed or not: a
heartbeat of a background thread, or `Begin`, which is followed by `Abort`. -/
def Sending.unheeded (sending : Sending) : Bool := sending.background || isBegin sending.message

/-- A stream that takes nothing more once such a write failed, as a stream whose
peer is gone does. -/
def Dies (sendings : List Sending) : Prop :=
  ∀ before sending after, sendings = before ++ sending :: after → sending.failed = true →
    sending.unheeded = true → ∀ later ∈ after, later.bytes = []

/-- Any other failure is followed by no write at all. -/
def Heeds (sendings : List Sending) : Prop :=
  ∀ before sending after, sendings = before ++ sending :: after → sending.failed = true →
    sending.unheeded = false → after = []

theorem Heeds.stopped (heeds : Heeds sendings) (dies : Dies sendings) : Stopped sendings := by
  intro before sending after split failed
  cases unheeded : sending.unheeded with
  | true => exact dies before sending after split failed unheeded
  | false =>
      rw [heeds before sending after split failed unheeded]
      intro later impossible
      cases impossible

theorem heeds_of_background (background : ∀ sending ∈ sendings, sending.background = true) :
    Heeds sendings := by
  intro before sending after split failed heeded
  have member : sending ∈ sendings := by
    rw [split]
    simp
  rw [Sending.unheeded, background sending member] at heeded
  contradiction

theorem heeds_singleton (only : Sending) : Heeds [only] := by
  intro before sending after split _ _
  cases before with
  | nil => exact (List.cons.inj split).2.symm
  | cons first before =>
      rw [List.cons_append] at split
      have impossible := (List.cons.inj split).2
      rw [eq_comm, List.append_eq_nil_iff] at impossible
      exact absurd impossible.2 (List.cons_ne_nil _ _)

/-! ### The writes of a history -/

section Outbound

variable {Event : Type} (emits : List Event → Event → List Sending → Prop) (opens : Event → Bool)

/-- The writes on one stream along a history: an event that opens the stream
starts it afresh, and any other adds what it emits. -/
inductive Outbound : List Event → List Sending → Prop where
  | start : Outbound [] []
  | opened {past : List Event} {sendings : List Sending} {event : Event}
      (earlier : Outbound past sendings) (fresh : opens event = true) :
      Outbound (past ++ [event]) []
  | emitted {past : List Event} {sendings new : List Sending} {event : Event}
      (earlier : Outbound past sendings) (kept : opens event = false)
      (emission : emits past event new) : Outbound (past ++ [event]) (sendings ++ new)

variable {emits opens}

/-- `faulty` marks the histories in which a write failed and was looked at.  If
nothing is emitted after such a history, failures are heeded. -/
theorem Outbound.heeds {past : List Event} (outbound : Outbound emits opens past sendings)
    (faulty : List Event → Bool) (keeps : ∀ past event, opens event = false → faulty past = true →
      faulty (past ++ [event]) = true)
    (faults : ∀ past event new, opens event = false → emits past event new → ∀ sending ∈ new,
      sending.failed = true → sending.unheeded = false → faulty (past ++ [event]) = true)
    (alone : ∀ past event new, emits past event new → Heeds new)
    (careful : ∀ before event after new, past = before ++ event :: after → opens event = false →
      emits before event new → new ≠ [] → faulty before = false) :
    Heeds sendings ∧ ∀ sending ∈ sendings, sending.failed = true → sending.unheeded = false →
      faulty past = true := by
  induction outbound with
  | start => exact ⟨heeds_of_background (by simp), by simp⟩
  | opened earlier fresh ih => exact ⟨heeds_of_background (by simp), by simp⟩
  | @emitted past sendings new event earlier kept emission ih =>
      obtain ⟨heeds, marks⟩ := ih (by
        intro before other after emitted split
        apply careful before other (after ++ [event]) emitted
        rw [split, List.append_assoc, List.cons_append])
      refine ⟨?_, ?_⟩
      · intro before sending after split failed heeded
        have unmarked (member : sending ∈ sendings) (some : new ≠ []) : False := by
          have marked := marks sending member failed heeded
          rw [careful past event [] new rfl kept emission some] at marked
          contradiction
        -- the failed write is an old one or one of the new
        rcases List.append_eq_append_iff.mp split with ⟨more, _, same⟩ | ⟨more, old, same⟩
        · exact alone past event new emission more sending after same failed heeded
        · cases more with
          | nil => exact alone past event new emission [] sending after same.symm failed heeded
          | cons first more =>
              rw [List.cons_append] at same
              obtain ⟨rfl, rest⟩ := List.cons.inj same
              by_cases silent : new = []
              · rw [rest, silent, List.append_nil]
                exact heeds before sending more old failed heeded
              · exact (unmarked (by rw [old]; simp) silent).elim
      · intro sending member failed heeded
        rcases List.mem_append.mp member with old | fresh
        · exact keeps past event kept (marks sending old failed heeded)
        · exact faults past event new kept emission sending fresh failed heeded

end Outbound

end Handoff
