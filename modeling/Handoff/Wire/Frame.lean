/-
`frame.rs`: length-prefixed frames, and what a blocking reader makes of a byte
string.

A frame is a length of four bytes, a version of two bytes that the length
covers, and a payload.  `readResults` is the sequence of results that repeated
`read_message` calls return up to the end of the input.
-/

import Handoff.Wire.Codec

namespace Handoff

open Postcard (Format)

def maxFrameBytes : Nat := 2 ^ 20

def lenPrefix : Nat := 4

def versionField : Nat := 2

/-- `postcard::to_allocvec`; it has no way to fail on a `Message`. -/
def toAllocvec (message : Message) : List UInt8 := messageFormat.put message

/-- `postcard::from_bytes`: bytes after the message are ignored. -/
def fromBytes (payload : List UInt8) : Except Error Message :=
  match messageFormat.take payload with
  | .ok (message, _) => .ok message
  | .error cause => .error (.codec cause.display)

def encode (version : ProtoVersion) (message : Message) : Except Error (List UInt8) :=
  let payload := toAllocvec message
  if 2 ^ 64 ≤ versionField + payload.length then .error (.frameTooLarge (UInt32.ofNat (2 ^ 32 - 1)))
  else
    let innerLen := versionField + payload.length
    if maxFrameBytes < innerLen then .error (.frameTooLarge (UInt32.ofNat innerLen))
    else .ok (leBytes lenPrefix innerLen ++ leBytes versionField version.toNat ++ payload)

/-- `write_message` into a buffer, which takes every byte. -/
def writeMessage (sink : List UInt8) (version : ProtoVersion) (message : Message) :
    Except Error (List UInt8) := do
  let frame ← encode version message
  .ok (sink ++ frame)

/-- The error of `read_exact` at the end of the input. -/
def readExactEof : IoError := IoError.ofKind .unexpectedEof "failed to fill whole buffer"

/-- `read_exact`; at the end of the input it has consumed what was left. -/
def readExact (size : Nat) (bytes : List UInt8) : Except Error (List UInt8) × List UInt8 :=
  if size ≤ bytes.length then (.ok (bytes.take size), bytes.drop size)
  else (.error (.io readExactEof), [])

def readBody (frameLen : Nat) (bytes : List UInt8) :
    Except Error (ProtoVersion × Message) × List UInt8 :=
  match readExact versionField bytes with
  | (.error cause, rest) => (.error cause, rest)
  | (.ok version, rest) =>
      match readExact (frameLen - versionField) rest with
      | (.error cause, rest) => (.error cause, rest)
      | (.ok payload, rest) =>
          ((fromBytes payload).map fun message => (UInt16.ofNat (leValue version), message), rest)

/-- `read_message`, with the bytes that are left. -/
def readMessage (bytes : List UInt8) : Except Error (ProtoVersion × Message) × List UInt8 :=
  match readExact lenPrefix bytes with
  | (.error cause, rest) => (.error cause, rest)
  | (.ok header, rest) =>
      let frameLen := leValue header
      if frameLen < versionField then (.error (.frameMalformed (UInt32.ofNat frameLen)), rest)
      else if maxFrameBytes < frameLen then (.error (.frameTooLarge (UInt32.ofNat frameLen)), rest)
      else readBody frameLen rest

/-! ### Repeated reads -/

/-- `Err(UnexpectedEof)`, the result after which a reader stops. -/
def isEof {Value : Type} : Except Error Value → Bool
  | .error (.io cause) => cause.kind == .unexpectedEof
  | _ => false

theorem readExact_rest_le (size : Nat) (bytes : List UInt8) :
    (readExact size bytes).2.length ≤ bytes.length := by
  unfold readExact
  split
  · simp
  · simp

theorem readBody_rest_le (frameLen : Nat) (bytes : List UInt8) :
    (readBody frameLen bytes).2.length ≤ bytes.length := by
  unfold readBody
  have first := readExact_rest_le versionField bytes
  cases version : readExact versionField bytes with
  | mk outcome rest =>
      rw [version] at first
      cases outcome with
      | error cause => exact first
      | ok header =>
          have second := readExact_rest_le (frameLen - versionField) rest
          cases payload : readExact (frameLen - versionField) rest with
          | mk outcome last =>
              rw [payload] at second
              cases outcome with
              | error cause =>
                  simp only [payload]
                  exact Nat.le_trans second first
              | ok body =>
                  simp only [payload]
                  exact Nat.le_trans second first

theorem readMessage_eof_of_short {bytes : List UInt8} (short : bytes.length < lenPrefix) :
    readMessage bytes = (.error (.io readExactEof), []) := by
  rw [readMessage, readExact, if_neg (by omega)]

theorem readMessage_rest_le (bytes : List UInt8) :
    (readMessage bytes).2.length ≤ bytes.length := by
  by_cases short : bytes.length < lenPrefix
  · rw [readMessage_eof_of_short short]
    exact Nat.zero_le _
  · rw [readMessage, readExact, if_pos (by omega)]
    simp only
    split
    · rw [List.length_drop]
      exact Nat.sub_le _ _
    · split
      · rw [List.length_drop]
        exact Nat.sub_le _ _
      · have body := readBody_rest_le (leValue (bytes.take lenPrefix)) (bytes.drop lenPrefix)
        rw [List.length_drop] at body
        omega

/-- Every result but the last consumes a length prefix at least. -/
theorem readMessage_consumes {bytes : List UInt8} (more : isEof (readMessage bytes).1 = false) :
    (readMessage bytes).2.length < bytes.length := by
  by_cases short : bytes.length < lenPrefix
  · rw [readMessage_eof_of_short short] at more
    contradiction
  · have whole : readExact lenPrefix bytes = (.ok (bytes.take lenPrefix), bytes.drop lenPrefix) :=
      if_pos (by omega)
    have dropped : (bytes.drop lenPrefix).length < bytes.length := by
      rw [List.length_drop]
      unfold lenPrefix at short ⊢
      omega
    rw [readMessage, whole]
    simp only
    split
    · exact dropped
    · split
      · exact dropped
      · have body := readBody_rest_le (leValue (bytes.take lenPrefix)) (bytes.drop lenPrefix)
        omega

/-- One result of a reader, and how many bytes it has consumed by then. -/
structure Observed where
  result : Except Error (ProtoVersion × Message)
  consumed : Nat

/-- The results of repeated `read_message` on the last bytes of an input of
`total` bytes, up to the first end of input. -/
def readResults (total : Nat) (bytes : List UInt8) : List Observed :=
  let step := readMessage bytes
  let observed : Observed := ⟨step.1, total - step.2.length⟩
  if _more : isEof step.1 = false then observed :: readResults total step.2
  else [observed]
termination_by bytes.length
decreasing_by exact readMessage_consumes _more

/-! ### What was written is read back -/

theorem readExact_append {size : Nat} {front : List UInt8} (width : front.length = size)
    (rest : List UInt8) : readExact size (front ++ rest) = (.ok front, rest) := by
  rw [readExact, if_pos (by rw [List.length_append]; omega), ← width, List.take_left, List.drop_left]

theorem fromBytes_toAllocvec {message : Message} (short : (toAllocvec message).length < 2 ^ 64) :
    fromBytes (toAllocvec message) = .ok message := by
  have read := messageFormat.exact message short []
  rw [List.append_nil] at read
  rw [fromBytes, toAllocvec, read]

theorem encode_ok_iff (version : ProtoVersion) (message : Message) (frame : List UInt8) :
    encode version message = .ok frame ↔
      versionField + (toAllocvec message).length ≤ maxFrameBytes ∧
        frame = leBytes lenPrefix (versionField + (toAllocvec message).length) ++
          leBytes versionField version.toNat ++ toAllocvec message := by
  unfold encode
  simp only
  constructor
  · intro done
    split at done
    · contradiction
    · split at done
      · contradiction
      · cases done
        exact ⟨by omega, rfl⟩
  · rintro ⟨fits, rfl⟩
    have bounded : maxFrameBytes < 2 ^ 64 := by decide
    rw [if_neg (by omega), if_neg (by omega)]

theorem encode_error_iff (version : ProtoVersion) (message : Message) :
    (∃ cause, encode version message = .error cause) ↔
      maxFrameBytes < versionField + (toAllocvec message).length := by
  have spec := encode_ok_iff version message
  cases done : encode version message with
  | ok frame =>
      have fits := ((spec frame).mp done).1
      constructor
      · rintro ⟨cause, failed⟩
        contradiction
      · intro large
        omega
  | error cause =>
      constructor
      · intro _
        by_contra small
        rw [(spec _).mpr ⟨by omega, rfl⟩] at done
        contradiction
      · intro _
        exact ⟨cause, rfl⟩

theorem encode_header {version : ProtoVersion} {message : Message} {frame : List UInt8}
    (done : encode version message = .ok frame) :
    versionField ≤ leValue (frame.take lenPrefix) ∧
      leValue (frame.take lenPrefix) ≤ maxFrameBytes := by
  obtain ⟨fits, rfl⟩ := (encode_ok_iff version message frame).mp done
  have bounded : maxFrameBytes < 256 ^ lenPrefix := by decide
  rw [List.append_assoc, List.take_left' (leBytes_length lenPrefix _),
    leValue_leBytes (by omega)]
  exact ⟨Nat.le_add_right _ _, fits⟩

theorem readBody_append (version : ProtoVersion) {message : Message}
    (fits : versionField + (toAllocvec message).length ≤ maxFrameBytes) (rest : List UInt8) :
    readBody (versionField + (toAllocvec message).length)
      (leBytes versionField version.toNat ++ (toAllocvec message ++ rest)) =
        (.ok (version, message), rest) := by
  have narrow : version.toNat < 256 ^ versionField := version.toNat_lt
  have bounded : maxFrameBytes < 2 ^ 64 := by decide
  rw [readBody, readExact_append (leBytes_length versionField _), Nat.add_sub_cancel_left]
  simp only
  rw [readExact_append rfl]
  simp only
  rw [fromBytes_toAllocvec (by omega), leValue_leBytes narrow, UInt16.ofNat_toNat]
  rfl

theorem readMessage_encode {version : ProtoVersion} {message : Message} {frame : List UInt8}
    (done : encode version message = .ok frame) (rest : List UInt8) :
    readMessage (frame ++ rest) = (.ok (version, message), rest) := by
  obtain ⟨fits, rfl⟩ := (encode_ok_iff version message frame).mp done
  have bounded : maxFrameBytes < 256 ^ lenPrefix := by decide
  have body := readBody_append version fits rest
  rw [List.append_assoc, List.append_assoc, readMessage,
    readExact_append (leBytes_length lenPrefix _)]
  simp only
  rw [leValue_leBytes (by omega), if_neg (by omega), if_neg (by omega), body]

def writeMessages (sink : List UInt8) : List (ProtoVersion × Message) → Except Error (List UInt8)
  | [] => .ok sink
  | (version, message) :: rest => do
      let sink ← writeMessage sink version message
      writeMessages sink rest

def readMessages : Nat → List UInt8 →
    List (Except Error (ProtoVersion × Message)) × List UInt8
  | 0, bytes => ([], bytes)
  | count + 1, bytes =>
      let (result, rest) := readMessage bytes
      let (results, rest) := readMessages count rest
      (result :: results, rest)

theorem writeMessages_spec {sink bytes : List UInt8} {messages : List (ProtoVersion × Message)}
    (written : writeMessages sink messages = .ok bytes) :
    ∃ frames, bytes = sink ++ frames ∧
      readMessages messages.length frames = (messages.map .ok, []) := by
  induction messages generalizing sink with
  | nil =>
      cases written
      exact ⟨[], (List.append_nil _).symm, rfl⟩
  | cons first rest ih =>
      obtain ⟨version, message⟩ := first
      cases done : encode version message with
      | error cause =>
          simp only [writeMessages, writeMessage, bind, Except.bind, done] at written
          contradiction
      | ok frame =>
          simp only [writeMessages, writeMessage, bind, Except.bind, done] at written
          obtain ⟨frames, shape, read⟩ := ih written
          refine ⟨frame ++ frames, by rw [shape, List.append_assoc], ?_⟩
          simp only [List.length_cons, readMessages, readMessage_encode done, read, List.map_cons]

/-- Every stream of messages that can be written is read back as it was, with
nothing left over; what cannot be written is what exceeds the cap, and a length
prefix that was written passes the two checks of a reader. -/
theorem messages_round_trip :
    (∀ (messages : List (ProtoVersion × Message)) (bytes : List UInt8),
        writeMessages [] messages = .ok bytes →
          readMessages messages.length bytes = (messages.map .ok, [])) ∧
      (∀ (version : ProtoVersion) (message : Message),
        (∃ cause, encode version message = .error cause) ↔
          maxFrameBytes < 2 + (toAllocvec message).length) ∧
      ∀ (version : ProtoVersion) (message : Message) (frame : List UInt8),
        encode version message = .ok frame →
          2 ≤ leValue (frame.take lenPrefix) ∧ leValue (frame.take lenPrefix) ≤ maxFrameBytes := by
  refine ⟨?_, encode_error_iff, fun _ _ _ done => encode_header done⟩
  intro messages bytes written
  obtain ⟨frames, shape, read⟩ := writeMessages_spec written
  rw [List.nil_append] at shape
  rw [shape]
  exact read

theorem messages_round_trip_two :
    ∃ bytes, writeMessages [] [(1, .commit ⟨7⟩), (1, .heartbeat 300)] = .ok bytes ∧
      readMessages 2 bytes = ([.ok (1, .commit ⟨7⟩), .ok (1, .heartbeat 300)], []) := by
  have succeeds : (writeMessages [] [(1, .commit ⟨7⟩), (1, .heartbeat 300)]).isOk = true := by
    decide +kernel
  cases written : writeMessages [] [(1, .commit ⟨7⟩), (1, .heartbeat 300)] with
  | error cause =>
      rw [written] at succeeds
      cases succeeds
  | ok bytes => exact ⟨bytes, rfl, messages_round_trip.1 _ bytes written⟩

end Handoff
