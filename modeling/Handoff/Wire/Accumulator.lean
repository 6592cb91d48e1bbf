/-
`FrameAccumulator` of `frame.rs`: the reader for sockets with a receive timeout.

The bytes of a frame may arrive in any number of reads with timeouts between
them.  A source hands out a byte string under a schedule: each entry says how
much is there to be read when the reader asks, or that the read fails.  Behind
the schedule everything is there.
-/

import Handoff.Wire.Frame

namespace Handoff

variable {bytes : List UInt8} {result : Except Error (Option (ProtoVersion × Message))}

/-! ### Sources -/

/-- What one `read` finds: `more + 1` bytes, fewer at the end of the input, or an
error. -/
inductive Readiness where
  | ready (more : Nat)
  | failing (cause : IoError)
  deriving DecidableEq, Repr

structure Source where
  schedule : List Readiness
  bytes : List UInt8

def Source.read (source : Source) (room : Nat) : Except IoError (List UInt8) × Source :=
  match source.schedule with
  | [] => (.ok (source.bytes.take room), ⟨[], source.bytes.drop room⟩)
  | .ready more :: schedule =>
      (.ok (source.bytes.take (min room (more + 1))),
        ⟨schedule, source.bytes.drop (min room (more + 1))⟩)
  | .failing cause :: schedule => (.error cause, ⟨schedule, source.bytes⟩)

def Source.size (source : Source) : Nat := source.schedule.length + source.bytes.length

variable {source next : Source}

theorem Source.read_size {room : Nat} {answer : Except IoError (List UInt8)}
    (step : source.read room = (answer, next)) (some : 0 < room) (progress : answer ≠ .ok []) :
    next.size < source.size := by
  obtain ⟨schedule, bytes⟩ := source
  cases schedule with
  | nil =>
      cases step
      cases bytes with
      | nil => simp at progress
      | cons byte rest =>
          simp only [Source.size, List.length_drop, List.length_cons, List.length_nil]
          omega
  | cons first schedule =>
      cases first with
      | ready more =>
          cases step
          simp only [Source.size, List.length_drop, List.length_cons]
          omega
      | failing cause =>
          cases step
          simp only [Source.size, List.length_cons]
          omega

/-! ### The accumulator -/

structure FrameAccumulator where
  buf : List UInt8 := []
  want : Nat := 0
  deriving DecidableEq, Repr

namespace FrameAccumulator

def new : FrameAccumulator := { buf := [], want := lenPrefix }

def hasPartial (acc : FrameAccumulator) : Bool := !acc.buf.isEmpty

/-- `io::Error::from(ErrorKind::UnexpectedEof)`. -/
def pollEof : IoError := IoError.ofKind .unexpectedEof "unexpected end of file"

inductive Fill where
  | filled
  | suspended
  | failed (cause : Error)
  deriving DecidableEq, Repr

def fill (want : Nat) (buf : List UInt8) (source : Source) : Fill × List UInt8 × Source :=
  if _short : buf.length < want then
    match _step : source.read (want - buf.length) with
    | (.ok [], next) => (.failed (.io pollEof), buf, next)
    | (.ok (byte :: chunk), next) => fill want (buf ++ byte :: chunk) next
    | (.error cause, next) =>
        if cause.kind = .interrupted then fill want buf next
        else if cause.kind = .wouldBlock ∨ cause.kind = .timedOut then (.suspended, buf, next)
        else (.failed (.io cause), buf, next)
  else (.filled, buf, source)
termination_by source.size
decreasing_by
  · exact Source.read_size _step (by omega) (by simp)
  · exact Source.read_size _step (by omega) (by simp)

def decode (buf : List UInt8) : Except Error (Option (ProtoVersion × Message)) :=
  let version := UInt16.ofNat (leValue ((buf.drop lenPrefix).take versionField))
  (fromBytes (buf.drop (lenPrefix + versionField))).map fun message => some (version, message)

/-- The outer loop of `poll_read`.  Its second round wants more than a length
prefix, so there is no third. -/
def pollLoop (want : Nat) (buf : List UInt8) (source : Source) :
    Except Error (Option (ProtoVersion × Message)) × FrameAccumulator × Source :=
  match fill want buf source with
  | (.suspended, buf, source) => (.ok none, ⟨buf, want⟩, source)
  | (.failed cause, buf, source) => (.error cause, ⟨buf, want⟩, source)
  | (.filled, buf, source) =>
      if _header : want = lenPrefix then
        let frameLen := leValue (buf.take lenPrefix)
        if _least : frameLen < versionField then
          (.error (.frameMalformed (UInt32.ofNat frameLen)), new, source)
        else if maxFrameBytes < frameLen then
          (.error (.frameTooLarge (UInt32.ofNat frameLen)), new, source)
        else pollLoop (lenPrefix + frameLen) buf source
      else (decode buf, new, source)
termination_by if want = lenPrefix then 1 else 0
decreasing_by
  have larger : lenPrefix + leValue (buf.take lenPrefix) ≠ lenPrefix := by
    unfold versionField at _least
    omega
  rw [if_neg larger, if_pos _header]
  exact Nat.one_pos

def pollRead (acc : FrameAccumulator) (source : Source) :
    Except Error (Option (ProtoVersion × Message)) × FrameAccumulator × Source :=
  pollLoop (if acc.want = 0 then lenPrefix else acc.want) acc.buf source

end FrameAccumulator

/-! ### Whole frames -/

def Framed (frameLen : Nat) : Prop := versionField ≤ frameLen ∧ frameLen ≤ maxFrameBytes

theorem readMessage_framed (enough : lenPrefix ≤ bytes.length)
    (framed : Framed (leValue (bytes.take lenPrefix))) :
    readMessage bytes = readBody (leValue (bytes.take lenPrefix)) (bytes.drop lenPrefix) := by
  obtain ⟨least, most⟩ := framed
  rw [readMessage, readExact, if_pos enough]
  simp only
  rw [if_neg (by omega), if_neg (by omega)]

theorem readBody_short {frameLen : Nat} (short : bytes.length < frameLen) :
    readBody frameLen bytes = (.error (.io readExactEof), []) := by
  by_cases version : versionField ≤ bytes.length
  · rw [readBody, readExact, if_pos version]
    simp only
    rw [readExact, if_neg (by rw [List.length_drop]; omega)]
  · rw [readBody, readExact, if_neg version]

private theorem readBody_whole {frameLen : Nat} (least : versionField ≤ frameLen)
    (whole : frameLen ≤ bytes.length) :
    readBody frameLen bytes = ((fromBytes ((bytes.take frameLen).drop versionField)).map
      fun message => (UInt16.ofNat (leValue (bytes.take versionField)), message),
        bytes.drop frameLen) := by
  have payload : (bytes.take frameLen).drop versionField =
      (bytes.drop versionField).take (frameLen - versionField) := List.drop_take
  have rest : (bytes.drop versionField).drop (frameLen - versionField) = bytes.drop frameLen := by
    rw [List.drop_drop]
    congr 1
    omega
  rw [readBody, readExact, if_pos (by omega)]
  simp only
  rw [readExact, if_pos (by rw [List.length_drop]; omega), payload, rest]

/-! ### One call -/

def Readiness.tame : Readiness → Bool
  | .ready _ => true
  | .failing cause =>
      cause.kind == .interrupted || cause.kind == .wouldBlock || cause.kind == .timedOut

structure Source.Reads (source : Source) (room : Nat) (answer : Except IoError (List UInt8))
    (next : Source) : Prop where
  tame : next.schedule.all Readiness.tame = true
  moved : match answer with
    | .ok chunk => source.bytes = chunk ++ next.bytes ∧ chunk.length ≤ room ∧
        (chunk = [] → next.bytes = [])
    | .error cause => next.bytes = source.bytes ∧ (Readiness.failing cause).tame = true

private theorem Source.read_reads {room : Nat} {answer : Except IoError (List UInt8)}
    (step : source.read room = (answer, next)) (some : 0 < room)
    (tame : source.schedule.all Readiness.tame = true) : source.Reads room answer next := by
  obtain ⟨schedule, bytes⟩ := source
  have chunk (count : Nat) (least : 0 < count) (most : count ≤ room) :
      bytes = bytes.take count ++ bytes.drop count ∧ (bytes.take count).length ≤ room ∧
        (bytes.take count = [] → bytes.drop count = []) := by
    refine ⟨(List.take_append_drop count bytes).symm, ?_, ?_⟩
    · rw [List.length_take]
      omega
    · intro none
      rw [List.take_eq_nil_iff] at none
      rcases none with zero | empty
      · omega
      · rw [empty, List.drop_nil]
  cases schedule with
  | nil =>
      cases step
      exact ⟨tame, chunk room some (Nat.le_refl room)⟩
  | cons first schedule =>
      rw [List.all_cons, Bool.and_eq_true] at tame
      cases first with
      | ready more =>
          cases step
          exact ⟨tame.2, chunk (min room (more + 1)) (by omega) (Nat.min_le_left _ _)⟩
      | failing cause =>
          cases step
          exact ⟨tame.2, rfl, tame.1⟩

variable {acc : FrameAccumulator}

namespace FrameAccumulator

/-- How the inner loop ends, in terms of the bytes it moves into the buffer. -/
structure Filling (want : Nat) (buf : List UInt8) (source : Source) (outcome : Fill)
    (later : List UInt8) (next : Source) : Prop where
  tame : next.schedule.all Readiness.tame = true
  moved : later ++ next.bytes = buf ++ source.bytes
  grows : buf.length ≤ later.length
  ending : match outcome with
    | .filled => later.length = want ∧ next.size ≤ source.size ∧
        (buf.length < want → next.size < source.size)
    | .suspended => later.length < want ∧ next.size < source.size
    | .failed cause => later.length < want ∧ cause = .io pollEof ∧ next.bytes = []

variable {buf : List UInt8}

theorem Filling.after {want : Nat} {first later : List UInt8} {middle : Source} {outcome : Fill}
    (moved : first ++ middle.bytes = buf ++ source.bytes) (grows : buf.length ≤ first.length)
    (smaller : middle.size < source.size) (rest : Filling want first middle outcome later next) :
    Filling want buf source outcome later next := by
  refine ⟨rest.tame, rest.moved.trans moved, Nat.le_trans grows rest.grows, ?_⟩
  have ending := rest.ending
  cases outcome with
  | filled => exact ⟨ending.1, by omega, fun _ => by omega⟩
  | suspended => exact ⟨ending.1, by omega⟩
  | failed cause => exact ending

private theorem fill_filling {want : Nat} (fits : buf.length ≤ want)
    (tame : source.schedule.all Readiness.tame = true) :
    Filling want buf source (fill want buf source).1 (fill want buf source).2.1
      (fill want buf source).2.2 := by
  fun_induction fill want buf source with
  | case1 buf source short next step =>
      have reads := Source.read_reads step (by omega) tame
      obtain ⟨moved, _, ended⟩ := reads.moved
      exact ⟨reads.tame, by rw [moved, List.nil_append], Nat.le_refl _, short, rfl, ended rfl⟩
  | case2 buf source short byte chunk next step ih =>
      have reads := Source.read_reads step (by omega) tame
      obtain ⟨moved, bounded, _⟩ := reads.moved
      apply Filling.after _ _ (Source.read_size step (by omega) (by simp))
      · exact ih (by rw [List.length_append]; omega) reads.tame
      · rw [moved, List.append_assoc]
      · rw [List.length_append]
        omega
  | case3 buf source short cause next step interrupted ih =>
      have reads := Source.read_reads step (by omega) tame
      apply Filling.after _ (Nat.le_refl _) (Source.read_size step (by omega) (by simp))
      · exact ih fits reads.tame
      · rw [reads.moved.1]
  | case4 buf source short cause next step interrupted waiting =>
      have reads := Source.read_reads step (by omega) tame
      exact ⟨reads.tame, by rw [reads.moved.1], Nat.le_refl _, short,
        Source.read_size step (by omega) (by simp)⟩
  | case5 buf source short cause next step interrupted waiting =>
      have reads := Source.read_reads step (by omega) tame
      have kinds := reads.moved.2
      rw [Readiness.tame, Bool.or_eq_true, Bool.or_eq_true, beq_iff_eq, beq_iff_eq,
        beq_iff_eq] at kinds
      rw [not_or] at waiting
      rcases kinds with (first | second) | third
      · contradiction
      · exact absurd second waiting.1
      · exact absurd third waiting.2
  | case6 buf source full =>
      exact ⟨tame, rfl, Nat.le_refl _, Nat.le_antisymm fits (Nat.le_of_not_lt full), Nat.le_refl _,
        fun short => absurd short full⟩

private theorem filling_of_fill {want : Nat} {later : List UInt8} {outcome : Fill}
    (fits : buf.length ≤ want) (tame : source.schedule.all Readiness.tame = true)
    (step : fill want buf source = (outcome, later, next)) :
    Filling want buf source outcome later next := by
  have filling := fill_filling fits tame
  rw [step] at filling
  exact filling

/-- The buffer ends inside a frame: inside the length prefix, or behind one that
passed the checks. -/
def Midway (acc : FrameAccumulator) : Prop :=
  acc.buf.length < acc.want ∧
    (acc.want = lenPrefix ∨
      lenPrefix ≤ acc.buf.length ∧ Framed (leValue (acc.buf.take lenPrefix)) ∧
        acc.want = lenPrefix + leValue (acc.buf.take lenPrefix))

private theorem midway_new : Midway new := ⟨by decide, Or.inl rfl⟩

/-- What a call settles; `Ok(None)` settles nothing. -/
def settled : Except Error (Option (ProtoVersion × Message)) →
    Option (Except Error (ProtoVersion × Message))
  | .ok none => none
  | .ok (some frame) => some (.ok frame)
  | .error cause => some (.error cause)

/-- A result without the text of an I/O error: the two readers word the end of
the input differently. -/
def plain {Value : Type} : Except Error Value → Except Error Value
  | .error (.io cause) => .error (.io (IoError.ofKind cause.kind ""))
  | other => other

/-- What one call does with the bytes from the start of the current frame on. -/
structure Polling (bytes : List UInt8) (source : Source)
    (result : Except Error (Option (ProtoVersion × Message))) (later : FrameAccumulator)
    (next : Source) : Prop where
  tame : next.schedule.all Readiness.tame = true
  outcome : match settled result with
    | none => Midway later ∧ later.buf ++ next.bytes = bytes ∧ next.size < source.size
    | some read => plain read = plain (readMessage bytes).1 ∧ next.bytes = (readMessage bytes).2 ∧
        (isEof read = false → later = new ∧ next.size < source.size)

theorem Polling.mono {middle : Source} {later : FrameAccumulator}
    (polling : Polling bytes middle result later next) (smaller : middle.size < source.size) :
    Polling bytes source result later next := by
  refine ⟨polling.tame, ?_⟩
  have outcome := polling.outcome
  cases kind : settled result with
  | none =>
      rw [kind] at outcome
      exact ⟨outcome.1, outcome.2.1, by omega⟩
  | some read =>
      rw [kind] at outcome
      refine ⟨outcome.1, outcome.2.1, ?_⟩
      intro more
      have fresh := outcome.2.2 more
      exact ⟨fresh.1, by omega⟩

private theorem settled_decode (buf : List UInt8) :
    settled (decode buf) = some ((fromBytes (buf.drop (lenPrefix + versionField))).map
      fun message => (UInt16.ofNat (leValue ((buf.drop lenPrefix).take versionField)), message)) := by
  unfold decode
  cases fromBytes (buf.drop (lenPrefix + versionField)) <;> rfl

/-- The round that waits for the rest of a frame whose length is known. -/
private theorem pollLoop_body (buf : List UInt8) (source : Source) (header : lenPrefix ≤ buf.length)
    (framed : Framed (leValue (buf.take lenPrefix)))
    (short : buf.length < lenPrefix + leValue (buf.take lenPrefix))
    (tame : source.schedule.all Readiness.tame = true) :
    Polling (buf ++ source.bytes) source
      (pollLoop (lenPrefix + leValue (buf.take lenPrefix)) buf source).1
      (pollLoop (lenPrefix + leValue (buf.take lenPrefix)) buf source).2.1
      (pollLoop (lenPrefix + leValue (buf.take lenPrefix)) buf source).2.2 := by
  obtain ⟨frameLen, length⟩ : ∃ frameLen, frameLen = leValue (buf.take lenPrefix) := ⟨_, rfl⟩
  rw [← length] at framed short ⊢
  have prefixed : (buf ++ source.bytes).take lenPrefix = buf.take lenPrefix :=
    List.take_append_of_le_length header
  have reference : readMessage (buf ++ source.bytes) =
      readBody frameLen ((buf ++ source.bytes).drop lenPrefix) := by
    rw [length, ← prefixed]
    apply readMessage_framed
    · rw [List.length_append]
      omega
    · rw [prefixed, ← length]
      exact framed
  have larger : lenPrefix + frameLen ≠ lenPrefix := by
    have least := framed.1
    unfold versionField at least
    omega
  unfold pollLoop
  cases step : fill (lenPrefix + frameLen) buf source with
  | mk outcome rest =>
      obtain ⟨later, next⟩ := rest
      have filling := filling_of_fill (Nat.le_of_lt short) tame step
      have ending := filling.ending
      have moved := filling.moved
      have least := framed.1
      cases outcome with
      | suspended =>
          have kept : later.take lenPrefix = buf.take lenPrefix := by
            rw [← prefixed, ← moved]
            exact (List.take_append_of_le_length (Nat.le_trans header filling.grows)).symm
          refine ⟨filling.tame, ⟨ending.1, Or.inr ⟨?_, ?_, ?_⟩⟩, moved, ending.2⟩
          · exact Nat.le_trans header filling.grows
          · rw [kept, ← length]
            exact framed
          · rw [kept, ← length]
      | failed cause =>
          obtain ⟨missing, rfl, ended⟩ := ending
          refine ⟨filling.tame, ?_⟩
          simp only [settled]
          have total : (buf ++ source.bytes).length < lenPrefix + frameLen := by
            rw [← moved, ended, List.append_nil]
            exact missing
          rw [reference, readBody_short (by rw [List.length_drop]; omega)]
          exact ⟨rfl, ended, fun more => by contradiction⟩
      | filled =>
          simp only
          rw [dif_neg larger]
          refine ⟨filling.tame, ?_⟩
          simp only [settled_decode]
          have body : (buf ++ source.bytes).drop lenPrefix =
              later.drop lenPrefix ++ next.bytes := by
            rw [← moved, List.drop_append_of_le_length (by rw [ending.1]; omega)]
          have sized : (later.drop lenPrefix).length = frameLen := by
            rw [List.length_drop, ending.1]
            omega
          rw [reference, readBody_whole least (by rw [body, List.length_append]; omega), body,
            List.take_left' sized, List.drop_left' sized, List.drop_drop,
            List.take_append_of_le_length (by omega)]
          exact ⟨rfl, rfl, fun _ => ⟨trivial, ending.2.2 short⟩⟩

/-- The round that waits for the length prefix; a prefix that passes the checks
is followed by the other round. -/
private theorem pollLoop_header (short : buf.length < lenPrefix)
    (tame : source.schedule.all Readiness.tame = true) :
    Polling (buf ++ source.bytes) source (pollLoop lenPrefix buf source).1
      (pollLoop lenPrefix buf source).2.1 (pollLoop lenPrefix buf source).2.2 := by
  unfold pollLoop
  cases step : fill lenPrefix buf source with
  | mk outcome rest =>
      obtain ⟨later, next⟩ := rest
      have filling := filling_of_fill (Nat.le_of_lt short) tame step
      have ending := filling.ending
      have moved := filling.moved
      cases outcome with
      | suspended => exact ⟨filling.tame, ⟨ending.1, Or.inl rfl⟩, moved, ending.2⟩
      | failed cause =>
          obtain ⟨missing, rfl, ended⟩ := ending
          refine ⟨filling.tame, ?_⟩
          simp only [settled]
          have total : (buf ++ source.bytes).length < lenPrefix := by
            rw [← moved, ended, List.append_nil]
            exact missing
          rw [readMessage_eof_of_short total]
          exact ⟨rfl, ended, fun more => by contradiction⟩
      | filled =>
          obtain ⟨width, _, smaller⟩ := ending
          have whole : later.take lenPrefix = later := List.take_of_length_le (by omega)
          have reference : readExact lenPrefix (buf ++ source.bytes) =
              (.ok (later.take lenPrefix), next.bytes) := by
            rw [← moved, whole]
            exact readExact_append width next.bytes
          simp only
          rw [dif_pos trivial]
          split
          · rename_i least
            refine ⟨filling.tame, ?_⟩
            simp only [settled, readMessage, reference]
            rw [if_pos least]
            exact ⟨rfl, rfl, fun _ => ⟨trivial, smaller short⟩⟩
          · rename_i least
            split
            · rename_i most
              refine ⟨filling.tame, ?_⟩
              simp only [settled, readMessage, reference]
              rw [if_neg least, if_pos most]
              exact ⟨rfl, rfl, fun _ => ⟨trivial, smaller short⟩⟩
            · rename_i most
              have body := pollLoop_body later next (by omega)
                ⟨by omega, by omega⟩ (by unfold versionField at least; omega) filling.tame
              rw [moved] at body
              exact body.mono (smaller short)

private theorem pollRead_polling (pending : Midway acc)
    (tame : source.schedule.all Readiness.tame = true) :
    Polling (acc.buf ++ source.bytes) source (acc.pollRead source).1 (acc.pollRead source).2.1
      (acc.pollRead source).2.2 := by
  obtain ⟨short, stage⟩ := pending
  have wanted : acc.want ≠ 0 := by omega
  unfold pollRead
  rw [if_neg wanted]
  rcases stage with header | ⟨enough, framed, body⟩
  · rw [header] at short ⊢
    exact pollLoop_header short tame
  · rw [body] at short ⊢
    exact pollLoop_body acc.buf source enough framed short tame

end FrameAccumulator

/-! ### Whole runs -/

open FrameAccumulator (pollRead settled plain Midway Polling)

/-- One call of `poll_read` as its caller sees it: the result, how much of the
input is consumed by then and `has_partial()`. -/
structure PollObserved where
  result : Except Error (Option (ProtoVersion × Message))
  consumed : Nat
  hasPartial : Bool

/-- At most `count` calls on the last bytes of an input of `total` bytes, up to
the first end of input. -/
def pollResults (total : Nat) : Nat → FrameAccumulator → Source → List PollObserved
  | 0, _, _ => []
  | count + 1, acc, source =>
      let (result, later, next) := acc.pollRead source
      let observed : PollObserved := ⟨result, total - next.bytes.length, later.hasPartial⟩
      if isEof result then [observed] else observed :: pollResults total count later next

/-- What a call settles, compared without the text of an I/O error. -/
def PollObserved.settled (poll : PollObserved) : Option Observed :=
  (FrameAccumulator.settled poll.result).map fun read => ⟨plain read, poll.consumed⟩

def Observed.plain (observed : Observed) : Observed :=
  ⟨FrameAccumulator.plain observed.result, observed.consumed⟩

private theorem isEof_plain {Value : Type} (result : Except Error Value) :
    isEof (plain result) = isEof result := by
  cases result with
  | ok value => rfl
  | error cause => cases cause <;> rfl

private theorem isEof_settled : isEof result = (settled result).any isEof := by
  cases result with
  | ok frame => cases frame <;> rfl
  | error cause => cases cause <;> rfl

theorem readResults_eq (total : Nat) (bytes : List UInt8) :
    readResults total bytes =
      ⟨(readMessage bytes).1, total - (readMessage bytes).2.length⟩ ::
        if isEof (readMessage bytes).1 = false then readResults total (readMessage bytes).2
        else [] := by
  rw [readResults]
  split <;> simp_all

private theorem readResults_consumed (total : Nat) (bytes : List UInt8) {observed : Observed}
    (member : observed ∈ readResults total bytes) :
    total - bytes.length ≤ observed.consumed := by
  induction size : bytes.length using Nat.strong_induction_on generalizing bytes with
  | _ size ih =>
      have rest := readMessage_rest_le bytes
      rw [readResults_eq] at member
      rcases List.mem_cons.mp member with same | later
      · rw [same]
        simp only
        omega
      · split at later
        · rename_i more
          have shorter := readMessage_consumes more
          have next := ih _ (by omega) (readMessage bytes).2 later rfl
          omega
        · contradiction

/-- Past a buffered part of a frame, no result comes before the frame is complete. -/
private theorem readMessage_beyond (pending : Midway acc) (rest : List UInt8)
    (more : isEof (readMessage (acc.buf ++ rest)).1 = false) :
    (readMessage (acc.buf ++ rest)).2.length < rest.length := by
  obtain ⟨short, stage⟩ := pending
  have enough : lenPrefix ≤ (acc.buf ++ rest).length := by
    by_contra few
    rw [readMessage_eof_of_short (by omega)] at more
    contradiction
  rw [List.length_append] at enough
  rcases stage with header | ⟨buffered, framed, body⟩
  · have dropped : ((acc.buf ++ rest).drop lenPrefix).length < rest.length := by
      rw [List.length_drop, List.length_append]
      omega
    rw [readMessage, readExact, if_pos (by rw [List.length_append]; exact enough)]
    simp only
    split
    · exact dropped
    · split
      · exact dropped
      · have left := readBody_rest_le (leValue ((acc.buf ++ rest).take lenPrefix))
          ((acc.buf ++ rest).drop lenPrefix)
        omega
  · have prefixed : (acc.buf ++ rest).take lenPrefix = acc.buf.take lenPrefix :=
      List.take_append_of_le_length buffered
    rw [← prefixed] at framed body
    rw [readMessage_framed (by rw [List.length_append]; exact enough) framed] at more ⊢
    by_cases whole : leValue ((acc.buf ++ rest).take lenPrefix) ≤
        ((acc.buf ++ rest).drop lenPrefix).length
    · rw [readBody_whole framed.1 whole]
      simp only [List.length_drop, List.length_append] at whole ⊢
      omega
    · rw [readBody_short (by omega)] at more
      contradiction

/-- What the calls from one point on have in common with the reads of the bytes
from the start of the current frame on. -/
structure Agrees (total : Nat) (bytes : List UInt8) (polls : List PollObserved) : Prop where
  settles : polls.filterMap PollObserved.settled = (readResults total bytes).map Observed.plain
  partials : ∀ poll ∈ polls, poll.result = .ok none → (poll.hasPartial = true ↔
    poll.consumed ≠ total - bytes.length ∧ ∀ observed ∈ readResults total bytes,
      isEof observed.result = false → observed.consumed ≠ poll.consumed)
  after : ∀ poll ∈ polls, total - bytes.length ≤ poll.consumed

private theorem readResults_beyond (pending : Midway acc) {total : Nat} {rest : List UInt8}
    (within : (acc.buf ++ rest).length ≤ total) {observed : Observed}
    (member : observed ∈ readResults total (acc.buf ++ rest))
    (more : isEof observed.result = false) : total - rest.length < observed.consumed := by
  rw [List.length_append] at within
  rw [readResults_eq] at member
  rcases List.mem_cons.mp member with same | later
  · rw [same] at more ⊢
    have beyond := readMessage_beyond pending rest more
    simp only
    omega
  · split at later
    · rename_i first
      have beyond := readMessage_beyond pending rest first
      have consumed := readResults_consumed total _ later
      omega
    · contradiction

namespace Agrees

variable {total : Nat} {bytes : List UInt8} {polls : List PollObserved}

theorem waiting {later : FrameAccumulator} (rest : Agrees total bytes polls)
    (pending : Midway later) (moved : later.buf ++ next.bytes = bytes)
    (within : bytes.length ≤ total) :
    Agrees total bytes (⟨.ok none, total - next.bytes.length, later.hasPartial⟩ :: polls) := by
  have sizes : later.buf.length + next.bytes.length = bytes.length := by
    rw [← moved, List.length_append]
  constructor
  · rw [List.filterMap_cons_none rfl]
    exact rest.settles
  · intro poll member quiet
    rcases List.mem_cons.mp member with same | further
    · rw [same]
      simp only [FrameAccumulator.hasPartial, Bool.not_eq_true', List.isEmpty_eq_false_iff]
      constructor
      · intro buffered
        have some := List.length_pos_of_ne_nil buffered
        refine ⟨by omega, ?_⟩
        intro observed inResults more
        rw [← moved] at inResults
        have beyond := readResults_beyond pending (by rw [moved]; exact within) inResults more
        omega
      · rintro ⟨apart, _⟩ empty
        rw [empty, List.length_nil] at sizes
        omega
    · exact rest.partials poll further quiet
  · intro poll member
    rcases List.mem_cons.mp member with same | further
    · rw [same]
      simp only
      omega
    · exact rest.after poll further

theorem settling {read : Except Error (ProtoVersion × Message)} {hasPartial : Bool}
    (kind : settled result = some read) (same : plain read = plain (readMessage bytes).1)
    (more : isEof read = false) (within : bytes.length ≤ total)
    (rest : Agrees total (readMessage bytes).2 polls) :
    Agrees total bytes (⟨result, total - (readMessage bytes).2.length, hasPartial⟩ :: polls) := by
  have reference : isEof (readMessage bytes).1 = false := by
    rw [← isEof_plain, ← same, isEof_plain]
    exact more
  have shorter := readMessage_consumes reference
  have results := readResults_eq total bytes
  rw [if_pos reference] at results
  constructor
  · rw [results, List.map_cons, ← rest.settles]
    apply List.filterMap_cons_some
    rw [PollObserved.settled, kind]
    change some (Observed.mk (plain read) _) = some (Observed.plain ⟨_, _⟩)
    rw [same]
    rfl
  · intro poll member quiet
    rcases List.mem_cons.mp member with here | further
    · rw [here] at quiet
      simp only at quiet
      rw [quiet] at kind
      contradiction
    · have after := rest.after poll further
      rw [rest.partials poll further quiet, results]
      constructor
      · rintro ⟨apart, others⟩
        refine ⟨by omega, ?_⟩
        intro observed inResults nonEof
        rcases List.mem_cons.mp inResults with first | later
        · rw [first]
          simp only
          omega
        · exact others observed later nonEof
      · rintro ⟨_, others⟩
        refine ⟨?_, fun observed later => others observed (List.mem_cons_of_mem _ later)⟩
        have first := others _ List.mem_cons_self reference
        simp only at first
        omega
  · intro poll member
    rcases List.mem_cons.mp member with here | further
    · rw [here]
      simp only
      omega
    · have after := rest.after poll further
      omega

theorem ended {read : Except Error (ProtoVersion × Message)} {hasPartial : Bool}
    (kind : settled result = some read) (same : plain read = plain (readMessage bytes).1)
    (last : isEof read = true) :
    Agrees total bytes [⟨result, total - (readMessage bytes).2.length, hasPartial⟩] := by
  have reference : isEof (readMessage bytes).1 = true := by
    rw [← isEof_plain, ← same, isEof_plain]
    exact last
  have results := readResults_eq total bytes
  rw [reference, if_neg (by decide)] at results
  constructor
  · rw [results, List.map_singleton]
    apply List.filterMap_cons_some
    rw [PollObserved.settled, kind]
    change some (Observed.mk (plain read) _) = some (Observed.plain ⟨_, _⟩)
    rw [same]
    rfl
  · intro poll member quiet
    rw [List.mem_singleton.mp member] at quiet
    simp only at quiet
    rw [quiet] at kind
    contradiction
  · intro poll member
    have rest := readMessage_rest_le bytes
    rw [List.mem_singleton.mp member]
    simp only
    omega

end Agrees

private theorem pollResults_agrees {count : Nat} (total : Nat) (source : Source)
    (pending : Midway acc) (tame : source.schedule.all Readiness.tame = true)
    (enough : source.size < count) (within : (acc.buf ++ source.bytes).length ≤ total) :
    Agrees total (acc.buf ++ source.bytes) (pollResults total count acc source) := by
  induction count generalizing acc source with
  | zero => omega
  | succ count ih =>
      have polling := FrameAccumulator.pollRead_polling pending tame
      cases step : acc.pollRead source with
      | mk result rest =>
          obtain ⟨later, next⟩ := rest
          rw [step] at polling
          have outcome := polling.outcome
          have nextTame := polling.tame
          simp only [pollResults, step]
          simp only at outcome nextTame
          rw [isEof_settled]
          cases kind : settled result with
          | none =>
              rw [kind] at outcome
              obtain ⟨nextMidway, moved, smaller⟩ := outcome
              have silent : result = .ok none := by
                cases result with
                | ok frame =>
                    cases frame with
                    | none => rfl
                    | some frame => contradiction
                | error cause => contradiction
              rw [silent]
              apply Agrees.waiting _ nextMidway moved within
              rw [← moved]
              exact ih next nextMidway nextTame (by omega) (by rw [moved]; exact within)
          | some read =>
              rw [kind] at outcome
              obtain ⟨same, moved, fresh⟩ := outcome
              rw [moved]
              cases last : isEof read with
              | true =>
                  rw [Option.any_some, last]
                  exact Agrees.ended kind same last
              | false =>
                  obtain ⟨rfl, smaller⟩ := fresh last
                  rw [Option.any_some, last]
                  apply Agrees.settling kind same last within
                  have left := readMessage_rest_le (acc.buf ++ source.bytes)
                  rw [← moved] at left ⊢
                  exact ih next FrameAccumulator.midway_new nextTame (by omega) (by
                    rw [FrameAccumulator.new, List.nil_append]
                    omega)

/-- After `consumed` bytes a reader of the whole input would be inside a frame:
it would not be where one of its results leaves it, nor at the start. -/
def InsideFrame (bytes : List UInt8) (consumed : Nat) : Prop :=
  consumed ≠ 0 ∧ ∀ observed ∈ readResults bytes.length bytes,
    isEof observed.result = false → observed.consumed ≠ consumed

/-- However the input is cut up and interrupted, enough calls of `poll_read`
settle what `read_message` would return on the input in one piece, at the same
places; and `has_partial` says whether a call that settled nothing stopped inside
a frame. -/
theorem pollResults_refine (bytes : List UInt8) (schedule : List Readiness)
    (tame : schedule.all Readiness.tame = true) (count : Nat)
    (enough : schedule.length + bytes.length < count) :
    (pollResults bytes.length count .new ⟨schedule, bytes⟩).filterMap PollObserved.settled =
        (readResults bytes.length bytes).map Observed.plain ∧
      ∀ poll ∈ pollResults bytes.length count .new ⟨schedule, bytes⟩, poll.result = .ok none →
        (poll.hasPartial = true ↔ InsideFrame bytes poll.consumed) := by
  have agrees := pollResults_agrees bytes.length ⟨schedule, bytes⟩
    FrameAccumulator.midway_new tame enough (Nat.le_refl _)
  refine ⟨agrees.settles, ?_⟩
  intro poll member quiet
  rw [agrees.partials poll member quiet]
  change (poll.consumed ≠ bytes.length - bytes.length ∧ _) ↔ _
  rw [Nat.sub_self]
  exact Iff.rfl

/-- A heartbeat that arrives in two parts with a timeout between them, and an
interrupted read before the second. -/
theorem pollResults_refine_split :
    (pollResults 8 16 .new ⟨[.ready 2, .failing (IoError.ofKind .timedOut "timed out"),
        .failing (IoError.ofKind .interrupted "interrupted")], [4, 0, 0, 0, 1, 0, 13, 7]⟩).filterMap
        PollObserved.settled =
      (readResults 8 [4, 0, 0, 0, 1, 0, 13, 7]).map Observed.plain :=
  (pollResults_refine [4, 0, 0, 0, 1, 0, 13, 7] [.ready 2,
    .failing (IoError.ofKind .timedOut "timed out"),
    .failing (IoError.ofKind .interrupted "interrupted")] (by decide) 16 (by decide)).1

end Handoff
