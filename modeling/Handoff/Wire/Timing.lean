/-
The clock in `FrameAccumulator::poll_read`.

A receive timeout bounds one socket read.  `poll_read` issues as many of them as
the frame needs, so the time of a whole call depends on when the parts of a frame
arrive.  The two loops are stated once more over a socket on which bytes come up
at instants and whose reads are recorded; without the time they are the loops of
`Accumulator`.
-/

import Handoff.Primitive.Ops
import Handoff.Wire.Accumulator

namespace Handoff

variable {room : Nat} {answer : Except IoError (List UInt8)}

/-! ### Sockets on which bytes come up -/

/-- Bytes for one read, or an error; a signal is one that interrupts the read. -/
inductive Arrival where
  | bytes (first : UInt8) (rest : List UInt8)
  | failing (cause : IoError)

structure SocketRead where
  issued : Instant
  returned : Instant

/-- The peer closes at `closed`, behind everything else. -/
structure Socket where
  arrivals : List (Instant × Arrival)
  closed : Instant
  armed : Option Duration
  clock : Instant
  reads : List SocketRead := []

/-- A read that is issued at `clock` still sees what comes up at `instant`. -/
def inReach (armed : Option Duration) (clock instant : Instant) : Bool :=
  armed.all fun timeout => decide (instant ≤ clock + timeout)

/-- `EAGAIN`, for a receive timeout that is over. -/
def recvTimedOut : IoError := IoError.ofKind .wouldBlock "Resource temporarily unavailable"

/-- What a read has left of the bytes that came up together. -/
def unread (instant : Instant) : List UInt8 → List (Instant × Arrival)
  | [] => []
  | first :: rest => [(instant, .bytes first rest)]

variable {socket next : Socket}

namespace Socket

def upcoming (socket : Socket) : Instant :=
  match socket.arrivals with
  | [] => socket.closed
  | (instant, _) :: _ => instant

def found (socket : Socket) (room : Nat) : Except IoError (List UInt8) × List (Instant × Arrival) :=
  match socket.arrivals with
  | [] => (.ok [], [])
  | (instant, .bytes first rest) :: more =>
      (.ok ((first :: rest).take room), unread instant ((first :: rest).drop room) ++ more)
  | (_, .failing cause) :: more => (.error cause, more)

/-- A read returns at `instant`, with this left to be read. -/
def returning (socket : Socket) (instant : Instant) (left : List (Instant × Arrival)) : Socket :=
  { socket with
    arrivals := left
    clock := instant
    reads := socket.reads ++ [⟨socket.clock, instant⟩] }

/-- A read waits for what comes up next, for the armed receive timeout at most. -/
def read (socket : Socket) (room : Nat) : Except IoError (List UInt8) × Socket :=
  if inReach socket.armed socket.clock socket.upcoming then
    ((socket.found room).1,
      socket.returning (max socket.clock socket.upcoming) (socket.found room).2)
  else
    (.error recvTimedOut,
      socket.returning (socket.clock + socket.armed.getD 0) socket.arrivals)

def arrivalSize : Instant × Arrival → Nat
  | (_, .bytes _ rest) => rest.length + 1
  | (_, .failing _) => 1

def size (socket : Socket) : Nat := (socket.arrivals.map arrivalSize).sum

private theorem unread_size (instant : Instant) (bytes : List UInt8) :
    ((unread instant bytes).map arrivalSize).sum = bytes.length := by
  cases bytes <;> simp [unread, arrivalSize]

private theorem found_size (some : 0 < room) (progress : (socket.found room).1 ≠ .ok []) :
    ((socket.found room).2.map arrivalSize).sum < socket.size := by
  unfold found size at *
  split at progress
  · contradiction
  · next instant first rest more shape =>
      rw [shape]
      simp only [List.map_append, List.sum_append, unread_size, List.length_drop, List.length_cons,
        List.map_cons, List.sum_cons, arrivalSize]
      omega
  · next instant cause more shape =>
      rw [shape]
      simp only [List.map_cons, List.sum_cons, arrivalSize]
      omega

theorem read_size (step : socket.read room = (answer, next)) (some : 0 < room)
    (progress : answer ≠ .ok []) (active : answer ≠ .error recvTimedOut) :
    next.size < socket.size := by
  unfold read at step
  split at step
  · cases step
    exact found_size some progress
  · cases step
    contradiction

end Socket

/-! ### The loops of `poll_read` -/

namespace FrameAccumulator

def fillTimed (want : Nat) (buf : List UInt8) (socket : Socket) : Fill × List UInt8 × Socket :=
  if _short : buf.length < want then
    match _step : socket.read (want - buf.length) with
    | (.ok [], next) => (.failed (.io pollEof), buf, next)
    | (.ok (byte :: chunk), next) => fillTimed want (buf ++ byte :: chunk) next
    | (.error cause, next) =>
        if _interrupted : cause.kind = .interrupted then fillTimed want buf next
        else if cause.kind = .wouldBlock ∨ cause.kind = .timedOut then (.suspended, buf, next)
        else (.failed (.io cause), buf, next)
  else (.filled, buf, socket)
termination_by socket.size
decreasing_by
  · exact Socket.read_size _step (by omega) (by simp) (by simp)
  · refine Socket.read_size _step (by omega) (by simp) ?_
    intro expired
    rw [Except.error.inj expired] at _interrupted
    contradiction

def pollLoopTimed (want : Nat) (buf : List UInt8) (socket : Socket) :
    Except Error (Option (ProtoVersion × Message)) × FrameAccumulator × Socket :=
  match fillTimed want buf socket with
  | (.suspended, buf, socket) => (.ok none, ⟨buf, want⟩, socket)
  | (.failed cause, buf, socket) => (.error cause, ⟨buf, want⟩, socket)
  | (.filled, buf, socket) =>
      if _header : want = lenPrefix then
        let frameLen := leValue (buf.take lenPrefix)
        if _least : frameLen < versionField then
          (.error (.frameMalformed (UInt32.ofNat frameLen)), new, socket)
        else if maxFrameBytes < frameLen then
          (.error (.frameTooLarge (UInt32.ofNat frameLen)), new, socket)
        else pollLoopTimed (lenPrefix + frameLen) buf socket
      else (decode buf, new, socket)
termination_by if want = lenPrefix then 1 else 0
decreasing_by
  have larger : lenPrefix + leValue (buf.take lenPrefix) ≠ lenPrefix := by
    unfold versionField at _least
    omega
  rw [if_neg larger, if_pos _header]
  exact Nat.one_pos

def pollReadTimed (acc : FrameAccumulator) (socket : Socket) :
    Except Error (Option (ProtoVersion × Message)) × FrameAccumulator × Socket :=
  pollLoopTimed (if acc.want = 0 then lenPrefix else acc.want) acc.buf socket

/-! ### Without the time -/

def arrivalBytes : Instant × Arrival → List UInt8
  | (_, .bytes first rest) => first :: rest
  | (_, .failing _) => []

def bytesOf (arrivals : List (Instant × Arrival)) : List UInt8 := arrivals.flatMap arrivalBytes

private theorem bytesOf_unread (instant : Instant) (bytes : List UInt8)
    (more : List (Instant × Arrival)) :
    bytesOf (unread instant bytes ++ more) = bytes ++ bytesOf more := by
  cases bytes <;> simp [bytesOf, unread, arrivalBytes]

/-- A read is one that some entry of a schedule allows. -/
private theorem read_erased (step : socket.read room = (answer, next)) :
    ∃ entry, ∀ later, Source.read ⟨entry :: later, bytesOf socket.arrivals⟩ room =
      (answer, ⟨later, bytesOf next.arrivals⟩) := by
  unfold Socket.read at step
  split at step
  · cases step
    unfold Socket.found Socket.returning
    split
    · next shape => exact ⟨.ready 0, fun later => by simp [Source.read, shape, bytesOf]⟩
    · next instant first rest more shape =>
        refine ⟨.ready rest.length, fun later => ?_⟩
        have whole : bytesOf socket.arrivals = (first :: rest) ++ bytesOf more := by
          rw [shape]
          rfl
        have size : (first :: rest).length = rest.length + 1 := rfl
        simp only [Source.read, whole, bytesOf_unread, ← size]
        rcases Nat.le_total room (first :: rest).length with small | large
        · rw [Nat.min_eq_left small, List.take_append_of_le_length small,
            List.drop_append_of_le_length small]
        · rw [Nat.min_eq_right large, List.take_left, List.drop_left, List.take_of_length_le large,
            List.drop_eq_nil_of_le large, List.nil_append]
    · next instant cause more shape =>
        exact ⟨.failing cause, fun later => by simp [Source.read, shape, bytesOf, arrivalBytes]⟩
  · cases step
    exact ⟨.failing recvTimedOut, fun later => rfl⟩

private theorem fill_round {want : Nat} {buf : List UInt8} {source next : Source}
    (short : buf.length < want) :
    source.read (want - buf.length) = (answer, next) → fill want buf source = match answer with
      | .ok [] => (.failed (.io pollEof), buf, next)
      | .ok (byte :: chunk) => fill want (buf ++ byte :: chunk) next
      | .error cause =>
          if cause.kind = .interrupted then fill want buf next
          else if cause.kind = .wouldBlock ∨ cause.kind = .timedOut then (.suspended, buf, next)
          else (.failed (.io cause), buf, next) := by
  intro step
  rw [fill, dif_pos short]
  split
  · next found =>
      cases step.symm.trans found
      rfl
  · next found =>
      cases step.symm.trans found
      rfl
  · next found =>
      cases step.symm.trans found
      rfl

private theorem fillTimed_erased (want : Nat) (buf : List UInt8) (socket : Socket) :
    ∃ schedule, ∀ later, fill want buf ⟨schedule ++ later, bytesOf socket.arrivals⟩ =
      ((fillTimed want buf socket).1, (fillTimed want buf socket).2.1,
        ⟨later, bytesOf (fillTimed want buf socket).2.2.arrivals⟩) := by
  fun_induction fillTimed want buf socket with
  | case1 buf socket short next step =>
      obtain ⟨entry, read⟩ := read_erased step
      exact ⟨[entry], fun later => fill_round short (read later)⟩
  | case2 buf socket short byte chunk next step ih =>
      obtain ⟨entry, read⟩ := read_erased step
      obtain ⟨schedule, rest⟩ := ih
      exact ⟨entry :: schedule, fun later => (fill_round short (read _)).trans (rest later)⟩
  | case3 buf socket short cause next step interrupted ih =>
      obtain ⟨entry, read⟩ := read_erased step
      obtain ⟨schedule, rest⟩ := ih
      refine ⟨entry :: schedule, fun later => (fill_round short (read _)).trans ?_⟩
      simp only [if_pos interrupted]
      exact rest later
  | case4 buf socket short cause next step calm blocked =>
      obtain ⟨entry, read⟩ := read_erased step
      refine ⟨[entry], fun later => (fill_round short (read later)).trans ?_⟩
      simp only [if_neg calm, if_pos blocked]
  | case5 buf socket short cause next step calm fatal =>
      obtain ⟨entry, read⟩ := read_erased step
      refine ⟨[entry], fun later => (fill_round short (read later)).trans ?_⟩
      simp only [if_neg calm, if_neg fatal]
  | case6 buf socket long => exact ⟨[], fun later => by rw [fill, dif_neg long]; rfl⟩

private theorem fill_of_fillTimed {want : Nat} {buf later : List UInt8} {outcome : Fill}
    (found : fillTimed want buf socket = (outcome, later, next)) :
    ∃ schedule, ∀ rest, fill want buf ⟨schedule ++ rest, bytesOf socket.arrivals⟩ =
      (outcome, later, ⟨rest, bytesOf next.arrivals⟩) := by
  have erased := fillTimed_erased want buf socket
  rw [found] at erased
  exact erased

private theorem pollLoopTimed_erased (want : Nat) (buf : List UInt8) (socket : Socket) :
    ∃ schedule, ∀ rest, pollLoop want buf ⟨schedule ++ rest, bytesOf socket.arrivals⟩ =
      ((pollLoopTimed want buf socket).1, (pollLoopTimed want buf socket).2.1,
        ⟨rest, bytesOf (pollLoopTimed want buf socket).2.2.arrivals⟩) := by
  fun_induction pollLoopTimed want buf socket with
  | case1 want buf socket later next suspended =>
      obtain ⟨schedule, filling⟩ := fill_of_fillTimed suspended
      exact ⟨schedule, fun rest => by rw [pollLoop, filling]⟩
  | case2 want buf socket cause later next failed =>
      obtain ⟨schedule, filling⟩ := fill_of_fillTimed failed
      exact ⟨schedule, fun rest => by rw [pollLoop, filling]⟩
  | case3 buf socket later next frameLen malformed filled =>
      obtain ⟨schedule, filling⟩ := fill_of_fillTimed filled
      refine ⟨schedule, fun rest => ?_⟩
      rw [pollLoop, filling]
      exact dif_pos malformed
  | case4 buf socket later next frameLen least large filled =>
      obtain ⟨schedule, filling⟩ := fill_of_fillTimed filled
      refine ⟨schedule, fun rest => ?_⟩
      rw [pollLoop, filling]
      exact (dif_neg least).trans (if_pos large)
  | case5 buf socket later next frameLen least fits filled ih =>
      obtain ⟨header, filling⟩ := fill_of_fillTimed filled
      obtain ⟨body, polling⟩ := ih
      refine ⟨header ++ body, fun rest => ?_⟩
      rw [List.append_assoc, pollLoop, filling]
      exact (dif_neg least).trans ((if_neg fits).trans (polling rest))
  | case6 want buf socket later next filled body =>
      obtain ⟨schedule, filling⟩ := fill_of_fillTimed filled
      refine ⟨schedule, fun rest => ?_⟩
      rw [pollLoop, filling]
      exact dif_neg body

/-- A call over a socket is a call over a source with the same bytes. -/
theorem pollReadTimed_erased (acc : FrameAccumulator) (socket : Socket) :
    ∃ schedule, pollRead acc ⟨schedule, bytesOf socket.arrivals⟩ =
      ((pollReadTimed acc socket).1, (pollReadTimed acc socket).2.1,
        ⟨[], bytesOf (pollReadTimed acc socket).2.2.arrivals⟩) := by
  obtain ⟨schedule, polling⟩ := pollLoopTimed_erased (if acc.want = 0 then lenPrefix else acc.want)
    acc.buf socket
  have whole := polling []
  rw [List.append_nil] at whole
  exact ⟨schedule, whole⟩

end FrameAccumulator

/-! ### One end of a control stream -/

/-- A stream with the accumulator that is kept for it.  `socket.reads` are the reads
of the last call. -/
structure Receiver where
  socket : Socket
  acc : FrameAccumulator

namespace Receiver

def arm (receiver : Receiver) (timeout : Option Duration) : Receiver :=
  { receiver with socket := { receiver.socket with armed := timeout } }

def elapse (receiver : Receiver) (duration : Duration) : Receiver :=
  { receiver with socket := { receiver.socket with clock := receiver.socket.clock + duration } }

def poll (receiver : Receiver) : Polled × Receiver :=
  let polled := receiver.acc.pollReadTimed { receiver.socket with reads := [] }
  (match polled.1 with
    | .ok (some (version, message)) => .frame version message
    | .ok none => .waiting polled.2.1.hasPartial
    | .error cause => .failed cause,
    ⟨polled.2.2, polled.2.1⟩)

/-- The reads that `poll_read` would issue now. -/
def reads (receiver : Receiver) : List SocketRead := receiver.poll.2.socket.reads

end Receiver

end Handoff
