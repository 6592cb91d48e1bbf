/-
When `poll_read` touches the socket.

A call issues its reads when it starts and whenever something has come up that
does not complete the frame: a piece of its header or body, the header itself,
because the body is asked for by a read of its own, or a signal.  The instants
follow from those of the arrivals and from the receive timeout, which ends the
call as soon as it has waited that long for nothing.
-/

import Handoff.Wire.Timing

namespace Handoff

/-! ### Instants in reach -/

/-- The instants at which a reader gets what comes up at these, until it has waited
for one longer than its timeout. -/
def reached (armed : Option Duration) : Instant → List Instant → List Instant
  | _, [] => []
  | clock, instant :: later =>
      if inReach armed clock instant then
        max clock instant :: reached armed (max clock instant) later
      else []

section

variable {armed : Option Duration} {clock instant last : Instant}
  {later instants issued : List Instant}

private theorem reached_near (near : inReach armed clock instant = true) :
    reached armed clock (instant :: later) =
      max clock instant :: reached armed (max clock instant) later :=
  if_pos near

private theorem reached_far (far : inReach armed clock instant = false) :
    reached armed clock (instant :: later) = [] :=
  if_neg (by rw [far]; decide)

private theorem reached_append_of_lt (cut : (reached armed clock instants).length < instants.length)
    (more : List Instant) :
    reached armed clock (instants ++ more) = reached armed clock instants := by
  induction instants generalizing clock with
  | nil => exact absurd cut (Nat.lt_irrefl 0)
  | cons instant later ih =>
      rw [List.cons_append]
      cases near : inReach armed clock instant with
      | true =>
          rw [reached_near near] at cut ⊢
          rw [reached_near near, ih (Nat.lt_of_succ_lt_succ cut)]
      | false => rw [reached_far near, reached_far near]

private theorem reached_append (all : (reached armed clock instants).length = instants.length)
    (ends : issued ++ [last] = clock :: reached armed clock instants) (more : List Instant) :
    reached armed clock (instants ++ more) =
      reached armed clock instants ++ reached armed last more := by
  induction instants generalizing clock issued with
  | nil =>
      have same : last = clock := by
        rw [reached, ← List.nil_append [clock]] at ends
        exact (List.cons.inj (List.append_inj' ends rfl).2).1
      rw [same]
      rfl
  | cons instant later ih =>
      rw [List.cons_append]
      cases near : inReach armed clock instant with
      | true =>
          rw [reached_near near] at all ends ⊢
          rw [reached_near near]
          cases issued with
          | nil => cases ends
          | cons first issued =>
              rw [List.cons_append] at ends
              rw [ih (Nat.succ.inj all) (List.cons.inj ends).2, List.cons_append]
      | false =>
          rw [reached_far near] at all
          contradiction

private theorem reached_dropLast (cut : (reached armed clock instants).length < instants.length) :
    reached armed clock instants.dropLast = reached armed clock instants := by
  induction instants generalizing clock with
  | nil => rfl
  | cons instant later ih =>
      cases near : inReach armed clock instant with
      | true =>
          rw [reached_near near] at cut ⊢
          have inner := Nat.lt_of_succ_lt_succ cut
          rw [List.dropLast_cons_of_ne_nil (by rintro rfl; contradiction), reached_near near,
            ih inner]
      | false =>
          rw [reached_far near]
          cases later with
          | nil => rfl
          | cons => exact reached_far near

private theorem reached_dropLast_all
    (all : (reached armed clock instants).length = instants.length) :
    reached armed clock instants.dropLast = (reached armed clock instants).dropLast := by
  induction instants generalizing clock with
  | nil => rfl
  | cons instant later ih =>
      cases near : inReach armed clock instant with
      | true =>
          rw [reached_near near] at all ⊢
          have inner := Nat.succ.inj all
          cases later with
          | nil => rfl
          | cons second rest =>
              rw [List.dropLast_cons_of_ne_nil (by simp), reached_near near, ih inner,
                List.dropLast_cons_of_ne_nil]
              intro nothing
              rw [nothing] at inner
              contradiction
      | false =>
          rw [reached_far near] at all
          contradiction

end

/-! ### The parts of a frame -/

namespace FrameAccumulator

/-- What `want` bytes are gathered from: the instants at which some of them come up
or a signal does, and if they are all there, the bytes and what is left. -/
def gather : List (Instant × Arrival) → Nat →
    List Instant × Option (List UInt8 × List (Instant × Arrival))
  | [], want => ([], if want = 0 then some ([], []) else none)
  | (instant, arrival) :: more, want =>
      if want = 0 then ([], some ([], (instant, arrival) :: more))
      else
        match arrival with
        | .bytes first rest =>
            if want < (first :: rest).length then
              ([instant], some ((first :: rest).take want,
                unread instant ((first :: rest).drop want) ++ more))
            else
              (instant :: (gather more (want - (first :: rest).length)).1,
                (gather more (want - (first :: rest).length)).2.map fun left =>
                  (first :: rest ++ left.1, left.2))
        | .failing cause =>
            if cause.kind = .interrupted then (instant :: (gather more want).1, (gather more want).2)
            else ([], none)

private theorem gather_zero (arrivals : List (Instant × Arrival)) :
    gather arrivals 0 = ([], some ([], arrivals)) := by
  cases arrivals <;> rfl

/-- When the inner loop issues its reads for a part that is `gathered` so. -/
inductive Issues (socket next : Socket) (buf later : List UInt8)
    (gathered : List Instant × Option (List UInt8 × List (Instant × Arrival))) :
    Fill → List Instant → Prop where
  | filled {bytes : List UInt8} {issued : List Instant}
      (all : (reached socket.armed socket.clock gathered.1).length = gathered.1.length)
      (left : gathered.2 = some (bytes, next.arrivals)) (grown : later = buf ++ bytes)
      (ends : issued ++ [next.clock] = socket.clock :: reached socket.armed socket.clock gathered.1) :
      Issues socket next buf later gathered .filled issued
  | stopped {outcome : Fill} (short : outcome ≠ .filled)
      (cut : gathered.2 = none ∨
        (reached socket.armed socket.clock gathered.1).length < gathered.1.length) :
      Issues socket next buf later gathered outcome
        (socket.clock :: reached socket.armed socket.clock gathered.1)

/-- The reads that a loop has added, by the instants at which they were issued. -/
structure Adds (socket next : Socket) (issued : List Instant) : Prop where
  armed : next.armed = socket.armed
  recorded : next.reads.map SocketRead.issued = socket.reads.map SocketRead.issued ++ issued

theorem Adds.none (socket : Socket) : Adds socket socket [] := ⟨rfl, (List.append_nil _).symm⟩

theorem Adds.trans {socket middle next : Socket} {first second : List Instant}
    (earlier : Adds socket middle first) (later : Adds middle next second) :
    Adds socket next (first ++ second) := by
  refine ⟨later.armed.trans earlier.armed, ?_⟩
  rw [later.recorded, earlier.recorded, List.append_assoc]

def settles : Except IoError (List UInt8) → Bool
  | .ok chunk => chunk.isEmpty
  | .error cause => cause.kind != .interrupted

inductive Gathers (socket next : Socket) (want : Nat) : Except IoError (List UInt8) → Prop where
  | nothing {answer : Except IoError (List UInt8)} (settled : settles answer = true)
      (none : reached socket.armed socket.clock (gather socket.arrivals want).1 = [])
      (cut : (gather socket.arrivals want).2 = .none ∨ 0 < (gather socket.arrivals want).1.length) :
      Gathers socket next want answer
  | bytes {instant : Instant} {chunk : List UInt8} (some : chunk ≠ [])
      (near : inReach socket.armed socket.clock instant = true)
      (clock : next.clock = max socket.clock instant)
      (rest : gather socket.arrivals want =
        (instant :: (gather next.arrivals (want - chunk.length)).1,
          (gather next.arrivals (want - chunk.length)).2.map fun left =>
            (chunk ++ left.1, left.2))) :
      Gathers socket next want (.ok chunk)
  | signal {instant : Instant} {cause : IoError} (interrupted : cause.kind = .interrupted)
      (near : inReach socket.armed socket.clock instant = true)
      (clock : next.clock = max socket.clock instant)
      (rest : gather socket.arrivals want =
        (instant :: (gather next.arrivals want).1, (gather next.arrivals want).2)) :
      Gathers socket next want (.error cause)

variable {buf : List UInt8} {outcome : Fill}

section

variable {socket next last : Socket} {want : Nat} {answer : Except IoError (List UInt8)}
  {instant : Instant} {more : List (Instant × Arrival)} {cause : IoError}

private theorem gather_nil (some : 0 < want) : gather [] want = ([], none) := by
  rw [gather, if_neg (Nat.pos_iff_ne_zero.mp some)]

private theorem gather_bytes {first : UInt8} {rest : List UInt8} (some : 0 < want) :
    gather ((instant, .bytes first rest) :: more) want =
      (instant :: (gather (unread instant ((first :: rest).drop want) ++ more)
          (want - ((first :: rest).take want).length)).1,
        (gather (unread instant ((first :: rest).drop want) ++ more)
          (want - ((first :: rest).take want).length)).2.map fun left =>
            ((first :: rest).take want ++ left.1, left.2)) := by
  rw [gather, if_neg (Nat.pos_iff_ne_zero.mp some)]
  by_cases large : want < (first :: rest).length
  · have used : want - ((first :: rest).take want).length = 0 := by
      rw [List.length_take, Nat.min_eq_left (Nat.le_of_lt large), Nat.sub_self]
    simp only [if_pos large, used, gather_zero, Option.map_some, List.append_nil]
  · have small := Nat.le_of_not_lt large
    simp only [if_neg large, List.take_of_length_le small, List.drop_eq_nil_of_le small, unread,
      List.nil_append]

private theorem gather_signal (some : 0 < want) (interrupted : cause.kind = .interrupted) :
    gather ((instant, .failing cause) :: more) want =
      (instant :: (gather more want).1, (gather more want).2) := by
  rw [gather, if_neg (Nat.pos_iff_ne_zero.mp some)]
  exact if_pos interrupted

private theorem gather_fatal (some : 0 < want) (fatal : cause.kind ≠ .interrupted) :
    gather ((instant, .failing cause) :: more) want = ([], none) := by
  rw [gather, if_neg (Nat.pos_iff_ne_zero.mp some)]
  exact if_neg fatal

theorem Gathers.ended (settled : settles answer = true)
    (spent : gather socket.arrivals want = ([], none)) : Gathers socket next want answer := by
  apply Gathers.nothing settled
  · rw [spent]
    rfl
  · rw [spent]
    exact Or.inl rfl

theorem Gathers.far {later : List Instant} {rest : Option (List UInt8 × List (Instant × Arrival))}
    (far : inReach socket.armed socket.clock instant = false)
    (split : gather socket.arrivals want = (instant :: later, rest)) :
    Gathers socket next want (.error recvTimedOut) := by
  apply Gathers.nothing rfl
  · rw [split]
    exact reached_far far
  · rw [split]
    exact Or.inr (Nat.succ_pos _)

private theorem read_gathers (some : 0 < want) (step : socket.read want = (answer, next)) :
    Adds socket next [socket.clock] ∧ Gathers socket next want answer := by
  unfold Socket.read at step
  cases shape : socket.arrivals with
  | nil =>
      have spent : gather socket.arrivals want = ([], none) := by rw [shape, gather_nil some]
      split at step
      · simp only [Socket.found, shape] at step
        cases step
        exact ⟨⟨rfl, List.map_append⟩, .ended rfl spent⟩
      · cases step
        exact ⟨⟨rfl, List.map_append⟩, .ended rfl spent⟩
  | cons head more =>
      obtain ⟨instant, arrival⟩ := head
      have upcoming : socket.upcoming = instant := by rw [Socket.upcoming, shape]
      rw [upcoming] at step
      split at step
      · next near =>
          cases step
          refine ⟨⟨rfl, List.map_append⟩, ?_⟩
          cases arrival with
          | bytes first rest =>
              simp only [Socket.found, shape]
              refine Gathers.bytes ?_ near rfl ?_
              · rw [Ne, List.take_eq_nil_iff]
                simp [Nat.pos_iff_ne_zero.mp some]
              · rw [shape]
                exact gather_bytes some
          | failing cause =>
              simp only [Socket.found, shape]
              by_cases interrupted : cause.kind = .interrupted
              · refine Gathers.signal interrupted near rfl ?_
                rw [shape]
                exact gather_signal some interrupted
              · apply Gathers.ended
                · exact bne_iff_ne.mpr interrupted
                · rw [shape, gather_fatal some interrupted]
      · next far =>
          rw [Bool.not_eq_true] at far
          cases step
          refine ⟨⟨rfl, List.map_append⟩, ?_⟩
          cases arrival with
          | bytes first rest => exact .far far (by rw [shape]; exact gather_bytes some)
          | failing cause =>
              by_cases interrupted : cause.kind = .interrupted
              · exact .far far (by rw [shape]; exact gather_signal some interrupted)
              · exact .ended rfl (by rw [shape, gather_fatal some interrupted])

theorem Issues.cons {chunk later : List UInt8} {issued : List Instant}
    {rest : List Instant × Option (List UInt8 × List (Instant × Arrival))}
    (issues : Issues next last (buf ++ chunk) later rest outcome issued)
    (armed : next.armed = socket.armed) (near : inReach socket.armed socket.clock instant = true)
    (clock : next.clock = max socket.clock instant) :
    Issues socket last buf later
      (instant :: rest.1, rest.2.map fun left => (chunk ++ left.1, left.2)) outcome
      (socket.clock :: issued) := by
  have front : reached socket.armed socket.clock (instant :: rest.1) =
      next.clock :: reached next.armed next.clock rest.1 := by
    rw [reached_near near, armed, clock]
  cases issues with
  | filled all left grown ends =>
      apply Issues.filled
      · rw [front, List.length_cons, all, List.length_cons]
      · rw [left]
        rfl
      · rw [grown, List.append_assoc]
      · rw [front, List.cons_append, ends]
  | stopped short cut =>
      rw [← front]
      apply Issues.stopped short
      rcases cut with none | fewer
      · left
        rw [none]
        rfl
      · right
        rw [front]
        exact Nat.succ_lt_succ fewer

theorem Gathers.stops (gathers : Gathers socket next want answer)
    (settled : settles answer = true) (short : outcome ≠ .filled) :
    Issues socket next buf buf (gather socket.arrivals want) outcome [socket.clock] := by
  cases gathers with
  | nothing _ none cut =>
      rw [← none]
      apply Issues.stopped short
      rw [none]
      exact cut
  | bytes some => exact absurd (List.isEmpty_iff.mp settled) some
  | signal interrupted => exact absurd interrupted (bne_iff_ne.mp settled)

end

private theorem fillTimed_issues (want : Nat) (buf : List UInt8) (socket : Socket) :
    ∃ issued, Adds socket (fillTimed want buf socket).2.2 issued ∧
      Issues socket (fillTimed want buf socket).2.2 buf (fillTimed want buf socket).2.1
        (gather socket.arrivals (want - buf.length)) (fillTimed want buf socket).1 issued := by
  fun_induction fillTimed want buf socket with
  | case1 buf socket short next step =>
      obtain ⟨adds, gathers⟩ := read_gathers (Nat.sub_pos_of_lt short) step
      exact ⟨_, adds, gathers.stops rfl (fun same => by cases same)⟩
  | case2 buf socket short byte chunk next step ih =>
      obtain ⟨adds, gathers⟩ := read_gathers (Nat.sub_pos_of_lt short) step
      obtain ⟨issued, later, issues⟩ := ih
      refine ⟨_, adds.trans later, ?_⟩
      cases gathers with
      | nothing settled => contradiction
      | bytes some near clock rest =>
          rw [List.length_append, ← Nat.sub_sub] at issues
          rw [rest]
          exact issues.cons adds.armed near clock
  | case3 buf socket short cause next step interrupted ih =>
      obtain ⟨adds, gathers⟩ := read_gathers (Nat.sub_pos_of_lt short) step
      obtain ⟨issued, later, issues⟩ := ih
      refine ⟨_, adds.trans later, ?_⟩
      cases gathers with
      | nothing settled => exact absurd interrupted (bne_iff_ne.mp settled)
      | signal _ near clock rest =>
          rw [← List.append_nil buf] at issues
          have more := issues.cons adds.armed near clock
          simp only [List.append_nil, List.nil_append, Prod.mk.eta, Option.map_id'] at more
          rw [rest]
          exact more
  | case4 buf socket short cause next step calm blocked =>
      obtain ⟨adds, gathers⟩ := read_gathers (Nat.sub_pos_of_lt short) step
      exact ⟨_, adds, gathers.stops (bne_iff_ne.mpr calm) (fun same => by cases same)⟩
  | case5 buf socket short cause next step calm fatal =>
      obtain ⟨adds, gathers⟩ := read_gathers (Nat.sub_pos_of_lt short) step
      exact ⟨_, adds, gathers.stops (bne_iff_ne.mpr calm) (fun same => by cases same)⟩
  | case6 buf socket long =>
      refine ⟨[], Adds.none socket, ?_⟩
      rw [Nat.sub_eq_zero_of_le (Nat.le_of_not_lt long), gather_zero]
      exact Issues.filled rfl rfl (List.append_nil _).symm rfl

variable {arrivals left : List (Instant × Arrival)} {bytes : List UInt8}

private theorem gather_done {want : Nat} (done : (gather arrivals want).2 = some (bytes, left)) :
    bytes.length = want ∧ (0 < want → (gather arrivals want).1 ≠ []) := by
  rcases Nat.eq_zero_or_pos want with rfl | some
  · rw [gather_zero] at done
    cases done
    exact ⟨rfl, fun impossible => absurd impossible (Nat.lt_irrefl 0)⟩
  · induction arrivals generalizing want bytes with
    | nil =>
        rw [gather_nil some] at done
        cases done
    | cons head more ih =>
        obtain ⟨instant, arrival⟩ := head
        cases arrival with
        | bytes first rest =>
            rw [gather, if_neg (Nat.pos_iff_ne_zero.mp some)] at done ⊢
            by_cases large : want < (first :: rest).length
            · simp only [if_pos large] at done ⊢
              cases done
              refine ⟨?_, fun _ => by simp⟩
              rw [List.length_take, Nat.min_eq_left (Nat.le_of_lt large)]
            · simp only [if_neg large] at done ⊢
              refine ⟨?_, fun _ => by simp⟩
              obtain ⟨⟨later, other⟩, found, same⟩ := Option.map_eq_some_iff.mp done
              cases same
              rw [List.length_append]
              have small := Nat.le_of_not_lt large
              rcases Nat.eq_zero_or_pos (want - (first :: rest).length) with none | further
              · rw [none, gather_zero] at found
                cases found
                exact Nat.le_antisymm small (Nat.sub_eq_zero_iff_le.mp none)
              · rw [(ih found further).1]
                exact Nat.add_sub_cancel' small
        | failing cause =>
            by_cases interrupted : cause.kind = .interrupted
            · rw [gather_signal some interrupted] at done ⊢
              exact ⟨(ih done some).1, fun _ => by simp⟩
            · rw [gather_fatal some interrupted] at done
              cases done

/-- The instants at which something comes up for the last part of a frame that does
not complete it. -/
def lastPart (arrivals : List (Instant × Arrival)) (want : Nat) : List Instant :=
  if (gather arrivals want).2.isSome then (gather arrivals want).1.dropLast
  else (gather arrivals want).1

/-- The instants at which something comes up for the frame that does not complete
it.  The header never does: the body is asked for by a read of its own. -/
def unfinished (want : Nat) (buf : List UInt8) (arrivals : List (Instant × Arrival)) :
    List Instant :=
  match (gather arrivals (want - buf.length)).2 with
  | none => (gather arrivals (want - buf.length)).1
  | some (bytes, left) =>
      let frameLen := leValue ((buf ++ bytes).take lenPrefix)
      if want = lenPrefix ∧ versionField ≤ frameLen ∧ frameLen ≤ maxFrameBytes then
        (gather arrivals (want - buf.length)).1 ++
          lastPart left (lenPrefix + frameLen - (buf ++ bytes).length)
      else (gather arrivals (want - buf.length)).1.dropLast

/-- The reads are issued at the start and at these instants; there are none if there
is nothing to be read. -/
def IssuedAt (socket : Socket) (issued pauses : List Instant) (enough : Prop) : Prop :=
  issued = socket.clock :: reached socket.armed socket.clock pauses ∨
    enough ∧ issued = [] ∧ pauses = []

section

variable {socket next : Socket} {buf later : List UInt8} {want : Nat} {outcome : Fill}
  {issued : List Instant}

theorem Issues.complete
    (issues : Issues socket next buf later (gather socket.arrivals (want - buf.length))
      .filled issued) :
    IssuedAt socket issued (gather socket.arrivals (want - buf.length)).1.dropLast
      (want ≤ buf.length) := by
  cases issues with
  | stopped short => contradiction
  | filled all left grown ends =>
      have shape : issued = (socket.clock :: reached socket.armed socket.clock
          (gather socket.arrivals (want - buf.length)).1).dropLast := by
        rw [← ends, List.dropLast_concat]
      by_cases none : (gather socket.arrivals (want - buf.length)).1 = []
      · refine Or.inr ⟨?_, ?_, ?_⟩
        · by_contra short
          exact (gather_done left).2 (Nat.sub_pos_of_lt (Nat.lt_of_not_le short)) none
        · rw [shape, none]
          rfl
        · rw [none]
          rfl
      · left
        rw [shape, reached_dropLast_all all, List.dropLast_cons_of_ne_nil]
        intro unreached
        rw [unreached] at all
        exact none (List.length_eq_zero_iff.mp all.symm)

private theorem Issues.incomplete
    (issues : Issues socket next buf later (gather socket.arrivals (want - buf.length)) outcome issued)
    (short : outcome ≠ .filled) : issued = socket.clock ::
      reached socket.armed socket.clock (unfinished want buf socket.arrivals) := by
  cases issues with
  | filled => contradiction
  | stopped _ cut =>
      unfold unfinished
      split
      · rfl
      · next bytes left done =>
          have fewer := cut.resolve_left (by rw [done]; nofun)
          simp only
          split
          · rw [reached_append_of_lt fewer]
          · rw [reached_dropLast fewer]

theorem Issues.remains
    (issues : Issues socket next buf later (gather socket.arrivals (want - buf.length))
      .filled issued) :
    ∃ bytes, (gather socket.arrivals (want - buf.length)).2 = some (bytes, next.arrivals) ∧
      later = buf ++ bytes := by
  cases issues with
  | stopped short => contradiction
  | filled _ left grown => exact ⟨_, left, grown⟩

private theorem unfinished_complete
    (done : (gather arrivals (want - buf.length)).2 = some (bytes, left))
    (ended : ¬(want = lenPrefix ∧ versionField ≤ leValue ((buf ++ bytes).take lenPrefix) ∧
      leValue ((buf ++ bytes).take lenPrefix) ≤ maxFrameBytes)) :
    unfinished want buf arrivals = (gather arrivals (want - buf.length)).1.dropLast := by
  simp only [unfinished, done, if_neg ended]

private theorem unfinished_header
    (done : (gather arrivals (lenPrefix - buf.length)).2 = some (bytes, left))
    (least : versionField ≤ leValue ((buf ++ bytes).take lenPrefix))
    (most : leValue ((buf ++ bytes).take lenPrefix) ≤ maxFrameBytes) :
    unfinished lenPrefix buf arrivals = (gather arrivals (lenPrefix - buf.length)).1 ++
      lastPart left
        (lenPrefix + leValue ((buf ++ bytes).take lenPrefix) - (buf ++ bytes).length) := by
  simp only [unfinished, done, true_and, if_pos (And.intro least most)]

private theorem unfinished_body (body : want ≠ lenPrefix) (arrivals : List (Instant × Arrival)) :
    unfinished want buf arrivals = lastPart arrivals (want - buf.length) := by
  unfold unfinished lastPart
  split
  · next done => rw [done]; rfl
  · next done => simp [done, body]

theorem Issues.header {second pauses : List Instant} {frameLen : Nat}
    (issues : Issues socket next buf later (gather socket.arrivals (lenPrefix - buf.length)) .filled
      issued) (armed : next.armed = socket.armed) (long : versionField ≤ frameLen)
    (body : IssuedAt next second pauses (lenPrefix + frameLen ≤ later.length)) :
    IssuedAt socket (issued ++ second)
      ((gather socket.arrivals (lenPrefix - buf.length)).1 ++ pauses) (lenPrefix ≤ buf.length) := by
  cases issues with
  | stopped short => contradiction
  | filled all left grown ends =>
      rcases body with issuedBody | ⟨enough, none, calm⟩
      · left
        rw [issuedBody, reached_append all ends, armed, List.append_cons, ends]
        rfl
      · -- the buffer held the frame already
        have filled : lenPrefix ≤ buf.length := by
          by_contra short
          rw [grown, List.length_append, (gather_done left).1] at enough
          unfold versionField at long
          omega
        have nothing : gather socket.arrivals (lenPrefix - buf.length) =
            ([], some ([], socket.arrivals)) := by
          rw [Nat.sub_eq_zero_of_le filled, gather_zero]
        rw [nothing] at ends ⊢
        rw [none, calm]
        refine Or.inr ⟨filled, ?_, rfl⟩
        have shape := congrArg List.length ends
        rw [List.length_append] at shape
        rw [List.append_nil]
        exact List.length_eq_zero_iff.mp (Nat.succ.inj shape)

end

/-! ### The reads of one call -/

private theorem issues_of_fillTimed {want : Nat} {later : List UInt8} {socket next : Socket}
    (found : fillTimed want buf socket = (outcome, later, next)) :
    ∃ issued, Adds socket next issued ∧
      Issues socket next buf later (gather socket.arrivals (want - buf.length)) outcome issued := by
  have spec := fillTimed_issues want buf socket
  rw [found] at spec
  exact spec

private theorem pollLoopTimed_issues (want : Nat) (buf : List UInt8) (socket : Socket) :
    ∃ issued, Adds socket (pollLoopTimed want buf socket).2.2 issued ∧
      IssuedAt socket issued (unfinished want buf socket.arrivals) (want ≤ buf.length) := by
  fun_induction pollLoopTimed want buf socket with
  | case1 want buf socket later next suspended =>
      obtain ⟨issued, adds, issues⟩ := issues_of_fillTimed suspended
      exact ⟨issued, adds, Or.inl (issues.incomplete fun same => by cases same)⟩
  | case2 want buf socket cause later next failed =>
      obtain ⟨issued, adds, issues⟩ := issues_of_fillTimed failed
      exact ⟨issued, adds, Or.inl (issues.incomplete fun same => by cases same)⟩
  | case3 buf socket later next frameLen malformed filled =>
      obtain ⟨issued, adds, issues⟩ := issues_of_fillTimed filled
      obtain ⟨bytes, done, rfl⟩ := issues.remains
      refine ⟨issued, adds, ?_⟩
      rw [unfinished_complete done fun framed => Nat.not_lt_of_le framed.2.1 malformed]
      exact issues.complete
  | case4 buf socket later next frameLen least large filled =>
      obtain ⟨issued, adds, issues⟩ := issues_of_fillTimed filled
      obtain ⟨bytes, done, rfl⟩ := issues.remains
      refine ⟨issued, adds, ?_⟩
      rw [unfinished_complete done fun framed => Nat.not_lt_of_le framed.2.2 large]
      exact issues.complete
  | case5 buf socket later next frameLen least fits filled ih =>
      obtain ⟨first, adds, issues⟩ := issues_of_fillTimed filled
      obtain ⟨second, more, body⟩ := ih
      have long : versionField ≤ frameLen := Nat.le_of_not_lt least
      have apart : lenPrefix + frameLen ≠ lenPrefix := by
        unfold versionField at long
        omega
      refine ⟨first ++ second, adds.trans more, ?_⟩
      rw [unfinished_body apart] at body
      obtain ⟨bytes, done, rfl⟩ := issues.remains
      rw [unfinished_header done long (Nat.le_of_not_lt fits)]
      exact issues.header adds.armed long body
  | case6 want buf socket later next filled body =>
      obtain ⟨issued, adds, issues⟩ := issues_of_fillTimed filled
      obtain ⟨bytes, done, rfl⟩ := issues.remains
      refine ⟨issued, adds, ?_⟩
      rw [unfinished_complete done fun framed => body framed.1]
      exact issues.complete

end FrameAccumulator

namespace Receiver

open FrameAccumulator

/-- The instants after its start at which a call of `poll_read` has a part of the
frame, or a signal, and the frame is not complete. -/
def pauses (receiver : Receiver) : List Instant :=
  reached receiver.socket.armed receiver.socket.clock
    (unfinished (if receiver.acc.want = 0 then lenPrefix else receiver.acc.want) receiver.acc.buf
      receiver.socket.arrivals)

/-- All reads of a call are issued at its start or at one of its pauses. -/
theorem reads_iff (receiver : Receiver) (property : Instant → Prop)
    (start : property receiver.socket.clock) :
    (∀ read ∈ receiver.reads, property read.issued) ↔
      ∀ instant ∈ receiver.pauses, property instant := by
  obtain ⟨issued, adds, found⟩ := pollLoopTimed_issues
    (if receiver.acc.want = 0 then lenPrefix else receiver.acc.want) receiver.acc.buf
    { receiver.socket with reads := [] }
  have same : receiver.reads.map SocketRead.issued = issued := adds.recorded
  have members : (∀ read ∈ receiver.reads, property read.issued) ↔
      ∀ instant ∈ issued, property instant := by
    rw [← same, List.forall_mem_map]
  rw [members]
  rcases found with issues | ⟨_, none, calm⟩
  · rw [issues, List.forall_mem_cons]
    exact and_iff_right start
  · rw [none, pauses, calm]
    exact iff_of_true nofun nofun

end Receiver

end Handoff
