/-
The stages of one handoff, as the frames of the supervisor order them.

At each stage `perform_handoff` has at most one message to write, and three
frames move it on when they arrive.  The stage is a function of the history, so
whatever a stage implies about the past is proved once, about the table below,
and holds of every history that reaches it.
-/

import Handoff.Supervisor.Trace

namespace Handoff

open Effects

variable {handoffId : HandoffId} {past : SupPast}

inductive Stage where
  | fresh
  | ackedIncumbent
  | ackedSuccessor
  | prepared
  | drained
  | requested
  | sealed
  | begun
  -- the write of `Begin` failed
  | unbegun
  | readied
  | committed
  -- the successor was aborted before `Begin`
  | dismissed
  -- the successor was aborted after `Begin`
  | aborted
  | resumed
  -- nothing more is to be written
  | halted
  deriving DecidableEq, Repr

/-! ### The table -/

def ackId : Message → Option HandoffId
  | .helloAck _ handoffId => some handoffId
  | _ => none

def prepareId : Message → Option HandoffId
  | .prepareHandoff handoffId _ _ _ => some handoffId
  | _ => none

def sealRequestId : Message → Option HandoffId
  | .sealRequest handoffId => some handoffId
  | _ => none

def beginId : Message → Option HandoffId
  | .begin handoffId => some handoffId
  | _ => none

def commitId : Message → Option HandoffId
  | .commit handoffId => some handoffId
  | _ => none

def abortId : Message → Option HandoffId
  | .abort handoffId _ => some handoffId
  | _ => none

def resumeId : Message → Option HandoffId
  | .resumeAfterAbort handoffId => some handoffId
  | _ => none

/-- What is written next, and where the handoff stands when the write succeeds
and when it fails. -/
structure Turn where
  peer : Side
  expects : Message → Option HandoffId
  next : Stage
  failed : Stage

def Stage.turn : Stage → Option Turn
  | .fresh => some ⟨.incumbent, ackId, .ackedIncumbent, .halted⟩
  | .ackedIncumbent => some ⟨.successor, ackId, .ackedSuccessor, .halted⟩
  | .ackedSuccessor => some ⟨.incumbent, prepareId, .prepared, .halted⟩
  | .drained => some ⟨.incumbent, sealRequestId, .requested, .halted⟩
  | .requested => some ⟨.successor, abortId, .dismissed, .dismissed⟩
  | .sealed => some ⟨.successor, beginId, .begun, .unbegun⟩
  | .begun | .unbegun => some ⟨.successor, abortId, .aborted, .aborted⟩
  | .readied => some ⟨.incumbent, commitId, .committed, .committed⟩
  | .aborted => some ⟨.incumbent, resumeId, .resumed, .halted⟩
  | .prepared | .committed | .dismissed | .resumed | .halted => none

def Stage.sends (stage : Stage) (peer : Side) (message : Message) (delivered : Bool) : Stage :=
  match stage.turn with
  | some turn =>
      if turn.peer = peer ∧ (turn.expects message).isSome = true then
        if delivered then turn.next else turn.failed
      else .halted
  | none => .halted

def Stage.hears (handoffId : HandoffId) : Stage → Side → Message → Stage
  | .prepared, .incumbent, .drained .. => .drained
  | .requested, .incumbent, .sealComplete id _ _ => if id = handoffId then .sealed else .requested
  | .begun, .successor, .ready id _ _ _ => if id = handoffId then .readied else .begun
  | stage, _, _ => stage

def Stage.after (handoffId : HandoffId) (stage : Stage) : SupEvent → Stage
  | ⟨⟨_, .writeFrame peer _ message⟩, answer⟩ => stage.sends peer message answer.isOk
  | ⟨⟨_, .pollRead peer⟩, .frame _ message⟩ => stage.hears handoffId peer message
  | _ => stage

def stageOf (handoffId : HandoffId) (past : SupPast) : Stage :=
  past.foldl (Stage.after handoffId) .fresh

@[simp]
theorem stageOf_append (handoffId : HandoffId) (past : SupPast) (event : SupEvent) :
    stageOf handoffId (past ++ [event]) = (stageOf handoffId past).after handoffId event := by
  rw [stageOf, List.foldl_append]
  rfl

/-! ### What one event does to the stage -/

def delivers (event : SupEvent) : Bool :=
  match event with
  | ⟨⟨_, .writeFrame ..⟩, answer⟩ => answer.isOk
  | _ => false

def failsTo (peer : Side) : SupEvent → Bool
  | ⟨⟨_, .writeFrame other _ _⟩, answer⟩ => decide (other = peer) && !answer.isOk
  | _ => false

inductive Stage.Move (handoffId : HandoffId) (stage : Stage) (event : SupEvent) : Stage → Prop where
  | rests (unsent : ∀ peer, frameTo peer event = none) : Move handoffId stage event stage
  | strays {peer : Side} {message : Message} (sent : frameTo peer event = some message) :
      Move handoffId stage event .halted
  | sends {turn : Turn} {message : Message} {id : HandoffId} (due : stage.turn = some turn)
      (sent : frameTo turn.peer event = some message) (expected : turn.expects message = some id) :
      Move handoffId stage event (if delivers event then turn.next else turn.failed)
  | drains (waiting : stage = .prepared) (heard : readsDrained event = true) :
      Move handoffId stage event .drained
  | seals (waiting : stage = .requested) (heard : readsSealComplete handoffId event = true) :
      Move handoffId stage event .sealed
  | readies (waiting : stage = .begun) (heard : readsReady handoffId event = true) :
      Move handoffId stage event .readied

private theorem Stage.sends_move (handoffId : HandoffId) (stage : Stage) (store : SupStore)
    (peer : Side) (version : ProtoVersion) (message : Message) (answer : Except Error Unit) :
    Stage.Move handoffId stage ⟨⟨store, .writeFrame peer version message⟩, answer⟩
      (stage.sends peer message answer.isOk) := by
  have sent : frameTo peer ⟨⟨store, .writeFrame peer version message⟩, answer⟩ = some message :=
    if_pos rfl
  unfold Stage.sends
  cases due : stage.turn with
  | none => exact .strays sent
  | some turn =>
      dsimp only
      split
      · next proper =>
          obtain ⟨id, expected⟩ := Option.isSome_iff_exists.mp proper.2
          rw [← proper.1] at sent ⊢
          exact .sends due sent expected
      · exact .strays sent

private theorem Stage.hears_move (handoffId : HandoffId) (stage : Stage) (store : SupStore)
    (peer : Side) (version : ProtoVersion) (message : Message) :
    Stage.Move handoffId stage ⟨⟨store, .pollRead peer⟩, .frame version message⟩
      (stage.hears handoffId peer message) := by
  unfold Stage.hears
  split
  · exact .drains rfl rfl
  · split
    · next same => exact .seals rfl (by simp [readsSealComplete, frameFrom, same])
    · exact .rests fun _ => rfl
  · split
    · next same => exact .readies rfl (by simp [readsReady, frameFrom, same])
    · exact .rests fun _ => rfl
  · exact .rests fun _ => rfl

theorem Stage.after_move (handoffId : HandoffId) (stage : Stage) (event : SupEvent) :
    Stage.Move handoffId stage event (stage.after handoffId event) := by
  obtain ⟨⟨store, op⟩, answer⟩ := event
  cases op with
  | writeFrame peer version message => exact Stage.sends_move _ _ _ _ _ _ _
  | pollRead peer =>
      cases answer with
      | frame version message => exact Stage.hears_move _ _ _ _ _ _
      | waiting midFrame => exact .rests fun _ => rfl
      | failed cause => exact .rests fun _ => rfl
  | _ => exact .rests fun _ => rfl

/-! ### What a stage says about the past -/

private theorem stageOf_after (marked : Stage → Bool) (kind : SupEvent → Bool)
    (start : marked .fresh = false)
    (sets : ∀ stage event next, Stage.Move handoffId stage event next → marked stage = false →
      marked next = true → kind event = true) (now : marked (stageOf handoffId past) = true) :
    past.any kind = true := by
  induction past using List.reverseRecOn with
  | nil =>
      rw [stageOf, List.foldl_nil, start] at now
      contradiction
  | append_singleton past event ih =>
      rw [List.any_append, Bool.or_eq_true]
      by_cases earlier : marked (stageOf handoffId past) = true
      · exact Or.inl (ih earlier)
      · right
        rw [stageOf_append] at now
        rw [List.any_cons, List.any_nil, Bool.or_false]
        exact sets _ event _ (Stage.after_move ..) (Bool.eq_false_iff.mpr earlier) now

structure Stage.Lasting (marked : Stage → Bool) : Prop where
  halted : marked .halted = true
  drained : marked .prepared = true → marked .drained = true
  sealed : marked .requested = true → marked .sealed = true
  readied : marked .begun = true → marked .readied = true
  turns : ∀ stage turn, stage.turn = some turn → marked stage = true →
    marked turn.next = true ∧ marked turn.failed = true

theorem Stage.Lasting.move {marked : Stage → Bool} (lasting : Stage.Lasting marked)
    {stage next : Stage} {event : SupEvent} (move : Stage.Move handoffId stage event next)
    (now : marked stage = true) : marked next = true := by
  cases move with
  | rests => exact now
  | strays => exact lasting.halted
  | drains waiting heard =>
      rw [waiting] at now
      exact lasting.drained now
  | seals waiting heard =>
      rw [waiting] at now
      exact lasting.sealed now
  | readies waiting heard =>
      rw [waiting] at now
      exact lasting.readied now
  | sends due sent expected =>
      obtain ⟨next, failed⟩ := lasting.turns stage _ due now
      split
      · exact next
      · exact failed

theorem Stage.Lasting.since {marked : Stage → Bool} (lasting : Stage.Lasting marked)
    (kind : SupEvent → Bool)
    (sets : ∀ stage event, kind event = true → marked (Stage.after handoffId stage event) = true)
    (happened : past.any kind = true) : marked (stageOf handoffId past) = true := by
  induction past using List.reverseRecOn with
  | nil => contradiction
  | append_singleton past event ih =>
      rw [stageOf_append]
      rw [List.any_append, Bool.or_eq_true, List.any_cons, List.any_nil, Bool.or_false] at happened
      rcases happened with earlier | here
      · exact lasting.move (Stage.after_move ..) (ih earlier)
      · exact sets _ event here

/-- How many steps of a handoff lie behind a stage.  The write of `Begin` counts
when it succeeded, and a handoff that halted counts no step. -/
def Stage.depth : Stage → Nat
  | .fresh => 0
  | .ackedIncumbent => 1
  | .ackedSuccessor => 2
  | .prepared => 3
  | .drained => 4
  | .requested | .dismissed => 5
  | .sealed | .unbegun | .aborted | .resumed => 6
  | .begun => 7
  | .readied => 8
  | .committed => 9
  | .halted => 0

/-- A write to `peer` of the message that `expects` picks. -/
def writes (peer : Side) (expects : Message → Option HandoffId) (event : SupEvent) : Bool :=
  (frameTo peer event).any fun message => (expects message).isSome

theorem writes_frame {peer : Side} {expects : Message → Option HandoffId} {event : SupEvent}
    (writing : writes peer expects event = true) :
    ∃ message handoffId, frameTo peer event = some message ∧ expects message = some handoffId := by
  unfold writes at writing
  rw [Option.any_eq_true] at writing
  obtain ⟨message, sent, expected⟩ := writing
  obtain ⟨handoffId, carried⟩ := Option.isSome_iff_exists.mp expected
  exact ⟨message, handoffId, sent, carried⟩

def milestone (handoffId : HandoffId) : Nat → SupEvent → Bool
  | 1, event => delivers event && writes .incumbent ackId event
  | 2, event => delivers event && writes .successor ackId event
  | 3, event => delivers event && writes .incumbent prepareId event
  | 4, event => readsDrained event
  | 5, event => delivers event && writes .incumbent sealRequestId event
  | 6, event => readsSealComplete handoffId event
  | 7, event => delivers event && writes .successor beginId event
  | 8, event => readsReady handoffId event
  | 9, event => writes .incumbent commitId event
  | _, _ => false

theorem Stage.Move.milestone {stage next : Stage} {event : SupEvent}
    (move : Stage.Move handoffId stage event next) {depth : Nat} (before : stage.depth < depth)
    (after : depth ≤ next.depth) : milestone handoffId depth event = true := by
  cases move with
  | rests => omega
  | strays sent => exact absurd after (by rw [Stage.depth]; omega)
  | drains waiting heard =>
      subst waiting
      obtain rfl : depth = 4 := Nat.le_antisymm after before
      exact heard
  | seals waiting heard =>
      subst waiting
      obtain rfl : depth = 6 := Nat.le_antisymm after before
      exact heard
  | readies waiting heard =>
      subst waiting
      obtain rfl : depth = 8 := Nat.le_antisymm after before
      exact heard
  | @sends turn message id due sent expected =>
      have written : writes turn.peer turn.expects event = true := by
        rw [writes, sent, Option.any_some, expected]
        rfl
      -- only the write of `Commit` is a step when it fails
      by_cases delivered : delivers event = true
      · rw [if_pos delivered] at after
        cases stage <;> cases due <;> try (simp only [Stage.depth] at before after; omega)
        all_goals
          obtain rfl := Nat.le_antisymm after before
          first
            | exact Bool.and_eq_true_iff.mpr ⟨delivered, written⟩
            | exact written
      · rw [if_neg delivered] at after
        cases stage <;> cases due <;> try (simp only [Stage.depth] at before after; omega)
        obtain rfl := Nat.le_antisymm after before
        exact written

theorem stageOf_milestone (depth : Nat) (step : 0 < depth)
    (reached : depth ≤ (stageOf handoffId past).depth) :
    past.any (milestone handoffId depth) = true := by
  apply stageOf_after (fun stage => decide (depth ≤ stage.depth)) (milestone handoffId depth)
  · exact decide_eq_false (by rw [Stage.depth]; omega)
  · intro stage event next move before after
    exact move.milestone (Nat.lt_of_not_le (of_decide_eq_false before)) (of_decide_eq_true after)
  · exact decide_eq_true reached

/-- `Begin` was written or can no longer be. -/
def Stage.leftBegin : Stage → Bool
  | .begun | .unbegun | .readied | .committed | .aborted | .resumed | .halted => true
  | _ => false

private theorem Stage.leftBegin_lasting : Stage.Lasting Stage.leftBegin where
  halted := rfl
  drained := by decide
  sealed := by decide
  readied := by decide
  turns := by
    intro stage turn due left
    cases stage <;> cases due <;> first | contradiction | exact ⟨rfl, rfl⟩

theorem stageOf_leftBegin (handoffId : HandoffId)
    (written : past.any (writes .successor beginId) = true) :
    (stageOf handoffId past).leftBegin = true := by
  apply Stage.leftBegin_lasting.since (writes .successor beginId) _ written
  rintro stage ⟨⟨store, op⟩, answer⟩ writing
  cases op with
  | writeFrame peer version message =>
      cases peer
      · contradiction
      · cases message <;> first | contradiction | cases stage <;> cases answer <;> rfl
  | _ => contradiction

end Handoff
