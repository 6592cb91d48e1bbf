/-
What the journal says about a handoff.

A record is written at the stage of its phase, and a history that follows the
stages never contradicts it afterwards.  `Truthful` collects what a record on
disk implies about the history; it is established by the write and kept by every
later event, because `Begin` waits for the record of the seal and a committed
child is not killed.
-/

import Handoff.Supervisor.HandoffRuns
import Handoff.Supervisor.JournalFile

namespace Handoff

open Effects SupM
open Effects.Code hiding pure bind

variable {supervisor : Supervisor} {past : SupPast} {event : SupEvent} {handoffId : HandoffId}
  {record : StateJournal} {files : JournalFiles} {fuel : Nat} {pid : UInt32} {message : Message}
  {peer : Side}

/-! ### Histories that keep both contracts -/

def Dutiful (supervisor : Supervisor) (past : SupPast) : Prop :=
  ∀ before event after, past = before ++ event :: after →
    StageOpDuty supervisor before event.op.op ∧ SupOpDuty before event.op.store event.op.op

private theorem dutiful_of_run {spec : SpawnSpec} {events : SupPast}
    {rest : Process SupStore SupAns Halt HandoffOutcome}
    (run : (performHandoff supervisor spec fuel {}).Run events rest) :
    Dutiful supervisor events := by
  intro before event after split
  exact ⟨run.asked (performHandoff_stands supervisor spec fuel) split,
    performHandoff_duty run split⟩

theorem Dutiful.append_left {earlier later : SupPast}
    (dutiful : Dutiful supervisor (earlier ++ later)) : Dutiful supervisor earlier := by
  intro before event after split
  apply dutiful before event (after ++ later)
  rw [split, List.append_assoc, List.cons_append]

theorem Dutiful.last (dutiful : Dutiful supervisor (past ++ [event])) :
    StageOpDuty supervisor past event.op.op ∧ SupOpDuty past event.op.store event.op.op :=
  dutiful past event [] rfl

private theorem handoffIdOf?_op (fresh : handoffIdOf? event = some handoffId) :
    event.op.op = .newHandoffId := by
  obtain ⟨⟨store, op⟩, answer⟩ := event
  cases op <;> first | rfl | contradiction

private theorem spawns?_op (spawns : spawns? event = some pid) :
    ∃ command, event.op.op = .spawn command := by
  obtain ⟨⟨store, op⟩, answer⟩ := event
  cases op <;> first | exact ⟨_, rfl⟩ | contradiction

private theorem kills_op (killing : kills event = true) : ∃ pid, event.op.op = .kill pid := by
  obtain ⟨⟨store, op⟩, answer⟩ := event
  cases op <;> first | exact ⟨_, rfl⟩ | contradiction

theorem StageOpDuty.identity (duty : StageOpDuty supervisor past event.op.op)
    (identity : handoffIdOf past = some handoffId) :
    handoffIdOf (past ++ [event]) = some handoffId := by
  rw [handoffIdOf_append]
  cases fresh : handoffIdOf? event with
  | none => exact identity
  | some other =>
      rw [handoffIdOf?_op fresh] at duty
      rw [show handoffIdOf past = none from duty] at identity
      contradiction

theorem StageOpDuty.child (duty : StageOpDuty supervisor past event.op.op)
    (child : (spawned past).isSome = true) : spawns? event = none := by
  cases spawning : spawns? event with
  | none => rfl
  | some pid =>
      obtain ⟨command, op⟩ := spawns?_op spawning
      rw [op] at duty
      obtain ⟨_, _, _, childless⟩ := duty
      rw [childless] at child
      contradiction

private theorem Dutiful.unidentified (dutiful : Dutiful supervisor past)
    (unnamed : handoffIdOf past = none) (handoffId : HandoffId) :
    stageOf handoffId past = .fresh := by
  induction past using List.reverseRecOn with
  | nil => rfl
  | append_singleton past event ih =>
      rw [handoffIdOf_append, Option.or_eq_none_iff] at unnamed
      have fresh := ih dutiful.append_left unnamed.2
      have unsent (peer : Side) (message : Message) : frameTo peer event ≠ some message := by
        intro sent
        obtain ⟨version, op⟩ := frameTo_op sent
        have duty := dutiful.last.1
        rw [op] at duty
        obtain ⟨other, _, identity, _⟩ := duty
        rw [unnamed.2] at identity
        contradiction
      rw [stageOf_append, fresh]
      have move := Stage.after_move handoffId .fresh event
      generalize Stage.after handoffId .fresh event = next at move
      cases move with
      | rests => rfl
      | strays sent => exact absurd sent (unsent _ _)
      | sends due sent expected => exact absurd sent (unsent _ _)
      | drains waiting => contradiction
      | seals waiting => contradiction
      | readies waiting => contradiction

/-- What holds when a stage is entered and is kept while it lasts holds at that stage. -/
theorem Dutiful.entered (dutiful : Dutiful supervisor past)
    (identity : handoffIdOf past = some handoffId) (stage : Stage) (later : stage ≠ .fresh)
    (now : stageOf handoffId past = stage) (property : SupPast → Prop)
    (enters : ∀ before event earlier next, handoffIdOf before = some handoffId →
      earlier ≠ stage → next = stage → Stage.Move handoffId earlier event next →
      SupOpDuty before event.op.store event.op.op → property (before ++ [event]))
    (stays : ∀ before event, handoffIdOf before = some handoffId →
      stageOf handoffId before = stage → StageOpDuty supervisor before event.op.op →
      SupOpDuty before event.op.store event.op.op → property before →
      property (before ++ [event])) : property past := by
  induction past using List.reverseRecOn with
  | nil => exact absurd now.symm later
  | append_singleton past event ih =>
      obtain ⟨stageDuty, supDuty⟩ := dutiful.last
      rw [stageOf_append] at now
      cases known : handoffIdOf past with
      | none =>
          -- the event generates the id, and the stage is not left by it
          have fresh := dutiful.append_left.unidentified known handoffId
          rw [handoffIdOf_append, known, Option.or_none] at identity
          have op := handoffIdOf?_op identity
          obtain ⟨⟨store, _⟩, answer⟩ := event
          cases op
          rw [fresh] at now
          exact absurd now.symm later
      | some other =>
          have same := stageDuty.identity known
          rw [identity, Option.some.injEq] at same
          subst same
          by_cases here : stageOf handoffId past = stage
          · exact stays past event known here stageDuty supDuty
              (ih dutiful.append_left known here)
          · exact enters past event _ _ known here now (Stage.after_move ..) supDuty

private theorem commitId_eq (expected : commitId message = some handoffId) :
    message = .commit handoffId := by
  cases message <;> first | contradiction | (cases expected; rfl)

private theorem resumeId_eq (expected : resumeId message = some handoffId) :
    message = .resumeAfterAbort handoffId := by
  cases message <;> first | contradiction | (cases expected; rfl)

private theorem frameTo_only (sent : frameTo peer event = some message) :
    handoffIdOf? event = none ∧ spawns? event = none ∧ kills event = false := by
  obtain ⟨⟨store, op⟩, answer⟩ := event
  cases op <;> first | exact ⟨rfl, rfl, rfl⟩ | contradiction

theorem Dutiful.committed (dutiful : Dutiful supervisor past)
    (identity : handoffIdOf past = some handoffId) (now : stageOf handoffId past = .committed) :
    ReadyRead handoffId past ∧ past.any kills = false := by
  apply dutiful.entered identity .committed (by decide) now
  · intro before event earlier next known different here move duty
    cases move with
    | rests => exact absurd here different
    | strays => contradiction
    | drains => contradiction
    | seals => contradiction
    | readies => contradiction
    | sends due sent expected =>
        cases earlier <;> cases due <;> try (split at here <;> contradiction)
        have message := commitId_eq expected
        subst message
        obtain ⟨version, op⟩ := frameTo_op sent
        rw [op] at duty
        obtain ⟨named, ready, _, alive, _⟩ := duty
        rw [known, Option.some.injEq] at named
        subst named
        exact ⟨readyRead_append.mpr (Or.inl ready),
          any_append_false alive (frameTo_only sent).2.2⟩
  · intro before event known here stageDuty supDuty held
    refine ⟨readyRead_append.mpr (Or.inl held.1), any_append_false held.2 ?_⟩
    apply Bool.eq_false_iff.mpr
    intro killing
    obtain ⟨pid, op⟩ := kills_op killing
    rw [op] at supDuty
    exact supDuty.2 handoffId known held.1

theorem Dutiful.resumed (dutiful : Dutiful supervisor past)
    (identity : handoffIdOf past = some handoffId) (now : stageOf handoffId past = .resumed) :
    Reaped past ∧ past.any (fun event => delivers event && writesResume event) = true := by
  apply dutiful.entered identity .resumed (by decide) now
  · intro before event earlier next known different here move duty
    cases move with
    | rests => exact absurd here different
    | strays => contradiction
    | drains => contradiction
    | seals => contradiction
    | readies => contradiction
    | sends due sent expected =>
        cases earlier <;> cases due <;> try (split at here <;> contradiction)
        have message := resumeId_eq expected
        subst message
        obtain ⟨version, op⟩ := frameTo_op sent
        rw [op] at duty
        by_cases delivered : delivers event = true
        · refine ⟨duty.2.1.append event (frameTo_only sent).2.1, ?_⟩
          rw [List.any_append, List.any_cons, delivered, writesResume, sent]
          simp
        · rw [if_neg delivered] at here
          contradiction
  · intro before event known here stageDuty supDuty held
    refine ⟨held.1.append event ?_, ?_⟩
    · cases spawning : spawns? event with
      | none => rfl
      | some pid =>
          obtain ⟨command, op⟩ := spawns?_op spawning
          rw [op] at stageDuty
          obtain ⟨other, named, stage, _⟩ := stageDuty
          rw [known, Option.some.injEq] at named
          rw [← named, here] at stage
          contradiction
    · rw [List.any_append, held.2, Bool.true_or]

/-! ### What a record implies -/

def Phase.onward : Phase → Stage → Bool
  | .negotiating, stage => !(stage == .fresh || stage == .ackedIncumbent)
  | .draining, stage => !(stage == .fresh || stage == .ackedIncumbent ||
      stage == .ackedSuccessor || stage == .prepared)
  | .sealing, stage => stage == .sealed || stage.leftBegin
  | .awaitingReady, stage => stage.leftBegin && stage != .unbegun
  | .committed, stage => stage == .committed || stage == .halted
  | .resumingAfterAbort, stage => stage == .resumed || stage == .halted

private theorem Phase.onward_lasting (phase : Phase) : Stage.Lasting phase.onward where
  halted := by cases phase <;> rfl
  drained := by cases phase <;> decide
  sealed := by cases phase <;> decide
  readied := by cases phase <;> decide
  turns := by
    intro stage turn due now
    cases phase <;> cases stage <;> cases due <;> first | contradiction | exact ⟨rfl, rfl⟩

def Phase.rank : Phase → Nat
  | .negotiating => 0
  | .draining => 1
  | .sealing => 2
  | .awaitingReady => 3
  | .committed => 4
  | .resumingAfterAbort => 5

/-- `later` may replace `earlier`: further on, and not on the other branch. -/
def Phase.Forward (earlier later : Phase) : Prop :=
  earlier.rank ≤ later.rank ∧ ¬(earlier = .committed ∧ later = .resumingAfterAbort)

private theorem Phase.forward_of_onward {earlier later : Phase}
    (onward : earlier.onward later.stage = true) : earlier.Forward later := by
  cases earlier <;> cases later <;>
    first | contradiction | exact ⟨by decide, fun both => by cases both.1 <;> cases both.2⟩

structure Truthful (supervisor : Supervisor) (record : StateJournal) (past : SupPast) : Prop where
  identity : handoffIdOf past = some record.handoffId
  incumbent : record.incumbentPid = supervisor.pid
  successor : record.successorPid = spawned past
  child : (spawned past).isSome = true
  onward : record.phase.onward (stageOf record.handoffId past) = true
  acked : ∀ peer, past.any (fun event => delivers event && writes peer ackId event) = true
  unbegun : record.phase = .negotiating ∨ record.phase = .draining →
    past.any (writes .successor beginId) = false
  drained : record.phase = .draining → past.any readsDrained = true
  sealed : ¬(record.phase = .negotiating ∨ record.phase = .draining) →
    past.any (readsSealComplete record.handoffId) = true
  begun : record.phase = .awaitingReady ∨ record.phase = .committed →
    past.any (fun event => delivers event && writes .successor beginId event) = true
  committed : record.phase = .committed →
    ReadyRead record.handoffId past ∧ past.any kills = false
  resumed : record.phase = .resumingAfterAbort →
    Reaped past ∧ past.any (fun event => delivers event && writesResume event) = true

private theorem Dutiful.records (dutiful : Dutiful supervisor past)
    (duty : StageOpDuty supervisor past (.journalWrite record)) :
    Truthful supervisor record past := by
  obtain ⟨_, identity, incumbent, successor, child, stage, _⟩ := duty
  have reached (depth : Nat) (step : 0 < depth) (deep : depth ≤ record.phase.stage.depth) :
      past.any (milestone record.handoffId depth) = true :=
    stageOf_milestone depth step (by rw [stage]; exact deep)
  refine ⟨identity, incumbent, successor, child, ?_, ?_, ?_, ?_, ?_, ?_, ?_, ?_⟩
  · rw [stage]
    cases record.phase <;> rfl
  · intro peer
    cases peer with
    | incumbent => exact reached 1 (by decide) (by cases record.phase <;> decide)
    | successor => exact reached 2 (by decide) (by cases record.phase <;> decide)
  · intro early
    apply Bool.eq_false_iff.mpr
    intro begun
    have left := stageOf_leftBegin record.handoffId begun
    rw [stage] at left
    rcases early with negotiating | draining
    · rw [negotiating] at left
      contradiction
    · rw [draining] at left
      contradiction
  · intro draining
    exact reached 4 (by decide) (by rw [draining]; decide)
  · intro late
    apply reached 6 (by decide)
    cases phase : record.phase with
    | negotiating => exact absurd (Or.inl phase) late
    | draining => exact absurd (Or.inr phase) late
    | _ => decide
  · intro begun
    apply reached 7 (by decide)
    rcases begun with awaiting | committed
    · rw [awaiting]
      decide
    · rw [committed]
      decide
  · intro committed
    rw [committed] at stage
    exact dutiful.committed identity stage
  · intro resumed
    rw [resumed] at stage
    exact dutiful.resumed identity stage

/-- A truthful record stays so, as long as `Begin` waits for the record of the seal. -/
theorem Truthful.append (truthful : Truthful supervisor record past)
    (stageDuty : StageOpDuty supervisor past event.op.op)
    (supDuty : SupOpDuty past event.op.store event.op.op)
    (waits : writes .successor beginId event = true →
      ¬(record.phase = .negotiating ∨ record.phase = .draining)) :
    Truthful supervisor record (past ++ [event]) := by
  have childless := stageDuty.child truthful.child
  refine ⟨stageDuty.identity truthful.identity, truthful.incumbent, ?_, ?_, ?_, ?_, ?_, ?_, ?_, ?_,
    ?_, ?_⟩
  · rw [spawned_append, childless, Option.none_or]
    exact truthful.successor
  · rw [spawned_append, childless, Option.none_or]
    exact truthful.child
  · rw [stageOf_append]
    exact record.phase.onward_lasting.move (Stage.after_move ..) truthful.onward
  · intro peer
    exact any_append_of_any (truthful.acked peer) _
  · intro early
    apply any_append_false (truthful.unbegun early)
    exact Bool.eq_false_iff.mpr fun begins => waits begins early
  · intro draining
    exact any_append_of_any (truthful.drained draining) _
  · intro late
    exact any_append_of_any (truthful.sealed late) _
  · intro begun
    exact any_append_of_any (truthful.begun begun) _
  · intro committed
    obtain ⟨ready, alive⟩ := truthful.committed committed
    refine ⟨readyRead_append.mpr (Or.inl ready), any_append_false alive ?_⟩
    apply Bool.eq_false_iff.mpr
    intro killing
    obtain ⟨pid, op⟩ := kills_op killing
    rw [op] at supDuty
    exact supDuty.2 record.handoffId truthful.identity ready
  · intro resumed
    obtain ⟨reaped, told⟩ := truthful.resumed resumed
    exact ⟨reaped.append event childless, any_append_of_any told _⟩

/-! ### The journal of a run -/

theorem Journalled.begins {start : JournalFiles} (journalled : Journalled start past files)
    (duty : StageOpDuty supervisor past event.op.op)
    (configured : supervisor.journalPath.isSome = true) (found : files.record? = some record)
    (begins : writes .successor beginId event = true) :
    ¬(record.phase = .negotiating ∨ record.phase = .draining) := by
  obtain ⟨message, _, sent, expected⟩ := writes_frame begins
  obtain ⟨version, op⟩ := frameTo_op sent
  cases message with
  | begin handoffId =>
      rw [op] at duty
      obtain ⟨_, _, _, _, _, _, recorded⟩ := duty
      obtain ⟨sealed, last, phase⟩ := recorded configured
      have same := JournalFiles.record?_written (journalled.last last)
      rw [found, Option.some.injEq] at same
      rw [same, phase]
      decide
  | _ => contradiction

theorem Journalled.truthful {start : JournalFiles} (journalled : Journalled start past files)
    (blank : start.record? = none) (dutiful : Dutiful supervisor past)
    (found : files.record? = some record) :
    supervisor.journalPath.isSome = true ∧ Truthful supervisor record past := by
  induction journalled generalizing record with
  | start =>
      rw [blank] at found
      contradiction
  | @step past files next event earlier step ih =>
      obtain ⟨stageDuty, supDuty⟩ := dutiful.last
      cases step.rerecorded with
      | kept same unchanged =>
          have before : files.record? = some record := by
            rw [JournalFiles.record?, same] at found
            exact found
          obtain ⟨configured, truthful⟩ := ih dutiful.append_left before
          exact ⟨configured, truthful.append stageDuty supDuty
            (earlier.begins stageDuty configured before)⟩
      | @written written op now =>
          have same := JournalFiles.record?_written now
          rw [found, Option.some.injEq] at same
          subst same
          have duty := stageDuty
          rw [op] at duty
          refine ⟨duty.1, (dutiful.append_left.records duty).append stageDuty supDuty ?_⟩
          intro begins
          obtain ⟨message, _, sent, _⟩ := writes_frame begins
          obtain ⟨version, writing⟩ := frameTo_op sent
          rw [op] at writing
          contradiction
      | deleted op now =>
          rw [JournalFiles.record?, now] at found
          contradiction

/-- From the record of a phase on, the stage and the records only go forward. -/
private theorem Journalled.forward {earlier later : SupPast} {before : JournalFiles}
    (first : Journalled {} earlier before) (found : before.record? = some record)
    (second : Journalled before later files) (dutiful : Dutiful supervisor (earlier ++ later)) :
    handoffIdOf (earlier ++ later) = some record.handoffId ∧
      record.phase.onward (stageOf record.handoffId (earlier ++ later)) = true ∧
      ∀ other, files.record? = some other → record.phase.Forward other.phase := by
  induction second with
  | start =>
      rw [List.append_nil] at dutiful ⊢
      obtain ⟨_, truthful⟩ := first.truthful rfl dutiful found
      refine ⟨truthful.identity, truthful.onward, ?_⟩
      intro other here
      rw [found, Option.some.injEq] at here
      subst here
      apply Phase.forward_of_onward
      cases record.phase <;> rfl
  | @step past files next event further step ih =>
      rw [← List.append_assoc] at dutiful ⊢
      obtain ⟨identity, onward, forward⟩ := ih dutiful.append_left
      have duty := dutiful.last.1
      refine ⟨duty.identity identity, ?_, ?_⟩
      · rw [stageOf_append]
        exact record.phase.onward_lasting.move (Stage.after_move ..) onward
      · intro other here
        cases step.rerecorded with
        | kept same unchanged =>
            apply forward other
            rw [JournalFiles.record?, same] at here
            exact here
        | written op now =>
            have same := JournalFiles.record?_written now
            rw [here, Option.some.injEq] at same
            subst same
            rw [op] at duty
            obtain ⟨_, named, _, _, _, stage, _⟩ := duty
            rw [identity, Option.some.injEq] at named
            rw [named, stage] at onward
            exact Phase.forward_of_onward onward
        | deleted op now =>
            rw [JournalFiles.record?, now] at here
            contradiction

private theorem Journalled.unconfigured (journalled : Journalled {} past files)
    (dutiful : Dutiful supervisor past) (unconfigured : supervisor.journalPath = none) :
    files.journal = none := by
  induction journalled with
  | start => rfl
  | step earlier step ih =>
      cases step.rerecorded with
      | kept same unchanged => rw [same, ih dutiful.append_left]
      | deleted op now => exact now
      | written op now =>
          have duty := dutiful.last.1
          rw [op] at duty
          have configured := duty.1
          rw [unconfigured] at configured
          contradiction

theorem Journalled.cleared (journalled : Journalled {} past files)
    (dutiful : Dutiful supervisor past) (cleared : Cleared supervisor past)
    (deletes : ∀ event ∈ past, ∀ deleted, journalChange? event = some (none, deleted) →
      deleted = true) : files.journal = none := by
  cases configured : supervisor.journalPath with
  | none => exact journalled.unconfigured dutiful configured
  | some path =>
      obtain ⟨deleted, last⟩ := cleared (by rw [configured]; rfl)
      obtain ⟨event, member, changed⟩ :=
        List.mem_filterMap.mp (List.mem_of_getLast? last)
      rw [deletes event member deleted changed] at last
      exact journalled.last last

private theorem writes_begin (event : SupEvent) :
    writes .successor beginId event = writesBegin event := by
  unfold writes writesBegin
  cases frameTo .successor event with
  | none => rfl
  | some message => cases message <;> rfl

/-- The journal never misreports where the handoff is, whenever the supervisor
stops: what the phase on disk implies, that phases go forward, and that a call
which returns `Ok` leaves no journal. -/
theorem journal_position (supervisor : Supervisor) (spec : SpawnSpec) (fuel : Nat)
    (events : SupPast) (rest : Process SupStore SupAns Halt HandoffOutcome) (files : JournalFiles)
    (run : (performHandoff supervisor spec fuel {}).Run events rest)
    (journalled : Journalled {} events files) :
    (∀ record, files.record? = some record →
      handoffIdOf events = some record.handoffId ∧
      (record.phase = .negotiating ∨ record.phase = .draining →
        events.any writesBegin = false) ∧
      (record.phase = .draining → events.any readsDrained = true) ∧
      (Phase.sealing.rank ≤ record.phase.rank →
        events.any (readsSealComplete record.handoffId) = true) ∧
      (record.phase = .awaitingReady ∨ record.phase = .committed →
        events.any (fun event => delivers event && writesBegin event) = true) ∧
      (record.phase = .committed →
        ReadyRead record.handoffId events ∧ events.any kills = false) ∧
      (record.phase = .resumingAfterAbort →
        (spawned events).isSome = true ∧ Reaped events ∧
          events.any (fun event => delivers event && writesResume event) = true)) ∧
    (∀ earlier later before record other, events = earlier ++ later →
      Journalled {} earlier before → Journalled before later files →
      before.record? = some record → files.record? = some other →
      record.phase.Forward other.phase) ∧
    ∀ outcome last, rest = .done (.ok outcome, last) →
      (∀ event ∈ events, ∀ deleted, journalChange? event = some (none, deleted) →
        deleted = true) → files.journal = none := by
  have dutiful := dutiful_of_run run
  refine ⟨?_, ?_, ?_⟩
  · intro record found
    obtain ⟨_, truthful⟩ := journalled.truthful rfl dutiful found
    refine ⟨truthful.identity, ?_, truthful.drained, ?_, ?_, truthful.committed, ?_⟩
    · intro early
      have unbegun := truthful.unbegun early
      simp only [funext writes_begin] at unbegun
      exact unbegun
    · intro late
      apply truthful.sealed
      intro early
      rcases early with phase | phase
      · rw [phase] at late
        exact absurd late (by decide)
      · rw [phase] at late
        exact absurd late (by decide)
    · intro begun
      have sent := truthful.begun begun
      simp only [writes_begin] at sent
      exact sent
    · intro resumed
      exact ⟨truthful.child, truthful.resumed resumed⟩
  · intro earlier later before record other split first second found here
    rw [split] at dutiful
    exact (first.forward found second dutiful).2.2 other here
  · intro outcome last done deletes
    subst done
    have ended := (performHandoff_stands supervisor spec fuel).ended run
    exact journalled.cleared dutiful (ended outcome rfl) deletes

/-! ### The parties of a record -/

private theorem pidAnnounced_kept {before : SupPast} (known : pidAnnounced peer before = some pid)
    (after : SupPast) : pidAnnounced peer (before ++ after) = some pid := by
  unfold pidAnnounced at known ⊢
  rw [List.filterMap_append, List.findSome?_append, known]
  rfl

private theorem Dutiful.spawned_kept {before after : SupPast}
    (dutiful : Dutiful supervisor (before ++ after)) (child : spawned before = some pid) :
    spawned (before ++ after) = some pid := by
  induction after using List.reverseRecOn with
  | nil =>
      rw [List.append_nil]
      exact child
  | append_singleton after event ih =>
      rw [← List.append_assoc] at dutiful ⊢
      have kept := ih dutiful.append_left
      have childless := dutiful.last.1.child (by rw [kept]; rfl)
      rw [spawned_append, childless, Option.none_or]
      exact kept

theorem StageOpDuty.acknowledges {version chosen : ProtoVersion}
    (duty : StageOpDuty supervisor past (.writeFrame peer version (.helloAck chosen handoffId))) :
    handoffIdOf past = some handoffId ∧
      Vouched supervisor past peer (.helloAck chosen handoffId) := by
  obtain ⟨own, turn, identity, due, _, expected, vouched⟩ := duty
  refine ⟨?_, vouched⟩
  rw [identity]
  cases stage : stageOf own past <;> rw [stage] at due <;> cases due <;>
    first | contradiction | exact expected.symm

theorem Truthful.acknowledged (truthful : Truthful supervisor record past)
    (dutiful : Dutiful supervisor past) (peer : Side) :
    ∃ before event after chosen handoffId, past = before ++ event :: after ∧
      delivers event = true ∧ frameTo peer event = some (.helloAck chosen handoffId) ∧
      handoffIdOf before = some handoffId ∧
      Vouched supervisor before peer (.helloAck chosen handoffId) := by
  obtain ⟨event, member, acknowledges⟩ := List.any_eq_true.mp (truthful.acked peer)
  obtain ⟨delivered, writing⟩ := Bool.and_eq_true_iff.mp acknowledges
  obtain ⟨message, handoffId, sent, carried⟩ := writes_frame writing
  obtain ⟨before, after, split⟩ := List.append_of_mem member
  obtain ⟨version, op⟩ := frameTo_op sent
  have duty := (dutiful before event after split).1
  rw [op] at duty
  cases message with
  | helloAck chosen id =>
      cases carried
      obtain ⟨identity, vouched⟩ := duty.acknowledges
      exact ⟨before, event, after, chosen, _, split, delivered, sent, identity, vouched⟩
  | _ => contradiction

private theorem Truthful.parties {spec : SpawnSpec} {events : SupPast}
    {rest : Process SupStore SupAns Halt HandoffOutcome}
    (run : (performHandoff supervisor spec fuel {}).Run events rest)
    (truthful : Truthful supervisor record events) :
    (∀ peer, ∃ event ∈ events, ∃ chosen, delivers event = true ∧
      frameTo peer event = some (.helloAck chosen record.handoffId)) ∧
    (pidAnnounced .incumbent events).isSome = true ∧
    pidAnnounced .successor events = spawned events := by
  have dutiful := dutiful_of_run run
  refine ⟨?_, ?_, ?_⟩
  · intro peer
    obtain ⟨before, event, after, chosen, handoffId, split, delivered, sent, identity, _⟩ :=
      truthful.acknowledged dutiful peer
    have named := handoffIdOf_kept run split identity
    rw [truthful.identity, Option.some.injEq] at named
    refine ⟨event, by rw [split]; simp, chosen, delivered, ?_⟩
    rw [named]
    exact sent
  · obtain ⟨before, event, after, _, _, split, _, _, _, vouched⟩ :=
      truthful.acknowledged dutiful .incumbent
    obtain ⟨pid, hello⟩ := Option.isSome_iff_exists.mp vouched
    rw [split, pidAnnounced_kept hello]
    rfl
  · obtain ⟨before, event, after, _, _, split, _, _, _, vouched⟩ :=
      truthful.acknowledged dutiful .successor
    obtain ⟨pid, child⟩ := Option.isSome_iff_exists.mp vouched.2
    have hello := vouched.1.trans child
    rw [split] at dutiful ⊢
    rw [pidAnnounced_kept hello, dutiful.spawned_kept child]

/-- A call of `perform_handoff` that finds the files `start` does `events` and stops,
and a restarted supervisor obtains `record`. -/
inductive ResumedFrom (supervisor restarted : Supervisor) (start : JournalFiles) (events : SupPast)
    (record : StateJournal) : Prop where
  | intro {spec : SpawnSpec} {fuel : Nat} {rest : Process SupStore SupAns Halt HandoffOutcome}
      {again : SupPast} {files final : JournalFiles} {last : SupStore}
      (run : (performHandoff supervisor spec fuel {}).Run events rest)
      (journalled : Journalled start events files)
      (resumed : (resumeFromJournal restarted {}).Run again (.done (.ok (some record), last)))
      (readBack : Journalled files again final)

/-- The record has the id of both `HelloAck`s, and the pid of the successor is that of
the child. -/
structure Identifies (record : StateJournal) (events : SupPast) : Prop where
  acked : ∀ peer, ∃ event ∈ events, ∃ chosen, delivers event = true ∧
    frameTo peer event = some (.helloAck chosen record.handoffId)
  named : ∀ peer, ∀ event ∈ events, ∀ chosen handoffId,
    frameTo peer event = some (.helloAck chosen handoffId) → handoffId = record.handoffId
  announced : pidAnnounced .successor events = record.successorPid
  spawned : record.successorPid = spawned events
  present : record.successorPid.isSome = true

section

variable {supervisor restarted : Supervisor} {start : JournalFiles} {events : SupPast}
  {record : StateJournal}

theorem ResumedFrom.truthful (resumed : ResumedFrom supervisor restarted start events record)
    (blank : start.record? = none) : Truthful supervisor record events := by
  cases resumed with
  | intro run journalled resumed readBack =>
      obtain ⟨event, others, split, reads⟩ :=
        (resumeFromJournal_reads restarted).ended resumed record rfl
      obtain ⟨next, step⟩ := readBack.head split
      exact (journalled.truthful blank (dutiful_of_run run) (step.reads reads)).2

private theorem ResumedFrom.identifies
    (resumed : ResumedFrom supervisor restarted start events record) (blank : start.record? = none) :
    Identifies record events := by
  have truthful := resumed.truthful blank
  cases resumed with
  | intro run journalled resumed readBack =>
      obtain ⟨acked, _, announced⟩ := truthful.parties run
      refine ⟨acked, ?_, ?_, truthful.successor, ?_⟩
      · intro peer event member chosen handoffId sent
        obtain ⟨before, after, split⟩ := List.append_of_mem member
        obtain ⟨version, op⟩ := frameTo_op sent
        have duty := (dutiful_of_run run before event after split).1
        rw [op] at duty
        have named := handoffIdOf_kept run split duty.acknowledges.1
        rw [truthful.identity, Option.some.injEq] at named
        exact named.symm
      · rw [announced, truthful.successor]
      · rw [truthful.successor]
        exact truthful.child

private theorem StateJournal.read_record (found : files.record? = some record) :
    ((StateJournal.read none).run files).1 = .ok (some record) := by
  obtain ⟨journal, tmp⟩ := files
  cases journal with
  | none => contradiction
  | some bytes =>
      rw [JournalFiles.record?, Option.bind_some] at found
      rw [StateJournal.read_run]
      generalize StateJournal.ofBytes bytes = decoded at found
      cases decoded with
      | error cause => contradiction
      | ok other =>
          cases found
          rfl

/-- What a restarted supervisor does when it finds a record and no incumbent. -/
def recovers (restarted : Supervisor) (record : StateJournal) : SupPast :=
  [⟨⟨{}, .journalRead⟩, .ok (some record)⟩,
    ⟨⟨{}, .connect restarted.socketPath⟩, .error (.ofKind .notFound "")⟩,
    ⟨⟨{}, .journalDelete⟩, .ok ()⟩]

private theorem recovers_run (configured : restarted.journalPath.isSome = true)
    (record : StateJournal) :
    (resumeFromJournal restarted {}).Run (recovers restarted record)
      (.done (.ok (some record), {})) := by
  obtain ⟨path, here⟩ := Option.isSome_iff_exists.mp configured
  unfold resumeFromJournal recovers
  rw [here]
  apply run_callBind
  apply run_callBind
  apply run_callBind
  exact Program.Run.stop _

private theorem recovers_journalled (found : files.record? = some record) :
    Journalled files (recovers restarted record) { files with journal := none } := by
  have read : JournalStep files ⟨⟨{}, .journalRead⟩, .ok (some record)⟩ files := by
    rw [← StateJournal.read_record found]
    exact .read {} none
  exact ((Journalled.start.step read).step (.other rfl)).step (.delete {} none)

private theorem resumed_leftover (supervisor : Supervisor)
    (configured : restarted.journalPath.isSome = true) (leftover : start.record? = some record) :
    ResumedFrom supervisor restarted start [] record := by
  have run : (performHandoff supervisor { binary := "" } 0 {}).Run [] _ := Program.Run.stop _
  exact .intro run .start (recovers_run configured record) (recovers_journalled leftover)

end

/-- A restarted supervisor finds the id and the successor of the handoff in the
record, whatever the peers do, exactly when no record was there at the beginning.
The incumbent is the one in the record exactly when it announced the pid of the
supervisor. -/
theorem journal_identifies (supervisor restarted : Supervisor) (start : JournalFiles)
    (configured : restarted.journalPath.isSome = true) :
    ((∀ events record, ResumedFrom supervisor restarted start events record →
        Identifies record events) ↔ start.record? = none) ∧
    (start.record? = none → ∀ events record, ResumedFrom supervisor restarted start events record →
      (pidAnnounced .incumbent events = some record.incumbentPid ↔
        pidAnnounced .incumbent events = some supervisor.pid)) := by
  refine ⟨⟨?_, ?_⟩, ?_⟩
  · intro identified
    by_contra present
    obtain ⟨record, leftover⟩ := Option.ne_none_iff_exists'.mp present
    have resumed := resumed_leftover supervisor configured leftover
    obtain ⟨event, member, _⟩ := (identified [] record resumed).acked .incumbent
    contradiction
  · intro blank events record resumed
    exact resumed.identifies blank
  · intro blank events record resumed
    rw [(resumed.truthful blank).incumbent]

/-! ### Rehearsed journals -/

def JournalFiles.after (files : JournalFiles) : SupEvent → JournalFiles
  | ⟨⟨_, .journalWrite record⟩, _⟩ => ((record.writeAtomic {}).run files).2
  | ⟨⟨_, .journalDelete⟩, _⟩ => ((StateJournal.delete none).run files).2
  | _ => files

def JournalFiles.replay (files : JournalFiles) (past : SupPast) : JournalFiles :=
  past.foldl JournalFiles.after files

/-- Every change of the journal succeeds and nobody reads it. -/
def smooth (past : SupPast) : Bool :=
  past.all fun event => match event with
    | ⟨⟨_, .journalWrite _⟩, answer⟩ => answer.isOk
    | ⟨⟨_, .journalDelete⟩, answer⟩ => answer.isOk
    | ⟨⟨_, .journalRead⟩, _⟩ => false
    | _ => true

private theorem journalled_replay (start : JournalFiles) (easy : smooth past = true) :
    Journalled start past (start.replay past) := by
  induction past using List.reverseRecOn with
  | nil => exact .start
  | append_singleton past event ih =>
      rw [smooth, List.all_append, Bool.and_eq_true] at easy
      rw [JournalFiles.replay, List.foldl_append]
      refine .step (ih easy.1) ?_
      have here := easy.2
      obtain ⟨⟨store, op⟩, answer⟩ := event
      cases op with
      | journalRead => contradiction
      | journalWrite record =>
          cases answer with
          | ok _ => exact .write store record {}
          | error cause => contradiction
      | journalDelete =>
          cases answer with
          | ok _ => exact .delete store none
          | error cause => contradiction
      | _ => exact .other rfl

theorem journal_position_stopped :
    (JournalFiles.replay {} (committedHandoff.perform 40).1).record?.map StateJournal.phase =
      some .awaitingReady ∧
    (committedHandoff.perform 40).1.any (fun event => delivers event && writesBegin event) =
      true ∧
    (JournalFiles.replay {} (committedHandoff.perform 80).1).journal = none := by
  have phase : (JournalFiles.replay {} (committedHandoff.perform 40).1).record?.map
      StateJournal.phase = some .awaitingReady := by decide +kernel
  have stopped := journal_position rehearsalSupervisor rehearsalSpec 40 _ _ _
    (Program.play_run committedHandoff.answer 40 [] _)
    (journalled_replay {} (by decide +kernel))
  have finished := journal_position rehearsalSupervisor rehearsalSpec 80 _ _ _
    (Program.play_run committedHandoff.answer 80 [] _)
    (journalled_replay {} (by decide +kernel))
  have done : (committedHandoff.perform 80).2 = .done (.ok committedOutcome, {}) :=
    Program.eq_done_of_result? (by decide +kernel)
  refine ⟨phase, ?_, finished.2.2 _ _ done (by decide +kernel)⟩
  obtain ⟨record, found, awaiting⟩ := Option.map_eq_some_iff.mp phase
  exact (stopped.1 record found).2.2.2.2.1 (Or.inl awaiting)

def rehearsalRecord : StateJournal :=
  { handoffId := ⟨1⟩, phase := .awaitingReady, incumbentPid := 3, successorPid := some 7
    startedAtUnixMs := 0 }

private theorem rehearsal_resumed {rehearsal : SupRehearsal}
    (easy : smooth (rehearsal.perform fuel).1 = true)
    (there : (JournalFiles.replay {} (rehearsal.perform fuel).1).journal =
      some rehearsalRecord.bytes) :
    ResumedFrom rehearsalSupervisor rehearsalSupervisor {} (rehearsal.perform fuel).1 rehearsalRecord :=
  .intro (Program.play_run rehearsal.answer fuel [] _) (journalled_replay {} easy)
    (recovers_run rfl rehearsalRecord) (recovers_journalled (JournalFiles.record?_written there))

theorem journal_identifies_own :
    Identifies rehearsalRecord (committedHandoff.perform 40).1 ∧
      pidAnnounced .incumbent (committedHandoff.perform 40).1 =
        some rehearsalRecord.incumbentPid := by
  have resumed : ResumedFrom rehearsalSupervisor rehearsalSupervisor {} (committedHandoff.perform 40).1
      rehearsalRecord := rehearsal_resumed (by decide +kernel) (by decide +kernel)
  obtain ⟨identified, incumbent⟩ :=
    journal_identifies rehearsalSupervisor rehearsalSupervisor {} rfl
  refine ⟨identified.mpr rfl _ _ resumed, (incumbent rfl _ _ resumed).mpr ?_⟩
  decide +kernel

/-- The incumbent runs as pid 5, the supervisor as pid 3. -/
def servedByAnother : SupRehearsal :=
  { committedHandoff with
    incumbent := .frame 1 (.hello .incumbent 5 [] 1 1 {}) :: incumbentFrames.tail }

/-- The record names the supervisor in place of the incumbent. -/
theorem journal_misnames_incumbent :
    ∃ events record, ResumedFrom rehearsalSupervisor rehearsalSupervisor {} events record ∧
      pidAnnounced .incumbent events = some 5 ∧ record.incumbentPid = rehearsalSupervisor.pid ∧
      pidAnnounced .incumbent events ≠ some record.incumbentPid := by
  have hello : pidAnnounced .incumbent (servedByAnother.perform 40).1 = some 5 := by
    decide +kernel
  refine ⟨(servedByAnother.perform 40).1, rehearsalRecord,
    rehearsal_resumed (by decide +kernel) (by decide +kernel), hello, rfl, ?_⟩
  rw [hello]
  decide

end Handoff
