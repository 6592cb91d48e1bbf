/-
Every run of `perform_handoff`.

The contract read as a statement about histories.  The peers, the clock, the
journal and the child answer as they like; what is fixed is which decisions may
follow which answers.
-/

import Handoff.Supervisor.Outcome

namespace Handoff

open Effects SupM

section Runs

variable {supervisor : Supervisor} {spec : SpawnSpec} {fuel : Nat} {events : SupPast}
  {rest : Process SupStore SupAns Halt HandoffOutcome} {event : SupEvent} {before after : SupPast}

theorem performHandoff_duty (run : (performHandoff supervisor spec fuel {}).Run events rest)
    (split : events = before ++ event :: after) : SupOpDuty before event.op.store event.op.op :=
  run.asked (performHandoff_meets supervisor spec fuel) split

/-- The id is generated once, so it stays what it is. -/
theorem handoffIdOf_kept (run : (performHandoff supervisor spec fuel {}).Run events rest)
    (split : events = before ++ after) {handoffId : HandoffId}
    (identity : handoffIdOf before = some handoffId) : handoffIdOf events = some handoffId := by
  rw [split]
  suffices kept : ∀ middle last, after = middle ++ last →
      handoffIdOf (before ++ middle) = some handoffId from kept after [] (List.append_nil _).symm
  intro middle
  induction middle using List.reverseRecOn with
  | nil =>
      intro _ _
      rw [List.append_nil]
      exact identity
  | append_singleton middle event ih =>
      intro last here
      have known := ih (event :: last) (by rw [here, List.append_assoc, List.singleton_append])
      have place : events = (before ++ middle) ++ event :: last := by
        rw [split, here]
        simp
      have duty := performHandoff_duty run place
      rw [← List.append_assoc, handoffIdOf_append]
      cases fresh : handoffIdOf? event with
      | none => exact known
      | some other =>
          obtain ⟨⟨store, op⟩, answer⟩ := event
          cases op with
          | newHandoffId =>
              rw [show handoffIdOf (before ++ middle) = none from duty.1] at known
              contradiction
          | _ => contradiction

theorem frameTo_op {peer : Side} {message : Message} (written : frameTo peer event = some message) :
    ∃ version, event.op.op = .writeFrame peer version message := by
  obtain ⟨⟨store, op⟩, answer⟩ := event
  cases op with
  | writeFrame other version frame =>
      unfold frameTo at written
      dsimp only at written
      split at written
      · next same =>
          cases written
          exact ⟨version, by rw [same]⟩
      · contradiction
  | _ => contradiction

private theorem writesCommit_frame (writes : writesCommit event = true) :
    ∃ handoffId, frameTo .incumbent event = some (.commit handoffId) := by
  unfold writesCommit at writes
  split at writes
  · next handoffId written => exact ⟨handoffId, written⟩
  · contradiction

private theorem writesResume_frame (writes : writesResume event = true) :
    ∃ handoffId, frameTo .incumbent event = some (.resumeAfterAbort handoffId) := by
  unfold writesResume at writes
  split at writes
  · next handoffId written => exact ⟨handoffId, written⟩
  · contradiction

section Written

variable (run : (performHandoff supervisor spec fuel {}).Run events rest)
  {before after : SupPast} {event : SupEvent} (split : events = before ++ event :: after)
  {handoffId : HandoffId}

include run split

private theorem sealRequest_written
    (written : frameTo .incumbent event = some (.sealRequest handoffId)) :
    before.any readsDrained = true := by
  obtain ⟨version, op⟩ := frameTo_op written
  have duty := performHandoff_duty run split
  rw [op] at duty
  exact duty.1

private theorem begin_written (written : frameTo .successor event = some (.begin handoffId)) :
    handoffIdOf before = some handoffId ∧ before.any (readsSealComplete handoffId) = true := by
  obtain ⟨version, op⟩ := frameTo_op written
  have duty := performHandoff_duty run split
  rw [op] at duty
  exact duty

private theorem commit_written (written : frameTo .incumbent event = some (.commit handoffId)) :
    handoffIdOf before = some handoffId ∧ ReadyRead handoffId before ∧
      event.op.store.guard = none ∧ before.any kills = false ∧
      before.any writesResume = false ∧ (spawned before).isSome = true := by
  obtain ⟨version, op⟩ := frameTo_op written
  have duty := performHandoff_duty run split
  rw [op] at duty
  exact duty

private theorem resume_written
    (written : frameTo .incumbent event = some (.resumeAfterAbort handoffId)) :
    handoffIdOf before = some handoffId ∧ Reaped before ∧
      before.any writesCommit = false := by
  obtain ⟨version, op⟩ := frameTo_op written
  have duty := performHandoff_duty run split
  rw [op] at duty
  exact duty

end Written

private theorem commit_excludes_resume
    (run : (performHandoff supervisor spec fuel {}).Run events rest)
    (committed : events.any writesCommit = true) : events.any writesResume = false := by
  apply Bool.eq_false_iff.mpr
  intro resumed
  obtain ⟨commit, committing, writesCommit⟩ := List.any_eq_true.mp committed
  obtain ⟨resume, resuming, writesResume⟩ := List.any_eq_true.mp resumed
  obtain ⟨before, after, split⟩ := List.append_of_mem committing
  obtain ⟨commitId, commitFrame⟩ := writesCommit_frame writesCommit
  obtain ⟨resumeId, resumeFrame⟩ := writesResume_frame writesResume
  rw [split] at resuming
  rcases List.mem_append.mp resuming with earlier | later
  · have unresumed := (commit_written run split commitFrame).2.2.2.2.1
    exact Bool.eq_false_iff.mp unresumed (List.any_eq_true.mpr ⟨resume, earlier, writesResume⟩)
  · rcases List.mem_cons.mp later with rfl | later
    · cases commitFrame.symm.trans resumeFrame
    · obtain ⟨between, last, place⟩ := List.append_of_mem later
      have here : events = (before ++ commit :: between) ++ resume :: last := by
        rw [split, place]
        simp
      have uncommitted := (resume_written run here resumeFrame).2.2
      exact Bool.eq_false_iff.mp uncommitted
        (List.any_eq_true.mpr ⟨commit, by simp, writesCommit⟩)

/-- The stream to the incumbent is closed when the child is gone, unless the
handoff was decided in favour of the child. -/
private theorem incumbent_closed (run : (performHandoff supervisor spec fuel {}).Run events rest)
    (split : events = before ++ event :: after) (close : event.op.op = .close .incumbent)
    (unready : Unready events) : Reaped before := by
  have duty := performHandoff_duty run split
  rw [close] at duty
  rcases duty with reaped | ⟨handoffId, identity, ready⟩
  · exact reaped
  · obtain ⟨earlier, reading, later, rfl, reads, begun⟩ := ready
    exact absurd ⟨earlier, reading, later ++ event :: after, by rw [split]; simp, reads, begun⟩
      (unready handoffId (handoffIdOf_kept run split identity))

theorem performHandoff_aborted {outcome : Except Halt HandoffOutcome} {last : SupStore}
    (run : (performHandoff supervisor spec fuel {}).Run events (.done (outcome, last)))
    (aborted : ∀ result, outcome = .ok result → result.committed = false) : Gone events last := by
  have finished := (performHandoff_meets supervisor spec fuel).ended run
  cases outcome with
  | error halt => exact finished
  | ok result =>
      unfold Finished at finished
      dsimp only at finished
      rw [aborted result rfl] at finished
      exact finished

theorem performHandoff_committed {result : HandoffOutcome} {last : SupStore}
    (run : (performHandoff supervisor spec fuel {}).Run events (.done (.ok result, last)))
    (committed : result.committed = true) :
    Installed result.handoffId events last ∧ result.child = spawned events ∧
      result.child.isSome = true := by
  have finished := (performHandoff_meets supervisor spec fuel).ended run
  unfold Finished at finished
  dsimp only at finished
  rw [if_pos committed] at finished
  exact finished

/-- Every run of one call, whatever the peers, the journal and the clock do:
what precedes each message that moves the handoff, and what each result means. -/
theorem performHandoff_decisions (supervisor : Supervisor) (spec : SpawnSpec) (fuel : Nat)
    (events : SupPast) (rest : Process SupStore SupAns Halt HandoffOutcome)
    (run : (performHandoff supervisor spec fuel {}).Run events rest) :
    (∀ before event after handoffId, events = before ++ event :: after →
      (frameTo .incumbent event = some (.sealRequest handoffId) →
        before.any readsDrained = true) ∧
      (frameTo .successor event = some (.begin handoffId) →
        handoffIdOf before = some handoffId ∧
          before.any (readsSealComplete handoffId) = true) ∧
      (frameTo .incumbent event = some (.commit handoffId) →
        handoffIdOf before = some handoffId ∧ ReadyRead handoffId before ∧
          event.op.store.guard = none ∧ before.any kills = false) ∧
      (frameTo .incumbent event = some (.resumeAfterAbort handoffId) → Reaped before)) ∧
    (events.any writesCommit = true → events.any writesResume = false) ∧
    ∀ outcome last, rest = .done (outcome, last) →
      ((∃ result, outcome = .ok result ∧ result.committed = true) ↔
        ∃ handoffId, handoffIdOf events = some handoffId ∧ ReadyRead handoffId events) ∧
      (∀ result, outcome = .ok result → result.committed = true →
        events.any kills = false ∧ result.child = spawned events ∧
          result.child.isSome = true) ∧
      ((∀ result, outcome = .ok result → result.committed = false) →
        Reaped events ∧ ∀ before event after, events = before ++ event :: after →
          event.op.op = .close .incumbent → Reaped before) := by
  refine ⟨?_, commit_excludes_resume run, ?_⟩
  · intro before event after handoffId split
    refine ⟨sealRequest_written run split, begin_written run split, ?_, ?_⟩
    · intro written
      obtain ⟨identity, ready, disarmed, alive, _⟩ := commit_written run split written
      exact ⟨identity, ready, disarmed, alive⟩
    · intro written
      exact (resume_written run split written).2.1
  · rintro outcome last rfl
    refine ⟨⟨?_, ?_⟩, ?_, ?_⟩
    · rintro ⟨result, rfl, committed⟩
      have installed := (performHandoff_committed run committed).1
      exact ⟨result.handoffId, installed.identity, installed.ready⟩
    · rintro ⟨handoffId, identity, ready⟩
      by_contra uncommitted
      have gone := performHandoff_aborted run fun result same =>
        Bool.eq_false_iff.mpr fun committed => uncommitted ⟨result, same, committed⟩
      exact gone.unready handoffId identity ready
    · rintro result rfl committed
      obtain ⟨installed, child, present⟩ := performHandoff_committed run committed
      exact ⟨installed.alive, child, present⟩
    · intro aborted
      have gone := performHandoff_aborted run aborted
      refine ⟨gone.reaped, ?_⟩
      intro before event after split close
      exact incumbent_closed run split close gone.unready

end Runs

/-! ### Rehearsed runs -/

/-- The frames of the two peers in the order in which they are read; the child
has pid 7 and nothing else fails. -/
structure SupRehearsal where
  incumbent : List Polled
  successor : List Polled

def SupRehearsal.frames (rehearsal : SupRehearsal) : Side → List Polled
  | .incumbent => rehearsal.incumbent
  | .successor => rehearsal.successor

def SupOp.succeeds : (op : SupOp) → Option (SupAns op)
  | .tryLockInFlight => some true
  | .newHandoffId => some ⟨1⟩
  | .now => some 0
  | .nowUnixMs => some 0
  | .connect _ | .configureControlStream _ | .setReadTimeout .. | .writeFrame ..
  | .makeSocketpair | .journalWrite _ | .journalDelete | .kill _ | .wait _ => some (.ok ())
  | .spawn _ => some (.ok 7)
  | .closeChildEnd | .close _ | .releaseInFlight _ => some ()
  | .readWouldBlock _ => some false
  | .pollRead _ => some (.waiting false)
  | .journalRead => some (.ok none)
  | .readMessage _ | .outOfFuel => none

def SupRehearsal.answer (rehearsal : SupRehearsal) (past : SupPast) :
    (call : Call SupStore SupOp) → Option (SupAns call.op)
  | ⟨_, op⟩ =>
      match op with
      | .pollRead peer =>
          (rehearsal.frames peer)[past.countP fun event => event.op.op == .pollRead peer]?
      | op => SupOp.succeeds op

def rehearsalSupervisor : Supervisor :=
  { socketPath := "/run/ctl.sock", listenerFds := [], journalPath := some "/run/journal", pid := 3 }

def rehearsalSpec : SpawnSpec := { binary := "daemon" }

def SupRehearsal.perform (rehearsal : SupRehearsal) (steps : Nat) :
    SupPast × Process SupStore SupAns Halt HandoffOutcome :=
  Program.play rehearsal.answer steps []
    (performHandoff rehearsalSupervisor rehearsalSpec steps {})

def incumbentFrames : List Polled :=
  [.frame 1 (.hello .incumbent 3 [] 1 1 {}), .frame 1 (.drained 0 true),
    .frame 1 (.sealComplete ⟨1⟩ [] (Vector.replicate 32 0))]

def successorHello : Polled := .frame 1 (.hello .successor 7 [] 1 1 {})

def committedHandoff : SupRehearsal :=
  { incumbent := incumbentFrames
    successor := [successorHello, .frame 1 (.ready ⟨1⟩ [] true [])] }

/-- The successor hangs up instead of sending `Ready`. -/
def abortedHandoff : SupRehearsal :=
  { incumbent := incumbentFrames
    successor := [successorHello, .failed (.io (.ofKind .unexpectedEof ""))] }

def committedOutcome : HandoffOutcome :=
  { handoffId := ⟨1⟩, committed := true, abortReason := none, child := some 7 }

def abortedOutcome : HandoffOutcome :=
  { handoffId := ⟨1⟩, committed := false, child := none
    abortReason := some "ready read failed: io: " }

theorem performHandoff_decisions_both :
    ((committedHandoff.perform 80).2 = .done (.ok committedOutcome, {}) ∧
      (committedHandoff.perform 80).1.any writesCommit = true ∧
      (committedHandoff.perform 80).1.any writesResume = false ∧
      (committedHandoff.perform 80).1.any kills = false) ∧
    (abortedHandoff.perform 80).2 = .done (.ok abortedOutcome, {}) ∧
      (abortedHandoff.perform 80).1.any writesResume = true ∧
      Reaped (abortedHandoff.perform 80).1 := by
  have committed : (committedHandoff.perform 80).1.any writesCommit = true := by decide +kernel
  have kept := performHandoff_decisions rehearsalSupervisor rehearsalSpec 80 _ _
    (Program.play_run committedHandoff.answer 80 [] _)
  have dropped := performHandoff_decisions rehearsalSupervisor rehearsalSpec 80 _ _
    (Program.play_run abortedHandoff.answer 80 [] _)
  have keptDone : (committedHandoff.perform 80).2 = .done (.ok committedOutcome, {}) :=
    Program.eq_done_of_result? (by decide +kernel)
  have droppedDone : (abortedHandoff.perform 80).2 = .done (.ok abortedOutcome, {}) :=
    Program.eq_done_of_result? (by decide +kernel)
  refine ⟨⟨keptDone, committed, kept.2.1 committed, ?_⟩, droppedDone, by decide +kernel, ?_⟩
  · exact ((kept.2.2 _ _ keptDone).2.1 committedOutcome rfl rfl).1
  · refine ((dropped.2.2 _ _ droppedDone).2.2 ?_).1
    rintro result same
    cases same
    rfl

end Handoff
