/-
What the history of a supervisor says about one handoff.

The notions are read off the events: which frames came from which peer, which
were written, and what happened to the child.  A write counts from the moment it
is issued, whether it succeeded or not.
-/

import Handoff.Supervisor.PerformHandoff

namespace Handoff

open Effects

/-- The arm of the seal wait for a frame that is not a progress frame. -/
def ruleOnSeal (handoffId : HandoffId) (message : Message) : SupM (Except String Unit) :=
  match sealVerdict handoffId message with
  | some verdict => pure verdict
  | none => do
      clearRecvTimeout .incumbent
      SupM.raise (.unexpectedMessage (shortName message))

/-- The answer to a `Hello` as expected. -/
def acknowledge (build : Build) (peer : Side) (handoffId : HandoffId)
    (theirMin theirMax : ProtoVersion) : SupM ProtoVersion := do
  let chosen ← SupM.orErr (negotiateVersion build.protoMin build.protoMax theirMin theirMax)
  SupM.orErr (← SupM.ask (.writeFrame peer chosen (.helloAck chosen handoffId)))
  pure chosen

/-- A `Hello` as expected is answered; anything else is an error. -/
theorem ruleOnHello_cases (build : Build) (peer : Side) (handoffId : HandoffId) (role : Side)
    (expectedPid : Option UInt32) (polled : Polled) :
    (∃ cause, ruleOnHello build peer handoffId role expectedPid polled = SupM.raise cause ∧
      ∀ version pid buildId low high capabilities,
        polled = .frame version (.hello role pid buildId low high capabilities) →
        ¬ ∀ expected, expectedPid = some expected → pid = expected) ∨
    ∃ version pid buildId low high capabilities,
      polled = .frame version (.hello role pid buildId low high capabilities) ∧
      (∀ expected, expectedPid = some expected → pid = expected) ∧
      ruleOnHello build peer handoffId role expectedPid polled =
        acknowledge build peer handoffId low high := by
  cases polled with
  | waiting midFrame => exact Or.inl ⟨_, rfl, fun _ _ _ _ _ _ other => by cases other⟩
  | failed cause => exact Or.inl ⟨_, rfl, fun _ _ _ _ _ _ other => by cases other⟩
  | frame version message =>
      cases message with
      | hello theirRole pid buildId low high capabilities =>
          by_cases roles : theirRole = role
          · subst roles
            cases expectedPid with
            | none =>
                refine Or.inr ⟨_, _, _, _, _, _, rfl, ?_, ?_⟩
                · intro expected impossible
                  cases impossible
                · rw [ruleOnHello, if_neg (not_not_intro rfl)]
                  rfl
            | some expected =>
                by_cases pids : pid = expected
                · subst pids
                  refine Or.inr ⟨_, _, _, _, _, _, rfl, fun _ same => Option.some.inj same, ?_⟩
                  rw [ruleOnHello, if_neg (not_not_intro rfl)]
                  dsimp only
                  rw [if_neg (not_not_intro rfl)]
                  rfl
                · refine Or.inl ⟨.pidMismatch expected pid, ?_, ?_⟩
                  · rw [ruleOnHello, if_neg (not_not_intro rfl)]
                    dsimp only
                    rw [if_pos pids]
                    rfl
                  · intro _ _ _ _ _ _ same agreed
                    cases same
                    exact pids (agreed expected rfl)
          · refine Or.inl ⟨_, if_pos roles, ?_⟩
            intro _ _ _ _ _ _ same
            cases same
            exact absurd rfl roles
      | _ => exact Or.inl ⟨_, rfl, fun _ _ _ _ _ _ other => by cases other⟩

def frameFrom (peer : Side) : SupEvent → Option Message
  | ⟨⟨_, .pollRead other⟩, .frame _ message⟩ => if other = peer then some message else none
  | _ => none

def frameTo (peer : Side) : SupEvent → Option Message
  | ⟨⟨_, .writeFrame other _ message⟩, _⟩ => if other = peer then some message else none
  | _ => none

def readsDrained (event : SupEvent) : Bool := (frameFrom .incumbent event).any isDrained

def readsSealComplete (handoffId : HandoffId) (event : SupEvent) : Bool :=
  match frameFrom .incumbent event with
  | some (.sealComplete id _ _) => id == handoffId
  | _ => false

def readsReady (handoffId : HandoffId) (event : SupEvent) : Bool :=
  match frameFrom .successor event with
  | some (.ready id _ _ _) => id == handoffId
  | _ => false

def writesSealRequest (event : SupEvent) : Bool :=
  match frameTo .incumbent event with
  | some (.sealRequest _) => true
  | _ => false

def writesBegin (event : SupEvent) : Bool :=
  match frameTo .successor event with
  | some (.begin _) => true
  | _ => false

def writesCommit (event : SupEvent) : Bool :=
  match frameTo .incumbent event with
  | some (.commit _) => true
  | _ => false

def writesResume (event : SupEvent) : Bool :=
  match frameTo .incumbent event with
  | some (.resumeAfterAbort _) => true
  | _ => false

def kills : SupEvent → Bool
  | ⟨⟨_, .kill _⟩, _⟩ => true
  | _ => false

def handoffIdOf? : SupEvent → Option HandoffId
  | ⟨⟨_, .newHandoffId⟩, handoffId⟩ => some handoffId
  | _ => none

def spawns? : SupEvent → Option UInt32
  | ⟨⟨_, .spawn _⟩, .ok pid⟩ => some pid
  | _ => none

def handoffIdOf (past : SupPast) : Option HandoffId := (past.filterMap handoffIdOf?).getLast?

def spawned (past : SupPast) : Option UInt32 := (past.filterMap spawns?).getLast?

@[simp]
theorem handoffIdOf_append (past : SupPast) (event : SupEvent) :
    handoffIdOf (past ++ [event]) = (handoffIdOf? event).or (handoffIdOf past) := by
  unfold handoffIdOf
  cases found : handoffIdOf? event with
  | none => simp [found]
  | some handoffId => simp [found]

@[simp]
theorem spawned_append (past : SupPast) (event : SupEvent) :
    spawned (past ++ [event]) = (spawns? event).or (spawned past) := by
  unfold spawned
  cases found : spawns? event with
  | none => simp [found]
  | some pid => simp [found]

/-- `Ready` for this handoff was read from the successor after `Begin`. -/
def ReadyRead (handoffId : HandoffId) (past : SupPast) : Prop :=
  ∃ before event after, past = before ++ event :: after ∧ readsReady handoffId event = true ∧
    before.any writesBegin = true

/-- The child, if there is one, was killed and then waited for. -/
def Reaped (past : SupPast) : Prop :=
  ∀ pid, spawned past = some pid → ∃ before killing between waiting after,
    past = before ++ killing :: between ++ waiting :: after ∧ spawned before = some pid ∧
      killing.op.op = .kill pid ∧ waiting.op.op = .wait pid

theorem readyRead_append {handoffId : HandoffId} {past : SupPast} {event : SupEvent} :
    ReadyRead handoffId (past ++ [event]) ↔
      ReadyRead handoffId past ∨
        readsReady handoffId event = true ∧ past.any writesBegin = true := by
  constructor
  · rintro ⟨before, reading, after, split, ready, begun⟩
    cases after using List.reverseRecOn with
    | nil =>
        right
        obtain ⟨rfl, same⟩ := List.append_inj' split rfl
        cases same
        exact ⟨ready, begun⟩
    | append_singleton after last =>
        left
        rw [← List.cons_append, ← List.append_assoc] at split
        obtain ⟨rfl, _⟩ := List.append_inj' split rfl
        exact ⟨before, reading, after, rfl, ready, begun⟩
  · rintro (⟨before, reading, after, rfl, ready, begun⟩ | ⟨ready, begun⟩)
    · exact ⟨before, reading, after ++ [event], by simp, ready, begun⟩
    · exact ⟨past, event, [], rfl, ready, begun⟩

/-- The latest event comes first. -/
def readyReadBack (handoffId : HandoffId) : SupPast → Bool
  | [] => false
  | event :: earlier =>
      readsReady handoffId event && earlier.any writesBegin || readyReadBack handoffId earlier

private theorem readyRead_iff_back (handoffId : HandoffId) (past : SupPast) :
    ReadyRead handoffId past ↔ readyReadBack handoffId past.reverse = true := by
  induction past using List.reverseRecOn with
  | nil => simp [ReadyRead, readyReadBack]
  | append_singleton past event ih =>
      rw [readyRead_append, ih, List.reverse_append, List.reverse_singleton, List.singleton_append,
        readyReadBack, List.any_reverse, Bool.or_eq_true, Bool.and_eq_true]
      exact Or.comm

instance (handoffId : HandoffId) (past : SupPast) : Decidable (ReadyRead handoffId past) :=
  decidable_of_iff _ (readyRead_iff_back handoffId past).symm

def readyHeard (past : SupPast) : Bool :=
  (handoffIdOf past).any fun handoffId => decide (ReadyRead handoffId past)

theorem readyHeard_iff {past : SupPast} :
    readyHeard past = true ↔ ∃ handoffId, handoffIdOf past = some handoffId ∧
      ReadyRead handoffId past := by
  unfold readyHeard
  rw [Option.any_eq_true]
  simp only [decide_eq_true_eq]

theorem not_readyRead {handoffId : HandoffId} {past : SupPast}
    (unbegun : past.any writesBegin = false) : ¬ReadyRead handoffId past := by
  rintro ⟨before, event, after, rfl, _, begun⟩
  rw [List.any_append, begun] at unbegun
  contradiction

theorem Reaped.append {past : SupPast} (reaped : Reaped past) (event : SupEvent)
    (childless : spawns? event = none) : Reaped (past ++ [event]) := by
  intro pid child
  rw [spawned_append, childless, Option.none_or] at child
  obtain ⟨before, killing, between, waiting, after, rfl, owned, kill, wait⟩ := reaped pid child
  exact ⟨before, killing, between, waiting, after ++ [event], by simp, owned, kill, wait⟩

end Handoff
