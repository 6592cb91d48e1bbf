/-
One turn of the trigger loop, as a contract.

The deeds of a turn are what it leaves behind: a handoff, a child that takes the
place of another, a reply.  An operation is issued for an authorised client only,
and the deeds before it decide whether it may be issued: at most one handoff,
then at most one new child, then one reply that reports them.
-/

import Handoff.Trigger.WholeLine

namespace Handoff.Trigger

open Effects
open Effects.Code hiding pure bind

/-! ### Deeds -/

inductive Deed where
  | handed (outcome : Except Halt HandoffOutcome)
  -- the mutex around the child was poisoned
  | unlocked
  | adopted (pid : UInt32)
  | replied (reply : Reply)
  deriving DecidableEq

def deed? : TriggerEvent → Option Deed
  | ⟨⟨_, .performHandoff _⟩, outcome⟩ => some (.handed outcome)
  | ⟨⟨_, .lockChild⟩, false⟩ => some .unlocked
  | ⟨⟨_, .replaceChild pid⟩, _⟩ => some (.adopted pid)
  | ⟨⟨_, .writeReply reply⟩, _⟩ => some (.replied reply)
  | _ => none

def deeds (past : TriggerPast) : List Deed := past.filterMap deed?

theorem deeds_append (past more : TriggerPast) : deeds (past ++ more) = deeds past ++ deeds more :=
  List.filterMap_append

theorem deeds_idle {past : TriggerPast} {event : TriggerEvent} (idle : deed? event = none) :
    deeds (past ++ [event]) = deeds past := by
  simp [deeds, idle]

theorem deeds_add {past : TriggerPast} {event : TriggerEvent} {deed : Deed}
    (does : deed? event = some deed) : deeds (past ++ [event]) = deeds past ++ [deed] := by
  simp [deeds, does]

theorem deeds_cons {past : TriggerPast} {event : TriggerEvent} {deed : Deed}
    (does : deed? event = some deed) : deeds (event :: past) = deed :: deeds past := by
  simp [deeds, does]

def HandoffOutcome.reply (outcome : HandoffOutcome) : Reply :=
  .ok outcome.handoffId outcome.committed outcome.abortReason

/-- The reply says what was done, and all that was to be done was done. -/
inductive Reports : List Deed → Reply → Prop where
  | nothing (text : String) : Reports [] (.err text)
  | failed (cause : Error) : Reports [.handed (.error (.error cause))] (.err "perform_handoff")
  | childless (outcome : HandoffOutcome)
      (without : ¬(outcome.committed = true ∧ outcome.child.isSome = true)) :
      Reports [.handed (.ok outcome)] (HandoffOutcome.reply outcome)
  | unlocked (outcome : HandoffOutcome) (committed : outcome.committed = true) :
      Reports [.handed (.ok outcome), .unlocked] (HandoffOutcome.reply outcome)
  | adopted (outcome : HandoffOutcome) (pid : UInt32) (committed : outcome.committed = true)
      (child : outcome.child = some pid) :
      Reports [.handed (.ok outcome), .adopted pid] (HandoffOutcome.reply outcome)

theorem Reports.adopts {earlier later : List Deed} {outcome : HandoffOutcome} {pid : UInt32}
    {done : List Deed} {reply : Reply} (reports : Reports done reply)
    (whole : earlier ++ .handed (.ok outcome) :: later = done ++ [.replied reply])
    (committed : outcome.committed = true) (child : outcome.child = some pid) :
    .unlocked ∈ later ∨ .adopted pid ∈ later := by
  have first {other : Deed} {rest : List Deed}
      (split : earlier ++ .handed (.ok outcome) :: later = other :: rest)
      (unhanded : .handed (.ok outcome) ∉ rest) : other = .handed (.ok outcome) ∧ later = rest := by
    cases earlier with
    | nil =>
        obtain ⟨rfl, rfl⟩ := List.cons.inj split
        exact ⟨rfl, rfl⟩
    | cons head tail =>
        obtain ⟨_, rfl⟩ := List.cons.inj split
        exact absurd (by simp) unhanded
  cases reports with
  | nothing text => exact absurd (first whole (by simp)).1 (by simp)
  | failed cause => exact absurd (first whole (by simp)).1 (by simp)
  | childless other without =>
      obtain ⟨same, _⟩ := first whole (by simp)
      cases same
      exact absurd ⟨committed, by rw [child]; rfl⟩ without
  | unlocked other _ =>
      obtain ⟨_, rfl⟩ := first whole (by simp)
      exact Or.inl (by simp)
  | adopted other found _ present =>
      obtain ⟨same, rfl⟩ := first whole (by simp)
      cases same
      rw [child] at present
      cases present
      exact Or.inr (by simp)

/-! ### The contract -/

/-- The polls of `wait_child_with_timeout`: the child has exited, cannot be waited
for, or has used up its grace. -/
inductive PolledOut (grace : Duration) (start : Instant) : TriggerPast → Prop where
  | exited (status : Int) : PolledOut grace start [⟨⟨(), .tryWait⟩, .ok (some status)⟩]
  | failed (cause : IoError) : PolledOut grace start [⟨⟨(), .tryWait⟩, .error cause⟩]
  | expired (now : Instant) (late : start + grace ≤ now) :
      PolledOut grace start [⟨⟨(), .tryWait⟩, .ok none⟩, ⟨⟨(), .now⟩, now⟩]
  | again {polls : TriggerPast} (now : Instant) (early : now < start + grace)
      (rest : PolledOut grace start polls) :
      PolledOut grace start (⟨⟨(), .tryWait⟩, .ok none⟩ :: ⟨⟨(), .now⟩, now⟩ ::
        ⟨⟨(), .sleep (Duration.fromMillis 50)⟩, ()⟩ :: polls)

def Config.grace (cfg : Config) : Duration := Duration.fromSecs cfg.deadlineSecs.toNat

/-- The child that is replaced was waited for, under the lock and right after the
handoff. -/
def Outwaited (cfg : Config) (outcome : HandoffOutcome) (past : TriggerPast) : Prop :=
  ∃ earlier spec start polls, past = earlier ++ ⟨⟨(), .performHandoff spec⟩, .ok outcome⟩ ::
    ⟨⟨(), .lockChild⟩, true⟩ :: ⟨⟨(), .now⟩, start⟩ :: polls ∧ PolledOut cfg.grace start polls

/-- A reading of the clock that leaves no room for the grace. -/
def Overrun (cfg : Config) (past : TriggerPast) : Prop :=
  ∃ now : Instant, (⟨⟨(), .now⟩, now⟩ : TriggerEvent) ∈ past ∧ Instant.limit ≤ now + cfg.grace

def TurnDuty (euid : UInt32) (cfg : Config) (client : Client) (past : TriggerPast)
    (call : Call Unit TriggerOp) : Prop :=
  match call.op with
  | .writeReply reply =>
      if authorised euid cfg client then
        (commandOf client).isSome = true ∧ Reports (deeds past) reply
      else deeds past = [] ∧ reply = .err "not permitted"
  | .performHandoff _ => authorised euid cfg client = true ∧ deeds past = []
  | .replaceChild pid => authorised euid cfg client = true ∧
      ∃ outcome : HandoffOutcome, deeds past = [.handed (.ok outcome)] ∧
        outcome.committed = true ∧ outcome.child = some pid ∧ Outwaited cfg outcome past
  | _ => authorised euid cfg client = true

/-- How a turn ends: with one reply to a command and none without, or in a panic of
the handoff or of a deadline that is out of range. -/
def TurnEnded (euid : UInt32) (cfg : Config) (client : Client) (outcome : Except TriggerFailure Unit)
    (past : TriggerPast) : Prop :=
  match outcome with
  | .ok () =>
      if authorised euid cfg client then
        if (commandOf client).isSome then
          ∃ done reply, deeds past = done ++ [.replied reply] ∧ Reports done reply
        else deeds past = []
      else deeds past = [] ∨ deeds past = [.replied (.err "not permitted")]
  | .error (.error _) => False
  | .error .panic => deeds past = [.handed (.error .panic)] ∨
      ∃ outcome, deeds past = [.handed (.ok outcome)] ∧ Overrun cfg past

section

variable {euid : UInt32} {cfg : Config} {client : Client} {past : TriggerPast}

/-! ### Waiting for the old child -/

private theorem waitChildLoop_turn (permitted : authorised euid cfg client = true) {start : Instant}
    (fuel : Nat) :
    Meets (TurnDuty euid cfg client) (fun outcome _ later => outcome = .ok () ∧
      deeds later = deeds past ∧ ∃ polls, later = past ++ polls ∧ PolledOut cfg.grace start polls)
      (waitChildLoop (start + cfg.grace) fuel) () past := by
  induction fuel generalizing past with
  | zero => exact ⟨permitted, fun answer => answer.elim⟩
  | succ fuel ih =>
      unfold waitChildLoop
      refine Meets.callBind permitted fun waited => ?_
      cases waited with
      | error cause => exact ⟨rfl, deeds_idle rfl, _, rfl, PolledOut.failed cause⟩
      | ok status =>
          cases status with
          | some status => exact ⟨rfl, deeds_idle rfl, _, rfl, PolledOut.exited status⟩
          | none =>
              refine Meets.callBind permitted fun now => ?_
              rw [meets_ite]
              constructor
              · intro late
                refine ⟨rfl, ?_, _, List.append_assoc .., PolledOut.expired now late⟩
                rw [deeds_idle rfl, deeds_idle rfl]
              · intro early
                refine Meets.callBind permitted fun _ => ?_
                apply ih.mono
                intro outcome _ later ended
                obtain ⟨same, kept, polls, rfl, rest⟩ := ended
                refine ⟨same, ?_, _, ?_, PolledOut.again now (Nat.lt_of_not_le early) rest⟩
                · rw [kept, deeds_idle rfl, deeds_idle rfl, deeds_idle rfl]
                · simp

private theorem waitChildWithTimeout_turn (permitted : authorised euid cfg client = true)
    (fuel : Nat) :
    Meets (TurnDuty euid cfg client) (fun outcome _ later => deeds later = deeds past ∧
      (outcome = .ok () → ∃ start polls, later = past ++ ⟨⟨(), .now⟩, start⟩ :: polls ∧
        PolledOut cfg.grace start polls) ∧
      ∀ failure, outcome = .error failure → failure = .panic ∧ Overrun cfg later)
      (waitChildWithTimeout cfg.grace fuel) () past := by
  unfold waitChildWithTimeout
  refine Meets.callBind permitted fun start => ?_
  rw [meets_ite]
  constructor
  · intro room
    apply (waitChildLoop_turn permitted fuel).mono
    intro outcome _ later waited
    obtain ⟨rfl, same, polls, rfl, polled⟩ := waited
    refine ⟨same.trans (deeds_idle rfl), fun _ => ⟨start, polls, by simp, polled⟩, ?_⟩
    intro failure impossible
    contradiction
  · intro late
    refine ⟨deeds_idle rfl, ?_, ?_⟩
    · intro impossible
      contradiction
    · intro failure same
      cases same
      refine ⟨rfl, start, ?_, Nat.le_of_not_lt late⟩
      exact List.mem_append_right _ (List.mem_singleton_self _)

/-- How `adopt_child` ends: a new child is in place, or there is none to put there. -/
def ChildAdopted (cfg : Config) (outcome : HandoffOutcome) (result : Except TriggerFailure Unit)
    (past : TriggerPast) : Prop :=
  match result with
  | .ok () => Reports (deeds past) (HandoffOutcome.reply outcome)
  | .error failure => failure = .panic ∧ deeds past = [.handed (.ok outcome)] ∧ Overrun cfg past

private theorem adoptChild_turn (permitted : authorised euid cfg client = true)
    (outcome : HandoffOutcome) (fuel : Nat) (handed : deeds past = [.handed (.ok outcome)])
    (last : ∃ earlier spec, past = earlier ++ [⟨⟨(), .performHandoff spec⟩, .ok outcome⟩]) :
    Meets (TurnDuty euid cfg client) (fun result _ later => ChildAdopted cfg outcome result later)
      (adoptChild cfg outcome fuel) () past := by
  have childless (without : ¬(outcome.committed = true ∧ outcome.child.isSome = true)) :
      ChildAdopted cfg outcome (.ok ()) past := by
    rw [ChildAdopted, handed]
    exact Reports.childless outcome without
  unfold adoptChild
  cases committed : outcome.committed with
  | false => exact childless (by simp [committed])
  | true =>
      cases present : outcome.child with
      | none => exact childless (by simp [present])
      | some child =>
          refine Meets.callBind permitted fun locked => ?_
          cases locked with
          | false =>
              change Reports (deeds _) _
              rw [deeds_add rfl, handed]
              exact Reports.unlocked outcome committed
          | true =>
              refine Meets.bind (waitChildWithTimeout_turn permitted fuel) ?_ ?_
              · intro _ _ later waited
                obtain ⟨same, ended, _⟩ := waited
                obtain ⟨start, polls, rfl, polled⟩ := ended rfl
                have kept := (same.trans (deeds_idle rfl)).trans handed
                have outwaited : Outwaited cfg outcome (past ++ [⟨⟨(), .lockChild⟩, true⟩] ++
                    ⟨⟨(), .now⟩, start⟩ :: polls) := by
                  obtain ⟨earlier, spec, rfl⟩ := last
                  exact ⟨earlier, spec, start, polls, by simp, polled⟩
                refine ⟨⟨permitted, outcome, kept, committed, present, outwaited⟩, fun _ => ?_⟩
                change Reports (deeds _) _
                rw [deeds_add rfl, kept]
                exact Reports.adopted outcome child committed present
              · intro failure _ later waited
                obtain ⟨same, _, failed⟩ := waited
                obtain ⟨rfl, overrun⟩ := failed failure rfl
                exact ⟨rfl, (same.trans (deeds_idle rfl)).trans handed, overrun⟩

/-! ### The command -/

def Handled (cfg : Config) (outcome : Except TriggerFailure Reply) (past : TriggerPast) : Prop :=
  match outcome with
  | .ok reply => Reports (deeds past) reply
  | .error (.error display) => Reports (deeds past) (.err display)
  | .error .panic => deeds past = [.handed (.error .panic)] ∨
      ∃ outcome, deeds past = [.handed (.ok outcome)] ∧ Overrun cfg past

private theorem runHandoff_turn (permitted : authorised euid cfg client = true) (binary : String)
    (fuel : Nat) (fresh : deeds past = []) :
    Meets (TurnDuty euid cfg client) (fun outcome _ later => Handled cfg outcome later)
      (runHandoff cfg binary fuel) () past := by
  unfold runHandoff
  refine Meets.callBind ⟨permitted, fresh⟩ fun answer => ?_
  have handed : deeds (past ++ [⟨⟨(), .performHandoff (cfg.spec binary)⟩, answer⟩]) =
      [.handed answer] := by
    rw [deeds_add rfl, fresh]
    rfl
  cases answer with
  | error halt =>
      cases halt with
      | error cause =>
          change Reports (deeds _) _
          rw [handed]
          exact Reports.failed cause
      | panic => exact Or.inl handed
  | ok outcome =>
      refine Meets.bind (adoptChild_turn permitted outcome fuel handed ⟨past, _, rfl⟩) ?_ ?_
      · intro _ _ later reports
        exact reports
      · intro failure _ later ended
        obtain ⟨rfl, same, overrun⟩ := ended
        exact Or.inr ⟨outcome, same, overrun⟩

private theorem anyCanonical_turn (permitted : authorised euid cfg client = true)
    (canonical : String) (paths : List String) (fresh : deeds past = []) :
    Meets (TurnDuty euid cfg client) (fun outcome _ later => outcome.isOk = true ∧ deeds later = [])
      (anyCanonical canonical paths) () past := by
  induction paths generalizing past with
  | nil => exact ⟨rfl, fresh⟩
  | cons path paths ih =>
      unfold anyCanonical
      refine Meets.callBind permitted fun answer => ?_
      have still : deeds (past ++ [⟨⟨(), .canonicalize path⟩, answer⟩]) = [] :=
        (deeds_idle rfl).trans fresh
      cases answer with
      | error cause => exact ih still
      | ok allowed =>
          dsimp only
          rw [meets_ite]
          exact ⟨fun _ => ⟨rfl, still⟩, fun _ => ih still⟩

private theorem resolveRequestedBinary_turn (permitted : authorised euid cfg client = true)
    (requested : String) (fresh : deeds past = []) :
    Meets (TurnDuty euid cfg client) (fun outcome _ later => deeds later = [] ∧
      outcome ≠ .error .panic) (resolveRequestedBinary requested cfg) () past := by
  unfold resolveRequestedBinary
  refine Meets.callBind permitted fun answer => ?_
  have still : deeds (past ++ [⟨⟨(), .canonicalize requested⟩, answer⟩]) = [] :=
    (deeds_idle rfl).trans fresh
  cases answer with
  | error cause => exact ⟨still, by simp⟩
  | ok canonical =>
      refine Meets.bind (anyCanonical_turn permitted canonical _ still) ?_ ?_
      · intro found _ later looked
        rw [meets_ite]
        exact ⟨fun _ => ⟨looked.2, by simp⟩, fun _ => ⟨looked.2, by simp⟩⟩
      · intro failure _ later looked
        exact absurd looked.1 (by simp [Except.isOk, Except.toBool])

private theorem handleTrigger_turn (permitted : authorised euid cfg client = true) (cmd : List Char)
    (fuel : Nat) (fresh : deeds past = []) :
    Meets (TurnDuty euid cfg client) (fun outcome _ later => Handled cfg outcome later)
      (handleTrigger cmd cfg fuel) () past := by
  have refused {text : String} {later : TriggerPast} (nothing : deeds later = []) :
      Reports (deeds later) (.err text) := by
    rw [nothing]
    exact Reports.nothing text
  unfold handleTrigger
  split
  · exact refused fresh
  · split
    · split
      · exact runHandoff_turn permitted _ fuel fresh
      · refine Meets.bind (resolveRequestedBinary_turn permitted _ fresh) ?_ ?_
        · intro binary _ later resolved
          exact runHandoff_turn permitted binary fuel resolved.1
        · intro failure _ later resolved
          cases failure with
          | error display => exact refused resolved.1
          | panic => exact absurd rfl resolved.2
    · exact refused fresh

/-! ### The turn -/

private theorem readTriggerCommand_refused (refused : authorised euid cfg client = false) :
    Meets (TurnDuty euid cfg client) (fun outcome _ later => outcome = .ok none ∧
      (deeds later = [] ∨ deeds later = [.replied (.err "not permitted")]))
      (readTriggerCommand euid cfg client) () [] := by
  unfold readTriggerCommand
  cases peer : client.peerUid with
  | error cause => exact ⟨rfl, Or.inl rfl⟩
  | ok uid =>
      have other : peerUidIsAllowed euid uid cfg.allowedUids = false := by
        simpa only [authorised, peer] using refused
      simp only [other, if_true]
      refine Meets.callBind ?_ fun _ => ⟨rfl, Or.inr rfl⟩
      simp [TurnDuty, refused, deeds]

private theorem command_turn (permitted : authorised euid cfg client = true) (fuel : Nat)
    {line : String} (sent : commandOf client = some line) :
    Meets (TurnDuty euid cfg client) (fun outcome _ later => TurnEnded euid cfg client outcome later)
      (do
        match ← attempt (handleTrigger (trimText line.toList) cfg fuel) with
        | .ok reply =>
            let _ ← ask (.writeReply reply)
        | .error (.error display) =>
            let _ ← ask (.writeReply (.err display))
        | .error .panic => fail .panic) () [] := by
  have answered {reply : Reply} {later : TriggerPast} (reports : Reports (deeds later) reply) :
      Meets (TurnDuty euid cfg client)
        (fun outcome _ later => TurnEnded euid cfg client outcome later)
        (do let _ ← ask (.writeReply reply)) () later := by
    refine Meets.callBind ?_ fun _ => ?_
    · simp only [TurnDuty, permitted, if_true, sent]
      exact ⟨rfl, reports⟩
    · simp only [meets_pure, TurnEnded, permitted, if_true, sent, Option.isSome_some]
      exact ⟨_, _, deeds_add rfl, reports⟩
  refine Meets.attemptBind (handleTrigger_turn permitted _ fuel rfl) ?_
  intro outcome _ later handled
  cases outcome with
  | ok reply => exact answered handled
  | error failure =>
      cases failure with
      | error display => exact answered handled
      | panic => exact handled

theorem serveClient_turn (fuel : Nat) :
    Meets (TurnDuty euid cfg client) (fun outcome _ later => TurnEnded euid cfg client outcome later)
      (serveClient euid cfg client fuel) () [] := by
  unfold serveClient
  cases permitted : authorised euid cfg client with
  | false =>
      refine Meets.bind (readTriggerCommand_refused permitted) ?_ ?_
      · intro cmd _ later read
        obtain ⟨same, told⟩ := read
        cases same
        simp only [meets_pure, TurnEnded, permitted]
        exact told
      · intro failure _ later read
        exact absurd read.1 (by simp)
  | true =>
      rw [readTriggerCommand_authorised permitted]
      refine Meets.bind (meets_pure (commandOf client) |>.mpr ⟨rfl, rfl⟩ : Meets _
        (fun outcome _ later =>
        outcome = .ok (commandOf client) ∧ later = []) _ _ _) ?_ ?_
      · intro cmd _ later read
        obtain ⟨same, rfl⟩ := read
        cases cmd with
        | none =>
            simp only [meets_pure, TurnEnded, permitted, ← Except.ok.inj same]
            rfl
        | some line => exact command_turn permitted fuel (Except.ok.inj same).symm
      · intro failure _ later read
        exact absurd read.1 (by simp)

end

end Handoff.Trigger
