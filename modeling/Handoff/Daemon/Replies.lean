/-
What the clients are told.

The history is cut at the connections that are accepted.  In every finished turn
an authorised client with a command has one reply, which says that the handoff
was committed when the new primitive has taken over and says otherwise when no
child of the turn is left; nothing at all is done for anybody else.
-/

import Handoff.Daemon.Execution

namespace Handoff.Daemon

open Effects
open Effects.Code hiding pure bind
open Trigger (Client TriggerOp TriggerAns TriggerFailure TriggerPast TriggerEvent Deed Reports Reply
  serveClient deeds deed?)

variable {machine : Machine} {settings : Settings} {supervisor : Supervisor} {fuel : Nat}
  {client : Client} {base past : DaemonPast}

/-! ### The turns of a history -/

def cutTurn (turns : List (Client × DaemonPast)) (event : DaemonEvent) :
    List (Client × DaemonPast) :=
  match event with
  | ⟨⟨_, .accept⟩, .ok client⟩ => (client, []) :: turns
  | ⟨⟨_, .accept⟩, .error _⟩ => turns
  | event =>
      match turns with
      | [] => []
      | (client, turn) :: earlier => (client, turn ++ [event]) :: earlier

/-- Each client with what was done for it; the latest comes first. -/
def turnsOf (past : DaemonPast) : List (Client × DaemonPast) := past.foldl cutTurn []

private theorem cutTurn_other {event : DaemonEvent} (other : accepts event = false)
    {turn : DaemonPast} {earlier : List (Client × DaemonPast)} :
    cutTurn ((client, turn) :: earlier) event = (client, turn ++ [event]) :: earlier := by
  obtain ⟨⟨⟨⟩, op⟩, answer⟩ := event
  cases op with
  | accept => contradiction
  | _ => rfl

private theorem cutTurn_none {event : DaemonEvent} (other : accepts event = false) :
    cutTurn [] event = [] := by
  obtain ⟨⟨⟨⟩, op⟩, answer⟩ := event
  cases op with
  | accept => contradiction
  | _ => rfl

private theorem turnsOf_unserved (none : past.any accepts = false) : turnsOf past = [] := by
  induction past using List.reverseRecOn with
  | nil => rfl
  | append_singleton past event ih =>
      rw [List.any_append, Bool.or_eq_false_iff] at none
      rw [turnsOf, List.foldl_append, ← turnsOf, ih none.1]
      exact cutTurn_none (by simpa using none.2)

private theorem turnsOf_turn {turn : DaemonPast} (inside : turn.any accepts = false) :
    turnsOf (past ++ [⟨⟨(), .accept⟩, .ok client⟩] ++ turn) = (client, turn) :: turnsOf past := by
  induction turn using List.reverseRecOn with
  | nil =>
      rw [List.append_nil, turnsOf, List.foldl_append]
      rfl
  | append_singleton turn event ih =>
      rw [List.any_append, Bool.or_eq_false_iff] at inside
      rw [← List.append_assoc, turnsOf, List.foldl_append, ← turnsOf, ih inside.1]
      exact cutTurn_other (by simpa using inside.2)

/-! ### Replies -/

def reply? : DaemonEvent → Option Reply
  | ⟨⟨_, .trigger (.writeReply reply)⟩, _⟩ => some reply
  | _ => none

def repliesOf (turn : DaemonPast) : List Reply := turn.filterMap reply?

/-- A child of the turn has taken the place of the one before it. -/
structure TakenOver (turn : DaemonPast) (handoffId : HandoffId) (pid : UInt32) : Prop where
  identity : handoffIdOf (library turn) = some handoffId
  ready : ReadyRead handoffId (library turn)
  child : spawned (library turn) = some pid
  alive : (library turn).any kills = false
  adopted : triggered ⟨⟨(), .replaceChild pid⟩, ()⟩ ∈ turn

/-- No child of the turn is left: it was killed and waited for, if there was one. -/
structure Undone (turn : DaemonPast) : Prop where
  reaped : Reaped (library turn)
  unadopted : ∀ pid, triggered ⟨⟨(), .replaceChild pid⟩, ()⟩ ∉ turn

def Truthful (turn : DaemonPast) : Reply → Prop
  | .ok handoffId true _ => ∃ pid, TakenOver turn handoffId pid
  | .ok _ false _ => Undone turn
  | .err _ => Undone turn

def Answered (machine : Machine) (settings : Settings) (client : Client) (turn : DaemonPast) : Prop :=
  if Trigger.authorised machine.euid settings.toConfig client then
    if (Trigger.commandOf client).isSome then
      ∃ reply, repliesOf turn = [reply] ∧ Truthful turn reply
    else repliesOf turn = [] ∧ library turn = []
  else (repliesOf turn = [] ∨ repliesOf turn = [.err "not permitted"]) ∧ library turn = []

/-! ### From the deeds of a turn -/

section Unfolds

variable {now : TriggerPast} {turn : DaemonPast}

private theorem reply_hosted (calls : SupPast) : repliesOf (calls.map hosted) = [] := by
  rw [repliesOf, List.filterMap_eq_nil_iff]
  intro event member
  obtain ⟨call, _, rfl⟩ := List.mem_map.mp member
  rfl

def Deed.reply? : Deed → Option Reply
  | .replied reply => some reply
  | _ => none

theorem Unfolds.replies (unfolds : Unfolds supervisor fuel now turn) :
    repliesOf turn = (deeds now).filterMap Deed.reply? := by
  induction unfolds with
  | nil => rfl
  | handoff before run ih =>
      rw [Trigger.deeds_add rfl, List.filterMap_append, ← ih, repliesOf, List.filterMap_append,
        ← repliesOf, ← repliesOf, reply_hosted]
      rfl
  | locked before ih =>
      rw [Trigger.deeds_idle rfl]
      exact ih
  | @step now turn op answer before direct ih =>
      rw [Trigger.deeds_append, List.filterMap_append, ← ih, repliesOf, List.filterMap_append,
        ← repliesOf]
      congr 1
      cases op with
      | performHandoff spec => contradiction
      | lockChild => contradiction
      | _ => rfl

private theorem Unfolds.library_nil (unfolds : Unfolds supervisor fuel now turn)
    (unhanded : ∀ outcome, .handed outcome ∉ deeds now) : library turn = [] := by
  induction unfolds with
  | nil => rfl
  | @handoff now turn spec calls outcome store before run ih =>
      rw [Trigger.deeds_add rfl] at unhanded
      exact absurd (List.mem_append_right _ (List.mem_singleton_self _)) (unhanded outcome)
  | locked before ih =>
      rw [Trigger.deeds_idle rfl] at unhanded
      exact ih unhanded
  | step before direct ih =>
      rw [library_append, ih]
      · rfl
      · intro outcome member
        apply unhanded outcome
        rw [Trigger.deeds_append]
        exact List.mem_append_left _ member

private theorem Unfolds.library_handed (unfolds : Unfolds supervisor fuel now turn)
    {outcome : Except Halt HandoffOutcome} {more : List Deed}
    (handed : deeds now = .handed outcome :: more)
    (once : ∀ other, .handed other ∉ more) :
    ∃ spec store, (performHandoff supervisor spec fuel {}).Run (library turn)
      (.done (outcome, store)) := by
  have member : .handed outcome ∈ deeds now := by
    rw [handed]
    exact List.mem_cons_self
  obtain ⟨event, among, does⟩ := mem_of_deed member
  obtain ⟨spec, rfl⟩ := handed_of_deed does
  obtain ⟨front, back, rfl⟩ := List.append_of_mem among
  rw [Trigger.deeds_append, Trigger.deeds_cons rfl] at handed
  have alone : deeds front = [] ∧ deeds back = more := by
    cases first : deeds front with
    | nil =>
        rw [first] at handed
        exact ⟨rfl, (List.cons.inj handed).2⟩
    | cons head tail =>
        rw [first] at handed
        have inside := (List.cons.inj handed).2
        exact absurd (by rw [← inside]; simp) (once outcome)
  rw [List.append_cons] at unfolds
  obtain ⟨turnEarlier, turnLater, rfl, first, second⟩ := unfolds.split rfl
  obtain ⟨turnFront, calls, store, rfl, before, run⟩ := first.ofHandoff
  refine ⟨spec, store, ?_⟩
  rw [library_append, library_append, library_hosted,
    before.library_nil (by rw [alone.1]; simp), second.library_nil (by rw [alone.2]; exact once)]
  simpa using run

private theorem Unfolds.deed_adopted (unfolds : Unfolds supervisor fuel now turn) {pid : UInt32}
    (adopted : .adopted pid ∈ deeds now) : triggered ⟨⟨(), .replaceChild pid⟩, ()⟩ ∈ turn := by
  obtain ⟨event, among, does⟩ := mem_of_deed adopted
  rw [adopts_of_deed does] at among
  exact unfolds.mem rfl among

private theorem Unfolds.unadopted (unfolds : Unfolds supervisor fuel now turn) {pid : UInt32}
    (none : .adopted pid ∉ deeds now) : triggered ⟨⟨(), .replaceChild pid⟩, ()⟩ ∉ turn := by
  induction unfolds with
  | nil => exact List.not_mem_nil
  | handoff before run ih =>
      rw [Trigger.deeds_append, List.mem_append, not_or] at none
      intro member
      rcases List.mem_append.mp member with early | late
      · exact ih none.1 early
      · obtain ⟨call, _, same⟩ := List.mem_map.mp late
        exact absurd (congrArg (fun event => event.op.op) same) (by simp [hosted, triggered])
  | locked before ih =>
      rw [Trigger.deeds_idle rfl] at none
      exact ih none
  | step before direct ih =>
      rw [Trigger.deeds_append, List.mem_append, not_or] at none
      intro member
      rcases List.mem_append.mp member with early | late
      · exact ih none.1 early
      · cases List.mem_singleton.mp late
        exact none.2 List.mem_cons_self

theorem Unfolds.undone (unfolds : Unfolds supervisor fuel now turn) (reaped : Reaped (library turn))
    (none : ∀ pid, .adopted pid ∉ deeds now) : Undone turn :=
  ⟨reaped, fun pid => unfolds.unadopted (none pid)⟩

private theorem reaped_of_library_nil (none : library turn = []) : Reaped (library turn) := by
  rw [none]
  intro pid child
  contradiction

private theorem takenOver_of_installed {outcome : HandoffOutcome} {spec : SpawnSpec}
    {store : SupStore}
    (run : (performHandoff supervisor spec fuel {}).Run (library turn) (.done (.ok outcome, store)))
    (committed : outcome.committed = true)
    (adopted : ∀ pid, outcome.child = some pid →
      triggered ⟨⟨(), .replaceChild pid⟩, ()⟩ ∈ turn) :
    ∃ pid, TakenOver turn outcome.handoffId pid := by
  obtain ⟨installed, child, present⟩ := performHandoff_committed run committed
  obtain ⟨pid, named⟩ := Option.isSome_iff_exists.mp present
  exact ⟨pid, installed.identity, installed.ready, child.symm.trans named, installed.alive,
    adopted pid named⟩

theorem Unfolds.truthful (unfolds : Unfolds supervisor fuel now turn) {done : List Deed}
    {reply : Reply} (whole : deeds now = done ++ [.replied reply]) (reports : Reports done reply) :
    Truthful turn reply := by
  cases reports with
  | nothing text =>
      have none := unfolds.library_nil (by rw [whole]; simp)
      exact unfolds.undone (reaped_of_library_nil none) (by rw [whole]; simp)
  | failed cause =>
      obtain ⟨spec, store, run⟩ := unfolds.library_handed whole (by simp)
      have gone := performHandoff_aborted run (by simp)
      exact unfolds.undone gone.reaped (by rw [whole]; simp)
  | childless outcome without =>
      obtain ⟨spec, store, run⟩ := unfolds.library_handed whole (by simp)
      have aborted : outcome.committed = false := by
        rw [← Bool.not_eq_true]
        intro committed
        exact without ⟨committed, (performHandoff_committed run committed).2.2⟩
      have gone := performHandoff_aborted run (by
        intro result same
        cases same
        exact aborted)
      change Truthful turn (.ok outcome.handoffId outcome.committed outcome.abortReason)
      rw [aborted]
      exact unfolds.undone gone.reaped (by rw [whole]; simp)
  | unlocked outcome committed => exact absurd (by rw [whole]; simp) unfolds.locks
  | adopted outcome pid committed child =>
      obtain ⟨spec, store, run⟩ := unfolds.library_handed whole (by simp)
      change Truthful turn (.ok outcome.handoffId outcome.committed outcome.abortReason)
      rw [committed]
      refine takenOver_of_installed run committed fun other named => ?_
      rw [child] at named
      cases named
      exact unfolds.deed_adopted (by rw [whole]; simp)

private theorem replies_of_reports {done : List Deed} {reply : Reply}
    (reports : Reports done reply) :
    done.filterMap Deed.reply? = [] := by
  cases reports <;> rfl

end Unfolds

/-! ### Every turn -/

theorem TurnOver.answered {later : DaemonPast}
    (closed : TurnOver machine settings supervisor fuel client base (.ok ()) later) :
    ∃ turn, later = base ++ turn ∧ turn.any accepts = false ∧
      Answered machine settings client turn := by
  obtain @⟨now, turn, _, run, unfolds⟩ := closed
  refine ⟨turn, rfl, unfolds.unaccepted, ?_⟩
  have ended : Trigger.TurnEnded machine.euid settings.toConfig client (.ok ()) now :=
    (Trigger.serveClient_turn fuel).ended run
  unfold Trigger.TurnEnded at ended
  unfold Answered
  dsimp only at ended
  split
  · next permitted =>
      rw [if_pos permitted] at ended
      split
      · next sent =>
          rw [if_pos sent] at ended
          obtain ⟨done, reply, whole, reports⟩ := ended
          refine ⟨reply, ?_, unfolds.truthful whole reports⟩
          rw [unfolds.replies, whole, List.filterMap_append, replies_of_reports reports]
          rfl
      · next unsent =>
          rw [if_neg unsent] at ended
          exact ⟨by rw [unfolds.replies, ended]; rfl, unfolds.library_nil (by rw [ended]; simp)⟩
  · next refused =>
      rw [if_neg refused] at ended
      refine ⟨?_, unfolds.library_nil ?_⟩
      · rw [unfolds.replies]
        rcases ended with none | told
        · exact Or.inl (by rw [none]; rfl)
        · exact Or.inr (by rw [told]; rfl)
      · rcases ended with none | told
        · rw [none]
          simp
        · rw [told]
          simp

theorem Served.answered (served : Served machine settings supervisor fuel past) :
    ∀ entry ∈ turnsOf past, Answered machine settings entry.1 entry.2 := by
  induction served with
  | started cold called =>
      have none := called.unserved cold.unserved
      rw [turnsOf_unserved (by rw [List.any_append, none]; rfl)]
      simp
  | refused cause served ih =>
      rw [turnsOf, List.foldl_append]
      exact ih
  | turn served closed ih =>
      obtain ⟨turn, rfl, unaccepted, answered⟩ := closed.answered
      rw [turnsOf_turn unaccepted]
      intro entry member
      rcases List.mem_cons.mp member with rfl | earlier
      · exact answered
      · exact ih entry earlier

/-- When the next client is looked at, every client before it was served in full:
one truthful reply to an authorised command, and nothing done without one. -/
theorem main_answers {rounds : Nat} {rest : Process Unit DaemonAns TriggerFailure Unit}
    (run : (main machine settings fuel rounds ()).Run past rest)
    (idle : rest.op? = some ⟨(), .accept⟩) :
    ∀ entry ∈ turnsOf past, Answered machine settings entry.1 entry.2 := by
  have issued := run.owes (main_meets machine settings fuel rounds) idle
  obtain ⟨supervisor, _, looping⟩ := Issued.inLoop issued rfl (by simp) (by simp) (by simp)
  cases looping with
  | accept served => exact served.answered
  | turn served inTurn =>
      cases inTurn with
      | supervise _ _ _ calling => cases calling

theorem main_answers_rehearsed :
    ∃ past rest, (main rehearsalMachine rehearsalSettings 9 2 ()).Run past rest ∧
      rest.op? = some ⟨(), .accept⟩ ∧
      ∃ turn, turnsOf past = [(handoffClient, turn)] ∧
        Answered rehearsalMachine rehearsalSettings handoffClient turn := by
  have idle : (rehearse committedHandoff 45).2.op? = some ⟨(), .accept⟩ := by
    rw [rehearse, rehearsalTurn, serve_handoffClient]
    decide +kernel
  have unaccepted : (rehearse committedHandoff 45).1.any accepts = false := by
    rw [rehearse, rehearsalTurn, serve_handoffClient]
    decide +kernel
  have turns : turnsOf (startEvents handoffClient ++ (rehearse committedHandoff 45).1) =
      [(handoffClient, (rehearse committedHandoff 45).1)] := by
    have last : startEvents handoffClient = (startEvents handoffClient).take 2 ++
        [⟨⟨(), .accept⟩, .ok handoffClient⟩] := rfl
    rw [last, turnsOf_turn unaccepted]
    rfl
  have answered := main_answers (rehearse_run committedHandoff 45) idle
  rw [turns] at answered
  exact ⟨_, _, rehearse_run committedHandoff 45, idle, _, turns,
    answered _ (List.mem_singleton_self _)⟩

end Handoff.Daemon
