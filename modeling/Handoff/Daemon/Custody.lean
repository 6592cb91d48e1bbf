/-
The children of the daemon.

Every process that a handoff starts is disposed of before the next client is
looked at: it was killed and waited for, or it has taken the place of the child
before it.  What is killed is a child of the very handoff that is under way, so
the primitive in service is never touched.
-/

import Handoff.Daemon.Turns
import Handoff.Supervisor.InFlight

namespace Handoff.Daemon

open Effects
open Effects.Code hiding pure bind
open Trigger (Client TriggerOp TriggerAns TriggerFailure TriggerPast TriggerEvent Deed Reports
  serveClient deeds deed?)

variable {pid : UInt32}

/-! ### The child of one handoff -/

section Child

variable {supervisor : Supervisor} {spec : SpawnSpec} {fuel : Nat} {calls : SupPast}

def KilledAndReaped (pid : UInt32) (calls : SupPast) : Prop :=
  ∃ before killing between waiting after, calls = before ++ killing :: between ++ waiting :: after ∧
    killing.op.op = .kill pid ∧ waiting.op.op = .wait pid

private theorem spawned_isSome {before : SupPast} (earlier : before <+: calls)
    (found : (spawned before).isSome = true) : (spawned calls).isSome = true := by
  obtain ⟨more, rfl⟩ := earlier
  simp only [spawned, List.getLast?_isSome, List.filterMap_append] at found ⊢
  exact List.append_ne_nil_of_left_ne_nil found _

private theorem spawned_of_split {rest : Process SupStore SupAns Halt HandoffOutcome}
    (run : (performHandoff supervisor spec fuel {}).Run calls rest) {before after : SupPast}
    {event : SupEvent} (split : calls = before ++ event :: after)
    (spawns : spawns? event = some pid) :
    spawned before = none ∧ ∀ front, front <+: after →
      spawned (before ++ event :: front) = some pid := by
  have kept := performHandoff_meets supervisor spec fuel
  have duty {early late : SupPast} {other : SupEvent} {child : UInt32}
      (here : calls = early ++ other :: late) (starts : spawns? other = some child) :
      spawned early = none := by
    have asked := run.asked kept here
    rw [List.nil_append] at asked
    obtain ⟨⟨store, op⟩, answer⟩ := other
    cases op with
    | spawn command => exact asked.1
    | _ => contradiction
  refine ⟨duty split spawns, ?_⟩
  intro front earlier
  induction front using List.reverseRecOn with
  | nil => rw [spawned_append, spawns, Option.some_or]
  | append_singleton front last ih =>
      have shorter := ih ((List.prefix_append front [last]).trans earlier)
      have extended : before ++ event :: (front ++ [last]) = (before ++ event :: front) ++ [last] := by
        simp
      rw [extended, spawned_append]
      cases other : spawns? last with
      | none => exact shorter
      | some child =>
          obtain ⟨more, same⟩ := earlier
          have whole : calls = (before ++ event :: front) ++ last :: more := by
            rw [split, ← same]
            simp
          have none := duty whole other
          rw [shorter] at none
          contradiction

private theorem performHandoff_disposes {outcome : Except Halt HandoffOutcome} {store : SupStore}
    (run : (performHandoff supervisor spec fuel {}).Run calls (.done (outcome, store)))
    {before after : SupPast} {event : SupEvent} (split : calls = before ++ event :: after)
    (spawns : spawns? event = some pid) :
    KilledAndReaped pid after ∨ ∃ result, outcome = .ok result ∧ result.committed = true ∧
      result.child = some pid := by
  obtain ⟨fresh, later⟩ := spawned_of_split run split spawns
  have child : spawned calls = some pid := split ▸ later after (List.prefix_refl after)
  have finished : Finished outcome store calls := (performHandoff_meets supervisor spec fuel).ended run
  have gone (reaped : Reaped calls) : KilledAndReaped pid after := by
    obtain ⟨early, killing, between, waiting, late, whole, started, kills, waits⟩ := reaped pid child
    rw [split, List.append_assoc, List.cons_append] at whole
    -- the kill comes after a process has been started, so after this one
    rcases split_append whole.symm with ⟨rest, inside, outside⟩ | ⟨front, outside, inside⟩
    · refine ⟨rest, killing, between, waiting, late, ?_, kills, waits⟩
      rw [outside, List.append_assoc, List.cons_append]
    · have some := spawned_isSome ⟨front, outside.symm⟩ (by rw [started]; rfl)
      rw [fresh] at some
      contradiction
  cases outcome with
  | error halt => exact Or.inl (gone finished.reaped)
  | ok result =>
      unfold Finished at finished
      dsimp only at finished
      split at finished
      · next committed =>
          exact Or.inr ⟨result, rfl, committed, finished.2.1.trans child⟩
      · exact Or.inl (gone finished.reaped)

end Child

/-! ### The events of a turn -/

def spawnsChild : DaemonEvent → Option UInt32
  | ⟨⟨_, .supervise ⟨_, .spawn _⟩⟩, .ok pid⟩ => some pid
  | _ => none

private theorem spawnsChild_hosted (event : SupEvent) :
    spawnsChild (hosted event) = spawns? event := by
  obtain ⟨⟨store, op⟩, answer⟩ := event
  cases op with
  | spawn command => cases answer <;> rfl
  | _ => rfl

private theorem hosted_injective : Function.Injective hosted := by
  intro one other same
  obtain ⟨call, answer⟩ := one
  obtain ⟨call', answer'⟩ := other
  unfold hosted at same
  injection same with ops answers
  injection ops with _ calls
  injection calls with calls
  subst calls
  cases eq_of_heq answers
  rfl

private theorem hosted_of_spawns {event : DaemonEvent} (spawns : spawnsChild event = some pid) :
    ∃ call, event = hosted call ∧ spawns? call = some pid := by
  obtain ⟨⟨⟨⟩, op⟩, answer⟩ := event
  cases op with
  | supervise call =>
      refine ⟨⟨call, answer⟩, rfl, ?_⟩
      rw [← spawnsChild_hosted]
      exact spawns
  | _ => contradiction

def triggered (event : TriggerEvent) : DaemonEvent :=
  ⟨⟨(), .trigger event.op.op⟩, event.answer⟩

section Turn

variable {supervisor : Supervisor} {fuel : Nat} {now : TriggerPast} {turn : DaemonPast}

theorem Unfolds.mem (unfolds : Unfolds supervisor fuel now turn) {op : TriggerOp}
    {answer : TriggerAns op} (direct : directOp op = true)
    (member : (⟨⟨(), op⟩, answer⟩ : TriggerEvent) ∈ now) :
    (⟨⟨(), .trigger op⟩, answer⟩ : DaemonEvent) ∈ turn := by
  induction unfolds with
  | nil => exact absurd member List.not_mem_nil
  | handoff before run ih =>
      rcases List.mem_append.mp member with earlier | last
      · exact List.mem_append_left _ (ih earlier)
      · cases List.mem_singleton.mp last
        contradiction
  | locked before ih =>
      rcases List.mem_append.mp member with earlier | last
      · exact ih earlier
      · cases List.mem_singleton.mp last
        contradiction
  | step before _ ih =>
      rcases List.mem_append.mp member with earlier | last
      · exact List.mem_append_left _ (ih earlier)
      · cases List.mem_singleton.mp last
        exact List.mem_append_right _ (List.mem_singleton_self _)

theorem Unfolds.locks (unfolds : Unfolds supervisor fuel now turn) : .unlocked ∉ deeds now := by
  induction unfolds with
  | nil => exact List.not_mem_nil
  | handoff before run ih =>
      rw [Trigger.deeds_add rfl, List.mem_append, not_or]
      exact ⟨ih, by simp⟩
  | locked before ih => rwa [Trigger.deeds_idle rfl]
  | @step now turn op answer before direct ih =>
      rw [Trigger.deeds_append, List.mem_append, not_or]
      refine ⟨ih, ?_⟩
      cases op with
      | lockChild => contradiction
      | _ => simp [deeds, deed?]

/-- Around an event of the library there is a handoff of the turn. -/
inductive HandoffAround (supervisor : Supervisor) (fuel : Nat) (event : SupEvent) :
    TriggerPast → DaemonPast → DaemonPast → Prop where
  | inside {spec : SpawnSpec} {outcome : Except Halt HandoffOutcome} {store : SupStore}
      {callsBefore callsAfter : SupPast} {earlier later : TriggerPast}
      {turnEarlier turnLater : DaemonPast}
      (run : (performHandoff supervisor spec fuel {}).Run (callsBefore ++ event :: callsAfter)
        (.done (outcome, store)))
      (unfoldsEarlier : Unfolds supervisor fuel earlier turnEarlier)
      (unfoldsLater : Unfolds supervisor fuel later turnLater) :
      HandoffAround supervisor fuel event
        (earlier ++ ⟨⟨(), .performHandoff spec⟩, outcome⟩ :: later)
        (turnEarlier ++ callsBefore.map hosted) (callsAfter.map hosted ++ turnLater)

theorem Unfolds.around (unfolds : Unfolds supervisor fuel now turn) {before after : DaemonPast}
    {event : SupEvent} (split : turn = before ++ hosted event :: after) :
    HandoffAround supervisor fuel event now before after := by
  induction unfolds generalizing after with
  | nil => exact absurd split (by simp)
  | @handoff now turn spec calls outcome store earlier run ih =>
      rcases split_append split with ⟨rest, inside, rfl⟩ | ⟨front, rfl, inside⟩
      · obtain ⟨point, unfoldsEarlier, unfoldsLater⟩ := ih inside
        rw [List.append_assoc, List.append_assoc, List.cons_append]
        exact HandoffAround.inside point unfoldsEarlier (unfoldsLater.handoff run)
      · obtain ⟨callsBefore, tail, rfl, rfl, same⟩ := List.map_eq_append_iff.mp inside
        obtain ⟨call, callsAfter, rfl, here, rfl⟩ := List.map_eq_cons_iff.mp same
        obtain rfl : call = event := hosted_injective here
        have whole := HandoffAround.inside run earlier Unfolds.nil
        rwa [List.append_nil] at whole
  | locked earlier ih =>
      obtain ⟨point, unfoldsEarlier, unfoldsLater⟩ := ih split
      rw [List.append_assoc, List.cons_append]
      exact HandoffAround.inside point unfoldsEarlier unfoldsLater.locked
  | @step now turn op answer earlier direct ih =>
      rcases split_append split with ⟨rest, inside, rfl⟩ | ⟨front, _, inside⟩
      · obtain ⟨point, unfoldsEarlier, unfoldsLater⟩ := ih inside
        rw [List.append_assoc, List.append_assoc, List.cons_append]
        exact HandoffAround.inside point unfoldsEarlier (unfoldsLater.step direct)
      · cases front with
        | nil =>
            obtain ⟨same, _⟩ := List.cons.inj inside
            exact absurd (congrArg (fun event => event.op.op) same) (by simp [hosted])
        | cons head front =>
            obtain ⟨_, tail⟩ := List.cons.inj inside
            exact absurd tail (by simp)

theorem Unfolds.split (unfolds : Unfolds supervisor fuel now turn) {earlier later : TriggerPast}
    (parts : now = earlier ++ later) : ∃ turnEarlier turnLater, turn = turnEarlier ++ turnLater ∧
      Unfolds supervisor fuel earlier turnEarlier ∧ Unfolds supervisor fuel later turnLater := by
  induction later using List.reverseRecOn generalizing now turn with
  | nil =>
      rw [List.append_nil] at parts
      subst parts
      exact ⟨turn, [], (List.append_nil _).symm, unfolds, Unfolds.nil⟩
  | append_singleton later last ih =>
      rw [← List.append_assoc] at parts
      -- the last event of the turn is the one that the last constructor adds
      cases unfolds with
      | nil => exact absurd parts.symm (List.append_ne_nil_of_right_ne_nil _ (List.cons_ne_nil _ _))
      | handoff before run =>
          obtain ⟨rfl, same⟩ := List.append_inj' parts rfl
          cases same
          obtain ⟨turnEarlier, turnLater, rfl, first, second⟩ := ih before rfl
          exact ⟨turnEarlier, _, List.append_assoc .., first, second.handoff run⟩
      | locked before =>
          obtain ⟨rfl, same⟩ := List.append_inj' parts rfl
          cases same
          obtain ⟨turnEarlier, turnLater, rfl, first, second⟩ := ih before rfl
          exact ⟨turnEarlier, turnLater, rfl, first, second.locked⟩
      | step before direct =>
          obtain ⟨rfl, same⟩ := List.append_inj' parts rfl
          cases same
          obtain ⟨turnEarlier, turnLater, rfl, first, second⟩ := ih before rfl
          exact ⟨turnEarlier, _, List.append_assoc .., first, second.step direct⟩

private theorem Unfolds.eq_map (unfolds : Unfolds supervisor fuel now turn)
    (unhanded : ∀ event ∈ now, ∀ spec, event.op.op ≠ .performHandoff spec) :
    turn = (now.filter fun event => directOp event.op.op).map triggered := by
  induction unfolds with
  | nil => rfl
  | handoff before run ih =>
      exact absurd rfl (unhanded _ (List.mem_append_right _ (List.mem_singleton_self _)) _)
  | locked before ih =>
      rw [List.filter_append, ih fun event member => unhanded event (List.mem_append_left _ member)]
      simp [directOp]
  | step before direct ih =>
      rw [List.filter_append, List.map_append,
        ih fun event member => unhanded event (List.mem_append_left _ member)]
      simp [direct, triggered]

theorem Unfolds.ofHandoff {spec : SpawnSpec} {outcome : Except Halt HandoffOutcome}
    (unfolds : Unfolds supervisor fuel (now ++ [⟨⟨(), .performHandoff spec⟩, outcome⟩]) turn) :
    ∃ turnEarlier calls store, turn = turnEarlier ++ calls.map hosted ∧
      Unfolds supervisor fuel now turnEarlier ∧
      (performHandoff supervisor spec fuel {}).Run calls (.done (outcome, store)) := by
  generalize whole : now ++ [(⟨⟨(), .performHandoff spec⟩, outcome⟩ : TriggerEvent)] = all at unfolds
  cases unfolds with
  | nil => exact absurd whole (by simp)
  | handoff before run =>
      obtain ⟨rfl, same⟩ := List.append_inj' whole rfl
      cases same
      exact ⟨_, _, _, rfl, before, run⟩
  | locked before =>
      obtain ⟨_, same⟩ := List.append_inj' whole rfl
      cases same
  | step before direct =>
      obtain ⟨rfl, same⟩ := List.append_inj' whole rfl
      cases same
      contradiction

end Turn

/-! ### Disposed of -/

inductive Disposed (pid : UInt32) : DaemonPast → Prop where
  | reaped {calls : SupPast} {more : DaemonPast} (killed : KilledAndReaped pid calls) :
      Disposed pid (calls.map hosted ++ more)
  | adopted {before after : DaemonPast} :
      Disposed pid (before ++ ⟨⟨(), .trigger (.replaceChild pid)⟩, ()⟩ :: after)

theorem Disposed.append {after : DaemonPast} (disposed : Disposed pid after) (more : DaemonPast) :
    Disposed pid (after ++ more) := by
  cases disposed with
  | reaped killed =>
      rw [List.append_assoc]
      exact Disposed.reaped killed
  | adopted =>
      rw [List.append_assoc, List.cons_append]
      exact Disposed.adopted

def AllDisposed (past : DaemonPast) : Prop :=
  ∀ before event after pid, past = before ++ event :: after → spawnsChild event = some pid →
    Disposed pid after

theorem AllDisposed.append {past more : DaemonPast} (first : AllDisposed past)
    (second : AllDisposed more) : AllDisposed (past ++ more) := by
  intro before event after pid split spawns
  rcases split_append split with ⟨rest, inside, rfl⟩ | ⟨front, _, inside⟩
  · exact (first before event rest pid inside spawns).append more
  · exact second front event after pid inside spawns

private theorem allDisposed_of_childless {past : DaemonPast}
    (childless : ∀ event ∈ past, spawnsChild event = none) : AllDisposed past := by
  intro before event after pid split spawns
  have none := childless event (by rw [split]; simp)
  rw [none] at spawns
  contradiction

section Turn

variable {machine : Machine} {settings : Settings} {supervisor : Supervisor} {fuel : Nat}
  {client : Client} {base past later : DaemonPast} {call : Call Unit DaemonOp}

theorem mem_of_deed {now : TriggerPast} {deed : Deed} (done : deed ∈ deeds now) :
    ∃ event ∈ now, deed? event = some deed :=
  List.mem_filterMap.mp done

theorem adopts_of_deed {event : TriggerEvent} (adopts : deed? event = some (.adopted pid)) :
    event = ⟨⟨(), .replaceChild pid⟩, ()⟩ := by
  obtain ⟨⟨⟨⟩, op⟩, answer⟩ := event
  cases op with
  | replaceChild other =>
      cases adopts
      rfl
  | lockChild => cases answer <;> simp [deed?] at adopts
  | _ => simp [deed?] at adopts

theorem run_reports {now : TriggerPast} {outcome : Except Halt HandoffOutcome}
    (run : (serveClient machine.euid settings.toConfig client fuel ()).Run now (.done (.ok (), ())))
    (handed : .handed outcome ∈ deeds now) :
    ∃ done reply, deeds now = done ++ [.replied reply] ∧ Reports done reply := by
  have ended : Trigger.TurnEnded machine.euid settings.toConfig client (.ok ()) now :=
    (Trigger.serveClient_turn fuel).ended run
  unfold Trigger.TurnEnded at ended
  dsimp only at ended
  split at ended
  · split at ended
    · exact ended
    · rw [ended] at handed
      exact absurd handed List.not_mem_nil
  · rcases ended with none | refused
    · rw [none] at handed
      exact absurd handed List.not_mem_nil
    · rw [refused] at handed
      exact absurd handed (by simp)

private theorem TurnOver.disposes
    (closed : TurnOver machine settings supervisor fuel client base (.ok ()) later) :
    ∃ turn, later = base ++ turn ∧ AllDisposed turn := by
  obtain @⟨now, turn, _, run, unfolds⟩ := closed
  refine ⟨turn, rfl, ?_⟩
  intro before event after pid split spawns
  obtain ⟨call, rfl, starts⟩ := hosted_of_spawns spawns
  obtain @⟨spec, outcome, store, callsBefore, callsAfter, earlier, laterNow, _, turnLater, handoff, _,
    unfoldsLater⟩ := unfolds.around split
  rcases performHandoff_disposes handoff rfl starts with reaped | ⟨result, rfl, committed, child⟩
  · exact Disposed.reaped reaped
  · have parts : deeds (earlier ++ ⟨⟨(), .performHandoff spec⟩, .ok result⟩ :: laterNow) =
        deeds earlier ++ .handed (.ok result) :: deeds laterNow := by
      rw [Trigger.deeds_append, Trigger.deeds_cons rfl]
    have handed : .handed (.ok result) ∈ deeds
        (earlier ++ ⟨⟨(), .performHandoff spec⟩, .ok result⟩ :: laterNow) := by
      rw [parts]
      simp
    obtain ⟨done, reply, whole, reports⟩ := run_reports run handed
    rw [parts] at whole
    rcases reports.adopts whole committed child with unlocked | adopted
    · exact absurd unlocked unfoldsLater.locks
    · obtain ⟨event, member, adopts⟩ := mem_of_deed adopted
      rw [adopts_of_deed adopts] at member
      obtain ⟨front, back, rfl⟩ := List.append_of_mem (unfoldsLater.mem rfl member)
      rw [← List.append_assoc]
      exact Disposed.adopted

/-! ### At the head of the loop -/

/-- `resume_from_journal` looks at the journal and at the incumbent. -/
def probeOp : SupOp → Bool
  | .journalRead | .connect _ | .setReadTimeout .. | .readMessage _ | .close _ | .journalDelete => true
  | _ => false

theorem resumeFromJournal_probes (supervisor : Supervisor) :
    Within probeOp (resumeFromJournal supervisor) := by
  unfold resumeFromJournal
  cases supervisor.journalPath with
  | none => exact within_pure _
  | some path =>
      refine within_bind (within_call rfl) fun read => within_bind (within_ofExcept _) fun found => ?_
      cases found with
      | none => exact within_pure _
      | some journal =>
          have deletes : Within probeOp (do
              SupM.orErr (← SupM.ask .journalDelete)
              pure (some journal) : SupM (Option StateJournal)) :=
            within_bind (within_call rfl) fun _ => within_bind (within_ofExcept _) fun _ =>
              within_pure _
          refine within_bind (within_call rfl) fun connected => ?_
          cases connected with
          | error cause => exact deletes
          | ok _ =>
              refine within_bind (within_call rfl) fun _ => within_bind (within_call rfl) fun _ => ?_
              exact within_bind (within_call rfl) fun _ => deletes

private theorem probes_of_calling
    (calling : Calling (resumeFromJournal supervisor) base past call) :
    ∃ next : Call SupStore SupOp, call = ⟨(), .supervise next⟩ ∧ probeOp next.op = true := by
  obtain ⟨run, issues⟩ := calling
  exact ⟨_, rfl, (run.owes (resumeFromJournal_probes supervisor {} []) issues).2⟩

theorem Called.childless {outcome : Except Halt (Option StateJournal)}
    (called : Called (resumeFromJournal supervisor) base outcome later)
    (before : ∀ event ∈ base, spawnsChild event = none) :
    ∀ event ∈ later, spawnsChild event = none := by
  obtain ⟨run⟩ := called
  intro event member
  rcases List.mem_append.mp member with early | late
  · exact before event early
  · obtain ⟨call, among, rfl⟩ := List.mem_map.mp late
    obtain ⟨front, back, rfl⟩ := List.append_of_mem among
    have asked := (run.asked (resumeFromJournal_probes supervisor {} []) rfl).2
    rw [spawnsChild_hosted]
    obtain ⟨⟨store, op⟩, answer⟩ := call
    cases op with
    | spawn command => contradiction
    | _ => rfl

theorem ColdStarted.childless (cold : ColdStarted settings pid base) :
    ∀ event ∈ base, spawnsChild event = none := by
  obtain ⟨_, prelude⟩ := cold
  intro event member
  rcases List.mem_append.mp member with early | late
  · have kind := prelude event early
    obtain ⟨⟨⟨⟩, op⟩, answer⟩ := event
    cases op with
    | supervise call => contradiction
    | _ => rfl
  · rw [List.mem_singleton.mp late]
    rfl

private theorem Served.disposes (served : Served machine settings supervisor fuel past) :
    AllDisposed past := by
  induction served with
  | started cold called =>
      refine (allDisposed_of_childless (called.childless cold.childless)).append
        (allDisposed_of_childless ?_)
      simp [spawnsChild]
  | refused cause served ih =>
      refine ih.append (allDisposed_of_childless ?_)
      simp [spawnsChild]
  | turn served closed ih =>
      obtain ⟨turn, rfl, disposed⟩ := closed.disposes
      refine AllDisposed.append ?_ disposed
      refine ih.append (allDisposed_of_childless ?_)
      simp [spawnsChild]

/-! ### Killing and replacing -/

private theorem spawn_of_spawned {calls : SupPast} (child : spawned calls = some pid) :
    ∃ before event after, calls = before ++ event :: after ∧ spawns? event = some pid := by
  have member := List.mem_of_getLast? child
  obtain ⟨event, among, spawns⟩ := List.mem_filterMap.mp member
  obtain ⟨before, after, rfl⟩ := List.append_of_mem among
  exact ⟨before, event, after, rfl, spawns⟩

def UnderWay (pid : UInt32) (past : DaemonPast) : Prop :=
  ∃ before event, ∃ calls : SupPast, past = before ++ event :: calls.map hosted ∧
    spawnsChild event = some pid

theorem InTurn.kills {store : SupStore}
    (inTurn : InTurn machine settings supervisor fuel client base past
      ⟨(), .supervise ⟨store, .kill pid⟩⟩) : UnderWay pid past := by
  cases inTurn with
  | @supervise now turn later spec rest call run issues unfolds calling =>
      obtain ⟨handoff, next⟩ := calling
      have duty := handoff.owes (performHandoff_meets supervisor spec fuel) next
      obtain ⟨before, event, after, rfl, spawns⟩ := spawn_of_spawned duty.1
      refine ⟨base ++ turn ++ before.map hosted, hosted event, after, ?_,
        (spawnsChild_hosted event).trans spawns⟩
      rw [List.map_append, List.map_cons, ← List.append_assoc]

/-- The handoff just before started the child, has committed and left it alive, and
the one that the child replaces was waited for. -/
inductive Replacing (machine : Machine) (settings : Settings) (fuel : Nat) (pid : UInt32) :
    DaemonPast → Prop where
  | committed {supervisor : Supervisor} {spec : SpawnSpec} {calls : SupPast}
      {outcome : HandoffOutcome} {store : SupStore} {before : DaemonPast} {start : Instant}
      {polls : TriggerPast} (built : Built machine settings supervisor)
      (handoff : (performHandoff supervisor spec fuel {}).Run calls (.done (.ok outcome, store)))
      (commits : outcome.committed = true) (child : outcome.child = some pid)
      (started : spawned calls = some pid) (alive : calls.any Handoff.kills = false)
      (polled : Trigger.PolledOut settings.grace start polls) :
      Replacing machine settings fuel pid (before ++ calls.map hosted ++
        (⟨⟨(), .now⟩, start⟩ :: polls).map triggered)

private theorem polls_direct {grace : Duration} {start : Instant} {polls : TriggerPast}
    (polled : Trigger.PolledOut grace start polls) :
    ∀ event ∈ polls, directOp event.op.op = true := by
  induction polled with
  | again now early rest ih => simpa [directOp] using ih
  | _ => simp [directOp]

theorem InTurn.replaces (built : Built machine settings supervisor)
    (inTurn : InTurn machine settings supervisor fuel client base past
      ⟨(), .trigger (.replaceChild pid)⟩) : Replacing machine settings fuel pid past := by
  cases inTurn with
  | supervise run issues unfolds calling =>
      cases calling
  | trigger run issues unfolds direct =>
      have duty := run.owes (Trigger.serveClient_turn fuel) issues
      obtain ⟨_, outcome, _, committed, child, earlier, spec, start, polls, same, polled⟩ := duty
      rw [List.nil_append, ← List.singleton_append, ← List.append_assoc] at same
      obtain ⟨turnEarlier, turnLater, rfl, first, second⟩ := unfolds.split same
      obtain ⟨front, calls, store, rfl, _, handoff⟩ := first.ofHandoff
      have finished : Finished (.ok outcome) store calls :=
        (performHandoff_meets supervisor spec fuel).ended handoff
      unfold Finished at finished
      dsimp only at finished
      rw [if_pos committed] at finished
      obtain ⟨installed, present, _⟩ := finished
      have waited : turnLater = (⟨⟨(), .now⟩, start⟩ :: polls).map triggered := by
        have each := polls_direct polled
        rw [second.eq_map ?_, List.filter_cons_of_neg Bool.false_ne_true,
          List.filter_cons_of_pos rfl, List.filter_eq_self.mpr each]
        intro event member other calls
        rcases List.mem_cons.mp member with rfl | inside
        · contradiction
        · rcases List.mem_cons.mp inside with rfl | among
          · contradiction
          · have direct := each event among
            rw [calls] at direct
            contradiction
      rw [waited, ← List.append_assoc, ← List.append_assoc]
      exact Replacing.committed built handoff committed child (present.symm.trans child)
        installed.alive polled

/-! ### Every run of the daemon -/

theorem Issued.inLoop (issued : Issued machine settings fuel past call)
    (unlistened : listenOp call.op = false) (warm : ∀ command, call.op ≠ .coldStart command)
    (unprobed : ∀ next, call.op = .supervise next → probeOp next.op = false)
    (unbound : ∀ path, call.op ≠ .bindTrigger path) :
    ∃ supervisor, Built machine settings supervisor ∧
      Looping machine settings supervisor fuel past call := by
  cases issued with
  | listen prelude listening => exact absurd (unlistened.symm.trans listening) Bool.false_ne_true
  | coldStart prelude => exact absurd rfl (warm _)
  | resume built cold calling =>
      obtain ⟨next, rfl, probes⟩ := probes_of_calling calling
      exact absurd ((unprobed next rfl).symm.trans probes) Bool.false_ne_true
  | bindTrigger built cold called => exact absurd rfl (unbound _)
  | loop built looping => exact ⟨_, built, looping⟩

theorem Looping.inTurn (looping : Looping machine settings supervisor fuel past call)
    (busy : call.op ≠ .accept) (able : call.op ≠ .outOfFuel) :
    ∃ base client, Served machine settings supervisor fuel base ∧
      InTurn machine settings supervisor fuel client (base ++ [⟨⟨(), .accept⟩, .ok client⟩]) past
        call := by
  cases looping with
  | accept served => exact absurd rfl busy
  | idle served => exact absurd rfl able
  | turn served inTurn => exact ⟨_, _, served, inTurn⟩

/-- When the next client is looked at, every child that was ever started has been
killed and waited for or has taken the place of another.  Only the child of the
handoff under way is killed, and only the child of the committed handoff just before
takes the place of another, which was polled until it had exited or its grace had
passed. -/
theorem main_custody {rounds : Nat} {rest : Process Unit DaemonAns TriggerFailure Unit}
    (run : (main machine settings fuel rounds ()).Run past rest) :
    (rest.op? = some ⟨(), .accept⟩ → AllDisposed past) ∧
    (∀ store pid, rest.op? = some ⟨(), .supervise ⟨store, .kill pid⟩⟩ → UnderWay pid past) ∧
    ∀ pid, rest.op? = some ⟨(), .trigger (.replaceChild pid)⟩ →
      Replacing machine settings fuel pid past := by
  have owes {call : Call Unit DaemonOp} (issues : rest.op? = some call) :
      Issued machine settings fuel past call :=
    run.owes (main_meets machine settings fuel rounds) issues
  refine ⟨?_, ?_, ?_⟩
  · intro issues
    obtain ⟨supervisor, _, looping⟩ := (owes issues).inLoop rfl (by simp) (by simp) (by simp)
    cases looping with
    | accept served => exact served.disposes
    | turn served inTurn =>
        cases inTurn with
        | supervise _ _ _ calling => cases calling
  · intro store pid issues
    obtain ⟨supervisor, _, looping⟩ := (owes issues).inLoop rfl (by simp)
      (by intro next same; cases same; rfl) (by simp)
    obtain ⟨base, client, _, inTurn⟩ := looping.inTurn (by simp) (by simp)
    exact inTurn.kills
  · intro pid issues
    obtain ⟨supervisor, built, looping⟩ := (owes issues).inLoop rfl (by simp) (by simp) (by simp)
    obtain ⟨base, client, _, inTurn⟩ := looping.inTurn (by simp) (by simp)
    exact inTurn.replaces built

end Turn

/-! ### A rehearsed daemon -/

def rehearsalMachine : Machine := { euid := 0, pid := 3, maxSocketPathLen := 107 }

def rehearsalSettings : Settings :=
  { binary := "/srv/app", allowedBinaries := ["/srv/next"], controlSocket := "/run/ctl.sock"
    triggerSocket := "/run/trigger.sock" }

def daemonSupervisor : Supervisor :=
  { socketPath := "/run/ctl.sock", listenerFds := [], journalPath := none, pid := 3 }

def unhosted : DaemonEvent → Option SupEvent
  | ⟨⟨_, .supervise call⟩, answer⟩ => some ⟨call, answer⟩
  | _ => none

/-- The peers of a handoff send what was rehearsed, the first child has pid 5 and
exits when it is polled, and every path is canonical. -/
def daemonScript (rehearsal : SupRehearsal) (past : DaemonPast) :
    (call : Call Unit DaemonOp) → Option (DaemonAns call.op)
  | ⟨_, .supervise call⟩ => rehearsal.answer (past.filterMap unhosted) call
  | ⟨_, .trigger (.canonicalize path)⟩ => some (.ok path)
  | ⟨_, .trigger .tryWait⟩ => some (.ok (some 0))
  | ⟨_, .trigger .now⟩ => some 0
  | ⟨_, .trigger (.replaceChild _)⟩ => some ()
  | ⟨_, .trigger (.writeReply _)⟩ => some (.ok ())
  | _ => none

/-- The first primitive runs, and one client has connected. -/
def startEvents (client : Client) : DaemonPast :=
  [⟨⟨(), .coldStart (coldStartCommand rehearsalSettings [])⟩, .ok 5⟩,
    ⟨⟨(), .bindTrigger "/run/trigger.sock"⟩, .ok ()⟩, ⟨⟨(), .accept⟩, .ok client⟩]

def rehearsalTurn (client : Client) (fuel rounds : Nat) : DaemonM Unit := do
  serve rehearsalMachine rehearsalSettings daemonSupervisor client fuel
  triggerLoop rehearsalMachine rehearsalSettings daemonSupervisor fuel rounds

theorem main_started (client : Client) (fuel rounds : Nat) :
    (main rehearsalMachine rehearsalSettings fuel (rounds + 1) ()).Run (startEvents client)
      (rehearsalTurn client fuel rounds ()) :=
  .step _ (.step _ (.step _ (.stop _)))

def handoffChars : List Char := "handoff\n".toList

def handoffClient : Client := Trigger.rootClient (handoffChars.flatMap String.utf8EncodeChar)

def handoffTurn (fuel : Nat) : Trigger.TriggerM Unit := do
  match ← attempt (Trigger.handleTrigger (trimText handoffChars) rehearsalSettings.toConfig fuel) with
  | .ok reply =>
      let _ ← Trigger.ask (.writeReply reply)
  | .error (.error display) =>
      let _ ← Trigger.ask (.writeReply (.err display))
  | .error .panic => fail .panic

theorem serve_handoffClient (fuel : Nat) :
    serve rehearsalMachine rehearsalSettings daemonSupervisor handoffClient fuel =
      fun _ => (handoffTurn fuel ()).inline (performing daemonSupervisor fuel) := by
  have read : Trigger.cut ((handoffChars.flatMap String.utf8EncodeChar).take Trigger.triggerMaxLine) =
      Trigger.textBytes (String.ofList handoffChars) := by
    rw [Trigger.textBytes_ofList]
    decide +kernel
  have served : serveClient 0 rehearsalSettings.toConfig handoffClient fuel = handoffTurn fuel := by
    unfold handoffClient
    rw [Trigger.serveClient_root fuel read (Trigger.ofList_ne_empty (by decide)),
      String.toList_ofList]
    rfl
  funext _
  exact congrArg (fun code => (code ()).inline (performing daemonSupervisor fuel)) served

/-- The run of the daemon in which a handoff goes as rehearsed. -/
def rehearse (rehearsal : SupRehearsal) (steps : Nat) :
    DaemonPast × Process Unit DaemonAns TriggerFailure Unit :=
  Program.play (daemonScript rehearsal) steps (startEvents handoffClient)
    (rehearsalTurn handoffClient 9 1 ())

theorem rehearse_run (rehearsal : SupRehearsal) (steps : Nat) :
    (main rehearsalMachine rehearsalSettings 9 2 ()).Run
      (startEvents handoffClient ++ (rehearse rehearsal steps).1) (rehearse rehearsal steps).2 :=
  (main_started handoffClient 9 1).trans (Program.play_run _ _ _ _)

/-- The child of a handoff that fails is killed, and the child of one that commits
takes the place of the first; then the daemon waits for the next client. -/
theorem main_custody_rehearsed :
    (∃ past rest, (main rehearsalMachine rehearsalSettings 9 2 ()).Run past rest ∧
      rest.op? = some ⟨(), .supervise ⟨{ guard := some 7 }, .kill 7⟩⟩ ∧ UnderWay 7 past) ∧
    (∃ past rest, (main rehearsalMachine rehearsalSettings 9 2 ()).Run past rest ∧
      rest.op? = some ⟨(), .trigger (.replaceChild 7)⟩ ∧
      Replacing rehearsalMachine rehearsalSettings 9 7 past) ∧
    ∃ past rest, (main rehearsalMachine rehearsalSettings 9 2 ()).Run past rest ∧
      rest.op? = some ⟨(), .accept⟩ ∧ past.any (fun event => spawnsChild event == some 7) = true ∧
      AllDisposed past := by
  have kills : (rehearse abortedHandoff 38).2.op? =
      some ⟨(), .supervise ⟨{ guard := some 7 }, .kill 7⟩⟩ := by
    rw [rehearse, rehearsalTurn, serve_handoffClient]
    decide +kernel
  have replaces : (rehearse committedHandoff 43).2.op? =
      some ⟨(), .trigger (.replaceChild 7)⟩ := by
    rw [rehearse, rehearsalTurn, serve_handoffClient]
    decide +kernel
  have idle : (rehearse committedHandoff 45).2.op? = some ⟨(), .accept⟩ := by
    rw [rehearse, rehearsalTurn, serve_handoffClient]
    decide +kernel
  have started : (startEvents handoffClient ++ (rehearse committedHandoff 45).1).any
      (fun event => spawnsChild event == some 7) = true := by
    rw [rehearse, rehearsalTurn, serve_handoffClient]
    decide +kernel
  refine ⟨?_, ?_, ?_⟩
  · exact ⟨_, _, rehearse_run abortedHandoff 38, kills,
      (main_custody (rehearse_run abortedHandoff 38)).2.1 _ 7 kills⟩
  · exact ⟨_, _, rehearse_run committedHandoff 43, replaces,
      (main_custody (rehearse_run committedHandoff 43)).2.2 7 replaces⟩
  · exact ⟨_, _, rehearse_run committedHandoff 45, idle, started,
      (main_custody (rehearse_run committedHandoff 45)).1 idle⟩

end Handoff.Daemon
