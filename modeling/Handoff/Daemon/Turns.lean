/-
The history of the daemon, turn by turn.

A turn of the loop is a run of `serve_client` in which the handoff is replaced by
a run of `perform_handoff`.  `Served` describes the histories at the head of the
loop and `InTurn` the operations of a turn that is under way, and `main` issues
no others: whatever holds of the runs of the two functions holds of the daemon.
-/

import Handoff.Daemon.Main

namespace Handoff.Daemon

open Effects
open Effects.Code hiding pure bind
open Trigger (Client TriggerOp TriggerAns TriggerFailure TriggerPast serveClient)

/-- An event of the library in the history of the daemon. -/
def hosted (event : SupEvent) : DaemonEvent := ⟨⟨(), .supervise event.op⟩, event.answer⟩

/-! ### Calls into the library -/

/-- The operations of `code`, called after `base`. -/
inductive Calling {Value : Type} (code : SupM Value) (base : DaemonPast) :
    DaemonPast → Call Unit DaemonOp → Prop where
  | issue {calls : SupPast} {left : Process SupStore SupAns Halt Value} {next : Call SupStore SupOp}
      (run : (code {}).Run calls left) (issues : left.op? = some next) :
      Calling code base (base ++ calls.map hosted) ⟨(), .supervise next⟩

/-- What `code` has added to `base` when it returns. -/
inductive Called {Value : Type} (code : SupM Value) (base : DaemonPast) :
    Except Halt Value → DaemonPast → Prop where
  | returned {calls : SupPast} {outcome : Except Halt Value} {store : SupStore}
      (run : (code {}).Run calls (.done (outcome, store))) :
      Called code base outcome (base ++ calls.map hosted)

private theorem supervised_keeps {Value : Type} (code : SupM Value) (base : DaemonPast) :
    (supervised code).Keeps (Calling code base) (Called code base) base := by
  unfold supervised
  rw [Program.keeps_bind]
  have asked (now : SupPast) (call : Call SupStore SupOp)
      (issues : ∃ rest, (code {}).Run now rest ∧ rest.op? = some call) :
      Calling code base (base ++ now.map hosted) ⟨(), .supervise call⟩ := by
    obtain ⟨rest, run, next⟩ := issues
    exact Calling.issue run next
  have renamed := (Program.keeps_run (code {})).renamed (fun call => ⟨(), .supervise call⟩)
    (fun _ answer => answer) hosted base (fun _ _ => rfl) asked
  rw [List.map_nil, List.append_nil] at renamed
  apply renamed.mono
  · intro now call issued
    exact issued
  · intro result now ended
    obtain ⟨calls, rfl, run⟩ := ended
    exact Called.returned run

/-! ### One turn -/

section

variable (machine : Machine) (settings : Settings) (supervisor : Supervisor) (fuel : Nat)

/-- An operation of a trigger that is one operation of the daemon. -/
def directOp : TriggerOp → Bool
  | .performHandoff _ | .lockChild => false
  | _ => true

/-- The events of a turn in the history of the daemon: a handoff is a run of
`perform_handoff`, the lock around the child is taken without further ado, and
everything else is one event. -/
inductive Unfolds : TriggerPast → DaemonPast → Prop where
  | nil : Unfolds [] []
  | handoff {now : TriggerPast} {turn : DaemonPast} {spec : SpawnSpec} {calls : SupPast}
      {outcome : Except Halt HandoffOutcome} {store : SupStore} (before : Unfolds now turn)
      (run : (performHandoff supervisor spec fuel {}).Run calls (.done (outcome, store))) :
      Unfolds (now ++ [⟨⟨(), .performHandoff spec⟩, outcome⟩]) (turn ++ calls.map hosted)
  | locked {now : TriggerPast} {turn : DaemonPast} (before : Unfolds now turn) :
      Unfolds (now ++ [⟨⟨(), .lockChild⟩, true⟩]) turn
  | step {now : TriggerPast} {turn : DaemonPast} {op : TriggerOp} {answer : TriggerAns op}
      (before : Unfolds now turn) (plain : directOp op = true) :
      Unfolds (now ++ [⟨⟨(), op⟩, answer⟩]) (turn ++ [⟨⟨(), .trigger op⟩, answer⟩])

inductive InTurn (client : Client) (base : DaemonPast) : DaemonPast → Call Unit DaemonOp → Prop where
  | trigger {now : TriggerPast} {turn : DaemonPast} {op : TriggerOp}
      {rest : Process Unit TriggerAns TriggerFailure Unit}
      (run : (serveClient machine.euid settings.toConfig client fuel ()).Run now rest)
      (issues : rest.op? = some ⟨(), op⟩) (unfolds : Unfolds supervisor fuel now turn)
      (plain : directOp op = true) :
      InTurn client base (base ++ turn) ⟨(), .trigger op⟩
  | supervise {now : TriggerPast} {turn later : DaemonPast} {spec : SpawnSpec}
      {rest : Process Unit TriggerAns TriggerFailure Unit} {call : Call Unit DaemonOp}
      (run : (serveClient machine.euid settings.toConfig client fuel ()).Run now rest)
      (issues : rest.op? = some ⟨(), .performHandoff spec⟩)
      (unfolds : Unfolds supervisor fuel now turn)
      (calling : Calling (performHandoff supervisor spec fuel) (base ++ turn) later call) :
      InTurn client base later call

inductive TurnOver (client : Client) (base : DaemonPast) :
    Except TriggerFailure Unit → DaemonPast → Prop where
  | ended {now : TriggerPast} {turn : DaemonPast} {outcome : Except TriggerFailure Unit}
      (run : (serveClient machine.euid settings.toConfig client fuel ()).Run now
        (.done (outcome, ()))) (unfolds : Unfolds supervisor fuel now turn) :
      TurnOver client base outcome (base ++ turn)

private theorem performing_plain {op : TriggerOp} (plain : directOp op = true) :
    performing supervisor fuel ⟨(), op⟩ =
      .call ⟨(), .trigger op⟩ fun answer => .done answer := by
  cases op with
  | performHandoff spec => contradiction
  | lockChild => contradiction
  | _ => rfl

theorem serve_meets (client : Client) (base : DaemonPast) :
    Meets (InTurn machine settings supervisor fuel client base)
      (fun outcome _ later => TurnOver machine settings supervisor fuel client base outcome later)
      (serve machine settings supervisor client fuel) () base := by
  have own := Program.keeps_run (serveClient machine.euid settings.toConfig client fuel ())
  apply (own.inlined (fun now later => ∃ turn, later = base ++ turn ∧ Unfolds supervisor fuel now turn)
    ⟨[], (List.append_nil _).symm, Unfolds.nil⟩ ?_).mono
  · intro now call issued
    exact issued
  · intro result later ended
    obtain ⟨now, ⟨turn, rfl, unfolds⟩, run⟩ := ended
    exact TurnOver.ended run unfolds
  · intro now later call related issued
    obtain ⟨turn, rfl, unfolds⟩ := related
    obtain ⟨rest, run, issues⟩ := issued
    obtain ⟨⟨⟩, op⟩ := call
    by_cases plain : directOp op = true
    · rw [performing_plain supervisor fuel plain]
      refine ⟨InTurn.trigger run issues unfolds plain, ?_⟩
      intro answer
      exact ⟨_, List.append_assoc .., Unfolds.step unfolds plain⟩
    · cases op with
      | performHandoff spec =>
          apply (supervised_keeps (performHandoff supervisor spec fuel) (base ++ turn)).mono
          · intro later call calling
            exact InTurn.supervise run issues unfolds calling
          · intro outcome later called
            obtain ⟨run⟩ := called
            exact ⟨_, List.append_assoc .., Unfolds.handoff unfolds run⟩
      | lockChild => exact ⟨turn, rfl, Unfolds.locked unfolds⟩
      | _ => exact absurd rfl plain

/-! ### From the start to the loop -/

def listenOp : DaemonOp → Bool
  | .bindListener _ | .setBlocking _ => true
  | _ => false

def listens (event : DaemonEvent) : Bool := listenOp event.op.op

/-- The listeners are bound and the first primitive runs. -/
inductive ColdStarted : UInt32 → DaemonPast → Prop where
  | spawned {listening : DaemonPast} {listenerFds : List (String × Int)} (pid : UInt32)
      (prelude : ∀ event ∈ listening, listens event = true) :
      ColdStarted pid
        (listening ++ [⟨⟨(), .coldStart (coldStartCommand settings listenerFds)⟩, .ok pid⟩])

/-- `supervisor` is the one that `main` builds. -/
structure Built (supervisor : Supervisor) : Prop where
  socketPath : supervisor.socketPath = settings.controlSocket
  journalPath : supervisor.journalPath = settings.journal
  pid : supervisor.pid = machine.pid
  listeners : supervisor.listenerFds.map Prod.fst = settings.listeners.map ListenerConfig.name

/-- The histories with which the loop asks for the next client. -/
inductive Served : DaemonPast → Prop where
  | started {pid : UInt32} {base past : DaemonPast} {outcome : Except Halt (Option StateJournal)}
      (cold : ColdStarted settings pid base)
      (called : Called (resumeFromJournal supervisor) base outcome past) :
      Served (past ++ [⟨⟨(), .bindTrigger settings.triggerSocket⟩, .ok ()⟩])
  | refused {past : DaemonPast} (cause : IoError) (served : Served past) :
      Served (past ++ [⟨⟨(), .accept⟩, .error cause⟩])
  | turn {past later : DaemonPast} {client : Client} (served : Served past)
      (closed : TurnOver machine settings supervisor fuel client
        (past ++ [⟨⟨(), .accept⟩, .ok client⟩]) (.ok ()) later) :
      Served later

inductive Looping : DaemonPast → Call Unit DaemonOp → Prop where
  | accept {past : DaemonPast} (served : Served machine settings supervisor fuel past) :
      Looping past ⟨(), .accept⟩
  | idle {past : DaemonPast} (served : Served machine settings supervisor fuel past) :
      Looping past ⟨(), .outOfFuel⟩
  | turn {base past : DaemonPast} {client : Client} {call : Call Unit DaemonOp}
      (served : Served machine settings supervisor fuel base)
      (inTurn : InTurn machine settings supervisor fuel client
        (base ++ [⟨⟨(), .accept⟩, .ok client⟩]) past call) : Looping past call

inductive Left : Except TriggerFailure Unit → DaemonPast → Prop where
  | turn {base past : DaemonPast} {client : Client} {failure : TriggerFailure}
      (served : Served machine settings supervisor fuel base)
      (closed : TurnOver machine settings supervisor fuel client
        (base ++ [⟨⟨(), .accept⟩, .ok client⟩]) (.error failure) past) :
      Left (.error failure) past

private theorem triggerLoop_meets (rounds : Nat) {past : DaemonPast}
    (served : Served machine settings supervisor fuel past) :
    Meets (Looping machine settings supervisor fuel)
      (fun outcome _ later => Left machine settings supervisor fuel outcome later)
      (triggerLoop machine settings supervisor fuel rounds) () past := by
  induction rounds generalizing past with
  | zero => exact ⟨Looping.idle served, fun answer => answer.elim⟩
  | succ rounds ih =>
      unfold triggerLoop
      refine Meets.callBind (Looping.accept served) fun accepted => ?_
      cases accepted with
      | error cause => exact ih (Served.refused cause served)
      | ok client =>
          have turn : Meets (Looping machine settings supervisor fuel)
              (fun outcome _ later => TurnOver machine settings supervisor fuel client
                (past ++ [⟨⟨(), .accept⟩, .ok client⟩]) outcome later)
              (serve machine settings supervisor client fuel) ()
              (past ++ [⟨⟨(), .accept⟩, .ok client⟩]) := by
            apply Program.Keeps.mono (serve_meets machine settings supervisor fuel client _)
            · intro now call inTurn
              exact Looping.turn served inTurn
            · intro result later closed
              exact closed
          refine Meets.bind turn ?_ ?_
          · intro _ _ later closed
            exact ih (Served.turn served closed)
          · intro failure _ later closed
            exact Left.turn served closed

end

/-! ### The whole daemon -/

section

variable (machine : Machine) (settings : Settings) (fuel : Nat)

/-- Every operation of `main`, with the history at which it is issued. -/
inductive Issued : DaemonPast → Call Unit DaemonOp → Prop where
  | listen {past : DaemonPast} {op : DaemonOp} (prelude : ∀ event ∈ past, listens event = true)
      (listening : listenOp op = true) : Issued past ⟨(), op⟩
  | coldStart {past : DaemonPast} {listenerFds : List (String × Int)}
      (prelude : ∀ event ∈ past, listens event = true)
      (named : listenerFds.map Prod.fst = settings.listeners.map ListenerConfig.name) :
      Issued past ⟨(), .coldStart (coldStartCommand settings listenerFds)⟩
  | resume {supervisor : Supervisor} {pid : UInt32} {base past : DaemonPast}
      {call : Call Unit DaemonOp} (built : Built machine settings supervisor)
      (cold : ColdStarted settings pid base)
      (calling : Calling (resumeFromJournal supervisor) base past call) : Issued past call
  | bindTrigger {supervisor : Supervisor} {pid : UInt32} {base past : DaemonPast}
      {outcome : Except Halt (Option StateJournal)} (built : Built machine settings supervisor)
      (cold : ColdStarted settings pid base)
      (called : Called (resumeFromJournal supervisor) base outcome past) :
      Issued past ⟨(), .bindTrigger settings.triggerSocket⟩
  | loop {supervisor : Supervisor} {past : DaemonPast} {call : Call Unit DaemonOp}
      (built : Built machine settings supervisor)
      (looping : Looping machine settings supervisor fuel past call) : Issued past call

def accepts (event : DaemonEvent) : Bool :=
  match event.op.op with
  | .accept => true
  | _ => false

/-- How `main` returns: before it serves anybody, or out of a turn. -/
inductive Ended : Except TriggerFailure Unit → DaemonPast → Prop where
  | unserved {failure : TriggerFailure} {past : DaemonPast} (never : past.any accepts = false) :
      Ended (.error failure) past
  | loop {supervisor : Supervisor} {outcome : Except TriggerFailure Unit} {past : DaemonPast}
      (built : Built machine settings supervisor)
      (left : Left machine settings supervisor fuel outcome past) : Ended outcome past

private theorem unserved_of_listens {past : DaemonPast}
    (prelude : ∀ event ∈ past, listens event = true) :
    past.any accepts = false := by
  rw [List.any_eq_false]
  intro event member
  have kind := prelude event member
  obtain ⟨⟨⟨⟩, op⟩, answer⟩ := event
  cases op with
  | accept => contradiction
  | _ => exact Bool.false_ne_true

private theorem bindListeners_meets (configs : List ListenerConfig) {past : DaemonPast}
    (prelude : ∀ event ∈ past, listens event = true) :
    Meets (Issued machine settings fuel) (fun outcome _ later =>
      (∀ event ∈ later, listens event = true) ∧
        ∀ fds, outcome = .ok fds → fds.map Prod.fst = configs.map ListenerConfig.name)
      (bindListeners configs) () past := by
  induction configs generalizing past with
  | nil =>
      refine ⟨prelude, ?_⟩
      intro fds same
      cases same
      rfl
  | cons config configs ih =>
      unfold bindListeners
      refine Meets.callBind (Issued.listen prelude rfl) fun bound => ?_
      have listening : ∀ event ∈ past ++ [⟨⟨(), .bindListener config.addr⟩, bound⟩],
          listens event = true := by
        simpa [or_imp, forall_and] using ⟨prelude, rfl⟩
      cases bound with
      | error cause => exact ⟨listening, by simp⟩
      | ok fd =>
          refine Meets.callBind (Issued.listen listening rfl) fun blocking => ?_
          have ready : ∀ event ∈ past ++ [⟨⟨(), .bindListener config.addr⟩, .ok fd⟩] ++
              [⟨⟨(), .setBlocking fd⟩, blocking⟩], listens event = true := by
            simpa [or_imp, forall_and] using ⟨prelude, rfl, rfl⟩
          cases blocking with
          | error cause => exact ⟨ready, by simp⟩
          | ok _ =>
              refine Meets.bind (ih ready) ?_ ?_
              · intro fds _ later bound
                refine ⟨bound.1, ?_⟩
                intro all same
                cases same
                rw [List.map_cons, List.map_cons, bound.2 fds rfl]
              · intro _ _ later bound
                exact ⟨bound.1, by simp⟩

theorem accepts_hosted (calls : SupPast) : (calls.map hosted).any accepts = false := by
  rw [List.any_eq_false]
  intro event member
  obtain ⟨call, _, rfl⟩ := List.mem_map.mp member
  exact Bool.false_ne_true

theorem ColdStarted.unserved {pid : UInt32} {past : DaemonPast}
    (cold : ColdStarted settings pid past) : past.any accepts = false := by
  obtain ⟨_, prelude⟩ := cold
  rw [List.any_append, unserved_of_listens prelude]
  rfl

theorem Called.unserved {Value : Type} {code : SupM Value} {base past : DaemonPast}
    {outcome : Except Halt Value} (called : Called code base outcome past)
    (before : base.any accepts = false) : past.any accepts = false := by
  obtain ⟨run⟩ := called
  rw [List.any_append, before, accepts_hosted]
  rfl

private theorem afterColdStart_meets (rounds : Nat) (listenerFds : List (String × Int))
    {pid : UInt32} {past : DaemonPast} (cold : ColdStarted settings pid past)
    (named : listenerFds.map Prod.fst = settings.listeners.map ListenerConfig.name) :
    Meets (Issued machine settings fuel)
      (fun outcome _ later => Ended machine settings fuel outcome later)
      (do
        let supervisor ← newSupervisor machine settings listenerFds
        resume supervisor
        match ← ask (.bindTrigger settings.triggerSocket) with
        | Except.error _ => fail (.error ("bind trigger socket " ++ settings.triggerSocket))
        | Except.ok () => triggerLoop machine settings supervisor fuel rounds) () past := by
  unfold newSupervisor
  rw [meets_bind, meets_ite]
  constructor
  · intro _
    exact Ended.unserved cold.unserved
  · intro _
    let supervisor : Supervisor :=
      { socketPath := settings.controlSocket, listenerFds := listenerFds
        journalPath := settings.journal, pid := machine.pid }
    have built : Built machine settings supervisor := ⟨rfl, rfl, rfl, named⟩
    have resumed : Meets (Issued machine settings fuel)
        (fun _ _ later => ∃ outcome, Called (resumeFromJournal supervisor) past outcome later)
        (resume supervisor) () past := by
      unfold resume Meets
      rw [Program.keeps_bind]
      apply (supervised_keeps (resumeFromJournal supervisor) past).mono
      · intro now call calling
        exact Issued.resume built cold calling
      · intro outcome later called
        split
        · exact ⟨_, called⟩
        · exact ⟨_, called⟩
    rw [meets_pure]
    refine Meets.bind resumed ?_ ?_
    · intro _ _ later called
      obtain ⟨outcome, called⟩ := called
      refine Meets.callBind (Issued.bindTrigger built cold called) fun bound => ?_
      cases bound with
      | error cause =>
          apply Ended.unserved
          rw [List.any_append, called.unserved cold.unserved]
          rfl
      | ok _ =>
          apply Program.Keeps.mono (triggerLoop_meets machine settings supervisor fuel rounds
            (Served.started cold called))
          · intro now call looping
            exact Issued.loop built looping
          · intro result now left
            exact Ended.loop built left
    · intro failure _ later called
      obtain ⟨outcome, called⟩ := called
      exact Ended.unserved (called.unserved cold.unserved)

theorem main_meets (rounds : Nat) :
    Meets (Issued machine settings fuel)
      (fun outcome _ later => Ended machine settings fuel outcome later)
      (main machine settings fuel rounds) () [] := by
  unfold main
  refine Meets.bind (bindListeners_meets machine settings fuel settings.listeners
    (fun event member => absurd member List.not_mem_nil)) ?_ ?_
  · intro listenerFds _ past bound
    obtain ⟨prelude, named⟩ := bound
    unfold spawnPrimitiveColdStart
    rw [meets_bind]
    refine Meets.callBind (Issued.coldStart prelude (named listenerFds rfl)) fun spawned => ?_
    cases spawned with
    | error cause =>
        apply Ended.unserved
        rw [List.any_append, unserved_of_listens prelude]
        rfl
    | ok pid =>
        exact afterColdStart_meets machine settings fuel rounds listenerFds
          (ColdStarted.spawned pid prelude) (named listenerFds rfl)
  · intro failure _ past bound
    exact Ended.unserved (unserved_of_listens bound.1)

end

end Handoff.Daemon
