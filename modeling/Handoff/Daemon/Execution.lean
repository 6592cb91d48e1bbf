/-
What the daemon executes, and that it lives on.

A trigger is a request to execute a file as the user of the daemon.  The command
of every process is fixed by the configuration up to the binary, and the binary is
the configured one or one whose canonical form the configuration allows, at the
request of a client that is allowed to ask.
-/

import Handoff.Daemon.Custody
import Handoff.Supervisor.BudgetRuns

namespace Handoff.Daemon

open Effects
open Effects.Code hiding pure bind
open Trigger (Client TriggerOp TriggerAns TriggerFailure TriggerPast TriggerEvent serveClient)

variable {machine : Machine} {settings : Settings} {supervisor : Supervisor} {fuel : Nat}
  {client : Client} {base past : DaemonPast} {turn : DaemonPast} {now : TriggerPast}

/-! ### The binary -/

/-- `canonicalize` gave this path its canonical form during the turn. -/
def Resolved (turn : DaemonPast) (path canonical : String) : Prop :=
  triggered ⟨⟨(), .canonicalize path⟩, .ok canonical⟩ ∈ turn

/-- The binary that a line allows: the configured one if it names none, and
otherwise the canonical form that the path of the line shares with a configured one. -/
def Allows (settings : Settings) (turn : DaemonPast) (binary : String) : List (List Char) → Prop
  | [] => False
  | [verb] => verb = "handoff".toList ∧ binary = settings.binary
  | verb :: requested :: _ => verb = "handoff".toList ∧
      Resolved turn (String.ofList requested) binary ∧
      ∃ allowed ∈ settings.binary :: settings.allowedBinaries, Resolved turn allowed binary

theorem Unfolds.resolved (unfolds : Unfolds supervisor fuel now turn) {path canonical : String}
    (found : Trigger.Canonicalized now path canonical) : Resolved turn path canonical :=
  unfolds.mem rfl found

theorem Unfolds.allows (unfolds : Unfolds supervisor fuel now turn) {binary : String}
    {tokens : List (List Char)} (names : Trigger.Names settings.toConfig now binary tokens) :
    Allows settings turn binary tokens := by
  match tokens, names with
  | [_], names => exact names
  | _ :: _ :: _, ⟨verb, resolved, allowed, member, same⟩ =>
      exact ⟨verb, unfolds.resolved resolved, allowed, member, unfolds.resolved same⟩

/-- The settings of `pass_listener_fds_on_spawn` for the configured listeners. -/
def listenSettings (settings : Settings) : List (String × String) :=
  [(envListenFds, toString settings.listeners.length),
    (envListenFdnames, joinAt ':' (settings.listeners.map ListenerConfig.name))]

/-- The command of a handoff is asked for by the client of the turn. -/
structure Requested (machine : Machine) (settings : Settings) (client : Client)
    (turn : DaemonPast) (command : SpawnCommand) : Prop where
  authorised : Trigger.authorised machine.euid settings.toConfig client = true
  line : ∃ line, Trigger.readLine Trigger.triggerMaxLine client.source = .ok line ∧
    Allows settings turn command.binary (Trigger.splitWhitespace (trimText line.toList))
  args : command.args = settings.args
  env : command.env = settings.env ++ [(envHandoffRole, "successor"),
    (envHandoffSockFd, toString (3 + settings.listeners.length))] ++ listenSettings settings

structure Configured (settings : Settings) (command : SpawnCommand) : Prop where
  binary : command.binary = settings.binary
  args : command.args = settings.args
  env : command.env = settings.env ++ listenSettings settings

theorem Allows.append {binary : String} {tokens : List (List Char)}
    (allows : Allows settings turn binary tokens) (more : DaemonPast) :
    Allows settings (turn ++ more) binary tokens := by
  match tokens, allows with
  | [_], allows => exact allows
  | _ :: _ :: _, ⟨verb, resolved, allowed, member, same⟩ =>
      exact ⟨verb, List.mem_append_left _ resolved, allowed, member, List.mem_append_left _ same⟩

private theorem passListeners_env {listenerFds : List (String × Int)} (command : SpawnCommand)
    (named : listenerFds.map Prod.fst = settings.listeners.map ListenerConfig.name) :
    (command.passListeners listenerFds).env = command.env ++ listenSettings settings := by
  have same := congrArg List.length named
  rw [List.length_map, List.length_map] at same
  rw [SpawnCommand.passListeners, listenSettings, named, same]

private theorem coldStartCommand_configured {listenerFds : List (String × Int)}
    (named : listenerFds.map Prod.fst = settings.listeners.map ListenerConfig.name) :
    Configured settings (coldStartCommand settings listenerFds) :=
  ⟨rfl, rfl, passListeners_env _ named⟩

theorem Unfolds.unaccepted (unfolds : Unfolds supervisor fuel now turn) :
    turn.any accepts = false := by
  induction unfolds with
  | nil => rfl
  | handoff before run ih =>
      rw [List.any_append, ih, accepts_hosted]
      rfl
  | locked before ih => exact ih
  | step before direct ih =>
      rw [List.any_append, ih]
      rfl

theorem InTurn.requested {store : SupStore} {command : SpawnCommand}
    (built : Built machine settings supervisor)
    (inTurn : InTurn machine settings supervisor fuel client base past
      ⟨(), .supervise ⟨store, .spawn command⟩⟩) :
    ∃ turn, past = base ++ turn ∧ turn.any accepts = false ∧
      Requested machine settings client turn command := by
  cases inTurn with
  | @supervise now turn later spec rest call run issues unfolds calling =>
      obtain @⟨calls, left, next, handoff, asks⟩ := calling
      have spawns := handoff.owes (performHandoff_locks supervisor spec fuel) asks
      obtain ⟨permitted, _⟩ := run.owes (Trigger.serveClient_turn fuel) issues
      obtain ⟨line, sent, fields, names⟩ :=
        run.owes (Trigger.serveClient_spec fuel) issues spec rfl
      obtain ⟨_, rfl⟩ := spawns
      refine ⟨turn ++ calls.map hosted, List.append_assoc .., ?_, permitted, ?_, ?_, ?_⟩
      · rw [List.any_append, accepts_hosted, unfolds.unaccepted]
        rfl
      · exact ⟨line, Trigger.commandOf_read sent, (unfolds.allows names).append _⟩
      · rw [spawnCommand, fields]
        rfl
      · have same := congrArg List.length built.listeners
        rw [List.length_map, List.length_map] at same
        rw [spawnCommand, fields, passListeners_env _ built.listeners, successorCommand, same]
        rfl

/-- The daemon starts its first primitive before it listens to anybody, and every
other process with the command that the client of the turn may ask for. -/
theorem main_executes {rounds : Nat} {rest : Process Unit DaemonAns TriggerFailure Unit}
    (run : (main machine settings fuel rounds ()).Run past rest) :
    (∀ command, rest.op? = some ⟨(), .coldStart command⟩ →
      Configured settings command ∧ ∀ event ∈ past, listens event = true) ∧
    ∀ store command, rest.op? = some ⟨(), .supervise ⟨store, .spawn command⟩⟩ →
      ∃ before client turn, past = before ++ ⟨⟨(), .accept⟩, .ok client⟩ :: turn ∧
        turn.any accepts = false ∧ Requested machine settings client turn command := by
  have owes {call : Call Unit DaemonOp} (issues : rest.op? = some call) :
      Issued machine settings fuel past call :=
    run.owes (main_meets machine settings fuel rounds) issues
  constructor
  · intro command issues
    have issued := owes issues
    cases issued with
    | listen prelude listening => contradiction
    | coldStart prelude named => exact ⟨coldStartCommand_configured named, prelude⟩
    | resume built cold calling => cases calling
    | loop built looping =>
        obtain ⟨base, client, _, inTurn⟩ := looping.inTurn (by simp) (by simp)
        cases inTurn with
        | supervise _ _ _ calling => cases calling
  · intro store command issues
    obtain ⟨supervisor, built, looping⟩ := (owes issues).inLoop rfl (by simp)
      (by intro next same; cases same; rfl) (by simp)
    obtain ⟨base, client, _, inTurn⟩ := looping.inTurn (by simp) (by simp)
    obtain ⟨turn, rfl, unaccepted, requested⟩ := inTurn.requested built
    exact ⟨base, client, turn, by simp, unaccepted, requested⟩

theorem main_executes_rehearsed :
    ∃ past rest command, (main rehearsalMachine rehearsalSettings 9 2 ()).Run past rest ∧
      rest.op? = some ⟨(), .supervise ⟨{}, .spawn command⟩⟩ ∧ command.binary = "/srv/app" ∧
      ∃ before client turn, past = before ++ ⟨⟨(), .accept⟩, .ok client⟩ :: turn ∧
        turn.any accepts = false ∧
        Requested rehearsalMachine rehearsalSettings client turn command := by
  have spawns : (rehearse committedHandoff 11).2.op? = some ⟨(), .supervise ⟨{}, .spawn
      (spawnCommand daemonSupervisor (rehearsalSettings.spec "/srv/app"))⟩⟩ := by
    rw [rehearse, rehearsalTurn, serve_handoffClient]
    decide +kernel
  exact ⟨_, _, _, rehearse_run committedHandoff 11, spawns, rfl,
    (main_executes (rehearse_run committedHandoff 11)).2 _ _ spawns⟩

/-! ### The lock of the library -/

def library (past : DaemonPast) : SupPast := past.filterMap unhosted

theorem library_append (past more : DaemonPast) :
    library (past ++ more) = library past ++ library more :=
  List.filterMap_append

theorem library_hosted (calls : SupPast) : library (calls.map hosted) = calls := by
  induction calls with
  | nil => rfl
  | cons call calls ih => exact congrArg (List.cons call) ih

/-- The mutex of `perform_handoff` is free: what was locked was released, and no
panic has poisoned it. -/
structure LockFree (past : DaemonPast) : Prop where
  released : holding (library past) = false
  sound : (library past).any poisons = false

private theorem holding_of_released {past more : SupPast} (released : holding past = false) :
    holding (past ++ more) = holding more := by
  unfold holding at released ⊢
  rw [List.foldl_append, released]

theorem LockFree.append {more : DaemonPast} (first : LockFree past) (second : LockFree more) :
    LockFree (past ++ more) := by
  constructor
  · rw [library_append, holding_of_released first.released]
    exact second.released
  · rw [library_append, List.any_append, first.sound, second.sound]
    rfl

private theorem lockFree_of_library_nil (none : library past = []) : LockFree past := by
  constructor <;> rw [none] <;> rfl

private theorem lockFree_of_returned {spec : SpawnSpec} {calls : SupPast}
    {outcome : Except Halt HandoffOutcome} {store : SupStore}
    (run : (performHandoff supervisor spec fuel {}).Run calls (.done (outcome, store)))
    (calm : outcome ≠ .error .panic) : LockFree (calls.map hosted) := by
  have unlocked : Unlocked outcome store calls := (performHandoff_locks supervisor spec fuel).ended run
  rcases unlocked.calm calm with refused | ⟨earlier, released, held⟩
  · constructor <;> rw [library_hosted, refused] <;> rfl
  · have before := unpoisoned_of_holding run earlier ⟨_, released.symm⟩ held
    constructor
    · rw [library_hosted, released, holding_append]
      rfl
    · rw [library_hosted, released, List.any_append, before]
      rfl

private theorem Unfolds.lockFree (unfolds : Unfolds supervisor fuel now turn)
    (calm : .handed (.error .panic) ∉ Trigger.deeds now) : LockFree turn := by
  induction unfolds with
  | nil => exact lockFree_of_library_nil rfl
  | handoff before run ih =>
      rw [Trigger.deeds_add rfl, List.mem_append, not_or] at calm
      refine (ih calm.1).append (lockFree_of_returned run ?_)
      rintro rfl
      exact calm.2 (List.mem_singleton_self _)
  | locked before ih =>
      rw [Trigger.deeds_idle rfl] at calm
      exact ih calm
  | step before direct ih =>
      rw [Trigger.deeds_append, List.mem_append, not_or] at calm
      exact (ih calm.1).append (lockFree_of_library_nil rfl)

private theorem TurnOver.lockFree {later : DaemonPast}
    (closed : TurnOver machine settings supervisor fuel client base (.ok ()) later)
    (before : LockFree base) : LockFree later := by
  obtain @⟨now, turn, _, run, unfolds⟩ := closed
  refine before.append (unfolds.lockFree ?_)
  intro panics
  obtain ⟨done, reply, whole, reports⟩ := run_reports run panics
  rw [whole] at panics
  cases reports <;> simp at panics

private theorem unhosted_of_probing {event : SupEvent} (probes : probeOp event.op.op = true) :
    (∀ held, latchAfter held event = held) ∧ poisons event = false := by
  obtain ⟨⟨store, op⟩, answer⟩ := event
  cases op <;> first | contradiction | exact ⟨fun _ => rfl, rfl⟩

private theorem Called.lockFree {outcome : Except Halt (Option StateJournal)} {later : DaemonPast}
    (called : Called (resumeFromJournal supervisor) base outcome later) (before : LockFree base) :
    LockFree later := by
  obtain @⟨calls, _, _, run⟩ := called
  have probes : ∀ call ∈ calls, probeOp call.op.op = true := by
    intro call member
    obtain ⟨front, back, rfl⟩ := List.append_of_mem member
    exact (run.asked (resumeFromJournal_probes supervisor {} []) rfl).2
  refine before.append ⟨?_, ?_⟩ <;> rw [library_hosted]
  · clear run
    induction calls using List.reverseRecOn with
    | nil => rfl
    | append_singleton calls call ih =>
        rw [holding_append, (unhosted_of_probing (probes call (by simp))).1]
        exact ih fun other member => probes other (List.mem_append_left _ member)
  · rw [List.any_eq_false]
    intro call member
    rw [(unhosted_of_probing (probes call member)).2]
    exact Bool.false_ne_true

private theorem ColdStarted.lockFree {pid : UInt32} (cold : ColdStarted settings pid base) :
    LockFree base := by
  obtain ⟨_, prelude⟩ := cold
  apply lockFree_of_library_nil
  rw [library, List.filterMap_eq_nil_iff]
  intro event member
  rcases List.mem_append.mp member with early | late
  · have kind := prelude event early
    obtain ⟨⟨⟨⟩, op⟩, answer⟩ := event
    cases op with
    | supervise call => contradiction
    | _ => rfl
  · rw [List.mem_singleton.mp late]
    rfl

private theorem Served.lockFree (served : Served machine settings supervisor fuel past) :
    LockFree past := by
  induction served with
  | started cold called =>
      exact (called.lockFree cold.lockFree).append (lockFree_of_library_nil rfl)
  | refused cause served ih => exact ih.append (lockFree_of_library_nil rfl)
  | turn served closed ih => exact closed.lockFree (ih.append (lockFree_of_library_nil rfl))

private theorem InTurn.lockFree {store : SupStore} (before : LockFree base)
    (inTurn : InTurn machine settings supervisor fuel client base past
      ⟨(), .supervise ⟨store, .tryLockInFlight⟩⟩) : LockFree past := by
  cases inTurn with
  | @supervise now turn later spec rest call run issues unfolds calling =>
      obtain @⟨calls, left, next, handoff, asks⟩ := calling
      have first : [] ++ calls = [] := handoff.owes (performHandoff_locks supervisor spec fuel) asks
      obtain ⟨_, fresh⟩ := run.owes (Trigger.serveClient_turn fuel) issues
      rw [List.nil_append] at first fresh
      rw [first, List.map_nil, List.append_nil]
      exact before.append (unfolds.lockFree (by rw [fresh]; simp))

/-- The daemon never finds the lock of the library taken or poisoned: a handoff
that a client asks for is not refused because of another one. -/
theorem main_uncontended {rounds : Nat} {rest : Process Unit DaemonAns TriggerFailure Unit}
    (run : (main machine settings fuel rounds ()).Run past rest) {store : SupStore}
    (issues : rest.op? = some ⟨(), .supervise ⟨store, .tryLockInFlight⟩⟩) :
    holding (library past) = false ∧ (library past).any poisons = false := by
  have issued := run.owes (main_meets machine settings fuel rounds) issues
  obtain ⟨supervisor, _, looping⟩ := Issued.inLoop issued rfl (by simp)
    (by intro next same; cases same; rfl) (by simp)
  obtain ⟨base, client, served, inTurn⟩ := looping.inTurn (by simp) (by simp)
  have free := inTurn.lockFree (served.lockFree.append (lockFree_of_library_nil rfl))
  exact ⟨free.released, free.sound⟩

def committedTurn : DaemonPast × Process Unit DaemonAns TriggerFailure Unit :=
  Program.play (daemonScript committedHandoff) 60 []
    (serve rehearsalMachine rehearsalSettings daemonSupervisor handoffClient 9 ())

private theorem secondClient_run :
    (main rehearsalMachine rehearsalSettings 9 2 ()).Run
      (startEvents handoffClient ++ committedTurn.1 ++ [⟨⟨(), .accept⟩, .ok handoffClient⟩])
      (rehearsalTurn handoffClient 9 0 ()) := by
  have ended : committedTurn.2 = .done (.ok (), ()) := by
    apply Program.eq_done_of_result?
    rw [committedTurn, serve_handoffClient]
    decide +kernel
  have turn : (serve rehearsalMachine rehearsalSettings daemonSupervisor handoffClient 9 ()).Run
      committedTurn.1 committedTurn.2 := Program.play_run _ _ _ _
  rw [ended] at turn
  have first := (main_started handoffClient 9 1).trans (run_bind turn)
  exact first.trans (run_callBind _ (.stop _))

theorem main_uncontended_rehearsed :
    ∃ past rest, (main rehearsalMachine rehearsalSettings 9 2 ()).Run past rest ∧
      rest.op? = some ⟨(), .supervise ⟨{}, .tryLockInFlight⟩⟩ ∧
      (library past).any (fun event => event.op.op == .releaseInFlight false) = true ∧
      holding (library past) = false ∧ (library past).any poisons = false := by
  have tries : (rehearsalTurn handoffClient 9 0 ()).op? =
      some ⟨(), .supervise ⟨{}, .tryLockInFlight⟩⟩ := by
    rw [rehearsalTurn, serve_handoffClient]
    decide +kernel
  have released : (library (startEvents handoffClient ++ committedTurn.1 ++
      [⟨⟨(), .accept⟩, .ok handoffClient⟩])).any
        (fun event => event.op.op == .releaseInFlight false) = true := by
    rw [committedTurn, serve_handoffClient]
    decide +kernel
  exact ⟨_, _, secondClient_run, tries, released, main_uncontended secondClient_run tries⟩

/-! ### The loop goes on -/

def clock? : DaemonEvent → Option Instant
  | ⟨⟨_, .supervise ⟨_, .now⟩⟩, instant⟩ => some instant
  | ⟨⟨_, .trigger .now⟩, instant⟩ => some instant
  | _ => none

def clockReadings (past : DaemonPast) : List Instant := past.filterMap clock?

/-- Sums of instants and durations stay in range: the configured durations are
below 2^64 milliseconds, and the clock is monotone and far from its end. -/
structure InRange (settings : Settings) (past : DaemonPast) : Prop where
  deadline : settings.grace < Duration.fromMillis (2 ^ 64)
  drainGrace : Duration.fromSecs settings.drainGraceSecs.toNat < Duration.fromMillis (2 ^ 64)
  ordered : (clockReadings past).Pairwise (· ≤ ·)
  early : ∀ reading ∈ clockReadings past, reading < Duration.fromSecs (2 ^ 62)

private theorem clock_hosted (calls : SupPast) :
    clockReadings (calls.map hosted) = readings calls := by
  rw [clockReadings, readings, List.filterMap_map]
  apply List.filterMap_congr
  intro call _
  obtain ⟨⟨store, op⟩, answer⟩ := call
  cases op <;> rfl

theorem InRange.roomy {before after : DaemonPast} {calls : SupPast} {binary : String}
    (inRange : InRange settings (before ++ (calls.map hosted ++ after))) :
    Roomy (settings.spec binary) calls := by
  have inside : (readings calls).Sublist
      (clockReadings (before ++ (calls.map hosted ++ after))) := by
    rw [← clock_hosted, clockReadings, clockReadings]
    apply List.Sublist.filterMap
    exact (List.sublist_append_left _ _).trans (List.sublist_append_right _ _)
  exact ⟨inRange.deadline, inRange.drainGrace, inRange.ordered.sublist inside,
    fun reading member => inRange.early reading (inside.subset member)⟩

private theorem InRange.graceful (inRange : InRange settings past) {now : Instant}
    (read : triggered ⟨⟨(), .now⟩, now⟩ ∈ past) : now + settings.grace < Instant.limit := by
  have early := inRange.early now (List.mem_filterMap.mpr ⟨_, read, rfl⟩)
  have small := inRange.deadline
  simp only [Instant, Duration, Duration.fromSecs, Duration.fromMillis, Instant.limit] at early small ⊢
  omega

theorem handed_of_deed {event : TriggerEvent} {outcome : Except Halt HandoffOutcome}
    (handed : Trigger.deed? event = some (.handed outcome)) :
    ∃ spec, event = ⟨⟨(), .performHandoff spec⟩, outcome⟩ := by
  obtain ⟨⟨⟨⟩, op⟩, answer⟩ := event
  cases op with
  | performHandoff spec =>
      cases handed
      exact ⟨spec, rfl⟩
  | lockChild => cases answer <;> simp [Trigger.deed?] at handed
  | _ => simp [Trigger.deed?] at handed

theorem TurnOver.goesOn {later : DaemonPast} {failure : TriggerFailure}
    (closed : TurnOver machine settings supervisor fuel client base (.error failure) later) :
    ¬InRange settings later := by
  intro inRange
  obtain @⟨now, turn, _, run, unfolds⟩ := closed
  have ended : Trigger.TurnEnded machine.euid settings.toConfig client (.error failure) now :=
    (Trigger.serveClient_turn fuel).ended run
  cases failure with
  | error display => exact ended
  | panic =>
      rcases ended with panicked | ⟨outcome, _, instant, read, late⟩
      · have member : .handed (.error .panic) ∈ Trigger.deeds now := by
          rw [panicked]
          simp
        obtain ⟨event, among, handed⟩ := mem_of_deed member
        obtain ⟨spec, rfl⟩ := handed_of_deed handed
        obtain ⟨front, back, rfl⟩ := List.append_of_mem among
        have requested := run.asked (Trigger.serveClient_spec fuel) rfl spec rfl
        obtain ⟨line, _, fields, _⟩ := requested
        rw [List.append_cons] at unfolds
        obtain ⟨turnEarlier, turnLater, rfl, first, _⟩ := unfolds.split rfl
        obtain ⟨turnFront, calls, store, rfl, _, handoff⟩ := first.ofHandoff
        have tight := (performHandoff_budgeted supervisor spec fuel).ended handoff rfl
        apply tight
        rw [fields, List.nil_append]
        rw [List.append_assoc, ← List.append_assoc] at inRange
        exact inRange.roomy
      · have room := inRange.graceful (List.mem_append_right _ (unfolds.mem rfl read))
        exact absurd room (Nat.not_lt.mpr late)

/-- Once it has looked at a client the daemon goes on for ever, as long as its sums
of times stay in range. -/
theorem main_survives {rounds : Nat} {rest : Process Unit DaemonAns TriggerFailure Unit}
    (run : (main machine settings fuel rounds ()).Run past rest)
    (served : past.any accepts = true) (inRange : InRange settings past) :
    rest.op?.isSome = true := by
  cases rest with
  | call call resume => rfl
  | done result =>
      obtain ⟨outcome, _⟩ := result
      have ended : Ended machine settings fuel outcome past :=
        (main_meets machine settings fuel rounds).ended run
      cases ended with
      | unserved never => exact absurd (never.symm.trans served) Bool.false_ne_true
      | loop built left =>
          obtain ⟨_, closed⟩ := left
          exact absurd inRange closed.goesOn

theorem main_survives_rehearsed :
    ∃ past rest, (main rehearsalMachine rehearsalSettings 9 2 ()).Run past rest ∧
      InRange rehearsalSettings past ∧ rest.op?.isSome = true := by
  have readings : clockReadings (startEvents handoffClient ++ (rehearse committedHandoff 45).1) =
      List.replicate 9 0 := by
    rw [rehearse, rehearsalTurn, serve_handoffClient]
    decide +kernel
  have inRange : InRange rehearsalSettings
      (startEvents handoffClient ++ (rehearse committedHandoff 45).1) := by
    refine ⟨by decide, by decide, ?_, ?_⟩ <;> rw [readings]
    · decide
    · decide
  exact ⟨_, _, rehearse_run committedHandoff 45, inRange,
    main_survives (rehearse_run committedHandoff 45) rfl inRange⟩

end Handoff.Daemon
