/-
The lock and the pidfile agree.

A call removes or replaces the pidfile only while it holds the kernel lock, and
it returns a lock only after it has put its own pid there.  So the owner of a
`DataDirLock` is the holder of the kernel lock, and the pidfile is left alone
between the return of one call of the owner and its next drop.
-/

import Handoff.DataDir.Processes

namespace Handoff

open Effects PrimM
open Effects.Code hiding pure bind

/-! ### What a call has written -/

/-- The text of the temporary file, where the calls so far determine it. -/
def stagedAfter (text : Option String) : PrimEvent → Option String
  | ⟨⟨_, .openPidTemp⟩, .ok _⟩ => some ""
  | ⟨⟨_, .writePidTemp written⟩, .ok _⟩ => text.map (· ++ pidLine written)
  | ⟨⟨_, .writePidTemp _⟩, .error _⟩ | ⟨⟨_, .renamePidTemp⟩, .ok _⟩ | ⟨⟨_, .removePidTemp⟩, _⟩ => none
  | _ => text

def staged (past : PrimPast) : Option String := past.foldl stagedAfter none

@[simp]
theorem staged_append (past : PrimPast) (event : PrimEvent) :
    staged (past ++ [event]) = stagedAfter (staged past) event := by
  rw [staged, List.foldl_append]
  rfl

/-- Whether the pidfile was put in place under the current lock. -/
def recordedAfter (done : Bool) : PrimEvent → Bool
  | ⟨⟨_, .renamePidTemp⟩, .ok _⟩ => true
  | ⟨⟨_, .flock⟩, .locked⟩ | ⟨⟨_, .removePidfile⟩, _⟩ => false
  | _ => done

def recorded (past : PrimPast) : Bool := past.foldl recordedAfter false

@[simp]
theorem recorded_append (past : PrimPast) (event : PrimEvent) :
    recorded (past ++ [event]) = recordedAfter (recorded past) event := by
  rw [recorded, List.foldl_append]
  rfl

/-! ### The contract of a call -/

def LockDuty (pid : UInt32) (holding : Bool) (past : PrimPast) (call : Call PrimStore PrimOp) :
    Prop :=
  match call.op with
  | .renamePidTemp => flockHeld holding past = true ∧ staged past = some (pidLine pid)
  | .removePidfile | .closeLockFile | .releaseFlock => flockHeld holding past = true
  | _ => True

variable {holding : Bool} {store : PrimStore} {past : PrimPast}

private theorem writePidAtomic_records (pid : UInt32) (held : flockHeld holding past = true) :
    Meets (LockDuty pid holding) (fun outcome _ later => flockHeld holding later = true ∧
      (outcome.isOk = true → recorded later = true)) (writePidAtomic pid) store past := by
  unfold writePidAtomic
  refine Meets.callBind trivial fun opened => ?_
  have held := (flockHeld_kept ⟨⟨store, .openPidTemp⟩, opened⟩ rfl).trans held
  cases opened with
  | error cause => exact ⟨held, fun failed => by cases failed⟩
  | ok _ =>
      refine Meets.ofExceptBind (fun _ _ => ?_) (fun _ failed => by cases failed)
      refine Meets.callBind trivial fun written => ?_
      have held := (flockHeld_kept ⟨⟨store, .writePidTemp pid⟩, written⟩ rfl).trans held
      cases written with
      | error cause => exact ⟨held, fun failed => by cases failed⟩
      | ok _ =>
          refine Meets.ofExceptBind (fun _ _ => ?_) (fun _ failed => by cases failed)
          refine Meets.callBind trivial fun synced => ?_
          have held := (flockHeld_kept ⟨⟨store, .syncPidTemp⟩, synced⟩ rfl).trans held
          refine Meets.ofExceptBind (fun _ _ => ?_) (fun _ _ => ⟨held, fun failed => by cases failed⟩)
          refine Meets.callBind ⟨held, ?_⟩ fun renamed => ?_
          · rw [staged_append, staged_append, staged_append]
            simp [stagedAfter]
          have held := (flockHeld_kept ⟨⟨store, .renamePidTemp⟩, renamed⟩ rfl).trans held
          cases renamed with
          | error cause =>
              refine Meets.callBind trivial fun _ => ⟨?_, fun failed => by cases failed⟩
              exact (flockHeld_kept _ rfl).trans held
          | ok _ =>
              refine Meets.callBind trivial fun durable => ?_
              have held := (flockHeld_kept ⟨⟨store, .syncDataDir⟩, durable⟩ rfl).trans held
              cases durable with
              | error cause => exact ⟨held, fun failed => by cases failed⟩
              | ok _ =>
                  refine ⟨held, fun _ => ?_⟩
                  rw [recorded_append, recorded_append]
                  rfl

/-- A call that takes the lock holds the kernel lock in the end exactly if it
succeeds, and then its pid is on record. -/
def Settles {Value : Type} (holding : Bool) (outcome : Except Error Value) (_ : PrimStore)
    (later : PrimPast) : Prop :=
  flockHeld holding later = outcome.isOk ∧ (outcome.isOk = true → recorded later = true)

private theorem acquire_settles (host : Host) (free : flockHeld holding past = false) :
    Meets (LockDuty host.pid holding) (Settles holding) (DataDirLock.acquire host) store past := by
  have fails {later : PrimPast} {cause : Error} (kept : flockHeld holding later = false) :
      Settles holding (.error cause : Except Error DataDirLock) store later :=
    ⟨kept, fun failed => by cases failed⟩
  unfold DataDirLock.acquire
  refine Meets.callBind trivial fun created => ?_
  have free := (flockHeld_kept ⟨⟨store, .createDataDir⟩, created⟩ rfl).trans free
  refine Meets.ofExceptBind (fun _ _ => ?_) (fun _ _ => fails free)
  refine Meets.callBind trivial fun opened => ?_
  have free := (flockHeld_kept ⟨⟨store, .openLockFile⟩, opened⟩ rfl).trans free
  refine Meets.ofExceptBind (fun _ _ => ?_) (fun _ _ => fails free)
  refine Meets.callBind trivial fun answer => ?_
  cases answer with
  | wouldBlock =>
      refine Meets.callBind trivial fun holder => fails ?_
      exact (flockHeld_kept _ rfl).trans ((flockHeld_kept _ rfl).trans free)
  | failed errno text => exact fails ((flockHeld_kept _ rfl).trans free)
  | locked =>
      refine Meets.attemptBind (writePidAtomic_records host.pid (flockHeld_append holding _
        ⟨⟨store, .flock⟩, .locked⟩)) ?_
      intro outcome now later settled
      cases outcome with
      | ok _ => exact settled
      | error cause =>
          refine Meets.callBind settled.1 fun _ => ⟨?_, fun failed => by cases failed⟩
          exact flockHeld_append holding later _

def probeOp : PrimOp → Bool
  | .probePid _ => true
  | _ => false

private theorem holderAlive_probes (holderPid : Int) : Within probeOp (holderAlive holderPid) := by
  unfold holderAlive isPidAlive
  refine within_ite (within_ite (within_pure _) ?_) (within_pure _)
  exact within_bind (within_call rfl) fun _ => within_pure _

private theorem acquireOrBreakStale_settles (host : Host) (free : flockHeld holding past = false) :
    Meets (LockDuty host.pid holding) (Settles holding) (DataDirLock.acquireOrBreakStale host)
      store past := by
  unfold DataDirLock.acquireOrBreakStale
  refine Meets.attemptBind (acquire_settles host free) ?_
  intro outcome now later settled
  cases outcome with
  | ok lock => exact settled
  | error cause =>
      have free : flockHeld holding later = false := settled.1
      cases cause with
      | lockHeld holderPid =>
          refine Meets.bind ((holderAlive_probes holderPid).meets
            (fun last => flockHeld holding last = false) free ?_ ?_) ?_
            (fun _ _ _ kept => ⟨kept.2, fun failed => by cases failed⟩)
          · intro last op _ probe
            cases op <;> first | contradiction | trivial
          · intro last op answer kept probe
            cases op <;> first | contradiction | exact (flockHeld_kept _ rfl).trans kept
          · intro alive last final kept
            rw [meets_ite]
            refine ⟨fun _ => ⟨kept.2, fun failed => by cases failed⟩, fun _ => ?_⟩
            refine Meets.attemptBind (acquire_settles host kept.2) ?_
            intro outcome now later settled
            cases outcome with
            | ok lock => exact settled
            | error cause => cases cause <;> exact settled
      | _ => exact settled

private theorem drop_releases (lock : DataDirLock) (pid : UInt32)
    (held : flockHeld holding past = true) :
    Meets (LockDuty pid holding) (fun _ _ later => flockHeld holding later = false) lock.drop store
      past := by
  refine Meets.callBind held fun _ => ?_
  refine ⟨(flockHeld_kept _ rfl).trans held, fun _ => ?_⟩
  exact flockHeld_append holding _ _

private theorem LockCall.code_settles (host : Host) (call : LockCall) :
    Meets (LockDuty host.pid call.holding) (fun outcome _ later =>
      flockHeld call.holding later = outcome.toOption.join.isSome ∧
        (outcome.toOption.join.isSome = true → recorded later = true)) (call.code host) {} [] := by
  have failed {later : PrimPast} {cause : Error} (settled : Settles false
      (.error cause : Except Error DataDirLock) {} later) :
      flockHeld false later = false ∧ (false = true → recorded later = true) :=
    ⟨settled.1, fun impossible => by cases impossible⟩
  cases call with
  | acquire =>
      refine Meets.bind (acquire_settles host rfl) ?_ fun _ _ _ settled => failed settled
      intro lock now later settled
      exact settled
  | acquireOrBreakStale =>
      refine Meets.bind (acquireOrBreakStale_settles host rfl) ?_ fun _ _ _ settled => failed settled
      intro lock now later settled
      exact settled
  | drop lock =>
      refine Meets.bind (drop_releases lock host.pid rfl) ?_ ?_
      · intro _ now later released
        exact ⟨released, fun impossible => by cases impossible⟩
      · intro cause now later released
        exact ⟨released, fun impossible => by cases impossible⟩

/-! ### What one operation does to the directory -/

/-- The ways in which an operation of `pid` changes the directory, each with what
the history then says. -/
inductive DataDir.Change (pid : UInt32) (dir : DataDir) (event : PrimEvent) : DataDir → Prop where
  | locks (taken : flockChange? event = some true) (free : dir.flock = none)
      (unrecorded : ∀ done, recordedAfter done event = false)
      (kept : ∀ text, stagedAfter text event = text) :
      Change pid dir event { dir with flock := some pid }
  | unlocks (given : flockChange? event = some false)
      (closes : event.op.op = .closeLockFile ∨ event.op.op = .releaseFlock)
      (kept : ∀ text, stagedAfter text event = text) : Change pid dir event (dir.unlock pid)
  | stages (text : Option String) (unchanged : flockChange? event = none)
      (same : ∀ done, recordedAfter done event = done)
      (tracked : ∀ old known, (∀ found, old = some found → dir.temps pid = some found) →
        stagedAfter old event = some known → text = some known) :
      Change pid dir event (dir.setTemp pid text)
  | renames {text : String} (here : event.op.op = .renamePidTemp)
      (unchanged : flockChange? event = none) (source : dir.temps pid = some text)
      (moved : ∀ old, stagedAfter old event = none) :
      Change pid dir event { dir.setTemp pid none with pidfile := some text }
  | clears (here : event.op.op = .removePidfile) (unchanged : flockChange? event = none)
      (unrecorded : ∀ done, recordedAfter done event = false)
      (kept : ∀ text, stagedAfter text event = text) :
      Change pid dir event { dir with pidfile := none }
  | rests (unchanged : flockChange? event = none)
      (kept : ∀ done, recordedAfter done event = true → done = true)
      (tracked : ∀ old known, stagedAfter old event = some known → old = some known) :
      Change pid dir event dir

theorem DataDir.Effect.change {pid : UInt32} {dir next : DataDir} {event : PrimEvent}
    (effect : dir.Effect pid event next) : dir.Change pid event next := by
  obtain ⟨⟨store, op⟩, answer⟩ := event
  cases op with
  | flock =>
      cases answer with
      | locked =>
          obtain ⟨free, rfl⟩ := effect
          exact .locks rfl free (fun _ => rfl) (fun _ => rfl)
      | wouldBlock =>
          obtain ⟨_, rfl⟩ := effect
          exact .rests rfl (fun _ => id) (fun _ _ => id)
      | failed errno text =>
          obtain rfl := effect
          exact .rests rfl (fun _ => id) (fun _ _ => id)
  | closeLockFile =>
      obtain rfl := effect
      exact .unlocks rfl (Or.inl rfl) (fun _ => rfl)
  | releaseFlock =>
      obtain rfl := effect
      exact .unlocks rfl (Or.inr rfl) (fun _ => rfl)
  | readPidfile =>
      obtain ⟨_, rfl⟩ := effect
      exact .rests rfl (fun _ => id) (fun _ _ => id)
  | openPidTemp =>
      cases answer with
      | ok _ =>
          obtain rfl := effect
          exact .stages _ rfl (fun _ => rfl) (fun _ _ _ => id)
      | error cause =>
          obtain rfl := effect
          exact .rests rfl (fun _ => id) (fun _ _ => id)
  | writePidTemp written =>
      cases answer with
      | ok _ =>
          obtain rfl := effect
          refine .stages _ rfl (fun _ => rfl) ?_
          intro old known agrees after
          obtain ⟨text, found, rfl⟩ := Option.map_eq_some_iff.mp after
          rw [agrees text found, Option.map_some]
      | error cause =>
          obtain ⟨text, rfl⟩ := effect
          exact .stages _ rfl (fun _ => rfl) (fun _ _ _ impossible => by cases impossible)
  | renamePidTemp =>
      cases answer with
      | ok _ =>
          obtain ⟨text, source, rfl⟩ := effect
          exact .renames rfl rfl source (fun _ => rfl)
      | error cause =>
          obtain rfl := effect
          exact .rests rfl (fun _ => id) (fun _ _ => id)
  | removePidTemp =>
      rcases effect with rfl | rfl
      · exact .rests rfl (fun _ => id) (fun _ _ impossible => by cases impossible)
      · exact .stages _ rfl (fun _ => rfl) (fun _ _ _ impossible => by cases impossible)
  | removePidfile =>
      rcases effect with rfl | rfl
      · exact .rests rfl (fun _ impossible => by cases impossible) (fun _ _ => id)
      · exact .clears rfl rfl (fun _ => rfl) (fun _ => rfl)
  | _ =>
      obtain rfl := effect
      exact .rests rfl (fun _ => id) (fun _ _ => id)

private theorem held_of_releases {pid : UInt32} {event : PrimEvent}
    (given : flockChange? event = some false) (duty : LockDuty pid holding past event.op) :
    flockHeld holding past = true := by
  obtain ⟨⟨store, op⟩, answer⟩ := event
  cases op with
  | flock => cases answer <;> cases given
  | closeLockFile | releaseFlock => exact duty
  | _ => cases given

namespace DataDir.Change

variable {pid : UInt32} {dir next : DataDir} {event : PrimEvent}

theorem flock (change : dir.Change pid event next) :
    (flockChange? event = some true ∧ dir.flock = none ∧ next.flock = some pid) ∨
      (flockChange? event = some false ∧ next.flock = (dir.unlock pid).flock) ∨
      (flockChange? event = none ∧ next.flock = dir.flock) := by
  cases change with
  | locks taken free unrecorded kept => exact Or.inl ⟨taken, free, rfl⟩
  | unlocks given closes kept => exact Or.inr (Or.inl ⟨given, rfl⟩)
  | stages text unchanged same tracked => exact Or.inr (Or.inr ⟨unchanged, rfl⟩)
  | renames here unchanged source moved => exact Or.inr (Or.inr ⟨unchanged, rfl⟩)
  | clears here unchanged unrecorded kept => exact Or.inr (Or.inr ⟨unchanged, rfl⟩)
  | rests unchanged kept tracked => exact Or.inr (Or.inr ⟨unchanged, rfl⟩)

theorem pidfile (change : dir.Change pid event next) {owner : UInt32}
    (duty : LockDuty owner holding past event.op) :
    next.pidfile = dir.pidfile ∨ flockHeld holding past = true := by
  obtain ⟨⟨store, op⟩, answer⟩ := event
  cases change with
  | locks taken free unrecorded kept => exact Or.inl rfl
  | unlocks given closes kept => exact Or.inl (dir.unlock_pidfile pid)
  | stages text unchanged same tracked => exact Or.inl rfl
  | renames here unchanged source moved =>
      obtain rfl : op = .renamePidTemp := here
      exact Or.inr duty.1
  | clears here unchanged unrecorded kept =>
      obtain rfl : op = .removePidfile := here
      exact Or.inr duty
  | rests unchanged kept tracked => exact Or.inl rfl

theorem temps (change : dir.Change pid event next) {other : UInt32} (different : other ≠ pid) :
    next.temps other = dir.temps other := by
  cases change with
  | unlocks given closes kept => rw [dir.unlock_temps pid]
  | stages text unchanged same tracked => exact dir.setTemp_of_ne different text
  | renames here unchanged source moved => exact dir.setTemp_of_ne different none
  | _ => rfl

theorem staged (change : dir.Change pid event next)
    (before : ∀ text, Handoff.staged past = some text → dir.temps pid = some text) {text : String}
    (after : Handoff.staged (past ++ [event]) = some text) : next.temps pid = some text := by
  rw [staged_append] at after
  cases change with
  | locks taken free unrecorded kept =>
      rw [kept] at after
      exact before text after
  | unlocks given closes kept =>
      rw [kept] at after
      rw [dir.unlock_temps pid]
      exact before text after
  | stages found unchanged same tracked =>
      rw [dir.setTemp_self]
      exact tracked _ text before after
  | renames here unchanged source moved =>
      rw [moved] at after
      contradiction
  | clears here unchanged unrecorded kept =>
      rw [kept] at after
      exact before text after
  | rests unchanged kept tracked => exact before text (tracked _ text after)

end DataDir.Change

/-! ### What every reachable world satisfies -/

namespace Running

variable {host : Host}

def held (running : Running host) : Bool :=
  flockHeld running.call.holding running.thread.past

def settled (running : Running host) : Bool :=
  running.held && recorded running.thread.past

end Running

namespace Locker

variable {host : Host}

def held (locker : Locker host) : Bool := locker.running.any Running.held

/-- How many locks the process holds or is about to give up. -/
def claims (locker : Locker host) : Nat := locker.owned.length + locker.held.toNat

def OnRecord (locker : Locker host) : Prop :=
  locker.owned ≠ [] ∨ locker.running.any Running.settled = true

theorem OnRecord.claims {locker : Locker host} (onRecord : locker.OnRecord) :
    0 < locker.claims := by
  unfold Locker.claims
  rcases onRecord with owned | settled
  · have some := List.length_pos_iff.mpr owned
    omega
  · obtain ⟨running, busy, done⟩ := (Option.any_eq_true _ _).mp settled
    have held : locker.held = true := by
      rw [Locker.held, busy]
      exact (Bool.and_eq_true_iff.mp done).1
    rw [held]
    exact Nat.lt_add_left _ Nat.zero_lt_one

/-- What the directory says of the process `pid`. -/
structure Agrees (locker : Locker host) (dir : DataDir) (pid : UInt32) : Prop where
  claims : locker.claims = if dir.flock = some pid then 1 else 0
  record : locker.OnRecord → dir.pidfile = some (pidLine pid)
  temp : ∀ running, locker.running = some running →
    ∀ text, staged running.thread.past = some text → dir.temps pid = some text

theorem Agrees.holder {locker : Locker host} {dir : DataDir} {pid : UInt32}
    (agrees : locker.Agrees dir pid) (claims : 0 < locker.claims) :
    dir.flock = some pid ∧ locker.claims = 1 := by
  have count := agrees.claims
  by_cases mine : dir.flock = some pid
  · rw [if_pos mine] at count
    exact ⟨mine, count⟩
  · rw [if_neg mine] at count
    omega

/-- Another process does not notice what leaves its lock and its files alone. -/
theorem Agrees.elsewhere {locker : Locker host} {dir next : DataDir} {pid : UInt32}
    (agrees : locker.Agrees dir pid) (flock : next.flock = some pid ↔ dir.flock = some pid)
    (pidfile : dir.flock = some pid → next.pidfile = dir.pidfile)
    (temps : next.temps pid = dir.temps pid) : locker.Agrees next pid where
  claims := by
    rw [agrees.claims]
    exact if_congr flock.symm rfl rfl
  record := by
    intro onRecord
    rw [pidfile (agrees.holder onRecord.claims).1]
    exact agrees.record onRecord
  temp := by
    intro running busy text known
    rw [temps]
    exact agrees.temp running busy text known

section Performs

variable {locker : Locker host} {running : Running host} {pid : UInt32} {dir next : DataDir}
  {op : Call PrimStore PrimOp}
  {resume : PrimAns op.op → Process PrimStore PrimAns Error (Option DataDirLock)}
  {answer : PrimAns op.op}

def answered (locker : Locker host) (running : Running host)
    (due : running.thread.rest = .call op resume) (answer : PrimAns op.op) : Locker host :=
  { locker with running := some ⟨running.call, running.thread.answered due answer⟩ }

private theorem answered_held (busy : locker.running = some running)
    (due : running.thread.rest = .call op resume) :
    (locker.answered running due answer).held =
      (flockChange? ⟨op, answer⟩).getD locker.held := by
  unfold Locker.held
  rw [busy]
  exact flockHeld_append _ _ _

private theorem Agrees.answered_claims (agrees : locker.Agrees dir pid)
    (busy : locker.running = some running) (due : running.thread.rest = .call op resume)
    (duty : LockDuty pid running.call.holding running.thread.past op)
    (change : dir.Change pid ⟨op, answer⟩ next) :
    (locker.answered running due answer).claims = if next.flock = some pid then 1 else 0 := by
  have count := agrees.claims
  unfold Locker.claims at count ⊢
  rw [answered_held busy due]
  change locker.owned.length + _ = _
  rcases change.flock with ⟨taken, before, after⟩ | ⟨given, after⟩ | ⟨unchanged, after⟩
  · rw [before, if_neg (fun impossible => by cases impossible)] at count
    rw [taken, after, if_pos rfl, Option.getD_some, Bool.toNat_true]
    omega
  · have held : locker.held = true := by
      rw [Locker.held, busy]
      exact held_of_releases given duty
    rw [held, Bool.toNat_true] at count
    have gone : next.flock ≠ some pid := by
      intro still
      rw [after] at still
      exact (dir.unlock_flock_iff.mp still).2 rfl
    rw [given, if_neg gone, Option.getD_some, Bool.toNat_false]
    split at count <;> omega
  · rw [unchanged, after, Option.getD_none]
    exact count

private theorem Agrees.answered_record (agrees : locker.Agrees dir pid)
    (busy : locker.running = some running) (due : running.thread.rest = .call op resume)
    (duty : LockDuty pid running.call.holding running.thread.past op)
    (change : dir.Change pid ⟨op, answer⟩ next)
    (onRecord : (locker.answered running due answer).OnRecord) :
    next.pidfile = some (pidLine pid) := by
  have held : locker.held = flockHeld running.call.holding running.thread.past := by
    rw [Locker.held, busy]
    rfl
  rcases onRecord with owned | settled
  · have before := agrees.record (Or.inl owned)
    rcases change.pidfile duty with same | mine
    · rw [same, before]
    · -- the owner cannot hold the lock once more
      have one := (agrees.holder (OnRecord.claims (Or.inl owned))).2
      have some := List.length_pos_iff.mpr owned
      rw [Locker.claims, held, mine, Bool.toNat_true] at one
      change 0 < locker.owned.length at some
      omega
  · obtain ⟨kernel, listed⟩ := Bool.and_eq_true_iff.mp settled
    have still (done : recorded running.thread.past = true)
        (unchanged : flockChange? ⟨op, answer⟩ = none) : dir.pidfile = some (pidLine pid) := by
      apply agrees.record
      refine Or.inr ?_
      rw [busy]
      refine Bool.and_eq_true_iff.mpr ⟨?_, done⟩
      exact (flockHeld_kept _ unchanged).symm.trans kernel
    have listed : recordedAfter (recorded running.thread.past) ⟨op, answer⟩ = true :=
      (recorded_append _ _).symm.trans listed
    cases change with
    | locks taken free unrecorded kept =>
        rw [unrecorded] at listed
        contradiction
    | unlocks given closes kept =>
        have released : (locker.answered running due answer).held = false := by
          rw [answered_held busy due, given]
          rfl
        exact absurd (released.symm.trans kernel) Bool.false_ne_true
    | stages text unchanged same tracked =>
        rw [same] at listed
        exact still listed unchanged
    | @renames text here unchanged source moved =>
        obtain ⟨store, op⟩ := op
        obtain rfl : op = .renamePidTemp := here
        rw [agrees.temp running busy _ duty.2] at source
        exact source.symm
    | clears here unchanged unrecorded kept =>
        rw [unrecorded] at listed
        contradiction
    | rests unchanged kept tracked => exact still (kept _ listed) unchanged

theorem Agrees.answered (agrees : locker.Agrees dir pid) (busy : locker.running = some running)
    (due : running.thread.rest = .call op resume)
    (duty : LockDuty pid running.call.holding running.thread.past op)
    (change : dir.Change pid ⟨op, answer⟩ next) :
    (locker.answered running due answer).Agrees next pid where
  claims := agrees.answered_claims busy due duty change
  record := agrees.answered_record busy due duty change
  temp := by
    intro now here text known
    obtain rfl := Option.some.inj here
    exact change.staged (agrees.temp running busy) known

end Performs

end Locker

variable {host : UInt32 → Host}

structure Agreement (world : LockWorld host) : Prop where
  each : ∀ pid locker, world.lockers pid = some locker → locker.Agrees world.dir pid
  present : ∀ pid, world.dir.flock = some pid → world.lockers pid ≠ none

namespace Agreement

variable {world : LockWorld host} {pid : UInt32}

theorem opening (dir : DataDir) : Agreement (LockWorld.opening dir : LockWorld host) where
  each := fun _ _ found => by cases found
  present := fun _ held => by cases held

theorem step {next : DataDir} {locker : Option (Locker (host pid))}
    (mine : ∀ found, locker = some found → found.Agrees next pid)
    (others : ∀ other found, other ≠ pid → world.lockers other = some found →
      found.Agrees next other)
    (present : ∀ other, next.flock = some other → (world.set pid locker).lockers other ≠ none) :
    Agreement { world.set pid locker with dir := next } where
  each := by
    intro other found here
    by_cases same : other = pid
    · subst same
      rw [show ({ world.set other locker with dir := next } : LockWorld host).lockers other = locker
        from world.set_self other locker] at here
      exact mine found here
    · rw [show ({ world.set pid locker with dir := next } : LockWorld host).lockers other =
        world.lockers other from world.set_of_ne same locker] at here
      exact others other found same here
  present := present

theorem stays {next : DataDir} {found : Locker (host pid)} (agreement : Agreement world)
    (flock : ∀ other, other ≠ pid → next.flock = some other → world.dir.flock = some other)
    (mine : found.Agrees next pid)
    (others : ∀ other locker, other ≠ pid → world.lockers other = some locker →
      locker.Agrees next other) :
    Agreement { world.set pid (some found) with dir := next } := by
  refine step (fun locker same => ?_) others fun other held => ?_
  · obtain rfl := Option.some.inj same
    exact mine
  · by_cases same : other = pid
    · subst same
      rw [LockWorld.set_self]
      exact Option.some_ne_none found
    · rw [LockWorld.set_of_ne world same]
      exact agreement.present other (flock other same held)

private theorem idles {found : Locker (host pid)} (agreement : Agreement world)
    (mine : found.Agrees world.dir pid) : Agreement (world.set pid (some found)) :=
  stays agreement (fun _ _ held => held) mine fun other locker _ => agreement.each other locker

theorem starts (agreement : Agreement world) (absent : world.lockers pid = none) :
    Agreement (world.set pid (some {})) := by
  apply agreement.idles
  have free : world.dir.flock ≠ some pid := fun held => agreement.present pid held absent
  refine ⟨(if_neg free).symm, ?_, ?_⟩
  · intro onRecord
    rcases onRecord with impossible | impossible <;> contradiction
  · intro running impossible
    contradiction

variable {locker : Locker (host pid)}

theorem takes {call : LockCall} (agreement : Agreement world)
    (found : world.lockers pid = some locker) (idle : locker.running = none)
    (fresh : call.holding = false) :
    Agreement (world.set pid (some { locker with running := some ⟨call, .start _⟩ })) := by
  have agrees := agreement.each pid locker found
  have unheld : flockHeld call.holding [] = false := fresh
  apply agreement.idles
  refine ⟨?_, ?_, ?_⟩
  · rw [← agrees.claims]
    unfold Locker.claims Locker.held
    rw [idle, Option.any_some, Running.held]
    change _ + (flockHeld call.holding []).toNat = _
    rw [unheld]
    rfl
  · intro onRecord
    rcases onRecord with owned | settled
    · exact agrees.record (Or.inl owned)
    · rw [Option.any_some, Running.settled, Bool.and_eq_true] at settled
      exact absurd settled.2 Bool.false_ne_true
  · intro running busy text known
    obtain rfl := Option.some.inj busy
    contradiction

theorem drops {lock : DataDirLock} (agreement : Agreement world)
    (found : world.lockers pid = some locker) (idle : locker.running = none)
    (mine : lock ∈ locker.owned) :
    Agreement (world.set pid
      (some ⟨locker.owned.erase lock, some ⟨.drop lock, .start _⟩⟩)) := by
  have agrees := agreement.each pid locker found
  have some := List.length_pos_of_mem mine
  apply agreement.idles
  refine ⟨?_, ?_, ?_⟩
  · rw [← agrees.claims]
    unfold Locker.claims Locker.held
    rw [idle, Option.any_some, Option.any_none, List.length_erase_of_mem mine]
    change _ + 1 = _ + 0
    omega
  · intro onRecord
    rcases onRecord with owned | settled
    · exact agrees.record (Or.inl (List.ne_nil_of_mem mine))
    · rw [Option.any_some, Running.settled, Bool.and_eq_true] at settled
      exact absurd settled.2 Bool.false_ne_true
  · intro running busy text known
    obtain rfl := Option.some.inj busy
    contradiction

theorem returns {running : Running (host pid)} {outcome : Except Error (Option DataDirLock)}
    (agreement : Agreement world) (found : world.lockers pid = some locker)
    (busy : locker.running = some running) (done : running.thread.rest = .done (outcome, store)) :
    Agreement (world.set pid (some ⟨outcome.toOption.join.toList ++ locker.owned, none⟩)) := by
  have agrees := agreement.each pid locker found
  obtain ⟨kernel, listed⟩ := running.thread.ended (running.call.code_settles (host pid)) done
  have held : locker.held = outcome.toOption.join.isSome := by
    rw [Locker.held, busy]
    exact kernel
  apply agreement.idles
  refine ⟨?_, ?_, ?_⟩
  · rw [← agrees.claims]
    unfold Locker.claims
    rw [held]
    cases outcome.toOption.join with
    | none => rfl
    | some lock => rfl
  · intro onRecord
    apply agrees.record
    cases returned : outcome.toOption.join with
    | none =>
        rcases onRecord with owned | settled
        · rw [returned] at owned
          exact Or.inl owned
        · contradiction
    | some lock =>
        have taken : outcome.toOption.join.isSome = true := by
          rw [returned]
          rfl
        refine Or.inr ?_
        rw [busy]
        exact Bool.and_eq_true_iff.mpr ⟨kernel.trans taken, listed taken⟩
  · intro other impossible
    contradiction

theorem performs {running : Running (host pid)} {op : Call PrimStore PrimOp}
    {resume : PrimAns op.op → Process PrimStore PrimAns Error (Option DataDirLock)}
    {answer : PrimAns op.op} {next : DataDir} (agreement : Agreement world)
    (own : (host pid).pid = pid) (found : world.lockers pid = some locker)
    (busy : locker.running = some running) (due : running.thread.rest = .call op resume)
    (effect : world.dir.Effect pid ⟨op, answer⟩ next) :
    Agreement { world.set pid (some (locker.answered running due answer)) with dir := next } := by
  have agrees := agreement.each pid locker found
  have duty := running.thread.asked (running.call.code_settles (host pid)) due
  rw [own] at duty
  have change := effect.change
  have elsewhere (other : UInt32) (different : other ≠ pid) :
      next.flock = some other ↔ world.dir.flock = some other := by
    rcases change.flock with ⟨_, before, after⟩ | ⟨_, after⟩ | ⟨_, after⟩
    · rw [before, after, Option.some_inj]
      exact iff_of_false different.symm fun impossible => by cases impossible
    · rw [after, DataDir.unlock_flock_iff]
      exact and_iff_left different
    · rw [after]
  have undisturbed (other : UInt32) (different : other ≠ pid)
      (held : world.dir.flock = some other) : next.pidfile = world.dir.pidfile := by
    rcases change.pidfile duty with same | mine
    · exact same
    · have claims : 0 < locker.claims := by
        rw [Locker.claims, Locker.held, busy, Option.any_some, Running.held, mine]
        exact Nat.lt_add_left _ Nat.zero_lt_one
      have both := held.symm.trans (agrees.holder claims).1
      exact absurd (Option.some.inj both) different
  apply agreement.stays
  · intro other different
    exact (elsewhere other different).mp
  · exact agrees.answered busy due duty change
  · intro other locker different found
    exact (agreement.each other locker found).elsewhere (elsewhere other different)
      (undisturbed other different) (change.temps different)

theorem dies (agreement : Agreement world) :
    Agreement { world.set pid none with dir := world.dir.unlock pid } := by
  apply step
  · intro found impossible
    contradiction
  · intro other locker different found
    apply (agreement.each other locker found).elsewhere
    · rw [DataDir.unlock_flock_iff]
      exact and_iff_left different
    · intro _
      exact world.dir.unlock_pidfile pid
    · rw [world.dir.unlock_temps pid]
  · intro other held
    obtain ⟨earlier, different⟩ := world.dir.unlock_flock_iff.mp held
    rw [LockWorld.set_of_ne world different]
    exact agreement.present other earlier

theorem after (own : ∀ pid, (host pid).pid = pid) {label : LockLabel} {next : LockWorld host}
    (agreement : Agreement world) (stepped : LockStep world label next) : Agreement next := by
  cases stepped with
  | starts absent => exact agreement.starts absent
  | takes present idle fresh => exact agreement.takes present idle fresh
  | drops present idle mine => exact agreement.drops present idle mine
  | performs present busy due effect =>
      exact agreement.performs (own _) present busy due effect
  | returns present busy done => exact agreement.returns present busy done
  | dies present => exact agreement.dies

end Agreement

/-! ### The lock and the pidfile -/

/-- Anything that starts from an arbitrary directory that nobody has locked. -/
theorem dataDir_agreement (own : ∀ pid, (host pid).pid = pid) (dir : DataDir)
    {world : LockWorld host}
    (reached : Reaches LockStep (fun _ _ _ => true) (.opening dir) world) :
    (∀ first second, world.owns first → world.owns second → first = second) ∧
      (∀ pid locker, world.lockers pid = some locker → locker.owned.length ≤ 1) ∧
      (∀ pid, world.owns pid → world.dir.pidfile = some (pidLine pid) ∧
        (pid.toNat < 2 ^ 31 → world.dir.pidfile.bind pidOfText = some (pid.toNat : Int))) ∧
      ∀ pid locker running lock store, world.lockers pid = some locker →
        locker.running = some running → running.call = .acquireOrBreakStale →
        running.thread.rest = .done (.ok (some lock), store) → ∀ other, ¬world.owns other := by
  have agreement : Agreement world := reached.invariant Agreement (.opening dir)
    fun _ _ _ held stepped _ => held.after own stepped
  have holder (pid : UInt32) (owns : world.owns pid) : world.dir.flock = some pid := by
    obtain ⟨locker, found, owned⟩ := owns
    exact ((agreement.each pid locker found).holder (Locker.OnRecord.claims (Or.inl owned))).1
  refine ⟨?_, ?_, ?_, ?_⟩
  · intro first second one other
    exact Option.some.inj ((holder first one).symm.trans (holder second other))
  · intro pid locker found
    have count := (agreement.each pid locker found).claims
    rw [Locker.claims] at count
    split at count <;> omega
  · intro pid owns
    obtain ⟨locker, found, owned⟩ := owns
    have record := (agreement.each pid locker found).record (Or.inl owned)
    refine ⟨record, fun fits => ?_⟩
    rw [record, Option.bind_some, pidOfText_pidLine fits]
  · intro pid locker running lock store found busy _ done other owns
    obtain ⟨kernel, _⟩ := running.thread.ended (running.call.code_settles (host pid)) done
    have agrees := agreement.each pid locker found
    have held : locker.held = true := by
      rw [Locker.held, busy]
      exact kernel
    have claims : 0 < locker.claims := by
      rw [Locker.claims, held]
      exact Nat.lt_add_left _ Nat.zero_lt_one
    obtain ⟨mine, one⟩ := agrees.holder claims
    obtain rfl := Option.some.inj (mine.symm.trans (holder other owns))
    obtain ⟨same, here, owned⟩ := owns
    obtain rfl := Option.some.inj (found.symm.trans here)
    have some := List.length_pos_iff.mpr owned
    rw [Locker.claims, held, Bool.toNat_true] at one
    omega

/-! ### Rehearsed contention -/

/-- The answer of a directory in which nothing fails and a probed process is gone. -/
def DataDir.suggest (dir : DataDir) (pid : UInt32) : (op : PrimOp) → Option (PrimAns op × DataDir)
  | .createDataDir | .openLockFile | .syncPidTemp | .syncDataDir => some (.ok (), dir)
  | .flock =>
      some (if dir.flock = none then (.locked, { dir with flock := some pid }) else (.wouldBlock, dir))
  | .closeLockFile | .releaseFlock => some ((), dir.unlock pid)
  | .readPidfile => some (dir.pidfile.bind pidOfText, dir)
  | .openPidTemp => some (.ok (), dir.setTemp pid (some ""))
  | .writePidTemp written =>
      some (.ok (), dir.setTemp pid ((dir.temps pid).map (· ++ pidLine written)))
  | .renamePidTemp => (dir.temps pid).map fun text =>
      (.ok (), { dir.setTemp pid none with pidfile := some text })
  | .removePidTemp => some ((), dir.setTemp pid none)
  | .removePidfile => some ((), { dir with pidfile := none })
  | .probePid _ => some (.error esrch, dir)
  | _ => none

private theorem DataDir.suggest_effect {dir next : DataDir} {pid : UInt32} {op : PrimOp}
    {answer : PrimAns op} (suggested : dir.suggest pid op = some (answer, next)) :
    dir.Effect pid ⟨⟨store, op⟩, answer⟩ next := by
  cases op with
  | flock =>
      have same := Option.some.inj suggested
      by_cases free : dir.flock = none
      · rw [if_pos free] at same
        cases same
        exact ⟨free, rfl⟩
      · rw [if_neg free] at same
        cases same
        exact ⟨free, rfl⟩
  | readPidfile =>
      cases suggested
      exact ⟨Or.inr rfl, rfl⟩
  | renamePidTemp =>
      obtain ⟨text, source, same⟩ := Option.map_eq_some_iff.mp suggested
      cases same
      exact ⟨text, source, rfl⟩
  | removePidTemp | removePidfile =>
      cases suggested
      exact Or.inr rfl
  | createDataDir | openLockFile | syncPidTemp | syncDataDir | closeLockFile | releaseFlock
  | openPidTemp | writePidTemp | probePid =>
      cases suggested
      rfl
  | _ => cases suggested

inductive LockMove where
  | start (pid : UInt32)
  | call (pid : UInt32) (call : LockCall)
  | step (pid : UInt32)
  | finish (pid : UInt32)
  | die (pid : UInt32)

namespace LockWorld

def answer (world : LockWorld host) {pid : UInt32} (locker : Locker (host pid))
    (running : Running (host pid)) : Option (LockLabel × LockWorld host) :=
  match due : running.thread.rest with
  | .done _ => none
  | .call op _ =>
      match world.dir.suggest pid op.op with
      | none => none
      | some (answer, next) => some (.performs pid ⟨op, answer⟩,
          { world.set pid (some (locker.answered running due answer)) with dir := next })

def turn (world : LockWorld host) : LockMove → Option (LockLabel × LockWorld host)
  | .start pid =>
      match world.lockers pid with
      | none => some (.starts pid, world.set pid (some {}))
      | some _ => none
  | .call pid call =>
      match world.lockers pid with
      | some ⟨owned, none⟩ =>
          match call with
          | .drop lock =>
              if lock ∈ owned then
                some (.calls pid (.drop lock),
                  world.set pid (some ⟨owned.erase lock, some ⟨.drop lock, .start _⟩⟩))
              else none
          | call => some (.calls pid call, world.set pid (some ⟨owned, some ⟨call, .start _⟩⟩))
      | _ => none
  | .step pid =>
      match world.lockers pid with
      | some ⟨owned, some running⟩ => world.answer ⟨owned, some running⟩ running
      | _ => none
  | .finish pid =>
      match world.lockers pid with
      | some ⟨owned, some running⟩ =>
          match running.thread.rest with
          | .done (outcome, _) => some (.returns pid running.call outcome,
              world.set pid (some ⟨outcome.toOption.join.toList ++ owned, none⟩))
          | .call .. => none
      | _ => none
  | .die pid =>
      match world.lockers pid with
      | some _ => some (.dies pid, { world.set pid none with dir := world.dir.unlock pid })
      | none => none

private theorem answer_step {world next : LockWorld host} {label : LockLabel} {pid : UInt32}
    {locker : Locker (host pid)} {running : Running (host pid)}
    (found : world.lockers pid = some locker) (busy : locker.running = some running)
    (answered : world.answer locker running = some (label, next)) : LockStep world label next := by
  unfold answer at answered
  split at answered
  · contradiction
  · next op resume due =>
      split at answered
      · contradiction
      · next answer dir suggested =>
          cases answered
          exact .performs found busy due (DataDir.suggest_effect suggested)

theorem turn_step (world : LockWorld host) (move : LockMove) (label : LockLabel)
    (next : LockWorld host) (turned : world.turn move = some (label, next)) :
    LockStep world label next := by
  cases move with
  | start pid =>
      simp only [turn] at turned
      split at turned
      · next absent =>
          cases turned
          exact .starts absent
      · contradiction
  | call pid call =>
      simp only [turn] at turned
      split at turned
      · next owned found =>
          cases call with
          | drop lock =>
              dsimp only at turned
              split at turned
              · next mine =>
                  cases turned
                  exact .drops found rfl mine
              · contradiction
          | _ =>
              cases turned
              exact .takes found rfl rfl
      · contradiction
  | step pid =>
      simp only [turn] at turned
      split at turned
      · next owned running found => exact answer_step found rfl turned
      · contradiction
  | finish pid =>
      simp only [turn] at turned
      split at turned
      · next owned running found =>
          split at turned
          · next outcome store done =>
              cases turned
              exact .returns found rfl done
          · contradiction
      · contradiction
  | die pid =>
      simp only [turn] at turned
      split at turned
      · next locker found =>
          cases turned
          exact .dies found
      · contradiction

end LockWorld

def contenders (pid : UInt32) : Host :=
  { pid := pid, euid := 0, dataDir := "/data", socketPath := "/run/ctl.sock", socketDir := none
    stagingPath := "/run/stage", maxSocketPathLen := 107, buildId := [] }

/-- A pidfile that names a stranger is found.  Process 5 takes the lock and 6 is
refused; 5 dies, and 6 breaks the stale lock. -/
def contention : List LockMove :=
  [.start 5, .start 6, .call 5 .acquire] ++ List.replicate 8 (.step 5) ++
    [.finish 5, .call 6 .acquireOrBreakStale] ++ List.replicate 5 (.step 6) ++ [.die 5] ++
    List.replicate 8 (.step 6) ++ [.finish 6]

def contended : Option (LockWorld contenders) :=
  perform LockWorld.turn (fun _ _ _ => true) contention (.opening { pidfile := some "12" })

theorem dataDir_agreement_stale :
    ∃ world : LockWorld contenders,
      Reaches LockStep (fun _ _ _ => true) (.opening { pidfile := some "12" }) world ∧
      world.owns 6 ∧ ¬world.owns 5 ∧ world.dir.pidfile = some "6\n" := by
  have goes : contended.any (fun world =>
      (world.lockers 6).any fun locker => locker.owned.length == 1) = true := by decide +kernel
  obtain ⟨world, performed, holds⟩ := (Option.any_eq_true ..).mp goes
  have reached : Reaches LockStep (fun _ _ _ => true) (.opening { pidfile := some "12" }) world :=
    perform_reaches LockWorld.turn_step contention _ performed
  obtain ⟨alone, _, record, _⟩ := dataDir_agreement (fun _ => rfl) _ reached
  obtain ⟨locker, found, one⟩ := (Option.any_eq_true ..).mp holds
  have owns : world.owns 6 := by
    refine ⟨locker, found, fun empty => ?_⟩
    rw [empty] at one
    contradiction
  refine ⟨world, reached, owns, fun other => ?_, (record 6 owns).1⟩
  exact absurd (alone 5 6 other owns) (by decide)

end Handoff
