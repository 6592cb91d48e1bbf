/-
One data directory and the processes that lock it.

Any number of processes take and drop the lock, one system call at a time, and
may die between any two calls.  The directory holds the kernel lock on the lock
file, the pidfile and the temporary files under which pidfiles are written.  The
lock file itself is never unlinked, so there is one inode to lock.
-/

import Handoff.Effects.System
import Handoff.Primitive.History
import Handoff.Text

namespace Handoff

open Effects

/-! ### The files -/

/-- What `write_pid_atomic` writes. -/
def pidLine (pid : UInt32) : String := toString pid.toNat ++ "\n"

/-- What `read_pidfile` makes of a text. -/
def pidOfText (text : String) : Option Int := parseSigned (2 ^ 31) (trimText text.toList)

theorem pidOfText_pidLine {pid : UInt32} (fits : pid.toNat < 2 ^ 31) :
    pidOfText (pidLine pid) = some (pid.toNat : Int) := by
  have line : (pidLine pid).toList = numeral pid.toNat ++ ['\n'] := String.toList_append
  rw [pidOfText, line, trimText_numeral, parseSigned_numeral fits]

/-- `temps` are the temporary files, whose names carry the pid of their writer. -/
structure DataDir where
  flock : Option UInt32 := none
  pidfile : Option String := none
  temps : UInt32 → Option String := fun _ => none

namespace DataDir

def setTemp (dir : DataDir) (pid : UInt32) (text : Option String) : DataDir :=
  { dir with temps := Function.update dir.temps pid text }

/-- The lock of `pid`, if it has one, is gone. -/
def unlock (dir : DataDir) (pid : UInt32) : DataDir :=
  if dir.flock = some pid then { dir with flock := none } else dir

@[simp]
theorem setTemp_flock (dir : DataDir) (pid : UInt32) (text : Option String) :
    (dir.setTemp pid text).flock = dir.flock := rfl

@[simp]
theorem setTemp_pidfile (dir : DataDir) (pid : UInt32) (text : Option String) :
    (dir.setTemp pid text).pidfile = dir.pidfile := rfl

@[simp]
theorem setTemp_self (dir : DataDir) (pid : UInt32) (text : Option String) :
    (dir.setTemp pid text).temps pid = text := Function.update_self ..

@[simp]
theorem setTemp_of_ne (dir : DataDir) {pid other : UInt32} (different : other ≠ pid)
    (text : Option String) : (dir.setTemp pid text).temps other = dir.temps other :=
  Function.update_of_ne different ..

@[simp]
theorem unlock_pidfile (dir : DataDir) (pid : UInt32) : (dir.unlock pid).pidfile = dir.pidfile := by
  unfold unlock
  split <;> rfl

@[simp]
theorem unlock_temps (dir : DataDir) (pid : UInt32) : (dir.unlock pid).temps = dir.temps := by
  unfold unlock
  split <;> rfl

theorem unlock_flock_iff (dir : DataDir) {pid other : UInt32} :
    (dir.unlock pid).flock = some other ↔ dir.flock = some other ∧ other ≠ pid := by
  unfold unlock
  by_cases mine : dir.flock = some pid
  · rw [if_pos mine, mine, Option.some_inj]
    constructor
    · intro impossible
      cases impossible
    · intro both
      exact absurd both.1.symm both.2
  · rw [if_neg mine]
    constructor
    · intro held
      refine ⟨held, fun same => mine ?_⟩
      rw [held, same]
    · intro both
      exact both.1

/-- What an operation of `pid` may do to the directory.  A failed operation
changes nothing, except that a failed write may leave any text; the removals are
best effort, so they may fail silently. -/
def Effect (pid : UInt32) (dir : DataDir) (event : PrimEvent) (next : DataDir) : Prop :=
  match event with
  | ⟨⟨_, .flock⟩, .locked⟩ => dir.flock = none ∧ next = { dir with flock := some pid }
  | ⟨⟨_, .flock⟩, .wouldBlock⟩ => dir.flock ≠ none ∧ next = dir
  | ⟨⟨_, .closeLockFile⟩, _⟩ | ⟨⟨_, .releaseFlock⟩, _⟩ => next = dir.unlock pid
  | ⟨⟨_, .readPidfile⟩, answer⟩ =>
      (answer = none ∨ answer = dir.pidfile.bind pidOfText) ∧ next = dir
  | ⟨⟨_, .openPidTemp⟩, .ok _⟩ => next = dir.setTemp pid (some "")
  | ⟨⟨_, .writePidTemp written⟩, .ok _⟩ =>
      next = dir.setTemp pid ((dir.temps pid).map (· ++ pidLine written))
  | ⟨⟨_, .writePidTemp _⟩, .error _⟩ => ∃ text, next = dir.setTemp pid (some text)
  | ⟨⟨_, .renamePidTemp⟩, .ok _⟩ =>
      ∃ text, dir.temps pid = some text ∧
        next = { dir.setTemp pid none with pidfile := some text }
  | ⟨⟨_, .removePidTemp⟩, _⟩ => next = dir ∨ next = dir.setTemp pid none
  | ⟨⟨_, .removePidfile⟩, _⟩ => next = dir ∨ next = { dir with pidfile := none }
  | _ => next = dir

end DataDir

/-! ### The processes -/

inductive LockCall where
  | acquire
  | acquireOrBreakStale
  | drop (lock : DataDirLock)
  deriving DecidableEq, Repr

namespace LockCall

def code (host : Host) : LockCall → PrimM (Option DataDirLock)
  | .acquire => do
      let lock ← DataDirLock.acquire host
      pure (some lock)
  | .acquireOrBreakStale => do
      let lock ← DataDirLock.acquireOrBreakStale host
      pure (some lock)
  | .drop lock => do
      lock.drop
      pure none

def holding : LockCall → Bool
  | .drop _ => true
  | _ => false

end LockCall

structure Running (host : Host) where
  call : LockCall
  thread : Thread (call.code host {})

/-- A process with the locks it owns: those that a call returned and that no
drop has begun to release. -/
structure Locker (host : Host) where
  owned : List DataDirLock := []
  running : Option (Running host) := none

structure LockWorld (host : UInt32 → Host) where
  dir : DataDir
  lockers : (pid : UInt32) → Option (Locker (host pid))

inductive LockLabel where
  | starts (pid : UInt32)
  | calls (pid : UInt32) (call : LockCall)
  | performs (pid : UInt32) (event : PrimEvent)
  | returns (pid : UInt32) (call : LockCall) (outcome : Except Error (Option DataDirLock))
  | dies (pid : UInt32)

variable {host : UInt32 → Host}

namespace LockWorld

def opening (dir : DataDir) : LockWorld host := ⟨{ dir with flock := none }, fun _ => none⟩

def set (world : LockWorld host) (pid : UInt32) (locker : Option (Locker (host pid))) :
    LockWorld host :=
  { world with lockers := Function.update world.lockers pid locker }

@[simp]
theorem set_self (world : LockWorld host) (pid : UInt32) (locker : Option (Locker (host pid))) :
    (world.set pid locker).lockers pid = locker := by
  unfold set
  apply Function.update_self

@[simp]
theorem set_of_ne (world : LockWorld host) {pid other : UInt32} (different : other ≠ pid)
    (locker : Option (Locker (host pid))) :
    (world.set pid locker).lockers other = world.lockers other := by
  unfold set
  apply Function.update_of_ne different

def owns (world : LockWorld host) (pid : UInt32) : Prop :=
  ∃ locker, world.lockers pid = some locker ∧ locker.owned ≠ []

end LockWorld

inductive LockStep : LockWorld host → LockLabel → LockWorld host → Prop where
  | starts {world : LockWorld host} {pid : UInt32} (absent : world.lockers pid = none) :
      LockStep world (.starts pid) (world.set pid (some {}))
  | takes {world : LockWorld host} {pid : UInt32} {locker : Locker (host pid)} {call : LockCall}
      (present : world.lockers pid = some locker) (idle : locker.running = none)
      (fresh : call.holding = false) :
      LockStep world (.calls pid call)
        (world.set pid (some { locker with running := some ⟨call, .start _⟩ }))
  | drops {world : LockWorld host} {pid : UInt32} {locker : Locker (host pid)}
      {lock : DataDirLock} (present : world.lockers pid = some locker)
      (idle : locker.running = none) (mine : lock ∈ locker.owned) :
      LockStep world (.calls pid (.drop lock))
        (world.set pid (some ⟨locker.owned.erase lock, some ⟨.drop lock, .start _⟩⟩))
  | performs {world : LockWorld host} {pid : UInt32} {locker : Locker (host pid)}
      {running : Running (host pid)} {op : Call PrimStore PrimOp}
      {resume : PrimAns op.op → Process PrimStore PrimAns Error (Option DataDirLock)}
      {answer : PrimAns op.op} {next : DataDir} (present : world.lockers pid = some locker)
      (busy : locker.running = some running) (due : running.thread.rest = .call op resume)
      (effect : world.dir.Effect pid ⟨op, answer⟩ next) :
      LockStep world (.performs pid ⟨op, answer⟩)
        { world.set pid (some { locker with
            running := some ⟨running.call, running.thread.answered due answer⟩ }) with dir := next }
  | returns {world : LockWorld host} {pid : UInt32} {locker : Locker (host pid)}
      {running : Running (host pid)} {outcome : Except Error (Option DataDirLock)}
      {store : PrimStore} (present : world.lockers pid = some locker)
      (busy : locker.running = some running)
      (done : running.thread.rest = .done (outcome, store)) :
      LockStep world (.returns pid running.call outcome)
        (world.set pid (some ⟨outcome.toOption.join.toList ++ locker.owned, none⟩))
  | dies {world : LockWorld host} {pid : UInt32} {locker : Locker (host pid)}
      (present : world.lockers pid = some locker) :
      LockStep world (.dies pid) { world.set pid none with dir := world.dir.unlock pid }

end Handoff
