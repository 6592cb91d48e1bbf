/-
`lock.rs`: taking and dropping the data-dir lock, one system call at a time.

`acquire` owns the kernel lock before it owns a `DataDirLock`: between the two
the pidfile is written, and a failure there closes the lock file again.  Dropping
a `DataDirLock` removes the pidfile first and releases the kernel lock second.
-/

import Handoff.Primitive.Ops

namespace Handoff

open Effects PrimM
open Effects.Code (attempt fail)

def writePidAtomic (pid : UInt32) : PrimM Unit := do
  orIo (← ask .openPidTemp)
  orIo (← ask (.writePidTemp pid))
  orIo (← ask .syncPidTemp)
  match ← ask .renamePidTemp with
  | Except.error cause =>
      ask .removePidTemp
      fail (.io cause)
  | Except.ok () => orIo (← ask .syncDataDir)

def DataDirLock.acquire (host : Host) : PrimM DataDirLock := do
  orIo (← ask .createDataDir)
  orIo (← ask .openLockFile)
  match ← ask .flock with
  | FlockAnswer.wouldBlock =>
      let holder ← ask .readPidfile
      fail (.lockHeld (holder.getD 0))
  | FlockAnswer.failed errno text => fail (.nix errno text)
  | FlockAnswer.locked =>
      match ← attempt (writePidAtomic host.pid) with
      | .ok () => pure { dataDir := host.dataDir }
      | .error cause =>
          -- the `Flock` local is dropped by the early return
          ask .closeLockFile
          fail cause

def esrch : Errno := .other 3

def isPidAlive (pid : Int) : PrimM Bool :=
  if pid ≤ 0 then pure false
  else do
    let probed ← ask (.probePid pid)
    pure (probed != .error esrch)

/-- Whether the pidfile names somebody, and that process exists. -/
def holderAlive (holderPid : Int) : PrimM Bool :=
  if holderPid ≠ 0 then isPidAlive holderPid else pure false

/-- The second attempt uses the same lock file, so the kernel decides. -/
def DataDirLock.acquireOrBreakStale (host : Host) : PrimM DataDirLock := do
  match ← attempt (DataDirLock.acquire host) with
  | .ok lock => pure lock
  | .error (.lockHeld holderPid) =>
      let alive ← holderAlive holderPid
      if alive then fail (.staleLockBreakRefused holderPid)
      else
        match ← attempt (DataDirLock.acquire host) with
        | .ok lock => pure lock
        | .error (.lockHeld holderPid) => fail (.staleLockBreakRefused holderPid)
        | .error cause => fail cause
  | .error cause => fail cause

def DataDirLock.drop (_lock : DataDirLock) : PrimM Unit := do
  ask .removePidfile
  ask .releaseFlock

end Handoff
