/-
What the history of a primitive says about its consumer and its lock.

Each notion is read off the events alone.  The first section is about the
consumer hooks, the second about the kernel lock, the third about the messages
of the current session, and the last names the events after which the session
code no longer behaves as documented.
-/

import Handoff.Primitive.Incumbent

namespace Handoff

open Effects

/-! ### Consumer hooks -/

/-- A hook call, with whether it returned `Ok` where the library looks at that. -/
inductive Hook where
  | drain (ok : Bool)
  | seal (ok : Bool)
  | resumeAfterAbort
  deriving DecidableEq, Repr

def hook? : PrimEvent → Option Hook
  | ⟨⟨_, .drain _⟩, .ok _⟩ => some (.drain true)
  | ⟨⟨_, .drain _⟩, .error _⟩ => some (.drain false)
  | ⟨⟨_, .seal⟩, .ok _⟩ => some (.seal true)
  | ⟨⟨_, .seal⟩, .error _⟩ => some (.seal false)
  | ⟨⟨_, .resumeAfterAbort⟩, _⟩ => some .resumeAfterAbort
  | _ => none

def lastHook (past : PrimPast) : Option Hook := (past.filterMap hook?).getLast?

@[simp]
theorem lastHook_nil : lastHook [] = none := rfl

@[simp]
theorem lastHook_append (past : PrimPast) (event : PrimEvent) :
    lastHook (past ++ [event]) = (hook? event).or (lastHook past) := by
  unfold lastHook
  cases found : hook? event with
  | none => simp [found]
  | some hook => simp [found]

def Serving (past : PrimPast) : Prop :=
  lastHook past = none ∨ lastHook past = some .resumeAfterAbort

instance (past : PrimPast) : Decidable (Serving past) :=
  inferInstanceAs (Decidable (_ ∨ _))

/-- A `seal` returned `Ok` and the consumer has not been resumed since. -/
def SealedSince (past : PrimPast) : Prop :=
  ∃ before event after, past = before ++ event :: after ∧
    hook? event = some (.seal true) ∧ ∀ later ∈ after, hook? later ≠ some .resumeAfterAbort

theorem sealedSince_seal (past : PrimPast) (event : PrimEvent)
    (sealed : hook? event = some (.seal true)) : SealedSince (past ++ [event]) := by
  refine ⟨past, event, [], rfl, sealed, ?_⟩
  intro later member
  cases member

theorem SealedSince.any {past : PrimPast} (since : SealedSince past) :
    past.any (fun event => hook? event == some (.seal true)) = true := by
  obtain ⟨before, event, after, rfl, sealed, _⟩ := since
  simp [sealed]

theorem SealedSince.append {past : PrimPast} (since : SealedSince past) (event : PrimEvent)
    (quiet : hook? event ≠ some .resumeAfterAbort) : SealedSince (past ++ [event]) := by
  obtain ⟨before, sealing, after, rfl, sealed, none⟩ := since
  refine ⟨before, sealing, after ++ [event], by simp, sealed, ?_⟩
  intro later member
  rcases List.mem_append.mp member with earlier | last
  · exact none later earlier
  · rw [List.mem_singleton.mp last]
    exact quiet

/-! ### The kernel lock -/

/-- `some true` when the event took the flock and `some false` when it gave it up. -/
def flockChange? : PrimEvent → Option Bool
  | ⟨⟨_, .flock⟩, .locked⟩ => some true
  | ⟨⟨_, .closeLockFile⟩, _⟩ => some false
  | ⟨⟨_, .releaseFlock⟩, _⟩ => some false
  | _ => none

/-- Whether the process holds the kernel lock, given whether it did at first. -/
def flockHeld (holding : Bool) (past : PrimPast) : Bool :=
  (past.filterMap flockChange?).getLast?.getD holding

@[simp]
theorem flockHeld_nil (holding : Bool) : flockHeld holding [] = holding := rfl

@[simp]
theorem flockHeld_append (holding : Bool) (past : PrimPast) (event : PrimEvent) :
    flockHeld holding (past ++ [event]) = (flockChange? event).getD (flockHeld holding past) := by
  unfold flockHeld
  cases found : flockChange? event with
  | none => simp [found]
  | some held => simp [found]

theorem flockHeld_kept {holding : Bool} {past : PrimPast} (event : PrimEvent)
    (unchanged : flockChange? event = none) :
    flockHeld holding (past ++ [event]) = flockHeld holding past := by
  rw [flockHeld_append, unchanged, Option.getD_none]

/-! ### The current session -/

/-- The frames read in the session that the last `accept` opened. -/
def sessionReads (past : PrimPast) : List Message :=
  past.foldl (fun reads event =>
    match event with
    | ⟨⟨_, .accept⟩, _⟩ => []
    | ⟨⟨_, .pollRead _⟩, .frame _ message⟩ => reads ++ [message]
    | _ => reads) []

@[simp]
theorem sessionReads_append (past : PrimPast) (event : PrimEvent) :
    sessionReads (past ++ [event]) =
      match event with
      | ⟨⟨_, .accept⟩, _⟩ => []
      | ⟨⟨_, .pollRead _⟩, .frame _ message⟩ => sessionReads past ++ [message]
      | _ => sessionReads past := by
  unfold sessionReads
  rw [List.foldl_append]
  rfl

theorem mem_sessionReads {past : PrimPast} {message : Message}
    (read : message ∈ sessionReads past) :
    ∃ store armed version, ⟨⟨store, .pollRead armed⟩, .frame version message⟩ ∈ past := by
  induction past using List.reverseRecOn with
  | nil => contradiction
  | append_singleton earlier event ih =>
      rw [sessionReads_append] at read
      split at read
      · contradiction
      · next store armed version last =>
          rcases List.mem_append.mp read with before | now
          · obtain ⟨found, kind, seen, member⟩ := ih before
            exact ⟨found, kind, seen, List.mem_append_left _ member⟩
          · rw [List.mem_singleton.mp now]
            exact ⟨store, armed, version, List.mem_append_right _ (List.mem_singleton_self _)⟩
      · obtain ⟨found, kind, seen, member⟩ := ih read
        exact ⟨found, kind, seen, List.mem_append_left _ member⟩

def isSealRequest : Message → Bool
  | .sealRequest _ => true
  | _ => false

/-- A process reads a `Commit`, as `run_session_loop` does before it returns `Committed`. -/
def readsCommit : PrimEvent → Bool
  | ⟨⟨_, .pollRead _⟩, .frame _ (.commit _)⟩ => true
  | _ => false

/-! ### Events after which the session code leaves its documented behaviour -/

/-- A `PrepareHandoff` or `SealRequest` that passes its id check although the
session is already sealed. -/
def sealedRepeat : PrimEvent → Bool
  | ⟨⟨store, .pollRead false⟩, .frame _ (.prepareHandoff handoffId _ _ _)⟩ =>
      store.state.sealed && (store.state.active == none || store.state.active == some handoffId)
  | ⟨⟨store, .pollRead false⟩, .frame _ (.sealRequest handoffId)⟩ =>
      store.state.sealed && store.state.active == some handoffId
  | _ => false

/-- A first `drain` of a session, not yet sealed, that returns an error. -/
def drainRefused : PrimEvent → Bool
  | ⟨⟨store, .drain _⟩, .error _⟩ => !store.state.drained && !store.state.sealed
  | _ => false

/-- A `seal` that returns an error although the session is already sealed. -/
def resealFailed : PrimEvent → Bool
  | ⟨⟨store, .seal⟩, .error _⟩ => store.state.sealed
  | _ => false

/-- An `accept` failure that ends the serve loop. -/
def fatalAccept : PrimEvent → Bool
  | ⟨⟨_, .accept⟩, .error cause⟩ => classifyAcceptError cause == .fatal
  | _ => false

/-! ### Why a serve loop returns -/

/-- A failure of `DataDirLock::acquire` other than that the lock is held. -/
def lockFault : PrimEvent → Bool
  | ⟨⟨_, .createDataDir⟩, .error _⟩ | ⟨⟨_, .openLockFile⟩, .error _⟩
  | ⟨⟨_, .flock⟩, .failed _ _⟩ | ⟨⟨_, .openPidTemp⟩, .error _⟩
  | ⟨⟨_, .writePidTemp _⟩, .error _⟩ | ⟨⟨_, .syncPidTemp⟩, .error _⟩
  | ⟨⟨_, .renamePidTemp⟩, .error _⟩ | ⟨⟨_, .syncDataDir⟩, .error _⟩ => true
  | _ => false

def closesListener (event : PrimEvent) : Bool := event.op.op == .closeListener

def ticks (event : PrimEvent) : Bool := event.op.op == .now

/-- A `Commit` was read, `accept` failed for good, the lock could not be taken,
or, a look at the clock ago, it was not worth waiting for it any longer. -/
def Left (past : PrimPast) : Prop :=
  past.any readsCommit = true ∨ past.any fatalAccept = true ∨ past.any lockFault = true ∨
    past.getLast?.any ticks = true

end Handoff
