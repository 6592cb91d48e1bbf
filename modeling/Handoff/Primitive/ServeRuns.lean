/-
Every run of `Incumbent::serve`.

The contract of `serve` read as statements about histories: where the consumer
hooks run, what the flock is given up after, what holds at `accept`, and how the
lock variable follows the session flags.  Where the source does not keep such a
statement for all inputs, a scripted run shows the input that breaks it.
-/

import Handoff.Primitive.ServeDuty

namespace Handoff

open Effects PrimM
open Effects.Code hiding pure bind

variable {past : PrimPast} {store : PrimStore}

/-- An `Incumbent` as its constructors return it. -/
def PrimStore.incumbent (lock : DataDirLock) : PrimStore := { lock := some lock }

theorem incumbent_accepting (lock : DataDirLock) :
    Accepting true [] (PrimStore.incumbent lock) :=
  ⟨rfl, rfl, Or.inl (Or.inl rfl)⟩

private theorem serve_duty {host : Host} {fuel : Nat} {lock : DataDirLock}
    {events before after : PrimPast} {event : PrimEvent}
    {rest : Process PrimStore PrimAns Error Unit}
    (run : (serve host fuel (.incumbent lock)).Run events rest)
    (split : events = before ++ event :: after) : Duty true before event.op :=
  run.asked (serve_meets host fuel (incumbent_accepting lock)) split

/-! ### Rehearsed runs -/

/-- The answer of an environment in which nothing fails and nobody sends. -/
def PrimOp.succeeds (euid : UInt32) : (op : PrimOp) → Option (PrimAns op)
  | .accept | .configureControlStream | .setReadTimeout _ | .writeFrame .. | .tryClone
  | .resumeAfterAbort | .createDataDir | .openLockFile | .openPidTemp | .writePidTemp _
  | .syncPidTemp | .renamePidTemp | .syncDataDir | .createSocketDir | .bindStaging
  | .chmodStaging | .renameStaging | .setCloexec => some (.ok ())
  | .probePid _ => some (.ok ())
  | .sleep _ | .close _ | .removePidTemp | .closeLockFile | .removePidfile | .releaseFlock
  | .removeStaging | .closeListener => some ()
  | .peerUid => some (.ok euid)
  | .pollRead _ => some (.waiting false)
  | .readMessage | .outOfFuel => none
  | .now => some 0
  | .nowUnixMs => some 0
  | .drain _ => some (.ok ⟨0, true⟩)
  | .seal => some (.ok ⟨[], Vector.replicate 32 0⟩)
  | .flock => some .locked
  | .readPidfile => some none

/-- The answers of a run in the order in which each kind of operation asks for
them; what is not listed succeeds. -/
structure Rehearsal where
  polls : List Polled := []
  accepts : List (Except IoError Unit) := [.ok ()]
  drains : List (Except Error DrainReport) := []
  seals : List (Except Error SealReport) := []

def Rehearsal.answer (rehearsal : Rehearsal) (past : PrimPast) :
    (call : Call PrimStore PrimOp) → Option (PrimAns call.op)
  | ⟨_, op⟩ =>
      let index := past.countP fun event => event.op.op.ctorIdx == op.ctorIdx
      match op with
      | .accept => rehearsal.accepts[index]?
      | .pollRead _ => rehearsal.polls[index]?
      | .drain deadline => rehearsal.drains[index]?.orElse fun _ => PrimOp.succeeds 0 (.drain deadline)
      | .seal => rehearsal.seals[index]?.orElse fun _ => PrimOp.succeeds 0 .seal
      | op => PrimOp.succeeds 0 op

def rehearsalHost : Host :=
  { pid := 1, euid := 0, dataDir := "/data", socketPath := "/run/ctl.sock"
    socketDir := some "/run", stagingPath := "/run/.ho-1-0.tmp", maxSocketPathLen := 107
    buildId := [] }

/-- `serve` under a rehearsal, for at most `steps` operations. -/
def Rehearsal.serve (rehearsal : Rehearsal) (steps : Nat) :
    PrimPast × Process PrimStore PrimAns Error Unit :=
  Program.play rehearsal.answer steps []
    (Handoff.serve rehearsalHost steps (.incumbent { dataDir := "/data" }))

def firstHandoff : HandoffId := ⟨1⟩

def secondHandoff : HandoffId := ⟨2⟩

def helloAckFrame : Polled := .frame 1 (.helloAck 1 firstHandoff)

def prepareFrame (handoffId : HandoffId) : Polled :=
  .frame 1 (.prepareHandoff handoffId 2 1000 1000)

/-! ### Hooks and the lock -/

def needsLock : PrimOp → Bool
  | .drain _ | .seal | .resumeAfterAbort | .writeFrame _ _ (.sealFailed ..) => true
  | _ => false

theorem needsLock_underLock {holding : Bool} {op : PrimOp} (hook : needsLock op = true)
    (duty : OpDuty holding past store op) : UnderLock past store := by
  unfold needsLock at hook
  split at hook <;> first | exact duty | contradiction

section Runs

variable {host : Host} {fuel : Nat} {lock : DataDirLock} {events before after : PrimPast}
  {event : PrimEvent} {rest : Process PrimStore PrimAns Error Unit}

/-- Until a session is sealed twice, the consumer hooks and the `SealFailed`
frame have the lock held. -/
theorem serve_hooks_under_lock (run : (serve host fuel (.incumbent lock)).Run events rest)
    (split : events = before ++ event :: after) (hook : needsLock event.op.op = true)
    (once : before.any sealedRepeat = false) : event.op.store.lock.isSome = true := by
  rcases needsLock_underLock hook (serve_duty run split).2 with held | repeated
  · exact held
  · rw [once] at repeated
    contradiction

private theorem split_at (events : PrimPast) (index : Nat) (within : index < events.length) :
    events = events.take index ++ events.get ⟨index, within⟩ :: events.drop (index + 1) := by
  rw [List.get_eq_getElem, List.getElem_cons_drop, List.take_append_drop]

def drainedSession : Rehearsal :=
  { polls := [helloAckFrame, prepareFrame firstHandoff] }

theorem serve_hooks_under_lock_drain :
    ∃ before event after, (drainedSession.serve 40).1 = before ++ event :: after ∧
      hook? event = some (.drain true) ∧ event.op.store.lock.isSome = true := by
  have split := split_at (drainedSession.serve 40).1 9 (by decide +kernel)
  refine ⟨_, _, _, split, by decide +kernel, ?_⟩
  exact serve_hooks_under_lock (Program.play_run _ 40 [] _) split (by decide +kernel)
    (by decide +kernel)

def sealedTwice : Rehearsal :=
  { polls := [helloAckFrame, prepareFrame firstHandoff, .frame 1 (.sealRequest firstHandoff),
      prepareFrame firstHandoff, .frame 1 (.sealRequest firstHandoff)]
    seals := [.ok ⟨[], Vector.replicate 32 0⟩, .error (.protocol "disk full")] }

def withoutLock (event : PrimEvent) : Bool :=
  needsLock event.op.op && event.op.store.lock.isNone

theorem serve_hooks_without_lock :
    ∃ host fuel lock events rest, (serve host fuel (.incumbent lock)).Run events rest ∧
      (events.filter withoutLock).filterMap hook? =
        [.drain true, .seal false, .resumeAfterAbort] ∧
      (events.filter withoutLock).any fun event =>
        event.op.op == .writeFrame .session 1
          (.sealFailed firstHandoff "protocol violation: disk full" "") := by
  refine ⟨_, _, _, _, _, Program.play_run sealedTwice.answer 60 []
    (serve rehearsalHost 60 (.incumbent { dataDir := "/data" })), ?_, ?_⟩
  · decide +kernel
  · decide +kernel

/-! ### The consumer at `accept` -/

/-- Unless a first `drain` was refused, the consumer is serving whenever the
incumbent accepts. -/
theorem serve_accepts_resumed (run : (serve host fuel (.incumbent lock)).Run events rest)
    (split : events = before ++ event :: after) (accept : event.op.op = .accept)
    (unrefused : before.any drainRefused = false) : Serving before := by
  have duty := (serve_duty run split).2
  rw [accept] at duty
  rcases duty.2 with serving | refused
  · exact serving
  · rw [unrefused] at refused
    contradiction

/-- The supervisor goes away after `Drained`, and another one connects. -/
def abandonedSession : Rehearsal :=
  { accepts := [.ok (), .ok ()]
    polls := [helloAckFrame, prepareFrame firstHandoff, .failed (.io (.ofKind .unexpectedEof ""))] }

theorem serve_accepts_resumed_again :
    ∃ before event after, (abandonedSession.serve 40).1 = before ++ event :: after ∧
      event.op.op = .accept ∧ before.any (fun earlier => hook? earlier == some (.drain true)) ∧
      Serving before := by
  have split := split_at (abandonedSession.serve 40).1 14 (by decide +kernel)
  refine ⟨_, _, _, split, by decide +kernel, by decide +kernel, ?_⟩
  exact serve_accepts_resumed (Program.play_run _ 40 [] _) split (by decide +kernel)
    (by decide +kernel)

/-- The consumer fails to drain, and another supervisor connects. -/
def refusedDrain : Rehearsal :=
  { accepts := [.ok (), .ok ()]
    polls := [helloAckFrame, prepareFrame firstHandoff]
    drains := [.error (.protocol "listener is stuck")] }

theorem serve_accepts_drained :
    ∃ host fuel lock events rest before event after,
      (serve host fuel (.incumbent lock)).Run events rest ∧
      events = before ++ event :: after ∧ event.op.op = .accept ∧
      lastHook before = some (.drain false) ∧ ¬Serving before := by
  have split := split_at (refusedDrain.serve 40).1 11 (by decide +kernel)
  exact ⟨_, _, _, _, _, _, _, _, Program.play_run refusedDrain.answer 40 [] _, split,
    by decide +kernel, by decide +kernel, by decide +kernel⟩

/-! ### Giving up the flock -/

/-- Unless `accept` failed for good, the lock is dropped after a seal only. -/
theorem serve_releases_sealed (run : (serve host fuel (.incumbent lock)).Run events rest)
    (split : events = before ++ event :: after) (release : event.op.op = .releaseFlock)
    (accepted : before.any fatalAccept = false) : SealedSince before := by
  have duty := (serve_duty run split).2
  rw [release] at duty
  rcases duty with sealed | fatal
  · exact sealed
  · rw [accepted] at fatal
    contradiction

def sealedSession : Rehearsal :=
  { polls := [helloAckFrame, prepareFrame firstHandoff, .frame 1 (.sealRequest firstHandoff)] }

theorem serve_releases_sealed_request :
    ∃ before event after, (sealedSession.serve 40).1 = before ++ event :: after ∧
      event.op.op = .releaseFlock ∧ SealedSince before := by
  have split := split_at (sealedSession.serve 40).1 15 (by decide +kernel)
  refine ⟨_, _, _, split, by decide +kernel, ?_⟩
  exact serve_releases_sealed (Program.play_run _ 40 [] _) split (by decide +kernel)
    (by decide +kernel)

def brokenListener : Rehearsal :=
  { accepts := [.error { kind := .other, rawOsError := some .einval, text := "Invalid argument" }] }

theorem serve_releases_unsealed :
    ∃ host fuel lock events rest before event after,
      (serve host fuel (.incumbent lock)).Run events rest ∧
      events = before ++ event :: after ∧ event.op.op = .releaseFlock ∧
      flockHeld true before = true ∧ ¬SealedSince before := by
  have split := split_at (brokenListener.serve 40).1 3 (by decide +kernel)
  refine ⟨_, _, _, _, _, _, _, _, Program.play_run brokenListener.answer 40 [] _, split,
    by decide +kernel, by decide +kernel, ?_⟩
  intro since
  exact absurd since.any (by decide +kernel)

/-! ### Where an error of `serve` comes from -/

/-- `cause` is how a `DataDirLock::acquire` of the run failed, and nothing was
accepted since. -/
def AcquireError (host : Host) (cause : Error) (past : PrimPast) : Prop :=
  ∃ before acquiring after start last, past = before ++ acquiring ++ after ∧
    (DataDirLock.acquire host start).Run acquiring (.done (.error cause, last)) ∧
    ∀ event ∈ after, event.op.op ≠ .accept

/-- `cause` is the failure of an `accept` that ends the loop. -/
def AcceptError (cause : Error) (past : PrimPast) : Prop :=
  ∃ before store failure after, past = before ++ ⟨⟨store, .accept⟩, .error failure⟩ :: after ∧
    classifyAcceptError failure = .fatal ∧ cause = .io failure

def ServeError (host : Host) (cause : Error) (past : PrimPast) : Prop :=
  AcquireError host cause past ∨ AcceptError cause past

theorem AcquireError.append {cause : Error} (failed : AcquireError host cause past)
    (other : event.op.op ≠ .accept) : AcquireError host cause (past ++ [event]) := by
  obtain ⟨before, acquiring, after, start, last, rfl, run, none⟩ := failed
  refine ⟨before, acquiring, after ++ [event], start, last, by simp, run, ?_⟩
  intro later member
  rcases List.mem_append.mp member with earlier | ending
  · exact none later earlier
  · rw [List.mem_singleton.mp ending]
    exact other

theorem AcceptError.append {cause : Error} (failed : AcceptError cause past) (event : PrimEvent) :
    AcceptError cause (past ++ [event]) := by
  obtain ⟨before, store, failure, after, rfl, fatal, same⟩ := failed
  exact ⟨before, store, failure, after ++ [event], by simp, fatal, same⟩

def FailsBy (why : Error → PrimPast → Prop) {Value : Type} (outcome : Except Error Value)
    (_store : PrimStore) (past : PrimPast) : Prop :=
  match outcome with
  | .ok _ => True
  | .error cause => why cause past

theorem FailsBy.append {outcome : Except Error Unit}
    (failed : FailsBy (ServeError host) outcome store past) (event : PrimEvent)
    (other : event.op.op ≠ .accept) :
    FailsBy (ServeError host) outcome store (past ++ [event]) := by
  cases outcome with
  | ok _ => trivial
  | error cause =>
      rcases failed with acquiring | accepting
      · exact Or.inl (acquiring.append other)
      · exact Or.inr (accepting.append event)

def acquires : PrimOp → Bool
  | .createDataDir | .openLockFile | .flock => true
  | _ => false

end Runs

end Handoff
