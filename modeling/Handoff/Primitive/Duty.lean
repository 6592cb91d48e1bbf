/-
The obligations of an incumbent at each of its operations.

`Duty` is one contract for all of `serve`.  It does not assume that the peers
behave: where the session code leaves its documented behaviour, the contract
says so by naming the event in the past that brought it there.  Each function of
`incumbent.rs` gets one specification against it and callers use that
specification only.
-/

import Handoff.Primitive.History
import Handoff.Primitive.Issued

namespace Handoff

open Effects PrimM
open Effects.Code hiding pure bind

/-! ### The contract -/

/-- The process holds its lock, or its consumer was sealed last. -/
def Guarded (past : PrimPast) (store : PrimStore) : Prop :=
  store.lock.isSome = true ∨ lastHook past = some (.seal true) ∨
    past.any sealedRepeat = true ∨ past.any fatalAccept = true

/-- The hook runs under the lock unless the session was sealed twice. -/
def UnderLock (past : PrimPast) (store : PrimStore) : Prop :=
  store.lock.isSome = true ∨ past.any sealedRepeat = true

def Resumed (past : PrimPast) : Prop :=
  Serving past ∨ past.any drainRefused = true

def OpDuty (holding : Bool) (past : PrimPast) (store : PrimStore) : PrimOp → Prop
  | .accept => store.lock.isSome = true ∧ Resumed past
  | .pollRead false =>
      (store.lock = none ↔ store.state.sealed = true) ∧
        (store.state.sealed = true → (sessionReads past).any isSealRequest = true)
  | .drain _ | .seal | .resumeAfterAbort | .writeFrame _ _ (.sealFailed ..) => UnderLock past store
  | .createDataDir | .openLockFile => store.lock = none
  | .flock => store.lock = none ∧ flockHeld holding past = false
  | .releaseFlock => SealedSince past ∨ past.any fatalAccept = true
  | .closeListener => Left past
  -- an incumbent neither announces itself nor binds
  | .renameStaging | .setCloexec | .writeFrame _ _ (.ready ..) => False
  | _ => True

structure Stands (holding : Bool) (past : PrimPast) (store : PrimStore) : Prop where
  guarded : Guarded past store
  held : store.lock.isSome = true → flockHeld holding past = true

def Duty (holding : Bool) (past : PrimPast) (call : Call PrimStore PrimOp) : Prop :=
  Stands holding past call.store ∧ OpDuty holding past call.store call.op

/-! ### Events between hooks -/

def quiet (event : PrimEvent) : Bool :=
  (hook? event).isNone && event.op.op != .accept

def Extends (past later : PrimPast) : Prop := Grows quiet past later

namespace Extends

variable {past later : PrimPast}

theorem refl (past : PrimPast) : Extends past past := Grows.refl past

theorem step (extended : Extends past later) (event : PrimEvent) (calm : quiet event = true) :
    Extends past (later ++ [event]) :=
  Grows.step extended event calm

theorem trans {last : PrimPast} (first : Extends past later) (second : Extends later last) :
    Extends past last :=
  Grows.trans first second

private theorem hook_none {event : PrimEvent} (calm : quiet event = true) : hook? event = none := by
  unfold quiet at calm
  rw [Bool.and_eq_true, Option.isNone_iff_eq_none] at calm
  exact calm.1

theorem lastHook_eq (extended : Extends past later) : lastHook later = lastHook past := by
  refine Grows.induct extended (fun now => lastHook now = lastHook past) rfl ?_
  intro now event calm same
  rw [lastHook_append, hook_none calm, Option.none_or]
  exact same

theorem any (extended : Extends past later) {bad : PrimEvent → Bool} (found : past.any bad = true) :
    later.any bad = true := by
  refine Grows.induct extended (fun now => now.any bad = true) found ?_
  intro now event _ earlier
  rw [List.any_append, earlier, Bool.true_or]

theorem requested (extended : Extends past later)
    (found : (sessionReads past).any isSealRequest = true) :
    (sessionReads later).any isSealRequest = true := by
  refine Grows.induct extended (fun now => (sessionReads now).any isSealRequest = true)
    found ?_
  rintro now ⟨⟨store, op⟩, answer⟩ calm earlier
  rw [sessionReads_append]
  split
  · next same =>
      cases same
      simp [quiet] at calm
  · rw [List.any_append, earlier, Bool.true_or]
  · exact earlier

theorem sealedSince (extended : Extends past later) (since : SealedSince past) :
    SealedSince later := by
  refine Grows.induct extended SealedSince since ?_
  intro now event calm earlier
  apply earlier.append
  rw [hook_none calm]
  simp

theorem serving (extended : Extends past later) (serving : Serving past) : Serving later := by
  unfold Serving
  rw [extended.lastHook_eq]
  exact serving

theorem resumed (extended : Extends past later) (resumed : Resumed past) : Resumed later := by
  rcases resumed with serving | refused
  · exact Or.inl (extended.serving serving)
  · exact Or.inr (extended.any refused)

theorem guarded {store : PrimStore} (extended : Extends past later) (guarded : Guarded past store) :
    Guarded later store := by
  rcases guarded with held | sealed | repeated | fatal
  · exact Or.inl held
  · exact Or.inr (Or.inl (extended.lastHook_eq.trans sealed))
  · exact Or.inr (Or.inr (Or.inl (extended.any repeated)))
  · exact Or.inr (Or.inr (Or.inr (extended.any fatal)))

end Extends

/-! ### Code that neither runs a hook nor touches the lock -/

def plainOp : PrimOp → Bool
  | .accept | .pollRead false | .drain _ | .seal | .resumeAfterAbort
  | .writeFrame _ _ (.sealFailed ..) | .createDataDir | .openLockFile | .flock
  | .closeLockFile | .releaseFlock | .renameStaging | .setCloexec | .closeListener
  | .writeFrame _ _ (.ready ..) => false
  | _ => true

variable {holding : Bool} {store : PrimStore} {past later : PrimPast}

theorem Stands.extend (stands : Stands holding past store) (extended : Extends past later)
    (kernel : flockHeld holding later = flockHeld holding past) : Stands holding later store := by
  refine ⟨extended.guarded stands.guarded, ?_⟩
  intro held
  rw [kernel]
  exact stands.held held

private theorem plainOp_duty {op : PrimOp} (plain : plainOp op = true) :
    OpDuty holding past store op := by
  unfold OpDuty
  split <;> trivial

private theorem plainOp_quiet {op : PrimOp} (plain : plainOp op = true) (store : PrimStore)
    (answer : PrimAns op) :
    quiet ⟨⟨store, op⟩, answer⟩ = true ∧ flockChange? ⟨⟨store, op⟩, answer⟩ = none := by
  cases op <;> first | exact ⟨rfl, rfl⟩ | exact absurd plain Bool.false_ne_true

theorem Stands.askBind {Value : Type} {op : PrimOp} {next : PrimAns op → PrimM Value}
    {post : Except Error Value → PrimStore → PrimPast → Prop} (plain : plainOp op = true)
    (stands : Stands holding past store)
    (rest : ∀ answer later, Extends past later →
      flockHeld holding later = flockHeld holding past →
      Meets (Duty holding) post (next answer) store later) :
    Meets (Duty holding) post (ask op >>= next) store past := by
  refine Meets.callBind ⟨stands, plainOp_duty plain⟩ fun answer => ?_
  obtain ⟨calm, unchanged⟩ := plainOp_quiet plain store answer
  exact rest answer _ ((Extends.refl past).step _ calm) (flockHeld_kept _ unchanged)

theorem Stands.plain {Value : Type} {code : PrimM Value} (stands : Stands holding past store)
    (plain : Within plainOp code) :
    Meets (Duty holding) (fun _ now later => now = store ∧ Extends past later ∧
      flockHeld holding later = flockHeld holding past) code store past := by
  apply plain.meets (fun later => Extends past later ∧
    flockHeld holding later = flockHeld holding past) ⟨Extends.refl past, rfl⟩
  · rintro now op ⟨extended, kernel⟩ permitted
    exact ⟨stands.extend extended kernel, plainOp_duty permitted⟩
  · rintro now op answer ⟨extended, kernel⟩ permitted
    obtain ⟨calm, unchanged⟩ := plainOp_quiet permitted store answer
    exact ⟨extended.step _ calm, (flockHeld_kept _ unchanged).trans kernel⟩

theorem write_plain {version : ProtoVersion} {message : Message} {channel : Channel}
    (plain : plainOp (.writeFrame channel version message) = true) :
    Within plainOp (do ofExcept (← ask (.writeFrame channel version message)) : PrimM Unit) :=
  within_bind (within_call plain) fun written => within_ofExcept written

/-! ### The lock -/

private theorem pidfileOp_quiet {op : PrimOp} (pidfile : pidfileOp op = true) (store : PrimStore)
    (answer : PrimAns op) :
    quiet ⟨⟨store, op⟩, answer⟩ = true ∧ flockChange? ⟨⟨store, op⟩, answer⟩ = none := by
  cases op <;> first | contradiction | exact ⟨rfl, rfl⟩

def Acquiring (holding : Bool) (past : PrimPast) (store : PrimStore) (now : PrimPast)
    (call : Call PrimStore PrimOp) : Prop :=
  call.store = store ∧ acquireOp call.op = true ∧ Extends past now ∧
    (call.op = .flock → flockHeld holding now = false)

private theorem writePidAtomic_acquiring (pid : UInt32) (extended : Extends past later)
    (locked : flockHeld holding later = true) :
    Meets (Acquiring holding past store) (fun _ now last =>
      now = store ∧ Extends past last ∧ flockHeld holding last = true)
      (writePidAtomic pid) store later := by
  apply (writePidAtomic_pidfile pid).meets (fun last => Extends past last ∧
    flockHeld holding last = true) ⟨extended, locked⟩
  · rintro now op ⟨further, _⟩ permitted
    cases op <;> first
      | contradiction
      | exact ⟨rfl, rfl, further, fun other => by contradiction⟩
  · rintro now op answer ⟨further, kernel⟩ permitted
    obtain ⟨calm, unchanged⟩ := pidfileOp_quiet permitted store answer
    exact ⟨further.step _ calm, (flockHeld_kept _ unchanged).trans kernel⟩

/-- Taking the lock changes the kernel lock alone, and only by succeeding. -/
theorem acquire_spec (host : Host) (store : PrimStore)
    (released : flockHeld holding past = false) :
    Meets (Acquiring holding past store) (fun outcome now later =>
      now = store ∧ Extends past later ∧ flockHeld holding later = outcome.isOk)
      (DataDirLock.acquire host) store past := by
  unfold DataDirLock.acquire
  refine Meets.callBind ⟨rfl, rfl, Extends.refl past, fun _ => released⟩ fun created => ?_
  have afterCreate := (Extends.refl past).step ⟨⟨store, .createDataDir⟩, created⟩ rfl
  have createKept := (flockHeld_kept ⟨⟨store, .createDataDir⟩, created⟩ rfl).trans released
  refine Meets.ofExceptBind (fun _ _ => ?_) (fun _ _ => ⟨rfl, afterCreate, createKept⟩)
  refine Meets.callBind ⟨rfl, rfl, afterCreate, fun _ => createKept⟩ fun opened => ?_
  have afterOpen := afterCreate.step ⟨⟨store, .openLockFile⟩, opened⟩ rfl
  have openKept := (flockHeld_kept ⟨⟨store, .openLockFile⟩, opened⟩ rfl).trans createKept
  refine Meets.ofExceptBind (fun _ _ => ?_) (fun _ _ => ⟨rfl, afterOpen, openKept⟩)
  refine Meets.callBind ⟨rfl, rfl, afterOpen, fun _ => openKept⟩ fun answer => ?_
  have afterFlock := afterOpen.step ⟨⟨store, .flock⟩, answer⟩ rfl
  cases answer with
  | wouldBlock =>
      have kept := (flockHeld_kept ⟨⟨store, .flock⟩, .wouldBlock⟩ rfl).trans openKept
      refine Meets.callBind ⟨rfl, rfl, afterFlock, fun _ => kept⟩ fun holder => ?_
      exact ⟨rfl, afterFlock.step _ rfl, (flockHeld_kept _ rfl).trans kept⟩
  | failed errno text => exact ⟨rfl, afterFlock, (flockHeld_kept _ rfl).trans openKept⟩
  | locked =>
      have locked := flockHeld_append holding
        (past ++ [⟨⟨store, .createDataDir⟩, created⟩] ++ [⟨⟨store, .openLockFile⟩, opened⟩])
        ⟨⟨store, .flock⟩, .locked⟩
      refine Meets.attemptBind (writePidAtomic_acquiring host.pid afterFlock locked) ?_
      rintro outcome now later ⟨rfl, written, kernel⟩
      cases outcome with
      | ok _ => exact ⟨rfl, written, kernel⟩
      | error cause =>
          refine Meets.callBind ⟨rfl, rfl, written, fun other => by contradiction⟩ fun _ =>
            ⟨rfl, written.step _ rfl, ?_⟩
          rw [flockHeld_append]
          rfl

theorem acquire_meets (host : Host) (free : store.lock = none) (stands : Stands holding past store)
    (released : flockHeld holding past = false) :
    Meets (Duty holding) (fun outcome now later =>
      now = store ∧ Extends past later ∧ flockHeld holding later = outcome.isOk)
      (DataDirLock.acquire host) store past := by
  refine Program.Keeps.mono (acquire_spec host store released) ?_ (fun _ _ held => held)
  rintro now ⟨other, op⟩ ⟨same, acquiring, extended, unlocked⟩
  change other = store at same
  subst same
  refine ⟨⟨extended.guarded stands.guarded, ?_⟩, ?_⟩
  · intro held
    rw [free] at held
    contradiction
  · cases op <;> first | contradiction | trivial | exact free | exact ⟨free, unlocked rfl⟩

end Handoff
