/-
What the functions of a primitive can issue.

Each function is walked through here once, over any operations that are
permitted and any property of the store that its updates keep.
-/

import Handoff.Primitive.Successor

namespace Handoff

open Effects PrimM
open Effects.Code hiding pure bind

variable {Value : Type} {steady : PrimStore → Prop} {allowed : PrimOp → Bool}

/-! ### The lock -/

def pidfileOp : PrimOp → Bool
  | .openPidTemp | .writePidTemp _ | .syncPidTemp | .renamePidTemp | .removePidTemp
  | .syncDataDir => true
  | _ => false

/-- The operations of `DataDirLock::acquire`. -/
def acquireOp : PrimOp → Bool
  | .createDataDir | .openLockFile | .flock | .readPidfile | .closeLockFile => true
  | op => pidfileOp op

theorem writePidAtomic_pidfile (pid : UInt32) : Within pidfileOp (writePidAtomic pid) := by
  unfold writePidAtomic
  refine within_tried rfl fun _ => within_tried rfl fun _ => within_tried rfl fun _ => ?_
  refine within_bind (within_call rfl) fun renamed => ?_
  cases renamed with
  | error cause => exact within_bind (within_call rfl) fun _ => within_fail _
  | ok _ => exact within_bind (within_call rfl) fun _ => within_ofExcept _

theorem acquire_within (host : Host) : Within acquireOp (DataDirLock.acquire host) := by
  unfold DataDirLock.acquire
  refine within_tried rfl fun _ => within_tried rfl fun _ => ?_
  refine within_bind (within_call rfl) fun taken => ?_
  cases taken with
  | wouldBlock => exact within_bind (within_call rfl) fun _ => within_fail _
  | failed errno text => exact within_fail _
  | locked =>
      have records : Within acquireOp (writePidAtomic host.pid) := by
        refine (writePidAtomic_pidfile host.pid).mono fun op pidfile => ?_
        cases op <;> first | contradiction | rfl
      refine within_bind (within_attempt records) fun written => ?_
      cases written with
      | ok _ => exact within_pure _
      | error cause => exact within_bind (within_call rfl) fun _ => within_fail _

theorem acquireRetryLoop_within (host : Host) (deadline : Instant) (fuel : Nat)
    (acquires : ∀ op, acquireOp op = true → allowed op = true) (looks : allowed .now = true)
    (rests : allowed (.sleep retryInterval) = true) (stalls : allowed .outOfFuel = true) :
    Within allowed (acquireRetryLoop host deadline fuel) := by
  induction fuel with
  | zero =>
      intro store past
      exact ⟨⟨rfl, stalls⟩, fun answer => answer.elim⟩
  | succ fuel ih =>
      refine within_bind (within_attempt ((acquire_within host).mono acquires)) fun taken => ?_
      cases taken with
      | ok lock => exact within_pure lock
      | error cause =>
          cases cause with
          | lockHeld holderPid =>
              refine within_bind (within_call looks) fun now => ?_
              exact within_ite (within_bind (within_call rests) fun _ => ih) (within_fail _)
          | _ => exact within_fail _

theorem drop_within (lock : DataDirLock) (removes : allowed .removePidfile = true)
    (releases : allowed .releaseFlock = true) : Within allowed lock.drop :=
  within_bind (within_call removes) fun _ => within_call releases

theorem takeLock_issues (removes : allowed .removePidfile = true)
    (releases : allowed .releaseFlock = true)
    (empties : ∀ store, steady store → steady { store with lock := none }) :
    Issues steady allowed takeLock := by
  unfold takeLock
  refine issues_loadBind fun store _ => issues_bind (issues_update empties) fun _ => ?_
  cases store.lock with
  | none => exact issues_pure ()
  | some lock => exact (drop_within lock removes releases).issues

/-! ### Sessions -/

theorem prepareSessionStream_within (host : Host) (asks : allowed .peerUid = true)
    (configures : allowed .configureControlStream = true) :
    Within allowed (prepareSessionStream host) := by
  refine within_tried asks fun uid => within_ite ?_ (within_fail _)
  exact within_bind (within_call configures) fun _ => within_ofExcept _

theorem incumbentHandshake_within (host : Host)
    (greets : allowed (.writeFrame .session protoMax
      (.hello .incumbent host.pid host.buildId protoMin protoMax {})) = true)
    (arms : allowed (.setReadTimeout incumbentHelloReadTimeout) = true)
    (polls : allowed (.pollRead true) = true) : Within allowed (incumbentHandshake host) := by
  unfold incumbentHandshake incumbentHandshakeOf
  refine within_tried greets fun _ => within_tried arms fun _ => ?_
  refine within_bind (within_call polls) fun polled => ?_
  split
  · exact within_ofExcept _
  · exact within_fail _
  · exact within_fail _
  · exact within_fail _

theorem runWithHeartbeats_issues {work : PrimM Value} (clones : allowed .tryClone = true)
    (sets : ∀ store beating, steady store → steady { store with heartbeats := beating })
    (works : Issues steady allowed work) : Issues steady allowed (runWithHeartbeats work) := by
  refine issues_callBind clones fun cloned => ?_
  cases cloned with
  | error cause => exact works
  | ok _ =>
      refine issues_bind (issues_update fun store => sets store true) fun _ => ?_
      exact issues_ensuringWith works fun _ => issues_update fun store => sets store false

theorem onCommit_within (handoffId : HandoffId) : Within allowed (onCommit handoffId) := by
  unfold onCommit
  refine within_loadBind fun store => ?_
  exact within_ite (within_fail _) (within_ite (within_fail _) (within_pure _))

theorem onHeartbeat_within (chosen : ProtoVersion) (stamps : allowed .nowUnixMs = true)
    (echoes : ∀ tsMs, allowed (.writeFrame .session chosen (.heartbeat tsMs)) = true) :
    Within allowed (onHeartbeat chosen) := by
  refine within_bind (within_call stamps) fun tsMs => ?_
  exact within_bind (within_call (echoes tsMs)) fun written => within_ofExcept written

theorem onRollback_issues (host : Host) (unknown : String) (handoffId : HandoffId)
    (acquires : ∀ op, acquireOp op = true → allowed op = true)
    (resumes : allowed .resumeAfterAbort = true)
    (locks : ∀ store lock, steady store → steady { store with lock := lock })
    (states : ∀ store state, steady store → steady { store with state := state }) :
    Issues steady allowed (onRollback host unknown handoffId) := by
  have unseals : Issues steady allowed (setSealed false) := issues_update fun store => states store _
  have undrains : Issues steady allowed (setDrained false) :=
    issues_update fun store => states store _
  have clears : Issues steady allowed (setActive none) := issues_update fun store => states store _
  unfold onRollback
  refine issues_loadBind fun store _ => issues_ite (issues_ofExcept _) ?_
  dsimp only
  apply issues_ite
  · refine issues_bind ((acquire_within host).mono acquires).issues fun lock => ?_
    refine issues_bind (issues_update fun store => locks store (some lock)) fun _ => ?_
    refine issues_tried resumes fun _ => ?_
    exact issues_bind unseals fun _ => issues_bind undrains fun _ => clears
  · apply issues_ite
    · exact issues_tried resumes fun _ => issues_bind undrains fun _ => clears
    · exact clears

theorem resumeDrained_within (outcome : Except Error SessionOutcome)
    (resumes : allowed .resumeAfterAbort = true) : Within allowed (resumeDrained outcome) := by
  unfold resumeDrained
  refine within_loadBind fun store => within_ite ?_ (within_pure ())
  exact within_bind (within_call resumes) fun _ => within_pure ()

/-! ### The control socket of a successor -/

/-- The operations of `bind_socket`. -/
def bindOp : PrimOp → Bool
  | .createSocketDir | .removeStaging | .bindStaging | .chmodStaging | .renameStaging
  | .setCloexec | .closeListener => true
  | _ => false

private theorem validateSocketPath_binds (host : Host) (path : String) :
    Within bindOp (validateSocketPath host path) :=
  within_ite (within_fail _) (within_pure _)

theorem bindSocket_binds (host : Host) : Within bindOp (bindSocket host) := by
  unfold bindSocket createSocketDir publishStaging
  refine within_bind (validateSocketPath_binds host _) fun _ => within_bind ?_ fun _ => ?_
  · cases host.socketDir with
    | none => exact within_pure _
    | some directory => exact within_bind (within_call rfl) fun created => within_ofExcept _
  refine within_bind (validateSocketPath_binds host _) fun _ => ?_
  refine within_bind (within_call rfl) fun _ => within_tried rfl fun _ => ?_
  refine within_bind (within_attempt ?_) fun published => ?_
  · exact within_tried rfl fun _ => within_bind (within_call rfl) fun renamed => within_ofExcept _
  · cases published with
    | error cause =>
        refine within_bind (within_call rfl) fun _ => ?_
        exact within_bind (within_call rfl) fun _ => within_fail _
    | ok _ =>
        refine within_bind (within_call rfl) fun flagged => ?_
        cases flagged with
        | error cause => exact within_bind (within_call rfl) fun _ => within_fail _
        | ok _ => exact within_pure _

theorem bindReplacing_issues (host : Host) (lock : DataDirLock)
    (binds : ∀ op, bindOp op = true → allowed op = true)
    (removes : allowed .removePidfile = true) (releases : allowed .releaseFlock = true)
    (keeps : ∀ store, steady store → steady { store with lock := some lock }) :
    Issues steady allowed (bindReplacing host lock) := by
  unfold bindReplacing
  refine issues_bind (issues_attempt ((bindSocket_binds host).mono binds).issues) fun bound => ?_
  cases bound with
  | ok _ => exact issues_update keeps
  | error cause =>
      exact issues_bind (drop_within lock removes releases).issues fun _ => issues_ofExcept _

end Handoff
