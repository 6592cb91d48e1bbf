/-
A successor against its contract.

Before it serves, a successor runs no hook and touches no session; it is in its
prelude.  Between `Ready` and the first accepted connection it keeps the flock
and does not return, unless the socket could not be bound.  From `accept` on it
is an incumbent like any other.
-/

import Handoff.Primitive.Successor
import Handoff.Primitive.ServeDuty

namespace Handoff

open Effects PrimM
open Effects.Code hiding pure bind

variable {past later : PrimPast} {store : PrimStore} {op : PrimOp} {event : PrimEvent} {host : Host}

/-! ### Milestones -/

def readyWritten : PrimEvent → Bool
  | ⟨⟨_, .writeFrame .control _ (.ready ..)⟩, .ok _⟩ => true
  | _ => false

def bindFailed : PrimEvent → Bool
  | ⟨⟨_, .createSocketDir⟩, .error _⟩ | ⟨⟨_, .bindStaging⟩, .error _⟩
  | ⟨⟨_, .chmodStaging⟩, .error _⟩ | ⟨⟨_, .renameStaging⟩, .error _⟩
  | ⟨⟨_, .setCloexec⟩, .error _⟩ => true
  | _ => false

def renames : PrimEvent → Bool
  | ⟨⟨_, .renameStaging⟩, .ok _⟩ => true
  | _ => false

def bound : PrimEvent → Bool
  | ⟨⟨_, .setCloexec⟩, .ok _⟩ => true
  | _ => false

/-- The listener delivered a connection, or failed for good. -/
def engaged : PrimEvent → Bool
  | ⟨⟨_, .accept⟩, .ok _⟩ => true
  | event => fatalAccept event

/-- Both names of the control socket are short enough for the kernel. -/
def Host.fits (host : Host) : Prop :=
  host.socketPath.utf8ByteSize ≤ host.maxSocketPathLen ∧
    host.stagingPath.utf8ByteSize ≤ host.maxSocketPathLen

def preludeOp : PrimOp → Bool
  | .accept | .sleep _ | .peerUid | .configureControlStream | .setReadTimeout _ | .pollRead _
  | .writeFrame .session _ _ | .close .session | .now | .nowUnixMs | .tryClone | .drain _ | .seal
  | .resumeAfterAbort => false
  | _ => true

def Prelude (past : PrimPast) : Prop := past.all (fun event => preludeOp event.op.op) = true

/-- An operation that neither gives up the flock nor closes the listener. -/
def keepsPost : PrimOp → Bool
  | .releaseFlock | .closeLockFile | .closeListener => false
  | _ => true

/-! ### The contract -/

structure SuccDuty (host : Host) (past : PrimPast) (call : Call PrimStore PrimOp) : Prop where
  lawful : Prelude past ∧ preludeOp call.op = true ∨ Duty false past call
  binds : call.op = .renameStaging → flockHeld false past = true
  published : call.op = .setCloexec → past.getLast?.any renames = true
  installed : past.any bound = true →
    past.any engaged = true ∨ flockHeld false past = true ∧ keepsPost call.op = true
  announced : past.any readyWritten = true →
    past.any bound = true ∨ past.any bindFailed = true ∨ ¬host.fits ∨
      flockHeld false past = true ∧ keepsPost call.op = true

structure SuccEnd (host : Host) (past : PrimPast) (store : PrimStore) : Prop where
  released : flockHeld false past = false
  guarded : Prelude past ∨ Guarded past store ∧ store.lock = none
  installed : past.any bound = true → past.any engaged = true
  announced : past.any readyWritten = true →
    past.any bound = true ∨ past.any bindFailed = true ∨ ¬host.fits

/-! ### Serving without a connection -/

/-- Until its listener delivers something, `serve` only waits. -/
def waits : PrimOp → Bool
  | .accept | .sleep _ | .outOfFuel => true
  | _ => false

private theorem engaged_meets {Value : Type} (code : PrimM Value)
    (found : past.any engaged = true) :
    Meets (fun now call => now.any engaged = true ∨ waits call.op = true)
      (fun _ _ later => later.any engaged = true) code store past :=
  Program.Keeps.mono (any_lasts engaged code found) (fun _ _ held => Or.inl held)
    (fun _ _ held => held)

private theorem serveLoop_engaged (host : Host) (fuel : Nat) (backoff : Duration)
    (store : PrimStore) (past : PrimPast) :
    Meets (fun now call => now.any engaged = true ∨ waits call.op = true)
      (fun _ _ later => later.any engaged = true) (serveLoop host fuel backoff) store past := by
  induction fuel generalizing past backoff with
  | zero =>
      refine ⟨Or.inr rfl, ?_⟩
      intro answer
      exact answer.elim
  | succ fuel ih =>
      unfold serveLoop
      refine Meets.callBind (Or.inr rfl) fun answer => ?_
      cases answer with
      | ok _ =>
          apply engaged_meets
          rw [List.any_append, Bool.or_eq_true]
          exact Or.inr rfl
      | error cause =>
          cases verdict : classifyAcceptError cause with
          | retry =>
              simp only [verdict]
              exact ih _ _
          | exhausted =>
              simp only [verdict]
              exact Meets.callBind (Or.inr rfl) fun _ => ih _ _
          | fatal =>
              simp only [verdict]
              change (past ++ [_]).any engaged = true
              rw [List.any_append, Bool.or_eq_true]
              right
              simp [engaged, fatalAccept, verdict]

private theorem serve_engaged (host : Host) (fuel : Nat) (store : PrimStore) (past : PrimPast) :
    Meets (fun now call => now.any engaged = true ∨ waits call.op = true)
      (fun _ _ later => later.any engaged = true) (serve host fuel) store past := by
  unfold serve
  rw [meets_ensuring]
  apply (serveLoop_engaged host fuel acceptBackoffMin store past).mono
  intro outcome now later found
  exact engaged_meets _ found

/-! ### Up to `Begin` and the lock -/

def approachOp : PrimOp → Bool
  | .renameStaging | .setCloexec | .writeFrame .control _ (.ready ..) => false
  | op => preludeOp op

def Approach (past : PrimPast) : Prop := past.all (fun event => approachOp event.op.op) = true

private theorem approachOp_prelude (approach : approachOp op = true) : preludeOp op = true := by
  unfold approachOp at approach
  split at approach
  · contradiction
  · contradiction
  · contradiction
  · exact approach

theorem Approach.append (approach : Approach past) (next : approachOp event.op.op = true) :
    Approach (past ++ [event]) := by
  unfold Approach at approach ⊢
  rw [List.all_append, approach, List.all_cons, next]
  rfl

theorem Prelude.append (prelude : Prelude past) (next : preludeOp event.op.op = true) :
    Prelude (past ++ [event]) := by
  unfold Prelude at prelude ⊢
  rw [List.all_append, prelude, List.all_cons, next]
  rfl

theorem Approach.prelude (approach : Approach past) : Prelude past := by
  unfold Approach at approach
  unfold Prelude
  rw [List.all_eq_true] at approach ⊢
  intro event member
  exact approachOp_prelude (approach event member)

private theorem Approach.any_false (approach : Approach past) {kind : PrimEvent → Bool}
    (never : ∀ event, kind event = true → approachOp event.op.op = false) :
    past.any kind = false := by
  rw [List.any_eq_false]
  intro event member found
  have fits := List.all_eq_true.mp approach event member
  rw [never event found] at fits
  contradiction

theorem Approach.unbound (approach : Approach past) : past.any bound = false := by
  apply approach.any_false
  intro event found
  unfold bound at found
  split at found
  · rfl
  · contradiction

theorem Approach.unannounced (approach : Approach past) : past.any readyWritten = false := by
  apply approach.any_false
  intro event found
  unfold readyWritten at found
  split at found
  · rfl
  · contradiction

theorem Approach.duty (approach : Approach past) (next : approachOp op = true) :
    SuccDuty host past ⟨store, op⟩ where
  lawful := Or.inl ⟨approach.prelude, approachOp_prelude next⟩
  binds := by
    intro same
    change op = .renameStaging at same
    rw [same] at next
    contradiction
  published := by
    intro same
    change op = .setCloexec at same
    rw [same] at next
    contradiction
  installed := by
    rw [approach.unbound]
    intro impossible
    contradiction
  announced := by
    rw [approach.unannounced]
    intro impossible
    contradiction

/-- The operations on the inherited stream that announce nothing. -/
def talkOp : PrimOp → Bool
  | .readMessage | .close .control | .writeFrame .control _ (.hello ..) | .outOfFuel => true
  | _ => false

theorem talkOp_approach (talk : talkOp op = true) : approachOp op = true := by
  unfold talkOp at talk
  split at talk <;> first | rfl | contradiction

theorem talkOp_flock (talk : talkOp op = true) (store : PrimStore) (answer : PrimAns op) :
    flockChange? ⟨⟨store, op⟩, answer⟩ = none := by
  unfold talkOp at talk
  split at talk <;> first | rfl | contradiction

theorem waitForBegin_talk (expected : HandoffId) (fuel : Nat) :
    Within talkOp (waitForBegin expected fuel) := by
  induction fuel with
  | zero =>
      intro store past
      exact ⟨⟨rfl, rfl⟩, fun answer => answer.elim⟩
  | succ fuel ih =>
      unfold waitForBegin
      refine within_bind (within_call rfl) fun read => within_bind (within_ofExcept read) ?_
      rintro ⟨version, message⟩
      split
      · exact within_ite (within_pure _) (within_fail _)
      · exact within_fail _
      · exact ih
      · exact within_fail _

theorem successorHandshake_talk (host : Host) : Within talkOp (successorHandshake host) := by
  unfold successorHandshake successorHandshakeOf
  refine within_bind (within_call rfl) fun written => within_bind (within_ofExcept written) ?_
  intro _
  refine within_bind (within_call rfl) fun read => within_bind (within_ofExcept read) ?_
  rintro ⟨version, message⟩
  split
  · exact within_pure _
  · exact within_fail _

theorem Approach.talk {Value : Type} {code : PrimM Value} (approach : Approach past)
    (talk : Within talkOp code) :
    Meets (SuccDuty host) (fun _ now later => now = store ∧ Approach later ∧
      flockHeld false later = flockHeld false past) code store past := by
  apply talk.meets (fun later => Approach later ∧ flockHeld false later = flockHeld false past)
    ⟨approach, rfl⟩
  · rintro now op ⟨approaching, _⟩ permitted
    exact approaching.duty (talkOp_approach permitted)
  · rintro now op answer ⟨approaching, kernel⟩ permitted
    exact ⟨approaching.append (talkOp_approach permitted),
      (flockHeld_kept _ (talkOp_flock permitted store answer)).trans kernel⟩

theorem acquireOp_approach (acquiring : acquireOp op = true) : approachOp op = true := by
  cases op <;> first | contradiction | rfl

theorem Approach.acquire (approach : Approach past) (released : flockHeld false past = false) :
    Meets (SuccDuty host) (fun outcome now later => now = store ∧ Approach later ∧
      flockHeld false later = outcome.isOk) (DataDirLock.acquire host) store past := by
  have kept := Program.Keeps.invariant (acquire_spec host store released) Approach approach
    fun now call answer approaching asked => approaching.append (acquireOp_approach asked.2.1)
  refine kept.mono ?_ ?_
  · rintro now call ⟨approaching, _, acquiring, _⟩
    exact approaching.duty (acquireOp_approach acquiring)
  · rintro result now ⟨approaching, same, _, kernel⟩
    exact ⟨same, approaching, kernel⟩

private theorem begunWithLock_meets (host : Host) (fuel : Nat) (approach : Approach past)
    (released : flockHeld false past = false) :
    Meets (SuccDuty host) (fun outcome now later => now = store ∧ Approach later ∧
      flockHeld false later = outcome.isOk) (begunWithLock host fuel) store past := by
  unfold begunWithLock
  have inner : Meets (SuccDuty host) (fun outcome now later => now = store ∧ Approach later ∧
      flockHeld false later = outcome.isOk) (do
        let negotiated ← successorHandshake host
        waitForBegin negotiated.handoffId fuel
        let lock ← DataDirLock.acquire host
        Pure.pure (negotiated, lock)) store past := by
    refine Meets.bind (approach.talk (successorHandshake_talk host)) ?_ ?_
    · rintro negotiated now greeted ⟨rfl, approach, kept⟩
      refine Meets.bind (approach.talk (waitForBegin_talk _ fuel)) ?_ ?_
      · rintro _ now begun ⟨rfl, approach, still⟩
        refine Meets.bind (approach.acquire ((still.trans kept).trans released)) ?_
          (fun _ _ _ failed => failed)
        rintro lock now later ⟨rfl, approach, locked⟩
        exact ⟨rfl, approach, locked⟩
      · rintro cause now later ⟨rfl, approach, still⟩
        exact ⟨rfl, approach, (still.trans kept).trans released⟩
    · rintro cause now later ⟨rfl, approach, kept⟩
      exact ⟨rfl, approach, kept.trans released⟩
  refine Meets.attemptBind inner ?_
  rintro outcome now later ⟨rfl, approach, kernel⟩
  cases outcome with
  | ok begun => exact ⟨rfl, approach, kernel⟩
  | error cause =>
      refine Meets.callBind (approach.duty rfl) fun _ => ⟨rfl, approach.append rfl, ?_⟩
      exact (flockHeld_kept _ rfl).trans kernel

/-! ### From `Ready` to serving -/

structure Posted (past : PrimPast) : Prop where
  prelude : Prelude past
  locked : flockHeld false past = true
  unbound : past.any bound = false

theorem Posted.append (posted : Posted past) (next : preludeOp event.op.op = true)
    (kept : flockChange? event = none) (other : bound event = false) :
    Posted (past ++ [event]) where
  prelude := posted.prelude.append next
  locked := (flockHeld_kept event kept).trans posted.locked
  unbound := by
    rw [List.any_append, posted.unbound, List.any_cons, other]
    rfl

theorem Posted.duty (posted : Posted past) (next : preludeOp op = true)
    (keeps : keepsPost op = true)
    (published : op = .setCloexec → past.getLast?.any renames = true) :
    SuccDuty host past ⟨store, op⟩ where
  lawful := Or.inl ⟨posted.prelude, next⟩
  binds := fun _ => posted.locked
  published := published
  installed := fun _ => Or.inr ⟨posted.locked, keeps⟩
  announced := fun _ => Or.inr (Or.inr (Or.inr ⟨posted.locked, keeps⟩))

/-- The socket could not be bound, or nothing was announced. -/
structure Withdrawn (host : Host) (past : PrimPast) : Prop where
  prelude : Prelude past
  unbound : past.any bound = false
  excused : past.any readyWritten = true → past.any bindFailed = true ∨ ¬host.fits

private theorem Approach.withdrawn (approach : Approach past) : Withdrawn host past := by
  refine ⟨approach.prelude, approach.unbound, ?_⟩
  rw [approach.unannounced]
  intro impossible
  contradiction

theorem Withdrawn.append (withdrawn : Withdrawn host past) (next : preludeOp event.op.op = true)
    (other : bound event = false) (silent : readyWritten event = false) :
    Withdrawn host (past ++ [event]) where
  prelude := withdrawn.prelude.append next
  unbound := by
    rw [List.any_append, withdrawn.unbound, List.any_cons, other]
    rfl
  excused := by
    rw [List.any_append, List.any_cons, silent, List.any_nil, Bool.or_false, Bool.or_false]
    intro announced
    rcases withdrawn.excused announced with failed | long
    · exact Or.inl (any_append_of_any failed event)
    · exact Or.inr long

theorem Withdrawn.duty (withdrawn : Withdrawn host past) (next : preludeOp op = true)
    (other : op ≠ .renameStaging ∧ op ≠ .setCloexec) : SuccDuty host past ⟨store, op⟩ where
  lawful := Or.inl ⟨withdrawn.prelude, next⟩
  binds := fun same => absurd same other.1
  published := fun same => absurd same other.2
  installed := by
    rw [withdrawn.unbound]
    intro impossible
    contradiction
  announced := fun announced => Or.inr ((withdrawn.excused announced).imp_right Or.inl)

theorem Withdrawn.drop (withdrawn : Withdrawn host past) (lock : DataDirLock) :
    Meets (SuccDuty host) (fun outcome now later => outcome = .ok () ∧ now = store ∧
      Withdrawn host later ∧ flockHeld false later = false) lock.drop store past := by
  unfold DataDirLock.drop
  refine Meets.callBind (withdrawn.duty rfl (by simp)) fun removal => ?_
  have removed : Withdrawn host (past ++ [⟨⟨store, .removePidfile⟩, removal⟩]) :=
    withdrawn.append rfl rfl rfl
  refine ⟨removed.duty rfl (by simp), fun release => ⟨rfl, rfl, removed.append rfl rfl rfl, ?_⟩⟩
  rw [flockHeld_append]
  rfl

theorem Posted.failed (posted : Posted past) (next : preludeOp event.op.op = true)
    (fails : bindFailed event = true) (other : bound event = false) :
    Withdrawn host (past ++ [event]) where
  prelude := posted.prelude.append next
  unbound := by
    rw [List.any_append, posted.unbound, List.any_cons, other]
    rfl
  excused := by
    intro _
    left
    rw [List.any_append, List.any_cons, fails, Bool.true_or, Bool.or_true]

theorem Posted.unfit (posted : Posted past) (long : ¬host.fits) : Withdrawn host past :=
  ⟨posted.prelude, posted.unbound, fun _ => Or.inr long⟩

/-- What `bind_socket` leaves: a bound listener, or a reason why there is none. -/
def Binding (host : Host) (outcome : Except Error Unit) (past : PrimPast) : Prop :=
  match outcome with
  | .ok _ => Prelude past ∧ flockHeld false past = true ∧ past.any bound = true
  | .error _ => Withdrawn host past

theorem validateSocketPath_bind {path : String} {next : Unit → PrimM Unit}
    {post : Except Error Unit → PrimStore → PrimPast → Prop}
    (fits : path.utf8ByteSize ≤ host.maxSocketPathLen →
      Meets (SuccDuty host) post (next ()) store past)
    (long : ∀ cause, ¬path.utf8ByteSize ≤ host.maxSocketPathLen → post (.error cause) store past) :
    Meets (SuccDuty host) post (validateSocketPath host path >>= next) store past := by
  unfold validateSocketPath
  split
  · next exceeds => exact long _ (Nat.not_le.mpr exceeds)
  · next within => exact fits (Nat.not_lt.mp within)

theorem Withdrawn.close (withdrawn : Withdrawn host past) (cause : Error) :
    Meets (SuccDuty host) (fun outcome now later => now = store ∧ Binding host outcome later)
      (do ask .closeListener; ask .removeStaging; fail cause : PrimM Unit) store past := by
  refine Meets.callBind (withdrawn.duty rfl (by simp)) fun closing => ?_
  have closed : Withdrawn host (past ++ [⟨⟨store, .closeListener⟩, closing⟩]) :=
    withdrawn.append rfl rfl rfl
  refine Meets.callBind (closed.duty rfl (by simp)) fun removal => ⟨rfl, ?_⟩
  exact closed.append rfl rfl rfl

def Advanced (host : Host) (store : PrimStore) (outcome : Except Error Unit) (now : PrimStore)
    (past : PrimPast) : Prop :=
  now = store ∧
    match outcome with
    | .ok _ => Posted past
    | .error _ => Withdrawn host past

private theorem createSocketDir_meets (host : Host) (posted : Posted past) :
    Meets (SuccDuty host) (Advanced host store) (createSocketDir host) store past := by
  unfold createSocketDir
  cases host.socketDir with
  | none => exact ⟨rfl, posted⟩
  | some directory =>
      refine Meets.callBind (posted.duty rfl rfl nofun) fun created => ?_
      cases created with
      | error cause => exact ⟨rfl, posted.failed rfl rfl rfl⟩
      | ok _ => exact ⟨rfl, posted.append rfl rfl rfl⟩

private theorem publishStaging_meets (host : Host) (posted : Posted past) :
    Meets (SuccDuty host) (fun outcome now later => Advanced host store outcome now later ∧
      (outcome = .ok () → later.getLast?.any renames = true)) publishStaging store past := by
  unfold publishStaging
  refine Meets.callBind (posted.duty rfl rfl nofun) fun moded => ?_
  cases moded with
  | error cause => exact ⟨⟨rfl, posted.failed rfl rfl rfl⟩, nofun⟩
  | ok _ =>
      have posted : Posted (past ++ [⟨⟨store, .chmodStaging⟩, .ok ()⟩]) :=
        posted.append rfl rfl rfl
      refine Meets.callBind (posted.duty rfl rfl nofun) fun renamed => ?_
      cases renamed with
      | error cause => exact ⟨⟨rfl, posted.failed rfl rfl rfl⟩, nofun⟩
      | ok _ =>
          refine ⟨⟨rfl, posted.append rfl rfl rfl⟩, fun _ => ?_⟩
          rw [List.getLast?_append]
          rfl

private theorem setCloexec_meets (host : Host) (posted : Posted past)
    (published : past.getLast?.any renames = true) :
    Meets (SuccDuty host) (fun outcome now later => now = store ∧ Binding host outcome later) (do
      match ← ask .setCloexec with
      | Except.error cause =>
          ask .closeListener
          fail (.io cause)
      | Except.ok () => Pure.pure ()) store past := by
  refine Meets.callBind (posted.duty rfl rfl fun _ => published) fun closing => ?_
  cases closing with
  | error cause =>
      have withdrawn : Withdrawn host (past ++ [⟨⟨store, .setCloexec⟩, .error cause⟩]) :=
        posted.failed rfl rfl rfl
      refine Meets.callBind (withdrawn.duty rfl (by simp)) fun closed => ⟨rfl, ?_⟩
      exact withdrawn.append rfl rfl rfl
  | ok _ =>
      refine ⟨rfl, posted.prelude.append rfl, (flockHeld_kept _ rfl).trans posted.locked, ?_⟩
      rw [List.any_append, Bool.or_eq_true]
      exact Or.inr rfl

private theorem bindSocket_meets (host : Host) (posted : Posted past) :
    Meets (SuccDuty host) (fun outcome now later => now = store ∧ Binding host outcome later)
      (bindSocket host) store past := by
  unfold bindSocket
  apply validateSocketPath_bind
  · intro fits
    refine Meets.bind (createSocketDir_meets host posted) ?_ ?_
    · rintro _ now later ⟨rfl, posted⟩
      apply validateSocketPath_bind
      · intro stagingFits
        refine Meets.callBind (posted.duty rfl rfl nofun) fun removed => ?_
        have posted : Posted (later ++ [⟨⟨now, .removeStaging⟩, removed⟩]) :=
          posted.append rfl rfl rfl
        refine Meets.callBind (posted.duty rfl rfl nofun) fun listening => ?_
        cases listening with
        | error cause => exact ⟨rfl, posted.failed rfl rfl rfl⟩
        | ok _ =>
            have posted : Posted (later ++ [⟨⟨now, .removeStaging⟩, removed⟩] ++
                [⟨⟨now, .bindStaging⟩, .ok ()⟩]) := posted.append rfl rfl rfl
            refine Meets.attemptBind (publishStaging_meets host posted) ?_
            rintro outcome now later ⟨⟨rfl, advanced⟩, published⟩
            cases outcome with
            | error cause => exact advanced.close cause
            | ok _ => exact setCloexec_meets host advanced (published rfl)
      · intro cause long
        exact ⟨rfl, posted.unfit fun both => long both.2⟩
    · rintro cause now later ⟨rfl, withdrawn⟩
      exact ⟨rfl, withdrawn⟩
  · intro cause long
    exact ⟨rfl, posted.unfit fun both => long both.1⟩

/-- Either an `Incumbent` with its lock, or nothing. -/
def Seated (host : Host) (outcome : Except Error Unit) (store : PrimStore) (past : PrimPast) :
    Prop :=
  match outcome with
  | .ok _ => store.lock.isSome = true ∧ Prelude past ∧ flockHeld false past = true ∧
      past.any bound = true
  | .error _ => Withdrawn host past ∧ flockHeld false past = false

private theorem dropAndFail_meets (withdrawn : Withdrawn host past) (lock : DataDirLock)
    (cause : Error) :
    Meets (SuccDuty host) (Seated host) (do lock.drop; fail cause) store past := by
  refine Meets.bind (withdrawn.drop lock) ?_ ?_
  · rintro _ now later ⟨_, _, gone⟩
    exact gone
  · rintro failure now later ⟨impossible, _⟩
    contradiction

private theorem bindReplacing_meets (host : Host) (lock : DataDirLock) (posted : Posted past) :
    Meets (SuccDuty host) (Seated host) (bindReplacing host lock) store past := by
  unfold bindReplacing
  refine Meets.attemptBind (bindSocket_meets host posted) ?_
  rintro outcome now later ⟨rfl, binding⟩
  cases outcome with
  | error cause => exact dropAndFail_meets binding lock cause
  | ok _ => exact ⟨rfl, binding⟩

private theorem announceReady_meets (host : Host) (negotiated : Negotiated)
    (snapshot : ReadinessSnapshot) (approach : Approach past)
    (locked : flockHeld false past = true) :
    Meets (SuccDuty host) (Advanced host store) (announceReady negotiated snapshot) store past := by
  have withdrawn : Withdrawn host past := approach.withdrawn
  have posted : Posted past := ⟨approach.prelude, locked, approach.unbound⟩
  unfold announceReady
  rw [meets_ensuring]
  refine Meets.callBind (withdrawn.duty rfl (by simp)) fun written => ?_
  cases written with
  | error cause =>
      have failed : Withdrawn host (past ++ [⟨⟨store, .writeFrame .control
          negotiated.protoVersion (.ready negotiated.handoffId snapshot.listeningOn
          snapshot.healthzOk snapshot.advertisedRevisionPerShard)⟩, .error cause⟩]) :=
        withdrawn.append rfl rfl rfl
      exact ⟨failed.duty rfl (by simp), fun _ => ⟨rfl, failed.append rfl rfl rfl⟩⟩
  | ok _ =>
      have sent : Posted (past ++ [⟨⟨store, .writeFrame .control
          negotiated.protoVersion (.ready negotiated.handoffId snapshot.listeningOn
          snapshot.healthzOk snapshot.advertisedRevisionPerShard)⟩, .ok ()⟩]) :=
        posted.append rfl rfl rfl
      exact ⟨sent.duty rfl rfl nofun, fun _ => ⟨rfl, sent.append rfl rfl rfl⟩⟩

private theorem announceAndBind_meets (host : Host) (negotiated : Negotiated)
    (snapshot : ReadinessSnapshot) (lock : DataDirLock) (approach : Approach past)
    (locked : flockHeld false past = true) :
    Meets (SuccDuty host) (Seated host) (announceAndBind host negotiated snapshot lock)
      store past := by
  unfold announceAndBind
  refine Meets.attemptBind (announceReady_meets host negotiated snapshot approach locked) ?_
  rintro outcome now later ⟨rfl, advanced⟩
  cases outcome with
  | error cause => exact dropAndFail_meets advanced lock cause
  | ok _ => exact bindReplacing_meets host lock advanced

/-! ### The whole run -/

theorem Prelude.lastHook (prelude : Prelude past) : lastHook past = none := by
  have none : past.filterMap hook? = [] := by
    rw [List.filterMap_eq_nil_iff]
    intro event member
    have early := List.all_eq_true.mp prelude event member
    cases found : hook? event with
    | none => rfl
    | some hook =>
        unfold hook? at found
        split at found <;> contradiction
  unfold Handoff.lastHook
  rw [none]
  rfl

theorem Withdrawn.ended (withdrawn : Withdrawn host past)
    (released : flockHeld false past = false) : SuccEnd host past store where
  released := released
  guarded := Or.inl withdrawn.prelude
  installed := by
    rw [withdrawn.unbound]
    intro impossible
    contradiction
  announced := fun announced => Or.inr (withdrawn.excused announced)

private theorem waits_kept (waiting : waits op = true) (store : PrimStore) (answer : PrimAns op) :
    keepsPost op = true ∧ flockChange? ⟨⟨store, op⟩, answer⟩ = none := by
  cases op <;> first | contradiction | exact ⟨rfl, rfl⟩

private theorem serve_seated (host : Host) (fuel : Nat) (lock : store.lock.isSome = true)
    (prelude : Prelude past) (locked : flockHeld false past = true)
    (installed : past.any bound = true) :
    Meets (SuccDuty host) (fun _ now later => SuccEnd host later now) (serve host fuel)
      store past := by
  have accepting : Accepting false past store :=
    ⟨lock.trans locked.symm, lock, Or.inl (Or.inl prelude.lastHook)⟩
  have both := Program.Keeps.and (serve_meets host fuel accepting) (serve_engaged host fuel store past)
  have kept := Program.Keeps.invariant both (fun now => now.any bound = true ∧
    (now.any engaged = true ∨ flockHeld false now = true)) ⟨installed, Or.inr locked⟩ (by
      rintro now ⟨store, op⟩ answer ⟨bound, post⟩ ⟨_, waiting⟩
      refine ⟨any_append_of_any bound _, ?_⟩
      rcases waiting with engaged | waiting
      · exact Or.inl (any_append_of_any engaged _)
      · rcases post with engaged | locked
        · exact Or.inl (any_append_of_any engaged _)
        · exact Or.inr ((flockHeld_kept _ (waits_kept waiting store answer).2).trans locked))
  refine kept.mono ?_ ?_
  · rintro now ⟨store, op⟩ ⟨⟨bound, post⟩, duty, waiting⟩
    refine ⟨Or.inr duty, ?_, ?_, ?_, fun _ => Or.inl bound⟩
    · intro renames
      change op = .renameStaging at renames
      subst renames
      exact duty.2.elim
    · intro closes
      change op = .setCloexec at closes
      subst closes
      exact duty.2.elim
    · intro _
      rcases waiting with engaged | waiting
      · exact Or.inl engaged
      · rcases post with engaged | locked
        · exact Or.inl engaged
        · refine Or.inr ⟨locked, ?_⟩
          change keepsPost op = true
          cases op <;> first | contradiction | rfl
  · rintro ⟨outcome, last⟩ now ⟨⟨bound, _⟩, ⟨free, guarded, released⟩, engaged⟩
    exact ⟨released, Or.inr ⟨guarded, free⟩, fun _ => engaged, fun _ => Or.inl bound⟩

theorem runSuccessor_meets (host : Host) (snapshot : ReadinessSnapshot) (fuel : Nat) :
    Meets (SuccDuty host) (fun _ now later => SuccEnd host later now)
      (runSuccessor host snapshot fuel) {} [] := by
  have start : Approach [] := rfl
  unfold runSuccessor
  refine Meets.bind (begunWithLock_meets host fuel start rfl) ?_ ?_
  · rintro ⟨negotiated, lock⟩ now later ⟨rfl, approach, locked⟩
    refine Meets.bind (announceAndBind_meets host negotiated snapshot lock approach locked) ?_ ?_
    · rintro _ now later ⟨present, prelude, locked, installed⟩
      exact serve_seated host fuel present prelude locked installed
    · rintro cause now later ⟨withdrawn, released⟩
      exact withdrawn.ended released
  · rintro cause now later ⟨rfl, approach, released⟩
    exact approach.withdrawn.ended released

end Handoff
