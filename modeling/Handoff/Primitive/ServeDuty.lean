/-
The serve loop against the contract of an incumbent.

`Accepting` is the invariant at every `accept`, `Recoverable` what any session
leaves behind.  `serve_meets` at the end is the contract for a whole run of
`Incumbent::serve`.
-/

import Handoff.Primitive.SessionDuty
import Handoff.Primitive.Leaving

namespace Handoff

open Effects PrimM
open Effects.Code hiding pure bind

variable {holding : Bool} {past later : PrimPast} {store : PrimStore}

structure Recoverable (holding : Bool) (past : PrimPast) (store : PrimStore) : Prop where
  agrees : store.lock.isSome = flockHeld holding past
  guarded : Guarded past store
  resumed : store.lock.isSome = true → Resumed past

structure Accepting (holding : Bool) (past : PrimPast) (store : PrimStore) : Prop where
  agrees : store.lock.isSome = flockHeld holding past
  held : store.lock.isSome = true
  resumed : Resumed past

namespace Recoverable

theorem stands (recoverable : Recoverable holding past store) : Stands holding past store := by
  refine ⟨recoverable.guarded, ?_⟩
  intro held
  rw [← recoverable.agrees]
  exact held

theorem extend (recoverable : Recoverable holding past store) (extended : Extends past later)
    (kernel : flockHeld holding later = flockHeld holding past) : Recoverable holding later store :=
  { agrees := recoverable.agrees.trans kernel.symm
    guarded := extended.guarded recoverable.guarded
    resumed := fun held => extended.resumed (recoverable.resumed held) }

theorem accepting (recoverable : Recoverable holding past store)
    (held : store.lock.isSome = true) : Accepting holding past store :=
  ⟨recoverable.agrees, held, recoverable.resumed held⟩

end Recoverable

namespace Accepting

theorem recoverable (accepting : Accepting holding past store) : Recoverable holding past store :=
  ⟨accepting.agrees, Or.inl accepting.held, fun _ => accepting.resumed⟩

theorem stands (accepting : Accepting holding past store) : Stands holding past store :=
  accepting.recoverable.stands

theorem extend (accepting : Accepting holding past store) (extended : Extends past later)
    (kernel : flockHeld holding later = flockHeld holding past) : Accepting holding later store :=
  (accepting.recoverable.extend extended kernel).accepting accepting.held

theorem accepted (accepting : Accepting holding past store) (answer : Except IoError Unit) :
    Accepting holding (past ++ [⟨⟨store, .accept⟩, answer⟩]) store := by
  refine ⟨accepting.agrees.trans (flockHeld_kept _ rfl).symm, accepting.held, ?_⟩
  rcases accepting.resumed with serving | refused
  · left
    unfold Serving
    rw [lastHook_append]
    exact serving
  · right
    rw [List.any_append, refused, Bool.true_or]

private theorem loopHead (accepting : Accepting holding past store) :
    LoopHead holding past { store with state := {} } := by
  refine ⟨⟨accepting.agrees, ⟨?_, ?_⟩, ?_, ?_, Or.inl accepting.held⟩, ?_⟩
  · intro free
    have held := accepting.held
    change store.lock = none at free
    rw [free] at held
    contradiction
  · intro sealed
    contradiction
  · intro _ _
    exact accepting.resumed
  · intro sealed
    contradiction
  · intro engaged
    contradiction

end Accepting

/-! ### One session -/

def AfterSession (holding : Bool) (outcome : Except Error SessionOutcome) (store : PrimStore)
    (past : PrimPast) : Prop :=
  Recoverable holding past store ∧
    match outcome with
    | .ok .committed => store.lock = none
    | .ok .closed => store.lock.isSome = true
    | .error _ => True

theorem AfterLoop.sessionEnd {outcome : Except Error SessionOutcome}
    (after : AfterLoop holding outcome store past) : SessionEnd holding past store := by
  cases outcome with
  | error cause => exact after
  | ok ended =>
      cases ended with
      | committed => exact after.1.sessionEnd
      | closed => exact after.1.sessionEnd

theorem SessionEnd.unsealed_held (ended : SessionEnd holding past store)
    (unsealed : store.state.sealed = false) : store.lock.isSome = true := by
  cases present : store.lock with
  | some lock => rfl
  | none =>
      rw [ended.released present] at unsealed
      contradiction

private theorem resumeDrained_meets (outcome : Except Error SessionOutcome)
    (after : AfterLoop holding outcome store past) :
    Meets (Duty holding) (fun result now later =>
      result = .ok () ∧ AfterSession holding outcome now later)
      (resumeDrained outcome) store past := by
  have ended := after.sessionEnd
  unfold resumeDrained
  apply Meets.loadBind
  rw [meets_ite]
  constructor
  · rintro ⟨_, unsealed, uncommitted⟩
    have held := ended.unsealed_held unsealed
    have standing : Stands holding past store := ⟨ended.guarded, fun _ => ended.agrees ▸ held⟩
    refine Meets.callBind ⟨standing, Or.inl held⟩ fun answer => ⟨rfl, ?_, ?_⟩
    · refine ⟨ended.agrees.trans (flockHeld_kept _ rfl).symm, Or.inl held, ?_⟩
      intro _
      exact Or.inl (serving_resumeAfterAbort past store answer)
    · cases outcome with
      | error cause => trivial
      | ok result =>
          cases result with
          | committed => contradiction
          | closed => exact held
  · intro skipped
    refine ⟨rfl, ⟨ended.agrees, ended.guarded, ?_⟩, ?_⟩
    · intro held
      rcases ended.resumed held with resumed | ⟨unsealed, drained⟩
      · exact resumed
      · by_cases committed : outcome = .ok .committed
        · subst committed
          have sealed := after.2
          rw [unsealed] at sealed
          contradiction
        · exact absurd ⟨drained, unsealed, committed⟩ skipped
    · cases outcome with
      | error cause => trivial
      | ok result =>
          cases result with
          | committed => exact after.1.lockSealed.mpr after.2
          | closed => exact after.1.unsealed_held after.2

theorem AfterSession.close {outcome : Except Error SessionOutcome}
    (after : AfterSession holding outcome store past) :
    Meets (Duty holding) (fun _ last final => AfterSession holding outcome last final)
      (ask (.close .session)) store past := by
  apply (after.1.stands.plain (within_call rfl)).mono
  rintro _ last final ⟨rfl, extended, kernel⟩
  exact ⟨after.1.extend extended kernel, after.2⟩

theorem handleSession_meets (host : Host) (fuel : Nat) (accepting : Accepting holding past store) :
    Meets (Duty holding) (AfterSession holding) (handleSession host fuel) store past := by
  unfold handleSession handleSessionOf
  rw [meets_ensuring]
  refine Meets.bind (accepting.stands.plain (incumbentHandshake_within host rfl rfl rfl)) ?_ ?_
  · rintro chosen now later ⟨rfl, extended, kernel⟩
    apply Meets.updateBind
    have head := (accepting.extend extended kernel).loopHead
    refine Meets.attemptBind (runSessionLoop_meets host chosen fuel head) ?_
    intro outcome after last ended
    refine Meets.bind (resumeDrained_meets outcome ended) ?_ ?_
    · rintro _ resumed final ⟨_, session⟩
      exact session.close
    · rintro _ _ _ ⟨impossible, _⟩
      contradiction
  · rintro cause now later ⟨rfl, extended, kernel⟩
    exact AfterSession.close ⟨accepting.recoverable.extend extended kernel, trivial⟩

/-! ### Taking the lock back -/

private theorem acquireRetryLoop_meets (host : Host) (deadline : Instant) (fuel : Nat)
    (free : store.lock = none) (stands : Stands holding past store)
    (released : flockHeld holding past = false) :
    Meets (Duty holding) (fun outcome now later =>
      now = store ∧ Extends past later ∧ flockHeld holding later = outcome.isOk)
      (acquireRetryLoop host deadline fuel) store past := by
  induction fuel generalizing past with
  | zero =>
      refine ⟨⟨stands, trivial⟩, ?_⟩
      intro answer
      exact answer.elim
  | succ fuel ih =>
      unfold acquireRetryLoop
      refine Meets.attemptBind (acquire_meets host free stands released) ?_
      rintro outcome now later ⟨rfl, extended, kernel⟩
      cases outcome with
      | ok lock => exact ⟨rfl, extended, kernel⟩
      | error cause =>
          cases cause with
          | lockHeld holderPid =>
              have standing : Stands holding later now :=
                stands.extend extended (kernel.trans released.symm)
              refine standing.askBind rfl fun instant ticked further unchanged => ?_
              have waiting := standing.extend further unchanged
              rw [meets_ite]
              constructor
              · intro _
                refine waiting.askBind rfl fun _ rested slept asleep => ?_
                have unlocked := (asleep.trans unchanged).trans kernel
                apply (ih (waiting.extend slept asleep) unlocked).mono
                rintro result last final ⟨rfl, retried, verdict⟩
                exact ⟨rfl, ((extended.trans further).trans slept).trans retried, verdict⟩
              · intro _
                exact ⟨rfl, extended.trans further, unchanged.trans kernel⟩
          | _ => exact ⟨rfl, extended, kernel⟩

private theorem acquireWithShortRetry_meets (host : Host) (timeout : Duration) (fuel : Nat)
    (free : store.lock = none) (stands : Stands holding past store)
    (released : flockHeld holding past = false) :
    Meets (Duty holding) (fun outcome now later =>
      now = store ∧ Extends past later ∧ flockHeld holding later = outcome.isOk)
      (acquireWithShortRetry host timeout fuel) store past := by
  unfold acquireWithShortRetry
  refine stands.askBind rfl fun instant later extended kernel => ?_
  apply (acquireRetryLoop_meets host _ fuel free (stands.extend extended kernel)
    (kernel.trans released)).mono
  rintro outcome last final ⟨rfl, further, verdict⟩
  exact ⟨rfl, extended.trans further, verdict⟩

/-- Either the consumer is resumed under the lock, or the lock is out of reach. -/
theorem recoverSession_meets (host : Host) (fuel : Nat)
    (recoverable : Recoverable holding past store) :
    Meets (Duty holding) (fun outcome now later =>
      match outcome with
      | .ok _ => Accepting holding later now
      | .error _ => Recoverable holding later now ∧ now.lock = none)
      (recoverSession host fuel) store past := by
  unfold recoverSession
  apply Meets.loadBind
  rw [meets_ite]
  constructor
  · intro missing
    have free : store.lock = none := Option.isNone_iff_eq_none.mp missing
    have released : flockHeld holding past = false := by
      rw [← recoverable.agrees, free]
      rfl
    refine Meets.bind (acquireWithShortRetry_meets host _ fuel free recoverable.stands released)
      ?_ ?_
    · rintro lock now later ⟨rfl, extended, kernel⟩
      apply Meets.updateBind
      have standing : Stands holding later { now with lock := some lock } :=
        ⟨Or.inl rfl, fun _ => kernel⟩
      refine Meets.callBind ⟨standing, Or.inl rfl⟩ fun answer => ?_
      refine ⟨((flockHeld_kept _ rfl).trans kernel).symm, rfl, ?_⟩
      exact Or.inl (serving_resumeAfterAbort later { now with lock := some lock } answer)
    · rintro cause now later ⟨rfl, extended, kernel⟩
      exact ⟨recoverable.extend extended (kernel.trans released.symm), free⟩
  · intro present
    apply recoverable.accepting
    rw [← Option.not_isNone, Bool.not_eq_true']
    exact Bool.eq_false_iff.mpr present

/-! ### The whole run -/

def AfterConnection (holding : Bool) (outcome : Except Error (Option Unit)) (store : PrimStore)
    (past : PrimPast) : Prop :=
  match outcome with
  | .ok none => Accepting holding past store
  | _ => Recoverable holding past store ∧ store.lock = none

private theorem serveConnection_meets (host : Host) (fuel : Nat)
    (accepting : Accepting holding past store) :
    Meets (Duty holding) (AfterConnection holding) (serveConnection host fuel) store past := by
  unfold serveConnection
  refine Meets.attemptBind (accepting.stands.plain (prepareSessionStream_within host rfl rfl)) ?_
  rintro prepared now later ⟨rfl, extended, kernel⟩
  have ready := accepting.extend extended kernel
  cases prepared with
  | error cause =>
      refine ready.stands.askBind rfl fun _ last further unchanged => ?_
      exact ready.extend further unchanged
  | ok _ =>
      refine Meets.attemptBind (handleSession_meets host fuel ready) ?_
      rintro outcome after last ⟨recoverable, ended⟩
      cases outcome with
      | error cause =>
          refine Meets.bind (recoverSession_meets host fuel recoverable) ?_ (fun _ _ _ lost => lost)
          intro _ resumed final again
          exact again
      | ok result =>
          cases result with
          | committed => exact ⟨recoverable, ended⟩
          | closed => exact recoverable.accepting ended

/-- The loop keeps the lock to its end only when `accept` failed for good. -/
private theorem serveLoop_meets (host : Host) (fuel : Nat) (backoff : Duration)
    (accepting : Accepting holding past store) :
    Meets (Duty holding) (fun _ now later =>
      Recoverable holding later now ∧
        (now.lock.isSome = true → later.any fatalAccept = true))
      (serveLoop host fuel backoff) store past := by
  induction fuel generalizing past store backoff with
  | zero =>
      refine ⟨⟨accepting.stands, trivial⟩, ?_⟩
      intro answer
      exact answer.elim
  | succ fuel ih =>
      unfold serveLoop
      refine Meets.callBind ⟨accepting.stands, accepting.held, accepting.resumed⟩ fun answer => ?_
      have accepted := accepting.accepted answer
      cases answer with
      | ok _ =>
          refine Meets.bind (serveConnection_meets host fuel accepted) ?_ ?_
          · intro again now later after
            cases again with
            | none => exact ih _ after
            | some _ =>
                refine ⟨after.1, ?_⟩
                intro held
                rw [after.2] at held
                contradiction
          · intro cause now later lost
            refine ⟨lost.1, ?_⟩
            intro held
            rw [lost.2] at held
            contradiction
      | error cause =>
          cases verdict : classifyAcceptError cause with
          | retry =>
              simp only [verdict]
              exact ih _ accepted
          | exhausted =>
              simp only [verdict]
              refine accepted.stands.askBind rfl fun _ later extended kernel => ?_
              exact ih _ (accepted.extend extended kernel)
          | fatal =>
              simp only [verdict]
              refine ⟨accepted.recoverable, ?_⟩
              intro _
              rw [List.any_append, Bool.or_eq_true]
              right
              simp [fatalAccept, verdict]

theorem serve_meets (host : Host) (fuel : Nat) (accepting : Accepting holding past store) :
    Meets (Duty holding) (fun _ now later =>
      now.lock = none ∧ Guarded later now ∧ flockHeld holding later = false)
      (serve host fuel) store past := by
  unfold serve
  rw [meets_ensuring]
  have both := Program.Keeps.and (serveLoop_meets host fuel acceptBackoffMin accepting)
    (serveLoop_left host fuel acceptBackoffMin store past)
  refine both.mono (fun _ _ asked => asked.1) ?_
  rintro ⟨outcome, now⟩ later ⟨⟨recoverable, fatally⟩, left⟩
  refine Meets.callBind ⟨recoverable.stands, left⟩ fun closing => ?_
  have extended := (Extends.refl later).step ⟨⟨now, .closeListener⟩, closing⟩ rfl
  have ended := recoverable.extend extended (flockHeld_kept _ rfl)
  apply (takeLock_meets ended.agrees fun held => Or.inr (extended.any (fatally held))).mono
  rintro _ last final ⟨_, rfl, further, released⟩
  refine ⟨rfl, ?_, released⟩
  apply further.guarded
  rcases ended.guarded with held | others
  · exact Or.inr (Or.inr (Or.inr (extended.any (fatally held))))
  · exact Or.inr others

end Handoff
