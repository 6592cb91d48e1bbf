/-
The session loop against the contract of an incumbent.

`LoopHead` is the invariant at the head of `run_session_loop` and `SessionEnd`
what every error exit leaves behind.  Each message arm is shown to lead from the
first to one of the two; the loop follows by induction on its bound.
-/

import Handoff.Primitive.Duty

namespace Handoff

open Effects PrimM
open Effects.Code hiding pure bind

variable {holding : Bool} {past later : PrimPast} {store : PrimStore} {Value : Type}
  {post : Except Error Value → PrimStore → PrimPast → Prop}

/-! ### Releasing the lock -/

private theorem sealedSince_of_lastHook (last : lastHook past = some (.seal true)) :
    SealedSince past := by
  induction past using List.reverseRecOn with
  | nil => contradiction
  | append_singleton earlier event ih =>
      rw [lastHook_append] at last
      cases found : hook? event with
      | none =>
          rw [found, Option.none_or] at last
          apply (ih last).append
          rw [found]
          simp
      | some hook =>
          rw [found, Option.some_or] at last
          apply sealedSince_seal
          rw [found, last]

theorem takeLock_meets (agrees : store.lock.isSome = flockHeld holding past)
    (reason : store.lock.isSome = true →
      lastHook past = some (.seal true) ∨ past.any fatalAccept = true) :
    Meets (Duty holding) (fun outcome now later =>
      outcome = .ok () ∧ now = { store with lock := none } ∧ Extends past later ∧
        flockHeld holding later = false) takeLock store past := by
  unfold takeLock
  apply Meets.loadBind
  apply Meets.updateBind
  cases present : store.lock with
  | none =>
      rw [present] at agrees
      exact ⟨rfl, rfl, Extends.refl past, agrees.symm⟩
  | some lock =>
      have excuse := reason (by rw [present]; rfl)
      have unlocked (now : PrimPast) (extended : Extends past now) :
          Stands holding now { store with lock := none } := by
        constructor
        · apply extended.guarded
          rcases excuse with sealed | fatal
          · exact Or.inr (Or.inl sealed)
          · exact Or.inr (Or.inr (Or.inr fatal))
        · intro held
          contradiction
      have released (now : PrimPast) (extended : Extends past now) :
          SealedSince now ∨ now.any fatalAccept = true := by
        rcases excuse with sealed | fatal
        · exact Or.inl (extended.sealedSince (sealedSince_of_lastHook sealed))
        · exact Or.inr (extended.any fatal)
      have afterRemove := (Extends.refl past).step
        ⟨⟨{ store with lock := none }, .removePidfile⟩, ()⟩ rfl
      unfold DataDirLock.drop
      refine Meets.callBind ⟨unlocked past (Extends.refl past), trivial⟩ fun _ => ?_
      refine ⟨⟨unlocked _ afterRemove, released _ afterRemove⟩, ?_⟩
      intro _
      refine ⟨rfl, rfl, afterRemove.step _ rfl, ?_⟩
      rw [flockHeld_append]
      rfl

/-! ### The invariant of the loop -/

/-- What survives the arms halfway: everything but the meaning of `active`. -/
structure Settled (holding : Bool) (past : PrimPast) (store : PrimStore) : Prop where
  agrees : store.lock.isSome = flockHeld holding past
  lockSealed : store.lock = none ↔ store.state.sealed = true
  resumed : store.state.sealed = false → store.state.drained = false → Resumed past
  requested : store.state.sealed = true → (sessionReads past).any isSealRequest = true
  guarded : Guarded past store

structure LoopHead (holding : Bool) (past : PrimPast) (store : PrimStore) : Prop
    extends Settled holding past store where
  engaged : store.state.active ≠ none → store.state.drained = true

structure SessionEnd (holding : Bool) (past : PrimPast) (store : PrimStore) : Prop where
  agrees : store.lock.isSome = flockHeld holding past
  released : store.lock = none → store.state.sealed = true
  resumed : store.lock.isSome = true →
    Resumed past ∨ store.state.sealed = false ∧ store.state.drained = true
  guarded : Guarded past store

theorem UnderLock.guarded (under : UnderLock past store) : Guarded past store := by
  rcases under with held | repeated
  · exact Or.inl held
  · exact Or.inr (Or.inr (Or.inl repeated))

theorem UnderLock.append (under : UnderLock past store) (event : PrimEvent) :
    UnderLock (past ++ [event]) store := by
  rcases under with held | repeated
  · exact Or.inl held
  · right
    rw [List.any_append, repeated, Bool.true_or]

theorem UnderLock.extend (under : UnderLock past store) (extended : Extends past later) :
    UnderLock later store := by
  rcases under with held | repeated
  · exact Or.inl held
  · exact Or.inr (extended.any repeated)

namespace Settled

theorem stands (settled : Settled holding past store) : Stands holding past store := by
  refine ⟨settled.guarded, ?_⟩
  intro held
  rw [← settled.agrees]
  exact held

theorem extend (settled : Settled holding past store) (extended : Extends past later)
    (kernel : flockHeld holding later = flockHeld holding past) : Settled holding later store :=
  { agrees := settled.agrees.trans kernel.symm
    lockSealed := settled.lockSealed
    resumed := fun unsealed idle => extended.resumed (settled.resumed unsealed idle)
    requested := fun sealed => extended.requested (settled.requested sealed)
    guarded := extended.guarded settled.guarded }

theorem unsealed_held (settled : Settled holding past store)
    (unsealed : store.state.sealed = false) : store.lock.isSome = true := by
  cases present : store.lock with
  | some lock => rfl
  | none =>
      rw [settled.lockSealed.mp present] at unsealed
      contradiction

private theorem held_unsealed (settled : Settled holding past store)
    (held : store.lock.isSome = true) : store.state.sealed = false := by
  cases sealed : store.state.sealed with
  | false => rfl
  | true =>
      rw [settled.lockSealed.mpr sealed] at held
      contradiction

theorem sessionEnd (settled : Settled holding past store) : SessionEnd holding past store :=
  { agrees := settled.agrees
    released := settled.lockSealed.mp
    resumed := by
      intro held
      have unsealed := settled.held_unsealed held
      cases drained : store.state.drained with
      | true => exact Or.inr ⟨unsealed, rfl⟩
      | false => exact Or.inl (settled.resumed unsealed drained)
    guarded := settled.guarded }

end Settled

/-- The state right after a hook, before the flags are brought up to date. -/
structure Hooked (holding : Bool) (past : PrimPast) (store : PrimStore) : Prop where
  agrees : store.lock.isSome = flockHeld holding past
  lockSealed : store.lock = none ↔ store.state.sealed = true
  requested : store.state.sealed = true → (sessionReads past).any isSealRequest = true
  under : UnderLock past store

theorem Hooked.settled (hooked : Hooked holding past store)
    (resumed : store.state.sealed = false → store.state.drained = false → Resumed past) :
    Settled holding past store :=
  { agrees := hooked.agrees
    lockSealed := hooked.lockSealed
    resumed := resumed
    requested := hooked.requested
    guarded := hooked.under.guarded }

private theorem Settled.hooked (settled : Settled holding past store) (under : UnderLock past store)
    (event : PrimEvent) (unchanged : flockChange? event = none)
    (reads : sessionReads (past ++ [event]) = sessionReads past) :
    Hooked holding (past ++ [event]) store :=
  { agrees := settled.agrees.trans (flockHeld_kept event unchanged).symm
    lockSealed := settled.lockSealed
    requested := by
      rw [reads]
      exact settled.requested
    under := under.append event }

theorem Hooked.stands (hooked : Hooked holding past store) : Stands holding past store := by
  refine ⟨hooked.under.guarded, ?_⟩
  intro held
  rw [← hooked.agrees]
  exact held

theorem Hooked.extend (hooked : Hooked holding past store) (extended : Extends past later)
    (kernel : flockHeld holding later = flockHeld holding past) : Hooked holding later store :=
  { agrees := hooked.agrees.trans kernel.symm
    lockSealed := hooked.lockSealed
    requested := fun sealed => extended.requested (hooked.requested sealed)
    under := hooked.under.extend extended }

theorem serving_resumeAfterAbort (past : PrimPast) (store : PrimStore)
    (answer : Except Error Unit) :
    Serving (past ++ [⟨⟨store, .resumeAfterAbort⟩, answer⟩]) := by
  right
  rw [lastHook_append]
  rfl

theorem LoopHead.extend (head : LoopHead holding past store) (extended : Extends past later)
    (kernel : flockHeld holding later = flockHeld holding past) : LoopHead holding later store :=
  { head.toSettled.extend extended kernel with engaged := head.engaged }

/-- How an arm leaves: at the head of the loop again, or out of the session. -/
def AfterArm (holding : Bool) {Value : Type} (outcome : Except Error Value) (store : PrimStore)
    (past : PrimPast) : Prop :=
  match outcome with
  | .ok _ => LoopHead holding past store
  | .error _ => SessionEnd holding past store

private theorem LoopHead.afterArm (head : LoopHead holding past store)
    (outcome : Except Error Value) : AfterArm holding outcome store past := by
  cases outcome with
  | ok value => exact head
  | error cause => exact head.sessionEnd

private theorem AfterArm.of_plain {code : PrimM Value} (plain : Within plainOp code)
    (head : LoopHead holding past store) :
    Meets (Duty holding) (AfterArm holding) code store past := by
  apply (head.stands.plain plain).mono
  rintro outcome now later ⟨rfl, extended, kernel⟩
  exact (head.extend extended kernel).afterArm outcome

/-! ### The arms -/

theorem runWithHeartbeats_steps {asks : PrimPast → Call PrimStore PrimOp → Prop}
    {work : PrimM Value} (asked : asks past ⟨store, .tryClone⟩)
    (insensitive : ∀ outcome now later beats, post outcome now later →
      post outcome { now with heartbeats := beats } later)
    (worked : ∀ beats cloned, Meets asks post work { store with heartbeats := beats }
      (past ++ [⟨⟨store, .tryClone⟩, cloned⟩])) :
    Meets asks post (runWithHeartbeats work) store past := by
  unfold runWithHeartbeats
  refine Meets.callBind asked fun cloned => ?_
  have running := fun beats => worked beats cloned
  cases cloned with
  | error cause => exact running store.heartbeats
  | ok _ =>
      apply Meets.updateBind
      rw [meets_ensuring]
      apply (running true).mono
      intro outcome now later held
      exact insensitive outcome now later false held

private theorem runWithHeartbeats_meets {work : PrimM Value}
    (settled : Settled holding past store) (under : UnderLock past store)
    (insensitive : ∀ outcome now later beats, post outcome now later →
      post outcome { now with heartbeats := beats } later)
    (worked : ∀ beats later, Extends past later →
      Settled holding later { store with heartbeats := beats } →
      UnderLock later { store with heartbeats := beats } →
      Meets (Duty holding) post work { store with heartbeats := beats } later) :
    Meets (Duty holding) post (runWithHeartbeats work) store past := by
  refine runWithHeartbeats_steps ⟨settled.stands, trivial⟩ insensitive fun beats cloned => ?_
  have extended : Extends past (past ++ [⟨⟨store, .tryClone⟩, cloned⟩]) :=
    (Extends.refl past).step _ rfl
  have ready := settled.extend extended (flockHeld_kept _ rfl)
  exact worked beats _ extended
    ⟨ready.agrees, ready.lockSealed, ready.resumed, ready.requested, ready.guarded⟩
    (under.extend extended)

/-- `drain` leaves the flags alone; a refused first drain is on record. -/
private theorem drain_meets (deadline : Instant) (settled : Settled holding past store)
    (under : UnderLock past store) :
    Meets (Duty holding) (fun outcome now later =>
      match outcome with
      | .ok _ => Hooked holding later now ∧ now.state = store.state
      | .error _ => SessionEnd holding later now)
      (runWithHeartbeats do ofExcept (← ask (.drain deadline))) store past := by
  apply runWithHeartbeats_meets settled under
  · intro outcome now later beats held
    cases outcome with
    | ok report =>
        obtain ⟨hooked, same⟩ := held
        exact ⟨⟨hooked.agrees, hooked.lockSealed, hooked.requested, hooked.under⟩, same⟩
    | error cause => exact ⟨held.agrees, held.released, held.resumed, held.guarded⟩
  · intro beats later extended running locked
    refine Meets.callBind ⟨running.stands, locked⟩ fun report => ?_
    have hooked := running.hooked locked
      ⟨⟨{ store with heartbeats := beats }, .drain deadline⟩, report⟩ rfl (sessionReads_append _ _)
    cases report with
    | ok report => exact ⟨hooked, rfl⟩
    | error cause =>
        apply (hooked.settled ?_).sessionEnd
        intro unsealed idle
        right
        change store.state.sealed = false at unsealed
        change store.state.drained = false at idle
        rw [List.any_append, Bool.or_eq_true]
        right
        simp [drainRefused, unsealed, idle]

private theorem onPrepareHandoff_meets (chosen : ProtoVersion) (handoffId : HandoffId)
    (deadlineMs drainGraceMs : UInt64) (head : LoopHead holding past store)
    (repeated : store.state.sealed = true →
      store.state.active = none ∨ store.state.active = some handoffId →
      past.any sealedRepeat = true) :
    Meets (Duty holding) (AfterArm holding)
      (onPrepareHandoff chosen handoffId deadlineMs drainGraceMs) store past := by
  unfold onPrepareHandoff
  apply Meets.loadBind
  rw [meets_ite]
  constructor
  · intro _
    exact head.sessionEnd
  · intro accepted
    have matching : store.state.active = none ∨ store.state.active = some handoffId := by
      cases active : store.state.active with
      | none => exact Or.inl rfl
      | some other =>
          right
          by_contra different
          rw [active] at accepted
          exact accepted ⟨rfl, different⟩
    have under : UnderLock past store := by
      cases sealed : store.state.sealed with
      | false => exact Or.inl (head.unsealed_held sealed)
      | true => exact Or.inr (repeated sealed matching)
    apply Meets.updateBind
    have settled : Settled holding past
        { store with state := { store.state with active := some handoffId } } :=
      ⟨head.agrees, head.lockSealed, head.resumed, head.requested, head.guarded⟩
    refine settled.stands.askBind rfl fun now later extended kernel => ?_
    have ticked := settled.extend extended kernel
    have locked : UnderLock later
        { store with state := { store.state with active := some handoffId } } :=
      under.extend extended
    refine Meets.bind (drain_meets _ ticked locked) ?_ (fun _ _ _ ended => ended)
    rintro report afterwards last ⟨hooked, _⟩
    apply Meets.updateBind
    apply AfterArm.of_plain (write_plain rfl)
    refine ⟨⟨hooked.agrees, hooked.lockSealed, ?_, hooked.requested, hooked.under.guarded⟩, ?_⟩
    · intro _ idle
      contradiction
    · intro _
      rfl

/-- The state right after `seal`, with its verdict. -/
structure SealTried (holding : Bool) (before : SessionState) (ok : Bool) (past : PrimPast)
    (store : PrimStore) : Prop extends Hooked holding past store where
  state : store.state = before
  verdict : lastHook past = some (.seal ok)
  asked : (sessionReads past).any isSealRequest = true

private theorem seal_meets (settled : Settled holding past store) (under : UnderLock past store)
    (asked : (sessionReads past).any isSealRequest = true) :
    Meets (Duty holding) (fun outcome now later =>
      SealTried holding store.state outcome.isOk later now)
      (runWithHeartbeats do ofExcept (← ask .seal)) store past := by
  apply runWithHeartbeats_meets settled under
  · intro outcome now later beats tried
    exact ⟨⟨tried.agrees, tried.lockSealed, tried.requested, tried.under⟩, tried.state,
      tried.verdict, tried.asked⟩
  · intro beats later extended running locked
    refine Meets.callBind ⟨running.stands, locked⟩ fun report => ?_
    have reads := sessionReads_append later ⟨⟨{ store with heartbeats := beats }, .seal⟩, report⟩
    have hooked := running.hooked locked _ rfl reads
    have still : (sessionReads (later ++ [⟨⟨{ store with heartbeats := beats }, .seal⟩, report⟩])).any
        isSealRequest = true := by
      rw [reads]
      exact extended.requested asked
    cases report with
    | ok report => exact ⟨hooked, rfl, lastHook_append _ _, still⟩
    | error cause => exact ⟨hooked, rfl, lastHook_append _ _, still⟩

private theorem resume_meets {next : Except Error Unit → PrimM Value}
    (hooked : Hooked holding past store)
    (rest : ∀ answer later, Hooked holding later store → Serving later →
      Meets (Duty holding) post (next answer) store later) :
    Meets (Duty holding) post (ask .resumeAfterAbort >>= next) store past := by
  refine Meets.callBind ⟨hooked.stands, hooked.under⟩ fun answer => ?_
  have reads := sessionReads_append past ⟨⟨store, .resumeAfterAbort⟩, answer⟩
  apply rest
  · refine ⟨hooked.agrees.trans (flockHeld_kept _ rfl).symm, hooked.lockSealed, ?_,
      hooked.under.append _⟩
    rw [reads]
    exact hooked.requested
  · exact serving_resumeAfterAbort past store answer

private theorem onSealRequest_meets (chosen : ProtoVersion) (handoffId : HandoffId)
    (head : LoopHead holding past store)
    (repeated : store.state.sealed = true → store.state.active = some handoffId →
      past.any sealedRepeat = true)
    (asked : (sessionReads past).any isSealRequest = true) :
    Meets (Duty holding) (AfterArm holding) (onSealRequest chosen handoffId) store past := by
  unfold onSealRequest
  apply Meets.loadBind
  rw [meets_ite]
  constructor
  · intro _
    exact head.sessionEnd
  · intro accepted
    have matching : store.state.active = some handoffId := by
      by_contra different
      exact accepted different
    have under : UnderLock past store := by
      cases sealed : store.state.sealed with
      | false => exact Or.inl (head.unsealed_held sealed)
      | true => exact Or.inr (repeated sealed matching)
    have drained : store.state.drained = true := by
      apply head.engaged
      rw [matching]
      exact Option.some_ne_none _
    refine Meets.attemptBind (seal_meets head.toSettled under asked) ?_
    intro outcome now later tried
    cases outcome with
    | ok report =>
        refine Meets.bind (takeLock_meets tried.agrees fun _ => Or.inl tried.verdict) ?_ ?_
        · rintro _ after last ⟨_, rfl, extended, kernel⟩
          apply Meets.updateBind
          apply AfterArm.of_plain (write_plain rfl)
          refine ⟨⟨kernel.symm, ⟨fun _ => rfl, fun _ => rfl⟩, ?_, ?_, ?_⟩, ?_⟩
          · intro unsealed
            contradiction
          · intro _
            exact extended.requested tried.asked
          · exact Or.inr (Or.inl (extended.lastHook_eq.trans tried.verdict))
          · intro _
            change now.state.drained = true
            rw [tried.state]
            exact drained
        · rintro failure after last ⟨impossible, _⟩
          contradiction
    | error cause =>
        have drainedNow : now.state.drained = true := by
          rw [tried.state]
          exact drained
        refine Meets.callBind ⟨tried.stands, tried.under⟩ fun written => ?_
        have told := tried.toHooked.extend ((Extends.refl later).step _ rfl) (flockHeld_kept
          ⟨⟨now, .writeFrame .session chosen (.sealFailed handoffId cause.display "")⟩, written⟩ rfl)
        refine Meets.ofExceptBind (fun _ _ => ?_) (fun _ _ => ?_)
        · refine resume_meets told fun answer last hooked serving => ?_
          refine Meets.ofExceptBind (fun _ _ => ?_) (fun _ _ => ?_)
          · apply Meets.updateBind
            refine ⟨⟨hooked.agrees, hooked.lockSealed, ?_, hooked.requested,
              hooked.under.guarded⟩, ?_⟩
            · intro _ _
              exact Or.inl serving
            · intro engaged
              contradiction
          · exact (hooked.settled fun _ _ => Or.inl serving).sessionEnd
        · refine (told.settled ?_).sessionEnd
          intro _ idle
          rw [drainedNow] at idle
          contradiction

private theorem onRollback_meets (host : Host) (unknown : String) (handoffId : HandoffId)
    (head : LoopHead holding past store) :
    Meets (Duty holding) (AfterArm holding) (onRollback host unknown handoffId) store past := by
  unfold onRollback
  apply Meets.loadBind
  rw [meets_ite]
  constructor
  · intro _
    exact head.sessionEnd
  · intro _
    dsimp only
    rw [meets_ite, meets_ite]
    refine ⟨?_, fun unsealed => ⟨?_, ?_⟩⟩
    · intro sealed
      have free := head.lockSealed.mpr sealed
      have unlocked : flockHeld holding past = false := by
        rw [← head.agrees, free]
        rfl
      refine Meets.bind (acquire_meets host free head.stands unlocked) ?_ ?_
      · rintro lock now later ⟨rfl, extended, kernel⟩
        apply Meets.updateBind
        have locked : UnderLock later { now with lock := some lock } := Or.inl rfl
        have standing : Stands holding later { now with lock := some lock } :=
          ⟨locked.guarded, fun _ => kernel⟩
        refine Meets.callBind ⟨standing, locked⟩ fun answer => ?_
        have still := (flockHeld_kept
          ⟨⟨{ now with lock := some lock }, .resumeAfterAbort⟩, answer⟩ rfl).trans kernel
        have serving := serving_resumeAfterAbort later { now with lock := some lock } answer
        refine Meets.ofExceptBind (fun _ _ => ?_) (fun _ _ => ?_)
        · refine ⟨⟨still.symm, ⟨?_, ?_⟩, ?_, ?_, Or.inl rfl⟩, ?_⟩
          · intro released
            contradiction
          · intro impossible
            contradiction
          · intro _ _
            exact Or.inl serving
          · intro impossible
            contradiction
          · intro engaged
            contradiction
        · refine ⟨still.symm, ?_, ?_, Or.inl rfl⟩
          · intro released
            contradiction
          · intro _
            exact Or.inl (Or.inl serving)
      · rintro cause now later ⟨rfl, extended, kernel⟩
        exact (head.toSettled.extend extended (kernel.trans unlocked.symm)).sessionEnd
    · intro drained
      have under : UnderLock past store :=
        Or.inl (head.unsealed_held (Bool.eq_false_iff.mpr unsealed))
      have hooked : Hooked holding past store :=
        ⟨head.agrees, head.lockSealed, head.requested, under⟩
      refine resume_meets hooked fun answer later resumed serving => ?_
      refine Meets.ofExceptBind (fun _ _ => ?_) (fun _ _ => ?_)
      · refine ⟨⟨resumed.agrees, resumed.lockSealed, ?_, resumed.requested,
          resumed.under.guarded⟩, ?_⟩
        · intro _ _
          exact Or.inl serving
        · intro engaged
          contradiction
      · exact (resumed.settled fun _ _ => Or.inl serving).sessionEnd
    · intro _
      refine ⟨⟨head.agrees, head.lockSealed, head.resumed, head.requested, head.guarded⟩, ?_⟩
      intro engaged
      contradiction

/-! ### The loop -/

/-- The loop ends committed after a seal and closed without one. -/
def AfterLoop (holding : Bool) (outcome : Except Error SessionOutcome) (store : PrimStore)
    (past : PrimPast) : Prop :=
  match outcome with
  | .ok .committed => LoopHead holding past store ∧ store.state.sealed = true
  | .ok .closed => LoopHead holding past store ∧ store.state.sealed = false
  | .error _ => SessionEnd holding past store

def AfterMessage (holding : Bool) (outcome : Except Error (Option SessionOutcome))
    (store : PrimStore) (past : PrimPast) : Prop :=
  match outcome with
  | .ok none => LoopHead holding past store
  | .ok (some ended) => AfterLoop holding (.ok ended) store past
  | .error _ => SessionEnd holding past store

private theorem onCommit_meets (handoffId : HandoffId) (head : LoopHead holding past store) :
    Meets (Duty holding) (AfterLoop holding) (onCommit handoffId) store past := by
  unfold onCommit
  apply Meets.loadBind
  rw [meets_ite, meets_ite]
  refine ⟨fun _ => head.sessionEnd, fun _ => ⟨fun _ => head.sessionEnd, ?_⟩⟩
  intro sealed
  exact ⟨head, Bool.of_not_eq_false sealed⟩

theorem AfterMessage.of_arm {code : PrimM Unit}
    (met : Meets (Duty holding) (AfterArm holding) code store past) :
    Meets (Duty holding) (AfterMessage holding) (do code; pure none) store past :=
  Meets.bind met (fun _ _ _ head => head) (fun _ _ _ ended => ended)

private theorem onMessage_meets (host : Host) (chosen version : ProtoVersion) (message : Message)
    (head : LoopHead holding past store) :
    Meets (Duty holding) (AfterMessage holding) (onMessage host chosen message) store
      (past ++ [⟨⟨store, .pollRead false⟩, .frame version message⟩]) := by
  have read := head.extend ((Extends.refl past).step _ rfl)
    (flockHeld_kept ⟨⟨store, .pollRead false⟩, .frame version message⟩ rfl)
  cases message with
  | prepareHandoff handoffId successor deadlineMs drainGraceMs =>
      apply AfterMessage.of_arm
      apply onPrepareHandoff_meets chosen handoffId deadlineMs drainGraceMs read
      intro sealed matching
      rw [List.any_append, Bool.or_eq_true]
      right
      rcases matching with idle | same
      · simp [sealedRepeat, sealed, idle]
      · simp [sealedRepeat, sealed, same]
  | sealRequest handoffId =>
      apply AfterMessage.of_arm
      apply onSealRequest_meets chosen handoffId read
      · intro sealed matching
        rw [List.any_append, Bool.or_eq_true]
        right
        simp [sealedRepeat, sealed, matching]
      · rw [sessionReads_append]
        simp [isSealRequest]
  | commit handoffId =>
      refine Meets.bind (onCommit_meets handoffId read) ?_ (fun _ _ _ ended => ended)
      intro ended now later committed
      exact committed
  | resumeAfterAbort handoffId =>
      exact AfterMessage.of_arm (onRollback_meets host _ handoffId read)
  | abort handoffId reason =>
      exact AfterMessage.of_arm (onRollback_meets host _ handoffId read)
  | heartbeat tsMs =>
      exact AfterMessage.of_arm (AfterArm.of_plain (onHeartbeat_within chosen rfl fun _ => rfl) read)
  | _ => exact read.sessionEnd

theorem runSessionLoop_meets (host : Host) (chosen : ProtoVersion) (fuel : Nat)
    (head : LoopHead holding past store) :
    Meets (Duty holding) (AfterLoop holding) (runSessionLoop host chosen fuel) store past := by
  induction fuel generalizing past store with
  | zero =>
      refine ⟨⟨head.stands, trivial⟩, ?_⟩
      intro answer
      exact answer.elim
  | succ fuel ih =>
      unfold runSessionLoop
      refine Meets.callBind ⟨head.stands, head.lockSealed, head.requested⟩ fun polled => ?_
      have polledHead := head.extend ((Extends.refl past).step _ rfl)
        (flockHeld_kept ⟨⟨store, .pollRead false⟩, polled⟩ rfl)
      cases polled with
      | waiting midFrame => exact ih polledHead
      | failed cause =>
          dsimp only
          rw [meets_ite]
          constructor
          · intro _
            apply Meets.loadBind
            rw [meets_ite]
            refine ⟨fun _ => polledHead.sessionEnd, ?_⟩
            intro unsealed
            exact ⟨polledHead, Bool.eq_false_iff.mpr unsealed⟩
          · intro _
            exact polledHead.sessionEnd
      | frame version message =>
          refine Meets.bind (onMessage_meets host chosen version message head) ?_
            (fun _ _ _ ended => ended)
          intro outcome now later after
          cases outcome with
          | none => exact ih after
          | some ended => exact after

end Handoff
