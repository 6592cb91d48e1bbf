/-
What a committed session has behind it.

`Pledge` is the invariant of the session loop that ties its two flags to the
history: an active id has been drained for, and a sealed session was sealed for
its active id and not resumed since.  A second `seal` that fails breaks the
second half, because it clears the id but not the flag.
-/

import Handoff.Primitive.ServeRuns

namespace Handoff

open Effects PrimM
open Effects.Code hiding pure bind

variable {handoffId : HandoffId}

/-! ### Hooks on behalf of a message -/

def lastRead (past : PrimPast) : Option Message := (sessionReads past).getLast?

private theorem lastRead_kept {past : PrimPast} (event : PrimEvent)
    (other : sessionReads (past ++ [event]) = sessionReads past) :
    lastRead (past ++ [event]) = lastRead past := by
  unfold lastRead
  rw [other]

/-- `drain` returned `Ok` while a `PrepareHandoff` for this id was being handled. -/
def DrainedFor (handoffId : HandoffId) (past : PrimPast) : Prop :=
  ∃ before event after, past = before ++ event :: after ∧ hook? event = some (.drain true) ∧
    ∃ successorPid deadlineMs drainGraceMs,
      lastRead before = some (.prepareHandoff handoffId successorPid deadlineMs drainGraceMs)

/-- After such a drain, `seal` returned `Ok` while a `SealRequest` for this id
was being handled, and the consumer was not resumed since. -/
def SealedFor (handoffId : HandoffId) (past : PrimPast) : Prop :=
  ∃ before event after, past = before ++ event :: after ∧ DrainedFor handoffId before ∧
    hook? event = some (.seal true) ∧ lastRead before = some (.sealRequest handoffId) ∧
    ∀ later ∈ after, hook? later ≠ some .resumeAfterAbort

theorem DrainedFor.append {past : PrimPast} (drained : DrainedFor handoffId past)
    (event : PrimEvent) : DrainedFor handoffId (past ++ [event]) := by
  obtain ⟨before, draining, after, rfl, hook, read⟩ := drained
  exact ⟨before, draining, after ++ [event], by simp, hook, read⟩

theorem SealedFor.append {past : PrimPast} (sealed : SealedFor handoffId past) (event : PrimEvent)
    (silent : hook? event ≠ some .resumeAfterAbort) : SealedFor handoffId (past ++ [event]) := by
  obtain ⟨before, sealing, after, rfl, drained, hook, read, none⟩ := sealed
  refine ⟨before, sealing, after ++ [event], by simp, drained, hook, read, ?_⟩
  intro later member
  rcases List.mem_append.mp member with earlier | last
  · exact none later earlier
  · rw [List.mem_singleton.mp last]
    exact silent

/-! ### The invariant -/

structure Pledge (past : PrimPast) (store : PrimStore) : Prop where
  prepared : ∀ handoffId, store.state.active = some handoffId → DrainedFor handoffId past
  sealed : store.state.sealed = true → past.any resealFailed = true ∨
    ∃ handoffId, store.state.active = some handoffId ∧ SealedFor handoffId past

variable {past : PrimPast} {store : PrimStore}

theorem Pledge.append (pledge : Pledge past store) (event : PrimEvent)
    (silent : hook? event ≠ some .resumeAfterAbort) : Pledge (past ++ [event]) store := by
  constructor
  · intro handoffId active
    exact (pledge.prepared handoffId active).append event
  · intro sealed
    rcases pledge.sealed sealed with failed | ⟨handoffId, active, since⟩
    · left
      rw [List.any_append, failed, Bool.true_or]
    · exact Or.inr ⟨handoffId, active, since.append event silent⟩

private theorem pledge_idle (idle : store.state.active = none)
    (unsealed : store.state.sealed = false) :
    Pledge past store := by
  constructor
  · intro handoffId active
    rw [idle] at active
    contradiction
  · intro sealed
    rw [unsealed] at sealed
    contradiction

def Pledged {Value : Type} (outcome : Except Error Value) (store : PrimStore) (past : PrimPast) :
    Prop :=
  match outcome with
  | .ok _ => Pledge past store
  | .error _ => True

private theorem pledged_write {channel : Channel} {version : ProtoVersion} {message : Message}
    (pledge : Pledge past store) :
    Meets (fun _ _ => True) Pledged
      (do ofExcept (← ask (.writeFrame channel version message))) store past := by
  refine Meets.callBind trivial fun written => ?_
  cases written with
  | ok _ =>
      apply pledge.append _
      intro impossible
      cases impossible
  | error cause => trivial

/-! ### The arms -/

private theorem drain_pledged (deadline : Instant) {successorPid : UInt32}
    {deadlineMs drainGraceMs : UInt64} (read : lastRead past =
      some (.prepareHandoff handoffId successorPid deadlineMs drainGraceMs)) {kept : PrimStore}
    (pledge : Pledge past kept) :
    Meets (fun _ _ => True) (fun outcome next later => outcome.isOk = true →
      Pledge later kept ∧ DrainedFor handoffId later ∧ next.state = store.state)
      (runWithHeartbeats do ofExcept (← ask (.drain deadline))) store past := by
  refine runWithHeartbeats_steps trivial (fun _ _ _ _ held => held) fun beats cloned => ?_
  refine Meets.callBind trivial fun report => ?_
  cases report with
  | error cause =>
      intro impossible
      contradiction
  | ok report =>
      intro _
      refine ⟨?_, ⟨_, _, [], rfl, rfl, successorPid, deadlineMs, drainGraceMs, ?_⟩, rfl⟩
      · exact (pledge.append _ (by simp [hook?])).append _ (by simp [hook?])
      · exact (lastRead_kept _ (sessionReads_append _ _)).trans read

private theorem onPrepareHandoff_pledged (chosen : ProtoVersion) {successorPid : UInt32}
    {deadlineMs drainGraceMs : UInt64} (read : lastRead past =
      some (.prepareHandoff handoffId successorPid deadlineMs drainGraceMs))
    (pledge : Pledge past store) :
    Meets (fun _ _ => True) Pledged
      (onPrepareHandoff chosen handoffId deadlineMs drainGraceMs) store past := by
  unfold onPrepareHandoff
  apply Meets.loadBind
  rw [meets_ite]
  constructor
  · intro _
    trivial
  · intro accepted
    have renewed (now : PrimPast) (next : PrimStore) (kept : Pledge now store)
        (drained : DrainedFor handoffId now) (active : next.state.active = some handoffId)
        (same : next.state.sealed = store.state.sealed) : Pledge now next := by
      constructor
      · intro other engaged
        rw [active] at engaged
        cases engaged
        exact drained
      · intro sealed
        rw [same] at sealed
        rcases kept.sealed sealed with failed | ⟨other, engaged, since⟩
        · exact Or.inl failed
        · right
          have matching : some other = some handoffId := by
            by_contra different
            rw [engaged] at accepted
            exact accepted ⟨rfl, different⟩
          cases matching
          exact ⟨handoffId, active, since⟩
    apply Meets.updateBind
    refine Meets.callBind trivial fun now => ?_
    have reading := (lastRead_kept _ (sessionReads_append past ⟨⟨{ store with
      state := { store.state with active := some handoffId } }, .now⟩, now⟩)).trans read
    have ticked := pledge.append ⟨⟨{ store with
      state := { store.state with active := some handoffId } }, .now⟩, now⟩ (by simp [hook?])
    refine Meets.bind (drain_pledged _ reading ticked) ?_ (fun _ _ _ _ => trivial)
    intro report next later held
    obtain ⟨kept, drained, same⟩ := held rfl
    apply Meets.updateBind
    apply pledged_write
    apply renewed later _ kept drained
    · change next.state.active = some handoffId
      rw [same]
    · change next.state.sealed = store.state.sealed
      rw [same]

private theorem seal_pledged (read : lastRead past = some (.sealRequest handoffId))
    {kept : PrimStore} (pledge : Pledge past kept) (active : kept.state.active = some handoffId)
    (same : store.state = kept.state) :
    Meets (fun _ _ => True) (fun outcome next later =>
      next.state = kept.state ∧ DrainedFor handoffId later ∧
        match outcome with
        | .ok _ => SealedFor handoffId later
        | .error _ => kept.state.sealed = true → later.any resealFailed = true)
      (runWithHeartbeats do ofExcept (← ask .seal)) store past := by
  have drained := pledge.prepared handoffId active
  refine runWithHeartbeats_steps trivial (fun _ _ _ _ held => held) fun beats cloned => ?_
  have cloning := drained.append ⟨⟨store, .tryClone⟩, cloned⟩
  refine Meets.callBind trivial fun report => ⟨same, cloning.append _, ?_⟩
  cases report with
  | ok report =>
      refine ⟨_, _, [], rfl, cloning, rfl, ?_, ?_⟩
      · exact (lastRead_kept _ (sessionReads_append _ _)).trans read
      · intro later member
        cases member
  | error cause =>
      intro sealed
      rw [← same] at sealed
      rw [List.any_append, Bool.or_eq_true]
      right
      simp [resealFailed, sealed]

private theorem takeLock_silent (handoffId : HandoffId) (sealed : SealedFor handoffId past)
    (drained : DrainedFor handoffId past) :
    Meets (fun _ _ => True) (fun _ next later =>
      next.state = store.state ∧ SealedFor handoffId later ∧ DrainedFor handoffId later)
      takeLock store past := by
  unfold takeLock
  apply Meets.loadBind
  apply Meets.updateBind
  cases store.lock with
  | none => exact ⟨rfl, sealed, drained⟩
  | some lock =>
      refine Meets.callBind trivial fun _ => ⟨trivial, fun _ => ⟨rfl, ?_, ?_⟩⟩
      · exact (sealed.append _ (by simp [hook?])).append _ (by simp [hook?])
      · exact (drained.append _).append _

private theorem onSealRequest_pledged (chosen : ProtoVersion)
    (read : lastRead past = some (.sealRequest handoffId)) (pledge : Pledge past store) :
    Meets (fun _ _ => True) Pledged (onSealRequest chosen handoffId) store past := by
  unfold onSealRequest
  apply Meets.loadBind
  rw [meets_ite]
  constructor
  · intro _
    trivial
  · intro accepted
    have active : store.state.active = some handoffId := by
      by_contra different
      exact accepted different
    refine Meets.attemptBind (seal_pledged read pledge active rfl) ?_
    rintro outcome next later ⟨same, drained, verdict⟩
    cases outcome with
    | ok report =>
        refine Meets.bind (takeLock_silent handoffId verdict drained) ?_ (fun _ _ _ _ => trivial)
        rintro _ after last ⟨kept, sealed, prepared⟩
        apply Meets.updateBind
        have engaged : after.state.active = some handoffId := by
          rw [kept, same]
          exact active
        apply pledged_write
        constructor
        · intro other matching
          change after.state.active = some other at matching
          rw [engaged] at matching
          cases matching
          exact prepared
        · intro _
          exact Or.inr ⟨handoffId, engaged, sealed⟩
    | error cause =>
        refine Meets.callBind trivial fun written => ?_
        refine Meets.ofExceptBind (fun _ _ => ?_) (fun _ _ => trivial)
        refine Meets.callBind trivial fun resumed => ?_
        refine Meets.ofExceptBind (fun _ _ => ?_) (fun _ _ => trivial)
        apply Meets.updateBind
        constructor
        · intro other impossible
          contradiction
        · intro sealed
          change next.state.sealed = true at sealed
          rw [same] at sealed
          left
          rw [List.any_append, List.any_append, verdict sealed]
          rfl

private theorem onRollback_pledged (host : Host) (unknown : String) (handoffId : HandoffId)
    (store : PrimStore) (past : PrimPast) :
    Meets (fun _ _ => True) Pledged (onRollback host unknown handoffId) store past := by
  unfold onRollback
  apply Meets.loadBind
  rw [meets_ite]
  constructor
  · intro _
    trivial
  · intro _
    dsimp only
    rw [meets_ite, meets_ite]
    refine ⟨fun _ => ?_, fun unsealed => ⟨fun _ => ?_, fun _ => ?_⟩⟩
    · refine Meets.bind (meets_run (DataDirLock.acquire host) store past) ?_
        (fun _ _ _ _ => trivial)
      intro lock now later _
      apply Meets.updateBind
      refine Meets.callBind trivial fun resumed => ?_
      refine Meets.ofExceptBind (fun _ _ => ?_) (fun _ _ => trivial)
      exact pledge_idle rfl rfl
    · refine Meets.callBind trivial fun resumed => ?_
      refine Meets.ofExceptBind (fun _ _ => ?_) (fun _ _ => trivial)
      exact pledge_idle rfl (Bool.eq_false_iff.mpr unsealed)
    · exact pledge_idle rfl (Bool.eq_false_iff.mpr unsealed)

/-! ### The loop and the session -/

def CommitSound (outcome : Except Error SessionOutcome) (_store : PrimStore) (past : PrimPast) :
    Prop :=
  outcome = .ok .committed → past.any resealFailed = true ∨
    ∃ handoffId, lastRead past = some (.commit handoffId) ∧ SealedFor handoffId past

private theorem onCommit_sound (read : lastRead past = some (.commit handoffId))
    (pledge : Pledge past store) :
    Meets (fun _ _ => True) CommitSound (onCommit handoffId) store past := by
  unfold onCommit
  apply Meets.loadBind
  rw [meets_ite, meets_ite]
  refine ⟨fun _ => ?_, fun known => ⟨fun _ => ?_, fun sealed => ?_⟩⟩
  · intro impossible
    contradiction
  · intro impossible
    contradiction
  · intro _
    rcases pledge.sealed (Bool.of_not_eq_false sealed) with failed | ⟨other, active, since⟩
    · exact Or.inl failed
    · right
      have same : some other = some handoffId := by
        rw [← active]
        by_contra different
        exact known different
      cases same
      exact ⟨handoffId, read, since⟩

def MessageSound (outcome : Except Error (Option SessionOutcome)) (store : PrimStore)
    (past : PrimPast) : Prop :=
  match outcome with
  | .ok none => Pledge past store
  | .ok (some ended) => CommitSound (.ok ended) store past
  | .error _ => True

theorem MessageSound.of_arm {code : PrimM Unit}
    (met : Meets (fun _ _ => True) Pledged code store past) :
    Meets (fun _ _ => True) MessageSound (do code; pure none) store past :=
  Meets.bind met (fun _ _ _ pledge => pledge) (fun _ _ _ _ => trivial)

private theorem onMessage_sound (host : Host) (chosen version : ProtoVersion) (message : Message)
    (pledge : Pledge past store) :
    Meets (fun _ _ => True) MessageSound (onMessage host chosen message) store
      (past ++ [⟨⟨store, .pollRead false⟩, .frame version message⟩]) := by
  have kept := pledge.append ⟨⟨store, .pollRead false⟩, .frame version message⟩ (by simp [hook?])
  have read : lastRead (past ++ [⟨⟨store, .pollRead false⟩, .frame version message⟩]) =
      some message := by
    unfold lastRead
    rw [sessionReads_append]
    exact List.getLast?_concat
  cases message with
  | prepareHandoff handoffId successorPid deadlineMs drainGraceMs =>
      exact MessageSound.of_arm (onPrepareHandoff_pledged chosen read kept)
  | sealRequest handoffId => exact MessageSound.of_arm (onSealRequest_pledged chosen read kept)
  | commit handoffId =>
      refine Meets.bind (onCommit_sound read kept) ?_ (fun _ _ _ _ => trivial)
      intro ended now later sound
      exact sound
  | resumeAfterAbort handoffId =>
      exact MessageSound.of_arm (onRollback_pledged host _ handoffId store _)
  | abort handoffId reason =>
      exact MessageSound.of_arm (onRollback_pledged host _ handoffId store _)
  | heartbeat tsMs =>
      apply MessageSound.of_arm
      refine Meets.callBind trivial fun now => ?_
      exact pledged_write (kept.append _ (by simp [hook?]))
  | _ => trivial

private theorem runSessionLoop_sound (host : Host) (chosen : ProtoVersion) (fuel : Nat)
    (pledge : Pledge past store) :
    Meets (fun _ _ => True) CommitSound (runSessionLoop host chosen fuel) store past := by
  induction fuel generalizing past store with
  | zero =>
      refine ⟨trivial, ?_⟩
      intro answer
      exact answer.elim
  | succ fuel ih =>
      unfold runSessionLoop
      refine Meets.callBind trivial fun polled => ?_
      cases polled with
      | waiting midFrame => exact ih (pledge.append _ (by simp [hook?]))
      | failed cause =>
          dsimp only
          rw [meets_ite]
          constructor
          · intro _
            apply Meets.loadBind
            rw [meets_ite]
            constructor
            · intro _ impossible
              contradiction
            · intro _ impossible
              cases impossible
          · intro _ impossible
            contradiction
      | frame version message =>
          refine Meets.bind (onMessage_sound host chosen version message pledge) ?_ ?_
          · intro outcome now later sound
            cases outcome with
            | none => exact ih sound
            | some ended => exact sound
          · intro cause now later _ impossible
            contradiction

theorem CommitSound.append {outcome : Except Error SessionOutcome}
    (sound : CommitSound outcome store past) (event : PrimEvent)
    (silent : hook? event ≠ some .resumeAfterAbort)
    (other : sessionReads (past ++ [event]) = sessionReads past) :
    CommitSound outcome store (past ++ [event]) := by
  intro committed
  rcases sound committed with failed | ⟨handoffId, read, since⟩
  · left
    rw [List.any_append, failed, Bool.true_or]
  · exact Or.inr ⟨handoffId, (lastRead_kept event other).trans read, since.append event silent⟩

private theorem handleSession_sound (host : Host) (fuel : Nat) (store : PrimStore)
    (past : PrimPast) :
    Meets (fun _ _ => True) CommitSound (handleSession host fuel) store past := by
  unfold handleSession handleSessionOf
  rw [meets_ensuring]
  refine Meets.bind (meets_run (incumbentHandshake host) store past) ?_ ?_
  · intro chosen now later _
    apply Meets.updateBind
    refine Meets.attemptBind (runSessionLoop_sound host chosen fuel (pledge_idle rfl rfl)) ?_
    intro outcome after last sound
    unfold resumeDrained
    rw [meets_bind]
    apply Meets.loadBind
    rw [meets_ite]
    constructor
    · rintro ⟨_, _, uncommitted⟩
      refine Meets.callBind trivial fun _ => ⟨trivial, fun _ => ?_⟩
      intro committed
      exact absurd committed uncommitted
    · intro _
      exact ⟨trivial, fun _ => sound.append _ (by simp [hook?]) (sessionReads_append _ _)⟩
  · intro cause now later _
    refine ⟨trivial, fun _ impossible => ?_⟩
    contradiction

/-- Unless a seal failed in a sealed session, a committed session has drained
and then sealed for the id it committed, and not resumed since. -/
theorem session_commit_sound (host : Host) (fuel : Nat) (store last : PrimStore)
    (events : PrimPast)
    (run : (handleSession host fuel store).Run events (.done (.ok .committed, last)))
    (sealedOnce : events.any resealFailed = false) :
    ∃ handoffId, lastRead events = some (.commit handoffId) ∧ SealedFor handoffId events := by
  rcases (handleSession_sound host fuel store []).ended run rfl with failed | sound
  · rw [List.nil_append, sealedOnce] at failed
    contradiction
  · exact sound

def Rehearsal.session (rehearsal : Rehearsal) (steps : Nat) :
    PrimPast × Process PrimStore PrimAns Error SessionOutcome :=
  Program.play rehearsal.answer steps []
    (handleSession rehearsalHost steps (.incumbent { dataDir := "/data" }))

def committedSession : Rehearsal :=
  { polls := [helloAckFrame, prepareFrame firstHandoff, .frame 1 (.sealRequest firstHandoff),
      .frame 1 (.commit firstHandoff)] }

theorem session_commit_sound_first :
    ∃ last, (committedSession.session 40).2 = .done (.ok .committed, last) ∧
      ∃ handoffId, lastRead (committedSession.session 40).1 = some (.commit handoffId) ∧
        SealedFor handoffId (committedSession.session 40).1 := by
  have ended : (committedSession.session 40).2.result? = some (.ok .committed,
      { state := { active := some firstHandoff, sealed := true, drained := true } }) := by
    decide +kernel
  have run := Program.play_run committedSession.answer 40 []
    (handleSession rehearsalHost 40 (.incumbent { dataDir := "/data" }))
  have done := Program.eq_done_of_result? ended
  refine ⟨_, done, ?_⟩
  change Program.Run _ _ (committedSession.session 40).2 at run
  rw [done] at run
  exact session_commit_sound _ 40 _ _ _ run (by decide +kernel)

/-- A second seal fails; the next handoff is prepared and committed unsealed. -/
def staleSeal : Rehearsal :=
  { polls := [helloAckFrame, prepareFrame firstHandoff, .frame 1 (.sealRequest firstHandoff),
      .frame 1 (.sealRequest firstHandoff), prepareFrame secondHandoff,
      .frame 1 (.commit secondHandoff)]
    seals := [.ok ⟨[], Vector.replicate 32 0⟩, .error (.protocol "disk full")] }

theorem SealedFor.requested (sealed : SealedFor handoffId past) :
    ∃ store armed version,
      ⟨⟨store, .pollRead armed⟩, .frame version (.sealRequest handoffId)⟩ ∈ past := by
  obtain ⟨before, event, after, rfl, _, _, read, _⟩ := sealed
  obtain ⟨store, armed, version, member⟩ := mem_sessionReads (List.mem_of_getLast? read)
  exact ⟨store, armed, version, List.mem_append_left _ member⟩

def asksSeal (handoffId : HandoffId) : PrimEvent → Bool
  | ⟨⟨_, .pollRead _⟩, .frame _ (.sealRequest other)⟩ => other == handoffId
  | _ => false

theorem session_commits_unsealed :
    ∃ host fuel store events last,
      (handleSession host fuel store).Run events (.done (.ok .committed, last)) ∧
      lastRead events = some (.commit secondHandoff) ∧ ¬SealedFor secondHandoff events := by
  have ended : (staleSeal.session 60).2.result? = some (.ok .committed,
      { state := { active := some secondHandoff, sealed := true, drained := true } }) := by
    decide +kernel
  have run := Program.play_run staleSeal.answer 60 []
    (handleSession rehearsalHost 60 (.incumbent { dataDir := "/data" }))
  change Program.Run _ _ (staleSeal.session 60).2 at run
  rw [Program.eq_done_of_result? ended] at run
  refine ⟨_, _, _, _, _, run, by decide +kernel, ?_⟩
  intro sealed
  obtain ⟨store, armed, version, member⟩ := sealed.requested
  have found : (staleSeal.session 60).1.any (asksSeal secondHandoff) = true :=
    List.any_eq_true.mpr ⟨_, member, by simp [asksSeal]⟩
  have absent : (staleSeal.session 60).1.any (asksSeal secondHandoff) = false := by
    decide +kernel
  rw [absent] at found
  contradiction

end Handoff
