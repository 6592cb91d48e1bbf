/-
`perform_handoff` on frames that differ in progress frames.

The functions of `supervisor.rs` are taken one by one.  Up to the wait for
`Drained` nothing differs, since only the first frame of each peer is read; from
there on the two runs are aligned in their effects.
-/

import Handoff.Supervisor.ProgressWaits

namespace Handoff

open Effects
open Effects.Code hiding pure bind

variable {world : Surroundings} {fuel : Nat} {Value Other : Type} {unread : Side → Bool}

/-! ### The handshakes -/

abbrev PollFree (code : SupM Value) : Prop := Issues (fun _ => True) pollFree code

theorem Steady.pollFree {code : SupM Value} (steady : Steady code) : PollFree code := by
  intro store past _
  refine Program.Keeps.mono (steady store past trivial) ?_ (fun _ _ held => held)
  intro now call asked
  refine ⟨trivial, ?_⟩
  obtain ⟨store, op⟩ := call
  cases op with
  | pollRead | outOfFuel => exact absurd asked.2 Bool.false_ne_true
  | _ => rfl

private theorem locked_pure {pre : Setting → Setting → Prop} (value : Value)
    (weaker : ∀ left right, pre left right → Aligned left right) :
    Locked world fuel pre pre (pure value : SupM Value) :=
  locks_ofExcept (.ok value) weaker

private theorem exchangeHello_locked (peer : Side) (handoffId : HandoffId) (expectedRole : Side)
    (expectedPid : Option UInt32) (first : unread peer = true) :
    Locked world fuel (Twin unread) (Twin (Function.update unread peer false))
      (exchangeHelloAsSupervisor peer handoffId expectedRole expectedPid) := by
  refine (pollFree_locked (Reliable.issues (armRecvTimeout_reliable _ _ rfl rfl))).bind fun _ => ?_
  refine (firstPoll_locked first).bind fun polled => pollFree_locked ?_
  refine issues_bind (clearRecvTimeout_settling peer).steady.pollFree fun _ => ?_
  exact (ruleOnHello_settling _ _ _ _ _ _).steady.pollFree

/-! ### From `PrepareHandoff` on -/

private theorem prepare_locked (locals : HandoffLocals) :
    Locked world fuel (Twin unread) Aligned (prepare locals fuel) := by
  refine (pollFree_locked (Reliable.issues (remainingUntil_reliable _ rfl))).bind fun remaining => ?_
  refine (pollFree_locked (issues_call rfl)).bind fun written => ?_
  refine (pollFree_locked (issues_ofExcept _)).bind fun _ => ?_
  refine (pollFree_locked (addDuration_within _ _).issues).bind fun timeout => ?_
  refine Locks.bind ?_ fun _ => steady_locked (locals.journal_settling .draining).steady
  exact (readUntil_waitsFor .incumbent timeout "Drained" isDrained).locked.weaken
    (fun _ _ twin => twin.aligned) (fun _ _ aligned => aligned)

/-- The time that is left may differ; it is not seen unless it runs out. -/
private theorem readyWait_waitsFor (locals : HandoffLocals) :
    WaitsFor world fuel .successor isReady (fun outcome => .ok outcome) (do
      let remaining ← remainingUntil locals.totalDeadlineAt
      let timeout ← addDuration remaining wireSlack
      SupM.catchError (readUntil .successor timeout "Ready" isReady fuel)) := by
  refine WaitsFor.remaining fun remaining => ?_
  exact WaitsFor.sum (readUntil_waitsFor .successor _ "Ready" isReady).catchError

private theorem awaitReady_locked (locals : HandoffLocals) :
    Locked world fuel Aligned Aligned (awaitReady locals fuel) := by
  refine (steady_locked (issues_call rfl)).bind fun written => ?_
  cases written with
  | error cause => exact locked_pure _ fun _ _ aligned => aligned
  | ok _ =>
      refine (steady_locked (locals.journal_settling .awaitingReady).steady).bind fun _ => ?_
      exact (readyWait_waitsFor locals).locked

private theorem finishHandoff_locked (locals : HandoffLocals) :
    Locked world fuel Aligned Aligned (finishHandoff locals fuel) := by
  refine (steady_locked (locals.journal_settling .sealing).steady).bind fun _ => ?_
  refine (awaitReady_locked locals).bind fun verdict => ?_
  exact locks_ite (steady_locked (commitHandoff_settling locals).steady)
    (steady_locked (abortHandoff_settling locals _).steady)

private theorem sealAndFinish_locked (locals : HandoffLocals) :
    Locked world fuel Aligned Aligned (sealAndFinish locals fuel) := by
  refine (steady_locked (issues_call rfl)).bind fun written => ?_
  refine (steady_locked (issues_ofExcept _)).bind fun _ => ?_
  refine (steady_locked (addInstant_within _ _).issues).bind fun deadline => ?_
  refine (sealWaitLoop_waits locals deadline).waitsFor.locked.bind fun outcome => ?_
  refine (steady_locked (clearRecvTimeout_settling .incumbent).steady).bind fun _ => ?_
  cases outcome with
  | ok _ => exact finishHandoff_locked locals
  | error error =>
      refine steady_locked (Settling.steady (dismiss_settling _ _ _ ?_))
      exact issues_bind (journalClear_settling _) fun _ => issues_pure _

/-! ### The whole handoff -/

private theorem ensuringWith_locked {pre : Setting → Setting → Prop} {code : SupM Value}
    {cleanup : Except Halt Value → SupM Unit} (locks : Locked world fuel pre Aligned code)
    (steady : ∀ outcome, Steady (cleanup outcome)) :
    Locked world fuel pre Aligned (ensuringWith code cleanup) := by
  refine locks.ensuringWith ?_ ?_
  · intro outcome store setting fits
    exact (steady_locked (steady outcome) : Locked world fuel Aligned Aligned _).ends store setting fits
  · intro outcome store left right aligned
    exact Issues.drive_same (steady outcome)
      (fun _ _ _ aligned permitted => respond_steady permitted aligned) store aligned

private theorem Locks.toAligned {code : SupM Value}
    (locks : Locked world fuel (Twin unread) (Twin unread) code) :
    Locked world fuel (Twin unread) Aligned code :=
  locks.weaken (fun _ _ twin => twin) (fun _ _ twin => twin.aligned)

private theorem driveHandoff_locked (supervisor : Supervisor) (spec : SpawnSpec)
    (handoffId : HandoffId) (startedUnixMs : UInt64) (totalDeadlineAt : Instant)
    (chosenO : ProtoVersion) (successorPid : UInt32) (first : unread .successor = true) :
    Locked world fuel (Twin unread) Aligned (driveHandoff supervisor spec handoffId startedUnixMs
      totalDeadlineAt chosenO successorPid fuel) := by
  refine (pollFree_locked (issues_call rfl)).bind fun _ => ?_
  refine (pollFree_locked (issues_ofExcept _)).bind fun _ => ?_
  refine (exchangeHello_locked .successor handoffId .successor (some successorPid) first).bind
    fun chosenN => ?_
  refine (pollFree_locked (HandoffLocals.journal_settling _ .negotiating).steady.pollFree).bind
    fun _ => ?_
  exact (prepare_locked _).bind fun _ => sealAndFinish_locked _

private theorem spawnAndDrive_locked (supervisor : Supervisor) (spec : SpawnSpec)
    (handoffId : HandoffId) (startedUnixMs : UInt64) (totalDeadlineAt : Instant)
    (chosenO : ProtoVersion) (first : unread .successor = true) :
    Locked world fuel (Twin unread) Aligned (spawnAndDrive supervisor spec handoffId startedUnixMs
      totalDeadlineAt chosenO fuel) := by
  refine (pollFree_locked (issues_call rfl)).bind fun _ => ?_
  refine (pollFree_locked (issues_ofExcept _)).bind fun _ => ?_
  refine (pollFree_locked (issues_call rfl)).bind fun spawned => ?_
  cases spawned with
  | error cause =>
      apply Locks.toAligned
      apply pollFree_locked
      refine issues_callBind rfl fun _ => ?_
      exact issues_callBind rfl fun _ => issues_raise _
  | ok successorPid =>
      refine (pollFree_locked (issues_update fun _ _ => trivial)).bind fun _ => ?_
      refine (pollFree_locked (issues_call rfl)).bind fun _ => ?_
      refine ensuringWith_locked ?_ fun _ => killAndReap_issues (fun _ => rfl) fun _ => rfl
      exact ensuringWith_locked (driveHandoff_locked supervisor spec handoffId startedUnixMs
        totalDeadlineAt chosenO successorPid first) fun _ => issues_call rfl

private theorem connectAndDrive_locked (supervisor : Supervisor) (spec : SpawnSpec)
    (handoffId : HandoffId) (startedUnixMs : UInt64) (totalDeadlineAt : Instant) :
    Locked world fuel (Twin fun _ => true) Aligned (connectAndDrive supervisor spec handoffId
      startedUnixMs totalDeadlineAt fuel) := by
  refine (pollFree_locked (issues_call rfl)).bind fun _ => ?_
  refine (pollFree_locked (issues_ofExcept _)).bind fun _ => ?_
  refine ensuringWith_locked ?_ fun _ => issues_call rfl
  refine (pollFree_locked (issues_call rfl)).bind fun _ => ?_
  refine (pollFree_locked (issues_ofExcept _)).bind fun _ => ?_
  refine (exchangeHello_locked .incumbent handoffId .incumbent none rfl).bind fun chosenO => ?_
  exact spawnAndDrive_locked supervisor spec handoffId startedUnixMs totalDeadlineAt chosenO rfl

private theorem performHandoff_locked (supervisor : Supervisor) (spec : SpawnSpec) :
    Locked world fuel (Twin fun _ => true) Aligned (performHandoff supervisor spec fuel) := by
  refine (pollFree_locked (issues_call rfl)).bind fun free => ?_
  apply locks_ite
  · refine ensuringWith_locked ?_ fun outcome => issues_call rfl
    refine (pollFree_locked (issues_call rfl)).bind fun handoffId => ?_
    refine (pollFree_locked (issues_call rfl)).bind fun started => ?_
    refine (pollFree_locked (issues_call rfl)).bind fun startedUnixMs => ?_
    refine (pollFree_locked (addInstant_within _ _).issues).bind fun total => ?_
    exact connectAndDrive_locked supervisor spec handoffId startedUnixMs total
  · apply Locks.toAligned
    exact pollFree_locked (issues_ofExcept _)

/-- A handoff with peers that send progress frames behind their first frame, and the
handoff without these: both end, and if neither times out nor overflows the clock
they have the same outcome and the same effects. -/
theorem performHandoff_unchanged (world : Surroundings) (supervisor : Supervisor) (spec : SpawnSpec)
    {frames longer : Side → List Frame}
    (woven : ∀ peer, WovenLater isProgress (frames peer) (longer peer))
    (short : ∀ peer, (frames peer).length < fuel) (long : ∀ peer, (longer peer).length < fuel) :
    ∃ result left result' right,
      (performHandoff supervisor spec fuel {}).drive world.respond ⟨[], frames⟩ = some (result, left) ∧
      (performHandoff supervisor spec fuel {}).drive world.respond ⟨[], longer⟩ =
        some (result', right) ∧
      (waitExpired left.past = false → waitExpired right.past = false →
        result.1 ≠ .error .panic → result'.1 ≠ .error .panic →
          result = result' ∧ effects left.past = effects right.past) := by
  have locked : Locked world fuel (Twin fun _ => true) Aligned (performHandoff supervisor spec fuel) :=
    performHandoff_locked supervisor spec
  obtain ⟨result, left, driven, _, _⟩ := locked.ends {} ⟨[], frames⟩ short
  obtain ⟨result', right, driven', _, _⟩ := locked.ends {} ⟨[], longer⟩ long
  refine ⟨result, left, result', right, driven, driven', ?_⟩
  intro timely timely' returns returns'
  have twin : Twin (fun _ => true) ⟨[], frames⟩ ⟨[], longer⟩ :=
    ⟨rfl, fun peer _ => woven peer, fun peer => (woven peer).woven⟩
  have counted {outcome : Except Halt HandoffOutcome} {last : Setting}
      (timely : waitExpired last.past = false) (returns : outcome ≠ .error .panic) :
      ¬Excused (byEffects fuel) outcome last := by
    intro excused
    rcases excused with lost | ⟨halt, failed, fatal⟩
    · exact absurd (timely.symm.trans lost) Bool.false_ne_true
    · cases fatal
      exact returns failed
  rcases locked.agrees {} _ _ twin short long driven driven' with
    excused | excused | ⟨same, aligned, _⟩
  · exact absurd excused (counted timely returns)
  · exact absurd excused (counted timely' returns')
  · exact ⟨same, aligned.effects⟩

end Handoff
