/-
What the functions of `supervisor.rs` can issue.

Each function is walked through here once.  The short ones leave the store alone
and fail on an answer that refuses them only.  Of the steps of a handoff it is
said whether they wait for a peer, and that between the in-flight lock and its
release there is nothing but those steps and the start of one process.
-/

import Handoff.Supervisor.Trace

namespace Handoff

open Effects SupM
open Effects.Code hiding pure bind

variable {Value Other : Type} {allowed : SupOp → Bool}

/-! ### Functions that leave the store alone -/

def refuses : SupEvent → Bool
  | ⟨⟨_, .setReadTimeout ..⟩, .error _⟩ | ⟨⟨_, .journalWrite _⟩, .error _⟩ => true
  | _ => false

def FailsRefused (outcome : Except Halt Value) (later : SupPast) : Prop :=
  match outcome with
  | .ok _ => True
  | .error (.error _) => later.any refuses = true
  | .error .panic => False

/-- Code that keeps to some operations and fails on a refusal only. -/
def Reliable (allowed : SupOp → Bool) (code : SupM Value) : Prop :=
  ∀ store past, Meets (fun _ call => call.store = store ∧ allowed call.op = true)
    (fun outcome now later => now = store ∧ FailsRefused outcome later) code store past

/-- Code that keeps to some operations and does not panic. -/
def Tame (allowed : SupOp → Bool) (code : SupM Value) : Prop :=
  ∀ store past, Meets (fun _ call => call.store = store ∧ allowed call.op = true)
    (fun outcome now _ => now = store ∧ outcome ≠ .error .panic) code store past

theorem Reliable.tame {code : SupM Value} (reliable : Reliable allowed code) :
    Tame allowed code := by
  intro store past
  refine (reliable store past).mono ?_
  rintro outcome now later ⟨same, refused⟩
  refine ⟨same, ?_⟩
  rintro rfl
  exact refused

theorem Tame.within {code : SupM Value} (tame : Tame allowed code) : Within allowed code := by
  intro store past
  exact (tame store past).mono fun _ _ _ held => held.1

theorem Reliable.within {code : SupM Value} (reliable : Reliable allowed code) :
    Within allowed code :=
  reliable.tame.within

theorem clearRecvTimeout_reliable (peer : Side)
    (permitted : allowed (.setReadTimeout peer none) = true) :
    Reliable allowed (clearRecvTimeout peer) := by
  intro store past
  exact Meets.callBind ⟨rfl, permitted⟩ fun _ => ⟨rfl, trivial⟩

theorem armRecvTimeout_reliable (peer : Side) (timeout : Duration)
    (arms : allowed (.setReadTimeout peer (some timeout)) = true)
    (tries : allowed (.readWouldBlock peer) = true) :
    Reliable allowed (armRecvTimeout peer timeout) := by
  intro store past
  refine Meets.callBind ⟨rfl, arms⟩ fun answer => ?_
  cases answer with
  | ok _ => exact ⟨rfl, trivial⟩
  | error cause =>
      rw [meets_ite]
      constructor
      · intro _
        refine Meets.callBind ⟨rfl, tries⟩ fun blocks => ?_
        rw [meets_ite]
        exact ⟨fun _ => ⟨rfl, any_append_of_any (any_last rfl) _⟩, fun _ => ⟨rfl, trivial⟩⟩
      · intro _
        exact ⟨rfl, any_last rfl⟩

theorem remainingUntil_reliable (deadline : Instant) (permitted : allowed .now = true) :
    Reliable allowed (remainingUntil deadline) := by
  intro store past
  exact Meets.callBind ⟨rfl, permitted⟩ fun _ => ⟨rfl, trivial⟩

theorem sendBestEffortAbort_reliable (version : ProtoVersion) (handoffId : HandoffId)
    (reason : String)
    (permitted : allowed (.writeFrame .successor version (.abort handoffId reason)) = true) :
    Reliable allowed (sendBestEffortAbort version handoffId reason) := by
  intro store past
  exact Meets.callBind ⟨rfl, permitted⟩ fun _ => ⟨rfl, trivial⟩

theorem journalSet_reliable (supervisor : Supervisor) (handoffId : HandoffId) (phase : Phase)
    (successorPid : UInt32) (startedAtUnixMs : UInt64)
    (permitted : ∀ record, allowed (.journalWrite record) = true) :
    Reliable allowed (journalSet supervisor handoffId phase successorPid startedAtUnixMs) := by
  intro store past
  unfold journalSet
  cases supervisor.journalPath with
  | none => exact ⟨rfl, trivial⟩
  | some path =>
      refine Meets.callBind ⟨rfl, permitted _⟩ fun written => ?_
      cases written with
      | ok _ => exact ⟨rfl, trivial⟩
      | error cause => exact ⟨rfl, any_last rfl⟩

theorem journalClear_reliable (supervisor : Supervisor)
    (permitted : allowed .journalDelete = true) :
    Reliable allowed (journalClear supervisor) := by
  intro store past
  unfold journalClear
  cases supervisor.journalPath with
  | none => exact ⟨rfl, trivial⟩
  | some path => exact Meets.callBind ⟨rfl, permitted⟩ fun _ => ⟨rfl, trivial⟩

theorem addInstant_within (instant : Instant) (duration : Duration) :
    Within allowed (addInstant instant duration) :=
  within_ite (within_pure _) (within_fail _)

theorem addDuration_within (first second : Duration) :
    Within allowed (addDuration first second) :=
  within_ite (within_pure _) (within_fail _)

/-! ### The handshake -/

section Tame

theorem tame_ask {op : SupOp} (permitted : allowed op = true) : Tame allowed (ask op) := by
  intro store past
  exact ⟨⟨rfl, permitted⟩, fun _ => ⟨rfl, nofun⟩⟩

theorem tame_orErr (outcome : Except Error Value) : Tame allowed (orErr outcome) := by
  intro store past
  refine (meets_ofExcept _).mpr ⟨rfl, ?_⟩
  cases outcome <;> nofun

theorem tame_pure (value : Value) : Tame allowed (pure value : SupM Value) :=
  tame_orErr (.ok value)

theorem tame_raise (cause : Error) : Tame allowed (raise cause : SupM Value) :=
  tame_orErr (.error cause)

theorem tame_bind {code : SupM Value} {next : Value → SupM Other} (first : Tame allowed code)
    (rest : ∀ value, Tame allowed (next value)) : Tame allowed (code >>= next) := by
  intro store past
  refine Meets.bind (first store past) ?_ ?_
  · rintro value now later ⟨rfl, _⟩
    exact rest value now later
  · rintro halt now later ⟨rfl, calm⟩
    refine ⟨rfl, fun panics => calm ?_⟩
    rw [Except.error.inj panics]

end Tame

theorem ruleOnHello_tame (build : Build) (peer : Side) (handoffId : HandoffId) (expectedRole : Side)
    (expectedPid : Option UInt32) (polled : Polled)
    (acks : ∀ version, allowed (.writeFrame peer version (.helloAck version handoffId)) = true) :
    Tame allowed (ruleOnHello build peer handoffId expectedRole expectedPid polled) := by
  rcases ruleOnHello_cases build peer handoffId expectedRole expectedPid polled with
    ⟨cause, refused, _⟩ | ⟨_, _, _, low, high, _, _, _, accepted⟩
  · rw [refused]
    exact tame_raise cause
  · rw [accepted]
    refine tame_bind (tame_orErr _) fun chosen => ?_
    refine tame_bind (tame_ask (acks chosen)) fun written => ?_
    exact tame_bind (tame_orErr written) fun _ => tame_pure chosen

def helloOp (peer : Side) (handoffId : HandoffId) : SupOp → Bool
  | .setReadTimeout other _ | .readWouldBlock other | .pollRead other => other == peer
  | .writeFrame other _ (.helloAck _ id) => other == peer && id == handoffId
  | _ => false

theorem exchangeHelloAsSupervisor_tame (peer : Side) (handoffId : HandoffId) (expectedRole : Side)
    (expectedPid : Option UInt32)
    (greets : ∀ op, helloOp peer handoffId op = true → allowed op = true) :
    Tame allowed (exchangeHelloAsSupervisor peer handoffId expectedRole expectedPid) := by
  refine tame_bind ?_ fun _ => ?_
  · exact (armRecvTimeout_reliable peer _ (greets _ (beq_self_eq_true peer))
      (greets _ (beq_self_eq_true peer))).tame
  refine tame_bind (tame_ask (greets _ (beq_self_eq_true peer))) fun polled => ?_
  refine tame_bind (clearRecvTimeout_reliable peer (greets _ (beq_self_eq_true peer))).tame fun _ => ?_
  refine ruleOnHello_tame _ peer handoffId expectedRole expectedPid polled fun version => greets _ ?_
  simp [helloOp]

/-! ### Steps that wait for nobody -/

def settleOp : SupOp → Bool
  | .setReadTimeout .. | .readWouldBlock _ | .writeFrame .. | .kill _ | .wait _
  | .journalWrite _ | .journalDelete => true
  | _ => false

abbrev Settling (code : SupM Value) : Prop := Issues (fun _ => True) settleOp code

section Issues

variable {code : SupM Value} {next : SupM Value}

theorem issues_raise (cause : Error) : Issues (fun _ => True) allowed (raise cause : SupM Value) :=
  issues_ofExcept (Except.error (Halt.error cause))

theorem issues_catchError (inner : Issues (fun _ => True) allowed code) :
    Issues (fun _ => True) allowed (catchError code) := by
  refine issues_bind (issues_attempt inner) fun outcome => ?_
  cases outcome with
  | ok value => exact issues_pure (Except.ok value)
  | error halt =>
      cases halt with
      | error cause => exact issues_pure (Except.error cause)
      | panic => exact issues_ofExcept _

theorem killAndReap_issues (kills : ∀ pid, allowed (.kill pid) = true)
    (waits : ∀ pid, allowed (.wait pid) = true) :
    Issues (fun _ => True) allowed killAndReap := by
  unfold killAndReap
  refine issues_loadBind fun store _ => ?_
  cases store.guard with
  | none => exact issues_pure ()
  | some pid =>
      refine issues_callBind (kills pid) fun _ => ?_
      refine issues_callBind (waits pid) fun _ => ?_
      exact issues_update fun _ _ => trivial

theorem disarm_issues : Issues (fun _ => True) allowed disarm := by
  refine issues_loadBind fun store _ => ?_
  cases store.guard with
  | none => exact issues_ofExcept _
  | some pid => exact issues_bind (issues_update fun _ _ => trivial) fun _ => issues_pure pid

theorem Reliable.issues (reliable : Reliable allowed code) : Issues (fun _ => True) allowed code :=
  reliable.within.issues

end Issues

theorem ruleOnHello_settling (build : Build) (peer : Side) (handoffId : HandoffId)
    (expectedRole : Side) (expectedPid : Option UInt32) (polled : Polled) :
    Settling (ruleOnHello build peer handoffId expectedRole expectedPid polled) :=
  Within.issues (Tame.within (ruleOnHello_tame _ _ _ _ _ _ fun _ => rfl))

theorem HandoffLocals.journal_settling (locals : HandoffLocals) (phase : Phase) :
    Settling (locals.journal phase) :=
  Reliable.issues (journalSet_reliable _ _ _ _ _ fun _ => rfl)

theorem journalClear_settling (supervisor : Supervisor) : Settling (journalClear supervisor) :=
  Reliable.issues (journalClear_reliable _ rfl)

theorem clearRecvTimeout_settling (peer : Side) : Settling (clearRecvTimeout peer) :=
  Reliable.issues (clearRecvTimeout_reliable peer rfl)

theorem dismiss_settling (version : ProtoVersion) (handoffId : HandoffId) (reason : String)
    {next : SupM Value} (rest : Settling next) :
    Settling (do sendBestEffortAbort version handoffId reason; killAndReap; next) := by
  refine issues_bind (Reliable.issues (sendBestEffortAbort_reliable _ _ _ rfl)) fun _ => ?_
  exact issues_bind (killAndReap_issues (fun _ => rfl) fun _ => rfl) fun _ => rest

theorem abandonSeal_settling (locals : HandoffLocals) (reason : String) :
    Settling (abandonSeal locals reason) := by
  refine issues_bind (clearRecvTimeout_settling _) fun _ => dismiss_settling _ _ _ ?_
  exact issues_bind (journalClear_settling _) fun _ => issues_raise _

theorem commitHandoff_settling (locals : HandoffLocals) : Settling (commitHandoff locals) := by
  refine issues_bind disarm_issues fun child => issues_callBind rfl fun _ => ?_
  refine issues_bind (issues_catchError (locals.journal_settling _)) fun _ => ?_
  exact issues_bind (journalClear_settling _) fun _ => issues_pure _

theorem abortHandoff_settling (locals : HandoffLocals) (verdict : Except Error Message) :
    Settling (abortHandoff locals verdict) := by
  refine dismiss_settling _ _ _ (issues_tried rfl fun _ => ?_)
  refine issues_bind (locals.journal_settling _) fun _ => ?_
  exact issues_bind (journalClear_settling _) fun _ => issues_pure _

/-! ### Steps that wait for a peer -/

def waitOp : SupOp → Bool
  | .now | .pollRead _ | .outOfFuel => true
  | op => settleOp op

theorem settleOp_wait (op : SupOp) (settles : settleOp op = true) : waitOp op = true := by
  cases op with
  | now | pollRead | outOfFuel => rfl
  | _ => exact settles

abbrev Waiting (code : SupM Value) : Prop := Issues (fun _ => True) waitOp code

section Waiting

theorem Settling.waiting {code : SupM Value} (settling : Settling code) : Waiting code :=
  Issues.mono settling settleOp_wait

theorem waiting_stall : Waiting (stall : SupM Value) := by
  intro store past _
  exact ⟨⟨trivial, rfl⟩, fun answer => answer.elim⟩

theorem waiting_giveUp (peer : Side) (cause : Error) :
    Waiting (do clearRecvTimeout peer; raise cause : SupM Value) :=
  issues_bind (clearRecvTimeout_settling peer).waiting fun _ => issues_raise cause

theorem waiting_round {peer : Side} {limit : Instant} {late : SupM Value}
    {next : Polled → SupM Value} (expired : Waiting late) (polled : ∀ answer, Waiting (next answer)) :
    Waiting (do
      let now ← ask .now
      if limit ≤ now then late
      else do
        armRecvTimeout peer (recvTimeout limit now)
        let answer ← ask (.pollRead peer)
        next answer) := by
  refine issues_callBind rfl fun now => issues_ite expired ?_
  refine issues_bind (Reliable.issues (armRecvTimeout_reliable _ _ rfl rfl)) fun _ => ?_
  exact issues_callBind rfl polled

theorem readUntilLoop_waiting (peer : Side) (deadline : Instant) (awaiting : String)
    (pred : Message → Bool) (fuel : Nat) :
    Waiting (readUntilLoop peer deadline awaiting pred fuel) := by
  induction fuel with
  | zero => exact waiting_stall
  | succ fuel ih =>
      refine waiting_round (waiting_giveUp peer _) fun polled => ?_
      split
      · exact ih
      · exact ih
      · refine issues_bind (clearRecvTimeout_settling peer).waiting fun _ => ?_
        exact issues_ite (issues_pure _) (issues_raise _)
      · exact ih
      · exact waiting_giveUp peer _
      · exact waiting_giveUp peer _

theorem readUntil_waiting (peer : Side) (timeout : Duration) (awaiting : String)
    (pred : Message → Bool) (fuel : Nat) :
    Waiting (readUntil peer timeout awaiting pred fuel) := by
  refine issues_callBind rfl fun _ => ?_
  refine issues_bind (addInstant_within _ _).issues fun _ => ?_
  exact readUntilLoop_waiting peer _ awaiting pred fuel

theorem exchangeHelloAsSupervisor_waiting (peer : Side) (handoffId : HandoffId)
    (expectedRole : Side) (expectedPid : Option UInt32) :
    Waiting (exchangeHelloAsSupervisor peer handoffId expectedRole expectedPid) := by
  refine (exchangeHelloAsSupervisor_tame _ _ _ _ fun op greets => ?_).within.issues
  cases op with
  | setReadTimeout | readWouldBlock | pollRead | writeFrame => rfl
  | _ => contradiction

theorem prepare_waiting (locals : HandoffLocals) (fuel : Nat) : Waiting (prepare locals fuel) := by
  refine issues_bind (Reliable.issues (remainingUntil_reliable _ rfl)) fun _ => ?_
  refine issues_tried rfl fun _ => issues_bind (addDuration_within _ _).issues fun _ => ?_
  exact issues_bind (readUntil_waiting _ _ _ _ _) fun _ => (locals.journal_settling _).waiting

theorem sealWaitLoop_waiting (locals : HandoffLocals) (deadline : Instant) (fuel : Nat) :
    Waiting (sealWaitLoop locals deadline fuel) := by
  induction fuel with
  | zero => exact waiting_stall
  | succ fuel ih =>
      refine waiting_round (abandonSeal_settling _ _).waiting fun polled => ?_
      split
      · exact ih
      · exact ih
      · split
        · exact issues_pure _
        · exact waiting_giveUp _ _
      · exact ih
      · exact (abandonSeal_settling _ _).waiting
      · exact waiting_giveUp _ _

theorem awaitReady_waiting (locals : HandoffLocals) (fuel : Nat) :
    Waiting (awaitReady locals fuel) := by
  refine issues_callBind rfl fun written => ?_
  cases written with
  | error cause => exact issues_pure (Except.error cause)
  | ok _ =>
      refine issues_bind (locals.journal_settling _).waiting fun _ => ?_
      refine issues_bind (Reliable.issues (remainingUntil_reliable _ rfl)) fun _ => ?_
      refine issues_bind (addDuration_within _ _).issues fun _ => ?_
      exact issues_catchError (readUntil_waiting _ _ _ _ _)

theorem sealAndFinish_waiting (locals : HandoffLocals) (fuel : Nat) :
    Waiting (sealAndFinish locals fuel) := by
  refine issues_tried rfl fun _ => issues_bind (addInstant_within _ _).issues fun _ => ?_
  refine issues_bind (sealWaitLoop_waiting _ _ _) fun outcome => ?_
  refine issues_bind (clearRecvTimeout_settling _).waiting fun _ => ?_
  cases outcome with
  | error error =>
      refine Settling.waiting (dismiss_settling _ _ _ ?_)
      exact issues_bind (journalClear_settling _) fun _ => issues_pure _
  | ok _ =>
      refine issues_bind (locals.journal_settling _).waiting fun _ => ?_
      refine issues_bind (awaitReady_waiting _ _) fun _ => ?_
      exact issues_ite (commitHandoff_settling _).waiting (abortHandoff_settling _ _).waiting

end Waiting

/-! ### Between the in-flight lock and its release -/

def bodyOp (command : SpawnCommand) : SupOp → Bool
  | .tryLockInFlight | .releaseInFlight _ => false
  | .spawn other => other == command
  | _ => true

/-- Code that leaves the lock alone and starts nothing but `command`. -/
abbrev Body (command : SpawnCommand) (code : SupM Value) : Prop :=
  Issues (fun _ => True) (bodyOp command) code

theorem Waiting.body {command : SpawnCommand} {code : SupM Value} (waiting : Waiting code) :
    Body command code := by
  refine Issues.mono waiting fun op waits => ?_
  cases op with
  | tryLockInFlight | releaseInFlight | spawn => contradiction
  | _ => rfl

theorem connectAndDrive_body (supervisor : Supervisor) (spec : SpawnSpec) (handoffId : HandoffId)
    (startedUnixMs : UInt64) (totalDeadlineAt : Instant) (fuel : Nat) :
    Body (spawnCommand supervisor spec) (connectAndDrive supervisor spec handoffId startedUnixMs
      totalDeadlineAt fuel) := by
  have greets (peer role : Side) (pid : Option UInt32) : Body (spawnCommand supervisor spec)
      (exchangeHelloAsSupervisor peer handoffId role pid) :=
    (exchangeHelloAsSupervisor_waiting _ _ _ _).body
  refine issues_tried rfl fun _ => issues_ensuringWith ?_ fun _ => issues_call rfl
  refine issues_tried rfl fun _ => issues_bind (greets _ _ _) fun chosenO => ?_
  refine issues_tried rfl fun _ => ?_
  refine issues_callBind (beq_self_eq_true _) fun spawning => ?_
  cases spawning with
  | error cause =>
      refine issues_callBind rfl fun _ => issues_callBind rfl fun _ => ?_
      exact issues_raise _
  | ok successorPid =>
      refine issues_bind (issues_update fun _ _ => trivial) fun _ => ?_
      refine issues_callBind rfl fun _ => issues_ensuringWith ?_ fun _ =>
        killAndReap_issues (fun _ => rfl) fun _ => rfl
      refine issues_ensuringWith ?_ fun _ => issues_call rfl
      refine issues_tried rfl fun _ => issues_bind (greets _ _ _) fun chosenN => ?_
      refine issues_bind (HandoffLocals.journal_settling _ _).waiting.body fun _ => ?_
      refine issues_bind (prepare_waiting _ _).body fun _ => ?_
      exact (sealAndFinish_waiting _ _).body

end Handoff
