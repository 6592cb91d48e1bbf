/-
Who writes on the streams of a primitive, and after which failures.

A session is written by the main thread or, while a hook runs, by the heartbeat
thread.  The main thread gives the session up at its first failed write: what it
does from there until the next connection is mute.  The contract also covers the
stream that a successor inherits.
-/

import Handoff.Primitive.Issued

namespace Handoff

open Effects PrimM
open Effects.Code hiding pure bind

variable {past : PrimPast} {store : PrimStore} {Value : Type} {code : PrimM Value}

/-! ### Failures on record -/

def opensSession : PrimEvent → Bool
  | ⟨⟨_, .accept⟩, .ok _⟩ => true
  | _ => false

def failsSession : PrimEvent → Bool
  | ⟨⟨_, .writeFrame .session _ _⟩, .error _⟩ => true
  | _ => false

/-- The main thread failed to write on the current session. -/
def sessionBroken (past : PrimPast) : Bool :=
  past.foldl (fun broken event => !opensSession event && (broken || failsSession event)) false

@[simp]
theorem sessionBroken_append (past : PrimPast) (event : PrimEvent) :
    sessionBroken (past ++ [event]) =
      (!opensSession event && (sessionBroken past || failsSession event)) := by
  rw [sessionBroken, List.foldl_append]
  rfl

def failsControl : PrimEvent → Bool
  | ⟨⟨_, .writeFrame .control _ _⟩, .error _⟩ => true
  | _ => false

def readsBegin : PrimEvent → Bool
  | ⟨⟨_, .readMessage⟩, .ok (_, .begin _)⟩ => true
  | _ => false

def isAnnouncement : Message → Bool
  | .ready .. => true
  | _ => false

/-- The heartbeat threads have joined before the main thread writes, and nobody
writes after a failure of the main thread. -/
def WriteDuty (past : PrimPast) (call : Call PrimStore PrimOp) : Prop :=
  match call.op with
  | .writeFrame .session _ _ => call.store.heartbeats = false ∧ sessionBroken past = false
  | .writeFrame .control _ message => call.store.heartbeats = false ∧
      past.any failsControl = false ∧ (past.any readsBegin = true → isAnnouncement message = true)
  | .readMessage => call.store.heartbeats = false ∧ past.any failsControl = false
  | _ => call.store.heartbeats = true → sessionBroken past = false

/-! ### Mute code -/

def muteOp : PrimOp → Bool
  | .writeFrame .. | .accept | .readMessage => false
  | _ => true

def Joined (store : PrimStore) : Prop := store.heartbeats = false

abbrev Mute {Value : Type} (code : PrimM Value) : Prop := Issues Joined muteOp code

private theorem mute_duty {call : Call PrimStore PrimOp} (joined : Joined call.store)
    (mute : muteOp call.op = true) : WriteDuty past call := by
  obtain ⟨store, op⟩ := call
  unfold WriteDuty
  cases op <;> first
    | contradiction
    | exact fun beating => absurd (joined.symm.trans beating) Bool.false_ne_true

structure MuteEvent (event : PrimEvent) : Prop where
  opens : opensSession event = false
  session : failsSession event = false
  control : failsControl event = false

private theorem muteOp_event {event : PrimEvent} (mute : muteOp event.op.op = true) :
    MuteEvent event := by
  obtain ⟨⟨store, op⟩, answer⟩ := event
  cases op <;> first | contradiction | exact ⟨rfl, rfl, rfl⟩

private theorem sessionBroken_mute {event : PrimEvent} (mute : muteOp event.op.op = true) :
    sessionBroken (past ++ [event]) = sessionBroken past := by
  have quiet := muteOp_event mute
  rw [sessionBroken_append, quiet.opens, quiet.session, Bool.or_false, Bool.not_false,
    Bool.true_and]

private theorem mute_update {change : PrimStore → PrimStore}
    (keeps : ∀ store, (change store).heartbeats = store.heartbeats) :
    Mute (update change : PrimM Unit) := by
  apply issues_update
  intro store joined
  rw [Joined, keeps]
  exact joined

private theorem muteOp_acquires (op : PrimOp) (acquires : acquireOp op = true) :
    muteOp op = true := by
  cases op <;> first | contradiction | rfl

private theorem takeLock_mute : Mute takeLock :=
  takeLock_issues rfl rfl fun _ joined => joined

private theorem onRollback_mute (host : Host) (unknown : String) (handoffId : HandoffId) :
    Mute (onRollback host unknown handoffId) :=
  onRollback_issues host unknown handoffId muteOp_acquires rfl (fun _ _ joined => joined)
    fun _ _ joined => joined

private theorem recoverSession_mute (host : Host) (fuel : Nat) :
    Mute (recoverSession host fuel) := by
  unfold recoverSession acquireWithShortRetry
  apply issues_loadBind
  intro store _
  apply issues_ite _ (issues_ofExcept (.ok ()))
  refine issues_bind (issues_bind (issues_call rfl) fun now => Within.issues
    (acquireRetryLoop_within host _ fuel muteOp_acquires rfl rfl rfl)) fun lock => ?_
  refine issues_bind (mute_update fun _ => rfl) fun _ => ?_
  exact issues_bind (issues_call rfl) fun _ => issues_ofExcept (.ok ())

/-! ### Sessions -/

/-- Code of a session: it writes on an unbroken session only, and when it
succeeds it leaves one. -/
def Careful {Value : Type} (code : PrimM Value) : Prop :=
  ∀ store past, Joined store → sessionBroken past = false →
    Meets WriteDuty (fun outcome now later => Joined now ∧
      (outcome.isOk = true → sessionBroken later = false)) code store past

private theorem Issues.unbroken (mute : Mute code) (joined : Joined store) (broken : Bool)
    (whole : sessionBroken past = broken) :
    Meets WriteDuty (fun _ now later => Joined now ∧ sessionBroken later = broken) code store
      past := by
  apply Code.Issues.meets mute joined (fun now => sessionBroken now = broken) whole
  · intro now call _ calm permitted
    exact mute_duty calm permitted
  · intro now call answer held _ permitted
    rw [sessionBroken_mute permitted]
    exact held

private theorem careful_mute (mute : Mute code) : Careful code := by
  intro store past joined whole
  apply (Issues.unbroken mute joined false whole).mono
  intro outcome now later held
  exact ⟨held.1, fun _ => held.2⟩

private theorem careful_bind {Other : Type} {next : Value → PrimM Other} (first : Careful code)
    (rest : ∀ value, Careful (next value)) : Careful (code >>= next) := by
  intro store past joined whole
  apply Meets.bind (first store past joined whole)
  · intro value now later held
    exact rest value now later held.1 (held.2 rfl)
  · intro cause now later held
    exact ⟨held.1, fun impossible => by cases impossible⟩

private theorem careful_loadBind {next : PrimStore → PrimM Value}
    (rest : ∀ store, Careful (next store)) : Careful (load >>= next) := by
  intro store past joined whole
  exact Meets.loadBind (rest store store past joined whole)

private theorem careful_ite {condition : Prop} [Decidable condition] {first second : PrimM Value}
    (yes : Careful first) (no : Careful second) :
    Careful (if condition then first else second) := by
  intro store past joined whole
  rw [meets_ite]
  exact ⟨fun _ => yes store past joined whole, fun _ => no store past joined whole⟩

private theorem careful_write (version : ProtoVersion) (message : Message) :
    Careful (do ofExcept (← ask (.writeFrame .session version message)) : PrimM Unit) := by
  intro store past joined whole
  refine Meets.callBind ⟨joined, whole⟩ fun written => ?_
  cases written with
  | error cause => exact ⟨joined, fun impossible => by cases impossible⟩
  | ok _ =>
      refine ⟨joined, fun _ => ?_⟩
      rw [sessionBroken_append, whole]
      rfl

private theorem careful_writeBind {version : ProtoVersion} {message : Message}
    {next : Unit → PrimM Value} (rest : Careful (next ())) :
    Careful (ask (.writeFrame .session version message) >>= fun written =>
      ofExcept written >>= next) := by
  intro store past joined whole
  exact careful_bind (careful_write version message) (fun _ => rest) store past joined whole

private theorem mute_duty_whole {op : PrimOp} (mute : muteOp op = true)
    (whole : sessionBroken past = false) : WriteDuty past ⟨store, op⟩ := by
  unfold WriteDuty
  cases op <;> first | contradiction | exact fun _ => whole

private theorem runWithHeartbeats_joins {work : PrimM Value} (joined : Joined store)
    (whole : sessionBroken past = false) (worked : ∀ beats later, sessionBroken later = false →
      Meets WriteDuty (fun _ now last => now.heartbeats = beats ∧ sessionBroken last = false) work
        { store with heartbeats := beats } later) :
    Meets WriteDuty (fun _ now later => Joined now ∧ sessionBroken later = false)
      (runWithHeartbeats work) store past := by
  unfold runWithHeartbeats
  refine Meets.callBind (mute_duty_whole rfl whole) fun cloned => ?_
  have still : sessionBroken (past ++ [⟨⟨store, .tryClone⟩, cloned⟩]) = false :=
    (sessionBroken_mute rfl).trans whole
  cases cloned with
  | error cause =>
      have same : { store with heartbeats := false } = store := by
        rw [← show store.heartbeats = false from joined]
      have plain := worked false _ still
      rw [same] at plain
      exact plain
  | ok _ =>
      apply Meets.updateBind
      rw [meets_ensuring]
      apply (worked true _ still).mono
      intro outcome now later held
      exact ⟨rfl, held.2⟩

private theorem drain_joins (deadline : Instant) (joined : Joined store)
    (whole : sessionBroken past = false) :
    Meets WriteDuty (fun _ now later => Joined now ∧ sessionBroken later = false)
      (runWithHeartbeats do ofExcept (← ask (.drain deadline))) store past := by
  apply runWithHeartbeats_joins joined whole
  intro beats later still
  refine Meets.callBind (mute_duty_whole rfl still) fun report => ?_
  exact ⟨rfl, (sessionBroken_mute rfl).trans still⟩

private theorem seal_joins (joined : Joined store) (whole : sessionBroken past = false) :
    Meets WriteDuty (fun _ now later => Joined now ∧ sessionBroken later = false)
      (runWithHeartbeats do ofExcept (← ask .seal)) store past := by
  apply runWithHeartbeats_joins joined whole
  intro beats later still
  refine Meets.callBind (mute_duty_whole rfl still) fun report => ?_
  exact ⟨rfl, (sessionBroken_mute rfl).trans still⟩

private theorem onPrepareHandoff_careful (chosen : ProtoVersion) (handoffId : HandoffId)
    (deadlineMs drainGraceMs : UInt64) :
    Careful (onPrepareHandoff chosen handoffId deadlineMs drainGraceMs) := by
  unfold onPrepareHandoff
  apply careful_loadBind
  intro store
  apply careful_ite (careful_mute (issues_ofExcept _))
  refine careful_bind (careful_mute (mute_update fun _ => rfl)) fun _ => ?_
  refine careful_bind (careful_mute (issues_call rfl)) fun now => ?_
  refine careful_bind ?_ fun report => ?_
  · intro store past joined whole
    apply (drain_joins _ joined whole).mono
    intro outcome now later held
    exact ⟨held.1, fun _ => held.2⟩
  · exact careful_bind (careful_mute (mute_update fun _ => rfl)) fun _ => careful_write _ _

private theorem onSealRequest_careful (chosen : ProtoVersion) (handoffId : HandoffId) :
    Careful (onSealRequest chosen handoffId) := by
  unfold onSealRequest
  apply careful_loadBind
  intro store
  apply careful_ite (careful_mute (issues_ofExcept _))
  intro store past joined whole
  refine Meets.attemptBind (seal_joins joined whole) ?_
  intro outcome now later held
  cases outcome with
  | ok report =>
      refine careful_bind (careful_mute takeLock_mute) (fun _ => ?_) now later held.1 held.2
      exact careful_bind (careful_mute (mute_update fun _ => rfl)) fun _ => careful_write _ _
  | error cause =>
      refine careful_writeBind ?_ now later held.1 held.2
      refine careful_bind (careful_mute (issues_call rfl)) fun resumed => ?_
      refine careful_bind (careful_mute (issues_ofExcept _)) fun _ => ?_
      refine careful_bind (careful_mute (mute_update fun _ => rfl)) fun _ => ?_
      exact careful_mute (mute_update fun _ => rfl)

private theorem onMessage_careful (host : Host) (chosen : ProtoVersion) (message : Message) :
    Careful (onMessage host chosen message) := by
  have goesOn {code : PrimM Unit} (careful : Careful code) :
      Careful (do code; pure none : PrimM (Option SessionOutcome)) :=
    careful_bind careful fun _ => careful_mute (issues_ofExcept (.ok none))
  cases message with
  | prepareHandoff handoffId successorPid deadlineMs drainGraceMs =>
      exact goesOn (onPrepareHandoff_careful _ _ _ _)
  | sealRequest handoffId => exact goesOn (onSealRequest_careful _ _)
  | commit handoffId =>
      exact careful_bind (careful_mute (onCommit_within handoffId).issues) fun outcome =>
        careful_mute (issues_ofExcept (.ok (some outcome)))
  | resumeAfterAbort handoffId => exact goesOn (careful_mute (onRollback_mute host _ _))
  | abort handoffId reason => exact goesOn (careful_mute (onRollback_mute host _ _))
  | heartbeat tsMs =>
      exact goesOn (careful_bind (careful_mute (issues_call rfl)) fun _ => careful_write _ _)
  | _ => exact careful_mute (issues_ofExcept _)

private theorem runSessionLoop_careful (host : Host) (chosen : ProtoVersion) (fuel : Nat) :
    Careful (runSessionLoop host chosen fuel) := by
  induction fuel with
  | zero =>
      intro store past joined whole
      exact ⟨mute_duty joined rfl, fun answer => answer.elim⟩
  | succ fuel ih =>
      unfold runSessionLoop
      refine careful_bind (careful_mute (issues_call rfl)) fun polled => ?_
      cases polled with
      | waiting midFrame => exact ih
      | failed cause =>
          apply careful_ite _ (careful_mute (issues_ofExcept _))
          apply careful_loadBind
          intro store
          exact careful_ite (careful_mute (issues_ofExcept _)) (careful_mute (issues_ofExcept (.ok _)))
      | frame version message =>
          refine careful_bind (onMessage_careful host chosen message) fun verdict => ?_
          cases verdict with
          | some outcome => exact careful_mute (issues_ofExcept (.ok outcome))
          | none => exact ih

private theorem incumbentHandshake_careful (host : Host) : Careful (incumbentHandshake host) := by
  unfold incumbentHandshake incumbentHandshakeOf
  apply careful_writeBind
  refine careful_bind (careful_mute (issues_call rfl)) fun armed => ?_
  refine careful_bind (careful_mute (issues_ofExcept _)) fun _ => ?_
  refine careful_bind (careful_mute (issues_call rfl)) fun polled => careful_mute ?_
  cases polled with
  | waiting midFrame => exact issues_ofExcept _
  | failed cause => exact issues_ofExcept _
  | frame version message => cases message <;> exact issues_ofExcept _

/-! ### Serving -/

def Wary {Value : Type} (code : PrimM Value) : Prop :=
  ∀ store past, Joined store →
    Meets WriteDuty (fun _ now _ => Joined now) code store past

private theorem wary_mute (mute : Mute code) : Wary code := by
  intro store past joined
  apply (Issues.unbroken mute joined _ rfl).mono
  intro outcome now later held
  exact held.1

private theorem wary_bind {Other : Type} {next : Value → PrimM Other} (first : Wary code)
    (rest : ∀ value, Wary (next value)) : Wary (code >>= next) := by
  intro store past joined
  refine Meets.bind (first store past joined) ?_ (fun _ _ _ held => held)
  intro value now later held
  exact rest value now later held

private theorem handleSession_wary (host : Host) (fuel : Nat) (joined : Joined store)
    (whole : sessionBroken past = false) :
    Meets WriteDuty (fun _ now _ => Joined now) (handleSession host fuel) store past := by
  unfold handleSession handleSessionOf
  rw [meets_ensuring]
  have closes (now : PrimStore) (later : PrimPast) (here : Joined now) :
      Meets WriteDuty (fun _ last _ => Joined last) (ask (.close .session)) now later :=
    ⟨mute_duty here rfl, fun _ => here⟩
  refine Meets.bind (incumbentHandshake_careful host store past joined whole) ?_ ?_
  · intro chosen now later held
    apply Meets.updateBind
    refine Meets.attemptBind (runSessionLoop_careful host chosen fuel _ later held.1
      (held.2 rfl)) ?_
    intro outcome last final ended
    have resumes : Mute (resumeDrained outcome) := Within.issues (resumeDrained_within outcome rfl)
    refine Meets.bind (wary_mute resumes last final ended.1) ?_ ?_
    · intro _ resumed after here
      exact closes resumed after here
    · intro cause resumed after here
      exact closes resumed after here
  · intro cause now later held
    exact closes now later held.1

private theorem serveConnection_wary (host : Host) (fuel : Nat) (joined : Joined store)
    (whole : sessionBroken past = false) :
    Meets WriteDuty (fun _ now _ => Joined now) (serveConnection host fuel) store past := by
  unfold serveConnection
  have prepares : Mute (prepareSessionStream host) :=
    Within.issues (prepareSessionStream_within host rfl rfl)
  refine Meets.attemptBind (Issues.unbroken prepares joined false whole) ?_
  intro prepared now later held
  cases prepared with
  | error cause =>
      exact wary_bind (wary_mute (issues_call rfl)) (fun _ => wary_mute (issues_ofExcept (.ok none)))
        now later held.1
  | ok _ =>
      refine Meets.attemptBind (handleSession_wary host fuel held.1 held.2) ?_
      intro outcome last final here
      cases outcome with
      | error cause =>
          exact wary_bind (wary_mute (recoverSession_mute host fuel))
            (fun _ => wary_mute (issues_ofExcept (.ok none))) last final here
      | ok ended => cases ended <;> exact here

private theorem serveLoop_wary (host : Host) (fuel : Nat) (backoff : Duration) :
    Wary (serveLoop host fuel backoff) := by
  induction fuel generalizing backoff with
  | zero =>
      intro store past joined
      exact ⟨mute_duty joined rfl, fun answer => answer.elim⟩
  | succ fuel ih =>
      unfold serveLoop
      intro store past joined
      refine Meets.callBind (fun beating =>
        absurd (joined.symm.trans beating) Bool.false_ne_true) fun accepted => ?_
      cases accepted with
      | ok _ =>
          have whole : sessionBroken (past ++ [⟨⟨store, .accept⟩, .ok ()⟩]) = false := by
            rw [sessionBroken_append]
            rfl
          refine Meets.bind (serveConnection_wary host fuel joined whole) ?_
            (fun _ _ _ here => here)
          intro verdict now later here
          cases verdict with
          | some _ => exact here
          | none => exact ih _ now later here
      | error cause =>
          dsimp only
          cases classifyAcceptError cause with
          | retry => exact ih _ store _ joined
          | exhausted =>
              exact wary_bind (wary_mute (issues_call rfl)) (fun _ => ih _) store _ joined
          | fatal => exact joined

theorem serve_wary (host : Host) (fuel : Nat) : Wary (serve host fuel) := by
  unfold serve
  intro store past joined
  rw [meets_ensuring]
  apply (serveLoop_wary host fuel _ store past joined).mono
  intro outcome now later here
  exact wary_bind (wary_mute (issues_call rfl)) (fun _ => wary_mute takeLock_mute) now later here

/-! ### The stream of a successor -/

def controlWhole (past : PrimPast) : Prop := past.any failsControl = false

theorem controlWhole_append {event : PrimEvent} (whole : controlWhole past)
    (fine : failsControl event = false) : controlWhole (past ++ [event]) := by
  rw [controlWhole, List.any_append, show past.any failsControl = false from whole, List.any_cons,
    fine]
  rfl

private theorem Issues.controlled (mute : Mute code) (joined : Joined store)
    (whole : controlWhole past) :
    Meets WriteDuty (fun _ now later => Joined now ∧ controlWhole later) code store past := by
  apply Code.Issues.meets mute joined controlWhole whole
  · intro now call _ calm permitted
    exact mute_duty calm permitted
  · intro now call answer held _ permitted
    exact controlWhole_append held (muteOp_event permitted).control

private theorem waitForBegin_listens (expected : HandoffId) (fuel : Nat) (joined : Joined store)
    (whole : controlWhole past) :
    Meets WriteDuty (fun _ now later => Joined now ∧ controlWhole later)
      (waitForBegin expected fuel) store past := by
  induction fuel generalizing past with
  | zero => exact ⟨mute_duty joined rfl, fun answer => answer.elim⟩
  | succ fuel ih =>
      unfold waitForBegin
      refine Meets.callBind ⟨joined, whole⟩ fun read => ?_
      have still : controlWhole (past ++ [⟨⟨store, .readMessage⟩, read⟩]) :=
        controlWhole_append whole rfl
      refine Meets.ofExceptBind ?_ (fun _ _ => ⟨joined, still⟩)
      intro frame _
      obtain ⟨version, message⟩ := frame
      cases message with
      | begin handoffId =>
          dsimp only
          rw [meets_ite]
          exact ⟨fun _ => ⟨joined, still⟩, fun _ => ⟨joined, still⟩⟩
      | heartbeat tsMs => exact ih still
      | _ => exact ⟨joined, still⟩

private theorem successorHandshake_listens (host : Host) (joined : Joined store) :
    Meets WriteDuty (fun outcome now later => Joined now ∧
      (outcome.isOk = true → controlWhole later)) (successorHandshake host) store [] := by
  unfold successorHandshake successorHandshakeOf
  refine Meets.callBind ⟨joined, rfl, fun impossible => by cases impossible⟩ fun written => ?_
  cases written with
  | error cause => exact ⟨joined, fun impossible => by cases impossible⟩
  | ok _ =>
      refine Meets.callBind ⟨joined, rfl⟩ fun read => ?_
      refine Meets.ofExceptBind ?_ (fun _ _ => ⟨joined, fun impossible => by cases impossible⟩)
      intro frame _
      obtain ⟨version, message⟩ := frame
      cases message with
      | helloAck chosen handoffId => exact ⟨joined, fun _ => rfl⟩
      | _ => exact ⟨joined, fun impossible => by cases impossible⟩

private theorem begunWithLock_listens (host : Host) (fuel : Nat) (joined : Joined store) :
    Meets WriteDuty (fun outcome now later => Joined now ∧
      (outcome.isOk = true → controlWhole later)) (begunWithLock host fuel) store [] := by
  unfold begunWithLock
  refine Meets.attemptBind (?_ : Meets WriteDuty (fun outcome now later => Joined now ∧
      (outcome.isOk = true → controlWhole later)) _ _ _) ?_
  · refine Meets.bind (successorHandshake_listens host joined) ?_
      (fun _ _ _ held => ⟨held.1, fun impossible => by cases impossible⟩)
    intro negotiated now later held
    refine Meets.bind (waitForBegin_listens negotiated.handoffId fuel held.1 (held.2 rfl)) ?_
      (fun _ _ _ held => ⟨held.1, fun impossible => by cases impossible⟩)
    intro _ now later held
    have acquires : Mute (DataDirLock.acquire host) :=
      ((acquire_within host).mono muteOp_acquires).issues
    refine Meets.bind (Issues.controlled acquires held.1 held.2) ?_
      (fun _ _ _ held => ⟨held.1, fun impossible => by cases impossible⟩)
    intro lock now later held
    exact ⟨held.1, fun _ => held.2⟩
  · intro outcome now later held
    cases outcome with
    | ok begun => exact held
    | error cause =>
        exact Meets.callBind (mute_duty held.1 rfl) fun _ =>
          ⟨held.1, fun impossible => by cases impossible⟩

private theorem bindReplacing_mute (host : Host) (lock : DataDirLock) :
    Mute (bindReplacing host lock) := by
  refine bindReplacing_issues host lock (fun op binding => ?_) rfl rfl fun _ joined => joined
  cases op <;> first | contradiction | rfl

private theorem announceAndBind_listens (host : Host) (negotiated : Negotiated)
    (snapshot : ReadinessSnapshot) (lock : DataDirLock) (joined : Joined store)
    (whole : controlWhole past) :
    Meets WriteDuty (fun _ now _ => Joined now) (announceAndBind host negotiated snapshot lock)
      store past := by
  unfold announceAndBind announceReady
  refine Meets.attemptBind (?_ : Meets WriteDuty (fun _ now _ => Joined now) _ _ _) ?_
  · rw [meets_ensuring]
    refine Meets.callBind ⟨joined, whole, fun _ => rfl⟩ fun written => ?_
    exact ⟨mute_duty joined rfl, fun _ => joined⟩
  · intro outcome now later here
    cases outcome with
    | ok _ => exact wary_mute (bindReplacing_mute host lock) now later here
    | error cause =>
        have drops : Mute lock.drop := Within.issues (drop_within lock rfl rfl)
        exact wary_bind (wary_mute drops) (fun _ => wary_mute (issues_ofExcept _)) now later here

theorem runSuccessor_writes (host : Host) (snapshot : ReadinessSnapshot) (fuel : Nat)
    (joined : Joined store) :
    Meets WriteDuty (fun _ now _ => Joined now) (runSuccessor host snapshot fuel) store [] := by
  unfold runSuccessor
  refine Meets.bind (begunWithLock_listens host fuel joined) ?_ (fun _ _ _ held => held.1)
  intro begun now later held
  refine Meets.bind (announceAndBind_listens host begun.1 snapshot begun.2 held.1 (held.2 rfl)) ?_
    (fun _ _ _ here => here)
  intro _ last final here
  exact serve_wary host fuel last final here

end Handoff
