/-
An incumbent between `SealComplete` and the verdict.

Once `SealComplete` is out the flock is released, and the code that takes it back
runs only after the session has heard something: a frame, or the end of the
stream.  The contract says this in terms of the history; the walk keeps the lock
variable and the kernel lock in step.
-/

import Handoff.Primitive.ServeRuns

namespace Handoff

open Effects PrimM
open Effects.Code hiding pure bind

variable {Value : Type} {code : PrimM Value}

/-! ### Waiting for the verdict -/

def reportsSeal : PrimEvent → Bool
  | ⟨⟨_, .writeFrame .session _ (.sealComplete ..)⟩, .ok _⟩ => true
  | _ => false

def awaitsAfter (waiting : Bool) : PrimEvent → Bool
  | ⟨⟨_, .writeFrame .session _ (.sealComplete ..)⟩, .ok _⟩ => true
  | ⟨⟨_, .pollRead _⟩, .frame ..⟩ | ⟨⟨_, .pollRead _⟩, .failed _⟩ => false
  | _ => waiting

/-- `SealComplete` went out, and the session has heard nothing since. -/
def awaits (past : PrimPast) : Bool := past.foldl awaitsAfter false

@[simp]
theorem awaits_append (past : PrimPast) (event : PrimEvent) :
    awaits (past ++ [event]) = awaitsAfter (awaits past) event := by
  rw [awaits, List.foldl_append]
  rfl

def sealAsked (past : PrimPast) : Bool := (sessionReads past).any isSealRequest

def SealDuty (holding : Bool) (past : PrimPast) (call : Call PrimStore PrimOp) : Prop :=
  match call.op with
  | .writeFrame .session _ (.sealComplete ..) =>
      flockHeld holding past = false ∧ sealAsked past = true
  -- the inherited stream is not an incumbent's
  | .writeFrame .control _ _ => False
  | .flock | .accept => awaits past = false
  | _ => True

/-- Who awaits the verdict was asked to seal, and has given up the flock. -/
theorem SealDuty.awaiting {holding : Bool} {events : PrimPast}
    (kept : ∀ before event after, events = before ++ event :: after →
      SealDuty holding before event.op) (waiting : awaits events = true) :
    flockHeld holding events = false ∧ sealAsked events = true := by
  induction events using List.reverseRecOn with
  | nil => contradiction
  | append_singleton past event ih =>
      have duty := kept past event [] rfl
      have earlier (before : awaits past = true) :
          flockHeld holding past = false ∧ sealAsked past = true := by
        apply ih _ before
        intro before other after split
        exact kept before other (after ++ [event]) (by rw [split, List.append_assoc]; rfl)
      unfold sealAsked at earlier duty ⊢
      rw [awaits_append] at waiting
      rw [flockHeld_append, sessionReads_append]
      obtain ⟨⟨store, op⟩, answer⟩ := event
      cases op with
      | flock => exact absurd (duty.symm.trans waiting) Bool.false_ne_true
      | accept => exact absurd (duty.symm.trans waiting) Bool.false_ne_true
      | closeLockFile => exact ⟨rfl, (earlier waiting).2⟩
      | releaseFlock => exact ⟨rfl, (earlier waiting).2⟩
      | pollRead armed =>
          cases answer with
          | waiting midFrame => exact earlier waiting
          | _ => contradiction
      | writeFrame channel version message =>
          cases channel with
          | control => exact duty.elim
          | session =>
              cases message with
              | sealComplete handoffId lastRevision fingerprint => exact duty
              | _ => exact earlier waiting
      | _ => exact earlier waiting

/-! ### Code that neither locks nor reports -/

def humbleOp : PrimOp → Bool
  | .flock | .closeLockFile | .releaseFlock | .accept => false
  | .writeFrame .control _ _ | .writeFrame .session _ (.sealComplete ..) => false
  | _ => true

/-- The lock variable is full or empty, and empty in a sealed session that is `tidy`. -/
def Keeping (held tidy : Bool) (store : PrimStore) : Prop :=
  store.lock.isSome = held ∧ (tidy = true → store.state.sealed = true → store.lock = none)

/-- Such code, which also leaves the lock variable alone and sets no seal. -/
def Humble {Value : Type} (code : PrimM Value) : Prop :=
  ∀ held tidy : Bool, Issues (Keeping held tidy) humbleOp code

private theorem humble_within (within : Within humbleOp code) :
    Humble code := fun _ _ => within.issues

private theorem humble_call {op : PrimOp} (humble : humbleOp op = true) : Humble (ask op) :=
  humble_within (within_call humble)

private theorem humble_ofExcept (outcome : Except Error Value) :
    Humble (ofExcept outcome : PrimM Value) :=
  humble_within (within_ofExcept outcome)

private theorem humble_bind {Other : Type} {next : Value → PrimM Other} (first : Humble code)
    (rest : ∀ value, Humble (next value)) : Humble (code >>= next) :=
  fun held tidy => issues_bind (first held tidy) fun value => rest value held tidy

private theorem humble_askBind {op : PrimOp} {next : PrimAns op → PrimM Value}
    (humble : humbleOp op = true) (rest : ∀ answer, Humble (next answer)) :
    Humble (ask op >>= next) :=
  humble_bind (humble_call humble) rest

private theorem humble_loadBind {next : PrimStore → PrimM Value}
    (rest : ∀ store, Humble (next store)) : Humble (load >>= next) :=
  fun held tidy => issues_loadBind fun store _ => rest store held tidy

private theorem humble_update {change : PrimStore → PrimStore}
    (keeps : ∀ store, (change store).lock = store.lock)
    (unsealed : ∀ store, (change store).state.sealed = true → store.state.sealed = true) :
    Humble (update change : PrimM Unit) := by
  intro held tidy
  apply issues_update
  intro store here
  refine ⟨?_, fun wanted sealed => ?_⟩
  · rw [keeps]
    exact here.1
  · rw [keeps]
    exact here.2 wanted (unsealed store sealed)

private theorem humble_ite {condition : Prop} [Decidable condition] {first second : PrimM Value}
    (yes : Humble first) (no : Humble second) : Humble (if condition then first else second) :=
  fun held tidy => issues_ite (yes held tidy) (no held tidy)

private theorem humble_runWithHeartbeats {work : PrimM Value} (worked : Humble work) :
    Humble (runWithHeartbeats work) :=
  fun held tidy => runWithHeartbeats_issues rfl (fun _ _ keeping => keeping) (worked held tidy)

/-- The lock variable follows the kernel lock, and no verdict is awaited.  A `tidy`
session has no lock once it is sealed, and `asked` says that a seal was asked for. -/
structure Booked (holding tidy asked : Bool) (store : PrimStore) (past : PrimPast) : Prop where
  agrees : store.lock.isSome = flockHeld holding past
  sealedFree : tidy = true → store.state.sealed = true → store.lock = none
  idle : awaits past = false
  request : asked = true → sealAsked past = true

private theorem sealAsked_kept {past : PrimPast} {event : PrimEvent} (other : event.op.op ≠ .accept)
    (asked : sealAsked past = true) : sealAsked (past ++ [event]) = true := by
  unfold sealAsked
  rw [sessionReads_append]
  split
  · exact absurd rfl other
  · rw [List.any_append, show (sessionReads past).any isSealRequest = true from asked, Bool.true_or]
  · exact asked

structure HumbleEvent (event : PrimEvent) : Prop where
  kernel : flockChange? event = none
  waiting : awaitsAfter false event = false
  session : event.op.op ≠ .accept

private theorem humbleOp_event (event : PrimEvent) (humble : humbleOp event.op.op = true) :
    HumbleEvent event := by
  obtain ⟨⟨store, op⟩, answer⟩ := event
  cases op with
  | pollRead armed => cases answer <;> exact ⟨rfl, rfl, fun same => by cases same⟩
  | writeFrame channel version message =>
      cases channel with
      | control => contradiction
      | session =>
          cases message <;> first
            | contradiction
            | exact ⟨rfl, rfl, fun same => by cases same⟩
  | _ => first | contradiction | exact ⟨rfl, rfl, fun same => by cases same⟩

private theorem humbleOp_duty {holding : Bool} {past : PrimPast} {call : Call PrimStore PrimOp}
    (humble : humbleOp call.op = true) : SealDuty holding past call := by
  obtain ⟨store, op⟩ := call
  cases op with
  | writeFrame channel version message =>
      cases channel with
      | control => contradiction
      | session => cases message <;> first | contradiction | trivial
  | _ => first | contradiction | trivial

variable {holding tidy asked : Bool} {store : PrimStore} {past : PrimPast}

theorem Humble.keeps (humble : Humble code) (booked : Booked holding tidy asked store past) :
    Meets (SealDuty holding) (fun _ => Booked holding tidy asked) code store past := by
  have met : Meets (SealDuty holding) (fun _ now later => Keeping store.lock.isSome tidy now ∧
      flockHeld holding later = store.lock.isSome ∧ awaits later = false ∧
        (asked = true → sealAsked later = true)) code store past := by
    apply (humble store.lock.isSome tidy).meets ⟨rfl, booked.sealedFree⟩
      (fun now => flockHeld holding now = store.lock.isSome ∧ awaits now = false ∧
        (asked = true → sealAsked now = true))
    · exact ⟨booked.agrees.symm, booked.idle, booked.request⟩
    · intro now call _ _ permitted
      exact humbleOp_duty permitted
    · intro now call answer held _ permitted
      have event := humbleOp_event ⟨call, answer⟩ permitted
      refine ⟨(flockHeld_kept _ event.kernel).trans held.1, ?_, fun wanted => ?_⟩
      · rw [awaits_append, held.2.1]
        exact event.waiting
      · exact sealAsked_kept event.session (held.2.2 wanted)
  apply met.mono
  intro outcome now later held
  exact ⟨held.1.1.trans held.2.1.symm, held.1.2, held.2.2.1, held.2.2.2⟩

private theorem onPrepareHandoff_humble (chosen : ProtoVersion) (handoffId : HandoffId)
    (deadlineMs drainGraceMs : UInt64) :
    Humble (onPrepareHandoff chosen handoffId deadlineMs drainGraceMs) := by
  unfold onPrepareHandoff
  apply humble_loadBind
  intro store
  apply humble_ite (humble_ofExcept _)
  refine humble_bind (humble_update (fun _ => rfl) fun _ => id)
    fun _ => humble_askBind rfl fun now => ?_
  refine humble_bind (humble_runWithHeartbeats (humble_askBind rfl fun report =>
    humble_ofExcept report)) fun report => ?_
  refine humble_bind (humble_update (fun _ => rfl) fun _ => id) fun _ => ?_
  exact humble_askBind rfl fun written => humble_ofExcept written

private theorem sealRun_humble :
    Humble (runWithHeartbeats do ofExcept (← ask .seal) : PrimM SealReport) :=
  humble_runWithHeartbeats (humble_askBind rfl fun report => humble_ofExcept report)

/-! ### The lock -/

private theorem takeLock_books (booked : Booked holding tidy asked store past) :
    Meets (SealDuty holding) (fun _ now later => now.lock = none ∧ Booked holding true asked now later)
      takeLock store past := by
  unfold takeLock
  apply Meets.loadBind
  apply Meets.updateBind
  cases present : store.lock with
  | none =>
      have agrees := booked.agrees
      rw [present] at agrees
      exact ⟨rfl, agrees, fun _ _ => rfl, booked.idle, booked.request⟩
  | some lock =>
      refine Meets.callBind trivial fun _ => ⟨trivial, fun _ => ⟨rfl, ?_, fun _ _ => rfl, ?_, ?_⟩⟩
      · rw [flockHeld_append]
        rfl
      · rw [awaits_append, awaits_append, booked.idle]
        rfl
      · intro wanted
        apply sealAsked_kept (fun same => by cases same)
        exact sealAsked_kept (fun same => by cases same) (booked.request wanted)

def Takes (holding : Bool) (store : PrimStore) (outcome : Except Error DataDirLock)
    (now : PrimStore) (later : PrimPast) : Prop :=
  now = store ∧ flockHeld holding later = outcome.isOk ∧ awaits later = false

theorem acquire_takes (host : Host) (free : flockHeld holding past = false)
    (idle : awaits past = false) :
    Meets (SealDuty holding) (Takes holding store) (DataDirLock.acquire host) store past := by
  have kept := Program.Keeps.invariant (acquire_spec host store free)
    (fun now => awaits now = false) idle (by
      rintro now ⟨other, op⟩ answer held ⟨_, acquiring, _⟩
      rw [awaits_append, held]
      cases op <;> first | contradiction | rfl)
  refine Program.Keeps.mono kept ?_ ?_
  · rintro now ⟨other, op⟩ ⟨held, _, acquiring, _⟩
    cases op <;> first | contradiction | trivial
  · rintro result now ⟨held, same, _, kernel⟩
    exact ⟨same, kernel, held⟩

private theorem acquireRetryLoop_takes (host : Host) (deadline : Instant) (fuel : Nat)
    (free : flockHeld holding past = false) (idle : awaits past = false) :
    Meets (SealDuty holding) (Takes holding store) (acquireRetryLoop host deadline fuel) store
      past := by
  induction fuel generalizing past with
  | zero => exact ⟨trivial, fun answer => answer.elim⟩
  | succ fuel ih =>
      unfold acquireRetryLoop
      refine Meets.attemptBind (acquire_takes host free idle) ?_
      intro outcome now later taken
      obtain ⟨rfl, kernel, calm⟩ := taken
      cases outcome with
      | ok lock => exact ⟨rfl, kernel, calm⟩
      | error cause =>
          cases cause with
          | lockHeld holderPid =>
              refine Meets.callBind trivial fun instant => ?_
              have free := (flockHeld_kept ⟨⟨now, .now⟩, instant⟩ rfl).trans kernel
              have idle := (awaits_append later ⟨⟨now, .now⟩, instant⟩).trans calm
              rw [meets_ite]
              refine ⟨fun _ => Meets.callBind trivial fun rested => ?_, fun _ => ⟨rfl, free, idle⟩⟩
              apply ih ((flockHeld_kept _ rfl).trans free)
              rw [awaits_append, idle]
              rfl
          | _ => exact ⟨rfl, kernel, calm⟩

theorem Booked.bare (agrees : store.lock.isSome = flockHeld holding past)
    (idle : awaits past = false) : Booked holding false false store past where
  agrees := agrees
  sealedFree := fun impossible => absurd impossible Bool.false_ne_true
  idle := idle
  request := fun impossible => absurd impossible Bool.false_ne_true

private theorem Booked.loose (booked : Booked holding tidy asked store past) :
    Booked holding false false store past :=
  .bare booked.agrees booked.idle

theorem Booked.next {now : PrimStore} (booked : Booked holding tidy asked store past)
    (event : PrimEvent) (kernel : flockChange? event = none)
    (waiting : awaitsAfter false event = false) (same : now.lock = store.lock) :
    Booked holding false false now (past ++ [event]) := by
  apply Booked.bare
  · rw [same, flockHeld_kept event kernel]
    exact booked.agrees
  · rw [awaits_append, booked.idle]
    exact waiting

theorem Takes.got {lock : DataDirLock} {now : PrimStore} {later : PrimPast}
    (taken : Takes holding store (.ok lock) now later) :
    Booked holding false false { now with lock := some lock } later :=
  .bare taken.2.1.symm taken.2.2

theorem Takes.missed {cause : Error} {now : PrimStore} {later : PrimPast}
    (taken : Takes holding store (.error cause) now later) (free : store.lock = none) :
    Booked holding false false now later := by
  obtain ⟨rfl, kernel, calm⟩ := taken
  apply Booked.bare _ calm
  rw [free, kernel]
  rfl

/-! ### The session -/

/-- What holds at the head of the session loop, whether a verdict is awaited or not. -/
structure Heading (holding : Bool) (store : PrimStore) (past : PrimPast) : Prop where
  agrees : store.lock.isSome = flockHeld holding past
  sealedFree : store.state.sealed = true → store.lock = none

/-- An arm goes back to the loop, or leaves the session with nothing awaited. -/
def AfterReport (holding : Bool) {Value : Type} (outcome : Except Error Value) (store : PrimStore)
    (past : PrimPast) : Prop :=
  match outcome with
  | .ok _ => Heading holding store past
  | .error _ => Booked holding false false store past

theorem Booked.report (booked : Booked holding true asked store past)
    (outcome : Except Error Value) : AfterReport holding outcome store past := by
  cases outcome with
  | ok value => exact ⟨booked.agrees, booked.sealedFree rfl⟩
  | error cause => exact booked.loose

theorem Humble.reports (humble : Humble code) (booked : Booked holding true asked store past) :
    Meets (SealDuty holding) (AfterReport holding) code store past := by
  apply (humble.keeps booked).mono
  intro outcome now later held
  exact held.report outcome

private theorem onSealRequest_reports (chosen : ProtoVersion) (handoffId : HandoffId)
    (booked : Booked holding true true store past) :
    Meets (SealDuty holding) (AfterReport holding) (onSealRequest chosen handoffId) store past := by
  unfold onSealRequest
  apply Meets.loadBind
  rw [meets_ite]
  refine ⟨fun _ => booked.loose, fun _ => ?_⟩
  refine Meets.attemptBind (sealRun_humble.keeps booked) ?_
  intro outcome now later held
  cases outcome with
  | ok report =>
      refine Meets.bind (takeLock_books held) ?_ (fun _ _ _ kept => kept.2.loose)
      intro _ after last kept
      obtain ⟨free, books⟩ := kept
      apply Meets.updateBind
      have released : flockHeld holding last = false := by
        rw [← books.agrees, free]
        rfl
      refine Meets.callBind ⟨released, books.request rfl⟩ fun written => ?_
      cases written with
      | ok _ => exact ⟨books.agrees.trans (flockHeld_kept _ rfl).symm, fun _ => free⟩
      | error cause =>
          exact books.next _ rfl rfl rfl
  | error cause =>
      apply Humble.reports _ held
      refine humble_askBind rfl fun written => humble_bind (humble_ofExcept _) fun _ => ?_
      refine humble_askBind rfl fun resumed => humble_bind (humble_ofExcept _) fun _ => ?_
      exact humble_bind (humble_update (fun _ => rfl) fun _ => id) fun _ =>
        humble_update (fun _ => rfl) fun _ => id

private theorem onRollback_reports (host : Host) (unknown : String) (handoffId : HandoffId)
    (booked : Booked holding true asked store past) :
    Meets (SealDuty holding) (AfterReport holding) (onRollback host unknown handoffId) store
      past := by
  unfold onRollback
  apply Meets.loadBind
  rw [meets_ite]
  refine ⟨fun _ => booked.loose, fun _ => ?_⟩
  have clears : Humble (setActive none) := humble_update (fun _ => rfl) fun _ => id
  have undrains : Humble (setDrained false) := humble_update (fun _ => rfl) fun _ => id
  dsimp only
  rw [meets_ite, meets_ite]
  refine ⟨fun sealed => ?_, fun _ => ⟨fun _ => ?_, fun _ => clears.reports booked⟩⟩
  · have free := booked.sealedFree rfl sealed
    have released : flockHeld holding past = false := by
      rw [← booked.agrees, free]
      rfl
    refine Meets.bind (acquire_takes host released booked.idle) ?_
      (fun _ _ _ taken => taken.missed free)
    intro lock now later taken
    apply Meets.updateBind
    refine Meets.callBind trivial fun resumed => ?_
    have kept := (flockHeld_kept
      ⟨⟨{ now with lock := some lock }, .resumeAfterAbort⟩, resumed⟩ rfl).trans taken.got.agrees.symm
    refine Meets.ofExceptBind (fun _ _ => ⟨kept.symm, fun impossible => by cases impossible⟩)
      (fun _ _ => Booked.bare kept.symm ?_)
    rw [awaits_append, taken.got.idle]
    rfl
  · apply Humble.reports _ booked
    refine humble_askBind rfl fun resumed => humble_bind (humble_ofExcept _) fun _ => ?_
    exact humble_bind undrains fun _ => clears

/-- The outcome that ends the loop comes with nothing awaited. -/
def AfterWord (holding : Bool) (outcome : Except Error (Option SessionOutcome)) (store : PrimStore)
    (past : PrimPast) : Prop :=
  match outcome with
  | .ok none => Heading holding store past
  | _ => Booked holding false false store past

private theorem AfterReport.word {code : PrimM Unit}
    (met : Meets (SealDuty holding) (AfterReport holding) code store past) :
    Meets (SealDuty holding) (AfterWord holding) (do code; pure none) store past :=
  Meets.bind met (fun _ _ _ head => head) (fun _ _ _ ended => ended)

private theorem onMessage_words (host : Host) (chosen version : ProtoVersion) (message : Message)
    (head : Heading holding store past) :
    Meets (SealDuty holding) (AfterWord holding) (onMessage host chosen message) store
      (past ++ [⟨⟨store, .pollRead false⟩, .frame version message⟩]) := by
  have kernel := head.agrees.trans
    (flockHeld_kept ⟨⟨store, .pollRead false⟩, .frame version message⟩ rfl).symm
  have heard : awaits (past ++ [⟨⟨store, .pollRead false⟩, .frame version message⟩]) = false :=
    awaits_append ..
  have read : Booked holding true false store
      (past ++ [⟨⟨store, .pollRead false⟩, .frame version message⟩]) :=
    ⟨kernel, fun _ => head.sealedFree, heard, fun impossible => by cases impossible⟩
  cases message with
  | prepareHandoff handoffId successor deadlineMs drainGraceMs =>
      exact AfterReport.word
        (Humble.reports (onPrepareHandoff_humble chosen handoffId deadlineMs drainGraceMs) read)
  | sealRequest handoffId =>
      apply AfterReport.word
      apply onSealRequest_reports
      refine ⟨kernel, fun _ => head.sealedFree, heard, fun _ => ?_⟩
      unfold sealAsked
      rw [sessionReads_append]
      simp [isSealRequest]
  | commit handoffId =>
      refine Meets.bind (Humble.keeps (humble_within (onCommit_within handoffId)) read) ?_
        (fun _ _ _ ended => ended.loose)
      intro ended now later committed
      exact committed.loose
  | resumeAfterAbort handoffId => exact AfterReport.word (onRollback_reports host _ handoffId read)
  | abort handoffId reason => exact AfterReport.word (onRollback_reports host _ handoffId read)
  | heartbeat tsMs =>
      have echoes := humble_within (onHeartbeat_within chosen rfl fun _ => rfl)
      exact AfterReport.word (Humble.reports echoes read)
  | _ => exact read.loose

private theorem runSessionLoop_books (host : Host) (chosen : ProtoVersion) (fuel : Nat)
    (head : Heading holding store past) :
    Meets (SealDuty holding) (fun _ => Booked holding false false)
      (runSessionLoop host chosen fuel) store past := by
  induction fuel generalizing past store with
  | zero => exact ⟨trivial, fun answer => answer.elim⟩
  | succ fuel ih =>
      unfold runSessionLoop
      refine Meets.callBind trivial fun polled => ?_
      have kernel := head.agrees.trans (flockHeld_kept ⟨⟨store, .pollRead false⟩, polled⟩ rfl).symm
      cases polled with
      | waiting midFrame => exact ih ⟨kernel, head.sealedFree⟩
      | failed cause =>
          have ended : Booked holding false false store
              (past ++ [⟨⟨store, .pollRead false⟩, .failed cause⟩]) :=
            .bare kernel (awaits_append ..)
          dsimp only
          rw [meets_ite]
          refine ⟨fun _ => Meets.loadBind ?_, fun _ => ended⟩
          rw [meets_ite]
          exact ⟨fun _ => ended, fun _ => ended⟩
      | frame version message =>
          refine Meets.bind (onMessage_words host chosen version message head) ?_
            (fun _ _ _ ended => ended)
          intro outcome now later after
          cases outcome with
          | none => exact ih after
          | some ended => exact after

private theorem handleSession_books (host : Host) (fuel : Nat)
    (booked : Booked holding false false store past) :
    Meets (SealDuty holding) (fun _ => Booked holding false false) (handleSession host fuel) store
      past := by
  unfold handleSession handleSessionOf
  rw [meets_ensuring]
  have closes (now : PrimStore) (later : PrimPast) (held : Booked holding false false now later) :
      Meets (SealDuty holding) (fun _ => Booked holding false false) (ask (.close .session)) now
        later := Humble.keeps (humble_call rfl) held
  have greets := humble_within (incumbentHandshake_within host rfl rfl rfl)
  refine Meets.bind (Humble.keeps greets booked) ?_
    (fun _ now later held => closes now later held)
  intro chosen now later held
  apply Meets.updateBind
  refine Meets.attemptBind (runSessionLoop_books host chosen fuel
    ⟨held.agrees, fun impossible => by cases impossible⟩) ?_
  intro outcome last final ended
  refine Meets.bind (Humble.keeps (humble_within (resumeDrained_within outcome rfl)) ended) ?_
    (fun _ resumed after here => closes resumed after here)
  intro _ resumed after here
  exact closes resumed after here

private theorem recoverSession_books (host : Host) (fuel : Nat)
    (booked : Booked holding false false store past) :
    Meets (SealDuty holding) (fun _ => Booked holding false false) (recoverSession host fuel) store
      past := by
  unfold recoverSession
  apply Meets.loadBind
  rw [meets_ite]
  refine ⟨fun free => ?_, fun _ => booked⟩
  rw [Option.isNone_iff_eq_none] at free
  have released : flockHeld holding past = false := by
    rw [← booked.agrees, free]
    rfl
  unfold acquireWithShortRetry
  refine Meets.bind (Meets.callBind trivial fun instant =>
    acquireRetryLoop_takes host _ fuel ((flockHeld_kept _ rfl).trans released)
      ((awaits_append ..).trans booked.idle)) ?_ (fun _ _ _ taken => taken.missed free)
  intro lock now later taken
  apply Meets.updateBind
  exact Humble.keeps (humble_askBind rfl fun _ => humble_ofExcept (.ok ())) taken.got

private theorem serveConnection_books (host : Host) (fuel : Nat)
    (booked : Booked holding false false store past) :
    Meets (SealDuty holding) (fun _ => Booked holding false false) (serveConnection host fuel) store
      past := by
  unfold serveConnection
  have prepares := humble_within (prepareSessionStream_within host rfl rfl)
  refine Meets.attemptBind (Humble.keeps prepares booked) ?_
  intro prepared now later held
  cases prepared with
  | error cause => exact Humble.keeps (humble_askBind rfl fun _ => humble_ofExcept (.ok none)) held
  | ok _ =>
      refine Meets.attemptBind (handleSession_books host fuel held) ?_
      intro outcome last final ended
      cases outcome with
      | error cause =>
          refine Meets.bind (recoverSession_books host fuel ended) ?_ (fun _ _ _ here => here)
          intro _ resumed after here
          exact here
      | ok verdict => cases verdict <;> exact ended

private theorem serveLoop_books (host : Host) (fuel : Nat) (backoff : Duration)
    (booked : Booked holding false false store past) :
    Meets (SealDuty holding) (fun _ => Booked holding false false) (serveLoop host fuel backoff)
      store past := by
  induction fuel generalizing backoff store past with
  | zero => exact ⟨trivial, fun answer => answer.elim⟩
  | succ fuel ih =>
      unfold serveLoop
      refine Meets.callBind booked.idle fun accepted => ?_
      cases accepted with
      | ok _ =>
          refine Meets.bind (serveConnection_books host fuel (booked.next _ rfl rfl rfl)) ?_
            (fun _ _ _ here => here)
          intro verdict now later here
          cases verdict with
          | some _ => exact here
          | none => exact ih _ here
      | error cause =>
          dsimp only
          cases classifyAcceptError cause with
          | retry => exact ih _ (booked.next _ rfl rfl rfl)
          | fatal => exact booked.next _ rfl rfl rfl
          | exhausted =>
              refine Meets.bind (Humble.keeps (humble_call rfl) (booked.next _ rfl rfl rfl)) ?_
                (fun _ _ _ here => here)
              intro _ now later here
              exact ih _ here

theorem serve_books (host : Host) (fuel : Nat) (booked : Booked holding false false store past) :
    Meets (SealDuty holding) (fun _ _ _ => True) (serve host fuel) store past := by
  unfold serve
  rw [meets_ensuring]
  apply (serveLoop_books host fuel _ booked).mono
  intro outcome now later here
  refine Meets.bind (Humble.keeps (humble_call rfl) here) ?_ (fun _ _ _ _ => trivial)
  intro _ last final held
  exact (takeLock_books held).mono fun _ _ _ _ => trivial

/-! ### `LockHeld` -/

def blocked : PrimEvent → Bool
  | ⟨⟨_, .flock⟩, .wouldBlock⟩ => true
  | _ => false

def isLockHeld : Error → Bool
  | .lockHeld _ => true
  | _ => false

private theorem writePidAtomic_unheld (pid : UInt32) (store : PrimStore) (past : PrimPast) :
    Meets (fun _ _ => True) (FailsBy fun cause _ => isLockHeld cause = false)
      (writePidAtomic pid) store past := by
  unfold writePidAtomic
  refine Meets.callBind trivial fun opened => ?_
  cases opened with
  | error cause => exact rfl
  | ok _ =>
      refine Meets.callBind trivial fun written => ?_
      cases written with
      | error cause => exact rfl
      | ok _ =>
          refine Meets.callBind trivial fun synced => ?_
          cases synced with
          | error cause => exact rfl
          | ok _ =>
              refine Meets.callBind trivial fun renamed => ?_
              cases renamed with
              | error cause => exact Meets.callBind trivial fun _ => rfl
              | ok _ =>
                  refine Meets.callBind trivial fun directory => ?_
                  cases directory with
                  | error cause => exact rfl
                  | ok _ => trivial

theorem acquire_blocked (host : Host) (store : PrimStore) (past : PrimPast) :
    Meets (fun _ _ => True) (FailsBy fun cause later => isLockHeld cause = true →
      later.any blocked = true) (DataDirLock.acquire host) store past := by
  unfold DataDirLock.acquire
  refine Meets.callBind trivial fun created => ?_
  cases created with
  | error cause => exact nofun
  | ok _ =>
      refine Meets.callBind trivial fun opened => ?_
      cases opened with
      | error cause => exact nofun
      | ok _ =>
          refine Meets.callBind trivial fun verdict => ?_
          cases verdict with
          | wouldBlock =>
              refine Meets.callBind trivial fun holder => ?_
              intro _
              rw [List.any_append, List.any_append, Bool.or_eq_true, Bool.or_eq_true]
              exact Or.inl (Or.inr rfl)
          | failed errno text => exact nofun
          | locked =>
              refine Meets.attemptBind (writePidAtomic_unheld host.pid store _) ?_
              intro outcome now later failed
              cases outcome with
              | ok _ => trivial
              | error cause =>
                  refine Meets.callBind trivial fun _ => ?_
                  intro held
                  rw [show isLockHeld cause = false from failed] at held
                  contradiction

end Handoff
