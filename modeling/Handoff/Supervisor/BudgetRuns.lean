/-
The budgets along every run of `perform_handoff`.

The functions of a handoff are taken in the order in which they call each other.
Each of them owes the limit of the wait it is in, and may panic only when a sum
of the budgets and the clock leaves the range of its type.
-/

import Handoff.Supervisor.Budgets

namespace Handoff

open Effects SupM
open Effects.Code hiding pure bind

section Walk

variable {Value Other : Type} {spec : SpawnSpec} {started limit : Instant} {past : SupPast}
  {store : SupStore} {post : Except Halt Other → SupStore → SupPast → Prop}

private theorem Began.raised (began : Began started past) (cause : Error) :
    Sound spec started (.error (.error cause) : Except Halt Value) past := by
  apply began.sound
  intro impossible
  cases impossible

theorem Began.returned (began : Began started past) (value : Value) :
    Sound spec started (.ok value : Except Halt Value) past := by
  apply began.sound
  intro impossible
  cases impossible

theorem Began.held (began : Began started past) (cause : Error) (now : SupStore) :
    Held spec started store (.error (.error cause) : Except Halt Value) now past :=
  ⟨began.raised cause, fun _ impossible => by cases impossible⟩

variable {outcome : Except Halt Value}

theorem Still.held {now : SupStore} (still : Still spec started store outcome now past) :
    Held spec started store outcome now past :=
  ⟨still.1, fun _ _ => still.2⟩

/-! ### Additions -/

/-- `addInstant` and `addDuration` have this shape. -/
private theorem checked_bind {fits : Prop} [Decidable fits] {sum : Value}
    {next : Value → SupM Other} (room : Roomy spec past → fits)
    (rest : Meets (BudgetDuty spec) post (next sum) store past)
    (panics : ¬Roomy spec past → post (.error .panic) store past) :
    Meets (BudgetDuty spec) post ((if fits then pure sum else panic) >>= next) store past := by
  by_cases inside : fits
  · rw [if_pos inside]
    exact rest
  · rw [if_neg inside]
    exact panics fun roomy => inside (room roomy)

private theorem addInstant_bind {instant : Instant} {duration : Duration}
    {next : Instant → SupM Other} (room : Roomy spec past → instant + duration < Instant.limit)
    (rest : Meets (BudgetDuty spec) post (next (instant + duration)) store past)
    (panics : ¬Roomy spec past → post (.error .panic) store past) :
    Meets (BudgetDuty spec) post (addInstant instant duration >>= next) store past := by
  rw [addInstant]
  exact checked_bind room rest panics

private theorem addDuration_bind {first second : Duration} {next : Duration → SupM Other}
    (room : Roomy spec past → first + second < Duration.limit)
    (rest : Meets (BudgetDuty spec) post (next (first + second)) store past)
    (panics : ¬Roomy spec past → post (.error .panic) store past) :
    Meets (BudgetDuty spec) post (addDuration first second >>= next) store past := by
  rw [addDuration]
  exact checked_bind room rest panics

private theorem writeFrame_bind {peer : Side} {version : ProtoVersion} {message : Message}
    {next : SupM Other} (asked : BudgetOpDuty spec past (.writeFrame peer version message))
    (rest : ∀ answer, Meets (BudgetDuty spec) post next store
      (past ++ [⟨⟨store, .writeFrame peer version message⟩, answer⟩]))
    (failed : ∀ cause answer, post (.error (.error cause)) store
      (past ++ [⟨⟨store, .writeFrame peer version message⟩, answer⟩])) :
    Meets (BudgetDuty spec) post (do
      orErr (← ask (.writeFrame peer version message))
      next) store past := by
  refine Meets.callBind asked fun written => ?_
  cases written with
  | ok _ => exact rest _
  | error cause => exact failed cause _

theorem Instant.limit_eq : Instant.limit = 9223372036854775808 * 1000000000 := by
  unfold Instant.limit
  rfl

theorem Duration.limit_eq : Duration.limit = 18446744073709551616 * 1000000000 := by
  unfold Duration.limit
  rfl

private theorem Roomy.started_early (roomy : Roomy spec past) (began : Began started past) :
    started < Duration.fromSecs (2 ^ 62) :=
  roomy.early started (List.mem_of_mem_head? began)

theorem Roomy.started_le (roomy : Roomy spec past) (began : Began started past) {reading : Instant}
    (member : reading ∈ readings past) : started ≤ reading := by
  obtain ⟨more, shape⟩ := List.head?_eq_some_iff.mp began
  have ordered := roomy.ordered
  rw [shape] at member ordered
  rcases List.mem_cons.mp member with same | later
  · exact Nat.le_of_eq same.symm
  · exact (List.pairwise_cons.mp ordered).1 reading later

theorem Roomy.deadline_fits (roomy : Roomy spec past) (began : Began started past) :
    started + spec.deadline + wireSlack < Instant.limit := by
  have early := roomy.started_early began
  have small := roomy.deadline
  rw [Instant.limit_eq]
  simp only [Instant, Duration, Duration.fromSecs, Duration.fromMillis, wireSlack] at *
  omega

theorem Roomy.grace_fits (roomy : Roomy spec past) {asked : Instant}
    (member : asked ∈ readings past) :
    spec.drainGrace + wireSlack < Duration.limit ∧
      asked + max (spec.drainGrace + wireSlack) minReadTimeout < Instant.limit := by
  have early := roomy.early asked member
  have small := roomy.drainGrace
  rw [Instant.limit_eq, Duration.limit_eq]
  simp only [Instant, Duration, Duration.fromSecs, Duration.fromMillis, wireSlack, minReadTimeout] at *
  omega

private theorem remainingAt_le {total now : Instant} {budget : Duration}
    (within : total ≤ now + budget) :
    remainingAt total now ≤ max budget minReadTimeout := by
  unfold remainingAt
  simp only [Instant, Duration] at *
  split <;> omega

theorem Roomy.remaining_le (roomy : Roomy spec past) (began : Began started past)
    {counted : Instant} (member : counted ∈ readings past) :
    remainingAt (started + spec.deadline) counted ≤ max spec.deadline minReadTimeout := by
  have later := roomy.started_le began member
  apply remainingAt_le
  simp only [Instant, Duration] at *
  omega

theorem Roomy.ready_fits (roomy : Roomy spec past) (began : Began started past)
    {counted : Instant} (member : counted ∈ readings past) :
    remainingAt (started + spec.deadline) counted + wireSlack < Duration.limit ∧
      ∀ asked ∈ readings past, asked + max (remainingAt (started + spec.deadline) counted +
        wireSlack) minReadTimeout < Instant.limit := by
  have left := roomy.remaining_le began member
  have small := roomy.deadline
  rw [Instant.limit_eq, Duration.limit_eq]
  refine ⟨?_, ?_⟩
  · simp only [Instant, Duration, Duration.fromMillis, wireSlack, Duration.fromSecs,
      minReadTimeout] at *
    omega
  · intro asked read
    have early := roomy.early asked read
    simp only [Instant, Duration, Duration.fromMillis, wireSlack, Duration.fromSecs,
      minReadTimeout] at *
    omega

/-! ### Bounded reads -/

private theorem clear_then_raise {peer : Side} (began : Began started past) (cause : Error) :
    Meets (BudgetDuty spec) (Still spec started store) (do
      clearRecvTimeout peer
      raise cause : SupM Value) store past := by
  refine began.idleBind (clearRecvTimeout_reliable peer rfl) ?_ ?_
  · intro _ later began
    exact ⟨began.raised cause, rfl⟩
  · intro cause later began
    exact ⟨began.raised cause, rfl⟩

private theorem readUntilLoop_budgeted (peer : Side) (awaiting : String) (pred : Message → Bool)
    (fuel : Nat) (under : Under spec started limit past) :
    Meets (BudgetDuty spec) (Still spec started store)
      (readUntilLoop peer limit awaiting pred fuel) store past := by
  induction fuel generalizing past with
  | zero => exact ⟨trivial, fun answer => answer.elim⟩
  | succ fuel ih =>
      rw [readUntilLoop]
      refine under.round ?_ ?_ ?_
      · intro later under
        exact clear_then_raise under.began _
      · intro answer later under
        cases answer with
        | frame version message =>
            have settles : Meets (BudgetDuty spec) (Still spec started store) (do
                clearRecvTimeout peer
                if pred message then pure message
                else raise (.unexpectedMessage (shortName message)) : SupM Message) store later := by
              refine under.began.idleBind (clearRecvTimeout_reliable peer rfl) ?_
                (fun cause _ began => ⟨began.raised cause, rfl⟩)
              intro _ last began
              by_cases wanted : pred message = true
              · rw [if_pos wanted]
                exact ⟨began.returned message, rfl⟩
              · rw [if_neg wanted]
                exact ⟨began.raised _, rfl⟩
            cases message with
            | heartbeat tsMs => exact ih under
            | sealProgress shardsSealed shardsTotal lastRevision => exact ih under
            | _ => exact settles
        | waiting midFrame =>
            cases midFrame with
            | true => exact ih under
            | false => exact clear_then_raise under.began _
        | failed cause => exact clear_then_raise under.began cause
      · intro cause later under
        exact ⟨under.began.raised cause, rfl⟩

private theorem readUntil_budgeted (peer : Side) (timeout : Duration) (awaiting : String)
    (pred : Message → Bool) (fuel : Nat)
    (opened : ∀ asked : Instant, Under spec started (asked + max timeout minReadTimeout)
      (past ++ [⟨⟨store, .now⟩, asked⟩]))
    (room : ∀ asked : Instant, Roomy spec (past ++ [⟨⟨store, .now⟩, asked⟩]) →
      asked + max timeout minReadTimeout < Instant.limit) :
    Meets (BudgetDuty spec) (Still spec started store) (readUntil peer timeout awaiting pred fuel)
      store past := by
  unfold readUntil
  refine Meets.callBind trivial fun asked => ?_
  refine addInstant_bind (room asked) (readUntilLoop_budgeted peer awaiting pred fuel (opened asked)) ?_
  intro tight
  exact ⟨⟨(opened asked).began, fun _ => tight⟩, rfl⟩

/-! ### The steps of a handoff -/

/-- The deadline that the steps share counts from the first reading. -/
structure HandoffLocals.Timed (locals : HandoffLocals) (spec : SpawnSpec) (started : Instant) :
    Prop where
  spec_eq : locals.spec = spec
  total : locals.totalDeadlineAt = started + spec.deadline

structure Opened (started : Instant) (wait : Wait) (since : List Instant) (past : SupPast) :
    Prop where
  began : Began started past
  line : timeline past = ⟨some wait, since⟩

variable {wait : Wait}

theorem Began.opened (began : Began started past) {event : SupEvent}
    (opens : opens? event = some wait) : Opened started wait [] (past ++ [event]) := by
  refine ⟨began.append event, ?_⟩
  rw [timeline_append, Timeline.after, opens]

variable {since : List Instant}

theorem Opened.read (opened : Opened started wait since past) (store : SupStore) (now : Instant) :
    Opened started wait (since ++ [now]) (past ++ [⟨⟨store, .now⟩, now⟩]) := by
  refine ⟨opened.began.append _, ?_⟩
  rw [timeline_append, opened.line]
  rfl

theorem Opened.under (opened : Opened started wait since past)
    (limited : wait.limit spec started since = some limit) : Under spec started limit past := by
  refine ⟨opened.began, ?_⟩
  rw [waitLimit, opened.line, opened.began.startedAt]
  exact limited

private theorem mem_readings_read (past : SupPast) (store : SupStore) (now : Instant) :
    now ∈ readings (past ++ [⟨⟨store, .now⟩, now⟩]) := by
  simp [reading?]

private theorem mem_readings_append {reading : Instant} (member : reading ∈ readings past)
    (event : SupEvent) : reading ∈ readings (past ++ [event]) := by
  rw [readings_append]
  exact List.mem_append_left _ member

private theorem remainingUntil_bind {total : Instant} {next : Duration → SupM Other}
    (rest : ∀ counted : Instant, Meets (BudgetDuty spec) post (next (remainingAt total counted)) store
      (past ++ [⟨⟨store, .now⟩, counted⟩])) :
    Meets (BudgetDuty spec) post (remainingUntil total >>= next) store past := by
  unfold remainingUntil
  rw [meets_bind]
  exact Meets.callBind trivial rest

private theorem prepare_budgeted (locals : HandoffLocals) (fuel : Nat)
    (timed : locals.Timed spec started) (began : Began started past) :
    Meets (BudgetDuty spec) (Held spec started store) (prepare locals fuel) store past := by
  unfold prepare
  rw [timed.spec_eq, timed.total]
  refine remainingUntil_bind fun counted => ?_
  have ticked := began.append ⟨⟨store, .now⟩, counted⟩
  refine writeFrame_bind ?_ ?_ (fun cause _ => (ticked.append _).held cause store)
  · exact ⟨counted, by simp [reading?], by rw [ticked.startedAt], rfl⟩
  intro answer
  have opened := ticked.opened (rfl : opens? ⟨⟨store, .writeFrame .incumbent locals.chosenO
    (.prepareHandoff locals.handoffId locals.successorPid
      (asMillis (remainingAt (started + spec.deadline) counted))
      (asMillis spec.drainGrace))⟩, answer⟩ = some .drained)
  refine addDuration_bind ?_ ?_ ?_
  · intro roomy
    exact (roomy.grace_fits (mem_readings_append (mem_readings_read past store counted) _)).1
  · have waits := readUntil_budgeted .incumbent (spec.drainGrace + wireSlack) "Drained" isDrained
      fuel (fun asked => (opened.read store asked).under rfl)
      (fun asked roomy => (roomy.grace_fits (mem_readings_read _ store asked)).2)
    refine Meets.bind waits ?_ ?_
    · intro message now later still
      obtain ⟨sound, rfl⟩ := still
      exact (sound.1.idle (journalSet_reliable _ _ _ _ _ fun _ => rfl)).mono
        (fun _ _ _ still => still.held)
    · intro halt now later still
      exact ⟨still.1.failed, fun _ impossible => by cases impossible⟩
  · intro tight
    exact ⟨⟨opened.began, fun _ => tight⟩, fun _ impossible => by cases impossible⟩

private theorem abandonSeal_budgeted (locals : HandoffLocals) (reason : String)
    (began : Began started past) :
    Meets (BudgetDuty spec) (Held spec started store) (abandonSeal locals reason) store past := by
  unfold abandonSeal
  refine began.idleBind (clearRecvTimeout_reliable _ rfl) ?_
    (fun cause _ began => began.held cause store)
  intro _ cleared began
  refine began.idleBind (sendBestEffortAbort_reliable _ _ _ rfl) ?_
    (fun cause _ began => began.held cause store)
  intro _ aborted began
  refine killAndReap_bind began fun now reaped began => ?_
  exact began.idleBind (journalClear_reliable _ rfl)
    (fun _ _ began => began.held _ now) (fun cause _ began => began.held cause now)

private theorem sealWaitLoop_budgeted (locals : HandoffLocals) (fuel : Nat)
    (under : Under spec started limit past) :
    Meets (BudgetDuty spec) (Held spec started store) (sealWaitLoop locals limit fuel) store
      past := by
  induction fuel generalizing past with
  | zero => exact ⟨trivial, fun answer => answer.elim⟩
  | succ fuel ih =>
      rw [sealWaitLoop]
      refine under.round ?_ ?_ ?_
      · intro later under
        exact abandonSeal_budgeted locals _ under.began
      · intro answer later under
        cases answer with
        | frame version message =>
            have settles : Meets (BudgetDuty spec) (Held spec started store)
                (ruleOnSeal locals.handoffId message) store later := by
              unfold ruleOnSeal
              cases sealVerdict locals.handoffId message with
              | some verdict => exact ⟨under.began.returned verdict, fun _ _ => rfl⟩
              | none => exact (clear_then_raise under.began _).mono (fun _ _ _ still => still.held)
            cases message with
            | heartbeat tsMs => exact ih under
            | sealProgress shardsSealed shardsTotal lastRevision => exact ih under
            | _ => exact settles
        | waiting midFrame =>
            cases midFrame with
            | true => exact ih under
            | false => exact abandonSeal_budgeted locals _ under.began
        | failed cause =>
            exact (clear_then_raise under.began cause).mono (fun _ _ _ still => still.held)
      · intro cause later under
        exact under.began.held cause store

private theorem Opened.journalBind {next : Unit → SupM Other} (locals : HandoffLocals)
    (phase : Phase) (opened : Opened started wait since past)
    (rest : ∀ later, Opened started wait since later →
      Meets (BudgetDuty spec) post (next ()) store later)
    (failed : ∀ cause later, Began started later → post (.error (.error cause)) store later) :
    Meets (BudgetDuty spec) post (locals.journal phase >>= next) store past := by
  unfold HandoffLocals.journal journalSet
  cases locals.supervisor.journalPath with
  | none => exact rest past opened
  | some path =>
      rw [meets_bind]
      refine Meets.callBind trivial fun written => ?_
      cases written with
      | error cause => exact failed cause _ (opened.began.append _)
      | ok _ =>
          refine rest _ ⟨opened.began.append _, ?_⟩
          rw [timeline_append, opened.line]
          change Timeline.mk (some wait) (since ++ []) = _
          rw [List.append_nil]

private theorem catchError_still {code : SupM Value}
    (still : Meets (BudgetDuty spec) (Still spec started store) code store past) :
    Meets (BudgetDuty spec) (Still spec started store) (catchError code) store past := by
  unfold catchError
  refine Meets.attemptBind still ?_
  intro outcome now later still
  cases outcome with
  | ok value => exact ⟨still.1.1.returned _, still.2⟩
  | error halt =>
      cases halt with
      | error cause => exact ⟨still.1.1.returned _, still.2⟩
      | panic => exact ⟨still.1.failed, still.2⟩

private theorem awaitReady_budgeted (locals : HandoffLocals) (fuel : Nat)
    (timed : locals.Timed spec started) (began : Began started past) :
    Meets (BudgetDuty spec) (Still spec started store) (awaitReady locals fuel) store past := by
  unfold awaitReady
  rw [timed.total]
  refine Meets.callBind trivial fun written => ?_
  have opened := began.opened (rfl : opens? ⟨⟨store, .writeFrame .successor locals.chosenN
    (.begin locals.handoffId)⟩, written⟩ = some .ready)
  cases written with
  | error cause => exact ⟨opened.began.returned _, rfl⟩
  | ok _ =>
      refine opened.journalBind locals .awaitingReady ?_
        (fun cause _ began => ⟨began.raised cause, rfl⟩)
      intro journaled opened
      refine remainingUntil_bind fun counted => ?_
      have ticked := opened.read store counted
      refine addDuration_bind ?_ ?_ ?_
      · intro roomy
        exact (roomy.ready_fits ticked.began (mem_readings_read journaled store counted)).1
      · apply catchError_still
        refine readUntil_budgeted .successor _ _ isReady fuel ?_ ?_
        · intro asked
          exact (ticked.read store asked).under rfl
        · intro asked roomy
          exact (roomy.ready_fits (ticked.began.append _)
            (mem_readings_append (mem_readings_read journaled store counted) _)).2 asked
            (mem_readings_read _ store asked)
      · intro tight
        exact ⟨⟨ticked.began, fun _ => tight⟩, rfl⟩

/-- Everything after the waits: no clock, no reads. -/
abbrev EndsWithin (spec : SpawnSpec) (started : Instant) (outcome : Except Halt Value) (_ : SupStore)
    (past : SupPast) : Prop :=
  Sound spec started outcome past

variable {pid : UInt32}

private theorem commitHandoff_budgeted (locals : HandoffLocals) (began : Began started past)
    (armed : store.guard = some pid) :
    Meets (BudgetDuty spec) (EndsWithin spec started) (commitHandoff locals) store past := by
  unfold commitHandoff disarm
  rw [meets_bind]
  apply Meets.loadBind
  rw [armed]
  apply Meets.updateBind
  refine Meets.callBind trivial fun written => ?_
  have told := began.append ⟨⟨{ store with guard := none }, .writeFrame .incumbent locals.chosenO
    (.commit locals.handoffId)⟩, written⟩
  have journaled : Meets (BudgetDuty spec) (Still spec started { store with guard := none })
      (locals.journal .committed) { store with guard := none } _ :=
    told.idle (journalSet_reliable _ _ _ _ _ fun _ => rfl)
  refine Meets.bind (catchError_still journaled) ?_ (fun _ _ _ still => still.1.failed)
  intro _ now later still
  exact still.1.1.idleBind (journalClear_reliable _ rfl)
    (fun _ _ began => began.returned _) (fun cause _ began => began.raised cause)

private theorem abortHandoff_budgeted (locals : HandoffLocals) (verdict : Except Error Message)
    (began : Began started past) :
    Meets (BudgetDuty spec) (EndsWithin spec started) (abortHandoff locals verdict) store past := by
  unfold abortHandoff
  refine began.idleBind (sendBestEffortAbort_reliable _ _ _ rfl) ?_
    (fun cause _ began => began.raised cause)
  intro _ aborted began
  refine killAndReap_bind began fun now reaped began => ?_
  refine writeFrame_bind trivial ?_ (fun cause _ => (began.append _).raised cause)
  intro answer
  refine (began.append _).idleBind (journalSet_reliable _ _ _ _ _ fun _ => rfl) ?_
    (fun cause _ began => began.raised cause)
  intro _ journaled began
  exact began.idleBind (journalClear_reliable _ rfl)
    (fun _ _ began => began.returned _) (fun cause _ began => began.raised cause)

private theorem finishHandoff_budgeted (locals : HandoffLocals) (fuel : Nat)
    (timed : locals.Timed spec started) (began : Began started past)
    (armed : store.guard = some pid) :
    Meets (BudgetDuty spec) (EndsWithin spec started) (finishHandoff locals fuel) store past := by
  unfold finishHandoff
  refine began.idleBind (journalSet_reliable _ _ _ _ _ fun _ => rfl) ?_
    (fun cause _ began => began.raised cause)
  intro _ journaled began
  refine Meets.bind (awaitReady_budgeted locals fuel timed began) ?_
    (fun _ _ _ still => still.1.failed)
  intro verdict now later still
  obtain ⟨sound, rfl⟩ := still
  dsimp only
  by_cases own : isOwnReady locals.handoffId (checkReady locals.handoffId verdict) = true
  · rw [if_pos own]
    exact commitHandoff_budgeted locals sound.1 armed
  · rw [if_neg own]
    exact abortHandoff_budgeted locals _ sound.1

private theorem sealAndFinish_budgeted (locals : HandoffLocals) (fuel : Nat)
    (timed : locals.Timed spec started) (began : Began started past)
    (armed : store.guard = some pid) :
    Meets (BudgetDuty spec) (EndsWithin spec started) (sealAndFinish locals fuel) store past := by
  unfold sealAndFinish
  refine writeFrame_bind trivial ?_ (fun cause _ => (began.append _).raised cause)
  intro answer
  have opened := began.opened (rfl : opens? ⟨⟨store, .writeFrame .incumbent locals.chosenO
    (.sealRequest locals.handoffId)⟩, answer⟩ = some .sealed)
  rw [timed.total]
  refine addInstant_bind (fun roomy => roomy.deadline_fits opened.began) ?_
    (fun tight => ⟨opened.began, fun _ => tight⟩)
  refine Meets.bind (sealWaitLoop_budgeted locals fuel (opened.under rfl)) ?_
    (fun _ _ _ held => held.1.failed)
  intro verdict now waited held
  rw [held.2 verdict rfl]
  refine held.1.1.idleBind (clearRecvTimeout_reliable _ rfl) ?_
    (fun cause _ began => began.raised cause)
  intro _ cleared began
  cases verdict with
  | ok _ => exact finishHandoff_budgeted locals fuel timed began armed
  | error error =>
      refine began.idleBind (sendBestEffortAbort_reliable _ _ _ rfl)
        ?_ (fun cause _ began => began.raised cause)
      intro _ aborted began
      refine killAndReap_bind began fun now reaped began => ?_
      exact began.idleBind (journalClear_reliable _ rfl)
        (fun _ _ began => began.returned _) (fun cause _ began => began.raised cause)

/-! ### From the handshakes on -/

private theorem Unopened.orBind {op : SupOp} {code : SupAns op → SupM Value}
    {next : Value → SupM Other} (unopened : Unopened started past)
    (asked : BudgetOpDuty spec past op) (closed : ∀ answer, opens? ⟨⟨store, op⟩, answer⟩ = none)
    (passes : ∀ answer, ∃ outcome : Except Error Value, code answer = orErr outcome)
    (rest : ∀ value later, Unopened started later →
      Meets (BudgetDuty spec) post (next value) store later)
    (failed : ∀ cause later, Unopened started later → post (.error (.error cause)) store later) :
    Meets (BudgetDuty spec) post (do
      let answer ← ask op
      let value ← code answer
      next value) store past := by
  refine Meets.callBind asked fun answer => ?_
  have unopened := unopened.append (closed answer)
  obtain ⟨outcome, same⟩ := passes answer
  rw [same]
  cases outcome with
  | ok value => exact rest value _ unopened
  | error cause => exact failed cause _ unopened

private theorem driveHandoff_budgeted (supervisor : Supervisor) (handoffId : HandoffId)
    (startedUnixMs : UInt64) (chosenO : ProtoVersion) (successorPid : UInt32) (fuel : Nat)
    (unopened : Unopened started past) (armed : store.guard = some pid) :
    Meets (BudgetDuty spec) (EndsWithin spec started)
      (driveHandoff supervisor spec handoffId startedUnixMs
      (started + spec.deadline) chosenO successorPid fuel) store past := by
  unfold driveHandoff
  refine unopened.orBind trivial (fun _ => rfl) (fun answer => ⟨_, rfl⟩) ?_
    (fun cause _ unopened => unopened.began.raised cause)
  intro _ _ unopened
  refine unopened.calmBind (exchangeHelloAsSupervisor_calm _ _ _ _) ?_
    (fun cause _ unopened => unopened.began.raised cause)
  intro chosenN _ unopened
  dsimp only
  refine unopened.began.idleBind (journalSet_reliable _ _ _ _ _ fun _ => rfl) ?_
    (fun cause _ began => began.raised cause)
  intro _ _ began
  refine Meets.bind (prepare_budgeted _ fuel ⟨rfl, rfl⟩ began) ?_
    (fun _ _ _ held => held.1.failed)
  intro value now later held
  rw [held.2 value rfl]
  exact sealAndFinish_budgeted _ fuel ⟨rfl, rfl⟩ held.1.1 armed

theorem Sound.append (sound : Sound spec started outcome past) (event : SupEvent) :
    Sound spec started outcome (past ++ [event]) :=
  ⟨sound.1.append event, fun panics roomy => sound.2 panics roomy.earlier⟩

private theorem dropGuard_budgeted (sound : Sound spec started outcome past) :
    Meets (BudgetDuty spec) (fun _ _ later => Sound spec started outcome later) killAndReap store
      past := by
  unfold killAndReap
  apply Meets.loadBind
  cases store.guard with
  | none => exact sound
  | some pid =>
      refine Meets.callBind trivial fun _ => ?_
      refine Meets.callBind trivial fun _ => ?_
      exact (sound.append _).append _

private theorem spawnAndDrive_budgeted (supervisor : Supervisor) (handoffId : HandoffId)
    (startedUnixMs : UInt64) (chosenO : ProtoVersion) (fuel : Nat)
    (unopened : Unopened started past) :
    Meets (BudgetDuty spec) (EndsWithin spec started) (spawnAndDrive supervisor spec handoffId
      startedUnixMs (started + spec.deadline) chosenO fuel) store past := by
  unfold spawnAndDrive
  refine unopened.orBind trivial (fun _ => rfl) (fun answer => ⟨_, rfl⟩) ?_
    (fun cause _ unopened => unopened.began.raised cause)
  intro _ paired unopened
  refine Meets.callBind trivial fun spawned => ?_
  have forked : Unopened started (paired ++ [⟨⟨store, .spawn (spawnCommand supervisor spec)⟩,
    spawned⟩]) := unopened.append rfl
  cases spawned with
  | error cause =>
      refine Meets.callBind trivial fun _ => ?_
      refine Meets.callBind trivial fun _ => ?_
      exact ((forked.began.append _).append _).raised _
  | ok successorPid =>
      apply Meets.updateBind
      refine Meets.callBind trivial fun _ => ?_
      rw [meets_ensuring, meets_ensuring]
      refine (driveHandoff_budgeted supervisor handoffId startedUnixMs chosenO successorPid fuel
        (forked.append rfl) rfl).mono ?_
      intro outcome now later sound
      refine ⟨trivial, fun _ => ?_⟩
      exact dropGuard_budgeted (sound.append _)

private theorem connectAndDrive_budgeted (supervisor : Supervisor) (handoffId : HandoffId)
    (startedUnixMs : UInt64) (fuel : Nat) (unopened : Unopened started past) :
    Meets (BudgetDuty spec) (EndsWithin spec started) (connectAndDrive supervisor spec handoffId
      startedUnixMs (started + spec.deadline) fuel) store past := by
  unfold connectAndDrive
  refine unopened.orBind trivial (fun _ => rfl) (fun answer => ⟨_, rfl⟩) ?_
    (fun cause _ unopened => unopened.began.raised cause)
  intro _ _ unopened
  rw [meets_ensuring]
  refine Meets.mono (?_ : Meets (BudgetDuty spec) (EndsWithin spec started) _ _ _) ?_
  · refine unopened.orBind trivial (fun _ => rfl) (fun answer => ⟨_, rfl⟩) ?_
      (fun cause _ unopened => unopened.began.raised cause)
    intro _ _ unopened
    refine unopened.calmBind (exchangeHelloAsSupervisor_calm _ _ _ _) ?_
      (fun cause _ unopened => unopened.began.raised cause)
    intro chosenO _ unopened
    exact spawnAndDrive_budgeted supervisor handoffId startedUnixMs chosenO fuel unopened
  · intro outcome now later sound
    exact ⟨trivial, fun _ => sound.append _⟩

theorem performHandoff_budgeted (supervisor : Supervisor) (spec : SpawnSpec) (fuel : Nat) :
    Meets (BudgetDuty spec) (fun outcome _ past => outcome = .error .panic → ¬Roomy spec past)
      (performHandoff supervisor spec fuel) {} [] := by
  unfold performHandoff
  refine Meets.callBind trivial fun free => ?_
  cases free with
  | false =>
      intro impossible
      cases impossible
  | true =>
      rw [if_pos rfl, meets_ensuringWith]
      refine Meets.callBind trivial fun handoffId => ?_
      refine Meets.callBind trivial fun started => ?_
      refine Meets.callBind trivial fun startedUnixMs => ?_
      have unopened : Unopened started [⟨⟨{}, .tryLockInFlight⟩, true⟩,
        ⟨⟨{}, .newHandoffId⟩, handoffId⟩, ⟨⟨{}, .now⟩, started⟩,
        ⟨⟨{}, .nowUnixMs⟩, startedUnixMs⟩] := ⟨rfl, rfl⟩
      refine addInstant_bind ?_ ?_ ?_
      · intro roomy
        exact Nat.lt_of_le_of_lt (Nat.le_add_right _ _) (roomy.deadline_fits unopened.began)
      · refine (connectAndDrive_budgeted supervisor handoffId startedUnixMs fuel unopened).mono ?_
        intro outcome now later sound
        exact ⟨trivial, fun _ => (sound.append _).2⟩
      · intro tight
        exact ⟨trivial, fun _ _ roomy => tight roomy.earlier⟩

end Walk

end Handoff
