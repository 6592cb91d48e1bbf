/-
`perform_handoff` follows the stages.

`StageDuty` puts every write to a peer, every journal record and the spawn at
its stage, with the identities it carries.  The code is walked once against this
contract: each step is specified by the stage it starts from and the stage it
reaches, and a step that fails leads nowhere, since what follows it only drops
the locals.
-/

import Handoff.Supervisor.Decisions
import Handoff.Supervisor.Stages

namespace Handoff

open Effects SupM
open Effects.Code hiding pure bind

variable {event : SupEvent}

/-! ### The contract -/

def helloPid : Message → Option UInt32
  | .hello _ pid _ _ _ _ => some pid
  | _ => none

/-- The pid in the first `Hello` read from `peer`. -/
def pidAnnounced (peer : Side) (past : SupPast) : Option UInt32 :=
  (past.filterMap (frameFrom peer)).findSome? helloPid

/-- The record that an event writes, or `none` for a deletion, and whether it succeeded. -/
def journalChange? : SupEvent → Option (Option StateJournal × Bool)
  | ⟨⟨_, .journalWrite record⟩, answer⟩ => some (some record, answer.isOk)
  | ⟨⟨_, .journalDelete⟩, answer⟩ => some (none, answer.isOk)
  | _ => none

def lastJournal (past : SupPast) : Option (Option StateJournal × Bool) :=
  (past.filterMap journalChange?).getLast?

theorem lastJournal_append {past : SupPast} {change : Option StateJournal × Bool}
    (changed : journalChange? event = some change) :
    lastJournal (past ++ [event]) = some change := by
  rw [lastJournal, List.filterMap_append, List.filterMap_cons_some changed, List.filterMap_nil]
  exact List.getLast?_concat

def deletesJournal : SupEvent → Bool
  | ⟨⟨_, .journalDelete⟩, _⟩ => true
  | _ => false

def Phase.stage : Phase → Stage
  | .negotiating => .ackedSuccessor
  | .draining => .drained
  | .sealing => .sealed
  | .awaitingReady => .begun
  | .committed => .committed
  | .resumingAfterAbort => .resumed

/-- What else is known when a message goes out: who said hello before it is
acknowledged, and that the seal is on record before `Begin`. -/
def Vouched (supervisor : Supervisor) (past : SupPast) (peer : Side) : Message → Prop
  | .helloAck .. =>
      match peer with
      | .incumbent => (pidAnnounced .incumbent past).isSome = true
      | .successor => pidAnnounced .successor past = spawned past ∧
          (spawned past).isSome = true
  | .begin _ => supervisor.journalPath.isSome = true → ∃ record,
      lastJournal past = some (some record, true) ∧ record.phase = .sealing
  | _ => True

def StageOpDuty (supervisor : Supervisor) (past : SupPast) : SupOp → Prop
  | .newHandoffId => handoffIdOf past = none
  | .spawn _ => ∃ handoffId, handoffIdOf past = some handoffId ∧
      stageOf handoffId past = .ackedIncumbent ∧ spawned past = none
  | .writeFrame peer _ message => ∃ handoffId turn, handoffIdOf past = some handoffId ∧
      (stageOf handoffId past).turn = some turn ∧ turn.peer = peer ∧
      turn.expects message = some handoffId ∧ Vouched supervisor past peer message
  | .journalWrite record => supervisor.journalPath.isSome = true ∧
      handoffIdOf past = some record.handoffId ∧ record.incumbentPid = supervisor.pid ∧
      record.successorPid = spawned past ∧ (spawned past).isSome = true ∧
      stageOf record.handoffId past = record.phase.stage ∧ past.any deletesJournal = false
  | _ => True

def StageDuty (supervisor : Supervisor) (past : SupPast) (call : Call SupStore SupOp) : Prop :=
  StageOpDuty supervisor past call.op

/-! ### Operations that leave the stage alone -/

def silentOp : SupOp → Bool
  | .newHandoffId | .spawn _ | .pollRead _ | .writeFrame .. | .journalWrite _
  | .journalDelete => false
  | _ => true

private theorem silentOp_duty {supervisor : Supervisor} {past : SupPast} {op : SupOp}
    (silent : silentOp op = true) : StageOpDuty supervisor past op := by
  cases op <;> trivial

structure SilentEvent (event : SupEvent) : Prop where
  handoffId : handoffIdOf? event = none
  child : spawns? event = none
  stage : ∀ id stage, Stage.after id stage event = stage
  journal : journalChange? event = none
  deletion : deletesJournal event = false
  frame : ∀ peer, frameFrom peer event = none

private theorem silentOp_event (silent : silentOp event.op.op = true) : SilentEvent event := by
  obtain ⟨⟨store, op⟩, answer⟩ := event
  cases op <;> first
    | contradiction
    | exact ⟨rfl, rfl, fun _ _ => rfl, rfl, rfl, fun _ => rfl⟩

def Silently (past later : SupPast) : Prop := Grows (fun event => silentOp event.op.op) past later

namespace Silently

variable {past later : SupPast}

private theorem frames_eq (silently : Silently past later) (peer : Side) :
    later.filterMap (frameFrom peer) = past.filterMap (frameFrom peer) := by
  refine Grows.induct silently (fun now => now.filterMap (frameFrom peer) =
    past.filterMap (frameFrom peer)) rfl ?_
  intro now event silent same
  rw [filterMap_append_none ((silentOp_event silent).frame peer)]
  exact same

private theorem lastJournal_eq (silently : Silently past later) :
    lastJournal later = lastJournal past := by
  refine Grows.induct silently (fun now => lastJournal now = lastJournal past) rfl ?_
  intro now event silent same
  rw [lastJournal, filterMap_append_none (silentOp_event silent).journal]
  exact same

end Silently

/-- Where a call stands: its id, its child, its stage, and a journal that it has
not deleted. -/
structure Standing (handoffId : HandoffId) (child : Option UInt32) (stage : Stage)
    (past : SupPast) : Prop where
  identity : handoffIdOf past = some handoffId
  spawned : spawned past = child
  stage : stageOf handoffId past = stage
  kept : past.any deletesJournal = false

namespace Standing

variable {handoffId : HandoffId} {child : Option UInt32} {stage : Stage} {past later : SupPast}

theorem move (standing : Standing handoffId child stage past) {next : Stage}
    (moves : stage.after handoffId event = next) (unnamed : handoffIdOf? event = none)
    (childless : spawns? event = none) (undeleted : deletesJournal event = false) :
    Standing handoffId child next (past ++ [event]) where
  identity := by rw [handoffIdOf_append, unnamed, Option.none_or, standing.identity]
  spawned := by rw [spawned_append, childless, Option.none_or, standing.spawned]
  stage := by rw [stageOf_append, standing.stage, moves]
  kept := by rw [List.any_append, standing.kept, List.any_cons, undeleted]; rfl

theorem silently (standing : Standing handoffId child stage past) (silently : Silently past later) :
    Standing handoffId child stage later := by
  refine Grows.induct silently (Standing handoffId child stage) standing ?_
  intro now event silent earlier
  have quiet := silentOp_event silent
  exact earlier.move (quiet.stage _ _) quiet.handoffId quiet.child quiet.deletion

end Standing

/-! ### The walk -/

section Walk

variable {supervisor : Supervisor} {handoffId : HandoffId} {child : Option UInt32} {stage : Stage}
  {store : SupStore} {past : SupPast} {Value : Type} {code : SupM Value}

private theorem silent_meets (silent : Within silentOp code) :
    Meets (StageDuty supervisor) (fun _ now later => now = store ∧ Silently past later)
      code store past := by
  apply silent.meets (Silently past) (Grows.refl past)
  · intro now op _ permitted
    exact silentOp_duty permitted
  · intro now op answer grows permitted
    exact Grows.step grows _ permitted

variable {Other : Type}

private theorem Standing.silentBind {next : Value → SupM Other}
    {post : Except Halt Other → SupStore → SupPast → Prop}
    (standing : Standing handoffId child stage past) (silent : Within silentOp code)
    (rest : ∀ value later, Silently past later → Standing handoffId child stage later →
      Meets (StageDuty supervisor) post (next value) store later)
    (failed : ∀ halt later, Standing handoffId child stage later → post (.error halt) store later) :
    Meets (StageDuty supervisor) post (code >>= next) store past := by
  apply Meets.bind (silent_meets silent)
  · intro value now later held
    obtain ⟨rfl, silently⟩ := held
    exact rest value later silently (standing.silently silently)
  · intro halt now later held
    obtain ⟨rfl, silently⟩ := held
    exact failed halt later (standing.silently silently)

/-- How a wait for a frame ends: at the stage that the frame leads to, or where
it started. -/
def Waited (handoffId : HandoffId) (child : Option UInt32) (stage : Stage) (peer : Side)
    (pred : Message → Bool) (store : SupStore) (outcome : Except Halt Message) (now : SupStore)
    (later : SupPast) : Prop :=
  now = store ∧
    match outcome with
    | .ok message => pred message = true ∧
        Standing handoffId child (stage.hears handoffId peer message) later
    | .error _ => Standing handoffId child stage later

private theorem readUntilLoop_waits (peer : Side) (deadline : Instant) (awaiting : String)
    {pred : Message → Bool} (awaits : Awaits pred) (fuel : Nat)
    (standing : Standing handoffId child stage past)
    (patient : ∀ message, pred message = false → stage.hears handoffId peer message = stage) :
    Meets (StageDuty supervisor) (Waited handoffId child stage peer pred store)
      (readUntilLoop peer deadline awaiting pred fuel) store past := by
  induction fuel generalizing past with
  | zero =>
      refine ⟨trivial, ?_⟩
      intro answer
      exact answer.elim
  | succ fuel ih =>
      unfold readUntilLoop
      refine standing.silentBind (within_call rfl) ?_ (fun _ _ here => ⟨rfl, here⟩)
      intro now ticked _ standing
      have gives (cause : Error) {stopped : SupPast}
          (here : Standing handoffId child stage stopped) :
          Meets (StageDuty supervisor) (Waited handoffId child stage peer pred store)
            (do clearRecvTimeout peer; raise cause) store stopped :=
        here.silentBind (Reliable.within (clearRecvTimeout_reliable peer rfl))
          (fun _ _ _ here => ⟨rfl, here⟩)
          (fun _ _ here => ⟨rfl, here⟩)
      rw [meets_ite]
      constructor
      · intro _
        exact gives _ standing
      · intro _
        refine standing.silentBind (Reliable.within (armRecvTimeout_reliable peer _ rfl rfl)) ?_
          (fun _ _ here => ⟨rfl, here⟩)
        intro _ armed _ standing
        refine Meets.callBind trivial fun polled => ?_
        cases polled with
        | failed cause => exact gives cause (standing.move rfl rfl rfl rfl)
        | waiting midFrame =>
            cases midFrame with
            | true => exact ih (standing.move rfl rfl rfl rfl)
            | false => exact gives _ (standing.move rfl rfl rfl rfl)
        | frame version message =>
            have read : Standing handoffId child (stage.hears handoffId peer message)
                (armed ++ [⟨⟨store, .pollRead peer⟩, .frame version message⟩]) :=
              standing.move rfl rfl rfl rfl
            have skipped (progress : pred message = false) :
                Standing handoffId child stage
                  (armed ++ [⟨⟨store, .pollRead peer⟩, .frame version message⟩]) := by
              rw [patient message progress] at read
              exact read
            have judged : Meets (StageDuty supervisor)
                (Waited handoffId child stage peer pred store)
                (do
                  clearRecvTimeout peer
                  if pred message then pure message
                  else raise (.unexpectedMessage (shortName message))) store
                (armed ++ [⟨⟨store, .pollRead peer⟩, .frame version message⟩]) := by
              refine clearRecvTimeout_steps peer trivial fun answer => ?_
              rw [meets_ite]
              constructor
              · intro accepted
                exact ⟨rfl, accepted, read.move rfl rfl rfl rfl⟩
              · intro rejected
                exact ⟨rfl, (skipped (Bool.eq_false_iff.mpr rejected)).move rfl rfl rfl rfl⟩
            cases message with
            | heartbeat tsMs => exact ih (skipped (awaits.heartbeat tsMs))
            | sealProgress shardsSealed shardsTotal lastRevision =>
                exact ih (skipped (awaits.sealProgress _ _ _))
            | _ => exact judged

private theorem readUntil_waits (peer : Side) (timeout : Duration) (awaiting : String)
    {pred : Message → Bool} (awaits : Awaits pred) (fuel : Nat)
    (standing : Standing handoffId child stage past)
    (patient : ∀ message, pred message = false → stage.hears handoffId peer message = stage) :
    Meets (StageDuty supervisor) (Waited handoffId child stage peer pred store)
      (readUntil peer timeout awaiting pred fuel) store past := by
  unfold readUntil
  refine standing.silentBind (within_call rfl) ?_ (fun _ _ here => ⟨rfl, here⟩)
  intro start ticked _ standing
  refine standing.silentBind (addInstant_within start _) ?_ (fun _ _ here => ⟨rfl, here⟩)
  intro deadline later _ standing
  exact readUntilLoop_waits peer deadline awaiting awaits fuel standing patient

variable {message : Message} {turn : Turn} {peer : Side}

private theorem Standing.mayWrite {version : ProtoVersion}
    (standing : Standing handoffId child stage past) (due : stage.turn = some turn)
    (addressed : turn.peer = peer) (expected : turn.expects message = some handoffId)
    (vouched : Vouched supervisor past peer message) :
    StageOpDuty supervisor past (.writeFrame peer version message) := by
  refine ⟨handoffId, turn, standing.identity, ?_, addressed, expected, vouched⟩
  rw [standing.stage]
  exact due

theorem Standing.writeBind {next : Unit → SupM Value}
    {post : Except Halt Value → SupStore → SupPast → Prop} {version : ProtoVersion}
    (standing : Standing handoffId child stage past) (due : stage.turn = some turn)
    (addressed : turn.peer = peer) (expected : turn.expects message = some handoffId)
    (vouched : Vouched supervisor past peer message) (rest : Standing handoffId child turn.next
        (past ++ [⟨⟨store, .writeFrame peer version message⟩, .ok ()⟩]) →
      Meets (StageDuty supervisor) post (next ()) store
        (past ++ [⟨⟨store, .writeFrame peer version message⟩, .ok ()⟩]))
    (failed : ∀ halt later, post (.error halt) store later) :
    Meets (StageDuty supervisor) post
      (ask (.writeFrame peer version message) >>= fun written => orErr written >>= next)
      store past := by
  refine Meets.callBind (standing.mayWrite due addressed expected vouched) fun written => ?_
  cases written with
  | error cause => exact failed _ _
  | ok _ =>
      have sends : stage.sends peer message true = turn.next := by
        rw [Stage.sends, due]
        exact if_pos ⟨addressed, by rw [expected]; rfl⟩
      exact rest (standing.move sends rfl rfl rfl)

private theorem HandoffLocals.journal_records (locals : HandoffLocals) (phase : Phase)
    (standing : Standing locals.handoffId (some locals.successorPid) phase.stage past) :
    Meets (StageDuty locals.supervisor) (fun outcome now later => now = store ∧
      match outcome with
      | .ok _ => Standing locals.handoffId (some locals.successorPid) phase.stage later ∧
          (locals.supervisor.journalPath.isSome = true → ∃ record,
            lastJournal later = some (some record, true) ∧ record.phase = phase)
      | .error _ => locals.supervisor.journalPath.isSome = true)
      (locals.journal phase) store past := by
  unfold HandoffLocals.journal journalSet
  cases journalled : locals.supervisor.journalPath with
  | none => exact ⟨rfl, standing, fun impossible => by contradiction⟩
  | some path =>
      refine Meets.callBind ⟨by rw [journalled]; rfl, standing.identity, rfl,
        standing.spawned.symm, ?_, standing.stage, standing.kept⟩ ?_
      · rw [standing.spawned]
        rfl
      · intro written
        cases written with
        | error cause => exact ⟨rfl, rfl⟩
        | ok _ =>
            exact ⟨rfl, standing.move rfl rfl rfl rfl,
              fun _ => ⟨_, lastJournal_append rfl, rfl⟩⟩

private theorem catchError_journal_records (locals : HandoffLocals) (phase : Phase)
    (standing : Standing locals.handoffId (some locals.successorPid) phase.stage past) :
    Meets (StageDuty locals.supervisor) (fun _ _ _ => True) (catchError (locals.journal phase))
      store past := by
  unfold catchError
  refine Meets.attemptBind (HandoffLocals.journal_records locals phase standing) ?_
  intro outcome now later _
  cases outcome with
  | ok _ => trivial
  | error halt => cases halt <;> trivial

private theorem journalClear_clears (supervisor : Supervisor) :
    Meets (StageDuty supervisor) (fun outcome now later => now = store ∧ outcome = .ok () ∧
      (supervisor.journalPath.isSome = true → ∃ deleted, lastJournal later = some (none, deleted)))
      (journalClear supervisor) store past := by
  unfold journalClear
  cases supervisor.journalPath with
  | none => exact ⟨rfl, rfl, fun impossible => by contradiction⟩
  | some path =>
      refine Meets.callBind trivial fun deleted => ?_
      exact ⟨rfl, rfl, fun _ => ⟨_, lastJournal_append rfl⟩⟩

private theorem killAndReap_silent :
    Meets (StageDuty supervisor) (fun outcome _ later => outcome = .ok () ∧ Silently past later)
      killAndReap store past := by
  unfold killAndReap
  apply Meets.loadBind
  cases store.guard with
  | none => exact ⟨rfl, Grows.refl past⟩
  | some pid =>
      refine Meets.callBind trivial fun killed => ?_
      refine Meets.callBind trivial fun reaped => ?_
      exact ⟨rfl, ((Grows.refl past).step _ rfl).step _ rfl⟩

private theorem Standing.dismiss {next : SupM Value}
    {post : Except Halt Value → SupStore → SupPast → Prop} (version : ProtoVersion)
    (reason : String) (standing : Standing handoffId child stage past)
    (due : stage.turn = some turn) (addressed : turn.peer = .successor)
    (expected : turn.expects (.abort handoffId reason) = some handoffId)
    (settled : turn.failed = turn.next)
    (rest : ∀ now later, Standing handoffId child turn.next later →
      Meets (StageDuty supervisor) post next now later) :
    Meets (StageDuty supervisor) post (do
      sendBestEffortAbort version handoffId reason
      killAndReap
      next) store past := by
  unfold sendBestEffortAbort
  rw [meets_bind]
  refine Meets.callBind (standing.mayWrite due addressed expected trivial) fun written => ?_
  have moved : stage.sends .successor (.abort handoffId reason) written.isOk = turn.next := by
    rw [Stage.sends, due]
    dsimp only
    rw [if_pos ⟨addressed, by rw [expected]; rfl⟩, settled, ite_self]
  have told : Standing handoffId child turn.next
      (past ++ [⟨⟨store, .writeFrame .successor version (.abort handoffId reason)⟩, written⟩]) :=
    standing.move moved rfl rfl rfl
  apply Meets.bind killAndReap_silent
  · intro _ now later held
    exact rest now later (told.silently held.2)
  · intro halt now later held
    exact absurd held.1 (by simp)

/-! ### The steps of a handoff -/

def Cleared (supervisor : Supervisor) (past : SupPast) : Prop :=
  supervisor.journalPath.isSome = true → ∃ deleted, lastJournal past = some (none, deleted)

theorem Cleared.silently {later : SupPast} (cleared : Cleared supervisor past)
    (silently : Silently past later) : Cleared supervisor later := by
  intro journalled
  rw [silently.lastJournal_eq]
  exact cleared journalled

def Unless {Value : Type} (done : Value → SupPast → Prop) (outcome : Except Halt Value)
    (_ : SupStore) (later : SupPast) : Prop :=
  ∀ value, outcome = .ok value → done value later

variable {done : Value → SupPast → Prop}

private theorem unless_error (halt : Halt) (now : SupStore) (later : SupPast) :
    Unless done (.error halt) now later := by
  intro value impossible
  cases impossible

private theorem unless_ok {value : Value} (now : SupStore) {later : SupPast}
    (held : done value later) : Unless done (.ok value) now later := by
  intro other same
  cases same
  exact held

private theorem unless_fail (halt : Halt) :
    Meets (StageDuty supervisor) (Unless done) (fail halt) store past :=
  unless_error halt store past

private theorem unless_pure {value : Value} (held : done value past) :
    Meets (StageDuty supervisor) (Unless done) (Pure.pure value) store past :=
  unless_ok store held

private theorem unless_bind {code : SupM Other} {next : Other → SupM Value}
    {middle : Except Halt Other → SupStore → SupPast → Prop}
    (first : Meets (StageDuty supervisor) middle code store past)
    (rest : ∀ value now later, middle (.ok value) now later →
      Meets (StageDuty supervisor) (Unless done) (next value) now later) :
    Meets (StageDuty supervisor) (Unless done) (code >>= next) store past :=
  Meets.bind first rest fun _ _ _ _ => unless_error _ _ _

private theorem Standing.unlessBind {code : SupM Other} {next : Other → SupM Value}
    (standing : Standing handoffId child stage past) (silent : Within silentOp code)
    (rest : ∀ value later, Silently past later → Standing handoffId child stage later →
      Meets (StageDuty supervisor) (Unless done) (next value) store later) :
    Meets (StageDuty supervisor) (Unless done) (code >>= next) store past :=
  standing.silentBind silent rest fun _ _ _ => unless_error _ _ _

abbrev HandoffLocals.At (locals : HandoffLocals) (stage : Stage) (past : SupPast) : Prop :=
  Standing locals.handoffId (some locals.successorPid) stage past

private theorem prepare_stands (locals : HandoffLocals) (fuel : Nat)
    (standing : locals.At .ackedSuccessor past) :
    Meets (StageDuty locals.supervisor) (Unless fun _ => locals.At .drained)
      (prepare locals fuel) store past := by
  unfold prepare
  refine standing.unlessBind (Reliable.within (remainingUntil_reliable _ rfl)) ?_
  intro remaining later _ standing
  refine standing.writeBind rfl rfl rfl trivial ?_ (fun _ _ => unless_error _ _ _)
  intro standing
  refine standing.unlessBind (addDuration_within _ _) ?_
  intro timeout later _ standing
  have patient (message : Message) (other : isDrained message = false) :
      Stage.hears locals.handoffId .prepared .incumbent message = .prepared := by
    cases message <;> first | rfl | contradiction
  refine unless_bind (readUntil_waits _ _ _ isDrained_awaits fuel standing patient) ?_
  intro message now later waited
  obtain ⟨rfl, accepted, standing⟩ := waited
  have moved : Stage.hears locals.handoffId .prepared .incumbent message = .drained := by
    cases message <;> first | rfl | contradiction
  rw [moved] at standing
  apply (HandoffLocals.journal_records locals .draining standing).mono
  intro outcome last final held
  cases outcome with
  | error halt => exact unless_error _ _ _
  | ok _ => exact unless_ok _ held.2.1

private theorem abandonSeal_stands (locals : HandoffLocals) (reason : String)
    {done : Except String Unit → SupPast → Prop} (standing : locals.At .requested past) :
    Meets (StageDuty locals.supervisor) (Unless done) (abandonSeal locals reason) store past := by
  unfold abandonSeal
  refine standing.unlessBind (Reliable.within (clearRecvTimeout_reliable _ rfl)) ?_
  intro _ cleared _ standing
  refine standing.dismiss locals.chosenN reason rfl rfl rfl rfl ?_
  intro now later _
  exact Meets.bind (journalClear_clears locals.supervisor) (fun _ _ _ _ => unless_fail _)
    (fun _ _ _ _ => unless_error _ _ _)

def sealStage : Except String Unit → Stage
  | .ok _ => .sealed
  | .error _ => .requested

private theorem sealVerdict_stage {verdict : Except String Unit}
    (ruled : sealVerdict handoffId message = some verdict) :
    Stage.hears handoffId .requested .incumbent message = sealStage verdict := by
  cases message <;> simp only [sealVerdict] at ruled <;> try contradiction
  · split at ruled
    · next same =>
        cases ruled
        exact if_pos same
    · contradiction
  · split at ruled
    · cases ruled
      rfl
    · contradiction

private theorem sealWaitLoop_stands (locals : HandoffLocals) (deadline : Instant) (fuel : Nat)
    (standing : locals.At .requested past) :
    Meets (StageDuty locals.supervisor) (Unless fun verdict => locals.At (sealStage verdict))
      (sealWaitLoop locals deadline fuel) store past := by
  induction fuel generalizing past with
  | zero =>
      refine ⟨trivial, ?_⟩
      intro answer
      exact answer.elim
  | succ fuel ih =>
      unfold sealWaitLoop
      refine standing.unlessBind (within_call rfl) ?_
      intro now ticked _ standing
      rw [meets_ite]
      constructor
      · intro _
        exact abandonSeal_stands locals _ standing
      · intro _
        refine standing.unlessBind (Reliable.within (armRecvTimeout_reliable _ _ rfl rfl)) ?_
        intro _ armed _ standing
        refine Meets.callBind trivial fun polled => ?_
        have failing (cause : Error) {stopped : SupPast} : Meets (StageDuty locals.supervisor)
            (Unless fun verdict => locals.At (sealStage verdict))
            (do clearRecvTimeout .incumbent; raise cause) store stopped :=
          clearRecvTimeout_steps _ trivial fun _ => unless_fail _
        cases polled with
        | failed cause => exact failing cause
        | waiting midFrame =>
            cases midFrame with
            | true => exact ih (standing.move rfl rfl rfl rfl)
            | false => exact abandonSeal_stands locals _ (standing.move rfl rfl rfl rfl)
        | frame version message =>
            have ruled : Meets (StageDuty locals.supervisor)
                (Unless fun verdict => locals.At (sealStage verdict))
                (ruleOnSeal locals.handoffId message) store
                (armed ++ [⟨⟨store, .pollRead .incumbent⟩, .frame version message⟩]) := by
              unfold ruleOnSeal
              cases verdict : sealVerdict locals.handoffId message with
              | none => exact failing _
              | some outcome =>
                  exact unless_pure (standing.move (sealVerdict_stage verdict) rfl rfl rfl)
            cases message with
            | sealProgress shardsSealed shardsTotal lastRevision =>
                exact ih (standing.move rfl rfl rfl rfl)
            | heartbeat tsMs => exact ih (standing.move rfl rfl rfl rfl)
            | _ => exact ruled

def VerdictAt (handoffId : HandoffId) (verdict : Except Error Message) (stage : Stage) : Prop :=
  if isOwnReady handoffId (checkReady handoffId verdict) then stage = .readied
  else stage = .begun ∨ stage = .unbegun

private theorem verdictAt_ready (ready : isReady message = true) :
    VerdictAt handoffId (.ok message) (Stage.hears handoffId .begun .successor message) := by
  cases message with
  | ready id listeningOn healthzOk advertised =>
      unfold VerdictAt checkReady
      by_cases same : id = handoffId
      · simp [same, isOwnReady, Stage.hears]
      · simp [same, isOwnReady, Stage.hears]
  | _ => contradiction

private theorem awaitReady_stands (locals : HandoffLocals) (fuel : Nat)
    (standing : locals.At .sealed past)
    (recorded : locals.supervisor.journalPath.isSome = true → ∃ record,
      lastJournal past = some (some record, true) ∧ record.phase = .sealing) :
    Meets (StageDuty locals.supervisor) (Unless fun verdict later => ∃ stage,
      VerdictAt locals.handoffId verdict stage ∧ locals.At stage later)
      (awaitReady locals fuel) store past := by
  unfold awaitReady
  refine Meets.callBind (standing.mayWrite rfl rfl rfl recorded) fun written => ?_
  cases written with
  | error cause =>
      exact unless_pure ⟨.unbegun, Or.inr rfl, standing.move rfl rfl rfl rfl⟩
  | ok _ =>
      have begun : locals.At .begun (past ++ [⟨⟨store, .writeFrame .successor locals.chosenN
          (.begin locals.handoffId)⟩, .ok ()⟩]) := standing.move rfl rfl rfl rfl
      refine unless_bind (HandoffLocals.journal_records locals .awaitingReady begun) ?_
      intro _ now journaled held
      obtain ⟨rfl, standing, _⟩ := held
      refine standing.unlessBind (Reliable.within (remainingUntil_reliable _ rfl)) ?_
      intro remaining ticked _ standing
      refine standing.unlessBind (addDuration_within _ _) ?_
      intro timeout armed _ standing
      have patient (message : Message) (other : isReady message = false) :
          Stage.hears locals.handoffId .begun .successor message = .begun := by
        cases message <;> first | rfl | contradiction
      unfold catchError
      refine Meets.attemptBind (readUntil_waits _ _ _ isReady_awaits fuel standing patient) ?_
      intro outcome last later waited
      obtain ⟨rfl, waited⟩ := waited
      cases outcome with
      | ok message => exact unless_pure ⟨_, verdictAt_ready waited.1, waited.2⟩
      | error halt =>
          cases halt with
          | error cause => exact unless_pure ⟨.begun, Or.inl rfl, waited⟩
          | panic => exact unless_fail _

private theorem commitHandoff_stands (locals : HandoffLocals) (standing : locals.At .readied past) :
    Meets (StageDuty locals.supervisor) (Unless fun _ => Cleared locals.supervisor)
      (commitHandoff locals) store past := by
  unfold commitHandoff disarm
  rw [meets_bind]
  apply Meets.loadBind
  cases store.guard with
  | none => exact unless_error _ store past
  | some pid =>
      apply Meets.updateBind
      refine Meets.callBind (standing.mayWrite rfl rfl rfl trivial) fun written => ?_
      have committed : locals.At .committed (past ++ [⟨⟨{ store with guard := none },
          .writeFrame .incumbent locals.chosenO (.commit locals.handoffId)⟩, written⟩]) :=
        standing.move (by cases written <;> rfl) rfl rfl rfl
      refine unless_bind (catchError_journal_records locals .committed committed) ?_
      intro _ now later _
      refine unless_bind (journalClear_clears locals.supervisor) ?_
      intro _ last final held
      exact unless_pure held.2.2

private theorem abortHandoff_stands (locals : HandoffLocals) (verdict : Except Error Message)
    (waiting : stage = .begun ∨ stage = .unbegun) (standing : locals.At stage past) :
    Meets (StageDuty locals.supervisor) (Unless fun _ => Cleared locals.supervisor)
      (abortHandoff locals verdict) store past := by
  unfold abortHandoff
  have due : stage.turn = some ⟨.successor, abortId, .aborted, .aborted⟩ := by
    cases waiting with
    | inl begun => rw [begun]; rfl
    | inr unbegun => rw [unbegun]; rfl
  refine standing.dismiss locals.chosenN _ due rfl rfl rfl ?_
  intro now later standing
  refine standing.writeBind rfl rfl rfl trivial ?_ (fun _ _ => unless_error _ _ _)
  intro standing
  refine unless_bind (HandoffLocals.journal_records locals .resumingAfterAbort standing) ?_
  intro _ last journaled _
  refine unless_bind (journalClear_clears locals.supervisor) ?_
  intro _ final cleared held
  exact unless_pure held.2.2

private theorem finishHandoff_stands (locals : HandoffLocals) (fuel : Nat)
    (standing : locals.At .sealed past) :
    Meets (StageDuty locals.supervisor) (Unless fun _ => Cleared locals.supervisor)
      (finishHandoff locals fuel) store past := by
  unfold finishHandoff
  refine unless_bind (HandoffLocals.journal_records locals .sealing standing) ?_
  intro _ now journaled held
  obtain ⟨rfl, standing, recorded⟩ := held
  refine unless_bind (awaitReady_stands locals fuel standing recorded) ?_
  intro verdict last later awaited
  obtain ⟨stage, ruled, standing⟩ := awaited verdict rfl
  unfold VerdictAt at ruled
  rw [meets_ite]
  constructor
  · intro own
    rw [if_pos own] at ruled
    subst ruled
    exact commitHandoff_stands locals standing
  · intro other
    rw [if_neg other] at ruled
    exact abortHandoff_stands locals _ ruled standing

private theorem sealAndFinish_stands (locals : HandoffLocals) (fuel : Nat)
    (standing : locals.At .drained past) :
    Meets (StageDuty locals.supervisor) (Unless fun _ => Cleared locals.supervisor)
      (sealAndFinish locals fuel) store past := by
  unfold sealAndFinish
  refine standing.writeBind rfl rfl rfl trivial ?_ (fun _ _ => unless_error _ _ _)
  intro standing
  refine standing.unlessBind (addInstant_within _ _) ?_
  intro deadline armed _ standing
  refine unless_bind (sealWaitLoop_stands locals deadline fuel standing) ?_
  intro outcome now waited held
  have standing := held outcome rfl
  refine standing.unlessBind (Reliable.within (clearRecvTimeout_reliable _ rfl)) ?_
  intro _ cleared _ standing
  cases outcome with
  | ok _ => exact finishHandoff_stands locals fuel standing
  | error text =>
      refine standing.dismiss locals.chosenN _ rfl rfl rfl rfl ?_
      intro now later _
      refine unless_bind (journalClear_clears locals.supervisor) ?_
      intro _ last final held
      exact unless_pure held.2.2

private theorem acknowledge_stands {next : Stage} {low high : ProtoVersion} (pid : UInt32)
    (standing : Standing handoffId child stage past)
    (due : stage.turn = some ⟨peer, ackId, next, .halted⟩) (heard : pidAnnounced peer past = some pid)
    (known : peer = .successor → child = some pid) :
    Meets (StageDuty supervisor) (Unless fun _ later => Standing handoffId child next later ∧
      ∀ other, other ≠ peer → later.filterMap (frameFrom other) = past.filterMap (frameFrom other))
      (acknowledge .current peer handoffId low high) store past := by
  refine Meets.ofExceptBind ?_ (fun _ _ => unless_error _ _ _)
  intro chosen _
  refine standing.writeBind due rfl rfl ?_ ?_ (fun _ _ => unless_error _ _ _)
  · cases peer with
    | incumbent => exact Option.isSome_of_eq_some heard
    | successor =>
        have own := standing.spawned.trans (known rfl)
        exact ⟨heard.trans own.symm, Option.isSome_of_eq_some own⟩
  · intro standing
    refine unless_pure ⟨standing, fun other _ => ?_⟩
    exact filterMap_append_none rfl

private theorem exchangeHelloAsSupervisor_stands {next : Stage} (expectedRole : Side)
    (expectedPid : Option UInt32) (standing : Standing handoffId child stage past)
    (due : stage.turn = some ⟨peer, ackId, next, .halted⟩)
    (deaf : ∀ message, stage.hears handoffId peer message = stage)
    (unheard : past.filterMap (frameFrom peer) = [])
    (known : peer = .successor → expectedPid = child ∧ child.isSome = true) :
    Meets (StageDuty supervisor) (Unless fun _ later => Standing handoffId child next later ∧
      ∀ other, other ≠ peer → later.filterMap (frameFrom other) = past.filterMap (frameFrom other))
      (exchangeHelloAsSupervisor peer handoffId expectedRole expectedPid) store past := by
  unfold exchangeHelloAsSupervisor exchangeHelloOf
  refine standing.unlessBind (Reliable.within (armRecvTimeout_reliable _ _ rfl rfl)) ?_
  intro _ armed arming standing
  refine Meets.callBind trivial fun polled => ?_
  refine clearRecvTimeout_steps peer trivial fun answer => ?_
  rcases ruleOnHello_cases .current peer handoffId expectedRole expectedPid polled with
    ⟨cause, refused, _⟩ | ⟨version, pid, buildId, low, high, capabilities, rfl, agreed, accepted⟩
  · rw [refused]
    exact unless_fail _
  · rw [accepted]
    have read : Standing handoffId child stage (armed ++ [⟨⟨store, .pollRead peer⟩,
        .frame version (.hello expectedRole pid buildId low high capabilities)⟩]) :=
      standing.move (deaf _) rfl rfl rfl
    have cleared : Standing handoffId child stage ((armed ++ [⟨⟨store, .pollRead peer⟩,
        .frame version (.hello expectedRole pid buildId low high capabilities)⟩]) ++
        [⟨⟨store, .setReadTimeout peer none⟩, answer⟩]) := read.move rfl rfl rfl rfl
    refine (acknowledge_stands pid cleared due ?_ ?_).mono ?_
    · rw [pidAnnounced, filterMap_append_none rfl, List.filterMap_append, arming.frames_eq, unheard]
      simp [frameFrom, helloPid]
    · intro successor
      obtain ⟨same, some⟩ := known successor
      obtain ⟨expected, own⟩ := Option.isSome_iff_exists.mp some
      rw [own, agreed expected (same.trans own)]
    · intro outcome now later ends chosen ok
      obtain ⟨standing, others⟩ := ends chosen ok
      refine ⟨standing, fun other different => (others other different).trans ?_⟩
      rw [filterMap_append_none rfl, filterMap_append_none ?_, arming.frames_eq]
      exact if_neg different.symm

/-! ### The whole call -/

private theorem orIo_silent (outcome : Except IoError Value) : Within silentOp (orIo outcome) :=
  within_ofExcept _

private theorem driveHandoff_stands (spec : SpawnSpec) (startedUnixMs : UInt64)
    (totalDeadlineAt : Instant) (chosenO : ProtoVersion) (successorPid : UInt32) (fuel : Nat)
    (standing : Standing handoffId (some successorPid) .ackedIncumbent past)
    (unheard : past.filterMap (frameFrom .successor) = []) :
    Meets (StageDuty supervisor) (Unless fun _ => Cleared supervisor)
      (driveHandoff supervisor spec handoffId startedUnixMs totalDeadlineAt chosenO successorPid
        fuel) store past := by
  unfold driveHandoff
  refine standing.unlessBind (within_call rfl) ?_
  intro configured later silently standing
  refine standing.unlessBind (orIo_silent configured) ?_
  intro _ ready further standing
  have unheard : ready.filterMap (frameFrom .successor) = [] := by
    rw [further.frames_eq, silently.frames_eq]
    exact unheard
  refine unless_bind (exchangeHelloAsSupervisor_stands .successor (some successorPid) standing rfl
    (fun _ => rfl) unheard (fun _ => ⟨rfl, rfl⟩)) ?_
  intro chosenN now later exchanged
  obtain ⟨standing, _⟩ := exchanged chosenN rfl
  refine unless_bind (HandoffLocals.journal_records ⟨supervisor, spec, handoffId, startedUnixMs,
    totalDeadlineAt, chosenO, successorPid, chosenN⟩ .negotiating standing) ?_
  intro _ last journaled held
  refine unless_bind (prepare_stands _ fuel held.2.1) ?_
  intro _ final prepared drained
  exact sealAndFinish_stands _ fuel (drained () rfl)

/-- What is dropped on the way out says nothing to anyone. -/
private theorem unless_ensuring {cleanup : SupM Unit}
    (inner : Meets (StageDuty supervisor) (Unless fun _ => Cleared supervisor) code store past)
    (silent : ∀ now later, Meets (StageDuty supervisor)
      (fun _ _ final => Silently later final) cleanup now later) :
    Meets (StageDuty supervisor) (Unless fun _ => Cleared supervisor) (ensuring code cleanup)
      store past := by
  rw [meets_ensuring]
  apply inner.mono
  intro outcome now later held
  apply (silent now later).mono
  intro _ last final silently value same
  exact (held value same).silently silently

private theorem close_silent (peer : Side) (now : SupStore) (later : SupPast) :
    Meets (StageDuty supervisor) (fun _ _ final => Silently later final) (ask (.close peer)) now
      later :=
  ⟨trivial, fun _ => (Grows.refl later).step _ rfl⟩

private theorem spawnAndDrive_stands (spec : SpawnSpec) (startedUnixMs : UInt64)
    (totalDeadlineAt : Instant) (chosenO : ProtoVersion) (fuel : Nat)
    (standing : Standing handoffId none .ackedIncumbent past)
    (unheard : past.filterMap (frameFrom .successor) = []) :
    Meets (StageDuty supervisor) (Unless fun _ => Cleared supervisor)
      (spawnAndDrive supervisor spec handoffId startedUnixMs totalDeadlineAt chosenO fuel)
      store past := by
  unfold spawnAndDrive
  refine standing.unlessBind (within_call rfl) ?_
  intro paired later silently standing
  refine standing.unlessBind (within_ofExcept _) ?_
  intro _ ready further standing
  refine Meets.callBind ⟨handoffId, standing.identity, standing.stage, standing.spawned⟩ ?_
  intro spawnAnswer
  cases spawnAnswer with
  | error cause =>
      refine Meets.callBind trivial fun _ => ?_
      exact Meets.callBind trivial fun _ => unless_fail _
  | ok successorPid =>
      apply Meets.updateBind
      refine Meets.callBind trivial fun _ => ?_
      apply unless_ensuring
      · apply unless_ensuring _ (close_silent .successor)
        apply driveHandoff_stands
        · refine ⟨?_, ?_, ?_, ?_⟩
          · simp only [handoffIdOf_append, handoffIdOf?, Option.none_or]
            exact standing.identity
          · simp only [spawned_append, spawns?, Option.none_or, Option.some_or]
          · simp only [stageOf_append, Stage.after]
            exact standing.stage
          · simp only [List.any_append, standing.kept]
            rfl
        · rw [filterMap_append_none rfl, filterMap_append_none rfl, further.frames_eq,
            silently.frames_eq]
          exact unheard
      · intro now later
        exact killAndReap_silent.mono fun _ _ _ held => held.2

private theorem connectAndDrive_stands (spec : SpawnSpec) (startedUnixMs : UInt64)
    (totalDeadlineAt : Instant) (fuel : Nat) (standing : Standing handoffId none .fresh past)
    (unheard : ∀ peer, past.filterMap (frameFrom peer) = []) :
    Meets (StageDuty supervisor) (Unless fun _ => Cleared supervisor)
      (connectAndDrive supervisor spec handoffId startedUnixMs totalDeadlineAt fuel) store past := by
  unfold connectAndDrive
  refine standing.unlessBind (within_call rfl) ?_
  intro connected later silently standing
  refine standing.unlessBind (orIo_silent connected) ?_
  intro _ opened further standing
  apply unless_ensuring _ (close_silent .incumbent)
  refine standing.unlessBind (within_call rfl) ?_
  intro configured now configuring standing
  refine standing.unlessBind (orIo_silent configured) ?_
  intro _ ready readying standing
  have unheard (peer : Side) : ready.filterMap (frameFrom peer) = [] := by
    rw [readying.frames_eq, configuring.frames_eq, further.frames_eq, silently.frames_eq]
    exact unheard peer
  refine unless_bind (exchangeHelloAsSupervisor_stands .incumbent none standing rfl (fun _ => rfl)
    (unheard .incumbent) (fun impossible => by contradiction)) ?_
  intro chosenO last greeted exchanged
  obtain ⟨standing, others⟩ := exchanged chosenO rfl
  apply spawnAndDrive_stands _ _ _ _ _ standing
  rw [others .successor (by decide)]
  exact unheard .successor

theorem performHandoff_stands (supervisor : Supervisor) (spec : SpawnSpec) (fuel : Nat) :
    Meets (StageDuty supervisor) (Unless fun _ => Cleared supervisor)
      (performHandoff supervisor spec fuel) {} [] := by
  unfold performHandoff
  refine Meets.callBind trivial fun free => ?_
  cases free with
  | false => exact unless_fail _
  | true =>
      rw [if_pos rfl, meets_ensuringWith]
      refine Meets.mono (?_ : Meets (StageDuty supervisor) (Unless fun _ => Cleared supervisor)
        _ _ _) ?_
      · refine Meets.callBind rfl fun handoffId => ?_
        have standing : Standing handoffId none .fresh [⟨⟨{}, .tryLockInFlight⟩, true⟩,
            ⟨⟨{}, .newHandoffId⟩, handoffId⟩] := ⟨rfl, rfl, rfl, rfl⟩
        refine standing.unlessBind (within_call rfl) ?_
        intro startedInstant ticked ticking standing
        refine standing.unlessBind (within_call rfl) ?_
        intro startedUnixMs dated dating standing
        refine standing.unlessBind (addInstant_within _ _) ?_
        intro totalDeadlineAt later adding standing
        apply connectAndDrive_stands _ _ _ _ standing
        intro peer
        rw [adding.frames_eq, dating.frames_eq, ticking.frames_eq]
        rfl
      · intro outcome now later held
        refine ⟨trivial, fun _ => ?_⟩
        intro value same
        exact (held value same).silently ((Grows.refl later).step _ rfl)

end Walk

end Handoff
