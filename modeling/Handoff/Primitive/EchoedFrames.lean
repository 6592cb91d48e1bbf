/-
A session of an incumbent with heartbeats among the frames it receives.

The environment answers the polls from the frames that the supervisor sends and
lets every echo of a heartbeat succeed.  The clocks may depend on everything that
has happened; all other answers are a function of what the incumbent has done so
far: its hook calls, its system calls and its replies.  The deadline of `drain`
counts from a look at the clock, so a call of this hook is known by the time it
leaves.
-/

import Handoff.Effects.Lockstep
import Handoff.Primitive.Issued
import Handoff.Wire.Insertion

namespace Handoff

open Effects
open Effects.Code hiding pure bind

/-! ### Acts and surroundings -/

inductive Act where
  | drain (budget : Duration)
  | act (op : PrimOp)
  deriving DecidableEq

structure Ledger where
  reading : Instant := 0
  acts : List Act := []

def Ledger.after (ledger : Ledger) : PrimEvent → Ledger
  | ⟨⟨_, .now⟩, instant⟩ => { ledger with reading := instant }
  | ⟨⟨_, .drain deadline⟩, _⟩ =>
      { ledger with acts := ledger.acts ++ [.drain (deadline - ledger.reading)] }
  | ⟨⟨_, .nowUnixMs⟩, _⟩ | ⟨⟨_, .pollRead _⟩, _⟩ | ⟨⟨_, .writeFrame _ _ (.heartbeat _)⟩, _⟩ => ledger
  | ⟨⟨_, op⟩, _⟩ => { ledger with acts := ledger.acts ++ [.act op] }

def ledgerOf (past : PrimPast) : Ledger := past.foldl Ledger.after {}

/-- Hook calls, system calls and replies other than heartbeats. -/
def acts (past : PrimPast) : List Act := (ledgerOf past).acts

structure SessionWorld where
  clock : PrimPast → Instant
  unixMs : PrimPast → UInt64
  ending : List Act → Error
  drains : List Act → Duration → Except Error DrainReport
  answer : List Act → (op : PrimOp) → op ≠ .outOfFuel → PrimAns op

/-- The history of a session and the frames that are still to come. -/
structure SessionSetting where
  past : PrimPast := []
  frames : List Frame

namespace SessionWorld

def reply (world : SessionWorld) (setting : SessionSetting) :
    (op : PrimOp) → Option (PrimAns op × List Frame)
  | .now => some (world.clock setting.past, setting.frames)
  | .nowUnixMs => some (world.unixMs setting.past, setting.frames)
  | .writeFrame _ _ (.heartbeat _) => some (.ok (), setting.frames)
  | .drain deadline => some (world.drains (acts setting.past)
      (deadline - (ledgerOf setting.past).reading), setting.frames)
  | .pollRead _ =>
      match setting.frames with
      | [] => some (.failed (world.ending (acts setting.past)), [])
      | (version, message) :: rest => some (.frame version message, rest)
  | op =>
      if stalls : op = .outOfFuel then none
      else some (world.answer (acts setting.past) op stalls, setting.frames)

def respond (world : SessionWorld) (setting : SessionSetting) (call : Call PrimStore PrimOp) :
    Option (CallAns PrimStore PrimAns call × SessionSetting) :=
  (world.reply setting call.op).map fun (answer, frames) =>
    (answer, ⟨setting.past ++ [⟨call, answer⟩], frames⟩)

end SessionWorld

@[simp]
theorem ledgerOf_append (past : PrimPast) (event : PrimEvent) :
    ledgerOf (past ++ [event]) = (ledgerOf past).after event := by
  rw [ledgerOf, List.foldl_append]
  rfl

/-! ### Comparing two sessions -/

structure AlikeBy (rel : List Frame → List Frame → Prop) (left right : SessionSetting) : Prop where
  acts : acts left.past = acts right.past
  frames : rel left.frames right.frames

abbrev Alike : SessionSetting → SessionSetting → Prop := AlikeBy (Woven isHeartbeat)

/-- No excuses: a session loop has no deadline. -/
def byActs (fuel : Nat) : Comparison SessionSetting Error where
  fits setting := setting.frames.length < fuel
  grows _ _ := True
  aligned := Alike
  lost _ := False
  fatal _ := False
  grows_refl _ := trivial
  grows_trans _ _ := trivial
  lost_grows _ lost := lost

/-- Operations whose answers do not depend on the clocks or on frames. -/
def untimedOp : PrimOp → Bool
  | .now | .nowUnixMs | .pollRead _ | .drain _ | .outOfFuel | .writeFrame _ _ (.heartbeat _) => false
  | _ => true

section

variable {world : SessionWorld} {fuel : Nat} {setting left right : SessionSetting}
  {frames : List Frame} {call : Call PrimStore PrimOp}

private theorem respond_of_sessionReply {answer : PrimAns call.op}
    (replied : world.reply setting call.op = some (answer, frames)) :
    world.respond setting call = some (answer, ⟨setting.past ++ [⟨call, answer⟩], frames⟩) := by
  rw [SessionWorld.respond, replied]
  rfl

variable {op : PrimOp}

private theorem reply_plain (world : SessionWorld) (plain : untimedOp op = true)
    (stalls : op ≠ .outOfFuel) (setting : SessionSetting) :
    world.reply setting op = some (world.answer (acts setting.past) op stalls, setting.frames) := by
  cases op with
  | now | nowUnixMs | pollRead | drain | outOfFuel => contradiction
  | writeFrame channel version message =>
      cases message with
      | heartbeat tsMs => contradiction
      | _ => rfl
  | _ => rfl

private theorem ledger_plain (plain : untimedOp call.op = true) (ledger : Ledger)
    (answer : CallAns PrimStore PrimAns call) :
    ledger.after ⟨call, answer⟩ = { ledger with acts := ledger.acts ++ [.act call.op] } := by
  obtain ⟨store, op⟩ := call
  cases op with
  | now | nowUnixMs | pollRead | drain | outOfFuel => contradiction
  | writeFrame channel version message =>
      cases message with
      | heartbeat tsMs => contradiction
      | _ => rfl
  | _ => rfl

private theorem plain_going (plain : untimedOp op = true) : op ≠ .outOfFuel := by
  intro stalls
  rw [stalls] at plain
  contradiction

private theorem respond_plain (plain : untimedOp call.op = true)
    {rel : List Frame → List Frame → Prop} (alike : AlikeBy rel left right) :
    ∃ answer left' right', world.respond left call = some (answer, left') ∧
      world.respond right call = some (answer, right') ∧ AlikeBy rel left' right' := by
  have one := reply_plain world plain (plain_going plain) left
  have two := reply_plain world plain (plain_going plain) right
  rw [← alike.acts] at two
  refine ⟨_, _, _, respond_of_sessionReply one, respond_of_sessionReply two, ?_, alike.frames⟩
  have same := alike.acts
  unfold acts at same ⊢
  rw [ledgerOf_append, ledgerOf_append, ledger_plain plain, ledger_plain plain, same]

abbrev SessionLocked (world : SessionWorld) (fuel : Nat)
    (pre post : SessionSetting → SessionSetting → Prop)
    {Value : Type} (code : PrimM Value) : Prop :=
  Locks world.respond (byActs fuel) pre post code

abbrev Plain {Value : Type} (code : PrimM Value) : Prop := Issues (fun _ => True) untimedOp code

variable {Value : Type} {code : PrimM Value} {rel : List Frame → List Frame → Prop}

private theorem plain_locked (plain : Plain code)
    (weaker : ∀ frames longer, rel frames longer → Woven isHeartbeat frames longer) :
    SessionLocked world fuel (AlikeBy rel) (AlikeBy rel) code := by
  refine Issues.locks plain ?_ ?_ ?_
  · intro state call fits permitted
    exact ⟨_, _, respond_of_sessionReply (reply_plain world permitted (plain_going permitted) state),
      trivial, fits⟩
  · intro left right call alike permitted
    exact respond_plain permitted alike
  · intro left right alike
    exact ⟨alike.acts, weaker _ _ alike.frames⟩

private theorem plain_alike (plain : Plain code) : SessionLocked world fuel Alike Alike code :=
  plain_locked plain fun _ _ woven => woven

private theorem drive_sessionAsk {store : PrimStore} {next : PrimAns op → PrimM Value}
    {answer : PrimAns op} (replied : world.reply setting op = some (answer, frames)) :
    ((PrimM.ask op >>= next) store).drive world.respond setting =
      (next answer store).drive world.respond
        ⟨setting.past ++ [⟨⟨store, op⟩, answer⟩], frames⟩ := by
  have answered : world.respond setting ⟨store, op⟩ =
      some (answer, ⟨setting.past ++ [⟨⟨store, op⟩, answer⟩], frames⟩) :=
    respond_of_sessionReply replied
  exact Program.drive_call _ answered

/-! ### The hooks -/

private theorem plain_update (change : PrimStore → PrimStore) :
    Plain (update change : PrimM Unit) :=
  issues_update fun _ _ => trivial

private theorem plain_check {outcome : PrimAns op → Except Error Value}
    (plain : untimedOp op = true) : Plain (do ofExcept (outcome (← PrimM.ask op))) :=
  issues_callBind plain fun _ => issues_ofExcept _

private theorem onSealRequest_plain (chosen : ProtoVersion) (handoffId : HandoffId) :
    Plain (onSealRequest chosen handoffId) := by
  unfold onSealRequest
  refine issues_loadBind fun store _ => ?_
  apply issues_ite (issues_ofExcept _)
  refine issues_bind (issues_attempt (runWithHeartbeats_issues rfl (fun _ _ _ => trivial)
    (plain_check rfl))) fun outcome => ?_
  cases outcome with
  | ok report =>
      refine issues_bind (takeLock_issues rfl rfl fun _ _ => trivial) fun _ => ?_
      exact issues_bind (plain_update _) fun _ => plain_check rfl
  | error cause =>
      refine issues_tried rfl fun _ => issues_tried rfl fun _ => ?_
      exact issues_bind (plain_update _) fun _ => plain_update _

private theorem onRollback_plain (host : Host) (unknown : String) (handoffId : HandoffId) :
    Plain (onRollback host unknown handoffId) := by
  refine onRollback_issues host unknown handoffId (fun op acquires => ?_) rfl (fun _ _ _ => trivial)
    fun _ _ _ => trivial
  cases op <;> first | contradiction | rfl

/-! ### Code that looks at a clock -/

private theorem locked_of_acts (result : List Act → PrimStore → Except Error Value × PrimStore)
    (further : List Act)
    (spec : ∀ store setting, ∃ last,
      (code store).drive world.respond setting = some (result (acts setting.past) store, last) ∧
        acts last.past = acts setting.past ++ further ∧ last.frames = setting.frames) :
    SessionLocked world fuel Alike Alike code := by
  refine ⟨?_, ?_⟩
  · intro store setting fits
    obtain ⟨last, driven, _, frames⟩ := spec store setting
    refine ⟨_, last, driven, trivial, ?_⟩
    change last.frames.length < fuel
    rw [frames]
    exact fits
  · intro store left right alike _ _ first second left' right' one two
    obtain ⟨last, driven, done, frames⟩ := spec store left
    obtain ⟨last', driven', done', frames'⟩ := spec store right
    rw [alike.acts] at driven done
    cases driven.symm.trans one
    cases driven'.symm.trans two
    have still : Alike left' right' := by
      refine ⟨done.trans done'.symm, ?_⟩
      rw [frames, frames']
      exact alike.frames
    exact Or.inr (Or.inr ⟨rfl, still, fun _ _ => still⟩)

def drainOutcome (world : SessionWorld) (budget : Duration) (done : List Act) (store : PrimStore) :
    Except Error DrainReport × PrimStore :=
  (world.drains (done ++ [.act .tryClone]) budget,
    match world.answer done .tryClone nofun with
    | Except.error _ => store
    | Except.ok () => { store with heartbeats := false })

section Drain

variable (store : PrimStore) (setting : SessionSetting) (instant : Instant)

private theorem ledgerOf_now : ledgerOf (setting.past ++ [⟨⟨store, .now⟩, instant⟩]) =
    ⟨instant, acts setting.past⟩ :=
  ledgerOf_append _ _

variable (cloned : Except IoError Unit) (budget : Duration)

def beforeDrain : PrimPast :=
  (setting.past ++ [⟨⟨store, .now⟩, instant⟩]) ++ [⟨⟨store, .tryClone⟩, cloned⟩]

private theorem ledgerOf_beforeDrain : ledgerOf (beforeDrain store setting instant cloned) =
    ⟨instant, acts setting.past ++ [.act .tryClone]⟩ := by
  rw [beforeDrain, ledgerOf_append, ledgerOf_now]
  rfl

/-- The deadline moves with the clock; the time that is left does not. -/
private theorem reply_drain : world.reply ⟨beforeDrain store setting instant cloned, setting.frames⟩
    (.drain (instant + budget)) =
      some (world.drains (acts setting.past ++ [.act .tryClone]) budget, setting.frames) := by
  rw [SessionWorld.reply, acts, ledgerOf_beforeDrain, Nat.add_sub_cancel_left]

private theorem acts_drained (now : PrimStore) (report : Except Error DrainReport) :
    acts (beforeDrain store setting instant cloned ++
      [⟨⟨now, .drain (instant + budget)⟩, report⟩]) =
        acts setting.past ++ [.act .tryClone, .drain budget] := by
  rw [acts, ledgerOf_append, ledgerOf_beforeDrain, Ledger.after, Nat.add_sub_cancel_left,
    List.append_assoc]
  rfl

private theorem drain_drive :
    ∃ last, ((PrimM.ask .now >>= fun now => runWithHeartbeats
        (PrimM.ask (.drain (now + budget)) >>= fun report => ofExcept report)) store).drive
          world.respond setting = some (drainOutcome world budget (acts setting.past) store, last) ∧
      acts last.past = acts setting.past ++ [.act .tryClone, .drain budget] ∧
        last.frames = setting.frames := by
  unfold runWithHeartbeats drainOutcome
  rw [drive_sessionAsk rfl, drive_sessionAsk rfl, acts, ledgerOf_now]
  cases world.answer (acts setting.past) .tryClone nofun with
  | error cause =>
      refine ⟨_, drive_sessionAsk (reply_drain _ _ _ _ _), acts_drained _ _ _ _ _ _ _, rfl⟩
  | ok _ =>
      have ended : acts _ = _ := acts_drained store setting (world.clock setting.past) (.ok ()) budget
        { store with heartbeats := true } (world.drains (acts setting.past ++ [.act .tryClone]) budget)
      refine ⟨⟨_, setting.frames⟩, ?_, ended, rfl⟩
      change ((((PrimM.ask (.drain (_ + budget)) >>= fun report => ofExcept report) :
        PrimM DrainReport) { store with heartbeats := true }).bind _).drive world.respond
          ⟨beforeDrain store setting (world.clock setting.past) (.ok ()), setting.frames⟩ = _
      rw [Program.drive_bind, drive_sessionAsk (reply_drain _ _ _ _ _)]
      rfl

end Drain

private theorem drain_locked (budget : Duration) :
    SessionLocked world fuel Alike Alike (PrimM.ask .now >>= fun now => runWithHeartbeats
      (PrimM.ask (.drain (now + budget)) >>= fun report => ofExcept report)) :=
  locked_of_acts (drainOutcome world budget) [.act .tryClone, .drain budget] fun store setting =>
    drain_drive store setting budget

private theorem onHeartbeat_drive (chosen : ProtoVersion) (store : PrimStore)
    (setting : SessionSetting) :
    ∃ last, (onHeartbeat chosen store).drive world.respond setting = some ((.ok (), store), last) ∧
      acts last.past = acts setting.past ∧ last.frames = setting.frames := by
  refine ⟨_, rfl, ?_, rfl⟩
  unfold acts
  rw [ledgerOf_append, ledgerOf_append]
  rfl

/-! ### Messages -/

theorem AlikeBy.refl (setting : SessionSetting) : Alike setting setting :=
  ⟨rfl, Woven.refl _⟩

private theorem loadBind_locked {next : PrimStore → PrimM Value}
    (rest : ∀ store, SessionLocked world fuel Alike Alike (next store)) :
    SessionLocked world fuel Alike Alike (load >>= next) :=
  ⟨fun store => (rest store).ends store, fun store => (rest store).agrees store⟩

private theorem onPrepareHandoff_locked (chosen : ProtoVersion) (handoffId : HandoffId)
    (deadlineMs drainGraceMs : UInt64) : SessionLocked world fuel Alike Alike
      (onPrepareHandoff chosen handoffId deadlineMs drainGraceMs) := by
  unfold onPrepareHandoff
  refine loadBind_locked fun store => ?_
  apply locks_ite (plain_alike (issues_ofExcept _))
  refine Locks.bind (plain_alike (plain_update _)) fun _ => ?_
  refine Locks.regroup (Locks.bind (drain_locked _) fun report => ?_)
  exact Locks.bind (plain_alike (plain_update _)) fun _ => plain_alike (plain_check rfl)

private theorem onHeartbeat_locked (chosen : ProtoVersion) :
    SessionLocked world fuel Alike Alike (onHeartbeat chosen) := by
  refine locked_of_acts (fun _ store => (.ok (), store)) [] ?_
  intro store setting
  rw [List.append_nil]
  exact onHeartbeat_drive chosen store setting

private theorem onMessage_locked (host : Host) (chosen : ProtoVersion) (message : Message) :
    SessionLocked world fuel Alike Alike (onMessage host chosen message) := by
  have next {Other : Type} {code : PrimM Other} (outcome : Other → Option SessionOutcome)
      (first : SessionLocked world fuel Alike Alike code) :
      SessionLocked world fuel Alike Alike (code >>= fun value => pure (outcome value)) :=
    first.bind fun value => plain_alike (issues_ofExcept (.ok (outcome value)))
  cases message with
  | prepareHandoff handoffId successorPid deadlineMs drainGraceMs =>
      exact next _ (onPrepareHandoff_locked chosen handoffId deadlineMs drainGraceMs)
  | sealRequest handoffId => exact next _ (plain_alike (onSealRequest_plain chosen handoffId))
  | commit handoffId => exact next _ (plain_alike (onCommit_within handoffId).issues)
  | resumeAfterAbort handoffId => exact next _ (plain_alike (onRollback_plain host _ handoffId))
  | abort handoffId reason => exact next _ (plain_alike (onRollback_plain host _ handoffId))
  | heartbeat tsMs => exact next _ (onHeartbeat_locked chosen)
  | _ => exact plain_alike (issues_ofExcept _)

/-! ### The session loop -/

private theorem locked_ends {pre post : SessionSetting → SessionSetting → Prop}
    (locked : SessionLocked world fuel pre post code) (store : PrimStore) (related : pre left right)
    (fits : left.frames.length < fuel) (fits' : right.frames.length < fuel) :
    ∃ result left' right', (code store).drive world.respond left = some (result, left') ∧
      (code store).drive world.respond right = some (result, right') ∧ Alike left' right' := by
  obtain ⟨result, left', one, _, _⟩ := locked.ends store left fits
  obtain ⟨result', right', two, _, _⟩ := locked.ends store right fits'
  rcases locked.agrees store left right related fits fits' one two with
    (lost | ⟨_, _, fatal⟩) | (lost | ⟨_, _, fatal⟩) | ⟨same, alike, _⟩
  · exact lost.elim
  · exact fatal.elim
  · exact lost.elim
  · exact fatal.elim
  · rw [same] at one
    exact ⟨result', left', right', one, two, alike⟩

private theorem reply_frames_le {answer : PrimAns op}
    (replied : world.reply setting op = some (answer, frames)) :
    frames.length ≤ setting.frames.length := by
  cases op with
  | pollRead handshake =>
      rw [SessionWorld.reply] at replied
      cases pending : setting.frames with
      | nil =>
          rw [pending] at replied
          cases replied
          exact Nat.le_refl _
      | cons frame rest =>
          rw [pending] at replied
          cases replied
          exact Nat.le_succ _
  | outOfFuel => contradiction
  | writeFrame channel version message => cases message <;> (cases replied; exact Nat.le_refl _)
  | _ =>
      cases replied
      exact Nat.le_refl _

private theorem drive_frames_le {store : PrimStore} {result : Except Error Value × PrimStore}
    {last : SessionSetting}
    (driven : (code store).drive world.respond setting = some (result, last)) :
    last.frames.length ≤ setting.frames.length := by
  refine Program.drive_invariant (fun state => state.frames.length ≤ setting.frames.length) ?_
    (Nat.le_refl _) driven
  intro state call answer next here answered
  obtain ⟨both, replied, built⟩ := Option.map_eq_some_iff.mp answered
  cases built
  exact Nat.le_trans (reply_frames_le replied) here

section Loop

variable (world) (host : Host) (chosen : ProtoVersion) (past : PrimPast) (version : ProtoVersion)
  (message : Message) (rest : List Frame) (count : Nat) (store : PrimStore)

def polled : SessionSetting :=
  ⟨past ++ [⟨⟨store, .pollRead false⟩, .frame version message⟩], rest⟩

private theorem acts_poll (handshake : Bool) (answer : Polled) :
    acts (past ++ [⟨⟨store, .pollRead handshake⟩, answer⟩]) = acts past :=
  congrArg Ledger.acts (ledgerOf_append _ _)

private theorem runSessionLoop_frame :
    (runSessionLoop host chosen (count + 1) store).drive world.respond
        ⟨past, (version, message) :: rest⟩ =
      ((onMessage host chosen message store).drive world.respond
        (polled past version message rest store)).bind fun (result, last) =>
          match result with
          | (.ok (some outcome), now) => some ((.ok outcome, now), last)
          | (.ok none, now) => (runSessionLoop host chosen count now).drive world.respond last
          | (.error cause, now) => some ((.error cause, now), last) := by
  rw [runSessionLoop, drive_sessionAsk rfl, drive_bind]
  apply congrArg
  funext both
  obtain ⟨⟨outcome, now⟩, last⟩ := both
  cases outcome with
  | error cause => rfl
  | ok value => cases value <;> rfl

private theorem runSessionLoop_heartbeat (heartbeat : isHeartbeat message = true) :
    ∃ later, (runSessionLoop host chosen (count + 1) store).drive world.respond
        ⟨past, (version, message) :: rest⟩ =
          (runSessionLoop host chosen count store).drive world.respond later ∧
      acts later.past = acts past ∧ later.frames = rest := by
  cases message with
  | heartbeat tsMs =>
      obtain ⟨last, echoed, done, frames⟩ := onHeartbeat_drive chosen store
        (polled past version (.heartbeat tsMs) rest store)
      refine ⟨last, ?_, done.trans (acts_poll _ _ _ _), frames⟩
      rw [runSessionLoop_frame, onMessage, drive_bind, echoed]
      rfl
  | _ => contradiction

end Loop

private theorem disconnected_plain (cause : Error) : Plain (if cause.isDisconnect then
    load >>= fun store => if store.state.sealed then
      fail (.protocol "supervisor disconnected after seal; resuming") else pure .closed
    else fail cause : PrimM SessionOutcome) := by
  apply issues_ite
  · refine issues_loadBind fun store _ => ?_
    exact issues_ite (issues_ofExcept _) (issues_ofExcept (.ok _))
  · exact issues_ofExcept _

private theorem runSessionLoop_ended (host : Host) (chosen : ProtoVersion) (count count' : Nat)
    (store : PrimStore) {past past' : PrimPast} (same : acts past = acts past') :
    ∃ result left' right',
      (runSessionLoop host chosen (count + 1) store).drive world.respond ⟨past, []⟩ =
        some (result, left') ∧
      (runSessionLoop host chosen (count' + 1) store).drive world.respond ⟨past', []⟩ =
        some (result, right') ∧ Alike left' right' := by
  have alike : Alike
      ⟨past ++ [⟨⟨store, .pollRead false⟩, .failed (world.ending (acts past))⟩], []⟩
      ⟨past' ++ [⟨⟨store, .pollRead false⟩, .failed (world.ending (acts past))⟩], []⟩ := by
    refine ⟨?_, .nil⟩
    rw [acts_poll, acts_poll, same]
  have replied : world.reply ⟨past', []⟩ (.pollRead false) =
      some (.failed (world.ending (acts past)), []) := by
    rw [same]
    rfl
  rw [runSessionLoop, runSessionLoop, drive_sessionAsk rfl, drive_sessionAsk replied]
  exact locked_ends (plain_alike (disconnected_plain _)) store alike Nat.one_pos Nat.one_pos

private theorem runSessionLoop_alike (host : Host) (chosen : ProtoVersion) (count' : Nat) :
    ∀ count store left right, Alike left right → left.frames.length < count →
      right.frames.length < count' → ∃ result left' right',
        (runSessionLoop host chosen count store).drive world.respond left = some (result, left') ∧
        (runSessionLoop host chosen count' store).drive world.respond right =
          some (result, right') ∧ Alike left' right' := by
  induction count' with
  | zero =>
      intro count store left right _ _ fits
      exact absurd fits (Nat.not_lt_zero _)
  | succ count' ih =>
      intro count store left right alike fits fits'
      obtain ⟨past, frames⟩ := left
      obtain ⟨past', longer⟩ := right
      obtain ⟨same, woven⟩ := alike
      cases woven with
      | nil =>
          obtain ⟨count, rfl⟩ := Nat.exists_eq_succ_of_ne_zero (Nat.ne_zero_of_lt fits)
          exact runSessionLoop_ended host chosen count count' store same
      | @keep frame frames longer woven =>
          obtain ⟨count, rfl⟩ := Nat.exists_eq_succ_of_ne_zero (Nat.ne_zero_of_lt fits)
          obtain ⟨version, message⟩ := frame
          have alike : Alike (polled past version message frames store)
              (polled past' version message longer store) := by
            refine ⟨?_, woven⟩
            rw [polled, polled, acts_poll, acts_poll]
            exact same
          have locked (fuel : Nat) : SessionLocked world fuel Alike Alike
            (onMessage host chosen message) := onMessage_locked host chosen message
          obtain ⟨⟨outcome, now⟩, left, right, one, two, further⟩ :=
            locked_ends (locked (frames.length + longer.length + 1)) store alike
              (show frames.length < _ by omega) (show longer.length < _ by omega)
          have shrunk : left.frames.length ≤ frames.length := drive_frames_le one
          have shrunk' : right.frames.length ≤ longer.length := drive_frames_le two
          rw [runSessionLoop_frame, runSessionLoop_frame, one, two]
          cases outcome with
          | error cause => exact ⟨_, _, _, rfl, rfl, further⟩
          | ok value =>
              cases value with
              | some outcome => exact ⟨_, _, _, rfl, rfl, further⟩
              | none =>
                  refine ih count now left right further ?_ ?_
                  · exact Nat.lt_of_le_of_lt shrunk (Nat.lt_of_succ_lt_succ fits)
                  · exact Nat.lt_of_le_of_lt shrunk' (Nat.lt_of_succ_lt_succ fits')
      | insert version heartbeat woven =>
          obtain ⟨later, skipped, done, rest⟩ := runSessionLoop_heartbeat world host chosen past'
            version _ _ count' store heartbeat
          rw [skipped]
          refine ih count store _ later ⟨same.trans done.symm, ?_⟩ fits ?_
          · rw [rest]
            exact woven
          · rw [rest]
            exact Nat.lt_of_succ_lt_succ fits'

private theorem runSessionLoop_locked (host : Host) (chosen : ProtoVersion) :
    SessionLocked world fuel Alike Alike (runSessionLoop host chosen fuel) := by
  refine ⟨?_, ?_⟩
  · intro store setting fits
    obtain ⟨result, last, _, driven, _, _⟩ :=
      runSessionLoop_alike host chosen fuel fuel store setting setting (.refl setting) fits fits
    exact ⟨result, last, driven, trivial, Nat.lt_of_le_of_lt (drive_frames_le driven) fits⟩
  · intro store left right alike fits fits' first second left' right' one two
    obtain ⟨result, _, _, one', two', further⟩ :=
      runSessionLoop_alike host chosen fuel fuel store left right alike fits fits'
    cases one.symm.trans one'
    cases two.symm.trans two'
    exact Or.inr (Or.inr ⟨rfl, further, fun _ _ => further⟩)

/-! ### Whole sessions -/

/-- No heartbeat stands before the first frame. -/
abbrev AlikeLater : SessionSetting → SessionSetting → Prop := AlikeBy (WovenLater isHeartbeat)

private theorem plain_alikeLater (plain : Plain code) :
    SessionLocked world fuel AlikeLater AlikeLater code :=
  plain_locked plain fun _ _ later => later.woven

private theorem helloAckPoll_locked :
    SessionLocked world fuel AlikeLater Alike (PrimM.ask (.pollRead true)) := by
  refine locks_call ?_ ?_ (fun _ _ alike => alike)
  · intro store setting fits
    obtain ⟨past, frames⟩ := setting
    cases frames with
    | nil => exact ⟨_, _, rfl, trivial, fits⟩
    | cons frame rest => exact ⟨_, _, rfl, trivial, Nat.lt_of_succ_lt fits⟩
  · intro store left right alike
    obtain ⟨past, frames⟩ := left
    obtain ⟨past', longer⟩ := right
    obtain ⟨same, later⟩ := alike
    have still (answer : Polled) : acts (past ++ [⟨⟨store, .pollRead true⟩, answer⟩]) =
        acts (past' ++ [⟨⟨store, .pollRead true⟩, answer⟩]) := by
      rw [acts_poll, acts_poll]
      exact same
    cases later with
    | nil =>
        have replied : world.reply ⟨past', []⟩ (.pollRead true) =
            some (.failed (world.ending (acts past)), []) := by
          rw [show acts past = acts past' from same]
          rfl
        exact ⟨_, _, _, rfl, respond_of_sessionReply replied, still _, .nil⟩
    | first frame woven => exact ⟨_, _, _, rfl, rfl, still _, woven⟩

private theorem incumbentHandshake_locked (host : Host) :
    SessionLocked world fuel AlikeLater Alike (incumbentHandshake host) := by
  unfold incumbentHandshake incumbentHandshakeOf
  refine Locks.bind (plain_alikeLater (issues_call rfl)) fun _ => ?_
  refine Locks.bind (plain_alikeLater (issues_ofExcept _)) fun _ => ?_
  refine Locks.bind (plain_alikeLater (issues_call rfl)) fun armed => ?_
  refine Locks.bind (plain_alikeLater (issues_ofExcept _)) fun _ => ?_
  refine Locks.bind helloAckPoll_locked fun answer => plain_alike ?_
  cases answer with
  | waiting cause => exact issues_ofExcept _
  | failed cause => exact issues_ofExcept _
  | frame version message =>
      cases message with
      | helloAck chosen peerCaps => exact issues_ofExcept _
      | _ => exact issues_ofExcept _

private theorem handleSession_locked (host : Host) :
    SessionLocked world fuel AlikeLater Alike (handleSession host fuel) := by
  have closing : Plain (PrimM.ask (.close .session)) := issues_call rfl
  have loops (chosen : ProtoVersion) : SessionLocked world fuel Alike Alike (do
      update fun store => { store with state := {} }
      let outcome ← attempt (runSessionLoop host chosen fuel)
      resumeDrained outcome
      ofExcept outcome) := by
    refine Locks.bind (plain_alike (plain_update _)) fun _ => ?_
    refine Locks.bind ((runSessionLoop_locked host chosen).attempt fun _ fatal => fatal)
      fun outcome => ?_
    refine Locks.bind (plain_alike (Within.issues (resumeDrained_within outcome rfl))) fun _ => ?_
    exact plain_alike (issues_ofExcept outcome)
  unfold handleSession handleSessionOf
  refine Locks.ensuringWith (Locks.bind (incumbentHandshake_locked host) loops) ?_ ?_
  · intro _
    exact (plain_alike closing).ends
  · intro _ store left right alike
    refine closing.drive_same ?_ store alike
    intro left right call alike permitted
    exact respond_plain permitted alike

/-- Heartbeats that the incumbent receives change nothing but their echoes. -/
theorem handleSession_unchanged (world : SessionWorld) (host : Host) (store : PrimStore)
    {longer : List Frame} (woven : WovenLater isHeartbeat frames longer)
    (enough : frames.length < fuel) (enough' : longer.length < fuel) :
    ∃ result left right,
      (handleSession host fuel store).drive world.respond ⟨[], frames⟩ = some (result, left) ∧
      (handleSession host fuel store).drive world.respond ⟨[], longer⟩ = some (result, right) ∧
      acts left.past = acts right.past := by
  have alike : AlikeLater ⟨[], frames⟩ ⟨[], longer⟩ := ⟨rfl, woven⟩
  obtain ⟨result, left, right, one, two, alike⟩ :=
    locked_ends (handleSession_locked host) store alike enough enough'
  exact ⟨result, left, right, one, two, alike.acts⟩

end

end Handoff
