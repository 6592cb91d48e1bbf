/-
The primitives follow the plan.

The incumbent serves one connection, gives its lock up on the way and returns;
the successor takes the lock, binds the control socket and waits for its own
first connection.  As for the supervisor, nothing fails and the frames that
arrive are those of the script.
-/

import Handoff.Effects.Assumption
import Handoff.Plan.Script
import Handoff.Primitive.ServeRuns

namespace Handoff.Plan

open Effects PrimM
open Effects.Code hiding pure bind

variable {version : ProtoVersion} {op : PrimOp} {message : Message} {topic : Topic}

/-! ### Acts of a primitive -/

def channelLane : Channel → Side
  | .session => .incumbent
  | .control => .successor

def primAct? : PrimEvent → Option Act
  | ⟨⟨_, .accept⟩, .ok _⟩ => some .accept
  | ⟨⟨_, .writeFrame channel _ message⟩, .ok _⟩ => (topic? message).map (.say (channelLane channel))
  | ⟨⟨_, .pollRead _⟩, .frame _ message⟩ => (topic? message).map (.hear .incumbent)
  | ⟨⟨_, .readMessage⟩, .ok (_, message)⟩ => (topic? message).map (.hear .successor)
  | ⟨⟨_, .releaseFlock⟩, _⟩ => some .release
  | ⟨⟨_, .flock⟩, .locked⟩ => some .lock
  | ⟨⟨_, .renameStaging⟩, .ok _⟩ => some .publish
  | _ => none

def primActs (past : PrimPast) : List Act := past.filterMap primAct?

def failsPrim : PrimEvent → Bool
  | ⟨⟨_, .accept⟩, .error _⟩ | ⟨⟨_, .peerUid⟩, .error _⟩
  | ⟨⟨_, .configureControlStream⟩, .error _⟩ | ⟨⟨_, .setReadTimeout _⟩, .error _⟩
  | ⟨⟨_, .readMessage⟩, .error _⟩ | ⟨⟨_, .writeFrame ..⟩, .error _⟩
  | ⟨⟨_, .drain _⟩, .error _⟩ | ⟨⟨_, .seal⟩, .error _⟩
  | ⟨⟨_, .createDataDir⟩, .error _⟩ | ⟨⟨_, .openLockFile⟩, .error _⟩
  | ⟨⟨_, .openPidTemp⟩, .error _⟩ | ⟨⟨_, .writePidTemp _⟩, .error _⟩
  | ⟨⟨_, .syncPidTemp⟩, .error _⟩ | ⟨⟨_, .renamePidTemp⟩, .error _⟩
  | ⟨⟨_, .syncDataDir⟩, .error _⟩ | ⟨⟨_, .createSocketDir⟩, .error _⟩
  | ⟨⟨_, .bindStaging⟩, .error _⟩ | ⟨⟨_, .chmodStaging⟩, .error _⟩
  | ⟨⟨_, .renameStaging⟩, .error _⟩ | ⟨⟨_, .setCloexec⟩, .error _⟩ => true
  | ⟨⟨_, .pollRead _⟩, .waiting _⟩ | ⟨⟨_, .pollRead _⟩, .failed _⟩
  | ⟨⟨_, .flock⟩, .failed _ _⟩ => true
  | _ => false

def peer? : PrimEvent → Option UInt32
  | ⟨⟨_, .peerUid⟩, .ok uid⟩ => some uid
  | _ => none

def smoothPrim (euid : UInt32) (event : PrimEvent) : Bool :=
  !failsPrim event && (peer? event).all fun uid => peerUidIsAllowed euid uid []

/-- The frames that arrive are meant for this handoff, and the flock is free. -/
def Course.timely (course : Course) : PrimEvent → Bool
  | ⟨⟨_, .pollRead _⟩, .frame _ message⟩ => course.told message
  | ⟨⟨_, .readMessage⟩, .ok (_, message)⟩ => course.told message
  | ⟨⟨_, .flock⟩, .wouldBlock⟩ => false
  | _ => true

section Events

variable {store : PrimStore} {message : Message} {topic : Topic} (about : topic? message = some topic)

include about

theorem primAct_writes {channel : Channel} :
    primAct? ⟨⟨store, .writeFrame channel version message⟩, .ok ()⟩ =
      some (.say (channelLane channel) topic) := by
  change (topic? message).map (Act.say (channelLane channel)) = _
  rw [about, Option.map_some]

private theorem primAct_polls {armed : Bool} :
    primAct? ⟨⟨store, .pollRead armed⟩, .frame version message⟩ = some (.hear .incumbent topic) := by
  change (topic? message).map (Act.hear .incumbent) = _
  rw [about, Option.map_some]

private theorem primAct_reads :
    primAct? ⟨⟨store, .readMessage⟩, .ok (version, message)⟩ = some (.hear .successor topic) := by
  change (topic? message).map (Act.hear .successor) = _
  rw [about, Option.map_some]

end Events

structure PrimGood (course : Course) (euid : UInt32) (script : List Act) (past : PrimPast) : Prop where
  smooth : ∀ event ∈ past, smoothPrim euid event = true
  timely : ∀ event ∈ past, course.timely event = true
  scripted : primActs past <+: script

theorem primActs_append (past : PrimPast) (event : PrimEvent) :
    primActs (past ++ [event]) = primActs past ++ (primAct? event).toList := by
  unfold primActs
  rw [List.filterMap_append]
  cases found : primAct? event with
  | none => simp [found]
  | some act => simp [found]

namespace PrimGood

variable {course : Course} {euid : UInt32} {script : List Act} {past : PrimPast} {event : PrimEvent}

theorem earlier (good : PrimGood course euid script (past ++ [event])) :
    PrimGood course euid script past where
  smooth other member := good.smooth other (List.mem_append_left _ member)
  timely other member := good.timely other (List.mem_append_left _ member)
  scripted := by
    have scripted := good.scripted
    rw [primActs_append] at scripted
    exact (List.prefix_append _ _).trans scripted

theorem last (good : PrimGood course euid script (past ++ [event])) :
    smoothPrim euid event = true :=
  good.smooth event (by simp)

theorem latest (good : PrimGood course euid script (past ++ [event])) :
    course.timely event = true :=
  good.timely event (by simp)

end PrimGood

def primAssumption (course : Course) (euid : UInt32) (script : List Act) :
    Assumption PrimStore PrimAns where
  holds := PrimGood course euid script
  earlier _ _ good := good.earlier

/-! ### Places in a script -/

def Reached (script : List Act) (count : Nat) (past : PrimPast) : Prop :=
  primActs past = script.take count

namespace Reached

variable {script : List Act} {count : Nat} {past : PrimPast} {event : PrimEvent} {act : Act}

theorem quiet (reached : Reached script count past) (unseen : primAct? event = none) :
    Reached script count (past ++ [event]) := by
  unfold Reached
  rw [primActs_append, unseen, Option.toList_none, List.append_nil]
  exact reached

theorem step (reached : Reached script count past) (planned : script[count]? = some act)
    (performed : primAct? event = some act) : Reached script (count + 1) (past ++ [event]) := by
  unfold Reached at reached ⊢
  rw [primActs_append, performed, reached, List.take_add_one, planned]

theorem next (reached : Reached script count past) (planned : script[count]? = some act) :
    primActs past ++ [act] <+: script := by
  have longer := List.take_prefix (count + 1) script
  rw [List.take_add_one, planned, ← reached] at longer
  exact longer

theorem performed (reached : Reached script count past) {index : Nat} (early : index < count)
    (planned : script[index]? = some act) : act ∈ primActs past := by
  rw [reached]
  apply List.mem_of_getElem? (i := index)
  rw [List.getElem?_take_of_lt early]
  exact planned

end Reached

/-! ### The incumbent -/

def IncumbentNext (course : Course) (past : PrimPast) : PrimOp → Prop
  | .accept => primActs past ++ [.accept] <+: incumbentScript
  | .pollRead _ => ∃ topic, primActs past ++ [.hear .incumbent topic] <+: incumbentScript
  | .writeFrame .session _ message => course.replied .incumbent message = true ∧
      ∃ topic, topic? message = some topic ∧
        primActs past ++ [.say .incumbent topic] <+: incumbentScript
  | .releaseFlock => primActs past ++ [.release] <+: incumbentScript
  | .close .session | .closeListener => .hear .incumbent .commit ∈ primActs past
  | .writeFrame .control _ _ | .close .control | .readMessage | .flock | .closeLockFile
  | .renameStaging | .resumeAfterAbort | .outOfFuel => False
  | _ => True

def IncumbentDuty (course : Course) (past : PrimPast) (call : Call PrimStore PrimOp) : Prop :=
  IncumbentNext course past call.op ∧
    (call.store.heartbeats = true → .hear .incumbent .prepare ∈ primActs past)

section Incumbent

/-- `code` does what the script of the incumbent has next. -/
abbrev Serves {Value : Type} (course : Course) (host : Host)
    (post : Value → PrimStore → PrimPast → Prop) (code : PrimM Value) (store : PrimStore)
    (past : PrimPast) : Prop :=
  Fulfils (primAssumption course host.euid incumbentScript) (IncumbentDuty course) post code store past

variable {Value : Type} {course : Course} {host : Host} {store : PrimStore} {past : PrimPast}
  {count fuel : Nat} {lock : DataDirLock} {post : Value → PrimStore → PrimPast → Prop}
  {next : PrimAns op → PrimM Value}

def Arrives (count : Nat) (store : PrimStore) (_ : Value) (now : PrimStore) (later : PrimPast) :
    Prop :=
  store = now ∧ Reached incumbentScript count later

private theorem serves_callBind (calm : store.heartbeats = false)
    (allowed : IncumbentNext course past op)
    (rest : ∀ answer, PrimGood course host.euid incumbentScript (past ++ [⟨⟨store, op⟩, answer⟩]) →
      Serves course host post (next answer) store (past ++ [⟨⟨store, op⟩, answer⟩])) :
    Serves course host post (ask op >>= next) store past := by
  refine Fulfils.callBind (fun _ => ⟨allowed, fun beating => ?_⟩) rest
  rw [calm] at beating
  cases beating

theorem told_topic (told : course.told message = true) :
    ∃ topic, topic? message = some topic := by
  cases message <;> first | exact ⟨_, rfl⟩ | contradiction

theorem PrimGood.planned {script : List Act} {act expected : Act} {event : PrimEvent}
    {euid : UInt32} (good : PrimGood course euid script (past ++ [event]))
    (reached : Reached script count past) (next : script[count]? = some expected)
    (performed : primAct? event = some act) : act = expected := by
  have scripted := good.scripted
  rw [primActs_append, performed] at scripted
  exact next_unique scripted (reached.next next)

theorem PrimGood.polled {armed : Bool} (good : PrimGood course host.euid incumbentScript
      (past ++ [⟨⟨store, .pollRead armed⟩, .frame version message⟩]))
    (reached : Reached incumbentScript count past)
    (next : incumbentScript[count]? = some (.hear .incumbent topic)) :
    course.told message = true ∧ topic? message = some topic := by
  have told : course.told message = true := good.latest
  obtain ⟨other, about⟩ := told_topic told
  have performed : primAct? ⟨⟨store, .pollRead armed⟩, .frame version message⟩ =
      some (.hear .incumbent other) := primAct_polls about
  cases good.planned reached next performed
  exact ⟨told, about⟩

private theorem serves_quietly (reached : Reached incumbentScript count past)
    (calm : store.heartbeats = false) (allowed : IncumbentNext course past op)
    (unseen : ∀ answer, primAct? ⟨⟨store, op⟩, answer⟩ = none)
    (rest : ∀ answer later, smoothPrim host.euid ⟨⟨store, op⟩, answer⟩ = true →
      Reached incumbentScript count later → Serves course host post (next answer) store later) :
    Serves course host post (ask op >>= next) store past :=
  serves_callBind calm allowed fun answer good =>
    rest answer _ good.last (reached.quiet (unseen answer))

private theorem writeFrame_serves {next : PrimM Value}
    (reached : Reached incumbentScript count past) (calm : store.heartbeats = false)
    (planned : incumbentScript[count]? = some (.say .incumbent topic))
    (about : topic? message = some topic) (meant : course.replied .incumbent message = true)
    (rest : ∀ later, Reached incumbentScript (count + 1) later →
      Serves course host post next store later) :
    Serves course host post (do
      ofExcept (← ask (.writeFrame .session version message))
      next) store past := by
  refine serves_callBind calm ⟨meant, topic, about, reached.next planned⟩ fun answer good => ?_
  cases answer with
  | error cause => exact absurd good.last Bool.false_ne_true
  | ok _ => exact rest _ (reached.step planned (primAct_writes about))

private theorem prepareSessionStream_serves (reached : Reached incumbentScript count past)
    (calm : store.heartbeats = false) :
    Serves course host (Arrives count store) (prepareSessionStream host) store past := by
  refine serves_quietly reached calm trivial (fun _ => rfl) fun answer later smooth seen => ?_
  cases answer with
  | error cause => exact absurd smooth Bool.false_ne_true
  | ok uid =>
      have allowed : peerUidIsAllowed host.euid uid [] = true := smooth
      refine Fulfils.okBind ?_
      rw [if_pos allowed]
      refine serves_quietly seen calm trivial (fun _ => rfl) fun answer later smooth ready => ?_
      cases answer with
      | error cause => exact absurd smooth Bool.false_ne_true
      | ok _ => exact fulfils_ok ⟨rfl, ready⟩

private theorem incumbentHandshake_serves (reached : Reached incumbentScript 1 past)
    (calm : store.heartbeats = false) :
    Serves course host (Arrives 3 store) (incumbentHandshake host) store past := by
  have greets : course.replied .incumbent
      (.hello .incumbent host.pid host.buildId protoMin protoMax {}) = true := by
    simp only [Course.replied, beq_self_eq_true, Bool.true_and]
    decide
  refine writeFrame_serves reached calm rfl rfl greets fun greeted greeting => ?_
  refine serves_quietly greeting calm trivial (fun _ => rfl) fun answer later smooth waiting => ?_
  cases answer with
  | error cause => exact absurd smooth Bool.false_ne_true
  | ok _ =>
      refine Fulfils.okBind ?_
      refine serves_callBind calm ⟨.ack, waiting.next rfl⟩ fun polled good => ?_
      cases polled with
      | waiting midFrame => exact absurd good.last Bool.false_ne_true
      | failed cause => exact absurd good.last Bool.false_ne_true
      | frame version message =>
          obtain ⟨told, about⟩ := good.polled waiting rfl
          cases message with
          | helloAck chosen handoffId =>
              simp only [Course.told, Bool.and_eq_true] at told
              obtain ⟨agreed, same⟩ := negotiable_iff.mp told.1
              simp only [Build.current, same]
              exact fulfils_ok ⟨rfl, waiting.step rfl rfl⟩
          | _ => cases about

private theorem runWithHeartbeats_serves {work : PrimM Value}
    (reached : Reached incumbentScript count past) (calm : store.heartbeats = false)
    (works : ∀ beating later, Reached incumbentScript count later →
      Serves course host (Arrives count { store with heartbeats := beating }) work
        { store with heartbeats := beating } later) :
    Serves course host (Arrives count store) (runWithHeartbeats work) store past := by
  have still : { store with heartbeats := false } = store := by rw [← calm]
  refine serves_quietly reached calm trivial (fun _ => rfl) fun answer later _ cloned => ?_
  cases answer with
  | error cause =>
      have silent := works false later cloned
      rw [still] at silent
      exact silent
  | ok _ =>
      refine Fulfils.updateBind ?_
      refine Fulfils.ensuring (works true later cloned) ?_
      rintro value now final _ ⟨rfl, worked⟩
      exact fun _ => ⟨(), rfl, still.symm, worked⟩

private theorem hook_serves (reached : Reached incumbentScript count past) (prepared : 3 < count)
    (allowed : IncumbentNext course past op)
    (unseen : ∀ answer, primAct? ⟨⟨store, op⟩, answer⟩ = none)
    (returns : ∀ answer, smoothPrim host.euid ⟨⟨store, op⟩, answer⟩ = true →
      ∃ value, next answer = ofExcept (.ok value)) :
    Serves course host (Arrives count store) (ask op >>= next) store past := by
  refine Fulfils.callBind (fun _ => ⟨allowed, fun _ => reached.performed prepared rfl⟩)
    fun answer good => ?_
  obtain ⟨value, same⟩ := returns answer good.last
  rw [same]
  exact fulfils_ok ⟨rfl, reached.quiet (unseen answer)⟩

def activeStore (course : Course) (lock : DataDirLock) : PrimStore :=
  { lock := some lock, state := { active := some course.handoffId } }

def drainedStore (course : Course) (lock : DataDirLock) : PrimStore :=
  { lock := some lock, state := { active := some course.handoffId, drained := true } }

def sealedStore (course : Course) : PrimStore :=
  { lock := none, state := { active := some course.handoffId, sealed := true, drained := true } }

private theorem drain_serves {deadline : Instant} (reached : Reached incumbentScript 4 past) :
    Serves course host (Arrives 4 (activeStore course lock))
      (runWithHeartbeats do ofExcept (← ask (.drain deadline))) (activeStore course lock) past := by
  refine runWithHeartbeats_serves reached rfl fun beating later asked => ?_
  refine hook_serves asked (by decide) trivial (fun _ => rfl) fun answer smooth => ?_
  cases answer with
  | error cause => exact absurd smooth Bool.false_ne_true
  | ok report => exact ⟨report, rfl⟩

private theorem seal_serves (reached : Reached incumbentScript 6 past) :
    Serves course host (Arrives 6 (drainedStore course lock))
      (runWithHeartbeats do ofExcept (← ask .seal)) (drainedStore course lock) past := by
  refine runWithHeartbeats_serves reached rfl fun beating later asked => ?_
  refine hook_serves asked (by decide) trivial (fun _ => rfl) fun answer smooth => ?_
  cases answer with
  | error cause => exact absurd smooth Bool.false_ne_true
  | ok report => exact ⟨report, rfl⟩

variable {chosen : ProtoVersion}

private theorem onPrepareHandoff_serves {deadlineMs drainGraceMs : UInt64}
    (reached : Reached incumbentScript 4 past) :
    Serves course host (Arrives 5 (drainedStore course lock))
      (onPrepareHandoff chosen course.handoffId deadlineMs drainGraceMs)
        { lock := some lock } past := by
  refine Fulfils.loadBind ?_
  rw [if_neg (by simp)]
  refine Fulfils.updateBind ?_
  change Serves course host _ _ (activeStore course lock) past
  refine serves_quietly reached rfl trivial (fun _ => rfl) fun now later _ reading => ?_
  refine Fulfils.bind (drain_serves reading) ?_
  rintro report _ drained _ ⟨rfl, draining⟩
  refine Fulfils.updateBind ?_
  change Serves course host _ _ (drainedStore course lock) drained
  refine serves_callBind rfl ⟨rfl, .drained, rfl, draining.next rfl⟩ fun answer good => ?_
  cases answer with
  | error cause => exact absurd good.last Bool.false_ne_true
  | ok _ => exact fulfils_ok ⟨rfl, draining.step rfl rfl⟩

private theorem takeLock_serves (reached : Reached incumbentScript 6 past) :
    Serves course host (Arrives 7 { drainedStore course lock with lock := none })
      takeLock (drainedStore course lock) past := by
  refine Fulfils.loadBind ?_
  refine Fulfils.updateBind ?_
  change Serves course host _ (DataDirLock.drop lock)
    { drainedStore course lock with lock := none } past
  refine serves_quietly reached rfl trivial (fun _ => rfl) fun _ later _ removed => ?_
  refine ⟨fun _ => ⟨removed.next rfl, ?_⟩, fun answer good => ⟨answer, rfl, rfl, removed.step rfl rfl⟩⟩
  intro beating
  cases beating

private theorem onSealRequest_serves (reached : Reached incumbentScript 6 past) :
    Serves course host (Arrives 8 (sealedStore course))
      (onSealRequest chosen course.handoffId) (drainedStore course lock) past := by
  refine Fulfils.loadBind ?_
  rw [if_neg (by simp [drainedStore])]
  refine Fulfils.bind (Fulfils.attempt (seal_serves reached)) ?_
  rintro _ _ sealed _ ⟨report, rfl, rfl, sealing⟩
  refine Fulfils.bind (takeLock_serves sealing) ?_
  rintro _ _ released _ ⟨rfl, releasing⟩
  refine Fulfils.updateBind ?_
  change Serves course host _ _ (sealedStore course) released
  have meant : course.replied .incumbent (.sealComplete course.handoffId
      report.lastRevisionPerShard report.dataDirFingerprint) = true := by
    simp [Course.replied]
  refine serves_callBind rfl ⟨meant, .sealed, rfl, releasing.next rfl⟩ fun answer good => ?_
  cases answer with
  | error cause => exact absurd good.last Bool.false_ne_true
  | ok _ => exact fulfils_ok ⟨rfl, releasing.step rfl rfl⟩

private theorem onCommit_serves (reached : Reached incumbentScript 9 past) :
    Serves course host (fun outcome now later => outcome = .committed ∧
        Arrives 9 (sealedStore course) outcome now later)
      (onCommit course.handoffId) (sealedStore course) past := by
  refine Fulfils.loadBind ?_
  rw [if_neg (by simp [sealedStore]), if_neg (by simp [sealedStore])]
  exact fulfils_pure ⟨rfl, rfl, reached⟩

private theorem round_serves (reached : Reached incumbentScript count past)
    (calm : store.heartbeats = false)
    (planned : incumbentScript[count]? = some (.hear .incumbent topic))
    {post : SessionOutcome → PrimStore → PrimPast → Prop}
    (rest : ∀ message later, course.told message = true → topic? message = some topic →
      Reached incumbentScript (count + 1) later →
      Serves course host post (do
        match ← onMessage host chosen message with
        | some outcome => pure outcome
        | none => runSessionLoop host chosen fuel) store later) :
    Serves course host post (runSessionLoop host chosen (fuel + 1)) store past := by
  rw [runSessionLoop]
  refine serves_callBind calm ⟨topic, reached.next planned⟩ fun polled good => ?_
  cases polled with
  | waiting midFrame => exact absurd good.last Bool.false_ne_true
  | failed cause => exact absurd good.last Bool.false_ne_true
  | frame version message =>
      obtain ⟨told, about⟩ := good.polled reached planned
      exact rest message _ told about (reached.step planned (primAct_polls about))

private theorem answered_serves {next : PrimStore} {work : PrimM Unit}
    {post : SessionOutcome → PrimStore → PrimPast → Prop}
    (handled : onMessage host chosen message = do work; pure none)
    (works : Serves course host (Arrives count next) work store past)
    (rest : ∀ later, Reached incumbentScript count later →
      Serves course host post (runSessionLoop host chosen fuel) next later) :
    Serves course host post (do
      match ← onMessage host chosen message with
      | some outcome => pure outcome
      | none => runSessionLoop host chosen fuel) store past := by
  have goesOn : Serves course host (fun outcome now later => outcome = none ∧
      Arrives count next outcome now later) (onMessage host chosen message) store past := by
    rw [handled]
    refine Fulfils.bind works ?_
    rintro _ now later _ arrives
    exact fulfils_pure ⟨rfl, arrives⟩
  refine Fulfils.bind goesOn ?_
  rintro _ _ later _ ⟨rfl, rfl, reached⟩
  exact rest later reached

private theorem runSessionLoop_serves (reached : Reached incumbentScript 3 past) :
    Serves course host (fun outcome now later => outcome = .committed ∧
        Arrives 9 (sealedStore course) outcome now later)
      (runSessionLoop host chosen (fuel + 3)) { lock := some lock } past := by
  refine round_serves reached rfl rfl fun message asked told about asking => ?_
  cases message with
  | prepareHandoff handoffId successorPid deadlineMs drainGraceMs =>
      obtain rfl : handoffId = course.handoffId := by simpa [Course.told] using told
      refine answered_serves rfl (onPrepareHandoff_serves asking) fun drained draining => ?_
      refine round_serves draining rfl rfl fun message asked told about asking => ?_
      cases message with
      | sealRequest handoffId =>
          obtain rfl : handoffId = course.handoffId := by simpa [Course.told] using told
          refine answered_serves rfl (onSealRequest_serves asking) fun sealed sealing => ?_
          refine round_serves sealing rfl rfl fun message asked told about asking => ?_
          cases message with
          | commit handoffId =>
              obtain rfl : handoffId = course.handoffId := by simpa [Course.told] using told
              have commits : Serves course host (fun outcome now later =>
                  outcome = some .committed ∧ Arrives 9 (sealedStore course) outcome now later)
                  (onMessage host chosen (.commit course.handoffId)) (sealedStore course) asked := by
                refine Fulfils.bind (onCommit_serves asking) ?_
                rintro _ _ later _ ⟨rfl, rfl, committed⟩
                exact fulfils_pure ⟨rfl, rfl, committed⟩
              refine Fulfils.bind commits ?_
              rintro _ _ later _ ⟨rfl, rfl, committed⟩
              exact fulfils_pure ⟨rfl, rfl, committed⟩
          | _ => cases about
      | _ => cases about
  | _ => cases about

private theorem handleSession_serves (reached : Reached incumbentScript 1 past) :
    Serves course host (fun outcome now later => outcome = .committed ∧
        Arrives 9 (sealedStore course) outcome now later)
      (handleSession host (fuel + 3)) { lock := some lock } past := by
  have talks : Serves course host (fun outcome now later => outcome = .committed ∧
      Arrives 9 (sealedStore course) outcome now later) (do
        let chosen ← incumbentHandshake host
        update fun store => { store with state := {} }
        let outcome ← attempt (runSessionLoop host chosen (fuel + 3))
        resumeDrained outcome
        ofExcept outcome) { lock := some lock } past := by
    refine Fulfils.bind (incumbentHandshake_serves reached rfl) ?_
    rintro chosen _ greeted _ ⟨rfl, greeting⟩
    refine Fulfils.updateBind ?_
    refine Fulfils.bind (Fulfils.attempt (runSessionLoop_serves greeting)) ?_
    rintro _ _ committed _ ⟨_, rfl, rfl, rfl, committing⟩
    have resumes : Serves course host (Arrives 9 (sealedStore course))
        (resumeDrained (.ok .committed)) (sealedStore course) committed := by
      refine Fulfils.loadBind ?_
      exact fulfils_pure ⟨rfl, committing⟩
    refine Fulfils.bind resumes ?_
    rintro _ _ later _ ⟨rfl, finished⟩
    exact fulfils_ok ⟨rfl, rfl, finished⟩
  refine Fulfils.ensuring talks ?_
  rintro _ _ later _ ⟨rfl, rfl, finished⟩
  have last : 8 < 9 := by decide
  refine ⟨fun _ => ⟨finished.performed last rfl, ?_⟩, fun answer good => ?_⟩
  · intro beating
    cases beating
  · exact ⟨answer, rfl, rfl, rfl, finished.quiet rfl⟩

theorem serve_serves (enough : 4 ≤ fuel) :
    Serves course host (fun _ _ later => primActs later = incumbentScript)
      (serve host fuel) (.incumbent lock) [] := by
  obtain ⟨more, rfl⟩ : ∃ more, fuel = more + 3 + 1 := ⟨fuel - 4, by omega⟩
  have start : Reached incumbentScript 0 [] := rfl
  have loops : Serves course host (Arrives 9 (sealedStore course))
      (serveLoop host (more + 3 + 1) acceptBackoffMin) (.incumbent lock) [] := by
    rw [serveLoop]
    refine serves_callBind rfl (start.next rfl) fun answer good => ?_
    cases answer with
    | error cause => exact absurd good.last Bool.false_ne_true
    | ok _ =>
        have connects : Serves course host (fun outcome now later => outcome = some () ∧
            Arrives 9 (sealedStore course) outcome now later)
            (serveConnection host (more + 3)) { lock := some lock }
            ([] ++ [⟨⟨{ lock := some lock }, .accept⟩, .ok ()⟩]) := by
          refine Fulfils.bind (Fulfils.attempt
            (prepareSessionStream_serves (start.step rfl rfl) rfl)) ?_
          rintro _ _ prepared _ ⟨_, rfl, rfl, preparing⟩
          refine Fulfils.bind (Fulfils.attempt (handleSession_serves preparing)) ?_
          rintro _ _ handled _ ⟨_, rfl, rfl, rfl, handling⟩
          exact fulfils_pure ⟨rfl, rfl, handling⟩
        refine Fulfils.bind connects ?_
        rintro _ _ served _ ⟨rfl, rfl, serving⟩
        exact fulfils_pure ⟨rfl, serving⟩
  refine Fulfils.ensuring loops ?_
  rintro _ _ later _ ⟨rfl, finished⟩
  have last : 8 < 9 := by decide
  refine serves_quietly finished rfl (finished.performed last rfl) (fun _ => rfl)
    fun _ later _ closed => ?_
  refine Fulfils.loadBind (Fulfils.updateBind ?_)
  exact fulfils_pure closed

end Incumbent

/-! ### The successor -/

def SuccessorNext (course : Course) (past : PrimPast) : PrimOp → Prop
  | .accept => primActs past = successorScript
  | .readMessage => ∃ topic, primActs past ++ [.hear .successor topic] <+: successorScript
  | .writeFrame .control _ message => course.replied .successor message = true ∧
      ∃ topic, topic? message = some topic ∧
        primActs past ++ [.say .successor topic] <+: successorScript
  | .flock => primActs past ++ [.lock] <+: successorScript
  | .renameStaging => primActs past ++ [.publish] <+: successorScript
  | .close .control => .say .successor .ready ∈ primActs past
  | .writeFrame .session _ _ | .close .session | .pollRead _ | .closeListener | .releaseFlock
  | .closeLockFile | .drain _ | .seal | .resumeAfterAbort | .outOfFuel => False
  | _ => True

def SuccessorDuty (course : Course) (past : PrimPast) (call : Call PrimStore PrimOp) : Prop :=
  SuccessorNext course past call.op ∧ call.store.heartbeats = false

section Successor

/-- `code` does what the script of the successor has next. -/
abbrev Takes {Value : Type} (course : Course) (host : Host)
    (post : Value → PrimStore → PrimPast → Prop) (code : PrimM Value) (store : PrimStore)
    (past : PrimPast) : Prop :=
  Fulfils (primAssumption course host.euid successorScript) (SuccessorDuty course) post code store past

variable {Value : Type} {course : Course} {host : Host} {past : PrimPast} {count fuel : Nat}
  {post : Value → PrimStore → PrimPast → Prop} {next : PrimAns op → PrimM Value}

def Finishes (count : Nat) (_ : Value) (now : PrimStore) (later : PrimPast) : Prop :=
  now = {} ∧ Reached successorScript count later

private theorem takes_callBind (allowed : SuccessorNext course past op)
    (rest : ∀ answer, PrimGood course host.euid successorScript (past ++ [⟨⟨{}, op⟩, answer⟩]) →
      Takes course host post (next answer) {} (past ++ [⟨⟨{}, op⟩, answer⟩])) :
    Takes course host post (ask op >>= next) {} past :=
  Fulfils.callBind (fun _ => ⟨allowed, rfl⟩) rest

private theorem takes_quietly (reached : Reached successorScript count past)
    (allowed : SuccessorNext course past op)
    (unseen : ∀ answer, primAct? ⟨⟨{}, op⟩, answer⟩ = none)
    (rest : ∀ answer later, smoothPrim host.euid ⟨⟨{}, op⟩, answer⟩ = true →
      Reached successorScript count later → Takes course host post (next answer) {} later) :
    Takes course host post (ask op >>= next) {} past :=
  takes_callBind allowed fun answer good => rest answer _ good.last (reached.quiet (unseen answer))

theorem PrimGood.read {store : PrimStore} (good : PrimGood course host.euid successorScript
      (past ++ [⟨⟨store, .readMessage⟩, .ok (version, message)⟩]))
    (reached : Reached successorScript count past)
    (next : successorScript[count]? = some (.hear .successor topic)) :
    course.told message = true ∧ topic? message = some topic := by
  have told : course.told message = true := good.latest
  obtain ⟨other, about⟩ := told_topic told
  have performed : primAct? ⟨⟨store, .readMessage⟩, .ok (version, message)⟩ =
      some (.hear .successor other) := primAct_reads about
  cases good.planned reached next performed
  exact ⟨told, about⟩

private theorem successorHandshake_takes (own : host.pid = course.successor)
    (reached : Reached successorScript 0 past) :
    Takes course host (fun negotiated now later => negotiated.handoffId = course.handoffId ∧
      Finishes 2 negotiated now later) (successorHandshake host) {} past := by
  have greets : course.replied .successor
      (.hello .successor host.pid host.buildId protoMin protoMax {}) = true := by
    simp only [Course.replied, own, beq_self_eq_true, Bool.true_and]
    decide
  rw [successorHandshake, successorHandshakeOf]
  refine takes_callBind ⟨greets, .hello, rfl, reached.next rfl⟩ fun answer good => ?_
  cases answer with
  | error cause => exact absurd good.last Bool.false_ne_true
  | ok _ =>
      refine Fulfils.okBind ?_
      refine takes_callBind ⟨.ack, (reached.step rfl rfl).next rfl⟩ fun answer good => ?_
      cases answer with
      | error cause => exact absurd good.last Bool.false_ne_true
      | ok frame =>
          obtain ⟨version, message⟩ := frame
          obtain ⟨told, about⟩ := good.read (reached.step rfl rfl) rfl
          refine Fulfils.okBind ?_
          cases message with
          | helloAck chosen handoffId =>
              simp only [Course.told, Bool.and_eq_true, beq_iff_eq] at told
              exact fulfils_pure ⟨told.2, rfl, (reached.step rfl rfl).step rfl rfl⟩
          | _ => cases about

private theorem waitForBegin_takes (reached : Reached successorScript 2 past) :
    Takes course host (Finishes 3) (waitForBegin course.handoffId (fuel + 1)) {} past := by
  rw [waitForBegin]
  refine takes_callBind ⟨.begin, reached.next rfl⟩ fun answer good => ?_
  cases answer with
  | error cause => exact absurd good.last Bool.false_ne_true
  | ok frame =>
      obtain ⟨version, message⟩ := frame
      obtain ⟨told, about⟩ := good.read reached rfl
      refine Fulfils.okBind ?_
      cases message with
      | begin handoffId =>
          obtain rfl : handoffId = course.handoffId := by simpa [Course.told] using told
          simp only [if_true]
          exact fulfils_pure ⟨rfl, reached.step rfl rfl⟩
      | _ => cases about

private theorem io_takes {outcome : PrimAns op → Except IoError Unit} {next : PrimM Value}
    (reached : Reached successorScript count past) (allowed : SuccessorNext course past op)
    (unseen : ∀ answer, primAct? ⟨⟨{}, op⟩, answer⟩ = none)
    (fails : ∀ answer cause, outcome answer = .error cause → failsPrim ⟨⟨{}, op⟩, answer⟩ = true)
    (rest : ∀ later, Reached successorScript count later → Takes course host post next {} later) :
    Takes course host post (ask op >>= fun answer => orIo (outcome answer) >>= fun _ => next) {}
      past := by
  refine takes_quietly reached allowed unseen fun answer later smooth seen => ?_
  cases got : outcome answer with
  | error cause => exact absurd smooth (by simp [smoothPrim, fails answer cause got])
  | ok _ => exact Fulfils.okBind (rest later seen)

private theorem writePidAtomic_takes {pid : UInt32} (reached : Reached successorScript count past) :
    Takes course host (Finishes count) (writePidAtomic pid) {} past := by
  refine io_takes reached trivial (fun _ => rfl) (fun _ _ same => same ▸ rfl) fun _ opened => ?_
  refine io_takes opened trivial (fun _ => rfl) (fun _ _ same => same ▸ rfl) fun _ written => ?_
  refine io_takes written trivial (fun _ => rfl) (fun _ _ same => same ▸ rfl) fun _ synced => ?_
  refine takes_quietly synced trivial (fun _ => rfl) fun answer later smooth renamed => ?_
  cases answer with
  | error cause => exact absurd smooth Bool.false_ne_true
  | ok _ =>
      refine takes_quietly renamed trivial (fun _ => rfl) fun answer later smooth anchored => ?_
      cases answer with
      | error cause => exact absurd smooth Bool.false_ne_true
      | ok _ => exact fulfils_ok ⟨rfl, anchored⟩

theorem acquire_takes (reached : Reached successorScript 3 past) :
    Takes course host (Finishes 4) (DataDirLock.acquire host) {} past := by
  refine io_takes reached trivial (fun _ => rfl) (fun _ _ same => same ▸ rfl) fun _ created => ?_
  refine io_takes created trivial (fun _ => rfl) (fun _ _ same => same ▸ rfl) fun _ opened => ?_
  refine takes_callBind (opened.next rfl) fun answer good => ?_
  cases answer with
  | wouldBlock => exact absurd good.latest (by simp [Course.timely])
  | failed errno text => exact absurd good.last Bool.false_ne_true
  | locked =>
      refine Fulfils.bind (Fulfils.attempt (writePidAtomic_takes (opened.step rfl rfl))) ?_
      rintro _ _ recorded _ ⟨_, rfl, rfl, recording⟩
      exact fulfils_pure ⟨rfl, recording⟩

private theorem begunWithLock_takes (own : host.pid = course.successor)
    (reached : Reached successorScript 0 past) :
    Takes course host (fun begun now later => begun.1.handoffId = course.handoffId ∧
      Finishes 4 begun now later) (begunWithLock host (fuel + 1)) {} past := by
  have begins : Takes course host (fun begun now later => begun.1.handoffId = course.handoffId ∧
      Finishes 4 begun now later) (do
        let negotiated ← successorHandshake host
        waitForBegin negotiated.handoffId (fuel + 1)
        let lock ← DataDirLock.acquire host
        pure (negotiated, lock)) {} past := by
    refine Fulfils.bind (successorHandshake_takes own reached) ?_
    rintro negotiated _ greeted _ ⟨same, rfl, greeting⟩
    rw [same]
    refine Fulfils.bind (waitForBegin_takes greeting) ?_
    rintro _ _ begun _ ⟨rfl, beginning⟩
    refine Fulfils.bind (acquire_takes beginning) ?_
    rintro lock _ locked _ ⟨rfl, locking⟩
    exact fulfils_pure ⟨same, rfl, locking⟩
  refine Fulfils.bind (Fulfils.attempt begins) ?_
  rintro _ _ later _ ⟨begun, rfl, ends⟩
  exact fulfils_pure ends

private theorem announceReady_takes {negotiated : Negotiated} {snapshot : ReadinessSnapshot}
    (same : negotiated.handoffId = course.handoffId) (reached : Reached successorScript 4 past) :
    Takes course host (Finishes 5) (announceReady negotiated snapshot) {} past := by
  have meant : course.replied .successor (.ready negotiated.handoffId snapshot.listeningOn
      snapshot.healthzOk snapshot.advertisedRevisionPerShard) = true := by
    simp [Course.replied, same]
  have sends : Takes course host (Finishes 5) (do
      ofExcept (← ask (.writeFrame .control negotiated.protoVersion
        (.ready negotiated.handoffId snapshot.listeningOn snapshot.healthzOk
          snapshot.advertisedRevisionPerShard))) : PrimM Unit) {} past := by
    refine takes_callBind ⟨meant, .ready, rfl, reached.next rfl⟩ fun answer good => ?_
    cases answer with
    | error cause => exact absurd good.last Bool.false_ne_true
    | ok _ => exact fulfils_ok ⟨rfl, reached.step rfl rfl⟩
  refine Fulfils.ensuring sends ?_
  rintro _ _ announced _ ⟨rfl, announcing⟩
  have last : 4 < 5 := by decide
  refine ⟨fun _ => ⟨announcing.performed last rfl, rfl⟩, fun answer good => ?_⟩
  exact ⟨answer, rfl, rfl, announcing.quiet rfl⟩

structure Addressable (host : Host) : Prop where
  socket : host.socketPath.utf8ByteSize ≤ host.maxSocketPathLen
  staging : host.stagingPath.utf8ByteSize ≤ host.maxSocketPathLen

private theorem validateSocketPath_takes {path : String} {next : PrimM Value}
    (short : path.utf8ByteSize ≤ host.maxSocketPathLen)
    (rest : Takes course host post next {} past) :
    Takes course host post (do validateSocketPath host path; next) {} past := by
  rw [validateSocketPath, if_neg (Nat.not_lt.mpr short)]
  exact rest

private theorem bindSocket_takes (addressable : Addressable host)
    (reached : Reached successorScript 5 past) :
    Takes course host (Finishes 6) (bindSocket host) {} past := by
  refine validateSocketPath_takes addressable.socket ?_
  have creates : Takes course host (Finishes 5) (createSocketDir host) {} past := by
    unfold createSocketDir
    split
    · exact fulfils_pure ⟨rfl, reached⟩
    · refine takes_quietly reached trivial (fun _ => rfl) fun answer later smooth created => ?_
      cases answer with
      | error cause => exact absurd smooth Bool.false_ne_true
      | ok _ => exact fulfils_ok ⟨rfl, created⟩
  refine Fulfils.bind creates ?_
  rintro _ _ created _ ⟨rfl, creating⟩
  refine validateSocketPath_takes addressable.staging ?_
  refine takes_quietly creating trivial (fun _ => rfl) fun _ later _ removed => ?_
  refine io_takes removed trivial (fun _ => rfl) (fun _ _ same => same ▸ rfl) fun bound binding => ?_
  have publishes : Takes course host (Finishes 6) publishStaging {} bound := by
    refine io_takes binding trivial (fun _ => rfl) (fun _ _ same => same ▸ rfl) fun _ restricted => ?_
    refine takes_callBind (restricted.next rfl) fun answer good => ?_
    cases answer with
    | error cause => exact absurd good.last Bool.false_ne_true
    | ok _ => exact fulfils_ok ⟨rfl, restricted.step rfl rfl⟩
  refine Fulfils.bind (Fulfils.attempt publishes) ?_
  rintro _ _ published _ ⟨_, rfl, rfl, publishing⟩
  refine takes_quietly publishing trivial (fun _ => rfl) fun answer later smooth finished => ?_
  cases answer with
  | error cause => exact absurd smooth Bool.false_ne_true
  | ok _ => exact fulfils_pure ⟨rfl, finished⟩

private theorem serve_takes {store : PrimStore} (calm : store.heartbeats = false)
    (reached : Reached successorScript 6 past) :
    Takes course host (fun _ _ _ => False) (serve host (fuel + 1)) store past := by
  have waits : Takes course host (fun _ _ _ => False) (serveLoop host (fuel + 1) acceptBackoffMin)
      store past := by
    rw [serveLoop]
    refine Fulfils.callBind (fun _ => ⟨reached, calm⟩) fun answer good => ?_
    cases answer with
    | error cause => exact absurd good.last Bool.false_ne_true
    | ok _ =>
        have scripted := good.scripted
        rw [primActs_append, reached] at scripted
        change List.take 6 successorScript ++ [Act.accept] <+: successorScript at scripted
        exact absurd scripted (by decide)
  exact Fulfils.ensuring waits fun _ _ _ _ impossible => impossible.elim

theorem runSuccessor_takes {snapshot : ReadinessSnapshot} (addressable : Addressable host)
    (own : host.pid = course.successor) :
    Takes course host (fun _ _ _ => False) (runSuccessor host snapshot (fuel + 1)) {} [] := by
  refine Fulfils.bind (begunWithLock_takes own rfl) ?_
  rintro ⟨negotiated, lock⟩ _ begun _ ⟨same, rfl, beginning⟩
  have announces : Takes course host (fun _ now later => now.heartbeats = false ∧
      Reached successorScript 6 later) (announceAndBind host negotiated snapshot lock) {} begun := by
    refine Fulfils.bind (Fulfils.attempt (announceReady_takes same beginning)) ?_
    rintro _ _ announced _ ⟨_, rfl, rfl, announcing⟩
    refine Fulfils.bind (Fulfils.attempt (bindSocket_takes addressable announcing)) ?_
    rintro _ _ bound _ ⟨_, rfl, rfl, binding⟩
    exact fun _ => ⟨(), rfl, rfl, binding⟩
  refine Fulfils.bind announces ?_
  rintro _ store serving _ ⟨calm, reached⟩
  exact serve_takes calm reached

end Successor

end Handoff.Plan
