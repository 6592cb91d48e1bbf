/-
The decisions of a supervisor, as a contract on its operations.

`SupDuty` says what must have been read, written or reaped before each message
that moves a handoff forward or back.  Most of `perform_handoff` issues none of
those messages: such code is calm, and calm code only adds frames to what has
been read.
-/

import Handoff.Supervisor.Issued

namespace Handoff

open Effects SupM
open Effects.Code hiding pure bind

variable {Value : Type} {pred : Message → Bool}

/-! ### The contract -/

def SupOpDuty (past : SupPast) (store : SupStore) : SupOp → Prop
  | .newHandoffId => handoffIdOf past = none ∧ past.any writesBegin = false
  | .connect _ => spawned past = none
  | .spawn _ => spawned past = none ∧ past.any writesBegin = false
  | .writeFrame _ _ (.helloAck ..) => True
  | .writeFrame .successor _ (.abort ..) => True
  | .writeFrame .incumbent _ (.prepareHandoff ..) => past.any writesSealRequest = false
  | .writeFrame .incumbent _ (.sealRequest _) =>
      past.any readsDrained = true ∧ past.any writesSealRequest = false
  | .writeFrame .successor _ (.begin handoffId) =>
      handoffIdOf past = some handoffId ∧ past.any (readsSealComplete handoffId) = true
  | .writeFrame .incumbent _ (.commit handoffId) =>
      handoffIdOf past = some handoffId ∧ ReadyRead handoffId past ∧ store.guard = none ∧
        past.any kills = false ∧ past.any writesResume = false ∧ (spawned past).isSome = true
  | .writeFrame .incumbent _ (.resumeAfterAbort handoffId) =>
      handoffIdOf past = some handoffId ∧ Reaped past ∧ past.any writesCommit = false
  | .writeFrame .. => False
  | .kill pid =>
      spawned past = some pid ∧
        ∀ handoffId, handoffIdOf past = some handoffId → ¬ReadyRead handoffId past
  | .close .incumbent =>
      Reaped past ∨ ∃ handoffId, handoffIdOf past = some handoffId ∧ ReadyRead handoffId past
  | _ => True

def SupDuty (past : SupPast) (call : Call SupStore SupOp) : Prop :=
  SupOpDuty past call.store call.op

def calmOp : SupOp → Bool
  | .newHandoffId | .connect _ | .spawn _ | .kill _ | .close .incumbent => false
  | .writeFrame _ _ (.helloAck ..) | .writeFrame .successor _ (.abort ..) => true
  | .writeFrame .. => false
  | _ => true

private theorem calmOp_duty {past : SupPast} {store : SupStore} {op : SupOp}
    (calm : calmOp op = true) :
    SupOpDuty past store op := by
  cases op with
  | writeFrame peer version message =>
      cases peer <;> cases message <;> trivial
  | close peer =>
      cases peer
      · contradiction
      · trivial
  | _ => trivial

structure CalmEvent (event : SupEvent) : Prop where
  handoffId : handoffIdOf? event = none
  child : spawns? event = none
  kill : kills event = false
  sealRequest : writesSealRequest event = false
  begin : writesBegin event = false
  commit : writesCommit event = false
  resume : writesResume event = false

theorem calmOp_event {event : SupEvent} (calm : calmOp event.op.op = true) : CalmEvent event := by
  obtain ⟨⟨store, op⟩, answer⟩ := event
  cases op with
  | writeFrame peer version message =>
      cases peer <;> cases message <;>
        first | exact ⟨rfl, rfl, rfl, rfl, rfl, rfl, rfl⟩ | contradiction
  | close peer => exact ⟨rfl, rfl, rfl, rfl, rfl, rfl, rfl⟩
  | newHandoffId => contradiction
  | spawn command => contradiction
  | kill pid => contradiction
  | _ => exact ⟨rfl, rfl, rfl, rfl, rfl, rfl, rfl⟩

/-! ### Calm stretches -/

def Calmly (past later : SupPast) : Prop := Grows (fun event => calmOp event.op.op) past later

namespace Calmly

variable {past later : SupPast}

theorem refl (past : SupPast) : Calmly past past := Grows.refl past

theorem step (calmly : Calmly past later) (event : SupEvent) (calm : calmOp event.op.op = true) :
    Calmly past (later ++ [event]) :=
  Grows.step calmly event calm

theorem trans {last : SupPast} (first : Calmly past later) (second : Calmly later last) :
    Calmly past last :=
  Grows.trans first second

theorem handoffIdOf_eq (calmly : Calmly past later) : handoffIdOf later = handoffIdOf past := by
  refine Grows.induct calmly (fun now => handoffIdOf now = handoffIdOf past) rfl ?_
  intro now event calm same
  rw [handoffIdOf_append, (calmOp_event calm).handoffId, Option.none_or]
  exact same

theorem spawned_eq (calmly : Calmly past later) : spawned later = spawned past := by
  refine Grows.induct calmly (fun now => spawned now = spawned past) rfl ?_
  intro now event calm same
  rw [spawned_append, (calmOp_event calm).child, Option.none_or]
  exact same

theorem any_eq (calmly : Calmly past later) {kind : SupEvent → Bool}
    (never : ∀ event, calmOp event.op.op = true → kind event = false) :
    later.any kind = past.any kind := by
  refine Grows.induct calmly (fun now => now.any kind = past.any kind) rfl ?_
  intro now event calm same
  rw [List.any_append, same, List.any_cons, never event calm, List.any_nil, Bool.or_false,
    Bool.or_false]

theorem any (calmly : Calmly past later) {kind : SupEvent → Bool} (found : past.any kind = true) :
    later.any kind = true := by
  refine Grows.induct calmly (fun now => now.any kind = true) found ?_
  intro now event _ earlier
  rw [List.any_append, earlier, Bool.true_or]

theorem reaped (calmly : Calmly past later) (reaped : Reaped past) : Reaped later := by
  refine Grows.induct calmly Reaped reaped ?_
  intro now event calm earlier
  exact earlier.append event (calmOp_event calm).child

theorem unready {handoffId : HandoffId} (calmly : Calmly past later)
    (unbegun : past.any writesBegin = false) : ¬ReadyRead handoffId later :=
  not_readyRead ((calmly.any_eq fun _ calm => (calmOp_event calm).begin).trans unbegun)

end Calmly

variable {past later : SupPast} {store : SupStore}

theorem calm_meets {code : SupM Value} (calm : Within calmOp code) :
    Meets SupDuty (fun _ now later => now = store ∧ Calmly past later) code store past := by
  apply calm.meets (Calmly past) (Calmly.refl past)
  · intro now op _ permitted
    exact calmOp_duty permitted
  · intro now op answer calmly permitted
    exact calmly.step _ permitted

/-! ### Helpers that issue no decision -/

def idleOp : SupOp → Bool
  | .pollRead _ => false
  | op => calmOp op

private theorem idleOp_calm (op : SupOp) (idle : idleOp op = true) : calmOp op = true := by
  cases op with
  | pollRead peer => rfl
  | _ => exact idle

theorem idleOp_frame {event : SupEvent} (idle : idleOp event.op.op = true) (peer : Side) :
    frameFrom peer event = none := by
  obtain ⟨⟨store, op⟩, answer⟩ := event
  cases op with
  | pollRead other => contradiction
  | _ => rfl

def Idly (past later : SupPast) : Prop := Grows (fun event => idleOp event.op.op) past later

namespace Idly

variable {past later : SupPast}

theorem refl (past : SupPast) : Idly past past := Grows.refl past

theorem step (idly : Idly past later) (event : SupEvent) (idle : idleOp event.op.op = true) :
    Idly past (later ++ [event]) :=
  Grows.step idly event idle

theorem trans {last : SupPast} (first : Idly past later) (second : Idly later last) :
    Idly past last :=
  Grows.trans first second

theorem calmly (idly : Idly past later) : Calmly past later := by
  obtain ⟨extra, same, idle⟩ := idly
  exact ⟨extra, same, fun event member => idleOp_calm _ (idle event member)⟩

end Idly

theorem orErr_idle (outcome : Except Error Value) : Within idleOp (orErr outcome) :=
  within_ofExcept _

theorem exchangeHelloAsSupervisor_calm (peer : Side) (handoffId : HandoffId) (expectedRole : Side)
    (expectedPid : Option UInt32) :
    Tame calmOp (exchangeHelloAsSupervisor peer handoffId expectedRole expectedPid) := by
  refine exchangeHelloAsSupervisor_tame _ _ _ _ fun op greets => ?_
  cases op with
  | setReadTimeout | readWouldBlock | pollRead => rfl
  | writeFrame other version message => cases other <;> cases message <;> first | rfl | cases greets
  | _ => contradiction

/-! ### Waiting for a frame -/

/-- How a wait for a frame from `peer` ends: calmly, and with the first frame
that `pred` accepts or with none. -/
def ReadSince (peer : Side) (pred : Message → Bool) (past : SupPast)
    (outcome : Except Halt Message) (later : SupPast) : Prop :=
  ∃ extra, later = past ++ extra ∧ (∀ event ∈ extra, calmOp event.op.op = true) ∧
    match outcome with
    | .ok message => pred message = true ∧ ∃ skipped,
        extra.filterMap (frameFrom peer) = skipped ++ [message] ∧
          ∀ other ∈ skipped, pred other = false
    | .error _ => ∀ other ∈ extra.filterMap (frameFrom peer), pred other = false

namespace ReadSince

variable {peer : Side} {pred : Message → Bool} {outcome : Except Halt Message}

theorem calmly (read : ReadSince peer pred past outcome later) : Calmly past later := by
  obtain ⟨extra, same, calm, _⟩ := read
  exact ⟨extra, same, calm⟩

private theorem prepend (event : SupEvent) (calm : calmOp event.op.op = true)
    (skip : ∀ message, frameFrom peer event = some message → pred message = false)
    (read : ReadSince peer pred (past ++ [event]) outcome later) :
    ReadSince peer pred past outcome later := by
  obtain ⟨extra, rfl, each, ending⟩ := read
  refine ⟨event :: extra, by simp, ?_, ?_⟩
  · intro other member
    rcases List.mem_cons.mp member with same | rest
    · rw [same]
      exact calm
    · exact each other rest
  · cases found : frameFrom peer event with
    | none =>
        rw [List.filterMap_cons_none found]
        exact ending
    | some first =>
        rw [List.filterMap_cons_some found]
        have skipped := skip first found
        cases outcome with
        | ok message =>
            obtain ⟨accepted, earlier, frames, rejected⟩ := ending
            refine ⟨accepted, first :: earlier, by rw [frames, List.cons_append], ?_⟩
            intro other member
            rcases List.mem_cons.mp member with same | rest
            · rw [same]
              exact skipped
            · exact rejected other rest
        | error halt =>
            intro other member
            rcases List.mem_cons.mp member with same | rest
            · rw [same]
              exact skipped
            · exact ending other rest

private theorem prependIdle {middle : SupPast} (idle : Idly past middle)
    (read : ReadSince peer pred middle outcome later) : ReadSince peer pred past outcome later := by
  revert read
  refine Grows.induct idle (fun now => ReadSince peer pred now outcome later →
    ReadSince peer pred past outcome later) id ?_
  intro now event quiet earlier read
  apply earlier
  apply read.prepend event (idleOp_calm _ quiet)
  intro message found
  rw [idleOp_frame quiet] at found
  contradiction

end ReadSince

theorem idle_meets {code : SupM Value} (idle : Within idleOp code) :
    Meets SupDuty (fun _ now later => now = store ∧ Idly past later) code store past := by
  apply idle.meets (Idly past) (Idly.refl past)
  · intro now op _ permitted
    exact calmOp_duty (idleOp_calm op permitted)
  · intro now op answer grows permitted
    exact grows.step _ permitted

private theorem readSince_none {peer : Side} {halt : Halt} (idle : Idly past later) :
    ReadSince peer pred past (.error halt) later := by
  apply ReadSince.prependIdle idle
  refine ⟨[], (List.append_nil later).symm, ?_, ?_⟩
  · intro event member
    cases member
  · intro other member
    cases member

private theorem idle_frames {extra : SupPast} (idle : ∀ event ∈ extra, idleOp event.op.op = true)
    (peer : Side) : extra.filterMap (frameFrom peer) = [] := by
  rw [List.filterMap_eq_nil_iff]
  intro event member
  exact idleOp_frame (idle event member) peer

theorem clearRecvTimeout_steps {next : Unit → SupM Value}
    {asks : SupPast → Call SupStore SupOp → Prop}
    {post : Except Halt Value → SupStore → SupPast → Prop} (peer : Side)
    (asked : asks past ⟨store, .setReadTimeout peer none⟩)
    (rest : ∀ answer, Meets asks post (next ()) store
      (past ++ [⟨⟨store, .setReadTimeout peer none⟩, answer⟩])) :
    Meets asks post (clearRecvTimeout peer >>= next) store past := by
  rw [meets_bind]
  exact Meets.callBind asked rest

private theorem readUntil_frame {peer : Side} {armed : SupPast} (version : ProtoVersion)
    (message : Message) (waiting : Idly past armed) :
    Meets SupDuty (fun outcome now later => now = store ∧ ReadSince peer pred past outcome later)
      (do
        clearRecvTimeout peer
        if pred message then pure message else raise (.unexpectedMessage (shortName message)))
      store (armed ++ [⟨⟨store, .pollRead peer⟩, .frame version message⟩]) := by
  have reads : frameFrom peer ⟨⟨store, .pollRead peer⟩, .frame version message⟩ = some message := by
    simp [frameFrom]
  have ends (extra : SupPast) (idle : ∀ event ∈ extra, idleOp event.op.op = true)
      (outcome : Except Halt Message)
      (verdict : match outcome with
        | .ok accepted => pred accepted = true ∧ accepted = message
        | .error _ => pred message = false) :
      ReadSince peer pred past outcome
        ((armed ++ [⟨⟨store, .pollRead peer⟩, .frame version message⟩]) ++ extra) := by
    apply ReadSince.prependIdle waiting
    refine ⟨⟨⟨store, .pollRead peer⟩, .frame version message⟩ :: extra, by simp, ?_, ?_⟩
    · intro event member
      rcases List.mem_cons.mp member with same | rest
      · rw [same]
        rfl
      · exact idleOp_calm _ (idle event rest)
    · rw [List.filterMap_cons_some reads, idle_frames idle]
      cases outcome with
      | ok accepted =>
          obtain ⟨holds, rfl⟩ := verdict
          refine ⟨holds, [], rfl, ?_⟩
          intro other member
          cases member
      | error halt =>
          intro other member
          rw [List.mem_singleton.mp member]
          exact verdict
  refine clearRecvTimeout_steps peer trivial fun answer => ?_
  have cleared : ∀ event ∈ [(⟨⟨store, .setReadTimeout peer none⟩, answer⟩ : SupEvent)],
      idleOp event.op.op = true := by
    intro event member
    rw [List.mem_singleton.mp member]
    rfl
  rw [meets_ite]
  constructor
  · intro accepted
    exact ⟨rfl, ends _ cleared (.ok message) ⟨accepted, rfl⟩⟩
  · intro rejected
    exact ⟨rfl, ends _ cleared _ (Bool.eq_false_iff.mpr rejected)⟩

structure Awaits (pred : Message → Bool) : Prop where
  heartbeat : ∀ tsMs, pred (.heartbeat tsMs) = false
  sealProgress : ∀ shardsSealed shardsTotal lastRevision,
    pred (.sealProgress shardsSealed shardsTotal lastRevision) = false

private theorem readUntilLoop_meets (peer : Side) (deadline : Instant) (awaiting : String)
    (awaits : Awaits pred) (fuel : Nat) :
    Meets SupDuty (fun outcome now later => now = store ∧ ReadSince peer pred past outcome later)
      (readUntilLoop peer deadline awaiting pred fuel) store past := by
  induction fuel generalizing past with
  | zero =>
      refine ⟨trivial, ?_⟩
      intro answer
      exact answer.elim
  | succ fuel ih =>
      unfold readUntilLoop
      refine Meets.callBind trivial fun now => ?_
      have ticked := (Idly.refl past).step ⟨⟨store, .now⟩, now⟩ rfl
      rw [meets_ite]
      constructor
      · intro _
        refine clearRecvTimeout_steps peer trivial fun answer => ⟨rfl, ?_⟩
        exact readSince_none (ticked.step _ rfl)
      · intro _
        refine Meets.bind (idle_meets (Reliable.within (armRecvTimeout_reliable peer _ rfl rfl))) ?_ ?_
        · rintro _ same armed ⟨rfl, idle⟩
          have waiting := ticked.trans idle
          refine Meets.callBind trivial fun polled => ?_
          have again (skip : ∀ message, frameFrom peer ⟨⟨same, .pollRead peer⟩, polled⟩ =
              some message → pred message = false) :
              Meets SupDuty (fun outcome now later => now = same ∧
                ReadSince peer pred past outcome later)
                (readUntilLoop peer deadline awaiting pred fuel) same
                (armed ++ [⟨⟨same, .pollRead peer⟩, polled⟩]) := by
            apply ih.mono
            rintro outcome last final ⟨kept, read⟩
            exact ⟨kept, (read.prepend _ rfl skip).prependIdle waiting⟩
          have silent (cause : Error) (quiet : frameFrom peer ⟨⟨same, .pollRead peer⟩, polled⟩ =
              none) :
              Meets SupDuty (fun outcome now later => now = same ∧
                ReadSince peer pred past outcome later)
                (do clearRecvTimeout peer; raise cause) same
                (armed ++ [⟨⟨same, .pollRead peer⟩, polled⟩]) := by
            refine clearRecvTimeout_steps peer trivial fun answer => ⟨rfl, ?_⟩
            apply ReadSince.prependIdle waiting
            apply ReadSince.prepend ⟨⟨same, .pollRead peer⟩, polled⟩ rfl
            · intro message found
              rw [quiet] at found
              contradiction
            · exact readSince_none ((Idly.refl _).step _ rfl)
          cases polled with
          | failed cause => exact silent cause rfl
          | waiting midFrame =>
              cases midFrame with
              | true => exact again (fun message found => by cases found)
              | false => exact silent _ rfl
          | frame version message =>
              have skips (progress : pred message = false) : ∀ other, frameFrom peer
                  ⟨⟨same, .pollRead peer⟩, .frame version message⟩ = some other →
                  pred other = false := by
                intro other found
                rw [frameFrom, if_pos rfl] at found
                rw [← Option.some.inj found]
                exact progress
              cases message with
              | heartbeat tsMs => exact again (skips (awaits.heartbeat tsMs))
              | sealProgress shardsSealed shardsTotal lastRevision =>
                  exact again (skips (awaits.sealProgress _ _ _))
              | _ => exact readUntil_frame version _ waiting
        · rintro halt same armed ⟨rfl, idle⟩
          exact ⟨rfl, readSince_none (ticked.trans idle)⟩

theorem readUntil_meets (peer : Side) (timeout : Duration) (awaiting : String)
    (awaits : Awaits pred) (fuel : Nat) :
    Meets SupDuty (fun outcome now later => now = store ∧ ReadSince peer pred past outcome later)
      (readUntil peer timeout awaiting pred fuel) store past := by
  unfold readUntil
  refine Meets.callBind trivial fun start => ?_
  have ticked := (Idly.refl past).step ⟨⟨store, .now⟩, start⟩ rfl
  refine Meets.bind (idle_meets (addInstant_within start _)) ?_ ?_
  · rintro deadline now later ⟨rfl, idle⟩
    apply (readUntilLoop_meets peer deadline awaiting awaits fuel).mono
    rintro outcome last final ⟨same, read⟩
    exact ⟨same, read.prependIdle (ticked.trans idle)⟩
  · rintro halt now later ⟨rfl, idle⟩
    exact ⟨rfl, readSince_none (ticked.trans idle)⟩

theorem isDrained_awaits : Awaits isDrained := ⟨fun _ => rfl, fun _ _ _ => rfl⟩

theorem isReady_awaits : Awaits isReady := ⟨fun _ => rfl, fun _ _ _ => rfl⟩

end Handoff
