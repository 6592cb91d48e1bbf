/-
The streams of a call, and its decision.

A call is resolved when it has read `Ready` or has reaped its child.  Behind a
`SealRequest` nothing reaches the incumbent before that, neither a frame nor the
end of the stream: what the supervisor writes is at its stage, and it closes the
stream last.
-/

import Handoff.Supervisor.StageRuns
import Handoff.World.Continuity

namespace Handoff

open Effects SupM
open Effects.Code hiding pure bind

variable {system : System} {past : SupPast} {supervisor : Supervisor} {message : Message}
  {version : ProtoVersion} {event : SupEvent}

/-! ### The stages of a call -/

def TaskDuty (system : System) : Task → SupPast → Call SupStore SupOp → Prop
  | .handoff _ => StageDuty system.supervisor
  | .resume => fun _ _ => True

private theorem code_stands (system : System) (task : Task) :
    Program.Keeps (TaskDuty system task) (fun _ _ => True) (system.code task) [] := by
  cases task with
  | handoff spec =>
      have met : Meets (StageDuty system.supervisor) (fun _ _ _ => True) (do
          let outcome ← performHandoff system.supervisor spec system.fuel
          Pure.pure (some outcome)) {} [] :=
        Meets.bind (performHandoff_stands system.supervisor spec system.fuel)
          (fun _ _ _ _ => trivial) (fun _ _ _ _ => trivial)
      exact met
  | resume => exact Program.keeps_trivial _ _

def OnStage (supervisor : Supervisor) (past : SupPast) : Prop :=
  ∀ before event after, past = before ++ event :: after →
    StageOpDuty supervisor before event.op.op

theorem OnStage.earlier {before after : SupPast} (staged : OnStage supervisor past)
    (split : past = before ++ after) : OnStage supervisor before := by
  intro first event rest inner
  apply staged first event (rest ++ after)
  rw [split, inner, List.append_assoc]
  rfl

theorem TaskDuty.stage {task : Task} {spec : SpawnSpec} (handoff : task = .handoff spec)
    {call : Call SupStore SupOp} (duty : TaskDuty system task past call) :
    StageOpDuty system.supervisor past call.op := by
  subst handoff
  exact duty

theorem Sup.staged {sup : Sup system} {spec : SpawnSpec} (handoff : sup.task = .handoff spec) :
    OnStage system.supervisor sup.thread.past := by
  intro before event after split
  exact (sup.thread.run.asked (code_stands system sup.task) split).stage handoff

private theorem Sup.stage_duty {sup : Sup system} {spec : SpawnSpec}
    (handoff : sup.task = .handoff spec) {call : Call SupStore SupOp}
    {resume : SupAns call.op → Process SupStore SupAns Halt (Option HandoffOutcome)}
    (next : sup.thread.rest = .call call resume) :
    StageOpDuty system.supervisor sup.thread.past call.op :=
  (sup.thread.asked (code_stands system sup.task) next).stage handoff

theorem spawned_grows {before : SupPast} (child : (spawned before).isSome = true)
    (after : SupPast) : (spawned (before ++ after)).isSome = true := by
  unfold spawned at child ⊢
  rw [List.filterMap_append, List.getLast?_append]
  cases (after.filterMap spawns?).getLast? with
  | none => exact child
  | some pid => rfl

theorem OnStage.child (staged : OnStage supervisor past) {handoffId : HandoffId}
    (deep : 2 ≤ (stageOf handoffId past).depth) : (spawned past).isSome = true := by
  obtain ⟨event, member, acknowledged⟩ := List.any_eq_true.mp (stageOf_milestone 2 (by decide) deep)
  obtain ⟨before, after, split⟩ := List.append_of_mem member
  obtain ⟨message, id, sent, ack⟩ := writes_frame (Bool.and_eq_true_iff.mp acknowledged).2
  have duty := staged before event after split
  rw [split]
  apply spawned_grows
  obtain ⟨version, same⟩ := frameTo_op sent
  rw [same] at duty
  obtain ⟨_, _, _, _, _, _, vouched⟩ := duty
  cases message with
  | helloAck chosen handoffId => exact vouched.2
  | _ => contradiction

/-! ### Behind `SealRequest` -/

/-- `SealRequest` was written or can no longer be. -/
def Stage.leftDrained : Stage → Bool
  | .fresh | .ackedIncumbent | .ackedSuccessor | .prepared | .drained => false
  | _ => true

private theorem Stage.leftDrained_lasting : Stage.Lasting Stage.leftDrained where
  halted := rfl
  drained := by decide
  sealed := by decide
  readied := by decide
  turns := by
    intro stage turn due left
    cases stage <;> cases due <;> first | contradiction | exact ⟨rfl, rfl⟩

private theorem stageOf_leftDrained (handoffId : HandoffId)
    (written : past.any writesSealRequest = true) :
    (stageOf handoffId past).leftDrained = true := by
  apply Stage.leftDrained_lasting.since writesSealRequest _ written
  intro stage event writing
  obtain ⟨⟨store, op⟩, answer⟩ := event
  cases op with
  | writeFrame peer version message =>
      cases peer
      · cases message <;> first | contradiction | cases stage <;> cases answer <;> rfl
      · contradiction
  | _ => contradiction

theorem StageOpDuty.verdict (asked : past.any writesSealRequest = true)
    (duty : StageOpDuty supervisor past (.writeFrame .incumbent version message)) :
    (commitId message).isSome = true ∨ (resumeId message).isSome = true := by
  obtain ⟨handoffId, turn, _, due, peer, expected, _⟩ := duty
  have left := stageOf_leftDrained handoffId asked
  revert due left
  cases stageOf handoffId past <;> intro due left <;> cases due <;> first
    | contradiction
    | exact Or.inl (Option.isSome_of_mem expected)
    | exact Or.inr (Option.isSome_of_mem expected)

/-- The incumbent hears nothing but its acknowledgement before there is a successor. -/
private theorem OnStage.spawned_first (staged : OnStage supervisor past)
    (duty : StageOpDuty supervisor past (.writeFrame .incumbent version message))
    (other : ackId message = none) : (spawned past).isSome = true := by
  obtain ⟨handoffId, turn, _, due, peer, expected, _⟩ := duty
  have deep : 2 ≤ (stageOf handoffId past).depth := by
    revert due
    cases stageOf handoffId past <;> intro due <;> cases due <;> first
      | contradiction
      | decide
      | exact absurd (other.symm.trans expected) nofun
  exact staged.child deep

private theorem OnStage.asked_child (staged : OnStage supervisor past)
    (asked : past.any writesSealRequest = true) : (spawned past).isSome = true := by
  obtain ⟨event, member, requests⟩ := List.any_eq_true.mp asked
  obtain ⟨before, after, split⟩ := List.append_of_mem member
  have duty := staged before event after split
  unfold writesSealRequest at requests
  split at requests
  · next handoffId sent =>
      obtain ⟨version, same⟩ := frameTo_op sent
      rw [same] at duty
      rw [split]
      exact spawned_grows ((staged.earlier split).spawned_first duty rfl) _
  · contradiction

/-! ### The decision -/

def Buried (past : SupPast) : Prop := (spawned past).isSome = true ∧ Reaped past

def Resolved (past : SupPast) : Prop := Buried past ∨ readyHeard past = true

theorem Buried.append (buried : Buried past) (duty : SupOpDuty past event.op.store event.op.op) :
    Buried (past ++ [event]) := by
  obtain ⟨pid, child⟩ := Option.isSome_iff_exists.mp buried.1
  exact ⟨spawned_grows buried.1 _, buried.2.append event (spawned_append_some duty child).1⟩

theorem Resolved.append (resolved : Resolved past)
    (duty : SupOpDuty past event.op.store event.op.op) : Resolved (past ++ [event]) := by
  rcases resolved with buried | heard
  · exact Or.inl (buried.append duty)
  · exact Or.inr (readyHeard_append duty heard)

def SealRead (past : SupPast) : Prop :=
  ∃ handoffId, past.any (readsSealComplete handoffId) = true

theorem SealRead.append (read : SealRead past) : SealRead (past ++ [event]) := by
  obtain ⟨handoffId, found⟩ := read
  refine ⟨handoffId, ?_⟩
  rw [List.any_append, found, Bool.true_or]

/-! ### The streams -/

def isResume (message : Message) : Bool := (resumeId message).isSome

def carriesRequest (sent : List Frame) : Bool := sent.any fun frame => isSealRequest frame.2

theorem Step.supOpen {world next : World system} {label : Label} (step : Step world label next)
    (id : Nat) :
    (next.streams id).supOpen = (world.streams id).supOpen ∨ label = .crash ∨
      ∃ store peer done, label = .sup ⟨⟨store, .close peer⟩, done⟩ ∧
        world.sup.ends.peer peer = some id := by
  have quiet {traffic : Traffic}
      (same : ∀ stream : Stream, (traffic.change stream).supOpen = stream.supOpen) :
      (traffic.apply world.streams id).supOpen = (world.streams id).supOpen := by
    unfold Traffic.apply
    split
    · exact same _
    · rfl
  cases step with
  | @prim mover old call resume present alive pending answer admitted =>
      left
      apply quiet
      intro stream
      generalize (⟨call, answer⟩ : PrimEvent) = event
      unfold Sockets.traffic
      split <;> rfl
  | @sup call resume alive pending answer admitted =>
      by_cases here : ∃ store peer done, (⟨call, answer⟩ : SupEvent) = ⟨⟨store, .close peer⟩, done⟩ ∧
          world.sup.ends.peer peer = some id
      · obtain ⟨store, peer, done, same, there⟩ := here
        exact Or.inr (Or.inr ⟨store, peer, done, congrArg _ same, there⟩)
      · left
        change ((world.sup.ends.traffic ⟨call, answer⟩).apply world.streams id).supOpen = _
        generalize (⟨call, answer⟩ : SupEvent) = event at here ⊢
        unfold Ends.traffic
        split
        · exact quiet fun _ => rfl
        · exact quiet fun _ => rfl
        · exact quiet fun _ => rfl
        · next store peer done =>
            unfold Traffic.apply
            rw [if_neg]
            intro there
            exact here ⟨store, peer, done, rfl, Option.mem_toList.mp there⟩
        · exact quiet fun _ => rfl
  | crash => exact Or.inr (Or.inl rfl)
  | call => exact Or.inl rfl
  | _ => exact Or.inl (quiet fun _ => rfl)

/-- The streams of one call.  What they carry is known to the supervisor, and
behind a `SealRequest` nothing happens before the call is resolved. -/
structure Lanes (world : World system) : Prop where
  live : ∀ peer id, world.sup.ends.peer peer = some id → (world.streams id).supOpen = true
  fresh : ∀ id, world.opened ≤ id → (world.streams id).supOpen = true
  apart : ∀ id, world.sup.ends.successor = some id →
    world.sup.ends.incumbent ≠ some id ∧ carriesRequest (world.streams id).sent = false
  asked : ∀ id, carriesRequest (world.streams id).sent = true →
    world.sup.thread.past.any writesSealRequest = true
  behind : ∀ id, (world.streams id).sent.Pairwise fun earlier _ =>
    isSealRequest earlier.2 = true → Resolved world.sup.thread.past
  closed : ∀ id, carriesRequest (world.streams id).sent = true →
    (world.streams id).supOpen = false → Resolved world.sup.thread.past
  resumes : ∀ id, ∀ frame ∈ (world.streams id).sent, isResume frame.2 = true →
    Buried world.sup.thread.past
  begins : ∀ id, ∀ frame ∈ (world.streams id).sent, (beginId frame.2).isSome = true →
    SealRead world.sup.thread.past

def Label.stays : Label → Bool
  | .crash | .call _ => false
  | _ => true

theorem Label.stays_call {label : Label} (stays : label.stays = true) :
    ∀ task, label ≠ .call task := by
  intro task same
  subst same
  contradiction

section Step

variable {world next : World system} {label : Label} {spec : SpawnSpec}

private theorem Lanes.fresh_step (lanes : Lanes world) (orderly : Orderly world)
    (step : Step world label next) (stays : label.stays = true) (id : Nat)
    (above : next.opened ≤ id) : (next.streams id).supOpen = true := by
  have beyond := step.opened_le.trans above
  rcases step.supOpen id with same | rfl | ⟨store, peer, done, rfl, there⟩
  · rw [same]
    exact lanes.fresh id beyond
  · contradiction
  · have below := orderly.bounded peer id there
    omega

private theorem Lanes.live_step (lanes : Lanes world) (step : Step world label next)
    (stays : label.stays = true) (peer : Side) (id : Nat)
    (there : next.sup.ends.peer peer = some id) : (next.streams id).supOpen = true := by
  have known : world.sup.ends.peer peer = some id ∨ id = world.opened := by
    cases step with
    | @sup call resume alive pending answer admitted =>
        exact (Ends.after_peer there).imp_right And.left
    | call idle task => cases peer <;> contradiction
    | _ => exact Or.inl there
  have before : (world.streams id).supOpen = true := by
    rcases known with old | rfl
    · exact lanes.live peer id old
    · exact lanes.fresh _ (Nat.le_refl _)
  rcases step.supOpen id with same | rfl | ⟨store, closing, done, rfl, owned⟩
  · exact same.trans before
  · contradiction
  · exfalso
    cases step with
    | sup alive pending answer admitted =>
        cases closing <;> cases peer <;> first
          | contradiction
          | exact (lanes.apart id there).1 owned
          | exact (lanes.apart id owned).1 there

private theorem Ends.after_shared {ends : Ends} {opened : Nat} {id : Nat}
    (successor : (ends.after opened event).successor = some id)
    (incumbent : (ends.after opened event).incumbent = some id) :
    ends.successor = some id ∧ ends.incumbent = some id ∨
      id = opened ∧ ∃ peer, ends.peer peer = some id := by
  revert successor incumbent
  unfold Ends.after
  split <;> intro successor incumbent
  · exact Or.inr ⟨(Option.some.inj incumbent).symm, .successor, successor⟩
  · exact Or.inr ⟨(Option.some.inj successor).symm, .incumbent, incumbent⟩
  · contradiction
  · contradiction
  · exact Or.inl ⟨successor, incumbent⟩

/-- The streams of a call are only renamed by the supervisor. -/
theorem Step.ends (step : Step world label next) (stays : label.stays = true) :
    next.sup.ends = world.sup.ends ∨ ∃ event, label = .sup event ∧
      next.sup.ends = world.sup.ends.after world.opened event := by
  cases step with
  | sup alive pending answer admitted => exact Or.inr ⟨_, rfl, rfl⟩
  | call => contradiction
  | _ => exact Or.inl rfl

private theorem Lanes.separate_step (lanes : Lanes world) (orderly : Orderly world)
    (step : Step world label next) (stays : label.stays = true) (id : Nat)
    (successor : next.sup.ends.successor = some id) : next.sup.ends.incumbent ≠ some id := by
  intro incumbent
  rcases step.ends stays with same | ⟨event, rfl, same⟩
  · rw [same] at successor incumbent
    exact (lanes.apart id successor).1 incumbent
  · rw [same] at successor incumbent
    rcases Ends.after_shared successor incumbent with ⟨old, shared⟩ | ⟨rfl, peer, old⟩
    · exact (lanes.apart id old).1 shared
    · exact Nat.lt_irrefl _ (orderly.bounded peer _ old)

private theorem carriesRequest_append {sent : List Frame} :
    carriesRequest (sent ++ [(version, message)]) = (carriesRequest sent || isSealRequest message) := by
  unfold carriesRequest
  rw [List.any_append, List.any_cons, List.any_nil, Bool.or_false]

private theorem isSealRequest_restarts (request : isSealRequest message = true) :
    restarts message = true := by
  cases message <;> first | contradiction | rfl

private theorem Lanes.apart_step (lanes : Lanes world) (orderly : Orderly world)
    (step : Step world label next) (stays : label.stays = true) (id : Nat)
    (there : next.sup.ends.successor = some id) :
    next.sup.ends.incumbent ≠ some id ∧ carriesRequest (next.streams id).sent = false := by
  refine ⟨lanes.separate_step orderly step stays id there, ?_⟩
  have before : carriesRequest (world.streams id).sent = false := by
    rcases step.ends stays with same | ⟨event, rfl, same⟩
    · rw [same] at there
      exact (lanes.apart id there).2
    · rw [same] at there
      have there : (world.sup.ends.after world.opened event).peer .successor = some id := there
      rcases Ends.after_peer there with old | ⟨rfl, _⟩
      · exact (lanes.apart id old).2
      · rw [orderly.unsent _ (Nat.le_refl _)]
        rfl
  rcases step.sent id with same | ⟨store, peer, version, message, done, rfl, owned, grown⟩
  · rw [same]
    exact before
  · rw [grown, carriesRequest_append, before, Bool.false_or]
    cases request : isSealRequest message with
    | false => rfl
    | true =>
        cases step with
        | sup alive pending answer admitted =>
            obtain ⟨rfl, _⟩ := restarts_duty (isSealRequest_restarts request) (Sup.duty pending)
            exact absurd owned (lanes.apart id there).1

private theorem Lanes.asked_step (lanes : Lanes world) (step : Step world label next)
    (stays : label.stays = true) (id : Nat)
    (carries : carriesRequest (next.streams id).sent = true) :
    next.sup.thread.past.any writesSealRequest = true := by
  have keeps := step.any_kept writesSealRequest (Label.stays_call stays)
  rcases step.sent id with same | ⟨store, peer, version, message, done, rfl, owned, grown⟩
  · rw [same] at carries
    exact keeps (lanes.asked id carries)
  · rw [grown, carriesRequest_append, Bool.or_eq_true] at carries
    rcases carries with earlier | request
    · exact keeps (lanes.asked id earlier)
    · cases step with
      | sup alive pending answer admitted =>
          obtain ⟨rfl, _⟩ := restarts_duty (isSealRequest_restarts request) (Sup.duty pending)
          change (world.sup.thread.past ++ [_]).any writesSealRequest = true
          rw [List.any_append, Bool.or_eq_true]
          right
          cases message <;> first | contradiction | rfl

private theorem verdict_resolved {store : SupStore} (staged : OnStage supervisor past)
    (asked : past.any writesSealRequest = true)
    (stage : StageOpDuty supervisor past (.writeFrame .incumbent version message))
    (duty : SupOpDuty past store (.writeFrame .incumbent version message)) : Resolved past := by
  rcases stage.verdict asked with commits | resumes
  · cases message with
    | commit handoffId => exact Or.inr (readyHeard_iff.mpr ⟨handoffId, duty.1, duty.2.1⟩)
    | _ => contradiction
  · cases message with
    | resumeAfterAbort handoffId => exact Or.inl ⟨staged.asked_child asked, duty.2.1⟩
    | _ => contradiction

theorem Resolved.step (resolved : Resolved world.sup.thread.past) (step : Step world label next)
    (stays : label.stays = true) : Resolved next.sup.thread.past :=
  step.keeps (Label.stays_call stays) Resolved Resolved.append resolved

private theorem Lanes.behind_step (lanes : Lanes world) (handoff : world.sup.task = .handoff spec)
    (step : Step world label next) (stays : label.stays = true) (id : Nat) :
    (next.streams id).sent.Pairwise fun earlier _ =>
      isSealRequest earlier.2 = true → Resolved next.sup.thread.past := by
  have kept : (world.streams id).sent.Pairwise fun earlier _ =>
      isSealRequest earlier.2 = true → Resolved next.sup.thread.past :=
    (lanes.behind id).imp fun resolved request => (resolved request).step step stays
  rcases step.sent id with same | ⟨store, peer, version, message, done, rfl, owned, grown⟩
  · rw [same]
    exact kept
  · rw [grown]
    refine List.pairwise_append.mpr ⟨kept, List.pairwise_singleton _ _, ?_⟩
    intro earlier before later _ request
    have carries : carriesRequest (world.streams id).sent = true :=
      List.any_eq_true.mpr ⟨earlier, before, request⟩
    cases peer with
    | successor =>
        rw [(lanes.apart id owned).2] at carries
        contradiction
    | incumbent =>
        have resolved : Resolved world.sup.thread.past := by
          cases step with
          | sup alive pending answer admitted =>
              exact verdict_resolved (Sup.staged handoff) (lanes.asked id carries)
                (Sup.stage_duty handoff pending) (Sup.duty pending)
        exact resolved.step step stays

private theorem Lanes.closed_step (lanes : Lanes world) (handoff : world.sup.task = .handoff spec)
    (step : Step world label next) (stays : label.stays = true) (id : Nat)
    (carries : carriesRequest (next.streams id).sent = true)
    (shut : (next.streams id).supOpen = false) : Resolved next.sup.thread.past := by
  rcases step.supOpen id with same | rfl | ⟨store, peer, done, rfl, owned⟩
  · rw [same] at shut
    rcases step.sent id with unchanged | ⟨store, peer, version, message, done, rfl, owned, grown⟩
    · rw [unchanged] at carries
      exact (lanes.closed id carries shut).step step stays
    · rw [lanes.live peer id owned] at shut
      contradiction
  · contradiction
  · have before : carriesRequest (world.streams id).sent = true := by
      rcases step.sent id with unchanged | ⟨_, _, _, _, _, other, _⟩
      · rw [← unchanged]
        exact carries
      · cases other
    cases peer with
    | successor =>
        rw [(lanes.apart id owned).2] at before
        contradiction
    | incumbent =>
        have resolved : Resolved world.sup.thread.past := by
          have child := (Sup.staged handoff).asked_child (lanes.asked id before)
          cases step with
          | sup alive pending answer admitted =>
              rcases Sup.duty pending with reaped | ⟨handoffId, identity, ready⟩
              · exact Or.inl ⟨child, reaped⟩
              · exact Or.inr (readyHeard_iff.mpr ⟨handoffId, identity, ready⟩)
        exact resolved.step step stays

/-- What the supervisor knows when it writes a message holds while the message is there. -/
theorem sent_step (marked : Message → Bool) (claim : SupPast → Prop)
    (grows : ∀ {past : SupPast} {event : SupEvent}, claim past →
      SupOpDuty past event.op.store event.op.op → claim (past ++ [event]))
    (known : ∀ id, ∀ frame ∈ (world.streams id).sent, marked frame.2 = true →
      claim world.sup.thread.past)
    (step : Step world label next) (stays : label.stays = true)
    (writes : ∀ store peer version message done,
      label = .sup ⟨⟨store, .writeFrame peer version message⟩, .ok done⟩ →
      marked message = true → claim world.sup.thread.past)
    (id : Nat) (frame : Frame) (there : frame ∈ (next.streams id).sent)
    (wanted : marked frame.2 = true) : claim next.sup.thread.past := by
  apply step.keeps (Label.stays_call stays) claim grows
  rcases step.sent id with same | ⟨store, peer, version, message, done, shape, owned, grown⟩
  · rw [same] at there
    exact known id frame there wanted
  · rw [grown] at there
    rcases List.mem_append.mp there with before | last
    · exact known id frame before wanted
    · rw [List.mem_singleton.mp last] at wanted
      exact writes store peer version message done shape wanted

private theorem Lanes.resumes_step (lanes : Lanes world) (handoff : world.sup.task = .handoff spec)
    (step : Step world label next) (stays : label.stays = true) (id : Nat) (frame : Frame)
    (there : frame ∈ (next.streams id).sent) (resumes : isResume frame.2 = true) :
    Buried next.sup.thread.past := by
  apply sent_step isResume Buried Buried.append lanes.resumes step stays _ id frame there resumes
  intro store peer version message done shape wanted
  subst shape
  cases step with
  | sup alive pending answer admitted =>
      have duty := Sup.duty pending
      have stage := Sup.stage_duty handoff pending
      cases message with
      | resumeAfterAbort handoffId =>
          cases peer with
          | successor => exact duty.elim
          | incumbent => exact ⟨(Sup.staged handoff).spawned_first stage rfl, duty.2.1⟩
      | _ => contradiction

private theorem Lanes.begins_step (lanes : Lanes world) (step : Step world label next)
    (stays : label.stays = true) (id : Nat) (frame : Frame)
    (there : frame ∈ (next.streams id).sent) (begins : (beginId frame.2).isSome = true) :
    SealRead next.sup.thread.past := by
  refine sent_step (fun message => (beginId message).isSome) SealRead ?_ lanes.begins step stays ?_
    id frame there begins
  · intro past event read _
    exact read.append
  · intro store peer version message done shape wanted
    subst shape
    cases step with
    | sup alive pending answer admitted =>
        have duty := Sup.duty pending
        cases message with
        | begin handoffId =>
            cases peer with
            | incumbent => exact duty.elim
            | successor => exact ⟨handoffId, duty.2⟩
        | _ => contradiction

theorem Lanes.step (lanes : Lanes world) (orderly : Orderly world)
    (handoff : world.sup.task = .handoff spec) (step : Step world label next)
    (stays : label.stays = true) : Lanes next where
  live := lanes.live_step step stays
  fresh := lanes.fresh_step orderly step stays
  apart := lanes.apart_step orderly step stays
  asked := lanes.asked_step step stays
  behind := lanes.behind_step handoff step stays
  closed := lanes.closed_step handoff step stays
  resumes := lanes.resumes_step handoff step stays
  begins := lanes.begins_step step stays

end Step

theorem opening_lanes (pid : UInt32) (lock : DataDirLock) (task : Task) :
    Lanes (World.opening system pid lock task) where
  live := by
    intro peer id there
    cases peer <;> contradiction
  fresh := fun _ _ => rfl
  apart := fun _ there => by contradiction
  asked := fun _ carries => by contradiction
  behind := fun _ => List.Pairwise.nil
  closed := fun _ carries => by contradiction
  resumes := fun _ _ there => by contradiction
  begins := fun _ _ there => by contradiction

end Handoff
