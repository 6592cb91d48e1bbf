/-
Nobody in a handoff finds the lock held.

One call, in which the supervisor stays and the incumbent's stream fails only when
the supervisor has closed it.  Between `SealComplete` and the decision the
incumbent waits for a frame, without the flock; that is when the successor takes
it.  And `ResumeAfterAbort` is written when the successor has been reaped.
-/

import Handoff.Primitive.Awaiting
import Handoff.Primitive.FirstLock
import Handoff.World.Lanes

namespace Handoff

open Effects

variable {system : System} {call : Call PrimStore PrimOp} {pid : UInt32} {store : PrimStore}

/-! ### Contracts -/

def AccessDuty : Kind → PrimPast → Call PrimStore PrimOp → Prop
  | .incumbent _ => SealDuty true
  | .successor => FirstDuty

private theorem program_access (system : System) (pid : UInt32) (kind : Kind) :
    Program.Keeps (AccessDuty kind) (fun _ _ => True) (system.program pid kind) [] := by
  cases kind with
  | incumbent lock => exact serve_books (system.host pid) system.fuel (Booked.bare rfl rfl)
  | successor => exact runSuccessor_first (system.host pid) system.snapshot system.fuel {}

theorem AccessDuty.sealing {kind : Kind} {past : PrimPast} (duty : AccessDuty kind past call)
    (serving : kind.holding = true) : SealDuty kind.holding past call := by
  cases kind with
  | incumbent lock => exact duty
  | successor => contradiction

theorem AccessDuty.first {kind : Kind} {past : PrimPast} (duty : AccessDuty kind past call)
    (child : kind = .successor) : FirstDuty past call := by
  subst child
  exact duty

section Prim

variable {pid : UInt32} {prim : Prim system pid}

private theorem Prim.access {resume : PrimAns call.op → Process PrimStore PrimAns Error Unit}
    (next : prim.thread.rest = .call call resume) : AccessDuty prim.kind prim.thread.past call :=
  prim.thread.asked (program_access system pid prim.kind) next

theorem Prim.awaiting (serving : prim.kind.holding = true)
    (waiting : awaits prim.thread.past = true) :
    prim.holds = false ∧ sealAsked prim.thread.past = true := by
  apply SealDuty.awaiting _ waiting
  intro before event after split
  exact (prim.thread.run.asked (program_access system pid prim.kind) split).sealing serving

private theorem Prim.unreported (child : prim.kind = .successor)
    (unreached : prim.thread.past.any opensSession = false) :
    prim.thread.past.any reportsSeal = false := by
  apply Bool.eq_false_iff.mpr
  intro reported
  obtain ⟨event, member, reports⟩ := List.any_eq_true.mp reported
  obtain ⟨before, after, split⟩ := List.append_of_mem member
  have duty := (prim.thread.run.asked (program_access system pid prim.kind) split).first child
  rw [split, List.any_append, Bool.or_eq_false_iff] at unreached
  unfold reportsSeal at reports
  split at reports
  · rcases duty with opened | shy | ⟨locking, _⟩
    · rw [List.nil_append, unreached.1] at opened
      contradiction
    · contradiction
    · contradiction
  · contradiction

end Prim

/-! ### `SealComplete` -/

def isSealComplete : Message → Bool
  | .sealComplete .. => true
  | _ => false

variable {prim : Prim system pid}

theorem Family.kind {incumbent : UInt32} {world : World system} (family : Family incumbent world)
    (clear : ChildWithout opensSession world) (there : world.prims pid = some prim) :
    pid = incumbent ∧ prim.kind.holding = true ∨
      spawned world.sup.thread.past = some pid ∧ prim.kind = .successor ∧
        prim.thread.past.any opensSession = false := by
  rcases family.member pid prim there with serving | ⟨child, spawned⟩
  · exact Or.inl serving
  · exact Or.inr ⟨child, spawned, (clear pid prim child there).2⟩

theorem Prim.reports (kind : prim.kind.holding = true ∨
      prim.kind = .successor ∧ prim.thread.past.any opensSession = false) {channel : Channel}
    {version : ProtoVersion} {message : Message}
    {resume : PrimAns (.writeFrame channel version message) →
      Process PrimStore PrimAns Error Unit}
    (pending : prim.thread.rest = .call ⟨store, .writeFrame channel version message⟩ resume)
    (complete : isSealComplete message = true) (done : Unit) :
    reportsSeal ⟨⟨store, .writeFrame channel version message⟩, .ok done⟩ = true := by
  have duty := Prim.access pending
  cases message with
  | sealComplete handoffId lastRevision fingerprint =>
      cases channel with
      | session => rfl
      | control =>
          rcases kind with serving | ⟨child, unreached⟩
          · exact (duty.sealing serving).elim
          · rcases duty.first child with opened | shy | ⟨locking, _⟩
            · rw [unreached] at opened
              contradiction
            · contradiction
            · contradiction
  | _ => contradiction

/-- A `SealComplete` on its way, or read, was written. -/
structure SealReported (world : World system) : Prop where
  sent : ∀ id, ∀ frame ∈ (world.streams id).replies, isSealComplete frame.2 = true →
    Happened reportsSeal world
  heard : SealRead world.sup.thread.past → Happened reportsSeal world

section Step

variable {world next : World system} {label : Label} {incumbent : UInt32} {spec : SpawnSpec}

theorem SealReported.sent_step (reported : SealReported world) (family : Family incumbent world)
    (clear : ChildWithout opensSession world) (step : Step world label next) (id : Nat)
    (frame : Frame) (there : frame ∈ (next.streams id).replies)
    (complete : isSealComplete frame.2 = true) : Happened reportsSeal next := by
  rcases step.replied there with before | ⟨pid, store, channel, done, rfl⟩ | ⟨tsMs, beat⟩
  · exact (reported.sent id frame before complete).step step
  · cases step with
    | prim present alive pending answer admitted =>
        refine ⟨pid, _, Function.update_self .., any_last ?_⟩
        exact Prim.reports ((family.kind clear present).imp And.right And.right) pending complete _
  · rw [beat] at complete
    contradiction

private theorem sealComplete_replied {handoffId : HandoffId} {call : Call SupStore SupOp}
    {answer : SupAns call.op} (reads : readsSealComplete handoffId ⟨call, answer⟩ = true)
    (admitted : world.admitsSup call.op answer = true) :
    ∃ id, ∃ frame ∈ (world.streams id).replies, isSealComplete frame.2 = true := by
  unfold readsSealComplete at reads
  split at reads
  · next found =>
      unfold frameFrom at found
      split at found
      · next same =>
          cases same
          split at found
          · cases found
            obtain ⟨id, _, arrived⟩ := (Option.any_eq_true ..).mp admitted
            exact ⟨id, _, List.mem_of_getElem? (eq_of_beq arrived), rfl⟩
          · contradiction
      · contradiction
  · contradiction

theorem SealReported.step (reported : SealReported world) (family : Family incumbent world)
    (clear : ChildWithout opensSession world) (step : Step world label next)
    (stays : label.stays = true) : SealReported next := by
  refine ⟨reported.sent_step family clear step, ?_⟩
  intro read
  have earlier (before : SealRead world.sup.thread.past) : Happened reportsSeal next :=
    (reported.heard before).step step
  cases step with
  | @sup call resume alive pending answer admitted =>
      obtain ⟨handoffId, found⟩ := read
      change (world.sup.thread.past ++ [(⟨call, answer⟩ : SupEvent)]).any _ = true at found
      rw [List.any_append, Bool.or_eq_true, List.any_cons, List.any_nil, Bool.or_false] at found
      rcases found with before | now
      · exact earlier ⟨handoffId, before⟩
      · obtain ⟨id, frame, there, complete⟩ := sealComplete_replied now admitted
        exact (reported.sent id frame there complete).step (.sup alive pending answer admitted)
  | call => contradiction
  | _ => exact earlier read

/-! ### Children that were waited for -/

def Collected (pid : UInt32) (past : SupPast) : Prop :=
  ∃ before waiting after, past = before ++ waiting :: after ∧ (spawned before).isSome = true ∧
    waiting.op.op = .wait pid

private theorem Buried.collected {past : SupPast} (buried : Buried past)
    (child : spawned past = some pid) : Collected pid past := by
  obtain ⟨before, killing, between, waiting, after, split, owned, _, wait⟩ := buried.2 pid child
  refine ⟨before ++ killing :: between, waiting, after, ?_, ?_, wait⟩
  · rw [split]
  · apply spawned_grows
    rw [owned]
    rfl

theorem Collected.child {past : SupPast} (collected : Collected pid past) :
    (spawned past).isSome = true := by
  obtain ⟨before, waiting, after, rfl, child, _⟩ := collected
  exact spawned_grows child _

theorem Collected.earlier {past : SupPast} {event : SupEvent}
    (collected : Collected pid (past ++ [event])) :
    Collected pid past ∨ event.op.op = .wait pid := by
  obtain ⟨before, waiting, after, split, child, wait⟩ := collected
  cases after using List.reverseRecOn with
  | nil =>
      right
      obtain ⟨_, same⟩ := List.append_inj' split rfl
      cases same
      exact wait
  | append_singleton after last =>
      left
      rw [← List.cons_append, ← List.append_assoc] at split
      obtain ⟨rfl, _⟩ := List.append_inj' split rfl
      exact ⟨before, waiting, after, rfl, child, wait⟩

def CollectedDead (world : World system) : Prop :=
  ∀ pid prim, world.prims pid = some prim → Collected pid world.sup.thread.past →
    prim.alive = false

private theorem wait_dead {call : Call SupStore SupOp} {answer : SupAns call.op}
    (waits : call.op = .wait pid) (admitted : world.admitsSup call.op answer = true)
    (there : world.prims pid = some prim) : prim.alive = false := by
  obtain ⟨store, op⟩ := call
  cases waits
  change (world.prims pid).all (fun prim => !prim.alive) = true at admitted
  rw [there, Option.all_some, Bool.not_eq_true'] at admitted
  exact admitted

private theorem wait_spawnless {event : SupEvent} (waits : event.op.op = .wait pid) :
    spawns? event = none := by
  obtain ⟨⟨store, op⟩, answer⟩ := event
  cases waits
  rfl

theorem CollectedDead.step (dead : CollectedDead world) (step : Step world label next)
    (stays : label.stays = true) : CollectedDead next := by
  intro pid prim there collected
  cases step.origin there with
  | @moved old call resume present alive pending answer admitted shape =>
      subst shape
      have before : Collected pid world.sup.thread.past := by
        cases step
        exact collected
      exact dead pid old present before
  | @kept old present =>
      cases step with
      | sup alive pending answer admitted =>
          rcases collected.earlier with before | waits
          · exact dead pid old present before
          · have gone : old.alive = false := wait_dead waits admitted present
            exact gone
      | call => contradiction
      | _ => exact dead pid old present collected
  | died => rfl
  | @born event absent shape spawning =>
      subst shape
      cases step with
      | sup alive pending answer admitted =>
          rcases collected.earlier with before | waits
          · obtain ⟨child, known⟩ := Option.isSome_iff_exists.mp before.child
            rw [(spawned_append_some (Sup.duty pending) known).1] at spawning
            contradiction
          · rw [wait_spawnless waits] at spawning
            contradiction

/-! ### Frames that were read -/

/-- Whoever has read such a frame, the supervisor knows what it knew when it wrote it. -/
def Backed (kind : PrimEvent → Bool) (claim : SupPast → Prop) (world : World system) : Prop :=
  ∀ pid prim, world.prims pid = some prim → prim.thread.past.any kind = true →
    claim world.sup.thread.past

theorem Backed.step {kind : PrimEvent → Bool} {claim : SupPast → Prop}
    (backed : Backed kind claim world)
    (grows : ∀ {past : SupPast} {event : SupEvent}, claim past →
      SupOpDuty past event.op.store event.op.op → claim (past ++ [event]))
    (step : Step world label next) (stays : label.stays = true)
    (reads : ∀ sockets call answer, world.admitsPrim sockets call.op answer = true →
      kind ⟨call, answer⟩ = true → claim world.sup.thread.past) : Backed kind claim next := by
  intro pid prim there found
  apply step.keeps (Label.stays_call stays) claim grows
  cases step.origin there with
  | @moved old call resume present alive pending answer admitted =>
      change (old.thread.past ++ [(⟨call, answer⟩ : PrimEvent)]).any kind = true at found
      rw [List.any_append, Bool.or_eq_true, List.any_cons, List.any_nil, Bool.or_false] at found
      rcases found with before | now
      · exact backed pid old present before
      · exact reads old.sockets call answer admitted now
  | @kept old present => exact backed pid old present found
  | @died old present => exact backed pid old present found
  | born => contradiction

def readsResume : PrimEvent → Bool
  | ⟨⟨_, .pollRead _⟩, .frame _ (.resumeAfterAbort _)⟩ => true
  | _ => false

private theorem Lanes.resume_read (lanes : Lanes world) {sockets : Sockets}
    {answer : PrimAns call.op} (admitted : world.admitsPrim sockets call.op answer = true)
    (reads : readsResume ⟨call, answer⟩ = true) : Buried world.sup.thread.past := by
  unfold readsResume at reads
  split at reads
  · next same =>
      cases same
      obtain ⟨id, _, arrived⟩ := World.admits_frame admitted
      exact lanes.resumes id _ (List.mem_of_getElem? arrived) rfl
  · contradiction

private theorem Lanes.begin_read (lanes : Lanes world) {sockets : Sockets}
    {answer : PrimAns call.op} (admitted : world.admitsPrim sockets call.op answer = true)
    (reads : readsBegin ⟨call, answer⟩ = true) : SealRead world.sup.thread.past := by
  unfold readsBegin at reads
  split at reads
  · next same =>
      cases same
      obtain ⟨id, _, arrived⟩ := (Option.any_eq_true ..).mp admitted
      exact lanes.begins id _ (List.mem_of_getElem? (eq_of_beq arrived)) rfl
  · contradiction

/-! ### Waiting for the verdict -/

/-- The supervisor stays, and a session fails only when the supervisor has closed its stream. -/
def failsWhenClosed (world : World system) (label : Label) (_ : World system) : Bool :=
  label.stays && match label with
    | .prim pid ⟨⟨_, .pollRead _⟩, .failed _⟩ => (world.prims pid).any fun prim =>
        prim.sockets.session.any fun id => !(world.streams id).supOpen
    | _ => true

private theorem failsWhenClosed_stays (admitted : failsWhenClosed world label next = true) :
    label.stays = true :=
  (Bool.and_eq_true_iff.mp admitted).1

/-- An incumbent that has reported its seal hears nothing before the call is resolved. -/
def AwaitsVerdict (world : World system) : Prop :=
  ∀ pid prim, world.prims pid = some prim → prim.kind.holding = true →
    prim.thread.past.any reportsSeal = true →
      awaits prim.thread.past = true ∨ Resolved world.sup.thread.past

private theorem awaitsAfter_cases (event : PrimEvent) :
    awaitsAfter true event = true ∨
      (∃ store armed version message,
        event = ⟨⟨store, .pollRead armed⟩, .frame version message⟩) ∨
      ∃ store armed cause, event = ⟨⟨store, .pollRead armed⟩, .failed cause⟩ := by
  unfold awaitsAfter
  split
  · exact Or.inl rfl
  · exact Or.inr (Or.inl ⟨_, _, _, _, rfl⟩)
  · exact Or.inr (Or.inr ⟨_, _, _, rfl⟩)
  · exact Or.inl rfl

private theorem reportsSeal_awaits {event : PrimEvent} (reports : reportsSeal event = true)
    (waiting : Bool) : awaitsAfter waiting event = true := by
  unfold reportsSeal at reports
  split at reports
  · rfl
  · contradiction

theorem SessionSent.request (sessions : SessionSent world prim)
    (asked : sealAsked prim.thread.past = true) {id : Nat}
    (session : prim.sockets.session = some id) :
    ∃ frame ∈ (world.streams id).sent.take (world.streams id).taken,
      isSealRequest frame.2 = true := by
  obtain ⟨request, read, asks⟩ := List.any_eq_true.mp asked
  obtain ⟨version, member⟩ := sessions id session request read
  exact ⟨_, member, asks⟩

private theorem Lanes.frame_resolved (lanes : Lanes world) (sessions : SessionSent world prim)
    (asked : sealAsked prim.thread.past = true) {armed : Bool} {version : ProtoVersion}
    {message : Message}
    (admitted : world.admitsPrim prim.sockets (.pollRead armed) (.frame version message) = true) :
    Resolved world.sup.thread.past := by
  obtain ⟨id, session, arrived⟩ := World.admits_frame admitted
  obtain ⟨request, before, asks⟩ := sessions.request asked session
  have pairs := lanes.behind id
  rw [← List.take_append_drop (world.streams id).taken (world.streams id).sent] at pairs
  exact (List.pairwise_append.mp pairs).2.2 request before _ (mem_unread arrived) asks

private theorem Lanes.end_resolved (lanes : Lanes world) (there : world.prims pid = some prim)
    (sessions : SessionSent world prim) (asked : sealAsked prim.thread.past = true) {armed : Bool}
    {cause : Error}
    (admitted : failsWhenClosed world (.prim pid ⟨⟨store, .pollRead armed⟩, .failed cause⟩) next =
      true) : Resolved world.sup.thread.past := by
  change (true && (world.prims pid).any _) = true at admitted
  rw [Bool.true_and, there, Option.any_some, Option.any_eq_true] at admitted
  obtain ⟨id, session, shut⟩ := admitted
  obtain ⟨request, before, asks⟩ := sessions.request asked session
  rw [Bool.not_eq_true'] at shut
  exact lanes.closed id (List.any_eq_true.mpr ⟨request, List.mem_of_mem_take before, asks⟩) shut

theorem AwaitsVerdict.step (waits : AwaitsVerdict world) (disciplined : Disciplined world)
    (lanes : Lanes world) (step : Step world label next)
    (admitted : failsWhenClosed world label next = true) : AwaitsVerdict next := by
  have stays := failsWhenClosed_stays admitted
  intro pid prim there serving reported
  cases step.origin there with
  | @moved old call resume present alive pending answer permitted shape =>
      have serving : old.kind.holding = true := serving
      change awaits (old.thread.past ++ [⟨call, answer⟩]) = true ∨ _
      rw [awaits_append]
      change (old.thread.past ++ [(⟨call, answer⟩ : PrimEvent)]).any reportsSeal = true at reported
      rw [List.any_append, Bool.or_eq_true, List.any_cons, List.any_nil, Bool.or_false] at reported
      rcases reported with before | now
      · rcases waits pid old present serving before with waiting | resolved
        · have asked := (Prim.awaiting serving waiting).2
          rw [waiting]
          rcases awaitsAfter_cases ⟨call, answer⟩ with still | ⟨_, _, _, _, same⟩ | ⟨_, _, _, same⟩
          · exact Or.inl still
          · cases same
            exact Or.inr ((lanes.frame_resolved (disciplined.sessions pid old present) asked
              permitted).step step stays)
          · cases same
            subst shape
            exact Or.inr ((lanes.end_resolved present (disciplined.sessions pid old present) asked
              admitted).step step stays)
        · exact Or.inr (resolved.step step stays)
      · exact Or.inl (reportsSeal_awaits now _)
  | @kept old present =>
      exact (waits pid old present serving reported).imp_right fun resolved =>
        resolved.step step stays
  | @died old present =>
      exact (waits pid old present serving reported).imp_right fun resolved =>
        resolved.step step stays
  | born => contradiction

/-! ### The flock -/

/-- No process was blocked inside the handoff: the successor never, and the
incumbent not after `ResumeAfterAbort`. -/
def Unblocked (world : World system) : Prop :=
  ∀ pid prim, world.prims pid = some prim → ∀ before event after,
    prim.thread.past = before ++ event :: after → blocked event = true →
      prim.kind.holding = true ∧ before.any readsResume = false

structure Handing (incumbent : UInt32) (spec : SpawnSpec) (world : World system) : Prop where
  task : world.sup.task = .handoff spec
  disciplined : Disciplined world
  family : Family incumbent world
  clear : ChildWithout opensSession world
  ready : ReadyWritten world
  lanes : Lanes world
  reported : SealReported world
  dead : CollectedDead world
  begun : Backed readsBegin SealRead world
  resumed : Backed readsResume Buried world
  waits : AwaitsVerdict world

/-- The incumbent has released the flock for the successor that takes it. -/
private theorem Handing.incumbent_released (handing : Handing incumbent spec world)
    (there : world.prims pid = some prim) (alive : prim.alive = true)
    (child : spawned world.sup.thread.past = some pid) (takes : TakesLock prim.thread.past)
    {old : Prim system incumbent} (present : world.prims incumbent = some old)
    (serving : old.kind.holding = true) : old.holds = false := by
  obtain ⟨writer, author, found, reported⟩ :=
    handing.reported.heard (handing.begun pid prim there takes.begun)
  have same : writer = incumbent := by
    rcases handing.family.kind handing.clear found with ⟨same, _⟩ | ⟨_, spawned, unreached⟩
    · exact same
    · rw [Prim.unreported spawned unreached] at reported
      contradiction
  subst same
  obtain rfl : old = author := Option.some.inj (present.symm.trans found)
  rcases handing.waits writer old present serving reported with waiting | buried | heard
  · exact (Prim.awaiting serving waiting).1
  · rw [handing.dead pid prim there (buried.collected child)] at alive
    contradiction
  · obtain ⟨other, announcer, known, announced⟩ := handing.ready.heard heard
    have spawned := Prim.announced_successor announced
    rcases handing.family.member other announcer known with ⟨_, holding⟩ | ⟨same, _⟩
    · rw [spawned] at holding
      contradiction
    · rw [child] at same
      cases same
      obtain rfl : prim = announcer := Option.some.inj (there.symm.trans known)
      rw [takes.unannounced] at announced
      contradiction

private theorem Prim.asks_free {resume : PrimAns .flock → Process PrimStore PrimAns Error Unit}
    (pending : prim.thread.rest = .call ⟨store, .flock⟩ resume)
    (serving : prim.kind.holding = true) : prim.holds = false := by
  have duty := Prim.duty pending
  unfold Prim.holds
  revert duty serving
  generalize prim.thread.past = past
  cases prim.kind with
  | incumbent lock => exact fun _ duty => duty.2.2
  | successor => exact fun impossible => by contradiction

private theorem Handing.successor_unblocked (handing : Handing incumbent spec world)
    (there : world.prims pid = some prim) (alive : prim.alive = true)
    (child : spawned world.sup.thread.past = some pid) (kind : prim.kind = .successor)
    (takes : TakesLock prim.thread.past) : world.flock = none := by
  cases owned : world.flock with
  | none => rfl
  | some holder =>
      obtain ⟨owner, present, living⟩ := handing.disciplined.coherent.owner holder owned
      have holds := (handing.disciplined.coherent.account holder owner present living).mpr owned
      rcases handing.family.member holder owner present with ⟨rfl, serving⟩ | ⟨same, _⟩
      · rw [handing.incumbent_released there alive child takes present serving] at holds
        contradiction
      · rw [child] at same
        cases same
        obtain rfl : prim = owner := Option.some.inj (there.symm.trans present)
        have unheld : prim.kind.holding = false := by
          rw [kind]
          rfl
        rw [Prim.holds, unheld, takes.free] at holds
        contradiction

private theorem Handing.resumed_unblocked (handing : Handing incumbent spec world)
    (there : world.prims pid = some prim) (serves : pid = incumbent) (free : prim.holds = false)
    (read : prim.thread.past.any readsResume = true) : world.flock = none := by
  cases owned : world.flock with
  | none => rfl
  | some holder =>
      obtain ⟨owner, present, living⟩ := handing.disciplined.coherent.owner holder owned
      have holds := (handing.disciplined.coherent.account holder owner present living).mpr owned
      rcases handing.family.member holder owner present with ⟨same, _⟩ | ⟨child, _⟩
      · obtain rfl : pid = holder := serves.trans same.symm
        obtain rfl : prim = owner := Option.some.inj (there.symm.trans present)
        rw [free] at holds
        contradiction
      · have buried := handing.resumed pid prim there read
        rw [handing.dead holder owner present (buried.collected child)] at living
        contradiction

private theorem Handing.blocked_outside (handing : Handing incumbent spec world)
    (there : world.prims pid = some prim) (alive : prim.alive = true)
    {resume : PrimAns .flock → Process PrimStore PrimAns Error Unit}
    (pending : prim.thread.rest = .call ⟨store, .flock⟩ resume) (held : world.flock ≠ none) :
    prim.kind.holding = true ∧ prim.thread.past.any readsResume = false := by
  rcases handing.family.kind handing.clear there with ⟨same, serving⟩ | ⟨child, kind, unreached⟩
  · refine ⟨serving, Bool.eq_false_iff.mpr fun read => held ?_⟩
    exact handing.resumed_unblocked there same (Prim.asks_free pending serving) read
  · exfalso
    rcases (Prim.access pending).first kind with opened | shy | ⟨_, takes⟩
    · rw [unreached] at opened
      contradiction
    · contradiction
    · exact held (handing.successor_unblocked there alive child kind takes)

private theorem opensSession_refused {sockets : Sockets} {answer : PrimAns call.op}
    (empty : sockets.backlog = []) (admitted : world.admitsPrim sockets call.op answer = true) :
    opensSession ⟨call, answer⟩ = false := by
  obtain ⟨store, op⟩ := call
  cases op with
  | accept =>
      cases answer with
      | ok _ =>
          change (!sockets.backlog.isEmpty) = true at admitted
          rw [empty] at admitted
          contradiction
      | error cause => rfl
  | _ => rfl

theorem Handing.step (handing : Handing incumbent spec world) (step : Step world label next)
    (admitted : failsWhenClosed world label next = true) : Handing incumbent spec next := by
  have stays := failsWhenClosed_stays admitted
  have same := Label.stays_call stays
  refine
    { task := (task_kept step same).trans handing.task
      disciplined := handing.disciplined.step step
      family := handing.family.step step same
      clear := handing.clear.step step same ?_
      ready := handing.ready.step step same
      lanes := handing.lanes.step handing.disciplined.orderly handing.task step stays
      reported := handing.reported.step handing.family handing.clear step stays
      dead := handing.dead.step step stays
      begun := handing.begun.step (fun read _ => read.append) step stays ?_
      resumed := handing.resumed.step Buried.append step stays ?_
      waits := handing.waits.step handing.disciplined handing.lanes step admitted }
  · intro pid sockets call answer _ _ empty permitted
    exact opensSession_refused empty permitted
  · exact fun _ _ _ permitted reads => handing.lanes.begin_read permitted reads
  · exact fun _ _ _ permitted reads => handing.lanes.resume_read permitted reads

theorem Unblocked.step (unblocked : Unblocked world) (handing : Handing incumbent spec world)
    (step : Step world label next) : Unblocked next := by
  intro pid prim there before event after split refused
  cases step.origin there with
  | @moved old call resume present alive pending answer admitted =>
      change old.thread.past ++ [(⟨call, answer⟩ : PrimEvent)] = before ++ event :: after at split
      cases after using List.reverseRecOn with
      | nil =>
          obtain ⟨rfl, last⟩ := List.append_inj' split rfl
          cases last
          obtain ⟨store, op⟩ := call
          cases op with
          | flock =>
              cases answer with
              | wouldBlock =>
                  apply handing.blocked_outside present alive pending
                  exact Option.isSome_iff_ne_none.mp admitted
              | _ => contradiction
          | _ => contradiction
      | append_singleton rest last =>
          rw [← List.cons_append, ← List.append_assoc] at split
          obtain ⟨earlier, _⟩ := List.append_inj' split rfl
          exact unblocked pid old present before event rest earlier refused
  | @kept old present => exact unblocked pid old present before event after split refused
  | @died old present => exact unblocked pid old present before event after split refused
  | born =>
      have length := congrArg List.length split
      rw [List.length_append, List.length_cons] at length
      contradiction

end Step

section Opening

variable {incumbent : UInt32} {lock : DataDirLock} {spec : SpawnSpec}

private theorem opening_backed {kind : PrimEvent → Bool} {claim : SupPast → Prop} {task : Task} :
    Backed kind claim (World.opening system incumbent lock task) := by
  intro pid prim there found
  rw [(opening_prim there).2.2.1] at found
  contradiction

private theorem opening_handing : Handing incumbent spec
    (World.opening system incumbent lock (.handoff spec)) where
  task := rfl
  disciplined := opening_disciplined incumbent lock _
  family := (opening_ground incumbent lock spec).family
  clear := fun _ _ child => by contradiction
  ready := (opening_ground incumbent lock spec).ready
  lanes := opening_lanes incumbent lock _
  reported := ⟨fun _ _ there => by contradiction, fun read => by
    obtain ⟨handoffId, found⟩ := read
    contradiction⟩
  dead := fun _ _ _ collected => by
    have child := collected.child
    contradiction
  begun := opening_backed
  resumed := opening_backed
  waits := by
    intro pid prim there _ reported
    rw [(opening_prim there).2.2.1] at reported
    contradiction

private theorem opening_unblocked {task : Task} :
    Unblocked (World.opening system incumbent lock task) := by
  intro pid prim there before event after split
  rw [(opening_prim there).2.2.1] at split
  have length := congrArg List.length split
  rw [List.length_append, List.length_cons] at length
  contradiction

end Opening

/-- One handoff, with every interleaving, time-out, failure and death, in which the
supervisor stays and no session fails before the supervisor closes its stream.  No
`DataDirLock::acquire` of the successor returns `LockHeld`, and none of the
incumbent does after it has read `ResumeAfterAbort`. -/
theorem handoff_finds_lock_free {incumbent : UInt32} {lock : DataDirLock} {spec : SpawnSpec}
    {world : World system}
    (reached : Reaches Step failsWhenClosed (World.opening system incumbent lock (.handoff spec))
      world)
    {pid : UInt32} {prim : Prim system pid} (there : world.prims pid = some prim)
    {before acquiring after : PrimPast} (split : prim.thread.past = before ++ acquiring ++ after)
    {start last : PrimStore} {outcome : Except Error DataDirLock}
    (run : (DataDirLock.acquire (system.host pid) start).Run acquiring (.done (outcome, last)))
    (inside : prim.kind = .successor ∨ before.any readsResume = true) (holderPid : Int) :
    outcome ≠ .error (.lockHeld holderPid) := by
  have unblocked := (reached.invariant (fun now => Handing incumbent spec now ∧ Unblocked now)
    ⟨opening_handing, opening_unblocked⟩ fun _ _ _ held step admitted =>
      ⟨held.1.step step admitted, held.2.step held.1 step⟩).2
  intro same
  subst same
  have refused := (acquire_blocked (system.host pid) start []).ended run
  obtain ⟨event, member, found⟩ := List.any_eq_true.mp (refused rfl)
  obtain ⟨early, late, parts⟩ := List.append_of_mem member
  rw [List.nil_append] at parts
  obtain ⟨serving, unread⟩ := unblocked pid prim there (before ++ early) event (late ++ after)
    (by rw [split, parts]; simp) found
  rcases inside with child | read
  · rw [child] at serving
    contradiction
  · rw [List.any_append, read] at unread
    contradiction

/-- The events are those of one `DataDirLock::acquire`, from its call to its return. -/
def acquiresWhole (host : Host) (events : PrimPast) : Bool :=
  events.head?.any fun first => ((DataDirLock.acquire host first.op.store).replay events).any
    fun rest => rest.result?.isSome

private theorem acquiresWhole_run {host : Host} {events : PrimPast}
    (whole : acquiresWhole host events = true) :
    ∃ start outcome last, (DataDirLock.acquire host start).Run events (.done (outcome, last)) := by
  obtain ⟨first, _, replayed⟩ := (Option.any_eq_true ..).mp whole
  obtain ⟨rest, left, returned⟩ := (Option.any_eq_true ..).mp replayed
  obtain ⟨⟨outcome, last⟩, result⟩ := Option.isSome_iff_exists.mp returned
  have done := Program.eq_done_of_result? result
  subst done
  exact ⟨first.op.store, outcome, last, Program.replay_run left⟩

/-- `count` events of a process, from `index` on, are an `acquire` that does not find
the lock held. -/
def FindsFree (world : World system) (pid : UInt32) (index count : Nat) : Prop :=
  ∃ prim start outcome last, world.prims pid = some prim ∧
    (DataDirLock.acquire (system.host pid) start).Run
      ((prim.thread.past.drop index).take count) (.done (outcome, last)) ∧
    ∀ holderPid, outcome ≠ .error (.lockHeld holderPid)

private theorem split_segment (events : PrimPast) (index count : Nat) :
    events = events.take index ++ (events.drop index).take count ++
      (events.drop index).drop count := by
  rw [List.append_assoc, List.take_append_drop, List.take_append_drop]

/-- The wait for `Ready` runs out with the lock in the hands of the successor.  It is
killed, and the incumbent takes the lock back. -/
theorem handoff_finds_lock_free_twice : ∃ world : World rehearsalSystem,
    Reaches Step failsWhenClosed rehearsalOpening world ∧ FindsFree world 7 3 8 ∧
      FindsFree world 1 18 8 := by
  obtain ⟨world, reached, facts⟩ := rehearsal_reaches
    (untilBegin ++ times 9 (.prim 7) ++ [.sup timedOut] ++ times 3 .sup ++ [.die 7] ++
      times 7 .sup ++ times 12 (.prim 1)) failsWhenClosed
    (fun world =>
      ((world.prims 7).any fun prim => prim.kind == .successor &&
        acquiresWhole (rehearsalSystem.host 7) ((prim.thread.past.drop 3).take 8)) &&
      (world.prims 1).any fun prim => (prim.thread.past.take 18).any readsResume &&
        acquiresWhole (rehearsalSystem.host 1) ((prim.thread.past.drop 18).take 8))
    (by decide +kernel)
  rw [Bool.and_eq_true, Option.any_eq_true, Option.any_eq_true] at facts
  obtain ⟨⟨child, spawned, taken⟩, old, present, retaken⟩ := facts
  rw [Bool.and_eq_true] at taken retaken
  obtain ⟨first, outcome, last, run⟩ := acquiresWhole_run taken.2
  obtain ⟨again, verdict, final, rerun⟩ := acquiresWhole_run retaken.2
  refine ⟨world, reached, ⟨child, first, outcome, last, spawned, run, ?_⟩,
    ⟨old, again, verdict, final, present, rerun, ?_⟩⟩
  · exact handoff_finds_lock_free reached spawned (split_segment _ 3 8) run
      (Or.inl (eq_of_beq taken.1))
  · exact handoff_finds_lock_free reached present (split_segment _ 18 8) rerun (Or.inr retaken.1)

end Handoff
