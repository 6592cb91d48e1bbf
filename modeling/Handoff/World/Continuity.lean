/-
What is left when the supervisor crashes.

One call, in which the supervisor may crash, processes die only when they are
killed, and neither binds nor the files of the lock fail.  A successor that has
announced itself and cannot be killed any more keeps the flock for good.  So the
service survives as long as the incumbent does not give up before that; how long
it waits for the flock has nothing to do with how far the successor is.
-/

import Handoff.World.Takeover

namespace Handoff

open Effects

variable {system : System} {pid incumbent : UInt32} {world next : World system} {label : Label}

/-! ### An announced successor -/

section Contracts

variable {host : Host} {kind : Kind} {past : PrimPast} {store : PrimStore}
  {call : Call PrimStore PrimOp}

theorem PrimDuty.posted (duty : PrimDuty host kind past call) (child : kind = .successor)
    (fits : host.fits) (announced : past.any readyWritten = true)
    (unfailed : past.any bindFailed = false) (unengaged : past.any engaged = false) :
    flockHeld kind.holding past = true := by
  subst child
  have installed (found : past.any bound = true) : flockHeld false past = true := by
    rcases SuccDuty.installed duty found with engaged | ⟨held, _⟩
    · rw [unengaged] at engaged
      contradiction
    · exact held
  rcases SuccDuty.announced duty announced with found | failed | long | ⟨held, _⟩
  · exact installed found
  · rw [unfailed] at failed
    contradiction
  · exact absurd fits long
  · exact held

private theorem PrimEnd.unposted (ended : PrimEnd host kind store past) (child : kind = .successor)
    (fits : host.fits) (announced : past.any readyWritten = true)
    (unfailed : past.any bindFailed = false) : past.any engaged = true := by
  subst child
  rcases SuccEnd.announced ended announced with found | failed | long
  · exact SuccEnd.installed ended found
  · rw [unfailed] at failed
    contradiction
  · exact absurd fits long

theorem PrimDuty.ready {channel : Channel} {version : ProtoVersion} {message : Message}
    (ready : isReady message = true)
    (duty : PrimDuty host kind past ⟨store, .writeFrame channel version message⟩) :
    kind = .successor ∧ channel = .control := by
  cases message with
  | ready handoffId listeningOn healthzOk advertised =>
      cases kind with
      | incumbent lock => exact duty.2.elim
      | successor =>
          cases channel with
          | control => exact ⟨rfl, rfl⟩
          | session => exact (PrimDuty.serving duty rfl).2.elim
  | _ => contradiction

end Contracts

variable {prim : Prim system pid}

theorem Prim.announced_successor (announced : prim.thread.past.any readyWritten = true) :
    prim.kind = .successor := by
  obtain ⟨event, member, ready⟩ := List.any_eq_true.mp announced
  obtain ⟨before, after, split⟩ := List.append_of_mem member
  have duty := prim.thread.run.asked (program_keeps system pid prim.kind) split
  unfold readyWritten at ready
  split at ready
  · exact (PrimDuty.ready rfl duty).1
  · contradiction

/-! ### Frames for the supervisor -/

private theorem Traffic.apply_mem {traffic : Traffic} {streams : Nat → Stream} {id : Nat}
    {frame : Frame} (there : frame ∈ (traffic.apply streams id).replies) :
    frame ∈ (streams id).replies ∨ frame ∈ (traffic.change (streams id)).replies := by
  unfold Traffic.apply at there
  split at there
  · exact Or.inr there
  · exact Or.inl there

private theorem Sockets.traffic_replies (sockets : Sockets) (event : PrimEvent) :
    (∀ stream : Stream, ((sockets.traffic event).change stream).replies = stream.replies) ∨
      ∃ store channel version message done,
        event = ⟨⟨store, .writeFrame channel version message⟩, .ok done⟩ := by
  unfold Sockets.traffic
  split
  · exact Or.inl fun _ => rfl
  · exact Or.inl fun _ => rfl
  · exact Or.inr ⟨_, _, _, _, _, rfl⟩
  · exact Or.inl fun _ => rfl
  · exact Or.inl fun _ => rfl
  · exact Or.inl fun _ => rfl

private theorem Ends.traffic_replies (ends : Ends) (event : SupEvent) (stream : Stream) :
    ((ends.traffic event).change stream).replies = stream.replies := by
  unfold Ends.traffic
  split <;> rfl

theorem Step.replied (step : Step world label next) {id : Nat} {frame : Frame}
    (there : frame ∈ (next.streams id).replies) :
    frame ∈ (world.streams id).replies ∨
      (∃ pid store channel done,
        label = .prim pid ⟨⟨store, .writeFrame channel frame.1 frame.2⟩, .ok done⟩) ∨
      ∃ tsMs, frame.2 = .heartbeat tsMs := by
  cases step with
  | @prim pid prim call resume present alive pending answer admitted =>
      rcases Traffic.apply_mem there with before | now
      · exact Or.inl before
      · rcases prim.sockets.traffic_replies ⟨call, answer⟩ with
          same | ⟨store, channel, version, message, done, writes⟩
        · rw [same] at now
          exact Or.inl now
        · cases writes
          rcases List.mem_append.mp now with before | last
          · exact Or.inl before
          · rw [List.mem_singleton.mp last]
            exact Or.inr (Or.inl ⟨pid, store, channel, done, rfl⟩)
  | sup =>
      rcases Traffic.apply_mem there with before | now
      · exact Or.inl before
      · rw [Ends.traffic_replies] at now
        exact Or.inl now
  | heartbeat present alive pending beating connected supOpen version tsMs =>
      rcases Traffic.apply_mem there with before | now
      · exact Or.inl before
      · rcases List.mem_append.mp now with before | last
        · exact Or.inl before
        · rw [List.mem_singleton.mp last]
          exact Or.inr (Or.inr ⟨tsMs, rfl⟩)
  | call => exact Or.inl there
  | _ =>
      rcases Traffic.apply_mem there with before | now
      · exact Or.inl before
      · exact Or.inl now

def Happened (kind : PrimEvent → Bool) (world : World system) : Prop :=
  ∃ pid prim, world.prims pid = some prim ∧ prim.thread.past.any kind = true

theorem Happened.step {kind : PrimEvent → Bool} (happened : Happened kind world)
    (step : Step world label next) : Happened kind next := by
  obtain ⟨pid, old, present, found⟩ := happened
  obtain ⟨prim, there⟩ := step.persists present
  refine ⟨pid, prim, there, ?_⟩
  cases step.origin there with
  | moved same =>
      rw [present] at same
      cases same
      exact any_append_of_any found _
  | kept same =>
      rw [present] at same
      cases same
      exact found
  | died same =>
      rw [present] at same
      cases same
      exact found
  | born absent =>
      rw [present] at absent
      contradiction

/-- A `Ready` on its way, or read, was written. -/
structure ReadyWritten (world : World system) : Prop where
  sent : ∀ id, ∀ frame ∈ (world.streams id).replies, isReady frame.2 = true →
    Happened readyWritten world
  heard : readyHeard world.sup.thread.past = true → Happened readyWritten world

theorem ReadyWritten.sent_step (written : ReadyWritten world) (step : Step world label next)
    (id : Nat) (frame : Frame) (there : frame ∈ (next.streams id).replies)
    (ready : isReady frame.2 = true) : Happened readyWritten next := by
  rcases step.replied there with before | ⟨pid, store, channel, done, rfl⟩ | ⟨tsMs, beat⟩
  · exact (written.sent id frame before ready).step step
  · cases step with
    | prim present alive pending answer admitted =>
        refine ⟨pid, _, Function.update_self .., any_last ?_⟩
        obtain ⟨_, rfl⟩ := PrimDuty.ready ready (Prim.duty pending)
        obtain ⟨version, message⟩ := frame
        cases message with
        | ready => rfl
        | _ => contradiction
  · rw [beat] at ready
    contradiction

private theorem hearsReady_sent {call : Call SupStore SupOp} {answer : SupAns call.op}
    (hears : hearsReady ⟨call, answer⟩ = true) (admitted : world.admitsSup call.op answer = true) :
    ∃ id, ∃ frame ∈ (world.streams id).replies, isReady frame.2 = true := by
  obtain ⟨message, read, ready⟩ := (Option.any_eq_true ..).mp hears
  unfold frameFrom at read
  split at read
  · next same =>
      cases same
      split at read
      · cases read
        obtain ⟨id, _, arrived⟩ := (Option.any_eq_true ..).mp admitted
        exact ⟨id, _, List.mem_of_getElem? (eq_of_beq arrived), ready⟩
      · contradiction
  · contradiction

theorem ReadyWritten.step (written : ReadyWritten world) (step : Step world label next)
    (same : ∀ task, label ≠ .call task) : ReadyWritten next := by
  refine ⟨written.sent_step step, ?_⟩
  intro heard
  rcases (step.heard_new same heard).1 with before | ⟨event, rfl, now⟩
  · exact (written.heard before).step step
  · cases step with
    | sup alive pending answer admitted =>
        obtain ⟨id, frame, there, ready⟩ := hearsReady_sent now admitted
        exact (written.sent id frame there ready).step (.sup alive pending answer admitted)

/-! ### Who there is, and who may be killed -/

def killsPid (pid : UInt32) (event : SupEvent) : Bool := event.op.op == .kill pid

/-- The incumbent and the child are the only processes, and only the child is killed. -/
structure Family (incumbent : UInt32) (world : World system) : Prop where
  member : ∀ pid prim, world.prims pid = some prim →
    pid = incumbent ∧ prim.kind.holding = true ∨
      spawned world.sup.thread.past = some pid ∧ prim.kind = .successor
  founder : ∃ prim, world.prims incumbent = some prim
  other : spawned world.sup.thread.past ≠ some incumbent
  killed : ∀ pid, world.sup.thread.past.any (killsPid pid) = true →
    spawned world.sup.thread.past = some pid

private theorem killed_append {past : SupPast} {event : SupEvent}
    (duty : SupOpDuty past event.op.store event.op.op)
    (killed : (past ++ [event]).any (killsPid pid) = true) :
    past.any (killsPid pid) = true ∨ spawned past = some pid := by
  rw [List.any_append, Bool.or_eq_true, List.any_cons, List.any_nil, Bool.or_false] at killed
  rcases killed with before | now
  · exact Or.inl before
  · right
    rw [eq_of_beq now] at duty
    exact duty.1

private theorem Step.child_kept (step : Step world label next) (same : ∀ task, label ≠ .call task)
    (child : spawned world.sup.thread.past = some pid) :
    spawned next.sup.thread.past = some pid :=
  step.keeps same (fun past => spawned past = some pid)
    (fun known duty => (spawned_append_some duty known).2) child

private theorem Step.born_child {event : SupEvent} (step : Step world (.sup event) next)
    (spawning : spawns? event = some pid) : spawned next.sup.thread.past = some pid := by
  cases step with
  | sup alive pending answer admitted =>
      change spawned (world.sup.thread.past ++ [_]) = some pid
      rw [spawned_append, spawning]
      rfl

theorem Family.step (family : Family incumbent world) (step : Step world label next)
    (same : ∀ task, label ≠ .call task) : Family incumbent next := by
  obtain ⟨founder, present⟩ := family.founder
  refine ⟨?_, step.persists present, ?_, ?_⟩
  · intro pid prim there
    have kept (old : Prim system pid) (there : world.prims pid = some old) :
        pid = incumbent ∧ old.kind.holding = true ∨
          spawned next.sup.thread.past = some pid ∧ old.kind = .successor :=
      (family.member pid old there).imp_right fun member =>
        ⟨step.child_kept same member.1, member.2⟩
    cases step.origin there with
    | @moved old call resume present => exact kept old present
    | @kept old present => exact kept old present
    | @died old present => exact kept old present
    | born absent shape spawning =>
        subst shape
        exact Or.inr ⟨step.born_child spawning, rfl⟩
  · intro child
    rcases step.child same child with known | ⟨_, event, rfl, spawning⟩
    · exact family.other known
    · cases step with
      | sup alive pending answer admitted =>
          rw [spawn_absent spawning admitted] at present
          contradiction
  · intro pid killed
    cases step with
    | sup alive pending answer admitted =>
        have child : spawned world.sup.thread.past = some pid := by
          rcases killed_append (Sup.duty pending) killed with before | now
          · exact family.killed pid before
          · exact now
        exact (spawned_append_some (Sup.duty pending) child).2
    | call idle task => exact absurd rfl (same task)
    | _ => exact family.killed pid killed

def Prim.returned {pid : UInt32} (prim : Prim system pid) : Bool :=
  prim.thread.rest.result?.isSome

def Prim.running {pid : UInt32} (prim : Prim system pid) : Bool :=
  prim.alive && !prim.returned

theorem Prim.returned_done (returned : prim.returned = true) :
    ∃ result, prim.thread.rest = .done result := by
  obtain ⟨result, done⟩ := Option.isSome_iff_exists.mp returned
  exact ⟨result, Program.eq_done_of_result? done⟩

/-! ### Faults -/

/-- What fails besides the supervisor in no run here. -/
def otherFault (event : PrimEvent) : Bool :=
  fatalAccept event || bindFailed event || lockFault event

/-- Only the supervisor crashes: a process dies when its program has returned or
when it was killed, and a supervisor that crashed is not started again. -/
def supervisorFails (world : World system) (label : Label) (_ : World system) : Bool :=
  match label with
  | .prim _ event => !otherFault event
  | .die pid =>
      (world.prims pid).any Prim.returned || world.sup.thread.past.any (killsPid pid)
  | .call _ => false
  | _ => true

private theorem supervisorFails_call (admitted : supervisorFails world label next = true) :
    ∀ task, label ≠ .call task := by
  rintro task rfl
  contradiction

private theorem supervisorFails_without (admitted : supervisorFails world label next = true) :
    label.without otherFault = true := by
  cases label with
  | prim pid event =>
      change (!otherFault event) = true at admitted
      rw [Bool.not_eq_true'] at admitted
      exact beq_iff_eq.mpr admitted
  | _ => rfl

theorem Free.mono {bad worse : PrimEvent → Bool} (free : Free worse world)
    (weaker : ∀ event, bad event = true → worse event = true) : Free bad world := by
  intro pid prim there
  have unharmed := free pid prim there
  rw [List.any_eq_false] at unharmed ⊢
  exact fun event member found => unharmed event member (weaker event found)

def Deaths (world : World system) : Prop :=
  ∀ pid prim, world.prims pid = some prim → prim.alive = false →
    prim.returned = true ∨ world.sup.thread.past.any (killsPid pid) = true

theorem Step.any_kept (kind : SupEvent → Bool) (step : Step world label next)
    (same : ∀ task, label ≠ .call task) (found : world.sup.thread.past.any kind = true) :
    next.sup.thread.past.any kind = true := by
  apply step.keeps same (fun past => past.any kind = true) _ found
  intro past event earlier _
  rw [List.any_append, earlier, Bool.true_or]

theorem Deaths.step (deaths : Deaths world) (step : Step world label next)
    (admitted : supervisorFails world label next = true) : Deaths next := by
  have same := supervisorFails_call admitted
  intro pid prim there dead
  cases step.origin there with
  | moved present alive =>
      change _ = false at dead
      rw [alive] at dead
      contradiction
  | @kept old present =>
      exact (deaths pid old present dead).imp_right (step.any_kept (killsPid pid) same)
  | @died old present shape =>
      subst shape
      change ((world.prims pid).any Prim.returned || _) = true at admitted
      rw [present, Option.any_some, Bool.or_eq_true] at admitted
      exact admitted.imp_right (step.any_kept (killsPid pid) same)
  | born => contradiction

/-! ### A successor that stays -/

/-- What holds in every run in which only the supervisor fails. -/
structure Ground (incumbent : UInt32) (world : World system) : Prop where
  coherent : Coherent world
  family : Family incumbent world
  faultless : Free otherFault world
  fresh : ChildWithout engaged world
  commits : CommitsDecided world
  read : ∀ pid prim, world.prims pid = some prim → prim.thread.past.any readsCommit = true →
    Decided world.sup.thread.past
  ready : ReadyWritten world
  deaths : Deaths world

private theorem Ground.read_step (ground : Ground incumbent world) (step : Step world label next)
    (same : ∀ task, label ≠ .call task) (pid : UInt32) (prim : Prim system pid)
    (there : next.prims pid = some prim) (found : prim.thread.past.any readsCommit = true) :
    Decided next.sup.thread.past := by
  cases step.origin there with
  | @moved old call resume present alive pending answer admitted =>
      change (old.thread.past ++ [(⟨call, answer⟩ : PrimEvent)]).any readsCommit = true at found
      rw [List.any_append, Bool.or_eq_true, List.any_cons, List.any_nil, Bool.or_false] at found
      rcases found with before | now
      · exact (ground.read pid old present before).step step same
      · exact (ground.commits.read admitted now).step step same
  | @kept old present => exact (ground.read pid old present found).step step same
  | @died old present => exact (ground.read pid old present found).step step same
  | born => contradiction

theorem Ground.step (ground : Ground incumbent world) (step : Step world label next)
    (admitted : supervisorFails world label next = true) : Ground incumbent next := by
  have same := supervisorFails_call admitted
  have without := supervisorFails_without admitted
  refine ⟨ground.coherent.step step, ground.family.step step same,
    ground.faultless.step step without, ground.fresh.unengaged_step step same ?_,
    ground.commits.step step same, ground.read_step step same, ground.ready.step step same,
    ground.deaths.step step admitted⟩
  rintro pid event rfl _
  have faultless : otherFault event = false := eq_of_beq without
  unfold otherFault at faultless
  rw [Bool.or_eq_false_iff, Bool.or_eq_false_iff] at faultless
  exact faultless.1.1

section Announced

variable {incumbent pid : UInt32} {world : World system} {prim : Prim system pid}

theorem Ground.child (ground : Ground incumbent world) (there : world.prims pid = some prim)
    (announced : prim.thread.past.any readyWritten = true) :
    spawned world.sup.thread.past = some pid := by
  rcases ground.family.member pid prim there with ⟨_, holding⟩ | ⟨child, _⟩
  · rw [Prim.announced_successor announced] at holding
    contradiction
  · exact child

theorem Ground.unfailed (ground : Ground incumbent world) (there : world.prims pid = some prim) :
    prim.thread.past.any bindFailed = false := by
  refine ground.faultless.mono ?_ pid prim there
  intro event failed
  unfold otherFault
  rw [failed, Bool.or_true, Bool.true_or]

theorem Ground.unreturned (ground : Ground incumbent world) (fits : (system.host pid).fits)
    (there : world.prims pid = some prim)
    (announced : prim.thread.past.any readyWritten = true) : prim.returned = false := by
  apply Bool.eq_false_iff.mpr
  intro returned
  obtain ⟨result, done⟩ := Prim.returned_done returned
  have engaged := (Prim.ended done).unposted (Prim.announced_successor announced) fits announced
    (ground.unfailed there)
  rw [(ground.fresh pid prim (ground.child there announced) there).2] at engaged
  contradiction

theorem Ground.holds (ground : Ground incumbent world) (fits : (system.host pid).fits)
    (there : world.prims pid = some prim) (alive : prim.alive = true)
    (announced : prim.thread.past.any readyWritten = true) : world.flock = some pid := by
  apply (ground.coherent.account pid prim there alive).mp
  cases state : prim.thread.rest with
  | done result =>
      have unreturned := ground.unreturned fits there announced
      unfold Prim.returned at unreturned
      rw [state] at unreturned
      contradiction
  | call call resume =>
      exact (Prim.duty state).posted (Prim.announced_successor announced) fits announced
        (ground.unfailed there) (ground.fresh pid prim (ground.child there announced) there).2

end Announced

private theorem killsPid_kills {past : SupPast} (killed : past.any (killsPid pid) = true) :
    past.any kills = true := by
  obtain ⟨⟨⟨store, op⟩, answer⟩, member, kill⟩ := List.any_eq_true.mp killed
  refine List.any_eq_true.mpr ⟨_, member, ?_⟩
  cases eq_of_beq kill
  rfl

/-- The supervisor has not killed the child and will not. -/
def Spares (sup : Sup system) : Prop :=
  sup.thread.past.any kills = false ∧ (sup.alive = false ∨ readyHeard sup.thread.past = true)

/-- The child has announced itself and is safe from the supervisor. -/
def Inherited (world : World system) : Prop :=
  ∃ pid prim, spawned world.sup.thread.past = some pid ∧ world.prims pid = some prim ∧
    prim.alive = true ∧ prim.thread.past.any readyWritten = true ∧ Spares world.sup

theorem Spares.step (spares : Spares world.sup)
    (child : (spawned world.sup.thread.past).isSome = true) (step : Step world label next)
    (same : ∀ task, label ≠ .call task) : Spares next.sup := by
  obtain ⟨spared, safe⟩ := spares
  cases step with
  | @sup call resume alive pending answer admitted =>
      rcases safe with crashed | heard
      · rw [alive] at crashed
        contradiction
      · have decided : Decided (world.sup.thread.past ++ [⟨call, answer⟩]) :=
          Decided.append ⟨heard, child, spared⟩ (Sup.duty pending)
        exact ⟨decided.spared, Or.inr decided.heard⟩
  | crash => exact ⟨spared, Or.inl rfl⟩
  | call idle task => exact absurd rfl (same task)
  | _ => exact ⟨spared, safe⟩

theorem Inherited.step (inherited : Inherited world) (ground : Ground incumbent world)
    (fits : ∀ pid, (system.host pid).fits) (step : Step world label next)
    (admitted : supervisorFails world label next = true) : Inherited next := by
  have same := supervisorFails_call admitted
  obtain ⟨pid, old, child, present, alive, announced, spares⟩ := inherited
  obtain ⟨prim, there⟩ := step.persists present
  refine ⟨pid, prim, step.child_kept same child, there, ?_, ?_,
    spares.step (by rw [child]; rfl) step same⟩
  · cases step.origin there with
    | moved _ living => exact living
    | kept known =>
        rw [present] at known
        cases known
        exact alive
    | died known shape =>
        subst shape
        change ((world.prims pid).any Prim.returned || _) = true at admitted
        rw [present, Option.any_some, ground.unreturned (fits pid) present announced,
          Bool.false_or] at admitted
        have killed := killsPid_kills admitted
        rw [spares.1] at killed
        contradiction
    | born => rfl
  · cases step.origin there with
    | moved known =>
        rw [present] at known
        cases known
        exact any_append_of_any announced _
    | kept known =>
        rw [present] at known
        cases known
        exact announced
    | died known =>
        rw [present] at known
        cases known
        exact announced
    | born absent =>
        rw [present] at absent
        contradiction

theorem Ground.inherited (ground : Ground incumbent world) (fits : ∀ pid, (system.host pid).fits)
    (decided : Decided world.sup.thread.past) : Inherited world := by
  obtain ⟨pid, prim, there, announced⟩ := ground.ready.heard decided.heard
  refine ⟨pid, prim, ground.child there announced, there, ?_, announced, decided.spared,
    Or.inr decided.heard⟩
  cases alive : prim.alive with
  | true => rfl
  | false =>
      rcases ground.deaths pid prim there alive with returned | killed
      · rw [ground.unreturned (fits pid) there announced] at returned
        contradiction
      · have killing := killsPid_kills killed
        rw [decided.spared] at killing
        contradiction

/-! ### An incumbent that leaves -/

theorem PrimDuty.leaves {host : Host} {kind : Kind} {past : PrimPast} {store : PrimStore}
    (duty : PrimDuty host kind past ⟨store, .closeListener⟩) (founder : kind.holding = true) :
    Left past := by
  cases kind with
  | incumbent lock => exact duty.2
  | successor => contradiction

private theorem program_closes (system : System) (pid : UInt32) (kind : Kind) :
    Program.Keeps (fun _ _ => True)
      (fun _ now => kind.holding = true → now.any closesListener = true)
      (system.program pid kind) [] := by
  cases kind with
  | incumbent lock =>
      exact Program.Keeps.mono (serve_closes (system.host pid) system.fuel _ [])
        (fun _ _ _ => trivial) (fun _ _ closed _ => closed)
  | successor =>
      exact Program.Keeps.mono (Program.keeps_trivial _ []) (fun _ _ _ => trivial)
        (fun _ _ _ holding => by contradiction)

def Prim.pending? {pid : UInt32} (prim : Prim system pid) : Option PrimOp :=
  match prim.thread.rest with
  | .call call _ => some call.op
  | .done _ => none

private theorem Prim.pending_call {op : PrimOp} (pending : prim.pending? = some op) :
    ∃ store resume, prim.thread.rest = .call ⟨store, op⟩ resume := by
  unfold Prim.pending? at pending
  split at pending
  · next call resume state =>
      cases pending
      exact ⟨call.store, resume, state⟩
  · contradiction

def Leaves {pid : UInt32} (prim : Prim system pid) : Prop :=
  prim.pending? = some .closeListener ∨ prim.thread.past.any closesListener = true

/-- The step is the look at the clock after which `serve` gives up. -/
def gaveUp (label : Label) (next : World system) : Bool :=
  match label with
  | .prim pid event =>
      ticks event && (next.prims pid).any fun prim => prim.pending? == some .closeListener
  | _ => false

/-- Whoever holds the flock has announced itself, and the supervisor has not
killed it and will not. -/
def World.inherited (world : World system) : Bool :=
  world.flock.any fun pid => (world.prims pid).any fun prim =>
    prim.thread.past.any readyWritten && !world.sup.thread.past.any kills &&
      (!world.sup.alive || readyHeard world.sup.thread.past)

/-- Only the supervisor fails, and an incumbent does not give up too early. -/
def givesUpLate (world : World system) (label : Label) (next : World system) : Bool :=
  supervisorFails world label next && (!gaveUp label next || world.inherited)

private theorem Ground.inherited_sound (ground : Ground incumbent world)
    (checked : world.inherited = true) : Inherited world := by
  obtain ⟨pid, held, checked⟩ := (Option.any_eq_true ..).mp checked
  obtain ⟨prim, there, checked⟩ := (Option.any_eq_true ..).mp checked
  rw [Bool.and_eq_true, Bool.and_eq_true, Bool.or_eq_true, Bool.not_eq_true',
    Bool.not_eq_true'] at checked
  obtain ⟨⟨announced, spared⟩, safe⟩ := checked
  obtain ⟨owner, known, alive⟩ := ground.coherent.owner pid held
  rw [there] at known
  cases known
  exact ⟨pid, prim, ground.child there announced, there, alive, announced, spared, safe⟩

theorem Ground.undisturbed (ground : Ground incumbent world) (there : world.prims pid = some prim) :
    prim.thread.past.any fatalAccept = false ∧ prim.thread.past.any lockFault = false := by
  constructor
  · refine ground.faultless.mono ?_ pid prim there
    intro event fatal
    unfold otherFault
    rw [fatal, Bool.true_or, Bool.true_or]
  · refine ground.faultless.mono ?_ pid prim there
    intro event fault
    unfold otherFault
    rw [fault, Bool.or_true]

/-- Why an incumbent leaves: a commit, or the clock. -/
theorem Ground.left {prim : Prim system incumbent} (ground : Ground incumbent world)
    (there : world.prims incumbent = some prim) (pending : prim.pending? = some .closeListener) :
    Decided world.sup.thread.past ∨ prim.thread.past.getLast?.any ticks = true := by
  have founder : prim.kind.holding = true := by
    rcases ground.family.member incumbent prim there with ⟨_, holding⟩ | ⟨child, _⟩
    · exact holding
    · exact absurd child ground.family.other
  obtain ⟨store, resume, state⟩ := Prim.pending_call pending
  rcases (Prim.duty state).leaves founder with read | fatal | fault | ticked
  · exact Or.inl (ground.read incumbent prim there read)
  · rw [(ground.undisturbed there).1] at fatal
    contradiction
  · rw [(ground.undisturbed there).2] at fault
    contradiction
  · exact Or.inr ticked

def Heir (incumbent : UInt32) (world : World system) : Prop :=
  ∀ prim, world.prims incumbent = some prim → Leaves prim → Inherited world

theorem Heir.step (heir : Heir incumbent world) (ground : Ground incumbent world)
    (fits : ∀ pid, (system.host pid).fits) (step : Step world label next)
    (admitted : givesUpLate world label next = true) : Heir incumbent next := by
  unfold givesUpLate at admitted
  rw [Bool.and_eq_true] at admitted
  have grounded := ground.step step admitted.1
  intro prim there leaves
  cases step.origin there with
  | @moved old call resume present alive pending answer permitted shape =>
      rcases leaves with now | closed
      · rcases grounded.left there now with decided | ticked
        · exact grounded.inherited fits decided
        · change (old.thread.past ++ [(⟨call, answer⟩ : PrimEvent)]).getLast?.any ticks = true
            at ticked
          rw [List.getLast?_concat, Option.any_some] at ticked
          have gave : gaveUp label next = true := by
            subst shape
            change (ticks ⟨call, answer⟩ && _) = true
            rw [ticked, there, Option.any_some, now]
            rfl
          rw [gave] at admitted
          exact (ground.inherited_sound admitted.2).step ground fits step admitted.1
      · change (old.thread.past ++ [(⟨call, answer⟩ : PrimEvent)]).any closesListener = true
          at closed
        rw [List.any_append, Bool.or_eq_true, List.any_cons, List.any_nil, Bool.or_false] at closed
        have leaving : Leaves old := by
          rcases closed with before | closing
          · exact Or.inr before
          · left
            unfold Prim.pending?
            rw [pending]
            exact congrArg some (eq_of_beq closing)
        exact (heir old present leaving).step ground fits step admitted.1
  | @kept old present => exact (heir old present leaves).step ground fits step admitted.1
  | @died old present => exact (heir old present leaves).step ground fits step admitted.1
  | born absent =>
      obtain ⟨founder, present⟩ := ground.family.founder
      rw [present] at absent
      contradiction

/-! ### The service survives -/

theorem opening_ground (incumbent : UInt32) (lock : DataDirLock) (spec : SpawnSpec) :
    Ground incumbent (World.opening system incumbent lock (.handoff spec)) := by
  refine ⟨(opening_disciplined incumbent lock _).coherent, ⟨?_, ⟨_, opening_incumbent⟩, nofun, nofun⟩,
    opening_free otherFault incumbent lock _, nofun, nofun, ?_, ⟨nofun, nofun⟩, ?_⟩
  · intro pid prim there
    obtain ⟨same, _, _, kind, _⟩ := opening_prim there
    left
    rw [kind]
    exact ⟨same, rfl⟩
  · intro pid prim there found
    rw [(opening_prim there).2.2.1] at found
    contradiction
  · intro pid prim there dead
    rw [(opening_prim there).2.1] at dead
    contradiction

private theorem opening_heir (incumbent : UInt32) (lock : DataDirLock) (spec : SpawnSpec) :
    Heir incumbent (World.opening system incumbent lock (.handoff spec)) := by
  intro prim there leaves
  have fresh := (opening_prim there).2.2.1
  rcases leaves with pending | closed
  · rcases (opening_ground incumbent lock spec).left there pending with decided | ticked
    · exact absurd decided.heard nofun
    · rw [fresh] at ticked
      contradiction
  · rw [fresh] at closed
    contradiction

private theorem Prim.running_of (alive : prim.alive = true) (unreturned : prim.returned ≠ true) :
    prim.running = true := by
  unfold Prim.running
  rw [alive, Bool.eq_false_iff.mpr unreturned]
  rfl

private theorem Coherent.holder_runs (coherent : Coherent world) (held : world.flock = some pid) :
    ∃ prim, world.prims pid = some prim ∧ prim.running = true := by
  obtain ⟨prim, there, alive⟩ := coherent.owner pid held
  refine ⟨prim, there, Prim.running_of alive ?_⟩
  intro returned
  obtain ⟨result, done⟩ := Prim.returned_done returned
  have holds := (coherent.account pid prim there alive).mpr held
  unfold Prim.holds at holds
  rw [(Prim.ended done).released] at holds
  contradiction

private theorem Heir.incumbent_runs (heir : Heir incumbent world)
    (ground : Ground incumbent world) (fits : ∀ pid, (system.host pid).fits)
    (free : world.flock = none) :
    ∃ prim, world.prims incumbent = some prim ∧ prim.running = true := by
  obtain ⟨prim, there⟩ := ground.family.founder
  have stays : prim.returned ≠ true := by
    intro returned
    obtain ⟨result, done⟩ := Prim.returned_done returned
    have closed : prim.thread.past.any closesListener = true := by
      apply prim.thread.ended (program_closes system incumbent prim.kind) done
      rcases ground.family.member incumbent prim there with ⟨_, holding⟩ | ⟨child, _⟩
      · exact holding
      · exact absurd child ground.family.other
    obtain ⟨pid, child, _, present, alive, announced, _⟩ := heir prim there (Or.inr closed)
    rw [ground.holds (fits pid) present alive announced] at free
    contradiction
  refine ⟨prim, there, Prim.running_of ?_ stays⟩
  cases alive : prim.alive with
  | true => rfl
  | false =>
      rcases ground.deaths incumbent prim there alive with returned | killed
      · exact absurd returned stays
      · exact absurd (ground.family.killed incumbent killed) ground.family.other

/-- At every moment of a run in which only the supervisor fails, some process runs
and holds the flock, or the flock is free and the incumbent runs. -/
theorem service_survives (fits : ∀ pid, (system.host pid).fits) {incumbent : UInt32}
    {lock : DataDirLock} {spec : SpawnSpec} {world : World system}
    (reached : Reaches Step givesUpLate
      (World.opening system incumbent lock (.handoff spec)) world) :
    (∃ pid prim, world.prims pid = some prim ∧ prim.running = true ∧ world.flock = some pid) ∨
      world.flock = none ∧ ∃ prim, world.prims incumbent = some prim ∧ prim.running = true := by
  obtain ⟨ground, heir⟩ := reached.invariant
    (fun now => Ground incumbent now ∧ Heir incumbent now)
    ⟨opening_ground incumbent lock spec, opening_heir incumbent lock spec⟩
    (by
      rintro before label after ⟨ground, heir⟩ step admitted
      have faults := admitted
      unfold givesUpLate at faults
      rw [Bool.and_eq_true] at faults
      exact ⟨ground.step step faults.1, heir.step ground fits step admitted⟩)
  cases held : world.flock with
  | none => exact Or.inr ⟨rfl, heir.incumbent_runs ground fits held⟩
  | some pid =>
      obtain ⟨prim, there, running⟩ := ground.coherent.holder_runs held
      exact Or.inl ⟨pid, prim, there, running, rfl⟩

private theorem rehearsal_fits (pid : UInt32) : (rehearsalSystem.host pid).fits := by
  change rehearsalHost.fits
  constructor <;> decide

def waitedEnough : (op : PrimOp) → Option (PrimAns op)
  | .now => some resumeFlockTimeout
  | _ => none

/-- The supervisor crashes behind `Ready`, and the incumbent gives up. -/
theorem service_survives_announced : ∃ world : World rehearsalSystem,
    Reaches Step givesUpLate rehearsalOpening world ∧ world.sup.alive = false ∧
      (∃ prim, world.prims 1 = some prim ∧ prim.returned = true) ∧
      ∃ pid prim, world.prims pid = some prim ∧ prim.running = true ∧ world.flock = some pid := by
  obtain ⟨world, reached, facts⟩ := rehearsal_reaches
    (untilBegin ++ times 10 (.prim 7) ++ [.crash] ++ times 7 (.prim 1) ++
      [.prim 1 waitedEnough] ++ times 1 (.prim 1)) givesUpLate
    (fun world => !world.sup.alive && world.flock.isSome && (world.prims 1).any Prim.returned)
    (by decide +kernel)
  simp only [Bool.and_eq_true, Bool.not_eq_true', Option.any_eq_true] at facts
  obtain ⟨⟨crashed, held⟩, incumbent⟩ := facts
  refine ⟨world, reached, crashed, incumbent, ?_⟩
  rcases service_survives rehearsal_fits reached with running | ⟨free, _⟩
  · exact running
  · rw [free] at held
    contradiction

/-- Nothing fails but the supervisor, and nobody is killed. -/
def supervisorFailsAlone (_ : World system) (label : Label) (_ : World system) : Bool :=
  match label with
  | .prim _ event =>
      !otherFault event && hook? event != some (.drain false) && hook? event != some (.seal false)
  | .die _ | .call _ => false
  | _ => true

/-- The supervisor crashes behind `Begin`.  The incumbent waits for the flock in
vain and returns; then the successor finds nobody to announce itself to. -/
theorem service_lost : ∃ world : World rehearsalSystem,
    Reaches Step supervisorFailsAlone rehearsalOpening world ∧ world.flock = none ∧
      (∃ prim, world.prims 1 = some prim ∧ prim.exited = true) ∧
      ∃ prim, world.prims 7 = some prim ∧ prim.exited = true := by
  obtain ⟨world, reached, facts⟩ := rehearsal_reaches
    (untilBegin ++ [.crash] ++ times 9 (.prim 7) ++ times 7 (.prim 1) ++
      [.prim 1 waitedEnough] ++ times 1 (.prim 1) ++ times 4 (.prim 7)) supervisorFailsAlone
    (fun world => world.flock == none && (world.prims 1).any Prim.exited &&
      (world.prims 7).any Prim.exited) (by decide +kernel)
  simp only [Bool.and_eq_true, beq_iff_eq, Option.any_eq_true] at facts
  obtain ⟨⟨free, incumbent⟩, successor⟩ := facts
  exact ⟨world, reached, free, incumbent, successor⟩

end Handoff
