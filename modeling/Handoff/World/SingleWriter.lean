/-
One writer at a time.

The argument has two halves.  An incumbent that no longer holds the flock was
sealed last, unless it was asked to drain or seal again after a seal.  And it is
never asked to: the supervisor writes neither message behind a `SealRequest`, the
streams keep the order, and what a session reads was written on its stream.
-/

import Handoff.World.Coherence
import Handoff.World.Schedule

namespace Handoff

open Effects

variable {system : System} {world next : World system} {label : Label} {message : Message}
  {event : PrimEvent} {pid : UInt32}

/-! ### What travels on a stream -/

/-- The messages that start or continue the draining of an incumbent. -/
def restarts : Message → Bool
  | .prepareHandoff .. | .sealRequest _ => true
  | _ => false

/-- Nothing behind a `SealRequest` drains or seals again. -/
def Ordered (sent : List Frame) : Prop :=
  sent.Pairwise fun earlier later => isSealRequest earlier.2 = true → restarts later.2 = false

structure Stream.Follows (old new : Stream) : Prop where
  sent : old.sent <+: new.sent
  taken : old.taken ≤ new.taken

theorem Stream.Follows.refl (stream : Stream) : stream.Follows stream :=
  ⟨List.prefix_refl _, Nat.le_refl _⟩

private theorem Stream.Follows.mem_take {old new : Stream} (follows : old.Follows new)
    {frame : Frame} (read : frame ∈ old.sent.take old.taken) : frame ∈ new.sent.take new.taken := by
  obtain ⟨more, grown⟩ := follows.sent
  have further := List.take_subset_take_left old.sent follows.taken read
  rw [← grown, List.take_append]
  exact List.mem_append_left _ further

def Traffic.Grows (traffic : Traffic) : Prop :=
  ∀ stream : Stream, stream.Follows (traffic.change stream)

theorem Traffic.Grows.follows {traffic : Traffic} (grows : traffic.Grows)
    (streams : Nat → Stream) (id : Nat) : (streams id).Follows (traffic.apply streams id) := by
  unfold Traffic.apply
  split
  · exact grows _
  · exact Stream.Follows.refl _

private theorem Sockets.traffic_grows (sockets : Sockets) (event : PrimEvent) :
    (sockets.traffic event).Grows := by
  intro stream
  unfold Sockets.traffic
  split
  · exact ⟨List.prefix_refl _, Nat.le_succ _⟩
  · exact ⟨List.prefix_refl _, Nat.le_succ _⟩
  all_goals exact ⟨List.prefix_refl _, Nat.le_refl _⟩

private theorem Ends.traffic_grows (ends : Ends) (event : SupEvent) :
    (ends.traffic event).Grows := by
  intro stream
  unfold Ends.traffic
  split
  · exact ⟨List.prefix_refl _, Nat.le_refl _⟩
  · exact ⟨List.prefix_refl _, Nat.le_refl _⟩
  · exact ⟨List.prefix_append _ _, Nat.le_refl _⟩
  all_goals exact ⟨List.prefix_refl _, Nat.le_refl _⟩

theorem Step.follows (step : Step world label next) (id : Nat) :
    (world.streams id).Follows (next.streams id) := by
  cases step with
  | prim => exact (Sockets.traffic_grows _ _).follows world.streams id
  | sup => exact (Ends.traffic_grows _ _).follows world.streams id
  | call => exact Stream.Follows.refl _
  | _ =>
      refine Traffic.Grows.follows ?_ world.streams id
      intro stream
      exact ⟨List.prefix_refl _, Nat.le_refl _⟩

private theorem Ends.traffic_sent (ends : Ends) (event : SupEvent) :
    (∀ stream : Stream, ((ends.traffic event).change stream).sent = stream.sent) ∨
      ∃ store peer version message done,
        event = ⟨⟨store, .writeFrame peer version message⟩, .ok done⟩ := by
  unfold Ends.traffic
  split
  · exact Or.inl fun _ => rfl
  · exact Or.inl fun _ => rfl
  · exact Or.inr ⟨_, _, _, _, _, rfl⟩
  · exact Or.inl fun _ => rfl
  · exact Or.inl fun _ => rfl

theorem Step.sent (step : Step world label next) (id : Nat) :
    (next.streams id).sent = (world.streams id).sent ∨
      ∃ store peer version message done,
        label = .sup ⟨⟨store, .writeFrame peer version message⟩, .ok done⟩ ∧
          world.sup.ends.peer peer = some id ∧
          (next.streams id).sent = (world.streams id).sent ++ [(version, message)] := by
  have quiet {traffic : Traffic}
      (same : ∀ stream : Stream, (traffic.change stream).sent = stream.sent) :
      (traffic.apply world.streams id).sent = (world.streams id).sent := by
    unfold Traffic.apply
    split
    · exact same _
    · rfl
  cases step with
  | @prim mover old call resume present alive pending answer admitted =>
      left
      apply quiet
      intro stream
      generalize (⟨call, answer⟩ : PrimEvent) = event
      unfold Sockets.traffic
      split <;> rfl
  | @sup call resume alive pending answer admitted =>
      rcases world.sup.ends.traffic_sent ⟨call, answer⟩ with
        same | ⟨store, peer, version, message, done, writes⟩
      · exact Or.inl (quiet same)
      · cases writes
        by_cases here : id ∈ (world.sup.ends.peer peer).toList
        · refine Or.inr ⟨store, peer, version, message, done, rfl, Option.mem_toList.mp here, ?_⟩
          change (Traffic.apply ⟨_, .send (version, message)⟩ world.streams id).sent = _
          unfold Traffic.apply
          rw [if_pos here]
          rfl
        · left
          change (Traffic.apply ⟨_, .send (version, message)⟩ world.streams id).sent = _
          unfold Traffic.apply
          rw [if_neg here]
  | call => exact Or.inl rfl
  | _ => exact Or.inl (quiet fun stream => rfl)

/-! ### The supervisor's side -/

/-- The streams of the supervisor carry its messages in the order of its contract. -/
structure Orderly (world : World system) : Prop where
  ordered : ∀ id, Ordered (world.streams id).sent
  requested : ∀ id, world.sup.ends.incumbent = some id →
    (world.streams id).sent.any (fun frame => isSealRequest frame.2) = true →
      world.sup.thread.past.any writesSealRequest = true
  unsent : ∀ id, world.opened ≤ id → (world.streams id).sent = []
  bounded : ∀ peer id, world.sup.ends.peer peer = some id → id < world.opened

theorem restarts_duty {past : SupPast} {store : SupStore} {peer : Side} {version : ProtoVersion}
    (again : restarts message = true)
    (duty : SupOpDuty past store (.writeFrame peer version message)) :
    peer = .incumbent ∧ past.any writesSealRequest = false := by
  unfold restarts at again
  split at again
  · cases peer with
    | incumbent => exact ⟨rfl, duty⟩
    | successor => exact duty.elim
  · cases peer with
    | incumbent => exact ⟨rfl, duty.2⟩
    | successor => exact duty.elim
  · contradiction

private theorem Orderly.ordered_step (orderly : Orderly world) (step : Step world label next)
    (id : Nat) : Ordered (next.streams id).sent := by
  rcases step.sent id with same | ⟨store, peer, version, message, done, same, there, grown⟩
  · rw [same]
    exact orderly.ordered id
  · subst same
    rw [grown]
    refine List.pairwise_append.mpr ⟨orderly.ordered id, List.pairwise_singleton _ _, ?_⟩
    intro earlier before later last requested
    rw [List.mem_singleton.mp last]
    cases again : restarts message with
    | false => rfl
    | true =>
        cases step with
        | sup alive pending answer admitted =>
            obtain ⟨rfl, unrequested⟩ := restarts_duty again (Sup.duty pending)
            have found := orderly.requested id there
              (List.any_eq_true.mpr ⟨earlier, before, requested⟩)
            rw [unrequested] at found
            contradiction

theorem Ends.after_peer {ends : Ends} {opened : Nat} {event : SupEvent} {peer : Side} {id : Nat}
    (there : (ends.after opened event).peer peer = some id) :
    ends.peer peer = some id ∨ id = opened ∧ opens event = true := by
  unfold Ends.after at there
  split at there
  · cases peer with
    | incumbent => exact Or.inr ⟨(Option.some.inj there).symm, rfl⟩
    | successor => exact Or.inl there
  · cases peer with
    | incumbent => exact Or.inl there
    | successor => exact Or.inr ⟨(Option.some.inj there).symm, rfl⟩
  · cases peer with
    | incumbent => contradiction
    | successor => exact Or.inl there
  · cases peer with
    | incumbent => exact Or.inl there
    | successor => contradiction
  · exact Or.inl there

theorem Step.opened_le (step : Step world label next) : world.opened ≤ next.opened := by
  cases step with
  | @sup call resume alive pending answer admitted =>
      change world.opened ≤ if opens ⟨call, answer⟩ then world.opened + 1 else world.opened
      split <;> omega
  | _ => exact le_rfl

private theorem Orderly.unsent_step (orderly : Orderly world) (step : Step world label next)
    (id : Nat) (above : next.opened ≤ id) : (next.streams id).sent = [] := by
  have beyond := step.opened_le.trans above
  rcases step.sent id with same | ⟨_, peer, _, _, _, _, there, _⟩
  · rw [same]
    exact orderly.unsent id beyond
  · have below := orderly.bounded peer id there
    omega

private theorem Orderly.bounded_step (orderly : Orderly world) (step : Step world label next)
    (peer : Side) (id : Nat) (there : next.sup.ends.peer peer = some id) : id < next.opened := by
  cases step with
  | @sup call resume alive pending answer admitted =>
      change id < if opens ⟨call, answer⟩ then world.opened + 1 else world.opened
      rcases Ends.after_peer there with old | ⟨rfl, opening⟩
      · have below := orderly.bounded peer id old
        split <;> omega
      · rw [if_pos opening]
        omega
  | call => cases peer <;> contradiction
  | _ => exact orderly.bounded peer id there

private theorem Orderly.requested_step (orderly : Orderly world) (step : Step world label next)
    (id : Nat) (there : next.sup.ends.incumbent = some id)
    (found : (next.streams id).sent.any (fun frame => isSealRequest frame.2) = true) :
    next.sup.thread.past.any writesSealRequest = true := by
  rcases step.sent id with same | ⟨store, peer, version, message, done, same, known, grown⟩
  · rw [same] at found
    cases step with
    | @sup call resume alive pending answer admitted =>
        change (world.sup.thread.past ++ [_]).any writesSealRequest = true
        have there : (world.sup.ends.after world.opened ⟨call, answer⟩).peer .incumbent = some id :=
          there
        rcases Ends.after_peer there with old | ⟨rfl, _⟩
        · rw [List.any_append, orderly.requested id old found, Bool.true_or]
        · rw [orderly.unsent _ (Nat.le_refl _)] at found
          contradiction
    | call => contradiction
    | _ => exact orderly.requested id there found
  · subst same
    rw [grown, List.any_append, Bool.or_eq_true] at found
    cases step with
    | sup alive pending answer admitted =>
        change (world.sup.thread.past ++ [_]).any writesSealRequest = true
        rw [List.any_append, Bool.or_eq_true]
        rcases found with earlier | now
        · have there : (world.sup.ends.after world.opened _).peer .incumbent = some id := there
          rcases Ends.after_peer there with old | ⟨rfl, _⟩
          · exact Or.inl (orderly.requested id old earlier)
          · exact absurd (orderly.bounded peer _ known) (Nat.lt_irrefl _)
        · right
          rw [List.any_cons, List.any_nil, Bool.or_false] at now ⊢
          cases message with
          | sealRequest handoffId =>
              obtain ⟨rfl, _⟩ := restarts_duty rfl (Sup.duty pending)
              rfl
          | _ => contradiction

theorem Orderly.step (orderly : Orderly world) (step : Step world label next) : Orderly next :=
  ⟨orderly.ordered_step step, orderly.requested_step step, orderly.unsent_step step,
    orderly.bounded_step step⟩

/-! ### The incumbent's side -/

def SessionSent (world : World system) {pid : UInt32} (prim : Prim system pid) : Prop :=
  ∀ id, prim.sockets.session = some id → ∀ message ∈ sessionReads prim.thread.past,
    ∃ version, (version, message) ∈ (world.streams id).sent.take (world.streams id).taken

private theorem Sockets.after_session {sockets : Sockets} {id : Nat}
    (there : (sockets.after event).session = some id) :
    sockets.session = some id ∨ event.op.op = .accept := by
  unfold Sockets.after at there
  split at there
  · exact Or.inr rfl
  · contradiction
  all_goals exact Or.inl there

private theorem sessionReads_accept {past : PrimPast} (accept : event.op.op = .accept) :
    sessionReads (past ++ [event]) = [] := by
  obtain ⟨⟨store, op⟩, answer⟩ := event
  cases accept
  rw [sessionReads_append]

private theorem mem_sessionReads_append {past : PrimPast}
    (read : message ∈ sessionReads (past ++ [event])) :
    message ∈ sessionReads past ∨ ∃ store armed version,
      event = ⟨⟨store, .pollRead armed⟩, .frame version message⟩ := by
  rw [sessionReads_append] at read
  split at read
  · contradiction
  · rcases List.mem_append.mp read with before | now
    · exact Or.inl before
    · rw [List.mem_singleton.mp now]
      exact Or.inr ⟨_, _, _, rfl⟩
  · exact Or.inl read

variable {prim : Prim system pid}

theorem SessionSent.follows (sent : SessionSent world prim) (step : Step world label next)
    {id : Nat} (there : prim.sockets.session = some id)
    (read : message ∈ sessionReads prim.thread.past) :
    ∃ version, (version, message) ∈ (next.streams id).sent.take (next.streams id).taken := by
  obtain ⟨version, member⟩ := sent id there message read
  exact ⟨version, (step.follows id).mem_take member⟩

theorem World.admits_frame {sockets : Sockets} {armed : Bool} {version : ProtoVersion}
    (admitted : world.admitsPrim sockets (.pollRead armed) (.frame version message) = true) :
    ∃ id, sockets.session = some id ∧
      (world.streams id).sent[(world.streams id).taken]? = some (version, message) := by
  obtain ⟨id, there, arrived⟩ := (Option.any_eq_true ..).mp admitted
  exact ⟨id, there, eq_of_beq arrived⟩

private theorem Sockets.traffic_frame {sockets : Sockets} {store : PrimStore} {armed : Bool}
    {version : ProtoVersion} {id : Nat} (there : sockets.session = some id)
    (streams : Nat → Stream) :
    (sockets.traffic ⟨⟨store, .pollRead armed⟩, .frame version message⟩).apply streams id =
      (streams id).take := by
  change Traffic.apply ⟨sockets.session.toList, .take⟩ streams id = _
  unfold Traffic.apply
  rw [if_pos (Option.mem_toList.mpr there)]

private theorem Step.streams_prim (step : Step world (.prim pid event) next)
    (there : world.prims pid = some prim) :
    next.streams = (prim.sockets.traffic event).apply world.streams := by
  cases step with
  | prim present alive pending answer admitted =>
      rw [present] at there
      cases there
      rfl

theorem SessionSent.step (all : ∀ pid prim, world.prims pid = some prim → SessionSent world prim)
    (step : Step world label next) (there : next.prims pid = some prim) :
    SessionSent next prim := by
  intro id session message read
  cases step.origin there with
  | @moved old call resume present alive pending answer admitted same =>
      change message ∈ sessionReads (old.thread.past ++ [⟨call, answer⟩]) at read
      rcases Sockets.after_session session with before | accept
      · rcases mem_sessionReads_append read with earlier | ⟨store, armed, version, now⟩
        · exact (all pid _ present).follows step before earlier
        · cases now
          obtain ⟨source, found, arrived⟩ := World.admits_frame admitted
          rw [before] at found
          cases found
          refine ⟨version, ?_⟩
          subst same
          rw [step.streams_prim present, Sockets.traffic_frame before]
          change (version, message) ∈ (world.streams id).sent.take ((world.streams id).taken + 1)
          rw [List.take_add_one, arrived]
          exact List.mem_append_right _ (List.mem_singleton_self _)
      · rw [sessionReads_accept accept] at read
        contradiction
  | kept present => exact (all pid _ present).follows step session read
  | died present => exact (all pid _ present).follows step session read
  | born => contradiction

theorem mem_unread {sent : List Frame} {taken : Nat} {frame : Frame}
    (arrived : sent[taken]? = some frame) : frame ∈ sent.drop taken := by
  apply List.mem_of_getElem? (i := 0)
  rw [List.getElem?_drop]
  exact arrived

theorem Ordered.arriving {sent : List Frame} (ordered : Ordered sent) {taken : Nat}
    {earlier later : Frame} (before : earlier ∈ sent.take taken) (arrived : sent[taken]? = some later)
    (request : isSealRequest earlier.2 = true) : restarts later.2 = false := by
  have split : Ordered (sent.take taken ++ sent.drop taken) := by
    rw [List.take_append_drop]
    exact ordered
  exact (List.pairwise_append.mp split).2.2 earlier before later (mem_unread arrived) request

private theorem sealedRepeat_restarts (again : sealedRepeat event = true) :
    ∃ store version message, event = ⟨⟨store, .pollRead false⟩, .frame version message⟩ ∧
      store.state.sealed = true ∧ restarts message = true := by
  unfold sealedRepeat at again
  split at again
  · rw [Bool.and_eq_true] at again
    exact ⟨_, _, _, rfl, again.1, rfl⟩
  · rw [Bool.and_eq_true] at again
    exact ⟨_, _, _, rfl, again.1, rfl⟩
  · contradiction

/-- A sealed session is not asked to drain or seal again. -/
private theorem Orderly.unrepeated (orderly : Orderly world) (sent : SessionSent world prim)
    {call : Call PrimStore PrimOp}
    {resume : PrimAns call.op → Process PrimStore PrimAns Error Unit}
    (pending : prim.thread.rest = .call call resume) {answer : PrimAns call.op}
    (admitted : world.admitsPrim prim.sockets call.op answer = true) :
    sealedRepeat ⟨call, answer⟩ = false := by
  cases again : sealedRepeat ⟨call, answer⟩ with
  | false => rfl
  | true =>
      obtain ⟨store, version, message, same, sealed, restarting⟩ := sealedRepeat_restarts again
      cases same
      obtain ⟨id, there, arrived⟩ := World.admits_frame admitted
      have duty := ((Prim.duty pending).serving rfl).2.2 sealed
      obtain ⟨request, read, asks⟩ := List.any_eq_true.mp duty
      obtain ⟨spoken, member⟩ := sent id there request read
      rw [(orderly.ordered id).arriving member arrived asks] at restarting
      contradiction

/-! ### Every reachable world -/

def Free (bad : PrimEvent → Bool) (world : World system) : Prop :=
  ∀ pid prim, world.prims pid = some prim → prim.thread.past.any bad = false

def Label.without (bad : PrimEvent → Bool) : Label → Bool
  | .prim _ event => bad event == false
  | _ => true

theorem Free.step {bad : PrimEvent → Bool} (free : Free bad world) (step : Step world label next)
    (without : label.without bad = true) : Free bad next := by
  intro pid prim there
  cases step.origin there with
  | moved present alive pending answer admitted same =>
      subst same
      exact any_append_false (free pid _ present) (eq_of_beq without)
  | @kept old present => exact free pid old present
  | @died old present => exact free pid old present
  | born => rfl

structure Disciplined (world : World system) : Prop where
  coherent : Coherent world
  orderly : Orderly world
  sessions : ∀ pid prim, world.prims pid = some prim → SessionSent world prim
  unrepeated : Free sealedRepeat world

theorem Disciplined.step (disciplined : Disciplined world) (step : Step world label next) :
    Disciplined next := by
  refine ⟨disciplined.coherent.step step, disciplined.orderly.step step,
    fun pid prim there => SessionSent.step disciplined.sessions step there,
    disciplined.unrepeated.step step ?_⟩
  cases step with
  | @prim pid prim call resume present alive pending answer admitted =>
      have once := disciplined.orderly.unrepeated (disciplined.sessions pid prim present)
        pending admitted
      exact beq_iff_eq.mpr once
  | _ => rfl

section Opening

variable {pid other : UInt32} {lock : DataDirLock} {task : Task} {prim : Prim system other}

theorem opening_incumbent : (World.opening system pid lock task).prims pid =
    some { kind := .incumbent lock, thread := .start _, sockets := { listening := true } } := by
  change Function.update (fun _ => none) pid _ pid = _
  rw [Function.update_self]

theorem opening_prim (there : (World.opening system pid lock task).prims other = some prim) :
    other = pid ∧ prim.alive = true ∧ prim.thread.past = [] ∧ prim.kind = .incumbent lock ∧
      prim.sockets = { listening := true } := by
  change Function.update (fun _ => none) pid _ other = some prim at there
  by_cases same : other = pid
  · subst same
    rw [Function.update_self] at there
    cases there
    exact ⟨rfl, rfl, rfl, rfl, rfl⟩
  · rw [Function.update_of_ne same] at there
    contradiction

end Opening

theorem opening_free (bad : PrimEvent → Bool) (pid : UInt32) (lock : DataDirLock) (task : Task) :
    Free bad (World.opening system pid lock task) := by
  intro other prim there
  rw [(opening_prim there).2.2.1]
  rfl

theorem opening_disciplined (pid : UInt32) (lock : DataDirLock) (task : Task) :
    Disciplined (World.opening system pid lock task) := by
  refine ⟨⟨?_, ?_⟩, ⟨?_, ?_, ?_, ?_⟩, ?_, opening_free sealedRepeat pid lock task⟩
  · intro other prim there living
    obtain ⟨rfl, _, fresh, serving, _⟩ := opening_prim there
    refine ⟨fun _ => rfl, fun _ => ?_⟩
    unfold Prim.holds
    rw [fresh, serving]
    rfl
  · intro other held
    cases held
    exact ⟨_, opening_incumbent, rfl⟩
  · intro id
    exact List.Pairwise.nil
  · intro id there
    contradiction
  · intro id _
    rfl
  · intro peer id there
    cases peer <;> contradiction
  · intro other prim there id session
    rw [(opening_prim there).2.2.2.2] at session
    contradiction

private theorem reaches_disciplined {guard : World system → Label → World system → Bool}
    {lock : DataDirLock} {task : Task}
    (reached : Reaches Step guard (World.opening system pid lock task) world) :
    Disciplined world :=
  reached.invariant Disciplined (opening_disciplined pid lock task)
    fun _ _ _ disciplined step _ => disciplined.step step

private theorem reaches_free {bad : PrimEvent → Bool}
    {guard : World system → Label → World system → Bool}
    (refuses : ∀ before label after, guard before label after = true → label.without bad = true)
    {lock : DataDirLock} {task : Task}
    (reached : Reaches Step guard (World.opening system pid lock task) world) : Free bad world :=
  reached.invariant (Free bad) (opening_free bad pid lock task)
    fun _ _ _ free step admitted => free.step step (refuses _ _ _ admitted)

/-! ### One writer -/

/-- The only assumption on a run: no `accept` of an incumbent fails fatally. -/
def noFatalAccept (_ : World system) (label : Label) (_ : World system) : Bool :=
  label.without fatalAccept

def runsHook : PrimOp → Bool
  | .drain _ | .seal | .resumeAfterAbort => true
  | _ => false

private theorem runsHook_needs {op : PrimOp} (hook : runsHook op = true) :
    needsLock op = true ∧ preludeOp op = false := by
  unfold runsHook at hook
  split at hook
  · exact ⟨rfl, rfl⟩
  · exact ⟨rfl, rfl⟩
  · exact ⟨rfl, rfl⟩
  · contradiction

private theorem Disciplined.hook_holds (disciplined : Disciplined world)
    (there : world.prims pid = some prim) (alive : prim.alive = true)
    {call : Call PrimStore PrimOp}
    {resume : PrimAns call.op → Process PrimStore PrimAns Error Unit}
    (pending : prim.thread.rest = .call call resume) (hook : runsHook call.op = true) :
    world.flock = some pid := by
  have duty := (Prim.duty pending).serving (runsHook_needs hook).2
  rcases needsLock_underLock (runsHook_needs hook).1 duty.2 with locked | repeated
  · exact (disciplined.coherent.account pid prim there alive).mp (duty.1.held locked)
  · rw [disciplined.unrepeated pid prim there] at repeated
    contradiction

/-- Whoever holds the flock, every other process that has served is dead, or it
was sealed last and is not inside a hook.  Runs are of any length and contain any
number of handoffs, crashes, restarts, time-outs and failures; the holder may be
a successor that has just returned from `wait_for_begin` and acquired the lock,
or have been serving since. -/
theorem single_writer {pid : UInt32} {lock : DataDirLock} {task : Task} {world : World system}
    (reached : Reaches Step noFatalAccept (World.opening system pid lock task) world)
    {holder other : UInt32} (held : world.flock = some holder) (different : other ≠ holder)
    {prim : Prim system other} (there : world.prims other = some prim)
    (served : servedBy prim.kind prim.thread.past = true) :
    prim.alive = false ∨ lastHook prim.thread.past = some (.seal true) ∧
      ∀ call resume, prim.thread.rest = .call call resume → runsHook call.op = false := by
  have disciplined := reaches_disciplined reached
  cases alive : prim.alive with
  | false => exact Or.inl rfl
  | true =>
      have unowned : world.flock ≠ some other := by
        rw [held]
        exact fun own => different (Option.some.inj own).symm
      refine Or.inr ⟨?_, fun call resume pending => Bool.eq_false_iff.mpr fun hook =>
        unowned (disciplined.hook_holds there alive pending hook)⟩
      rcases Prim.accounted served with holds | sealed | repeated | fatal
      · exact absurd ((disciplined.coherent.account other prim there alive).mp holds) unowned
      · exact sealed
      · rw [disciplined.unrepeated other prim there] at repeated
        contradiction
      · rw [reaches_free (fun _ _ _ admitted => admitted) reached other prim there] at fatal
        contradiction

/-- The successor has read `Begin` and taken the flock. -/
theorem single_writer_begun : ∃ world : World rehearsalSystem,
    Reaches Step noFatalAccept rehearsalOpening world ∧ world.flock = some 7 ∧
      ∃ prim, world.prims 1 = some prim ∧ prim.alive = true ∧
        lastHook prim.thread.past = some (.seal true) := by
  obtain ⟨world, reached, facts⟩ := rehearsal_reaches (untilBegin ++ times 4 (.prim 7))
    noFatalAccept (fun world => world.flock == some 7 && (world.prims 1).any fun prim =>
      prim.alive && servedBy prim.kind prim.thread.past) (by decide +kernel)
  rw [Bool.and_eq_true, Option.any_eq_true] at facts
  obtain ⟨held, prim, there, incumbent⟩ := facts
  rw [Bool.and_eq_true] at incumbent
  refine ⟨world, reached, eq_of_beq held, prim, there, incumbent.1, ?_⟩
  rcases single_writer reached (eq_of_beq held) (by decide) there incumbent.2 with dead | sealed
  · rw [incumbent.1] at dead
    contradiction
  · exact sealed.1

end Handoff
