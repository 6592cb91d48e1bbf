/-
What a successor owns when a handoff is committed.

A bound successor keeps the flock, the path and its listener until a connection
reaches it, and within one call none does.  What a commit says about the
successor therefore depends on whether it was bound when the supervisor read
`Ready`; it announces itself before it binds.
-/

import Handoff.World.Rollback

namespace Handoff

open Effects

variable {system : System} {pid : UInt32} {call : Call PrimStore PrimOp} {world next : World system}
  {label : Label} {past : SupPast} {event : SupEvent}

/-! ### The owner of the control socket -/

section Contracts

variable {host : Host} {kind : Kind} {past : PrimPast} {store : PrimStore} {op : PrimOp}

private theorem PrimDuty.rename_holds (duty : PrimDuty host kind past ⟨store, .renameStaging⟩) :
    flockHeld kind.holding past = true := by
  cases kind with
  | incumbent lock => exact duty.2.elim
  | successor => exact duty.binds rfl

theorem PrimDuty.published (duty : PrimDuty host kind past ⟨store, .setCloexec⟩) :
    kind = .successor ∧ past.getLast?.any renames = true := by
  cases kind with
  | incumbent lock => exact duty.2.elim
  | successor => exact ⟨rfl, SuccDuty.published duty rfl⟩

private theorem PrimDuty.keeps_post (duty : PrimDuty host kind past ⟨store, op⟩)
    (spawned : kind = .successor) (installed : past.any bound = true)
    (unengaged : past.any engaged = false) : keepsPost op = true := by
  subst spawned
  rcases SuccDuty.installed duty installed with engaged | ⟨_, keeps⟩
  · rw [unengaged] at engaged
    contradiction
  · exact keeps

end Contracts

private theorem renames_op {event : PrimEvent} (moved : renames event = true) :
    ∃ store done, event = ⟨⟨store, .renameStaging⟩, .ok done⟩ := by
  unfold renames at moved
  split at moved
  · exact ⟨_, _, rfl⟩
  · contradiction

private theorem bound_op {event : PrimEvent} (installed : bound event = true) :
    ∃ store done, event = ⟨⟨store, .setCloexec⟩, .ok done⟩ := by
  unfold bound at installed
  split at installed
  · exact ⟨_, _, rfl⟩
  · contradiction

private theorem Prim.bound_successor {prim : Prim system pid}
    (installed : prim.thread.past.any bound = true) : prim.kind = .successor := by
  obtain ⟨event, member, binding⟩ := List.any_eq_true.mp installed
  obtain ⟨before, after, split⟩ := List.append_of_mem member
  obtain ⟨store, done, rfl⟩ := bound_op binding
  have duty := prim.thread.run.asked (program_keeps system pid prim.kind) split
  exact (PrimDuty.published duty).1

/-- The process has just renamed its listener, or bound it and accepted nothing. -/
def Claims (past : PrimPast) : Prop :=
  past.getLast?.any renames = true ∨ past.any bound = true ∧ past.any engaged = false

/-- Who claims the control socket owns it, and the flock. -/
def OwnsSocket (world : World system) : Prop :=
  ∀ pid prim, world.prims pid = some prim → prim.alive = true → Claims prim.thread.past →
    world.flock = some pid ∧ world.path = some pid ∧ prim.sockets.listening = true

theorem Claims.earlier {host : Host} {kind : Kind} {past : PrimPast} {answer : PrimAns call.op}
    (claims : Claims (past ++ [⟨call, answer⟩])) (duty : PrimDuty host kind past call)
    (spawned : past.any bound = true → kind = .successor) (still : renames ⟨call, answer⟩ = false) :
    Claims past ∧ keepsPost call.op = true := by
  rcases claims with last | ⟨installed, unengaged⟩
  · rw [List.getLast?_append] at last
    change Option.any renames (some ⟨call, answer⟩) = true at last
    rw [Option.any_some, still] at last
    contradiction
  · have before := any_append_false_left unengaged
    rw [List.any_append, Bool.or_eq_true, List.any_cons, List.any_nil, Bool.or_false] at installed
    rcases installed with earlier | now
    · exact ⟨Or.inr ⟨earlier, before⟩, duty.keeps_post (spawned earlier) earlier before⟩
    · obtain ⟨store, done, same⟩ := bound_op now
      cases same
      exact ⟨Or.inl duty.published.2, rfl⟩

private theorem keepsPost_event (keeps : keepsPost call.op = true) (answer : PrimAns call.op) :
    flockChange? ⟨call, answer⟩ ≠ some false ∧ closesListener ⟨call, answer⟩ = false := by
  obtain ⟨store, op⟩ := call
  cases op with
  | flock => cases answer <;> exact ⟨nofun, rfl⟩
  | releaseFlock => contradiction
  | closeLockFile => contradiction
  | closeListener => contradiction
  | _ => exact ⟨nofun, rfl⟩

private theorem flockAfter_kept {event : PrimEvent} (held : world.flock = some pid)
    (kept : flockChange? event ≠ some false) : world.flockAfter pid event = some pid := by
  unfold World.flockAfter
  cases change : flockChange? event with
  | none => exact held
  | some locks =>
      cases locks with
      | true => rfl
      | false => exact absurd change kept

private theorem Step.path_other (coherent : Coherent world) (step : Step world label next)
    (held : world.flock = some pid) (still : label.mover ≠ some pid) :
    next.path = world.path := by
  cases step with
  | @prim mover prim call resume present alive pending answer admitted =>
      cases moved : renames ⟨call, answer⟩ with
      | false => exact pathAfter_kept moved
      | true =>
          obtain ⟨store, done, same⟩ := renames_op moved
          cases same
          have own := (coherent.account mover prim present alive).mp
            (Prim.duty pending).rename_holds
          exact absurd (own.symm.trans held) still
  | _ => rfl

theorem OwnsSocket.step (owns : OwnsSocket world) (coherent : Coherent world)
    (step : Step world label next) : OwnsSocket next := by
  intro pid prim there living claims
  cases step.origin there with
  | @moved old call resume present alive pending answer admitted same =>
      subst same
      have flock : next.flock = world.flockAfter pid ⟨call, answer⟩ := step.flock
      have path : next.path = world.pathAfter pid ⟨call, answer⟩ := by
        cases step
        rfl
      rw [flock, path]
      cases moved : renames ⟨call, answer⟩ with
      | true =>
          obtain ⟨store, done, same⟩ := renames_op moved
          cases same
          have own := (coherent.account pid old present alive).mp
            (Prim.duty pending).rename_holds
          exact ⟨flockAfter_kept own nofun, rfl, rfl⟩
      | false =>
          obtain ⟨claimed, keeps⟩ := Claims.earlier claims (Prim.duty pending)
            Prim.bound_successor moved
          obtain ⟨unreleased, unclosed⟩ := keepsPost_event keeps answer
          obtain ⟨held, named, listening⟩ := owns pid old present alive claimed
          exact ⟨flockAfter_kept held unreleased, (pathAfter_kept moved).trans named,
            Sockets.after_listening listening unclosed⟩
  | @kept old present still =>
      obtain ⟨held, named, listening⟩ := owns pid old present living claims
      exact ⟨(step.flock_other still).mpr held, (step.path_other coherent held still).trans named,
        listening⟩
  | died => contradiction
  | born =>
      rcases claims with last | ⟨installed, _⟩
      · contradiction
      · contradiction

/-! ### The child of a call -/

theorem spawned_append_some (duty : SupOpDuty past event.op.store event.op.op)
    (child : spawned past = some pid) :
    spawns? event = none ∧ spawned (past ++ [event]) = some pid := by
  have once : spawns? event = none := by
    obtain ⟨⟨store, op⟩, answer⟩ := event
    cases op with
    | spawn command =>
        rw [show spawned past = none from duty.1] at child
        contradiction
    | _ => rfl
  refine ⟨once, ?_⟩
  rw [spawned_append, once, Option.none_or]
  exact child

private theorem connects_childless (duty : SupOpDuty past event.op.store event.op.op)
    (connected : connects event = true) : spawned past = none := by
  unfold connects at connected
  split at connected
  · exact duty
  · contradiction

/-- A step that is no new call leaves the child as it is, or is its spawn. -/
theorem Step.child (step : Step world label next) (same : ∀ task, label ≠ .call task)
    (child : spawned next.sup.thread.past = some pid) :
    spawned world.sup.thread.past = some pid ∨
      spawned world.sup.thread.past = none ∧ ∃ event, label = .sup event ∧
        spawns? event = some pid := by
  cases step with
  | @sup call resume alive pending answer admitted =>
      change spawned (world.sup.thread.past ++ [⟨call, answer⟩]) = some pid at child
      cases known : spawned world.sup.thread.past with
      | some other =>
          rw [(spawned_append_some (Sup.duty pending) known).2] at child
          exact Or.inl child
      | none =>
          rw [spawned_append, known, Option.or_none] at child
          exact Or.inr ⟨rfl, _, rfl, child⟩
  | call idle task => exact absurd rfl (same task)
  | _ => exact Or.inl child

/-- No connection waits for the child, and no event of the kind has happened to it. -/
def ChildWithout (bad : PrimEvent → Bool) (world : World system) : Prop :=
  ∀ pid prim, spawned world.sup.thread.past = some pid → world.prims pid = some prim →
    prim.sockets.backlog = [] ∧ prim.thread.past.any bad = false

private theorem Sockets.after_backlog {sockets : Sockets} {event : PrimEvent}
    (empty : sockets.backlog = []) : (sockets.after event).backlog = [] := by
  unfold Sockets.after
  split
  · change sockets.backlog.tail = []
    rw [empty]
    rfl
  all_goals first | exact empty | rfl

private theorem engaged_refused {sockets : Sockets} {answer : PrimAns call.op}
    (empty : sockets.backlog = []) (admitted : world.admitsPrim sockets call.op answer = true)
    (lasting : fatalAccept ⟨call, answer⟩ = false) : engaged ⟨call, answer⟩ = false := by
  obtain ⟨store, op⟩ := call
  cases op with
  | accept =>
      cases answer with
      | ok _ =>
          change (!sockets.backlog.isEmpty) = true at admitted
          rw [empty] at admitted
          contradiction
      | error cause => exact lasting
  | _ => rfl

theorem ChildWithout.step {bad : PrimEvent → Bool} (clear : ChildWithout bad world)
    (step : Step world label next) (same : ∀ task, label ≠ .call task)
    (never : ∀ pid sockets call answer, label = .prim pid ⟨call, answer⟩ →
      spawned world.sup.thread.past = some pid → sockets.backlog = [] →
      world.admitsPrim sockets call.op answer = true → bad ⟨call, answer⟩ = false) :
    ChildWithout bad next := by
  intro pid prim child there
  cases step.origin there with
  | @moved old call resume present alive pending answer admitted shape =>
      rcases step.child same child with known | ⟨_, event, other, _⟩
      · obtain ⟨empty, unharmed⟩ := clear pid old known present
        refine ⟨Sockets.after_backlog empty, any_append_false unharmed ?_⟩
        exact never pid old.sockets call answer shape known empty admitted
      · rw [shape] at other
        contradiction
  | @kept old present still backlog queue =>
      rcases step.child same child with known | ⟨_, event, rfl, spawning⟩
      · obtain ⟨empty, unharmed⟩ := clear pid old known present
        refine ⟨?_, unharmed⟩
        rcases queue with unchanged | ⟨event, rfl, connected⟩
        · exact unchanged.trans empty
        · cases step with
          | sup alive pending answer admitted =>
              rw [connects_childless (Sup.duty pending) connected] at known
              contradiction
      · cases step with
        | sup alive pending answer admitted =>
            rw [spawn_absent spawning admitted] at present
            contradiction
  | @died old present shape =>
      rcases step.child same child with known | ⟨_, event, other, _⟩
      · exact clear pid old known present
      · rw [shape] at other
        contradiction
  | born => exact ⟨rfl, rfl⟩

theorem ChildWithout.unengaged_step (fresh : ChildWithout engaged world)
    (step : Step world label next) (same : ∀ task, label ≠ .call task)
    (lasting : ∀ pid event, label = .prim pid event → spawned world.sup.thread.past = some pid →
      fatalAccept event = false) : ChildWithout engaged next := by
  apply fresh.step step same
  intro pid sockets call answer shape child empty admitted
  exact engaged_refused empty admitted (lasting pid _ shape child)

/-! ### The decision -/

/-- The call has read `Ready` from its child and has not killed it. -/
structure Decided (past : SupPast) : Prop where
  heard : readyHeard past = true
  child : (spawned past).isSome = true
  spared : past.any kills = false

theorem Decided.append (decided : Decided past) (duty : SupOpDuty past event.op.store event.op.op) :
    Decided (past ++ [event]) := by
  refine ⟨readyHeard_append duty decided.heard, ?_, any_append_false decided.spared ?_⟩
  · obtain ⟨pid, child⟩ := Option.isSome_iff_exists.mp decided.child
    rw [(spawned_append_some duty child).2]
    rfl
  · obtain ⟨⟨store, op⟩, answer⟩ := event
    cases op with
    | kill pid =>
        obtain ⟨handoffId, identity, ready⟩ := readyHeard_iff.mp decided.heard
        exact absurd ready (duty.2 handoffId identity)
    | _ => rfl

def isCommit : Message → Bool
  | .commit _ => true
  | _ => false

/-- Every `Commit` that is still to be read was decided by this call. -/
def CommitsDecided (world : World system) : Prop :=
  ∀ id, ∀ frame ∈ (world.streams id).sent.drop (world.streams id).taken,
    isCommit frame.2 = true → Decided world.sup.thread.past

private theorem commit_duty {store : SupStore} {peer : Side} {version : ProtoVersion}
    {message : Message} (commit : isCommit message = true)
    (duty : SupOpDuty past store (.writeFrame peer version message)) : Decided past := by
  cases message with
  | commit handoffId =>
      cases peer with
      | incumbent =>
          obtain ⟨identity, ready, _, spared, _, child⟩ := duty
          exact ⟨readyHeard_iff.mpr ⟨handoffId, identity, ready⟩, child, spared⟩
      | successor => exact duty.elim
  | _ => contradiction

theorem Decided.step (decided : Decided world.sup.thread.past) (step : Step world label next)
    (same : ∀ task, label ≠ .call task) : Decided next.sup.thread.past :=
  step.keeps same Decided Decided.append decided

theorem CommitsDecided.step (commits : CommitsDecided world) (step : Step world label next)
    (same : ∀ task, label ≠ .call task) : CommitsDecided next := by
  intro id frame unread commit
  have taken := (step.follows id).taken
  have later := List.drop_subset_drop_left (next.streams id).sent taken unread
  rcases step.sent id with unchanged | ⟨store, peer, version, message, done, rfl, there, grown⟩
  · rw [unchanged] at later
    exact (commits id frame later commit).step step same
  · rw [grown, List.drop_append] at later
    rcases List.mem_append.mp later with earlier | now
    · exact (commits id frame earlier commit).step step same
    · have written := List.mem_singleton.mp (List.mem_of_mem_drop now)
      cases step with
      | sup alive pending answer admitted =>
          rw [written] at commit
          exact (commit_duty commit (Sup.duty pending)).append (Sup.duty pending)

private theorem readsCommit_lasting {event : PrimEvent} (reads : readsCommit event = true) :
    fatalAccept event = false := by
  unfold readsCommit at reads
  split at reads
  · rfl
  · contradiction

theorem CommitsDecided.read (commits : CommitsDecided world) {sockets : Sockets}
    {answer : PrimAns call.op} (admitted : world.admitsPrim sockets call.op answer = true)
    (reads : readsCommit ⟨call, answer⟩ = true) : Decided world.sup.thread.past := by
  unfold readsCommit at reads
  split at reads
  · next same =>
      cases same
      obtain ⟨id, there, arrived⟩ := World.admits_frame admitted
      exact commits id _ (mem_unread arrived) rfl
  · contradiction

/-! ### Bound before `Ready` -/

def hearsReady (event : SupEvent) : Bool := (frameFrom .successor event).any isReady

private theorem readyHeard_new (duty : SupOpDuty past event.op.store event.op.op)
    (heard : readyHeard (past ++ [event]) = true) :
    readyHeard past = true ∨ hearsReady event = true := by
  obtain ⟨handoffId, identity, ready⟩ := readyHeard_iff.mp heard
  rcases readyRead_append.mp ready with earlier | ⟨now, _⟩
  · left
    rw [handoffIdOf_append] at identity
    cases fresh : handoffIdOf? event with
    | none =>
        rw [fresh, Option.none_or] at identity
        exact readyHeard_iff.mpr ⟨handoffId, identity, earlier⟩
    | some other =>
        obtain ⟨⟨store, op⟩, answer⟩ := event
        cases op with
        | newHandoffId => exact absurd earlier (not_readyRead duty.2)
        | _ => contradiction
  · right
    unfold readsReady at now
    split at now
    · next found =>
        unfold hearsReady
        rw [found]
        rfl
    · contradiction

private theorem hearsReady_childless (hears : hearsReady event = true) :
    spawns? event = none := by
  obtain ⟨⟨store, op⟩, answer⟩ := event
  cases op with
  | spawn command => contradiction
  | _ => rfl

private theorem readyHeard_childless (duty : SupOpDuty past event.op.store event.op.op)
    (heard : readyHeard past = true) : spawns? event = none := by
  obtain ⟨⟨store, op⟩, answer⟩ := event
  cases op with
  | spawn command =>
      obtain ⟨handoffId, _, ready⟩ := readyHeard_iff.mp heard
      exact absurd ready (not_readyRead duty.2)
  | _ => rfl

/-- The child, as long as it lives, has bound its listener. -/
def ChildBound (world : World system) : Prop :=
  ∀ pid prim, spawned world.sup.thread.past = some pid → world.prims pid = some prim →
    prim.alive = true → prim.thread.past.any bound = true

def World.childBound (world : World system) : Bool :=
  (spawned world.sup.thread.past).all fun pid =>
    (world.prims pid).all fun prim => !prim.alive || prim.thread.past.any bound

private theorem World.childBound_sound (checked : world.childBound = true) :
    ChildBound world := by
  intro pid prim child there alive
  unfold World.childBound at checked
  rw [child, Option.all_some, there, Option.all_some, alive] at checked
  exact checked

theorem ChildBound.step (installed : ChildBound world) (step : Step world label next)
    (same : ∀ task, label ≠ .call task)
    (unspawned : ∀ event, label = .sup event → spawns? event = none) : ChildBound next := by
  intro pid prim child there living
  have known : spawned world.sup.thread.past = some pid := by
    rcases step.child same child with known | ⟨_, event, shape, spawning⟩
    · exact known
    · rw [unspawned event shape] at spawning
      contradiction
  cases step.origin there with
  | @moved old call resume present alive pending answer admitted shape =>
      exact any_append_of_any (installed pid old known present alive) _
  | @kept old present => exact installed pid old known present living
  | died => contradiction
  | born absent shape spawning =>
      rw [unspawned _ shape] at spawning
      contradiction

/-- `Ready` is read when the child is bound, the listener of the child does not
fail for good, and the supervisor takes no further task. -/
def bindsBeforeReady (world : World system) (label : Label) (_ : World system) : Bool :=
  match label with
  | .sup event => !hearsReady event || world.childBound
  | .prim pid event => !fatalAccept event || spawned world.sup.thread.past != some pid
  | .call _ => false
  | _ => true

structure Committing (spec : SpawnSpec) (world : World system) : Prop where
  task : world.sup.task = .handoff spec
  coherent : Coherent world
  owns : OwnsSocket world
  commits : CommitsDecided world
  fresh : ChildWithout engaged world
  bound : readyHeard world.sup.thread.past = true → ChildBound world

theorem Step.heard_new (step : Step world label next) (same : ∀ task, label ≠ .call task)
    (heard : readyHeard next.sup.thread.past = true) :
    (readyHeard world.sup.thread.past = true ∨ ∃ event, label = .sup event ∧
      hearsReady event = true) ∧ ∀ event, label = .sup event → spawns? event = none := by
  cases step with
  | @sup call resume alive pending answer permitted =>
      rcases readyHeard_new (Sup.duty pending) heard with before | now
      · refine ⟨Or.inl before, ?_⟩
        intro event shape
        cases shape
        exact readyHeard_childless (Sup.duty pending) before
      · refine ⟨Or.inr ⟨_, rfl, now⟩, ?_⟩
        intro event shape
        cases shape
        exact hearsReady_childless now
  | call idle task => exact absurd rfl (same task)
  | _ =>
      refine ⟨Or.inl heard, ?_⟩
      intro event shape
      contradiction

private theorem Committing.bound_step {spec : SpawnSpec} (committing : Committing spec world)
    (step : Step world label next) (admitted : bindsBeforeReady world label next = true)
    (heard : readyHeard next.sup.thread.past = true) : ChildBound next := by
  have same : ∀ task, label ≠ .call task := by
    rintro task rfl
    contradiction
  obtain ⟨hearing, unspawned⟩ := step.heard_new same heard
  rcases hearing with before | ⟨event, rfl, now⟩
  · exact (committing.bound before).step step same unspawned
  · change (!hearsReady event || world.childBound) = true at admitted
    rw [now] at admitted
    exact (World.childBound_sound admitted).step step same unspawned

theorem Committing.step {spec : SpawnSpec} (committing : Committing spec world)
    (step : Step world label next) (admitted : bindsBeforeReady world label next = true) :
    Committing spec next := by
  have same : ∀ task, label ≠ .call task := by
    rintro task rfl
    contradiction
  refine ⟨(task_kept step same).trans committing.task, committing.coherent.step step,
    committing.owns.step committing.coherent step, committing.commits.step step same,
    committing.fresh.unengaged_step step same ?_, committing.bound_step step admitted⟩
  rintro pid event rfl child
  change (!fatalAccept event || spawned world.sup.thread.past != some pid) = true at admitted
  cases fatal : fatalAccept event with
  | false => rfl
  | true =>
      rw [fatal, child] at admitted
      simp at admitted

/-! ### A committed handoff -/

/-- The process is dead, or it has the flock and listens behind the path. -/
def World.Installs (world : World system) (pid : UInt32) : Prop :=
  ∀ prim, world.prims pid = some prim → prim.alive = true →
    world.flock = some pid ∧ world.path = some pid ∧ prim.sockets.listening = true

private theorem Committing.installs {spec : SpawnSpec} (committing : Committing spec world)
    (heard : readyHeard world.sup.thread.past = true)
    (child : spawned world.sup.thread.past = some pid) : world.Installs pid := by
  intro prim there alive
  have installed := committing.bound heard pid prim child there alive
  have unengaged := (committing.fresh pid prim child there).2
  exact committing.owns pid prim there alive (Or.inr ⟨installed, unengaged⟩)

def World.Quiet (world : World system) : Prop :=
  ∀ id, ∀ frame ∈ (world.streams id).sent.drop (world.streams id).taken,
    isCommit frame.2 = false

private theorem opening_owns (pid : UInt32) (lock : DataDirLock) (task : Task) :
    OwnsSocket (World.opening system pid lock task) := by
  intro other prim there _ claims
  rw [(opening_prim there).2.2.1] at claims
  rcases claims with last | ⟨installed, _⟩
  · contradiction
  · contradiction

private theorem reaches_owns {guard : World system → Label → World system → Bool}
    {lock : DataDirLock} {task : Task}
    (reached : Reaches Step guard (World.opening system pid lock task) world) :
    Coherent world ∧ OwnsSocket world :=
  reached.invariant (fun now => Coherent now ∧ OwnsSocket now)
    ⟨(opening_disciplined pid lock task).coherent, opening_owns pid lock task⟩
    fun _ _ _ held step _ => ⟨held.1.step step, held.2.step held.1 step⟩

private theorem called_committing {start : World system} (coherent : Coherent start)
    (owns : OwnsSocket start) (quiet : start.Quiet) (spec : SpawnSpec) :
    Committing spec (start.called (.handoff spec)) := by
  refine ⟨rfl, ⟨coherent.account, coherent.owner⟩, owns, ?_, ?_, ?_⟩
  · intro id frame unread commit
    rw [quiet id frame unread] at commit
    contradiction
  · intro pid prim child
    contradiction
  · intro heard
    contradiction

/-- A call that starts from any world that can be reached, with no earlier `Commit`
in flight.  When it returns with `committed`, or when a process reads a `Commit`,
the successor is dead or has the flock and listens behind the path. -/
theorem committed_installed {incumbent : UInt32} {lock : DataDirLock} {task : Task}
    {start world : World system} {spec : SpawnSpec}
    (earlier : Reaches Step (fun _ _ _ => true) (World.opening system incumbent lock task) start)
    (quiet : start.Quiet)
    (reached : Reaches Step bindsBeforeReady (start.called (.handoff spec)) world) :
    (∀ result, world.sup.returned? = some result → result.committed = true →
      ∃ child, result.child = some child ∧ world.Installs child) ∧
    ∀ pid event next, Step world (.prim pid event) next → readsCommit event = true →
      ∃ child, spawned world.sup.thread.past = some child ∧ next.Installs child := by
  obtain ⟨coherent, owns⟩ := reaches_owns earlier
  have committing := reached.invariant (Committing spec)
    (called_committing coherent owns quiet spec)
    fun _ _ _ committing step admitted => committing.step step admitted
  refine ⟨?_, ?_⟩
  · intro result returned committed
    obtain ⟨store, done⟩ := Sup.returned_done returned
    obtain ⟨installed, child, present⟩ := (Sup.ended done).installed committing.task committed
    obtain ⟨pid, same⟩ := Option.isSome_iff_exists.mp present
    have heard : readyHeard world.sup.thread.past = true :=
      readyHeard_iff.mpr ⟨_, installed.identity, installed.ready⟩
    exact ⟨pid, same, committing.installs heard (child.symm.trans same)⟩
  · intro pid event next step reads
    have decided : Decided world.sup.thread.past := by
      cases step with
      | prim there alive pending answer admitted => exact committing.commits.read admitted reads
    have admitted : bindsBeforeReady world (.prim pid event) next = true := by
      change (!fatalAccept event || _) = true
      rw [readsCommit_lasting reads]
      rfl
    obtain ⟨child, known⟩ := Option.isSome_iff_exists.mp decided.child
    have past : next.sup.thread.past = world.sup.thread.past := by
      cases step
      rfl
    refine ⟨child, known, (committing.step step admitted).installs ?_ ?_⟩
    · rw [past]
      exact decided.heard
    · rw [past]
      exact known

/-- The successor binds before the supervisor reads `Ready`. -/
theorem committed_installed_prompt : ∃ world : World rehearsalSystem,
    Reaches Step bindsBeforeReady (rehearsalOpening.called (.handoff rehearsalSpec)) world ∧
      world.sup.returned? = some committedOutcome ∧ world.listener = some 7 ∧
      world.flock = some 7 := by
  obtain ⟨world, reached, facts⟩ := rehearsal_reaches
    (untilBegin ++ times 17 (.prim 7) ++ times 8 .sup ++ times 3 (.prim 1)) bindsBeforeReady
    (fun world => world.sup.returned? == some committedOutcome &&
      (world.prims 7).any fun prim => prim.alive) (by decide +kernel)
  rw [Bool.and_eq_true, Option.any_eq_true] at facts
  obtain ⟨returned, prim, there, alive⟩ := facts
  have quiet : rehearsalOpening.Quiet := by
    intro id frame unread
    contradiction
  have installed := (committed_installed .refl quiet reached).1 _ (eq_of_beq returned) rfl
  obtain ⟨child, same, installs⟩ := installed
  cases same
  obtain ⟨held, path, listening⟩ := installs prim there alive
  exact ⟨world, reached, eq_of_beq returned,
    World.listener_some.mpr ⟨path, prim, there, alive, listening⟩, held⟩

/-- Nobody dies, the supervisor does not crash and takes no further task. -/
def nobodyDies (_ : World system) (label : Label) (_ : World system) : Bool :=
  match label with
  | .die _ | .crash | .call _ => false
  | _ => true

def noSpace : IoError := .ofKind .other "no space left on device"

def bindRefused : (op : PrimOp) → Option (PrimAns op)
  | .bindStaging => some (.error noSpace)
  | _ => none

def Prim.exited {pid : UInt32} (prim : Prim system pid) : Bool :=
  prim.alive && prim.thread.rest.result?.isSome

/-- The successor cannot bind, after the supervisor has committed and the incumbent
has left.  Nobody holds the flock and nobody listens. -/
theorem committed_uninstalled : ∃ world : World rehearsalSystem,
    Reaches Step nobodyDies rehearsalOpening world ∧
      world.sup.returned? = some committedOutcome ∧ world.listener = none ∧ world.flock = none ∧
      (∃ prim, world.prims 1 = some prim ∧ prim.exited = true ∧
        prim.thread.past.any readsCommit = true) ∧
      ∃ prim, world.prims 7 = some prim ∧ prim.exited = true ∧
        prim.thread.past.any bindFailed = true := by
  obtain ⟨world, reached, facts⟩ := rehearsal_reaches
    (untilBegin ++ times 10 (.prim 7) ++ times 8 .sup ++ times 3 (.prim 1) ++ times 3 (.prim 7) ++
      [.prim 7 bindRefused] ++ times 2 (.prim 7)) nobodyDies
    (fun world => world.sup.returned? == some committedOutcome && world.listener == none &&
      world.flock == none &&
      ((world.prims 1).any fun prim => prim.exited && prim.thread.past.any readsCommit) &&
      (world.prims 7).any fun prim => prim.exited && prim.thread.past.any bindFailed)
    (by decide +kernel)
  simp only [Bool.and_eq_true, beq_iff_eq, Option.any_eq_true] at facts
  obtain ⟨⟨⟨⟨returned, unreachable⟩, free⟩, incumbent⟩, successor⟩ := facts
  exact ⟨world, reached, returned, unreachable, free, incumbent, successor⟩

end Handoff
