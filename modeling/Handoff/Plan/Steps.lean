/-
Every step of a handoff in which nothing fails keeps the stage.

The operations are taken one by one.  Most of them only lengthen a history; the
others are acts, and for these the scene after the step is computed from the
world and compared with what the plan says about the act.
-/

import Handoff.Plan.Stage

namespace Handoff.Plan

open Effects

variable {system : System} {course : Course} {incumbent : UInt32}

/-- The environment does its part: no call of the system fails, nobody dies, the
clock of the supervisor stays inside the budgets and the heartbeats are as few as
the course says. -/
def faultless (course : Course) (world : World system) (label : Label) (_ : World system) : Bool :=
  match label with
  | .sup event =>
      course.smoothSup event && course.onTime (readings (world.sup.thread.past ++ [event]))
  | .prim pid event => smoothPrim (system.host pid).euid event
  | .heartbeat pid _ _ =>
      (world.prims pid).any fun prim => prim.sockets.session.any fun id =>
        decide ((world.streams id).replies.countP isBeat < course.beats)
  | .die _ | .crash | .call _ => false

private theorem spawn_mem_append {past : SupPast} {event : SupEvent}
    (other : supAct? event ≠ some .spawn) :
    .spawn ∈ supActs (past ++ [event]) ↔ .spawn ∈ supActs past := by
  rw [supActs_append, List.mem_append, or_iff_left]
  intro member
  exact other (Option.mem_toList.mp member)

namespace Staged

variable {lock : DataDirLock} {world : World system}

/-! ### The supervisor -/

variable {topic : Topic} {version : ProtoVersion}

section Supervisor

variable {event : SupEvent} {thread : Thread (system.code world.sup.task)}

theorem afterSup (staged : Staged course incumbent lock world)
    (grown : thread.past = world.sup.thread.past ++ [event])
    (other : supAct? event ≠ some .spawn)
    (cast : Cast course incumbent lock (.spawn ∈ supActs world.sup.thread.past)
      (world.primsAfterSup event))
    (joint : Joint course incumbent (euidOf system course incumbent)
      (sceneOf course incumbent (world.afterSup event thread))) :
    Staged course incumbent lock (world.afterSup event thread) where
  joint := joint
  task := staged.task
  alive := staged.alive
  cast := by
    refine cast.congr ?_
    change _ ∈ supActs thread.past ↔ _
    rw [grown]
    exact spawn_mem_append other

private theorem supQuietly (staged : Staged course incumbent lock world) (bounded : course.Bounded)
    (grown : thread.past = world.sup.thread.past ++ [event])
    (smooth : course.smoothSup event = true)
    (onTime : course.onTime (readings (world.sup.thread.past ++ [event])) = true)
    (unseen : supAct? event = none) (unsaid : ∀ lane, supSaid? lane event = none)
    (unheard : ∀ lane, supHeard? lane event = none)
    (prims : world.primsAfterSup event = world.prims)
    (ends : world.sup.ends.after world.opened event = world.sup.ends)
    (traffic : world.sup.ends.traffic event = .none) (closed : opens event = false) :
    Staged course incumbent lock (world.afterSup event thread) := by
  refine staged.afterSup grown (by simp [unseen]) ?_ ?_
  · rw [prims]
    exact staged.cast
  · have joint := staged.joint.supQuiet bounded smooth onTime unseen unsaid unheard
    have scene : sceneOf course incumbent (world.afterSup event thread) =
        { sceneOf course incumbent world with sup := world.sup.thread.past ++ [event] } := by
      simp [sceneOf, World.afterSup, grown, prims, ends, traffic, closed, Traffic.apply, Traffic.none]
    rw [scene]
    exact joint

theorem incumbent_plays (staged : Staged course incumbent lock world) :
    ∃ prim : Prim system incumbent, world.prims incumbent = some prim ∧
      prim.kind = .incumbent lock ∧ prim.alive = true :=
  staged.cast.plays .incumbent fun other => by cases other

theorem listener_incumbent (staged : Staged course incumbent lock world)
    (next : supActs world.sup.thread.past ++ [.connect] <+: supScript) :
    world.listener = some incumbent := by
  have enabled : Wired.Enabled (sceneOf course incumbent world).done .connect :=
    enabled_sup next fun _ needed => by cases needed
  obtain ⟨prim, there, kind, alive⟩ := staged.incumbent_plays
  obtain ⟨named, listening⟩ := staged.joint.wired.reachable enabled
  rw [show (sceneOf course incumbent world).sockets .incumbent = prim.sockets from
    socketsOf_some there] at listening
  change world.path = some incumbent at named
  simp [World.listener, named, there, alive, listening]

private theorem scene_supTalks (lane : Side) {change : Stream → Stream}
    (grown : thread.past = world.sup.thread.past ++ [event])
    (prims : world.primsAfterSup event = world.prims)
    (ends : world.sup.ends.after world.opened event = world.sup.ends)
    (traffic : world.sup.ends.traffic event = ⟨[laneId lane], change⟩) (closed : opens event = false) :
    sceneOf course incumbent (world.afterSup event thread) =
      { sceneOf course incumbent world with
        sup := world.sup.thread.past ++ [event]
        lanes := Function.update (sceneOf course incumbent world).lanes lane
          (change ((sceneOf course incumbent world).lanes lane)) } := by
  simp only [sceneOf, World.afterSup, grown, prims, ends, traffic, closed]
  congr 1
  exact lanes_update lane world.streams change

variable (staged : Staged course incumbent lock world) (viable : Viable system course incumbent)

include staged viable

theorem connects {store : SupStore} {path : String}
    (grown : thread.past = world.sup.thread.past ++ [⟨⟨store, .connect path⟩, .ok ()⟩])
    (onTime : course.onTime
      (readings (world.sup.thread.past ++ [⟨⟨store, .connect path⟩, .ok ()⟩])) = true)
    (next : supActs world.sup.thread.past ++ [.connect] <+: supScript) :
    Staged course incumbent lock (world.afterSup ⟨⟨store, .connect path⟩, .ok ()⟩ thread) := by
  have enabled : Wired.Enabled (sceneOf course incumbent world).done .connect :=
    enabled_sup next fun _ needed => by cases needed
  obtain ⟨prim, there, kind, alive⟩ := staged.incumbent_plays
  have sockets : (sceneOf course incumbent world).sockets .incumbent = prim.sockets :=
    socketsOf_some there
  have listener := staged.listener_incumbent next
  have prims : world.primsAfterSup ⟨⟨store, .connect path⟩, .ok ()⟩ =
      Function.update world.prims incumbent (some { prim with
        sockets := { prim.sockets with backlog := prim.sockets.backlog ++ [world.opened] } }) := by
    simp [World.primsAfterSup, listener, World.enqueue, there]
  refine staged.afterSup grown (fun same => by cases same) ?_ ?_
  · rw [prims]
    exact staged.cast.goesOn viable.distinct .incumbent (fun other => by cases other) kind alive
  · have joint := staged.joint.supPerforms viable.bounded rfl onTime rfl next (fun _ => rfl)
      (fun _ => rfl) (staged.joint.wired.connect enabled)
    have scene : sceneOf course incumbent
        (world.afterSup ⟨⟨store, .connect path⟩, .ok ()⟩ thread) =
        { sceneOf course incumbent world with
          sup := world.sup.thread.past ++ [⟨⟨store, .connect path⟩, .ok ()⟩]
          ends := { world.sup.ends with incumbent := some world.opened }
          opened := world.opened + 1
          sockets := Function.update (sceneOf course incumbent world).sockets .incumbent
            { prim.sockets with backlog := prim.sockets.backlog ++ [world.opened] } } := by
      simp only [sceneOf, World.afterSup, grown, prims]
      congr 1
      · exact pastOf_same viable.distinct .incumbent there rfl
      · exact socketsOf_update viable.distinct .incumbent _
    rw [scene]
    rw [sockets] at joint
    exact joint

theorem pairs {store : SupStore}
    (grown : thread.past = world.sup.thread.past ++ [⟨⟨store, .makeSocketpair⟩, .ok ()⟩])
    (onTime : course.onTime
      (readings (world.sup.thread.past ++ [⟨⟨store, .makeSocketpair⟩, .ok ()⟩])) = true)
    (next : supActs world.sup.thread.past ++ [.pair] <+: supScript) :
    Staged course incumbent lock (world.afterSup ⟨⟨store, .makeSocketpair⟩, .ok ()⟩ thread) := by
  have enabled : Wired.Enabled (sceneOf course incumbent world).done .pair :=
    enabled_sup next fun _ needed => by cases needed
  refine staged.afterSup grown (fun same => by cases same) staged.cast ?_
  have joint := staged.joint.supPerforms viable.bounded rfl onTime rfl next (fun _ => rfl)
    (fun _ => rfl) (staged.joint.wired.pair enabled)
  simp only [sceneOf, World.afterSup, grown]
  exact joint

theorem spawns {store : SupStore} {command : SpawnCommand} (grown : thread.past =
      world.sup.thread.past ++ [⟨⟨store, .spawn command⟩, .ok course.successor⟩])
    (onTime : course.onTime
      (readings (world.sup.thread.past ++ [⟨⟨store, .spawn command⟩, .ok course.successor⟩])) = true)
    (next : supActs world.sup.thread.past ++ [.spawn] <+: supScript) :
    Staged course incumbent lock
      (world.afterSup ⟨⟨store, .spawn command⟩, .ok course.successor⟩ thread) := by
  have enabled : Wired.Enabled (sceneOf course incumbent world).done .spawn :=
    enabled_sup next fun _ needed => by cases needed
  have unborn : world.prims course.successor = none :=
    staged.cast.unborn (later_not_mem_of_next next supScript_nodup (Or.inl rfl))
  have born : .spawn ∈ supActs thread.past := by
    rw [grown, supActs_append]
    exact List.mem_append_right _ (List.mem_singleton_self _)
  have smooth : course.smoothSup ⟨⟨store, .spawn command⟩, .ok course.successor⟩ = true :=
    course.smoothSup_spawn.mpr rfl
  exact {
  joint := by
    have joint := staged.joint.supPerforms viable.bounded smooth onTime rfl next (fun _ => rfl)
      (fun _ => rfl) (staged.joint.wired.spawn enabled)
    have scene : sceneOf course incumbent
        (world.afterSup ⟨⟨store, .spawn command⟩, .ok course.successor⟩ thread) =
        { sceneOf course incumbent world with
          sup := world.sup.thread.past ++ [⟨⟨store, .spawn command⟩, .ok course.successor⟩]
          sockets := Function.update (sceneOf course incumbent world).sockets .successor
            { control := world.sup.ends.successor } } := by
      simp only [sceneOf, World.afterSup, grown]
      congr 1
      · refine (pastOf_update viable.distinct .successor _).trans ?_
        have silent : pastOf world.prims course.successor = [] := by simp [pastOf, unborn]
        refine Eq.trans ?_ (Function.update_eq_self Side.successor _)
        exact congrArg _ silent.symm
      · exact socketsOf_update viable.distinct .successor _
    rw [scene]
    exact joint
  task := staged.task
  alive := staged.alive
  cast := by
    have before : Cast course incumbent lock True (Function.update world.prims course.successor
        (some (World.child system course.successor world.sup.ends.successor))) := {
      plays := fun lane _ => by
        cases lane with
        | incumbent =>
            obtain ⟨prim, there, facts⟩ := staged.cast.plays .incumbent fun other => by cases other
            exact ⟨prim, (Function.update_of_ne viable.distinct.symm ..).trans there, facts⟩
        | successor => exact ⟨_, Function.update_self .., rfl, rfl⟩
      unborn := fun absent => absurd trivial absent
      nobody := fun pid first second => by
        rw [Function.update_of_ne second]
        exact staged.cast.nobody pid first second }
    exact before.congr (iff_true_intro born) }

theorem supSays {store : SupStore} {lane : Side} {message : Message} (grown : thread.past =
      world.sup.thread.past ++ [⟨⟨store, .writeFrame lane version message⟩, .ok ()⟩])
    (onTime : course.onTime (readings
      (world.sup.thread.past ++ [⟨⟨store, .writeFrame lane version message⟩, .ok ()⟩])) = true)
    (told : course.told message = true) (about : topic? message = some topic)
    (next : supActs world.sup.thread.past ++ [.say lane topic] <+: supScript)
    (id : world.sup.ends.peer lane = some (laneId lane)) :
    Staged course incumbent lock
      (world.afterSup ⟨⟨store, .writeFrame lane version message⟩, .ok ()⟩ thread) := by
  refine staged.afterSup grown (by rw [supAct_writes about]; simp) staged.cast ?_
  have joint := staged.joint.supSays viable.bounded onTime told about next
  rw [scene_supTalks lane grown rfl rfl (by rw [Ends.traffic, id]; rfl) rfl]
  exact joint

theorem supHears {store : SupStore} {lane : Side} {message : Message}
    (grown : thread.past = world.sup.thread.past ++ [⟨⟨store, .pollRead lane⟩, .frame version message⟩])
    (onTime : course.onTime (readings
      (world.sup.thread.past ++ [⟨⟨store, .pollRead lane⟩, .frame version message⟩])) = true)
    (waits : supActs world.sup.thread.past ++ [.hear lane topic] <+: supScript)
    (id : world.sup.ends.peer lane = some (laneId lane))
    (found : (world.streams (laneId lane)).toSup = some (version, message)) :
    Staged course incumbent lock
      (world.afterSup ⟨⟨store, .pollRead lane⟩, .frame version message⟩ thread) := by
  have other : supAct? ⟨⟨store, .pollRead lane⟩, .frame version message⟩ ≠ some .spawn := by
    change (topic? message).map (Act.hear lane) ≠ _
    cases topic? message <;> simp
  refine staged.afterSup grown other staged.cast ?_
  have joint := staged.joint.supHears viable.bounded onTime waits found
  rw [scene_supTalks lane grown rfl rfl (by rw [Ends.traffic, id]; rfl) rfl]
  exact joint

theorem supCloses {store : SupStore} {lane : Side}
    (grown : thread.past = world.sup.thread.past ++ [⟨⟨store, .close lane⟩, ()⟩])
    (onTime : course.onTime
      (readings (world.sup.thread.past ++ [⟨⟨store, .close lane⟩, ()⟩])) = true)
    (finished : hangUp lane ∈ supActs world.sup.thread.past) :
    Staged course incumbent lock (world.afterSup ⟨⟨store, .close lane⟩, ()⟩ thread) := by
  refine staged.afterSup grown (fun same => by cases same) staged.cast ?_
  have closed : ∀ other, (world.sup.ends.traffic ⟨⟨store, .close lane⟩, ()⟩).apply world.streams
        (laneId other) = world.streams (laneId other) ∨
      other = lane ∧ (world.sup.ends.traffic ⟨⟨store, .close lane⟩, ()⟩).apply world.streams
        (laneId other) = (world.streams (laneId other)).closeSup := by
    intro other
    cases peer : world.sup.ends.peer lane with
    | none => left; simp [Ends.traffic, peer, Traffic.apply]
    | some id =>
        have same : id = laneId lane := staged.joint.wired.endIds lane id peer
        cases lane <;> cases other <;> simp [Ends.traffic, peer, Traffic.apply, same, laneId]
  have gone : (world.sup.ends.after world.opened ⟨⟨store, .close lane⟩, ()⟩).peer lane = none := by
    cases lane <;> rfl
  have others : ∀ other, other ≠ lane →
      (world.sup.ends.after world.opened ⟨⟨store, .close lane⟩, ()⟩).peer other =
        world.sup.ends.peer other := by
    intro other different
    cases lane <;> cases other <;> first | rfl | contradiction
  have joint := staged.joint.supCloses viable.bounded onTime finished gone others closed
  simp only [sceneOf, World.afterSup, grown]
  exact joint

private theorem supStep {call : Call SupStore SupOp}
    {resume : SupAns call.op → Process SupStore SupAns Halt (Option HandoffOutcome)}
    (next : world.sup.thread.rest = .call call resume) (answer : SupAns call.op)
    (admitted : world.admitsSup call.op answer = true)
    (smooth : course.smoothSup ⟨call, answer⟩ = true)
    (onTime : course.onTime (readings (world.sup.thread.past ++ [⟨call, answer⟩])) = true) :
    Staged course incumbent lock
      (world.afterSup ⟨call, answer⟩ (world.sup.thread.answered next answer)) := by
  have allowed := sup_asked viable staged.task staged.joint.sup next
  obtain ⟨store, op⟩ := call
  cases op with
  | connect path =>
      cases answer with
      | error cause => exact absurd smooth Bool.false_ne_true
      | ok _ => exact staged.connects viable rfl onTime allowed
  | makeSocketpair =>
      cases answer with
      | error cause => exact absurd smooth Bool.false_ne_true
      | ok _ => exact staged.pairs viable rfl onTime allowed
  | spawn command =>
      cases answer with
      | error cause => exact absurd smooth Bool.false_ne_true
      | ok pid =>
          have same : pid = course.successor := course.smoothSup_spawn.mp smooth
          subst same
          exact staged.spawns viable rfl onTime allowed
  | writeFrame lane version message =>
      cases answer with
      | error cause => exact absurd smooth Bool.false_ne_true
      | ok _ =>
          obtain ⟨told, topic, about, planned⟩ := allowed
          obtain ⟨id, peer, _⟩ := (Option.any_eq_true ..).mp admitted
          have same : id = laneId lane := staged.joint.wired.endIds lane id peer
          rw [same] at peer
          exact staged.supSays viable rfl onTime told about planned peer
  | pollRead lane =>
      cases answer with
      | waiting midFrame => exact absurd smooth Bool.false_ne_true
      | failed cause => exact absurd smooth Bool.false_ne_true
      | frame version message =>
          obtain ⟨topic, waits⟩ := allowed
          obtain ⟨id, peer, found⟩ := (Option.any_eq_true ..).mp admitted
          have same : id = laneId lane := staged.joint.wired.endIds lane id peer
          rw [same] at peer found
          exact staged.supHears viable rfl onTime waits peer (eq_of_beq found)
  | close lane =>
      refine staged.supCloses viable rfl onTime ?_
      cases lane <;> exact allowed
  | readMessage _ | journalRead | kill _ | wait _ => exact allowed.elim
  | outOfFuel => exact allowed.elim
  | _ =>
      exact staged.supQuietly viable.bounded rfl smooth onTime rfl (fun _ => rfl) (fun _ => rfl) rfl
        rfl rfl rfl

end Supervisor

/-! ### The primitives -/

section Primitive

variable {lane : Side} {prim : Prim system (lanePid course incumbent lane)} {event : PrimEvent}
  {thread : Thread (system.program (lanePid course incumbent lane) prim.kind)}

private theorem scene_afterPrim (distinct : course.successor ≠ incumbent)
    (there : world.prims (lanePid course incumbent lane) = some prim)
    (grown : thread.past = prim.thread.past ++ [event]) :
    sceneOf course incumbent (world.afterPrim prim event thread) =
      { sceneOf course incumbent world with
        prims := Function.update (sceneOf course incumbent world).prims lane
          ((sceneOf course incumbent world).prims lane ++ [event])
        sockets := Function.update (sceneOf course incumbent world).sockets lane
          (prim.sockets.after event)
        lanes := fun other => (prim.sockets.traffic event).apply world.streams (laneId other)
        flock := world.flockAfter (lanePid course incumbent lane) event
        path := world.pathAfter (lanePid course incumbent lane) event } := by
  simp only [sceneOf, World.afterPrim]
  congr 1
  · rw [pastOf_update distinct, pastOf_some there, grown]
  · exact socketsOf_update distinct lane _

private theorem sockets_kept (there : world.prims (lanePid course incumbent lane) = some prim) :
    Function.update (sceneOf course incumbent world).sockets lane prim.sockets =
      (sceneOf course incumbent world).sockets := by
  rw [← socketsOf_some there]
  exact Function.update_eq_self lane _

private theorem scene_primTalks (distinct : course.successor ≠ incumbent)
    (there : world.prims (lanePid course incumbent lane) = some prim)
    (grown : thread.past = prim.thread.past ++ [event]) {change : Stream → Stream}
    (sockets : prim.sockets.after event = prim.sockets)
    (traffic : prim.sockets.traffic event = ⟨[laneId lane], change⟩)
    (flock : world.flockAfter (lanePid course incumbent lane) event = world.flock)
    (path : world.pathAfter (lanePid course incumbent lane) event = world.path) :
    sceneOf course incumbent (world.afterPrim prim event thread) =
      { sceneOf course incumbent world with
        prims := Function.update (sceneOf course incumbent world).prims lane
          ((sceneOf course incumbent world).prims lane ++ [event])
        lanes := Function.update (sceneOf course incumbent world).lanes lane
          (change ((sceneOf course incumbent world).lanes lane)) } := by
  rw [scene_afterPrim distinct there grown, sockets, sockets_kept there, traffic, flock, path,
    lanes_update]
  rfl

theorem afterPrim (staged : Staged course incumbent lock world)
    (distinct : course.successor ≠ incumbent)
    (here : lane = .successor → .spawn ∈ supActs world.sup.thread.past)
    (there : world.prims (lanePid course incumbent lane) = some prim)
    (joint : Joint course incumbent (euidOf system course incumbent)
      (sceneOf course incumbent (world.afterPrim prim event thread))) :
    Staged course incumbent lock (world.afterPrim prim event thread) where
  joint := joint
  task := staged.task
  alive := staged.alive
  cast := by
    obtain ⟨kind, alive⟩ := staged.cast.kind here there
    exact staged.cast.goesOn distinct lane here kind alive

section Acts

variable (staged : Staged course incumbent lock world) (viable : Viable system course incumbent)
  (here : lane = .successor → .spawn ∈ supActs world.sup.thread.past)
  (there : world.prims (lanePid course incumbent lane) = some prim)
  (grown : thread.past = prim.thread.past ++ [event])
  (smooth : smoothPrim (system.host (lanePid course incumbent lane)).euid event = true)

include staged viable here there grown smooth

private theorem primQuietly (timely : course.timely event = true) (unseen : primAct? event = none)
    (unsaid : primSaid? lane event = none) (unheard : primHeard? lane event = none)
    (sockets : prim.sockets.after event = prim.sockets)
    (traffic : prim.sockets.traffic event = .none)
    (flock : world.flockAfter (lanePid course incumbent lane) event = world.flock)
    (path : world.pathAfter (lanePid course incumbent lane) event = world.path) :
    Staged course incumbent lock (world.afterPrim prim event thread) := by
  refine staged.afterPrim viable.distinct here there ?_
  have joint := staged.joint.primQuiet smooth timely unseen unsaid unheard
  rw [scene_afterPrim viable.distinct there grown, sockets,
    sockets_kept there, traffic, flock, path]
  exact joint

theorem primPerforms (timely : course.timely event = true) {act : Act}
    (performed : primAct? event = some act)
    (next : primActs prim.thread.past ++ [act] <+: laneScript lane)
    (unsaid : primSaid? lane event = none) (unheard : primHeard? lane event = none)
    (traffic : prim.sockets.traffic event = .none)
    (wired : Wired course incumbent (andThen (sceneOf course incumbent world).done act)
      world.sup.ends world.opened
      (Function.update (sceneOf course incumbent world).sockets lane (prim.sockets.after event))
      (world.flockAfter (lanePid course incumbent lane) event)
      (world.pathAfter (lanePid course incumbent lane) event)) :
    Staged course incumbent lock (world.afterPrim prim event thread) := by
  refine staged.afterPrim viable.distinct here there ?_
  rw [← pastOf_some there] at next
  have joint := staged.joint.primPerforms smooth timely performed next unsaid unheard wired
  rw [scene_afterPrim viable.distinct there grown, traffic]
  exact joint

theorem primSays (timely : course.timely event = true) {frame : Frame}
    (said : primSaid? lane event = some frame) (unheard : primHeard? lane event = none)
    (about : frameTopic? frame = some topic) (performed : primAct? event = some (.say lane topic))
    (next : primActs prim.thread.past ++ [.say lane topic] <+: laneScript lane)
    (replied : course.replied lane frame.2 = true)
    (sockets : prim.sockets.after event = prim.sockets)
    (traffic : prim.sockets.traffic event = ⟨[laneId lane], .reply frame⟩)
    (flock : world.flockAfter (lanePid course incumbent lane) event = world.flock)
    (path : world.pathAfter (lanePid course incumbent lane) event = world.path) :
    Staged course incumbent lock (world.afterPrim prim event thread) := by
  refine staged.afterPrim viable.distinct here there ?_
  rw [← pastOf_some there] at next
  have joint := staged.joint.primSays smooth timely said unheard about performed next replied here
  rw [scene_primTalks viable.distinct there grown sockets traffic flock path]
  exact joint

theorem primHears {frame : Frame} (heard : primHeard? lane event = some frame)
    (unsaid : primSaid? lane event = none) (timely : course.timely event = course.told frame.2)
    (performs : primAct? event = (frameTopic? frame).map (.hear lane))
    (waits : primActs prim.thread.past ++ [.hear lane topic] <+: laneScript lane)
    (found : (world.streams (laneId lane)).toPrim = some frame)
    (sockets : prim.sockets.after event = prim.sockets)
    (traffic : prim.sockets.traffic event = ⟨[laneId lane], .take⟩)
    (flock : world.flockAfter (lanePid course incumbent lane) event = world.flock)
    (path : world.pathAfter (lanePid course incumbent lane) event = world.path) :
    Staged course incumbent lock (world.afterPrim prim event thread) := by
  refine staged.afterPrim viable.distinct here there ?_
  rw [← pastOf_some there] at waits
  have joint := staged.joint.primHears smooth heard unsaid timely performs waits found
  rw [scene_primTalks viable.distinct there grown sockets traffic flock path]
  exact joint

theorem primCloses (timely : course.timely event = true) (unseen : primAct? event = none)
    (unsaid : primSaid? lane event = none) (unheard : primHeard? lane event = none)
    (finished : leave lane ∈ primActs prim.thread.past)
    (fewer : ∀ channel id, (prim.sockets.after event).channel channel = some id →
      prim.sockets.channel channel = some id)
    (backlog : (prim.sockets.after event).backlog = prim.sockets.backlog)
    (listening : lane = .successor → (prim.sockets.after event).listening = prim.sockets.listening)
    (change : (prim.sockets.traffic event).change = Stream.closePrim)
    (touched : ∀ other, laneId other ∈ (prim.sockets.traffic event).ids → other = lane)
    (flock : world.flockAfter (lanePid course incumbent lane) event = world.flock)
    (path : world.pathAfter (lanePid course incumbent lane) event = world.path) :
    Staged course incumbent lock (world.afterPrim prim event thread) := by
  refine staged.afterPrim viable.distinct here there ?_
  have closed : ∀ other, (prim.sockets.traffic event).apply world.streams (laneId other) =
        world.streams (laneId other) ∨
      other = lane ∧ (prim.sockets.traffic event).apply world.streams (laneId other) =
        (world.streams (laneId other)).closePrim := by
    intro other
    by_cases member : laneId other ∈ (prim.sockets.traffic event).ids
    · refine Or.inr ⟨touched other member, ?_⟩
      simp [Traffic.apply, member, change]
    · left
      simp [Traffic.apply, member]
  have sockets : (sceneOf course incumbent world).sockets lane = prim.sockets := socketsOf_some there
  rw [← pastOf_some there] at finished
  rw [← sockets] at fewer backlog listening
  have joint := staged.joint.primCloses smooth timely unseen unsaid unheard finished fewer backlog
    listening closed
  rw [sockets] at joint
  rw [scene_afterPrim viable.distinct there grown, flock, path]
  exact joint

end Acts

end Primitive

section Lanes

variable (lane : Side) {prim : Prim system (lanePid course incumbent lane)}

theorem past_eq (there : world.prims (lanePid course incumbent lane) = some prim) :
    (sceneOf course incumbent world).prims lane = prim.thread.past :=
  pastOf_some there

theorem sockets_eq (there : world.prims (lanePid course incumbent lane) = some prim) :
    (sceneOf course incumbent world).sockets lane = prim.sockets :=
  socketsOf_some there

theorem done_eq (there : world.prims (lanePid course incumbent lane) = some prim) :
    (sceneOf course incumbent world).done (laneParty lane) = primActs prim.thread.past := by
  rw [← past_eq lane there]
  exact doneBy_lane _ _ lane

theorem enabled (there : world.prims (lanePid course incumbent lane) = some prim) {act : Act}
    (next : primActs prim.thread.past ++ [act] <+: laneScript lane)
    (ready : ∀ need, act.needs = some need → need ∈ (sceneOf course incumbent world).done need.party) :
    Wired.Enabled (sceneOf course incumbent world).done act := by
  rw [← past_eq lane there] at next
  exact enabled_lane next ready

private theorem channel_id (staged : Staged course incumbent lock world)
    (there : world.prims (lanePid course incumbent lane) = some prim) {channel : Channel} {id : Nat}
    (connected : prim.sockets.channel channel = some id) :
    channelLane channel = lane ∧ id = laneId lane := by
  rw [← sockets_eq lane there] at connected
  exact staged.joint.wired.channelIds lane channel id connected

theorem prim_good (staged : Staged course incumbent lock world)
    (there : world.prims (lanePid course incumbent lane) = some prim) :
    PrimGood course (euidOf system course incumbent lane) (laneScript lane) prim.thread.past := by
  rw [← past_eq lane there]
  exact staged.joint.prims lane

end Lanes

/-! ### The incumbent -/

variable {call : Call PrimStore PrimOp}
  {resume : PrimAns call.op → Process PrimStore PrimAns Error Unit}

section Incumbent

variable {prim : Prim system incumbent} {store : PrimStore}
  {thread : Thread (system.program incumbent prim.kind)}

theorem incumbent_here {born : Prop} : Side.incumbent = .successor → born :=
  fun other => by cases other

variable (staged : Staged course incumbent lock world) (viable : Viable system course incumbent)

include staged viable

theorem accepts (there : world.prims incumbent = some prim)
    (grown : thread.past = prim.thread.past ++ [⟨⟨store, .accept⟩, .ok ()⟩])
    (next : primActs prim.thread.past ++ [.accept] <+: incumbentScript)
    (admitted : prim.sockets.backlog.isEmpty = false) :
    Staged course incumbent lock (world.afterPrim prim ⟨⟨store, .accept⟩, .ok ()⟩ thread) := by
  have sockets : (sceneOf course incumbent world).sockets .incumbent = prim.sockets :=
    sockets_eq .incumbent there
  have connected : Act.connect ∈ supActs world.sup.thread.past := by
    by_contra absent
    have empty := staged.joint.wired.backlog
    rw [sockets, if_neg fun both => absent both.1] at empty
    simp [empty] at admitted
  have ready : Wired.Enabled (sceneOf course incumbent world).done .accept := by
    refine enabled .incumbent there next ?_
    rintro need ⟨⟩
    exact connected
  have wired := staged.joint.wired.accept ready
  rw [sockets] at wired
  exact staged.primPerforms viable incumbent_here there grown rfl rfl rfl next rfl rfl rfl wired

theorem releases (there : world.prims incumbent = some prim)
    (grown : thread.past = prim.thread.past ++ [⟨⟨store, .releaseFlock⟩, ()⟩])
    (next : primActs prim.thread.past ++ [.release] <+: incumbentScript) :
    Staged course incumbent lock (world.afterPrim prim ⟨⟨store, .releaseFlock⟩, ()⟩ thread) := by
  have ready : Wired.Enabled (sceneOf course incumbent world).done .release :=
    enabled .incumbent there next fun need needed => by cases needed
  have held : world.flock = some incumbent := staged.joint.wired.flock_held ready
  have flock : world.flockAfter incumbent ⟨⟨store, .releaseFlock⟩, ()⟩ = none := by
    simp [World.flockAfter, flockChange?, held]
  have kept : Function.update (sceneOf course incumbent world).sockets .incumbent prim.sockets =
      (sceneOf course incumbent world).sockets := sockets_kept there
  refine staged.primPerforms viable incumbent_here there grown rfl rfl rfl next rfl rfl rfl ?_
  change Wired course incumbent _ _ _ (Function.update _ _ prim.sockets)
    (world.flockAfter incumbent ⟨⟨store, .releaseFlock⟩, ()⟩) world.path
  rw [kept, flock]
  exact staged.joint.wired.release ready

private theorem incumbentStep (there : world.prims incumbent = some prim)
    (next : prim.thread.rest = .call call resume) (answer : PrimAns call.op)
    (admitted : world.admitsPrim prim.sockets call.op answer = true)
    (smooth : smoothPrim (system.host incumbent).euid ⟨call, answer⟩ = true) :
    Staged course incumbent lock
      (world.afterPrim prim ⟨call, answer⟩ (prim.thread.answered next answer)) := by
  obtain ⟨kind, alive⟩ := staged.cast.kind incumbent_here there
  have allowed := (incumbent_asked viable kind (staged.prim_good .incumbent there) next).1
  obtain ⟨store, op⟩ := call
  cases op with
  | accept =>
      cases answer with
      | error cause => exact absurd smooth Bool.false_ne_true
      | ok _ =>
          exact staged.accepts viable there rfl allowed (by simpa [World.admitsPrim] using admitted)
  | pollRead armed =>
      cases answer with
      | waiting midFrame => exact absurd smooth Bool.false_ne_true
      | failed cause => exact absurd smooth Bool.false_ne_true
      | frame version message =>
          obtain ⟨topic, waits⟩ := allowed
          obtain ⟨id, session, found⟩ := (Option.any_eq_true ..).mp admitted
          obtain ⟨_, rfl⟩ : channelLane .session = .incumbent ∧ id = laneId .incumbent :=
            staged.channel_id .incumbent there session
          exact staged.primHears viable incumbent_here there rfl smooth rfl rfl rfl rfl waits
            (eq_of_beq found) rfl (by simp [Sockets.traffic, session]) rfl rfl
  | writeFrame channel version message =>
      cases channel with
      | control => exact allowed.elim
      | session =>
          cases answer with
          | error cause => exact absurd smooth Bool.false_ne_true
          | ok _ =>
              obtain ⟨replied, topic, about, planned⟩ := allowed
              obtain ⟨id, session, _⟩ := (Option.any_eq_true ..).mp admitted
              obtain ⟨_, rfl⟩ := staged.channel_id .incumbent there session
              exact staged.primSays viable incumbent_here there rfl smooth rfl rfl rfl about
                (primAct_writes about) planned replied rfl
                (by simp [Sockets.traffic, session]) rfl rfl
  | releaseFlock => exact staged.releases viable there rfl allowed
  | close channel =>
      cases channel with
      | control => exact allowed.elim
      | session =>
          refine staged.primCloses viable incumbent_here there rfl smooth rfl rfl rfl rfl allowed
            ?_ rfl (fun _ => rfl) rfl ?_ rfl rfl
          · intro channel id still
            cases channel with
            | session => cases still
            | control => exact still
          · intro other member
            obtain connected := Option.mem_toList.mp member
            have same := (staged.channel_id .incumbent there connected).2
            cases other with
            | incumbent => rfl
            | successor => cases same
  | closeListener =>
      have performed : (sceneOf course incumbent world).done .incumbent =
          primActs prim.thread.past := done_eq .incumbent there
      have empty : prim.sockets.backlog = [] := by
        rw [← sockets_eq .incumbent there]
        refine staged.joint.wired.no_backlog ?_
        change _ ∈ (sceneOf course incumbent world).done .incumbent
        rw [performed]
        exact allowed
      refine staged.primCloses viable incumbent_here there rfl smooth rfl rfl rfl rfl allowed
        (fun channel id still => ?_) ?_ (fun other => by cases other) rfl ?_ rfl rfl
      · cases channel <;> exact still
      · exact empty.symm
      · intro other member
        simp [Sockets.traffic, empty] at member
  | readMessage | flock | closeLockFile | renameStaging | outOfFuel => exact allowed.elim
  | _ =>
      exact staged.primQuietly viable incumbent_here there rfl smooth rfl rfl rfl rfl rfl rfl rfl rfl

end Incumbent

/-! ### The successor -/

section Successor

variable {prim : Prim system course.successor} {store : PrimStore}
  {thread : Thread (system.program course.successor prim.kind)}

theorem successor_here {born : Prop} (here : born) : Side.successor = .successor → born :=
  fun _ => here

theorem flock_free (staged : Staged course incumbent lock world)
    (there : world.prims course.successor = some prim)
    (next : primActs prim.thread.past ++ [.lock] <+: successorScript) : world.flock = none := by
  refine staged.joint.wired.flock_free ?_
  change (sceneOf course incumbent world).done (laneParty .successor) ++ _ <+: _
  rw [done_eq .successor there]
  exact next

variable (staged : Staged course incumbent lock world) (viable : Viable system course incumbent)

include staged viable

theorem locks (here : .spawn ∈ supActs world.sup.thread.past)
    (there : world.prims course.successor = some prim)
    (grown : thread.past = prim.thread.past ++ [⟨⟨store, .flock⟩, .locked⟩])
    (next : primActs prim.thread.past ++ [.lock] <+: successorScript) :
    Staged course incumbent lock (world.afterPrim prim ⟨⟨store, .flock⟩, .locked⟩ thread) := by
  have ready : Wired.Enabled (sceneOf course incumbent world).done .lock :=
    enabled .successor there next fun need needed => by cases needed
  have kept : Function.update (sceneOf course incumbent world).sockets .successor prim.sockets =
      (sceneOf course incumbent world).sockets := sockets_kept there
  refine staged.primPerforms viable (successor_here here) there grown rfl rfl rfl next rfl rfl rfl ?_
  change Wired course incumbent _ _ _ (Function.update _ _ prim.sockets) (some course.successor)
    world.path
  rw [kept]
  exact staged.joint.wired.lock ready

theorem publishes (here : .spawn ∈ supActs world.sup.thread.past)
    (there : world.prims course.successor = some prim)
    (grown : thread.past = prim.thread.past ++ [⟨⟨store, .renameStaging⟩, .ok ()⟩])
    (next : primActs prim.thread.past ++ [.publish] <+: successorScript) :
    Staged course incumbent lock
      (world.afterPrim prim ⟨⟨store, .renameStaging⟩, .ok ()⟩ thread) := by
  have ready : Wired.Enabled (sceneOf course incumbent world).done .publish :=
    enabled .successor there next fun need needed => by cases needed
  have sockets : (sceneOf course incumbent world).sockets .successor = prim.sockets :=
    sockets_eq .successor there
  have wired := staged.joint.wired.publish ready
  rw [sockets] at wired
  exact staged.primPerforms viable (successor_here here) there grown rfl rfl rfl next rfl rfl rfl wired

private theorem successorStep (here : .spawn ∈ supActs world.sup.thread.past)
    (there : world.prims course.successor = some prim)
    (next : prim.thread.rest = .call call resume) (answer : PrimAns call.op)
    (admitted : world.admitsPrim prim.sockets call.op answer = true)
    (smooth : smoothPrim (system.host course.successor).euid ⟨call, answer⟩ = true) :
    Staged course incumbent lock
      (world.afterPrim prim ⟨call, answer⟩ (prim.thread.answered next answer)) := by
  have born := successor_here here
  obtain ⟨kind, alive⟩ := staged.cast.kind born there
  have allowed := (successor_asked viable kind (staged.prim_good .successor there) next).1
  obtain ⟨store, op⟩ := call
  cases op with
  | accept =>
      -- nobody comes to the successor while the handoff is under way
      have empty := staged.joint.wired.unvisited
      rw [show (sceneOf course incumbent world).sockets .successor = prim.sockets from
        sockets_eq .successor there] at empty
      cases answer with
      | error cause => exact absurd smooth Bool.false_ne_true
      | ok _ => exact absurd admitted (by simp [World.admitsPrim, empty])
  | readMessage =>
      cases answer with
      | error cause => exact absurd smooth Bool.false_ne_true
      | ok frame =>
          obtain ⟨topic, waits⟩ := allowed
          obtain ⟨id, control, found⟩ := (Option.any_eq_true ..).mp admitted
          obtain ⟨_, rfl⟩ : channelLane .control = .successor ∧ id = laneId .successor :=
            staged.channel_id .successor there control
          exact staged.primHears viable born there rfl smooth rfl rfl rfl rfl waits
            (eq_of_beq found) rfl (by simp [Sockets.traffic, control]) rfl rfl
  | writeFrame channel version message =>
      cases channel with
      | session => exact allowed.elim
      | control =>
          cases answer with
          | error cause => exact absurd smooth Bool.false_ne_true
          | ok _ =>
              obtain ⟨replied, topic, about, planned⟩ := allowed
              obtain ⟨id, control, _⟩ := (Option.any_eq_true ..).mp admitted
              obtain ⟨_, rfl⟩ := staged.channel_id .successor there control
              exact staged.primSays viable born there rfl smooth rfl rfl rfl about
                (primAct_writes about) planned replied rfl
                (by simp [Sockets.traffic, control]) rfl rfl
  | flock =>
      have unlocked := staged.flock_free there allowed
      cases answer with
      | failed _ _ => exact absurd smooth Bool.false_ne_true
      | wouldBlock => exact absurd admitted (by simp [World.admitsPrim, unlocked])
      | locked => exact staged.locks viable here there rfl allowed
  | renameStaging =>
      cases answer with
      | error cause => exact absurd smooth Bool.false_ne_true
      | ok _ => exact staged.publishes viable here there rfl allowed
  | close channel =>
      cases channel with
      | session => exact allowed.elim
      | control =>
          refine staged.primCloses viable born there rfl smooth rfl rfl rfl rfl allowed
            ?_ rfl (fun _ => rfl) rfl ?_ rfl rfl
          · intro channel id still
            cases channel with
            | control => cases still
            | session => exact still
          · intro other member
            obtain connected := Option.mem_toList.mp member
            have same := (staged.channel_id .successor there connected).2
            cases other with
            | incumbent => cases same
            | successor => rfl
  | pollRead _ | closeListener | releaseFlock | closeLockFile | outOfFuel => exact allowed.elim
  | _ =>
      exact staged.primQuietly viable born there rfl smooth rfl rfl rfl rfl rfl rfl rfl rfl

end Successor

/-! ### Any of them -/

theorem heartbeat (staged : Staged course incumbent lock world)
    (viable : Viable system course incumbent) {pid : UInt32} {prim : Prim system pid}
    {session : Nat} (there : world.prims pid = some prim)
    (next : prim.thread.rest = .call call resume) (beating : call.store.heartbeats = true)
    (connected : prim.sockets.session = some session)
    (room : (world.streams session).replies.countP isBeat < course.beats) {tsMs : UInt64} :
    session = laneId .incumbent ∧
      Staged course incumbent lock (world.afterHeartbeat session (version, .heartbeat tsMs)) := by
  obtain ⟨lane, rfl, here⟩ := staged.cast.lane there
  obtain ⟨kind, _⟩ := staged.cast.kind here there
  cases lane with
  | successor =>
      have silent := (successor_asked viable kind (staged.prim_good .successor there) next).2
      rw [silent] at beating
      cases beating
  | incumbent =>
      have prepared := (incumbent_asked viable kind (staged.prim_good .incumbent there) next).2 beating
      obtain ⟨_, rfl⟩ : channelLane .session = .incumbent ∧ session = laneId .incumbent :=
        staged.channel_id .incumbent there connected
      rw [← past_eq .incumbent there] at prepared
      have scene : sceneOf course incumbent
          (world.afterHeartbeat (laneId .incumbent) (version, .heartbeat tsMs)) =
          { sceneOf course incumbent world with
            lanes := Function.update (sceneOf course incumbent world).lanes .incumbent
              (((sceneOf course incumbent world).lanes .incumbent).reply
                (version, .heartbeat tsMs)) } := by
        simp only [sceneOf, World.afterHeartbeat]
        congr 1
        exact lanes_update .incumbent world.streams _
      refine ⟨rfl, ?_, staged.task, staged.alive, staged.cast⟩
      rw [scene]
      exact staged.joint.beats prepared room

theorem step (staged : Staged course incumbent lock world)
    (viable : Viable system course incumbent) {label : Label} {after : World system}
    (stepped : Step world label after) (admitted : faultless course world label after = true) :
    Staged course incumbent lock after := by
  cases stepped with
  | sup alive next answer possible =>
      obtain ⟨smooth, onTime⟩ := Bool.and_eq_true_iff.mp admitted
      exact staged.supStep viable next answer possible smooth onTime
  | @prim pid prim call resume there alive next answer possible =>
      obtain ⟨lane, rfl, here⟩ := staged.cast.lane there
      cases lane with
      | incumbent => exact staged.incumbentStep viable there next answer possible admitted
      | successor => exact staged.successorStep viable (here rfl) there next answer possible admitted
  | @heartbeat pid prim call resume session there alive next beating connected _ version tsMs =>
      have room : (world.streams session).replies.countP isBeat < course.beats := by
        simpa [faultless, there, connected] using admitted
      exact (staged.heartbeat viable there next beating connected room).2
  | die there alive => cases admitted
  | crash alive => cases admitted
  | call idle task => cases admitted

end Staged

end Handoff.Plan
