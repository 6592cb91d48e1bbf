/-
All parties together.

A scene is what matters of a world in which one handoff is under way: the three
histories, the two streams, and what belongs to nobody.  Each step that the plan
allows keeps the histories good, the streams in agreement with them and the
wiring as the acts say.
-/

import Handoff.Plan.Wiring

namespace Handoff.Plan

open Effects

variable {past : SupPast} {lane : Side} {topic : Topic} {act : Act} {lanes : Side → Stream}

/-! ### Time -/

/-- The clock of the supervisor runs forward, and the handoff takes no longer than
its window. -/
def Course.onTime (course : Course) (times : List Instant) : Bool :=
  decide (times.Pairwise (· ≤ ·)) &&
    times.all fun time => decide (time < Duration.fromSecs (2 ^ 62)) &&
      decide (time < times.headD 0 + course.window)

/-- The budgets fit into the fields of `PrepareHandoff`. -/
structure Course.Bounded (course : Course) : Prop where
  deadline : course.spec.deadline < Duration.fromMillis (2 ^ 64)
  drainGrace : course.spec.drainGrace < Duration.fromMillis (2 ^ 64)

variable {course : Course}

theorem Course.Bounded.roomy (bounded : course.Bounded)
    (onTime : course.onTime (readings past) = true) : Roomy course.spec past := by
  simp only [Course.onTime, Bool.and_eq_true, decide_eq_true_eq, List.all_eq_true] at onTime
  exact ⟨bounded.deadline, bounded.drainGrace, onTime.1,
    fun reading member => (onTime.2 reading member).1⟩

private theorem punctual_of_onTime (onTime : course.onTime (readings past) = true) :
    ∀ reading ∈ readings past, reading < startedAt past + course.window := by
  simp only [Course.onTime, Bool.and_eq_true, decide_eq_true_eq, List.all_eq_true] at onTime
  exact fun reading member => (onTime.2 reading member).2

theorem SupGood.extend {event : SupEvent} (good : SupGood course past) (bounded : course.Bounded)
    (smooth : course.smoothSup event = true)
    (scripted : supActs past ++ (supAct? event).toList <+: supScript)
    (sincere : course.Sincere past event)
    (beats : (past ++ [event]).countP hearsBeat ≤ course.beats)
    (onTime : course.onTime (readings (past ++ [event])) = true) :
    SupGood course (past ++ [event]) where
  smooth other member := by
    rcases List.mem_append.mp member with early | late
    · exact good.smooth other early
    · rw [List.mem_singleton.mp late]
      exact smooth
  scripted := by
    rw [supActs_append]
    exact scripted
  sincere before other after split := by
    cases after using List.reverseRecOn with
    | nil =>
        obtain ⟨rfl, same⟩ := List.append_inj' split rfl
        cases same
        exact sincere
    | append_singleton after last =>
        rw [← List.cons_append, ← List.append_assoc] at split
        obtain ⟨rfl, _⟩ := List.append_inj' split rfl
        exact good.sincere before other after rfl
  beats := beats
  roomy := bounded.roomy onTime
  punctual := punctual_of_onTime onTime

theorem PrimGood.extend {euid : UInt32} {script : List Act} {past : PrimPast} {event : PrimEvent}
    (good : PrimGood course euid script past) (smooth : smoothPrim euid event = true)
    (timely : course.timely event = true)
    (scripted : primActs past ++ (primAct? event).toList <+: script) :
    PrimGood course euid script (past ++ [event]) where
  smooth other member := by
    rcases List.mem_append.mp member with early | late
    · exact good.smooth other early
    · rw [List.mem_singleton.mp late]
      exact smooth
  timely other member := by
    rcases List.mem_append.mp member with early | late
    · exact good.timely other early
    · rw [List.mem_singleton.mp late]
      exact timely
  scripted := by
    rw [primActs_append]
    exact scripted

/-! ### Scenes -/

def doneBy (sup : SupPast) (prims : Side → PrimPast) : Party → List Act
  | .supervisor => supActs sup
  | .incumbent => primActs (prims .incumbent)
  | .successor => primActs (prims .successor)

theorem doneBy_lane (sup : SupPast) (prims : Side → PrimPast) (lane : Side) :
    doneBy sup prims (laneParty lane) = primActs (prims lane) := by
  cases lane <;> rfl

structure Scene where
  sup : SupPast
  prims : Side → PrimPast
  ends : Ends
  opened : Nat
  sockets : Side → Sockets
  lanes : Side → Stream
  flock : Option UInt32
  path : Option UInt32

def Scene.done (scene : Scene) : Party → List Act := doneBy scene.sup scene.prims

structure Joint (course : Course) (incumbent : UInt32) (euid : Side → UInt32) (scene : Scene) :
    Prop where
  sup : SupGood course scene.sup
  prims : ∀ lane, PrimGood course (euid lane) (laneScript lane) (scene.prims lane)
  linked : ∀ lane, Linked course lane scene.sup (scene.prims lane) (scene.lanes lane)
  wired : Wired course incumbent (doneBy scene.sup scene.prims) scene.ends scene.opened
    scene.sockets scene.flock scene.path

private theorem supScript_party : ∀ act ∈ supScript, act.party = .supervisor := by decide

private theorem laneScript_party (lane : Side) :
    ∀ act ∈ laneScript lane, act.party = laneParty lane := by
  cases lane <;> decide

theorem heard_party (planned : .hear lane topic ∈ supScript) :
    (Act.say lane topic).party = laneParty lane := by
  revert planned
  cases lane <;> cases topic <;> decide

theorem told_party (planned : .hear lane topic ∈ laneScript lane) :
    (Act.say lane topic).party = .supervisor := by
  revert planned
  cases lane <;> cases topic <;> decide

theorem mem_of_next {done script : List Act} (next : done ++ [act] <+: script) : act ∈ script :=
  next.subset (by simp)

private theorem mem_of_sayTopic {acts : List Act}
    (arrived : topic ∈ acts.filterMap (sayTopic? lane)) : .say lane topic ∈ acts := by
  rw [List.mem_filterMap] at arrived
  obtain ⟨act, member, said⟩ := arrived
  cases act with
  | say other subject =>
      simp only [sayTopic?, Option.ite_none_right_eq_some, Option.some.injEq] at said
      obtain ⟨rfl, rfl⟩ := said
      exact member
  | _ => cases said

/-! ### Acts and histories -/

section Done

variable {sup : SupPast} {prims : Side → PrimPast}

private theorem doneBy_supQuiet {event : SupEvent} (unseen : supAct? event = none) :
    doneBy (sup ++ [event]) prims = doneBy sup prims := by
  funext party
  cases party <;> simp [doneBy, supActs_append, unseen]

private theorem doneBy_supAct {event : SupEvent} (performed : supAct? event = some act)
    (next : supActs sup ++ [act] <+: supScript) :
    doneBy (sup ++ [event]) prims = andThen (doneBy sup prims) act := by
  funext party
  unfold andThen
  rw [supScript_party act (mem_of_next next)]
  cases party <;> simp [doneBy, supActs_append, performed]

private theorem doneBy_primQuiet {event : PrimEvent} (unseen : primAct? event = none) :
    doneBy sup (Function.update prims lane (prims lane ++ [event])) = doneBy sup prims := by
  funext party
  cases party <;> cases lane <;> simp [doneBy, primActs_append, unseen]

private theorem doneBy_primAct {event : PrimEvent} (performed : primAct? event = some act)
    (next : primActs (prims lane) ++ [act] <+: laneScript lane) :
    doneBy sup (Function.update prims lane (prims lane ++ [event])) =
      andThen (doneBy sup prims) act := by
  funext party
  unfold andThen
  rw [laneScript_party lane act (mem_of_next next)]
  cases party <;> cases lane <;> simp [doneBy, primActs_append, performed, laneParty]

theorem enabled_sup (next : supActs sup ++ [act] <+: supScript)
    (ready : ∀ need, act.needs = some need → need ∈ doneBy sup prims need.party) :
    Wired.Enabled (doneBy sup prims) act := by
  refine ⟨?_, ready⟩
  rw [supScript_party act (mem_of_next next), script_supervisor]
  exact next

theorem enabled_lane (next : primActs (prims lane) ++ [act] <+: laneScript lane)
    (ready : ∀ need, act.needs = some need → need ∈ doneBy sup prims need.party) :
    Wired.Enabled (doneBy sup prims) act := by
  refine ⟨?_, ready⟩
  rw [laneScript_party lane act (mem_of_next next), script_lane, doneBy_lane]
  exact next

end Done

private theorem sincere_of_unheard {event : SupEvent}
    (unheard : ∀ lane, supHeard? lane event = none) :
    course.Sincere past event ∧ hearsBeat event = false := by
  obtain ⟨⟨store, op⟩, answer⟩ := event
  cases op with
  | pollRead peer =>
      cases answer with
      | frame version message =>
          have impossible := unheard peer
          simp [supHeard?] at impossible
      | _ => exact ⟨trivial, rfl⟩
  | _ => exact ⟨trivial, rfl⟩

theorem SupGood.unheard {event : SupEvent} (good : SupGood course past) (bounded : course.Bounded)
    (smooth : course.smoothSup event = true)
    (onTime : course.onTime (readings (past ++ [event])) = true)
    (scripted : supActs past ++ (supAct? event).toList <+: supScript)
    (unheard : ∀ lane, supHeard? lane event = none) : SupGood course (past ++ [event]) := by
  obtain ⟨sincere, silent⟩ := sincere_of_unheard unheard
  refine good.extend bounded smooth scripted sincere ?_ onTime
  rw [beats_append, silent]
  exact good.beats

private theorem beats_heard (past : SupPast) : past.countP hearsBeat =
    (supHeard .incumbent past).countP isBeat + (supHeard .successor past).countP isBeat := by
  induction past using List.reverseRecOn with
  | nil => rfl
  | append_singleton past event ih =>
      have one : (if hearsBeat event = true then 1 else 0) =
          (supHeard? .incumbent event).toList.countP isBeat +
            (supHeard? .successor event).toList.countP isBeat := by
        obtain ⟨⟨store, op⟩, answer⟩ := event
        cases op with
        | pollRead peer =>
            cases answer with
            | frame version message =>
                cases beat : isHeartbeat message <;> cases peer <;>
                  simp [hearsBeat, supHeard?, isBeat, beat]
            | _ => rfl
        | _ => rfl
      rw [beats_append, supHeard_append, supHeard_append, List.countP_append, List.countP_append,
        ih, one]
      omega

private theorem beats_bounded {sup : SupPast} {prims : Side → PrimPast}
    (linked : ∀ lane, Linked course lane sup (prims lane) (lanes lane)) :
    sup.countP hearsBeat ≤ course.beats := by
  have some : (supHeard .incumbent sup).countP isBeat ≤ course.beats :=
    (linked .incumbent).polled.sublist.countP_le.trans (linked .incumbent).bounded
  have none : (supHeard .successor sup).countP isBeat = 0 := by
    rw [List.countP_eq_zero]
    intro frame member beat
    have sent := (linked .successor).polled.subset member
    cases ((linked .successor).beats frame sent beat).1
  rw [beats_heard, none]
  exact some

namespace Joint

variable {incumbent : UInt32} {euid : Side → UInt32} {scene : Scene}

/-! ### Steps of the supervisor -/

variable {frame : Frame} {version : ProtoVersion}

section Supervisor

variable {event : SupEvent} (joint : Joint course incumbent euid scene)

include joint

private theorem heard_said (found : (scene.lanes lane).toSup = some frame)
    (about : frameTopic? frame = some topic) : .say lane topic ∈ primActs (scene.prims lane) := by
  have arrived : topic ∈ (scene.lanes lane).replies.filterMap frameTopic? :=
    List.mem_filterMap.mpr ⟨frame, List.mem_of_getElem? found, about⟩
  rw [(joint.linked lane).reply_topics] at arrived
  exact mem_of_sayTopic arrived

variable (bounded : course.Bounded)

include bounded

theorem supQuiet (smooth : course.smoothSup event = true)
    (onTime : course.onTime (readings (scene.sup ++ [event])) = true)
    (unseen : supAct? event = none) (unsaid : ∀ lane, supSaid? lane event = none)
    (unheard : ∀ lane, supHeard? lane event = none) :
    Joint course incumbent euid { scene with sup := scene.sup ++ [event] } where
  sup := by
    refine joint.sup.unheard bounded smooth onTime ?_ unheard
    simpa [unseen] using joint.sup.scripted
  prims := joint.prims
  linked lane := (joint.linked lane).supQuiet (unsaid lane) (unheard lane)
  wired := by
    rw [doneBy_supQuiet unseen]
    exact joint.wired

theorem supPerforms (smooth : course.smoothSup event = true)
    (onTime : course.onTime (readings (scene.sup ++ [event])) = true)
    (performed : supAct? event = some act) (next : supActs scene.sup ++ [act] <+: supScript)
    (unsaid : ∀ lane, supSaid? lane event = none) (unheard : ∀ lane, supHeard? lane event = none)
    {ends : Ends} {opened : Nat} {sockets : Side → Sockets}
    (wired : Wired course incumbent (andThen scene.done act) ends opened sockets scene.flock
      scene.path) :
    Joint course incumbent euid { scene with
      sup := scene.sup ++ [event], ends := ends, opened := opened, sockets := sockets } where
  sup := by
    refine joint.sup.unheard bounded smooth onTime ?_ unheard
    rw [performed]
    exact next
  prims := joint.prims
  linked lane := (joint.linked lane).supQuiet (unsaid lane) (unheard lane)
  wired := by
    rw [doneBy_supAct performed next]
    exact wired

variable {store : SupStore}

theorem supSays {message : Message} (onTime : course.onTime
      (readings (scene.sup ++ [⟨⟨store, .writeFrame lane version message⟩, .ok ()⟩])) = true)
    (told : course.told message = true) (about : topic? message = some topic)
    (next : supActs scene.sup ++ [.say lane topic] <+: supScript) :
    Joint course incumbent euid { scene with
      sup := scene.sup ++ [⟨⟨store, .writeFrame lane version message⟩, .ok ()⟩]
      lanes := Function.update scene.lanes lane ((scene.lanes lane).send (version, message)) } := by
  have performed : supAct? ⟨⟨store, .writeFrame lane version message⟩, .ok ()⟩ =
      some (.say lane topic) := supAct_writes about
  exact {
  sup := by
    refine joint.sup.unheard bounded rfl onTime ?_ fun _ => rfl
    rw [performed]
    exact next
  prims := joint.prims
  linked := fun other => by
    by_cases same : other = lane
    · subst same
      simp only [Function.update_self]
      exact (joint.linked other).supSays (by simp [supSaid?]) rfl told
    · simp only [Function.update_of_ne same]
      exact (joint.linked other).supQuiet (by simp [supSaid?, Ne.symm same]) rfl
  wired := by
    rw [doneBy_supAct performed next]
    refine joint.wired.talk rfl (enabled_sup next ?_)
    intro need needed
    have mine := supScript_party _ (mem_of_next next)
    revert mine needed
    cases lane <;> cases topic <;> simp [Act.needs, Act.party, Topic.fromSupervisor, laneParty] }

theorem supHears {message : Message} (onTime : course.onTime
      (readings (scene.sup ++ [⟨⟨store, .pollRead lane⟩, .frame version message⟩])) = true)
    (waits : supActs scene.sup ++ [.hear lane topic] <+: supScript)
    (found : (scene.lanes lane).toSup = some (version, message)) :
    Joint course incumbent euid { scene with
      sup := scene.sup ++ [⟨⟨store, .pollRead lane⟩, .frame version message⟩]
      lanes := Function.update scene.lanes lane (scene.lanes lane).hear } := by
  have linked := joint.linked lane
  have sincere : course.Sincere scene.sup ⟨⟨store, .pollRead lane⟩, .frame version message⟩ := by
    have member : (version, message) ∈ (scene.lanes lane).replies := List.mem_of_getElem? found
    exact ⟨linked.replied _ member, fun beat => (linked.beats _ member beat).2⟩
  have links : ∀ other, Linked course other
      (scene.sup ++ [⟨⟨store, .pollRead lane⟩, .frame version message⟩]) (scene.prims other)
      (Function.update scene.lanes lane (scene.lanes lane).hear other) := by
    intro other
    by_cases same : other = lane
    · subst same
      rw [Function.update_self]
      exact (joint.linked other).supHears rfl (by simp [supHeard?]) found
    · rw [Function.update_of_ne same]
      exact (joint.linked other).supQuiet rfl (by simp [supHeard?, Ne.symm same])
  have good : supActs scene.sup ++
      (supAct? ⟨⟨store, .pollRead lane⟩, .frame version message⟩).toList <+: supScript →
      SupGood course (scene.sup ++ [⟨⟨store, .pollRead lane⟩, .frame version message⟩]) :=
    fun scripted => joint.sup.extend bounded rfl scripted sincere (beats_bounded links) onTime
  rcases linked.supFinds (joint.prims lane).scripted waits found with beat | about
  · have unseen : supAct? ⟨⟨store, .pollRead lane⟩, .frame version message⟩ = none := by
      cases message <;> first | rfl | contradiction
    exact {
    sup := good (by simpa [unseen] using joint.sup.scripted)
    prims := joint.prims
    linked := links
    wired := by
      rw [doneBy_supQuiet unseen]
      exact joint.wired }
  · have performed : supAct? ⟨⟨store, .pollRead lane⟩, .frame version message⟩ =
        some (.hear lane topic) := by
      exact supAct_hears about
    exact {
    sup := good (by rw [performed]; exact waits)
    prims := joint.prims
    linked := links
    wired := by
      rw [doneBy_supAct performed waits]
      refine joint.wired.talk rfl (enabled_sup waits ?_)
      rintro need ⟨⟩
      rw [heard_party (mem_of_next waits), doneBy_lane]
      exact joint.heard_said found about }

theorem supCloses
    (onTime : course.onTime (readings (scene.sup ++ [⟨⟨store, .close lane⟩, ()⟩])) = true)
    (finished : hangUp lane ∈ supActs scene.sup) {ends : Ends} (gone : ends.peer lane = none)
    (others : ∀ other, other ≠ lane → ends.peer other = scene.ends.peer other)
    (closed : ∀ other, lanes other = scene.lanes other ∨
      other = lane ∧ lanes other = (scene.lanes other).closeSup) :
    Joint course incumbent euid { scene with
      sup := scene.sup ++ [⟨⟨store, .close lane⟩, ()⟩], ends := ends, lanes := lanes } := by
  have unclosed : Joint course incumbent euid { scene with
      sup := scene.sup ++ [⟨⟨store, .close lane⟩, ()⟩] } :=
    joint.supQuiet bounded rfl onTime rfl (fun _ => rfl) fun _ => rfl
  exact { unclosed with
  linked := fun other => by
    rcases closed other with same | ⟨rfl, same⟩
    · simp only [same]
      exact unclosed.linked other
    · simp only [same]
      exact (unclosed.linked other).supCloses (supActs_grows _ finished)
  wired := unclosed.wired.hungUp (supActs_grows _ finished) gone others }

end Supervisor

/-! ### Steps of a primitive -/

section Primitive

variable {lane : Side} {event : PrimEvent} (joint : Joint course incumbent euid scene)

include joint

private theorem prims_step
    (good : PrimGood course (euid lane) (laneScript lane) (scene.prims lane ++ [event]))
    (other : Side) :
    PrimGood course (euid other) (laneScript other)
      (Function.update scene.prims lane (scene.prims lane ++ [event]) other) := by
  by_cases same : other = lane
  · subst same
    rw [Function.update_self]
    exact good
  · rw [Function.update_of_ne same]
    exact joint.prims other

private theorem links_step {stream : Stream}
    (linked : Linked course lane scene.sup (scene.prims lane ++ [event]) stream) (other : Side) :
    Linked course other scene.sup
      (Function.update scene.prims lane (scene.prims lane ++ [event]) other)
      (Function.update scene.lanes lane stream other) := by
  by_cases same : other = lane
  · subst same
    rw [Function.update_self, Function.update_self]
    exact linked
  · rw [Function.update_of_ne same, Function.update_of_ne same]
    exact joint.linked other

theorem primQuiet (smooth : smoothPrim (euid lane) event = true)
    (timely : course.timely event = true) (unseen : primAct? event = none)
    (unsaid : primSaid? lane event = none) (unheard : primHeard? lane event = none) :
    Joint course incumbent euid { scene with
      prims := Function.update scene.prims lane (scene.prims lane ++ [event]) } where
  sup := joint.sup
  prims := by
    refine joint.prims_step ((joint.prims lane).extend smooth timely ?_)
    simpa [unseen] using (joint.prims lane).scripted
  linked := by
    have linked := joint.links_step ((joint.linked lane).primQuiet unsaid unheard)
    rwa [Function.update_eq_self] at linked
  wired := by
    rw [doneBy_primQuiet unseen]
    exact joint.wired

theorem primPerforms (smooth : smoothPrim (euid lane) event = true)
    (timely : course.timely event = true) (performed : primAct? event = some act)
    (next : primActs (scene.prims lane) ++ [act] <+: laneScript lane)
    (unsaid : primSaid? lane event = none) (unheard : primHeard? lane event = none)
    {sockets : Side → Sockets} {flock path : Option UInt32}
    (wired : Wired course incumbent (andThen scene.done act) scene.ends scene.opened sockets flock
      path) :
    Joint course incumbent euid { scene with
      prims := Function.update scene.prims lane (scene.prims lane ++ [event])
      sockets := sockets, flock := flock, path := path } where
  sup := joint.sup
  prims := by
    refine joint.prims_step ((joint.prims lane).extend smooth timely ?_)
    rw [performed]
    exact next
  linked := by
    have linked := joint.links_step ((joint.linked lane).primQuiet unsaid unheard)
    rwa [Function.update_eq_self] at linked
  wired := by
    rw [doneBy_primAct performed next]
    exact wired

theorem primSays (smooth : smoothPrim (euid lane) event = true)
    (timely : course.timely event = true) (said : primSaid? lane event = some frame)
    (unheard : primHeard? lane event = none) (about : frameTopic? frame = some topic)
    (performed : primAct? event = some (.say lane topic))
    (next : primActs (scene.prims lane) ++ [.say lane topic] <+: laneScript lane)
    (replied : course.replied lane frame.2 = true)
    (born : lane = .successor → .spawn ∈ supActs scene.sup) :
    Joint course incumbent euid { scene with
      prims := Function.update scene.prims lane (scene.prims lane ++ [event])
      lanes := Function.update scene.lanes lane ((scene.lanes lane).reply frame) } where
  sup := joint.sup
  prims := by
    refine joint.prims_step ((joint.prims lane).extend smooth timely ?_)
    rw [performed]
    exact next
  linked := by
    refine joint.links_step ((joint.linked lane).primSays said unheard ?_ replied)
    obtain ⟨version, message⟩ := frame
    cases message <;> first | rfl | contradiction
  wired := by
    rw [doneBy_primAct performed next]
    refine joint.wired.talk rfl (enabled_lane next ?_)
    intro need needed
    cases lane with
    | incumbent => cases needed
    | successor => cases topic <;> cases needed; exact born rfl

private theorem told_said (found : (scene.lanes lane).toPrim = some frame)
    (about : frameTopic? frame = some topic) : .say lane topic ∈ supActs scene.sup := by
  have arrived : topic ∈ (scene.lanes lane).sent.filterMap frameTopic? :=
    List.mem_filterMap.mpr ⟨frame, List.mem_of_getElem? found, about⟩
  rw [(joint.linked lane).tell_topics] at arrived
  exact mem_of_sayTopic arrived

theorem primHears (smooth : smoothPrim (euid lane) event = true)
    (heard : primHeard? lane event = some frame) (unsaid : primSaid? lane event = none)
    (timely : course.timely event = course.told frame.2)
    (performs : primAct? event = (frameTopic? frame).map (.hear lane))
    (waits : primActs (scene.prims lane) ++ [.hear lane topic] <+: laneScript lane)
    (found : (scene.lanes lane).toPrim = some frame) :
    Joint course incumbent euid { scene with
      prims := Function.update scene.prims lane (scene.prims lane ++ [event])
      lanes := Function.update scene.lanes lane (scene.lanes lane).take } := by
  obtain ⟨told, about⟩ := (joint.linked lane).primFinds joint.sup.scripted waits found
  have performed : primAct? event = some (.hear lane topic) := by
    rw [performs, about]
    rfl
  exact {
  sup := joint.sup
  prims := by
    refine joint.prims_step ((joint.prims lane).extend smooth (timely.trans told) ?_)
    rw [performed]
    exact waits
  linked := joint.links_step ((joint.linked lane).primHears unsaid heard found)
  wired := by
    rw [doneBy_primAct performed waits]
    refine joint.wired.talk rfl (enabled_lane waits ?_)
    rintro need ⟨⟩
    rw [told_party (mem_of_next waits)]
    exact joint.told_said found about }

theorem primCloses (smooth : smoothPrim (euid lane) event = true)
    (timely : course.timely event = true) (unseen : primAct? event = none)
    (unsaid : primSaid? lane event = none) (unheard : primHeard? lane event = none)
    (finished : leave lane ∈ primActs (scene.prims lane)) {rest : Sockets}
    (fewer : ∀ channel id, rest.channel channel = some id →
      (scene.sockets lane).channel channel = some id)
    (backlog : rest.backlog = (scene.sockets lane).backlog)
    (listening : lane = .successor → rest.listening = (scene.sockets lane).listening)
    (closed : ∀ other, lanes other = scene.lanes other ∨
      other = lane ∧ lanes other = (scene.lanes other).closePrim) :
    Joint course incumbent euid { scene with
      prims := Function.update scene.prims lane (scene.prims lane ++ [event])
      sockets := Function.update scene.sockets lane rest, lanes := lanes } := by
  have unclosed := joint.primQuiet smooth timely unseen unsaid unheard
  exact { unclosed with
  linked := fun other => by
    rcases closed other with same | ⟨rfl, same⟩
    · simp only [same]
      exact unclosed.linked other
    · simp only [same]
      refine (unclosed.linked other).primCloses ?_
      simp only [Function.update_self]
      exact primActs_grows _ finished
  wired := by
    refine unclosed.wired.left ?_ fewer backlog listening
    rw [doneBy_lane]
    simp only [Function.update_self]
    exact primActs_grows _ finished }

end Primitive

theorem beats (joint : Joint course incumbent euid scene) {tsMs : UInt64}
    (prepared : .hear .incumbent .prepare ∈ primActs (scene.prims .incumbent))
    (room : (scene.lanes .incumbent).replies.countP isBeat < course.beats) :
    Joint course incumbent euid { scene with
      lanes := Function.update scene.lanes .incumbent
        ((scene.lanes .incumbent).reply (version, .heartbeat tsMs)) } := by
  have asked : .say .incumbent .prepare ∈ supActs scene.sup :=
    joint.wired.followed.causal (.hear .incumbent .prepare) _ prepared rfl
  exact { joint with
  linked := fun other => by
    cases other with
    | incumbent => exact (joint.linked .incumbent).beaten asked room
    | successor => exact joint.linked .successor }

end Joint

end Handoff.Plan
