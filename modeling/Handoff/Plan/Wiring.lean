/-
What the acts that were performed say about the rest of the world.

Streams have fixed numbers here: the connection to the incumbent is the first
that the supervisor opens and the socketpair the second.  Who holds the flock,
whom the control socket names and which ends are still open then follows from
the acts, and each act that the plan allows keeps it so.
-/

import Handoff.Plan.Links

namespace Handoff.Plan

open Effects

variable {lane : Side} {act : Act} {done : Party → List Act} {party : Party}

def laneId : Side → Nat
  | .incumbent => 0
  | .successor => 1

def laneChannel : Side → Channel
  | .incumbent => .session
  | .successor => .control

/-- The act that opens the supervisor's end of a stream. -/
def opening : Side → Act
  | .incumbent => .connect
  | .successor => .pair

/-- The act that gives the primitive its end. -/
def entry : Side → Act
  | .incumbent => .accept
  | .successor => .spawn

def opensStream (act : Act) : Bool := act == .connect || act == .pair

def onLane (lane : Side) : Act → Bool
  | .say other _ | .hear other _ => other == lane
  | _ => false

/-! ### Order -/

theorem supScript_nodup : supScript.Nodup := by decide

theorem laneScript_nodup (lane : Side) : (laneScript lane).Nodup := by
  cases lane <;> decide

theorem opening_before (lane : Side) :
    ∀ act ∈ supScript, onLane lane act = true → [opening lane, act].Sublist supScript := by
  cases lane <;> decide

theorem hangUp_after (lane : Side) : ∀ act ∈ supScript, onLane lane act = true →
    act = hangUp lane ∨ [act, hangUp lane].Sublist supScript := by
  cases lane <;> decide

theorem leave_after (lane : Side) : ∀ act ∈ laneScript lane, onLane lane act = true →
    act = leave lane ∨ [act, leave lane].Sublist (laneScript lane) := by
  cases lane <;> decide

theorem accept_before :
    ∀ act ∈ incumbentScript, onLane .incumbent act = true → [.accept, act].Sublist incumbentScript := by
  decide

theorem script_lane (lane : Side) : handoffPlan.script (laneParty lane) = laneScript lane := by
  cases lane
  · exact script_incumbent
  · exact script_successor

theorem leave_party (lane : Side) : (leave lane).party = laneParty lane := by
  cases lane <;> rfl

theorem hangUp_party (lane : Side) : (hangUp lane).party = .supervisor := by
  cases lane <;> rfl

private theorem say_precedes {topic : Topic} {late : Act}
    (party : (Act.hear lane topic).party = late.party)
    (after : .hear lane topic = late ∨
      [.hear lane topic, late].Sublist (handoffPlan.script late.party)) :
    handoffPlan.Precedes (.say lane topic) late := by
  have need : handoffPlan.Precedes (.say lane topic) (.hear lane topic) := .need rfl
  rcases after with same | order
  · rw [← same]
    exact need
  · exact .trans need (.script party order)

theorem say_precedes_leave {topic : Topic} (planned : .say lane topic ∈ supScript) :
    handoffPlan.Precedes (.say lane topic) (leave lane) := by
  have heard : ∀ lane topic, .say lane topic ∈ supScript →
      Act.hear lane topic ∈ laneScript lane ∧ (Act.hear lane topic).party = laneParty lane := by
    intro lane topic
    cases lane <;> cases topic <;> decide
  obtain ⟨listed, party⟩ := heard lane topic planned
  refine say_precedes (party.trans (leave_party lane).symm) ?_
  rw [leave_party, script_lane]
  exact leave_after lane _ listed (by simp [onLane])

theorem say_precedes_hangUp {topic : Topic} (planned : .say lane topic ∈ laneScript lane) :
    handoffPlan.Precedes (.say lane topic) (hangUp lane) := by
  have heard : ∀ lane topic, .say lane topic ∈ laneScript lane →
      Act.hear lane topic ∈ supScript ∧ (Act.hear lane topic).party = .supervisor := by
    intro lane topic
    cases lane <;> cases topic <;> decide
  obtain ⟨listed, party⟩ := heard lane topic planned
  refine say_precedes (party.trans (hangUp_party lane).symm) ?_
  rw [hangUp_party, script_supervisor]
  exact hangUp_after lane _ listed (by simp [onLane])

private theorem release_precedes_lock : handoffPlan.Precedes .release .lock := by
  have sealed : handoffPlan.Precedes .release (.say .incumbent .sealed) := .script rfl (by decide)
  have heard : handoffPlan.Precedes (.say .incumbent .sealed) (.hear .incumbent .sealed) := .need rfl
  have begun : handoffPlan.Precedes (.hear .incumbent .sealed) (.say .successor .begin) :=
    .script rfl (by decide)
  have read : handoffPlan.Precedes (.say .successor .begin) (.hear .successor .begin) := .need rfl
  have locked : handoffPlan.Precedes (.hear .successor .begin) .lock := .script rfl (by decide)
  exact .trans sealed (.trans heard (.trans begun (.trans read locked)))

/-! ### The wiring -/

structure Wired (course : Course) (incumbent : UInt32) (done : Party → List Act) (ends : Ends)
    (opened : Nat) (sockets : Side → Sockets) (flock path : Option UInt32) : Prop where
  followed : handoffPlan.Followed done
  endIds : ∀ lane id, ends.peer lane = some id → id = laneId lane
  endOpen : ∀ lane, opening lane ∈ done .supervisor → hangUp lane ∉ done .supervisor →
    ends.peer lane = some (laneId lane)
  opened : opened = (done .supervisor).countP opensStream
  channelIds : ∀ lane channel id, (sockets lane).channel channel = some id →
    channelLane channel = lane ∧ id = laneId lane
  channelOpen : ∀ lane, entry lane ∈ done (entry lane).party → leave lane ∉ done (laneParty lane) →
    (sockets lane).channel (laneChannel lane) = some (laneId lane)
  backlog : (sockets .incumbent).backlog =
    if .connect ∈ done .supervisor ∧ .accept ∉ done .incumbent then [0] else []
  unvisited : (sockets .successor).backlog = []
  listening : leave .incumbent ∉ done .incumbent → (sockets .incumbent).listening = true
  published : .publish ∈ done .successor → (sockets .successor).listening = true
  flock : flock = if .lock ∈ done .successor then some course.successor
    else if .release ∈ done .incumbent then none else some incumbent
  path : path = if .publish ∈ done .successor then some course.successor else some incumbent

def andThen (done : Party → List Act) (act : Act) : Party → List Act :=
  Function.update done act.party (done act.party ++ [act])

private theorem mem_andThen {other : Act} :
    other ∈ andThen done act party ↔ other ∈ done party ∨ party = act.party ∧ other = act := by
  unfold andThen
  by_cases same : party = act.party
  · subst same
    simp
  · simp [same]

private theorem mem_andThen_of_ne {other : Act} (different : act ≠ other) :
    other ∈ andThen done act party ↔ other ∈ done party := by
  rw [mem_andThen]
  exact or_iff_left fun both => different both.2.symm

private theorem mem_andThen_self (mine : party = act.party) : act ∈ andThen done act party :=
  mem_andThen.mpr (Or.inr ⟨mine, rfl⟩)

private theorem countP_andThen (done : Party → List Act) (act : Act) :
    (andThen done act .supervisor).countP opensStream =
      (done .supervisor).countP opensStream + if opensStream act then 1 else 0 := by
  unfold andThen
  by_cases same : Party.supervisor = act.party
  · rw [← same, Function.update_self, List.countP_append, List.countP_singleton]
  · have closed : opensStream act = false := by
      cases act <;> first | rfl | exact absurd rfl same
    rw [Function.update_of_ne same, closed]
    rfl

def Act.talks : Act → Bool
  | .say .. | .hear .. => true
  | _ => false

namespace Wired

variable {course : Course} {incumbent : UInt32} {done : Party → List Act} {ends : Ends}
  {opened : Nat} {sockets : Side → Sockets} {flock path : Option UInt32}

structure Enabled (done : Party → List Act) (act : Act) : Prop where
  next : done act.party ++ [act] <+: handoffPlan.script act.party
  ready : ∀ need, act.needs = some need → need ∈ done need.party

theorem Enabled.followed (enabled : Enabled done act) (followed : handoffPlan.Followed done) :
    handoffPlan.Followed (andThen done act) :=
  followed.perform enabled.next enabled.ready

theorem Enabled.pending {late : Act} (enabled : Enabled done act)
    (followed : handoffPlan.Followed done) (before : act = late ∨ handoffPlan.Precedes act late) :
    late ∉ done late.party :=
  Choreography.Followed.pending followed enabled.next before

private theorem Enabled.before_sup {index : Nat} (enabled : Enabled done act)
    (mine : act.party = .supervisor) (place : supScript[index]? = some act) :
    done .supervisor = supScript.take index := by
  have next := enabled.next
  rw [mine, script_supervisor] at next
  exact eq_take_of_next next supScript_nodup place

/-- What an act changes in the wiring; everything else is as before. -/
structure Changes (course : Course) (act : Act) (ends rest : Ends) (opened more : Nat)
    (sockets changed : Side → Sockets) (flock taken path named : Option UInt32) : Prop where
  peer : ∀ lane, rest.peer lane = if act = opening lane then some (laneId lane) else ends.peer lane
  opened : more = opened + if opensStream act then 1 else 0
  channel : ∀ lane channel, (changed lane).channel channel =
    if act = entry lane ∧ channel = laneChannel lane then some (laneId lane)
    else (sockets lane).channel channel
  backlog : (changed .incumbent).backlog = if act = .connect then [0]
    else if act = .accept then [] else (sockets .incumbent).backlog
  unvisited : (changed .successor).backlog = []
  listening : (changed .incumbent).listening = (sockets .incumbent).listening
  published : act ≠ .spawn → (changed .successor).listening =
    (decide (act = .publish) || (sockets .successor).listening)
  flock : taken = if act = .lock then some course.successor else if act = .release then none else flock
  path : named = if act = .publish then some course.successor else path

variable (wired : Wired course incumbent done ends opened sockets flock path)

include wired

theorem perform {rest : Ends} {more : Nat} {changed : Side → Sockets}
    {taken named : Option UInt32} (enabled : Enabled done act)
    (changes : Changes course act ends rest opened more sockets changed flock taken path named) :
    Wired course incumbent (andThen done act) rest more changed taken named where
  followed := enabled.followed wired.followed
  endIds lane id there := by
    rw [changes.peer lane] at there
    split at there
    · exact (Option.some.inj there).symm
    · exact wired.endIds lane id there
  endOpen lane opens unfinished := by
    rw [changes.peer lane]
    split
    · rfl
    · next other =>
        rw [mem_andThen_of_ne other] at opens
        exact wired.endOpen lane opens fun performed =>
          unfinished (mem_andThen.mpr (Or.inl performed))
  opened := by rw [changes.opened, countP_andThen, wired.opened]
  channelIds lane channel id there := by
    rw [changes.channel lane channel] at there
    split at there
    · next entering =>
        rw [entering.2]
        exact ⟨by cases lane <;> rfl, (Option.some.inj there).symm⟩
    · exact wired.channelIds lane channel id there
  channelOpen lane entered present := by
    rw [changes.channel lane]
    split
    · rfl
    · next other =>
        rw [mem_andThen_of_ne fun same => other ⟨same, rfl⟩] at entered
        exact wired.channelOpen lane entered fun performed =>
          present (mem_andThen.mpr (Or.inl performed))
  backlog := by
    rw [changes.backlog]
    split
    · next connects =>
        subst connects
        have unaccepted : .accept ∉ done .incumbent :=
          enabled.pending wired.followed (Or.inr (.need rfl))
        rw [if_pos ⟨mem_andThen_self rfl, (mem_andThen_of_ne (by decide)).not.mpr unaccepted⟩]
    · next apart =>
        split
        · next accepts =>
            subst accepts
            rw [if_neg fun waiting => waiting.2 (mem_andThen_self rfl)]
        · next other =>
            simp only [mem_andThen_of_ne apart, mem_andThen_of_ne other]
            exact wired.backlog
  unvisited := changes.unvisited
  listening present := by
    rw [changes.listening]
    exact wired.listening fun performed => present (mem_andThen.mpr (Or.inl performed))
  published performed := by
    by_cases born : act = .spawn
    · subst born
      have greeted : handoffPlan.Precedes .spawn (.say .successor .hello) := .need rfl
      have unborn : .publish ∉ done .successor :=
        enabled.pending wired.followed (Or.inr (greeted.trans (.script rfl (by decide))))
      rw [mem_andThen_of_ne (by decide)] at performed
      exact absurd performed unborn
    · rw [changes.published born]
      by_cases now : act = .publish
      · rw [decide_eq_true now, Bool.true_or]
      · rw [mem_andThen_of_ne now] at performed
        rw [wired.published performed, Bool.or_true]
  flock := by
    rw [changes.flock]
    split
    · next locks =>
        subst locks
        exact (if_pos (mem_andThen_self rfl)).symm
    · next apart =>
        simp only [mem_andThen_of_ne apart]
        split
        · next releases =>
            subst releases
            have unlocked : .lock ∉ done .successor :=
              enabled.pending wired.followed (Or.inr release_precedes_lock)
            rw [if_neg unlocked]
            exact (if_pos (mem_andThen_self rfl)).symm
        · next other =>
            simp only [mem_andThen_of_ne other]
            exact wired.flock
  path := by
    rw [changes.path]
    split
    · next publishes =>
        subst publishes
        exact (if_pos (mem_andThen_self rfl)).symm
    · next apart =>
        simp only [mem_andThen_of_ne apart]
        exact wired.path

private theorem changes_none {taken : Option UInt32} (closed : opensStream act = false)
    (elsewhere : ∀ lane, act ≠ entry lane) (unnamed : act ≠ .publish)
    (locks : taken = if act = .lock then some course.successor
      else if act = .release then none else flock) :
    Changes course act ends ends opened opened sockets sockets flock taken path path where
  peer lane := by
    rw [if_neg]
    rintro rfl
    cases lane <;> contradiction
  opened := by
    rw [closed]
    rfl
  channel lane channel := by rw [if_neg fun entering => elsewhere lane entering.1]
  backlog := by
    rw [if_neg (by rintro rfl; contradiction)]
    exact (if_neg (elsewhere .incumbent)).symm
  unvisited := wired.unvisited
  listening := rfl
  published _ := by rw [decide_eq_false unnamed, Bool.false_or]
  flock := locks
  path := by rw [if_neg unnamed]

theorem talk (talks : act.talks = true) (enabled : Enabled done act) :
    Wired course incumbent (andThen done act) ends opened sockets flock path := by
  refine wired.perform enabled (wired.changes_none ?_ ?_ ?_ ?_)
  · cases act <;> first | rfl | contradiction
  · rintro lane rfl
    cases lane <;> contradiction
  · rintro rfl
    contradiction
  · rw [if_neg (by rintro rfl; contradiction), if_neg (by rintro rfl; contradiction)]

/-! ### The other acts -/

theorem reachable (enabled : Enabled done .connect) :
    path = some incumbent ∧ (sockets .incumbent).listening = true := by
  have born : handoffPlan.Precedes .connect .spawn := .script rfl (by decide)
  have greeted : handoffPlan.Precedes .spawn (.say .successor .hello) := .need rfl
  have published : handoffPlan.Precedes (.say .successor .hello) .publish := .script rfl (by decide)
  have entered : handoffPlan.Precedes .connect .accept := .need rfl
  have left : handoffPlan.Precedes .accept (leave .incumbent) := .script rfl (by decide)
  constructor
  · rw [wired.path, if_neg]
    exact enabled.pending wired.followed (Or.inr (born.trans (greeted.trans published)))
  · exact wired.listening (enabled.pending wired.followed (Or.inr (entered.trans left)))

theorem connect (enabled : Enabled done .connect) :
    Wired course incumbent (andThen done .connect) { ends with incumbent := some opened }
      (opened + 1)
      (Function.update sockets .incumbent { sockets .incumbent with
        backlog := (sockets .incumbent).backlog ++ [opened] }) flock path := by
  have unstarted : done .supervisor = supScript.take 0 := enabled.before_sup rfl rfl
  have first : opened = 0 := by
    rw [wired.opened, unstarted]
    rfl
  have empty : (sockets .incumbent).backlog = [] := by
    simpa [unstarted] using wired.backlog
  exact wired.perform enabled {
    peer := fun lane => by cases lane <;> simp [Ends.peer, opening, first, laneId]
    opened := rfl
    channel := fun lane channel => by cases lane <;> cases channel <;> rfl
    backlog := by rw [Function.update_self, empty, first]; rfl
    unvisited := wired.unvisited
    listening := rfl
    published := fun _ => rfl
    flock := rfl
    path := rfl }

theorem pair (enabled : Enabled done .pair) :
    Wired course incumbent (andThen done .pair) { ends with successor := some opened }
      (opened + 1) sockets flock path := by
  have greeted : done .supervisor = supScript.take 3 := enabled.before_sup rfl rfl
  have second : opened = 1 := by
    rw [wired.opened, greeted]
    rfl
  exact wired.perform enabled {
    peer := fun lane => by cases lane <;> simp [Ends.peer, opening, second, laneId]
    opened := rfl
    channel := fun lane channel => by cases lane <;> rfl
    backlog := rfl
    unvisited := wired.unvisited
    listening := rfl
    published := fun _ => rfl
    flock := rfl
    path := rfl }

theorem spawn (enabled : Enabled done .spawn) :
    Wired course incumbent (andThen done .spawn) ends opened
      (Function.update sockets .successor { control := ends.successor }) flock path := by
  have paired : done .supervisor = supScript.take 4 := enabled.before_sup rfl rfl
  have control : ends.successor = some 1 := by
    refine wired.endOpen .successor ?_ ?_
    · rw [paired]
      decide
    · rw [paired]
      decide
  have sessionless : (sockets .successor).channel .session = none := by
    by_contra present
    obtain ⟨id, there⟩ := Option.ne_none_iff_exists'.mp present
    exact absurd (wired.channelIds .successor .session id there).1 (by decide)
  exact wired.perform enabled {
    peer := fun lane => by cases lane <;> rfl
    opened := rfl
    channel := fun lane channel => by
      cases lane with
      | incumbent => rfl
      | successor =>
          rw [Function.update_self]
          cases channel with
          | session => exact sessionless.symm
          | control => exact control
    backlog := rfl
    unvisited := rfl
    listening := rfl
    published := fun other => absurd rfl other
    flock := rfl
    path := rfl }

theorem accept (enabled : Enabled done .accept) :
    Wired course incumbent (andThen done .accept) ends opened
      (Function.update sockets .incumbent { sockets .incumbent with
        session := (sockets .incumbent).backlog.head?
        backlog := (sockets .incumbent).backlog.tail }) flock path := by
  have connected : Act.connect ∈ done .supervisor := enabled.ready _ rfl
  have unaccepted : .accept ∉ done .incumbent :=
    enabled.pending wired.followed (Or.inl rfl)
  have waiting : (sockets .incumbent).backlog = [0] := by
    rw [wired.backlog, if_pos ⟨connected, unaccepted⟩]
  exact wired.perform enabled {
    peer := fun lane => by cases lane <;> rfl
    opened := rfl
    channel := fun lane channel => by
      cases lane with
      | incumbent =>
          rw [Function.update_self, waiting]
          cases channel <;> rfl
      | successor => rfl
    backlog := by rw [Function.update_self, waiting]; rfl
    unvisited := wired.unvisited
    listening := rfl
    published := fun _ => rfl
    flock := rfl
    path := rfl }

theorem flock_held (enabled : Enabled done .release) : flock = some incumbent := by
  have unlocked : .lock ∉ done .successor :=
    enabled.pending wired.followed (Or.inr release_precedes_lock)
  have unreleased : .release ∉ done .incumbent :=
    enabled.pending wired.followed (Or.inl rfl)
  rw [wired.flock, if_neg unlocked, if_neg unreleased]

theorem release (enabled : Enabled done .release) :
    Wired course incumbent (andThen done .release) ends opened sockets none path :=
  wired.perform enabled
    (wired.changes_none rfl (fun lane => by cases lane <;> decide) (by decide) rfl)

theorem flock_free (next : done .successor ++ [.lock] <+: successorScript) : flock = none := by
  have begun : Act.hear .successor .begin ∈ done .successor :=
    earlier_mem_of_next next (laneScript_nodup .successor) (by decide)
  have unlocked : .lock ∉ done .successor :=
    later_not_mem_of_next next (laneScript_nodup .successor) (Or.inl rfl)
  have released : Act.release ∈ done .incumbent := by
    have sealed : handoffPlan.Precedes .release (.say .incumbent .sealed) := .script rfl (by decide)
    have heard : handoffPlan.Precedes (.say .incumbent .sealed) (.hear .incumbent .sealed) := .need rfl
    have told : handoffPlan.Precedes (.hear .incumbent .sealed) (.say .successor .begin) :=
      .script rfl (by decide)
    have read : handoffPlan.Precedes (.say .successor .begin) (.hear .successor .begin) := .need rfl
    exact wired.followed.precedes (sealed.trans (heard.trans (told.trans read))) begun
  rw [wired.flock, if_neg unlocked, if_pos released]

theorem lock (enabled : Enabled done .lock) :
    Wired course incumbent (andThen done .lock) ends opened sockets (some course.successor) path :=
  wired.perform enabled
    (wired.changes_none rfl (fun lane => by cases lane <;> decide) (by decide) rfl)

theorem publish (enabled : Enabled done .publish) :
    Wired course incumbent (andThen done .publish) ends opened
      (Function.update sockets .successor { sockets .successor with listening := true }) flock
      (some course.successor) :=
  wired.perform enabled {
    peer := fun lane => by cases lane <;> rfl
    opened := rfl
    channel := fun lane channel => by cases lane <;> cases channel <;> rfl
    backlog := rfl
    unvisited := wired.unvisited
    listening := rfl
    published := fun _ => rfl
    flock := rfl
    path := rfl }

/-! ### Closing -/

theorem hungUp {rest : Ends} (finished : hangUp lane ∈ done .supervisor)
    (gone : rest.peer lane = none)
    (others : ∀ other, other ≠ lane → rest.peer other = ends.peer other) :
    Wired course incumbent done rest opened sockets flock path where
  __ := wired
  endIds other id still := by
    by_cases same : other = lane
    · rw [same, gone] at still
      cases still
    · rw [others other same] at still
      exact wired.endIds other id still
  endOpen other opens unfinished := by
    have different : other ≠ lane := by
      rintro rfl
      exact unfinished finished
    rw [others other different]
    exact wired.endOpen other opens unfinished

theorem left {rest : Sockets} (finished : leave lane ∈ done (laneParty lane))
    (fewer : ∀ channel id, rest.channel channel = some id → (sockets lane).channel channel = some id)
    (backlog : rest.backlog = (sockets lane).backlog)
    (listening : lane = .successor → rest.listening = (sockets lane).listening) :
    Wired course incumbent done ends opened (Function.update sockets lane rest) flock path where
  __ := wired
  channelIds other channel id still := by
    by_cases same : other = lane
    · subst same
      rw [Function.update_self] at still
      exact wired.channelIds other channel id (fewer channel id still)
    · rw [Function.update_of_ne same] at still
      exact wired.channelIds other channel id still
  channelOpen other entered present := by
    have different : other ≠ lane := by
      rintro rfl
      exact present finished
    rw [Function.update_of_ne different]
    exact wired.channelOpen other entered present
  backlog := by
    cases lane with
    | incumbent =>
        rw [Function.update_self, backlog]
        exact wired.backlog
    | successor => exact wired.backlog
  unvisited := by
    cases lane with
    | incumbent => exact wired.unvisited
    | successor =>
        rw [Function.update_self, backlog]
        exact wired.unvisited
  listening present := by
    cases lane with
    | incumbent => exact absurd finished present
    | successor => exact wired.listening present
  published performed := by
    cases lane with
    | incumbent => exact wired.published performed
    | successor =>
        rw [Function.update_self, listening rfl]
        exact wired.published performed

theorem no_backlog (finished : leave .incumbent ∈ done .incumbent) :
    (sockets .incumbent).backlog = [] := by
  have accepted : Act.accept ∈ done .incumbent := by
    have front := wired.followed.scripted .incumbent
    rw [script_incumbent] at front
    exact earlier_mem_front front (laneScript_nodup .incumbent) (by decide) finished
  rw [wired.backlog, if_neg]
  intro waiting
  exact waiting.2 accepted

end Wired

end Handoff.Plan
