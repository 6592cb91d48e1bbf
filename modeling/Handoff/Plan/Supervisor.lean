/-
The supervisor follows the plan.

`SupGood` is a handoff in which nothing fails, as the supervisor sees it: every
call of the system succeeds, the frames that arrive are those of its script, and
the clock stays inside the budgets.  Under this assumption `perform_handoff`
performs its script and nothing else that the other parties could notice, and
returns with a commit.
-/

import Handoff.Effects.Assumption
import Handoff.Plan.Script
import Handoff.Supervisor.BudgetRuns

namespace Handoff.Plan

open Effects SupM
open Effects.Code hiding pure bind

variable {peer : Side} {topic : Topic} {version : ProtoVersion} {message : Message}

/-! ### Acts of the supervisor -/

def supAct? : SupEvent → Option Act
  | ⟨⟨_, .connect _⟩, .ok _⟩ => some .connect
  | ⟨⟨_, .makeSocketpair⟩, .ok _⟩ => some .pair
  | ⟨⟨_, .spawn _⟩, .ok _⟩ => some .spawn
  | ⟨⟨_, .writeFrame peer _ message⟩, .ok _⟩ => (topic? message).map (.say peer)
  | ⟨⟨_, .pollRead peer⟩, .frame _ message⟩ => (topic? message).map (.hear peer)
  | _ => none

def supActs (past : SupPast) : List Act := past.filterMap supAct?

def hearsBeat : SupEvent → Bool
  | ⟨⟨_, .pollRead _⟩, .frame _ message⟩ => isHeartbeat message
  | _ => false

def failsSup : SupEvent → Bool
  | ⟨⟨_, .tryLockInFlight⟩, false⟩ => true
  | ⟨⟨_, .connect _⟩, .error _⟩ | ⟨⟨_, .configureControlStream _⟩, .error _⟩
  | ⟨⟨_, .setReadTimeout ..⟩, .error _⟩ | ⟨⟨_, .writeFrame ..⟩, .error _⟩
  | ⟨⟨_, .makeSocketpair⟩, .error _⟩ | ⟨⟨_, .spawn _⟩, .error _⟩
  | ⟨⟨_, .journalWrite _⟩, .error _⟩ => true
  | ⟨⟨_, .pollRead _⟩, .waiting _⟩ | ⟨⟨_, .pollRead _⟩, .failed _⟩ => true
  | _ => false

/-- Nothing fails, and the id and the pid are those of the course. -/
def Course.smoothSup (course : Course) (event : SupEvent) : Bool :=
  !failsSup event && (handoffIdOf? event).all (· == course.handoffId) &&
    (spawns? event).all (· == course.successor)

/-- The frames that arrive are meant for this handoff, and heartbeats come only
once the incumbent was asked to drain. -/
def Course.Sincere (course : Course) (past : SupPast) : SupEvent → Prop
  | ⟨⟨_, .pollRead peer⟩, .frame _ message⟩ =>
      course.replied peer message = true ∧
        (isHeartbeat message = true → .say .incumbent .prepare ∈ supActs past)
  | _ => True

section Events

variable {store : SupStore}

theorem supAct_writes (about : topic? message = some topic) :
    supAct? ⟨⟨store, .writeFrame peer version message⟩, .ok ()⟩ = some (.say peer topic) := by
  change (topic? message).map (Act.say peer) = _
  rw [about, Option.map_some]

theorem supAct_hears (about : topic? message = some topic) :
    supAct? ⟨⟨store, .pollRead peer⟩, .frame version message⟩ = some (.hear peer topic) := by
  change (topic? message).map (Act.hear peer) = _
  rw [about, Option.map_some]

theorem Course.smoothSup_handoffId (course : Course) {handoffId : HandoffId} :
    course.smoothSup ⟨⟨store, .newHandoffId⟩, handoffId⟩ = true ↔ handoffId = course.handoffId := by
  change (handoffId == course.handoffId && true) = true ↔ _
  rw [Bool.and_true, beq_iff_eq]

theorem Course.smoothSup_spawn (course : Course) {command : SpawnCommand} {pid : UInt32} :
    course.smoothSup ⟨⟨store, .spawn command⟩, .ok pid⟩ = true ↔ pid = course.successor :=
  beq_iff_eq

end Events

def Course.window (course : Course) : Duration :=
  min course.spec.drainGrace course.spec.deadline + wireSlack

structure SupGood (course : Course) (past : SupPast) : Prop where
  smooth : ∀ event ∈ past, course.smoothSup event = true
  scripted : supActs past <+: supScript
  sincere : ∀ before event after, past = before ++ event :: after → course.Sincere before event
  beats : past.countP hearsBeat ≤ course.beats
  roomy : Roomy course.spec past
  punctual : ∀ reading ∈ readings past, reading < startedAt past + course.window

theorem supActs_append (past : SupPast) (event : SupEvent) :
    supActs (past ++ [event]) = supActs past ++ (supAct? event).toList := by
  unfold supActs
  rw [List.filterMap_append]
  cases found : supAct? event with
  | none => simp [found]
  | some act => simp [found]

theorem beats_append (past : SupPast) (event : SupEvent) :
    (past ++ [event]).countP hearsBeat =
      past.countP hearsBeat + if hearsBeat event = true then 1 else 0 := by
  rw [List.countP_append, List.countP_singleton]

private theorem startedAt_append {past : SupPast} {event : SupEvent} {reading : Instant}
    (member : reading ∈ readings past) : startedAt (past ++ [event]) = startedAt past := by
  unfold startedAt
  rw [readings_append]
  cases found : readings past with
  | nil =>
      rw [found] at member
      cases member
  | cons first more => rfl

namespace SupGood

variable {course : Course} {past : SupPast} {event : SupEvent}

theorem earlier (good : SupGood course (past ++ [event])) : SupGood course past where
  smooth other member := good.smooth other (List.mem_append_left _ member)
  scripted := by
    have scripted := good.scripted
    rw [supActs_append] at scripted
    exact (List.prefix_append _ _).trans scripted
  sincere before other after split := good.sincere before other (after ++ [event]) (by simp [split])
  beats := by
    have beats := good.beats
    rw [beats_append] at beats
    exact Nat.le_of_add_right_le beats
  roomy := good.roomy.earlier
  punctual reading member := by
    have within := good.punctual reading (by rw [readings_append]; exact List.mem_append_left _ member)
    rw [startedAt_append member] at within
    exact within

theorem last (good : SupGood course (past ++ [event])) : course.smoothSup event = true :=
  good.smooth event (by simp)

theorem latest (good : SupGood course (past ++ [event])) : course.Sincere past event :=
  good.sincere past event [] rfl

end SupGood

def supAssumption (course : Course) : Assumption SupStore SupAns where
  holds := SupGood course
  earlier _ _ good := good.earlier

/-! ### What the supervisor may do next -/

def SupNext (course : Course) (past : SupPast) : SupOp → Prop
  | .connect _ => supActs past ++ [.connect] <+: supScript
  | .makeSocketpair => supActs past ++ [.pair] <+: supScript
  | .spawn _ => supActs past ++ [.spawn] <+: supScript
  | .writeFrame peer _ message => course.told message = true ∧
      ∃ topic, topic? message = some topic ∧ supActs past ++ [.say peer topic] <+: supScript
  | .pollRead peer => ∃ topic, supActs past ++ [.hear peer topic] <+: supScript
  | .close .incumbent => .say .incumbent .commit ∈ supActs past
  | .close .successor => .hear .successor .ready ∈ supActs past
  | .readMessage _ | .journalRead | .kill _ | .wait _ | .outOfFuel => False
  | _ => True

def SupDuty (course : Course) (past : SupPast) (call : Call SupStore SupOp) : Prop :=
  SupNext course past call.op

/-! ### Places in the script -/

/-- The supervisor began at `started`, has performed `count` acts of its script and
read at least `heard` heartbeats. -/
structure Stand (started : Instant) (count heard : Nat) (past : SupPast) : Prop where
  acts : supActs past = supScript.take count
  began : Began started past
  beats : heard ≤ past.countP hearsBeat

namespace Stand

variable {started : Instant} {count heard : Nat} {past : SupPast} {event : SupEvent} {act : Act}

theorem quiet (stand : Stand started count heard past) (unseen : supAct? event = none) :
    Stand started count heard (past ++ [event]) := by
  refine ⟨?_, stand.began.append event, ?_⟩
  · rw [supActs_append, unseen, Option.toList_none, List.append_nil]
    exact stand.acts
  · rw [beats_append]
    exact Nat.le_add_right_of_le stand.beats

theorem step (stand : Stand started count heard past) (planned : supScript[count]? = some act)
    (performed : supAct? event = some act) : Stand started (count + 1) heard (past ++ [event]) := by
  refine ⟨?_, stand.began.append event, ?_⟩
  · rw [supActs_append, performed, stand.acts, List.take_add_one, planned]
  · rw [beats_append]
    exact Nat.le_add_right_of_le stand.beats

theorem beat (stand : Stand started count heard past) (unseen : supAct? event = none)
    (beaten : hearsBeat event = true) : Stand started count (heard + 1) (past ++ [event]) := by
  refine ⟨(stand.quiet unseen).acts, stand.began.append event, ?_⟩
  rw [beats_append, if_pos beaten]
  exact Nat.succ_le_succ stand.beats

private theorem anew (stand : Stand started count heard past) : Stand started count 0 past :=
  ⟨stand.acts, stand.began, Nat.zero_le _⟩

theorem next (stand : Stand started count heard past) (planned : supScript[count]? = some act) :
    supActs past ++ [act] <+: supScript := by
  have longer := List.take_prefix (count + 1) supScript
  rw [List.take_add_one, planned, ← stand.acts] at longer
  exact longer

theorem performed (stand : Stand started count heard past) {index : Nat} (early : index < count)
    (planned : supScript[index]? = some act) : act ∈ supActs past := by
  rw [stand.acts]
  apply List.mem_of_getElem? (i := index)
  rw [List.getElem?_take_of_lt early]
  exact planned

end Stand

/-! ### The functions of a handoff -/

section Walk

/-- `code` does what the script of the supervisor has next. -/
abbrev Directs {Value : Type} (course : Course) (post : Value → SupStore → SupPast → Prop)
    (code : SupM Value) (store : SupStore) (past : SupPast) : Prop :=
  Fulfils (supAssumption course) (SupDuty course) post code store past

variable {Value : Type} {course : Course} {started : Instant} {count heard : Nat}
  {past : SupPast} {store : SupStore} {post : Value → SupStore → SupPast → Prop}

def Stays (started : Instant) (count heard : Nat) (store : SupStore) (_ : Value)
    (now : SupStore) (later : SupPast) : Prop :=
  store = now ∧ Stand started count heard later

def unseenOp : SupOp → Bool
  | .setReadTimeout .. | .readWouldBlock _ | .journalWrite _ | .journalDelete => true
  | _ => false

theorem SupGood.unrefused (good : SupGood course past) : past.any refuses = false := by
  rw [List.any_eq_false]
  intro event member refused
  have smooth := good.smooth event member
  have fails : failsSup event = true := by
    unfold refuses at refused
    split at refused
    · rfl
    · rfl
    · contradiction
  rw [Course.smoothSup, fails] at smooth
  contradiction

/-- Code that fails on a refusal only, and that nobody notices. -/
theorem Stand.reliable {code : SupM Value} (stand : Stand started count heard past)
    (reliable : Reliable unseenOp code) :
    Directs course (Stays started count heard store) code store
      past := by
  have stays : Meets (fun now call => SupGood course now → SupDuty course now call)
      (fun _ now later => now = store ∧ Stand started count heard later) code store past := by
    refine reliable.within.meets (Stand started count heard) stand ?_ ?_
    · intro now op _ unseen _
      cases op with
      | setReadTimeout | readWouldBlock | journalWrite | journalDelete => trivial
      | _ => contradiction
    · intro now op answer stand unseen
      refine stand.quiet ?_
      cases op with
      | setReadTimeout | readWouldBlock | journalWrite | journalDelete => rfl
      | _ => contradiction
  refine (Program.Keeps.and stays (reliable store past)).mono (fun _ _ asked => asked.1) ?_
  rintro ⟨outcome, now⟩ later ⟨⟨same, stands⟩, _, refused⟩ good
  cases outcome with
  | ok value => exact ⟨value, rfl, same.symm, stands⟩
  | error halt =>
      cases halt with
      | panic => exact refused.elim
      | error cause => exact absurd refused (Bool.eq_false_iff.mp (SupGood.unrefused good))

private theorem configure_fulfils {next : SupM Value} (stand : Stand started count heard past)
    (rest : ∀ later, Stand started count heard later →
      Directs course post next store later) :
    Directs course post (do
      orIo (← ask (.configureControlStream peer))
      next) store past := by
  refine Fulfils.callBind (fun _ => trivial) fun answer good => ?_
  cases answer with
  | ok _ => exact rest _ (stand.quiet rfl)
  | error cause => exact absurd good.last Bool.false_ne_true

private theorem writeFrame_fulfils {next : SupM Value} (stand : Stand started count heard past)
    (planned : supScript[count]? = some (.say peer topic)) (about : topic? message = some topic)
    (meant : course.told message = true) (rest : ∀ later, Stand started (count + 1) heard later →
      Directs course post next store later) :
    Directs course post (do
      orErr (← ask (.writeFrame peer version message))
      next) store past := by
  refine Fulfils.callBind (fun _ => ⟨meant, topic, about, stand.next planned⟩) fun answer good => ?_
  cases answer with
  | ok _ => exact rest _ (stand.step planned (supAct_writes about))
  | error cause => exact absurd good.last Bool.false_ne_true

theorem SupGood.arrived
    (good : SupGood course (past ++ [⟨⟨store, .pollRead peer⟩, .frame version message⟩]))
    (stand : Stand started count heard past)
    (planned : supScript[count]? = some (.hear peer topic)) :
    topic? message = some topic ∨ isHeartbeat message = true := by
  have about := good.latest.1
  cases found : topic? message with
  | some other =>
      left
      have scripted := good.scripted
      rw [supActs_append] at scripted
      rw [supAct_hears found, Option.toList_some] at scripted
      have same := next_unique scripted (stand.next planned)
      cases same
      rfl
  | none =>
      right
      cases peer <;> cases message <;> first | rfl | contradiction

theorem SupGood.before {later : SupPast} {reading limit : Instant} (good : SupGood course later)
    (began : Began started later) (member : reading ∈ readings later)
    (ample : started + course.window ≤ limit) : reading < limit := by
  have within := good.punctual reading member
  rw [began.startedAt] at within
  exact Nat.lt_of_lt_of_le within ample

private theorem readUntilLoop_fulfils {limit : Instant} {awaiting : String}
    {pred : Message → Bool} (fuel : Nat) (stand : Stand started count heard past)
    (planned : supScript[count]? = some (.hear peer topic))
    (wanted : ∀ message, topic? message = some topic → pred message = true)
    (ample : started + course.window ≤ limit) (enough : course.beats < fuel + heard) :
    Directs course
      (fun message now later => topic? message = some topic ∧ course.replied peer message = true ∧
        Stays started (count + 1) 0 store message now later)
      (readUntilLoop peer limit awaiting pred fuel) store past := by
  induction fuel generalizing past heard with
  | zero =>
      refine ⟨fun good => ?_, fun answer => answer.elim⟩
      have most := SupGood.beats good
      have least := stand.beats
      omega
  | succ fuel ih =>
      rw [readUntilLoop]
      refine Fulfils.callBind (fun _ => trivial) fun reading good => ?_
      have ticked : Stand started count heard (past ++ [⟨⟨store, .now⟩, reading⟩]) := stand.quiet rfl
      have early : reading < limit := good.before ticked.began (by simp [reading?]) ample
      rw [if_neg (Nat.not_le.mpr early)]
      refine Fulfils.bind (ticked.reliable (armRecvTimeout_reliable peer _ rfl rfl)) ?_
      rintro _ now later _ ⟨rfl, armed⟩
      refine Fulfils.callBind (fun _ => ⟨topic, armed.next planned⟩) fun answer good => ?_
      cases answer with
      | waiting midFrame => exact absurd good.last Bool.false_ne_true
      | failed cause => exact absurd good.last Bool.false_ne_true
      | frame version message =>
          have arrived := good.arrived armed planned
          have settles : topic? message = some topic →
              Directs course (fun message now later => topic? message = some topic ∧
                  course.replied peer message = true ∧
                  Stays started (count + 1) 0 store message now later) (do
                clearRecvTimeout peer
                if pred message then pure message
                else raise (.unexpectedMessage (shortName message)) : SupM Message) store
                (later ++ [⟨⟨store, .pollRead peer⟩, .frame version message⟩]) := by
            intro about
            have stepped : Stand started (count + 1) heard
                (later ++ [⟨⟨store, .pollRead peer⟩, .frame version message⟩]) :=
              armed.step planned (supAct_hears about)
            refine Fulfils.bind (stepped.reliable (clearRecvTimeout_reliable peer rfl)) ?_
            rintro _ now last _ ⟨rfl, cleared⟩
            rw [if_pos (wanted message about)]
            exact fulfils_pure ⟨about, good.latest.1, rfl, cleared.anew⟩
          cases message with
          | heartbeat tsMs => exact ih (armed.beat rfl rfl) (by omega)
          | sealProgress shardsSealed shardsTotal lastRevision => simp [topic?, isHeartbeat] at arrived
          | _ => exact settles (arrived.resolve_right (by simp [isHeartbeat]))

private theorem addInstant_fulfils {instant : Instant} {duration : Duration}
    {next : Instant → SupM Value} (fits : instant + duration < Instant.limit)
    (rest : Directs course post (next (instant + duration)) store
      past) :
    Directs course post (addInstant instant duration >>= next)
      store past := by
  rw [addInstant, if_pos fits]
  exact rest

private theorem addDuration_fulfils {first second : Duration} {next : Duration → SupM Value}
    (fits : first + second < Duration.limit)
    (rest : Directs course post (next (first + second)) store past) :
    Directs course post (addDuration first second >>= next)
      store past := by
  rw [addDuration, if_pos fits]
  exact rest

private theorem readUntil_fulfils {timeout : Duration} {awaiting : String} {pred : Message → Bool}
    {fuel : Nat} (stand : Stand started count heard past)
    (planned : supScript[count]? = some (.hear peer topic))
    (wanted : ∀ message, topic? message = some topic → pred message = true)
    (fits : ∀ start : Instant, SupGood course (past ++ [⟨⟨store, .now⟩, start⟩]) →
      start + max timeout minReadTimeout < Instant.limit ∧
        started + course.window ≤ start + max timeout minReadTimeout)
    (enough : course.beats < fuel) :
    Directs course
      (fun message now later => topic? message = some topic ∧ course.replied peer message = true ∧
        Stays started (count + 1) 0 store message now later)
      (readUntil peer timeout awaiting pred fuel) store past := by
  refine Fulfils.callBind (fun _ => trivial) fun start good => ?_
  obtain ⟨inRange, ample⟩ := fits start good
  exact addInstant_fulfils inRange
    (readUntilLoop_fulfils fuel (stand.anew.quiet rfl) planned wanted ample enough)

private theorem remainingUntil_fulfils {deadline : Instant} {next : Duration → SupM Value}
    (stand : Stand started count heard past)
    (rest : ∀ later counted, SupGood course later → Stand started count heard later →
      counted ∈ readings later →
      Directs course post (next (remainingAt deadline counted))
        store later) :
    Directs course post (remainingUntil deadline >>= next) store
      past := by
  have first : Directs course
      (fun left now later => ∃ counted, left = remainingAt deadline counted ∧
        counted ∈ readings later ∧ Stays started count heard store left now later)
      (remainingUntil deadline) store past := by
    refine Fulfils.callBind (fun _ => trivial) fun counted good => ?_
    exact fulfils_pure ⟨counted, rfl, by simp [reading?], rfl, stand.quiet rfl⟩
  refine Fulfils.bind first ?_
  rintro left now later good ⟨counted, rfl, member, rfl, counting⟩
  exact rest later counted good counting member

private theorem catchError_fulfils {code : SupM Value}
    (inner : Directs course post code store past) :
    Directs course (fun outcome now later => ∃ value, outcome = .ok value ∧ post value now later)
      (catchError code) store past := by
  refine Fulfils.bind (Fulfils.attempt inner) ?_
  rintro outcome now later _ ⟨value, rfl, ends⟩
  exact fulfils_pure ⟨value, rfl, ends⟩

private theorem exchangeHello_fulfils {expectedRole : Side} {handoffId : HandoffId}
    {expectedPid : Option UInt32} (stand : Stand started count heard past)
    (greets : supScript[count]? = some (.hear peer .hello))
    (answers : supScript[count + 1]? = some (.say peer .ack)) (own : handoffId = course.handoffId)
    (unasked : .say .incumbent .prepare ∉ supScript.take count)
    (meant : ∀ role pid buildId theirMin theirMax capabilities,
      course.replied peer (.hello role pid buildId theirMin theirMax capabilities) = true →
        role = expectedRole ∧ (∀ expected, expectedPid = some expected → pid = expected) ∧
          negotiable theirMin theirMax = true) :
    Directs course (Stays started (count + 2) heard store)
      (exchangeHelloAsSupervisor peer handoffId expectedRole expectedPid) store past := by
  rw [exchangeHelloAsSupervisor, exchangeHelloOf]
  refine Fulfils.bind (stand.reliable (armRecvTimeout_reliable peer _ rfl rfl)) ?_
  rintro _ now later _ ⟨rfl, armed⟩
  refine Fulfils.callBind (fun _ => ⟨.hello, armed.next greets⟩) fun polled good => ?_
  cases polled with
  | waiting midFrame => exact absurd good.last Bool.false_ne_true
  | failed cause => exact absurd good.last Bool.false_ne_true
  | frame version message =>
      have about : topic? message = some .hello := by
        refine (good.arrived armed greets).resolve_right ?_
        intro beaten
        have asked := good.latest.2 beaten
        rw [armed.acts] at asked
        exact unasked asked
      have sincere := good.latest.1
      cases message with
      | hello role pid buildId theirMin theirMax capabilities =>
          obtain ⟨rightRole, rightPid, inRange⟩ := meant _ _ _ _ _ _ sincere
          obtain ⟨chosen, agreed⟩ := negotiable_iff.mp inRange
          subst rightRole
          refine Fulfils.bind ((armed.step greets rfl).reliable (clearRecvTimeout_reliable peer rfl)) ?_
          rintro _ now last _ ⟨rfl, cleared⟩
          rcases ruleOnHello_cases .current peer handoffId role expectedPid (.frame version (.hello
              role pid buildId theirMin theirMax capabilities)) with
            ⟨_, _, unexpected⟩ | ⟨_, _, _, _, _, _, same, _, accepted⟩
          · exact absurd rightPid (unexpected _ _ _ _ _ _ rfl)
          · cases same
            rw [accepted, acknowledge]
            simp only [Build.current, agreed]
            refine writeFrame_fulfils cleared answers rfl ?_ fun final acknowledged => ?_
            · simp [Course.told, negotiable_chosen agreed, own]
            · exact fulfils_pure ⟨rfl, acknowledged⟩
      | _ => cases about

structure Apt (course : Course) (started : Instant) (locals : HandoffLocals) : Prop where
  handoffId : locals.handoffId = course.handoffId
  spec : locals.spec = course.spec
  deadline : locals.totalDeadlineAt = started + course.spec.deadline

variable {locals : HandoffLocals} {fuel : Nat}

private theorem journal_fulfils (stand : Stand started count heard past) (phase : Phase) :
    Directs course (Stays started count heard store)
      (locals.journal phase) store past :=
  stand.reliable (journalSet_reliable _ _ _ _ _ fun _ => rfl)

private theorem SupGood.drained_fits {start : Instant} (good : SupGood course past)
    (began : Began started past) (member : start ∈ readings past) :
    start + max (course.spec.drainGrace + wireSlack) minReadTimeout < Instant.limit ∧
      started + course.window ≤ start + max (course.spec.drainGrace + wireSlack) minReadTimeout := by
  refine ⟨(good.roomy.grace_fits member).2, ?_⟩
  have later := good.roomy.started_le began member
  simp only [Instant, Duration, Course.window] at *
  omega

/-- So is the wait for `Ready`, which is counted from an earlier reading. -/
theorem SupGood.ready_fits {start counted : Instant} (good : SupGood course past)
    (began : Began started past) (member : start ∈ readings past) (read : counted ∈ readings past)
    (order : counted ≤ start) :
    start + max (remainingAt (started + course.spec.deadline) counted + wireSlack) minReadTimeout <
        Instant.limit ∧
      started + course.window ≤
        start + max (remainingAt (started + course.spec.deadline) counted + wireSlack)
          minReadTimeout := by
  refine ⟨(good.roomy.ready_fits began read).2 start member, ?_⟩
  simp only [Instant, Duration, Course.window, remainingAt] at *
  split <;> omega

private theorem prepare_fulfils (apt : Apt course started locals)
    (stand : Stand started 7 heard past) (enough : course.beats < fuel) :
    Directs course (Stays started 9 0 store)
      (prepare locals fuel) store past := by
  refine remainingUntil_fulfils stand fun later counted good counting member => ?_
  refine writeFrame_fulfils counting rfl rfl ?_ fun asked asking => ?_
  · simp [Course.told, apt.handoffId]
  · refine Fulfils.assume fun good => ?_
    rw [apt.spec]
    refine addDuration_fulfils (good.roomy.grace_fits (List.mem_of_mem_head? asking.began)).1 ?_
    refine Fulfils.bind (readUntil_fulfils asking rfl ?_ ?_ enough) ?_
    · intro message about
      cases message <;> first | rfl | cases about
    · intro start good
      exact good.drained_fits (asking.began.append _) (by simp [reading?])
    · rintro message now final _ ⟨_, _, rfl, answered⟩
      exact journal_fulfils answered _

private theorem sealWaitLoop_fulfils {limit : Instant} (apt : Apt course started locals)
    (fuel : Nat) (stand : Stand started 10 heard past) (ample : started + course.window ≤ limit)
    (enough : course.beats < fuel + heard) :
    Directs course
      (fun verdict now later => verdict = .ok () ∧ Stays started 11 0 store verdict now later)
      (sealWaitLoop locals limit fuel) store past := by
  induction fuel generalizing past heard with
  | zero =>
      refine ⟨fun good => ?_, fun answer => answer.elim⟩
      have most := SupGood.beats good
      have least := stand.beats
      omega
  | succ fuel ih =>
      rw [sealWaitLoop]
      refine Fulfils.callBind (fun _ => trivial) fun reading good => ?_
      have ticked : Stand started 10 heard (past ++ [⟨⟨store, .now⟩, reading⟩]) := stand.quiet rfl
      have early : reading < limit := good.before ticked.began (by simp [reading?]) ample
      rw [if_neg (Nat.not_le.mpr early)]
      refine Fulfils.bind (ticked.reliable (armRecvTimeout_reliable .incumbent _ rfl rfl)) ?_
      rintro _ now later _ ⟨rfl, armed⟩
      refine Fulfils.callBind (fun _ => ⟨.sealed, armed.next rfl⟩) fun answer good => ?_
      cases answer with
      | waiting midFrame => exact absurd good.last Bool.false_ne_true
      | failed cause => exact absurd good.last Bool.false_ne_true
      | frame version message =>
          have arrived := good.arrived armed rfl
          cases message with
          | heartbeat tsMs => exact ih (armed.beat rfl rfl) (by omega)
          | sealComplete handoffId revisions fingerprint =>
              have own : handoffId = locals.handoffId := by
                have sincere := good.latest.1
                simp only [Course.replied, beq_iff_eq] at sincere
                rw [sincere, apt.handoffId]
              simp only [sealVerdict, own, if_true]
              exact fulfils_pure ⟨rfl, rfl, (armed.step rfl rfl).anew⟩
          | _ => simp [topic?, isHeartbeat] at arrived

private theorem awaitReady_fulfils (apt : Apt course started locals)
    (stand : Stand started 11 heard past) (enough : course.beats < fuel) :
    Directs course (fun verdict now later =>
        isOwnReady locals.handoffId (checkReady locals.handoffId verdict) = true ∧
        Stays started 13 0 store verdict now later)
      (awaitReady locals fuel) store past := by
  have meant : course.told (.begin locals.handoffId) = true := by
    simp [Course.told, apt.handoffId]
  refine Fulfils.callBind (fun _ => ⟨meant, .begin, rfl, stand.next rfl⟩) fun answer good => ?_
  cases answer with
  | error cause => exact absurd good.last Bool.false_ne_true
  | ok _ =>
      have begun : Stand started 12 heard
          (past ++ [⟨⟨store, .writeFrame .successor locals.chosenN
            (.begin locals.handoffId)⟩, .ok ()⟩]) :=
        stand.step rfl rfl
      refine Fulfils.bind (journal_fulfils begun _) ?_
      rintro _ now recorded _ ⟨rfl, recording⟩
      refine remainingUntil_fulfils recording fun later counted good counting member => ?_
      rw [apt.deadline]
      refine addDuration_fulfils (good.roomy.ready_fits counting.began member).1 ?_
      refine Fulfils.mono (catchError_fulfils (readUntil_fulfils counting rfl ?_ ?_ enough)) ?_
      · intro message about
        cases message <;> first | rfl | cases about
      · intro start good
        have order : counted ≤ start := by
          have ordered := good.roomy.ordered
          rw [readings_append, List.pairwise_append] at ordered
          exact ordered.2.2 counted member start (by simp [reading?])
        refine good.ready_fits (counting.began.append _) (by simp [reading?]) ?_ order
        rw [readings_append]
        exact List.mem_append_left _ member
      · rintro verdict now final _ ⟨message, rfl, about, sincere, stays⟩
        refine ⟨?_, stays⟩
        cases message with
        | ready handoffId listeningOn healthzOk revisions =>
            simp only [Course.replied, beq_iff_eq] at sincere
            simp [checkReady, isOwnReady, sincere, apt.handoffId]
        | _ => cases about

def Course.outcome (course : Course) : HandoffOutcome :=
  { handoffId := course.handoffId, committed := true, abortReason := none
    child := some course.successor }

private theorem commitHandoff_fulfils (apt : Apt course started locals)
    (stand : Stand started 13 heard past) (owned : store.guard = some course.successor) :
    Directs course (fun outcome now later => outcome = course.outcome ∧ now.guard = none ∧
        Stand started 14 heard later) (commitHandoff locals) store past := by
  have meant : course.told (.commit locals.handoffId) = true := by
    simp [Course.told, apt.handoffId]
  have disarms : Directs course
      (fun child now later => child = course.successor ∧ now.guard = none ∧ later = past)
      disarm store past := by
    refine Fulfils.loadBind ?_
    rw [owned]
    exact Fulfils.updateBind (fulfils_pure ⟨rfl, rfl, rfl⟩)
  rw [commitHandoff]
  refine Fulfils.bind disarms ?_
  rintro child now _ _ ⟨rfl, unowned, rfl⟩
  refine Fulfils.callBind (fun _ => ⟨meant, .commit, rfl, stand.next rfl⟩) fun answer good => ?_
  cases answer with
  | error cause => exact absurd good.last Bool.false_ne_true
  | ok _ =>
      refine Fulfils.bind (catchError_fulfils (journal_fulfils (stand.step rfl rfl) _)) ?_
      rintro _ _ recorded _ ⟨_, _, rfl, recording⟩
      refine Fulfils.bind (recording.reliable (journalClear_reliable _ rfl)) ?_
      rintro _ _ cleared _ ⟨rfl, clearing⟩
      exact fulfils_pure ⟨by simp [Course.outcome, apt.handoffId], unowned, clearing⟩

def Committed (course : Course) (started : Instant) (heard : Nat) (outcome : HandoffOutcome)
    (now : SupStore) (later : SupPast) : Prop :=
  outcome = course.outcome ∧ now.guard = none ∧ Stand started 14 heard later

private theorem close_fulfils {outcome : HandoffOutcome}
    (committed : Committed course started heard outcome store past) :
    Directs course
      (fun _ last final => Committed course started heard outcome last final) (ask (.close peer))
      store past := by
  obtain ⟨same, unowned, done⟩ := committed
  refine ⟨fun _ => ?_, fun answer good => ⟨answer, rfl, same, unowned, done.quiet rfl⟩⟩
  cases peer with
  | incumbent =>
      have last : 13 < 14 := by decide
      exact done.performed last rfl
  | successor =>
      have early : 12 < 14 := by decide
      exact done.performed early rfl

private theorem sealAndFinish_fulfils (apt : Apt course started locals)
    (stand : Stand started 9 heard past) (owned : store.guard = some course.successor)
    (enough : course.beats < fuel) :
    Directs course (Committed course started 0)
      (sealAndFinish locals fuel) store past := by
  refine writeFrame_fulfils stand rfl rfl ?_ fun asked asking => ?_
  · simp [Course.told, apt.handoffId]
  · refine Fulfils.assume fun good => ?_
    rw [apt.deadline]
    refine addInstant_fulfils (good.roomy.deadline_fits asking.began) ?_
    refine Fulfils.bind (sealWaitLoop_fulfils apt fuel asking.anew ?_ enough) ?_
    · simp only [Course.window, Instant, Duration]
      omega
    · rintro verdict now sealed _ ⟨rfl, rfl, sealing⟩
      refine Fulfils.bind (sealing.reliable (clearRecvTimeout_reliable .incumbent rfl)) ?_
      rintro _ now cleared _ ⟨rfl, clearing⟩
      refine Fulfils.bind (journal_fulfils clearing _) ?_
      rintro _ now recorded _ ⟨rfl, recording⟩
      refine Fulfils.bind (awaitReady_fulfils apt recording enough) ?_
      rintro verdict now final _ ⟨ready, rfl, finishing⟩
      rw [if_pos ready]
      exact commitHandoff_fulfils apt finishing owned

private theorem driveHandoff_fulfils {supervisor : Supervisor} {startedUnixMs : UInt64}
    {chosenO : ProtoVersion} (stand : Stand started 5 heard past)
    (owned : store.guard = some course.successor) (enough : course.beats < fuel) :
    Directs course (Committed course started 0)
      (driveHandoff supervisor course.spec course.handoffId startedUnixMs
        (started + course.spec.deadline) chosenO course.successor fuel) store past := by
  refine configure_fulfils stand fun configured configuring => ?_
  refine Fulfils.bind (exchangeHello_fulfils configuring rfl rfl rfl (by decide) ?_) ?_
  · intro role pid buildId theirMin theirMax capabilities sincere
    simp only [Course.replied, Bool.and_eq_true, beq_iff_eq] at sincere
    obtain ⟨⟨rightRole, rightPid⟩, inRange⟩ := sincere
    refine ⟨rightRole, ?_, inRange⟩
    intro expected expecting
    rw [rightPid]
    exact Option.some.inj expecting
  · rintro chosenN now greeted _ ⟨rfl, greeting⟩
    refine Fulfils.bind (journal_fulfils greeting _) ?_
    rintro _ now recorded _ ⟨rfl, recording⟩
    refine Fulfils.bind (prepare_fulfils ⟨rfl, rfl, rfl⟩ recording enough) ?_
    rintro _ now drained _ ⟨rfl, draining⟩
    exact sealAndFinish_fulfils ⟨rfl, rfl, rfl⟩ draining owned enough

private theorem killAndReap_fulfils (stand : Stand started count heard past)
    (unowned : store.guard = none) :
    Directs course (Stays started count heard store)
      killAndReap store past := by
  refine Fulfils.loadBind ?_
  rw [unowned]
  exact fulfils_pure ⟨rfl, stand⟩

private theorem spawnAndDrive_fulfils {supervisor : Supervisor} {startedUnixMs : UInt64}
    {chosenO : ProtoVersion} (stand : Stand started 3 heard past) (enough : course.beats < fuel) :
    Directs course (Committed course started 0)
      (spawnAndDrive supervisor course.spec course.handoffId startedUnixMs
        (started + course.spec.deadline) chosenO fuel) store past := by
  refine Fulfils.callBind (fun _ => stand.next rfl) fun answer good => ?_
  cases answer with
  | error cause => exact absurd good.last Bool.false_ne_true
  | ok _ =>
      refine Fulfils.callBind (fun _ => (stand.step rfl rfl).next rfl) fun answer good => ?_
      cases answer with
      | error cause => exact absurd good.last Bool.false_ne_true
      | ok pid =>
          have own : pid = course.successor := course.smoothSup_spawn.mp good.last
          subst own
          refine Fulfils.updateBind ?_
          refine Fulfils.callBind (fun _ => trivial) fun _ _ => ?_
          refine Fulfils.ensuring (Fulfils.ensuring (driveHandoff_fulfils
            (((stand.step rfl rfl).step rfl rfl).quiet rfl) rfl enough)
            fun _ _ _ _ => close_fulfils) ?_
          rintro outcome now later _ ⟨rfl, unowned, done⟩
          refine Fulfils.mono (killAndReap_fulfils done unowned) ?_
          rintro _ last final _ ⟨rfl, finished⟩
          exact ⟨rfl, unowned, finished⟩

private theorem connectAndDrive_fulfils {supervisor : Supervisor} {startedUnixMs : UInt64}
    (stand : Stand started 0 heard past) (enough : course.beats < fuel) :
    Directs course (Committed course started 0)
      (connectAndDrive supervisor course.spec course.handoffId startedUnixMs
        (started + course.spec.deadline) fuel) store past := by
  refine Fulfils.callBind (fun _ => stand.next rfl) fun answer good => ?_
  cases answer with
  | error cause => exact absurd good.last Bool.false_ne_true
  | ok _ =>
      have drives : Directs course (Committed course started 0) (do
          orIo (← ask (.configureControlStream .incumbent))
          let chosenO ← exchangeHelloAsSupervisor .incumbent course.handoffId .incumbent none
          spawnAndDrive supervisor course.spec course.handoffId startedUnixMs
            (started + course.spec.deadline) chosenO fuel) store
          (past ++ [⟨⟨store, .connect supervisor.socketPath⟩, .ok ()⟩]) := by
        refine configure_fulfils (stand.step rfl rfl) fun configured configuring => ?_
        refine Fulfils.bind (exchangeHello_fulfils configuring rfl rfl rfl (by decide) ?_) ?_
        · intro role pid buildId theirMin theirMax capabilities sincere
          simp only [Course.replied, Bool.and_eq_true, beq_iff_eq] at sincere
          refine ⟨sincere.1, ?_, sincere.2⟩
          intro expected impossible
          cases impossible
        · rintro chosenO now greeted _ ⟨rfl, greeting⟩
          exact spawnAndDrive_fulfils greeting enough
      exact Fulfils.ensuring drives fun _ _ _ _ => close_fulfils

private theorem lockedHandoff_fulfils (supervisor : Supervisor) (unread : readings past = [])
    (unacted : supActs past = []) (enough : course.beats < fuel) :
    Directs course (fun outcome _ later => outcome = course.outcome ∧ supActs later = supScript) (do
        let handoffId ← ask .newHandoffId
        let startedInstant ← ask .now
        let startedUnixMs ← ask .nowUnixMs
        let totalDeadlineAt ← addInstant startedInstant course.spec.deadline
        connectAndDrive supervisor course.spec handoffId startedUnixMs totalDeadlineAt fuel)
      store past := by
  refine Fulfils.callBind (fun _ => trivial) fun handoffId good => ?_
  have own : handoffId = course.handoffId := course.smoothSup_handoffId.mp good.last
  subst own
  refine Fulfils.callBind (fun _ => trivial) fun started good => ?_
  refine Fulfils.callBind (fun _ => trivial) fun startedUnixMs good => ?_
  have stand : Stand started 0 0 (past ++ [⟨⟨store, .newHandoffId⟩, course.handoffId⟩] ++
      [⟨⟨store, .now⟩, started⟩] ++ [⟨⟨store, .nowUnixMs⟩, startedUnixMs⟩]) := by
    refine ⟨?_, ?_, Nat.zero_le _⟩
    · rw [supActs_append, supActs_append, supActs_append, unacted]
      rfl
    · rw [Began, readings_append, readings_append, readings_append, unread]
      rfl
  refine addInstant_fulfils (Nat.lt_of_le_of_lt (Nat.le_add_right _ _)
    (good.roomy.deadline_fits stand.began)) ?_
  refine Fulfils.mono (connectAndDrive_fulfils stand enough) ?_
  rintro outcome now later _ ⟨rfl, _, done⟩
  exact ⟨rfl, done.acts⟩

theorem performHandoff_fulfils (supervisor : Supervisor) (enough : course.beats < fuel) :
    Directs course (fun outcome _ later => outcome = course.outcome ∧ supActs later = supScript)
      (performHandoff supervisor course.spec fuel) store [] := by
  refine Fulfils.callBind (fun _ => trivial) fun locked good => ?_
  cases locked with
  | false => exact absurd good.last Bool.false_ne_true
  | true =>
      rw [if_pos rfl]
      refine Fulfils.ensuringWith (lockedHandoff_fulfils supervisor rfl rfl enough) ?_
      rintro outcome now later _ ⟨rfl, done⟩
      refine ⟨fun _ => trivial, fun answer good => ⟨answer, rfl, rfl, ?_⟩⟩
      rw [supActs_append, done]
      rfl

end Walk

end Handoff.Plan
