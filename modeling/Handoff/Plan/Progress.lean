/-
As long as the handoff is under way, somebody can go on.

Most operations can be answered at once.  A party that waits for another one has
come to an act of its script; the plan names an act that has nothing left to wait
for, and the party whose act it is finds the frame, the connection or the flock
that it needs.
-/

import Handoff.Effects.Inevitable
import Handoff.Plan.Steps

namespace Handoff.Plan

open Effects

variable {system : System} {course : Course} {incumbent : UInt32} {lock : DataDirLock}
  {world : World system}

/-! ### Time goes on -/

theorem SupGood.onTime {past : SupPast} (good : SupGood course past) :
    course.onTime (readings past) = true := by
  simp only [Course.onTime, Bool.and_eq_true, decide_eq_true_eq, List.all_eq_true]
  exact ⟨good.roomy.ordered, fun time member =>
    ⟨good.roomy.early time member, good.punctual time member⟩⟩

theorem Course.onTime_iff (course : Course) (times : List Instant) :
    course.onTime times = true ↔ times.Pairwise (· ≤ ·) ∧
      ∀ time ∈ times, time < Duration.fromSecs (2 ^ 62) ∧ time < times.headD 0 + course.window := by
  simp only [Course.onTime, Bool.and_eq_true, decide_eq_true_eq, List.all_eq_true]

private theorem Course.onTime_again {times : List Instant} (onTime : course.onTime times = true) :
    course.onTime (times ++ [times.getLastD 0]) = true := by
  rw [Course.onTime_iff] at onTime ⊢
  obtain ⟨ordered, within⟩ := onTime
  cases times using List.reverseRecOn with
  | nil =>
      have slack : 0 < wireSlack := by decide
      have early : (0 : Instant) < Duration.fromSecs (2 ^ 62) := by decide
      refine ⟨List.pairwise_singleton .., fun time member => ?_⟩
      rw [List.mem_singleton.mp member]
      exact ⟨early, Nat.lt_of_lt_of_le slack (by rw [Course.window]; omega)⟩
  | append_singleton front last =>
      have head : (front ++ [last] ++ [last]).headD 0 = (front ++ [last]).headD 0 := by
        cases front <;> rfl
      have final : (front ++ [last]).getLastD 0 = last := by simp
      rw [final, head]
      have before : ∀ time ∈ front ++ [last], time ≤ last := by
        intro time member
        rcases List.mem_append.mp member with early | late
        · exact (List.pairwise_append.mp ordered).2.2 time early last (List.mem_singleton_self _)
        · rw [List.mem_singleton.mp late]
      constructor
      · refine List.pairwise_append.mpr ⟨ordered, List.pairwise_singleton .., ?_⟩
        intro time member other same
        rw [List.mem_singleton.mp same]
        exact before time member
      · intro time member
        rcases List.mem_append.mp member with early | late
        · exact within time early
        · rw [List.mem_singleton.mp late]
          exact within last (by simp)

namespace Staged

/-! ### The supervisor -/

private theorem sup_end (staged : Staged course incumbent lock world) (lane : Side) {act : Act}
    (next : supActs world.sup.thread.past ++ [act] <+: supScript) (talks : onLane lane act = true) :
    world.sup.ends.peer lane = some (laneId lane) := by
  refine staged.joint.wired.endOpen lane ?_ ?_
  · exact earlier_mem_of_next next supScript_nodup (opening_before lane act (mem_of_next next) talks)
  · exact later_not_mem_of_next next supScript_nodup (hangUp_after lane act (mem_of_next next) talks)

theorem supMoves (staged : Staged course incumbent lock world)
    (viable : Viable system course incumbent) {call : Call SupStore SupOp}
    {resume : SupAns call.op → Process SupStore SupAns Halt (Option HandoffOutcome)}
    (next : world.sup.thread.rest = .call call resume)
    (ready : ∀ act, supActs world.sup.thread.past ++ [act] <+: supScript →
      ∀ need, act.needs = some need → need ∈ (sceneOf course incumbent world).done need.party) :
    Moves Step (faultless course) world := by
  have allowed := sup_asked viable staged.task staged.joint.sup next
  have moves : ∀ answer : SupAns call.op, world.admitsSup call.op answer = true →
      course.smoothSup ⟨call, answer⟩ = true →
      course.onTime (readings (world.sup.thread.past ++ [⟨call, answer⟩])) = true →
      Moves Step (faultless course) world := by
    intro answer admitted smooth onTime
    exact ⟨_, _, .sup staged.alive next answer admitted, Bool.and_eq_true_iff.mpr ⟨smooth, onTime⟩⟩
  have onTime := staged.joint.sup.onTime
  have still : ∀ event : SupEvent, reading? event = none →
      course.onTime (readings (world.sup.thread.past ++ [event])) = true := by
    intro event unread
    rw [readings_append, unread, Option.toList_none, List.append_nil]
    exact onTime
  obtain ⟨store, op⟩ := call
  cases op with
  | now =>
      refine moves ((readings world.sup.thread.past).getLastD 0) rfl rfl ?_
      rw [readings_append]
      exact Course.onTime_again onTime
  | connect path =>
      refine moves (.ok ()) ?_ rfl (still _ rfl)
      simp [World.admitsSup, staged.listener_incumbent allowed]
  | spawn command =>
      have unborn : world.prims course.successor = none :=
        staged.cast.unborn (later_not_mem_of_next allowed supScript_nodup (Or.inl rfl))
      refine moves (.ok course.successor) ?_ ?_ (still _ rfl)
      · simp [World.admitsSup, unborn]
      · exact course.smoothSup_spawn.mpr rfl
  | writeFrame lane version message =>
      obtain ⟨told, topic, about, planned⟩ := allowed
      have peer := staged.sup_end lane planned (by simp [onLane])
      have present : leave lane ∉ (sceneOf course incumbent world).done (laneParty lane) := by
        have enabled : Wired.Enabled (sceneOf course incumbent world).done (.say lane topic) :=
          enabled_sup planned (ready _ planned)
        rw [← leave_party]
        exact enabled.pending staged.joint.wired.followed
          (Or.inr (say_precedes_leave (mem_of_next planned)))
      have listening : (world.streams (laneId lane)).primOpen = true := by
        refine (staged.joint.linked lane).primOpen ?_
        rw [← doneBy_lane]
        exact present
      refine moves (.ok ()) ?_ rfl (still _ rfl)
      simp [World.admitsSup, peer, listening]
  | pollRead lane =>
      obtain ⟨topic, waits⟩ := allowed
      have peer := staged.sup_end lane waits (by simp [onLane])
      have said := ready _ waits _ rfl
      rw [heard_party (mem_of_next waits)] at said
      have sent : .say lane topic ∈ primActs ((sceneOf course incumbent world).prims lane) := by
        rw [← doneBy_lane]
        exact said
      obtain ⟨⟨version, message⟩, found⟩ := (staged.joint.linked lane).supCanHear waits sent
      refine moves (.frame version message) ?_ rfl (still _ rfl)
      change (world.streams (laneId lane)).toSup = some (version, message) at found
      simp [World.admitsSup, peer, found]
  | tryLockInFlight => exact moves true rfl rfl (still _ rfl)
  | newHandoffId =>
      exact moves course.handoffId rfl (course.smoothSup_handoffId.mpr rfl) (still _ rfl)
  | nowUnixMs => exact moves 0 rfl rfl (still _ rfl)
  | readWouldBlock lane => exact moves false rfl rfl (still _ rfl)
  | closeChildEnd | close _ | releaseInFlight _ => exact moves () rfl rfl (still _ rfl)
  | configureControlStream _ | setReadTimeout _ _ | makeSocketpair | journalWrite _ | journalDelete =>
      exact moves (.ok ()) rfl rfl (still _ rfl)
  | readMessage _ | journalRead | kill _ | wait _ | outOfFuel => exact allowed.elim

/-! ### The primitives -/

/-- The answer depends on what the others do. -/
def waitsFor : PrimOp → Bool
  | .accept | .pollRead _ | .readMessage | .writeFrame .. | .flock | .outOfFuel => true
  | _ => false

private theorem peerUidIsAllowed_self (euid : UInt32) : peerUidIsAllowed euid euid [] = true := by
  simp [peerUidIsAllowed]

variable {call : Call PrimStore PrimOp}

private theorem answered_at_once (world : World system) (euid : UInt32)
    (alone : waitsFor call.op = false) (sockets : Sockets) :
    ∃ answer : PrimAns call.op,
      smoothPrim euid ⟨call, answer⟩ = true ∧ world.admitsPrim sockets call.op answer = true := by
  obtain ⟨store, op⟩ := call
  cases op with
  | accept | pollRead _ | readMessage | writeFrame _ _ _ | flock | outOfFuel => cases alone
  | peerUid => exact ⟨.ok euid, peerUidIsAllowed_self euid, rfl⟩
  | now => exact ⟨(0 : Instant), rfl, rfl⟩
  | nowUnixMs => exact ⟨(0 : UInt64), rfl, rfl⟩
  | drain _ => exact ⟨.ok ⟨0, true⟩, rfl, rfl⟩
  | readPidfile => exact ⟨none, rfl, rfl⟩
  | sleep _ | close _ | removePidTemp | closeLockFile | removePidfile | releaseFlock
  | removeStaging | closeListener => exact ⟨(), rfl, rfl⟩
  | configureControlStream | setReadTimeout _ | tryClone | resumeAfterAbort | createDataDir
  | openLockFile | openPidTemp | writePidTemp _ | syncPidTemp | renamePidTemp | syncDataDir
  | probePid _ | createSocketDir | bindStaging | chmodStaging | renameStaging | setCloexec =>
      exact ⟨.ok (), rfl, rfl⟩
  | _ => exact ⟨.ok ⟨[], Vector.replicate 32 0⟩, rfl, rfl⟩

variable {resume : PrimAns call.op → Process PrimStore PrimAns Error Unit}

private theorem primMoves (course : Course) {pid : UInt32} {prim : Prim system pid}
    (there : world.prims pid = some prim) (alive : prim.alive = true)
    (next : prim.thread.rest = .call call resume) (answer : PrimAns call.op)
    (admitted : world.admitsPrim prim.sockets call.op answer = true)
    (smooth : smoothPrim (system.host pid).euid ⟨call, answer⟩ = true) :
    Moves Step (faultless course) world :=
  ⟨_, _, .prim there alive next answer admitted, smooth⟩

section Lanes

variable (staged : Staged course incumbent lock world) (lane : Side)
  {prim : Prim system (lanePid course incumbent lane)}
  (there : world.prims (lanePid course incumbent lane) = some prim) {act : Act}
  (next : primActs prim.thread.past ++ [act] <+: laneScript lane)

include staged there next

private theorem lane_end (here : lane = .successor → .spawn ∈ supActs world.sup.thread.past)
    (talks : onLane lane act = true) :
    prim.sockets.channel (laneChannel lane) = some (laneId lane) := by
  rw [← sockets_eq lane there]
  refine staged.joint.wired.channelOpen lane ?_ ?_
  · cases lane with
    | incumbent =>
        have performed : (sceneOf course incumbent world).done .incumbent = _ :=
          done_eq .incumbent there
        change _ ∈ (sceneOf course incumbent world).done .incumbent
        rw [performed]
        exact earlier_mem_of_next next (laneScript_nodup .incumbent)
          (accept_before act (mem_of_next next) talks)
    | successor => exact here rfl
  · change _ ∉ (sceneOf course incumbent world).done (laneParty lane)
    rw [done_eq lane there]
    exact later_not_mem_of_next next (laneScript_nodup lane)
      (leave_after lane act (mem_of_next next) talks)

private theorem sup_listens {topic : Topic} (spoken : act = .say lane topic)
    (ready : ∀ need, act.needs = some need → need ∈ (sceneOf course incumbent world).done need.party) :
    (world.streams (laneId lane)).supOpen = true := by
  subst spoken
  refine (staged.joint.linked lane).supOpen ?_
  have pending := (enabled lane there next ready).pending staged.joint.wired.followed
    (Or.inr (say_precedes_hangUp (mem_of_next next)))
  rw [hangUp_party] at pending
  exact pending

private theorem lane_frame {topic : Topic} (hears : act = .hear lane topic)
    (ready : ∀ need, act.needs = some need → need ∈ (sceneOf course incumbent world).done need.party) :
    ∃ frame, (world.streams (laneId lane)).toPrim = some frame := by
  subst hears
  have said := ready _ rfl
  rw [told_party (mem_of_next next)] at said
  rw [← past_eq lane there] at next
  exact (staged.joint.linked lane).primCanHear next said

end Lanes

theorem incumbentMoves (staged : Staged course incumbent lock world)
    (viable : Viable system course incumbent) {prim : Prim system incumbent}
    (there : world.prims incumbent = some prim) (next : prim.thread.rest = .call call resume)
    (ready : ∀ act, primActs prim.thread.past ++ [act] <+: incumbentScript →
      ∀ need, act.needs = some need → need ∈ (sceneOf course incumbent world).done need.party) :
    Moves Step (faultless course) world := by
  obtain ⟨kind, alive⟩ := staged.cast.kind incumbent_here there
  have allowed := (incumbent_asked viable kind (staged.prim_good .incumbent there) next).1
  have moves := primMoves course there alive next
  by_cases alone : waitsFor call.op = false
  · obtain ⟨answer, smooth, admitted⟩ :=
      answered_at_once world (system.host incumbent).euid alone prim.sockets
    exact moves answer admitted smooth
  · obtain ⟨store, op⟩ := call
    cases op with
    | accept =>
        have connected : Act.connect ∈ supActs world.sup.thread.past := ready _ allowed _ rfl
        have performed : (sceneOf course incumbent world).done .incumbent =
            primActs prim.thread.past := done_eq .incumbent there
        have unaccepted : Act.accept ∉ (sceneOf course incumbent world).done .incumbent := by
          rw [performed]
          exact later_not_mem_of_next allowed (laneScript_nodup .incumbent) (Or.inl rfl)
        have waiting : prim.sockets.backlog = [0] := by
          rw [← sockets_eq .incumbent there]
          refine staged.joint.wired.backlog.trans ?_
          rw [if_pos ⟨connected, unaccepted⟩]
        exact moves (.ok ()) (by simp [World.admitsPrim, waiting]) rfl
    | pollRead armed =>
        obtain ⟨topic, waits⟩ := allowed
        have session := staged.lane_end .incumbent there waits incumbent_here rfl
        obtain ⟨⟨version, message⟩, found⟩ :=
          staged.lane_frame .incumbent there waits rfl (ready _ waits)
        refine moves (.frame version message) ?_ rfl
        simp [World.admitsPrim, show prim.sockets.session = some _ from session, found]
    | writeFrame channel version message =>
        cases channel with
        | control => exact allowed.elim
        | session =>
            obtain ⟨_, topic, _, planned⟩ := allowed
            have session := staged.lane_end .incumbent there planned incumbent_here rfl
            have listens := staged.sup_listens .incumbent there planned rfl (ready _ planned)
            refine moves (.ok ()) ?_ rfl
            simp [World.admitsPrim, show prim.sockets.channel .session = some _ from session, listens]
    | readMessage | flock | outOfFuel => exact allowed.elim
    | _ => exact absurd rfl alone

theorem successorMoves (staged : Staged course incumbent lock world)
    (viable : Viable system course incumbent) {prim : Prim system course.successor}
    (here : .spawn ∈ supActs world.sup.thread.past)
    (there : world.prims course.successor = some prim)
    (next : prim.thread.rest = .call call resume) (other : call.op ≠ .accept)
    (ready : ∀ act, primActs prim.thread.past ++ [act] <+: successorScript →
      ∀ need, act.needs = some need → need ∈ (sceneOf course incumbent world).done need.party) :
    Moves Step (faultless course) world := by
  have born := successor_here here
  obtain ⟨kind, alive⟩ := staged.cast.kind born there
  have allowed := (successor_asked viable kind (staged.prim_good .successor there) next).1
  have moves := primMoves course there alive next
  by_cases alone : waitsFor call.op = false
  · obtain ⟨answer, smooth, admitted⟩ :=
      answered_at_once world (system.host course.successor).euid alone prim.sockets
    exact moves answer admitted smooth
  · obtain ⟨store, op⟩ := call
    cases op with
    | accept => exact absurd rfl other
    | readMessage =>
        obtain ⟨topic, waits⟩ := allowed
        have control := staged.lane_end .successor there waits born rfl
        obtain ⟨frame, found⟩ := staged.lane_frame .successor there waits rfl (ready _ waits)
        refine moves (.ok frame) ?_ rfl
        simp [World.admitsPrim, show prim.sockets.control = some _ from control, found]
    | writeFrame channel version message =>
        cases channel with
        | session => exact allowed.elim
        | control =>
            obtain ⟨_, topic, _, planned⟩ := allowed
            have control := staged.lane_end .successor there planned born rfl
            have listens := staged.sup_listens .successor there planned rfl (ready _ planned)
            refine moves (.ok ()) ?_ rfl
            simp [World.admitsPrim, show prim.sockets.channel .control = some _ from control, listens]
    | flock =>
        exact moves .locked (by simp [World.admitsPrim, staged.flock_free there allowed]) rfl
    | pollRead _ | outOfFuel => exact allowed.elim
    | _ => exact absurd rfl alone

end Staged

end Handoff.Plan
