/-
The streams between the parties, and what their histories say about them.

A stream keeps what was ever written in either direction.  What its two ends
have written and read so far is in their histories; `Linked` says that the two
accounts agree.  The topics of the frames are the acts of the scripts, so a
reader whose script waits for a topic finds it as soon as it was sent.
-/

import Handoff.Plan.Primitives
import Handoff.Plan.Supervisor
import Handoff.World.State

namespace Handoff.Plan

open Effects

/-! ### Frames in the histories -/

def supSaid? (lane : Side) : SupEvent → Option Frame
  | ⟨⟨_, .writeFrame peer version message⟩, .ok _⟩ =>
      if peer = lane then some (version, message) else none
  | _ => none

def supHeard? (lane : Side) : SupEvent → Option Frame
  | ⟨⟨_, .pollRead peer⟩, .frame version message⟩ =>
      if peer = lane then some (version, message) else none
  | _ => none

def primSaid? (lane : Side) : PrimEvent → Option Frame
  | ⟨⟨_, .writeFrame channel version message⟩, .ok _⟩ =>
      if channelLane channel = lane then some (version, message) else none
  | _ => none

def primHeard? : Side → PrimEvent → Option Frame
  | .incumbent, ⟨⟨_, .pollRead _⟩, .frame version message⟩ => some (version, message)
  | .successor, ⟨⟨_, .readMessage⟩, .ok frame⟩ => some frame
  | _, _ => none

def supSaid (lane : Side) (past : SupPast) : List Frame := past.filterMap (supSaid? lane)

def supHeard (lane : Side) (past : SupPast) : List Frame := past.filterMap (supHeard? lane)

def primSaid (lane : Side) (past : PrimPast) : List Frame := past.filterMap (primSaid? lane)

def primHeard (lane : Side) (past : PrimPast) : List Frame := past.filterMap (primHeard? lane)

private theorem supSaid_append (lane : Side) (past : SupPast) (event : SupEvent) :
    supSaid lane (past ++ [event]) = supSaid lane past ++ (supSaid? lane event).toList :=
  filterMap_snoc _ past event

theorem supHeard_append (lane : Side) (past : SupPast) (event : SupEvent) :
    supHeard lane (past ++ [event]) = supHeard lane past ++ (supHeard? lane event).toList :=
  filterMap_snoc _ past event

private theorem primSaid_append (lane : Side) (past : PrimPast) (event : PrimEvent) :
    primSaid lane (past ++ [event]) = primSaid lane past ++ (primSaid? lane event).toList :=
  filterMap_snoc _ past event

private theorem primHeard_append (lane : Side) (past : PrimPast) (event : PrimEvent) :
    primHeard lane (past ++ [event]) = primHeard lane past ++ (primHeard? lane event).toList :=
  filterMap_snoc _ past event

/-! ### Topics -/

def frameTopic? (frame : Frame) : Option Topic := topic? frame.2

def sayTopic? (lane : Side) : Act → Option Topic
  | .say other topic => if other = lane then some topic else none
  | _ => none

def hearTopic? (lane : Side) : Act → Option Topic
  | .hear other topic => if other = lane then some topic else none
  | _ => none

private theorem filterMap_agree {Item First Second Last : Type} {first? : Item → Option First}
    {second? : Item → Option Second} {left? : First → Option Last} {right? : Second → Option Last}
    (each : ∀ item, (first? item).bind left? = (second? item).bind right?) (items : List Item) :
    (items.filterMap first?).filterMap left? = (items.filterMap second?).filterMap right? := by
  rw [List.filterMap_filterMap, List.filterMap_filterMap]
  apply List.filterMap_congr
  intro item _
  exact each item

private theorem supSaid_topics (lane : Side) (past : SupPast) :
    (supSaid lane past).filterMap frameTopic? = (supActs past).filterMap (sayTopic? lane) := by
  apply filterMap_agree
  rintro ⟨⟨store, op⟩, answer⟩
  cases op with
  | writeFrame peer version message =>
      cases answer with
      | error cause => rfl
      | ok done =>
          by_cases same : peer = lane
          · cases about : topic? message <;>
              simp [supSaid?, supAct?, same, frameTopic?, sayTopic?, about]
          · cases about : topic? message <;> simp [supSaid?, supAct?, same, sayTopic?, about]
  | pollRead peer =>
      cases answer with
      | frame version message =>
          cases about : topic? message <;> simp [supSaid?, supAct?, sayTopic?, about]
      | _ => rfl
  | connect path => cases answer <;> rfl
  | makeSocketpair => cases answer <;> rfl
  | spawn command => cases answer <;> rfl
  | _ => rfl

private theorem supHeard_topics (lane : Side) (past : SupPast) :
    (supHeard lane past).filterMap frameTopic? = (supActs past).filterMap (hearTopic? lane) := by
  apply filterMap_agree
  rintro ⟨⟨store, op⟩, answer⟩
  cases op with
  | pollRead peer =>
      cases answer with
      | frame version message =>
          by_cases same : peer = lane
          · cases about : topic? message <;>
              simp [supHeard?, supAct?, same, frameTopic?, hearTopic?, about]
          · cases about : topic? message <;> simp [supHeard?, supAct?, same, hearTopic?, about]
      | _ => rfl
  | writeFrame peer version message =>
      cases answer with
      | error cause => rfl
      | ok done => cases about : topic? message <;> simp [supHeard?, supAct?, hearTopic?, about]
  | connect path => cases answer <;> rfl
  | makeSocketpair => cases answer <;> rfl
  | spawn command => cases answer <;> rfl
  | _ => rfl

private theorem primSaid_topics (lane : Side) (past : PrimPast) :
    (primSaid lane past).filterMap frameTopic? = (primActs past).filterMap (sayTopic? lane) := by
  apply filterMap_agree
  rintro ⟨⟨store, op⟩, answer⟩
  cases op with
  | writeFrame channel version message =>
      cases answer with
      | error cause => rfl
      | ok done =>
          by_cases same : channelLane channel = lane
          · cases about : topic? message <;>
              simp [primSaid?, primAct?, same, frameTopic?, sayTopic?, about]
          · cases about : topic? message <;> simp [primSaid?, primAct?, same, sayTopic?, about]
  | pollRead armed =>
      cases answer with
      | frame version message =>
          cases about : topic? message <;> simp [primSaid?, primAct?, sayTopic?, about]
      | _ => rfl
  | readMessage =>
      cases answer with
      | error cause => rfl
      | ok frame => cases about : topic? frame.2 <;> simp [primSaid?, primAct?, sayTopic?, about]
  | accept => cases answer <;> rfl
  | flock => cases answer <;> rfl
  | renameStaging => cases answer <;> rfl
  | _ => rfl

private theorem primHeard_topics (lane : Side) (past : PrimPast) :
    (primHeard lane past).filterMap frameTopic? = (primActs past).filterMap (hearTopic? lane) := by
  apply filterMap_agree
  rintro ⟨⟨store, op⟩, answer⟩
  cases op with
  | pollRead armed =>
      cases answer with
      | frame version message =>
          cases lane <;> cases about : topic? message <;>
            simp [primHeard?, primAct?, frameTopic?, hearTopic?, about]
      | _ => cases lane <;> rfl
  | readMessage =>
      cases answer with
      | error cause => cases lane <;> rfl
      | ok frame =>
          cases lane <;> cases about : topic? frame.2 <;>
            simp [primHeard?, primAct?, frameTopic?, hearTopic?, about]
  | writeFrame channel version message =>
      cases answer with
      | error cause => cases lane <;> rfl
      | ok done =>
          cases lane <;> cases about : topic? message <;> simp [primHeard?, primAct?, hearTopic?, about]
  | accept => cases lane <;> cases answer <;> rfl
  | flock => cases lane <;> cases answer <;> rfl
  | renameStaging => cases lane <;> cases answer <;> rfl
  | _ => cases lane <;> rfl

/-! ### Streams -/

def hangUp : Side → Act
  | .incumbent => .say .incumbent .commit
  | .successor => .hear .successor .ready

def leave : Side → Act
  | .incumbent => .hear .incumbent .commit
  | .successor => .say .successor .ready

def laneScript : Side → List Act
  | .incumbent => incumbentScript
  | .successor => successorScript

def isBeat (frame : Frame) : Bool := isHeartbeat frame.2

structure Linked (course : Course) (lane : Side) (sup : SupPast) (prim : PrimPast)
    (stream : Stream) : Prop where
  sent : stream.sent = supSaid lane sup
  taken : stream.taken = (primHeard lane prim).length
  read : primHeard lane prim <+: stream.sent
  replies : stream.replies.filter (fun frame => !isBeat frame) = primSaid lane prim
  counted : stream.heard = (supHeard lane sup).length
  polled : supHeard lane sup <+: stream.replies
  beats : ∀ frame ∈ stream.replies, isBeat frame = true →
    lane = .incumbent ∧ .say .incumbent .prepare ∈ supActs sup
  bounded : stream.replies.countP isBeat ≤ course.beats
  told : ∀ frame ∈ stream.sent, course.told frame.2 = true
  replied : ∀ frame ∈ stream.replies, course.replied lane frame.2 = true
  supOpen : hangUp lane ∉ supActs sup → stream.supOpen = true
  primOpen : leave lane ∉ primActs prim → stream.primOpen = true

theorem supActs_grows {past : SupPast} (event : SupEvent) {act : Act}
    (member : act ∈ supActs past) :
    act ∈ supActs (past ++ [event]) := by
  rw [supActs_append]
  exact List.mem_append_left _ member

theorem primActs_grows {past : PrimPast} (event : PrimEvent) {act : Act}
    (member : act ∈ primActs past) : act ∈ primActs (past ++ [event]) := by
  rw [primActs_append]
  exact List.mem_append_left _ member

private theorem snoc_front {Item : Type} {front whole : List Item} {item : Item}
    (start : front <+: whole) (next : whole[front.length]? = some item) :
    front ++ [item] <+: whole := by
  obtain ⟨rest, rfl⟩ := start
  rw [List.getElem?_append_right (Nat.le_refl _), Nat.sub_self] at next
  cases rest with
  | nil => contradiction
  | cons first rest =>
      cases next
      rw [List.prefix_append_right_inj]
      exact ⟨rest, rfl⟩

namespace Linked

variable {course : Course} {lane : Side} {sup : SupPast} {prim : PrimPast} {stream : Stream}
  {frame : Frame}

section Steps

variable (linked : Linked course lane sup prim stream)

include linked

variable {event : SupEvent}

theorem supQuiet (unsaid : supSaid? lane event = none) (unheard : supHeard? lane event = none) :
    Linked course lane (sup ++ [event]) prim stream where
  __ := linked
  sent := by simpa [supSaid_append, unsaid] using linked.sent
  counted := by simpa [supHeard_append, unheard] using linked.counted
  polled := by simpa [supHeard_append, unheard] using linked.polled
  beats frame member beat := by
    obtain ⟨same, asked⟩ := linked.beats frame member beat
    exact ⟨same, supActs_grows event asked⟩
  supOpen unfinished := linked.supOpen fun performed => unfinished (supActs_grows event performed)

theorem supSays (said : supSaid? lane event = some frame) (unheard : supHeard? lane event = none)
    (told : course.told frame.2 = true) :
    Linked course lane (sup ++ [event]) prim (stream.send frame) where
  __ := linked
  sent := by simp [Stream.send, supSaid_append, said, linked.sent]
  read := linked.read.trans (List.prefix_append _ _)
  counted := by simpa [Stream.send, supHeard_append, unheard] using linked.counted
  polled := by simpa [Stream.send, supHeard_append, unheard] using linked.polled
  beats other member beat := by
    obtain ⟨same, asked⟩ := linked.beats other member beat
    exact ⟨same, supActs_grows event asked⟩
  told other member := by
    rcases List.mem_append.mp member with early | late
    · exact linked.told other early
    · rw [List.mem_singleton.mp late]
      exact told
  supOpen unfinished := linked.supOpen fun performed => unfinished (supActs_grows event performed)

theorem supHears (unsaid : supSaid? lane event = none) (heard : supHeard? lane event = some frame)
    (next : stream.toSup = some frame) :
    Linked course lane (sup ++ [event]) prim stream.hear where
  __ := linked
  sent := by simpa [Stream.hear, supSaid_append, unsaid] using linked.sent
  counted := by simp [Stream.hear, supHeard_append, heard, linked.counted]
  polled := by
    rw [Stream.toSup, linked.counted] at next
    rw [supHeard_append, heard]
    exact snoc_front linked.polled next
  beats other member beat := by
    obtain ⟨same, asked⟩ := linked.beats other member beat
    exact ⟨same, supActs_grows event asked⟩
  supOpen unfinished := linked.supOpen fun performed => unfinished (supActs_grows event performed)

theorem supCloses (performed : hangUp lane ∈ supActs sup) :
    Linked course lane sup prim stream.closeSup where
  __ := linked
  supOpen unfinished := absurd performed unfinished

theorem primQuiet {event : PrimEvent} (unsaid : primSaid? lane event = none)
    (unheard : primHeard? lane event = none) :
    Linked course lane sup (prim ++ [event]) stream where
  __ := linked
  taken := by simpa [primHeard_append, unheard] using linked.taken
  read := by simpa [primHeard_append, unheard] using linked.read
  replies := by simpa [primSaid_append, unsaid] using linked.replies
  primOpen unfinished := linked.primOpen fun performed => unfinished (primActs_grows event performed)

theorem primSays {event : PrimEvent} (said : primSaid? lane event = some frame)
    (unheard : primHeard? lane event = none) (plain : isBeat frame = false)
    (replied : course.replied lane frame.2 = true) :
    Linked course lane sup (prim ++ [event]) (stream.reply frame) where
  __ := linked
  taken := by simpa [Stream.reply, primHeard_append, unheard] using linked.taken
  read := by simpa [Stream.reply, primHeard_append, unheard] using linked.read
  replies := by simp [Stream.reply, primSaid_append, said, plain, linked.replies]
  polled := linked.polled.trans (List.prefix_append _ _)
  beats other member beat := by
    rcases List.mem_append.mp member with early | late
    · exact linked.beats other early beat
    · rw [List.mem_singleton.mp late, plain] at beat
      cases beat
  bounded := by simpa [Stream.reply, plain] using linked.bounded
  replied other member := by
    rcases List.mem_append.mp member with early | late
    · exact linked.replied other early
    · rw [List.mem_singleton.mp late]
      exact replied
  primOpen unfinished := linked.primOpen fun performed => unfinished (primActs_grows event performed)

theorem primHears {event : PrimEvent} (unsaid : primSaid? lane event = none)
    (heard : primHeard? lane event = some frame) (next : stream.toPrim = some frame) :
    Linked course lane sup (prim ++ [event]) stream.take where
  __ := linked
  taken := by simp [Stream.take, primHeard_append, heard, linked.taken]
  read := by
    rw [Stream.toPrim, linked.taken] at next
    rw [primHeard_append, heard]
    exact snoc_front linked.read next
  replies := by simpa [Stream.take, primSaid_append, unsaid] using linked.replies
  primOpen unfinished := linked.primOpen fun performed => unfinished (primActs_grows event performed)

theorem primCloses (performed : leave lane ∈ primActs prim) :
    Linked course lane sup prim stream.closePrim where
  __ := linked
  primOpen unfinished := absurd performed unfinished

end Steps

theorem beaten (linked : Linked course .incumbent sup prim stream) {version : ProtoVersion}
    {tsMs : UInt64} (asked : .say .incumbent .prepare ∈ supActs sup)
    (room : stream.replies.countP isBeat < course.beats) :
    Linked course .incumbent sup prim (stream.reply (version, .heartbeat tsMs)) where
  __ := linked
  replies := by simpa [Stream.reply, isBeat, isHeartbeat] using linked.replies
  polled := linked.polled.trans (List.prefix_append _ _)
  beats _ _ _ := ⟨rfl, asked⟩
  bounded := by
    have one : List.countP isBeat [((version, .heartbeat tsMs) : Frame)] = 1 := rfl
    rw [Stream.reply, List.countP_append, one]
    exact room
  replied other member := by
    rcases List.mem_append.mp member with early | late
    · exact linked.replied other early
    · rw [List.mem_singleton.mp late]
      rfl

/-! ### What a reader finds -/

/-- The topics that travel towards the supervisor, and those that travel from it. -/
def replyTopics (lane : Side) : List Topic := supScript.filterMap (hearTopic? lane)

def tellTopics (lane : Side) : List Topic := supScript.filterMap (sayTopic? lane)

private theorem replyTopics_said (lane : Side) :
    (laneScript lane).filterMap (sayTopic? lane) = replyTopics lane := by
  cases lane <;> decide

private theorem tellTopics_heard (lane : Side) :
    (laneScript lane).filterMap (hearTopic? lane) = tellTopics lane := by
  cases lane <;> decide

private theorem replyTopics_nodup (lane : Side) : (replyTopics lane).Nodup := by
  cases lane <;> decide

private theorem tellTopics_nodup (lane : Side) : (tellTopics lane).Nodup := by
  cases lane <;> decide

variable (linked : Linked course lane sup prim stream)

include linked

theorem reply_topics :
    stream.replies.filterMap frameTopic? = (primActs prim).filterMap (sayTopic? lane) := by
  rw [← primSaid_topics, ← linked.replies, List.filterMap_filter]
  apply List.filterMap_congr
  intro frame _
  obtain ⟨version, message⟩ := frame
  cases message <;> rfl

theorem tell_topics :
    stream.sent.filterMap frameTopic? = (supActs sup).filterMap (sayTopic? lane) := by
  rw [linked.sent, supSaid_topics]

variable {topic : Topic}

theorem supFinds (scripted : primActs prim <+: laneScript lane)
    (waits : supActs sup ++ [.hear lane topic] <+: supScript) (found : stream.toSup = some frame) :
    isBeat frame = true ∨ frameTopic? frame = some topic := by
  have replied := linked.replied frame (List.mem_of_getElem? found)
  cases about : frameTopic? frame with
  | none =>
      left
      obtain ⟨version, message⟩ := frame
      cases lane <;> cases message <;> first | rfl | contradiction
  | some other =>
      right
      have planned : stream.replies.filterMap frameTopic? <+: replyTopics lane := by
        rw [linked.reply_topics, ← replyTopics_said]
        exact scripted.filterMap _
      have expects := waits.filterMap (hearTopic? lane)
      rw [filterMap_snoc, ← supHeard_topics] at expects
      simp only [hearTopic?, if_true, Option.toList_some] at expects
      rw [Stream.toSup, linked.counted] at found
      rw [topic_expected (snoc_front linked.polled found) planned expects about]

theorem supCanHear (waits : supActs sup ++ [.hear lane topic] <+: supScript)
    (said : .say lane topic ∈ primActs prim) : ∃ frame, stream.toSup = some frame := by
  have expects := waits.filterMap (hearTopic? lane)
  rw [filterMap_snoc, ← supHeard_topics] at expects
  simp only [hearTopic?, if_true, Option.toList_some] at expects
  have arrived := topic_arrived (replyTopics_nodup lane) linked.polled expects (by
    rw [linked.reply_topics, List.mem_filterMap]
    exact ⟨_, said, by simp [sayTopic?]⟩)
  rw [Stream.toSup, linked.counted]
  exact ⟨_, List.getElem?_eq_getElem arrived⟩

theorem primFinds (scripted : supActs sup <+: supScript)
    (waits : primActs prim ++ [.hear lane topic] <+: laneScript lane)
    (found : stream.toPrim = some frame) :
    course.told frame.2 = true ∧ frameTopic? frame = some topic := by
  have told := linked.told frame (List.mem_of_getElem? found)
  refine ⟨told, ?_⟩
  obtain ⟨other, about⟩ := told_topic told
  have planned : stream.sent.filterMap frameTopic? <+: tellTopics lane := by
    rw [linked.tell_topics]
    exact scripted.filterMap _
  have expects := waits.filterMap (hearTopic? lane)
  rw [filterMap_snoc, ← primHeard_topics, tellTopics_heard] at expects
  simp only [hearTopic?, if_true, Option.toList_some] at expects
  rw [Stream.toPrim, linked.taken] at found
  have same := topic_expected (snoc_front linked.read found) planned expects about
  rw [← same]
  exact about

theorem primCanHear (waits : primActs prim ++ [.hear lane topic] <+: laneScript lane)
    (said : .say lane topic ∈ supActs sup) : ∃ frame, stream.toPrim = some frame := by
  have expects := waits.filterMap (hearTopic? lane)
  rw [filterMap_snoc, ← primHeard_topics, tellTopics_heard] at expects
  simp only [hearTopic?, if_true, Option.toList_some] at expects
  have arrived := topic_arrived (tellTopics_nodup lane) linked.read expects (by
    rw [linked.tell_topics, List.mem_filterMap]
    exact ⟨_, said, by simp [sayTopic?]⟩)
  rw [Stream.toPrim, linked.taken]
  exact ⟨_, List.getElem?_eq_getElem arrived⟩

end Linked

end Handoff.Plan
