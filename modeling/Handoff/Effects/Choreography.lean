/-
Parties that follow one plan.

A choreography puts the acts of several parties into one order and says, for
each act that waits for another party, what it waits for.  No party sees the
order: each performs its own acts, and may be ahead of the others as far as its
waits allow.  As long as some party is unfinished, one of them has a next act
with nothing to wait for.

The second part is about one direction of a channel between two of them.  What
travels is a list of frames, some of which belong to no act.
-/

import Mathlib.Data.List.Basic
import Mathlib.Data.List.Nodup
import Mathlib.Logic.Function.Basic

namespace Handoff.Effects

/-! ### Prefixes -/

section Prefixes

variable {α : Type}

theorem next_unique {front whole : List α} {one two : α} (first : front ++ [one] <+: whole)
    (second : front ++ [two] <+: whole) : one = two := by
  obtain ⟨rest, rfl⟩ := first
  rw [List.append_assoc, List.prefix_append_right_inj, List.singleton_append,
    List.cons_prefix_cons] at second
  exact second.1.symm

theorem front_stops_at {part before after : List α} {item : α}
    (front : part <+: before ++ item :: after) (distinct : (before ++ item :: after).Nodup)
    (missing : item ∉ part) (all : ∀ other ∈ before, other ∈ part) :
    part = before := by
  rcases List.prefix_or_prefix_of_prefix front (List.prefix_append before (item :: after)) with
    short | long
  · obtain ⟨rest, rfl⟩ := short
    cases rest with
    | nil => rw [List.append_nil]
    | cons first rest =>
        have inside := all first (by simp)
        rw [List.append_assoc, List.nodup_append'] at distinct
        exact absurd (by simp) (distinct.2.2 inside)
  · obtain ⟨rest, rfl⟩ := long
    rw [List.prefix_append_right_inj] at front
    cases rest with
    | nil => rw [List.append_nil]
    | cons first rest =>
        rw [List.cons_prefix_cons] at front
        rw [← front.1] at missing
        exact absurd (by simp) missing

theorem earlier_mem_front {part whole : List α} {early late : α} (front : part <+: whole)
    (distinct : whole.Nodup) (order : [early, late].Sublist whole) (reached : late ∈ part) :
    early ∈ part := by
  obtain ⟨rest, rfl⟩ := front
  obtain ⟨left, right, split, inLeft, inRight⟩ := List.sublist_append_iff.mp order
  cases left with
  | nil =>
      rw [List.nil_append] at split
      subst split
      have inside : late ∈ rest := inRight.subset (by simp)
      rw [List.nodup_append'] at distinct
      exact absurd inside (distinct.2.2 reached)
  | cons first left =>
      rw [List.cons_append, List.cons.injEq] at split
      rw [split.1]
      exact inLeft.subset (by simp)

theorem eq_take_of_next {part whole : List α} {item : α} {index : Nat}
    (next : part ++ [item] <+: whole) (distinct : whole.Nodup) (place : whole[index]? = some item) :
    part = whole.take index := by
  obtain ⟨rest, rfl⟩ := next
  have here : (part ++ [item] ++ rest)[part.length]? = some item := by simp
  obtain ⟨inside, found⟩ := List.getElem?_eq_some_iff.mp place
  obtain ⟨shorter, there⟩ := List.getElem?_eq_some_iff.mp here
  have same : index = part.length := distinct.getElem_inj_iff.mp (found.trans there.symm)
  rw [same, List.append_assoc, List.take_left]

theorem earlier_mem_of_next {part whole : List α} {early item : α} (next : part ++ [item] <+: whole)
    (distinct : whole.Nodup) (order : [early, item].Sublist whole) : early ∈ part := by
  have inside := earlier_mem_front next distinct order (by simp)
  have different : early ≠ item := by
    have pair := distinct.sublist order
    simpa using pair
  simpa [different] using inside

theorem later_not_mem_of_next {part whole : List α} {item late : α}
    (next : part ++ [item] <+: whole) (distinct : whole.Nodup)
    (order : item = late ∨ [item, late].Sublist whole) : late ∉ part := by
  have front : part <+: whole := (List.prefix_append part [item]).trans next
  have missing : item ∉ part := by
    obtain ⟨rest, rfl⟩ := next
    rw [List.nodup_append', List.nodup_append'] at distinct
    intro inside
    exact absurd (List.mem_singleton_self item) (distinct.1.2.2 inside)
  rcases order with rfl | order
  · exact missing
  · intro inside
    exact missing (earlier_mem_front front distinct order inside)

end Prefixes

/-! ### Plans -/

structure Choreography (Party Act : Type) where
  order : List Act
  party : Act → Party
  needs : Act → Option Act
  distinct : order.Nodup
  grounded : ∀ index : Fin order.length, ∀ need ∈ needs (order.get index),
    need ∈ order.take index

namespace Choreography

variable {Party Act : Type} [DecidableEq Party] (plan : Choreography Party Act)

def script (party : Party) : List Act := plan.order.filter fun act => plan.party act = party

theorem script_nodup (party : Party) : (plan.script party).Nodup := plan.distinct.filter _

omit [DecidableEq Party] in
theorem need_before {before after : List Act} {act need : Act}
    (split : plan.order = before ++ act :: after) (needed : plan.needs act = some need) :
    need ∈ before := by
  have inside : before.length < plan.order.length := by rw [split]; simp
  have found : plan.order.get ⟨before.length, inside⟩ = act := by simp [split]
  have early := plan.grounded ⟨before.length, inside⟩ need (by rw [found]; exact needed)
  simpa [split] using early

/-- Every party has performed some of its acts, in order, and none of them before
what it waits for. -/
structure Followed (done : Party → List Act) : Prop where
  scripted : ∀ party, done party <+: plan.script party
  causal : ∀ act need, act ∈ done (plan.party act) → plan.needs act = some need →
    need ∈ done (plan.party need)

/-- The first act can only be performed before the second. -/
inductive Precedes : Act → Act → Prop where
  | need {act need : Act} (needed : plan.needs act = some need) : Precedes need act
  | script {early late : Act} (same : plan.party early = plan.party late)
      (order : [early, late].Sublist (plan.script (plan.party late))) : Precedes early late
  | trans {first second third : Act} (left : Precedes first second)
      (right : Precedes second third) : Precedes first third

variable {plan} {done : Party → List Act}

theorem Followed.precedes (followed : plan.Followed done) {early late : Act}
    (before : plan.Precedes early late) (reached : late ∈ done (plan.party late)) :
    early ∈ done (plan.party early) := by
  induction before with
  | need needed => exact followed.causal _ _ reached needed
  | script same order =>
      rw [same]
      exact earlier_mem_front (followed.scripted _) (plan.script_nodup _) order reached
  | trans _ _ first second => exact first (second reached)

theorem Followed.pending (followed : plan.Followed done) {act late : Act}
    (next : done (plan.party act) ++ [act] <+: plan.script (plan.party act))
    (before : act = late ∨ plan.Precedes act late) : late ∉ done (plan.party late) := by
  intro reached
  have performed : act ∈ done (plan.party act) := by
    rcases before with rfl | before
    · exact reached
    · exact followed.precedes before reached
  exact later_not_mem_of_next next (plan.script_nodup _) (Or.inl rfl) performed

theorem Followed.perform (followed : plan.Followed done) {act : Act}
    (next : done (plan.party act) ++ [act] <+: plan.script (plan.party act))
    (ready : ∀ need, plan.needs act = some need → need ∈ done (plan.party need)) :
    plan.Followed (Function.update done (plan.party act) (done (plan.party act) ++ [act])) where
  scripted party := by
    by_cases same : party = plan.party act
    · subst same
      rw [Function.update_self]
      exact next
    · rw [Function.update_of_ne same]
      exact followed.scripted party
  causal other need performed needed := by
    have stays : ∀ item, item ∈ done (plan.party item) →
        item ∈ Function.update done (plan.party act) (done (plan.party act) ++ [act])
          (plan.party item) := by
      intro item member
      by_cases same : plan.party item = plan.party act
      · rw [same, Function.update_self]
        rw [same] at member
        exact List.mem_append_left _ member
      · rw [Function.update_of_ne same]
        exact member
    apply stays
    by_cases same : plan.party other = plan.party act
    · rw [same, Function.update_self] at performed
      rcases List.mem_append.mp performed with early | late
      · rw [← same] at early
        exact followed.causal other need early needed
      · rw [List.mem_singleton.mp late] at needed
        exact ready need needed
    · rw [Function.update_of_ne same] at performed
      exact followed.causal other need performed needed

variable [DecidableEq Act]

/-- As long as a party is unfinished, some party can perform its next act. -/
theorem Followed.enabled (followed : plan.Followed done) {party : Party}
    (unfinished : done party ≠ plan.script party) :
    ∃ act, done (plan.party act) ++ [act] <+: plan.script (plan.party act) ∧
      ∀ need, plan.needs act = some need → need ∈ done (plan.party need) := by
  have missing : ∃ act ∈ plan.order, act ∉ done (plan.party act) := by
    obtain ⟨rest, whole⟩ := followed.scripted party
    cases rest with
    | nil => exact absurd (by rw [← whole, List.append_nil]) unfinished
    | cons act rest =>
        have listed : act ∈ plan.script party := by rw [← whole]; simp
        obtain ⟨inOrder, mine⟩ := List.mem_filter.mp listed
        rw [decide_eq_true_eq] at mine
        refine ⟨act, inOrder, ?_⟩
        have distinct := plan.script_nodup party
        rw [← whole, List.nodup_append'] at distinct
        rw [mine]
        intro inside
        exact absurd (by simp) (distinct.2.2 inside)
  -- the first act of the whole order that is not performed yet
  obtain ⟨act, found⟩ : ∃ act,
    plan.order.find? (fun act => act ∉ done (plan.party act)) = some act := by
    rw [← Option.isSome_iff_exists, List.find?_isSome]
    simpa using missing
  rw [List.find?_eq_some_iff_append] at found
  obtain ⟨undone, before, after, split, performed⟩ := found
  simp only [decide_eq_true_eq, Bool.not_eq_true', decide_eq_false_iff_not, not_not] at undone performed
  have mine : plan.script (plan.party act) =
      before.filter (fun other => plan.party other = plan.party act) ++
        act :: after.filter (fun other => plan.party other = plan.party act) := by
    rw [script, split, List.filter_append, List.filter_cons_of_pos (by simp)]
  have distinct := plan.script_nodup (plan.party act)
  have front := followed.scripted (plan.party act)
  rw [mine] at distinct front
  have stops := front_stops_at front distinct undone (by
    intro other member
    obtain ⟨early, same⟩ := List.mem_filter.mp member
    rw [decide_eq_true_eq] at same
    have there := performed other early
    rw [same] at there
    exact there)
  refine ⟨act, ?_, ?_⟩
  · rw [stops, mine, List.prefix_append_right_inj, List.cons_prefix_cons]
    exact ⟨rfl, List.nil_prefix⟩
  · intro need needed
    exact performed need (plan.need_before split needed)

end Choreography

/-! ### Channels -/

section Channels

variable {Frame Topic : Type} {topic? : Frame → Option Topic} {plan : List Topic}
  {content heard : List Frame} {expected : Topic}

theorem topic_expected {frame : Frame} {topic : Topic} (front : heard ++ [frame] <+: content)
    (planned : content.filterMap topic? <+: plan)
    (expects : heard.filterMap topic? ++ [expected] <+: plan) (found : topic? frame = some topic) :
    topic = expected := by
  have arrived := (front.filterMap topic?).trans planned
  rw [List.filterMap_append, List.filterMap_cons_some found, List.filterMap_nil] at arrived
  exact next_unique arrived expects

theorem topic_arrived (distinct : plan.Nodup) (front : heard <+: content)
    (expects : heard.filterMap topic? ++ [expected] <+: plan)
    (sent : expected ∈ content.filterMap topic?) : heard.length < content.length := by
  rcases Nat.lt_or_ge heard.length content.length with less | more
  · exact less
  · have same := front.eq_of_length_le more
    rw [same] at expects
    obtain ⟨rest, rfl⟩ := expects
    rw [List.append_assoc, List.nodup_append'] at distinct
    exact absurd (by simp) (distinct.2.2 sent)

end Channels

end Handoff.Effects
