/-
`perform_handoff` between two peers that send given frames.

The environment answers the polls from the frames each peer sends, one by one, and
then with the end of the stream.  The clock may depend on everything that has
happened; all other answers are a function of the effects so far, which are the
operations that are neither a look at a clock, a poll nor a timeout.  Two runs on
frame sequences that differ in progress frames are compared by their effects.
-/

import Handoff.Effects.Lockstep
import Handoff.Supervisor.HandoffRuns
import Handoff.Wire.Insertion

namespace Handoff

open Effects
open Effects.Code hiding pure bind

variable {peer : Side}

/-! ### Effects and surroundings -/

def isProgress : Message → Bool
  | .heartbeat _ | .sealProgress .. => true
  | _ => false

def effectful : SupOp → Bool
  | .now | .nowUnixMs | .setReadTimeout .. | .readWouldBlock _ | .pollRead _ | .outOfFuel => false
  | _ => true

def effects (past : SupPast) : List (Call SupStore SupOp) :=
  (past.map Event.op).filter fun call => effectful call.op

/-- What answers a supervisor.  Whether a timeout can be set does not depend on its
length; `ending` is how a stream ends behind its last frame. -/
structure Surroundings where
  clock : SupPast → Instant
  unixMs : SupPast → UInt64
  sets : List (Call SupStore SupOp) → Side → Except IoError Unit
  blocks : List (Call SupStore SupOp) → Side → Bool
  ending : List (Call SupStore SupOp) → Side → Error
  answer : List (Call SupStore SupOp) → (op : SupOp) → op ≠ .outOfFuel → SupAns op

structure Setting where
  past : SupPast := []
  frames : Side → List Frame

namespace Surroundings

def reply (world : Surroundings) (setting : Setting) :
    (op : SupOp) → Option (SupAns op × (Side → List Frame))
  | .now => some (world.clock setting.past, setting.frames)
  | .nowUnixMs => some (world.unixMs setting.past, setting.frames)
  | .setReadTimeout peer _ => some (world.sets (effects setting.past) peer, setting.frames)
  | .readWouldBlock peer => some (world.blocks (effects setting.past) peer, setting.frames)
  | .pollRead peer =>
      match setting.frames peer with
      | [] => some (.failed (world.ending (effects setting.past) peer), setting.frames)
      | (version, message) :: rest =>
          some (.frame version message, Function.update setting.frames peer rest)
  | op =>
      if stalls : op = .outOfFuel then none
      else some (world.answer (effects setting.past) op stalls, setting.frames)

def respond (world : Surroundings) (setting : Setting) (call : Call SupStore SupOp) :
    Option (CallAns SupStore SupAns call × Setting) :=
  (world.reply setting call.op).map fun (answer, frames) =>
    (answer, ⟨setting.past ++ [⟨call, answer⟩], frames⟩)

end Surroundings

/-- `looked` after a look at the clock, `expired` once such a look was followed by
clearing the timeout of a stream instead of arming it: a wait has come to its
deadline. -/
structure Watch where
  looked : Bool := false
  expired : Bool := false

def Watch.after (watch : Watch) : SupEvent → Watch
  | ⟨⟨_, .now⟩, _⟩ => { watch with looked := true }
  | ⟨⟨_, .setReadTimeout _ none⟩, _⟩ =>
      { looked := false, expired := watch.expired || watch.looked }
  | _ => { watch with looked := false }

def watchOf (past : SupPast) : Watch := past.foldl Watch.after {}

def waitExpired (past : SupPast) : Bool := (watchOf past).expired

private theorem Watch.after_expired {watch : Watch} (expired : watch.expired = true)
    (event : SupEvent) :
    (watch.after event).expired = true := by
  unfold Watch.after
  split
  · exact expired
  · rw [expired, Bool.true_or]
  · exact expired

private theorem waitExpired_append {past : SupPast} (expired : waitExpired past = true)
    (more : SupPast) :
    waitExpired (past ++ more) = true := by
  rw [waitExpired, watchOf, List.foldl_append]
  change (List.foldl Watch.after (watchOf past) more).expired = true
  have goal : ∀ watch : Watch, watch.expired = true →
      (List.foldl Watch.after watch more).expired = true := by
    induction more with
    | nil => exact fun _ held => held
    | cons event more ih => exact fun watch held => ih _ (watch.after_expired held event)
  exact goal _ expired

theorem waitExpired_cleared (past : SupPast) (store later : SupStore) (instant : Instant)
    (peer : Side) (answer : Except IoError Unit) :
    waitExpired (past ++ [⟨⟨store, .now⟩, instant⟩] ++
      [⟨⟨later, .setReadTimeout peer none⟩, answer⟩]) = true := by
  simp [waitExpired, watchOf, Watch.after]

/-! ### Comparing two runs -/

@[simp]
theorem effects_append (past : SupPast) (event : SupEvent) : effects (past ++ [event]) =
    effects past ++ if effectful event.op.op then [event.op] else [] := by
  rw [effects, List.map_append, List.filter_append]
  cases kind : effectful event.op.op <;> simp [effects, kind]

structure Aligned (left right : Setting) : Prop where
  effects : effects left.past = effects right.past
  frames : ∀ peer, Woven isProgress (left.frames peer) (right.frames peer)

theorem woven_update {kind : Message → Bool} {first second : Side → List Frame}
    {frames longer : List Frame} (each : ∀ side, Woven kind (first side) (second side))
    (woven : Woven kind frames longer) (side : Side) :
    Woven kind (Function.update first peer frames side) (Function.update second peer longer side) := by
  by_cases same : side = peer
  · rw [same, Function.update_self, Function.update_self]
    exact woven
  · rw [Function.update_of_ne same, Function.update_of_ne same]
    exact each side

/-- Up to timeouts and overflows of the clock. -/
def byEffects (fuel : Nat) : Comparison Setting Halt where
  fits setting := ∀ peer, (setting.frames peer).length < fuel
  grows first second := first.past <+: second.past
  aligned := Aligned
  lost setting := waitExpired setting.past = true
  fatal halt := halt = .panic
  grows_refl setting := List.prefix_rfl
  grows_trans first second := first.trans second
  lost_grows := by
    intro first second grows lost
    obtain ⟨more, same⟩ := grows
    rw [← same]
    exact waitExpired_append lost more

section

variable {world : Surroundings} {fuel : Nat} {setting left right : Setting}

/-- Operations whose answers do not depend on the clock or on frames. -/
def steadyOp : SupOp → Bool
  | .now | .nowUnixMs | .pollRead _ | .outOfFuel => false
  | _ => true

private theorem reply_steady {op : SupOp} (steady : steadyOp op = true)
    (same : effects left.past = effects right.past) :
    ∃ answer, world.reply left op = some (answer, left.frames) ∧
      world.reply right op = some (answer, right.frames) := by
  cases op with
  | setReadTimeout peer timeout => exact ⟨world.sets (effects left.past) peer, rfl, by rw [same]; rfl⟩
  | readWouldBlock peer => exact ⟨world.blocks (effects left.past) peer, rfl, by rw [same]; rfl⟩
  | now | nowUnixMs | pollRead | outOfFuel => contradiction
  | _ => exact ⟨world.answer (effects left.past) _ nofun, rfl, by rw [same]; rfl⟩

variable {call : Call SupStore SupOp}

theorem respond_of_reply {answer : SupAns call.op} {frames : Side → List Frame}
    (replied : world.reply setting call.op = some (answer, frames)) :
    world.respond setting call = some (answer, ⟨setting.past ++ [⟨call, answer⟩], frames⟩) := by
  rw [Surroundings.respond, replied]
  rfl

theorem respond_steady (steady : steadyOp call.op = true) (aligned : Aligned left right) :
    ∃ answer left' right',
      world.respond left call = some (answer, left') ∧
        world.respond right call = some (answer, right') ∧ Aligned left' right' := by
  obtain ⟨answer, one, two⟩ : ∃ answer, world.reply left call.op = some (answer, left.frames) ∧
      world.reply right call.op = some (answer, right.frames) := reply_steady steady aligned.effects
  refine ⟨answer, _, _, respond_of_reply one, respond_of_reply two, ?_, aligned.frames⟩
  rw [effects_append, effects_append, aligned.effects]

theorem reply_ended (sent : setting.frames peer = []) :
    world.reply setting (.pollRead peer) =
      some (.failed (world.ending (effects setting.past) peer), setting.frames) := by
  simp only [Surroundings.reply, sent]

theorem reply_heard {version : ProtoVersion} {message : Message} {rest : List Frame}
    (sent : setting.frames peer = (version, message) :: rest) :
    world.reply setting (.pollRead peer) =
      some (.frame version message, Function.update setting.frames peer rest) := by
  simp only [Surroundings.reply, sent]

private theorem reply_answers {op : SupOp} (going : op ≠ .outOfFuel) : ∃ answer frames,
    world.reply setting op = some (answer, frames) ∧
      ∀ peer, (frames peer).length ≤ (setting.frames peer).length := by
  cases op with
  | outOfFuel => contradiction
  | pollRead side =>
      cases sent : setting.frames side with
      | nil => exact ⟨_, _, reply_ended sent, fun _ => Nat.le_refl _⟩
      | cons frame rest =>
          refine ⟨_, _, reply_heard sent, ?_⟩
          intro peer
          by_cases same : peer = side
          · rw [same, Function.update_self, sent]
            exact Nat.le_succ _
          · exact Nat.le_of_eq (by rw [Function.update_of_ne same])
  | _ => exact ⟨_, _, rfl, fun _ => Nat.le_refl _⟩

private theorem respond_answers (going : call.op ≠ .outOfFuel) :
    ∃ answer last, world.respond setting call = some (answer, last) ∧
      last.past = setting.past ++ [⟨call, answer⟩] ∧
        ∀ peer, (last.frames peer).length ≤ (setting.frames peer).length := by
  obtain ⟨answer, frames, replied, fewer⟩ : ∃ answer frames,
    world.reply setting call.op = some (answer, frames) ∧ _ := reply_answers going
  exact ⟨answer, _, respond_of_reply replied, rfl, fewer⟩

private theorem respond_fits (going : call.op ≠ .outOfFuel) (fits : (byEffects fuel).fits setting) :
    ∃ answer last,
      world.respond setting call = some (answer, last) ∧ (byEffects fuel).grows setting last ∧
        (byEffects fuel).fits last := by
  obtain ⟨answer, last, answered, past, fewer⟩ : ∃ answer last,
    world.respond setting call = some (answer, last) ∧ _ := respond_answers going
  refine ⟨answer, last, answered, ?_, ?_⟩
  · change setting.past <+: last.past
    rw [past]
    exact List.prefix_append _ _
  · intro peer
    exact Nat.lt_of_le_of_lt (fewer peer) (fits peer)

abbrev Locked (world : Surroundings) (fuel : Nat) (pre post : Setting → Setting → Prop)
    {Value : Type} (code : SupM Value) : Prop :=
  Locks world.respond (byEffects fuel) pre post code

theorem steady_locked {Value : Type} {code : SupM Value}
    (steady : Issues (fun _ => True) steadyOp code) : Locked world fuel Aligned Aligned code := by
  refine Issues.locks steady ?_ ?_ (fun _ _ aligned => aligned)
  · intro state call fits permitted
    refine respond_fits ?_ fits
    intro stalls
    rw [stalls] at permitted
    contradiction
  · intro left right call aligned permitted
    exact respond_steady permitted aligned

/-! ### Before the first inserted frame -/

/-- Nothing has been different so far; of the peers in `unread` not even the first
frame has been read. -/
structure Twin (unread : Side → Bool) (left right : Setting) : Prop where
  past : left.past = right.past
  first : ∀ peer, unread peer = true → WovenLater isProgress (left.frames peer) (right.frames peer)
  frames : ∀ peer, Woven isProgress (left.frames peer) (right.frames peer)

variable {unread : Side → Bool}

theorem Twin.aligned (twin : Twin unread left right) : Aligned left right :=
  ⟨by rw [twin.past], twin.frames⟩

theorem Twin.record (twin : Twin unread left right) (event : SupEvent) :
    Twin unread ⟨left.past ++ [event], left.frames⟩ ⟨right.past ++ [event], right.frames⟩ :=
  ⟨by rw [twin.past], twin.first, twin.frames⟩

private theorem Twin.forget (twin : Twin unread left right) (peer : Side) :
    Twin (Function.update unread peer false) left right := by
  refine ⟨twin.past, ?_, twin.frames⟩
  intro side fresh
  by_cases same : side = peer
  · rw [same, Function.update_self] at fresh
    contradiction
  · rw [Function.update_of_ne same] at fresh
    exact twin.first side fresh

def pollFree : SupOp → Bool
  | .pollRead _ | .outOfFuel => false
  | _ => true

private theorem respond_pollFree (free : pollFree call.op = true) (twin : Twin unread left right) :
    ∃ answer left' right',
      world.respond left call = some (answer, left') ∧
        world.respond right call = some (answer, right') ∧ Twin unread left' right' := by
  have replies : ∃ answer, world.reply left call.op = some (answer, left.frames) ∧
      world.reply right call.op = some (answer, right.frames) := by
    have past := twin.past
    generalize call.op = op at free
    cases op with
    | now => exact ⟨world.clock left.past, rfl, by rw [past]; rfl⟩
    | nowUnixMs => exact ⟨world.unixMs left.past, rfl, by rw [past]; rfl⟩
    | pollRead | outOfFuel => contradiction
    | _ => exact reply_steady rfl (by rw [past])
  obtain ⟨answer, one, two⟩ := replies
  exact ⟨answer, _, _, respond_of_reply one, respond_of_reply two, twin.record _⟩

theorem pollFree_locked {Value : Type} {code : SupM Value}
    (free : Issues (fun _ => True) pollFree code) :
    Locked world fuel (Twin unread) (Twin unread) code := by
  refine Issues.locks free ?_ ?_ (fun _ _ twin => twin.aligned)
  · intro state call fits permitted
    refine respond_fits ?_ fits
    intro stalls
    rw [stalls] at permitted
    contradiction
  · intro left right call twin permitted
    exact respond_pollFree permitted twin

theorem Twin.read {frames longer : List Frame} (twin : Twin unread left right) (event : SupEvent)
    (woven : Woven isProgress frames longer) :
    Twin (Function.update unread peer false)
      ⟨left.past ++ [event], Function.update left.frames peer frames⟩
      ⟨right.past ++ [event], Function.update right.frames peer longer⟩ := by
  refine ⟨by rw [twin.past], ?_, woven_update twin.frames woven⟩
  intro side fresh
  have apart : side ≠ peer := by
    intro same
    rw [same, Function.update_self] at fresh
    contradiction
  rw [Function.update_of_ne apart] at fresh
  simp only [Function.update_of_ne apart]
  exact twin.first side fresh

theorem firstPoll_locked (first : unread peer = true) :
    Locked world fuel (Twin unread) (Twin (Function.update unread peer false))
      (SupM.ask (.pollRead peer)) := by
  refine locks_call ?_ ?_ (fun _ _ twin => twin.aligned)
  · intro store setting fits
    exact respond_fits nofun fits
  · intro store left right twin
    have later := twin.first peer first
    generalize sent : left.frames peer = frames at later
    generalize sent' : right.frames peer = longer at later
    cases later with
    | nil =>
        refine ⟨_, _, _, respond_of_reply (reply_ended sent), ?_, (twin.record _).forget peer⟩
        rw [twin.past]
        exact respond_of_reply (reply_ended sent')
    | first frame woven =>
        exact ⟨_, _, _, respond_of_reply (reply_heard sent), respond_of_reply (reply_heard sent'),
          twin.read _ woven⟩

end

end Handoff
