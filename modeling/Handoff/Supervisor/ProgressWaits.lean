/-
The waits of `perform_handoff` on given frames.

A wait that does not come to its deadline ends with the first frame that is no
progress frame, or with the end of the stream; how often the clock was looked at
and the timeout armed on the way is not seen in the effects.  So two runs of a
wait on frames that differ in progress frames agree.
-/

import Handoff.Supervisor.ProgressFrames

namespace Handoff

open Effects
open Effects.Code hiding pure bind

variable {world : Surroundings} {fuel : Nat} {Value : Type} {store : SupStore}
  {first second third : Setting}

/-! ### Quiet steps -/

/-- Nothing has happened but looks at the clock and timeouts. -/
structure Quiet (first second : Setting) : Prop where
  grows : first.past <+: second.past
  effects : effects second.past = effects first.past
  frames : second.frames = first.frames

theorem Quiet.trans (one : Quiet first second) (two : Quiet second third) : Quiet first third :=
  ⟨one.grows.trans two.grows, two.effects.trans one.effects, two.frames.trans one.frames⟩

theorem Quiet.record (setting : Setting) {event : SupEvent}
    (without : effectful event.op.op = false) :
    Quiet setting ⟨setting.past ++ [event], setting.frames⟩ := by
  refine ⟨List.prefix_append _ _, ?_, rfl⟩
  rw [effects_append, without]
  exact List.append_nil _

def Surroundings.armFails (world : Surroundings) (seen : List (Call SupStore SupOp))
    (peer : Side) : Option IoError :=
  match world.sets seen peer with
  | .ok () => none
  | .error cause =>
      if cause.rawOsError = some .einval then
        if world.blocks seen peer then some cause else none
      else some cause

def armed (fails : Option IoError) : Except Halt Unit :=
  match fails with
  | some cause => .error (.error (.io cause))
  | none => .ok ()

private theorem drive_ask {setting : Setting} {op : SupOp} {next : SupAns op → SupM Value}
    {answer : SupAns op} {frames : Side → List Frame}
    (replied : world.reply setting op = some (answer, frames)) :
    ((SupM.ask op >>= next) store).drive world.respond setting =
      (next answer store).drive world.respond
        ⟨setting.past ++ [⟨⟨store, op⟩, answer⟩], frames⟩ := by
  have answered : world.respond setting ⟨store, op⟩ =
      some (answer, ⟨setting.past ++ [⟨⟨store, op⟩, answer⟩], frames⟩) := respond_of_reply replied
  exact Program.drive_call _ answered

private theorem armRecvTimeout_drive (world : Surroundings) (peer : Side) (timeout : Duration)
    (store : SupStore) (setting : Setting) : ∃ last, Quiet setting last ∧
      (armRecvTimeout peer timeout store).drive world.respond setting =
        some ((armed (world.armFails (effects setting.past) peer), store), last) := by
  have quiet (answer : Except IoError Unit) : Quiet setting ⟨setting.past ++
      [⟨⟨store, .setReadTimeout peer (some timeout)⟩, answer⟩], setting.frames⟩ :=
    Quiet.record setting rfl
  unfold armRecvTimeout
  rw [drive_ask rfl, Surroundings.armFails]
  cases world.sets (effects setting.past) peer with
  | ok _ => exact ⟨_, quiet (.ok ()), rfl⟩
  | error cause =>
      by_cases invalid : cause.rawOsError = some .einval
      · simp only [if_pos invalid]
        rw [drive_ask rfl, (quiet (.error cause)).effects]
        cases world.blocks (effects setting.past) peer with
        | true => exact ⟨_, (quiet (.error cause)).trans (Quiet.record _ rfl), rfl⟩
        | false => exact ⟨_, (quiet (.error cause)).trans (Quiet.record _ rfl), rfl⟩
      · simp only [if_neg invalid]
        exact ⟨_, quiet (.error cause), rfl⟩

/-! ### One round -/

/-- A round of `read_until` or of the seal-wait loop. -/
def waitRound (peer : Side) (limit : Instant) (late : SupM Value) (next : Polled → SupM Value) :
    SupM Value := do
  let now ← SupM.ask .now
  if limit ≤ now then late
  else
    armRecvTimeout peer (recvTimeout limit now)
    let answer ← SupM.ask (.pollRead peer)
    next answer

/-- What one round of a wait comes to: the deadline, a timeout that cannot be armed, the
end of the stream, or the next frame. -/
inductive Round (world : Surroundings) (peer : Side) (late : SupM Value)
    (next : Polled → SupM Value) (store : SupStore) (setting : Setting) :
    Option ((Except Halt Value × SupStore) × Setting) → Prop where
  | expired (instant : Instant) : Round world peer late next store setting
      ((late store).drive world.respond
        ⟨setting.past ++ [⟨⟨store, .now⟩, instant⟩], setting.frames⟩)
  | unarmed {last : Setting} {cause : IoError}
      (fails : world.armFails (effects setting.past) peer = some cause)
      (quiet : Quiet setting last) :
      Round world peer late next store setting (some ((.error (.error (.io cause)), store), last))
  | ended {last : Setting} (arms : world.armFails (effects setting.past) peer = none)
      (sent : setting.frames peer = []) (quiet : Quiet setting last) :
      Round world peer late next store setting
        ((next (.failed (world.ending (effects setting.past) peer)) store).drive world.respond last)
  | heard {last : Setting} {version : ProtoVersion} {message : Message} {rest : List Frame}
      (arms : world.armFails (effects setting.past) peer = none)
      (sent : setting.frames peer = (version, message) :: rest)
      (grows : setting.past <+: last.past) (same : effects last.past = effects setting.past)
      (frames : last.frames = Function.update setting.frames peer rest) :
      Round world peer late next store setting
        ((next (.frame version message) store).drive world.respond last)

private theorem round_drive (world : Surroundings) (peer : Side) (limit : Instant)
    (late : SupM Value) (next : Polled → SupM Value) (store : SupStore) (setting : Setting) :
    Round world peer late next store setting
      ((waitRound peer limit late next store).drive world.respond setting) := by
  unfold waitRound
  rw [drive_ask rfl]
  by_cases elapsed : limit ≤ world.clock setting.past
  · rw [if_pos elapsed]
    exact .expired _
  · rw [if_neg elapsed]
    have looked : Quiet setting ⟨setting.past ++ [⟨⟨store, .now⟩, world.clock setting.past⟩],
      setting.frames⟩ := Quiet.record setting rfl
    obtain ⟨last, armedQuiet, driven⟩ := armRecvTimeout_drive world peer
      (recvTimeout limit (world.clock setting.past)) store
      ⟨setting.past ++ [⟨⟨store, .now⟩, world.clock setting.past⟩], setting.frames⟩
    have quiet := looked.trans armedQuiet
    rw [drive_bind, driven, Option.bind_some, looked.effects]
    cases arms : world.armFails (effects setting.past) peer with
    | some cause => exact .unarmed arms quiet
    | none =>
        change Round world peer late next store setting
          (((SupM.ask (.pollRead peer) >>= next) store).drive world.respond last)
        cases sent : last.frames peer with
        | nil =>
            rw [drive_ask (reply_ended sent), quiet.effects]
            rw [quiet.frames] at sent
            exact .ended arms sent (quiet.trans (Quiet.record _ rfl))
        | cons frame rest =>
            rw [drive_ask (reply_heard sent)]
            rw [quiet.frames] at sent
            refine .heard arms sent ?_ ?_ ?_
            · exact quiet.grows.trans (List.prefix_append _ _)
            · rw [effects_append, quiet.effects]
              exact List.append_nil _
            · rw [quiet.frames]

/-! ### Waits -/

/-- What a wait on given frames comes to, and the frames behind it. -/
def awaited (world : Surroundings) (seen : List (Call SupStore SupOp)) (peer : Side)
    (pred : Message → Bool) (frames : List Frame) : Except Error Message × List Frame :=
  match world.armFails seen peer with
  | some cause => (.error (.io cause), frames)
  | none =>
      match beyond isProgress frames with
      | (none, rest) => (.error (world.ending seen peer), rest)
      | (some message, rest) =>
          (if pred message then .ok message else .error (.unexpectedMessage (shortName message)),
            rest)

/-- A wait for `peer` has ended: excused, or without an effect and as `awaited` says. -/
structure WaitSettled (world : Surroundings) (fuel : Nat) (peer : Side) (pred : Message → Bool)
    (wrap : Except Error Message → Except Halt Value) (store : SupStore) (setting : Setting)
    (result : Except Halt Value × SupStore) (last : Setting) : Prop where
  grows : setting.past <+: last.past
  fits : (byEffects fuel).fits last
  ending : Excused (byEffects fuel) result.1 last ∨
    result = (wrap (awaited world (effects setting.past) peer pred (setting.frames peer)).1, store) ∧
      effects last.past = effects setting.past ∧
      last.frames = Function.update setting.frames peer
        (awaited world (effects setting.past) peer pred (setting.frames peer)).2

def WaitsFor (world : Surroundings) (fuel : Nat) (peer : Side) (pred : Message → Bool)
    (wrap : Except Error Message → Except Halt Value) (code : SupM Value) : Prop :=
  ∀ store setting, (byEffects fuel).fits setting → ∃ result last,
    (code store).drive world.respond setting = some (result, last) ∧
      WaitSettled world fuel peer pred wrap store setting result last

private theorem awaited_woven {seen : List (Call SupStore SupOp)} {peer : Side}
    {pred : Message → Bool} {frames longer : List Frame} (woven : Woven isProgress frames longer) :
    (awaited world seen peer pred longer).1 = (awaited world seen peer pred frames).1 ∧
      Woven isProgress (awaited world seen peer pred frames).2
        (awaited world seen peer pred longer).2 := by
  unfold awaited
  cases world.armFails seen peer with
  | some cause => exact ⟨rfl, woven⟩
  | none =>
      obtain ⟨same, rest⟩ := woven.beyond
      generalize beyond isProgress frames = found at same rest
      generalize beyond isProgress longer = found' at same rest
      obtain ⟨message, frames'⟩ := found
      obtain ⟨message', longer'⟩ := found'
      cases same
      cases message with
      | none => exact ⟨rfl, rest⟩
      | some message => exact ⟨rfl, rest⟩

variable {peer : Side} {pred : Message → Bool} {wrap : Except Error Message → Except Halt Value}

theorem WaitsFor.locked {code : SupM Value} (awaits : WaitsFor world fuel peer pred wrap code) :
    Locked world fuel Aligned Aligned code := by
  refine ⟨?_, ?_⟩
  · intro store setting fits
    obtain ⟨result, last, driven, waited⟩ := awaits store setting fits
    exact ⟨result, last, driven, waited.grows, waited.fits⟩
  · intro store left right aligned fits fits' one two left' right' driven driven'
    obtain ⟨result, last, first, waited⟩ := awaits store left fits
    obtain ⟨result', last', second, waited'⟩ := awaits store right fits'
    cases first.symm.trans driven
    cases second.symm.trans driven'
    rcases waited.ending with excused | ⟨same, kept, frames⟩
    · exact Or.inl excused
    rcases waited'.ending with excused | ⟨same', kept', frames'⟩
    · exact Or.inr (Or.inl excused)
    rw [← aligned.effects] at same' kept' frames'
    obtain ⟨agree, woven⟩ : _ ∧ _ := awaited_woven (aligned.frames peer)
    have aligned' : Aligned left' right' := by
      refine ⟨kept.trans kept'.symm, ?_⟩
      rw [frames, frames']
      exact woven_update aligned.frames woven
    exact Or.inr (Or.inr ⟨by rw [same, same', agree], aligned', fun _ _ => aligned'⟩)

/-! ### Loops that skip progress frames -/

def Concludes (world : Surroundings) (outcome : Except Halt Value) (code : SupM Value) : Prop :=
  ∀ store setting, ∃ last, Quiet setting last ∧
    (code store).drive world.respond setting = some ((outcome, store), last)

/-- Code that ends right after a look at the clock by clearing the timeout. -/
def Expires (world : Surroundings) (fuel : Nat) (code : SupM Value) : Prop :=
  ∀ store setting instant, (byEffects fuel).fits setting → ∃ result last,
    (code store).drive world.respond
      ⟨setting.past ++ [⟨⟨store, .now⟩, instant⟩], setting.frames⟩ = some (result, last) ∧
      setting.past <+: last.past ∧ (byEffects fuel).fits last ∧ waitExpired last.past = true

structure WaitLoop (world : Surroundings) (fuel : Nat) (peer : Side) (pred : Message → Bool)
    (wrap : Except Error Message → Except Halt Value) (limit : Instant)
    (loop : Nat → SupM Value) : Prop where
  rounds : ∀ count, ∃ (late : SupM Value) (next : Polled → SupM Value),
    loop (count + 1) = waitRound peer limit late next ∧ Expires world fuel late ∧
    (∀ cause, Concludes world (wrap (.error cause)) (next (.failed cause))) ∧
    ∀ version message, if isProgress message then next (.frame version message) = loop count
      else Concludes world (wrap (if pred message then .ok message
        else .error (.unexpectedMessage (shortName message)))) (next (.frame version message))
  unarmed : ∀ cause, wrap (.error cause) = .error (.error cause)

theorem Quiet.fits (quiet : Quiet first second) (fits : (byEffects fuel).fits first) :
    (byEffects fuel).fits second := by
  intro side
  rw [quiet.frames]
  exact fits side

theorem WaitSettled.skip {setting middle last : Setting} {result : Except Halt Value × SupStore}
    {version : ProtoVersion} {message : Message} {rest : List Frame}
    (sent : setting.frames peer = (version, message) :: rest) (progress : isProgress message = true)
    (arms : world.armFails (effects setting.past) peer = none)
    (grows : setting.past <+: middle.past) (same : effects middle.past = effects setting.past)
    (frames : middle.frames = Function.update setting.frames peer rest)
    (waited : WaitSettled world fuel peer pred wrap store middle result last) :
    WaitSettled world fuel peer pred wrap store setting result last := by
  have skipped : awaited world (effects setting.past) peer pred (setting.frames peer) =
      awaited world (effects middle.past) peer pred (middle.frames peer) := by
    rw [same, frames, Function.update_self, awaited, awaited, arms, sent, beyond_skip progress]
  refine ⟨grows.trans waited.grows, waited.fits, ?_⟩
  rw [skipped]
  refine waited.ending.imp id ?_
  intro ending
  obtain ⟨outcome, kept, left⟩ := ending
  refine ⟨outcome, kept.trans same, ?_⟩
  rw [left, frames, Function.update_idem]

theorem WaitLoop.waits {limit : Instant} {loop : Nat → SupM Value}
    (waitLoop : WaitLoop world fuel peer pred wrap limit loop) (count : Nat) (store : SupStore)
    (setting : Setting) (fits : (byEffects fuel).fits setting)
    (enough : (setting.frames peer).length < count) : ∃ result last,
      (loop count store).drive world.respond setting = some (result, last) ∧
        WaitSettled world fuel peer pred wrap store setting result last := by
  induction count generalizing setting with
  | zero => exact absurd enough (Nat.not_lt_zero _)
  | succ count ih =>
      obtain ⟨late, next, shape, expires, ends, hears⟩ := waitLoop.rounds count
      rw [shape]
      generalize outcome : (waitRound peer limit late next store).drive world.respond setting = driven
      have round := round_drive world peer limit late next store setting
      rw [outcome] at round
      cases round with
      | expired instant =>
          obtain ⟨result, last, same, grows, fits', lost⟩ := expires store setting instant fits
          exact ⟨result, last, same, grows, fits', Or.inl (Or.inl lost)⟩
      | unarmed fails quiet =>
          refine ⟨_, _, rfl, quiet.grows, quiet.fits fits, Or.inr ?_⟩
          rw [awaited, fails, waitLoop.unarmed]
          exact ⟨rfl, quiet.effects, by rw [quiet.frames, Function.update_eq_self]⟩
      | ended arms sent quiet =>
          obtain ⟨last, more, same⟩ := ends _ store _
          have all := quiet.trans more
          refine ⟨_, last, same, all.grows, all.fits fits, Or.inr ?_⟩
          rw [awaited, arms, sent]
          refine ⟨rfl, all.effects, ?_⟩
          change last.frames = Function.update setting.frames peer []
          rw [all.frames, ← sent, Function.update_eq_self]
      | @heard middle version message rest arms sent grows same frames =>
          have shorter : rest.length < (setting.frames peer).length := by
            rw [sent]
            exact Nat.lt_succ_self _
          have fits' : (byEffects fuel).fits middle := by
            intro side
            rw [frames]
            by_cases here : side = peer
            · rw [here, Function.update_self]
              exact Nat.lt_trans shorter (fits peer)
            · rw [Function.update_of_ne here]
              exact fits side
          have enough' : (middle.frames peer).length < count := by
            rw [frames, Function.update_self]
            exact Nat.lt_of_lt_of_le shorter (Nat.le_of_lt_succ enough)
          have hear := hears version message
          cases progress : isProgress message with
          | true =>
              rw [progress, if_pos rfl] at hear
              rw [hear]
              obtain ⟨result, last, driven, waited⟩ := ih middle fits' enough'
              exact ⟨result, last, driven, waited.skip sent progress arms grows same frames⟩
          | false =>
              rw [progress, if_neg (by decide)] at hear
              obtain ⟨last, quiet, driven⟩ := hear store middle
              refine ⟨_, last, driven, grows.trans quiet.grows, quiet.fits fits', Or.inr ?_⟩
              rw [awaited, arms, sent, beyond_found progress]
              exact ⟨rfl, quiet.effects.trans same, by rw [quiet.frames, frames]⟩

/-- Code without a look at a clock, a poll or a bounded loop. -/
abbrev Steady (code : SupM Value) : Prop := Issues (fun _ => True) steadyOp code

theorem Settling.steady {code : SupM Value} (settling : Settling code) : Steady code := by
  refine Issues.mono settling fun op settles => ?_
  cases op with
  | now | nowUnixMs | pollRead | outOfFuel => contradiction
  | _ => rfl

/-! ### The two loops -/

private theorem concludes_ofExcept (outcome : Except Halt Value) :
    Concludes world outcome (ofExcept outcome : SupM Value) := by
  intro store setting
  exact ⟨setting, ⟨List.prefix_rfl, rfl, rfl⟩, rfl⟩

private theorem concludes_clear {outcome : Except Halt Value} {code : SupM Value} (peer : Side)
    (rest : Concludes world outcome code) :
    Concludes world outcome (do
      clearRecvTimeout peer
      code) := by
  intro store setting
  have cleared : ((do
      clearRecvTimeout peer
      code : SupM Value) store).drive world.respond setting = (code store).drive world.respond
        ⟨setting.past ++ [⟨⟨store, .setReadTimeout peer none⟩,
          world.sets (effects setting.past) peer⟩], setting.frames⟩ := drive_ask rfl
  obtain ⟨last, quiet, driven⟩ := rest store
    ⟨setting.past ++ [⟨⟨store, .setReadTimeout peer none⟩, world.sets (effects setting.past) peer⟩],
      setting.frames⟩
  exact ⟨last, (Quiet.record setting rfl).trans quiet, cleared.trans driven⟩

private theorem expires_clear {code : SupM Value} (peer : Side) (rest : Steady code) :
    Expires world fuel (do
      clearRecvTimeout peer
      code) := by
  intro store setting instant fits
  have cleared : ((do
      clearRecvTimeout peer
      code : SupM Value) store).drive world.respond
        ⟨setting.past ++ [⟨⟨store, .now⟩, instant⟩], setting.frames⟩ =
      (code store).drive world.respond ⟨setting.past ++ [⟨⟨store, .now⟩, instant⟩] ++
        [⟨⟨store, .setReadTimeout peer none⟩, world.sets (effects (setting.past ++
          [⟨⟨store, .now⟩, instant⟩])) peer⟩], setting.frames⟩ := drive_ask rfl
  obtain ⟨result, last, driven, grows, fits'⟩ :=
    (steady_locked rest : Locked world fuel Aligned Aligned code).ends store
      ⟨setting.past ++ [⟨⟨store, .now⟩, instant⟩] ++ [⟨⟨store, .setReadTimeout peer none⟩,
        world.sets (effects (setting.past ++ [⟨⟨store, .now⟩, instant⟩])) peer⟩], setting.frames⟩ fits
  refine ⟨result, last, cleared.trans driven, ?_, fits', ?_⟩
  · refine List.IsPrefix.trans ?_ grows
    rw [List.append_assoc]
    exact List.prefix_append _ _
  · exact (byEffects fuel).lost_grows grows (waitExpired_cleared _ _ _ _ _ _)

private theorem readUntilLoop_waitsFor (peer : Side) (limit : Instant) (awaiting : String)
    (pred : Message → Bool) :
    WaitLoop world fuel peer pred (Except.mapError Halt.error) limit
      (readUntilLoop peer limit awaiting pred) := by
  refine ⟨?_, fun _ => rfl⟩
  intro count
  refine ⟨_, _, rfl, expires_clear peer (issues_ofExcept _), ?_, ?_⟩
  · intro cause
    exact concludes_clear peer (concludes_ofExcept _)
  · intro version message
    have takes : Concludes world (Except.mapError Halt.error (if pred message then .ok message
        else .error (.unexpectedMessage (shortName message)))) (do
          clearRecvTimeout peer
          if pred message then pure message
          else SupM.raise (.unexpectedMessage (shortName message))) := by
      apply concludes_clear
      by_cases wanted : pred message = true
      · rw [if_pos wanted, if_pos wanted]
        exact concludes_ofExcept _
      · rw [if_neg wanted, if_neg wanted]
        exact concludes_ofExcept _
    cases message with
    | heartbeat tsMs => rfl
    | sealProgress shardsSealed shardsTotal lastRevision => rfl
    | _ => exact takes

/-- The verdict of a frame that the seal-wait loop takes. -/
def sealWrap (handoffId : HandoffId) : Except Error Message → Except Halt (Except String Unit)
  | .error cause => .error (.error cause)
  | .ok message =>
      match sealVerdict handoffId message with
      | some verdict => .ok verdict
      | none => .error (.error (.unexpectedMessage (shortName message)))

theorem sealWaitLoop_waits (locals : HandoffLocals) (limit : Instant) :
    WaitLoop world fuel .incumbent (fun message => (sealVerdict locals.handoffId message).isSome)
      (sealWrap locals.handoffId) limit (sealWaitLoop locals limit) := by
  refine ⟨?_, fun _ => rfl⟩
  intro count
  have dismisses (reason : String) : Steady (do
      sendBestEffortAbort locals.chosenN locals.handoffId reason
      killAndReap
      journalClear locals.supervisor
      SupM.raise (.timeout "SealComplete") : SupM (Except String Unit)) :=
    Settling.steady (dismiss_settling _ _ _ (issues_bind (journalClear_settling _) fun _ =>
      issues_raise _))
  refine ⟨_, _, rfl, expires_clear .incumbent (dismisses _), ?_, ?_⟩
  · intro cause
    exact concludes_clear .incumbent (concludes_ofExcept _)
  · intro version message
    have takes : Concludes world (sealWrap locals.handoffId
        (if (sealVerdict locals.handoffId message).isSome then .ok message
          else .error (.unexpectedMessage (shortName message))))
        (ruleOnSeal locals.handoffId message) := by
      unfold ruleOnSeal
      unfold sealWrap
      cases verdict : sealVerdict locals.handoffId message with
      | none => exact concludes_clear .incumbent (concludes_ofExcept _)
      | some decided =>
          simp only [Option.isSome_some, if_true, verdict]
          exact concludes_ofExcept _
    cases message with
    | heartbeat tsMs => rfl
    | sealProgress shardsSealed shardsTotal lastRevision => rfl
    | _ => exact takes

/-! ### Waits with their deadline -/

theorem WaitSettled.later {result : Except Halt Value × SupStore} (quiet : Quiet first second)
    (waited : WaitSettled world fuel peer pred wrap store second result third) :
    WaitSettled world fuel peer pred wrap store first result third := by
  have ending := waited.ending
  rw [quiet.effects, quiet.frames] at ending
  exact ⟨quiet.grows.trans waited.grows, waited.fits, ending⟩

section

variable {Other : Type} {code : SupM Value}

theorem WaitLoop.waitsFor {limit : Instant} {loop : Nat → SupM Value}
    (waitLoop : WaitLoop world fuel peer pred wrap limit loop) :
    WaitsFor world fuel peer pred wrap (loop fuel) := by
  intro store setting fits
  exact waitLoop.waits fuel store setting fits (fits peer)

theorem WaitsFor.look {next : Instant → SupM Value}
    (rest : ∀ instant, WaitsFor world fuel peer pred wrap (next instant)) :
    WaitsFor world fuel peer pred wrap (do
      let now ← SupM.ask .now
      next now) := by
  intro store setting fits
  rw [drive_ask rfl]
  obtain ⟨result, last, driven, waited⟩ := rest (world.clock setting.past) store
    ⟨setting.past ++ [⟨⟨store, .now⟩, world.clock setting.past⟩], setting.frames⟩ fits
  exact ⟨result, last, driven, waited.later (Quiet.record setting rfl)⟩

/-- A sum that overflows is an excuse. -/
theorem WaitsFor.checked {condition : Prop} [Decidable condition] {sum : Other}
    {next : Other → SupM Value} (rest : WaitsFor world fuel peer pred wrap (next sum)) :
    WaitsFor world fuel peer pred wrap
      ((if condition then pure sum else SupM.panic : SupM Other) >>= next) := by
  intro store setting fits
  by_cases inRange : condition
  · rw [if_pos inRange]
    exact rest store setting fits
  · rw [if_neg inRange]
    exact ⟨_, setting, rfl, List.prefix_rfl, fits, Or.inl (Or.inr ⟨.panic, rfl, rfl⟩)⟩

theorem WaitsFor.deadline {instant : Instant} {duration : Duration} {next : Instant → SupM Value}
    (rest : WaitsFor world fuel peer pred wrap (next (instant + duration))) :
    WaitsFor world fuel peer pred wrap (do
      let deadline ← addInstant instant duration
      next deadline) := by
  unfold addInstant
  apply WaitsFor.checked
  exact rest

theorem WaitsFor.sum {one two : Duration} {next : Duration → SupM Value}
    (rest : WaitsFor world fuel peer pred wrap (next (one + two))) :
    WaitsFor world fuel peer pred wrap (do
      let total ← addDuration one two
      next total) := by
  unfold addDuration
  apply WaitsFor.checked
  exact rest

theorem WaitsFor.remaining {total : Instant} {next : Duration → SupM Value}
    (rest : ∀ remaining, WaitsFor world fuel peer pred wrap (next remaining)) :
    WaitsFor world fuel peer pred wrap (do
      let remaining ← remainingUntil total
      next remaining) := by
  intro store setting fits
  rw [drive_bind, remainingUntil, drive_ask rfl]
  obtain ⟨result, last, driven, waited⟩ := rest _ store
    ⟨setting.past ++ [⟨⟨store, .now⟩, world.clock setting.past⟩], setting.frames⟩ fits
  exact ⟨result, last, driven, waited.later (Quiet.record setting rfl)⟩

theorem readUntil_waitsFor (peer : Side) (timeout : Duration) (awaiting : String)
    (pred : Message → Bool) :
    WaitsFor world fuel peer pred (Except.mapError Halt.error)
      (readUntil peer timeout awaiting pred fuel) := by
  refine WaitsFor.look fun instant => ?_
  exact WaitsFor.deadline (readUntilLoop_waitsFor peer _ awaiting pred).waitsFor

def caught : Except Halt Value → Except Halt (Except Error Value)
  | .ok value => .ok (.ok value)
  | .error (.error cause) => .ok (.error cause)
  | .error .panic => .error .panic

private theorem catchError_drive {setting last : Setting} {outcome : Except Halt Value}
    {now : SupStore}
    (driven : (code store).drive world.respond setting = some ((outcome, now), last)) :
    (SupM.catchError code store).drive world.respond setting = some ((caught outcome, now), last) := by
  unfold SupM.catchError
  rw [drive_bind]
  change Option.bind (((code store).bind _).drive world.respond setting) _ = _
  rw [Program.drive_bind, driven]
  cases outcome with
  | ok value => rfl
  | error halt =>
      cases halt with
      | error cause => rfl
      | panic => rfl

theorem WaitsFor.catchError {code : SupM Message}
    (waits : WaitsFor world fuel peer pred (Except.mapError Halt.error) code) :
    WaitsFor world fuel peer pred (fun outcome => .ok outcome) (SupM.catchError code) := by
  intro store setting fits
  obtain ⟨⟨outcome, now⟩, last, driven, waited⟩ := waits store setting fits
  refine ⟨_, last, catchError_drive driven, waited.grows, waited.fits, ?_⟩
  rcases waited.ending with (lost | ⟨halt, failed, fatal⟩) | ⟨same, kept, frames⟩
  · exact Or.inl (Or.inl lost)
  · cases failed
    cases fatal
    exact Or.inl (Or.inr ⟨.panic, rfl, rfl⟩)
  · refine Or.inr ⟨?_, kept, frames⟩
    cases same
    cases (awaited world (effects setting.past) peer pred (setting.frames peer)).1 with
    | ok message => rfl
    | error cause => rfl

end

end Handoff
