/-
A successor until its first session.

It takes the flock once it has read `Begin` and before it announces itself.  Until
a connection reaches it, it has nothing to say but `Hello` and `Ready`, and does
not touch the flock again.
-/

import Handoff.Primitive.SuccessorDuty
import Handoff.Primitive.Writes

namespace Handoff

open Effects PrimM
open Effects.Code hiding pure bind

/-! ### The contract -/

/-- Neither the flock nor a frame that only an incumbent writes. -/
def shyOp : PrimOp → Bool
  | .flock | .writeFrame .session _ _ | .writeFrame .control _ (.sealComplete ..) => false
  | _ => true

structure TakesLock (past : PrimPast) : Prop where
  begun : past.any readsBegin = true
  unannounced : past.any readyWritten = false
  free : flockHeld false past = false

def FirstDuty (past : PrimPast) (call : Call PrimStore PrimOp) : Prop :=
  past.any opensSession = true ∨ shyOp call.op = true ∨ call.op = .flock ∧ TakesLock past

variable {store : PrimStore} {past : PrimPast}

abbrev Shy {Value : Type} (code : PrimM Value) : Prop := Issues (fun _ => True) shyOp code

theorem Shy.first {Value : Type} {code : PrimM Value} (shy : Shy code) :
    Meets FirstDuty (fun _ _ _ => True) code store past := by
  apply Program.Keeps.mono (shy store past trivial)
  · intro now call asked
    exact Or.inr (Or.inl asked.2)
  · exact fun _ _ _ => trivial

/-! ### Up to the lock -/

private theorem talkOp_shy (op : PrimOp) (talk : talkOp op = true) : shyOp op = true := by
  unfold talkOp at talk
  split at talk <;> first | rfl | contradiction

/-- What is known on the way to `Begin`. -/
def Approaching (past : PrimPast) : Prop := Approach past ∧ flockHeld false past = false

theorem Approaching.talk {Value : Type} {code : PrimM Value} (approaching : Approaching past)
    (talk : Within talkOp code) :
    Meets FirstDuty (fun _ _ later => Approaching later) code store past := by
  have met : Meets FirstDuty (fun _ now later => now = store ∧ Approaching later) code store
      past := by
    apply talk.meets Approaching approaching
    · intro now op _ permitted
      exact Or.inr (Or.inl (talkOp_shy op permitted))
    · intro now op answer held permitted
      exact ⟨held.1.append (talkOp_approach permitted),
        (flockHeld_kept _ (talkOp_flock permitted store answer)).trans held.2⟩
  exact met.mono fun _ _ _ held => held.2

private theorem waitForBegin_begun (expected : HandoffId) (fuel : Nat) (store : PrimStore)
    (past : PrimPast) :
    Meets (fun _ _ => True) (fun outcome _ later => outcome.isOk = true →
      later.any readsBegin = true) (waitForBegin expected fuel) store past := by
  induction fuel generalizing past with
  | zero => exact ⟨trivial, fun answer => answer.elim⟩
  | succ fuel ih =>
      unfold waitForBegin
      refine Meets.callBind trivial fun read => ?_
      cases read with
      | error cause =>
          intro returned
          contradiction
      | ok frame =>
          obtain ⟨version, message⟩ := frame
          cases message with
          | begin handoffId =>
              change Meets _ _ (if handoffId = expected then _ else _) _ _
              rw [meets_ite]
              constructor
              · intro _ _
                exact any_last rfl
              · intro _ returned
                contradiction
          | heartbeat tsMs => exact ih _
          | _ =>
              intro returned
              contradiction

private theorem acquire_first (host : Host) (approaching : Approaching past)
    (begun : past.any readsBegin = true) :
    Meets FirstDuty (fun _ _ _ => True) (DataDirLock.acquire host) store past := by
  have kept := Program.Keeps.invariant (acquire_spec host store approaching.2)
    (fun now => Approach now ∧ now.any readsBegin = true) ⟨approaching.1, begun⟩ (by
      intro now call answer held asked
      exact ⟨held.1.append (acquireOp_approach asked.2.1), any_append_of_any held.2 _⟩)
  refine Program.Keeps.mono kept ?_ (fun _ _ _ => trivial)
  intro now call held
  obtain ⟨⟨approach, read⟩, _, acquiring, _, free⟩ := held
  by_cases locking : call.op = .flock
  · exact Or.inr (Or.inr ⟨locking, read, approach.unannounced, free locking⟩)
  · right
    left
    revert acquiring locking
    cases call.op <;> first
      | exact fun _ _ => rfl
      | exact fun impossible => by contradiction
      | exact fun _ other => absurd rfl other

private theorem begunWithLock_first (host : Host) (fuel : Nat) (approaching : Approaching past) :
    Meets FirstDuty (fun _ _ _ => True) (begunWithLock host fuel) store past := by
  unfold begunWithLock
  refine Meets.attemptBind (?_ : Meets FirstDuty (fun _ _ _ => True) _ _ _) ?_
  · refine Meets.bind (approaching.talk (successorHandshake_talk host)) ?_ (fun _ _ _ _ => trivial)
    intro negotiated now later approaching
    have waits : Meets FirstDuty (fun outcome _ begun => Approaching begun ∧
        (outcome.isOk = true → begun.any readsBegin = true))
        (waitForBegin negotiated.handoffId fuel) now later := by
      apply Program.Keeps.mono (Program.Keeps.and
        (approaching.talk (waitForBegin_talk negotiated.handoffId fuel))
        (waitForBegin_begun negotiated.handoffId fuel now later))
      · exact fun _ _ asked => asked.1
      · exact fun _ _ held => held
    refine Meets.bind waits ?_ (fun _ _ _ _ => trivial)
    intro _ last begun held
    refine Meets.bind (acquire_first host held.1 (held.2 rfl)) ?_ (fun _ _ _ _ => trivial)
    exact fun _ _ _ _ => trivial
  · intro outcome now later _
    cases outcome with
    | ok begun => trivial
    | error cause => exact Shy.first (issues_bind (issues_call rfl) fun _ => issues_ofExcept _)

/-! ### From the lock to the first session -/

private theorem bindReplacing_shy (host : Host) (lock : DataDirLock) :
    Shy (bindReplacing host lock) := by
  refine bindReplacing_issues host lock (fun op binding => ?_) rfl rfl fun _ _ => trivial
  cases op <;> first | contradiction | rfl

private theorem announceAndBind_shy (host : Host) (negotiated : Negotiated)
    (snapshot : ReadinessSnapshot) (lock : DataDirLock) :
    Shy (announceAndBind host negotiated snapshot lock) := by
  unfold announceAndBind
  have announces : Shy (announceReady negotiated snapshot) := by
    intro store past _
    unfold announceReady
    rw [meets_ensuring]
    exact Meets.callBind ⟨trivial, rfl⟩ fun _ => ⟨⟨trivial, rfl⟩, fun _ => trivial⟩
  refine issues_bind (issues_attempt announces) fun announced => ?_
  cases announced with
  | ok _ => exact bindReplacing_shy host lock
  | error cause =>
      exact issues_bind (Within.issues (drop_within lock rfl rfl)) fun _ => issues_ofExcept _

private theorem serveLoop_first (host : Host) (fuel : Nat) (backoff : Duration) :
    Meets FirstDuty (fun _ _ _ => True) (serveLoop host fuel backoff) store past := by
  induction fuel generalizing backoff past with
  | zero => exact ⟨Or.inr (Or.inl rfl), fun answer => answer.elim⟩
  | succ fuel ih =>
      unfold serveLoop
      refine Meets.callBind (Or.inr (Or.inl rfl)) fun accepted => ?_
      cases accepted with
      | ok _ =>
          apply Program.Keeps.mono (any_lasts opensSession _ (any_last rfl))
          · exact fun _ _ opened => Or.inl opened
          · exact fun _ _ _ => trivial
      | error cause =>
          dsimp only
          cases classifyAcceptError cause with
          | retry => exact ih _
          | fatal => trivial
          | exhausted => exact Meets.callBind (Or.inr (Or.inl rfl)) fun _ => ih _

private theorem serve_first (host : Host) (fuel : Nat) :
    Meets FirstDuty (fun _ _ _ => True) (serve host fuel) store past := by
  unfold serve
  rw [meets_ensuring]
  apply (serveLoop_first host fuel acceptBackoffMin).mono
  intro outcome now later _
  exact Shy.first (issues_bind (issues_call rfl) fun _ => takeLock_issues rfl rfl fun _ _ => trivial)

theorem runSuccessor_first (host : Host) (snapshot : ReadinessSnapshot) (fuel : Nat)
    (store : PrimStore) :
    Meets FirstDuty (fun _ _ _ => True) (runSuccessor host snapshot fuel) store [] := by
  unfold runSuccessor
  refine Meets.bind (begunWithLock_first host fuel ⟨rfl, rfl⟩) ?_ (fun _ _ _ _ => trivial)
  intro begun now later _
  refine Meets.bind (Shy.first (announceAndBind_shy host begun.1 snapshot begun.2)) ?_
    (fun _ _ _ _ => trivial)
  exact fun _ _ _ _ => serve_first host fuel

end Handoff
