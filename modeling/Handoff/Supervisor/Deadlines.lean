/-
The documented cap on a handoff, and the arithmetic of its budgets.

A wait may last past `deadline` plus the slack in three ways: the drain phase
has a budget of its own, what is left of the deadline is rounded up to a floor,
and the clock is read again before that rest is added to it.  The sums and the
millisecond counts are those of the integers as long as the budgets and the
clock stay clear of the limits of their types.
-/

import Handoff.Primitive.Incumbent
import Handoff.Supervisor.BudgetRuns

namespace Handoff

open Effects
open Effects.Code hiding pure bind

variable {supervisor : Supervisor} {spec : SpawnSpec} {fuel : Nat} {past : SupPast}
  {rest : Process SupStore SupAns Halt HandoffOutcome}

/-! ### The cap -/

/-- The bound stated on `SpawnSpec::deadline`. -/
def handoffCap (spec : SpawnSpec) (past : SupPast) : Instant :=
  startedAt past + spec.deadline + wireSlack

/-- The drain phase fits into what is left of the deadline, and the floor under
what is left for `Ready` does not come into play. -/
def Wait.Fits (spec : SpawnSpec) (started : Instant) : Wait → List Instant → Prop
  | .drained, asked :: _ => asked + spec.drainGrace ≤ started + spec.deadline
  | .ready, counted :: asked :: _ =>
      asked = counted ∧ counted + minReadTimeout ≤ started + spec.deadline
  | _, _ => True

instance (spec : SpawnSpec) (started : Instant) (wait : Wait) (since : List Instant) :
    Decidable (wait.Fits spec started since) := by
  unfold Wait.Fits
  split <;> infer_instance

def InBudget (spec : SpawnSpec) (past : SupPast) : Prop :=
  match (timeline past).wait with
  | none => True
  | some wait => wait.Fits spec (startedAt past) (timeline past).since

instance (spec : SpawnSpec) (past : SupPast) : Decidable (InBudget spec past) := by
  unfold InBudget
  split <;> infer_instance

theorem Wait.limit_le_iff {started limit : Instant} {wait : Wait} {since : List Instant}
    (ordered : since.Pairwise (· ≤ ·)) (limited : wait.limit spec started since = some limit) :
    limit ≤ started + spec.deadline + wireSlack ↔ wait.Fits spec started since := by
  cases wait with
  | sealed =>
      cases limited
      exact ⟨fun _ => trivial, fun _ => Nat.le_refl _⟩
  | drained =>
      cases since with
      | nil => contradiction
      | cons asked since =>
          rw [← Option.some.inj limited]
          simp only [Wait.Fits, wireSlack, minReadTimeout, Duration.fromSecs, Duration.fromMillis,
            Instant, Duration]
          omega
  | ready =>
      cases since with
      | nil => contradiction
      | cons counted since =>
          cases since with
          | nil => contradiction
          | cons asked since =>
              rw [← Option.some.inj limited]
              have later : counted ≤ asked :=
                (List.pairwise_cons.mp ordered).1 asked List.mem_cons_self
              simp only [Wait.Fits, remainingAt, wireSlack, minReadTimeout, Duration.fromSecs,
                Duration.fromMillis, Instant, Duration] at later ⊢
              by_cases left : counted ≤ started + spec.deadline
              · simp only [if_pos left]
                simp only [Instant, Duration] at left
                omega
              · simp only [if_neg left]
                simp only [Instant, Duration] at left
                omega

private theorem since_suffix (past : SupPast) : (timeline past).since <:+ readings past := by
  induction past using List.reverseRecOn with
  | nil => exact List.suffix_refl _
  | append_singleton past event ih =>
      rw [timeline_append, readings_append, Timeline.after]
      cases opens? event with
      | some wait => exact List.nil_suffix
      | none => exact (List.suffix_append_inj_of_length_eq rfl).mpr ⟨ih, rfl⟩

/-- A rehearsal whose clock shows one reading after the other. -/
structure ClockedRehearsal where
  frames : SupRehearsal
  clock : List Instant

def ClockedRehearsal.answer (clocked : ClockedRehearsal) (past : SupPast) :
    (call : Call SupStore SupOp) → Option (SupAns call.op)
  | ⟨store, op⟩ =>
      match op with
      | .now => clocked.clock[(readings past).length]?
      | op => clocked.frames.answer past ⟨store, op⟩

def ClockedRehearsal.perform (clocked : ClockedRehearsal) (spec : SpawnSpec) (steps : Nat) :
    SupPast × Process SupStore SupAns Halt HandoffOutcome :=
  Program.play clocked.answer steps [] (performHandoff rehearsalSupervisor spec steps {})

theorem ClockedRehearsal.run (clocked : ClockedRehearsal) (spec : SpawnSpec) (steps : Nat) :
    (performHandoff rehearsalSupervisor spec steps {}).Run (clocked.perform spec steps).1
      (clocked.perform spec steps).2 :=
  Program.play_run clocked.answer steps [] _

/-- Every read of a wait is issued before the limit of that wait, and under
budgets that fit the limit is within the cap. -/
theorem waits_within_cap (run : (performHandoff supervisor spec fuel {}).Run past rest)
    (ordered : (readings past).Pairwise (· ≤ ·)) {store : SupStore} {peer : Side}
    (issues : rest.op? = some ⟨store, .pollRead peer⟩) (waiting : (timeline past).wait ≠ none)
    (fits : InBudget spec past) :
    ∃ limit now, waitLimit spec past = some limit ∧ (readings past).getLast? = some now ∧
      now < limit ∧ lastTimeout past = some (some (recvTimeout limit now)) ∧
      limit ≤ handoffCap spec past := by
  have owed : BudgetOpDuty spec past (.pollRead peer) :=
    run.owes (performHandoff_budgeted supervisor spec fuel) issues
  obtain ⟨limit, now, limited, last, inTime, armed⟩ := owed.resolve_left waiting
  refine ⟨limit, now, limited, last, inTime, armed, ?_⟩
  unfold waitLimit at limited
  obtain ⟨wait, opened, within⟩ := Option.bind_eq_some_iff.mp limited
  rw [InBudget, opened] at fits
  exact (Wait.limit_le_iff (ordered.sublist (since_suffix past).sublist) within).mpr fits

/-- A handoff with the default budgets that has waited for 20 seconds. -/
def punctual : ClockedRehearsal :=
  { frames := committedHandoff, clock := [0, 0, 0, Duration.fromSecs 20] }

theorem waits_within_cap_punctual :
    ∃ limit, waitLimit rehearsalSpec (punctual.perform rehearsalSpec 24).1 = some limit ∧
      limit ≤ handoffCap rehearsalSpec (punctual.perform rehearsalSpec 24).1 := by
  have issues : (punctual.perform rehearsalSpec 24).2.op? =
      some ⟨⟨some 7⟩, .pollRead .incumbent⟩ := by decide +kernel
  obtain ⟨limit, _, limited, _, _, _, capped⟩ := waits_within_cap (punctual.run rehearsalSpec 24)
    (by decide +kernel) issues (by decide +kernel) (by decide +kernel)
  exact ⟨limit, limited, capped⟩

/-- The default drain phase of a minute under an overall deadline of 30 seconds. -/
def shortDeadline : SpawnSpec := { rehearsalSpec with deadline := Duration.fromSecs 30 }

def overdue : ClockedRehearsal :=
  { frames := committedHandoff, clock := [0, 0, 0, Duration.fromSecs 40] }

/-- The read of `Drained` may last for 61 seconds where 31 are documented, and
one of its reads is issued after 40. -/
theorem drained_wait_past_cap :
    (performHandoff rehearsalSupervisor shortDeadline 24 {}).Run (overdue.perform shortDeadline 24).1
        (overdue.perform shortDeadline 24).2 ∧
      (readings (overdue.perform shortDeadline 24).1).Pairwise (· ≤ ·) ∧
      (overdue.perform shortDeadline 24).2.op? = some ⟨⟨some 7⟩, .pollRead .incumbent⟩ ∧
      (timeline (overdue.perform shortDeadline 24).1).wait = some .drained ∧
      waitLimit shortDeadline (overdue.perform shortDeadline 24).1 = some (Duration.fromSecs 61) ∧
      (readings (overdue.perform shortDeadline 24).1).getLast? = some (Duration.fromSecs 40) ∧
      handoffCap shortDeadline (overdue.perform shortDeadline 24).1 = Duration.fromSecs 31 :=
  ⟨overdue.run shortDeadline 24, by decide +kernel, by decide +kernel, by decide +kernel,
    by decide +kernel, by decide +kernel, by decide +kernel⟩

/-! ### Exact arithmetic -/

private theorem asMillis_exact {duration : Duration}
    (small : duration < Duration.fromMillis (2 ^ 64)) :
    (asMillis duration).toNat = duration / 1000000 := by
  rw [asMillis, UInt64.toNat_ofNat_of_lt']
  simp only [Duration.fromMillis, Duration] at small
  simp only [UInt64.size]
  omega

def receivedAt? : PrimEvent → Option Instant
  | ⟨⟨_, .now⟩, instant⟩ => some instant
  | _ => none

def receivedAt (past : PrimPast) : Option Instant := (past.filterMap receivedAt?).getLast?

/-- The consumer is given until the smaller of the two budgets has passed. -/
def DrainDuty (deadlineMs drainGraceMs : UInt64) (past : PrimPast)
    (call : Call PrimStore PrimOp) : Prop :=
  ∀ deadline, call.op = .drain deadline → ∃ received, receivedAt past = some received ∧
    deadline = received + Duration.fromMillis (min drainGraceMs deadlineMs).toNat

private theorem onPrepareHandoff_drains (chosen : ProtoVersion) (handoffId : HandoffId)
    (deadlineMs drainGraceMs : UInt64) (store : PrimStore) :
    Meets (DrainDuty deadlineMs drainGraceMs) (fun _ _ _ => True)
      (onPrepareHandoff chosen handoffId deadlineMs drainGraceMs) store [] := by
  unfold onPrepareHandoff
  apply Meets.loadBind
  rw [meets_ite]
  refine ⟨fun _ => trivial, fun _ => ?_⟩
  apply Meets.updateBind
  refine Meets.callBind (fun _ impossible => by cases impossible) fun received => ?_
  -- the hook runs with or without heartbeats beside it
  have drains (now : PrimStore) (past : PrimPast) (read : receivedAt past = some received) :
      Meets (DrainDuty deadlineMs drainGraceMs) (fun _ _ _ => True) (do
        ofExcept (← PrimM.ask (.drain (received + Duration.fromMillis
          (min drainGraceMs deadlineMs).toNat))) : PrimM DrainReport) now past := by
    refine Meets.callBind ?_ fun _ => trivial
    intro deadline same
    cases same
    exact ⟨received, read, rfl⟩
  unfold runWithHeartbeats
  refine Meets.bind (?_ : Meets _ (fun _ _ _ => True) _ _ _) ?_ (fun _ _ _ _ => trivial)
  · refine Meets.callBind (fun _ impossible => by cases impossible) fun cloned => ?_
    cases cloned with
    | error cause => exact drains _ _ rfl
    | ok _ =>
        apply Meets.updateBind
        rw [meets_ensuring]
        exact (drains _ _ rfl).mono (fun _ _ _ _ => trivial)
  · intro report now later _
    apply Meets.updateBind
    exact Meets.callBind (fun _ impossible => by cases impossible) fun _ => trivial

private theorem min_div_millis (first second : Nat) :
    min (first / 1000000) (second / 1000000) = min first second / 1000000 := by
  omega

private theorem began_startedAt {counted : Instant}
    (last : (readings past).getLast? = some counted) :
    Began (startedAt past) past := by
  unfold Began startedAt
  cases found : readings past with
  | nil =>
      rw [found] at last
      contradiction
  | cons first rest => rfl

/-- Clear of the limits no sum of a handoff overflows, `PrepareHandoff` carries
the budgets in whole milliseconds, and the incumbent adds the smaller one of
them to the time at which it received them. -/
theorem budgets_exact (run : (performHandoff supervisor spec fuel {}).Run past rest)
    (roomy : Roomy spec past) :
    (∀ store, rest ≠ .done (.error .panic, store)) ∧
    ∀ store peer version handoffId successorPid deadlineMs drainGraceMs,
      rest.op? = some ⟨store, .writeFrame peer version
        (.prepareHandoff handoffId successorPid deadlineMs drainGraceMs)⟩ →
      ∃ counted, (readings past).getLast? = some counted ∧
        deadlineMs.toNat = remainingAt (startedAt past + spec.deadline) counted / 1000000 ∧
        drainGraceMs.toNat = spec.drainGrace / 1000000 ∧
        ∀ chosen incumbent drained draining,
          (onPrepareHandoff chosen handoffId deadlineMs drainGraceMs incumbent).Run drained draining →
          ∀ now deadline, draining.op? = some ⟨now, .drain deadline⟩ →
            ∃ received, receivedAt drained = some received ∧
              deadline = received + min (remainingAt (startedAt past + spec.deadline) counted)
                spec.drainGrace / 1000000 * 1000000 ∧
              (received < Duration.fromSecs (2 ^ 62) → deadline < Instant.limit) := by
  constructor
  · intro store done
    have ended := run.keeps (performHandoff_budgeted supervisor spec fuel)
    rw [done] at ended
    exact ended rfl roomy
  · intro store peer version handoffId successorPid deadlineMs drainGraceMs issues
    obtain ⟨counted, last, deadline, grace⟩ : BudgetOpDuty spec past (.writeFrame peer version
        (.prepareHandoff handoffId successorPid deadlineMs drainGraceMs)) :=
      run.owes (performHandoff_budgeted supervisor spec fuel) issues
    have left := roomy.remaining_le (began_startedAt last) (List.mem_of_getLast? last)
    have whole : remainingAt (startedAt past + spec.deadline) counted <
        Duration.fromMillis (2 ^ 64) := by
      have small := roomy.deadline
      simp only [Duration.fromMillis, minReadTimeout, Duration] at left small ⊢
      omega
    have deadlineExact := (congrArg UInt64.toNat deadline).trans (asMillis_exact whole)
    have graceExact := (congrArg UInt64.toNat grace).trans (asMillis_exact roomy.drainGrace)
    refine ⟨counted, last, deadlineExact, graceExact, ?_⟩
    intro chosen incumbent drained draining session now expires drains
    obtain ⟨received, read, same⟩ := session.owes (onPrepareHandoff_drains chosen handoffId
      deadlineMs drainGraceMs incumbent) drains expires rfl
    rw [UInt64.toNat_min, deadlineExact, graceExact, Nat.min_comm, min_div_millis] at same
    refine ⟨received, read, same, ?_⟩
    intro early
    have small := roomy.drainGrace
    rw [same, Instant.limit_eq]
    simp only [Duration.fromMillis, Duration.fromSecs, Instant, Duration] at *
    omega

theorem budgets_exact_punctual :
    (punctual.perform rehearsalSpec 20).2.op? = some ⟨⟨some 7⟩, .writeFrame .incumbent 1
      (.prepareHandoff ⟨1⟩ 7 300000 60000)⟩ ∧
    ∃ counted, (readings (punctual.perform rehearsalSpec 20).1).getLast? = some counted ∧
      (300000 : UInt64).toNat = remainingAt (startedAt (punctual.perform rehearsalSpec 20).1 +
        rehearsalSpec.deadline) counted / 1000000 := by
  have issues : (punctual.perform rehearsalSpec 20).2.op? = some ⟨⟨some 7⟩, .writeFrame .incumbent 1
      (.prepareHandoff ⟨1⟩ 7 300000 60000)⟩ := by decide +kernel
  have exactly := budgets_exact (punctual.run rehearsalSpec 20)
    ⟨by decide +kernel, by decide +kernel, by decide +kernel, by decide +kernel⟩
  obtain ⟨counted, last, deadline, _⟩ := exactly.2 _ _ _ _ _ _ _ issues
  exact ⟨issues, counted, last, deadline⟩

/-- The largest deadline that the configuration can hold. -/
def endless : SpawnSpec := { rehearsalSpec with deadline := Duration.fromSecs (2 ^ 64 - 1) }

/-- A drain phase of 384 milliseconds more than 64 bits can count. -/
def wrapping : SpawnSpec := { rehearsalSpec with drainGrace := Duration.fromSecs 18446744073709552 }

/-- The first sum panics, which poisons the lock that every later call has to
take; and a drain phase that is not the largest is announced as 384
milliseconds. -/
theorem budgets_overflow :
    ((punctual.perform endless 40).2 = .done (.error .panic, {}) ∧
      (punctual.perform endless 40).1.any (fun event => event.op.op == .releaseInFlight true) =
        true ∧
      (performHandoff rehearsalSupervisor rehearsalSpec 0 {}).Run [⟨⟨{}, .tryLockInFlight⟩, false⟩]
        (.done (.error (.error .handoffInProgress), {}))) ∧
    (punctual.perform wrapping 20).2.op? = some ⟨⟨some 7⟩, .writeFrame .incumbent 1
      (.prepareHandoff ⟨1⟩ 7 300000 384)⟩ ∧
    wrapping.drainGrace / 1000000 = 2 ^ 64 + 384 := by
  refine ⟨⟨Program.eq_done_of_result? (by decide +kernel), by decide +kernel, ?_⟩, by decide +kernel,
    by decide +kernel⟩
  exact Program.replay_run rfl

end Handoff
