/-
Why `serve` returns.

Each function of the serve loop gets one specification of how it can fail, or of
what a commit has behind it.  The operations in between are not restricted here.
-/

import Handoff.Primitive.History

namespace Handoff

open Effects PrimM
open Effects.Code hiding pure bind

variable {past : PrimPast} {store : PrimStore}

theorem any_lasts {Value : Type} (kind : PrimEvent → Bool) (code : PrimM Value)
    (found : past.any kind = true) :
    Meets (fun now _ => now.any kind = true) (fun _ _ later => later.any kind = true) code store
      past := by
  have kept := Program.Keeps.invariant (Program.keeps_trivial (code store) past)
    (fun now => now.any kind = true) found (by
      intro now call answer earlier _
      rw [List.any_append, earlier, Bool.true_or])
  exact kept.mono (fun _ _ held => held.1) (fun _ _ held => held.1)

private theorem any_meets {Value : Type} (kind : PrimEvent → Bool) (code : PrimM Value)
    (found : past.any kind = true) :
    Meets (fun _ _ => True) (fun _ _ later => later.any kind = true) code store past :=
  Program.Keeps.mono (any_lasts kind code found) (fun _ _ _ => trivial) (fun _ _ held => held)

/-! ### The lock -/

def Faulted {Value : Type} (outcome : Except Error Value) (_ : PrimStore) (past : PrimPast) :
    Prop :=
  ∀ cause, outcome = .error cause → past.any lockFault = true

/-- An operation on the lock files whose failure ends the code. -/
private theorem faults_tried {Value Other : Type} {op : PrimOp} {next : Other → PrimM Value}
    {outcome : PrimAns op → Except IoError Other}
    {post : Except Error Value → PrimStore → PrimPast → Prop}
    (fault : ∀ answer cause, outcome answer = .error cause → lockFault ⟨⟨store, op⟩, answer⟩ = true)
    (faulted : ∀ cause later, later.any lockFault = true → post (.error cause) store later)
    (rest : ∀ value later, Meets (fun _ _ => True) post (next value) store later) :
    Meets (fun _ _ => True) post (ask op >>= fun answer => orIo (outcome answer) >>= next)
      store past := by
  refine Meets.callBind trivial fun answer => ?_
  cases answered : outcome answer with
  | error cause => exact faulted _ _ (any_last (fault answer cause answered))
  | ok value => exact rest value _

private theorem writePidAtomic_faulted (pid : UInt32) (store : PrimStore) (past : PrimPast) :
    Meets (fun _ _ => True) Faulted (writePidAtomic pid) store past := by
  unfold writePidAtomic
  refine faults_tried (fun _ _ same => same ▸ rfl) (fun _ _ found _ _ => found) fun _ _ => ?_
  refine faults_tried (fun _ _ same => same ▸ rfl) (fun _ _ found _ _ => found) fun _ _ => ?_
  refine faults_tried (fun _ _ same => same ▸ rfl) (fun _ _ found _ _ => found) fun _ later => ?_
  refine Meets.callBind trivial fun renamed => ?_
  cases renamed with
  | error cause =>
      apply (any_meets lockFault _ (any_last rfl)).mono
      exact fun _ _ _ found _ _ => found
  | ok _ =>
      refine Meets.callBind trivial fun directory => ?_
      cases directory with
      | error cause => exact fun _ _ => any_last rfl
      | ok _ =>
          intro cause failed
          cases failed

def Refused {Value : Type} (outcome : Except Error Value) (_ : PrimStore) (past : PrimPast) :
    Prop :=
  ∀ cause, outcome = .error cause →
    past.any lockFault = true ∨ ∃ holderPid, cause = .lockHeld holderPid

private theorem acquire_refused (host : Host) (store : PrimStore) (past : PrimPast) :
    Meets (fun _ _ => True) Refused (DataDirLock.acquire host) store past := by
  unfold DataDirLock.acquire
  refine faults_tried (fun _ _ same => same ▸ rfl) (fun _ _ found _ _ => .inl found) fun _ _ => ?_
  refine faults_tried (fun _ _ same => same ▸ rfl) (fun _ _ found _ _ => .inl found) fun _ later => ?_
  refine Meets.callBind trivial fun verdict => ?_
  cases verdict with
  | wouldBlock =>
      refine Meets.callBind trivial fun holder => ?_
      intro cause same
      cases same
      exact Or.inr ⟨_, rfl⟩
  | failed errno text => exact fun _ _ => Or.inl (any_last rfl)
  | locked =>
      refine Meets.attemptBind (writePidAtomic_faulted host.pid store _) ?_
      intro outcome now later faulted
      cases outcome with
      | ok _ =>
          intro cause failed
          cases failed
      | error cause =>
          apply (any_meets lockFault _ (faulted cause rfl)).mono
          exact fun _ _ _ found _ _ => Or.inl found

def GivenUp {Value : Type} (outcome : Except Error Value) (_ : PrimStore) (past : PrimPast) :
    Prop :=
  ∀ cause, outcome = .error cause →
    past.any lockFault = true ∨ past.getLast?.any ticks = true

private theorem acquireRetryLoop_givenUp (host : Host) (deadline : Instant) (fuel : Nat)
    (store : PrimStore) (past : PrimPast) :
    Meets (fun _ _ => True) GivenUp (acquireRetryLoop host deadline fuel) store past := by
  induction fuel generalizing past store with
  | zero =>
      refine ⟨trivial, ?_⟩
      intro answer
      exact answer.elim
  | succ fuel ih =>
      unfold acquireRetryLoop
      refine Meets.attemptBind (acquire_refused host store past) ?_
      intro outcome now later refused
      cases outcome with
      | ok lock =>
          intro cause failed
          cases failed
      | error cause =>
          rcases refused cause rfl with faulted | ⟨holderPid, rfl⟩
          · apply (any_meets lockFault _ faulted).mono
            exact fun _ _ _ found _ _ => Or.inl found
          · refine Meets.callBind trivial fun instant => ?_
            rw [meets_ite]
            constructor
            · intro _
              exact Meets.callBind trivial fun _ => ih now _
            · intro _ cause _
              right
              rw [List.getLast?_append]
              rfl

private theorem recoverSession_givenUp (host : Host) (fuel : Nat) (store : PrimStore)
    (past : PrimPast) :
    Meets (fun _ _ => True) GivenUp (recoverSession host fuel) store past := by
  unfold recoverSession
  apply Meets.loadBind
  rw [meets_ite]
  constructor
  · intro _
    unfold acquireWithShortRetry
    rw [meets_bind]
    refine Meets.callBind trivial fun instant => ?_
    apply (acquireRetryLoop_givenUp host _ fuel store _).mono
    intro outcome now later givenUp
    cases outcome with
    | error cause => exact fun _ _ => givenUp cause rfl
    | ok lock =>
        refine Meets.updateBind (Meets.callBind trivial fun _ => ?_)
        intro cause failed
        cases failed
  · intro _ cause failed
    cases failed

/-! ### Sessions -/

def CommitRead (outcome : Except Error SessionOutcome) (_ : PrimStore) (past : PrimPast) : Prop :=
  outcome = .ok .committed → past.any readsCommit = true

/-- A message that ends the session is a `Commit`. -/
def EndRead (outcome : Except Error (Option SessionOutcome)) (_ : PrimStore) (past : PrimPast) :
    Prop :=
  ∀ ended, outcome = .ok (some ended) → past.any readsCommit = true

private theorem goesOn_endRead (code : PrimM Unit) (store : PrimStore) (past : PrimPast) :
    Meets (fun _ _ => True) EndRead (do code; Pure.pure none) store past :=
  Meets.bind (meets_run code store past) (fun _ _ _ _ => nofun) (fun _ _ _ _ => nofun)

private theorem onMessage_endRead (host : Host) (chosen version : ProtoVersion) (message : Message)
    (store : PrimStore) (past : PrimPast) :
    Meets (fun _ _ => True) EndRead (onMessage host chosen message) store
      (past ++ [⟨⟨store, .pollRead false⟩, .frame version message⟩]) := by
  cases message with
  | commit handoffId =>
      apply (any_meets readsCommit _ (any_last rfl)).mono
      exact fun _ _ _ found _ _ => found
  | prepareHandoff => exact goesOn_endRead _ _ _
  | sealRequest => exact goesOn_endRead _ _ _
  | resumeAfterAbort => exact goesOn_endRead _ _ _
  | abort => exact goesOn_endRead _ _ _
  | heartbeat => exact goesOn_endRead _ _ _
  | _ => exact nofun

private theorem runSessionLoop_commitRead (host : Host) (chosen : ProtoVersion) (fuel : Nat)
    (store : PrimStore) (past : PrimPast) :
    Meets (fun _ _ => True) CommitRead (runSessionLoop host chosen fuel) store past := by
  induction fuel generalizing past store with
  | zero =>
      refine ⟨trivial, ?_⟩
      intro answer
      exact answer.elim
  | succ fuel ih =>
      unfold runSessionLoop
      refine Meets.callBind trivial fun polled => ?_
      cases polled with
      | waiting midFrame => exact ih store _
      | failed cause =>
          dsimp only
          rw [meets_ite]
          constructor
          · intro _
            apply Meets.loadBind
            rw [meets_ite]
            exact ⟨fun _ => nofun, fun _ => nofun⟩
          · exact fun _ => nofun
      | frame version message =>
          refine Meets.bind (onMessage_endRead host chosen version message store past) ?_ ?_
          · intro outcome now later read
            cases outcome with
            | none => exact ih now later
            | some ended => exact fun _ => read ended rfl
          · exact fun _ _ _ _ => nofun

private theorem handleSession_commitRead (host : Host) (fuel : Nat) (store : PrimStore)
    (past : PrimPast) :
    Meets (fun _ _ => True) CommitRead (handleSession host fuel) store past := by
  unfold handleSession handleSessionOf
  rw [meets_ensuring]
  refine Meets.bind (meets_run (incumbentHandshake host) store past) ?_ ?_
  · intro chosen now later _
    apply Meets.updateBind
    refine Meets.attemptBind (runSessionLoop_commitRead host chosen fuel _ later) ?_
    intro outcome after last read
    refine Meets.mono (?_ : Meets _ CommitRead _ _ _) ?_
    · by_cases committed : outcome = .ok .committed
      · apply (any_meets readsCommit _ (read committed)).mono
        exact fun _ _ _ found _ => found
      · exact Meets.bind (meets_run _ _ _) (fun _ _ _ _ same => absurd same committed)
          (fun _ _ _ _ => nofun)
    · intro result ended final read
      refine ⟨trivial, fun _ committed => ?_⟩
      rw [List.any_append, read committed, Bool.true_or]
  · intro cause now later _
    exact ⟨trivial, fun _ => nofun⟩

/-! ### The serve loop -/

def ConnectionLeft (outcome : Except Error (Option Unit)) (_ : PrimStore) (past : PrimPast) :
    Prop :=
  outcome = .ok none ∨ Left past

private theorem serveConnection_left (host : Host) (fuel : Nat) (store : PrimStore)
    (past : PrimPast) :
    Meets (fun _ _ => True) ConnectionLeft (serveConnection host fuel) store past := by
  unfold serveConnection
  refine Meets.attemptBind (meets_run (prepareSessionStream host) store past) ?_
  intro prepared now later _
  cases prepared with
  | error cause => exact Meets.callBind trivial fun _ => Or.inl rfl
  | ok _ =>
      refine Meets.attemptBind (handleSession_commitRead host fuel now later) ?_
      intro outcome after last read
      cases outcome with
      | ok ended =>
          cases ended with
          | committed => exact Or.inr (Or.inl (read rfl))
          | closed => exact Or.inl rfl
      | error cause =>
          refine Meets.bind (recoverSession_givenUp host fuel after last) ?_ ?_
          · exact fun _ _ _ _ => Or.inl rfl
          · intro failure lost final givenUp
            exact Or.inr (Or.inr (Or.inr (givenUp failure rfl)))

theorem serveLoop_left (host : Host) (fuel : Nat) (backoff : Duration) (store : PrimStore)
    (past : PrimPast) :
    Meets (fun _ _ => True) (fun _ _ later => Left later) (serveLoop host fuel backoff)
      store past := by
  induction fuel generalizing past store backoff with
  | zero =>
      refine ⟨trivial, ?_⟩
      intro answer
      exact answer.elim
  | succ fuel ih =>
      unfold serveLoop
      refine Meets.callBind trivial fun answer => ?_
      cases answer with
      | ok _ =>
          refine Meets.bind (serveConnection_left host fuel store _) ?_ ?_
          · intro again now later left
            cases again with
            | none => exact ih _ now later
            | some _ =>
                rcases left with other | left
                · cases other
                · exact left
          · intro failure now later left
            rcases left with other | left
            · contradiction
            · exact left
      | error cause =>
          cases verdict : classifyAcceptError cause with
          | retry =>
              simp only [verdict]
              exact ih _ store _
          | exhausted =>
              simp only [verdict]
              exact Meets.callBind trivial fun _ => ih _ store _
          | fatal =>
              simp only [verdict]
              refine Or.inr (Or.inl (any_last ?_))
              simp [fatalAccept, verdict]

theorem serve_closes (host : Host) (fuel : Nat) (store : PrimStore) (past : PrimPast) :
    Meets (fun _ _ => True) (fun _ _ later => later.any closesListener = true)
      (serve host fuel) store past := by
  unfold serve
  rw [meets_ensuring]
  apply (meets_run (serveLoop host fuel acceptBackoffMin) store past).mono
  intro outcome now later _
  exact Meets.callBind trivial fun _ => any_meets closesListener _ (any_last rfl)

end Handoff
