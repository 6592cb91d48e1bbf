/-
`perform_handoff` against its contract.

Until the verdict the child is `Open`: owned by the guard, with nothing decided.
From there the child is either `Installed`, and then never killed, or `Gone`,
killed and reaped.  Every exit is one of these, and the drops of the locals turn
an open child into one that is gone before the stream to the incumbent is closed.
-/

import Handoff.Supervisor.Decisions

namespace Handoff

open Effects SupM
open Effects.Code hiding pure bind

variable {past later : SupPast} {store : SupStore} {handoffId : HandoffId} {event : SupEvent}
  {Value Other : Type} {post : Except Halt Other → SupStore → SupPast → Prop}
  {outcome : Except Halt HandoffOutcome} {code : SupM Value} {next : Value → SupM Other}
  {message : Message}

/-! ### The states of the child -/

def Unready (past : SupPast) : Prop :=
  ∀ handoffId, handoffIdOf past = some handoffId → ¬ReadyRead handoffId past

structure Open (past : SupPast) (store : SupStore) : Prop where
  owned : store.guard = spawned past
  alive : past.any kills = false
  uncommitted : past.any writesCommit = false
  unresumed : past.any writesResume = false
  unready : Unready past

structure Gone (past : SupPast) (store : SupStore) : Prop where
  guard : store.guard = none
  reaped : Reaped past
  uncommitted : past.any writesCommit = false
  unready : Unready past

structure Installed (handoffId : HandoffId) (past : SupPast) (store : SupStore) : Prop where
  identity : handoffIdOf past = some handoffId
  guard : store.guard = none
  ready : ReadyRead handoffId past
  alive : past.any kills = false
  unresumed : past.any writesResume = false

namespace Idly

theorem readyRead_iff (idly : Idly past later) :
    ReadyRead handoffId later ↔ ReadyRead handoffId past := by
  refine Grows.induct idly (fun now => ReadyRead handoffId now ↔ ReadyRead handoffId past)
    Iff.rfl ?_
  intro now event idle same
  rw [readyRead_append, same]
  constructor
  · rintro (ready | ⟨reads, _⟩)
    · exact ready
    · rw [readsReady, idleOp_frame idle] at reads
      contradiction
  · intro ready
    exact Or.inl ready

theorem unready (idly : Idly past later) (unready : Unready past) : Unready later := by
  intro handoffId same
  rw [idly.calmly.handoffIdOf_eq] at same
  rw [idly.readyRead_iff]
  exact unready handoffId same

end Idly

private theorem Open.grow (opened : Open past store) (calmly : Calmly past later)
    (unready : Unready later) : Open later store :=
  { owned := opened.owned.trans calmly.spawned_eq.symm
    alive := (calmly.any_eq fun _ calm => (calmOp_event calm).kill).trans opened.alive
    uncommitted := (calmly.any_eq fun _ calm => (calmOp_event calm).commit).trans
      opened.uncommitted
    unresumed := (calmly.any_eq fun _ calm => (calmOp_event calm).resume).trans opened.unresumed
    unready := unready }

theorem Open.idly (opened : Open past store) (idly : Idly past later) : Open later store :=
  opened.grow idly.calmly (idly.unready opened.unready)

theorem Open.calmly (opened : Open past store) (calmly : Calmly past later)
    (unbegun : past.any writesBegin = false) : Open later store :=
  opened.grow calmly fun _ _ => calmly.unready unbegun

theorem Gone.idly (gone : Gone past store) (idly : Idly past later) : Gone later store :=
  { guard := gone.guard
    reaped := idly.calmly.reaped gone.reaped
    uncommitted := (idly.calmly.any_eq fun _ calm => (calmOp_event calm).commit).trans
      gone.uncommitted
    unready := idly.unready gone.unready }

theorem Installed.idly (installed : Installed handoffId past store) (idly : Idly past later) :
    Installed handoffId later store :=
  { identity := idly.calmly.handoffIdOf_eq.trans installed.identity
    guard := installed.guard
    ready := idly.readyRead_iff.mpr installed.ready
    alive := (idly.calmly.any_eq fun _ calm => (calmOp_event calm).kill).trans installed.alive
    unresumed := (idly.calmly.any_eq fun _ calm => (calmOp_event calm).resume).trans
      installed.unresumed }

structure Neutral (event : SupEvent) : Prop where
  handoffId : handoffIdOf? event = none
  child : spawns? event = none
  kill : kills event = false
  commit : writesCommit event = false
  resume : writesResume event = false
  frame : frameFrom .successor event = none

theorem Unready.append (unready : Unready past) (identity : handoffIdOf? event = none)
    (silent : frameFrom .successor event = none) : Unready (past ++ [event]) := by
  intro handoffId same
  rw [handoffIdOf_append, identity, Option.none_or] at same
  rw [readyRead_append]
  rintro (ready | ⟨reads, _⟩)
  · exact unready handoffId same ready
  · rw [readsReady, silent] at reads
    contradiction

theorem Open.append (opened : Open past store) (neutral : Neutral event) :
    Open (past ++ [event]) store :=
  { owned := by
      rw [spawned_append, neutral.child, Option.none_or]
      exact opened.owned
    alive := any_append_false opened.alive neutral.kill
    uncommitted := any_append_false opened.uncommitted neutral.commit
    unresumed := any_append_false opened.unresumed neutral.resume
    unready := opened.unready.append neutral.handoffId neutral.frame }

def Pending (past : SupPast) (store : SupStore) : Prop := Open past store ∨ Gone past store

private theorem killAndReap_meets (pending : Pending past store) :
    Meets SupDuty (fun outcome now later => outcome = .ok () ∧ Gone later now ∧
      handoffIdOf later = handoffIdOf past) killAndReap store past := by
  unfold killAndReap
  apply Meets.loadBind
  cases owner : store.guard with
  | none =>
      refine ⟨rfl, ?_, rfl⟩
      rcases pending with opened | gone
      · refine ⟨owner, ?_, opened.uncommitted, opened.unready⟩
        intro pid child
        rw [← opened.owned, owner] at child
        contradiction
      · exact gone
  | some pid =>
      have opened : Open past store := by
        rcases pending with opened | gone
        · exact opened
        · rw [gone.guard] at owner
          contradiction
      have child : spawned past = some pid := opened.owned.symm.trans owner
      refine Meets.callBind ⟨child, opened.unready⟩ fun killed => ?_
      refine Meets.callBind trivial fun waited => ⟨rfl, ?_, ?_⟩
      · refine ⟨rfl, ?_, ?_, ?_⟩
        · intro other same
          rw [spawned_append, spawned_append] at same
          change spawned past = some other at same
          rw [child] at same
          cases same
          exact ⟨past, ⟨⟨store, .kill pid⟩, killed⟩, [], ⟨⟨store, .wait pid⟩, waited⟩, [],
            by simp, child, rfl, rfl⟩
        · exact any_append_false (any_append_false opened.uncommitted rfl) rfl
        · exact (opened.unready.append rfl rfl).append rfl rfl
      · rw [handoffIdOf_append, handoffIdOf_append]
        rfl

/-! ### Up to the verdict -/

structure Working (handoffId : HandoffId) (past : SupPast) (store : SupStore) : Prop
    extends Open past store where
  identity : handoffIdOf past = some handoffId
  unbegun : past.any writesBegin = false

namespace Working

variable {handoffId : HandoffId}

theorem calmly (working : Working handoffId past store) (calmly : Calmly past later) :
    Working handoffId later store :=
  { working.toOpen.calmly calmly working.unbegun with
    identity := calmly.handoffIdOf_eq.trans working.identity
    unbegun := (calmly.any_eq fun _ calm => (calmOp_event calm).begin).trans working.unbegun }

theorem append (working : Working handoffId past store) (neutral : Neutral event)
    (begin : writesBegin event = false) : Working handoffId (past ++ [event]) store :=
  { working.toOpen.append neutral with
    identity := by
      rw [handoffIdOf_append, neutral.handoffId, Option.none_or]
      exact working.identity
    unbegun := any_append_false working.unbegun begin }

theorem pending (working : Working handoffId past store) : Pending past store :=
  Or.inl working.toOpen

end Working

private theorem unrequested_calmly (unrequested : past.any writesSealRequest = false)
    (calmly : Calmly past later) : later.any writesSealRequest = false :=
  (calmly.any_eq fun _ calm => (calmOp_event calm).sealRequest).trans unrequested

theorem Working.calmBind (working : Working handoffId past store) (calm : Within calmOp code)
    (rest : ∀ value later, Calmly past later → Working handoffId later store →
      Meets SupDuty post (next value) store later)
    (failed : ∀ halt later, Working handoffId later store → post (.error halt) store later) :
    Meets SupDuty post (code >>= next) store past := by
  refine Meets.bind (calm_meets calm) ?_ ?_
  · rintro value now later ⟨rfl, calmly⟩
    exact rest value later calmly (working.calmly calmly)
  · rintro halt now later ⟨rfl, calmly⟩
    exact failed halt later (working.calmly calmly)

theorem Working.writeBind {peer : Side} {version : ProtoVersion} {next : SupM Other}
    (working : Working handoffId past store)
    (asked : SupOpDuty past store (.writeFrame peer version message))
    (neutral : ∀ answer, Neutral ⟨⟨store, .writeFrame peer version message⟩, answer⟩)
    (begin : ∀ answer, writesBegin ⟨⟨store, .writeFrame peer version message⟩, answer⟩ = false)
    (rest : ∀ event, frameTo peer event = some message →
      Working handoffId (past ++ [event]) store →
      Meets SupDuty post next store (past ++ [event]))
    (failed : ∀ halt later, Working handoffId later store → post (.error halt) store later) :
    Meets SupDuty post (do orErr (← ask (.writeFrame peer version message)); next)
      store past := by
  refine Meets.callBind asked fun written => ?_
  have sent := working.append (neutral written) (begin written)
  cases written with
  | ok _ => exact rest _ (if_pos rfl) sent
  | error cause => exact failed _ _ sent

theorem ReadSince.found {peer : Side} {pred : Message → Bool}
    (read : ReadSince peer pred past (.ok message) later) :
    ∃ event ∈ later, frameFrom peer event = some message := by
  obtain ⟨extra, rfl, _, _, skipped, frames, _⟩ := read
  have member : message ∈ extra.filterMap (frameFrom peer) := by
    rw [frames]
    simp
  obtain ⟨event, present, same⟩ := List.mem_filterMap.mp member
  exact ⟨event, List.mem_append_right _ present, same⟩

private theorem prepare_meets (locals : HandoffLocals) (fuel : Nat)
    (working : Working locals.handoffId past store)
    (unrequested : past.any writesSealRequest = false) :
    Meets SupDuty (fun outcome now later =>
      match outcome with
      | .ok _ => now = store ∧ Working locals.handoffId later now ∧
          later.any readsDrained = true ∧ later.any writesSealRequest = false
      | .error _ => Pending later now) (prepare locals fuel) store past := by
  unfold prepare
  refine working.calmBind (Reliable.within (remainingUntil_reliable _ rfl)) ?_ (fun _ _ w => w.pending)
  intro remaining now calmly working
  have unrequested := unrequested_calmly unrequested calmly
  refine working.writeBind ?_ ?_ ?_ ?_ (fun _ _ w => w.pending)
  · exact unrequested
  · exact fun _ => ⟨rfl, rfl, rfl, rfl, rfl, rfl⟩
  · exact fun _ => rfl
  intro event sent working
  have unrequested : (now ++ [event]).any writesSealRequest = false := by
    apply any_append_false unrequested
    rw [writesSealRequest, sent]
  refine working.calmBind (addDuration_within locals.spec.drainGrace wireSlack) ?_
    (fun _ _ w => w.pending)
  intro timeout armed calmly working
  have unrequested := unrequested_calmly unrequested calmly
  refine Meets.bind (readUntil_meets _ _ _ isDrained_awaits fuel) ?_ ?_
  · rintro message same read ⟨rfl, drained⟩
    have unrequested := unrequested_calmly unrequested drained.calmly
    have working := working.calmly drained.calmly
    apply (idle_meets (Reliable.within (journalSet_reliable _ _ _ _ _ fun _ => rfl))).mono
    rintro outcome last final ⟨rfl, idly⟩
    have journaled := working.calmly idly.calmly
    cases outcome with
    | error halt => exact journaled.pending
    | ok _ =>
        refine ⟨rfl, journaled, ?_, unrequested_calmly unrequested idly.calmly⟩
        apply idly.calmly.any
        obtain ⟨event, member, frame⟩ := drained.found
        obtain ⟨_, _, _, accepted, _⟩ := drained
        exact List.any_eq_true.mpr ⟨event, member, by rw [readsDrained, frame]; exact accepted⟩
  · rintro halt same read ⟨rfl, drained⟩
    exact (working.calmly drained.calmly).pending

private theorem dismiss_meets {next : SupM Value}
    {post : Except Halt Value → SupStore → SupPast → Prop} (locals : HandoffLocals)
    (reason : String) (opened : Open past store)
    (rest : ∀ now later, Gone later now → handoffIdOf later = handoffIdOf past →
      Meets SupDuty post next now later)
    (failed : ∀ halt now later, Pending later now → post (.error halt) now later) :
    Meets SupDuty post (do
      sendBestEffortAbort locals.chosenN locals.handoffId reason
      killAndReap
      next) store past := by
  refine Meets.bind (idle_meets (Reliable.within (sendBestEffortAbort_reliable _ _ _ rfl))) ?_ ?_
  · rintro _ now later ⟨rfl, idly⟩
    refine Meets.bind (killAndReap_meets (Or.inl (opened.idly idly))) ?_ ?_
    · rintro _ reaped last ⟨_, gone, same⟩
      exact rest reaped last gone (same.trans idly.calmly.handoffIdOf_eq)
    · rintro halt reaped last ⟨impossible, _⟩
      contradiction
  · rintro halt now later ⟨rfl, idly⟩
    exact failed halt now later (Or.inl (opened.idly idly))

theorem Gone.idleBind (gone : Gone past store) (idle : Within idleOp code)
    (rest : ∀ value later, Idly past later → Gone later store →
      Meets SupDuty post (next value) store later)
    (failed : ∀ halt later, Gone later store → post (.error halt) store later) :
    Meets SupDuty post (code >>= next) store past := by
  refine Meets.bind (idle_meets idle) ?_ ?_
  · rintro value now later ⟨rfl, idly⟩
    exact rest value later idly (gone.idly idly)
  · rintro halt now later ⟨rfl, idly⟩
    exact failed halt later (gone.idly idly)

def SealWaited (handoffId : HandoffId) (before : SupStore)
    (outcome : Except Halt (Except String Unit)) (store : SupStore) (past : SupPast) : Prop :=
  match outcome with
  | .ok verdict => store = before ∧ Working handoffId past store ∧
      (verdict.isOk = true → past.any (readsSealComplete handoffId) = true)
  | .error _ => Pending past store

private theorem abandonSeal_meets (locals : HandoffLocals) (reason : String)
    (working : Working locals.handoffId past store) :
    Meets SupDuty (SealWaited locals.handoffId store) (abandonSeal locals reason) store past := by
  unfold abandonSeal
  refine working.calmBind (Reliable.within (clearRecvTimeout_reliable _ rfl)) ?_
    (fun _ _ w => w.pending)
  intro _ cleared _ working
  refine dismiss_meets locals reason working.toOpen ?_ (fun _ _ _ pending => pending)
  intro now later gone _
  exact gone.idleBind (Reliable.within (journalClear_reliable _ rfl))
    (fun _ _ _ gone => Or.inr gone)
    (fun _ _ gone => Or.inr gone)

private theorem sealVerdict_complete (verdict : sealVerdict handoffId message = some (.ok ()))
    (version : ProtoVersion) :
    readsSealComplete handoffId ⟨⟨store, .pollRead .incumbent⟩, .frame version message⟩ = true := by
  unfold sealVerdict at verdict
  split at verdict
  · split at verdict
    · next same => simp [readsSealComplete, frameFrom, same]
    · contradiction
  · split at verdict <;> cases verdict
  · contradiction

private theorem sealWaitLoop_meets (locals : HandoffLocals) (deadline : Instant) (fuel : Nat)
    (working : Working locals.handoffId past store) :
    Meets SupDuty (SealWaited locals.handoffId store) (sealWaitLoop locals deadline fuel)
      store past := by
  induction fuel generalizing past with
  | zero =>
      refine ⟨trivial, ?_⟩
      intro answer
      exact answer.elim
  | succ fuel ih =>
      unfold sealWaitLoop
      refine working.calmBind (within_call rfl) ?_ (fun _ _ w => w.pending)
      intro now ticked _ working
      rw [meets_ite]
      constructor
      · intro _
        exact abandonSeal_meets locals _ working
      · intro _
        refine working.calmBind (Reliable.within (armRecvTimeout_reliable _ _ rfl rfl)) ?_
          (fun _ _ w => w.pending)
        intro _ armed _ working
        refine Meets.callBind trivial fun polled => ?_
        have waiting := working.calmly ((Calmly.refl armed).step
          ⟨⟨store, .pollRead .incumbent⟩, polled⟩ rfl)
        have failing (cause : Error) : Meets SupDuty (SealWaited locals.handoffId store)
            (do clearRecvTimeout .incumbent; raise cause) store
            (armed ++ [⟨⟨store, .pollRead .incumbent⟩, polled⟩]) :=
          waiting.calmBind (Reliable.within (clearRecvTimeout_reliable _ rfl))
            (fun _ _ _ w => w.pending) (fun _ _ w => w.pending)
        cases polled with
        | failed cause => exact failing cause
        | waiting midFrame =>
            cases midFrame with
            | true => exact ih waiting
            | false => exact abandonSeal_meets locals _ waiting
        | frame version message =>
            have ruled : Meets SupDuty (SealWaited locals.handoffId store)
                (ruleOnSeal locals.handoffId message) store
                (armed ++ [⟨⟨store, .pollRead .incumbent⟩, .frame version message⟩]) := by
              unfold ruleOnSeal
              cases verdict : sealVerdict locals.handoffId message with
              | none => exact failing _
              | some outcome =>
                  cases outcome with
                  | error text => exact ⟨rfl, waiting, fun impossible => by contradiction⟩
                  | ok _ =>
                      refine ⟨rfl, waiting, fun _ => ?_⟩
                      rw [List.any_append, List.any_cons, sealVerdict_complete verdict version,
                        Bool.true_or, Bool.or_true]
            cases message with
            | sealProgress shardsSealed shardsTotal lastRevision => exact ih waiting
            | heartbeat tsMs => exact ih waiting
            | _ => exact ruled

/-! ### The verdict -/

structure Readied (handoffId : HandoffId) (past : SupPast) (store : SupStore) : Prop where
  identity : handoffIdOf past = some handoffId
  owned : store.guard = spawned past
  ready : ReadyRead handoffId past
  alive : past.any kills = false
  unresumed : past.any writesResume = false

private theorem readyRead_of_mem {extra : SupPast} (begun : past.any writesBegin = true)
    (member : event ∈ extra) (ready : readsReady handoffId event = true) :
    ReadyRead handoffId (past ++ extra) := by
  obtain ⟨before, after, rfl⟩ := List.append_of_mem member
  refine ⟨past ++ before, event, after, by simp, ready, ?_⟩
  rw [List.any_append, begun, Bool.true_or]

private theorem unready_of_forall {extra : SupPast} (unready : ¬ReadyRead handoffId past)
    (silent : ∀ event ∈ extra, readsReady handoffId event = false) :
    ¬ReadyRead handoffId (past ++ extra) := by
  induction extra using List.reverseRecOn with
  | nil =>
      rw [List.append_nil]
      exact unready
  | append_singleton earlier event ih =>
      rw [← List.append_assoc, readyRead_append]
      rintro (ready | ⟨reads, _⟩)
      · exact ih (fun other member => silent other (List.mem_append_left _ member)) ready
      · rw [silent event (by simp)] at reads
        contradiction

private theorem readsReady_of_frame {id : HandoffId} {listeningOn : List String}
    {healthzOk : Bool} {advertised : List UInt64}
    (frame : frameFrom .successor event = some (.ready id listeningOn healthzOk advertised)) :
    readsReady handoffId event = (id == handoffId) := by
  rw [readsReady, frame]

private theorem readsReady_isReady (reads : readsReady handoffId event = true) :
    ∃ message, frameFrom .successor event = some message ∧ isReady message = true := by
  unfold readsReady at reads
  split at reads
  · next frame => exact ⟨_, frame, rfl⟩
  · contradiction

/-- The frames of the wait decide whether this handoff's `Ready` was read. -/
theorem ReadSince.readyRead_iff {outcome : Except Halt Message}
    (read : ReadSince .successor isReady past outcome later) (unready : ¬ReadyRead handoffId past)
    (begun : past.any writesBegin = true) :
    ReadyRead handoffId later ↔ ∃ listeningOn healthzOk advertised,
      outcome = .ok (.ready handoffId listeningOn healthzOk advertised) := by
  obtain ⟨extra, rfl, _, ending⟩ := read
  constructor
  · intro ready
    by_contra other
    refine unready_of_forall unready ?_ ready
    intro event member
    by_contra reads
    rw [Bool.not_eq_false] at reads
    obtain ⟨message, frame, accepted⟩ := readsReady_isReady reads
    have present : message ∈ extra.filterMap (frameFrom .successor) :=
      List.mem_filterMap.mpr ⟨event, member, frame⟩
    cases outcome with
    | error halt =>
        rw [ending message present] at accepted
        contradiction
    | ok last =>
        obtain ⟨_, skipped, frames, rejected⟩ := ending
        rw [frames, List.mem_append, List.mem_singleton] at present
        rcases present with earlier | same
        · rw [rejected message earlier] at accepted
          contradiction
        · subst same
          unfold readsReady at reads
          rw [frame] at reads
          split at reads
          · next id listeningOn healthzOk advertised shape =>
              cases shape
              rw [beq_iff_eq] at reads
              exact other ⟨_, _, _, by rw [reads]⟩
          · contradiction
  · rintro ⟨listeningOn, healthzOk, advertised, rfl⟩
    obtain ⟨_, skipped, frames, _⟩ := ending
    have present : Message.ready handoffId listeningOn healthzOk advertised ∈
        extra.filterMap (frameFrom .successor) := by
      rw [frames]
      simp
    obtain ⟨event, member, frame⟩ := List.mem_filterMap.mp present
    apply readyRead_of_mem begun member
    rw [readsReady_of_frame frame, beq_self_eq_true]

private theorem isOwnReady_checkReady {verdict : Except Error Message} :
    isOwnReady handoffId (checkReady handoffId verdict) = true ↔
      ∃ listeningOn healthzOk advertised,
        verdict = .ok (.ready handoffId listeningOn healthzOk advertised) := by
  constructor
  · intro own
    unfold checkReady at own
    split at own
    · next id listeningOn healthzOk advertised =>
        by_cases same : id = handoffId
        · exact ⟨listeningOn, healthzOk, advertised, by rw [same]⟩
        · rw [if_pos same] at own
          contradiction
    · next unready =>
        unfold isOwnReady at own
        split at own
        · exact absurd rfl (unready _ _ _ _)
        · contradiction
  · rintro ⟨listeningOn, healthzOk, advertised, rfl⟩
    simp [checkReady, isOwnReady]

def Begun (handoffId : HandoffId) (past : SupPast) (store : SupStore) : Prop :=
  Open past store ∧ handoffIdOf past = some handoffId ∧ past.any writesBegin = true

theorem Begun.idly (begun : Begun handoffId past store) (idly : Idly past later) :
    Begun handoffId later store :=
  ⟨begun.1.idly idly, idly.calmly.handoffIdOf_eq.trans begun.2.1, idly.calmly.any begun.2.2⟩

def Awaited (handoffId : HandoffId) (verdict : Except Error Message) (store : SupStore)
    (past : SupPast) : Prop :=
  if isOwnReady handoffId (checkReady handoffId verdict) then Readied handoffId past store
  else Open past store ∧ handoffIdOf past = some handoffId

theorem Begun.awaited {outcome : Except Halt Message} {verdict : Except Error Message}
    (begun : Begun handoffId past store) (read : ReadSince .successor isReady past outcome later)
    (same : ∀ message, outcome = .ok message ↔ verdict = .ok message) :
    Awaited handoffId verdict store later := by
  obtain ⟨opened, identity, written⟩ := begun
  have unready := opened.unready handoffId identity
  have kept := read.calmly.handoffIdOf_eq.trans identity
  have decided := read.readyRead_iff unready written
  unfold Awaited
  split
  · next own =>
      obtain ⟨listeningOn, healthzOk, advertised, ready⟩ := isOwnReady_checkReady.mp own
      exact
        { identity := kept
          owned := opened.owned.trans read.calmly.spawned_eq.symm
          ready := decided.mpr ⟨_, _, _, (same _).mpr ready⟩
          alive := (read.calmly.any_eq fun _ calm => (calmOp_event calm).kill).trans opened.alive
          unresumed := (read.calmly.any_eq fun _ calm => (calmOp_event calm).resume).trans
            opened.unresumed }
  · next other =>
      refine ⟨opened.grow read.calmly ?_, kept⟩
      intro id identified ready
      rw [kept] at identified
      cases identified
      obtain ⟨listeningOn, healthzOk, advertised, found⟩ := decided.mp ready
      exact other (isOwnReady_checkReady.mpr ⟨_, _, _, (same _).mp found⟩)

private theorem Begun.unanswered {cause : Error} (begun : Begun handoffId past store) :
    Awaited handoffId (.error cause) store past := by
  unfold Awaited
  split
  · next own =>
      obtain ⟨_, _, _, impossible⟩ := isOwnReady_checkReady.mp own
      contradiction
  · exact ⟨begun.1, begun.2.1⟩

/-- Idle code after `Begin`; its failures leave the child to the guard. -/
theorem Begun.idleBind (begun : Begun handoffId past store) (idle : Within idleOp code)
    (rest : ∀ value later, Begun handoffId later store →
      Meets SupDuty post (next value) store later)
    (failed : ∀ halt later, Pending later store → post (.error halt) store later) :
    Meets SupDuty post (code >>= next) store past := by
  refine Meets.bind (idle_meets idle) ?_ ?_
  · rintro value now later ⟨rfl, idly⟩
    exact rest value later (begun.idly idly)
  · rintro halt now later ⟨rfl, idly⟩
    exact failed halt later (Or.inl (begun.idly idly).1)

private theorem awaitReady_meets (locals : HandoffLocals) (fuel : Nat)
    (working : Working locals.handoffId past store)
    (completed : past.any (readsSealComplete locals.handoffId) = true) :
    Meets SupDuty (fun outcome now later =>
      match outcome with
      | .ok verdict => now = store ∧ Awaited locals.handoffId verdict now later
      | .error _ => Pending later now) (awaitReady locals fuel) store past := by
  unfold awaitReady
  refine Meets.callBind ⟨working.identity, completed⟩ fun written => ?_
  have begun : Begun locals.handoffId (past ++ [⟨⟨store, .writeFrame .successor locals.chosenN
      (.begin locals.handoffId)⟩, written⟩]) store := by
    refine ⟨working.toOpen.append ⟨rfl, rfl, rfl, rfl, rfl, rfl⟩, ?_, ?_⟩
    · rw [handoffIdOf_append]
      exact working.identity
    · rw [List.any_append, List.any_cons]
      simp [writesBegin, frameTo]
  cases written with
  | error cause => exact ⟨rfl, begun.unanswered⟩
  | ok _ =>
      refine begun.idleBind (Reliable.within (journalSet_reliable _ _ _ _ _ fun _ => rfl)) ?_
        (fun _ _ pending => pending)
      intro _ journaled begun
      refine begun.idleBind (Reliable.within (remainingUntil_reliable _ rfl)) ?_
        (fun _ _ pending => pending)
      intro remaining ticked begun
      refine begun.idleBind (addDuration_within _ _) ?_ (fun _ _ pending => pending)
      intro timeout armed begun
      unfold catchError
      refine Meets.attemptBind (readUntil_meets _ _ _ isReady_awaits fuel) ?_
      rintro outcome now later ⟨rfl, read⟩
      cases outcome with
      | ok message =>
          refine ⟨rfl, begun.awaited read fun other => ?_⟩
          rw [Except.ok.injEq, Except.ok.injEq]
      | error halt =>
          cases halt with
          | error cause =>
              refine ⟨rfl, begun.awaited read fun other => ?_⟩
              constructor <;> (intro impossible; contradiction)
          | panic =>
              refine Or.inl (begun.1.grow read.calmly ?_)
              intro handoffId identified ready
              rw [read.calmly.handoffIdOf_eq] at identified
              have unready := begun.1.unready handoffId identified
              obtain ⟨_, _, _, impossible⟩ := (read.readyRead_iff unready begun.2.2).mp ready
              contradiction

private theorem journalClear_meets (supervisor : Supervisor) :
    Meets SupDuty (fun outcome now later => outcome = .ok () ∧ now = store ∧ Idly past later)
      (journalClear supervisor) store past := by
  unfold journalClear
  cases supervisor.journalPath with
  | none => exact ⟨rfl, rfl, Idly.refl past⟩
  | some path =>
      exact Meets.callBind trivial fun _ => ⟨rfl, rfl, (Idly.refl past).step _ rfl⟩

private theorem catchError_journal_meets (locals : HandoffLocals) (phase : Phase) :
    Meets SupDuty (fun outcome now later => outcome.isOk = true ∧ now = store ∧ Idly past later)
      (catchError (locals.journal phase)) store past := by
  unfold catchError HandoffLocals.journal journalSet
  cases locals.supervisor.journalPath with
  | none => exact ⟨rfl, rfl, Idly.refl past⟩
  | some path =>
      rw [meets_bind, meets_attempt]
      refine Meets.callBind trivial fun written => ?_
      have idly := (Idly.refl past).step ⟨⟨store, .journalWrite _⟩, written⟩ rfl
      cases written with
      | ok _ => exact ⟨rfl, rfl, idly⟩
      | error cause => exact ⟨rfl, rfl, idly⟩

def Concluded (outcome : Except Halt HandoffOutcome) (store : SupStore) (past : SupPast) : Prop :=
  match outcome with
  | .ok result =>
      if result.committed then
        Installed result.handoffId past store ∧ result.child = spawned past ∧
          result.child.isSome = true
      else Pending past store
  | .error _ => Pending past store

private theorem commitHandoff_meets (locals : HandoffLocals)
    (readied : Readied locals.handoffId past store)
    (armed : store.guard = some locals.successorPid) :
    Meets SupDuty Concluded (commitHandoff locals) store past := by
  unfold commitHandoff disarm
  rw [meets_bind]
  apply Meets.loadBind
  rw [armed]
  apply Meets.updateBind
  have child : spawned past = some locals.successorPid := readied.owned.symm.trans armed
  refine Meets.callBind ⟨readied.identity, readied.ready, rfl, readied.alive, readied.unresumed,
    by rw [child]; rfl⟩ fun written => ?_
  have installed : Installed locals.handoffId (past ++ [⟨⟨{ store with guard := none },
      .writeFrame .incumbent locals.chosenO (.commit locals.handoffId)⟩, written⟩])
      { store with guard := none } := by
    refine ⟨?_, rfl, readyRead_append.mpr (Or.inl readied.ready),
      any_append_false readied.alive rfl, any_append_false readied.unresumed rfl⟩
    rw [handoffIdOf_append]
    exact readied.identity
  refine Meets.bind (catchError_journal_meets locals .committed) ?_ ?_
  · rintro _ now journaled ⟨_, rfl, idly⟩
    refine Meets.bind (journalClear_meets locals.supervisor) ?_ ?_
    · rintro _ last cleared ⟨_, rfl, further⟩
      have grown := idly.trans further
      refine ⟨installed.idly grown, ?_, rfl⟩
      rw [grown.calmly.spawned_eq, spawned_append]
      exact child.symm
    · rintro halt last cleared ⟨impossible, _⟩
      contradiction
  · rintro halt now journaled ⟨impossible, _⟩
    contradiction

private theorem abortHandoff_meets (locals : HandoffLocals) (verdict : Except Error Message)
    (opened : Open past store) (identity : handoffIdOf past = some locals.handoffId) :
    Meets SupDuty Concluded (abortHandoff locals verdict) store past := by
  unfold abortHandoff
  refine dismiss_meets locals _ opened ?_ (fun _ _ _ pending => pending)
  intro now later gone same
  refine Meets.callBind ⟨same.trans identity, gone.reaped, gone.uncommitted⟩ fun written => ?_
  have told : Gone (later ++ [⟨⟨now, .writeFrame .incumbent locals.chosenO
      (.resumeAfterAbort locals.handoffId)⟩, written⟩]) now :=
    ⟨gone.guard, gone.reaped.append _ rfl, any_append_false gone.uncommitted rfl,
      gone.unready.append rfl rfl⟩
  refine told.idleBind (orErr_idle written) ?_ (fun _ _ gone => Or.inr gone)
  intro _ _ _ gone
  refine gone.idleBind (Reliable.within (journalSet_reliable _ _ _ _ _ fun _ => rfl)) ?_
    (fun _ _ gone => Or.inr gone)
  intro _ _ _ gone
  exact gone.idleBind (Reliable.within (journalClear_reliable _ rfl))
    (fun _ _ _ gone => Or.inr gone)
    (fun _ _ gone => Or.inr gone)

/-! ### The whole call -/

private theorem finishHandoff_meets (locals : HandoffLocals) (fuel : Nat)
    (working : Working locals.handoffId past store)
    (completed : past.any (readsSealComplete locals.handoffId) = true)
    (armed : store.guard = some locals.successorPid) :
    Meets SupDuty Concluded (finishHandoff locals fuel) store past := by
  unfold finishHandoff
  refine working.calmBind (Reliable.within (journalSet_reliable _ _ _ _ _ fun _ => rfl)) ?_
    (fun _ _ w => w.pending)
  intro _ journaled calmly working
  refine Meets.bind (awaitReady_meets locals fuel working (calmly.any completed)) ?_
    (fun _ _ _ pending => pending)
  rintro verdict now later ⟨rfl, awaited⟩
  unfold Awaited at awaited
  dsimp only
  by_cases own : isOwnReady locals.handoffId (checkReady locals.handoffId verdict) = true
  · rw [if_pos own] at awaited ⊢
    exact commitHandoff_meets locals awaited armed
  · rw [if_neg own] at awaited ⊢
    exact abortHandoff_meets locals _ awaited.1 awaited.2

private theorem sealAndFinish_meets (locals : HandoffLocals) (fuel : Nat)
    (working : Working locals.handoffId past store) (drained : past.any readsDrained = true)
    (unrequested : past.any writesSealRequest = false)
    (armed : store.guard = some locals.successorPid) :
    Meets SupDuty Concluded (sealAndFinish locals fuel) store past := by
  unfold sealAndFinish
  refine working.writeBind ?_ ?_ ?_ ?_ (fun _ _ w => w.pending)
  · exact ⟨drained, unrequested⟩
  · exact fun _ => ⟨rfl, rfl, rfl, rfl, rfl, rfl⟩
  · exact fun _ => rfl
  intro event _ working
  refine working.calmBind (addInstant_within _ _) ?_ (fun _ _ w => w.pending)
  intro deadline _ _ working
  refine Meets.bind (sealWaitLoop_meets locals deadline fuel working) ?_
    (fun _ _ _ pending => pending)
  rintro verdict now waited ⟨rfl, working, completed⟩
  refine working.calmBind (Reliable.within (clearRecvTimeout_reliable _ rfl)) ?_
    (fun _ _ w => w.pending)
  intro _ cleared calmly working
  cases verdict with
  | ok _ => exact finishHandoff_meets locals fuel working (calmly.any (completed rfl)) armed
  | error error =>
      refine dismiss_meets locals _ working.toOpen ?_ (fun _ _ _ pending => pending)
      intro _ later gone _
      exact gone.idleBind (Reliable.within (journalClear_reliable _ rfl))
        (fun _ _ _ gone => Or.inr gone)
        (fun _ _ gone => Or.inr gone)

private theorem driveHandoff_meets (supervisor : Supervisor) (spec : SpawnSpec)
    (handoffId : HandoffId) (startedUnixMs : UInt64) (totalDeadlineAt : Instant)
    (chosenO : ProtoVersion) (successorPid : UInt32) (fuel : Nat)
    (working : Working handoffId past store) (unrequested : past.any writesSealRequest = false)
    (armed : store.guard = some successorPid) :
    Meets SupDuty Concluded (driveHandoff supervisor spec handoffId startedUnixMs totalDeadlineAt
      chosenO successorPid fuel) store past := by
  unfold driveHandoff
  refine working.calmBind (within_call rfl) ?_ (fun _ _ w => w.pending)
  intro configured _ first working
  refine working.calmBind (within_ofExcept _) ?_ (fun _ _ w => w.pending)
  intro _ _ second working
  refine working.calmBind (exchangeHelloAsSupervisor_calm _ _ _ _).within ?_ (fun _ _ w => w.pending)
  intro chosenN _ third working
  refine working.calmBind (Reliable.within (journalSet_reliable _ _ _ _ _ fun _ => rfl)) ?_
    (fun _ _ w => w.pending)
  intro _ negotiated fourth working
  have calmly := ((first.trans second).trans third).trans fourth
  refine Meets.bind (prepare_meets _ fuel working (unrequested_calmly unrequested calmly)) ?_
    (fun _ _ _ pending => pending)
  rintro _ now later ⟨rfl, working, drained, unrequested⟩
  exact sealAndFinish_meets _ fuel working drained unrequested armed

theorem Concluded.idly (concluded : Concluded outcome store past) (idly : Idly past later) :
    Concluded outcome store later := by
  have kept (pending : Pending past store) : Pending later store := by
    rcases pending with opened | gone
    · exact Or.inl (opened.idly idly)
    · exact Or.inr (gone.idly idly)
  cases outcome with
  | error halt => exact kept concluded
  | ok result =>
      unfold Concluded at concluded ⊢
      dsimp only at concluded ⊢
      split
      · next committed =>
          rw [if_pos committed] at concluded
          obtain ⟨installed, child, present⟩ := concluded
          exact ⟨installed.idly idly, child.trans idly.calmly.spawned_eq.symm, present⟩
      · next aborted =>
          rw [if_neg aborted] at concluded
          exact kept concluded

def Finished (outcome : Except Halt HandoffOutcome) (store : SupStore) (past : SupPast) : Prop :=
  match outcome with
  | .ok result =>
      if result.committed then
        Installed result.handoffId past store ∧ result.child = spawned past ∧
          result.child.isSome = true
      else Gone past store
  | .error _ => Gone past store

private theorem dropGuard_meets (concluded : Concluded outcome store past) :
    Meets SupDuty (fun _ now later => Finished outcome now later) killAndReap store past := by
  have dropped (pending : Pending past store) :
      Meets SupDuty (fun _ now later => Gone later now) killAndReap store past :=
    (killAndReap_meets pending).mono fun _ _ _ held => held.2.1
  cases outcome with
  | error halt => exact dropped concluded
  | ok result =>
      unfold Concluded at concluded
      unfold Finished
      dsimp only at concluded ⊢
      split
      · next committed =>
          rw [if_pos committed] at concluded
          unfold killAndReap
          apply Meets.loadBind
          rw [concluded.1.guard]
          exact concluded
      · next aborted =>
          rw [if_neg aborted] at concluded
          exact dropped concluded

theorem Finished.settled (finished : Finished outcome store past) :
    Reaped past ∨ ∃ handoffId, handoffIdOf past = some handoffId ∧ ReadyRead handoffId past := by
  cases outcome with
  | error halt => exact Or.inl finished.reaped
  | ok result =>
      unfold Finished at finished
      dsimp only at finished
      split at finished
      · exact Or.inr ⟨_, finished.1.identity, finished.1.ready⟩
      · exact Or.inl finished.reaped

theorem Open.childless (opened : Open past store) (childless : store.guard = none) :
    Gone past store := by
  refine ⟨childless, ?_, opened.uncommitted, opened.unready⟩
  intro pid child
  rw [← opened.owned, childless] at child
  contradiction

private theorem spawnAndDrive_meets (supervisor : Supervisor) (spec : SpawnSpec)
    (handoffId : HandoffId) (startedUnixMs : UInt64) (totalDeadlineAt : Instant)
    (chosenO : ProtoVersion) (fuel : Nat) (working : Working handoffId past store)
    (childless : store.guard = none) (unrequested : past.any writesSealRequest = false) :
    Meets SupDuty Finished (spawnAndDrive supervisor spec handoffId startedUnixMs totalDeadlineAt
      chosenO fuel) store past := by
  unfold spawnAndDrive
  refine working.calmBind (within_call rfl) ?_ (fun _ _ w => w.toOpen.childless childless)
  intro paired _ first working
  refine working.calmBind (within_ofExcept _) ?_ (fun _ _ w => w.toOpen.childless childless)
  intro _ ready second working
  have unrequested := unrequested_calmly unrequested (first.trans second)
  refine Meets.callBind ⟨working.owned.symm.trans childless, working.unbegun⟩ fun spawning => ?_
  cases spawning with
  | error cause =>
      have failed : Working handoffId (ready ++ [⟨⟨store, .spawn (spawnCommand supervisor spec)⟩,
          .error cause⟩]) store := working.append ⟨rfl, rfl, rfl, rfl, rfl, rfl⟩ rfl
      refine failed.calmBind (within_call rfl) ?_ (fun _ _ w => w.toOpen.childless childless)
      intro _ _ _ failed
      exact failed.calmBind (within_call rfl) (fun _ _ _ w => w.toOpen.childless childless)
        (fun _ _ w => w.toOpen.childless childless)
  | ok successorPid =>
      have owning : Working handoffId (ready ++ [⟨⟨store, .spawn (spawnCommand supervisor spec)⟩,
          .ok successorPid⟩]) { store with guard := some successorPid } := by
        refine ⟨⟨?_, any_append_false working.alive rfl, any_append_false working.uncommitted rfl,
          any_append_false working.unresumed rfl, working.unready.append rfl rfl⟩, ?_,
          any_append_false working.unbegun rfl⟩
        · rw [spawned_append]
          rfl
        · rw [handoffIdOf_append]
          exact working.identity
      have unrequested := any_append_false unrequested (rfl : writesSealRequest
        (⟨⟨store, .spawn (spawnCommand supervisor spec)⟩, .ok successorPid⟩ : SupEvent) = false)
      apply Meets.updateBind
      refine Meets.callBind trivial fun _ => ?_
      rw [meets_ensuring, meets_ensuring]
      apply (driveHandoff_meets supervisor spec handoffId startedUnixMs totalDeadlineAt chosenO
        successorPid fuel (owning.calmly ((Calmly.refl _).step _ rfl))
        (unrequested_calmly unrequested ((Calmly.refl _).step _ rfl)) rfl).mono
      intro outcome now later concluded
      refine ⟨trivial, fun _ => ?_⟩
      exact dropGuard_meets (concluded.idly ((Idly.refl later).step _ rfl))

theorem Finished.append (finished : Finished outcome store past) (neutral : Neutral event) :
    Finished outcome store (past ++ [event]) := by
  have stays (gone : Gone past store) : Gone (past ++ [event]) store :=
    ⟨gone.guard, gone.reaped.append event neutral.child,
      any_append_false gone.uncommitted neutral.commit,
      gone.unready.append neutral.handoffId neutral.frame⟩
  cases outcome with
  | error halt => exact stays finished
  | ok result =>
      unfold Finished at finished ⊢
      dsimp only at finished ⊢
      split
      · next committed =>
          rw [if_pos committed] at finished
          obtain ⟨installed, child, present⟩ := finished
          refine ⟨⟨?_, installed.guard, readyRead_append.mpr (Or.inl installed.ready),
            any_append_false installed.alive neutral.kill,
            any_append_false installed.unresumed neutral.resume⟩, ?_, present⟩
          · rw [handoffIdOf_append, neutral.handoffId, Option.none_or]
            exact installed.identity
          · rw [spawned_append, neutral.child, Option.none_or]
            exact child
      · next aborted =>
          rw [if_neg aborted] at finished
          exact stays finished

private theorem connectAndDrive_meets (supervisor : Supervisor) (spec : SpawnSpec)
    (handoffId : HandoffId) (startedUnixMs : UInt64) (totalDeadlineAt : Instant) (fuel : Nat)
    (working : Working handoffId past store) (childless : store.guard = none)
    (unrequested : past.any writesSealRequest = false) :
    Meets SupDuty Finished (connectAndDrive supervisor spec handoffId startedUnixMs
      totalDeadlineAt fuel) store past := by
  unfold connectAndDrive
  refine Meets.callBind (working.owned.symm.trans childless) fun connected => ?_
  have working : Working handoffId (past ++ [⟨⟨store, .connect supervisor.socketPath⟩,
      connected⟩]) store := working.append ⟨rfl, rfl, rfl, rfl, rfl, rfl⟩ rfl
  have unrequested := any_append_false unrequested (rfl : writesSealRequest
    (⟨⟨store, .connect supervisor.socketPath⟩, connected⟩ : SupEvent) = false)
  refine working.calmBind (within_ofExcept _) ?_ (fun _ _ w => w.toOpen.childless childless)
  intro _ _ first working
  have unrequested := unrequested_calmly unrequested first
  rw [meets_ensuring]
  refine Meets.mono (?_ : Meets SupDuty Finished _ _ _) ?_
  · refine working.calmBind (within_call rfl) ?_ (fun _ _ w => w.toOpen.childless childless)
    intro configured _ third working
    refine working.calmBind (within_ofExcept _) ?_ (fun _ _ w => w.toOpen.childless childless)
    intro _ _ fourth working
    refine working.calmBind (exchangeHelloAsSupervisor_calm _ _ _ _).within ?_
      (fun _ _ w => w.toOpen.childless childless)
    intro chosenO _ fifth working
    exact spawnAndDrive_meets supervisor spec handoffId startedUnixMs totalDeadlineAt chosenO fuel
      working childless (unrequested_calmly unrequested ((third.trans fourth).trans fifth))
  · intro outcome now later finished
    exact ⟨finished.settled, fun _ => finished.append ⟨rfl, rfl, rfl, rfl, rfl, rfl⟩⟩

theorem performHandoff_meets (supervisor : Supervisor) (spec : SpawnSpec) (fuel : Nat) :
    Meets SupDuty Finished (performHandoff supervisor spec fuel) {} [] := by
  unfold performHandoff
  refine Meets.callBind trivial fun free => ?_
  have fresh : Open [⟨⟨{}, .tryLockInFlight⟩, free⟩] {} :=
    ⟨rfl, rfl, rfl, rfl, fun _ _ => not_readyRead rfl⟩
  cases free with
  | false => exact fresh.childless rfl
  | true =>
      rw [if_pos rfl, meets_ensuringWith]
      refine Meets.mono (?_ : Meets SupDuty Finished _ _ _) ?_
      · refine Meets.callBind ⟨rfl, rfl⟩ fun handoffId => ?_
        have working : Working handoffId [⟨⟨{}, .tryLockInFlight⟩, true⟩,
            ⟨⟨{}, .newHandoffId⟩, handoffId⟩] {} :=
          ⟨⟨rfl, rfl, rfl, rfl, fun _ _ => not_readyRead rfl⟩, rfl, rfl⟩
        refine working.calmBind (within_call rfl) ?_ (fun _ _ w => w.toOpen.childless rfl)
        intro startedInstant _ first working
        refine working.calmBind (within_call rfl) ?_ (fun _ _ w => w.toOpen.childless rfl)
        intro startedUnixMs _ second working
        refine working.calmBind (addInstant_within _ _) ?_ (fun _ _ w => w.toOpen.childless rfl)
        intro totalDeadlineAt _ third working
        exact connectAndDrive_meets supervisor spec handoffId startedUnixMs totalDeadlineAt fuel
          working rfl (unrequested_calmly rfl ((first.trans second).trans third))
      · intro outcome now later finished
        exact ⟨trivial, fun _ => finished.append ⟨rfl, rfl, rfl, rfl, rfl, rfl⟩⟩

end Handoff
