/-
Version agreement between independently built parties.

The rule is written three times: `negotiate_version` in the supervisor, a check
of the answer in the incumbent, and no check in the successor.  Here each party
has the range of its own build.
-/

import Mathlib.Data.Set.Basic
import Mathlib.Order.Bounds.Defs
import Handoff.Primitive.Successor
import Handoff.Supervisor.StageRuns

namespace Handoff

open Effects
open Effects.Code hiding pure bind

/-! ### Ranges -/

private theorem max_le_version {first second bound : ProtoVersion} :
    max first second ≤ bound ↔ first ≤ bound ∧ second ≤ bound := by
  change (if first ≤ second then second else first) ≤ bound ↔ _
  simp only [UInt16.le_iff_toNat_le]
  split <;> omega

private theorem le_min_version {first second bound : ProtoVersion} :
    bound ≤ min first second ↔ bound ≤ first ∧ bound ≤ second := by
  change bound ≤ (if first ≤ second then first else second) ↔ _
  simp only [UInt16.le_iff_toNat_le]
  split <;> omega

namespace Build

instance : Membership ProtoVersion Build where
  mem build version := build.protoMin ≤ version ∧ version ≤ build.protoMax

instance (version : ProtoVersion) (build : Build) : Decidable (version ∈ build) :=
  inferInstanceAs (Decidable (_ ∧ _))

def negotiate (ours theirs : Build) : Except Error ProtoVersion :=
  negotiateVersion ours.protoMin ours.protoMax theirs.protoMin theirs.protoMax

def common (ours theirs : Build) : Set ProtoVersion :=
  { version | version ∈ ours ∧ version ∈ theirs }

variable {ours theirs : Build}

theorem negotiate_ok {chosen : ProtoVersion} (agreed : ours.negotiate theirs = .ok chosen) :
    IsGreatest (common ours theirs) chosen := by
  simp only [negotiate, negotiateVersion] at agreed
  split at agreed
  · contradiction
  · next fits =>
      obtain rfl := Except.ok.inj agreed
      obtain ⟨ourLow, theirLow⟩ := max_le_version.mp (UInt16.not_lt.mp fits)
      obtain ⟨ourHigh, theirHigh⟩ := le_min_version.mp UInt16.le_rfl
      refine ⟨⟨⟨ourLow, ourHigh⟩, ⟨theirLow, theirHigh⟩⟩, ?_⟩
      intro version shared
      exact le_min_version.mpr ⟨shared.1.2, shared.2.2⟩

theorem negotiate_error {cause : Error} (refused : ours.negotiate theirs = .error cause) :
    ¬ (common ours theirs).Nonempty := by
  simp only [negotiate, negotiateVersion] at refused
  split at refused
  · next apart =>
      intro nonempty
      obtain ⟨version, shared⟩ := nonempty
      have low := max_le_version.mpr ⟨shared.1.1, shared.2.1⟩
      have high := le_min_version.mpr ⟨shared.1.2, shared.2.2⟩
      exact absurd apart (UInt16.not_lt.mpr (UInt16.le_trans low high))
  · contradiction

private theorem negotiate_single {chosen version : ProtoVersion}
    (agreed : ours.negotiate ⟨chosen, chosen⟩ = .ok version) : version = chosen ∧ chosen ∈ ours := by
  obtain ⟨⟨inOurs, low, high⟩, _⟩ := negotiate_ok agreed
  have same : version = chosen := UInt16.le_antisymm high low
  exact ⟨same, same ▸ inOurs⟩

end Build

/-! ### What the supervisor answers -/

def writeFailed : SupEvent → Bool
  | ⟨⟨_, .writeFrame ..⟩, .error _⟩ => true
  | _ => false

/-- A finished exchange: a `HelloAck` goes out only in answer to a `Hello`, with the
largest common version, and for a `Hello` as expected there is one exactly when the
ranges meet. -/
structure Exchanged (build : Build) (peer : Side) (handoffId : HandoffId) (role : Side)
    (expectedPid : Option UInt32) (outcome : Except Halt ProtoVersion) (past : SupPast) : Prop where
  answers : ∀ message ∈ past.filterMap (frameTo peer), ∃ pid buildId low high capabilities chosen,
    past.filterMap (frameFrom peer) = [.hello role pid buildId low high capabilities] ∧
      message = .helloAck chosen handoffId ∧ IsGreatest (build.common ⟨low, high⟩) chosen
  chooses : ∀ chosen, outcome = .ok chosen →
    .helloAck chosen handoffId ∈ past.filterMap (frameTo peer)
  completes : ∀ pid buildId low high capabilities,
    past.filterMap (frameFrom peer) = [.hello role pid buildId low high capabilities] →
    (∀ expected, expectedPid = some expected → pid = expected) →
    (∀ event ∈ past, writeFailed event = false) →
    ((∃ chosen, outcome = .ok chosen) ↔ (build.common ⟨low, high⟩).Nonempty)

section

variable {build : Build} {peer role : Side} {handoffId : HandoffId} {expectedPid : Option UInt32}
  {past : SupPast} {store : SupStore}

private theorem exchanged_failed {cause : Halt} (unspoken : past.filterMap (frameTo peer) = [])
    (apart : ∀ pid buildId low high capabilities,
      past.filterMap (frameFrom peer) = [.hello role pid buildId low high capabilities] →
      (∀ expected, expectedPid = some expected → pid = expected) →
      ¬ (build.common ⟨low, high⟩).Nonempty) :
    Exchanged build peer handoffId role expectedPid (.error cause) past where
  answers := by
    intro message spoken
    rw [unspoken] at spoken
    contradiction
  chooses := by
    intro chosen impossible
    contradiction
  completes := by
    intro pid buildId low high capabilities read same _
    refine ⟨?_, fun nonempty => absurd nonempty (apart _ _ _ _ _ read same)⟩
    intro completed
    obtain ⟨chosen, impossible⟩ := completed
    contradiction

private theorem agreed_greatest {low high chosen : ProtoVersion}
    (agreed : (build.negotiate ⟨low, high⟩).mapError Halt.error = .ok chosen) :
    IsGreatest (build.common ⟨low, high⟩) chosen := by
  cases negotiated : build.negotiate ⟨low, high⟩ with
  | error cause =>
      rw [negotiated] at agreed
      contradiction
  | ok version =>
      rw [negotiated] at agreed
      obtain rfl := Except.ok.inj agreed
      exact Build.negotiate_ok negotiated

private theorem refused_apart {low high : ProtoVersion} {failure : Halt}
    (refused : (build.negotiate ⟨low, high⟩).mapError Halt.error = .error failure) :
    ¬ (build.common ⟨low, high⟩).Nonempty := by
  cases negotiated : build.negotiate ⟨low, high⟩ with
  | error cause => exact Build.negotiate_error negotiated
  | ok version =>
      rw [negotiated] at refused
      contradiction

theorem acknowledge_spec {pid : UInt32} {buildId : List UInt8} {low high : ProtoVersion}
    {capabilities : Capabilities} (unspoken : past.filterMap (frameTo peer) = [])
    (read : past.filterMap (frameFrom peer) = [.hello role pid buildId low high capabilities]) :
    Meets (fun _ _ => True) (fun outcome _ later =>
      Exchanged build peer handoffId role expectedPid outcome later)
      (acknowledge build peer handoffId low high) store past := by
  refine Meets.ofExceptBind ?_ ?_
  · intro chosen agreed
    have greatest := agreed_greatest agreed
    refine Meets.callBind trivial fun written => ?_
    have spoken : List.filterMap (frameTo peer) (past ++ [⟨⟨store, .writeFrame peer chosen
        (.helloAck chosen handoffId)⟩, written⟩]) = [.helloAck chosen handoffId] := by
      rw [List.filterMap_append, unspoken]
      simp [frameTo]
    have heard : List.filterMap (frameFrom peer) (past ++ [⟨⟨store, .writeFrame peer chosen
        (.helloAck chosen handoffId)⟩, written⟩]) =
        [.hello role pid buildId low high capabilities] := by
      rw [filterMap_append_none rfl, read]
    have answers : ∀ message ∈ [Message.helloAck chosen handoffId],
        ∃ pid' buildId' low' high' capabilities' version,
          [Message.hello role pid buildId low high capabilities] =
              [.hello role pid' buildId' low' high' capabilities'] ∧
            message = .helloAck version handoffId ∧
            IsGreatest (build.common ⟨low', high'⟩) version := by
      intro message member
      rw [List.mem_singleton] at member
      exact ⟨pid, buildId, low, high, capabilities, chosen, rfl, member, greatest⟩
    cases written with
    | ok _ =>
        refine ⟨by rw [spoken, heard]; exact answers, ?_, ?_⟩
        · intro version same
          obtain rfl := Except.ok.inj same
          rw [spoken]
          exact List.mem_singleton_self _
        · intro pid' buildId' low' high' capabilities' again _ _
          rw [heard] at again
          cases again
          exact ⟨fun _ => ⟨chosen, greatest.1⟩, fun _ => ⟨chosen, rfl⟩⟩
    | error cause =>
        refine ⟨by rw [spoken, heard]; exact answers, ?_, ?_⟩
        · intro version impossible
          contradiction
        · intro _ _ _ _ _ _ _ unfailing
          have failing := unfailing _ (List.mem_append_right _ (List.mem_singleton_self _))
          contradiction
  · intro failure refused
    apply exchanged_failed unspoken
    intro pid' buildId' low' high' capabilities' again _
    rw [read] at again
    cases again
    exact refused_apart refused

private def timerOp : SupOp → Bool
  | .setReadTimeout .. | .readWouldBlock _ => true
  | _ => false

private theorem armRecvTimeout_quiet (timeout : Duration) :
    Meets (fun _ _ => True) (fun _ now later => now = store ∧
      later.filterMap (frameTo peer) = [] ∧ later.filterMap (frameFrom peer) = [])
      (armRecvTimeout peer timeout) store [] := by
  have within : Within timerOp (armRecvTimeout peer timeout) :=
    Reliable.within (armRecvTimeout_reliable peer timeout rfl rfl)
  refine within.meets
    (fun past => past.filterMap (frameTo peer) = [] ∧ past.filterMap (frameFrom peer) = [])
    ⟨rfl, rfl⟩ (fun _ _ _ _ => trivial) ?_
  intro now op answer quiet timed
  cases op <;> first
    | contradiction
    | rw [filterMap_append_none rfl, filterMap_append_none rfl]
      exact quiet

private theorem frameFrom_frame (version : ProtoVersion) (message : Message) :
    List.filterMap (frameFrom peer) [⟨⟨store, .pollRead peer⟩, .frame version message⟩] =
      [message] := by
  simp [frameFrom]

private theorem frame_of_frameFrom {polled : Polled} {message : Message}
    (read : List.filterMap (frameFrom peer) [⟨⟨store, .pollRead peer⟩, polled⟩] = [message]) :
    ∃ version, polled = .frame version message := by
  cases polled with
  | frame version other =>
      rw [frameFrom_frame] at read
      cases read
      exact ⟨version, rfl⟩
  | waiting midFrame => contradiction
  | failed cause => contradiction

theorem exchangeHelloOf_spec (build : Build) (peer : Side) (handoffId : HandoffId) (role : Side)
    (expectedPid : Option UInt32) (store : SupStore) :
    Meets (fun _ _ => True) (fun outcome _ later =>
      Exchanged build peer handoffId role expectedPid outcome later)
      (exchangeHelloOf build peer handoffId role expectedPid) store [] := by
  unfold exchangeHelloOf
  refine Meets.bind (armRecvTimeout_quiet helloReadTimeout) ?_ ?_
  · intro _ now later quiet
    obtain ⟨rfl, unspoken, unheard⟩ := quiet
    refine Meets.callBind trivial fun polled => ?_
    refine clearRecvTimeout_steps peer trivial fun answer => ?_
    have silent : List.filterMap (frameTo peer) ((later ++ [⟨⟨now, .pollRead peer⟩, polled⟩]) ++
        [⟨⟨now, .setReadTimeout peer none⟩, answer⟩]) = [] := by
      rw [filterMap_append_none rfl, filterMap_append_none rfl, unspoken]
    have heard : List.filterMap (frameFrom peer) ((later ++ [⟨⟨now, .pollRead peer⟩, polled⟩]) ++
        [⟨⟨now, .setReadTimeout peer none⟩, answer⟩]) =
        List.filterMap (frameFrom peer) [⟨⟨now, .pollRead peer⟩, polled⟩] := by
      rw [filterMap_append_none rfl, List.filterMap_append, unheard, List.nil_append]
    rcases ruleOnHello_cases build peer handoffId role expectedPid polled with
      ⟨cause, refused, unexpected⟩ | ⟨_, _, _, _, _, _, rfl, _, accepted⟩
    · rw [refused]
      apply exchanged_failed silent
      intro pid buildId low high capabilities read agreed
      rw [heard] at read
      obtain ⟨version, rfl⟩ := frame_of_frameFrom read
      exact absurd agreed (unexpected _ _ _ _ _ _ rfl)
    · rw [accepted]
      exact acknowledge_spec silent (heard.trans (frameFrom_frame _ _))
  · intro failure now later quiet
    apply exchanged_failed quiet.2.1
    intro _ _ _ _ _ read
    rw [quiet.2.2] at read
    contradiction

end

/-! ### What the primitives accept -/

def primHears : PrimEvent → Option Message
  | ⟨⟨_, .pollRead _⟩, .frame _ message⟩ => some message
  | ⟨⟨_, .readMessage⟩, .ok (_, message)⟩ => some message
  | _ => none

def primSays : PrimEvent → Option Message
  | ⟨⟨_, .writeFrame _ _ message⟩, _⟩ => some message
  | _ => none

def Build.hello (build : Build) (role : Side) (host : Host) : Message :=
  .hello role host.pid host.buildId build.protoMin build.protoMax {}

def InRange (build : Build) (past : PrimPast) : Prop :=
  ∃ chosen handoffId, chosen ∈ build ∧ .helloAck chosen handoffId ∈ past.filterMap primHears

section

variable (build : Build) (host : Host) (store : PrimStore)

/-- The operations of a session up to its `HelloAck`, and the close at its end. -/
def greetingOp : PrimOp → Bool
  | .writeFrame _ _ (.hello ..) | .setReadTimeout _ | .pollRead true | .close _ => true
  | _ => false

/-- Whatever else a session does comes after an answer in range. -/
def GreetingDuty (past : PrimPast) (call : Call PrimStore PrimOp) : Prop :=
  greetingOp call.op = true ∨ InRange build past

theorem incumbentHandshakeOf_spec :
    Meets (GreetingDuty build) (fun outcome _ later =>
      (∀ message ∈ later.filterMap primSays, message = build.hello .incumbent host) ∧
      ∀ chosen, outcome = .ok chosen → chosen ∈ build ∧
        ∃ handoffId, .helloAck chosen handoffId ∈ later.filterMap primHears)
      (incumbentHandshakeOf build host) store [] := by
  unfold incumbentHandshakeOf
  refine Meets.callBind (Or.inl rfl) fun sent => ?_
  refine Meets.ofExceptBind ?_ (fun _ _ => ⟨by simp [primSays, Build.hello], nofun⟩)
  intro _ _
  refine Meets.callBind (Or.inl rfl) fun timed => ?_
  refine Meets.ofExceptBind ?_ (fun _ _ => ⟨by simp [primSays, Build.hello], nofun⟩)
  intro _ _
  refine Meets.callBind (Or.inl rfl) fun polled => ?_
  cases polled with
  | waiting midFrame => exact ⟨by simp [primSays, Build.hello], nofun⟩
  | failed cause => exact ⟨by simp [primSays, Build.hello], nofun⟩
  | frame version message =>
      cases message with
      | helloAck protoVersionChosen handoffId =>
          refine (meets_ofExcept _).mpr ⟨by simp [primSays, Build.hello], ?_⟩
          intro chosen agreed
          obtain ⟨rfl, inside⟩ := Build.negotiate_single agreed
          exact ⟨inside, handoffId, by simp [primHears]⟩
      | _ => exact ⟨by simp [primSays, Build.hello], nofun⟩

theorem successorHandshakeOf_spec :
    Meets (fun _ _ => True) (fun outcome _ later =>
      (∀ message ∈ later.filterMap primSays, message = build.hello .successor host) ∧
      ∀ negotiated, outcome = .ok negotiated →
        later.filterMap primHears = [.helloAck negotiated.protoVersion negotiated.handoffId])
      (successorHandshakeOf build host) store [] := by
  unfold successorHandshakeOf
  refine Meets.callBind trivial fun sent => ?_
  refine Meets.ofExceptBind ?_ (fun _ _ => ⟨by simp [primSays, Build.hello], nofun⟩)
  intro _ _
  refine Meets.callBind trivial fun answer => ?_
  cases answer with
  | error cause => exact ⟨by simp [primSays, Build.hello], nofun⟩
  | ok frame =>
      obtain ⟨version, message⟩ := frame
      cases message with
      | helloAck protoVersionChosen handoffId =>
          refine ⟨by simp [primSays, Build.hello], ?_⟩
          intro negotiated same
          obtain rfl := Except.ok.inj same
          rfl
      | _ => exact ⟨by simp [primSays, Build.hello], nofun⟩

/-- The successor goes on with whatever version a `HelloAck` names. -/
private theorem successorHandshakeOf_accepts (chosen : ProtoVersion) (handoffId : HandoffId) :
    (successorHandshakeOf build host store).Run
      [⟨⟨store, .writeFrame .control build.protoMax (build.hello .successor host)⟩, .ok ()⟩,
        ⟨⟨store, .readMessage⟩, .ok (chosen, .helloAck chosen handoffId)⟩]
      (.done (.ok ⟨handoffId, chosen⟩, store)) :=
  .step _ (.step _ (.stop _))

theorem successorHandshakeOf_inRange_iff (chosen : ProtoVersion) (handoffId : HandoffId) :
    (∀ own final negotiated events,
      (successorHandshakeOf build host own).Run events (.done (.ok negotiated, final)) →
      .helloAck chosen handoffId ∈ events.filterMap primHears → negotiated.protoVersion ∈ build) ↔
      chosen ∈ build := by
  constructor
  · intro proceeds
    exact proceeds {} {} _ _ (successorHandshakeOf_accepts build host {} chosen handoffId)
      (List.mem_singleton_self _)
  · intro inside own final negotiated events run heard
    have only : events.filterMap primHears =
        [.helloAck negotiated.protoVersion negotiated.handoffId] :=
      ((successorHandshakeOf_spec build host own).ended run).2 negotiated rfl
    rw [only, List.mem_singleton] at heard
    cases heard
    exact inside

private theorem inRange_append {past : PrimPast} (inRange : InRange build past)
    (event : PrimEvent) :
    InRange build (past ++ [event]) := by
  obtain ⟨chosen, handoffId, inside, heard⟩ := inRange
  refine ⟨chosen, handoffId, inside, ?_⟩
  rw [List.filterMap_append]
  exact List.mem_append_left _ heard

private theorem meets_inRange {Value : Type} (code : PrimM Value) {store : PrimStore}
    {past : PrimPast} (inRange : InRange build past) :
    Meets (GreetingDuty build) (fun _ _ _ => True) code store past := by
  have kept := (Program.keeps_trivial (code store) past).invariant (InRange build) inRange
    (fun _ _ _ held _ => inRange_append build held _)
  exact kept.mono (fun _ _ held => Or.inr held.1) (fun _ _ _ => trivial)

private theorem handleSessionOf_greets (fuel : Nat) :
    Meets (GreetingDuty build) (fun _ _ _ => True) (handleSessionOf build host fuel) store [] := by
  have closes (now : PrimStore) (later : PrimPast) : Meets (GreetingDuty build) (fun _ _ _ => True)
      (PrimM.ask (.close .session)) now later :=
    meets_call.mpr ⟨Or.inl rfl, fun _ => trivial⟩
  unfold handleSessionOf
  rw [meets_ensuring]
  refine Meets.bind (incumbentHandshakeOf_spec build host store) ?_ (fun _ _ _ _ => closes _ _)
  intro chosen now later spec
  obtain ⟨inside, handoffId, heard⟩ := spec.2 chosen rfl
  exact (meets_inRange build _ ⟨chosen, handoffId, inside, heard⟩).mono fun _ _ _ _ => closes _ _

end

/-! ### Agreement -/

/-- Two ends of one connection: each hears only what the other says. -/
structure Linked (peer : Side) (past : SupPast) (theirs : PrimPast) : Prop where
  hello : ∀ message ∈ past.filterMap (frameFrom peer), message ∈ theirs.filterMap primSays
  ack : ∀ message ∈ theirs.filterMap primHears, message ∈ past.filterMap (frameTo peer)

section

variable {ours theirs : Build} {peer role : Side} {handoffId : HandoffId}
  {expectedPid : Option UInt32} {outcome : Except Halt ProtoVersion} {past : SupPast}
  {answers : PrimPast} {host : Host}

theorem Exchanged.agrees
    (exchanged : Exchanged ours peer handoffId role expectedPid outcome past)
    (linked : Linked peer past answers) {side : Side}
    (said : ∀ message ∈ answers.filterMap primSays, message = theirs.hello side host)
    {version : ProtoVersion} {id : HandoffId}
    (heard : .helloAck version id ∈ answers.filterMap primHears) :
    IsGreatest (ours.common theirs) version ∧ ∀ chosen, outcome = .ok chosen → chosen = version := by
  have largest {chosen : ProtoVersion} {other : HandoffId}
      (written : .helloAck chosen other ∈ past.filterMap (frameTo peer)) :
      IsGreatest (ours.common theirs) chosen := by
    obtain ⟨pid, buildId, low, high, capabilities, agreed, read, same, greatest⟩ :=
      exchanged.answers _ written
    have hello := said _ (linked.hello (.hello role pid buildId low high capabilities)
      (by rw [read]; exact List.mem_singleton_self _))
    cases hello
    cases same
    exact greatest
  have mine := largest (linked.ack _ heard)
  refine ⟨mine, ?_⟩
  intro chosen completed
  have ours := largest (exchanged.chooses chosen completed)
  exact UInt16.le_antisymm (mine.2 ours.1) (ours.2 mine.1)

/-- Builds with any ranges.  A session of an incumbent goes past `HelloAck` only
with a version of its own range, whoever the peer is; the handshake of a successor
does so exactly for the answers whose version is in range.  When a supervisor
answers a primitive, both ends have the same version, the largest common one, and
the exchange completes exactly when there is one. -/
theorem versions_agree (theirs : Build) (host : Host) {store last : SupStore}
    (exchange : (exchangeHelloOf ours peer handoffId role expectedPid store).Run past
      (.done (outcome, last))) :
    (∀ (fuel : Nat) (own : PrimStore) (rest : Process PrimStore PrimAns Error SessionOutcome)
      (front back : PrimPast) (event : PrimEvent),
      (handleSessionOf theirs host fuel own).Run (front ++ event :: back) rest →
      greetingOp event.op.op = false → InRange theirs front) ∧
    (∀ (chosen : ProtoVersion) (id : HandoffId),
      (∀ own final negotiated events,
        (successorHandshakeOf theirs host own).Run events (.done (.ok negotiated, final)) →
        .helloAck chosen id ∈ events.filterMap primHears → negotiated.protoVersion ∈ theirs) ↔
        chosen ∈ theirs) ∧
    (∀ (own final : PrimStore) (answer : Except Error ProtoVersion) (chosen : ProtoVersion),
      (incumbentHandshakeOf theirs host own).Run answers (.done (answer, final)) →
      Linked peer past answers → answer = .ok chosen →
      IsGreatest (ours.common theirs) chosen ∧ ∀ version, outcome = .ok version → version = chosen) ∧
    (∀ (own final : PrimStore) (answer : Except Error Negotiated) (negotiated : Negotiated),
      (successorHandshakeOf theirs host own).Run answers (.done (answer, final)) →
      Linked peer past answers → answer = .ok negotiated →
      IsGreatest (ours.common theirs) negotiated.protoVersion ∧
        ∀ version, outcome = .ok version → version = negotiated.protoVersion) ∧
    ∀ (pid : UInt32) (buildId : List UInt8) (capabilities : Capabilities),
      past.filterMap (frameFrom peer) =
        [.hello role pid buildId theirs.protoMin theirs.protoMax capabilities] →
      (∀ expected, expectedPid = some expected → pid = expected) →
      (∀ event ∈ past, writeFailed event = false) →
      ((∃ chosen, outcome = .ok chosen) ↔ (ours.common theirs).Nonempty) ∧
        ∀ chosen, outcome = .ok chosen → IsGreatest (ours.common theirs) chosen := by
  have exchanged := (exchangeHelloOf_spec ours peer handoffId role expectedPid store).ended exchange
  refine ⟨?_, successorHandshakeOf_inRange_iff theirs host, ?_, ?_, ?_⟩
  · intro fuel own rest front back event run proceeds
    have duty := run.asked (handleSessionOf_greets theirs host own fuel) rfl
    rcases duty with greeting | inRange
    · rw [proceeds] at greeting
      contradiction
    · exact inRange
  · intro own final answer chosen run linked accepted
    obtain ⟨said, chose⟩ := (incumbentHandshakeOf_spec theirs host own).ended run
    obtain ⟨_, id, heard⟩ := chose chosen accepted
    exact exchanged.agrees linked said heard
  · intro own final answer negotiated run linked accepted
    obtain ⟨said, chose⟩ := (successorHandshakeOf_spec theirs host own).ended run
    have only : answers.filterMap primHears =
        [.helloAck negotiated.protoVersion negotiated.handoffId] := chose negotiated accepted
    apply exchanged.agrees linked said
    rw [only]
    exact List.mem_singleton_self _
  · intro pid buildId capabilities read expected unfailing
    refine ⟨exchanged.completes pid buildId _ _ capabilities read expected unfailing, ?_⟩
    intro chosen completed
    obtain ⟨_, _, _, _, _, agreed, again, same, greatest⟩ :=
      exchanged.answers _ (exchanged.chooses chosen completed)
    cases read.symm.trans again
    cases same
    exact greatest

end

/-! ### A rolling upgrade -/

def upgradeHost : Host where
  pid := 8
  euid := 0
  dataDir := "/data"
  socketPath := "/run/ctl.sock"
  socketDir := some "/run"
  stagingPath := "/run/.ho-8-0.tmp"
  maxSocketPathLen := 107
  buildId := []

/-- A successor that speaks versions `low` to `high` and reads a `HelloAck` with
version 2. -/
def secondVersion (low high : ProtoVersion) : PrimPast :=
  [⟨⟨{}, .writeFrame .control high (.hello .successor 8 [] low high {})⟩, .ok ()⟩,
    ⟨⟨{}, .readMessage⟩, .ok (2, .helloAck 2 ⟨0⟩)⟩]

private theorem secondVersion_run (low high : ProtoVersion) :
    (successorHandshakeOf ⟨low, high⟩ upgradeHost {}).Run (secondVersion low high)
      (.done (.ok ⟨⟨0⟩, 2⟩, {})) :=
  successorHandshakeOf_accepts ⟨low, high⟩ upgradeHost {} 2 ⟨0⟩

/-- A supervisor that speaks versions 1 to 3 and hears a successor with 1 to 2. -/
def upgrade : SupPast :=
  [⟨⟨{}, .setReadTimeout .successor (some helloReadTimeout)⟩, .ok ()⟩,
    ⟨⟨{}, .pollRead .successor⟩, .frame 2 (.hello .successor 8 [] 1 2 {})⟩,
    ⟨⟨{}, .setReadTimeout .successor none⟩, .ok ()⟩,
    ⟨⟨{}, .writeFrame .successor 2 (.helloAck 2 ⟨0⟩)⟩, .ok ()⟩]

private theorem upgrade_run :
    (exchangeHelloOf ⟨1, 3⟩ .successor ⟨0⟩ .successor (some 8) {}).Run upgrade
      (.done (.ok 2, {})) := by
  exact .step _ (.step _ (.step _ (.step _ (.stop _))))

theorem versions_agree_upgrade :
    IsGreatest (Build.common ⟨1, 3⟩ ⟨1, 2⟩) (2 : ProtoVersion) ∧ (2 : ProtoVersion) ∈ Build.mk 1 2 := by
  have linked : Linked .successor upgrade (secondVersion 1 2) := by
    constructor <;> decide
  obtain ⟨_, _, _, agrees, _⟩ := versions_agree ⟨1, 2⟩ upgradeHost upgrade_run
  have greatest := (agrees {} {} _ ⟨⟨0⟩, 2⟩ (secondVersion_run 1 2) linked rfl).1
  exact ⟨greatest, greatest.1.2⟩

/-- A successor that speaks version 1 only goes on with version 2. -/
theorem successor_accepts_foreign :
    (successorHandshakeOf ⟨1, 1⟩ upgradeHost {}).Run (secondVersion 1 1)
        (.done (.ok ⟨⟨0⟩, 2⟩, {})) ∧
      (2 : ProtoVersion) ∉ (⟨1, 1⟩ : Build) :=
  ⟨secondVersion_run 1 1, by decide⟩

end Handoff
