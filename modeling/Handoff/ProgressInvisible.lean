/-
Progress frames change nothing.

A supervisor skips `Heartbeat` and `SealProgress` in every wait, and an incumbent
echoes the `Heartbeat`s it receives.  Neither party does anything else on their
account.
-/

import Handoff.Primitive.EchoedFrames
import Handoff.Primitive.ServeRuns
import Handoff.Supervisor.ProgressRuns

namespace Handoff

open Effects

theorem progress_invisible (world : Surroundings) (supervisor : Supervisor) (spec : SpawnSpec)
    (frames longer : Side → List Frame)
    (woven : ∀ peer, WovenLater isProgress (frames peer) (longer peer))
    (session : SessionWorld) (host : Host) (store : PrimStore) (sent more : List Frame)
    (echoed : WovenLater isHeartbeat sent more) (fuel : Nat)
    (enough : ∀ peer, (frames peer).length < fuel ∧ (longer peer).length < fuel)
    (enough' : sent.length < fuel ∧ more.length < fuel) :
    (∃ result left result' right,
      (performHandoff supervisor spec fuel {}).drive world.respond ⟨[], frames⟩ =
        some (result, left) ∧
      (performHandoff supervisor spec fuel {}).drive world.respond ⟨[], longer⟩ =
        some (result', right) ∧
      (waitExpired left.past = false → waitExpired right.past = false →
        result.1 ≠ .error .panic → result'.1 ≠ .error .panic →
          result = result' ∧ effects left.past = effects right.past)) ∧
    ∃ result left right,
      (handleSession host fuel store).drive session.respond ⟨[], sent⟩ = some (result, left) ∧
      (handleSession host fuel store).drive session.respond ⟨[], more⟩ = some (result, right) ∧
      acts left.past = acts right.past :=
  ⟨performHandoff_unchanged world supervisor spec woven (fun peer => (enough peer).1)
      fun peer => (enough peer).2,
    handleSession_unchanged session host store echoed enough'.1 enough'.2⟩

/-! ### A handoff with progress frames -/

def hungUp : Error := .io (.ofKind .unexpectedEof "")

def obligingPeers : Surroundings where
  clock _ := (0 : Nat)
  unixMs _ := 0
  sets _ _ := .ok ()
  blocks _ _ := false
  ending _ _ := hungUp
  answer _
    | .tryLockInFlight, _ => true
    | .newHandoffId, _ => firstHandoff
    | .now, _ => (0 : Nat)
    | .nowUnixMs, _ => (0 : UInt64)
    | .connect _, _ | .configureControlStream _, _ | .setReadTimeout .., _ | .writeFrame .., _
    | .makeSocketpair, _ | .journalWrite _, _ | .journalDelete, _ | .kill _, _ | .wait _, _ => .ok ()
    | .spawn _, _ => .ok 7
    | .closeChildEnd, _ | .close _, _ | .releaseInFlight _, _ => ()
    | .readWouldBlock _, _ => false
    | .pollRead _, _ => .failed hungUp
    | .journalRead, _ => .ok none
    | .readMessage _, _ => .error hungUp
    | .outOfFuel, stalls => (stalls rfl).elim

def quietSession : SessionWorld where
  clock _ := (0 : Nat)
  unixMs _ := 0
  ending _ := hungUp
  drains _ _ := .ok ⟨0, true⟩
  answer _
    | .accept, _ | .configureControlStream, _ | .setReadTimeout _, _ | .writeFrame .., _
    | .tryClone, _ | .resumeAfterAbort, _ | .createDataDir, _ | .openLockFile, _
    | .openPidTemp, _ | .writePidTemp _, _ | .syncPidTemp, _ | .renamePidTemp, _
    | .syncDataDir, _ | .createSocketDir, _ | .bindStaging, _ | .chmodStaging, _
    | .renameStaging, _ | .setCloexec, _ | .probePid _, _ => .ok ()
    | .sleep _, _ | .close _, _ | .removePidTemp, _ | .closeLockFile, _ | .removePidfile, _
    | .releaseFlock, _ | .removeStaging, _ | .closeListener, _ => ()
    | .peerUid, _ => .ok 0
    | .pollRead _, _ => .failed hungUp
    | .readMessage, _ => .error hungUp
    | .now, _ => (0 : Nat)
    | .nowUnixMs, _ => (0 : UInt64)
    | .drain _, _ => .ok ⟨0, true⟩
    | .seal, _ => .ok ⟨[], Vector.replicate 32 0⟩
    | .flock, _ => .locked
    | .readPidfile, _ => none
    | .outOfFuel, stalls => (stalls rfl).elim

def peerFrames : Side → List Frame
  | .incumbent =>
      [(1, .hello .incumbent 3 [] 1 1 {}), (1, .drained 0 true),
        (1, .sealComplete firstHandoff [] (Vector.replicate 32 0))]
  | .successor => [(1, .hello .successor 7 [] 1 1 {}), (1, .ready firstHandoff [] true [])]

def peerFramesWithProgress : Side → List Frame
  | .incumbent =>
      [(1, .hello .incumbent 3 [] 1 1 {}), (1, .heartbeat 1), (1, .drained 0 true),
        (1, .sealProgress 1 2 0), (1, .heartbeat 2),
        (1, .sealComplete firstHandoff [] (Vector.replicate 32 0))]
  | .successor =>
      [(1, .hello .successor 7 [] 1 1 {}), (1, .heartbeat 3), (1, .ready firstHandoff [] true [])]

def supervisorFrames : List Frame :=
  [(1, .helloAck 1 firstHandoff), (1, .prepareHandoff firstHandoff 7 1000 1000),
    (1, .sealRequest firstHandoff), (1, .commit firstHandoff)]

def supervisorFramesWithHeartbeats : List Frame :=
  [(1, .helloAck 1 firstHandoff), (1, .heartbeat 1), (1, .prepareHandoff firstHandoff 7 1000 1000),
    (1, .sealRequest firstHandoff), (1, .heartbeat 2), (1, .heartbeat 3), (1, .commit firstHandoff)]

def serving : PrimStore := { lock := some { dataDir := "/data" } }

def handedOver : PrimStore :=
  { state := { active := some firstHandoff, sealed := true, drained := true } }

private theorem peerFrames_woven (peer : Side) :
    WovenLater isProgress (peerFrames peer) (peerFramesWithProgress peer) := by
  cases peer with
  | incumbent =>
      exact .first _ (.insert 1 rfl (.keep _ (.insert 1 rfl (.insert 1 rfl (.keep _ .nil)))))
  | successor => exact .first _ (.insert 1 rfl (.keep _ .nil))

/-- Both parties commit, with progress frames and without. -/
theorem progress_invisible_committed :
    (∃ left right,
      (performHandoff rehearsalSupervisor rehearsalSpec 8 {}).drive obligingPeers.respond
        ⟨[], peerFrames⟩ = some ((.ok committedOutcome, {}), left) ∧
      (performHandoff rehearsalSupervisor rehearsalSpec 8 {}).drive obligingPeers.respond
        ⟨[], peerFramesWithProgress⟩ = some ((.ok committedOutcome, {}), right) ∧
      effects left.past = effects right.past) ∧
    ∃ left right,
      (handleSession rehearsalHost 8 serving).drive quietSession.respond ⟨[], supervisorFrames⟩ =
        some ((.ok .committed, handedOver), left) ∧
      (handleSession rehearsalHost 8 serving).drive quietSession.respond
        ⟨[], supervisorFramesWithHeartbeats⟩ =
          some ((.ok .committed, handedOver), right) ∧
      acts left.past = acts right.past := by
  have session : WovenLater isHeartbeat supervisorFrames supervisorFramesWithHeartbeats :=
    .first _ (.insert 1 rfl (.keep _ (.keep _ (.insert 1 rfl (.insert 1 rfl (.keep _ .nil))))))
  have enough (peer : Side) :
      (peerFrames peer).length < 8 ∧ (peerFramesWithProgress peer).length < 8 := by
    cases peer <;> decide
  obtain ⟨⟨_, left, _, right, one, two, same⟩, _, before, after, three, four, alike⟩ :=
    progress_invisible obligingPeers rehearsalSupervisor rehearsalSpec peerFrames
      peerFramesWithProgress peerFrames_woven quietSession rehearsalHost serving supervisorFrames
      supervisorFramesWithHeartbeats session 8 enough (by decide)
  have ends : ((performHandoff rehearsalSupervisor rehearsalSpec 8 {}).drive obligingPeers.respond
      ⟨[], peerFrames⟩).map (fun both => (both.1, waitExpired both.2.past)) =
        some ((.ok committedOutcome, {}), false) := by decide +kernel
  have ends' : ((performHandoff rehearsalSupervisor rehearsalSpec 8 {}).drive obligingPeers.respond
      ⟨[], peerFramesWithProgress⟩).map (fun both => (both.1, waitExpired both.2.past)) =
        some ((.ok committedOutcome, {}), false) := by decide +kernel
  have commits : ((handleSession rehearsalHost 8 serving).drive quietSession.respond
      ⟨[], supervisorFrames⟩).map Prod.fst =
        some (.ok .committed, handedOver) := by decide +kernel
  rw [one] at ends
  rw [two] at ends'
  rw [three] at commits
  cases commits
  obtain ⟨rfl, timely⟩ := Prod.mk.inj (Option.some.inj ends)
  obtain ⟨rfl, timely'⟩ := Prod.mk.inj (Option.some.inj ends')
  have unchanged := (same timely timely' nofun nofun).2
  exact ⟨⟨left, right, one, two, unchanged⟩, before, after, three, four, alike⟩

end Handoff
