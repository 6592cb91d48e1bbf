/-
`write_atomic` over a file system that may lose power.

Calls follow each other; each is a sequence of file-system steps that may fail,
and after any of them the process may crash or the power may fail.  A reader then
finds the record of the last call that returned `Ok` or of one that has not
returned, as long as the directory itself is on the disk.
-/

import Handoff.Effects.System
import Handoff.Storage.Volume
import Handoff.Supervisor.JournalFile

namespace Handoff.Durable

open Effects Storage
open Effects.Code hiding pure bind

/-! ### `write_atomic`, one file-system step at a time -/

/-- The two names that `write_atomic` uses. -/
inductive JournalName where
  | journal
  | tmp
  deriving DecidableEq, Repr

inductive FileOp where
  | createDirAll
  | openTmp
  | write (file : Nat) (bytes : List UInt8)
  | syncFile (file : Nat)
  | rename
  | fsyncDir
  | outOfFuel
  deriving DecidableEq, Repr

@[reducible]
def FileAns : FileOp → Type
  | .openTmp | .write .. => Except IoError Nat
  | .createDirAll | .syncFile _ | .rename | .fsyncDir => Except IoError Unit
  | .outOfFuel => Empty

abbrev FileM (Value : Type) : Type := Code Unit FileAns Error Value

abbrev FileEvent : Type := Event (Call Unit FileOp) (CallAns Unit FileAns)

abbrev FilePast : Type := Past Unit FileAns

abbrev ask (op : FileOp) : FileM (FileAns op) := Code.call op

def orIo {Value : Type} (outcome : Except IoError Value) : FileM Value :=
  ofExcept (outcome.mapError Error.io)

def writeAll (file : Nat) (bytes : List UInt8) : Nat → FileM Unit
  | 0 => fun store => .call ⟨store, .outOfFuel⟩ fun answer => answer.elim
  | fuel + 1 =>
      if bytes = [] then pure ()
      else do
        match ← ask (.write file bytes) with
        | Except.ok 0 => fail (.io (.ofKind .writeZero "failed to write whole buffer"))
        | Except.ok count => writeAll file (bytes.drop count) fuel
        | Except.error cause =>
            if cause.kind = .interrupted then writeAll file bytes fuel else fail (.io cause)

def writeAtomic (record : StateJournal) (fuel : Nat) : FileM Unit := do
  orIo (← ask .createDirAll)
  let file ← orIo (← ask .openTmp)
  writeAll file record.bytes fuel
  orIo (← ask (.syncFile file))
  orIo (← ask .rename)
  orIo (← ask .fsyncDir)

/-! ### How far a call has come -/

inductive Progress where
  | early
  | opened (file : Nat) (written : List UInt8)
  | synced (file : Nat)
  | renamed (file : Nat)
  | anchored (file : Nat)
  deriving DecidableEq, Repr

def Progress.after (progress : Progress) (event : FileEvent) : Progress :=
  match progress, event with
  | .early, ⟨⟨_, .openTmp⟩, .ok file⟩ => .opened file []
  | .opened file written, ⟨⟨_, .write _ bytes⟩, .ok count⟩ => .opened file (written ++ bytes.take count)
  | .opened file _, ⟨⟨_, .syncFile _⟩, .ok _⟩ => .synced file
  | .synced file, ⟨⟨_, .rename⟩, .ok _⟩ => .renamed file
  | .renamed file, ⟨⟨_, .fsyncDir⟩, .ok _⟩ => .anchored file
  | other, _ => other

def progressOf (past : FilePast) : Progress := past.foldl Progress.after .early

@[simp]
theorem progressOf_append (past : FilePast) (event : FileEvent) :
    progressOf (past ++ [event]) = (progressOf past).after event := by
  rw [progressOf, List.foldl_append]
  rfl

def Progress.linked : Progress → Bool
  | .renamed _ | .anchored _ => true
  | _ => false

/-- Each step comes at its place, on the file that was opened, with what is still
to be written. -/
def FileDuty (record : StateJournal) (past : FilePast) (call : Call Unit FileOp) : Prop :=
  match call.op with
  | .createDirAll | .openTmp => progressOf past = .early
  | .write file bytes => ∃ written, progressOf past = .opened file written ∧
      written ++ bytes = record.bytes
  | .syncFile file => progressOf past = .opened file record.bytes
  | .rename => ∃ file, progressOf past = .synced file
  | .fsyncDir => ∃ file, progressOf past = .renamed file
  | .outOfFuel => True

section

variable {record : StateJournal} {past : FilePast}

private theorem writeAll_progress (file : Nat) (bytes : List UInt8) (fuel : Nat)
    {written : List UInt8} (opened : progressOf past = .opened file written)
    (rest : written ++ bytes = record.bytes) :
    Meets (FileDuty record) (fun outcome _ later => outcome = .ok () →
      progressOf later = .opened file record.bytes) (writeAll file bytes fuel) () past := by
  induction fuel generalizing bytes written past with
  | zero => exact ⟨trivial, fun answer => answer.elim⟩
  | succ fuel ih =>
      unfold writeAll
      split
      · next empty =>
          intro _
          rw [empty, List.append_nil] at rest
          rw [opened, rest]
      · refine Meets.callBind ⟨written, opened, rest⟩ fun answer => ?_
        cases answer with
        | error cause =>
            have still : progressOf (past ++ [⟨⟨(), .write file bytes⟩, .error cause⟩]) =
                .opened file written := by
              rw [progressOf_append, opened]
              rfl
            dsimp only
            split
            · exact ih bytes still rest
            · intro impossible
              contradiction
        | ok count =>
            cases count with
            | zero =>
                intro impossible
                contradiction
            | succ count =>
                apply ih (bytes.drop (count + 1))
                · rw [progressOf_append, opened]
                  rfl
                · rw [List.append_assoc, List.take_append_drop, rest]

theorem writeAtomic_progress (record : StateJournal) (fuel : Nat) :
    Meets (FileDuty record) (fun outcome _ later => outcome = .ok () →
      ∃ file, progressOf later = .anchored file) (writeAtomic record fuel) () [] := by
  unfold writeAtomic
  refine Meets.callBind rfl fun made => ?_
  refine Meets.ofExceptBind ?_ (fun _ _ => nofun)
  intro _ _
  refine Meets.callBind rfl fun opened => ?_
  cases opened with
  | error cause => exact nofun
  | ok file =>
      change Meets _ _ (writeAll file record.bytes fuel >>= _) () _
      refine Meets.bind (writeAll_progress file record.bytes fuel rfl (List.nil_append _)) ?_
        (fun _ _ _ _ => nofun)
      intro _ _ later spec
      have full := spec rfl
      refine Meets.callBind full fun synced => ?_
      cases synced with
      | error cause => exact nofun
      | ok _ =>
          have onDisk : progressOf (later ++ [⟨⟨(), .syncFile file⟩, .ok ()⟩]) = .synced file := by
            rw [progressOf_append, full]
            rfl
          refine Meets.callBind ⟨file, onDisk⟩ fun renamed => ?_
          cases renamed with
          | error cause => exact nofun
          | ok _ =>
              have linked : progressOf ((later ++ [⟨⟨(), .syncFile file⟩, .ok ()⟩]) ++
                  [⟨⟨(), .rename⟩, .ok ()⟩]) = .renamed file := by
                rw [progressOf_append, onDisk]
                rfl
              refine Meets.callBind ⟨file, linked⟩ fun anchored => ?_
              cases anchored with
              | error cause => exact nofun
              | ok _ =>
                  intro _
                  refine ⟨file, ?_⟩
                  rw [progressOf_append, linked]
                  rfl

end

/-! ### Calls, crashes and power failures -/

abbrev Disk : Type := Volume JournalName UInt8

/-- One file-system step.  `fate` is its failure, or else how much of a write is
done; a step that fails changes nothing. -/
def serve (disk : Disk) (fate : Except IoError Nat) : (op : FileOp) → Option (FileAns op × Disk)
  | .createDirAll =>
      match fate with
      | .error cause => some (.error cause, disk)
      | .ok _ => some (.ok (), disk.mkdir)
  | .openTmp =>
      match fate with
      | .error cause => some (.error cause, disk)
      | .ok _ =>
          if disk.present then
            some (.ok (disk.openTruncated .tmp).1, (disk.openTruncated .tmp).2)
          else none
  | .write file bytes =>
      match fate with
      | .error cause => some (.error cause, disk)
      | .ok count => some (.ok (min count bytes.length), disk.append file (bytes.take count))
  | .syncFile file =>
      match fate with
      | .error cause => some (.error cause, disk)
      | .ok _ => some (.ok (), disk.syncFile file)
  | .rename =>
      match fate, disk.entries .tmp with
      | .error cause, _ => some (.error cause, disk)
      | .ok _, some file => some (.ok (), disk.rename .tmp .journal file)
      | .ok _, none => none
  | .fsyncDir =>
      match fate with
      | .error cause => some (.error cause, disk)
      | .ok _ => some (.ok (), disk.syncDir)
  | .outOfFuel => none

abbrev FileProcess : Type := Process Unit FileAns Error Unit

structure Writer (program : StateJournal → FileProcess) where
  record : StateJournal
  thread : Thread (program record)

variable {program : StateJournal → FileProcess}

def Writer.progress (writer : Writer program) : Progress := progressOf writer.thread.past

/-- `settled` is the record of the last call that returned `Ok`; `unreturned` are the
records of the calls since then that have not returned, the latest first; `crashes`
counts the crashes and power failures since then. -/
structure Session (program : StateJournal → FileProcess) where
  disk : Disk
  caller : Option (Writer program) := none
  settled : Option StateJournal
  unreturned : List StateJournal := []
  crashes : Nat := 0

inductive SessionLabel where
  | calls (record : StateJournal)
  | performs (event : FileEvent)
  | returns (outcome : Except Error Unit)
  | crash
  | powerFailure

inductive SessionStep : Session program → SessionLabel → Session program → Prop where
  | calls {session : Session program} (record : StateJournal) (free : session.caller = none) :
      SessionStep session (.calls record)
        { session with
          caller := some ⟨record, .start _⟩, unreturned := record :: session.unreturned }
  | performs {session : Session program} {writer : Writer program} {op : Call Unit FileOp}
      {resume : FileAns op.op → FileProcess} {fate : Except IoError Nat} {answer : FileAns op.op}
      {next : Disk} (busy : session.caller = some writer)
      (due : writer.thread.rest = .call op resume)
      (served : serve session.disk fate op.op = some (answer, next)) :
      SessionStep session (.performs ⟨op, answer⟩)
        { session with
          disk := next, caller := some ⟨writer.record, writer.thread.answered due answer⟩ }
  | succeeds {session : Session program} {writer : Writer program}
      (busy : session.caller = some writer) (done : writer.thread.rest = .done (.ok (), ())) :
      SessionStep session (.returns (.ok ()))
        { disk := session.disk, settled := some writer.record }
  | fails {session : Session program} {writer : Writer program} {cause : Error}
      (busy : session.caller = some writer) (done : writer.thread.rest = .done (.error cause, ())) :
      SessionStep session (.returns (.error cause))
        { session with caller := none, unreturned := session.unreturned.tail }
  | crash {session : Session program} :
      SessionStep session .crash
        { session with caller := none, crashes := session.crashes + 1 }
  | powerFailure {session : Session program} (keepsDir : Bool) (mask : List Bool)
      (garbage : Nat → List UInt8) :
      SessionStep session .powerFailure
        { session with
          disk := session.disk.afterLoss keepsDir mask garbage, caller := none
          crashes := session.crashes + 1 }

/-- No call returns an error after its rename: `fsync_dir` does not fail. -/
def synchronised (session : Session program) (label : SessionLabel) (_ : Session program) : Bool :=
  match label with
  | .returns (.error _) => !session.caller.any fun writer => writer.progress.linked
  | _ => true

def Session.read (session : Session program) : Except Error (Option StateJournal) :=
  ((StateJournal.read none).run ⟨session.disk.read .journal, session.disk.read .tmp⟩).1

end Handoff.Durable
