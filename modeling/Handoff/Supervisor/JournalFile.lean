/-
The journal on disk.

`write_atomic` fills a temporary file and renames it over the journal.  Each
call of the file system may be refused, and a write may stop half way; what is
then left is the point of the rename.  A supervisor that dies inside one of
these functions leaves what a refusal of the next call leaves.
-/

import Handoff.Supervisor.StageRuns
import Handoff.Wire.Codec

namespace Handoff

open Effects SupM
open Effects.Code hiding pure bind

variable {event : SupEvent} {record : StateJournal} {past : SupPast}

structure JournalFiles where
  journal : Option (List UInt8) := none
  tmp : Option (List UInt8) := none
  deriving DecidableEq, Repr

abbrev JournalM (Value : Type) : Type := ExceptT Error (StateM JournalFiles) Value

/-- The calls of `write_atomic` that are refused, and how many bytes a failing
write had written. -/
structure WriteFaults where
  createDirAll : Option IoError := none
  openTmp : Option IoError := none
  write : Option (Nat × IoError) := none
  syncTmp : Option IoError := none
  rename : Option IoError := none
  fsyncDir : Option IoError := none

def refused : Option IoError → JournalM Unit
  | some cause => throw (.io cause)
  | none => pure ()

def StateJournal.bytes (record : StateJournal) : List UInt8 := journalFormat.put record

def StateJournal.writeAtomic (record : StateJournal) (faults : WriteFaults) : JournalM Unit := do
  refused faults.createDirAll
  refused faults.openTmp
  modify fun files => { files with tmp := some [] }
  match faults.write with
  | some (count, cause) =>
      modify fun files => { files with tmp := some (record.bytes.take count) }
      throw (.io cause)
  | none => modify fun files => { files with tmp := some record.bytes }
  refused faults.syncTmp
  refused faults.rename
  modify fun files => { journal := files.tmp, tmp := none }
  refused faults.fsyncDir

/-- Bytes after the record are ignored. -/
def StateJournal.ofBytes (bytes : List UInt8) : Except Error StateJournal :=
  match journalFormat.take bytes with
  | .ok (record, _) => .ok record
  | .error cause => .error (.codec cause.display)

def StateJournal.read (fault : Option IoError) : JournalM (Option StateJournal) := do
  refused fault
  match (← get).journal with
  | none => pure none
  | some bytes =>
      match StateJournal.ofBytes bytes with
      | .ok record => pure (some record)
      | .error cause => throw cause

/-- A journal that is not there counts as deleted. -/
def StateJournal.delete (fault : Option IoError) : JournalM Unit := do
  refused fault
  modify fun files => { files with journal := none }

def JournalFiles.record? (files : JournalFiles) : Option StateJournal :=
  files.journal.bind fun bytes => (StateJournal.ofBytes bytes).toOption

/-! ### What the functions leave -/

private theorem phaseFormat_length (phase : Phase) : (phaseFormat.put phase).length = 1 := by
  cases phase <;> rfl

private theorem handoffIdFormat_length (handoffId : HandoffId) :
    (handoffIdFormat.put handoffId).length ≤ 26 := by
  have size : (uuidBytes handoffId.uuid).length = 16 := by
    rw [uuidBytes, List.length_reverse, leBytes_length]
  have count := Postcard.Format.putVarint_length 10 (uuidBytes handoffId.uuid).length
  have total : (handoffIdFormat.put handoffId).length =
      (Postcard.Format.putVarint 10 (uuidBytes handoffId.uuid).length ++
        (uuidBytes handoffId.uuid).flatMap Postcard.Format.byte.put).length := rfl
  rw [total, List.length_append, Postcard.Format.flatMap_byte]
  omega

private theorem StateJournal.bytes_short (record : StateJournal) :
    record.bytes.length < 2 ^ 64 := by
  have id := handoffIdFormat_length record.handoffId
  have phase := phaseFormat_length record.phase
  have incumbent := Postcard.Format.putVarint_length 5 record.incumbentPid.toNat
  have started := Postcard.Format.putVarint_length 10 record.startedAtUnixMs.toNat
  have successor : ((Postcard.Format.option Postcard.Format.u32).put record.successorPid).length ≤
      6 := by
    cases record.successorPid with
    | none => decide
    | some pid => exact Nat.succ_le_succ (Postcard.Format.putVarint_length 5 pid.toNat)
  have total : record.bytes.length = (handoffIdFormat.put record.handoffId).length +
      ((phaseFormat.put record.phase).length +
        ((Postcard.Format.putVarint 5 record.incumbentPid.toNat).length +
          (((Postcard.Format.option Postcard.Format.u32).put record.successorPid).length +
            (Postcard.Format.putVarint 10 record.startedAtUnixMs.toNat).length))) := by
    simp only [StateJournal.bytes, journalFormat, Postcard.Format.iso, Postcard.Format.pair,
      List.length_append]
    rfl
  omega

theorem StateJournal.ofBytes_bytes (record : StateJournal) :
    StateJournal.ofBytes record.bytes = .ok record := by
  have read := journalFormat.exact record record.bytes_short []
  rw [List.append_nil] at read
  rw [StateJournal.ofBytes, StateJournal.bytes, read]

/-- A write that fails leaves the old journal or the new one. -/
private theorem StateJournal.writeAtomic_journal (record : StateJournal) (faults : WriteFaults)
    (files : JournalFiles) :
    ((record.writeAtomic faults).run files).2.journal = some record.bytes ∨
      ((record.writeAtomic faults).run files).2.journal = files.journal ∧
        ((record.writeAtomic faults).run files).1.isOk = false := by
  obtain ⟨createDirAll, openTmp, write, syncTmp, rename, fsyncDir⟩ := faults
  cases createDirAll with
  | some cause => exact Or.inr ⟨rfl, rfl⟩
  | none =>
  cases openTmp with
  | some cause => exact Or.inr ⟨rfl, rfl⟩
  | none =>
  cases write with
  | some fault => exact Or.inr ⟨rfl, rfl⟩
  | none =>
  cases syncTmp with
  | some cause => exact Or.inr ⟨rfl, rfl⟩
  | none =>
  cases rename with
  | some cause => exact Or.inr ⟨rfl, rfl⟩
  | none =>
  cases fsyncDir with
  | some cause => exact Or.inl rfl
  | none => exact Or.inl rfl

/-! ### The journal along a history -/

def touchesJournal : SupOp → Bool
  | .journalRead | .journalWrite _ | .journalDelete => true
  | _ => false

/-- The answer to an event and the files after it come from the file system. -/
inductive JournalStep (files : JournalFiles) : SupEvent → JournalFiles → Prop where
  | write (store : SupStore) (record : StateJournal) (faults : WriteFaults) :
      JournalStep files ⟨⟨store, .journalWrite record⟩, ((record.writeAtomic faults).run files).1⟩
        ((record.writeAtomic faults).run files).2
  | delete (store : SupStore) (fault : Option IoError) :
      JournalStep files ⟨⟨store, .journalDelete⟩, ((StateJournal.delete fault).run files).1⟩
        ((StateJournal.delete fault).run files).2
  | read (store : SupStore) (fault : Option IoError) :
      JournalStep files ⟨⟨store, .journalRead⟩, ((StateJournal.read fault).run files).1⟩ files
  | other {event : SupEvent} (elsewhere : touchesJournal event.op.op = false) :
      JournalStep files event files

/-- `Journalled start past files`: the files after `past`, from `start`. -/
inductive Journalled (start : JournalFiles) : SupPast → JournalFiles → Prop where
  | start : Journalled start [] start
  | step {past : SupPast} {files next : JournalFiles} {event : SupEvent}
      (earlier : Journalled start past files) (step : JournalStep files event next) :
      Journalled start (past ++ [event]) next

inductive Rerecorded (files next : JournalFiles) (event : SupEvent) : Prop where
  | kept (same : next.journal = files.journal)
      (unchanged : ∀ record, journalChange? event ≠ some (record, true))
  | written {record : StateJournal} (op : event.op.op = .journalWrite record)
      (now : next.journal = some record.bytes)
  | deleted (op : event.op.op = .journalDelete) (now : next.journal = none)

variable {files : JournalFiles}

theorem JournalStep.rerecorded {next : JournalFiles} (step : JournalStep files event next) :
    Rerecorded files next event := by
  cases step with
  | write store record faults =>
      rcases StateJournal.writeAtomic_journal record faults files with now | ⟨same, failed⟩
      · exact .written rfl now
      · refine .kept same ?_
        intro change impossible
        exact Bool.false_ne_true
          (failed.symm.trans (congrArg Prod.snd (Option.some.inj impossible)))
  | delete store fault =>
      cases fault with
      | none => exact .deleted rfl rfl
      | some cause =>
          refine .kept rfl ?_
          intro change impossible
          cases impossible
  | read store fault => exact .kept rfl (fun _ impossible => by cases impossible)
  | other elsewhere =>
      refine .kept rfl ?_
      obtain ⟨⟨store, op⟩, answer⟩ := event
      intro change impossible
      cases op <;> contradiction

theorem JournalFiles.record?_written (written : files.journal = some record.bytes) :
    files.record? = some record := by
  rw [JournalFiles.record?, written, Option.bind_some, StateJournal.ofBytes_bytes]
  rfl

private theorem journalChange?_write (op : event.op.op = .journalWrite record) :
    ∃ answered, journalChange? event = some (some record, answered) := by
  obtain ⟨⟨store, _⟩, answer⟩ := event
  cases op
  exact ⟨_, rfl⟩

private theorem journalChange?_delete (op : event.op.op = .journalDelete) :
    ∃ answered, journalChange? event = some (none, answered) := by
  obtain ⟨⟨store, _⟩, answer⟩ := event
  cases op
  exact ⟨_, rfl⟩

variable {start : JournalFiles}

/-- The last change of the journal, if it succeeded, is what is on disk. -/
theorem Journalled.last (journalled : Journalled start past files) {change : Option StateJournal}
    (last : lastJournal past = some (change, true)) :
    files.journal = change.map StateJournal.bytes := by
  induction journalled with
  | start => contradiction
  | @step past files next event earlier step ih =>
      cases step.rerecorded with
      | kept same unchanged =>
          cases changed : journalChange? event with
          | none =>
              rw [lastJournal, filterMap_append_none changed] at last
              rw [same, ih last]
          | some other =>
              rw [lastJournal_append changed] at last
              rw [last] at changed
              exact absurd changed (unchanged change)
      | written op now =>
          obtain ⟨answered, changed⟩ := journalChange?_write op
          rw [lastJournal_append changed] at last
          cases last
          exact now
      | deleted op now =>
          obtain ⟨answered, changed⟩ := journalChange?_delete op
          rw [lastJournal_append changed] at last
          cases last
          exact now

/-! ### Reading it back -/

def journalReading? : SupEvent → Option StateJournal
  | ⟨⟨_, .journalRead⟩, .ok (some record)⟩ => some record
  | _ => none

theorem StateJournal.read_run (bytes : List UInt8) (tmp : Option (List UInt8)) :
    ((StateJournal.read none).run ⟨some bytes, tmp⟩).1 = (StateJournal.ofBytes bytes).map some := by
  change (ExceptT.run (match StateJournal.ofBytes bytes with
    | .ok record => (pure (some record) : JournalM (Option StateJournal))
    | .error cause => throw cause) ⟨some bytes, tmp⟩).1 = _
  cases StateJournal.ofBytes bytes with
  | ok record => rfl
  | error cause => rfl

theorem JournalStep.reads {next : JournalFiles} (step : JournalStep files event next)
    (reads : journalReading? event = some record) : files.record? = some record := by
  cases step with
  | write store other faults => contradiction
  | delete store fault => contradiction
  | other elsewhere =>
      obtain ⟨⟨store, op⟩, answer⟩ := event
      cases op <;> contradiction
  | read store fault =>
      cases fault with
      | some cause => contradiction
      | none =>
          obtain ⟨journal, tmp⟩ := files
          cases journal with
          | none => contradiction
          | some bytes =>
              rw [StateJournal.read_run] at reads
              rw [JournalFiles.record?, Option.bind_some]
              generalize StateJournal.ofBytes bytes = decoded at reads
              cases decoded with
              | error cause => contradiction
              | ok found => exact reads

private theorem Journalled.start_eq (journalled : Journalled start past files) (empty : past = []) :
    files = start := by
  cases journalled with
  | start => rfl
  | step earlier step => simp at empty

theorem Journalled.head {later : SupPast} (journalled : Journalled start past files)
    (split : past = event :: later) : ∃ next, JournalStep start event next := by
  induction journalled generalizing later with
  | start => contradiction
  | @step past files next last earlier step ih =>
      cases past with
      | nil =>
          rw [List.nil_append] at split
          obtain ⟨rfl, _⟩ := List.cons.inj split
          rw [earlier.start_eq rfl] at step
          exact ⟨next, step⟩
      | cons first past =>
          rw [List.cons_append] at split
          obtain ⟨rfl, _⟩ := List.cons.inj split
          exact ih rfl

theorem resumeFromJournal_reads (supervisor : Supervisor) :
    Meets (fun _ _ => True) (fun outcome _ later => ∀ record, outcome = .ok (some record) →
      ∃ event others, later = event :: others ∧ journalReading? event = some record)
      (resumeFromJournal supervisor) {} [] := by
  unfold resumeFromJournal
  cases supervisor.journalPath with
  | none => exact fun record impossible => by cases impossible
  | some path =>
      refine Meets.callBind trivial fun read => ?_
      cases read with
      | error cause => exact fun record impossible => by cases impossible
      | ok found =>
          cases found with
          | none => exact fun record impossible => by cases impossible
          | some journal =>
              refine Meets.callBind trivial fun connected => ?_
              have deletes (probe : SupPast) : Meets (fun _ _ => True)
                  (fun outcome _ later => ∀ record, outcome = .ok (some record) →
                    ∃ event others, later = event :: others ∧
                      journalReading? event = some record)
                  (do
                    orErr (← ask .journalDelete)
                    pure (some journal)) {}
                  (⟨⟨{}, .journalRead⟩, .ok (some journal)⟩ :: probe) := by
                refine Meets.callBind trivial fun deleted => ?_
                cases deleted with
                | error cause => exact fun record impossible => by cases impossible
                | ok _ =>
                    intro record same
                    cases same
                    exact ⟨_, _, rfl, rfl⟩
              cases connected with
              | error cause => exact deletes _
              | ok _ =>
                  refine Meets.callBind trivial fun _ => ?_
                  refine Meets.callBind trivial fun _ => ?_
                  refine Meets.callBind trivial fun _ => ?_
                  exact deletes _

end Handoff
