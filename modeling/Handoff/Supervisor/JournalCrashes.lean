/-
What a reader finds after crashes and power failures.

The invariant is about every outcome of the pending directory changes: the file
under the journal's name is synced and holds a record that a reader may find, and
the temporary file is a different one.
-/

import Handoff.Supervisor.JournalDurable

namespace Handoff.Durable

open Effects Storage

/-! ### One outcome -/

/-- The entries of one outcome: the journal is a synced file with a record that may
be found, and nothing is both the journal and the temporary file. -/
structure Sound (disk : Disk) (settled : Option StateJournal) (candidates : List StateJournal)
    (entries : Entries JournalName) : Prop where
  absent : entries .journal = none → settled = none
  filled : ∀ file, entries .journal = some file → file < disk.fresh ∧ disk.synced file = true ∧
    ∃ record, disk.contents file = record.bytes ∧ (settled = some record ∨ record ∈ candidates)
  apart : ∀ file, entries .tmp = some file → file < disk.fresh ∧ entries .journal ≠ some file

namespace Sound

variable {disk next : Disk} {settled : Option StateJournal} {candidates more : List StateJournal}
  {entries : Entries JournalName}

theorem mono (sound : Sound disk settled candidates entries) (wider : candidates ⊆ more) :
    Sound disk settled more entries := by
  refine ⟨sound.absent, ?_, sound.apart⟩
  intro file found
  obtain ⟨old, synced, record, same, may⟩ := sound.filled file found
  exact ⟨old, synced, record, same, may.imp id fun member => wider member⟩

private theorem transfer (sound : Sound disk settled candidates entries)
    (grown : disk.fresh ≤ next.fresh)
    (same : ∀ file, entries .journal = some file → disk.synced file = true →
      next.synced file = true ∧ next.contents file = disk.contents file) :
    Sound next settled candidates entries := by
  refine ⟨sound.absent, ?_, ?_⟩
  · intro file found
    obtain ⟨old, synced, record, holds, may⟩ := sound.filled file found
    obtain ⟨still, kept⟩ := same file found synced
    exact ⟨Nat.lt_of_lt_of_le old grown, still, record, kept.trans holds, may⟩
  · intro file found
    obtain ⟨old, different⟩ := sound.apart file found
    exact ⟨Nat.lt_of_lt_of_le old grown, different⟩

theorem setContents (sound : Sound disk settled candidates entries) {file : Nat}
    (elsewhere : entries .journal ≠ some file) (bytes : List UInt8) :
    Sound (disk.setContents file bytes) settled candidates entries := by
  refine sound.transfer (Nat.le_refl _) ?_
  intro other found synced
  have different : other ≠ file := by
    intro same
    exact elsewhere (same ▸ found)
  simp only [Volume.setContents, Function.update_of_ne different]
  exact ⟨synced, trivial⟩

theorem syncFile (sound : Sound disk settled candidates entries) (file : Nat) :
    Sound (disk.syncFile file) settled candidates entries := by
  refine sound.transfer (Nat.le_refl _) ?_
  intro other found synced
  refine ⟨?_, rfl⟩
  by_cases same : other = file
  · simp [Volume.syncFile, same]
  · simp only [Volume.syncFile, Function.update_of_ne same]
    exact synced

theorem afterLoss (sound : Sound disk settled candidates entries) (keepsDir : Bool)
    (mask : List Bool) (garbage : Nat → List UInt8) :
    Sound (disk.afterLoss keepsDir mask garbage) settled candidates entries :=
  sound.transfer (Nat.le_refl _) fun _ _ synced => ⟨rfl, Volume.afterLoss_contents synced⟩

end Sound

/-! ### The invariant -/

def Phase (disk : Disk) (record : StateJournal) : Progress → Prop
  | .early => True
  | .opened file written => disk.entries .tmp = some file ∧ disk.contents file = written
  | .synced file => disk.entries .tmp = some file ∧ disk.contents file = record.bytes ∧
      disk.synced file = true
  | .renamed file => disk.entries .journal = some file ∧ disk.contents file = record.bytes ∧
      disk.synced file = true
  | .anchored file => disk.entries .journal = some file ∧ disk.contents file = record.bytes ∧
      disk.synced file = true ∧ disk.pending = []

variable {program : StateJournal → FileProcess}

/-- The calls since the last `Ok` whose rename has been done, and others that were
interrupted. -/
def Session.candidates (session : Session program) : List StateJournal :=
  match session.caller with
  | some writer => if writer.progress.linked then session.unreturned else session.unreturned.tail
  | none => session.unreturned

structure Kept (session : Session program) : Prop where
  present : session.disk.present = true
  anchored : session.disk.anchored = true
  sound : session.disk.Always (Sound session.disk session.settled session.candidates)
  clear : ∀ file, session.disk.entries .tmp = some file →
    session.disk.Always fun entries => entries .journal ≠ some file
  phase : ∀ writer, session.caller = some writer →
    Phase session.disk writer.record writer.progress ∧
      session.unreturned.head? = some writer.record
  bounded : session.unreturned.length ≤ session.crashes + session.caller.toList.length

namespace Kept

variable {session : Session program} {writer after : Writer program} {next : Disk}

section Steps

variable (kept : Kept session) (busy : session.caller = some writer)

include kept busy

/-- Before the rename, the candidates are those without the call itself. -/
private theorem sound_unlinked (unlinked : writer.progress.linked = false) :
    session.disk.Always (Sound session.disk session.settled session.unreturned.tail) := by
  have sound := kept.sound
  rw [Session.candidates, busy] at sound
  simp only [unlinked, Bool.false_eq_true, if_false] at sound
  exact sound

variable (same : after.record = writer.record)

include same

theorem advance (present : next.present = true) (anchored : next.anchored = true)
    (sound : next.Always (Sound next session.settled
      (if after.progress.linked then session.unreturned else session.unreturned.tail)))
    (clear : ∀ file, next.entries .tmp = some file →
      next.Always fun entries => entries .journal ≠ some file)
    (phase : Phase next writer.record after.progress) :
    Kept { session with disk := next, caller := some after } where
  present := present
  anchored := anchored
  sound := sound
  clear := clear
  phase := by
    intro other found
    obtain rfl := Option.some.inj found
    rw [same]
    exact ⟨phase, (kept.phase writer busy).2⟩
  bounded := by
    have bounded := kept.bounded
    rw [busy] at bounded
    exact bounded

theorem still (stays : after.progress = writer.progress) :
    Kept { session with disk := session.disk, caller := some after } := by
  refine kept.advance busy same kept.present kept.anchored ?_ kept.clear ?_
  · have sound := kept.sound
    rw [Session.candidates, busy] at sound
    rw [stays]
    exact sound
  · rw [stays]
    exact (kept.phase writer busy).1

theorem writes (unlinked : writer.progress.linked = false) {file : Nat}
    (tmp : session.disk.entries .tmp = some file) {bytes : List UInt8}
    (opened : after.progress = .opened file bytes) :
    Kept { session with disk := session.disk.setContents file bytes, caller := some after } := by
  refine kept.advance busy same kept.present kept.anchored ?_ kept.clear ?_
  · rw [opened]
    intro outcome sub
    exact (kept.sound_unlinked busy unlinked outcome sub).setContents
      (kept.clear file tmp outcome sub) bytes
  · rw [opened]
    exact ⟨tmp, Function.update_self ..⟩

theorem creates (unlinked : writer.progress.linked = false)
    (opened : after.progress = .opened session.disk.fresh []) :
    Kept { session with disk := session.disk.create .tmp, caller := some after } := by
  have sound := kept.sound_unlinked busy unlinked
  have unused : session.disk.Always fun entries => entries .journal ≠ some session.disk.fresh := by
    intro outcome sub found
    exact absurd ((sound outcome sub).filled _ found).1 (Nat.lt_irrefl _)
  have grown : session.disk.Always
      (Sound (session.disk.create .tmp) session.settled session.unreturned.tail) := by
    intro outcome sub
    exact ((sound outcome sub).setContents (unused outcome sub) []).transfer (Nat.le_succ _)
      fun _ _ synced => ⟨synced, rfl⟩
  have tmp : (session.disk.create .tmp).entries .tmp = some session.disk.fresh := by
    rw [Volume.entries_create, Change.apply, Function.update_self]
  refine kept.advance busy same kept.present kept.anchored ?_ ?_ ?_
  · rw [opened]
    refine grown.change rfl rfl ?_
    intro outcome sub
    refine ⟨(grown outcome sub).absent, (grown outcome sub).filled, ?_⟩
    intro file found
    have isNew : session.disk.fresh = file := Option.some.inj found
    rw [← isNew]
    exact ⟨Nat.lt_succ_self _, unused outcome sub⟩
  · intro file found
    rw [← Option.some.inj (tmp.symm.trans found)]
    exact unused.change rfl rfl unused
  · rw [opened]
    exact ⟨tmp, Function.update_self ..⟩

theorem syncs {file : Nat} (opened : writer.progress = .opened file writer.record.bytes)
    (synced : after.progress = .synced file) :
    Kept { session with disk := session.disk.syncFile file, caller := some after } := by
  have phase := (kept.phase writer busy).1
  rw [opened] at phase
  refine kept.advance busy same kept.present kept.anchored ?_ kept.clear ?_
  · rw [synced]
    intro outcome sub
    exact (kept.sound_unlinked busy (by rw [opened]; rfl) outcome sub).syncFile file
  · rw [synced]
    exact ⟨phase.1, phase.2, Function.update_self ..⟩

theorem renames {file : Nat} (synced : writer.progress = .synced file)
    (renamed : after.progress = .renamed file) :
    Kept { session with
      disk := session.disk.rename .tmp .journal file, caller := some after } := by
  obtain ⟨phase, head⟩ := kept.phase writer busy
  rw [synced] at phase
  obtain ⟨tmp, full, onDisk⟩ := phase
  have mine : writer.record ∈ session.unreturned := List.mem_of_mem_head? head
  have sound := kept.sound_unlinked busy (by rw [synced]; rfl)
  have wider : session.disk.Always (Sound (session.disk.rename .tmp .journal file)
      session.settled session.unreturned) := by
    intro outcome sub
    exact ((sound outcome sub).mono (List.tail_sublist _).subset).transfer (Nat.le_refl _)
      fun _ _ synced => ⟨synced, rfl⟩
  refine kept.advance busy same kept.present kept.anchored ?_ ?_ ?_
  · rw [renamed]
    refine wider.change rfl rfl ?_
    intro outcome sub
    refine ⟨nofun, ?_, nofun⟩
    intro other found
    rw [← Option.some.inj found]
    exact ⟨(sound.entries.apart file tmp).1, onDisk, writer.record, full, Or.inr mine⟩
  · intro other found
    rw [Volume.entries_rename] at found
    contradiction
  · rw [renamed, Phase, Volume.entries_rename]
    exact ⟨rfl, full, onDisk⟩

private theorem anchors {file : Nat} (renamed : writer.progress = .renamed file)
    (anchored : after.progress = .anchored file) :
    Kept { session with disk := session.disk.syncDir, caller := some after } := by
  have phase := (kept.phase writer busy).1
  rw [renamed] at phase
  obtain ⟨journal, full, onDisk⟩ := phase
  have sound := kept.sound
  rw [Session.candidates, busy] at sound
  simp only [renamed, Progress.linked, if_true] at sound
  refine kept.advance busy same kept.present kept.anchored ?_ ?_ ?_
  · rw [anchored]
    exact Volume.always_settled rfl (sound.entries.transfer (Nat.le_refl _)
      fun _ _ synced => ⟨synced, rfl⟩)
  · intro other found
    exact Volume.always_settled rfl (sound.entries.apart other found).2
  · rw [anchored]
    exact ⟨journal, full, onDisk, rfl⟩

theorem serves {op : Call Unit FileOp} {answer : FileAns op.op} {fate : Except IoError Nat}
    (duty : FileDuty writer.record writer.thread.past op)
    (progress : after.progress = writer.progress.after ⟨op, answer⟩)
    (served : serve session.disk fate op.op = some (answer, next)) :
    Kept { session with disk := next, caller := some after } := by
  obtain ⟨⟨⟩, op⟩ := op
  have unchanged (stays : writer.progress.after ⟨⟨(), op⟩, answer⟩ = writer.progress) :
      Kept { session with disk := session.disk, caller := some after } :=
    kept.still busy same (progress.trans stays)
  cases op with
  | createDirAll =>
      have early : writer.progress = .early := duty
      have there : session.disk.mkdir = session.disk := by rw [Volume.mkdir, if_pos kept.present]
      simp only [serve, there] at served
      split at served <;> cases served <;> exact unchanged (by rw [early]; rfl)
  | openTmp =>
      have early : writer.progress = .early := duty
      have unlinked : writer.progress.linked = false := by rw [early]; rfl
      simp only [serve, kept.present, if_true] at served
      split at served
      · cases served
        exact unchanged (by rw [early]; rfl)
      · cases served
        rw [early] at progress
        unfold Volume.openTruncated at progress ⊢
        split at progress
        · next file tmp =>
            exact kept.writes busy same unlinked tmp progress
        · exact kept.creates busy same unlinked progress
  | write file bytes =>
      obtain ⟨written, opened, _⟩ := duty
      have phase := (kept.phase writer busy).1
      rw [show writer.progress = _ from opened] at phase progress unchanged
      simp only [serve] at served
      split at served
      · cases served
        exact unchanged rfl
      · cases served
        have unlinked : writer.progress.linked = false := by
          rw [show writer.progress = _ from opened]
          rfl
        have cut : ∀ count, bytes.take (min count bytes.length) = bytes.take count := by
          intro count
          rw [← List.take_take, List.take_length]
        refine kept.writes busy same unlinked phase.1 (progress.trans ?_)
        rw [phase.2, Progress.after, cut]
  | syncFile file =>
      have opened : writer.progress = .opened file writer.record.bytes := duty
      simp only [serve] at served
      split at served
      · cases served
        exact unchanged (by rw [opened]; rfl)
      · cases served
        exact kept.syncs busy same opened (progress.trans (by rw [opened]; rfl))
  | rename =>
      obtain ⟨file, synced⟩ := duty
      have here : writer.progress = .synced file := synced
      have phase := (kept.phase writer busy).1
      rw [here] at phase
      simp only [serve, phase.1] at served
      split at served
      · cases served
        exact unchanged (by rw [here]; rfl)
      · next found =>
          cases served
          cases found
          exact kept.renames busy same here (progress.trans (by rw [here]; rfl))
      · contradiction
  | fsyncDir =>
      obtain ⟨file, renamed⟩ := duty
      have here : writer.progress = .renamed file := renamed
      simp only [serve] at served
      split at served
      · cases served
        exact unchanged (by rw [here]; rfl)
      · cases served
        exact kept.anchors busy same here (progress.trans (by rw [here]; rfl))
  | outOfFuel => exact answer.elim

end Steps

theorem interrupted (kept : Kept session) {disk : Disk} (present : disk.present = true)
    (anchored : disk.anchored = true)
    (sound : disk.Always (Sound disk session.settled session.unreturned))
    (clear : ∀ file, disk.entries .tmp = some file →
      disk.Always fun entries => entries .journal ≠ some file) :
    Kept ({ session with disk := disk, caller := none, crashes := session.crashes + 1 } :
      Session program) := by
  refine ⟨present, anchored, sound, clear, nofun, ?_⟩
  have bounded := kept.bounded
  change session.unreturned.length ≤ session.crashes + 1
  cases caller : session.caller with
  | none =>
      rw [caller] at bounded
      exact Nat.le_trans bounded (Nat.le_succ _)
  | some writer =>
      rw [caller] at bounded
      exact bounded

private theorem sound_unreturned (kept : Kept session) :
    session.disk.Always (Sound session.disk session.settled session.unreturned) := by
  intro outcome sub
  refine (kept.sound outcome sub).mono ?_
  unfold Session.candidates
  split
  · split
    · exact List.Subset.refl _
    · exact (List.tail_sublist _).subset
  · exact List.Subset.refl _

end Kept

/-! ### Runs -/

/-- `write_atomic` with a bound on the rounds of `write_all`. -/
def writing (fuel : Nat) (record : StateJournal) : FileProcess := writeAtomic record fuel ()

section

variable {fuel : Nat} {session next : Session (writing fuel)} {label : SessionLabel}

theorem Kept.step (kept : Kept session) (step : SessionStep session label next)
    (admitted : synchronised session label next = true) : Kept next := by
  cases step with
  | calls record free =>
      have sound := kept.sound
      rw [Session.candidates, free] at sound
      refine ⟨kept.present, kept.anchored, sound, kept.clear, ?_, ?_⟩
      · intro writer found
        obtain rfl := Option.some.inj found
        exact ⟨trivial, rfl⟩
      · have bounded := kept.bounded
        rw [free] at bounded
        exact Nat.succ_le_succ bounded
  | @performs writer op resume fate answer disk busy due served =>
      have duty := writer.thread.asked (writeAtomic_progress writer.record fuel) due
      have same : (⟨writer.record, writer.thread.answered due answer⟩ : Writer (writing fuel)).record =
          writer.record := rfl
      exact kept.serves busy same duty (progressOf_append _ _) served
  | @succeeds writer busy done =>
      obtain ⟨file, anchored⟩ := writer.thread.ended (writeAtomic_progress writer.record fuel) done rfl
      have phase := (kept.phase writer busy).1
      rw [show writer.progress = _ from anchored] at phase
      obtain ⟨journal, full, onDisk, settled⟩ := phase
      have before := kept.sound.entries
      refine ⟨kept.present, kept.anchored, Volume.always_settled settled ?_, kept.clear, nofun,
        Nat.zero_le _⟩
      refine ⟨?_, ?_, before.apart⟩
      · intro absent
        rw [journal] at absent
        contradiction
      · intro other found
        obtain rfl := Option.some.inj (journal.symm.trans found)
        exact ⟨(before.filled _ journal).1, onDisk, writer.record, full, Or.inl rfl⟩
  | @fails writer cause busy done =>
      have unlinked : writer.progress.linked = false := by
        simpa [synchronised, busy] using admitted
      refine ⟨kept.present, kept.anchored, kept.sound_unlinked busy unlinked, kept.clear, nofun, ?_⟩
      have bounded := kept.bounded
      rw [busy] at bounded
      change session.unreturned.length ≤ session.crashes + 1 at bounded
      change session.unreturned.tail.length ≤ session.crashes + 0
      rw [List.length_tail]
      omega
  | crash => exact kept.interrupted kept.present kept.anchored kept.sound_unreturned kept.clear
  | powerFailure keepsDir mask garbage =>
      have stays : (session.disk.present && (session.disk.anchored || keepsDir)) = true := by
        rw [kept.present, kept.anchored]
        rfl
      have sound : Sound (session.disk.afterLoss keepsDir mask garbage) session.settled
          session.unreturned (session.disk.afterLoss keepsDir mask garbage).entries :=
        (kept.sound_unreturned.afterLoss stays).afterLoss keepsDir mask garbage
      refine kept.interrupted stays stays (Volume.always_settled rfl sound) ?_
      intro file found
      exact Volume.always_settled rfl (sound.apart file found).2

/-- A journal that is on the disk, or none, and anything under the temporary name. -/
def settledDisk (journal : Option StateJournal) (tmp : Option (List UInt8)) : Disk where
  present := true
  anchored := true
  durable
    | .journal => journal.map fun _ => 0
    | .tmp => tmp.map fun _ => 1
  pending := []
  contents file := if file = 0 then (journal.map StateJournal.bytes).getD [] else tmp.getD []
  synced _ := true
  fresh := 2

theorem Kept.opening (journal : Option StateJournal) (tmp : Option (List UInt8)) :
    Kept ({ disk := settledDisk journal tmp, settled := journal } : Session (writing fuel)) := by
  have sound : Sound (settledDisk journal tmp) journal [] (settledDisk journal tmp).entries := by
    refine ⟨?_, ?_, ?_⟩
    · intro absent
      exact Option.map_eq_none_iff.mp absent
    · intro file found
      obtain ⟨record, rfl, rfl⟩ := Option.map_eq_some_iff.mp found
      exact ⟨Nat.two_pos, rfl, record, rfl, Or.inl rfl⟩
    · intro file found
      obtain ⟨bytes, rfl, rfl⟩ := Option.map_eq_some_iff.mp found
      refine ⟨Nat.lt_succ_self 1, ?_⟩
      intro same
      obtain ⟨record, _, impossible⟩ := Option.map_eq_some_iff.mp same
      contradiction
  refine ⟨rfl, rfl, Volume.always_settled rfl sound, ?_, nofun, Nat.le_refl _⟩
  intro file found
  exact Volume.always_settled rfl (sound.apart file found).2

theorem Kept.read (kept : Kept session) : ∃ found, session.read = .ok found ∧
    (found = session.settled ∨ ∃ record ∈ session.unreturned, found = some record) := by
  have sound := kept.sound_unreturned.entries
  unfold Session.read Volume.read
  cases entry : session.disk.entries .journal with
  | none => exact ⟨none, rfl, Or.inl (sound.absent entry).symm⟩
  | some file =>
      obtain ⟨_, _, record, full, may⟩ := sound.filled file entry
      refine ⟨some record, ?_, ?_⟩
      · rw [Option.map_some, StateJournal.read_run, full, StateJournal.ofBytes_bytes]
        rfl
      · exact may.imp Eq.symm fun member => ⟨record, member, rfl⟩

/-- Calls of `write_atomic` in a directory that is on the disk, with any failures,
crashes and power failures: a reader finds the record of the last call that
returned `Ok` or of one that has not returned since; there is at most one of these
for each crash, and the one in progress; and right after a call that returns `Ok`
its own record is found. -/
theorem journal_durable {journal : Option StateJournal} {tmp : Option (List UInt8)}
    (reached : Reaches SessionStep synchronised
      { disk := settledDisk journal tmp, settled := journal } session) :
    (∃ found, session.read = .ok found ∧
      (found = session.settled ∨ ∃ record ∈ session.unreturned, found = some record)) ∧
    session.unreturned.length ≤ session.crashes + session.caller.toList.length ∧
    ∀ next, SessionStep session (.returns (.ok ())) next →
      (∃ writer, session.caller = some writer ∧ next.read = .ok (some writer.record)) ∧
        ∀ keepsDir mask garbage, Session.read { next with
          disk := next.disk.afterLoss keepsDir mask garbage } = next.read := by
  have kept : Kept session := by
    apply reached.invariant Kept (Kept.opening journal tmp)
    intro before label after held step admitted
    exact held.step step admitted
  refine ⟨kept.read, kept.bounded, ?_⟩
  intro next returned
  have after := kept.step returned rfl
  cases returned with
  | @succeeds writer busy done =>
      have reads {last : Session (writing fuel)} (held : Kept last)
          (settled : last.settled = some writer.record) (none : last.unreturned = []) :
          last.read = .ok (some writer.record) := by
        obtain ⟨found, read, may⟩ := held.read
        rcases may with same | ⟨record, member, _⟩
        · rw [read, same, settled]
        · rw [none] at member
          contradiction
      refine ⟨⟨writer, busy, reads after rfl rfl⟩, ?_⟩
      intro keepsDir mask garbage
      have lost := after.step (.powerFailure keepsDir mask garbage) rfl
      exact (reads lost rfl rfl).trans (reads after rfl rfl).symm

end

/-! ### Schedules -/

inductive SessionMove where
  | call (record : StateJournal)
  | perform (fate : Except IoError Nat)
  | conclude
  | powerFailure (keepsDir : Bool) (mask : List Bool) (garbage : Nat → List UInt8)

namespace Session

variable {program : StateJournal → FileProcess}

def turn (session : Session program) : SessionMove → Option (SessionLabel × Session program)
  | .call record =>
      match session.caller with
      | some _ => none
      | none =>
          some (.calls record, { session with
            caller := some ⟨record, .start _⟩, unreturned := record :: session.unreturned })
  | .perform fate =>
      match session.caller with
      | none => none
      | some writer =>
          match due : writer.thread.rest with
          | .done _ => none
          | .call op _ =>
              match serve session.disk fate op.op with
              | none => none
              | some (answer, next) =>
                  some (.performs ⟨op, answer⟩, { session with
                    disk := next, caller := some ⟨writer.record, writer.thread.answered due answer⟩ })
  | .conclude =>
      match session.caller with
      | none => none
      | some writer =>
          match writer.thread.rest with
          | .done (.ok (), ()) =>
              some (.returns (.ok ()), { disk := session.disk, settled := some writer.record })
          | .done (.error cause, ()) =>
              some (.returns (.error cause),
                { session with caller := none, unreturned := session.unreturned.tail })
          | .call _ _ => none
  | .powerFailure keepsDir mask garbage =>
      some (.powerFailure, { session with
        disk := session.disk.afterLoss keepsDir mask garbage, caller := none
        crashes := session.crashes + 1 })

theorem turn_step (session : Session program) (move : SessionMove) (label : SessionLabel)
    (next : Session program) (turned : session.turn move = some (label, next)) :
    SessionStep session label next := by
  cases move with
  | call record =>
      simp only [turn] at turned
      split at turned
      · contradiction
      · next free =>
          cases turned
          exact .calls record free
  | perform fate =>
      simp only [turn] at turned
      split at turned
      · contradiction
      · next writer busy =>
          split at turned
          · contradiction
          · next op resume due =>
              split at turned
              · contradiction
              · next answer disk served =>
                  cases turned
                  exact .performs busy due served
  | conclude =>
      simp only [turn] at turned
      split at turned
      · contradiction
      · next writer busy =>
          split at turned
          · next done =>
              cases turned
              exact .succeeds busy done
          · next cause done =>
              cases turned
              exact .fails busy done
          · contradiction
  | powerFailure keepsDir mask garbage =>
      cases turned
      exact .powerFailure keepsDir mask garbage

end Session

/-- The system calls of one `write_atomic`, each succeeding, in a write of one round. -/
def wholeWrite (record : StateJournal) : List SessionMove :=
  .call record :: List.replicate 6 (.perform (.ok record.bytes.length)) ++ [.conclude]

def sealingRecord : StateJournal := ⟨⟨1⟩, .sealing, 41, none, 1700000000000⟩

def committedRecord : StateJournal := ⟨⟨1⟩, .committed, 41, some 42, 1700000000500⟩

/-- One record is written; power fails when the next one has been renamed, and the
rename is lost. -/
def renameLost : List SessionMove :=
  wholeWrite sealingRecord ++
    .call committedRecord :: List.replicate 5 (.perform (.ok committedRecord.bytes.length)) ++
      [.powerFailure false [] fun _ => [0x7b]]

theorem journal_durable_renameLost :
    ∃ session : Session (writing 2),
      Reaches SessionStep synchronised { disk := settledDisk none (some [0x22]), settled := none }
        session ∧
      session.settled = some sealingRecord ∧ session.unreturned = [committedRecord] ∧
      ∃ found, session.read = .ok found ∧
        (found = some sealingRecord ∨ found = some committedRecord) := by
  have performs : (perform Session.turn synchronised renameLost
      ({ disk := settledDisk none (some [0x22]), settled := none } : Session (writing 2))).any
        (fun session => session.settled == some sealingRecord &&
          session.unreturned == [committedRecord]) = true := by decide +kernel
  obtain ⟨session, performed, facts⟩ := (Option.any_eq_true ..).mp performs
  simp only [Bool.and_eq_true, beq_iff_eq] at facts
  obtain ⟨settled, unreturned⟩ := facts
  have reached := perform_reaches Session.turn_step renameLost _ performed
  obtain ⟨⟨found, read, may⟩, _, _⟩ := journal_durable reached
  rw [settled, unreturned] at may
  simp only [List.mem_singleton, exists_eq_left] at may
  exact ⟨session, reached, settled, unreturned, found, read, may⟩

def missingDisk : Disk where
  present := false
  anchored := false
  durable _ := none
  pending := []
  contents _ := []
  synced _ := true
  fresh := 0

/-- `write_atomic` makes the directory and returns `Ok`; the directory's own entry was
never synced, and a power failure takes it away with the journal. -/
theorem journal_lost :
    ∃ session : Session (writing 2),
      Reaches SessionStep synchronised { disk := missingDisk, settled := none } session ∧
      session.settled = some sealingRecord ∧ session.unreturned = [] ∧ session.read = .ok none := by
  have performs : (perform Session.turn synchronised
      (wholeWrite sealingRecord ++ [.powerFailure false [] fun _ => []])
      ({ disk := missingDisk, settled := none } : Session (writing 2))).any (fun session =>
        session.settled == some sealingRecord && session.unreturned == [] &&
          session.disk.read .journal == none) = true := by decide +kernel
  obtain ⟨session, performed, facts⟩ := (Option.any_eq_true ..).mp performs
  simp only [Bool.and_eq_true, beq_iff_eq] at facts
  obtain ⟨⟨settled, unreturned⟩, gone⟩ := facts
  refine ⟨session, perform_reaches Session.turn_step _ _ performed, settled, unreturned, ?_⟩
  rw [Session.read, gone]
  rfl

end Handoff.Durable
