/-
Concurrent `bind_socket` calls on one path.

Any number of calls, in any number of processes, work in one directory, one
system call at a time, and every call of the file system may fail.  A call owns
its staging name from the moment it has drawn a counter value: nobody else
touches that name, so what it renames over the path is its own socket with the
mode that it set.
-/

import Handoff.Effects.System
import Handoff.Sock.Progress

namespace Handoff.Sock

open Effects

variable {seq : UInt32}

/-! ### The directory -/

/-- What a name stands for.  `origin` is the call whose listener it is; a file of
somebody else has none. -/
structure Node where
  origin : Option Nat
  mode : UInt32
  deriving DecidableEq, Repr

/-- The directory of the path, and the counters of the processes. -/
structure Folder where
  entries : OsPath → Option Node
  counters : UInt32 → UInt32

namespace Folder

def initial (modes : OsPath → Option UInt32) (counters : UInt32 → UInt32) : Folder :=
  ⟨fun name => (modes name).map (Node.mk none), counters⟩

def put (folder : Folder) (name : OsPath) (node : Option Node) : Folder :=
  { folder with entries := Function.update folder.entries name node }

@[simp]
theorem put_self (folder : Folder) (name : OsPath) (node : Option Node) :
    (folder.put name node).entries name = node := Function.update_self ..

@[simp]
theorem put_of_ne (folder : Folder) {name other : OsPath} (different : other ≠ name)
    (node : Option Node) : (folder.put name node).entries other = folder.entries other :=
  Function.update_of_ne different ..

/-- One system call of `id`, which process `pid` makes.  `fate` is its failure, or
else the mode that a new socket gets.  A failed call changes nothing; `bind` takes
a free name; `rename` replaces its target in one step, and does nothing when both
names are the same. -/
def serve (folder : Folder) (id : Nat) (pid : UInt32) (fate : Except IoError UInt32) :
    (op : SockOp) → Option (SockAns op × Folder)
  | .fetchAddSeq =>
      some (folder.counters pid,
        { folder with counters := Function.update folder.counters pid (folder.counters pid + 1) })
  | .dropListener => some ((), folder)
  | .setCloexec => some (.ok (), folder)
  | .createDirAll _ =>
      match fate with
      | .error cause => some (.error cause, folder)
      | .ok _ => some (.ok (), folder)
  | .removeFile file =>
      match fate, folder.entries (entryName file) with
      | .error cause, _ => some (.error cause, folder)
      | .ok _, some _ => some (.ok (), folder.put (entryName file) none)
      | .ok _, none => none
  | .bind file =>
      match fate, folder.entries (entryName file) with
      | .error cause, _ => some (.error cause, folder)
      | .ok mode, none => some (.ok (), folder.put (entryName file) (some ⟨some id, mode⟩))
      | .ok _, some _ => none
  | .setPermissions file mode =>
      match fate, folder.entries (entryName file) with
      | .error cause, _ => some (.error cause, folder)
      | .ok _, some node =>
          some (.ok (), folder.put (entryName file) (some { node with mode := mode }))
      | .ok _, none => none
  | .rename source target =>
      match fate, folder.entries (entryName source) with
      | .error cause, _ => some (.error cause, folder)
      | .ok _, some node =>
          some (.ok (), if entryName source = entryName target then folder
            else (folder.put (entryName source) none).put (entryName target) (some node))
      | .ok _, none => none

end Folder

/-! ### The calls -/

abbrev BindProcess : Type := Process Unit SockAns SockError Unit

/-- `bind_socket` on the one path, as the process with each pid runs it. -/
def binding (max : Nat) (path : OsPath) (pid : UInt32) : BindProcess :=
  bindSocket max pid path ()

structure Binder (program : UInt32 → BindProcess) where
  pid : UInt32
  thread : Thread (program pid)

variable {program : UInt32 → BindProcess}

namespace Binder

def progress (binder : Binder program) : Progress := progressOf binder.thread.past

def running (binder : Binder program) : Bool := binder.thread.rest.result?.isNone

end Binder

structure BindWorld (program : UInt32 → BindProcess) where
  folder : Folder
  binders : List (Binder program)

inductive BindLabel where
  | calls (pid : UInt32)
  | performs (id : Nat) (event : SockEvent)

def BindWorld.opening (folder : Folder) : BindWorld program := ⟨folder, []⟩

inductive BindStep : BindWorld program → BindLabel → BindWorld program → Prop where
  | calls {world : BindWorld program} (pid : UInt32) :
      BindStep world (.calls pid) { world with binders := world.binders ++ [⟨pid, .start _⟩] }
  | performs {world : BindWorld program} {id : Nat} {binder : Binder program}
      {op : Call Unit SockOp} {resume : SockAns op.op → BindProcess}
      {fate : Except IoError UInt32} {answer : SockAns op.op} {next : Folder}
      (present : world.binders[id]? = some binder) (due : binder.thread.rest = .call op resume)
      (served : world.folder.serve id binder.pid fate op.op = some (answer, next)) :
      BindStep world (.performs id ⟨op, answer⟩)
        ⟨next, world.binders.set id ⟨binder.pid, binder.thread.answered due answer⟩⟩

/-- The counter value that a call draws is not in use by another call of the same
process: the counter has 32 bits and wraps around. -/
def spaced (world : BindWorld program) (label : BindLabel) (_ : BindWorld program) : Bool :=
  match label with
  | .performs id ⟨⟨_, .fetchAddSeq⟩, seq⟩ =>
      world.binders[id]?.all fun mine => world.binders.all fun binder =>
        !(binder.running && binder.pid == mine.pid && binder.progress.inUse == some seq)
  | _ => true

def publishes : BindLabel → Option Nat
  | .performs id ⟨⟨_, .rename ..⟩, .ok _⟩ => some id
  | _ => none

/-! ### What one system call does -/

variable {path : OsPath}

/-- The effect of one system call of a `bind_socket` call on the directory and on
its own progress. -/
inductive Change (path : OsPath) (id : Nat) (pid : UInt32) (progress : Progress) (folder : Folder)
    (event : SockEvent) (next : Folder) : Prop where
  | quiet (silent : publishes (.performs id event) = none) (same : next.entries = folder.entries)
      (stays : progress.after event = progress)
  | draws (seq : UInt32) (silent : publishes (.performs id event) = none)
      (same : next.entries = folder.entries) (event_eq : event = ⟨⟨(), .fetchAddSeq⟩, seq⟩)
      (early : progress = .early)
  | removes (seq : UInt32) (silent : publishes (.performs id event) = none)
      (changed : next = folder.put (stagingName pid seq) none) (inUse : progress.inUse = some seq)
      (gone : (progress.after event).staged = none)
      (kept : ∀ later, (progress.after event).inUse = some later → later = seq)
  | binds (seq mode : UInt32) (silent : publishes (.performs id event) = none)
      (changed : next = folder.put (stagingName pid seq) (some ⟨some id, mode⟩))
      (drawn : progress = .drawn seq) (bound : progress.after event = .bound seq)
  | restricts (seq : UInt32) (node : Node) (silent : publishes (.performs id event) = none)
      (stands : folder.entries (stagingName pid seq) = some node)
      (changed : next = folder.put (stagingName pid seq) (some { node with mode := socketMode }))
      (bound : progress = .bound seq) (restricted : progress.after event = .restricted seq)
  | renames (seq : UInt32) (node : Node) (loud : publishes (.performs id event) = some id)
      (stands : folder.entries (stagingName pid seq) = some node)
      (changed : next = (folder.put (stagingName pid seq) none).put (entryName path) (some node))
      (restricted : progress = .restricted seq) (published : progress.after event = .published seq)

private theorem inUse_of_staged {progress : Progress} (staged : progress.staged = some seq) :
    progress.inUse = some seq := by
  cases progress <;> first | contradiction | exact staged

section

variable {id : Nat} {pid : UInt32} {past : SockPast} {folder next : Folder}
  {fate : Except IoError UInt32} {answer : Except IoError Unit}

private theorem change_removeFile {file : OsPath}
    (duty : ProgressDuty pid path past ⟨(), .removeFile file⟩)
    (served : folder.serve id pid fate (.removeFile file) = some (answer, next)) :
    Change path id pid (progressOf past) folder ⟨⟨(), .removeFile file⟩, answer⟩ next := by
  obtain ⟨seq, rfl, stage⟩ := duty
  simp only [Folder.serve, entryName_stagingPath] at served
  split at served
  · cases served
    refine .quiet rfl rfl ?_
    cases progressOf past <;> rfl
  · cases served
    rcases stage with drawn | staged
    · refine .removes seq rfl rfl ?_ ?_ ?_
      · rw [drawn]
        rfl
      · rw [drawn]
        rfl
      · intro later inUse
        rw [drawn] at inUse
        exact (Option.some.inj inUse).symm
    · refine .removes seq rfl rfl (inUse_of_staged staged) ?_ ?_
      · cases stage : progressOf past <;> rw [stage] at staged <;> first | contradiction | rfl
      · intro later inUse
        cases stage : progressOf past <;> rw [stage] at staged inUse <;> contradiction
  · contradiction

private theorem change_bind {file : OsPath} (duty : ProgressDuty pid path past ⟨(), .bind file⟩)
    (served : folder.serve id pid fate (.bind file) = some (answer, next)) :
    Change path id pid (progressOf past) folder ⟨⟨(), .bind file⟩, answer⟩ next := by
  obtain ⟨seq, rfl, drawn⟩ := duty
  simp only [Folder.serve, entryName_stagingPath] at served
  split at served
  · cases served
    exact .quiet rfl rfl (by rw [drawn]; rfl)
  · cases served
    exact .binds seq _ rfl rfl drawn (by rw [drawn]; rfl)
  · contradiction

private theorem change_setPermissions {file : OsPath} {mode : UInt32}
    (duty : ProgressDuty pid path past ⟨(), .setPermissions file mode⟩)
    (served : folder.serve id pid fate (.setPermissions file mode) = some (answer, next)) :
    Change path id pid (progressOf past) folder ⟨⟨(), .setPermissions file mode⟩, answer⟩ next := by
  obtain ⟨seq, rfl, rfl, bound⟩ := duty
  simp only [Folder.serve, entryName_stagingPath] at served
  split at served
  · cases served
    exact .quiet rfl rfl (by rw [bound]; rfl)
  · next node stands =>
      cases served
      exact .restricts seq node rfl stands rfl bound (by rw [bound]; rfl)
  · contradiction

private theorem change_rename (plain : ∀ seq, entryName path ≠ stagingName pid seq)
    {source target : OsPath} (duty : ProgressDuty pid path past ⟨(), .rename source target⟩)
    (served : folder.serve id pid fate (.rename source target) = some (answer, next)) :
    Change path id pid (progressOf past) folder ⟨⟨(), .rename source target⟩, answer⟩ next := by
  obtain ⟨seq, rfl, rfl, restricted⟩ := duty
  simp only [Folder.serve, entryName_stagingPath, if_neg (Ne.symm (plain seq))] at served
  split at served
  · cases served
    exact .quiet rfl rfl (by rw [restricted]; rfl)
  · next node stands =>
      cases served
      exact .renames seq node rfl stands rfl restricted (by rw [restricted]; rfl)
  · contradiction

private theorem change_of_served (plain : ∀ seq, entryName path ≠ stagingName pid seq)
    {op : Call Unit SockOp} {answer : SockAns op.op} (duty : ProgressDuty pid path past op)
    (served : folder.serve id pid fate op.op = some (answer, next)) :
    Change path id pid (progressOf past) folder ⟨op, answer⟩ next := by
  obtain ⟨store, op⟩ := op
  cases op with
  | createDirAll dir =>
      simp only [Folder.serve] at served
      split at served <;> cases served <;> refine .quiet rfl rfl ?_ <;> cases progressOf past <;> rfl
  | fetchAddSeq =>
      cases served
      exact .draws _ rfl rfl rfl duty
  | removeFile file => exact change_removeFile duty served
  | bind file => exact change_bind duty served
  | setPermissions file mode => exact change_setPermissions duty served
  | rename source target => exact change_rename plain duty served
  | setCloexec =>
      cases served
      exact .quiet rfl rfl (by cases progressOf past <;> rfl)
  | dropListener =>
      cases served
      exact .quiet rfl rfl (by cases progressOf past <;> rfl)

end

/-! ### Who owns a name -/

/-- Where a node of a call may stand: under its staging name, or under the path
with the mode of a socket. -/
def Binder.Places (path : OsPath) (binder : Binder program) (name : OsPath) (node : Node) : Prop :=
  (∃ seq, binder.progress.staged = some seq ∧ name = stagingName binder.pid seq) ∨
    (∃ seq, binder.progress = .published seq) ∧ name = entryName path ∧ node.mode = socketMode

/-- The staging file of a call under way is there, and is its own. -/
def Binder.Holds (folder : Folder) (id : Nat) (binder : Binder program) : Prop :=
  binder.running = true → ∀ seq, binder.progress.staged = some seq →
    ∃ mode, folder.entries (stagingName binder.pid seq) = some ⟨some id, mode⟩ ∧
      (binder.progress = .restricted seq → mode = socketMode)

structure Tidy (path : OsPath) (world : BindWorld program) : Prop where
  holds : ∀ (id : Nat) (binder : Binder program), world.binders[id]? = some binder →
    binder.Holds world.folder id
  owned : ∀ (name : OsPath) (node : Node) (id : Nat), world.folder.entries name = some node →
    node.origin = some id → ∃ binder, world.binders[id]? = some binder ∧ binder.Places path name node
  apart : ∀ (id : Nat) (binder : Binder program) (other : Nat) (rival : Binder program) (seq : UInt32),
    id ≠ other → world.binders[id]? = some binder → world.binders[other]? = some rival →
    binder.running = true → rival.running = true → binder.pid = rival.pid →
    binder.progress.inUse = some seq → rival.progress.inUse ≠ some seq

namespace Tidy

variable {world : BindWorld program} {id : Nat} {binder : Binder program}

theorem initial (modes : OsPath → Option UInt32) (counters : UInt32 → UInt32) :
    Tidy path (BindWorld.opening (Folder.initial modes counters) : BindWorld program) where
  holds := by
    intro id binder found
    contradiction
  owned := by
    intro name node id found origin
    obtain ⟨mode, _, rfl⟩ := Option.map_eq_some_iff.mp found
    contradiction
  apart := by
    intro id binder other rival seq _ found
    contradiction

theorem calls (tidy : Tidy path world) (pid : UInt32) :
    Tidy path { world with binders := world.binders ++ [⟨pid, .start _⟩] } := by
  have cases_of {id : Nat} {binder : Binder program}
      (found : (world.binders ++ [⟨pid, .start _⟩])[id]? = some binder) :
      world.binders[id]? = some binder ∨ binder.progress = .early := by
    rw [List.getElem?_append] at found
    split at found
    · exact Or.inl found
    · obtain ⟨_, rfl⟩ := List.getElem?_eq_some_iff.mp found
      right
      simp only [List.getElem_singleton]
      rfl
  refine ⟨?_, ?_, ?_⟩
  · intro id binder found
    rcases cases_of found with old | early
    · exact tidy.holds id binder old
    · intro _ seq staged
      rw [early] at staged
      contradiction
  · intro name node id found origin
    obtain ⟨binder, present, places⟩ := tidy.owned name node id found origin
    exact ⟨binder, by rw [List.getElem?_append_left (List.getElem?_eq_some_iff.mp present).1, present],
      places⟩
  · intro id binder other rival seq different first second running up same drawn
    rcases cases_of first with old | early
    · rcases cases_of second with older | early
      · exact tidy.apart id binder other rival seq different old older running up same drawn
      · rw [early]
        nofun
    · rw [early] at drawn
      contradiction

variable {after : Binder program}

theorem advance (tidy : Tidy path world) (present : world.binders[id]? = some binder)
    (running : binder.running = true) (samePid : after.pid = binder.pid) {next : Folder}
    (touched : OsPath → Prop)
    (elsewhere : ∀ name, ¬ touched name → next.entries name = world.folder.entries name)
    (others : ∀ (other : Nat) (rival : Binder program) (drawn : UInt32), other ≠ id →
      world.binders[other]? = some rival → rival.running = true →
      rival.progress.staged = some drawn → ¬ touched (stagingName rival.pid drawn))
    (mine : after.Holds next id)
    (fresh : ∀ name node owner, touched name → next.entries name = some node →
      node.origin = some owner → owner = id ∧ after.Places path name node)
    (kept : ∀ name node, ¬ touched name → binder.Places path name node → after.Places path name node)
    (draws : ∀ seq, after.progress.inUse = some seq → binder.progress.inUse = some seq ∨
      ∀ (other : Nat) (rival : Binder program), other ≠ id → world.binders[other]? = some rival →
        rival.running = true → rival.pid = binder.pid → rival.progress.inUse ≠ some seq) :
    Tidy path ⟨next, world.binders.set id after⟩ := by
  have bound := (List.getElem?_eq_some_iff.mp present).1
  have lookup {other : Nat} {rival : Binder program}
      (found : (world.binders.set id after)[other]? = some rival) :
      other = id ∧ rival = after ∨ other ≠ id ∧ world.binders[other]? = some rival := by
    by_cases this : other = id
    · subst other
      rw [List.getElem?_set_self bound] at found
      exact Or.inl ⟨rfl, (Option.some.inj found).symm⟩
    · rw [List.getElem?_set_ne (Ne.symm this)] at found
      exact Or.inr ⟨this, found⟩
  refine ⟨?_, ?_, ?_⟩
  · intro other rival found
    rcases lookup found with ⟨rfl, rfl⟩ | ⟨different, old⟩
    · exact mine
    · intro up seq staged
      obtain ⟨mode, stands, restricted⟩ := tidy.holds other rival old up seq staged
      refine ⟨mode, ?_, restricted⟩
      exact (elsewhere _ (others other rival seq different old up staged)).trans stands
  · intro name node owner stands origin
    by_cases here : touched name
    · obtain ⟨rfl, places⟩ := fresh name node owner here stands origin
      exact ⟨after, List.getElem?_set_self bound, places⟩
    · rw [elsewhere name here] at stands
      obtain ⟨holder, found, places⟩ := tidy.owned name node owner stands origin
      by_cases this : owner = id
      · subst owner
        obtain rfl := Option.some.inj (present.symm.trans found)
        exact ⟨after, List.getElem?_set_self bound, kept name node here places⟩
      · exact ⟨holder, (List.getElem?_set_ne (Ne.symm this)).trans found, places⟩
  · -- a pair of calls with the one that advances, in either order, or without it
    have clear (other : Nat) (rival : Binder program) (seq : UInt32) (different : other ≠ id)
        (found : world.binders[other]? = some rival) (up : rival.running = true)
        (pids : rival.pid = binder.pid) (mineIs : after.progress.inUse = some seq) :
        rival.progress.inUse ≠ some seq := by
      rcases draws seq mineIs with before | free
      · exact tidy.apart id binder other rival seq (Ne.symm different) present found running up
          pids.symm before
      · exact free other rival different found up pids
    intro first one second two seq different found also up high pids inUse
    rcases lookup found with ⟨rfl, rfl⟩ | ⟨away, old⟩
    · rcases lookup also with ⟨rfl, rfl⟩ | ⟨apart, older⟩
      · exact absurd rfl different
      · exact clear second two seq apart older high (pids.symm.trans samePid) inUse
    · rcases lookup also with ⟨rfl, rfl⟩ | ⟨apart, older⟩
      · intro taken
        exact clear first one seq away old up (pids.trans samePid) taken inUse
      · exact tidy.apart first one second two seq different old older up high pids inUse

theorem away (tidy : Tidy path world) (present : world.binders[id]? = some binder)
    (running : binder.running = true) (inUse : binder.progress.inUse = some seq) (other : Nat)
    (rival : Binder program) (drawn : UInt32) (different : other ≠ id)
    (found : world.binders[other]? = some rival) (up : rival.running = true)
    (staged : rival.progress.staged = some drawn) :
    stagingName rival.pid drawn ≠ stagingName binder.pid seq := by
  intro same
  obtain ⟨pids, seqs⟩ := stagingName_inj same
  have taken := inUse_of_staged staged
  rw [seqs] at taken
  exact tidy.apart id binder other rival seq (Ne.symm different) present found running up pids.symm
    inUse taken

private theorem rewrites (tidy : Tidy path world) (present : world.binders[id]? = some binder)
    (running : binder.running = true) (samePid : after.pid = binder.pid)
    (inUse : binder.progress.inUse = some seq) (node : Option Node)
    (own : ∀ file, node = some file → file.origin = some id ∧ after.progress.staged = some seq)
    (mine : after.progress.staged ≠ none → ∃ mode, node = some ⟨some id, mode⟩ ∧
      (after.progress = .restricted seq → mode = socketMode))
    (kept : ∀ later, after.progress.inUse = some later → later = seq) :
    Tidy path ⟨world.folder.put (stagingName binder.pid seq) node, world.binders.set id after⟩ := by
  refine tidy.advance present running samePid (fun name => name = stagingName binder.pid seq)
    (fun name other => Folder.put_of_ne _ other _) (tidy.away present running inUse) ?_ ?_ ?_ ?_
  · intro _ later staged
    obtain rfl := kept later (inUse_of_staged staged)
    obtain ⟨mode, stands, restricted⟩ := mine (by rw [staged]; nofun)
    exact ⟨mode, by rw [samePid, Folder.put_self, stands], restricted⟩
  · intro name file owner here stands origin
    rw [here, Folder.put_self] at stands
    obtain ⟨mineIs, staged⟩ := own file stands
    exact ⟨Option.some.inj (origin.symm.trans mineIs), Or.inl ⟨seq, staged, by rw [here, samePid]⟩⟩
  · intro name file elsewhere places
    rcases places with ⟨later, staged, named⟩ | ⟨⟨later, published⟩, _⟩
    · rw [inUse_of_staged staged] at inUse
      rw [named, Option.some.inj inUse] at elsewhere
      exact absurd rfl elsewhere
    · rw [published] at inUse
      contradiction
  · intro later now
    rw [kept later now]
    exact Or.inl inUse

theorem renames (plain : ∀ pid seq, entryName path ≠ stagingName pid seq) (tidy : Tidy path world)
    (present : world.binders[id]? = some binder) (running : binder.running = true)
    (samePid : after.pid = binder.pid) (restricted : binder.progress = .restricted seq)
    (published : after.progress = .published seq) :
    Tidy path ⟨(world.folder.put (stagingName binder.pid seq) none).put (entryName path)
      (some ⟨some id, socketMode⟩), world.binders.set id after⟩ := by
  have inUse : binder.progress.inUse = some seq := by rw [restricted]; rfl
  refine tidy.advance present running samePid
    (fun name => name = stagingName binder.pid seq ∨ name = entryName path) ?_ ?_ ?_ ?_ ?_ ?_
  · intro name other
    rw [Folder.put_of_ne _ (fun target => other (Or.inr target)),
      Folder.put_of_ne _ (fun staging => other (Or.inl staging))]
  · intro other rival drawn different found up staged touched
    rcases touched with same | target
    · exact tidy.away present running inUse other rival drawn different found up staged same
    · exact plain rival.pid drawn target.symm
  · intro _ later staged
    rw [published] at staged
    contradiction
  · intro name file owner touched stands origin
    by_cases target : name = entryName path
    · rw [target, Folder.put_self] at stands
      obtain rfl := Option.some.inj stands
      exact ⟨(Option.some.inj origin).symm, Or.inr ⟨⟨seq, published⟩, target, rfl⟩⟩
    · have staging := touched.resolve_right target
      rw [Folder.put_of_ne _ target, staging, Folder.put_self] at stands
      contradiction
  · intro name file elsewhere places
    rcases places with ⟨later, staged, named⟩ | ⟨⟨later, already⟩, _⟩
    · rw [inUse_of_staged staged] at inUse
      rw [named, Option.some.inj inUse] at elsewhere
      exact absurd (Or.inl rfl) elsewhere
    · rw [restricted] at already
      contradiction
  · intro later now
    rw [published] at now
    contradiction

theorem change (plain : ∀ pid seq, entryName path ≠ stagingName pid seq) (tidy : Tidy path world)
    (present : world.binders[id]? = some binder) (running : binder.running = true)
    (samePid : after.pid = binder.pid) {event : SockEvent}
    (progress : after.progress = binder.progress.after event) {next : Folder}
    (changed : Change path id binder.pid binder.progress world.folder event next)
    (free : ∀ seq, event = ⟨⟨(), .fetchAddSeq⟩, seq⟩ →
      ∀ (other : Nat) (rival : Binder program), other ≠ id → world.binders[other]? = some rival →
        rival.running = true → rival.pid = binder.pid → rival.progress.inUse ≠ some seq) :
    Tidy path ⟨next, world.binders.set id after⟩ := by
  cases changed with
  | quiet silent same stays =>
      have still : after.progress = binder.progress := progress.trans stays
      refine tidy.advance present running samePid (fun _ => False) (fun name _ => by rw [same])
        (fun _ _ _ _ _ _ _ => not_false) ?_ (fun _ _ _ impossible => impossible.elim) ?_ ?_
      · intro _ seq staged
        rw [still] at staged ⊢
        rw [samePid, same]
        exact tidy.holds id binder present running seq staged
      · intro name node _ places
        unfold Binder.Places at places ⊢
        rw [still, samePid]
        exact places
      · intro seq inUse
        exact Or.inl (still ▸ inUse)
  | draws seq silent same event_eq early =>
      have drawn : after.progress = .drawn seq := by
        rw [progress, early, event_eq]
        rfl
      refine tidy.advance present running samePid (fun _ => False) (fun name _ => by rw [same])
        (fun _ _ _ _ _ _ _ => not_false) ?_ (fun _ _ _ impossible => impossible.elim) ?_ ?_
      · intro _ later staged
        rw [drawn] at staged
        contradiction
      · intro name node _ places
        rcases places with ⟨later, staged, _⟩ | ⟨⟨later, published⟩, _⟩
        · rw [early] at staged
          contradiction
        · rw [early] at published
          contradiction
      · intro later inUse
        rw [drawn] at inUse
        obtain rfl := Option.some.inj inUse
        exact Or.inr (free seq event_eq)
  | removes seq silent changed inUse gone kept =>
      rw [changed]
      refine tidy.rewrites present running samePid inUse none nofun ?_ (by rw [progress]; exact kept)
      intro staged
      rw [progress, gone] at staged
      contradiction
  | binds seq mode silent changed drawn bound =>
      have nowBound : after.progress = .bound seq := progress.trans bound
      rw [changed]
      refine tidy.rewrites present running samePid (by rw [drawn]; rfl) _ ?_ ?_ ?_
      · intro file same
        obtain rfl := Option.some.inj same
        exact ⟨rfl, by rw [nowBound]; rfl⟩
      · intro _
        exact ⟨mode, rfl, by rw [nowBound]; nofun⟩
      · intro later now
        rw [nowBound] at now
        exact (Option.some.inj now).symm
  | restricts seq node silent stands changed bound restricted =>
      have nowRestricted : after.progress = .restricted seq := progress.trans restricted
      obtain ⟨mode, own, _⟩ := tidy.holds id binder present running seq (by rw [bound]; rfl)
      obtain rfl := Option.some.inj (own.symm.trans stands)
      rw [changed]
      refine tidy.rewrites present running samePid (by rw [bound]; rfl) _ ?_ ?_ ?_
      · intro file same
        obtain rfl := Option.some.inj same
        exact ⟨rfl, by rw [nowRestricted]; rfl⟩
      · intro _
        exact ⟨socketMode, rfl, fun _ => rfl⟩
      · intro later now
        rw [nowRestricted] at now
        exact (Option.some.inj now).symm
  | renames seq node loud stands changed restricted published =>
      obtain ⟨mode, own, fixed⟩ := tidy.holds id binder present running seq (by rw [restricted]; rfl)
      obtain rfl := Option.some.inj (own.symm.trans stands)
      rw [changed, fixed restricted]
      exact tidy.renames plain present running samePid restricted (progress.trans published)

end Tidy

/-! ### Whole runs -/

def BindWorld.target (world : BindWorld program) (path : OsPath) : Option Node :=
  world.folder.entries (entryName path)

section

variable {max : Nat} {world next : BindWorld (binding max path)} {label : BindLabel}

private theorem binder_duty (binder : Binder (binding max path)) {op : Call Unit SockOp}
    {resume : SockAns op.op → BindProcess} (due : binder.thread.rest = .call op resume) :
    ProgressDuty binder.pid path binder.thread.past op :=
  binder.thread.asked (bindSocket_progress max binder.pid path) due

private theorem running_of_due {binder : Binder program} {op : Call Unit SockOp}
    {resume : SockAns op.op → BindProcess} (due : binder.thread.rest = .call op resume) :
    binder.running = true := by
  rw [Binder.running, due]
  rfl

theorem Tidy.step (plain : ∀ pid seq, entryName path ≠ stagingName pid seq)
    (tidy : Tidy path world) (step : BindStep world label next)
    (admitted : spaced world label next = true) : Tidy path next := by
  cases step with
  | calls pid => exact tidy.calls pid
  | @performs id binder op resume fate answer folder present due served =>
      have changed := change_of_served (plain binder.pid) (binder_duty binder due) served
      have samePid : (⟨binder.pid, binder.thread.answered due answer⟩ : Binder _).pid = binder.pid :=
        rfl
      refine tidy.change plain present (running_of_due due) samePid (progressOf_append _ _) changed ?_
      intro seq drawn other rival _ found up pids inUse
      rw [drawn] at admitted
      simp only [spaced, present, Option.all_some, List.all_eq_true] at admitted
      have clear := admitted rival (List.mem_of_getElem? found)
      rw [up, pids, inUse] at clear
      simp at clear

theorem Tidy.reaches (plain : ∀ pid seq, entryName path ≠ stagingName pid seq)
    {modes : OsPath → Option UInt32} {counters : UInt32 → UInt32}
    (reached : Reaches BindStep spaced (.opening (.initial modes counters)) world) :
    Tidy path world := by
  apply reached.invariant (Tidy path) (Tidy.initial modes counters)
  intro before label after tidy step admitted
  exact tidy.step plain step admitted

/-- A step changes what the path resolves to only by the rename of a call, and
then to the socket of that call. -/
private theorem Tidy.target_step (plain : ∀ pid seq, entryName path ≠ stagingName pid seq)
    (tidy : Tidy path world) (step : BindStep world label next) :
    match publishes label with
    | none => next.target path = world.target path
    | some id => next.target path = some ⟨some id, socketMode⟩ := by
  cases step with
  | calls pid => rfl
  | @performs id binder op resume fate answer folder present due served =>
      have changed := change_of_served (plain binder.pid) (binder_duty binder due) served
      cases changed with
      | quiet silent same | draws _ silent same =>
          rw [silent]
          exact congrFun same _
      | removes seq silent changed | binds seq _ silent changed | restricts seq _ silent _ changed =>
          rw [silent, changed]
          exact Folder.put_of_ne _ (plain binder.pid seq) _
      | renames seq node loud stands changed restricted =>
          obtain ⟨mode, own, fixed⟩ := tidy.holds id binder present (running_of_due due) seq
            (by rw [Binder.progress, restricted]; rfl)
          rw [loud, changed, ← fixed restricted, Option.some.inj (stands.symm.trans own)]
          exact Folder.put_self ..

def renamed (past : SockPast) : Bool :=
  past.any fun event => (publishes (.performs 0 event)).isSome

private theorem renamed_of_published {past : SockPast}
    (published : progressOf past = .published seq) : renamed past = true := by
  induction past using List.reverseRecOn with
  | nil => contradiction
  | append_singleton past event ih =>
      rw [progressOf_append] at published
      simp only [renamed, List.any_append, Bool.or_eq_true]
      by_cases before : progressOf past = .published seq
      · exact Or.inl (ih before)
      · -- only a rename leads to `published`
        right
        unfold Progress.after at published
        split at published <;> first | contradiction | rfl

/-- Concurrent calls of `bind_socket` on one path: each rename puts the caller's own
socket with mode 0600 under the path and no other step changes it; so the path is
never missing once it exists; and a call that fails before its rename leaves no
file behind unless the removal at its end fails. -/
theorem bindSocket_publication (plain : ∀ pid seq, entryName path ≠ stagingName pid seq)
    {modes : OsPath → Option UInt32} {counters : UInt32 → UInt32}
    (reached : Reaches BindStep spaced (.opening (.initial modes counters)) world) :
    (∀ label next, BindStep world label next →
      match publishes label with
      | none => next.target path = world.target path
      | some id => next.target path = some ⟨some id, socketMode⟩) ∧
    (∀ later, Reaches BindStep spaced world later → (world.target path).isSome = true →
      (later.target path).isSome = true) ∧
    (∀ node id, world.target path = some node → node.origin = some id → node.mode = socketMode) ∧
    ∀ (id : Nat) (binder : Binder (binding max path)) (outcome : Except SockError Unit),
      world.binders[id]? = some binder → binder.thread.rest = .done (outcome, ()) →
      (outcome = .ok () → renamed binder.thread.past = true) ∧
        (renamed binder.thread.past = false → cleanupFailed binder.thread.past = false →
          ∀ name node, world.folder.entries name = some node → node.origin ≠ some id) := by
  have tidy := Tidy.reaches plain reached
  refine ⟨fun label next step => tidy.target_step plain step, ?_, ?_, ?_⟩
  · intro later continues present
    have kept : Tidy path later ∧ (later.target path).isSome = true := by
      apply continues.invariant (fun state => Tidy path state ∧ (state.target path).isSome = true)
        ⟨tidy, present⟩
      intro before label after holds step admitted
      refine ⟨holds.1.step plain step admitted, ?_⟩
      have target := holds.1.target_step plain step
      split at target
      · rw [target]
        exact holds.2
      · rw [target]
        rfl
    exact kept.2
  · intro node id stands origin
    obtain ⟨binder, _, places⟩ := tidy.owned _ node id stands origin
    rcases places with ⟨seq, _, named⟩ | ⟨_, _, mode⟩
    · exact absurd named (plain binder.pid seq)
    · exact mode
  · intro id binder outcome found done
    obtain ⟨succeeded, unstaged⟩ := binder.thread.ended (bindSocket_progress max binder.pid path) done
    refine ⟨?_, ?_⟩
    · intro ok
      obtain ⟨seq, published⟩ := succeeded ok
      exact renamed_of_published published
    · intro early cleaned name node stands origin
      obtain ⟨owner, present, places⟩ := tidy.owned name node id stands origin
      obtain rfl := Option.some.inj (found.symm.trans present)
      rcases places with ⟨seq, staged, _⟩ | ⟨⟨seq, published⟩, _⟩
      · rcases unstaged with none | failed
        · rw [Binder.progress, none] at staged
          contradiction
        · rw [failed] at cleaned
          contradiction
      · rw [renamed_of_published published] at early
        contradiction

end

/-! ### Schedules -/

inductive BindMove where
  | call (pid : UInt32)
  | perform (id : Nat) (fate : Except IoError UInt32)

namespace BindWorld

def turn (world : BindWorld program) : BindMove → Option (BindLabel × BindWorld program)
  | .call pid =>
      some (.calls pid, { world with binders := world.binders ++ [⟨pid, .start _⟩] })
  | .perform id fate =>
      match world.binders[id]? with
      | none => none
      | some binder =>
          match due : binder.thread.rest with
          | .done _ => none
          | .call op _ =>
              match world.folder.serve id binder.pid fate op.op with
              | none => none
              | some (answer, next) =>
                  some (.performs id ⟨op, answer⟩,
                    ⟨next, world.binders.set id ⟨binder.pid, binder.thread.answered due answer⟩⟩)

theorem turn_step (world : BindWorld program) (move : BindMove) (label : BindLabel)
    (next : BindWorld program) (turned : world.turn move = some (label, next)) :
    BindStep world label next := by
  cases move with
  | call pid =>
      cases turned
      exact .calls pid
  | perform id fate =>
      simp only [turn] at turned
      split at turned
      · contradiction
      · next binder present =>
          split at turned
          · contradiction
          · next op resume due =>
              split at turned
              · contradiction
              · next answer folder served =>
                  cases turned
                  exact .performs present due served

end BindWorld

def refused : IoError := .ofKind .other "refused"

/-- Two calls of process 7 and one of process 8, whose `set_permissions` fails, on a
path that a file with other modes has. -/
def rivals : List BindMove :=
  [.call 7, .call 7, .call 8,
    .perform 0 (.ok 0), .perform 1 (.ok 0), .perform 2 (.ok 0),
    .perform 0 (.ok 0), .perform 1 (.ok 0), .perform 2 (.ok 0),
    .perform 0 (.error refused), .perform 1 (.error refused), .perform 2 (.error refused),
    .perform 0 (.ok 0o755), .perform 1 (.ok 0o755), .perform 2 (.ok 0o755),
    .perform 0 (.ok 0), .perform 1 (.ok 0), .perform 2 (.error refused),
    .perform 1 (.ok 0), .perform 0 (.ok 0), .perform 2 (.ok 0),
    .perform 2 (.ok 0), .perform 1 (.ok 0), .perform 0 (.ok 0)]

def ctlPath : OsPath := ascii "/run/ctl.sock".toList

def ctlFolder (path : OsPath) : Folder :=
  .initial (fun name => if name = entryName path then some 0o644 else none) fun _ => 0

private theorem stagingName_head (pid seq : UInt32) : (stagingName pid seq).head? = some dot := by
  simp [stagingName, ascii]
  decide

private theorem ctlPath_plain (pid seq : UInt32) : entryName ctlPath ≠ stagingName pid seq := by
  intro same
  have heads := congrArg List.head? same
  rw [stagingName_head] at heads
  exact absurd heads (by decide +kernel)

theorem bindSocket_publication_rivals :
    ∃ world : BindWorld (binding 107 ctlPath),
      Reaches BindStep spaced (.opening (ctlFolder ctlPath)) world ∧
      world.target ctlPath = some ⟨some 0, socketMode⟩ ∧
      (∀ later, Reaches BindStep spaced world later → (later.target ctlPath).isSome = true) ∧
      ∀ name node, world.folder.entries name = some node → node.origin ≠ some 2 := by
  have performs : (perform BindWorld.turn spaced rivals
      (.opening (ctlFolder ctlPath) : BindWorld (binding 107 ctlPath))).any (fun world =>
        world.target ctlPath == some ⟨some 0, socketMode⟩ &&
        world.binders[2]?.any fun binder => !binder.running && !renamed binder.thread.past &&
          !cleanupFailed binder.thread.past) = true := by decide +kernel
  obtain ⟨world, performed, facts⟩ := (Option.any_eq_true ..).mp performs
  simp only [Bool.and_eq_true, beq_iff_eq, Option.any_eq_true, Bool.not_eq_true'] at facts
  obtain ⟨target, binder, found, ⟨stopped, unrenamed⟩, cleaned⟩ := facts
  obtain ⟨result, ended⟩ := Option.isNone_eq_false_iff.mp stopped |> Option.isSome_iff_exists.mp
  have reached := perform_reaches BindWorld.turn_step rivals _ performed
  obtain ⟨_, present, _, returned⟩ := bindSocket_publication ctlPath_plain reached
  refine ⟨world, reached, target, ?_, ?_⟩
  · intro later continues
    exact present later continues (by rw [target]; rfl)
  · exact (returned 2 binder result.1 found (Program.eq_done_of_result? ended)).2 unrenamed cleaned

/-- A path that has the form of a staging name: the first call of process 7 draws
this very name and removes the path as a leftover. -/
def hiddenPath : OsPath := ascii "/run/.ho-7-0.tmp".toList

theorem bindSocket_missing :
    ∃ world next : BindWorld (binding 107 hiddenPath), ∃ label,
      Reaches BindStep spaced (.opening (ctlFolder hiddenPath)) world ∧
      BindStep world label next ∧ spaced world label next = true ∧
      (world.target hiddenPath).isSome = true ∧ next.target hiddenPath = none := by
  have performs : (perform BindWorld.turn spaced [.call 7, .perform 0 (.ok 0), .perform 0 (.ok 0)]
      (.opening (ctlFolder hiddenPath) : BindWorld (binding 107 hiddenPath))).any (fun world =>
        (world.target hiddenPath).isSome &&
        (world.turn (.perform 0 (.ok 0))).any fun (label, next) =>
          spaced world label next && next.target hiddenPath == none) = true := by decide +kernel
  obtain ⟨world, performed, facts⟩ := (Option.any_eq_true ..).mp performs
  simp only [Bool.and_eq_true, beq_iff_eq, Option.any_eq_true] at facts
  obtain ⟨present, ⟨label, next⟩, turned, admitted, missing⟩ := facts
  exact ⟨world, next, label, perform_reaches BindWorld.turn_step _ _ performed,
    BindWorld.turn_step world _ label next turned, admitted, present, missing⟩

end Handoff.Sock
