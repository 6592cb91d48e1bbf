/-
`fd.rs`: the descriptors that a spawned child inherits.

The child's table is rearranged between `fork` and `execve`.  Every source is
first copied above the target range, the copies are then moved to `3, 4, …`, and
last they are closed.  A table keeps the open file description and the
`FD_CLOEXEC` flag of each descriptor; the errors are those that the manual pages
of the three calls list.

A `RawFd` is a C `int`, here an `Int`.  The additions `3 + i as RawFd` wrap, and
no table holds a descriptor that the type cannot name.
-/

import Handoff.Error
import Mathlib.Data.List.Nodup
import Mathlib.Data.List.Perm.Subperm

namespace Handoff

variable {sources staged : List Int}

/-- One open descriptor: the description it refers to and its own flag. -/
structure Descriptor where
  description : Nat
  cloexec : Bool
  deriving DecidableEq, Repr

/-- The descriptor table of a process.  `limit` is `RLIMIT_NOFILE`: no call
creates a descriptor at or above it. -/
structure FdTable where
  entries : Int → Option Descriptor
  limit : Nat
  limit_le : limit ≤ 2 ^ 31
  negative : ∀ fd, fd < 0 → entries fd = none

variable {table next : FdTable}

namespace FdTable

def place (table : FdTable) (fd : Int) (valid : 0 ≤ fd) (descriptor : Descriptor) : FdTable :=
  { table with
    entries := fun other => if other = fd then some descriptor else table.entries other
    negative := by
      intro other below
      rw [if_neg (by omega)]
      exact table.negative other below }

/-- `close(2)`; its result is not looked at. -/
def close (table : FdTable) (fd : Int) : FdTable :=
  { table with
    entries := fun other => if other = fd then none else table.entries other
    negative := by
      intro other below
      rw [table.negative other below]
      exact ite_self none }

private theorem close_entries (table : FdTable) (fd other : Int) :
    (table.close fd).entries other = if other = fd then none else table.entries other :=
  rfl

def ebadf : Errno := .other 9

/-- The lowest free descriptor at or above `least`. -/
def lowestFree (table : FdTable) (least : Nat) : Option Nat :=
  (List.range' least (table.limit - least)).find? fun fd => (table.entries fd).isNone

theorem lowestFree_spec {least fd : Nat} (found : table.lowestFree least = some fd) :
    least ≤ fd ∧ fd < table.limit ∧ table.entries fd = none := by
  have free := List.find?_some found
  have inRange := List.mem_range'_1.mp (List.mem_of_find?_eq_some found)
  refine ⟨inRange.1, by omega, ?_⟩
  exact Option.isNone_iff_eq_none.mp free

/-- `fcntl(fd, F_DUPFD, least)`. -/
def dupFd (table : FdTable) (fd least : Int) : Except Errno (Int × FdTable) :=
  match table.entries fd with
  | none => .error ebadf
  | some source =>
      if least < 0 ∨ table.limit ≤ least then .error .einval
      else
        match table.lowestFree least.toNat with
        | none => .error .emfile
        | some fresh =>
            .ok (fresh, table.place fresh (Int.natCast_nonneg fresh)
              { description := source.description, cloexec := false })

/-- `dup2(fd, target)`: atomic, and nothing happens when both are the same. -/
def dup2 (table : FdTable) (fd target : Int) : Except Errno FdTable :=
  match table.entries fd with
  | none => .error ebadf
  | some source =>
      if valid : 0 ≤ target ∧ target < table.limit then
        if fd = target then .ok table
        else .ok (table.place target valid.1 { description := source.description, cloexec := false })
      else .error ebadf

theorem dupFd_spec {fd least fresh : Int} (done : table.dupFd fd least = .ok (fresh, next)) :
    (0 ≤ least ∧ least ≤ fresh ∧ fresh < table.limit ∧ table.entries fresh = none) ∧
      next.limit = table.limit ∧ ∃ source, table.entries fd = some source ∧
        ∀ other, next.entries other =
          if other = fresh then some ⟨source.description, false⟩ else table.entries other := by
  unfold dupFd at done
  split at done
  · contradiction
  · rename_i source present
    split at done
    · contradiction
    · rename_i inRange
      split at done
      · contradiction
      · rename_i free found
        obtain ⟨above, below, unused⟩ := lowestFree_spec found
        cases done
        exact ⟨⟨by omega, by omega, by omega, unused⟩, rfl, source, present, fun _ => rfl⟩

theorem dup2_spec {fd target : Int} (apart : fd ≠ target) (done : table.dup2 fd target = .ok next) :
    ∃ source, table.entries fd = some source ∧
      ∀ other, next.entries other =
        if other = target then some ⟨source.description, false⟩ else table.entries other := by
  unfold dup2 at done
  split at done
  · contradiction
  · rename_i source present
    split at done
    · cases done
      exact ⟨source, present, fun _ => rfl⟩
    · contradiction

end FdTable

/-- `3 + index as RawFd`: the cast and the addition keep the low 32 bits. -/
def slotFd (index : Nat) : Int := (3 + (index : Int).bmod (2 ^ 32)).bmod (2 ^ 32)

theorem slotFd_eq {index : Nat} (small : index + 3 < 2 ^ 31) : slotFd index = index + 3 := by
  unfold slotFd
  simp only [Int.bmod_def]
  split <;> split <;> omega

private theorem slotFd_negative (index : Nat) (large : 2 ^ 31 ≤ index + 3)
    (bounded : index ≤ 2 ^ 31) :
    slotFd index < 0 := by
  unfold slotFd
  simp only [Int.bmod_def]
  split <;> split <;> omega

/-! ### The three stages -/

/-- Stage 1: every source is copied to the lowest free descriptor from `least` on. -/
def stageFds (least : Int) : List Int → FdTable → Except Errno (List Int × FdTable)
  | [], table => .ok ([], table)
  | source :: rest, table => do
      let (staged, table) ← table.dupFd source least
      let (others, table) ← stageFds least rest table
      .ok (staged :: others, table)

/-- Stage 2: the staged copies are moved to the slots from `index` on. -/
def settleFds : Nat → List Int → FdTable → Except Errno FdTable
  | _, [], table => .ok table
  | index, staged :: rest, table => do
      let table ← table.dup2 staged (slotFd index)
      settleFds (index + 1) rest table

def closeFds : List Int → FdTable → FdTable
  | [], table => table
  | staged :: rest, table => closeFds rest (table.close staged)

def installInheritedFds (sources : List Int) (table : FdTable) : Except Errno FdTable :=
  if sources.length = 0 then .ok table
  else do
    let (staged, table) ← stageFds (slotFd sources.length) sources table
    let table ← settleFds 0 staged table
    .ok (closeFds staged table)

/-! ### What each stage does to the table -/

/-- `table` is `origin` with one copy of each source, at a descriptor that was
free and lies from `least` on.  A source that was closed may still have a copy:
an earlier copy can have been given its number. -/
structure Staged (origin : FdTable) (least : Int) (sources staged : List Int) (table : FdTable) :
    Prop where
  limit : table.limit = origin.limit
  inRange : ∀ fd ∈ staged, 0 ≤ least ∧ least ≤ fd ∧ fd < origin.limit
  fresh : ∀ fd ∈ staged, origin.entries fd = none
  nodup : staged.Nodup
  kept : ∀ fd, fd ∉ staged → table.entries fd = origin.entries fd
  copied : List.Forall₂ (fun source fd => ∃ description,
    table.entries fd = some ⟨description, false⟩ ∧
      ∀ original, origin.entries source = some original → original.description = description)
    sources staged

theorem Staged.nil (table : FdTable) (least : Int) : Staged table least [] [] table where
  limit := rfl
  inRange := by simp
  fresh := by simp
  nodup := List.nodup_nil
  kept := fun _ _ => rfl
  copied := List.Forall₂.nil

theorem Staged.cons {origin middle : FdTable} {least source fd : Int}
    (first : origin.dupFd source least = .ok (fd, middle))
    (rest : Staged middle least sources staged table) :
    Staged origin least (source :: sources) (fd :: staged) table := by
  obtain ⟨⟨positive, above, below, unused⟩, sameLimit, original, present, entries⟩ :=
    FdTable.dupFd_spec first
  have occupied : middle.entries fd = some ⟨original.description, false⟩ := by
    rw [entries, if_pos rfl]
  have apart (other : Int) (member : other ∈ staged) : other ≠ fd := by
    intro same
    have free := rest.fresh other member
    rw [same, occupied] at free
    contradiction
  have unstaged : fd ∉ staged := fun member => apart fd member rfl
  constructor
  · exact rest.limit.trans sameLimit
  · intro other member
    rcases List.mem_cons.mp member with same | later
    · rw [same]
      exact ⟨positive, above, below⟩
    · rw [← sameLimit]
      exact rest.inRange other later
  · intro other member
    rcases List.mem_cons.mp member with same | later
    · rw [same]
      exact unused
    · have free := rest.fresh other later
      rw [entries, if_neg (apart other later)] at free
      exact free
  · exact List.nodup_cons.mpr ⟨unstaged, rest.nodup⟩
  · intro other outside
    rw [List.mem_cons, not_or] at outside
    rw [rest.kept other outside.2, entries, if_neg outside.1]
  · refine List.Forall₂.cons ?_ (rest.copied.imp ?_)
    · refine ⟨original.description, ?_, ?_⟩
      · rw [rest.kept fd unstaged, occupied]
      · intro other found
        rw [present] at found
        rw [Option.some.inj found]
    · rintro other copy ⟨description, copied, agrees⟩
      refine ⟨description, copied, ?_⟩
      intro entry found
      apply agrees
      rw [entries, if_neg ?_]
      · exact found
      · -- `fd` was free, so it is no source that was open
        intro same
        rw [same, unused] at found
        contradiction

private theorem stageFds_staged {least : Int}
    (done : stageFds least sources table = .ok (staged, next)) :
    Staged table least sources staged next := by
  induction sources generalizing table staged with
  | nil =>
      cases done
      exact Staged.nil _ least
  | cons source rest ih =>
      unfold stageFds at done
      cases first : table.dupFd source least with
      | error errno =>
          rw [first] at done
          cases done
      | ok copy =>
          obtain ⟨fd, middle⟩ := copy
          rw [first] at done
          cases further : stageFds least rest middle with
          | error errno =>
              simp only [bind, Except.bind, further] at done
              cases done
          | ok result =>
              obtain ⟨others, last⟩ := result
              simp only [bind, Except.bind, further] at done
              cases done
              exact Staged.cons first (ih further)

/-- The copies lie above the slots, so no slot that is filled is a copy that is
still to be read. -/
private theorem settleFds_entries (index : Nat) {count : Nat} (small : count + 3 < 2 ^ 31)
    (room : index + staged.length ≤ count) (high : ∀ fd ∈ staged, (count : Int) + 3 ≤ fd)
    (done : settleFds index staged table = .ok next) :
    (∀ fd : Int, fd < index + 3 ∨ index + staged.length + 3 ≤ fd →
        next.entries fd = table.entries fd) ∧
      ∀ (i : Nat) (fd : Int), staged[i]? = some fd → ∃ source, table.entries fd = some source ∧
        next.entries (index + i + 3) = some ⟨source.description, false⟩ := by
  induction staged generalizing index table with
  | nil =>
      cases done
      exact ⟨fun _ _ => rfl, fun i fd found => by simp at found⟩
  | cons fd rest ih =>
      rw [List.length_cons] at room
      have slot : slotFd index = index + 3 := slotFd_eq (by omega)
      have above := high fd List.mem_cons_self
      unfold settleFds at done
      cases moved : table.dup2 fd (slotFd index) with
      | error errno =>
          rw [moved] at done
          cases done
      | ok middle =>
          rw [moved] at done
          obtain ⟨source, present, entries⟩ := FdTable.dup2_spec (by omega) moved
          rw [slot] at entries
          obtain ⟨outside, settled⟩ := ih (index + 1) (by omega)
            (fun other member => high other (List.mem_cons_of_mem _ member)) done
          constructor
          · intro other away
            rw [List.length_cons] at away
            rw [outside other (by push_cast at away ⊢; omega), entries, if_neg (by omega)]
          · intro i other found
            cases i with
            | zero =>
                rw [List.getElem?_cons_zero] at found
                cases found
                refine ⟨source, present, ?_⟩
                rw [outside _ (by push_cast; omega), entries, if_pos (by omega)]
            | succ i =>
                rw [List.getElem?_cons_succ] at found
                have later := high other
                  (List.mem_cons_of_mem _ (List.mem_of_getElem? found))
                obtain ⟨origin, open_, target⟩ := settled i other found
                refine ⟨origin, ?_, ?_⟩
                · rw [entries, if_neg (by omega)] at open_
                  exact open_
                · have slot : (index : Int) + (i + 1 : Nat) + 3 = (index + 1 : Nat) + i + 3 := by
                    omega
                  rw [slot]
                  exact target

private theorem closeFds_entries (staged : List Int) (table : FdTable) (fd : Int) :
    (closeFds staged table).entries fd = if fd ∈ staged then none else table.entries fd := by
  induction staged generalizing table with
  | nil => rfl
  | cons first rest ih =>
      rw [closeFds, ih, FdTable.close_entries]
      by_cases same : fd = first
      · simp [same]
      · simp [same]

/-- As many copies as there are sources fit below the limit, which bounds the
number of sources; the first free slot then shows that no addition wrapped. -/
theorem Staged.small {origin : FdTable}
    (done : Staged origin (slotFd sources.length) sources staged table) (nonempty : sources ≠ []) :
    sources.length + 3 < 2 ^ 31 := by
  have lengths := done.copied.length_eq
  have fits : staged.length ≤ 2 ^ 31 := by
    have distinct : (staged.map Int.toNat).Nodup := by
      refine List.Nodup.map_on ?_ done.nodup
      intro first inFirst second inSecond same
      have firstRange := done.inRange first inFirst
      have secondRange := done.inRange second inSecond
      omega
    have bounded : staged.map Int.toNat ⊆ List.range (2 ^ 31) := by
      intro fd member
      obtain ⟨raw, inStaged, rfl⟩ := List.mem_map.mp member
      have inRange := done.inRange raw inStaged
      have limit := origin.limit_le
      rw [List.mem_range]
      omega
    have counted := (List.subperm_of_subset distinct bounded).length_le
    rw [List.length_map, List.length_range] at counted
    exact counted
  by_contra large
  have negative := slotFd_negative sources.length (by omega) (by omega)
  obtain ⟨first, rest, rfl⟩ := List.exists_cons_of_ne_nil nonempty
  cases staged with
  | nil => simp at lengths
  | cons fd others =>
      have inRange := done.inRange fd List.mem_cons_self
      omega

structure Shuffled (sources : List Int) (table next : FdTable) : Prop where
  small : sources.length + 3 < 2 ^ 31
  outside : ∀ fd : Int, fd < 3 ∨ (sources.length : Int) + 3 ≤ fd →
    next.entries fd = table.entries fd
  slots : ∀ (i : Nat) (source : Int), sources[i]? = some source → ∃ description,
    next.entries (i + 3) = some ⟨description, false⟩ ∧
      ∀ original, table.entries source = some original → original.description = description

theorem Shuffled.nil (table : FdTable) : Shuffled [] table table where
  small := by decide
  outside := fun _ _ => rfl
  slots := by
    intro i source found
    simp at found

/-- The copies lie outside the slots, so closing them does not touch a slot, and
where they lay nothing was open. -/
theorem Staged.shuffled {middle settled : FdTable}
    (copies : Staged table (slotFd sources.length) sources staged middle)
    (nonempty : sources ≠ []) (settling : settleFds 0 staged middle = .ok settled) :
    Shuffled sources table (closeFds staged settled) := by
  have small := copies.small nonempty
  have lengths := copies.copied.length_eq
  have high : ∀ fd ∈ staged, (sources.length : Int) + 3 ≤ fd := by
    intro fd member
    have inRange := copies.inRange fd member
    rw [slotFd_eq small] at inRange
    omega
  obtain ⟨outside, slots⟩ := settleFds_entries 0 small (by omega) high settling
  constructor
  · exact small
  · intro fd away
    rw [closeFds_entries]
    by_cases member : fd ∈ staged
    · rw [if_pos member, copies.fresh fd member]
    · rw [if_neg member, outside fd (by omega), copies.kept fd member]
  · intro i source found
    have inside : i < sources.length := (List.getElem?_eq_some_iff.mp found).1
    have copy : staged[i]? = some staged[i] := List.getElem?_eq_getElem (by omega)
    obtain ⟨entry, present, target⟩ := slots i _ copy
    obtain ⟨description, copied, agrees⟩ :=
      (List.forall₂_iff_get.mp copies.copied).2 i inside (by omega)
    rw [List.get_eq_getElem] at copied agrees
    rw [(List.getElem?_eq_some_iff.mp found).2] at agrees
    refine ⟨description, ?_, agrees⟩
    have slot : ((0 : Nat) : Int) + i + 3 = i + 3 := by omega
    rw [present] at copied
    rw [slot, Option.some.inj copied] at target
    rw [closeFds_entries, if_neg ?_]
    · exact target
    · intro member
      have above := high _ member
      omega

theorem installInheritedFds_shuffled (done : installInheritedFds sources table = .ok next) :
    Shuffled sources table next := by
  unfold installInheritedFds at done
  by_cases empty : sources.length = 0
  · rw [if_pos empty] at done
    cases done
    rw [List.length_eq_zero_iff.mp empty]
    exact Shuffled.nil _
  · rw [if_neg empty] at done
    cases staging : stageFds (slotFd sources.length) sources table with
    | error errno =>
        rw [staging] at done
        cases done
    | ok result =>
        obtain ⟨staged, middle⟩ := result
        cases settling : settleFds 0 staged middle with
        | error errno =>
            simp only [bind, Except.bind, staging, settling] at done
            cases done
        | ok settled =>
            simp only [bind, Except.bind, staging, settling] at done
            cases done
            apply (stageFds_staged staging).shuffled _ settling
            intro none
            rw [none] at empty
            exact empty rfl

/-- The resulting table is the original one outside the slots, and each slot
refers to what its source referred to.  No copy stays open, since a copy would be
a descriptor outside the slots that was not there before. -/
theorem installInheritedFds_shuffles (sources : List Int) (table next : FdTable)
    (done : installInheritedFds sources table = .ok next) :
    (∀ fd : Int, fd < 3 ∨ (sources.length : Int) + 3 ≤ fd → next.entries fd = table.entries fd) ∧
      ∀ (i : Nat) (source : Int), sources[i]? = some source → ∃ description,
        next.entries (i + 3) = some ⟨description, false⟩ ∧
          ∀ original, table.entries source = some original →
            original.description = description := by
  have installed := installInheritedFds_shuffled done
  exact ⟨installed.outside, installed.slots⟩

def crossedTable : FdTable where
  entries := fun fd => if fd = 3 then some ⟨30, true⟩ else if fd = 4 then some ⟨40, true⟩ else none
  limit := 8
  limit_le := by decide
  negative := by
    intro fd below
    rw [if_neg (by omega), if_neg (by omega)]

theorem installInheritedFds_shuffles_crossed :
    ∃ next, installInheritedFds [4, 3] crossedTable = .ok next ∧
      next.entries 3 = some ⟨40, false⟩ ∧ next.entries 4 = some ⟨30, false⟩ ∧
        ∀ fd : Int, fd < 3 ∨ 5 ≤ fd → next.entries fd = crossedTable.entries fd := by
  have succeeds : (installInheritedFds [4, 3] crossedTable).isOk = true := by decide
  cases done : installInheritedFds [4, 3] crossedTable with
  | error errno =>
      rw [done] at succeeds
      cases succeeds
  | ok next =>
      obtain ⟨outside, slots⟩ := installInheritedFds_shuffles [4, 3] crossedTable next done
      obtain ⟨first, atFirst, fromFirst⟩ := slots 0 4 rfl
      obtain ⟨second, atSecond, fromSecond⟩ := slots 1 3 rfl
      rw [← fromFirst ⟨40, true⟩ rfl] at atFirst
      rw [← fromSecond ⟨30, true⟩ rfl] at atSecond
      exact ⟨next, rfl, atFirst, atSecond, outside⟩

def closedSourceTable : FdTable where
  entries := fun fd => if fd = 4 then some ⟨40, true⟩ else none
  limit := 8
  limit_le := by decide
  negative := by
    intro fd below
    rw [if_neg (by omega)]

/-- The copy of 4 is given the number 5, is copied in turn, and ends in the slot
of a source that referred to nothing. -/
theorem installInheritedFds_closed_source :
    ∃ next, installInheritedFds [4, 5] closedSourceTable = .ok next ∧
      closedSourceTable.entries 5 = none ∧ next.entries 4 = some ⟨40, false⟩ ∧
        ¬∃ original, closedSourceTable.entries 5 = some original ∧
          next.entries 4 = some ⟨original.description, false⟩ := by
  have filled : (installInheritedFds [4, 5] closedSourceTable).toOption.bind
      (fun next => next.entries 4) = some ⟨40, false⟩ := by decide
  cases done : installInheritedFds [4, 5] closedSourceTable with
  | error errno =>
      rw [done] at filled
      cases filled
  | ok next =>
      rw [done] at filled
      refine ⟨next, rfl, rfl, filled, ?_⟩
      rintro ⟨original, present, _⟩
      cases present

end Handoff
