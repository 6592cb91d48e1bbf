/-
One directory of a file system that may lose power.

Contents that were not synced and directory changes that were not synced may be
lost, each one independently of the others; a rename is one directory change.
What can be said about every outcome is `Always`: it holds whichever of the
pending changes reach the disk.
-/

import Mathlib.Data.List.Basic
import Mathlib.Logic.Function.Basic

namespace Handoff.Storage

/-! ### Directory changes -/

/-- A change of a directory, with the file it makes visible. -/
inductive Change (Name : Type) where
  | link (name : Name) (file : Nat)
  | rename (source target : Name) (file : Nat)
  deriving DecidableEq, Repr

abbrev Entries (Name : Type) : Type := Name → Option Nat

section

variable {Name Byte : Type}

/-- The changes that a mask keeps; those without an entry in it are lost. -/
def survivors : List Bool → List (Change Name) → List (Change Name)
  | true :: mask, change :: changes => change :: survivors mask changes
  | false :: mask, _ :: changes => survivors mask changes
  | _, _ => []

theorem survivors_sublist (mask : List Bool) (changes : List (Change Name)) :
    (survivors mask changes).Sublist changes := by
  induction changes generalizing mask with
  | nil =>
      rcases mask with _ | ⟨bit, mask⟩
      · exact .slnil
      · cases bit <;> exact .slnil
  | cons change changes ih =>
      rcases mask with _ | ⟨bit, mask⟩
      · exact List.nil_sublist _
      · cases bit with
        | true => exact (ih mask).cons_cons change
        | false => exact (ih mask).cons change

variable [DecidableEq Name]

def Change.apply (entries : Entries Name) : Change Name → Entries Name
  | .link name file => Function.update entries name (some file)
  | .rename source target file =>
      Function.update (Function.update entries source none) target (some file)

/-! ### Volumes -/

/-- `present` is the directory as a process sees it, `anchored` its entry in the
directory above on the disk.  `durable` are its entries on the disk, `pending` the
changes since.  A file that is not `synced` may have lost its contents. -/
structure Volume (Name Byte : Type) where
  present : Bool
  anchored : Bool
  durable : Entries Name
  pending : List (Change Name)
  contents : Nat → List Byte
  synced : Nat → Bool
  fresh : Nat

namespace Volume

/-- The entries when `kept` reaches the disk. -/
def outcome (volume : Volume Name Byte) (kept : List (Change Name)) : Entries Name :=
  kept.foldl Change.apply volume.durable

def entries (volume : Volume Name Byte) : Entries Name := volume.outcome volume.pending

def read (volume : Volume Name Byte) (name : Name) : Option (List Byte) :=
  (volume.entries name).map volume.contents

/-- `mkdir`; nothing anchors the new directory. -/
def mkdir (volume : Volume Name Byte) : Volume Name Byte :=
  if volume.present then volume
  else { volume with present := true, anchored := false, durable := fun _ => none, pending := [] }

def setContents (volume : Volume Name Byte) (file : Nat) (bytes : List Byte) : Volume Name Byte :=
  { volume with
    contents := Function.update volume.contents file bytes
    synced := Function.update volume.synced file false }

def create (volume : Volume Name Byte) (name : Name) : Volume Name Byte :=
  { volume.setContents volume.fresh [] with
    pending := volume.pending ++ [.link name volume.fresh], fresh := volume.fresh + 1 }

/-- `open` with `O_CREAT | O_TRUNC`. -/
def openTruncated (volume : Volume Name Byte) (name : Name) : Nat × Volume Name Byte :=
  match volume.entries name with
  | some file => (file, volume.setContents file [])
  | none => (volume.fresh, volume.create name)

def append (volume : Volume Name Byte) (file : Nat) (bytes : List Byte) : Volume Name Byte :=
  volume.setContents file (volume.contents file ++ bytes)

def syncFile (volume : Volume Name Byte) (file : Nat) : Volume Name Byte :=
  { volume with synced := Function.update volume.synced file true }

def rename (volume : Volume Name Byte) (source target : Name) (file : Nat) : Volume Name Byte :=
  { volume with pending := volume.pending ++ [.rename source target file] }

def syncDir (volume : Volume Name Byte) : Volume Name Byte :=
  { volume with durable := volume.entries, pending := [] }

/-- After a power failure: the pending changes that `mask` keeps, and anything in
the files that were not synced.  A directory that is not anchored may be gone. -/
def afterLoss (volume : Volume Name Byte) (keepsDir : Bool) (mask : List Bool)
    (garbage : Nat → List Byte) : Volume Name Byte :=
  let stays := volume.present && (volume.anchored || keepsDir)
  { present := stays
    anchored := stays
    durable := if stays then volume.outcome (survivors mask volume.pending) else fun _ => none
    pending := []
    contents := fun file => if volume.synced file then volume.contents file else garbage file
    synced := fun _ => true
    fresh := volume.fresh }

def Always (volume : Volume Name Byte) (holds : Entries Name → Prop) : Prop :=
  ∀ kept, kept.Sublist volume.pending → holds (volume.outcome kept)

variable {volume : Volume Name Byte} {holds : Entries Name → Prop}

theorem Always.entries (always : volume.Always holds) : holds volume.entries :=
  always volume.pending (List.Sublist.refl _)

theorem Always.change {next : Volume Name Byte} {change : Change Name}
    (without : volume.Always holds) (durable : next.durable = volume.durable)
    (pending : next.pending = volume.pending ++ [change])
    (added : volume.Always fun entries => holds (change.apply entries)) : next.Always holds := by
  intro kept sub
  rw [pending, List.sublist_append_iff] at sub
  obtain ⟨front, back, rfl, early, late⟩ := sub
  rw [Volume.outcome, durable]
  rcases List.sublist_singleton.mp late with rfl | rfl
  · rw [List.append_nil]
    exact without front early
  · rw [List.foldl_append]
    exact added front early

theorem entries_create (volume : Volume Name Byte) (name : Name) :
    (volume.create name).entries = Change.apply volume.entries (.link name volume.fresh) := by
  simp only [entries, outcome, create, List.foldl_append, List.foldl_cons, List.foldl_nil]
  rfl

theorem entries_rename (volume : Volume Name Byte) (source target : Name) (file : Nat) :
    (volume.rename source target file).entries =
      Change.apply volume.entries (.rename source target file) := by
  simp only [entries, outcome, rename, List.foldl_append, List.foldl_cons, List.foldl_nil]

theorem always_settled (settled : volume.pending = []) (now : holds volume.entries) :
    volume.Always holds := by
  intro kept sub
  rw [settled, List.sublist_nil] at sub
  rw [Volume.entries, settled] at now
  rw [sub]
  exact now

theorem Always.afterLoss (always : volume.Always holds) {keepsDir : Bool} {mask : List Bool}
    {garbage : Nat → List Byte}
    (stays : (volume.present && (volume.anchored || keepsDir)) = true) :
    holds (volume.afterLoss keepsDir mask garbage).entries := by
  have kept := always _ (survivors_sublist mask volume.pending)
  simp only [Volume.afterLoss, Volume.entries, Volume.outcome, stays, if_true, List.foldl_nil]
  exact kept

theorem afterLoss_contents {keepsDir : Bool} {mask : List Bool} {garbage : Nat → List Byte}
    {file : Nat} (synced : volume.synced file = true) :
    (volume.afterLoss keepsDir mask garbage).contents file = volume.contents file := by
  simp [Volume.afterLoss, synced]

end Volume

end

end Handoff.Storage
