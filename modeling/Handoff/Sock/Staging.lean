/-
`bind_socket` of `sock.rs`, with the paths it works on.

Paths are byte strings, as the kernel takes them.  `staging_path` puts a short
name beside the target, but the directory in front of it counts as well: a path
that is accepted may have a staging path that is not.
-/

import Mathlib.Data.Nat.Digits.Defs
import Handoff.Effects.Code
import Handoff.Error
import Handoff.Text

namespace Handoff.Sock

open Effects
open Effects.Code hiding pure bind

/-! ### Paths -/

abbrev OsPath : Type := List UInt8

def separator : UInt8 := 0x2F

def dot : UInt8 := 0x2E

namespace OsPath

/-- The length of the root, or of a leading `.`, which is a component of its own. -/
def lenBeforeBody (path : OsPath) : Nat :=
  match path with
  | [first] => if first = separator ∨ first = dot then 1 else 0
  | first :: second :: _ =>
      if first = separator ∨ first = dot ∧ second = separator then 1 else 0
  | [] => 0

/-- The segments that `components` passes over: repeated separators and `.`. -/
def isBlank (segment : List UInt8) : Bool := segment == [] || segment == [dot]

/-- The segments after the root, the last one first, without blank ones at the end. -/
def backwards (path : OsPath) : List (List UInt8) :=
  ((path.drop (lenBeforeBody path)).splitOn separator).reverse.dropWhile isBlank

def parent (path : OsPath) : Option OsPath :=
  match backwards path with
  | _ :: rest =>
      some (path.take (lenBeforeBody path) ++
        [separator].intercalate (rest.dropWhile isBlank).reverse)
  | [] => if path.head? = some dot then some [] else none

/-- `Path::join` with a relative name. -/
def join (dir name : OsPath) : OsPath :=
  if dir = [] ∨ dir.getLast? = some separator then dir ++ name else dir ++ separator :: name

end OsPath

def ascii (text : List Char) : List UInt8 := text.map fun char => UInt8.ofNat char.toNat

def stagingName (pid seq : UInt32) : OsPath :=
  ascii ".ho-".toList ++ ascii (numeral pid.toNat) ++ ascii "-".toList ++
    ascii (numeral seq.toNat) ++ ascii ".tmp".toList

/-- The directory of the target, with `.` for a path that names none. -/
def stagingDir (path : OsPath) : OsPath :=
  match path.parent with
  | none | some [] => [dot]
  | some dir => dir

def stagingPath (path : OsPath) (pid seq : UInt32) : OsPath :=
  (stagingDir path).join (stagingName pid seq)

example : OsPath.parent (ascii "/run//svc/./ctl.sock/".toList) = some (ascii "/run//svc".toList) := by
  decide +kernel

example : stagingPath (ascii "ctl.sock".toList) 77 3 = ascii "./.ho-77-3.tmp".toList := by
  decide +kernel

/-! ### `bind_socket` -/

inductive SockOp where
  | createDirAll (dir : OsPath)
  -- the counter of the process; the value before the increment
  | fetchAddSeq
  | removeFile (path : OsPath)
  | bind (path : OsPath)
  | setPermissions (path : OsPath) (mode : UInt32)
  | rename (source target : OsPath)
  | setCloexec
  | dropListener
  deriving DecidableEq, Repr

@[reducible]
def SockAns : SockOp → Type
  | .fetchAddSeq => UInt32
  | .dropListener => Unit
  | .createDirAll _ | .removeFile _ | .bind _ | .setPermissions .. | .rename .. | .setCloexec =>
      Except IoError Unit

/-- The failures of `bind_socket`. -/
inductive SockError where
  | io (cause : IoError)
  | socketPathTooLong (path : OsPath) (len max : Nat)
  deriving DecidableEq, Repr

abbrev SockM (Value : Type) : Type := Code Unit SockAns SockError Value

abbrev SockEvent : Type := Event (Call Unit SockOp) (CallAns Unit SockAns)

abbrev SockPast : Type := Past Unit SockAns

abbrev ask (op : SockOp) : SockM (SockAns op) := Code.call op

def orIo (outcome : Except IoError Unit) : SockM Unit :=
  ofExcept (outcome.mapError SockError.io)

def socketMode : UInt32 := 0o600

def validateSocketPath (max : Nat) (path : OsPath) : SockM Unit :=
  if max < path.length then fail (.socketPathTooLong path path.length max) else pure ()

def publish (staging path : OsPath) : SockM Unit := do
  orIo (← ask (.setPermissions staging socketMode))
  orIo (← ask (.rename staging path))

/-- `bind_socket` after the paths have been checked. -/
def bindStaged (staging path : OsPath) : SockM Unit := do
  let _ ← ask (.removeFile staging)
  orIo (← ask (.bind staging))
  match ← attempt (publish staging path) with
  | .error cause =>
      ask .dropListener
      let _ ← ask (.removeFile staging)
      fail cause
  | .ok () =>
      match ← ask .setCloexec with
      | Except.error cause =>
          ask .dropListener
          fail (.io cause)
      | Except.ok () => pure ()

def createParent (path : OsPath) : SockM Unit :=
  match path.parent with
  | none | some [] => pure ()
  | some dir => do
      orIo (← ask (.createDirAll dir))

/-- `max` is `max_socket_path_len()`. -/
def bindSocket (max : Nat) (pid : UInt32) (path : OsPath) : SockM Unit := do
  validateSocketPath max path
  createParent path
  let seq ← ask .fetchAddSeq
  validateSocketPath max (stagingPath path pid seq)
  bindStaged (stagingPath path pid seq) path

/-! ### The length of a staging path -/

private theorem ascii_length (text : List Char) :
    (ascii text).length = text.length := List.length_map _

private theorem numeral_length (value : UInt32) : (numeral value.toNat).length ≤ 10 := by
  rw [numeral_eq]
  apply Nat.toDigits_length 10 _ 10 (by decide)
  exact Nat.lt_trans value.toNat_lt (by decide)

private theorem stagingName_length (pid seq : UInt32) :
    (stagingName pid seq).length =
      9 + (numeral pid.toNat).length + (numeral seq.toNat).length := by
  simp only [stagingName, List.length_append, ascii_length]
  have front : ".ho-".toList.length = 4 := by decide
  have dash : "-".toList.length = 1 := by decide
  have back : ".tmp".toList.length = 4 := by decide
  omega

/-- What stands before the name in a staging path: the directory and the
separator behind it, which the root has already. -/
def stagingFront (path : OsPath) : Nat :=
  (stagingDir path).length + if (stagingDir path).getLast? = some separator then 0 else 1

theorem stagingDir_ne_nil (path : OsPath) : stagingDir path ≠ [] := by
  unfold stagingDir
  split
  · exact List.cons_ne_nil dot []
  · exact List.cons_ne_nil dot []
  · next named _ => exact named

private theorem stagingPath_length (path : OsPath) (pid seq : UInt32) :
    (stagingPath path pid seq).length =
      stagingFront path + 9 + (numeral pid.toNat).length + (numeral seq.toNat).length := by
  have written := stagingName_length pid seq
  unfold stagingPath OsPath.join stagingFront
  by_cases root : (stagingDir path).getLast? = some separator
  · rw [if_pos (Or.inr root), if_pos root, List.length_append]
    omega
  · rw [if_neg (not_or.mpr ⟨stagingDir_ne_nil path, root⟩), if_neg root, List.length_append,
      List.length_cons]
    omega

/-- Nine fixed characters and two numbers of at most ten digits; the largest pid
and the last value of the counter have ten. -/
theorem stagingPath_fits_iff (max : Nat) (path : OsPath) :
    (∀ pid seq, (stagingPath path pid seq).length ≤ max) ↔ stagingFront path + 29 ≤ max := by
  constructor
  · intro fits
    have longest := fits 4294967295 4294967295
    have digits : (numeral (4294967295 : UInt32).toNat).length = 10 := by decide +kernel
    rw [stagingPath_length, digits] at longest
    omega
  · intro room pid seq
    have first := numeral_length pid
    have second := numeral_length seq
    rw [stagingPath_length]
    omega

/-! ### Which paths can be bound -/

def InLength (outcome : Except SockError Unit) : Prop :=
  ∀ path len max, outcome ≠ .error (.socketPathTooLong path len max)

private theorem inLength_ok : InLength (.ok ()) := by
  intro path len max impossible
  cases impossible

private theorem inLength_io (cause : IoError) : InLength (.error (.io cause)) := by
  intro path len max impossible
  cases impossible

variable {past : SockPast}

private theorem orIo_bind {op : SockOp} {code : SockAns op → SockM Unit} {next : SockM Unit}
    (passes : ∀ answer, ∃ outcome, code answer = orIo outcome)
    (rest : ∀ later, Meets (fun _ _ => True) (fun outcome _ _ => InLength outcome) next () later) :
    Meets (fun _ _ => True) (fun outcome _ _ => InLength outcome) (do
      let answer ← ask op
      code answer
      next) () past := by
  refine Meets.callBind trivial fun answer => ?_
  obtain ⟨outcome, same⟩ := passes answer
  rw [same]
  cases outcome with
  | ok _ => exact rest _
  | error cause => exact inLength_io cause

private theorem publish_inLength (staging path : OsPath) :
    Meets (fun _ _ => True) (fun outcome _ _ => InLength outcome) (publish staging path) () past := by
  unfold publish
  refine orIo_bind (fun answer => ⟨answer, rfl⟩) fun later => ?_
  refine Meets.callBind trivial fun renamed => ?_
  cases renamed with
  | ok _ => exact inLength_ok
  | error cause => exact inLength_io cause

private theorem bindStaged_inLength (staging path : OsPath) :
    Meets (fun _ _ => True) (fun outcome _ _ => InLength outcome) (bindStaged staging path) ()
      past := by
  unfold bindStaged
  refine Meets.callBind trivial fun _ => ?_
  refine orIo_bind (fun answer => ⟨answer, rfl⟩) fun later => ?_
  refine Meets.attemptBind (publish_inLength staging path) ?_
  intro outcome _ published fits
  cases outcome with
  | error cause =>
      refine Meets.callBind trivial fun _ => ?_
      exact Meets.callBind trivial fun _ => fits
  | ok _ =>
      refine Meets.callBind trivial fun flagged => ?_
      cases flagged with
      | ok _ => exact inLength_ok
      | error cause => exact Meets.callBind trivial fun _ => inLength_io cause

theorem validateSocketPath_bind {max : Nat} {path : OsPath} {next : SockM Unit}
    {post : Except SockError Unit → Unit → SockPast → Prop} (fits : path.length ≤ max)
    (rest : Meets (fun _ _ => True) post next () past) :
    Meets (fun _ _ => True) post (do
      validateSocketPath max path
      next) () past := by
  rw [validateSocketPath, if_neg (Nat.not_lt.mpr fits)]
  exact rest

private theorem bindSocket_fits {max : Nat} {pid : UInt32} {path : OsPath}
    (accepted : path.length ≤ max) (fits : ∀ seq, (stagingPath path pid seq).length ≤ max) :
    Meets (fun _ _ => True) (fun outcome _ _ => InLength outcome) (bindSocket max pid path) ()
      [] := by
  have draws (later : SockPast) : Meets (fun _ _ => True) (fun outcome _ _ => InLength outcome) (do
      let seq ← ask .fetchAddSeq
      validateSocketPath max (stagingPath path pid seq)
      bindStaged (stagingPath path pid seq) path) () later := by
    refine Meets.callBind trivial fun seq => ?_
    exact validateSocketPath_bind (fits seq) (bindStaged_inLength _ _)
  unfold bindSocket
  apply validateSocketPath_bind accepted
  unfold createParent
  split
  · exact draws []
  · exact draws []
  · rw [meets_bind]
    refine Meets.callBind trivial fun made => ?_
    cases made with
    | ok _ => exact draws _
    | error cause => exact inLength_io cause

private theorem validateSocketPath_refuses {max : Nat} {path : OsPath} (long : max < path.length)
    (next : SockM Unit) :
    (validateSocketPath max path >>= fun _ => next) () =
      .done (.error (.socketPathTooLong path path.length max), ()) := by
  rw [validateSocketPath, if_pos long]
  rfl

private theorem bindSocket_refuses {max : Nat} {pid seq : UInt32} {path : OsPath}
    (accepted : path.length ≤ max) (long : max < (stagingPath path pid seq).length) :
    ∃ events, (bindSocket max pid path ()).Run events
      (.done (.error (.socketPathTooLong (stagingPath path pid seq)
        (stagingPath path pid seq).length max), ())) := by
  have drawn : ((do
      let seq ← ask .fetchAddSeq
      validateSocketPath max (stagingPath path pid seq)
      bindStaged (stagingPath path pid seq) path : SockM Unit) ()).Run [⟨⟨(), .fetchAddSeq⟩, seq⟩]
        (.done (.error (.socketPathTooLong (stagingPath path pid seq)
          (stagingPath path pid seq).length max), ())) := by
    apply run_callBind
    rw [← validateSocketPath_refuses long (bindStaged (stagingPath path pid seq) path)]
    exact Program.Run.stop _
  unfold bindSocket validateSocketPath
  rw [if_neg (Nat.not_lt.mpr accepted)]
  unfold createParent
  split
  · exact ⟨_, drawn⟩
  · exact ⟨_, drawn⟩
  · next dir _ _ => exact ⟨⟨⟨(), .createDirAll dir⟩, .ok ()⟩ :: _, Program.Run.step _ drawn⟩

/-- An accepted path can be bound by every process and at every count exactly when
its directory leaves room for the longest staging name. -/
theorem bindSocket_inLength {max : Nat} {path : OsPath} (accepted : path.length ≤ max) :
    ((∀ pid seq, (stagingPath path pid seq).length ≤ max) ↔ stagingFront path + 29 ≤ max) ∧
      ((∀ pid events rest, (bindSocket max pid path ()).Run events rest →
          ∀ long len limit, rest ≠ .done (.error (.socketPathTooLong long len limit), ())) ↔
        stagingFront path + 29 ≤ max) := by
  refine ⟨stagingPath_fits_iff max path, ?_⟩
  rw [← stagingPath_fits_iff]
  constructor
  · intro binds pid seq
    by_contra unfit
    obtain ⟨events, run⟩ := bindSocket_refuses accepted (Nat.not_le.mp unfit)
    exact binds pid events _ run _ _ _ rfl
  · intro fits pid events rest run long len limit done
    have ended := run.keeps (bindSocket_fits accepted (fits pid))
    rw [done] at ended
    exact ended long len limit rfl

def obliging : SockPast → (call : Call Unit SockOp) → Option (SockAns call.op)
  | _, ⟨_, .fetchAddSeq⟩ => some 0
  | _, ⟨_, .dropListener⟩ => some ()
  | _, ⟨_, .createDirAll _⟩ | _, ⟨_, .removeFile _⟩ | _, ⟨_, .bind _⟩ | _, ⟨_, .setPermissions ..⟩
  | _, ⟨_, .rename ..⟩ | _, ⟨_, .setCloexec⟩ => some (.ok ())

theorem bindSocket_inLength_run :
    (Program.play obliging 9 [] (bindSocket 107 77 (ascii "/run/ctl.sock".toList) ())).2 =
        .done (.ok (), ()) ∧
      ∀ pid seq, (stagingPath (ascii "/run/ctl.sock".toList) pid seq).length ≤ 107 :=
  ⟨Program.eq_done_of_result? (by decide +kernel),
    (bindSocket_inLength (by decide +kernel)).1.mpr (by decide +kernel)⟩

def crampedPath : OsPath :=
  ascii "/".toList ++ List.replicate 100 0x61 ++ ascii "/s".toList

/-- 103 bytes are accepted where 107 are the limit, and the first call of
process 77 needs 114 for its staging path. -/
theorem bindSocket_too_long :
    crampedPath.length = 103 ∧
      (bindSocket 107 77 crampedPath ()).Run
        (Program.play obliging 9 [] (bindSocket 107 77 crampedPath ())).1
        (Program.play obliging 9 [] (bindSocket 107 77 crampedPath ())).2 ∧
      (Program.play obliging 9 [] (bindSocket 107 77 crampedPath ())).2 =
        .done (.error (.socketPathTooLong (stagingPath crampedPath 77 0) 114 107), ()) :=
  ⟨by decide +kernel, Program.play_run obliging 9 [] _,
    Program.eq_done_of_result? (by decide +kernel)⟩

end Handoff.Sock
