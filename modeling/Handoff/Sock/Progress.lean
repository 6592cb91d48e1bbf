/-
The order of the system calls of `bind_socket`, and the names they work on.

Each call names the staging path of the counter value that was drawn, and the
rename comes after the mode has been set.  Different pids and counter values give
different names, so the owner of a staging file can be read off its name.
-/

import Handoff.Sock.Staging

namespace Handoff.Sock

open Effects
open Effects.Code hiding pure bind

/-! ### How far a call has come -/

inductive Progress where
  | early
  | drawn (seq : UInt32)
  | bound (seq : UInt32)
  | restricted (seq : UInt32)
  | published (seq : UInt32)
  | cleaned (seq : UInt32)
  deriving DecidableEq, Repr

def Progress.after (progress : Progress) (event : SockEvent) : Progress :=
  match progress, event with
  | .early, ⟨⟨_, .fetchAddSeq⟩, seq⟩ => .drawn seq
  | .drawn seq, ⟨⟨_, .bind _⟩, .ok _⟩ => .bound seq
  | .bound seq, ⟨⟨_, .setPermissions ..⟩, .ok _⟩ => .restricted seq
  | .restricted seq, ⟨⟨_, .rename ..⟩, .ok _⟩ => .published seq
  | .bound seq, ⟨⟨_, .removeFile _⟩, .ok _⟩ => .cleaned seq
  | .restricted seq, ⟨⟨_, .removeFile _⟩, .ok _⟩ => .cleaned seq
  | other, _ => other

def progressOf (past : SockPast) : Progress := past.foldl Progress.after .early

@[simp]
theorem progressOf_append (past : SockPast) (event : SockEvent) :
    progressOf (past ++ [event]) = (progressOf past).after event := by
  rw [progressOf, List.foldl_append]
  rfl

def Progress.staged : Progress → Option UInt32
  | .bound seq | .restricted seq => some seq
  | _ => none

def Progress.inUse : Progress → Option UInt32
  | .drawn seq | .bound seq | .restricted seq => some seq
  | _ => none

/-- Each operation names the staging path of the counter value that was drawn,
and comes at its place in the order. -/
def ProgressDuty (pid : UInt32) (path : OsPath) (past : SockPast) (call : Call Unit SockOp) : Prop :=
  match call.op with
  | .fetchAddSeq => progressOf past = .early
  | .removeFile file => ∃ seq, file = stagingPath path pid seq ∧
      (progressOf past = .drawn seq ∨ (progressOf past).staged = some seq)
  | .bind file => ∃ seq, file = stagingPath path pid seq ∧ progressOf past = .drawn seq
  | .setPermissions file mode => ∃ seq, file = stagingPath path pid seq ∧ mode = socketMode ∧
      progressOf past = .bound seq
  | .rename source target => ∃ seq, source = stagingPath path pid seq ∧ target = path ∧
      progressOf past = .restricted seq
  | _ => True

def cleanupFailed (past : SockPast) : Bool :=
  past.getLast?.any fun
    | ⟨⟨_, .removeFile _⟩, .error _⟩ => true
    | _ => false

/-- How a call leaves: published, or without a staging file of its own unless the
clean-up failed. -/
def Returned (outcome : Except SockError Unit) (past : SockPast) : Prop :=
  (outcome = .ok () → ∃ seq, progressOf past = .published seq) ∧
    ((progressOf past).staged = none ∨ cleanupFailed past = true)

section

variable {pid : UInt32} {path : OsPath} {past : SockPast} {seq : UInt32}

private theorem returned_unstaged {cause : SockError} (unstaged : (progressOf past).staged = none) :
    Returned (.error cause) past := by
  refine ⟨?_, Or.inl unstaged⟩
  intro impossible
  cases impossible

private theorem cleanup_progress {cause : SockError}
    (staged : (progressOf past).staged = some seq) :
    Meets (ProgressDuty pid path) (fun outcome _ later => Returned outcome later) (do
      ask .dropListener
      let _ ← ask (.removeFile (stagingPath path pid seq))
      fail cause : SockM Unit) () past := by
  refine Meets.callBind trivial fun _ => ?_
  have dropped : progressOf (past ++ [⟨⟨(), .dropListener⟩, ()⟩]) = progressOf past := by
    rw [progressOf_append]
    cases progressOf past <;> rfl
  refine Meets.callBind ⟨seq, rfl, Or.inr (by rw [dropped]; exact staged)⟩ fun removed => ?_
  cases removed with
  | error failure =>
      refine ⟨?_, Or.inr (by simp [cleanupFailed])⟩
      intro impossible
      cases impossible
  | ok _ =>
      apply returned_unstaged
      rw [progressOf_append, dropped]
      cases stage : progressOf past <;> rw [stage] at staged <;> first | contradiction | rfl

private theorem flag_progress (published : progressOf past = .published seq) :
    Meets (ProgressDuty pid path) (fun outcome _ later => Returned outcome later) (do
      match ← ask .setCloexec with
      | Except.error cause =>
          ask .dropListener
          fail (.io cause)
      | Except.ok () => pure () : SockM Unit) () past := by
  refine Meets.callBind trivial fun flagged => ?_
  have still : progressOf (past ++ [⟨⟨(), .setCloexec⟩, flagged⟩]) = .published seq := by
    rw [progressOf_append, published]
    rfl
  cases flagged with
  | ok _ => exact ⟨fun _ => ⟨seq, still⟩, Or.inl (by rw [still]; rfl)⟩
  | error cause =>
      refine Meets.callBind trivial fun _ => ?_
      apply returned_unstaged
      rw [progressOf_append, still]
      rfl

/-- What `publish` leaves: the socket under its name, or under the staging name. -/
private theorem publish_progress (bound : progressOf past = .bound seq) :
    Meets (ProgressDuty pid path) (fun outcome _ later =>
      match outcome with
      | .ok _ => progressOf later = .published seq
      | .error _ => (progressOf later).staged = some seq)
      (publish (stagingPath path pid seq) path) () past := by
  unfold publish
  refine Meets.callBind ⟨seq, rfl, rfl, bound⟩ fun restricted => ?_
  cases restricted with
  | error cause =>
      change (progressOf (past ++ [_])).staged = some seq
      rw [progressOf_append, bound]
      rfl
  | ok _ =>
      have narrowed : progressOf (past ++ [⟨⟨(), .setPermissions (stagingPath path pid seq)
          socketMode⟩, .ok ()⟩]) = .restricted seq := by
        rw [progressOf_append, bound]
        rfl
      refine Meets.callBind ⟨seq, rfl, rfl, narrowed⟩ fun renamed => ?_
      cases renamed with
      | error cause =>
          change (progressOf (_ ++ [_])).staged = some seq
          rw [progressOf_append, narrowed]
          rfl
      | ok _ =>
          change progressOf (_ ++ [_]) = .published seq
          rw [progressOf_append, narrowed]
          rfl

private theorem bindStaged_progress (drawn : progressOf past = .drawn seq) :
    Meets (ProgressDuty pid path) (fun outcome _ later => Returned outcome later)
      (bindStaged (stagingPath path pid seq) path) () past := by
  unfold bindStaged
  refine Meets.callBind ⟨seq, rfl, Or.inl drawn⟩ fun removed => ?_
  have cleared : progressOf (past ++ [⟨⟨(), .removeFile (stagingPath path pid seq)⟩, removed⟩]) =
      .drawn seq := by
    rw [progressOf_append, drawn]
    rfl
  refine Meets.callBind ⟨seq, rfl, cleared⟩ fun bound => ?_
  cases bound with
  | error cause =>
      apply returned_unstaged
      rw [progressOf_append, cleared]
      rfl
  | ok _ =>
      refine Meets.attemptBind (publish_progress ?_) ?_
      · rw [progressOf_append, cleared]
        rfl
      · intro outcome _ later left
        cases outcome with
        | error cause => exact cleanup_progress left
        | ok _ => exact flag_progress left

theorem bindSocket_progress (max : Nat) (pid : UInt32) (path : OsPath) :
    Meets (ProgressDuty pid path) (fun outcome _ later => Returned outcome later)
      (bindSocket max pid path) () [] := by
  have draws (later : SockPast) (early : progressOf later = .early) :
      Meets (ProgressDuty pid path) (fun outcome _ last => Returned outcome last) (do
        let seq ← ask .fetchAddSeq
        validateSocketPath max (stagingPath path pid seq)
        bindStaged (stagingPath path pid seq) path) () later := by
    refine Meets.callBind early fun seq => ?_
    have drawn : progressOf (later ++ [⟨⟨(), .fetchAddSeq⟩, seq⟩]) = .drawn seq := by
      rw [progressOf_append, early]
      rfl
    unfold validateSocketPath
    split
    · apply returned_unstaged
      rw [drawn]
      rfl
    · exact bindStaged_progress drawn
  unfold bindSocket validateSocketPath
  split
  · exact returned_unstaged rfl
  · change Meets _ _ (createParent path >>= _) () []
    unfold createParent
    split
    · exact draws [] rfl
    · exact draws [] rfl
    · rw [meets_bind]
      refine Meets.callBind trivial fun made => ?_
      cases made with
      | error cause => exact returned_unstaged rfl
      | ok _ => exact draws _ rfl

end

/-! ### Names in the directory -/

def entryName (path : OsPath) : OsPath :=
  (path.reverse.takeWhile fun byte => byte != separator).reverse

private theorem entryName_append {front name : OsPath} (plain : ∀ byte ∈ name, byte ≠ separator)
    (ends : front.getLast? = some separator) : entryName (front ++ name) = name := by
  obtain ⟨dir, rfl⟩ := List.getLast?_eq_some_iff.mp ends
  have passes : ∀ byte ∈ name.reverse, (byte != separator) = true := by
    intro byte member
    exact bne_iff_ne.mpr (plain byte (List.mem_reverse.mp member))
  unfold entryName
  rw [List.reverse_append, List.reverse_append, List.reverse_singleton, List.singleton_append,
    List.takeWhile_append_of_pos passes, List.takeWhile_cons_of_neg (by simp), List.append_nil,
    List.reverse_reverse]

private theorem digit_byte {char : Char} (digit : char.isDigit = true) :
    48 ≤ (UInt8.ofNat char.toNat).toNat ∧ (UInt8.ofNat char.toNat).toNat ≤ 57 ∧
      (UInt8.ofNat char.toNat).toNat = char.toNat := by
  have range := isDigit_range digit
  have same : (UInt8.ofNat char.toNat).toNat = char.toNat :=
    UInt8.toNat_ofNat_of_lt' (by simp only [UInt8.size]; omega)
  omega

private theorem numeral_byte {value : Nat} {byte : UInt8} (member : byte ∈ ascii (numeral value)) :
    48 ≤ byte.toNat ∧ byte.toNat ≤ 57 := by
  obtain ⟨char, written, rfl⟩ := List.mem_map.mp member
  have range := digit_byte (numeral_isDigit written)
  exact ⟨range.1, range.2.1⟩

private theorem ascii_numeral_inj {first second : Nat}
    (same : ascii (numeral first) = ascii (numeral second)) : first = second := by
  -- the digits can be read back from the bytes
  have restored (value : Nat) :
      (ascii (numeral value)).map (fun byte => Char.ofNat byte.toNat) = numeral value := by
    rw [ascii, List.map_map]
    apply (List.map_congr_left ?_).trans (List.map_id _)
    intro char written
    change Char.ofNat (UInt8.ofNat char.toNat).toNat = char
    rw [(digit_byte (numeral_isDigit written)).2.2, Char.ofNat_toNat]
  have chars : numeral first = numeral second := by
    rw [← restored first, same, restored]
  have parsed := parseDigits_numeral first
  rw [chars, parseDigits_numeral] at parsed
  exact (Option.some.inj parsed).symm

theorem stagingName_inj {pid other seq next : UInt32}
    (same : stagingName pid seq = stagingName other next) : pid = other ∧ seq = next := by
  have dash : ∀ value : UInt32, ∀ byte ∈ ascii (numeral value.toNat),
      (byte != 0x2D) = true := by
    intro value byte member
    have range := numeral_byte member
    rw [bne_iff_ne]
    intro equal
    rw [equal] at range
    exact absurd range.1 (by decide)
  have middle : ascii (numeral pid.toNat) ++ 0x2D :: ascii (numeral seq.toNat) =
      ascii (numeral other.toNat) ++ 0x2D :: ascii (numeral next.toNat) := by
    have inner := List.append_cancel_right same
    simp only [List.append_assoc] at inner
    exact List.append_cancel_left inner
  -- the first number ends at the dash
  have firsts := congrArg (List.takeWhile fun byte => byte != 0x2D) middle
  rw [List.takeWhile_append_of_pos (dash pid), List.takeWhile_append_of_pos (dash other),
    List.takeWhile_cons_of_neg (by decide), List.takeWhile_cons_of_neg (by decide),
    List.append_nil, List.append_nil] at firsts
  rw [firsts] at middle
  have seconds := List.append_cancel_left middle
  have pids := ascii_numeral_inj firsts
  have seqs := ascii_numeral_inj (List.cons.inj seconds).2
  exact ⟨UInt32.toNat_inj.mp pids, UInt32.toNat_inj.mp seqs⟩

private theorem stagingName_plain (pid seq : UInt32) :
    ∀ byte ∈ stagingName pid seq, byte ≠ separator := by
  intro byte member
  simp only [stagingName, List.mem_append] at member
  rcases member with (((front | first) | between) | second) | back
  · revert byte
    simp [ascii, separator]
  · intro same
    rw [same] at first
    exact absurd (numeral_byte first).1 (by decide)
  · revert byte
    simp [ascii, separator]
  · intro same
    rw [same] at second
    exact absurd (numeral_byte second).1 (by decide)
  · revert byte
    simp [ascii, separator]

theorem entryName_stagingPath (path : OsPath) (pid seq : UInt32) :
    entryName (stagingPath path pid seq) = stagingName pid seq := by
  unfold stagingPath OsPath.join
  split
  · next ends =>
      exact entryName_append (stagingName_plain pid seq)
        (ends.resolve_left (stagingDir_ne_nil path))
  · rw [List.append_cons]
    exact entryName_append (stagingName_plain pid seq) List.getLast?_concat

end Handoff.Sock
