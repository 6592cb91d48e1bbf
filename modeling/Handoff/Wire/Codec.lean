/-
The payloads of `protocol.rs` and `state.rs`, as the derived `Serialize` and
`Deserialize` write and read them: the variants of an enumeration in the order
of their declaration, the fields of a variant or a record in theirs.

A `Uuid` is serialized as a byte string of its sixteen bytes, the most
significant first.
-/

import Handoff.Bytes
import Handoff.Postcard.Format
import Handoff.Supervisor.Ops

namespace Handoff

open Postcard (Format Variant)

/-! ### Fields -/

def uuidBytes (uuid : BitVec 128) : List UInt8 := (leBytes 16 uuid.toNat).reverse

def uuidOfBytes (bytes : List UInt8) : BitVec 128 := BitVec.ofNat 128 (leValue bytes.reverse)

theorem uuidOfBytes_uuidBytes (uuid : BitVec 128) : uuidOfBytes (uuidBytes uuid) = uuid := by
  have fits : uuid.toNat < 256 ^ 16 := uuid.isLt
  rw [uuidOfBytes, uuidBytes, List.reverse_reverse, leValue_leBytes fits, BitVec.ofNat_toNat,
    BitVec.setWidth_eq]

def handoffIdFormat : Format HandoffId :=
  (Format.bytesOf 16).iso (fun bytes => ⟨uuidOfBytes bytes.1⟩)
    (fun id => ⟨uuidBytes id.uuid, by rw [uuidBytes, List.length_reverse, leBytes_length]⟩)
    (fun id => by rw [uuidOfBytes_uuidBytes])

def unitVariant {Value : Type} [DecidableEq Value] (only : Value) : Variant Value where
  Payload := Unit
  format :=
    { put := fun _ => []
      take := fun bytes => .ok ((), bytes)
      exact := fun _ _ _ => rfl }
  build _ := only
  payload? value := if value = only then some () else none
  law := by
    intro value payload found
    split at found
    · rename_i same
      exact same.symm
    · contradiction

def sideFormat : Format Side :=
  Format.enum [unitVariant .incumbent, unitVariant .successor] (by decide) (by
    intro side
    cases side
    · exact ⟨_, List.mem_cons_self, rfl⟩
    · exact ⟨_, List.mem_cons_of_mem _ List.mem_cons_self, rfl⟩)

def capabilitiesFormat : Format Capabilities :=
  Format.u64.iso (fun reserved => ⟨reserved⟩) Capabilities.reserved (fun _ => rfl)

theorem putVarint_ne_nil (count value : Nat) : Format.putVarint (count + 1) value ≠ [] := by
  rw [Format.putVarint]
  split <;> exact List.cons_ne_nil _ _

def revisionsFormat : Format (List UInt64) :=
  Format.u64.seq fun value => putVarint_ne_nil 9 value.toNat

def namesFormat : Format (List String) :=
  Format.string.seq fun value => by
    change Format.putVarint 10 _ ++ _ ≠ []
    exact List.append_ne_nil_of_left_ne_nil (putVarint_ne_nil 9 _) _

/-! ### Messages -/

def messageVariants : List (Variant Message) :=
  [
    { Payload := Side × UInt32 × List UInt8 × UInt16 × UInt16 × Capabilities
      format := sideFormat.pair (Format.u32.pair (Format.bytes.pair
        (Format.u16.pair (Format.u16.pair capabilitiesFormat))))
      build := fun (role, pid, buildId, least, most, capabilities) =>
        .hello role pid buildId least most capabilities
      payload?
        | .hello role pid buildId least most capabilities =>
          some (role, pid, buildId, least, most, capabilities)
        | _ => none
      law := by
        intro value payload found
        cases value <;> first | contradiction | (cases found; rfl) },
    { Payload := UInt16 × HandoffId
      format := Format.u16.pair handoffIdFormat
      build := fun (chosen, id) => .helloAck chosen id
      payload?
        | .helloAck chosen id => some (chosen, id)
        | _ => none
      law := by
        intro value payload found
        cases value <;> first | contradiction | (cases found; rfl) },
    { Payload := HandoffId × UInt32 × UInt64 × UInt64
      format := handoffIdFormat.pair (Format.u32.pair (Format.u64.pair Format.u64))
      build := fun (id, successorPid, deadlineMs, drainGraceMs) =>
        .prepareHandoff id successorPid deadlineMs drainGraceMs
      payload?
        | .prepareHandoff id successorPid deadlineMs drainGraceMs =>
          some (id, successorPid, deadlineMs, drainGraceMs)
        | _ => none
      law := by
        intro value payload found
        cases value <;> first | contradiction | (cases found; rfl) },
    { Payload := UInt32 × Bool
      format := Format.u32.pair Format.bool
      build := fun (openConns, acceptClosed) => .drained openConns acceptClosed
      payload?
        | .drained openConns acceptClosed => some (openConns, acceptClosed)
        | _ => none
      law := by
        intro value payload found
        cases value <;> first | contradiction | (cases found; rfl) },
    { Payload := HandoffId
      format := handoffIdFormat
      build := fun id => .sealRequest id
      payload?
        | .sealRequest id => some id
        | _ => none
      law := by
        intro value payload found
        cases value <;> first | contradiction | (cases found; rfl) },
    { Payload := UInt32 × UInt32 × UInt64
      format := Format.u32.pair (Format.u32.pair Format.u64)
      build := fun (shardsSealed, shardsTotal, lastRevision) =>
        .sealProgress shardsSealed shardsTotal lastRevision
      payload?
        | .sealProgress shardsSealed shardsTotal lastRevision =>
          some (shardsSealed, shardsTotal, lastRevision)
        | _ => none
      law := by
        intro value payload found
        cases value <;> first | contradiction | (cases found; rfl) },
    { Payload := HandoffId × List UInt64 × Vector UInt8 32
      format := handoffIdFormat.pair (revisionsFormat.pair (Format.array 32))
      build := fun (id, revisions, fingerprint) => .sealComplete id revisions fingerprint
      payload?
        | .sealComplete id revisions fingerprint => some (id, revisions, fingerprint)
        | _ => none
      law := by
        intro value payload found
        cases value <;> first | contradiction | (cases found; rfl) },
    { Payload := HandoffId × String × String
      format := handoffIdFormat.pair (Format.string.pair Format.string)
      build := fun (id, error, partialState) => .sealFailed id error partialState
      payload?
        | .sealFailed id error partialState => some (id, error, partialState)
        | _ => none
      law := by
        intro value payload found
        cases value <;> first | contradiction | (cases found; rfl) },
    { Payload := HandoffId
      format := handoffIdFormat
      build := fun id => .begin id
      payload?
        | .begin id => some id
        | _ => none
      law := by
        intro value payload found
        cases value <;> first | contradiction | (cases found; rfl) },
    { Payload := HandoffId × List String × Bool × List UInt64
      format := handoffIdFormat.pair (namesFormat.pair (Format.bool.pair revisionsFormat))
      build := fun (id, listeningOn, healthzOk, revisions) => .ready id listeningOn healthzOk revisions
      payload?
        | .ready id listeningOn healthzOk revisions => some (id, listeningOn, healthzOk, revisions)
        | _ => none
      law := by
        intro value payload found
        cases value <;> first | contradiction | (cases found; rfl) },
    { Payload := HandoffId
      format := handoffIdFormat
      build := fun id => .commit id
      payload?
        | .commit id => some id
        | _ => none
      law := by
        intro value payload found
        cases value <;> first | contradiction | (cases found; rfl) },
    { Payload := HandoffId × String
      format := handoffIdFormat.pair Format.string
      build := fun (id, reason) => .abort id reason
      payload?
        | .abort id reason => some (id, reason)
        | _ => none
      law := by
        intro value payload found
        cases value <;> first | contradiction | (cases found; rfl) },
    { Payload := HandoffId
      format := handoffIdFormat
      build := fun id => .resumeAfterAbort id
      payload?
        | .resumeAfterAbort id => some id
        | _ => none
      law := by
        intro value payload found
        cases value <;> first | contradiction | (cases found; rfl) },
    { Payload := UInt64
      format := Format.u64
      build := fun tsMs => .heartbeat tsMs
      payload?
        | .heartbeat tsMs => some tsMs
        | _ => none
      law := by
        intro value payload found
        cases value <;> first | contradiction | (cases found; rfl) }]

theorem messageVariants_covered (message : Message) :
    ∃ variant ∈ messageVariants, (variant.payload? message).isSome = true := by
  cases message with
  | hello => exact ⟨messageVariants[0], List.getElem_mem (by decide), rfl⟩
  | helloAck => exact ⟨messageVariants[1], List.getElem_mem (by decide), rfl⟩
  | prepareHandoff => exact ⟨messageVariants[2], List.getElem_mem (by decide), rfl⟩
  | drained => exact ⟨messageVariants[3], List.getElem_mem (by decide), rfl⟩
  | sealRequest => exact ⟨messageVariants[4], List.getElem_mem (by decide), rfl⟩
  | sealProgress => exact ⟨messageVariants[5], List.getElem_mem (by decide), rfl⟩
  | sealComplete => exact ⟨messageVariants[6], List.getElem_mem (by decide), rfl⟩
  | sealFailed => exact ⟨messageVariants[7], List.getElem_mem (by decide), rfl⟩
  | begin => exact ⟨messageVariants[8], List.getElem_mem (by decide), rfl⟩
  | ready => exact ⟨messageVariants[9], List.getElem_mem (by decide), rfl⟩
  | commit => exact ⟨messageVariants[10], List.getElem_mem (by decide), rfl⟩
  | abort => exact ⟨messageVariants[11], List.getElem_mem (by decide), rfl⟩
  | resumeAfterAbort => exact ⟨messageVariants[12], List.getElem_mem (by decide), rfl⟩
  | heartbeat => exact ⟨messageVariants[13], List.getElem_mem (by decide), rfl⟩

def messageFormat : Format Message :=
  Format.enum messageVariants (by decide) messageVariants_covered

example : messageFormat.put (.heartbeat 300) = [13, 0xAC, 0x02] := by decide +kernel

/-! ### The journal -/

def phaseFormat : Format Phase :=
  Format.enum ([.negotiating, .draining, .sealing, .awaitingReady, .committed,
    .resumingAfterAbort].map unitVariant) (by decide) (by
    intro phase
    refine ⟨unitVariant phase, List.mem_map_of_mem (by cases phase <;> decide), ?_⟩
    change (if phase = phase then some () else none).isSome = true
    rw [if_pos rfl]
    rfl)

def journalFormat : Format StateJournal :=
  (handoffIdFormat.pair (phaseFormat.pair (Format.u32.pair
    ((Format.option Format.u32).pair Format.u64)))).iso
    (fun (id, phase, incumbentPid, successorPid, startedAtUnixMs) =>
      ⟨id, phase, incumbentPid, successorPid, startedAtUnixMs⟩)
    (fun journal => (journal.handoffId, journal.phase, journal.incumbentPid, journal.successorPid,
      journal.startedAtUnixMs))
    (fun _ => rfl)

end Handoff
