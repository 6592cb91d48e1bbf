/-
The postcard wire format.

A format writes a value as bytes and takes one off the front of a byte string.
It carries the law that makes it self-delimiting: whatever follows the bytes of
a value, the value comes back and what follows is left.  Lengths are written in
64 bits, so the law is about values whose bytes can be counted in 64 bits.

The formats are built like the data model they serve: integers as varints,
sequences behind their length, arrays and records element by element, an
enumeration as its variant index and the fields of the variant.
-/

import Mathlib.Data.List.Basic
import Mathlib.Data.Nat.Init
import Mathlib.Tactic.Ring

namespace Handoff.Postcard

abbrev Bytes : Type := List UInt8

/-- `postcard::Error`, as far as decoding can fail. -/
inductive DecodeError where
  | unexpectedEnd
  | badVarint
  | badBool
  | badUtf8
  | badOption
  | custom
  deriving DecidableEq, Repr

/-- The display texts of the crate. -/
def DecodeError.display : DecodeError → String
  | .unexpectedEnd => "Hit the end of buffer, expected more data"
  | .badVarint =>
      "Found a varint that didn't terminate. Is the usize too big for this platform?"
  | .badBool => "Found a bool that wasn't 0 or 1"
  | .badUtf8 => "Tried to parse invalid utf-8"
  | .badOption => "Found an Option discriminant that wasn't 0 or 1"
  | .custom => "Serde Deserialization Error"

structure Format (Value : Type) where
  put : Value → Bytes
  take : Bytes → Except DecodeError (Value × Bytes)
  exact : ∀ value, (put value).length < 2 ^ 64 → ∀ rest, take (put value ++ rest) = .ok (value, rest)

namespace Format

variable {Value Other : Type}

/-! ### Records -/

def pair (first : Format Value) (second : Format Other) : Format (Value × Other) where
  put value := first.put value.1 ++ second.put value.2
  take bytes := do
    let (value, bytes) ← first.take bytes
    let (other, bytes) ← second.take bytes
    .ok ((value, other), bytes)
  exact := by
    intro value short rest
    rw [List.length_append] at short
    rw [List.append_assoc, first.exact value.1 (by omega)]
    simp only [bind, Except.bind]
    rw [second.exact value.2 (by omega)]

def iso (format : Format Value) (read : Value → Other) (write : Other → Value)
    (law : ∀ value, read (write value) = value) : Format Other where
  put value := format.put (write value)
  take bytes := do
    let (value, bytes) ← format.take bytes
    .ok (read value, bytes)
  exact := by
    intro value short rest
    rw [format.exact _ short]
    simp only [bind, Except.bind, law]

/-! ### Integers -/

def popByte : Bytes → Except DecodeError (UInt8 × Bytes)
  | [] => .error .unexpectedEnd
  | byte :: rest => .ok (byte, rest)

def byte : Format UInt8 where
  put value := [value]
  take := popByte
  exact := by
    intro value _ rest
    rfl

/-- Seven bits per byte, the lowest first, with the top bit set on every byte
but the last; at most `count` bytes. -/
def putVarint : Nat → Nat → Bytes
  | 0, _ => []
  | count + 1, value =>
      if value < 128 then [UInt8.ofNat value]
      else UInt8.ofNat (value % 128 + 128) :: putVarint count (value / 128)

theorem putVarint_length (count value : Nat) : (putVarint count value).length ≤ count := by
  induction count generalizing value with
  | zero => exact Nat.le_refl 0
  | succ count ih =>
      unfold putVarint
      split
      · exact Nat.succ_le_succ (Nat.zero_le count)
      · exact Nat.succ_le_succ (ih (value / 128))

/-- `last` is the largest value of the last byte that the width has room for. -/
def takeVarint (last : Nat) : Nat → Nat → Nat → Bytes → Except DecodeError (Nat × Bytes)
  | 0, _, _, _ => .error .badVarint
  | count + 1, shift, sum, bytes => do
      let (byte, bytes) ← popByte bytes
      let sum := sum + byte.toNat % 128 * 2 ^ shift
      if byte.toNat < 128 then
        if count = 0 ∧ last < byte.toNat then .error .badVarint else .ok (sum, bytes)
      else takeVarint last count (shift + 7) sum bytes

theorem takeVarint_putVarint (extra : Nat) (narrow : extra < 7) (count value shift sum : Nat)
    (fits : value < 2 ^ (7 * count + extra)) (rest : Bytes) :
    takeVarint (2 ^ extra - 1) (count + 1) shift sum (putVarint (count + 1) value ++ rest) =
      .ok (sum + value * 2 ^ shift, rest) := by
  have room : 2 ^ extra ≤ 2 ^ 6 := Nat.pow_le_pow_right (by decide) (by omega)
  induction count generalizing value shift sum with
  | zero =>
      rw [Nat.mul_zero, Nat.zero_add] at fits
      have small : value < 128 := by omega
      have kept : (UInt8.ofNat value).toNat = value :=
        UInt8.toNat_ofNat_of_lt (by unfold UInt8.size; omega)
      rw [putVarint, if_pos small]
      simp only [takeVarint, List.singleton_append, popByte, bind, Except.bind, kept]
      rw [if_pos small, if_neg (by omega), Nat.mod_eq_of_lt small]
  | succ count ih =>
      rw [putVarint]
      by_cases small : value < 128
      · have kept : (UInt8.ofNat value).toNat = value :=
          UInt8.toNat_ofNat_of_lt (by unfold UInt8.size; omega)
        rw [if_pos small, takeVarint]
        simp only [List.singleton_append, popByte, bind, Except.bind, kept]
        rw [if_pos small, if_neg (by omega), Nat.mod_eq_of_lt small]
      · have kept : (UInt8.ofNat (value % 128 + 128)).toNat = value % 128 + 128 :=
          UInt8.toNat_ofNat_of_lt (by unfold UInt8.size; omega)
        have fewer : value / 128 < 2 ^ (7 * count + extra) := by
          rw [Nat.div_lt_iff_lt_mul (by decide)]
          have wider : 7 * (count + 1) + extra = 7 * count + extra + 7 := by omega
          rw [wider, Nat.pow_add] at fits
          exact fits
        rw [if_neg small, takeVarint]
        simp only [List.cons_append, popByte, bind, Except.bind, kept]
        rw [if_neg (by omega), ih (value / 128) (shift + 7) _ fewer]
        have low : (value % 128 + 128) % 128 = value % 128 := by omega
        have split : value % 128 * 2 ^ shift + value / 128 * 2 ^ (shift + 7) = value * 2 ^ shift := by
          rw [Nat.pow_add]
          calc value % 128 * 2 ^ shift + value / 128 * (2 ^ shift * 2 ^ 7)
              = (value % 128 + 128 * (value / 128)) * 2 ^ shift := by ring
            _ = value * 2 ^ shift := by rw [Nat.mod_add_div]
        rw [low, Nat.add_assoc, split]

/-- An unsigned integer of `7 * count + extra` bits. -/
def varint (count extra : Nat) (narrow : extra < 7) :
    Format { value : Nat // value < 2 ^ (7 * count + extra) } where
  put value := putVarint (count + 1) value.1
  take bytes := do
    let (value, bytes) ← takeVarint (2 ^ extra - 1) (count + 1) 0 0 bytes
    -- the check on the last byte keeps the value in range
    if fits : value < 2 ^ (7 * count + extra) then .ok (⟨value, fits⟩, bytes)
    else .error .badVarint
  exact := by
    intro value _ rest
    rw [takeVarint_putVarint extra narrow count value.1 0 0 value.2]
    simp only [bind, Except.bind, Nat.zero_add, Nat.pow_zero, Nat.mul_one]
    rw [dif_pos value.2]

def u16 : Format UInt16 :=
  (varint 2 2 (by decide)).iso (fun value => UInt16.ofNat value.1)
    (fun value => ⟨value.toNat, value.toNat_lt⟩) (fun _ => UInt16.ofNat_toNat)

def u32 : Format UInt32 :=
  (varint 4 4 (by decide)).iso (fun value => UInt32.ofNat value.1)
    (fun value => ⟨value.toNat, value.toNat_lt⟩) (fun _ => UInt32.ofNat_toNat)

def u64 : Format UInt64 :=
  (varint 9 1 (by decide)).iso (fun value => UInt64.ofNat value.1)
    (fun value => ⟨value.toNat, value.toNat_lt⟩) (fun _ => UInt64.ofNat_toNat)

def bool : Format Bool where
  put value := [if value then 1 else 0]
  take bytes := do
    let (byte, bytes) ← popByte bytes
    if byte = 0 then .ok (false, bytes) else if byte = 1 then .ok (true, bytes)
    else .error .badBool
  exact := by
    intro value _ rest
    cases value <;> rfl

def option (format : Format Value) : Format (Option Value) where
  put
    | none => [0]
    | some value => 1 :: format.put value
  take bytes := do
    let (byte, bytes) ← popByte bytes
    if byte = 0 then .ok (none, bytes)
    else if byte = 1 then do
      let (value, bytes) ← format.take bytes
      .ok (some value, bytes)
    else .error .badOption
  exact := by
    intro value short rest
    cases value with
    | none => rfl
    | some value =>
        rw [List.length_cons] at short
        simp only [List.cons_append, popByte, bind, Except.bind]
        rw [if_neg (by decide), if_pos trivial, format.exact value (by omega)]

/-! ### Sequences -/

def takeMany (take : Bytes → Except DecodeError (Value × Bytes)) :
    Nat → Bytes → Except DecodeError (List Value × Bytes)
  | 0, bytes => .ok ([], bytes)
  | count + 1, bytes => do
      let (value, bytes) ← take bytes
      let (values, bytes) ← takeMany take count bytes
      .ok (value :: values, bytes)

theorem takeMany_flatMap (format : Format Value) (values : List Value)
    (short : (values.flatMap format.put).length < 2 ^ 64) (rest : Bytes) :
    takeMany format.take values.length (values.flatMap format.put ++ rest) = .ok (values, rest) := by
  induction values with
  | nil => rfl
  | cons value values ih =>
      rw [List.flatMap_cons, List.length_append] at short
      rw [List.length_cons, takeMany, List.flatMap_cons, List.append_assoc,
        format.exact value (by omega)]
      simp only [bind, Except.bind]
      rw [ih (by omega)]

def length : Format { value : Nat // value < 2 ^ 64 } := varint 9 1 (by decide)

/-- A sequence behind its length.  Every element takes at least one byte, so a
sequence with few bytes has few elements. -/
def seq (format : Format Value) (solid : ∀ value, format.put value ≠ []) :
    Format (List Value) where
  put values := putVarint 10 values.length ++ values.flatMap format.put
  take bytes := do
    let (count, bytes) ← length.take bytes
    takeMany format.take count.1 bytes
  exact := by
    intro values short rest
    rw [List.length_append] at short
    have counted : values.length ≤ (values.flatMap format.put).length := by
      clear short
      induction values with
      | nil => exact Nat.le_refl 0
      | cons value values ih =>
          have some := List.length_pos_of_ne_nil (solid value)
          rw [List.flatMap_cons, List.length_append, List.length_cons]
          omega
    have fits : values.length < 2 ^ 64 := by omega
    have read := length.exact ⟨values.length, fits⟩
      (by change (putVarint 10 values.length).length < _; omega)
    rw [List.append_assoc, show putVarint 10 values.length = length.put ⟨values.length, fits⟩
      from rfl, read]
    exact takeMany_flatMap format values (by omega) rest

def bytes : Format Bytes := seq byte fun value => List.cons_ne_nil value []

theorem flatMap_byte (values : Bytes) : values.flatMap byte.put = values := by
  induction values with
  | nil => rfl
  | cons value values ih => rw [List.flatMap_cons, ih]; rfl

/-- A byte string of one length only, checked by the visitor. -/
def bytesOf (size : Nat) : Format { value : Bytes // value.length = size } where
  put value := bytes.put value.1
  take input := do
    let (value, rest) ← bytes.take input
    if fits : value.length = size then .ok (⟨value, fits⟩, rest) else .error .custom
  exact := by
    intro value short rest
    rw [bytes.exact value.1 short]
    simp only [bind, Except.bind]
    rw [dif_pos value.2]

def array (size : Nat) : Format (Vector UInt8 size) where
  put value := value.toList
  take input := do
    let (values, rest) ← takeMany popByte size input
    if fits : values.length = size then .ok (⟨values.toArray, by simpa using fits⟩, rest)
    else .error .unexpectedEnd
  exact := by
    intro value short rest
    have read := takeMany_flatMap byte value.toList (by rw [flatMap_byte]; exact short) rest
    rw [flatMap_byte, Vector.length_toList] at read
    rw [show popByte = byte.take from rfl, read]
    simp only [bind, Except.bind]
    rw [dif_pos (Vector.length_toList)]
    have same : value.toList.toArray = value.toArray := Array.toArray_toList
    simp only [same]

/-- Text as its UTF-8 bytes behind their number. -/
def string : Format String where
  put value := bytes.put value.toByteArray.data.toList
  take input := do
    let (value, rest) ← bytes.take input
    match String.fromUTF8? ⟨value.toArray⟩ with
    | some text => .ok (text, rest)
    | none => .error .badUtf8
  exact := by
    intro value short rest
    rw [bytes.exact _ short]
    simp only [bind, Except.bind, Array.toArray_toList]
    have valid : String.fromUTF8? ⟨value.toByteArray.data⟩ = some value := by
      unfold String.fromUTF8?
      rw [dif_pos value.isValidUTF8]
      rfl
    rw [valid]

/-! ### Enumerations -/

end Format

/-- One variant of an enumeration: its fields, how a value is built from them
and how they are found in a value. -/
structure Variant (Value : Type) where
  Payload : Type
  format : Format Payload
  build : Payload → Value
  payload? : Value → Option Payload
  law : ∀ value payload, payload? value = some payload → build payload = value

namespace Format

variable {Value : Type}

def putVariant : List (Variant Value) → Nat → Value → Bytes
  | [], _, _ => []
  | variant :: rest, index, value =>
      match variant.payload? value with
      | some payload => putVarint 5 index ++ variant.format.put payload
      | none => putVariant rest (index + 1) value

def takeVariant (variants : List (Variant Value)) (input : Bytes) :
    Except DecodeError (Value × Bytes) := do
  let (index, rest) ← u32.take input
  match variants[index.toNat]? with
  | none => .error .custom
  | some variant => do
      let (payload, rest) ← variant.format.take rest
      .ok (variant.build payload, rest)

theorem takeVariant_putVariant (before after : List (Variant Value))
    (few : (before ++ after).length ≤ 2 ^ 32) (value : Value)
    (covered : ∃ variant ∈ after, (variant.payload? value).isSome = true)
    (short : (putVariant after before.length value).length < 2 ^ 64) (rest : Bytes) :
    takeVariant (before ++ after) (putVariant after before.length value ++ rest) =
      .ok (value, rest) := by
  induction after generalizing before with
  | nil =>
      obtain ⟨variant, member, _⟩ := covered
      cases member
  | cons variant after ih =>
      cases found : variant.payload? value with
      | some payload =>
          simp only [putVariant, found] at short ⊢
          rw [List.length_append] at short
          rw [List.length_append, List.length_cons] at few
          have index : before.length < 2 ^ 32 := by omega
          have kept : (UInt32.ofNat before.length).toNat = before.length :=
            UInt32.toNat_ofNat_of_lt index
          have written : putVarint 5 before.length = u32.put (UInt32.ofNat before.length) := by
            change _ = putVarint 5 (UInt32.ofNat before.length).toNat
            rw [kept]
          rw [written] at short
          rw [written, List.append_assoc, takeVariant, u32.exact _ (by omega)]
          simp only [bind, Except.bind, kept]
          rw [List.getElem?_append_right (Nat.le_refl _), Nat.sub_self, List.getElem?_cons_zero]
          simp only
          rw [variant.format.exact payload (by omega)]
          simp only [variant.law value payload found]
      | none =>
          simp only [putVariant, found] at short ⊢
          have further := ih (before ++ [variant]) (by simpa using few) (by
            obtain ⟨other, member, some⟩ := covered
            rcases List.mem_cons.mp member with same | later
            · rw [same, found] at some
              contradiction
            · exact ⟨other, later, some⟩)
          rw [List.length_append, List.length_singleton, List.append_assoc,
            List.singleton_append] at further
          exact further short

/-- An enumeration, given by its variants in order. -/
def enum (variants : List (Variant Value)) (few : variants.length ≤ 2 ^ 32)
    (covered : ∀ value, ∃ variant ∈ variants, (variant.payload? value).isSome = true) :
    Format Value where
  put := putVariant variants 0
  take := takeVariant variants
  exact := by
    intro value short rest
    exact takeVariant_putVariant [] variants few value (covered value) short rest

end Format

end Handoff.Postcard
