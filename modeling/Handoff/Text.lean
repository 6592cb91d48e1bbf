/-
Text as the Rust standard library reads and writes it: trimming, decimal
numerals, and lists joined and split at one character.

`str::parse` for an integer type accepts one sign that the type has, at least
one digit and nothing else, and fails when the value leaves the range.
-/

import Mathlib.Data.List.Basic

namespace Handoff

/-! ### Trimming -/

/-- `char::is_whitespace`: the Unicode property `White_Space`. -/
def isWhitespace (char : Char) : Bool :=
  let code := char.toNat
  (0x09 ≤ code && code ≤ 0x0D) || code == 0x20 || code == 0x85 || code == 0xA0 ||
    code == 0x1680 || (0x2000 ≤ code && code ≤ 0x200A) || code == 0x2028 || code == 0x2029 ||
    code == 0x202F || code == 0x205F || code == 0x3000

def trimText (text : List Char) : List Char :=
  ((text.dropWhile isWhitespace).reverse.dropWhile isWhitespace).reverse

/-! ### Numerals -/

def parseDigits (digits : List Char) : Option Nat :=
  if digits ≠ [] ∧ digits.all Char.isDigit = true then some (Nat.ofDigitChars 10 digits 0) else none

/-- `parse` for the unsigned type whose values lie below `bound`. -/
def parseUnsigned (bound : Nat) (text : List Char) : Option Nat :=
  let value := match text with
    | '+' :: digits => parseDigits digits
    | digits => parseDigits digits
  value.filter (· < bound)

/-- `parse` for the signed type whose values lie in `-bound ..< bound`. -/
def parseSigned (bound : Nat) (text : List Char) : Option Int :=
  match text with
  | '-' :: digits => ((parseDigits digits).filter (· ≤ bound)).map fun value => -(value : Int)
  | '+' :: digits => ((parseDigits digits).filter (· < bound)).map fun value => (value : Int)
  | digits => ((parseDigits digits).filter (· < bound)).map fun value => (value : Int)

/-- `to_string` for a number that is not negative. -/
def numeral (value : Nat) : List Char := (toString value).toList

theorem numeral_eq (value : Nat) : numeral value = Nat.toDigits 10 value := by
  rw [numeral, Nat.toString_eq_ofList_toDigits, String.toList_ofList]

theorem numeral_isDigit {value : Nat} {char : Char} (member : char ∈ numeral value) :
    char.isDigit = true := by
  rw [numeral_eq] at member
  exact Nat.isDigit_of_mem_toDigits (by decide) (by decide) member

theorem parseDigits_numeral (value : Nat) : parseDigits (numeral value) = some value := by
  have digits : (numeral value).all Char.isDigit = true :=
    List.all_eq_true.mpr fun _ member => numeral_isDigit member
  have written : numeral value ≠ [] := by
    rw [numeral_eq]
    exact Nat.toDigits_ne_nil
  rw [parseDigits, if_pos ⟨written, digits⟩, numeral_eq,
    Nat.ofDigitChars_toDigits (by decide) (by decide)]

theorem numeral_cons (value : Nat) :
    ∃ first rest, numeral value = first :: rest ∧ first ≠ '+' ∧ first ≠ '-' := by
  have written : numeral value ≠ [] := by
    rw [numeral_eq]
    exact Nat.toDigits_ne_nil
  obtain ⟨first, rest, shape⟩ := List.exists_cons_of_ne_nil written
  have digit : first.isDigit = true := by
    apply numeral_isDigit
    rw [shape]
    exact List.mem_cons_self
  refine ⟨first, rest, shape, ?_, ?_⟩ <;>
  · intro same
    rw [same] at digit
    exact absurd digit (by decide)

theorem parseUnsigned_numeral {bound value : Nat} (fits : value < bound) :
    parseUnsigned bound (numeral value) = some value := by
  obtain ⟨first, rest, shape, unsigned, _⟩ := numeral_cons value
  have parsed := parseDigits_numeral value
  rw [shape] at parsed ⊢
  unfold parseUnsigned
  split
  · rename_i digits same
    exact absurd (List.cons.inj same).1 unsigned
  · rw [parsed, Option.filter_some, if_pos (decide_eq_true fits)]

theorem parseSigned_numeral {bound value : Nat} (fits : value < bound) :
    parseSigned bound (numeral value) = some (value : Int) := by
  obtain ⟨first, rest, shape, noPlus, noMinus⟩ := numeral_cons value
  have parsed := parseDigits_numeral value
  rw [shape] at parsed ⊢
  unfold parseSigned
  split
  · rename_i digits same
    exact absurd (List.cons.inj same).1 noMinus
  · rename_i digits same
    exact absurd (List.cons.inj same).1 noPlus
  · rw [parsed, Option.filter_some, if_pos (decide_eq_true fits)]
    rfl

theorem isDigit_range {char : Char} (digit : char.isDigit = true) :
    48 ≤ char.toNat ∧ char.toNat ≤ 57 := by
  simp only [Char.isDigit, Bool.and_eq_true, decide_eq_true_eq] at digit
  exact digit

theorem isWhitespace_of_isDigit {char : Char} (digit : char.isDigit = true) :
    isWhitespace char = false := by
  have range := isDigit_range digit
  unfold isWhitespace
  simp only [Bool.or_eq_false_iff, Bool.and_eq_false_iff, decide_eq_false_iff_not,
    beq_eq_false_iff_ne]
  omega

theorem dropWhile_digits {text : List Char} (some : text ≠ [])
    (digits : ∀ char ∈ text, char.isDigit = true) (more : List Char) :
    (text ++ more).dropWhile isWhitespace = text ++ more := by
  cases text with
  | nil => contradiction
  | cons first rest =>
      have plain := isWhitespace_of_isDigit (digits first List.mem_cons_self)
      exact List.dropWhile_cons_of_neg (Bool.eq_false_iff.mp plain)

theorem trimText_numeral (value : Nat) : trimText (numeral value ++ ['\n']) = numeral value := by
  have written : numeral value ≠ [] := by
    rw [numeral_eq]
    exact Nat.toDigits_ne_nil
  have backwards := dropWhile_digits (List.reverse_ne_nil_iff.mpr written)
    (fun char member => numeral_isDigit (List.mem_reverse.mp member)) []
  rw [List.append_nil] at backwards
  unfold trimText
  rw [dropWhile_digits written fun char member => numeral_isDigit member, List.reverse_append,
    List.reverse_singleton, List.singleton_append, List.dropWhile_cons_of_pos (by decide),
    backwards, List.reverse_reverse]

/-! ### Joining and splitting -/

/-- `names.join(sep)` for a separator of one character. -/
def joinAt (separator : Char) (names : List String) : String :=
  String.ofList ([separator].intercalate (names.map String.toList))

/-- `text.split(sep)`. -/
def splitAtChar (separator : Char) (text : String) : List String :=
  (text.toList.splitOn separator).map String.ofList

theorem splitAtChar_joinAt {separator : Char} {names : List String}
    (plain : ∀ name ∈ names, separator ∉ name.toList) (some : names ≠ []) :
    splitAtChar separator (joinAt separator names) = names := by
  rw [splitAtChar, joinAt, String.toList_ofList, List.splitOn_intercalate]
  · simp
  · intro chars member
    obtain ⟨name, inNames, rfl⟩ := List.mem_map.mp member
    exact plain name inNames
  · simpa using some

private theorem not_mem_of_mem_splitOn {separator : Char} {text part : List Char}
    (member : part ∈ text.splitOn separator) : separator ∉ part := by
  unfold List.splitOn at member
  induction text generalizing part with
  | nil =>
      rw [List.splitOnP_nil, List.mem_singleton] at member
      rw [member]
      exact List.not_mem_nil
  | cons char rest ih =>
      obtain ⟨first, others, shape⟩ := List.exists_cons_of_ne_nil
        (List.splitOnP_ne_nil (· == separator) rest)
      rw [List.splitOnP_cons_eq_if_modifyHead] at member
      split at member
      · rcases List.mem_cons.mp member with empty | later
        · rw [empty]
          exact List.not_mem_nil
        · exact ih later
      · next different =>
          rw [shape, List.modifyHead_cons] at member
          rcases List.mem_cons.mp member with extended | later
          · rw [extended, List.mem_cons, not_or]
            refine ⟨fun same => different (beq_iff_eq.mpr same.symm), ih ?_⟩
            rw [shape]
            exact List.mem_cons_self
          · apply ih
            rw [shape]
            exact List.mem_cons_of_mem _ later

theorem splitAtChar_plain {separator : Char} {text name : String}
    (part : name ∈ splitAtChar separator text) : separator ∉ name.toList := by
  obtain ⟨chars, inParts, rfl⟩ := List.mem_map.mp part
  rw [String.toList_ofList]
  exact not_mem_of_mem_splitOn inParts

end Handoff
