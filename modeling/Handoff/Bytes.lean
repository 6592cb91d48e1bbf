/-
Fixed-width integers as bytes: `to_le_bytes` and `from_le_bytes`.
-/

import Mathlib.Data.List.Basic
import Mathlib.Tactic.Ring

namespace Handoff

/-- The low `size` bytes of a number, the lowest first. -/
def leBytes : Nat → Nat → List UInt8
  | 0, _ => []
  | size + 1, value => UInt8.ofNat (value % 256) :: leBytes size (value / 256)

def leValue : List UInt8 → Nat
  | [] => 0
  | byte :: rest => byte.toNat + 256 * leValue rest

@[simp]
theorem leBytes_length (size value : Nat) : (leBytes size value).length = size := by
  induction size generalizing value with
  | zero => rfl
  | succ size ih => rw [leBytes, List.length_cons, ih]

theorem leValue_leBytes {size value : Nat} (fits : value < 256 ^ size) :
    leValue (leBytes size value) = value := by
  induction size generalizing value with
  | zero =>
      rw [Nat.pow_zero] at fits
      exact (Nat.lt_one_iff.mp fits).symm
  | succ size ih =>
      have fewer : value / 256 < 256 ^ size := by
        rw [Nat.div_lt_iff_lt_mul (by decide), ← Nat.pow_succ]
        exact fits
      have byte : (UInt8.ofNat (value % 256)).toNat = value % 256 :=
        UInt8.toNat_ofNat_of_lt (Nat.mod_lt value (by decide))
      rw [leBytes, leValue, ih fewer, byte, Nat.mod_add_div]

end Handoff
