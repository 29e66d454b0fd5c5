/- GID: BouclierBleu/Library/Doubles
   source: none (general)
   digest: Natural numbers rounded to a number of significant bits, and back to a word. -/

import Mathlib.Algebra.Group.Nat.Defs
import Mathlib.Data.Nat.Size

set_option autoImplicit false
set_option relaxedAutoImplicit false

namespace BouclierBleu.Library.Doubles

/-- The nearest number with that many significant bits, the even one of two that are as near. -/
def roundSignificand (bits n : Nat) : Nat :=
  let unit := 2 ^ (n.size - bits)
  let kept := n / unit
  let rest := n % unit
  if 2 * rest > unit || 2 * rest == unit && kept % 2 == 1 then (kept + 1) * unit
  else kept * unit

/-- What fits is kept as it is. -/
theorem roundSignificand_of_lt {bits n : Nat} (fits : n < 2 ^ bits) :
    roundSignificand bits n = n := by
  have unit : n.size - bits = 0 := Nat.sub_eq_zero_of_le (Nat.size_le.mpr fits)
  simp [roundSignificand, unit, Nat.mod_one]

/-- A conversion to 32 bits that stops at the largest word. -/
def saturateU32 (n : Nat) : UInt32 := if n < 2 ^ 32 then UInt32.ofNat n else 0xFFFFFFFF

theorem saturateU32_toNat {n : Nat} (fits : n < 2 ^ 32) : (saturateU32 n).toNat = n := by
  rw [saturateU32, if_pos fits]
  exact UInt32.toNat_ofNat_of_lt' fits

example : roundSignificand 3 25 = 24 ∧ roundSignificand 3 26 = 24 ∧ roundSignificand 3 30 = 32 := by
  decide

end BouclierBleu.Library.Doubles
