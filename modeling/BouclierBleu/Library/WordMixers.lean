/- GID: BouclierBleu/Library/WordMixers
   source: none (general)
   digest: Mixers of machine words in rounds of xor-shifts and odd multiplications are bijective. -/

import Mathlib.Data.Fintype.EquivFin
import Mathlib.Data.Nat.ModEq
import Mathlib.Data.Nat.Prime.Basic

set_option autoImplicit false
set_option relaxedAutoImplicit false

namespace BouclierBleu.Library.WordMixers

variable {w : Nat}

/-- A step that loses nothing of a word: one that did could not be built. -/
inductive Round (w : Nat)
  | xorShift (shift : Nat) (positive : 0 < shift)
  | multiply (factor : BitVec w) (odd : Odd factor.toNat)

def Round.apply : Round w → BitVec w → BitVec w
  | .xorShift shift _, x => x ^^^ x >>> shift
  | .multiply factor _, x => x * factor

/-- The rounds from the first to the last. -/
def mix (rounds : List (Round w)) (x : BitVec w) : BitVec w :=
  rounds.foldl (fun x round => round.apply x) x

@[simp] theorem mix_nil (x : BitVec w) : mix [] x = x := rfl

@[simp] theorem mix_cons (round : Round w) (rounds : List (Round w)) (x : BitVec w) :
    mix (round :: rounds) x = mix rounds (round.apply x) := rfl

/-- A shift by at least one place makes every other word smaller. -/
theorem eq_zero_of_shift_eq {shift : Nat} (positive : 0 < shift) {d : BitVec w}
    (fixed : d >>> shift = d) : d = 0 := by
  have quotient : d.toNat / 2 ^ shift = d.toNat := by
    rw [← Nat.shiftRight_eq_div_pow, ← BitVec.toNat_ushiftRight, fixed]
  have large : 1 < 2 ^ shift := Nat.one_lt_two_pow (Nat.ne_of_gt positive)
  by_contra nonzero
  have some_bit : 0 < d.toNat := by
    rw [Nat.pos_iff_ne_zero]
    exact fun zero => nonzero (BitVec.eq_of_toNat_eq zero)
  exact absurd quotient (Nat.ne_of_lt (Nat.div_lt_self some_bit large))

/-- Words with one xor-shift differ by a word that the shift does not change. -/
theorem xorShift_injective {shift : Nat} (positive : 0 < shift) :
    Function.Injective fun x : BitVec w => x ^^^ x >>> shift := by
  intro x y same
  have fixed : (x ^^^ y) >>> shift = x ^^^ y :=
    calc (x ^^^ y) >>> shift
        = x >>> shift ^^^ y >>> shift := BitVec.ushiftRight_xor_distrib x y shift
      _ = x ^^^ (x ^^^ x >>> shift) ^^^ y >>> shift := by
        rw [← BitVec.xor_assoc, BitVec.xor_self, BitVec.zero_xor]
      _ = x ^^^ (y ^^^ y >>> shift) ^^^ y >>> shift := by
        rw [show x ^^^ x >>> shift = y ^^^ y >>> shift from same]
      _ = x ^^^ y := by
        rw [BitVec.xor_assoc, BitVec.xor_assoc, BitVec.xor_self, BitVec.xor_zero]
  exact BitVec.xor_eq_zero_iff.mp (eq_zero_of_shift_eq positive fixed)

/-- An odd factor is prime to the number of words. -/
theorem multiply_injective {factor : BitVec w} (odd : Odd factor.toNat) :
    Function.Injective fun x : BitVec w => x * factor := by
  intro x y same
  have coprime : Nat.gcd (2 ^ w) factor.toNat = 1 := odd.coprime_two_left.pow_left w
  have products : x.toNat * factor.toNat ≡ y.toNat * factor.toNat [MOD 2 ^ w] := by
    have values := congrArg BitVec.toNat same
    rwa [BitVec.toNat_mul, BitVec.toNat_mul] at values
  have words := Nat.ModEq.cancel_right_of_coprime coprime products
  rw [Nat.ModEq, Nat.mod_eq_of_lt x.isLt, Nat.mod_eq_of_lt y.isLt] at words
  exact BitVec.eq_of_toNat_eq words

theorem Round.apply_injective (round : Round w) : Function.Injective round.apply := by
  cases round with
  | xorShift shift positive => exact xorShift_injective positive
  | multiply factor odd => exact multiply_injective odd

theorem mix_injective (rounds : List (Round w)) : Function.Injective (mix rounds) := by
  induction rounds with
  | nil => exact fun _ _ same => same
  | cons round rounds ih => exact ih.comp round.apply_injective

/-- No word is made twice and none is left out. -/
theorem mix_bijective (rounds : List (Round w)) : Function.Bijective (mix rounds) := by
  have finite : Finite (BitVec w) :=
    Finite.of_injective BitVec.toFin fun _ _ same => BitVec.toFin_inj.mp same
  exact Finite.injective_iff_bijective.mp (mix_injective rounds)

end BouclierBleu.Library.WordMixers
