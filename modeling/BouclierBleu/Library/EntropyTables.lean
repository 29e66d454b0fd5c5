/- GID: BouclierBleu/Library/EntropyTables
   source: none
   digest: Shannon entropy of a count distribution, in integers and by a table of logarithms. -/

import Mathlib.Analysis.SpecialFunctions.Log.Base

set_option autoImplicit false
set_option relaxedAutoImplicit false

namespace BouclierBleu.Library.EntropyTables

universe u

variable {ι : Type u} (s : Finset ι) (c : ι → ℕ)

/-- The length of a text in which symbol `i` occurs `c i` times. -/
def total : ℕ := ∑ i ∈ s, c i

/-- Its entropy in bits per symbol. -/
noncomputable def entropy : ℝ :=
  Real.logb 2 (total s c) - (∑ i ∈ s, c i * Real.logb 2 (c i)) / total s c

/-- The counts weighted with their entries in a table. -/
def weightedSum (T : ℕ → ℕ) : ℕ := ∑ i ∈ s, c i * T (c i)

/-- How far an entry of a table is above the scaled logarithm. -/
noncomputable def tableError (scale : ℝ) (T : ℕ → ℕ) (x : ℕ) : ℝ := T x - scale * Real.logb 2 x

/-- The error over the symbols of the text, on average. -/
noncomputable def meanError (scale : ℝ) (T : ℕ → ℕ) : ℝ :=
  (∑ i ∈ s, c i * tableError scale T (c i)) / total s c

variable {s c}

/-- No average over the symbols exceeds a bound on the entries at their counts. -/
theorem weightedSum_le_total {T : ℕ → ℕ} {bound : ℕ} (each : ∀ i ∈ s, T (c i) ≤ bound) :
    weightedSum s c T ≤ total s c * bound := by
  rw [total, Finset.sum_mul, weightedSum]
  exact Finset.sum_le_sum fun i member => Nat.mul_le_mul_left _ (each i member)

section Integers

private theorem factor_pos (k : ℕ) (i : ι) : (0 : ℝ) < (c i : ℝ) ^ (k * c i) := by
  rcases Nat.eq_zero_or_pos (c i) with zero | positive
  · rw [zero, Nat.mul_zero, pow_zero]
    exact one_pos
  · exact pow_pos (Nat.cast_pos.mpr positive) _

private theorem logb_product (k : ℕ) :
    Real.logb 2 (∏ i ∈ s, (c i : ℝ) ^ (k * c i)) = k * ∑ i ∈ s, c i * Real.logb 2 (c i) := by
  rw [Real.logb_prod _ _ fun i _ => (factor_pos k i).ne', Finset.mul_sum]
  refine Finset.sum_congr rfl fun i _ => ?_
  rw [Real.logb_pow, Nat.cast_mul, mul_assoc]

private theorem logb_bound (a k : ℕ) :
    Real.logb 2 ((2 : ℝ) ^ (a * total s c) * ∏ i ∈ s, (c i : ℝ) ^ (k * c i)) =
      a * total s c + k * ∑ i ∈ s, c i * Real.logb 2 (c i) := by
  have product : ∏ i ∈ s, (c i : ℝ) ^ (k * c i) ≠ 0 :=
    Finset.prod_ne_zero_iff.mpr fun i _ => (factor_pos k i).ne'
  rw [Real.logb_mul (by positivity) product, logb_product, Real.logb_pow,
    Real.logb_self_eq_one (by norm_num), mul_one, Nat.cast_mul]

private theorem total_mul_entropy (nonempty : 0 < total s c) :
    total s c * entropy s c =
      total s c * Real.logb 2 (total s c) - ∑ i ∈ s, c i * Real.logb 2 (c i) := by
  have nonzero : (total s c : ℝ) ≠ 0 := (Nat.cast_pos.mpr nonempty).ne'
  rw [entropy, mul_sub, mul_div_cancel₀ _ nonzero]

private theorem product_pos (k : ℕ) : (0 : ℝ) < ∏ i ∈ s, (c i : ℝ) ^ (k * c i) :=
  Finset.prod_pos fun i _ => factor_pos k i

/-- How far the two sides of the comparisons below lie apart, in logarithms. -/
private theorem logb_gap (nonempty : 0 < total s c) (a k : ℕ) :
    Real.logb 2 ((2 : ℝ) ^ (a * total s c) * ∏ i ∈ s, (c i : ℝ) ^ (k * c i)) -
        Real.logb 2 ((total s c : ℝ) ^ (k * total s c)) =
      total s c * (a - k * entropy s c) := by
  have scaled := total_mul_entropy nonempty
  rw [logb_bound, Real.logb_pow, Nat.cast_mul]
  linear_combination k * scaled

/-- The entropy is at most `a / k`, in integers. -/
theorem pow_le_iff_entropy_le (nonempty : 0 < total s c) (a k : ℕ) :
    total s c ^ (k * total s c) ≤ 2 ^ (a * total s c) * ∏ i ∈ s, c i ^ (k * c i) ↔
      k * entropy s c ≤ a := by
  have length : (0 : ℝ) < total s c := Nat.cast_pos.mpr nonempty
  have product : (0 : ℝ) < ∏ i ∈ s, (c i : ℝ) ^ (k * c i) := product_pos k
  rw [← Nat.cast_le (α := ℝ)]
  push_cast
  rw [← Real.logb_le_logb (b := 2) (by norm_num) (pow_pos length _) (by positivity),
    ← sub_nonneg, logb_gap nonempty, mul_nonneg_iff_of_pos_left length, sub_nonneg]

/-- The entropy is at least `a / k`, in integers. -/
theorem pow_ge_iff_le_entropy (nonempty : 0 < total s c) (a k : ℕ) :
    2 ^ (a * total s c) * ∏ i ∈ s, c i ^ (k * c i) ≤ total s c ^ (k * total s c) ↔
      a ≤ k * entropy s c := by
  have length : (0 : ℝ) < total s c := Nat.cast_pos.mpr nonempty
  have product : (0 : ℝ) < ∏ i ∈ s, (c i : ℝ) ^ (k * c i) := product_pos k
  rw [← Nat.cast_le (α := ℝ)]
  push_cast
  rw [← Real.logb_le_logb (b := 2) (by norm_num) (by positivity) (pow_pos length _),
    ← sub_nonpos, logb_gap nonempty, ← neg_nonneg, ← mul_neg, mul_nonneg_iff_of_pos_left length,
    neg_nonneg, sub_nonpos]

end Integers

section Tables

variable {scale : ℝ} {T : ℕ → ℕ}

/-- What a table gives for the entropy of a text, and where its errors come in. -/
theorem table_eq (nonempty : 0 < total s c) (scale : ℝ) (T : ℕ → ℕ) :
    (total s c * T (total s c) - weightedSum s c T : ℝ) =
      total s c * (scale * entropy s c +
        (tableError scale T (total s c) - meanError s c scale T)) := by
  have nonzero : (total s c : ℝ) ≠ 0 := (Nat.cast_pos.mpr nonempty).ne'
  have entries : (weightedSum s c T : ℝ) =
      scale * ∑ i ∈ s, c i * Real.logb 2 (c i) + ∑ i ∈ s, c i * tableError scale T (c i) := by
    rw [weightedSum, Nat.cast_sum, Finset.mul_sum, ← Finset.sum_add_distrib]
    refine Finset.sum_congr rfl fun i _ => ?_
    rw [tableError]
    push_cast
    ring
  rw [entries, mul_add, mul_sub, meanError, mul_div_cancel₀ _ nonzero, mul_left_comm,
    total_mul_entropy nonempty, tableError]
  ring

/-- The mean error is between any bounds on the errors at the counts. -/
theorem meanError_le (nonempty : 0 < total s c) {bound : ℝ}
    (each : ∀ i ∈ s, c i ≠ 0 → tableError scale T (c i) ≤ bound) :
    meanError s c scale T ≤ bound := by
  rw [meanError, div_le_iff₀ (Nat.cast_pos.mpr nonempty), total, Nat.cast_sum, Finset.mul_sum]
  refine Finset.sum_le_sum fun i member => ?_
  rw [mul_comm]
  rcases eq_or_ne (c i) 0 with zero | present
  · simp [zero]
  · exact mul_le_mul_of_nonneg_right (each i member present) (Nat.cast_nonneg _)

theorem le_meanError (nonempty : 0 < total s c) {bound : ℝ}
    (each : ∀ i ∈ s, c i ≠ 0 → bound ≤ tableError scale T (c i)) :
    bound ≤ meanError s c scale T := by
  rw [meanError, le_div_iff₀ (Nat.cast_pos.mpr nonempty), total, Nat.cast_sum, Finset.mul_sum]
  refine Finset.sum_le_sum fun i member => ?_
  rw [mul_comm (c i : ℝ)]
  rcases eq_or_ne (c i) 0 with zero | present
  · simp [zero]
  · exact mul_le_mul_of_nonneg_right (each i member present) (Nat.cast_nonneg _)

/-- An error bound from powers: `k` times the logarithm, in integers. -/
theorem tableError_le_of_pow_le {m k e x : ℕ} (positive : 0 < x) (times : 0 < k)
    (bound : 2 ^ (k * T x) ≤ 2 ^ e * x ^ (k * m)) : tableError m T x ≤ e / k := by
  have base : (0 : ℝ) < x := Nat.cast_pos.mpr positive
  have many : (0 : ℝ) < k := Nat.cast_pos.mpr times
  have real : (2 : ℝ) ^ (k * T x) ≤ 2 ^ e * (x : ℝ) ^ (k * m) := by exact_mod_cast bound
  have logs := Real.logb_le_logb_of_le (b := 2) (by norm_num) (by positivity) real
  rw [Real.logb_mul (by positivity) (by positivity), Real.logb_pow, Real.logb_pow, Real.logb_pow,
    Real.logb_self_eq_one (by norm_num), mul_one, mul_one] at logs
  push_cast at logs
  rw [tableError, le_div_iff₀ many]
  linear_combination logs

theorem le_tableError_of_pow_le {m k l e x : ℕ} (positive : 0 < x) (times : 0 < k)
    (bound : 2 ^ l * x ^ (k * m) ≤ 2 ^ e * 2 ^ (k * T x)) :
    ((l : ℝ) - e) / k ≤ tableError m T x := by
  have base : (0 : ℝ) < x := Nat.cast_pos.mpr positive
  have many : (0 : ℝ) < k := Nat.cast_pos.mpr times
  have real : (2 : ℝ) ^ l * (x : ℝ) ^ (k * m) ≤ 2 ^ e * 2 ^ (k * T x) := by exact_mod_cast bound
  have logs := Real.logb_le_logb_of_le (b := 2) (by norm_num) (by positivity) real
  rw [Real.logb_mul (by positivity) (by positivity), Real.logb_mul (by positivity) (by positivity),
    Real.logb_pow, Real.logb_pow, Real.logb_pow, Real.logb_pow,
    Real.logb_self_eq_one (by norm_num), mul_one, mul_one, mul_one] at logs
  push_cast at logs
  rw [tableError, div_le_iff₀ many]
  linear_combination logs

end Tables

end BouclierBleu.Library.EntropyTables
