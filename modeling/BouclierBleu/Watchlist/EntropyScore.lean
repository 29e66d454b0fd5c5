/- GID: BouclierBleu/Watchlist/EntropyScore
   source: bpf/rename_entropy.bpf.c
   digest: The entropy score of the rename hook as arithmetic on byte counts without wraps. -/

import BouclierBleu.Library.EntropyTables
import BouclierBleu.Watchlist.ExtensionWhitelist

set_option autoImplicit false
set_option relaxedAutoImplicit false

namespace BouclierBleu.Watchlist.EntropyScore

open BouclierBleu.Library.EntropyTables
open BouclierBleu.Watchlist.ExtensionWhitelist (FileName)
open BouclierBleu.Watchlist.RenameEntropy

/-- `scaled_log2[x]` as a number. -/
def tableEntry (x : Nat) : Nat := (scaledLog2At x).toNat

/-- What is checked of every entry with its index holds of the table. -/
theorem tableEntry_of_checked (P : Nat → Nat → Prop) [∀ x e, Decidable (P x e)]
    (checked : scaledLog2.zipIdx.all (fun entry => decide (P entry.2 entry.1.toNat)) = true)
    {x : Nat} (small : x < 256) : P x (tableEntry x) := by
  have entries : scaledLog2.length = 256 := by decide +kernel
  have size : x < scaledLog2.length := entries ▸ small
  have listed : (scaledLog2[x], x) ∈ scaledLog2.zipIdx := by
    rw [List.mk_mem_zipIdx_iff_getElem?]
    exact List.getElem?_eq_getElem size
  rw [tableEntry, scaledLog2At, List.getD_eq_getElem _ _ size]
  exact of_decide_eq_true (List.all_eq_true.mp checked _ listed)

theorem tableEntry_le (x : Nat) : tableEntry x ≤ 8684 := by
  have all : scaledLog2.all (fun e => decide (e.toNat ≤ 8684)) = true := by decide +kernel
  have entries (e : UInt32) (listed : e ∈ scaledLog2) : e.toNat ≤ 8684 :=
    of_decide_eq_true (List.all_eq_true.mp all e listed)
  rw [tableEntry, scaledLog2At]
  rcases Nat.lt_or_ge x scaledLog2.length with inside | outside
  · rw [List.getD_eq_getElem _ _ inside]
    exact entries _ (List.getElem_mem inside)
  · rw [List.getD_eq_default _ _ outside]
    exact Nat.zero_le _

/-- The byte values, as the loop of `compute_entropy` runs through them. -/
def byteValues : Finset Nat := Finset.range 256

/-- How often a byte value occurs in a name. -/
def countOf (bytes : List UInt8) (i : Nat) : Nat := bytes.count (UInt8.ofNat i)

section Counts

theorem sum_countOf (bytes : List UInt8) : total byteValues (countOf bytes) = bytes.length := by
  induction bytes with
  | nil => simp [total, countOf]
  | cons b bytes ih =>
    have value : b.toNat ∈ byteValues := Finset.mem_range.mpr b.toNat_lt
    have here : ∑ i ∈ byteValues, (if b == UInt8.ofNat i then 1 else 0) = 1 := by
      rw [Finset.sum_eq_single_of_mem b.toNat value]
      · simp
      · intro i member other
        have differs : b ≠ UInt8.ofNat i := by
          rintro rfl
          rw [UInt8.toNat_ofNat_of_lt' (Finset.mem_range.mp member)] at other
          exact other rfl
        simp [differs]
    rw [total] at ih ⊢
    rw [List.length_cons, ← ih, ← here, ← Finset.sum_add_distrib]
    exact Finset.sum_congr rfl fun i _ => List.count_cons

/-- The counting loop over a list of bytes, from any counts. -/
private theorem foldl_counts (bytes : List UInt8) (counts : UInt8 → UInt8) (b : UInt8) :
    bytes.foldl (fun counts c => Function.update counts c (counts c + 1)) counts b =
      counts b + UInt8.ofNat (bytes.count b) := by
  induction bytes generalizing counts with
  | nil => simp
  | cons c bytes ih =>
    rw [List.foldl_cons, ih, List.count_cons]
    by_cases same : c = b
    · subst same
      simp [UInt8.ofNat_add, UInt8.add_assoc, UInt8.add_comm 1]
    · have differs : (c == b) = false := beq_eq_false_iff_ne.mpr same
      rw [Function.update_of_ne (Ne.symm same), differs]
      rfl

/-- No 8-bit counter wraps. -/
theorem calculateCharacterCounts_toNat (name : FileName) (i : Nat) :
    (calculateCharacterCounts name.scratch (UInt8.ofNat i)).toNat = countOf name.bytes i := by
  have short := name.fits
  have few : countOf name.bytes i ≤ name.bytes.length := List.count_le_length
  have size : UInt8.size = 256 := rfl
  rw [NAME_MAX] at short
  rw [calculateCharacterCounts, name.scratch_bytes, List.take_of_length_le name.fits,
    foldl_counts, UInt8.zero_add]
  exact UInt8.toNat_ofNat_of_lt' (by unfold countOf at few; omega)

end Counts

section Sum

/-- The sum loop of `compute_entropy`, while nothing overflows. -/
private theorem foldl_sum (counts : UInt8 → UInt8) (indices : List Nat) (start : UInt32)
    (bound : start.toNat + (indices.map fun i => (counts (UInt8.ofNat i)).toNat *
      tableEntry (counts (UInt8.ofNat i)).toNat).sum < 2 ^ 32) :
    (indices.foldl (fun sum i =>
        let c := counts (UInt8.ofNat i)
        if c == 0 then sum else sum + c.toUInt32 * scaledLog2At c.toNat) start).toNat =
      start.toNat + (indices.map fun i => (counts (UInt8.ofNat i)).toNat *
        tableEntry (counts (UInt8.ofNat i)).toNat).sum := by
  induction indices generalizing start with
  | nil => simp
  | cons i indices ih =>
    rw [List.map_cons, List.sum_cons] at bound
    have step : (if counts (UInt8.ofNat i) == 0 then start
        else start + (counts (UInt8.ofNat i)).toUInt32 *
          scaledLog2At (counts (UInt8.ofNat i)).toNat).toNat =
        start.toNat + (counts (UInt8.ofNat i)).toNat *
          tableEntry (counts (UInt8.ofNat i)).toNat := by
      by_cases absent : counts (UInt8.ofNat i) = 0
      · simp [absent]
      · rw [if_neg (by simpa using absent), UInt32.toNat_add, UInt32.toNat_mul,
          UInt8.toNat_toUInt32]
        rw [tableEntry] at bound ⊢
        rw [Nat.mod_eq_of_lt (a := _ * _) (by omega), Nat.mod_eq_of_lt (by omega)]
    have rest := ih (if counts (UInt8.ofNat i) == 0 then start
        else start + (counts (UInt8.ofNat i)).toUInt32 *
          scaledLog2At (counts (UInt8.ofNat i)).toNat) (by rw [step]; omega)
    rw [List.foldl_cons, List.map_cons, List.sum_cons, ← Nat.add_assoc, ← step]
    exact rest

/-- The counts weighted with the table are far below the range of the sum. -/
theorem weightedSum_le (name : FileName) :
    weightedSum byteValues (countOf name.bytes) tableEntry ≤ name.bytes.length * 8684 := by
  rw [← sum_countOf]
  exact weightedSum_le_total fun i _ => tableEntry_le _

/-- No addition overflows. -/
theorem computeEntropy_toNat (name : FileName) :
    (computeEntropy (calculateCharacterCounts name.scratch)).toNat =
      weightedSum byteValues (countOf name.bytes) tableEntry := by
  have listed : ((List.range 256).map fun i =>
      (calculateCharacterCounts name.scratch (UInt8.ofNat i)).toNat *
        tableEntry (calculateCharacterCounts name.scratch (UInt8.ofNat i)).toNat).sum =
      weightedSum byteValues (countOf name.bytes) tableEntry := by
    simp only [calculateCharacterCounts_toNat]
    rfl
  have small := weightedSum_le name
  have short : name.bytes.length ≤ 255 := name.fits
  have zero : (0 : UInt32).toNat = 0 := rfl
  rw [computeEntropy, foldl_sum _ _ _ (by rw [listed, zero]; omega), listed, zero, Nat.zero_add]

/-- The score: the table at the length, less the average of the table over the bytes. -/
theorem hScaled_toNat (name : FileName) :
    (hScaled name.scratch name.bytes.length).toNat =
      tableEntry name.bytes.length -
        weightedSum byteValues (countOf name.bytes) tableEntry / name.bytes.length := by
  have short : name.bytes.length ≤ 255 := name.fits
  have long : 0 < name.bytes.length := List.length_pos_iff.mpr name.nonempty
  have size : UInt32.size = 4294967296 := rfl
  have index : name.bytes.length % 256 = name.bytes.length := Nat.mod_eq_of_lt (by omega)
  have divisor : (UInt32.ofNat name.bytes.length).toNat = name.bytes.length :=
    UInt32.toNat_ofNat_of_lt' (by omega)
  have average : (computeEntropy (calculateCharacterCounts name.scratch) /
      UInt32.ofNat name.bytes.length).toNat =
      weightedSum byteValues (countOf name.bytes) tableEntry / name.bytes.length := by
    rw [UInt32.toNat_div, divisor, computeEntropy_toNat]
  rw [hScaled]
  simp only [if_pos long, index, gt_iff_lt]
  rw [← average]
  by_cases above : computeEntropy (calculateCharacterCounts name.scratch) /
      UInt32.ofNat name.bytes.length < scaledLog2At name.bytes.length
  · rw [if_pos above, UInt32.toNat_sub_of_le _ _ (UInt32.le_of_lt above)]
    rfl
  · rw [if_neg above, UInt32.lt_iff_toNat_lt] at *
    rw [tableEntry]
    have zero : (0 : UInt32).toNat = 0 := rfl
    omega

/-- The threshold, without the division. -/
theorem hScaled_gt_iff (name : FileName) :
    hScaled name.scratch name.bytes.length > ENTROPY_THRESHOLD_SCALED ↔
      name.bytes.length * 4300 + weightedSum byteValues (countOf name.bytes) tableEntry <
        name.bytes.length * tableEntry name.bytes.length := by
  have long : 0 < name.bytes.length := List.length_pos_iff.mpr name.nonempty
  have threshold : ENTROPY_THRESHOLD_SCALED.toNat = 4300 := rfl
  rw [gt_iff_lt, UInt32.lt_iff_toNat_lt, hScaled_toNat, threshold, Nat.lt_sub_iff_add_lt,
    Nat.add_comm 4300, ← Nat.lt_sub_iff_add_lt, Nat.div_lt_iff_lt_mul long, Nat.sub_mul,
    Nat.lt_sub_iff_add_lt, Nat.mul_comm 4300, Nat.mul_comm (tableEntry _), Nat.add_comm]

end Sum

end BouclierBleu.Watchlist.EntropyScore
