/- GID: BouclierBleu/Watchlist/EntropyMirror
   source: modules/src/rename_entropy.rs
   digest: The user-space mirror of the entropy score computes the score of the kernel. -/

import BouclierBleu.Watchlist.EntropyScore

set_option autoImplicit false
set_option relaxedAutoImplicit false

namespace BouclierBleu.Watchlist.EntropyMirror

open BouclierBleu.Library.EntropyTables (weightedSum)
open BouclierBleu.Watchlist.EntropyScore
open BouclierBleu.Watchlist.ExtensionWhitelist (FileName)
open BouclierBleu.Watchlist.RenameEntropy (hScaled scaledLog2 scaledLog2At)

def SCALED_LOG2 : List UInt32 :=
  [0, 0, 1024, 1623, 2048, 2377, 2647, 2874, 3072, 3246, 3401, 3542, 3671, 3790, 3900, 4004, 4100,
    4191, 4276, 4356, 4432, 4504, 4572, 4638, 4700, 4760, 4817, 4872, 4925, 4976, 5026, 5074, 5120,
    5164, 5208, 5250, 5291, 5332, 5371, 5410, 5448, 5485, 5521, 5557, 5592, 5626, 5660, 5693, 5726,
    5758, 5789, 5820, 5851, 5881, 5910, 5939, 5968, 5996, 6024, 6052, 6079, 6106, 6132, 6158, 6184,
    6209, 6234, 6259, 6283, 6307, 6331, 6355, 6378, 6401, 6424, 6446, 6468, 6490, 6512, 6533, 6555,
    6576, 6596, 6617, 6638, 6658, 6678, 6698, 6718, 6737, 6757, 6776, 6795, 6814, 6833, 6851, 6870,
    6888, 6906, 6924, 6942, 6960, 6977, 6995, 7012, 7029, 7046, 7063, 7080, 7096, 7113, 7129, 7145,
    7161, 7177, 7193, 7209, 7224, 7240, 7255, 7270, 7285, 7300, 7315, 7330, 7345, 7359, 7374, 7388,
    7402, 7416, 7430, 7444, 7458, 7472, 7486, 7499, 7513, 7526, 7540, 7553, 7566, 7579, 7592, 7605,
    7618, 7631, 7643, 7656, 7668, 7681, 7693, 7705, 7718, 7730, 7742, 7754, 7766, 7778, 7789, 7801,
    7813, 7824, 7836, 7847, 7859, 7870, 7881, 7892, 7903, 7914, 7925, 7936, 7947, 7958, 7969, 7979,
    7990, 8000, 8011, 8021, 8032, 8042, 8052, 8062, 8072, 8083, 8093, 8103, 8113, 8123, 8132, 8142,
    8152, 8162, 8171, 8181, 8191, 8200, 8210, 8219, 8229, 8238, 8247, 8257, 8266, 8275, 8284, 8294,
    8303, 8312, 8321, 8330, 8339, 8348, 8356, 8365, 8374, 8383, 8392, 8400, 8409, 8418, 8426, 8435,
    8443, 8452, 8460, 8469, 8477, 8485, 8494, 8502, 8510, 8518, 8527, 8535, 8543, 8551, 8559, 8567,
    8575, 8583, 8591, 8599, 8607, 8615, 8622, 8630, 8638, 8646, 8653, 8661, 8669, 8676, 8684]

/-- `SCALED_LOG2[(x & 0xFF) as usize]` -/
def maskedEntry (x : UInt32) : UInt32 := SCALED_LOG2.getD (x &&& 0xFF).toNat 0

/-- Sums and products of a test build panic when they overflow. -/
def checkedAdd (a b : UInt32) : Option UInt32 :=
  if a.toNat + b.toNat < 2 ^ 32 then some (a + b) else none

def checkedMul (a b : UInt32) : Option UInt32 :=
  if a.toNat * b.toNat < 2 ^ 32 then some (a * b) else none

def checkedDiv (a b : UInt32) : Option UInt32 := if b = 0 then none else some (a / b)

def saturatingSub (a b : UInt32) : UInt32 := if b ≤ a then a - b else 0

/-- The counting loop of `compute_entropy_mirror`, in 32-bit cells. -/
def countBytes (bytes : List UInt8) (counts : UInt8 → UInt32) : Option (UInt8 → UInt32) :=
  bytes.foldlM (fun counts b => do
    let more ← checkedAdd (counts b) 1
    pure (Function.update counts b more)) counts

/-- Its sum over the counts at the given indices. -/
def sumOver (indices : List Nat) (counts : UInt8 → UInt32) (sum : UInt32) : Option UInt32 :=
  indices.foldlM (fun sum i => do
    let c := counts (UInt8.ofNat i)
    if c > 0 then
      let weighted ← checkedMul c (maskedEntry c)
      checkedAdd sum weighted
    else pure sum) sum

/-- `none` is a panic. -/
def computeEntropyMirror (name : List UInt8) : Option UInt32 := do
  let safeNlen : UInt32 := if name.isEmpty then 1 else UInt32.ofNat name.length
  let counts ← countBytes name fun _ => 0
  let sumCLogC ← sumOver (List.range 256) counts 0
  let logNlen := maskedEntry safeNlen
  let average ← checkedDiv sumCLogC safeNlen
  pure (saturatingSub logNlen average)

/-- The two tables were typed in twice and are one. -/
theorem SCALED_LOG2_eq : SCALED_LOG2 = scaledLog2 := rfl

theorem maskedEntry_toNat {x : UInt32} (small : x.toNat < 256) :
    (maskedEntry x).toNat = tableEntry x.toNat := by
  have mask : (x &&& 0xFF).toNat = x.toNat := by
    have low : (0xFF : UInt32).toNat = 2 ^ 8 - 1 := rfl
    rw [UInt32.toNat_and, low, Nat.and_two_pow_sub_one_eq_mod]
    exact Nat.mod_eq_of_lt small
  rw [maskedEntry, mask, SCALED_LOG2_eq]
  rfl

section Checked

variable {a b : UInt32}

theorem checkedAdd_eq (fits : a.toNat + b.toNat < 2 ^ 32) :
    ∃ c, checkedAdd a b = some c ∧ c.toNat = a.toNat + b.toNat := by
  refine ⟨a + b, if_pos fits, ?_⟩
  rw [UInt32.toNat_add]
  exact Nat.mod_eq_of_lt fits

theorem checkedMul_eq (fits : a.toNat * b.toNat < 2 ^ 32) :
    ∃ c, checkedMul a b = some c ∧ c.toNat = a.toNat * b.toNat := by
  refine ⟨a * b, if_pos fits, ?_⟩
  rw [UInt32.toNat_mul]
  exact Nat.mod_eq_of_lt fits

theorem saturatingSub_toNat : (saturatingSub a b).toNat = a.toNat - b.toNat := by
  rw [saturatingSub]
  by_cases below : b ≤ a
  · rw [if_pos below]
    exact UInt32.toNat_sub_of_le _ _ below
  · rw [if_neg below]
    rw [UInt32.le_iff_toNat_le] at below
    exact (Nat.sub_eq_zero_of_le (Nat.le_of_not_le below)).symm

end Checked

section Loops

/-- The counting loop over a list of bytes, from any counts that leave room for it. -/
theorem countBytes_eq (bytes : List UInt8) (counts : UInt8 → UInt32)
    (room : ∀ b, (counts b).toNat + bytes.length < 2 ^ 32) :
    ∃ counts', countBytes bytes counts = some counts' ∧
      ∀ b, (counts' b).toNat = (counts b).toNat + bytes.count b := by
  induction bytes generalizing counts with
  | nil => exact ⟨counts, rfl, fun b => rfl⟩
  | cons c bytes ih =>
    have fits : (counts c).toNat + (1 : UInt32).toNat < 2 ^ 32 := by
      have here := room c
      rw [List.length_cons] at here
      show (counts c).toNat + 1 < 2 ^ 32
      omega
    obtain ⟨more, added, value⟩ := checkedAdd_eq fits
    have updated (b : UInt8) : (Function.update counts c more b).toNat =
        (counts b).toNat + if c == b then 1 else 0 := by
      by_cases same : b = c
      · rw [same, Function.update_self, value, beq_self_eq_true, if_pos rfl]
        rfl
      · have differs : (c == b) = false := beq_eq_false_iff_ne.mpr (Ne.symm same)
        rw [Function.update_of_ne same, differs]
        rfl
    obtain ⟨counts', counted, values⟩ := ih (Function.update counts c more) fun b => by
      have here := room b
      rw [List.length_cons] at here
      rw [updated]
      split <;> omega
    refine ⟨counts', ?_, fun b => ?_⟩
    · rw [countBytes] at counted ⊢
      rw [List.foldlM_cons, added]
      exact counted
    · rw [values, updated, List.count_cons]
      omega

/-- The sum over a list of indices, while nothing overflows. -/
theorem sumOver_eq (indices : List Nat) (counts : UInt8 → UInt32) (start : UInt32)
    (small : ∀ b, (counts b).toNat < 256)
    (bound : start.toNat + (indices.map fun i => (counts (UInt8.ofNat i)).toNat *
      tableEntry (counts (UInt8.ofNat i)).toNat).sum < 2 ^ 32) :
    ∃ sum, sumOver indices counts start = some sum ∧
      sum.toNat = start.toNat + (indices.map fun i => (counts (UInt8.ofNat i)).toNat *
        tableEntry (counts (UInt8.ofNat i)).toNat).sum := by
  induction indices generalizing start with
  | nil => exact ⟨start, rfl, rfl⟩
  | cons i indices ih =>
    rw [List.map_cons, List.sum_cons] at bound ⊢
    by_cases present : counts (UInt8.ofNat i) > 0
    · have entry := maskedEntry_toNat (small (UInt8.ofNat i))
      obtain ⟨weighted, multiplied, product⟩ := checkedMul_eq
        (a := counts (UInt8.ofNat i)) (b := maskedEntry (counts (UInt8.ofNat i)))
        (by rw [entry]; omega)
      rw [entry] at product
      obtain ⟨next, added, value⟩ := checkedAdd_eq (a := start) (b := weighted)
        (by rw [product]; omega)
      rw [product] at value
      obtain ⟨sum, summed, total⟩ := ih next (by rw [value]; omega)
      refine ⟨sum, ?_, by rw [total, value]; omega⟩
      rw [sumOver] at summed ⊢
      rw [List.foldlM_cons, if_pos present, multiplied]
      show (checkedAdd start weighted >>= _) = _
      rw [added]
      exact summed
    · have absent : (counts (UInt8.ofNat i)).toNat = 0 := by
        rw [gt_iff_lt, UInt32.lt_iff_toNat_lt] at present
        exact Nat.eq_zero_of_not_pos present
      rw [absent, Nat.zero_mul, Nat.zero_add] at bound ⊢
      obtain ⟨sum, summed, total⟩ := ih start bound
      refine ⟨sum, ?_, total⟩
      rw [sumOver] at summed ⊢
      rw [List.foldlM_cons, if_neg present]
      exact summed

end Loops

section Name

variable (name : FileName)

/-- A name has too few bytes for any of the sums to overflow. -/
theorem sumOver_countBytes :
    ∃ counts sum, countBytes name.bytes (fun _ => 0) = some counts ∧
      sumOver (List.range 256) counts 0 = some sum ∧
      sum.toNat = weightedSum byteValues (countOf name.bytes) tableEntry := by
  have short : name.bytes.length ≤ 255 := name.fits
  have zero : (0 : UInt32).toNat = 0 := rfl
  obtain ⟨counts, counted, values⟩ := countBytes_eq name.bytes (fun _ => 0) fun b => by omega
  have value (b : UInt8) : (counts b).toNat = name.bytes.count b := by
    rw [values]
    exact Nat.zero_add _
  have small (b : UInt8) : (counts b).toNat < 256 := by
    have few : name.bytes.count b ≤ name.bytes.length := List.count_le_length
    rw [value]
    omega
  have weights : ((List.range 256).map fun i => (counts (UInt8.ofNat i)).toNat *
      tableEntry (counts (UInt8.ofNat i)).toNat).sum =
      weightedSum byteValues (countOf name.bytes) tableEntry := by
    simp only [value]
    rfl
  have bounded := weightedSum_le name
  obtain ⟨sum, summed, result⟩ := sumOver_eq (List.range 256) counts 0 small (by
    rw [weights, zero]
    omega)
  refine ⟨counts, sum, counted, summed, ?_⟩
  rw [result, weights, zero, Nat.zero_add]

/-- Its length as the mirror takes it. -/
theorem length_toNat : (UInt32.ofNat name.bytes.length).toNat = name.bytes.length := by
  have short : name.bytes.length ≤ 255 := name.fits
  have size : UInt32.size = 4294967296 := rfl
  exact UInt32.toNat_ofNat_of_lt' (by omega)

theorem length_ne_zero : UInt32.ofNat name.bytes.length ≠ 0 := by
  intro zero
  have length := length_toNat name
  have none : (0 : UInt32).toNat = 0 := rfl
  rw [zero, none] at length
  exact name.nonempty (List.length_eq_zero_iff.mp length.symm)

end Name

/-- For every name, with its length clamped as the hook does it, the mirror computes the score of
the kernel and does not panic. -/
theorem computeEntropyMirror_eq (name : FileName) :
    computeEntropyMirror name.bytes =
      some (hScaled name.scratch
        (if name.qstr.len > 255 then 255 else name.qstr.len.toNat)) := by
  have short : name.bytes.length ≤ 255 := name.fits
  have present : name.bytes.isEmpty = false := List.isEmpty_eq_false_iff.mpr name.nonempty
  obtain ⟨counts, sum, counted, summed, total⟩ := sumOver_countBytes name
  have divided : checkedDiv sum (UInt32.ofNat name.bytes.length) =
      some (sum / UInt32.ofNat name.bytes.length) := if_neg (length_ne_zero name)
  have entry := maskedEntry_toNat (x := UInt32.ofNat name.bytes.length) (by
    rw [length_toNat]
    omega)
  rw [computeEntropyMirror, name.clamped, present, counted]
  show (sumOver (List.range 256) counts 0 >>= _) = _
  rw [summed]
  show (checkedDiv sum (UInt32.ofNat name.bytes.length) >>= _) = _
  rw [divided]
  refine congrArg some (UInt32.toNat_inj.mp ?_)
  show (saturatingSub (maskedEntry (UInt32.ofNat name.bytes.length))
    (sum / UInt32.ofNat name.bytes.length)).toNat = _
  rw [saturatingSub_toNat, entry, UInt32.toNat_div, length_toNat, total, hScaled_toNat]

end BouclierBleu.Watchlist.EntropyMirror
