/- GID: BouclierBleu/Watchlist/ShortNames
   source: bpf/rename_entropy.bpf.c
   digest: The entropy arithmetic never wraps, and no name under 19 bytes reaches the threshold. -/

import BouclierBleu.Watchlist.EntropyScore

set_option autoImplicit false
set_option relaxedAutoImplicit false

namespace BouclierBleu.Watchlist.ShortNames

open BouclierBleu.Kernel.ModuleCore (CStr Task)
open BouclierBleu.Kernel.VfsHelpers
open BouclierBleu.Library.EntropyTables
open BouclierBleu.Watchlist.EntropyScore
open BouclierBleu.Watchlist.ExtensionWhitelist (FileName)
open BouclierBleu.Watchlist.RenameEntropy

section Table

/-- The whole table is monotone. -/
theorem tableEntry_mono {x y : Nat} (ordered : x ≤ y) (inside : y < 256) :
    tableEntry x ≤ tableEntry y := by
  have size : scaledLog2.length = 256 := by decide +kernel
  have chain : scaledLog2.IsChain (· ≤ ·) := by decide +kernel
  have sorted := List.pairwise_iff_getElem.mp chain.pairwise
  rcases Nat.eq_or_lt_of_le ordered with rfl | before
  · exact Nat.le_refl _
  · have first : x < scaledLog2.length := by omega
    have second : y < scaledLog2.length := by omega
    rw [tableEntry, tableEntry, scaledLog2At, scaledLog2At, List.getD_eq_getElem _ _ first,
      List.getD_eq_getElem _ _ second, ← UInt32.le_iff_toNat_le]
    exact sorted x y first second before

end Table

section Average

variable (name : FileName)

/-- What is subtracted from the maximum: the average of the table over the bytes of the name. -/
def average : Nat :=
  weightedSum byteValues (countOf name.bytes) tableEntry / name.bytes.length

theorem average_le : average name ≤ tableEntry name.bytes.length := by
  have short : name.bytes.length ≤ 255 := name.fits
  have bounded : weightedSum byteValues (countOf name.bytes) tableEntry ≤
      name.bytes.length * tableEntry name.bytes.length := by
    have each : ∀ i ∈ byteValues, tableEntry (countOf name.bytes i) ≤
        tableEntry name.bytes.length := by
      intro i member
      exact tableEntry_mono List.count_le_length (by omega)
    have sum := weightedSum_le_total each
    rwa [sum_countOf] at sum
  exact Nat.div_le_of_le_mul bounded

/-- The guarded subtraction is an exact one. -/
theorem hScaled_add_average :
    (hScaled name.scratch name.bytes.length).toNat + average name =
      tableEntry name.bytes.length := by
  have below := average_le name
  rw [hScaled_toNat]
  exact Nat.sub_add_cancel below

theorem hScaled_le : (hScaled name.scratch name.bytes.length).toNat ≤
    tableEntry name.bytes.length :=
  Nat.le_of_add_right_le (hScaled_add_average name).le

variable {name}

/-- The best score of 18 bytes is below the threshold. -/
theorem hScaled_le_threshold_of_short (short : name.bytes.length < 19) :
    ¬ hScaled name.scratch name.bytes.length > ENTROPY_THRESHOLD_SCALED := by
  have best : tableEntry 18 ≤ 4300 := by decide
  have threshold : ENTROPY_THRESHOLD_SCALED.toNat = 4300 := rfl
  have score := hScaled_le name
  have longest := tableEntry_mono (Nat.le_of_lt_succ short) (by decide)
  rw [gt_iff_lt, UInt32.lt_iff_toNat_lt, threshold, not_lt]
  exact (score.trans longest).trans best

end Average

/-- A rename to a name whose score stays below the threshold goes through. -/
theorem not_denied_of_low_score {maps : Maps} {record : Option (List UInt8)} {task : Task}
    {ppid : UInt32} {resolved : Option (List UInt8)} {oldDir newDir : Dentry} {name : FileName}
    (low : ¬ hScaled name.scratch name.bytes.length > ENTROPY_THRESHOLD_SCALED) :
    ¬ (renameEntropyPathRename maps record task ppid resolved oldDir newDir name.qstr).Denied := by
  have copied : (CStr.copy 256 CStr.nameLen_pos name.qstr.name : ScratchName) = name.scratch := rfl
  unfold renameEntropyPathRename
  simp only [name.clamped, copied, if_neg low]
  split_ifs <;> simp

/-- For every name: no counter and no sum wraps, the average never exceeds the maximum, the score
is what is left of it, and with fewer than 19 bytes no rename to the name is denied. -/
theorem entropy_arithmetic (name : FileName) :
    (∀ b, (calculateCharacterCounts name.scratch b).toNat = name.bytes.count b) ∧
      (computeEntropy (calculateCharacterCounts name.scratch)).toNat =
        weightedSum byteValues (countOf name.bytes) tableEntry ∧
      average name ≤ tableEntry name.bytes.length ∧
      (hScaled name.scratch name.bytes.length).toNat + average name =
        tableEntry name.bytes.length ∧
      (hScaled name.scratch name.bytes.length).toNat ≤ tableEntry name.bytes.length ∧
      (name.bytes.length < 19 → ∀ (maps : Maps) (record : Option (List UInt8)) (task : Task)
        (ppid : UInt32) (resolved : Option (List UInt8)) (oldDir newDir : Dentry),
        ¬ (renameEntropyPathRename maps record task ppid resolved oldDir newDir
          name.qstr).Denied) := by
  refine ⟨fun b => ?_, computeEntropy_toNat name, average_le name, hScaled_add_average name,
    hScaled_le name, fun short maps record task ppid resolved oldDir newDir => ?_⟩
  · have counter := calculateCharacterCounts_toNat name b.toNat
    rw [UInt8.ofNat_toNat, countOf, UInt8.ofNat_toNat] at counter
    exact counter
  · exact not_denied_of_low_score (hScaled_le_threshold_of_short short)

/-- Eighteen letters, one of each. -/
def eighteenLetters : FileName :=
  ⟨CStr.literal "ABCDEFGHIJKLMNOPQR", by decide, CStr.noNul_of_all (by decide), by decide⟩

/-- The module is enabled and watches one directory. -/
def enabledMaps : Maps :=
  ⟨some 1, .single protectedDirsType 8192 protectedDirsMax_pos ⟨7, 1⟩ 1, true⟩

theorem entropy_arithmetic_sample :
    ¬ (renameEntropyPathRename enabledMaps none ⟨0, 1000, none⟩ 1 none (dentryOf ⟨7, 1⟩)
      (dentryOf ⟨7, 1⟩) eighteenLetters.qstr).Denied := by
  have short : eighteenLetters.bytes.length < 19 := by decide
  obtain ⟨_, _, _, _, _, allowed⟩ := entropy_arithmetic eighteenLetters
  exact allowed short enabledMaps none _ 1 none _ _

end BouclierBleu.Watchlist.ShortNames
