/- GID: BouclierBleu/Watchlist/EntropyThreshold
   source: bpf/rename_entropy.bpf.c
   digest: What the threshold on the table's score means for the exact entropy of a name. -/

import BouclierBleu.Watchlist.EntropyScore

set_option autoImplicit false
set_option relaxedAutoImplicit false

namespace BouclierBleu.Watchlist.EntropyThreshold

open BouclierBleu.Kernel.AlertStructs (RenameAlert)
open BouclierBleu.Kernel.ModuleCore (isModuleActive EPERM SIGKILL Outcome CStr Task)
open BouclierBleu.Kernel.VfsHelpers
open BouclierBleu.Library.BoundedMaps (BoundedMap)
open BouclierBleu.Library.EntropyTables
open BouclierBleu.Watchlist.EntropyScore
open BouclierBleu.Watchlist.ExtensionWhitelist
open BouclierBleu.Watchlist.RenameEntropy

/-- The exact entropy of a name, in bits per byte. -/
noncomputable def exactEntropy (name : FileName) : ℝ := entropy byteValues (countOf name.bytes)

/-- At most 4.0 bits, in integers. -/
def LowEntropy (name : FileName) : Prop :=
  name.bytes.length ^ name.bytes.length ≤ 16 ^ name.bytes.length *
    ∏ i ∈ byteValues, countOf name.bytes i ^ countOf name.bytes i

/-- At least 4.5 bits, in integers. -/
def HighEntropy (name : FileName) : Prop :=
  2 ^ (9 * name.bytes.length) *
    ∏ i ∈ byteValues, countOf name.bytes i ^ (2 * countOf name.bytes i) ≤
    name.bytes.length ^ (2 * name.bytes.length)

/-- The error of `scaled_log2` at an index, in 1024ths. -/
noncomputable def errorAt (x : Nat) : ℝ := tableError (1024 : ℕ) tableEntry x

/-- The error at the length, less the mean of the errors at the counts. -/
noncomputable def scoreError (name : FileName) : ℝ :=
  errorAt name.bytes.length - meanError byteValues (countOf name.bytes) (1024 : ℕ) tableEntry

section Entropy

variable {name : FileName}

private theorem total_pos (name : FileName) : 0 < total byteValues (countOf name.bytes) := by
  rw [sum_countOf]
  exact List.length_pos_iff.mpr name.nonempty

theorem lowEntropy_iff : LowEntropy name ↔ exactEntropy name ≤ 4 := by
  have powers := pow_le_iff_entropy_le (total_pos name) 4 1
  simp only [sum_countOf, Nat.cast_one, one_mul, pow_mul] at powers
  exact powers

theorem highEntropy_iff : HighEntropy name ↔ 9 ≤ 2 * exactEntropy name := by
  have powers := pow_ge_iff_le_entropy (total_pos name) 9 2
  rw [sum_countOf] at powers
  exact_mod_cast powers

/-- The hook's score is above the threshold exactly if the entropy with the table's error on
it is. -/
theorem hScaled_gt_iff_entropy : hScaled name.scratch name.bytes.length > ENTROPY_THRESHOLD_SCALED ↔
    4300 < 1024 * exactEntropy name + scoreError name := by
  have length : (0 : ℝ) < name.bytes.length :=
    Nat.cast_pos.mpr (List.length_pos_iff.mpr name.nonempty)
  have table := table_eq (total_pos name) (1024 : ℕ) tableEntry
  rw [sum_countOf] at table
  have multiplied : 4300 < 1024 * exactEntropy name + scoreError name ↔
      name.bytes.length * 4300 <
        name.bytes.length * (1024 * exactEntropy name + scoreError name) :=
    (mul_lt_mul_iff_of_pos_left length).symm
  rw [multiplied, hScaled_gt_iff, ← Nat.cast_lt (α := ℝ), exactEntropy, scoreError, errorAt]
  push_cast at table ⊢
  constructor
  · intro bound
    linear_combination bound + table
  · intro bound
    linear_combination bound - table

end Entropy

section Errors

/-- A table entry is never much below the logarithm, -/
private theorem errorAt_ge {x : Nat} (positive : 0 < x) (small : x < 256) :
    -(7 / 2) ≤ errorAt x := by
  have entry := tableEntry_of_checked
    (fun x e => 0 < x → 2 ^ 0 * x ^ (2 * 1024) ≤ 2 ^ 7 * 2 ^ (2 * e)) (by decide +kernel) small
  have bound := le_tableError_of_pow_le positive (Nat.zero_lt_two) (entry positive)
  rw [errorAt]
  push_cast at bound ⊢
  linear_combination bound

/-- and up to an index of 121 not much above it, -/
private theorem errorAt_le {x : Nat} (positive : 0 < x) (small : x < 122) :
    errorAt x ≤ 401 / 2 := by
  have entry := tableEntry_of_checked
    (fun x e => x < 122 → 0 < x → 2 ^ (2 * e) ≤ 2 ^ 401 * x ^ (2 * 1024)) (by decide +kernel)
    (Nat.lt_trans small (by decide))
  have bound := tableError_le_of_pow_le positive (Nat.zero_lt_two) (entry small positive)
  rw [errorAt]
  push_cast at bound ⊢
  linear_combination bound

/-- and from then on the error grows by about two at each index. -/
private theorem errorAt_near {x : Nat} (positive : 0 < x) (small : x < 256) :
    2 * x - 93 ≤ errorAt x ∧ errorAt x ≤ 2 * x + 7 := by
  have above := tableEntry_of_checked
    (fun x e => 0 < x → 2 ^ (2 * x) * x ^ (1 * 1024) ≤ 2 ^ 93 * 2 ^ (1 * e))
    (by decide +kernel) small
  have below := tableEntry_of_checked
    (fun x e => 0 < x → 2 ^ (1 * e) ≤ 2 ^ (2 * x + 7) * x ^ (1 * 1024)) (by decide +kernel) small
  have lower := le_tableError_of_pow_le positive Nat.zero_lt_one (above positive)
  have upper := tableError_le_of_pow_le positive Nat.zero_lt_one (below positive)
  rw [errorAt]
  push_cast at lower upper ⊢
  constructor
  · linear_combination lower
  · linear_combination upper

variable {name : FileName}

private theorem count_bounds (name : FileName) {i : Nat} (present : countOf name.bytes i ≠ 0) :
    0 < countOf name.bytes i ∧ countOf name.bytes i ≤ name.bytes.length ∧
      name.bytes.length < 256 := by
  have fits := name.fits
  rw [NAME_MAX] at fits
  have few : countOf name.bytes i ≤ name.bytes.length := List.count_le_length
  exact ⟨Nat.pos_of_ne_zero present, few, by omega⟩

/-- The table adds at most 204 to the score of a name of up to 121 bytes. -/
theorem scoreError_le (short : name.bytes.length ≤ 121) : scoreError name ≤ 204 := by
  have length := errorAt_le (List.length_pos_iff.mpr name.nonempty) (Nat.lt_succ_of_le short)
  have mean : -(7 / 2 : ℝ) ≤ meanError byteValues (countOf name.bytes) (1024 : ℕ) tableEntry := by
    refine le_meanError (total_pos name) fun i _ present => ?_
    obtain ⟨positive, few, fits⟩ := count_bounds name present
    exact errorAt_ge positive (by omega)
  rw [scoreError]
  linear_combination length + mean

/-- It never takes more than 100 away. -/
theorem neg_le_scoreError (name : FileName) : -100 ≤ scoreError name := by
  have fits : name.bytes.length < 256 := Nat.lt_succ_of_le name.fits
  have length := (errorAt_near (List.length_pos_iff.mpr name.nonempty) fits).1
  have mean : meanError byteValues (countOf name.bytes) (1024 : ℕ) tableEntry ≤
      2 * name.bytes.length + 7 := by
    refine meanError_le (total_pos name) fun i _ present => ?_
    obtain ⟨positive, few, _⟩ := count_bounds name present
    have upper := (errorAt_near positive (by omega)).2
    have more : (countOf name.bytes i : ℝ) ≤ name.bytes.length := Nat.cast_le.mpr few
    rw [errorAt] at upper
    linarith only [upper, more]
  rw [scoreError]
  linarith only [length, mean]

end Errors

section Spelled

/-- Blocks of consecutive byte values, from `first` on, of the lengths given. -/
def spelledFrom : Nat → List Nat → List UInt8
  | _, [] => []
  | first, c :: counts => List.replicate c (UInt8.ofNat first) ++ spelledFrom (first + 1) counts

theorem length_spelledFrom (first : Nat) (counts : List Nat) :
    (spelledFrom first counts).length = counts.sum := by
  induction counts generalizing first with
  | nil => rfl
  | cons c counts ih =>
    rw [spelledFrom, List.length_append, List.length_replicate, ih, List.sum_cons]

theorem mem_spelledFrom {first : Nat} {counts : List Nat} {b : UInt8}
    (member : b ∈ spelledFrom first counts) :
    ∃ i, first ≤ i ∧ i < first + counts.length ∧ b = UInt8.ofNat i := by
  induction counts generalizing first with
  | nil => cases member
  | cons c counts ih =>
    rw [spelledFrom, List.mem_append] at member
    rw [List.length_cons]
    rcases member with here | later
    · exact ⟨first, Nat.le_refl _, by omega, (List.mem_replicate.mp here).2⟩
    · obtain ⟨i, low, high, value⟩ := ih later
      exact ⟨i, by omega, by omega, value⟩

private theorem countOf_spelledFrom {first : Nat} {counts : List Nat}
    (room : first + counts.length ≤ 256) {i : Nat} (value : i < 256) :
    countOf (spelledFrom first counts) i =
      (List.replicate first 0 ++ counts).getD i 0 := by
  induction counts generalizing first with
  | nil => simp [spelledFrom, countOf]
  | cons c counts ih =>
    rw [List.length_cons] at room
    have room' : first + 1 + counts.length ≤ 256 := by omega
    have rest := ih room'
    rw [countOf] at rest ⊢
    rw [spelledFrom, List.count_append, List.count_replicate, rest]
    have same : (UInt8.ofNat first == UInt8.ofNat i) = decide (first = i) := by
      rw [Bool.eq_iff_iff, beq_iff_eq, decide_eq_true_eq]
      constructor
      · intro equal
        have size : UInt8.size = 256 := rfl
        have numbers := congrArg UInt8.toNat equal
        rwa [UInt8.toNat_ofNat_of_lt' (by omega : first < UInt8.size),
          UInt8.toNat_ofNat_of_lt' value] at numbers
      · rintro rfl
        rfl
    rw [same]
    rcases Nat.lt_trichotomy i first with below | here | above
    · rw [List.getD_append _ _ _ _ (by simpa using by omega),
        List.getD_append _ _ _ _ (by simpa using by omega)]
      have other : first ≠ i := by omega
      simp [other]
    · subst here
      rw [List.getD_append _ _ _ _ (by simp), List.getD_append_right _ _ _ _ (by simp)]
      simp
    · have other : first ≠ i := by omega
      rw [List.getD_append_right _ _ _ _ (by simpa using by omega),
        List.getD_append_right _ _ _ _ (by simpa using by omega), List.length_replicate,
        List.length_replicate]
      have index : i - first = i - (first + 1) + 1 := by omega
      simp [other, index]

/-- The counts of such a text, byte value by byte value. -/
private theorem map_countOf_spelledFrom {first : Nat} {counts : List Nat}
    (room : first + counts.length ≤ 256) :
    (List.range 256).map (countOf (spelledFrom first counts)) =
      List.replicate first 0 ++ counts ++ List.replicate (256 - (first + counts.length)) 0 := by
  apply List.ext_getElem
  · simp
    omega
  · intro i inside outside
    rw [List.length_map, List.length_range] at inside
    rw [List.getElem_map, List.getElem_range, countOf_spelledFrom room inside]
    rcases Nat.lt_or_ge i (List.replicate first 0 ++ counts).length with within | beyond
    · rw [List.getD_eq_getElem _ _ within, List.getElem_append_left within]
    · rw [List.getD_eq_default _ _ beyond, List.getElem_append_right beyond, List.getElem_replicate]

theorem weightedSum_spelledFrom {first : Nat} {counts : List Nat}
    (room : first + counts.length ≤ 256) (T : Nat → Nat) :
    weightedSum byteValues (countOf (spelledFrom first counts)) T =
      (counts.map fun c => c * T c).sum := by
  have listed : weightedSum byteValues (countOf (spelledFrom first counts)) T =
      (((List.range 256).map (countOf (spelledFrom first counts))).map fun c => c * T c).sum := by
    rw [List.map_map]
    rfl
  rw [listed, map_countOf_spelledFrom room]
  simp

theorem prod_spelledFrom {first : Nat} {counts : List Nat} (room : first + counts.length ≤ 256)
    {g : Nat → Nat} (absent : g 0 = 1) :
    ∏ i ∈ byteValues, g (countOf (spelledFrom first counts) i) = (counts.map g).prod := by
  have listed : ∏ i ∈ byteValues, g (countOf (spelledFrom first counts) i) =
      (((List.range 256).map (countOf (spelledFrom first counts))).map g).prod := by
    rw [List.map_map]
    rfl
  rw [listed, map_countOf_spelledFrom room]
  simp [absent]

end Spelled

/-- The hook lets the rename go on and sends no signal. -/
def Allowed (o : Outcome RenameAlert) : Prop := o.ret = 0 ∧ o.signals = []

section Verdict

variable {maps : Maps} {record : Option (List UInt8)} {task : Task} {ppid : UInt32}
  {resolved : Option (List UInt8)} {oldDir newDir : Dentry} {name : FileName}

theorem allowed_iff (enabled : isModuleActive maps.stateMap = true)
    (inside : watched maps.protectedDirs (extractDirIdFromDentry oldDir) = true ∨
      watched maps.protectedDirs (extractDirIdFromDentry newDir) = true)
    (long : 8 ≤ name.bytes.length) :
    Allowed (renameEntropyPathRename maps record task ppid resolved oldDir newDir name.qstr) ↔
      maps.scratchAvailable = false ∨ name.extensionSkips = true ∨
        1024 * exactEntropy name + scoreError name ≤ 4300 := by
  rw [← not_lt, ← hScaled_gt_iff_entropy]
  cases scratch : maps.scratchAvailable with
  | false => simp [renameEntropyPathRename, enabled, scratch, Allowed]
  | true =>
    rw [renameEntropyPathRename_of_inspected enabled scratch inside, if_neg (Nat.not_lt.mpr long)]
    by_cases skips : name.extensionSkips = true
    · simp [skips, Allowed]
    · by_cases high : hScaled name.scratch name.bytes.length > ENTROPY_THRESHOLD_SCALED
      · simp [skips, high, Allowed]
      · simp [skips, high, Allowed]

/-- What is not allowed is refused and killed. -/
theorem killed_of_not_allowed (enabled : isModuleActive maps.stateMap = true)
    (inside : watched maps.protectedDirs (extractDirIdFromDentry oldDir) = true ∨
      watched maps.protectedDirs (extractDirIdFromDentry newDir) = true)
    (long : 8 ≤ name.bytes.length) (scratch : maps.scratchAvailable = true)
    (plain : name.extensionSkips = false)
    (high : 4300 < 1024 * exactEntropy name + scoreError name) :
    (renameEntropyPathRename maps record task ppid resolved oldDir newDir name.qstr).ret =
        -EPERM ∧
      (renameEntropyPathRename maps record task ppid resolved oldDir newDir name.qstr).Killed := by
  rw [← hScaled_gt_iff_entropy] at high
  rw [renameEntropyPathRename_of_inspected enabled scratch inside, if_neg (Nat.not_lt.mpr long),
    plain, if_neg Bool.false_ne_true, if_pos high]
  exact ⟨rfl, List.mem_cons_self⟩

/-- Up to 121 bytes the table is exact enough for names of low entropy. -/
theorem low_score_of_short (low : LowEntropy name) (short : name.bytes.length ≤ 121) :
    1024 * exactEntropy name + scoreError name ≤ 4300 := by
  have bits := lowEntropy_iff.mp low
  have error := scoreError_le short
  linarith only [bits, error]

end Verdict

section Killed

/-- The counts are those of a name of at most 4.0 bits that scores above the threshold. -/
def Misjudged (counts : List Nat) : Prop :=
  8 ≤ counts.sum ∧ counts.sum ≤ NAME_MAX ∧ 65 + counts.length ≤ 256 ∧
    counts.sum ^ counts.sum ≤ 16 ^ counts.sum * (counts.map fun c => c ^ c).prod ∧
    counts.sum * 4300 + (counts.map fun c => c * tableEntry c).sum <
      counts.sum * tableEntry counts.sum

instance (counts : List Nat) : Decidable (Misjudged counts) :=
  inferInstanceAs (Decidable (_ ∧ _))

/-- A name with those counts, of the byte values from `'A'` on. -/
def spelledName (counts : List Nat) (misjudged : Misjudged counts) : FileName where
  bytes := spelledFrom 65 counts
  nonempty := by
    intro empty
    have length := length_spelledFrom 65 counts
    have long := misjudged.1
    rw [empty, List.length_nil] at length
    omega
  noNul := by
    intro b member
    obtain ⟨i, low, high, rfl⟩ := mem_spelledFrom member
    have room := misjudged.2.2.1
    intro zero
    have value := congrArg UInt8.toNat zero
    rw [UInt8.toNat_ofNat_of_lt' (show i < 256 by omega)] at value
    change i = 0 at value
    omega
  fits := by
    rw [length_spelledFrom]
    exact misjudged.2.1

variable {counts : List Nat} (misjudged : Misjudged counts)

theorem length_spelledName : (spelledName counts misjudged).bytes.length = counts.sum :=
  length_spelledFrom 65 counts

theorem lowEntropy_spelledName : LowEntropy (spelledName counts misjudged) := by
  have product := prod_spelledFrom misjudged.2.2.1 (g := fun c => c ^ c) rfl
  rw [LowEntropy, length_spelledName]
  exact product.symm ▸ misjudged.2.2.2.1

/-- It has no dot. -/
theorem extensionSkips_spelledName : (spelledName counts misjudged).extensionSkips = false := by
  have long : 4 ≤ (spelledName counts misjudged).bytes.length := by
    rw [length_spelledName]
    exact le_trans (by decide) misjudged.1
  rw [← Bool.not_eq_true, extensionSkips_iff long]
  rintro ⟨stem, suffix, shape, _⟩
  have member : dot ∈ spelledFrom 65 counts := by
    change _ = stem ++ dot :: suffix at shape
    have listed : dot ∈ (spelledName counts misjudged).bytes := by
      rw [shape]
      exact List.mem_append_right _ List.mem_cons_self
    exact listed
  obtain ⟨i, low, high, value⟩ := mem_spelledFrom member
  have room := misjudged.2.2.1
  have number := congrArg UInt8.toNat value
  rw [UInt8.toNat_ofNat_of_lt' (show i < 256 by omega)] at number
  change 46 = i at number
  omega

theorem high_score_spelledName : 4300 < 1024 * exactEntropy (spelledName counts misjudged) +
    scoreError (spelledName counts misjudged) := by
  rw [← hScaled_gt_iff_entropy, hScaled_gt_iff, length_spelledName]
  have weighted := weightedSum_spelledFrom misjudged.2.2.1 tableEntry
  exact weighted.symm ▸ misjudged.2.2.2.2

/-- Counts for every length from 122 on: nearly the same for sixteen values, except for the two
shortest lengths, where the entry at 36 has to help. -/
def misjudgedCounts (n : Nat) : List Nat :=
  if n = 122 then List.replicate 15 1 ++ List.replicate 4 2 ++ [3, 3, 3, 5] ++
    List.replicate 7 7 ++ [36]
  else if n = 123 then List.replicate 11 1 ++ List.replicate 5 2 ++ [3, 3] ++
    List.replicate 5 5 ++ List.replicate 5 7 ++ [36]
  else List.replicate (n % 16) (n / 16 + 1) ++ List.replicate (16 - n % 16) (n / 16)

theorem misjudged_of_long : ∀ n < 256, 122 ≤ n →
    Misjudged (misjudgedCounts n) ∧ (misjudgedCounts n).sum = n := by
  decide +kernel

end Killed

section Repeated

def home : DirId := ⟨7, 1⟩

/-- The module is enabled and watches one directory. -/
def watchingMaps : Maps :=
  ⟨some 1, .single protectedDirsType 8192 protectedDirsMax_pos home 1, true⟩

theorem watched_home : watched watchingMaps.protectedDirs
    (extractDirIdFromDentry (dentryOf home)) = true := by decide

def renamingTask : Task := ⟨0, 1000, none⟩

/-- Eight times each of the letters from `A` to `P`. -/
def repeatedLetters : List Nat := List.replicate 16 8

theorem misjudged_repeatedLetters : Misjudged repeatedLetters := by decide +kernel

/-- A name of 128 bytes and exactly four bits is killed. -/
theorem repeatedLetters_killed :
    LowEntropy (spelledName repeatedLetters misjudged_repeatedLetters) ∧
      (spelledName repeatedLetters misjudged_repeatedLetters).bytes.length = 128 ∧
      (renameEntropyPathRename watchingMaps none renamingTask 1 none (dentryOf home)
        (dentryOf home) (spelledName repeatedLetters misjudged_repeatedLetters).qstr).Killed := by
  have length := length_spelledName misjudged_repeatedLetters
  have long : 8 ≤ (spelledName repeatedLetters misjudged_repeatedLetters).bytes.length := by
    rw [length]
    decide
  refine ⟨lowEntropy_spelledName misjudged_repeatedLetters, length, ?_⟩
  exact (killed_of_not_allowed rfl (.inl watched_home) long rfl
    (extensionSkips_spelledName misjudged_repeatedLetters)
    (high_score_spelledName misjudged_repeatedLetters)).2

end Repeated

/-- A name of at most 4.0 bits is allowed exactly if its extension is, or the error the table
adds to its score leaves it below the threshold; this is so for every such name of a length
exactly up to 121 bytes. -/
theorem lowEntropy_allowed_iff (maps : Maps) (record : Option (List UInt8)) (task : Task)
    (ppid : UInt32) (resolved : Option (List UInt8)) (oldDir newDir : Dentry)
    (enabled : isModuleActive maps.stateMap = true)
    (inside : watched maps.protectedDirs (extractDirIdFromDentry oldDir) = true ∨
      watched maps.protectedDirs (extractDirIdFromDentry newDir) = true) :
    (∀ name : FileName, 8 ≤ name.bytes.length → LowEntropy name →
      (Allowed (renameEntropyPathRename maps record task ppid resolved oldDir newDir name.qstr) ↔
        maps.scratchAvailable = false ∨ name.extensionSkips = true ∨
          1024 * exactEntropy name + scoreError name ≤ 4300)) ∧
    (maps.scratchAvailable = true → ∀ n, 8 ≤ n → n ≤ NAME_MAX →
      ((∀ name : FileName, name.bytes.length = n → LowEntropy name →
        Allowed (renameEntropyPathRename maps record task ppid resolved oldDir newDir name.qstr)) ↔
        n ≤ 121)) := by
  refine ⟨fun name long _ => allowed_iff enabled inside long, ?_⟩
  intro scratch n long fits
  constructor
  · intro all
    by_contra beyond
    rw [NAME_MAX] at fits
    obtain ⟨misjudged, length⟩ := misjudged_of_long n (by omega) (by omega)
    have named := length_spelledName misjudged
    have allowed := all (spelledName _ misjudged) (named.trans length)
      (lowEntropy_spelledName misjudged)
    rw [allowed_iff enabled inside (by omega), scratch, extensionSkips_spelledName] at allowed
    rcases allowed with missing | skips | low
    · cases missing
    · cases skips
    · exact absurd (high_score_spelledName misjudged) (not_lt.mpr low)
  · intro short name length low
    rw [allowed_iff enabled inside (by omega)]
    exact .inr (.inr (low_score_of_short low (by omega)))

/-- Sixteen letters, one of each. -/
def sixteenLetters : FileName :=
  ⟨CStr.literal "ABCDEFGHIJKLMNOP", by decide, CStr.noNul_of_all (by decide), by decide⟩

theorem lowEntropy_sixteenLetters : LowEntropy sixteenLetters := by
  have spelt : sixteenLetters.bytes = spelledFrom 65 (List.replicate 16 1) := by decide
  rw [LowEntropy, spelt, prod_spelledFrom (by decide) (g := fun c => c ^ c) rfl]
  decide +kernel

theorem lowEntropy_allowed_iff_sample :
    Allowed (renameEntropyPathRename watchingMaps none renamingTask 1 none (dentryOf home)
      (dentryOf home) sixteenLetters.qstr) := by
  have lengths := (lowEntropy_allowed_iff watchingMaps none renamingTask 1 none (dentryOf home)
    (dentryOf home) rfl (.inl watched_home)).2 rfl 16 (by decide) (by decide)
  exact lengths.mpr (by decide) sixteenLetters rfl lowEntropy_sixteenLetters

section Evasion

/-- The text behind the last dot of the last eight bytes begins with one of the extensions. -/
def ListedSuffix (name : FileName) : Prop :=
  ∃ stem suffix, name.bytes = stem ++ dot :: suffix ∧ dot ∉ suffix ∧ suffix.length < 8 ∧
    ∃ ext ∈ extensions, CStr.literal ext <+: suffix

/-- A short name does not have that much entropy. -/
theorem long_of_highEntropy {name : FileName} (high : HighEntropy name) :
    23 ≤ name.bytes.length := by
  by_contra short
  have positive : 0 < name.bytes.length := List.length_pos_iff.mpr name.nonempty
  have product : 1 ≤ ∏ i ∈ byteValues, countOf name.bytes i ^ (2 * countOf name.bytes i) := by
    refine Finset.one_le_prod'' fun i => ?_
    rcases Nat.eq_zero_or_pos (countOf name.bytes i) with zero | present
    · rw [zero]
      exact Nat.le_refl _
    · exact Nat.one_le_pow _ _ present
  have square : name.bytes.length ^ 2 < 2 ^ 9 := by
    have bound : name.bytes.length ^ 2 ≤ 22 ^ 2 := Nat.pow_le_pow_left (by omega) 2
    omega
  have powers : name.bytes.length ^ (2 * name.bytes.length) < 2 ^ (9 * name.bytes.length) := by
    rw [pow_mul, pow_mul]
    exact Nat.pow_lt_pow_left square (Nat.pos_iff_ne_zero.mp positive)
  have lower : 2 ^ (9 * name.bytes.length) ≤ name.bytes.length ^ (2 * name.bytes.length) :=
    le_trans (Nat.le_mul_of_pos_right _ product) high
  omega

end Evasion

/-- A name of at least 4.5 bits is refused and its renamer killed, unless its extension is
listed. -/
theorem highEntropy_killed (maps : Maps) (record : Option (List UInt8)) (task : Task)
    (ppid : UInt32) (resolved : Option (List UInt8)) (oldDir newDir : Dentry)
    (enabled : isModuleActive maps.stateMap = true) (scratch : maps.scratchAvailable = true)
    (inside : watched maps.protectedDirs (extractDirIdFromDentry oldDir) = true ∨
      watched maps.protectedDirs (extractDirIdFromDentry newDir) = true)
    {name : FileName} (unlisted : ¬ ListedSuffix name) (high : HighEntropy name) :
    (renameEntropyPathRename maps record task ppid resolved oldDir newDir name.qstr).ret =
        -EPERM ∧
      (renameEntropyPathRename maps record task ppid resolved oldDir newDir name.qstr).Killed := by
  have long := long_of_highEntropy high
  have plain : name.extensionSkips = false := by
    rw [← Bool.not_eq_true, extensionSkips_iff (by omega)]
    rintro ⟨stem, suffix, shape, last, _, short, listed⟩
    exact unlisted ⟨stem, suffix, shape, last, by omega, listed⟩
  have bits := highEntropy_iff.mp high
  have error := neg_le_scoreError name
  refine killed_of_not_allowed enabled inside (by omega) scratch plain ?_
  linarith only [bits, error]

def scrambledName : FileName :=
  ⟨CStr.literal "ABCDEFGHIJKLMNOPQRSTUVWXYZ", by decide, CStr.noNul_of_all (by decide), by decide⟩

theorem highEntropy_killed_sample :
    (renameEntropyPathRename watchingMaps none renamingTask 1 none (dentryOf home)
        (dentryOf home) scrambledName.qstr).ret = -EPERM ∧
      (renameEntropyPathRename watchingMaps none renamingTask 1 none (dentryOf home)
        (dentryOf home) scrambledName.qstr).Killed := by
  refine highEntropy_killed watchingMaps none renamingTask 1 none (dentryOf home) (dentryOf home)
    rfl rfl (.inl watched_home) ?_ ?_
  · rintro ⟨stem, suffix, shape, _⟩
    have dotless : dot ∉ scrambledName.bytes := by decide
    rw [shape] at dotless
    exact dotless (List.mem_append_right _ List.mem_cons_self)
  · have spelt : scrambledName.bytes = spelledFrom 65 (List.replicate 26 1) := by decide
    rw [HighEntropy, spelt, prod_spelledFrom (by decide) (g := fun c => c ^ (2 * c)) rfl]
    decide +kernel

end BouclierBleu.Watchlist.EntropyThreshold
