/- GID: BouclierBleu/Watchlist/ExtensionWhitelist
   source: bpf/rename_entropy.bpf.c
   digest: Which file names the rename hook lets through for their extension. -/

import BouclierBleu.Watchlist.RenameEntropy

set_option autoImplicit false
set_option relaxedAutoImplicit false

namespace BouclierBleu.Watchlist.ExtensionWhitelist

open BouclierBleu.Kernel.AlertStructs (RenameAlert)
open BouclierBleu.Kernel.ModuleCore (isModuleActive EPERM SIGKILL Outcome CStr Task)
open BouclierBleu.Kernel.VfsHelpers
open BouclierBleu.Watchlist.RenameEntropy

/-- A file name the kernel hands over. -/
structure FileName where
  bytes : List UInt8
  nonempty : bytes ≠ []
  noNul : ∀ b ∈ bytes, b ≠ 0
  fits : bytes.length ≤ NAME_MAX

namespace FileName

variable (name : FileName)

/-- How the name stands in a dentry. -/
def qstr : Qstr := ⟨UInt32.ofNat name.bytes.length, name.bytes⟩

/-- The scratch copy the hook works on. -/
def scratch : ScratchName := .copy 256 CStr.nameLen_pos name.bytes

@[simp] theorem scratch_bytes : name.scratch.bytes = name.bytes := by
  rw [scratch, CStr.copy_bytes_of_noNul _ name.noNul]
  exact List.take_of_length_le name.fits

theorem len_toNat : name.qstr.len.toNat = name.bytes.length := by
  have fits := name.fits
  rw [NAME_MAX] at fits
  have size : UInt32.size = 4294967296 := rfl
  exact UInt32.toNat_ofNat_of_lt' (by omega)

/-- No name is clamped. -/
theorem clamped : (if name.qstr.len > 255 then 255 else name.qstr.len.toNat) =
    name.bytes.length := by
  have fits := name.fits
  have short : ¬ name.qstr.len > 255 := by
    rw [gt_iff_lt, UInt32.lt_iff_toNat_lt, name.len_toNat]
    exact Nat.not_lt.mpr fits
  rw [if_neg short, name.len_toNat]

/-- The extension check as the hook makes it. -/
def extensionSkips : Bool := whitelisted name.scratch name.qstr.len name.bytes.length

end FileName

section Hook

variable {maps : Maps} {record : Option (List UInt8)} {task : Task} {ppid : UInt32}
  {resolved : Option (List UInt8)} {oldDir newDir : Dentry}

/-- Past the guards, the hook's verdict on a name. -/
theorem renameEntropyPathRename_of_inspected (enabled : isModuleActive maps.stateMap = true)
    (scratch : maps.scratchAvailable = true)
    (inside : watched maps.protectedDirs (extractDirIdFromDentry oldDir) = true ∨
      watched maps.protectedDirs (extractDirIdFromDentry newDir) = true) (name : FileName) :
    renameEntropyPathRename maps record task ppid resolved oldDir newDir name.qstr =
      if name.bytes.length < 8 then .quiet 0
      else if name.extensionSkips then .quiet 0
      else if hScaled name.scratch name.bytes.length > ENTROPY_THRESHOLD_SCALED then
        { ret := -EPERM
          alerts :=
            match record with
            | some record => [⟨task.tgid, ppid, dirPath record resolved, name.scratch⟩]
            | none => []
          signals := [SIGKILL] }
      else .quiet 0 := by
  have guarded : (!watched maps.protectedDirs (extractDirIdFromDentry oldDir) &&
      !watched maps.protectedDirs (extractDirIdFromDentry newDir)) = false := by
    rcases inside with old | new
    · rw [old]
      rfl
    · rw [new, Bool.and_comm]
      rfl
  have fits := Nat.not_lt.mpr name.fits
  unfold renameEntropyPathRename
  simp only [enabled, scratch, guarded, name.clamped, Bool.not_true, Bool.false_eq_true, if_false]
  by_cases short : name.bytes.length < 8
  · simp [short]
  · simp only [short, fits, decide_false, Bool.or_self, Bool.false_eq_true, if_false]
    rfl

end Hook

/-- The byte `'.'`. -/
def dot : UInt8 := 46

/-- The extensions of the whitelist. -/
def extensions : List String := ["log", "git", "tmp", "swp"]

private theorem extension_shape : ∀ ext ∈ extensions,
    ∃ x y z, CStr.literal ext = [x, y, z] ∧ x ≠ 0 ∧ y ≠ 0 ∧ z ≠ 0 := by
  simp only [extensions, List.mem_cons, List.not_mem_nil, or_false]
  rintro ext (rfl | rfl | rfl | rfl)
  · exact ⟨108, 111, 103, by decide, by decide, by decide, by decide⟩
  · exact ⟨103, 105, 116, by decide, by decide, by decide, by decide⟩
  · exact ⟨116, 109, 112, by decide, by decide, by decide, by decide⟩
  · exact ⟨115, 119, 112, by decide, by decide, by decide, by decide⟩

private theorem dot_not_mem_extension : ∀ ext ∈ extensions, dot ∉ CStr.literal ext := by
  simp only [extensions, List.mem_cons, List.not_mem_nil, or_false]
  rintro ext (rfl | rfl | rfl | rfl) <;> decide

/-- Two splits at a last dot are one. -/
private theorem suffix_unique {stem stem' suffix suffix' : List UInt8}
    (same : stem ++ dot :: suffix = stem' ++ dot :: suffix') (last : dot ∉ suffix)
    (last' : dot ∉ suffix') : suffix = suffix' := by
  rcases List.append_eq_append_iff.mp same with ⟨between, _, rest⟩ | ⟨between, _, rest⟩
  · cases between with
    | nil => exact (List.cons.inj rest).2
    | cons x between =>
      refine absurd ?_ last
      rw [(List.cons.inj rest).2]
      exact List.mem_append_right _ List.mem_cons_self
  · cases between with
    | nil => exact (List.cons.inj rest).2.symm
    | cons x between =>
      refine absurd ?_ last'
      rw [(List.cons.inj rest).2]
      exact List.mem_append_right _ List.mem_cons_self

section Scan

variable {name : FileName}

theorem nameAt_scratch {i : Nat} (below : i < 256) :
    nameAt name.scratch i = name.bytes.getD i 0 := by
  rw [nameAt, name.scratch_bytes, Nat.mod_eq_of_lt below]

private theorem getD_split {stem suffix : List UInt8} (shape : name.bytes = stem ++ dot :: suffix)
    (i : Nat) : name.bytes.getD (stem.length + 1 + i) 0 = suffix.getD i 0 := by
  rw [shape, List.getD_append_right _ _ _ _ (by omega)]
  have position : stem.length + 1 + i - stem.length = i + 1 := by omega
  rw [position, List.getD_cons_succ]

private theorem length_split {stem suffix : List UInt8}
    (shape : name.bytes = stem ++ dot :: suffix) :
    name.bytes.length = stem.length + 1 + suffix.length := by
  rw [shape, List.length_append, List.length_cons]
  omega

/-- One step of the backward scan meets a dot exactly if the name splits there. -/
private theorem meetsDot_iff (i : Nat) :
    (decide (i < name.bytes.length) &&
        nameAt name.scratch (name.bytes.length - 1 - i) == '.'.toNat.toUInt8) = true ↔
      ∃ stem suffix, name.bytes = stem ++ dot :: suffix ∧ suffix.length = i := by
  have fits : name.bytes.length ≤ 255 := name.fits
  rw [Bool.and_eq_true, decide_eq_true_eq, beq_iff_eq, nameAt_scratch (by omega)]
  constructor
  · rintro ⟨bound, byte⟩
    have position : name.bytes.length - 1 - i < name.bytes.length := by omega
    rw [List.getD_eq_getElem _ _ position] at byte
    refine ⟨name.bytes.take (name.bytes.length - 1 - i),
      name.bytes.drop (name.bytes.length - 1 - i + 1), ?_, ?_⟩
    · conv_lhs => rw [← List.take_append_drop (name.bytes.length - 1 - i) name.bytes,
        List.drop_eq_getElem_cons position, byte]
      rfl
    · rw [List.length_drop]
      omega
  · rintro ⟨stem, suffix, shape, rfl⟩
    have length := length_split shape
    have index : name.bytes.length - 1 - suffix.length = stem.length := by omega
    refine ⟨by omega, ?_⟩
    rw [index, shape, List.getD_append_right _ _ _ _ (Nat.le_refl _), Nat.sub_self]
    rfl

/-- The backward scan finds the last dot, if that is one of the last eight bytes. -/
theorem dotPos_eq_some_iff {d : Nat} :
    dotPos name.scratch name.bytes.length = some d ↔
      ∃ stem suffix, name.bytes = stem ++ dot :: suffix ∧ dot ∉ suffix ∧ stem.length = d ∧
        suffix.length < 8 := by
  rw [dotPos, Option.map_eq_some_iff]
  constructor
  · rintro ⟨i, found, rfl⟩
    rw [List.find?_range_eq_some] at found
    obtain ⟨here, inside, before⟩ := found
    obtain ⟨stem, suffix, shape, rfl⟩ := (meetsDot_iff i).mp here
    have length := length_split shape
    refine ⟨stem, suffix, shape, fun later => ?_, by omega, List.mem_range.mp inside⟩
    -- the later dot would have been met on the way
    obtain ⟨front, back, rfl⟩ := List.append_of_mem later
    have earlier := before back.length (by simp; omega)
    have again : name.bytes = (stem ++ dot :: front) ++ dot :: back := by simp [shape]
    have met := (meetsDot_iff back.length).mpr ⟨_, back, again, rfl⟩
    rw [met] at earlier
    cases earlier
  · rintro ⟨stem, suffix, shape, last, rfl, short⟩
    have length := length_split shape
    refine ⟨suffix.length, ?_, by omega⟩
    rw [List.find?_range_eq_some]
    refine ⟨(meetsDot_iff _).mpr ⟨stem, suffix, shape, rfl⟩, List.mem_range.mpr short, ?_⟩
    intro j earlier
    rw [Bool.not_eq_true']
    by_contra met
    rw [Bool.not_eq_false, meetsDot_iff] at met
    obtain ⟨stem', suffix', shape', rfl⟩ := met
    have inner : dot :: suffix' <:+ suffix :=
      List.suffix_of_suffix_length_le ⟨stem', shape'.symm⟩
        ⟨stem ++ [dot], by simp [shape]⟩ earlier
    exact last (inner.subset List.mem_cons_self)

/-- The three comparisons behind the dot; the name's NUL stops them where the suffix is
short, and the masked indices never come into play. -/
theorem extensionIs_iff {stem suffix : List UInt8} (shape : name.bytes = stem ++ dot :: suffix)
    {ext : String} (known : ext ∈ extensions) :
    extensionIs name.scratch stem.length ext = true ↔ CStr.literal ext <+: suffix := by
  have fits : name.bytes.length ≤ 255 := name.fits
  have length := length_split shape
  obtain ⟨x, y, z, literal, nonzeroX, nonzeroY, nonzeroZ⟩ := extension_shape ext known
  have first : nameAt name.scratch (stem.length + 1) = suffix.getD 0 0 := by
    rw [nameAt_scratch (by omega)]
    exact getD_split shape 0
  rw [extensionIs, literal, beq_iff_eq, first]
  cases suffix with
  | nil => simp [nonzeroX.symm]
  | cons a suffix =>
    rw [List.length_cons] at length
    have second : nameAt name.scratch (stem.length + 2) = suffix.getD 0 0 := by
      rw [nameAt_scratch (by omega)]
      exact getD_split shape 1
    rw [second]
    cases suffix with
    | nil => simp [nonzeroY.symm]
    | cons b suffix =>
      rw [List.length_cons] at length
      have third : nameAt name.scratch (stem.length + 3) = suffix.getD 0 0 := by
        rw [nameAt_scratch (by omega)]
        exact getD_split shape 2
      rw [third]
      cases suffix with
      | nil => simp [nonzeroZ.symm]
      | cons c suffix => simp [eq_comm]

/-- The distance of the dot from the recorded end, in machine words. -/
private theorem dotDistance_le_iff {stem suffix : List UInt8}
    (shape : name.bytes = stem ++ dot :: suffix) :
    name.qstr.len - UInt32.ofNat stem.length ≤ 5 ↔ suffix.length ≤ 4 := by
  have fits : name.bytes.length ≤ 255 := name.fits
  have length := length_split shape
  have size : UInt32.size = 4294967296 := rfl
  have stemLength : (UInt32.ofNat stem.length).toNat = stem.length :=
    UInt32.toNat_ofNat_of_lt' (by omega)
  have below : UInt32.ofNat stem.length ≤ name.qstr.len := by
    rw [UInt32.le_iff_toNat_le, stemLength, name.len_toNat]
    omega
  have five : (5 : UInt32).toNat = 5 := rfl
  rw [UInt32.le_iff_toNat_le, UInt32.toNat_sub_of_le _ _ below, stemLength, name.len_toNat, five]
  omega

/-- A name skips the analysis exactly if at most four bytes follow its last dot, which is not
its first byte, and begin with one of the extensions. -/
theorem extensionSkips_iff (long : 4 ≤ name.bytes.length) :
    name.extensionSkips = true ↔
      ∃ stem suffix, name.bytes = stem ++ dot :: suffix ∧ dot ∉ suffix ∧ stem ≠ [] ∧
        suffix.length ≤ 4 ∧ ∃ ext ∈ extensions, CStr.literal ext <+: suffix := by
  have fits : name.bytes.length ≤ 255 := name.fits
  have inRange : (name.qstr.len ≥ 4 && name.qstr.len ≤ 255) = true := by
    rw [Bool.and_eq_true, decide_eq_true_eq, decide_eq_true_eq, ge_iff_le,
      UInt32.le_iff_toNat_le, UInt32.le_iff_toNat_le, name.len_toNat]
    exact ⟨long, fits⟩
  have listed {stem suffix : List UInt8} (shape : name.bytes = stem ++ dot :: suffix) :
      extensions.any (extensionIs name.scratch stem.length) = true ↔
        ∃ ext ∈ extensions, CStr.literal ext <+: suffix := by
    rw [List.any_eq_true]
    exact exists_congr fun ext => and_congr_right fun known => extensionIs_iff shape known
  rw [FileName.extensionSkips, whitelisted, if_pos inRange]
  constructor
  · cases found : dotPos name.scratch name.bytes.length with
    | none =>
      intro skips
      cases skips
    | some d =>
      obtain ⟨stem, suffix, shape, last, rfl, _⟩ := dotPos_eq_some_iff.mp found
      intro skips
      simp only [Bool.and_eq_true, decide_eq_true_eq, dotDistance_le_iff shape] at skips
      obtain ⟨⟨inner, short⟩, begins⟩ := skips
      exact ⟨stem, suffix, shape, last, List.ne_nil_of_length_pos inner, short,
        (listed shape).mp begins⟩
  · rintro ⟨stem, suffix, shape, last, inner, short, begins⟩
    have found : dotPos name.scratch name.bytes.length = some stem.length :=
      dotPos_eq_some_iff.mpr ⟨stem, suffix, shape, last, rfl, by omega⟩
    rw [found]
    simp only [Bool.and_eq_true, decide_eq_true_eq, dotDistance_le_iff shape]
    exact ⟨⟨List.length_pos_iff.mpr inner, short⟩, (listed shape).mpr begins⟩

end Scan

/-- The bytes after the last dot, which is not the first byte, are one of the extensions. -/
def HasExtension (name : FileName) : Prop :=
  ∃ stem, ∃ ext ∈ extensions, stem ≠ [] ∧ name.bytes = stem ++ dot :: CStr.literal ext

/-- They are four bytes, of which the first three are one of the extensions. -/
def HasPaddedExtension (name : FileName) : Prop :=
  ∃ stem, ∃ ext ∈ extensions, ∃ b, b ≠ dot ∧ stem ≠ [] ∧
    name.bytes = stem ++ dot :: (CStr.literal ext ++ [b])

theorem extensionSkips_iff_cases {name : FileName} (long : 4 ≤ name.bytes.length) :
    name.extensionSkips = true ↔ HasExtension name ∨ HasPaddedExtension name := by
  rw [extensionSkips_iff long]
  constructor
  · rintro ⟨stem, suffix, shape, last, inner, short, ext, known, tail, rfl⟩
    obtain ⟨x, y, z, literal, _⟩ := extension_shape ext known
    rw [literal, List.length_append] at short
    rw [List.length_cons, List.length_cons, List.length_singleton] at short
    cases tail with
    | nil =>
      rw [List.append_nil] at shape
      exact .inl ⟨stem, ext, known, inner, shape⟩
    | cons b tail =>
      have single : tail = [] := by
        rw [List.length_cons] at short
        exact List.length_eq_zero_iff.mp (by omega)
      subst single
      refine .inr ⟨stem, ext, known, b, ?_, inner, shape⟩
      rintro rfl
      exact last (List.mem_append_right _ List.mem_cons_self)
  · have three : ∀ ext ∈ extensions, (CStr.literal ext).length = 3 := by decide
    rintro (⟨stem, ext, known, inner, shape⟩ | ⟨stem, ext, known, b, other, inner, shape⟩)
    · exact ⟨stem, _, shape, dot_not_mem_extension ext known, inner, by rw [three ext known]; omega,
        ext, known, List.prefix_rfl⟩
    · refine ⟨stem, _, shape, ?_, inner, ?_, ext, known, List.prefix_append _ _⟩
      · rw [List.mem_append, List.mem_singleton, not_or]
        exact ⟨dot_not_mem_extension ext known, other.symm⟩
      · rw [List.length_append, three ext known, List.length_singleton]

/-- The two kinds of name exclude each other. -/
theorem not_hasExtension_of_padded {name : FileName} (padded : HasPaddedExtension name) :
    ¬ HasExtension name := by
  obtain ⟨stem, ext, known, b, other, _, shape⟩ := padded
  rintro ⟨stem', ext', known', _, shape'⟩
  have last : dot ∉ CStr.literal ext ++ [b] := by
    rw [List.mem_append, List.mem_singleton, not_or]
    exact ⟨dot_not_mem_extension ext known, other.symm⟩
  have same := suffix_unique (shape.symm.trans shape') last (dot_not_mem_extension ext' known')
  have lengths := congrArg List.length same
  have three : ∀ ext ∈ extensions, (CStr.literal ext).length = 3 := by decide
  rw [List.length_append, three ext known, three ext' known'] at lengths
  cases lengths

section Padded

def loggedName : FileName :=
  ⟨CStr.literal "abcdefg.logx", by decide, CStr.noNul_of_all (by decide), by decide⟩

/-- The suffix `logx` is let through. -/
theorem paddedName_skips :
    8 ≤ loggedName.bytes.length ∧ loggedName.extensionSkips = true ∧ ¬ HasExtension loggedName := by
  refine ⟨by decide, by decide, not_hasExtension_of_padded ?_⟩
  exact ⟨CStr.literal "abcdefg", "log", by decide, 120, by decide, by decide, by decide⟩

end Padded

/-- The whitelist accepts exactly the names with one of its extensions, but for those with one
more byte behind the extension. -/
theorem extensionSkips_exact_iff (name : FileName) (long : 8 ≤ name.bytes.length) :
    (name.extensionSkips = true ↔ HasExtension name) ↔ ¬ HasPaddedExtension name := by
  rw [extensionSkips_iff_cases (by omega)]
  constructor
  · intro accepted padded
    exact not_hasExtension_of_padded padded (accepted.mp (.inr padded))
  · intro unpadded
    exact or_iff_left unpadded

def objectName : FileName :=
  ⟨CStr.literal "abcdefgh.log", by decide, CStr.noNul_of_all (by decide), by decide⟩

theorem extensionSkips_exact_iff_sample :
    objectName.extensionSkips = true ↔ HasExtension objectName := by
  refine (extensionSkips_exact_iff objectName (by decide)).mpr ?_
  intro padded
  refine not_hasExtension_of_padded padded ?_
  exact ⟨CStr.literal "abcdefgh", "log", by decide, by decide, by decide⟩

end BouclierBleu.Watchlist.ExtensionWhitelist
