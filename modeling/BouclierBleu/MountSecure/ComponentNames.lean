/- GID: BouclierBleu/MountSecure/ComponentNames
   source: bpf/mount_secure.bpf.c
   digest: Which names of a dentry chain the fallback takes for a removable-media root. -/

import BouclierBleu.MountSecure.Hooks

set_option autoImplicit false
set_option relaxedAutoImplicit false

namespace BouclierBleu.MountSecure.ComponentNames

open BouclierBleu.Kernel.ModuleCore (CStr KernelStr probeReadKernelStr spells spells_iff)
open BouclierBleu.MountSecure.Hooks

/-- The characters of a name in kernel memory, where it can be read. -/
def componentName : KernelStr → Option (List UInt8)
  | .text bytes => some (bytes.takeWhile (· != 0))
  | .null | .unreadable => none

/-- The dentry a number of steps above another one; above the root there is the root again. -/
def ancestor : Nat → Dentry → Dentry
  | 0, d => d
  | steps + 1, d => ancestor steps d.dParent

/-- One of the first 32 dentries of the destination's chain has this name. -/
def OnWalk (dstPath : Path) (name : List UInt8) : Prop :=
  ∃ d, dstPath.dentry = some d ∧ ∃ i < 32, componentName (ancestor i d).dName = some name

section OneName

/-- What the copy of a name into six bytes keeps of it. -/
private theorem copied_bytes (bytes : List UInt8) :
    (CStr.copy 6 CStr.componentPrefix_pos bytes).bytes =
      (bytes.takeWhile (· != 0)).take 5 := rfl

/-- The sixth byte holds the NUL of every copy, also of one that was cut short. -/
private theorem copied_byte_five (bytes : List UInt8) :
    (CStr.copy 6 CStr.componentPrefix_pos bytes).byte 5 = 0 := by
  rw [CStr.byte_eq_zero_iff, copied_bytes]
  exact List.length_take_le _ _

/-- The fourth byte holds one only if the name is no longer than that. -/
private theorem copied_byte_three_iff (bytes : List UInt8) :
    (CStr.copy 6 CStr.componentPrefix_pos bytes).byte 3 = 0 ↔
      (bytes.takeWhile (· != 0)).length ≤ 3 := by
  rw [CStr.byte_eq_zero_iff, copied_bytes, List.length_take]
  omega

/-- A text of at most five characters is compared as if nothing had been cut. -/
private theorem spells_copied_iff {text : String} (fits : (CStr.literal text).length ≤ 5)
    (bytes : List UInt8) :
    spells (CStr.copy 6 CStr.componentPrefix_pos bytes).bytes 0 text = true ↔
      CStr.literal text <+: bytes.takeWhile (· != 0) := by
  rw [spells_iff, List.drop_zero, copied_bytes, List.prefix_take_iff]
  exact and_iff_left fits

/-- The short root is compared whole, of the long one only that the name begins with it. -/
theorem sensitiveName_iff (name : KernelStr) :
    sensitiveName name = true ↔
      ∃ text, componentName name = some text ∧
        (text = CStr.literal "mnt" ∨ CStr.literal "media" <+: text) := by
  cases name with
  | null => simp [sensitiveName, probeReadKernelStr, componentName]
  | unreadable => simp [sensitiveName, probeReadKernelStr, componentName]
  | text bytes =>
    have mntFits : (CStr.literal "mnt").length ≤ 5 := by decide
    have mediaFits : (CStr.literal "media").length ≤ 5 := by decide
    have whole : CStr.literal "mnt" <+: bytes.takeWhile (· != 0) ∧
        (bytes.takeWhile (· != 0)).length ≤ 3 ↔
          bytes.takeWhile (· != 0) = CStr.literal "mnt" := by
      constructor
      · rintro ⟨starts, short⟩
        exact (starts.eq_of_length_le short).symm
      · intro same
        rw [same]
        exact ⟨List.prefix_rfl, by decide⟩
    simp only [sensitiveName, probeReadKernelStr, componentName, Bool.or_eq_true, Bool.and_eq_true,
      beq_iff_eq, spells_copied_iff mntFits, spells_copied_iff mediaFits, copied_byte_five,
      copied_byte_three_iff, and_true, whole, Option.some.injEq, exists_eq_left']

end OneName

section Walk

/-- One step looks at one name, then the walk goes on from the parent. -/
theorem sensitiveWithin_iff (steps : Nat) (d : Dentry) :
    sensitiveWithin steps d = true ↔ ∃ i < steps, sensitiveName (ancestor i d).dName = true := by
  induction steps generalizing d with
  | zero => simp [sensitiveWithin]
  | succ steps ih =>
    rw [sensitiveWithin, Bool.or_eq_true, ih]
    constructor
    · rintro (here | ⟨i, inside, above⟩)
      · exact ⟨0, Nat.succ_pos steps, here⟩
      · exact ⟨i + 1, Nat.succ_lt_succ inside, above⟩
    · rintro ⟨i, inside, found⟩
      cases i with
      | zero => exact .inl found
      | succ i => exact .inr ⟨i, Nat.lt_of_succ_lt_succ inside, found⟩

theorem fallbackDentryCheck_iff (dstPath : Path) :
    fallbackDentryCheck dstPath = true ↔
      OnWalk dstPath (CStr.literal "mnt") ∨
        ∃ text, CStr.literal "media" <+: text ∧ OnWalk dstPath text := by
  cases destination : dstPath.dentry with
  | none => simp [fallbackDentryCheck, OnWalk, destination]
  | some d =>
    simp only [fallbackDentryCheck, OnWalk, destination, sensitiveWithin_iff, sensitiveName_iff,
      Option.some.injEq, exists_eq_left']
    constructor
    · rintro ⟨i, inside, text, named, rfl | starts⟩
      · exact .inl ⟨i, inside, named⟩
      · exact .inr ⟨text, starts, i, inside, named⟩
    · rintro (⟨i, inside, named⟩ | ⟨text, starts, i, inside, named⟩)
      · exact ⟨i, inside, _, named, .inl rfl⟩
      · exact ⟨i, inside, text, named, .inr starts⟩

end Walk

/-- The fallback compares whole names exactly if none of the names it meets goes on after
`media`, or it meets one of the two whole names as well. -/
theorem fallbackDentryCheck_whole_iff (dstPath : Path) :
    (fallbackDentryCheck dstPath = true ↔
      OnWalk dstPath (CStr.literal "mnt") ∨ OnWalk dstPath (CStr.literal "media")) ↔
      (∀ more, more ≠ [] → ¬ OnWalk dstPath (CStr.literal "media" ++ more)) ∨
        OnWalk dstPath (CStr.literal "mnt") ∨ OnWalk dstPath (CStr.literal "media") := by
  rw [fallbackDentryCheck_iff]
  constructor
  · intro same
    by_cases whole : OnWalk dstPath (CStr.literal "mnt") ∨ OnWalk dstPath (CStr.literal "media")
    · exact .inr whole
    · refine .inl fun more _ longer => whole (same.mp (.inr ?_))
      exact ⟨_, List.prefix_append _ more, longer⟩
  · rintro (exactly | whole)
    · refine or_congr_right ⟨?_, fun media => ⟨_, List.prefix_rfl, media⟩⟩
      rintro ⟨text, ⟨more, rfl⟩, met⟩
      by_cases ended : more = []
      · rwa [ended, List.append_nil] at met
      · exact absurd met (exactly more ended)
    · refine iff_of_true ?_ whole
      exact whole.imp_right fun media => ⟨_, List.prefix_rfl, media⟩

/-- A directory `/mediawiki` on the root filesystem. -/
def mediawiki : Dentry := .child (.text (CStr.literal "mediawiki")) (.root (.text [47]))

theorem mediawiki_taken_for_media :
    ¬ (fallbackDentryCheck ⟨some mediawiki, none⟩ = true ↔
      OnWalk ⟨some mediawiki, none⟩ (CStr.literal "mnt") ∨
        OnWalk ⟨some mediawiki, none⟩ (CStr.literal "media")) := by
  have taken : fallbackDentryCheck ⟨some mediawiki, none⟩ = true := by decide
  have other : ∀ i < 32, componentName (ancestor i mediawiki).dName ≠ some (CStr.literal "mnt") ∧
      componentName (ancestor i mediawiki).dName ≠ some (CStr.literal "media") := by
    decide
  intro same
  rcases same.mp taken with ⟨d, start, i, inside, named⟩ | ⟨d, start, i, inside, named⟩
  · cases start
    exact (other i inside).1 named
  · cases start
    exact (other i inside).2 named

end BouclierBleu.MountSecure.ComponentNames
