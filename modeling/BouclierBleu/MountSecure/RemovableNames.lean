/- GID: BouclierBleu/MountSecure/RemovableNames
   source: bpf/mount_secure.bpf.c
   digest: The device names that the removable-media heuristic recognises. -/

import BouclierBleu.MountSecure.BothApis

set_option autoImplicit false
set_option relaxedAutoImplicit false

namespace BouclierBleu.MountSecure.RemovableNames

open BouclierBleu.Kernel.ModuleCore
  (isModuleActive CStr Task KernelStr probeReadKernelStr spells spells_iff)
open BouclierBleu.MountSecure.BothApis
open BouclierBleu.MountSecure.Hooks

/-- A USB or SCSI disk, or an SD card. -/
def RemovableName (name : List UInt8) : Prop :=
  CStr.literal "/dev/sd" <+: name ∨ CStr.literal "/dev/mmc" <+: name

/-- Both hooks deny every mount of the device that lacks one of the three flags, wherever it
goes. -/
structure DeniedEverywhere (name : List UInt8) : Prop where
  sbMount : ∀ (maps : Maps) (reserved : Bool) (task : Task) (path : Path) (type : KernelStr)
    (flags : UInt64), isModuleActive maps.stateMap = true →
    flags &&& SECURE_MOUNT_FLAGS ≠ SECURE_MOUNT_FLAGS →
    (mountSecureSbMount maps reserved task (.text name) path type flags).Denied
  moveMount : ∀ (maps : Maps) (layout : MountLayout) (reserved : Bool) (task : Task)
    (fromMnt : VfsMount) (toPath : Path), isModuleActive maps.stateMap = true →
    fromMnt.devName layout = .text name →
    fromMnt.mntFlags &&& SECURE_MOVE_MNT_FLAGS ≠ SECURE_MOVE_MNT_FLAGS →
    (mountSecureMoveMount maps layout reserved task fromMnt toPath).Denied

/-- A removable device is denied everywhere, and no other is taken for one. -/
def Recognised (name : List UInt8) : Prop :=
  (RemovableName name → DeniedEverywhere name) ∧
    (¬ RemovableName name → isRemovableDevice (.text name) = false)

section Prefix

variable {name : List UInt8}

/-- Two comparisons behind each other are one with the whole text. -/
private theorem append_prefix_iff {front back : List UInt8} :
    front ++ back <+: name ↔ front <+: name ∧ back <+: name.drop front.length := by
  constructor
  · rintro ⟨rest, rfl⟩
    rw [List.append_assoc]
    exact ⟨List.prefix_append _ _, by rw [List.drop_left]; exact List.prefix_append _ _⟩
  · rintro ⟨⟨rest, rfl⟩, behind⟩
    rw [List.drop_left] at behind
    exact (List.prefix_append_right_inj _).mpr behind

/-- The buffer ends where the last letter of `/dev/mmc` would be. -/
theorem isRemovableDevice_iff (noNul : ∀ b ∈ name, b ≠ 0) :
    isRemovableDevice (.text name) = true ↔ CStr.literal "/dev/sd" <+: name := by
  have read := CStr.copy_bytes_of_noNul CStr.devicePrefix_pos noNul
  have tooShort : spells (name.take 7) 5 "mmc" = false := by
    rw [Bool.eq_false_iff, ne_eq, spells_iff]
    intro spelt
    have bound := spelt.length_le
    have three : (CStr.literal "mmc").length = 3 := by decide
    rw [List.length_drop, List.length_take, three] at bound
    omega
  have parts : CStr.literal "/dev/sd" = CStr.literal "/dev/" ++ CStr.literal "sd" := by decide
  have both : isRemovableDevice (.text name) =
      (spells (name.take 7) 0 "/dev/" && spells (name.take 7) 5 "sd") := by
    rw [isRemovableDevice, probeReadKernelStr]
    dsimp only
    rw [read, tooShort]
    cases spells (name.take 7) 0 "/dev/" <;> cases spells (name.take 7) 5 "sd" <;> rfl
  have whole : CStr.literal "/dev/sd" <+: name.take 7 ↔ CStr.literal "/dev/sd" <+: name := by
    rw [List.prefix_take_iff]
    exact and_iff_left (by decide)
  rw [both, Bool.and_eq_true, spells_iff, spells_iff, ← whole, parts, append_prefix_iff]
  rfl

end Prefix

section Denied

variable {name : List UInt8}

/-- A device that is recognised is denied before the destination is looked at. -/
theorem deniedEverywhere_of_removable (removable : isRemovableDevice (.text name) = true) :
    DeniedEverywhere name where
  sbMount := by
    intro maps reserved task path type flags enabled lacking
    rw [sbMount_denied_iff lacking, evaluateSecureMount_denied_iff, isTarget, removable]
    exact ⟨enabled, rfl⟩
  moveMount := by
    intro maps layout reserved task fromMnt toPath enabled sameDevice lacking
    rw [moveMount_denied_iff lacking, sameDevice, evaluateSecureMount_denied_iff, isTarget,
      removable]
    exact ⟨enabled, rfl⟩

/-- Any other device may be mounted below `/home`. -/
theorem not_deniedEverywhere (fixed : isRemovableDevice (.text name) = false) :
    ¬ DeniedEverywhere name := by
  intro denied
  have refused := denied.sbMount enabledMaps true mountTask (destination [home]) .null 0
    (by decide) (by decide)
  rw [sbMount_denied_iff (by decide), evaluateSecureMount_denied_iff, isTarget, fixed] at refused
  exact absurd refused.2 (by decide)

end Denied

section SdCard

def sdCard : List UInt8 := CStr.literal "/dev/mmcblk0p1"

def sdCardMount : VfsMount := ⟨0, none, .text sdCard⟩

/-- An SD card can be mounted on `/home` with none of the flags, through either interface. -/
theorem sdCard_allowed :
    RemovableName sdCard ∧ sdCardMount.devName readableLayout = .text sdCard ∧
      ¬ (mountSecureSbMount enabledMaps true mountTask (.text sdCard) (destination [home]) .null
          0).Denied ∧
      ¬ (mountSecureMoveMount enabledMaps readableLayout true mountTask sdCardMount
          (destination [home])).Denied ∧
      ¬ Recognised sdCard := by
  have removable : RemovableName sdCard := .inr (by decide)
  have sameDevice : sdCardMount.devName readableLayout = .text sdCard :=
    devName_of_readable sdCardMount rfl (by decide)
  refine ⟨removable, sameDevice, by decide, by decide, ?_⟩
  intro recognised
  exact not_deniedEverywhere (by decide) (recognised.1 removable)

end SdCard

/-- A device name is recognised for what it is exactly if it does not start with `/dev/mmc`. -/
theorem recognised_iff {name : List UInt8} (noNul : ∀ b ∈ name, b ≠ 0) :
    Recognised name ↔ ¬ CStr.literal "/dev/mmc" <+: name := by
  have disk := isRemovableDevice_iff noNul
  constructor
  · intro recognised card
    have notDisk : ¬ CStr.literal "/dev/sd" <+: name := by
      intro sd
      rcases List.prefix_or_prefix_of_prefix sd card with one | other
      · exact absurd one (by decide)
      · exact absurd other (by decide)
    exact not_deniedEverywhere (Bool.eq_false_iff.mpr (mt disk.mp notDisk))
      (recognised.1 (.inr card))
  · intro notCard
    refine ⟨?_, ?_⟩
    · intro removable
      exact deniedEverywhere_of_removable (disk.mpr (removable.resolve_right notCard))
    · intro fixed
      exact Bool.eq_false_iff.mpr (mt disk.mp fun sd => fixed (.inl sd))

theorem recognised_iff_sample : Recognised (CStr.literal "/dev/sda1") :=
  (recognised_iff (CStr.noNul_of_all (by decide))).mpr (by decide)

end BouclierBleu.MountSecure.RemovableNames
