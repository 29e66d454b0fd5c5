/- GID: BouclierBleu/MountSecure/BothApis
   source: bpf/mount_secure.bpf.c
   digest: On which destinations the legacy and the modern mount interface get one verdict. -/

import BouclierBleu.Library.Separated
import BouclierBleu.MountSecure.ComponentNames

set_option autoImplicit false
set_option relaxedAutoImplicit false

namespace BouclierBleu.MountSecure.BothApis

open BouclierBleu.Kernel.ModuleCore
  (isModuleActive EPERM Outcome CStr Task KernelStr spells spells_iff)
open BouclierBleu.Library.Separated (joinWith prefix_part_iff prefix_parts_iff)
open BouclierBleu.MountSecure.ComponentNames (componentName sensitiveName_iff)
open BouclierBleu.MountSecure.Hooks

/-- The separator of a path, `'/'`. -/
def slash : UInt8 := 47

/-- The name of a directory entry. -/
structure Component where
  bytes : List UInt8
  nonempty : bytes ≠ []
  noSlash : slash ∉ bytes
  noNul : ∀ b ∈ bytes, b ≠ 0

/-- The canonical path of a directory on the root filesystem, given by its components. -/
def absolutePath (components : List Component) : List UInt8 :=
  if components = [] then [slash] else joinWith slash (components.map Component.bytes)

/-- Its dentry chain, with the innermost component in front. -/
def chain (components : List Component) : Dentry :=
  components.foldl (fun parent c => .child (.text c.bytes) parent) (.root (.text [slash]))

/-- The destination of a mount on that directory, where `bpf_d_path` succeeds. -/
def destination (components : List Component) : Path :=
  ⟨some (chain components), some (absolutePath components)⟩

@[simp] theorem chain_append (components : List Component) (last : Component) :
    chain (components ++ [last]) = .child (.text last.bytes) (chain components) := by
  rw [chain, List.foldl_append]
  rfl

/-- The path string is below one of the removable-media roots, as a string. -/
def SensitiveByPath : List Component → Prop
  | [] => False
  | first :: rest =>
    CStr.literal "mnt" <+: first.bytes ∨ CStr.literal "media" <+: first.bytes ∨
      (first.bytes = CStr.literal "run" ∧
        ∃ second ∈ rest.head?, CStr.literal "media" <+: second.bytes)

/-- One of the names is one of the roots' names, as far as the fallback reads it. -/
def SensitiveByNames (components : List Component) : Prop :=
  ∃ c ∈ components, c.bytes = CStr.literal "mnt" ∨ CStr.literal "media" <+: c.bytes

section Path

/-- Of a text without a separator, the comparison sees the first component alone. -/
private theorem spells_first {text : String} (free : slash ∉ CStr.literal text)
    (first : Component) (rest : List Component) :
    spells (absolutePath (first :: rest)) 1 text = true ↔
      CStr.literal text <+: first.bytes := by
  rw [spells_iff]
  exact prefix_part_iff free first.bytes (rest.map Component.bytes)

private theorem spells_runMedia (first : Component) (rest : List Component) :
    spells (absolutePath (first :: rest)) 1 "run/media" = true ↔
      first.bytes = CStr.literal "run" ∧
        ∃ second ∈ rest.head?, CStr.literal "media" <+: second.bytes := by
  have parts : CStr.literal "run/media" =
      CStr.literal "run" ++ slash :: CStr.literal "media" := by decide
  have free : slash ∉ CStr.literal "run" := by decide
  have freeMedia : slash ∉ CStr.literal "media" := by decide
  rw [spells_iff, parts]
  refine (prefix_parts_iff free first.noSlash (rest.map Component.bytes)).trans ?_
  refine and_congr_right fun _ => ?_
  cases rest with
  | nil => simp
  | cons second rest => simp [prefix_part_iff freeMedia]

/-- The length checks in front of the comparisons never matter. -/
theorem isSensitivePath_iff (components : List Component) :
    isSensitivePath (absolutePath components) ((absolutePath components).length + 1) = true ↔
      SensitiveByPath components := by
  cases components with
  | nil => exact iff_of_false (by decide) id
  | cons first rest =>
    have rooted : spells (absolutePath (first :: rest)) 0 "/" = true := by
      rw [spells_iff]
      exact List.prefix_append [slash] _
    have long {text : String} (spelt : spells (absolutePath (first :: rest)) 1 text = true) :
        (CStr.literal text).length + 1 ≤ (absolutePath (first :: rest)).length := by
      have fits := (spells_iff.mp spelt).length_le
      have more : 0 < (absolutePath (first :: rest)).length := Nat.succ_pos _
      rw [List.length_drop] at fits
      omega
    have freeMnt : slash ∉ CStr.literal "mnt" := by decide
    have freeMedia : slash ∉ CStr.literal "media" := by decide
    have mnt := spells_first freeMnt first rest
    have media := spells_first freeMedia first rest
    have runMedia := spells_runMedia first rest
    have lengths : (CStr.literal "mnt").length = 3 ∧ (CStr.literal "media").length = 5 ∧
        (CStr.literal "run/media").length = 9 := by decide
    rw [SensitiveByPath, ← mnt, ← media, ← runMedia, isSensitivePath, rooted]
    by_cases isMnt : spells (absolutePath (first :: rest)) 1 "mnt" = true
    · have bound := long isMnt
      have far : ¬ (absolutePath (first :: rest)).length + 1 < 4 := by omega
      simp [isMnt, far]
    by_cases isMedia : spells (absolutePath (first :: rest)) 1 "media" = true
    · have bound := long isMedia
      have far : ¬ (absolutePath (first :: rest)).length + 1 < 4 := by omega
      have enough : (absolutePath (first :: rest)).length + 1 ≥ 6 := by omega
      simp [isMedia, far, enough]
    by_cases isRun : spells (absolutePath (first :: rest)) 1 "run/media" = true
    · have bound := long isRun
      have far : ¬ (absolutePath (first :: rest)).length + 1 < 4 := by omega
      have enough : (absolutePath (first :: rest)).length + 1 ≥ 10 := by omega
      simp [isMedia, isRun, far, enough]
    · simp [isMnt, isMedia, isRun]

end Path

section Names

/-- A component is its whole name, so the comparison of one name applies to it. -/
private theorem sensitiveName_component_iff (c : Component) :
    sensitiveName (.text c.bytes) = true ↔
      c.bytes = CStr.literal "mnt" ∨ CStr.literal "media" <+: c.bytes := by
  rw [sensitiveName_iff, componentName, CStr.beforeNul_of_noNul c.noNul]
  simp only [Option.some.injEq, exists_eq_left']

private theorem not_sensitiveName_root : sensitiveName (.text [slash]) = false := by decide

/-- The walk meets every component while its steps last. -/
private theorem sensitiveWithin_iff {steps : Nat} {components : List Component}
    (deep : components.length ≤ steps) :
    sensitiveWithin steps (chain components) = true ↔ SensitiveByNames components := by
  induction steps generalizing components with
  | zero =>
    rw [List.length_eq_zero_iff.mp (Nat.le_zero.mp deep)]
    simp [sensitiveWithin, SensitiveByNames]
  | succ steps ih =>
    rcases List.eq_nil_or_concat' components with empty | ⟨outer, last, shape⟩
    · subst empty
      have done : ([] : List Component).length ≤ steps := Nat.zero_le _
      have rest := ih done
      rw [sensitiveWithin, Bool.or_eq_true]
      refine (or_iff_right ?_).trans rest
      exact Bool.eq_false_iff.mp not_sensitiveName_root
    · subst shape
      rw [List.length_append, List.length_singleton] at deep
      rw [chain_append, sensitiveWithin, Bool.or_eq_true]
      refine (or_congr (sensitiveName_component_iff last) (ih (Nat.le_of_succ_le_succ deep))).trans ?_
      simp only [SensitiveByNames, List.mem_append, List.mem_singleton]
      constructor
      · rintro (here | ⟨c, member, there⟩)
        · exact ⟨last, .inr rfl, here⟩
        · exact ⟨c, .inl member, there⟩
      · rintro ⟨c, member | rfl, sensitive⟩
        · exact .inr ⟨c, member, sensitive⟩
        · exact .inl sensitive

end Names

section Verdict

variable {maps : Maps} {layout : MountLayout} {reserved : Bool} {task : Task}
  {devName fsType : KernelStr} {dst : Path} {components : List Component}

theorem evaluateSecureMount_denied_iff {allowDPath : Bool} :
    (evaluateSecureMount maps reserved task devName fsType dst allowDPath).Denied ↔
      isTarget devName dst (resolvePath maps.pathBuffer dst allowDPath).1
        (resolvePath maps.pathBuffer dst allowDPath).2 = true := by
  rw [evaluateSecureMount]
  cases target : isTarget devName dst (resolvePath maps.pathBuffer dst allowDPath).1
      (resolvePath maps.pathBuffer dst allowDPath).2 with
  | true => simp [target, Outcome.Denied, EPERM]
  | false => simp [target]

theorem sbMount_denied_iff {flags : UInt64}
    (lacking : flags &&& SECURE_MOUNT_FLAGS ≠ SECURE_MOUNT_FLAGS) :
    (mountSecureSbMount maps reserved task devName dst fsType flags).Denied ↔
      isModuleActive maps.stateMap = true ∧
        (evaluateSecureMount maps reserved task devName fsType dst true).Denied := by
  unfold mountSecureSbMount
  cases isModuleActive maps.stateMap with
  | false => simp
  | true => simp [lacking]

theorem moveMount_denied_iff {fromMnt : VfsMount}
    (lacking : fromMnt.mntFlags &&& SECURE_MOVE_MNT_FLAGS ≠ SECURE_MOVE_MNT_FLAGS) :
    (mountSecureMoveMount maps layout reserved task fromMnt dst).Denied ↔
      isModuleActive maps.stateMap = true ∧
        (evaluateSecureMount maps reserved task (fromMnt.devName layout) fromMnt.fsType dst
          false).Denied := by
  unfold mountSecureMoveMount
  cases isModuleActive maps.stateMap with
  | false => simp
  | true => simp [lacking]

/-- With `bpf_d_path` at hand the path decides, where there is a buffer for it. -/
theorem denied_with_dPath_iff (before : List UInt8) (available : maps.pathBuffer = some before) :
    (evaluateSecureMount maps reserved task devName fsType (destination components) true).Denied ↔
      isRemovableDevice devName = true ∨ SensitiveByPath components := by
  rw [evaluateSecureMount_denied_iff, available, ← isSensitivePath_iff]
  cases removable : isRemovableDevice devName <;>
    simp [isTarget, removable, resolvePath, destination]

/-- Without it, or without the buffer, the names decide. -/
theorem denied_without_dPath_iff (deep : components.length ≤ 32) {allowDPath : Bool}
    (fallback : allowDPath = false ∨ maps.pathBuffer = none) :
    (evaluateSecureMount maps reserved task devName fsType (destination components)
        allowDPath).Denied ↔
      isRemovableDevice devName = true ∨ SensitiveByNames components := by
  have unresolved :
      (resolvePath maps.pathBuffer (destination components) allowDPath).2 = 0 := by
    rcases fallback with off | missing
    · subst off
      cases maps.pathBuffer <;> rfl
    · rw [missing]
      rfl
  rw [evaluateSecureMount_denied_iff, unresolved, ← sensitiveWithin_iff deep]
  cases removable : isRemovableDevice devName <;>
    simp [isTarget, removable, fallbackDentryCheck, destination]

/-- Where the kernel's `struct mount` can be read, the device name is the one recorded there. -/
theorem devName_of_readable (fromMnt : VfsMount) (known : layout.mntDevnameExists = true)
    (within : 0 < layout.mntOffset ∧ layout.mntOffset ≤ layout.mountSize) :
    fromMnt.devName layout = fromMnt.mntDevname := by
  simp [VfsMount.devName, known, within.1, within.2]

end Verdict

section Nested

def home : Component := ⟨CStr.literal "home", by decide, by decide, CStr.noNul_of_all (by decide)⟩

def mnt : Component := ⟨CStr.literal "mnt", by decide, by decide, CStr.noNul_of_all (by decide)⟩

/-- A fixed disk, through either interface, with none of the three flags. -/
def fixedDisk : KernelStr := .text (CStr.literal "/dev/nvme0n1p1")

def fixedMount : VfsMount := ⟨0, none, fixedDisk⟩

def readableLayout : MountLayout := ⟨true, 32, 320⟩

def enabledMaps : Maps := ⟨some 1, some []⟩

def mountTask : Task := ⟨0, 0, none⟩

/-- The directory `/home/mnt` is refused through the modern interface only. -/
theorem nestedMnt_differs :
    fixedMount.devName readableLayout = fixedDisk ∧
      (0 : UInt64) &&& SECURE_MOUNT_FLAGS ≠ SECURE_MOUNT_FLAGS ∧
      fixedMount.mntFlags &&& SECURE_MOVE_MNT_FLAGS ≠ SECURE_MOVE_MNT_FLAGS ∧
      ¬ (mountSecureSbMount enabledMaps true mountTask fixedDisk (destination [home, mnt]) .null
          0).Denied ∧
      (mountSecureMoveMount enabledMaps readableLayout true mountTask fixedMount
        (destination [home, mnt])).Denied := by
  decide

end Nested

/-- Two mounts of one device on one directory, one through each interface and neither with all
three flags, get the same verdict exactly if the module is disabled, there is no path buffer,
the device is removable, or the path and the names of the directory agree. -/
theorem sameVerdict_iff (maps : Maps) (layout : MountLayout) {devName : KernelStr}
    {components : List Component} (deep : components.length ≤ 32) (fsType : KernelStr)
    {flags : UInt64} (lacking : flags &&& SECURE_MOUNT_FLAGS ≠ SECURE_MOUNT_FLAGS)
    {fromMnt : VfsMount}
    (lackingMove : fromMnt.mntFlags &&& SECURE_MOVE_MNT_FLAGS ≠ SECURE_MOVE_MNT_FLAGS)
    (sameDevice : fromMnt.devName layout = devName) (reserved reservedMove : Bool)
    (task taskMove : Task) :
    ((mountSecureSbMount maps reserved task devName (destination components) fsType flags).Denied ↔
      (mountSecureMoveMount maps layout reservedMove taskMove fromMnt
        (destination components)).Denied) ↔
      isModuleActive maps.stateMap = false ∨ maps.pathBuffer = none ∨
        isRemovableDevice devName = true ∨
        (SensitiveByPath components ↔ SensitiveByNames components) := by
  rw [sbMount_denied_iff lacking, moveMount_denied_iff lackingMove, sameDevice,
    denied_without_dPath_iff deep (.inl rfl)]
  cases isModuleActive maps.stateMap with
  | false => simp
  | true =>
    cases available : maps.pathBuffer with
    | none =>
      rw [denied_without_dPath_iff deep (.inr available)]
      simp
    | some before =>
      rw [denied_with_dPath_iff before available]
      cases isRemovableDevice devName with
      | true => simp
      | false => simp

theorem sameVerdict_iff_sample :
    (mountSecureSbMount enabledMaps true mountTask fixedDisk (destination [mnt, home]) .null
        0).Denied ↔
      (mountSecureMoveMount enabledMaps readableLayout true mountTask fixedMount
        (destination [mnt, home])).Denied := by
  have deep : [mnt, home].length ≤ 32 := by decide
  have lacking : (0 : UInt64) &&& SECURE_MOUNT_FLAGS ≠ SECURE_MOUNT_FLAGS := by decide
  have lackingMove :
      fixedMount.mntFlags &&& SECURE_MOVE_MNT_FLAGS ≠ SECURE_MOVE_MNT_FLAGS := by decide
  refine (sameVerdict_iff enabledMaps readableLayout deep .null lacking lackingMove rfl true true
    mountTask mountTask).mpr (.inr (.inr (.inr ?_)))
  exact iff_of_true (.inl List.prefix_rfl) ⟨mnt, List.mem_cons_self, .inl rfl⟩

end BouclierBleu.MountSecure.BothApis
