/- GID: BouclierBleu/StrictWx/Hook
   source: bpf/strict_wx.bpf.c
   digest: The two memory-protection hooks and the exact shape of what they deny. -/

import BouclierBleu.Kernel.AlertStructs
import BouclierBleu.Kernel.VfsHelpers
import Mathlib.Data.Nat.Bitwise

set_option autoImplicit false
set_option relaxedAutoImplicit false

namespace BouclierBleu.StrictWx.Hook

open BouclierBleu.Kernel.AlertStructs (StrictWxAlert)
open BouclierBleu.Kernel.ModuleCore (isModuleActive EACCES Outcome CStr Task)
open BouclierBleu.Kernel.VfsHelpers (DirId Inode extractDirIdFromInode)
open BouclierBleu.Library.BoundedMaps (BoundedMap)

def PROT_WRITE : UInt64 := 0x2

def PROT_EXEC : UInt64 := 0x4

def WX_MASK : UInt64 := PROT_WRITE ||| PROT_EXEC

def VM_WRITE : UInt64 := 0x2

def VM_EXEC : UInt64 := 0x4

structure Maps where
  stateMap : Option UInt32
  strictWxBinaries : BoundedMap DirId UInt8

theorem strictWxMax_pos : 0 < 2048 := by decide

structure File where
  fInode : Option Inode

/-- The memory descriptor of a task; a kernel thread's executable is absent. -/
structure Mm where
  exeFile : Option File

structure Current where
  task : Task
  mm : Option Mm

def isWxViolation (prot vmaFlags : UInt64) : Bool :=
  (prot &&& WX_MASK == WX_MASK) ||
    ((prot &&& PROT_EXEC != 0) && (vmaFlags &&& VM_WRITE != 0)) ||
    ((prot &&& PROT_WRITE != 0) && (vmaFlags &&& VM_EXEC != 0))

/-- A file counts when its inode's id is in the opt-in map with value 1. -/
def fileOptedIn (binaries : BoundedMap DirId UInt8) (file : Option File) : Bool :=
  match file.bind File.fInode with
  | none => false
  | some inode => binaries.lookup (extractDirIdFromInode inode) == some 1

/-- `enforce_strict_wx`; `reserved` says whether the ring buffer had room for the alert. -/
def enforceStrictWx (maps : Maps) (reserved : Bool) (current : Current)
    (prot vmaFlags : UInt64) (mappedFile : Option File) (syscallName : String) :
    Outcome StrictWxAlert :=
  if !isModuleActive maps.stateMap then .quiet 0
  else if !isWxViolation prot vmaFlags then .quiet 0
  else
    match current.mm with
    | none => .quiet 0
    | some mm =>
      if fileOptedIn maps.strictWxBinaries mm.exeFile ||
          fileOptedIn maps.strictWxBinaries mappedFile then
        { ret := -EACCES
          alerts :=
            if reserved then
              [⟨current.task.tgid, .copy 16 CStr.commLen_pos (CStr.literal syscallName)⟩]
            else []
          signals := [] }
      else .quiet 0

def strictWxFileMprotect (maps : Maps) (reserved : Bool) (current : Current)
    (vmFile : Option File) (vmFlags prot : UInt64) : Outcome StrictWxAlert :=
  enforceStrictWx maps reserved current prot vmFlags vmFile "mprotect"

def strictWxMmapFile (maps : Maps) (reserved : Bool) (current : Current)
    (file : Option File) (prot : UInt64) : Outcome StrictWxAlert :=
  enforceStrictWx maps reserved current prot 0 file "mmap"

/-- The bits a protection word carries. -/
def Writable (flags : UInt64) : Prop := flags &&& PROT_WRITE ≠ 0

def Executable (flags : UInt64) : Prop := flags &&& PROT_EXEC ≠ 0

instance (flags : UInt64) : Decidable (Writable flags) :=
  inferInstanceAs (Decidable (flags &&& PROT_WRITE ≠ 0))

instance (flags : UInt64) : Decidable (Executable flags) :=
  inferInstanceAs (Decidable (flags &&& PROT_EXEC ≠ 0))

private theorem and_two_pow_cases (n i : Nat) : n &&& 2 ^ i = 0 ∨ n &&& 2 ^ i = 2 ^ i := by
  rw [Nat.and_two_pow]
  cases n.testBit i <;> simp

private theorem and_mask_iff (flags : UInt64) :
    flags &&& WX_MASK = WX_MASK ↔ Writable flags ∧ Executable flags := by
  have split : flags.toNat &&& 6 = (flags.toNat &&& 2) ||| (flags.toNat &&& 4) :=
    Nat.and_or_distrib_left flags.toNat 2 4
  have mask : flags &&& WX_MASK = WX_MASK ↔ flags.toNat &&& 6 = 6 := by
    rw [← UInt64.toNat_inj, UInt64.toNat_and]
    rfl
  have write : Writable flags ↔ flags.toNat &&& 2 ≠ 0 := by
    rw [Writable, ne_eq, ← UInt64.toNat_inj, UInt64.toNat_and]
    rfl
  have exec : Executable flags ↔ flags.toNat &&& 4 ≠ 0 := by
    rw [Executable, ne_eq, ← UInt64.toNat_inj, UInt64.toNat_and]
    rfl
  have second : flags.toNat &&& 2 = 0 ∨ flags.toNat &&& 2 = 2 := and_two_pow_cases _ 1
  have third : flags.toNat &&& 4 = 0 ∨ flags.toNat &&& 4 = 4 := and_two_pow_cases _ 2
  rw [mask, write, exec, split]
  rcases second with second | second <;> rcases third with third | third <;>
    simp [second, third]

theorem isWxViolation_iff (prot vmaFlags : UInt64) :
    isWxViolation prot vmaFlags = true ↔
      (Writable prot ∧ Executable prot) ∨ (Executable prot ∧ Writable vmaFlags) ∨
        (Writable prot ∧ Executable vmaFlags) := by
  simp [isWxViolation, and_mask_iff, Writable, Executable, VM_WRITE, VM_EXEC, PROT_WRITE,
    PROT_EXEC, or_assoc]

section Verdict

variable {maps : Maps} {reserved : Bool} {current : Current} {prot vmaFlags : UInt64}
  {mappedFile : Option File} {syscallName : String}

theorem enforceStrictWx_denied_iff :
    (enforceStrictWx maps reserved current prot vmaFlags mappedFile syscallName).Denied ↔
      isModuleActive maps.stateMap = true ∧ isWxViolation prot vmaFlags = true ∧
        ∃ mm, current.mm = some mm ∧
          (fileOptedIn maps.strictWxBinaries mm.exeFile = true ∨
            fileOptedIn maps.strictWxBinaries mappedFile = true) := by
  unfold enforceStrictWx
  cases isModuleActive maps.stateMap with
  | false => simp
  | true =>
    cases isWxViolation prot vmaFlags with
    | false => simp
    | true =>
      cases current.mm with
      | none => simp
      | some mm =>
        by_cases optedIn : fileOptedIn maps.strictWxBinaries mm.exeFile = true ∨
            fileOptedIn maps.strictWxBinaries mappedFile = true
        · simp [optedIn, Outcome.Denied, EACCES]
        · simp [optedIn]

/-- The program the task runs is in the opt-in map. -/
def OptedIn (maps : Maps) (current : Current) : Prop :=
  ∃ mm, current.mm = some mm ∧ fileOptedIn maps.strictWxBinaries mm.exeFile = true

theorem denied_iff_of_optedIn (enabled : isModuleActive maps.stateMap = true)
    (optedIn : OptedIn maps current) :
    (enforceStrictWx maps reserved current prot vmaFlags mappedFile syscallName).Denied ↔
      isWxViolation prot vmaFlags = true := by
  obtain ⟨mm, running, member⟩ := optedIn
  rw [enforceStrictWx_denied_iff]
  constructor
  · rintro ⟨_, violation, _⟩
    exact violation
  · intro violation
    exact ⟨enabled, violation, mm, running, .inl member⟩

end Verdict

end BouclierBleu.StrictWx.Hook
