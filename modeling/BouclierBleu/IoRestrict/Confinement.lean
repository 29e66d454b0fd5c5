/- GID: BouclierBleu/IoRestrict/Confinement
   source: bpf/io_restrict.bpf.c
   digest: The two hooks that keep users from io_uring and vmsplice altogether. -/

import BouclierBleu.IoRestrict.Hooks
import BouclierBleu.Kernel.VfsHelpers

set_option autoImplicit false
set_option relaxedAutoImplicit false

namespace BouclierBleu.IoRestrict.Confinement

open BouclierBleu.IoRestrict.Hooks (neutralize killed_neutralize)
open BouclierBleu.Kernel
open BouclierBleu.Kernel.AlertStructs (IoRestrictAlert)
open BouclierBleu.Kernel.ModuleCore (isModuleActive Outcome Task)
open BouclierBleu.Kernel.VfsHelpers (DirId extractDirIdFromInode)
open BouclierBleu.Library.BoundedMaps (BoundedMap)

def ACTION_IO_URING : UInt32 := 1

def ACTION_VMSPLICE : UInt32 := 2

theorem ioRestrictBinariesMax_pos : 0 < 2048 := by decide

/-- The memory descriptor of the running task, with the inode of its executable. -/
structure Mm where
  exe : Option VfsHelpers.Inode

def ioRestrictUringSetup (stateMap : Option UInt32) (ioRestrictBinaries : BoundedMap DirId UInt8)
    (reserved : Bool) (task : Task) (mm : Option Mm) : Outcome IoRestrictAlert :=
  if !isModuleActive stateMap then .quiet 0
  else if task.getGlobalUid == 0 then .quiet 0
  else
    match mm with
    | none => .quiet 0
    | some mm =>
      let isWhitelisted :=
        match mm.exe with
        | none => false
        | some inode => ioRestrictBinaries.lookup (extractDirIdFromInode inode) == some 1
      if isWhitelisted then .quiet 0
      else neutralize reserved task ACTION_IO_URING "io_uring_setup"

def ioRestrictVmsplice (stateMap : Option UInt32) (reserved : Bool) (task : Task) :
    Outcome IoRestrictAlert :=
  if !isModuleActive stateMap then .quiet 0
  else if task.getGlobalUid != 0 then neutralize reserved task ACTION_VMSPLICE "vmsplice"
  else .quiet 0

section Verdict

variable {stateMap : Option UInt32} {ioRestrictBinaries : BoundedMap DirId UInt8}
  {reserved : Bool} {task : Task}

theorem ioRestrictVmsplice_killed_iff :
    (ioRestrictVmsplice stateMap reserved task).Killed ↔
      isModuleActive stateMap = true ∧ task.getGlobalUid ≠ 0 := by
  unfold ioRestrictVmsplice
  cases isModuleActive stateMap with
  | false => simp
  | true => by_cases root : task.getGlobalUid = 0 <;> simp [root]

/-- A user may set up a ring only from a listed program. -/
theorem ioRestrictUringSetup_killed_iff {exe : Option VfsHelpers.Inode} :
    (ioRestrictUringSetup stateMap ioRestrictBinaries reserved task (some ⟨exe⟩)).Killed ↔
      isModuleActive stateMap = true ∧ task.getGlobalUid ≠ 0 ∧
        ¬ ∃ inode, exe = some inode ∧
          ioRestrictBinaries.lookup (extractDirIdFromInode inode) = some 1 := by
  unfold ioRestrictUringSetup
  cases isModuleActive stateMap with
  | false => simp
  | true =>
    by_cases root : task.getGlobalUid = 0
    · simp [root]
    · cases exe with
      | none => simp [root]
      | some inode =>
        by_cases listed : ioRestrictBinaries.lookup (extractDirIdFromInode inode) = some 1 <;>
          simp [root, listed]

end Verdict

end BouclierBleu.IoRestrict.Confinement
