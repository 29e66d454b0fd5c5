/- GID: BouclierBleu/Watchlist/ExecBlock
   source: bpf/exec_block.bpf.c
   digest: The hook that denies executions from protected directories and unsealed memory. -/

import BouclierBleu.Kernel.AlertStructs
import BouclierBleu.Kernel.VfsHelpers

set_option autoImplicit false
set_option relaxedAutoImplicit false

namespace BouclierBleu.Watchlist.ExecBlock

open BouclierBleu.Kernel.AlertStructs (ExecAlert)
open BouclierBleu.Kernel.ModuleCore (isModuleActive EPERM Outcome CStr Task)
open BouclierBleu.Kernel.VfsHelpers

def TMPFS_MAGIC : UInt32 := 0x01021994

def RAMFS_MAGIC : UInt32 := 0x858458f6

def F_SEAL_WRITE : UInt32 := 0x008

/-- What `bpf_d_path` reports for the file. -/
inductive DPath
  | resolved (path : List UInt8)
  | nameTooLong
  | failed

/-- The path buffer after `bpf_d_path`, up to its NUL; on a failure its earlier contents stay,
and the hook terminates them. -/
def DPath.buffer (before : List UInt8) : DPath → List UInt8
  | .resolved path => path
  | .nameTooLong => before.take 4095
  | .failed => []

/-- What the running kernel's type information says of `struct shmem_inode_info`. -/
structure ShmemLayout where
  vfsInodeExists : Bool
  offset : Nat
  typeSize : Nat

/-- The file of a `linux_binprm`. `parent` is absent when the file has no dentry or that no
parent; `seals` is absent when the read in front of the inode fails. -/
structure File where
  parent : Option Dentry
  fInode : Option Inode
  seals : Option UInt32

structure Maps where
  stateMap : Option UInt32
  protectedDirs : ProtectedDirs
  pathBuffer : Option (List UInt8)

/-- From `block_exec` on. -/
def blockExec (maps : Maps) (reserved : Bool) (task : Task) (dPath : DPath) :
    Outcome ExecAlert :=
  match maps.pathBuffer with
  | none => .quiet 0
  | some before =>
    { ret := -EPERM
      alerts :=
        if reserved then [⟨task.tgid, .copy 4096 CStr.pathLen_pos (dPath.buffer before)⟩] else []
      signals := [] }

/-- The verdict on a file with no hard link: `true` for one that is unsealed. -/
def unsealedMemory (shmem : ShmemLayout) (fInode : Option Inode) (seals : Option UInt32) :
    Bool :=
  let sMagic := (fInode.map fun inode => inode.sb.magic).getD 0
  if sMagic != TMPFS_MAGIC && sMagic != RAMFS_MAGIC then false
  else if !shmem.vfsInodeExists then false
  else if shmem.offset == 0 || shmem.offset > shmem.typeSize then false
  else
    match seals with
    | none => false
    | some seals => seals &&& F_SEAL_WRITE == 0

def execBlockBprmCheck (maps : Maps) (shmem : ShmemLayout) (reserved : Bool) (task : Task)
    (dPath : DPath) (file : Option File) : Outcome ExecAlert :=
  if !isModuleActive maps.stateMap then .quiet 0
  else
    match file with
    | none => .quiet 0
    | some file =>
      match file.parent with
      | none => .quiet 0
      | some parent =>
        if Protected maps.protectedDirs (extractDirIdFromDentry parent) then
          blockExec maps reserved task dPath
        else
          let iNlink := (file.fInode.map Inode.nlink).getD 0
          if iNlink == 0 then
            if unsealedMemory shmem file.fInode file.seals then
              blockExec maps reserved task dPath
            else .quiet 0
          else .quiet 0

section Verdict

variable {maps : Maps} {shmem : ShmemLayout} {reserved : Bool} {task : Task} {dPath : DPath}

@[simp] theorem blockExec_denied :
    (blockExec maps reserved task dPath).Denied ↔ maps.pathBuffer ≠ none := by
  unfold blockExec
  cases maps.pathBuffer with
  | none => simp
  | some before => simp [Outcome.Denied, EPERM]

/-- The hook denies for the directory, and otherwise only unlinked files. -/
theorem denied_iff {file : File} {parent : Dentry} (within : file.parent = some parent) :
    (execBlockBprmCheck maps shmem reserved task dPath (some file)).Denied ↔
      isModuleActive maps.stateMap = true ∧ maps.pathBuffer ≠ none ∧
        (Protected maps.protectedDirs (extractDirIdFromDentry parent) ∨
          ((file.fInode.map Inode.nlink).getD 0 = 0 ∧
            unsealedMemory shmem file.fInode file.seals = true)) := by
  unfold execBlockBprmCheck
  cases isModuleActive maps.stateMap with
  | false => simp
  | true =>
    by_cases inside : Protected maps.protectedDirs (extractDirIdFromDentry parent)
    · simp [within, inside]
    · by_cases unlinked : (file.fInode.map Inode.nlink).getD 0 = 0
      · cases memory : unsealedMemory shmem file.fInode file.seals <;>
          simp [within, inside, unlinked, memory]
      · simp [within, inside, unlinked]

/-- A linked file is denied exactly for its directory. -/
theorem denied_iff_of_linked {parent : Dentry} {inode : Inode} {seals : Option UInt32}
    (linked : inode.nlink ≠ 0) :
    (execBlockBprmCheck maps shmem reserved task dPath
        (some ⟨some parent, some inode, seals⟩)).Denied ↔
      isModuleActive maps.stateMap = true ∧ maps.pathBuffer ≠ none ∧
        Protected maps.protectedDirs (extractDirIdFromDentry parent) := by
  rw [denied_iff rfl]
  simp [linked]

/-- The hook reads nothing off the watchlist but which directories it holds with value 1. -/
theorem execBlockBprmCheck_congr (maps : Maps) {other : ProtectedDirs}
    (same : ∀ id, Protected maps.protectedDirs id ↔ Protected other id) (file : Option File) :
    execBlockBprmCheck maps shmem reserved task dPath file =
      execBlockBprmCheck { maps with protectedDirs := other } shmem reserved task dPath file := by
  unfold execBlockBprmCheck
  simp only [same, blockExec]

end Verdict

end BouclierBleu.Watchlist.ExecBlock
