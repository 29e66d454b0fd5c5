/- GID: BouclierBleu/Watchlist/FilelessExecution
   source: bpf/exec_block.bpf.c
   digest: Which nameless files the execution hook denies, by filesystem and seals. -/

import BouclierBleu.Watchlist.ExecBlock

set_option autoImplicit false
set_option relaxedAutoImplicit false

namespace BouclierBleu.Watchlist.FilelessExecution

open BouclierBleu.Kernel.ModuleCore (isModuleActive Task)
open BouclierBleu.Kernel.VfsHelpers
open BouclierBleu.Library.BoundedMaps (BoundedMap)
open BouclierBleu.Watchlist.ExecBlock

/-- The kernel's type information and the memory in front of the inode can be read. -/
structure ReadableSeals (shmem : ShmemLayout) (seals : Option UInt32) : Prop where
  exists_ : shmem.vfsInodeExists = true
  inside : 0 < shmem.offset ∧ shmem.offset ≤ shmem.typeSize
  read : seals ≠ none

/-- The file carries `F_SEAL_WRITE`; a filesystem other than tmpfs has no seals. -/
def Sealed (inode : Inode) (seals : Option UInt32) : Prop :=
  inode.sb.magic = TMPFS_MAGIC ∧ ∃ flags, seals = some flags ∧ flags &&& F_SEAL_WRITE ≠ 0

section Memory

variable {shmem : ShmemLayout} {inode : Inode} {seals : Option UInt32}

theorem unsealedMemory_of_other (disk : inode.sb.magic ≠ TMPFS_MAGIC)
    (notRam : inode.sb.magic ≠ RAMFS_MAGIC) :
    unsealedMemory shmem (some inode) seals = false := by
  have other : (inode.sb.magic != TMPFS_MAGIC && inode.sb.magic != RAMFS_MAGIC) = true := by
    rw [Bool.and_eq_true, bne_iff_ne, bne_iff_ne]
    exact ⟨disk, notRam⟩
  exact if_pos other

theorem unsealedMemory_iff_of_tmpfs (tmpfs : inode.sb.magic = TMPFS_MAGIC)
    (readable : ReadableSeals shmem seals) :
    unsealedMemory shmem (some inode) seals = true ↔ ¬ Sealed inode seals := by
  obtain ⟨flags, read⟩ := Option.ne_none_iff_exists'.mp readable.read
  have memory : unsealedMemory shmem (some inode) seals = (flags &&& F_SEAL_WRITE == 0) := by
    have bounds : (shmem.offset == 0 || decide (shmem.offset > shmem.typeSize)) = false := by
      obtain ⟨positive, fits⟩ := readable.inside
      rw [Bool.or_eq_false_iff, beq_eq_false_iff_ne, decide_eq_false_iff_not]
      omega
    unfold unsealedMemory
    rw [Option.map_some, Option.getD_some, tmpfs, readable.exists_, bounds, read]
    rfl
  rw [memory, beq_iff_eq, Sealed, read]
  constructor
  · rintro open_ ⟨_, other, same, locked⟩
    cases same
    exact locked open_
  · intro unsealed
    by_contra locked
    exact unsealed ⟨tmpfs, flags, rfl, locked⟩

end Memory

section Verdict

variable {maps : Maps} {shmem : ShmemLayout} {reserved : Bool} {task : Task} {dPath : DPath}
  {parent : Dentry} {inode : Inode} {seals : Option UInt32}

/-- What the hook denies: executions from protected directories, and of unlinked files on tmpfs
without the seal. Of unlinked files on ramfs nothing is said. -/
theorem denied_iff_protected_or_unsealed (enabled : isModuleActive maps.stateMap = true)
    (buffer : maps.pathBuffer ≠ none)
    (readable : inode.sb.magic = TMPFS_MAGIC → ReadableSeals shmem seals)
    (ramfs : inode.sb.magic = RAMFS_MAGIC →
      Protected maps.protectedDirs (extractDirIdFromDentry parent) ∨ inode.nlink ≠ 0) :
    (execBlockBprmCheck maps shmem reserved task dPath
        (some ⟨some parent, some inode, seals⟩)).Denied ↔
      Protected maps.protectedDirs (extractDirIdFromDentry parent) ∨
        (inode.nlink = 0 ∧ inode.sb.magic = TMPFS_MAGIC ∧ ¬ Sealed inode seals) := by
  rw [denied_iff rfl, and_iff_right enabled, and_iff_right buffer]
  by_cases inside : Protected maps.protectedDirs (extractDirIdFromDentry parent)
  · exact iff_of_true (.inl inside) (.inl inside)
  · refine or_congr_right (and_congr_right fun unlinked => ?_)
    by_cases tmpfs : inode.sb.magic = TMPFS_MAGIC
    · rw [and_iff_right tmpfs]
      exact unsealedMemory_iff_of_tmpfs tmpfs (readable tmpfs)
    · have notRam : inode.sb.magic ≠ RAMFS_MAGIC :=
        fun ram => (ramfs ram).elim inside fun linked => linked unlinked
      rw [unsealedMemory_of_other tmpfs notRam]
      exact iff_of_false Bool.false_ne_true fun wanted => tmpfs wanted.1

end Verdict

section Sample

/-- The module is on and no directory is protected. -/
def unwatched : Maps := ⟨some 1, .empty protectedDirsType 8192 protectedDirsMax_pos, some []⟩

def layout : ShmemLayout := ⟨true, 200, 800⟩

def executor : Task := ⟨0, 1000, none⟩

/-- A file that `O_TMPFILE` made on ext4. -/
def namelessOnExt4 : Inode := ⟨42, ⟨8, 0xEF53⟩, 0⟩

def ext4Root : Dentry := ⟨some ⟨2, ⟨8, 0xEF53⟩, 20⟩, ⟨8, 0xEF53⟩⟩

/-- It has no link and no seal, and is executed. -/
theorem nameless_ext4_allowed :
    ¬ ((execBlockBprmCheck unwatched layout true executor (.resolved [])
        (some ⟨some ext4Root, some namelessOnExt4, none⟩)).Denied ↔
      Protected unwatched.protectedDirs (extractDirIdFromDentry ext4Root) ∨
        (namelessOnExt4.nlink = 0 ∧ ¬ Sealed namelessOnExt4 none)) := by
  have allowed : ¬ (execBlockBprmCheck unwatched layout true executor (.resolved [])
      (some ⟨some ext4Root, some namelessOnExt4, none⟩)).Denied := by decide
  have unsealed : ¬ Sealed namelessOnExt4 none := by
    rintro ⟨_, _, absent, _⟩
    cases absent
  exact fun policy => allowed (policy.mpr (.inr ⟨rfl, unsealed⟩))

/-- An unsealed memory file is denied. -/
theorem denied_iff_protected_or_unsealed_sample :
    (execBlockBprmCheck unwatched layout true executor (.resolved [])
        (some ⟨some ext4Root, some ⟨7, ⟨1, TMPFS_MAGIC⟩, 0⟩, some 0⟩)).Denied := by
  refine (denied_iff_protected_or_unsealed rfl (by decide)
    (fun _ => ⟨rfl, by decide, by decide⟩) (fun ram => absurd ram (by decide))).mpr
    (.inr ⟨rfl, rfl, ?_⟩)
  rintro ⟨_, flags, same, locked⟩
  cases same
  exact locked rfl

end Sample

end BouclierBleu.Watchlist.FilelessExecution
