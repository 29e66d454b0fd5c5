/- GID: BouclierBleu/Kernel/VfsHelpers
   source: bpf/headers/vfs_helpers.h
   digest: Directory ids, the protected-directory watchlist and its inheritance hooks. -/

import BouclierBleu.Kernel.ModuleCore
import BouclierBleu.Library.BoundedMaps

set_option autoImplicit false
set_option relaxedAutoImplicit false

namespace BouclierBleu.Kernel.VfsHelpers

open BouclierBleu.Kernel.ModuleCore (isModuleActive SIGKILL)
open BouclierBleu.Library.BoundedMaps (Policy BoundedMap)

/-- `struct dir_id`; its padding word is always zero. -/
structure DirId where
  ino : UInt64
  dev : UInt32
  deriving DecidableEq

structure SuperBlock where
  dev : UInt32
  magic : UInt32
  deriving DecidableEq

structure Inode where
  ino : UInt64
  sb : SuperBlock
  nlink : UInt32
  deriving DecidableEq

/-- A dentry cache object; a negative one has no inode. -/
structure Dentry where
  inode : Option Inode
  sb : SuperBlock
  deriving DecidableEq

/-- `extract_dir_id_from_dentry`; a read through a null inode yields zero. -/
def extractDirIdFromDentry (dentry : Dentry) : DirId where
  ino := (dentry.inode.map Inode.ino).getD 0
  dev := dentry.sb.dev

def extractDirIdFromInode (inode : Inode) : DirId := ⟨inode.ino, inode.sb.dev⟩

/-- The watchlist map, whatever its type and size. -/
abbrev ProtectedDirs := BoundedMap DirId UInt8

/-- The map type `BOUCLIER_PROTECTED_DIRS_MAP` declares: `BPF_MAP_TYPE_LRU_HASH`. -/
def protectedDirsType : Policy := .evict

/-- Both watchlists are declared with room. -/
theorem protectedDirsMax_pos : 0 < 8192 := by decide

theorem protectedFilesMax_pos : 0 < 16 := by decide

/-- What every reader of the watchlist tests: the entry is there and holds 1. -/
def Protected (protectedDirs : ProtectedDirs) (id : DirId) : Prop :=
  protectedDirs.lookup id = some 1

instance (protectedDirs : ProtectedDirs) (id : DirId) : Decidable (Protected protectedDirs id) :=
  inferInstanceAs (Decidable (protectedDirs.lookup id = some 1))

/-- `inherit_protection`: the map afterwards and the signals sent to the current task. -/
def inheritProtection (pick : Nat) (map : ProtectedDirs) (parentId childId : DirId) :
    ProtectedDirs × List Nat :=
  if Protected map parentId then
    match map.update pick childId 1 with
    | some map' => (map', [])
    | none => (map, [SIGKILL])
  else (map, [])

section Inherit

variable {pick : Nat} {map : ProtectedDirs} {parentId childId id : DirId}

theorem inheritProtection_of_unprotected (outside : ¬ Protected map parentId) :
    inheritProtection pick map parentId childId = (map, []) := by
  rw [inheritProtection, if_neg outside]

/-- Under a protected parent the child is stored, or the map refuses it and the task is
killed. -/
theorem inheritProtection_of_protected (pick : Nat) (childId : DirId)
    (inside : Protected map parentId) :
    (∃ map', map.update pick childId 1 = some map' ∧
      inheritProtection pick map parentId childId = (map', [])) ∨
    (map.update pick childId 1 = none ∧
      inheritProtection pick map parentId childId = (map, [SIGKILL])) := by
  rw [inheritProtection, if_pos inside]
  cases stored : map.update pick childId 1 with
  | none => exact .inr ⟨rfl, rfl⟩
  | some map' => exact .inl ⟨map', rfl, rfl⟩

theorem protected_of_inheritProtection
    (after : Protected (inheritProtection pick map parentId childId).1 id) :
    Protected map id ∨ (id = childId ∧ Protected map parentId) := by
  by_cases inside : Protected map parentId
  · rcases inheritProtection_of_protected pick childId inside with
      ⟨map', stored, shape⟩ | ⟨_, shape⟩ <;> rw [shape] at after
    · by_cases same : id = childId
      · exact .inr ⟨same, inside⟩
      · exact .inl (BoundedMap.lookup_of_update stored same after)
    · exact .inl after
  · rw [inheritProtection_of_unprotected inside] at after
    exact .inl after

/-- Without an eviction the child's entry is all that changes. -/
theorem lookup_inheritProtection (room : ¬ map.Full) :
    (inheritProtection pick map parentId childId).1.lookup id =
      if id = childId ∧ Protected map parentId then some 1 else map.lookup id := by
  by_cases inside : Protected map parentId
  · obtain ⟨map', stored⟩ : ∃ map', map.update pick childId 1 = some map' :=
      BoundedMap.exists_update_of_room room
    have shape : inheritProtection pick map parentId childId = (map', []) := by
      rw [inheritProtection, if_pos inside, stored]
    rw [shape]
    by_cases same : id = childId
    · subst same
      rw [if_pos ⟨rfl, inside⟩]
      exact BoundedMap.lookup_update_self stored
    · rw [if_neg fun new => same new.1]
      exact BoundedMap.lookup_update_ne stored (.inr (.inl room)) same
  · rw [inheritProtection_of_unprotected inside, if_neg fun new => inside new.2]

/-- With room in the map, inheritance adds exactly the child of a protected parent. -/
theorem protected_inheritProtection_iff (room : ¬ map.Full) :
    Protected (inheritProtection pick map parentId childId).1 id ↔
      Protected map id ∨ (id = childId ∧ Protected map parentId) := by
  rw [Protected, lookup_inheritProtection room]
  by_cases new : id = childId ∧ Protected map parentId
  · simp [new]
  · rw [if_neg new, or_iff_left new]
    rfl

end Inherit

/-- The body shared by the two hooks that `BOUCLIER_GENERATE_MKDIR_HOOKS` generates. -/
def vfsMkdirExit (failed : Bool) (stateMap : Option UInt32) (pick : Nat)
    (protectedDirs : ProtectedDirs) (dir : Inode) (dentry : Dentry) :
    ProtectedDirs × List Nat :=
  if failed || !isModuleActive stateMap then (protectedDirs, [])
  else inheritProtection pick protectedDirs (extractDirIdFromInode dir)
    (extractDirIdFromDentry dentry)

/-- Before the 2025 change of `vfs_mkdir`: an error code. -/
def vfsMkdirExitOld (stateMap : Option UInt32) (pick : Nat) (protectedDirs : ProtectedDirs)
    (dir : Inode) (dentry : Dentry) (ret : Int) : ProtectedDirs × List Nat :=
  vfsMkdirExit (ret != 0) stateMap pick protectedDirs dir dentry

/-- After it: a dentry pointer, or an error pointer in the last 4095 addresses. -/
def vfsMkdirExitNew (stateMap : Option UInt32) (pick : Nat) (protectedDirs : ProtectedDirs)
    (dir : Inode) (dentry : Dentry) (ret : UInt64) : ProtectedDirs × List Nat :=
  vfsMkdirExit (ret ≥ (-4095)) stateMap pick protectedDirs dir dentry

/-- `struct renamedata` in its two layouts. -/
inductive RenameData
  | new (oldParent oldDentry newParent newDentry : Dentry)
  | old (oldDir : Inode) (oldDentry : Dentry) (newDir : Inode) (newDentry : Dentry)

/-- `BOUCLIER_GENERATE_RENAME_HOOK`, the seven-argument form. -/
def vfsRenameExitOld (stateMap : Option UInt32) (pick : Nat) (protectedDirs : ProtectedDirs)
    (_oldDir : Inode) (oldDentry : Dentry) (newDir : Inode) (_newDentry : Dentry)
    (ret : Int) : ProtectedDirs × List Nat :=
  if ret != 0 || !isModuleActive stateMap then (protectedDirs, [])
  else
    let targetParentId := extractDirIdFromInode newDir
    let movedId := extractDirIdFromDentry oldDentry
    inheritProtection pick protectedDirs targetParentId movedId

/-- `BOUCLIER_GENERATE_RENAME_HOOK`, the one-argument form. -/
def vfsRenameExitNew (stateMap : Option UInt32) (pick : Nat) (protectedDirs : ProtectedDirs)
    (rd : RenameData) (ret : Int) : ProtectedDirs × List Nat :=
  if ret != 0 || !isModuleActive stateMap then (protectedDirs, [])
  else
    match rd with
    | .new _ oldDentry newParent _ =>
      inheritProtection pick protectedDirs (extractDirIdFromDentry newParent)
        (extractDirIdFromDentry oldDentry)
    | .old _ oldDentry newDir _ =>
      inheritProtection pick protectedDirs (extractDirIdFromInode newDir)
        (extractDirIdFromDentry oldDentry)

/-- The inode and the positive dentry of a live object, by the id the hooks read off it. -/
def inodeOf (id : DirId) : Inode := ⟨id.ino, ⟨id.dev, 0⟩, 1⟩

def dentryOf (id : DirId) : Dentry := ⟨some (inodeOf id), ⟨id.dev, 0⟩⟩

@[simp] theorem extractDirIdFromInode_inodeOf (id : DirId) :
    extractDirIdFromInode (inodeOf id) = id := rfl

@[simp] theorem extractDirIdFromDentry_dentryOf (id : DirId) :
    extractDirIdFromDentry (dentryOf id) = id := rfl

section Hooks

variable (stateMap : Option UInt32) (pick : Nat) (protectedDirs : ProtectedDirs)

/-- After a successful mkdir the old and the new hook do the same. -/
theorem vfsMkdirExitNew_eq_old (dir : Inode) (dentry : Dentry) (ret : UInt64)
    (valid : ret < -4095) :
    vfsMkdirExitNew stateMap pick protectedDirs dir dentry ret =
      vfsMkdirExitOld stateMap pick protectedDirs dir dentry 0 := by
  have notError : ¬ ret ≥ (-4095) := by
    rw [ge_iff_le, UInt64.not_le]
    exact valid
  simp [vfsMkdirExitNew, vfsMkdirExitOld, notError]

/-- The layouts of `struct renamedata` do not matter once the new parent is a live
directory. -/
theorem vfsRenameExitNew_eq_old (oldDir moved newDir replaced : DirId) (ret : Int) :
    vfsRenameExitNew stateMap pick protectedDirs
        (.new (dentryOf oldDir) (dentryOf moved) (dentryOf newDir) (dentryOf replaced)) ret =
      vfsRenameExitOld stateMap pick protectedDirs (inodeOf oldDir) (dentryOf moved)
        (inodeOf newDir) (dentryOf replaced) ret := rfl

theorem vfsRenameExitNew_old_eq_old (oldDir newDir : Inode) (moved replaced : Dentry)
    (ret : Int) :
    vfsRenameExitNew stateMap pick protectedDirs (.old oldDir moved newDir replaced) ret =
      vfsRenameExitOld stateMap pick protectedDirs oldDir moved newDir replaced ret := rfl

end Hooks

end BouclierBleu.Kernel.VfsHelpers
