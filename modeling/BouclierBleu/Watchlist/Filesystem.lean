/- GID: BouclierBleu/Watchlist/Filesystem
   source: bpf/headers/vfs_helpers.h, modules/src/exec_block.rs, modules/src/rename_entropy.rs
   digest: A directory tree and the watchlist that the mkdir and rename hooks keep beside it. -/

import BouclierBleu.Kernel.VfsHelpers
import BouclierBleu.Library.PathTrees
import BouclierBleu.Library.Trace

set_option autoImplicit false
set_option relaxedAutoImplicit false

namespace BouclierBleu.Watchlist.Filesystem

open BouclierBleu.Kernel.ModuleCore (isModuleActive)
open BouclierBleu.Kernel.VfsHelpers
open BouclierBleu.Library.BoundedMaps (BoundedMap)
open BouclierBleu.Library.PathTrees (Tree)

/-- An absolute path, innermost name first. -/
abbrev Path := List String

/-- `/tmp`, `/var/tmp`, `/dev/shm`, `/var/crash`, `/dev/mqueue` and `/run/user`. -/
def execBlockTargets : List Path :=
  [["tmp"], ["tmp", "var"], ["shm", "dev"], ["crash", "var"], ["mqueue", "dev"], ["user", "run"]]

/-- `/home`, `/var`, `/etc` and `/opt`. -/
def renameEntropyTargets : List Path := [["home"], ["var"], ["etc"], ["opt"]]

def Below (targets : List Path) (p : Path) : Prop := ∃ target ∈ targets, target <:+ p

instance (targets : List Path) (p : Path) : Decidable (Below targets p) :=
  List.decidableBEx (fun target => target <:+ p) targets

theorem Below.append {targets : List Path} {p : Path} (below : Below targets p) (q : Path) :
    Below targets (q ++ p) := by
  obtain ⟨target, member, suffix⟩ := below
  exact ⟨target, member, List.suffix_append_of_suffix suffix⟩

/-- A file or directory with the id the hooks read off it. -/
structure Object where
  id : DirId
  isDir : Bool
  deriving DecidableEq

/-- Directories hold objects below them, and no two live objects have one id. -/
abbrev FsTree := Library.PathTrees.Tree String (fun o : Object => o.isDir = true) Object.id

/-- The tree and the two maps of one watchlist module. -/
structure State where
  tree : FsTree
  stateMap : Option UInt32
  protectedDirs : ProtectedDirs

namespace State

variable (s : State)

def Enabled : Prop := isModuleActive s.stateMap = true

def Watches (o : Object) : Prop := Protected s.protectedDirs o.id

instance (o : Object) : Decidable (s.Watches o) :=
  inferInstanceAs (Decidable (Protected s.protectedDirs o.id))

/-- The hook after a successful mkdir; its two forms agree. -/
def mkdirHook (pick : Nat) (dir child : Object) : ProtectedDirs × List Nat :=
  vfsMkdirExitOld s.stateMap pick s.protectedDirs (inodeOf dir.id) (dentryOf child.id) 0

/-- The hook after a successful rename, with or without an exchange; its forms agree. -/
def renameHook (pick : Nat) (oldDir moved newDir : Object) (replaced : Dentry) :
    ProtectedDirs × List Nat :=
  vfsRenameExitOld s.stateMap pick s.protectedDirs (inodeOf oldDir.id) (dentryOf moved.id)
    (inodeOf newDir.id) replaced 0

def dentryAt (p : Path) (dev : UInt32) : Dentry :=
  match s.tree.node p with
  | some o => dentryOf o.id
  | none => ⟨none, ⟨dev, 0⟩⟩

/-- A new directory, and the hook. -/
def mkdir (n : String) (p : Path) (id : DirId) (pick : Nat) (dir : Object)
    (parent : s.tree.node p = some dir) (kind : dir.isDir = true)
    (free : s.tree.node (n :: p) = none) (fresh : s.tree.Fresh id) : State :=
  { s with
    tree := s.tree.put n p ⟨id, true⟩ ⟨dir, parent, kind⟩ free fresh
    protectedDirs := (s.mkdirHook pick dir ⟨id, true⟩).1 }

/-- A new file; no hook is attached. -/
def create (n : String) (p : Path) (id : DirId) (dir : Object)
    (parent : s.tree.node p = some dir) (kind : dir.isDir = true)
    (free : s.tree.node (n :: p) = none) (fresh : s.tree.Fresh id) : State :=
  { s with tree := s.tree.put n p ⟨id, false⟩ ⟨dir, parent, kind⟩ free fresh }

/-- An unlink or an rmdir; no hook is attached. -/
def remove (p : Path) (leaf : s.tree.Leaf p) : State := { s with tree := s.tree.drop p leaf }

def rename (n₀ : String) (p₀ : Path) (n : String) (p : Path) (pick : Nat)
    (oldDir moved newDir : Object) (newParent : s.tree.node p = some newDir)
    (kind : newDir.isDir = true) (into : ¬ n₀ :: p₀ <:+ n :: p) : State :=
  { s with
    tree := s.tree.move (n₀ :: p₀) n p ⟨newDir, newParent, kind⟩ into
    protectedDirs :=
      (s.renameHook pick oldDir moved newDir (s.dentryAt (n :: p) newDir.id.dev)).1 }

def exchange (n₀ : String) (p₀ : Path) (n : String) (p : Path) (pick : Nat)
    (oldDir moved newDir other : Object) (source : s.tree.node (n₀ :: p₀) = some moved)
    (target : s.tree.node (n :: p) = some other) (apart : ¬ n₀ :: p₀ <:+ n :: p)
    (apart' : ¬ n :: p <:+ n₀ :: p₀) : State :=
  { s with
    tree := s.tree.exchange (n₀ :: p₀) (n :: p) (by rw [source]; rfl) (by rw [target]; rfl)
      apart apart'
    protectedDirs := (s.renameHook pick oldDir moved newDir (dentryOf other.id)).1 }

def toggle (enable : Bool) : State := { s with stateMap := some (if enable then 1 else 0) }

end State

inductive Event
  | mkdir (n : String) (p : Path) (id : DirId) (pick : Nat)
  | create (n : String) (p : Path) (id : DirId)
  | remove (p : Path)
  | rename (n₀ : String) (p₀ : Path) (n : String) (p : Path) (pick : Nat)
  | exchange (n₀ : String) (p₀ : Path) (n : String) (p : Path) (pick : Nat)
  | toggle (enable : Bool)

/-- Successful operations. The id of a removed object may be given again, and a rename may
replace a file or an empty directory. -/
inductive Step : State → Event → State → Prop
  | mkdir {s : State} {n : String} {p : Path} {id : DirId} {pick : Nat} {dir : Object}
      (parent : s.tree.node p = some dir) (kind : dir.isDir = true)
      (free : s.tree.node (n :: p) = none) (fresh : s.tree.Fresh id) :
      Step s (.mkdir n p id pick) (s.mkdir n p id pick dir parent kind free fresh)
  | create {s : State} {n : String} {p : Path} {id : DirId} {dir : Object}
      (parent : s.tree.node p = some dir) (kind : dir.isDir = true)
      (free : s.tree.node (n :: p) = none) (fresh : s.tree.Fresh id) :
      Step s (.create n p id) (s.create n p id dir parent kind free fresh)
  | remove {s : State} {p : Path} (leaf : s.tree.Leaf p) :
      Step s (.remove p) (s.remove p leaf)
  | rename {s : State} {n₀ n : String} {p₀ p : Path} {pick : Nat} {oldDir moved newDir : Object}
      (source : s.tree.node (n₀ :: p₀) = some moved) (oldParent : s.tree.node p₀ = some oldDir)
      (newParent : s.tree.node p = some newDir) (kind : newDir.isDir = true)
      (into : ¬ n₀ :: p₀ <:+ n :: p) (leaf : s.tree.Leaf (n :: p)) :
      Step s (.rename n₀ p₀ n p pick)
        (s.rename n₀ p₀ n p pick oldDir moved newDir newParent kind into)
  | exchange {s : State} {n₀ n : String} {p₀ p : Path} {pick : Nat}
      {oldDir moved newDir other : Object}
      (source : s.tree.node (n₀ :: p₀) = some moved) (oldParent : s.tree.node p₀ = some oldDir)
      (target : s.tree.node (n :: p) = some other) (newParent : s.tree.node p = some newDir)
      (apart : ¬ n₀ :: p₀ <:+ n :: p) (apart' : ¬ n :: p <:+ n₀ :: p₀) :
      Step s (.exchange n₀ p₀ n p pick)
        (s.exchange n₀ p₀ n p pick oldDir moved newDir other source target apart apart')
  | toggle {s : State} {enable : Bool} : Step s (.toggle enable) (s.toggle enable)

/-- What a boot scan that misses nothing leaves: the watchlist holds exactly the directories at
or below the target paths. -/
structure Scanned (targets : List Path) (s : State) : Prop where
  covers : ∀ p o, s.tree.node p = some o → o.isDir = true → Below targets p → s.Watches o
  exact_entries : ∀ id value, s.protectedDirs.lookup id = some value →
    value = 1 ∧ ∃ p o, s.tree.node p = some o ∧ o.isDir = true ∧ o.id = id ∧ Below targets p

/-- Every entry of the watchlist is the id of a live object. -/
def Listed (s : State) : Prop :=
  ∀ id value, s.protectedDirs.lookup id = some value →
    value = 1 ∧ ∃ p o, s.tree.node p = some o ∧ o.id = id

theorem Scanned.listed {targets : List Path} {s : State} (scanned : Scanned targets s) :
    Listed s := by
  intro id value found
  obtain ⟨one, p, o, here, _, same, _⟩ := scanned.exact_entries id value found
  exact ⟨one, p, o, here, same⟩

/-- The id of a new object is not in the watchlist. -/
theorem Listed.lookup_fresh {s : State} (listed : Listed s) {id : DirId}
    (fresh : s.tree.Fresh id) : s.protectedDirs.lookup id = none := by
  by_contra found
  obtain ⟨value, found⟩ := Option.ne_none_iff_exists'.mp found
  obtain ⟨_, p, o, here, same⟩ := listed id value found
  exact fresh p o here same

section Hooks

variable {s : State} {pick : Nat} {oldDir dir o : Object} {replaced : Dentry}

theorem mkdirHook_of_enabled (enabled : s.Enabled) :
    s.mkdirHook pick dir o = inheritProtection pick s.protectedDirs dir.id o.id := by
  have active : isModuleActive s.stateMap = true := enabled
  simp [State.mkdirHook, vfsMkdirExitOld, vfsMkdirExit, active]

theorem mkdirHook_of_disabled (disabled : ¬ s.Enabled) :
    s.mkdirHook pick dir o = (s.protectedDirs, []) := by
  have inactive : isModuleActive s.stateMap = false := Bool.eq_false_iff.mpr disabled
  simp [State.mkdirHook, vfsMkdirExitOld, vfsMkdirExit, inactive]

/-- Of the four objects of a rename the hook sees the moved one and its new parent, which it
treats as a new directory and its parent. -/
theorem renameHook_eq_mkdirHook :
    s.renameHook pick oldDir o dir replaced = s.mkdirHook pick dir o := rfl

/-- The id of the object is all that a hook enters, and only under a watched parent. -/
theorem protected_of_mkdirHook {id : DirId}
    (after : Protected (s.mkdirHook pick dir o).1 id) :
    Protected s.protectedDirs id ∨ (id = o.id ∧ s.Watches dir) := by
  by_cases enabled : s.Enabled
  · rw [mkdirHook_of_enabled enabled] at after
    exact protected_of_inheritProtection after
  · rw [mkdirHook_of_disabled enabled] at after
    exact .inl after

/-- With room in the map a hook forgets nothing. -/
theorem protected_mkdirHook {id : DirId} (room : ¬ s.protectedDirs.Full)
    (before : Protected s.protectedDirs id) : Protected (s.mkdirHook pick dir o).1 id := by
  by_cases enabled : s.Enabled
  · rw [mkdirHook_of_enabled enabled]
    exact (protected_inheritProtection_iff room).mpr (.inl before)
  · rw [mkdirHook_of_disabled enabled]
    exact before

end Hooks

section Mkdir

variable {s : State} {n : String} {p : Path} {id : DirId} {pick : Nat} {dir : Object}
  {parent : s.tree.node p = some dir} {kind : dir.isDir = true}
  {free : s.tree.node (n :: p) = none} {fresh : s.tree.Fresh id}

theorem fresh_mkdir {other : DirId} (before : s.tree.Fresh other) (different : id ≠ other) :
    (s.mkdir n p id pick dir parent kind free fresh).tree.Fresh other :=
  Tree.fresh_put ⟨dir, parent, kind⟩ free fresh before different

theorem node_mkdir_self :
    (s.mkdir n p id pick dir parent kind free fresh).tree.node (n :: p) = some ⟨id, true⟩ :=
  Function.update_self _ _ _

theorem node_mkdir_of_some {q : Path} {o : Object} (here : s.tree.node q = some o) :
    (s.mkdir n p id pick dir parent kind free fresh).tree.node q = some o := by
  have other : q ≠ n :: p := by
    rintro rfl
    rw [free] at here
    contradiction
  exact (Function.update_of_ne other _ _).trans here

theorem node_of_mkdir {q : Path} {o : Object}
    (here : (s.mkdir n p id pick dir parent kind free fresh).tree.node q = some o) :
    (q = n :: p ∧ o = ⟨id, true⟩) ∨ s.tree.node q = some o :=
  Tree.node_of_put ⟨dir, parent, kind⟩ free fresh here

theorem leaf_mkdir : (s.mkdir n p id pick dir parent kind free fresh).tree.Leaf (n :: p) := by
  intro m
  by_contra live
  obtain ⟨o, here⟩ := Option.ne_none_iff_exists'.mp live
  rcases node_of_mkdir here with ⟨path, _⟩ | stood
  · have length := congrArg List.length path
    simp at length
  · rw [Tree.leaf_of_free free m] at stood
    contradiction

/-- The new directory is all that the hook can enter. -/
theorem listed_mkdir (listed : Listed s) :
    Listed (s.mkdir n p id pick dir parent kind free fresh) := by
  intro j value found
  have before (held : s.protectedDirs.lookup j = some value) : value = 1 ∧
      ∃ q o, (s.mkdir n p id pick dir parent kind free fresh).tree.node q = some o ∧
        o.id = j := by
    obtain ⟨one, q, o, here, same⟩ := listed j value held
    exact ⟨one, q, o, node_mkdir_of_some here, same⟩
  change (s.mkdirHook pick dir ⟨id, true⟩).1.lookup j = some value at found
  by_cases enabled : s.Enabled
  · rw [mkdirHook_of_enabled enabled] at found
    by_cases inside : s.Watches dir
    · rcases inheritProtection_of_protected pick id inside with
        ⟨map, stored, shape⟩ | ⟨_, shape⟩ <;> rw [shape] at found
      · by_cases same : j = id
        · subst same
          rw [BoundedMap.lookup_update_self stored] at found
          exact ⟨(Option.some.inj found).symm, n :: p, ⟨j, true⟩, node_mkdir_self, rfl⟩
        · exact before (BoundedMap.lookup_of_update stored same found)
      · exact before found
    · rw [inheritProtection_of_unprotected inside] at found
      exact before found
  · rw [mkdirHook_of_disabled enabled] at found
    exact before found

/-- All that a mkdir does. -/
theorem Step.mkdir_effect {t : State} (taken : Step s (.mkdir n p id pick) t) :
    ∃ dir, s.tree.node p = some dir ∧ s.tree.Fresh id ∧
      t.tree.node = Function.update s.tree.node (n :: p) (some ⟨id, true⟩) ∧
      t.stateMap = s.stateMap ∧ t.protectedDirs = (s.mkdirHook pick dir ⟨id, true⟩).1 ∧
      (Listed s → Listed t) := by
  cases taken with
  | mkdir parent kind free fresh =>
    exact ⟨_, parent, fresh, rfl, rfl, rfl, fun listed => listed_mkdir listed⟩

end Mkdir

section Sample

def rootDir : Object := ⟨⟨2, 1⟩, true⟩

def tmpDir : Object := ⟨⟨11, 1⟩, true⟩

def homeDir : Object := ⟨⟨12, 1⟩, true⟩

theorem tmpDir_isDir : tmpDir.isDir = true := rfl

private theorem fresh_tmpDir : (Tree.root _ _ rootDir : FsTree).Fresh tmpDir.id :=
  Tree.fresh_root (by decide)

def tmpTree : FsTree :=
  (Tree.root _ _ rootDir).put "tmp" [] tmpDir ⟨rootDir, rfl, rfl⟩ rfl fresh_tmpDir

theorem fresh_homeDir : tmpTree.Fresh homeDir.id :=
  Tree.fresh_put _ _ _ (Tree.fresh_root (by decide)) (by decide)

/-- `/`, `/tmp` and `/home`. -/
def sampleTree : FsTree :=
  tmpTree.put "home" [] homeDir ⟨rootDir, rfl, rfl⟩ rfl fresh_homeDir

/-- `exec_block` after its boot scan. -/
def sampleStart : State where
  tree := sampleTree
  stateMap := some 1
  protectedDirs := .single protectedDirsType 8192 protectedDirsMax_pos tmpDir.id 1

theorem sampleTree_fresh {id : DirId} (root : rootDir.id ≠ id) (tmp : tmpDir.id ≠ id)
    (home : homeDir.id ≠ id) : sampleTree.Fresh id :=
  Tree.fresh_put _ _ _ (Tree.fresh_put _ _ _ (Tree.fresh_root root) tmp) home

/-- An id no object of the sample has. -/
theorem fresh_twenty : sampleTree.Fresh ⟨20, 1⟩ :=
  sampleTree_fresh (by decide) (by decide) (by decide)

theorem sampleTree_cases {p : Path} {o : Object} (here : sampleTree.node p = some o) :
    (p = [] ∧ o = rootDir) ∨ (p = ["tmp"] ∧ o = tmpDir) ∨ (p = ["home"] ∧ o = homeDir) := by
  rcases Tree.node_of_put _ _ _ here with home | here
  · exact .inr (.inr home)
  rcases Tree.node_of_put _ _ _ here with tmp | here
  · exact .inr (.inl tmp)
  cases p with
  | nil =>
    cases here
    exact .inl ⟨rfl, rfl⟩
  | cons n p => contradiction

theorem sampleStart_scanned : Scanned execBlockTargets sampleStart where
  covers := by
    intro p o here kind below
    rcases sampleTree_cases here with ⟨rfl, rfl⟩ | ⟨rfl, rfl⟩ | ⟨rfl, rfl⟩
    · exact absurd below (by decide)
    · decide
    · exact absurd below (by decide)
  exact_entries := by
    intro id value found
    have member : id ∈ sampleStart.protectedDirs.table :=
      BoundedMap.exists_lookup.mp ⟨value, found⟩
    have same : id = ⟨11, 1⟩ := List.mem_singleton.mp (AList.mem_keys.mp member)
    subst same
    cases found
    exact ⟨rfl, ["tmp"], tmpDir, rfl, rfl, rfl, by decide⟩

end Sample

end BouclierBleu.Watchlist.Filesystem
