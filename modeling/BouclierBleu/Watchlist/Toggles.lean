/- GID: BouclierBleu/Watchlist/Toggles
   source: bpf/headers/vfs_helpers.h, bpf/exec_block.bpf.c, bpf/rename_entropy.bpf.c
   digest: What a watchlist misses while its module is disabled, against one never disabled. -/

import BouclierBleu.Watchlist.ExecBlock
import BouclierBleu.Watchlist.Filesystem
import BouclierBleu.Watchlist.RenameEntropy

set_option autoImplicit false
set_option relaxedAutoImplicit false

namespace BouclierBleu.Watchlist.Toggles

open BouclierBleu.Kernel.ModuleCore (isModuleActive_some)
open BouclierBleu.Kernel.VfsHelpers
open BouclierBleu.Library.PathTrees
open BouclierBleu.Library.Trace (Move Run)
open BouclierBleu.Watchlist.ExecBlock (execBlockBprmCheck execBlockBprmCheck_congr
  denied_iff_of_linked)
open BouclierBleu.Watchlist.Filesystem
open BouclierBleu.Watchlist.RenameEntropy
  (renameEntropyPathRename renameEntropyPathRename_congr randomName denied_randomName_iff watched)

inductive Module
  | execBlock | renameEntropy

/-- With the module enabled, its hook answers the same with either watchlist, whatever the
execution or rename it is asked about. -/
def SameVerdicts (a b : ProtectedDirs) : Module → Prop
  | .execBlock => ∀ pathBuffer shmem reserved task dPath file,
      execBlockBprmCheck ⟨some 1, a, pathBuffer⟩ shmem reserved task dPath file =
        execBlockBprmCheck ⟨some 1, b, pathBuffer⟩ shmem reserved task dPath file
  | .renameEntropy => ∀ scratch record task ppid resolved oldDir newDir newName,
      renameEntropyPathRename ⟨some 1, a, scratch⟩ record task ppid resolved oldDir newDir
          newName =
        renameEntropyPathRename ⟨some 1, b, scratch⟩ record task ppid resolved oldDir newDir
          newName

/-- A run and the run it is compared with, in which the module is never disabled. -/
structure Twin where
  actual : State
  reference : State

/-- Both make the same directories, with room in both maps; only the first is toggled. -/
inductive TwinStep : Twin → Event → Twin → Prop
  | mkdir {w : Twin} {n : String} {p : Path} {id : DirId} {pick : Nat} {actual reference : State}
      (taken : Step w.actual (.mkdir n p id pick) actual)
      (mirrored : Step w.reference (.mkdir n p id pick) reference)
      (room : ¬ w.actual.protectedDirs.Full) (room' : ¬ w.reference.protectedDirs.Full) :
      TwinStep w (.mkdir n p id pick) ⟨actual, reference⟩
  | toggle {w : Twin} {enable : Bool} :
      TwinStep w (.toggle enable) ⟨w.actual.toggle enable, w.reference⟩

/-- No directory is made in a watched one while the module is disabled. -/
def NoBlindMkdir (m : Move Twin Event) : Prop :=
  ∀ n p id pick dir, m.label = .mkdir n p id pick → m.source.actual.tree.node p = some dir →
    m.source.actual.Watches dir → m.source.actual.Enabled

/-- Both runs have the same tree, and list only what is in it. -/
structure Twinned (w : Twin) : Prop where
  tree : w.reference.tree.node = w.actual.tree.node
  enabled : w.reference.Enabled
  listed : Listed w.actual
  listed' : Listed w.reference

def Agree (w : Twin) : Prop :=
  ∀ id, w.actual.protectedDirs.lookup id = w.reference.protectedDirs.lookup id

section Verdict

variable {w : Twin}

theorem sameVerdicts_of_agree (agree : Agree w) (module : Module) :
    SameVerdicts w.actual.protectedDirs w.reference.protectedDirs module := by
  cases module with
  | execBlock =>
    intro pathBuffer shmem reserved task dPath file
    refine execBlockBprmCheck_congr ⟨some 1, _, pathBuffer⟩ (fun id => ?_) file
    rw [Protected, agree id]
    rfl
  | renameEntropy =>
    intro scratch record task ppid resolved oldDir newDir newName
    exact renameEntropyPathRename_congr ⟨some 1, _, scratch⟩ agree oldDir newDir newName

private theorem protected_iff_of_execBlock {a b : ProtectedDirs}
    (same : SameVerdicts a b .execBlock) (id : DirId) : Protected a id ↔ Protected b id := by
  have linked : (inodeOf id).nlink ≠ 0 := by
    have one : (1 : UInt32) ≠ 0 := by decide
    exact one
  have verdict (map : ProtectedDirs) :
      (execBlockBprmCheck ⟨some 1, map, some []⟩ ⟨true, 0, 0⟩ true ⟨0, 0, none⟩ .failed
        (some ⟨some (dentryOf id), some (inodeOf id), none⟩)).Denied ↔ Protected map id := by
    simp [denied_iff_of_linked linked]
  rw [← verdict a, ← verdict b, same]

private theorem watched_iff {map : ProtectedDirs} {id : DirId}
    (ones : ∀ value, map.lookup id = some value → value = 1) :
    watched map id = true ↔ Protected map id := by
  unfold watched Protected
  cases found : map.lookup id with
  | none => simp
  | some value => simp [ones value found]

private theorem protected_iff_of_renameEntropy {a b : ProtectedDirs} {id : DirId}
    (onesA : ∀ value, a.lookup id = some value → value = 1)
    (onesB : ∀ value, b.lookup id = some value → value = 1)
    (same : SameVerdicts a b .renameEntropy) : Protected a id ↔ Protected b id := by
  have verdict (map : ProtectedDirs) :
      (renameEntropyPathRename ⟨some 1, map, true⟩ none ⟨0, 0, none⟩ 0 none (dentryOf id)
        (dentryOf id) randomName).Denied ↔ watched map id = true :=
    denied_randomName_iff rfl rfl (dentryOf id)
  rw [← watched_iff onesA, ← watched_iff onesB, ← verdict a, ← verdict b, same]

/-- The verdict on one execution, or one rename, tells the entry of its directory. -/
theorem agree_of_sameVerdicts (twinned : Twinned w) {module : Module}
    (same : SameVerdicts w.actual.protectedDirs w.reference.protectedDirs module) : Agree w := by
  intro id
  have onesA := fun value found => (twinned.listed id value found).1
  have onesB := fun value found => (twinned.listed' id value found).1
  have both : Protected w.actual.protectedDirs id ↔ Protected w.reference.protectedDirs id := by
    cases module with
    | execBlock => exact protected_iff_of_execBlock same id
    | renameEntropy => exact protected_iff_of_renameEntropy onesA onesB same
  unfold Protected at both
  cases foundA : w.actual.protectedDirs.lookup id with
  | some value =>
    have one := onesA value foundA
    subst one
    exact (both.mp foundA).symm
  | none =>
    cases foundB : w.reference.protectedDirs.lookup id with
    | none => rfl
    | some value =>
      have one := onesB value foundB
      subst one
      rw [both.mpr foundB] at foundA
      contradiction

end Verdict

section Step

variable {w w' : Twin} {e : Event}

theorem Twinned.of_scanned {targets : List Path} {s : State} (scanned : Scanned targets s) :
    Twinned ⟨s, s.toggle true⟩ :=
  ⟨rfl, (isModuleActive_some 1).mpr rfl, scanned.listed, scanned.listed⟩

theorem Twinned.step (twinned : Twinned w) (taken : TwinStep w e w') : Twinned w' := by
  cases taken with
  | mkdir taken mirrored _ _ =>
    obtain ⟨_, _, _, node, _, _, listed⟩ := taken.mkdir_effect
    obtain ⟨_, _, _, node', switch', _, listed'⟩ := mirrored.mkdir_effect
    refine ⟨?_, ?_, listed twinned.listed, listed' twinned.listed'⟩
    · rw [node, node', twinned.tree]
    · rw [State.Enabled, switch']
      exact twinned.enabled
  | toggle => exact ⟨twinned.tree, twinned.enabled, twinned.listed, twinned.listed'⟩

/-- The two watchlists stay the same exactly if no directory is made blindly. -/
theorem agree_step_iff (twinned : Twinned w) (taken : TwinStep w e w') (agree : Agree w) :
    Agree w' ↔ NoBlindMkdir ⟨w, e, w'⟩ := by
  cases taken with
  | toggle =>
    refine iff_of_true agree ?_
    intro _ _ _ _ _ label
    contradiction
  | @mkdir n p id pick actual reference taken mirrored room room' =>
    obtain ⟨dir, parent, fresh, _, _, map, _⟩ := taken.mkdir_effect
    obtain ⟨dir', parent', _, _, _, map', _⟩ := mirrored.mkdir_effect
    rw [twinned.tree, parent] at parent'
    cases parent'
    have inside : Protected w.reference.protectedDirs dir.id ↔ w.actual.Watches dir := by
      rw [State.Watches, Protected, Protected, agree dir.id]
    have entered (j : DirId) : reference.protectedDirs.lookup j =
        if j = id ∧ w.actual.Watches dir then some 1 else w.actual.protectedDirs.lookup j := by
      rw [map', mkdirHook_of_enabled twinned.enabled, lookup_inheritProtection room', agree j]
      simp only [inside]
    by_cases enabled : w.actual.Enabled
    · refine iff_of_true (fun j => ?_) fun _ _ _ _ _ _ _ _ => enabled
      change actual.protectedDirs.lookup j = reference.protectedDirs.lookup j
      rw [entered j, map, mkdirHook_of_enabled enabled, lookup_inheritProtection room]
      rfl
    rw [mkdirHook_of_disabled enabled] at map
    by_cases watched : w.actual.Watches dir
    · refine iff_of_false ?_ fun seen => enabled (seen n p id pick dir rfl parent watched)
      intro agree'
      have missed : actual.protectedDirs.lookup id = reference.protectedDirs.lookup id := agree' id
      rw [map, twinned.listed.lookup_fresh fresh, entered id, if_pos ⟨rfl, watched⟩] at missed
      contradiction
    · refine iff_of_true (fun j => ?_) ?_
      · change actual.protectedDirs.lookup j = reference.protectedDirs.lookup j
        rw [entered j, map, if_neg fun new => watched new.2]
      · intro _ _ _ _ _ label there inside
        cases label
        cases parent.symm.trans there
        exact absurd inside watched

end Step

/-- From a complete boot scan, with room in the map: in every state reached, the verdicts of the
module when enabled are those it would give had it never been disabled, if and only if no
directory is made in a watched one while it is disabled. -/
theorem sameVerdicts_throughout_iff (module : Module) {targets : List Path} {s : State}
    {w : Twin} {moves : List (Move Twin Event)} (scanned : Scanned targets s)
    (run : Run TwinStep ⟨s, s.toggle true⟩ moves w) :
    (∀ m ∈ moves, SameVerdicts m.target.actual.protectedDirs m.target.reference.protectedDirs
      module) ↔ ∀ m ∈ moves, NoBlindMkdir m := by
  have shows (w : Twin) (twinned : Twinned w) :
      SameVerdicts w.actual.protectedDirs w.reference.protectedDirs module ↔ Agree w :=
    ⟨agree_of_sameVerdicts twinned, fun agree => sameVerdicts_of_agree agree module⟩
  exact run.observed_iff_moves (fun _ _ _ taken twinned => twinned.step taken) shows
    (fun _ _ _ taken twinned agree => agree_step_iff twinned taken agree)
    (.of_scanned scanned) (fun _ => rfl)

section Sample

/-- `/tmp/a` is made in a state with the tree of the boot scan. -/
def withA (s : State) (tree : s.tree = sampleTree) : State :=
  s.mkdir "a" ["tmp"] ⟨20, 1⟩ 0 tmpDir (by rw [tree]; rfl) tmpDir_isDir
    (by rw [tree]; rfl) (by rw [tree]; exact fresh_twenty)

private theorem step_withA (s : State) (tree : s.tree = sampleTree) :
    Step s (.mkdir "a" ["tmp"] ⟨20, 1⟩ 0) (withA s tree) :=
  .mkdir _ rfl _ _

/-- The runs before the mkdir. -/
def started : Twin := ⟨sampleStart, sampleStart.toggle true⟩

def disabled : Twin := ⟨sampleStart.toggle false, sampleStart.toggle true⟩

/-- `/tmp/a` is made while the module is enabled, or disabled and enabled again. -/
def seenA : Twin := ⟨withA sampleStart rfl, withA (sampleStart.toggle true) rfl⟩

def missedA : Twin := ⟨withA (sampleStart.toggle false) rfl, withA (sampleStart.toggle true) rfl⟩

def enabledAgain : Twin := ⟨missedA.actual.toggle true, missedA.reference⟩

theorem sameVerdicts_throughout_iff_sample :
    SameVerdicts seenA.actual.protectedDirs seenA.reference.protectedDirs .execBlock := by
  refine (sameVerdicts_throughout_iff .execBlock sampleStart_scanned
    (.cons (.mkdir (step_withA _ rfl) (step_withA _ rfl) (by decide) (by decide))
      (.nil seenA))).mpr ?_ _ List.mem_cons_self
  intro m member _ _ _ _ _ _ _ _
  rw [List.mem_singleton.mp member]
  rfl

private theorem sampleStart_twinned : Twinned started :=
  .of_scanned sampleStart_scanned

private theorem run_enabledAgain : Run TwinStep started
    [⟨started, .toggle false, disabled⟩, ⟨disabled, .mkdir "a" ["tmp"] ⟨20, 1⟩ 0, missedA⟩,
      ⟨missedA, .toggle true, enabledAgain⟩] enabledAgain :=
  .cons .toggle (.cons (.mkdir (step_withA _ rfl) (step_withA _ rfl) (by decide) (by decide))
    (.cons .toggle (.nil _)))

/-- A directory made below `/tmp` while the module is disabled is missed for good: neither hook
treats it as it would have, once the module is enabled again. -/
theorem disabled_mkdir_missed :
    Scanned execBlockTargets sampleStart ∧ ∃ moves w,
      Run TwinStep ⟨sampleStart, sampleStart.toggle true⟩ moves w ∧
      moves.map Move.label =
        [.toggle false, .mkdir "a" ["tmp"] ⟨20, 1⟩ 0, .toggle true] ∧
      w.actual.Enabled ∧
      ∀ module, ¬ SameVerdicts w.actual.protectedDirs w.reference.protectedDirs module := by
  refine ⟨sampleStart_scanned, _, _, run_enabledAgain, rfl, rfl, ?_⟩
  intro module same
  have twinned : Twinned enabledAgain :=
    run_enabledAgain.invariant (fun _ _ _ taken twinned => twinned.step taken)
      sampleStart_twinned
  have missed : enabledAgain.actual.protectedDirs.lookup ⟨20, 1⟩ = none := by decide
  have seen : enabledAgain.reference.protectedDirs.lookup ⟨20, 1⟩ = some 1 := by decide
  have agree := agree_of_sameVerdicts twinned same ⟨20, 1⟩
  rw [missed, seen] at agree
  contradiction

end Sample

end BouclierBleu.Watchlist.Toggles
