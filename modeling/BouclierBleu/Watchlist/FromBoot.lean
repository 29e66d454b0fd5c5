/- GID: BouclierBleu/Watchlist/FromBoot
   source: modules/src/exec_block.rs, modules/src/rename_entropy.rs, bpf/headers/vfs_helpers.h
   digest: The watchlists from the scan at boot on: which directories they ever miss. -/

import BouclierBleu.Watchlist.BootScan
import BouclierBleu.Watchlist.Completeness

set_option autoImplicit false
set_option relaxedAutoImplicit false

namespace BouclierBleu.Watchlist.FromBoot

open BouclierBleu.Daemon.Forests
open BouclierBleu.Daemon.FsUtils
open BouclierBleu.Daemon.SecurityModules
open BouclierBleu.Daemon.Sizing (counted)
open BouclierBleu.Kernel.ModuleCore (isModuleActive)
open BouclierBleu.Kernel.VfsHelpers
open BouclierBleu.Library.LossyUtf8 (encode lossy lossy_encode)
open BouclierBleu.Library.Trace (Move Run)
open BouclierBleu.Watchlist.BootScan
open BouclierBleu.Watchlist.Completeness
open BouclierBleu.Watchlist.Filesystem
open BouclierBleu.Watchlist.Toggles (Module)

section Names

/-- The bytes of a name. -/
def osName (n : String) : OsText := encode n.toList

/-- The names of a path, outermost first. -/
def osNames (p : Path) : List OsText := p.reverse.map osName

/-- A path as the daemon writes it. -/
def osPath (p : Path) : OsText := pathBelow [] (osNames p)

theorem osName_injective : Function.Injective osName := by
  intro a b same
  have text : a.toList = b.toList := by
    rw [← lossy_encode a.toList, ← lossy_encode b.toList]
    exact congrArg lossy same
  exact String.toList_injective text

theorem osNames_injective : Function.Injective osNames :=
  (List.map_injective_iff.mpr osName_injective).comp List.reverse_injective

theorem osPath_append (q p : Path) : osPath (q ++ p) = pathBelow (osPath p) (osNames q) := by
  simp [osPath, pathBelow, osNames]

/-- The scan looks at what bears such a name. -/
def Shown (w : DynamicWatchlist) (n : String) : Prop :=
  w.ignoreHidden = true → n.toList.head? = some '.' → n ∈ w.allowHidden

/-- What the filter of the scan makes of a name. -/
def passes (w : DynamicWatchlist) (name : OsText) : Bool :=
  keepEntry w.ignoreHidden w.allowHidden ⟨[], name, .directory⟩

theorem passes_osName_iff {w : DynamicWatchlist} {n : String} :
    passes w (osName n) = true ↔ Shown w n := by
  simp only [passes, keepEntry, osName, lossy_encode, Shown]
  cases w.ignoreHidden with
  | false => simp
  | true => by_cases hidden : n.toList.head? = some '.' <;> simp [hidden]

end Names

section Walks

variable {keep : DirEntry → Bool} {visible : OsText → Bool}

/-- A filter that goes by names leaves out what is behind the names it rejects. -/
private theorem within_iff (byName : ∀ entry, keep entry = visible entry.fileName)
    {parent : OsText} {listing : Listing} {names : List OsText} :
    Within keep parent listing names ↔
      Within (fun _ => true) parent listing names ∧ ∀ name ∈ names, visible name = true := by
  constructor
  · intro within
    induction within with
    | entry kept => exact ⟨.entry rfl, List.forall_mem_singleton.mpr ((byName _).symm.trans kept)⟩
    | directory kept =>
      exact ⟨.directory rfl, List.forall_mem_singleton.mpr ((byName _).symm.trans kept)⟩
    | inside kept _ ih =>
      exact ⟨.inside rfl ih.1, List.forall_mem_cons.mpr ⟨(byName _).symm.trans kept, ih.2⟩⟩
    | pastError _ ih => exact ⟨.pastError ih.1, ih.2⟩
    | pastEntry _ ih => exact ⟨.pastEntry ih.1, ih.2⟩
    | pastDirectory _ ih => exact ⟨.pastDirectory ih.1, ih.2⟩
  · rintro ⟨within, shown⟩
    induction within with
    | entry => exact .entry ((byName _).trans (shown _ List.mem_cons_self))
    | directory => exact .directory ((byName _).trans (shown _ List.mem_cons_self))
    | inside _ _ ih =>
      obtain ⟨here, deeper⟩ := List.forall_mem_cons.mp shown
      exact .inside ((byName _).trans here) (ih deeper)
    | pastError _ ih => exact .pastError (ih shown)
    | pastEntry _ ih => exact .pastEntry (ih shown)
    | pastDirectory _ ih => exact .pastDirectory (ih shown)

private theorem stands_iff (byName : ∀ entry, keep entry = visible entry.fileName)
    {path : OsText} (start : visible (lastComponent path) = true) {target : Target}
    {names : List OsText} :
    Stands keep path target names ↔
      Stands (fun _ => true) path target names ∧ ∀ name ∈ names, visible name = true := by
  have kept (fileType : FileType) : keep ⟨path, lastComponent path, fileType⟩ = true :=
    (byName _).trans start
  cases target with
  | absent => simp [Stands]
  | object fileType =>
    simp only [Stands, kept, and_true]
    constructor
    · rintro ⟨directory, rfl⟩
      exact ⟨⟨directory, rfl⟩, List.forall_mem_nil _⟩
    · exact And.left
  | directory contents =>
    simp only [Stands, kept, true_and, within_iff byName]
    constructor
    · rintro (rfl | ⟨within, shown⟩)
      · exact ⟨.inl rfl, List.forall_mem_nil _⟩
      · exact ⟨.inr within, shown⟩
    · rintro ⟨here, shown⟩
      exact here.imp_right fun within => ⟨within, shown⟩
  | linkToDirectory contents => exact within_iff byName

end Walks

/-- The daemon finds the directories of a tree where its walks start: what it walks past is what
there is, no target path is a link, and what is at or below one opens as the object it is. -/
structure Presents (forest : Forest) (paths : List Path) (tree : FsTree) : Prop where
  shows : ∀ target ∈ paths, ∀ names,
    Stands (fun _ => true) (osPath target) (forest.target (osPath target)) names ↔
      ∃ q o, names = osNames q ∧ tree.node (q ++ target) = some o ∧ o.isDir = true
  opens : ∀ p o, tree.node p = some o → o.isDir = true → Below paths p →
    idAt forest.fs (osPath p) = some o.id

/-- At most twenty levels below a target path, and behind no name that the scan leaves out. -/
def Scannable (w : DynamicWatchlist) (paths : List Path) (p : Path) : Prop :=
  ∃ target ∈ paths, ∃ q, p = q ++ target ∧ q.length ≤ 20 ∧ ∀ n ∈ q, Shown w n

/-- The watchlist of a module, and its target paths in the tree. -/
structure Watching (w : DynamicWatchlist) (paths : List Path) : Prop where
  targets : targets w.targetPaths = paths.map osPath
  shown : ∀ target ∈ paths, passes w (lastComponent (osPath target)) = true

section Scan

variable {forest : Forest} {w : DynamicWatchlist} {paths : List Path} {tree : FsTree}
  {p : Path} {o : Object}

private theorem forall_osNames_iff {q : Path} :
    (∀ name ∈ osNames q, passes w name = true) ↔ ∀ n ∈ q, Shown w n := by
  simp only [osNames, List.mem_map, List.mem_reverse, forall_exists_index, and_imp,
    forall_apply_eq_imp_iff₂, passes_osName_iff]

/-- The scan reaches exactly the directories it can look at, and no other under their ids. -/
theorem reached_iff_scannable (watching : Watching w paths) (presents : Presents forest paths tree)
    (here : tree.node p = some o) (kind : o.isDir = true) :
    (∃ path, Reached forest w path ∧ idAt forest.fs path = some o.id) ↔ Scannable w paths p := by
  have stands {target : Path} (listed : target ∈ paths) {names : List OsText} :
      Stands (keepEntry w.ignoreHidden w.allowHidden) (osPath target)
          (forest.target (osPath target)) names ↔
        (∃ q o, names = osNames q ∧ tree.node (q ++ target) = some o ∧ o.isDir = true) ∧
          ∀ name ∈ names, passes w name = true := by
    have byName (entry : DirEntry) :
        keepEntry w.ignoreHidden w.allowHidden entry = passes w entry.fileName := rfl
    rw [stands_iff byName (watching.shown target listed), presents.shows target listed]
  constructor
  · rintro ⟨path, ⟨start, listed, names, few, found, rfl⟩, same⟩
    rw [watching.targets] at listed
    obtain ⟨target, member, rfl⟩ := List.mem_map.mp listed
    obtain ⟨⟨q, other, rfl, stood, directory⟩, shown⟩ := (stands member).mp found
    have opened := presents.opens (q ++ target) other stood directory
      ⟨target, member, List.suffix_append q target⟩
    rw [osPath_append, same] at opened
    obtain ⟨path, _⟩ := tree.eq_of_key here stood (Option.some.inj opened)
    refine ⟨target, member, q, path, ?_, forall_osNames_iff.mp shown⟩
    rwa [osNames, List.length_map, List.length_reverse] at few
  · rintro ⟨target, listed, q, rfl, few, shown⟩
    refine ⟨osPath (q ++ target),
      ⟨osPath target, ?_, osNames q, ?_, ?_, osPath_append q target⟩, ?_⟩
    · rw [watching.targets]
      exact List.mem_map_of_mem listed
    · rwa [osNames, List.length_map, List.length_reverse]
    · exact (stands listed).mpr ⟨⟨q, o, rfl, here, kind⟩, forall_osNames_iff.mpr shown⟩
    · exact presents.opens (q ++ target) o here kind ⟨target, listed, List.suffix_append q target⟩

end Scan

def renameEntropyWatchlist : DynamicWatchlist where
  mapName := "protected_dirs"
  targetPaths := ["/home", "/var", "/etc", "/opt"]
  entryType := .directory
  minCapacity := 8192
  ignoreHidden := true
  allowHidden := [".ssh", ".gnupg", ".aws", ".kube", ".docker", ".config"]

def watchlistOf : Module → DynamicWatchlist
  | .execBlock => execBlockWatchlist
  | .renameEntropy => renameEntropyWatchlist

def declarationOf : Module → Declaration ProtectedDirs
  | .execBlock => execBlock ProtectedDirs
  | .renameEntropy => renameEntropy ProtectedDirs

def targetsOf : Module → List Path
  | .execBlock => execBlockTargets
  | .renameEntropy => renameEntropyTargets

section Boot

theorem declares_watchlistOf (module : Module) :
    Declares (declarationOf module) (watchlistOf module) := by
  cases module with
  | execBlock => exact ⟨rfl, rfl, rfl, rfl, rfl, by decide⟩
  | renameEntropy => exact ⟨rfl, rfl, rfl, rfl, rfl, by decide⟩

theorem watching_targetsOf (module : Module) :
    Watching (watchlistOf module) (targetsOf module) := by
  cases module with
  | execBlock => exact ⟨by decide, by decide⟩
  | renameEntropy => exact ⟨by decide, by decide⟩

private theorem sound_of_holds {cap : Nat} {ids : List DirId} {m : ProtectedDirs}
    (holds : Holds cap ids m) (mapType : m.policy = protectedDirsType) : Sound m := by
  refine ⟨mapType, fun id value found => ?_⟩
  rw [holds.lookup] at found
  split at found
  · exact (Option.some.inj found).symm
  · cases found

end Boot

section Sample

/-- Of the target paths of exec_block, `/tmp` alone is there, and empty. -/
def bootForest : Forest where
  target path := if path = osPath ["tmp"] then .directory .done else .absent
  openPath path := if path = osPath ["tmp"] then some (some ⟨11, 1⟩) else none
  openRead _ := none

def bootHost : Host := ⟨.little, bootForest.fs, ⟨false, 0, none⟩, none⟩

private theorem at_tmp {q target : Path} {o : Object} (listed : target ∈ execBlockTargets)
    (here : sampleTree.node (q ++ target) = some o) : q = [] ∧ target = ["tmp"] ∧ o = tmpDir := by
  have occupied : target ≠ [] := by
    rintro rfl
    exact absurd listed (by decide)
  rcases sampleTree_cases here with ⟨path, _⟩ | ⟨path, rfl⟩ | ⟨path, _⟩
  · exact absurd (List.append_eq_nil_iff.mp path).2 occupied
  · rcases List.append_eq_singleton_iff.mp path with ⟨rfl, rfl⟩ | ⟨_, none⟩
    · exact ⟨rfl, rfl, rfl⟩
    · exact absurd none occupied
  · rcases List.append_eq_singleton_iff.mp path with ⟨_, rfl⟩ | ⟨_, none⟩
    · exact absurd listed (by decide)
    · exact absurd none occupied

private theorem presents_sampleTree : Presents bootForest execBlockTargets sampleTree := by
  constructor
  · intro target listed names
    by_cases tmp : target = ["tmp"]
    · subst tmp
      simp only [bootForest, if_pos]
      constructor
      · rintro ⟨_, rfl | within⟩
        · exact ⟨[], tmpDir, rfl, rfl, rfl⟩
        · cases within
      · rintro ⟨q, o, rfl, here, _⟩
        obtain ⟨rfl, _⟩ := at_tmp listed here
        exact ⟨rfl, .inl rfl⟩
    · have apart : ∀ target ∈ execBlockTargets, target ≠ ["tmp"] →
          osPath target ≠ osPath ["tmp"] := by decide
      simp only [bootForest, if_neg (apart target listed tmp)]
      constructor
      · exact False.elim
      · rintro ⟨q, o, _, here, _⟩
        exact absurd (at_tmp listed here).2.1 tmp
  · rintro p o here _ ⟨target, listed, q, rfl⟩
    obtain ⟨rfl, rfl, rfl⟩ := at_tmp listed here
    decide

end Sample

end BouclierBleu.Watchlist.FromBoot
