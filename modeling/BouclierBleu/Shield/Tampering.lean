/- GID: BouclierBleu/Shield/Tampering
   source: bpf/shield.bpf.c, modules/src/shield.rs
   digest: How long the daemon's own files stay out of the hands of users. -/

import BouclierBleu.Library.Trace
import BouclierBleu.Shield.Hooks
import BouclierBleu.Watchlist.BootScan

set_option autoImplicit false
set_option relaxedAutoImplicit false

namespace BouclierBleu.Shield.Tampering

open BouclierBleu.Daemon.FsUtils
open BouclierBleu.Daemon.SecurityModules
open BouclierBleu.Kernel.ModuleCore (CStr Task isModuleActive)
open BouclierBleu.Kernel.VfsHelpers
open BouclierBleu.Library.BoundedMaps (BoundedMap Policy)
open BouclierBleu.Library.Trace (Move Run)
open BouclierBleu.Shield.Hooks
open BouclierBleu.Watchlist.BootScan (Holds Adds adds_pure adds_forM idAt updateProtectedDirs
  getSecureHardwareKey_eq dirIdOf_dirIdBytes)
open BouclierBleu.Watchlist.HardwareKeys (dirIdBytes kernelDev)

def corePaths : List String := ["/etc/bouclier-bleu/config.toml", "/usr/bin/bouclier-bleu-core"]

section Boot

/-- The ids of what the core paths lead to. -/
def coreIds (fs : Fs) : List DirId :=
  corePaths.flatMap fun path => (idAt fs (CStr.literal path)).toList

variable (host : Host) (pick : Nat)

/-- The skeleton of shield. -/
def provider : MapProvider ProtectedDirs := fun name =>
  if name = "protected_files" then .ok (updateProtectedDirs host.endian pick)
  else .error s!"Map {name} not found"

/-- What the boot of shield leaves in its watchlist, `BPF_MAP_TYPE_HASH` of two entries. -/
def booted : Except String Unit × ProtectedDirs :=
  execute ((shield ProtectedDirs).runInit host (provider host pick))
    (.empty .reject 2 (by decide))

private theorem execute_modify {M : Type} (f : M → M) (m : M) :
    execute (modify f : Populating M Unit) m = (.ok (), f m) := rfl

/-- A change of the map that amounts to offering it the key of a file. -/
private theorem adds_offer (path : String) {change : ProtectedDirs → ProtectedDirs}
    (taken : ∀ m m', offer host (updateProtectedDirs host.endian pick) path m = some (.ok m') →
      change m = m')
    (passed : ∀ m, offer host (updateProtectedDirs host.endian pick) path m = none →
      change m = m) :
    Adds 2 (idAt host.fs (CStr.literal path)).toList (modify change) := by
  intro before m holds room
  rw [execute_modify]
  cases known : idAt host.fs (CStr.literal path) with
  | none =>
    refine ⟨m, ?_, holds, rfl⟩
    rw [passed]
    rw [offer, getSecureHardwareKey_eq, known]
    rfl
  | some id =>
    rw [known, Option.toList_some, List.length_singleton] at room
    obtain ⟨m', stored, later⟩ := holds.update pick id (by omega)
    refine ⟨m', ?_, later, BoundedMap.update_policy stored⟩
    rw [taken m m']
    rw [offer, getSecureHardwareKey_eq, known]
    simp only [Option.map_some, updateProtectedDirs, dirIdOf_dirIdBytes, stored]

private theorem holds_of_adds {ids : List DirId} {population : Populating ProtectedDirs Unit}
    {m : ProtectedDirs} (adds : Adds 2 ids population) (fresh : Holds 2 [] m)
    (few : ids.length ≤ 2) :
    (execute population m).1 = .ok () ∧ Holds 2 ids (execute population m).2 := by
  obtain ⟨m', done, holds, _⟩ := adds [] m fresh few
  rw [done]
  exact ⟨rfl, List.append_nil ids ▸ holds⟩

/-- The `init` never fails, and its watchlist holds what the core paths lead to. -/
theorem booted_holds : (booted host pick).1 = .ok () ∧
    Holds 2 (coreIds host.fs) (booted host pick).2 := by
  have few : (coreIds host.fs).length ≤ 2 := by
    have short (path : String) : (idAt host.fs (CStr.literal path)).toList.length ≤ 1 := by
      cases idAt host.fs (CStr.literal path) <;> simp
    have config := short "/etc/bouclier-bleu/config.toml"
    have binary := short "/usr/bin/bouclier-bleu-core"
    simp only [coreIds, corePaths, List.flatMap_cons, List.flatMap_nil, List.length_append,
      List.length_nil]
    omega
  have given : provider host pick "protected_files" = .ok (updateProtectedDirs host.endian pick) :=
    if_pos rfl
  rw [booted, Declaration.runInit]
  simp only [shield, initShield, execute_bind, execute_getMap, given]
  refine holds_of_adds (adds_forM (fun path => adds_offer host pick path ?_ ?_) corePaths)
    ⟨fun id => BoundedMap.lookup_empty .., rfl⟩ few
  · intro m m' offered
    rw [offered]
  · intro m absent
    rw [absent]

end Boot

structure FileState where
  iMode : UInt16
  inode : Inode
  tampered : Bool

/-- A file open for writing, and who may write to it. -/
structure Handle where
  file : Nat
  uid : UInt32
  deriving DecidableEq

/-- Files are named by a number of their own, since inode numbers are used again. `tampered` is a
history that nothing reads: whether a user has had a hand in the contents. -/
structure System where
  maps : Maps
  files : Nat → Option FileState
  paths : String → Option Nat
  handles : List Handle

def truncates (fFlags : UInt32) : Bool := fFlags &&& O_TRUNC != 0

def writes (fFlags : UInt32) : Bool := (fFlags &&& O_WRONLY != 0) || (fFlags &&& O_RDWR != 0)

/-- The contents of a file change at the hands of `uid`. -/
def System.touch (s : System) (f : Nat) (file : FileState) (uid : UInt32) : System :=
  { s with
    files := Function.update s.files f
      (some { file with tampered := file.tampered || uid != 0 }) }

def System.openFile (s : System) (task : Task) (f : Nat) (file : FileState)
    (fFlags : UInt32) : System :=
  let opened := if truncates fFlags then s.touch f file task.getGlobalUid else s
  if writes fFlags then { opened with handles := ⟨f, task.getGlobalUid⟩ :: opened.handles }
  else opened

def System.create (s : System) (task : Task) (f : Nat) (iMode : UInt16) (inode : Inode) :
    System :=
  { s with
    files := Function.update s.files f (some ⟨iMode, inode, task.getGlobalUid != 0⟩) }

inductive Event
  | openFile (task : Task) (f : Nat) (fFlags : UInt32)
  | write (h : Handle)
  | close (h : Handle)
  | handOn (h : Handle) (uid : UInt32)
  | truncate (task : Task) (f : Nat)
  | relink (path : String) (target : Option Nat)
  | create (task : Task) (f : Nat)
  | toggle (value : UInt32)

/-- Whatever the permissions of a file allow. A handle gets into other hands over a socket, or
with a process that changes its user; `truncate(2)`, links and renames never meet the hook. -/
inductive Step : System → Event → System → Prop
  | openFile {s : System} {task : Task} {f : Nat} {fFlags : UInt32} {file : FileState}
      {reserved : Bool} {dPath : Option (List UInt8)} (found : s.files f = some file)
      (allowed : ¬ (shieldFileOpen s.maps reserved task
        ⟨fFlags, some ⟨file.iMode, file.inode⟩, dPath⟩).Denied) :
      Step s (.openFile task f fFlags) (s.openFile task f file fFlags)
  | write {s : System} {h : Handle} {file : FileState} (held : h ∈ s.handles)
      (found : s.files h.file = some file) : Step s (.write h) (s.touch h.file file h.uid)
  | close {s : System} {h : Handle} :
      Step s (.close h) { s with handles := s.handles.erase h }
  | handOn {s : System} {h : Handle} {uid : UInt32} (held : h ∈ s.handles) :
      Step s (.handOn h uid) { s with handles := ⟨h.file, uid⟩ :: s.handles }
  | truncate {s : System} {task : Task} {f : Nat} {file : FileState}
      (found : s.files f = some file) :
      Step s (.truncate task f) (s.touch f file task.getGlobalUid)
  | relink {s : System} {path : String} {target : Option Nat} :
      Step s (.relink path target) { s with paths := Function.update s.paths path target }
  | create {s : System} {task : Task} {f : Nat} {iMode : UInt16} {inode : Inode}
      (fresh : s.files f = none) :
      Step s (.create task f) (s.create task f iMode inode)
  | toggle {s : System} {value : UInt32} :
      Step s (.toggle value) { s with maps := { s.maps with stateMap := some value } }

/-- No user has a hand in the file. -/
structure Clean (s : System) (f : Nat) : Prop where
  intact : ∃ file, s.files f = some file ∧ file.tampered = false
  held : ∀ h ∈ s.handles, h.file = f → h.uid = 0

/-- A core path leads to the file. -/
def Core (s : System) (f : Nat) : Prop := ∃ path ∈ corePaths, s.paths path = some f

/-- Users have no hand in what the daemon will read and run. -/
def Genuine (s : System) : Prop := ∀ f, Core s f → Clean s f

/-- The hook keeps users off the file. -/
def Guarded (ids : List DirId) (s : System) (f : Nat) : Prop :=
  isModuleActive s.maps.stateMap = true ∧ ∃ file, s.files f = some file ∧
    S_ISREG file.iMode = true ∧ extractDirIdFromInode file.inode ∈ ids

/-- What an event must avoid: that a user opens a core file for writing while the module is off or
the file is not one that was there at boot; and, which no hook sees, that a user truncates it, is
handed a handle on it, or has had a hand in what a core path is made to lead to. -/
def Preserves (ids : List DirId) (s : System) : Event → Prop
  | .openFile task f fFlags =>
    Core s f → mayModify fFlags = true → task.getGlobalUid = 0 ∨ Guarded ids s f
  | .handOn h uid => Core s h.file → uid = 0
  | .truncate task f => Core s f → task.getGlobalUid = 0
  | .relink path target => path ∈ corePaths → ∀ f, target = some f → Clean s f
  | .write _ | .close _ | .create _ _ | .toggle _ => True

section Steps

variable {s t : System} {f : Nat} {file : FileState} {uid : UInt32}

private theorem clean_touch_iff (found : s.files f = some file) {g : Nat} (clean : Clean s g) :
    Clean (s.touch f file uid) g ↔ (g = f → uid = 0) := by
  by_cases same : g = f
  · subst same
    obtain ⟨before, here, intact⟩ := clean.intact
    cases found.symm.trans here
    have after : (s.touch g file uid).files g =
        some { file with tampered := file.tampered || uid != 0 } := Function.update_self ..
    constructor
    · rintro ⟨⟨changed, there, untouched⟩, _⟩ _
      cases after.symm.trans there
      simpa [intact] using untouched
    · intro root
      exact ⟨⟨_, after, by simp [intact, root rfl]⟩, clean.held⟩
  · have kept : (s.touch f file uid).files g = s.files g := Function.update_of_ne same ..
    refine iff_of_true ⟨?_, clean.held⟩ fun equal => absurd equal same
    rw [kept]
    exact clean.intact

private theorem genuine_touch_iff (genuine : Genuine s) (found : s.files f = some file) :
    Genuine (s.touch f file uid) ↔ (Core s f → uid = 0) := by
  constructor
  · intro later core
    exact (clean_touch_iff found (genuine f core)).mp (later f core) rfl
  · intro root g core
    exact (clean_touch_iff found (genuine g core)).mpr fun same => root (same ▸ core)

private theorem genuine_handle_iff (genuine : Genuine s) (h : Handle) :
    Genuine { s with handles := h :: s.handles } ↔ (Core s h.file → h.uid = 0) := by
  constructor
  · intro later core
    exact (later h.file core).held h List.mem_cons_self rfl
  · intro root g core
    refine ⟨(genuine g core).intact, ?_⟩
    intro k member own
    rcases List.mem_cons.mp member with rfl | old
    · exact root (own ▸ core)
    · exact (genuine g core).held k old own

private theorem genuine_openFile_iff (genuine : Genuine s) (found : s.files f = some file)
    {task : Task} {fFlags : UInt32} : Genuine (s.openFile task f file fFlags) ↔
      (Core s f → mayModify fFlags = true → task.getGlobalUid = 0) := by
  have parts : mayModify fFlags = (writes fFlags || truncates fFlags) := rfl
  rw [parts, System.openFile]
  cases truncates fFlags with
  | false =>
    cases writes fFlags with
    | false => exact iff_of_true genuine nofun
    | true =>
      refine (genuine_handle_iff genuine ⟨f, task.getGlobalUid⟩).trans ?_
      exact ⟨fun root core _ => root core, fun root core => root core rfl⟩
  | true =>
    cases writes fFlags with
    | false =>
      refine (genuine_touch_iff genuine found).trans ?_
      exact ⟨fun root core _ => root core, fun root core => root core rfl⟩
    | true =>
      constructor
      · intro later core _
        exact (later f core).held ⟨f, task.getGlobalUid⟩ List.mem_cons_self rfl
      · intro root
        have touched : Genuine (s.touch f file task.getGlobalUid) :=
          (genuine_touch_iff genuine found).mpr fun core => root core rfl
        exact (genuine_handle_iff touched ⟨f, task.getGlobalUid⟩).mpr fun core => root core rfl

private theorem maps_openFile {task : Task} {fFlags : UInt32} :
    (s.openFile task f file fFlags).maps = s.maps := by
  rw [System.openFile]
  cases truncates fFlags <;> cases writes fFlags <;> rfl

/-- The watchlist stays what the boot has left. -/
private theorem protectedFiles_step {event : Event} (taken : Step s event t) :
    t.maps.protectedFiles = s.maps.protectedFiles := by
  cases taken with
  | openFile => rw [maps_openFile]
  | _ => rfl

private theorem genuine_relink_iff (genuine : Genuine s) {path : String} {target : Option Nat} :
    Genuine { s with paths := Function.update s.paths path target } ↔
      (path ∈ corePaths → ∀ f, target = some f → Clean s f) := by
  constructor
  · intro later listed f leads
    have clean := later f ⟨path, listed, (Function.update_self ..).trans leads⟩
    exact ⟨clean.intact, clean.held⟩
  · rintro clean f ⟨other, listed, leads⟩
    have still : Clean s f := by
      by_cases same : other = path
      · subst same
        have here : Function.update s.paths other target other = target := Function.update_self ..
        exact clean listed f (here.symm.trans leads)
      · exact genuine f ⟨other, listed, (Function.update_of_ne same ..).symm.trans leads⟩
    exact ⟨still.intact, still.held⟩

private theorem genuine_create (genuine : Genuine s) {task : Task} {iMode : UInt16} {inode : Inode}
    (fresh : s.files f = none) : Genuine (s.create task f iMode inode) := by
  intro g core
  obtain ⟨⟨file, found, intact⟩, held⟩ := genuine g core
  have other : g ≠ f := by
    rintro rfl
    cases fresh.symm.trans found
  exact ⟨⟨file, (Function.update_of_ne other ..).trans found, intact⟩, held⟩

/-- A user gets past the hook only with a file that it does not guard. -/
private theorem unguarded_of_allowed {ids : List DirId} {task : Task} {fFlags : UInt32}
    {reserved : Bool} {dPath : Option (List UInt8)} (found : s.files f = some file)
    (holds : Holds 2 ids s.maps.protectedFiles)
    (allowed : ¬ (shieldFileOpen s.maps reserved task
      ⟨fFlags, some ⟨file.iMode, file.inode⟩, dPath⟩).Denied)
    (changes : mayModify fFlags = true) (guarded : Guarded ids s f) : task.getGlobalUid = 0 := by
  obtain ⟨active, other, here, regular, listed⟩ := guarded
  cases found.symm.trans here
  by_contra user
  refine allowed (shieldFileOpen_denied_iff.mpr ⟨active, changes, user, regular, ?_⟩)
  rw [holds.lookup, if_pos listed]

private theorem genuine_step_iff {ids : List DirId} {event : Event} (taken : Step s event t)
    (holds : Holds 2 ids s.maps.protectedFiles) (genuine : Genuine s) :
    Genuine t ↔ Preserves ids s event := by
  cases taken with
  | openFile found allowed =>
    refine (genuine_openFile_iff genuine found).trans ?_
    constructor
    · exact fun root core changes => .inl (root core changes)
    · intro preserves core changes
      rcases preserves core changes with root | guarded
      · exact root
      · exact unguarded_of_allowed found holds allowed changes guarded
  | @write h _ held found =>
    refine iff_of_true ((genuine_touch_iff genuine found).mpr fun core => ?_) trivial
    exact (genuine h.file core).held h held rfl
  | close =>
    refine iff_of_true (fun g core => ⟨(genuine g core).intact, fun k member own => ?_⟩) trivial
    exact (genuine g core).held k (List.mem_of_mem_erase member) own
  | @handOn h uid held => exact genuine_handle_iff genuine ⟨h.file, uid⟩
  | truncate found => exact genuine_touch_iff genuine found
  | relink => exact genuine_relink_iff genuine
  | create fresh => exact iff_of_true (genuine_create genuine fresh) trivial
  | toggle =>
    exact iff_of_true (fun g core => ⟨(genuine g core).intact, (genuine g core).held⟩) trivial

end Steps

section Replaced

def administrator : Task := ⟨0, 0, none⟩

def visitor : Task := ⟨0, 1000, none⟩

def sampleHost : Host := Daemon.Sizing.smallHost

/-- A regular file with an inode number of the disk. -/
def diskInode (ino : UInt64) : Inode := ⟨ino, ⟨kernelDev 2049, 0⟩, 1⟩

def configPath : String := "/etc/bouclier-bleu/config.toml"

/-- The configuration file is the one that was there at boot. -/
def sampleSystem : System where
  maps := ⟨some 1, (booted sampleHost 0).2, none⟩
  files := fun f => if f = 0 then some ⟨S_IFREG, diskInode 30, false⟩ else none
  paths := fun path => if path = configPath then some 0 else none
  handles := []

/-- An editor saves the configuration: a new file takes the place of the old one. -/
def savedSystem : System :=
  let written := sampleSystem.create administrator 1 S_IFREG (diskInode 99)
  { written with paths := Function.update written.paths configPath (some 1) }

def savedFile : FileState := ⟨S_IFREG, diskInode 99, false⟩

def savingMoves : List (Move System Event) :=
  let written := sampleSystem.create administrator 1 S_IFREG (diskInode 99)
  [⟨sampleSystem, .create administrator 1, written⟩,
    ⟨written, .relink configPath (some 1), savedSystem⟩,
    ⟨savedSystem, .openFile visitor 1 O_WRONLY,
      savedSystem.openFile visitor 1 savedFile O_WRONLY⟩]

private theorem unlisted_savedFile : extractDirIdFromInode (diskInode 99) ∉ coreIds sampleHost.fs := by
  decide

private theorem run_savingMoves :
    Run Step sampleSystem savingMoves (savedSystem.openFile visitor 1 savedFile O_WRONLY) := by
  have allowed : ¬ (shieldFileOpen savedSystem.maps true visitor
      ⟨O_WRONLY, some ⟨savedFile.iMode, savedFile.inode⟩, none⟩).Denied := by
    rw [shieldFileOpen_denied_iff]
    rintro ⟨_, _, _, _, listed⟩
    have holds := (booted_holds sampleHost 0).2.lookup (extractDirIdFromInode (diskInode 99))
    rw [if_neg unlisted_savedFile] at holds
    cases holds.symm.trans listed
  exact .cons (.create rfl) (.cons .relink (.cons (.openFile rfl allowed) (.nil _)))

private theorem genuine_sampleSystem : Genuine sampleSystem := by
  rintro f ⟨path, _, leads⟩
  have leads : (if path = configPath then some 0 else none) = some f := leads
  split at leads
  · cases leads
    exact ⟨⟨_, rfl, rfl⟩, nofun⟩
  · cases leads

end Replaced

end BouclierBleu.Shield.Tampering
