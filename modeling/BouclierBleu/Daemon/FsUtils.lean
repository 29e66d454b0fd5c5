/- GID: BouclierBleu/Daemon/FsUtils
   source: modules/src/common/fs_utils.rs
   digest: The walks over the filesystem that size a watchlist and fill it. -/

import BouclierBleu.Library.Doubles
import BouclierBleu.Library.LossyUtf8
import BouclierBleu.Watchlist.HardwareKeys

set_option autoImplicit false
set_option relaxedAutoImplicit false

namespace BouclierBleu.Daemon.FsUtils

open BouclierBleu.Kernel.AlertStructs (Endian)
open BouclierBleu.Kernel.ModuleCore (CStr)
open BouclierBleu.Library.Doubles
open BouclierBleu.Library.LossyUtf8 (lossy)
open BouclierBleu.Watchlist.HardwareKeys (Metadata generateHardwareKey)

/-- A path or a file name: bytes of any encoding. -/
abbrev OsText := List UInt8

/-- A key of a watchlist map. -/
abbrev Key := List UInt8

inductive EntryType
  | file | directory
  deriving DecidableEq

/-- What a walk reports an entry to be. -/
inductive FileType
  | file | directory | symlink | other
  deriving DecidableEq

structure DirEntry where
  path : OsText
  fileName : OsText
  fileType : FileType
  deriving DecidableEq

/-- A file that was opened for reading. -/
structure OpenFile where
  getXattr : String → Except String (Option (List UInt8))
  metadata : Option Metadata

/-- The options of a `WalkDir`. -/
structure WalkOptions where
  maxDepth : Nat
  followLinks : Bool

/-- The filesystem as the crates and system calls below present it. An item of a walk that is
`none` is an error; a walk through a filter descends into no directory the filter rejects. -/
structure Fs where
  walk : WalkOptions → OsText → List (Option DirEntry)
  filterEntry : WalkOptions → OsText → (DirEntry → Bool) → List (Option DirEntry)
  openPath : OsText → Option (Option Metadata)
  openRead : OsText → Option OpenFile
  /-- A filter that keeps everything is none. -/
  filterEntry_all : ∀ options path keep, (∀ entry, keep entry = true) →
    filterEntry options path keep = walk options path

/-- `build_secure_walker` -/
def secureOptions : WalkOptions := ⟨20, false⟩

/-- `get_secure_hardware_key`: opened without following a link, then asked for its metadata. -/
def getSecureHardwareKey (e : Endian) (fs : Fs) (path : OsText) : Option Key :=
  match fs.openPath path with
  | some (some metadata) => some (generateHardwareKey e metadata)
  | some none | none => none

/-- The filter of both passes over a watchlist of directories or files. -/
def keepEntry (ignoreHidden : Bool) (allowHidden : List String) (entry : DirEntry) : Bool :=
  if !ignoreHidden then true
  else
    let fname := lossy entry.fileName
    if fname.head? != some '.' then true
    else allowHidden.contains (String.ofList fname)

def EntryType.isMatch (entryType : EntryType) (entry : DirEntry) : Bool :=
  match entryType with
  | .file => entry.fileType == .file
  | .directory => entry.fileType == .directory

/-- `(count as f64 * 1.25) as u32`; the product is rounded in quarters. -/
def scaleByBuffer (count : Int32) : UInt32 :=
  if count < 0 then 0 else saturateU32 (roundSignificand 53 (5 * count.toInt.toNat) / 4)

/-- The counter is the `i32` the compiler infers. -/
def calculateDynamicCapacity (fs : Fs) (targetPaths : List OsText) (entryType : EntryType)
    (minCapacity : UInt32) (ignoreHidden : Bool) (allowHidden : List String) : UInt32 :=
  let count : Int32 := targetPaths.foldl
    (fun count path =>
      let walker := fs.filterEntry secureOptions path (keepEntry ignoreHidden allowHidden)
      (walker.filterMap id).foldl
        (fun count entry => if entryType.isMatch entry then count + 1 else count) count) 0
  max (scaleByBuffer count) minCapacity

/-- The kernel's side of `bpf_map.update(&key, &[1], ANY)` on one map, or its error. -/
abbrev Update (M : Type) := Key → M → Except String M

/-- What a population leaves of the map, also when it fails. -/
abbrev Populating (M : Type) := ExceptT String (StateM M)

section Run

variable {M A B : Type}

/-- A population run on a map: its result, and what it leaves of the map. -/
def execute (population : Populating M A) (m : M) : Except String A × M :=
  (population.run.run m).run

@[simp] theorem execute_pure (a : A) (m : M) :
    execute (pure a : Populating M A) m = (.ok a, m) := rfl

@[simp] theorem execute_throw (e : String) (m : M) :
    execute (throw e : Populating M A) m = (.error e, m) := rfl

/-- What follows a failure is not run. -/
theorem execute_bind (first : Populating M A) (next : A → Populating M B) (m : M) :
    execute (first >>= next) m =
      match execute first m with
      | (.ok a, m) => execute (next a) m
      | (.error e, m) => (.error e, m) := by
  unfold execute
  rw [ExceptT.run_bind, StateT.run_bind, Id.run_bind]
  cases first.run.run m with
  | mk answer m => cases answer <;> rfl

end Run

section Populate

variable {M : Type}

def updateMap (update : Update M) (describe : String → String) (key : Key) :
    Populating M Unit :=
  ExceptT.mk fun m =>
    match update key m with
    | .ok m => (.ok (), m)
    | .error e => (.error (describe e), m)

theorem execute_updateMap (update : Update M) (describe : String → String) (key : Key) (m : M) :
    execute (updateMap update describe key) m =
      match update key m with
      | .ok m => (.ok (), m)
      | .error e => (.error (describe e), m) := rfl

def populateMapFromPaths (e : Endian) (fs : Fs) (update : Update M) (targetPaths : List OsText)
    (entryType : EntryType) (ignoreHidden : Bool) (allowHidden : List String) :
    Populating M Unit :=
  targetPaths.forM fun path =>
    let walker := fs.filterEntry secureOptions path (keepEntry ignoreHidden allowHidden)
    (walker.filterMap id).forM fun entry =>
      if !entryType.isMatch entry then pure ()
      else
        match getSecureHardwareKey e fs entry.path with
        | none => pure ()
        | some keyBytes =>
          let display := String.ofList (lossy entry.path)
          updateMap update (fun err => s!"CRITICAL: Map update failed for {display}: {err}")
            keyBytes

/-- The key of a file that carries the attribute with the value `1`. -/
def optedInKey (e : Endian) (fs : Fs) (xattrName : String) (path : OsText) : Option Key :=
  match fs.openRead path with
  | none => none
  | some file =>
    match file.getXattr xattrName with
    | .ok (some value) =>
      if value == CStr.literal "1" then file.metadata.map (generateHardwareKey e) else none
    | .ok none | .error _ => none

def populateMapFromXattr (e : Endian) (fs : Fs) (update : Update M) (mapName : String)
    (targetPaths : List OsText) (xattrName : String) : Populating M Unit :=
  targetPaths.forM fun path =>
    ((fs.walk secureOptions path).filterMap id).forM fun entry =>
      if entry.fileType == .file then
        match optedInKey e fs xattrName entry.path with
        | none => pure ()
        | some keyBytes =>
          updateMap update (fun err => s!"CRITICAL: {mapName} map failed to update: {err}")
            keyBytes
      else pure ()

end Populate

end BouclierBleu.Daemon.FsUtils
