/- GID: BouclierBleu/Watchlist/BootScan
   source: modules/src/common/fs_utils.rs, modules/src/common/macros.rs, bpf/headers/vfs_helpers.h
   digest: What the scan at boot leaves in the kernel's watchlist, and what it never reaches. -/

import BouclierBleu.Daemon.Sizing
import BouclierBleu.Watchlist.ExecBlock

set_option autoImplicit false
set_option relaxedAutoImplicit false

namespace BouclierBleu.Watchlist.BootScan

open BouclierBleu.Daemon.Forests
open BouclierBleu.Daemon.FsUtils
open BouclierBleu.Daemon.SecurityModules
open BouclierBleu.Daemon.Sizing (counted calculateDynamicCapacity_toNat)
open BouclierBleu.Kernel.AlertStructs (Endian u32Bytes length_u32Bytes)
open BouclierBleu.Kernel.VfsHelpers
open BouclierBleu.Library.BoundedMaps (BoundedMap)
open BouclierBleu.Telemetry.Reader (fromNeBytes fromNeBytes_u32Bytes)
open BouclierBleu.Watchlist.HardwareKeys

section Keys

/-- The word of a key at an offset. -/
def wordOf (e : Endian) (key : Key) (offset : Nat) : UInt32 :=
  fromNeBytes e ((key.drop offset).take 4)

def joinWords (low high : UInt32) : UInt64 := low.toUInt64 + high.toUInt64 * 2 ^ 32

/-- The `struct dir_id` that the bytes of a key hold. -/
def dirIdOf (e : Endian) (key : Key) : DirId where
  ino :=
    match e with
    | .little => joinWords (wordOf e key 0) (wordOf e key 4)
    | .big => joinWords (wordOf e key 4) (wordOf e key 0)
  dev := wordOf e key 8

private theorem joinWords_eq (v : UInt64) :
    joinWords v.toUInt32 (v >>> 32).toUInt32 = v := by
  have small := v.toNat_lt
  rw [← UInt64.toNat_inj, joinWords, UInt64.toNat_add, UInt64.toNat_mul, UInt32.toNat_toUInt64,
    UInt32.toNat_toUInt64, UInt64.toNat_toUInt32, UInt64.toNat_toUInt32, UInt64.toNat_shiftRight,
    Nat.shiftRight_eq_div_pow]
  show (v.toNat % 2 ^ 32 + v.toNat / 2 ^ 32 % 2 ^ 32 * 2 ^ 32 % 2 ^ 64) % 2 ^ 64 = v.toNat
  omega

private theorem wordOf_behind {e : Endian} {front rest : Key} {v : UInt32} {offset : Nat}
    (long : front.length = offset) : wordOf e (front ++ (u32Bytes e v ++ rest)) offset = v := by
  rw [wordOf, List.drop_left' long, List.take_left' (length_u32Bytes e v), fromNeBytes_u32Bytes]

/-- The kernel finds in a key of user space the id it was made from. -/
theorem dirIdOf_dirIdBytes (e : Endian) (id : DirId) : dirIdOf e (dirIdBytes e id) = id := by
  have dev : wordOf e (dirIdBytes e id) 8 = id.dev := by
    rw [dirIdBytes, List.append_assoc]
    exact wordOf_behind (length_u64Bytes e id.ino)
  have first {low high : UInt32} {rest : Key} :
      wordOf e ((u32Bytes e low ++ u32Bytes e high) ++ rest) 0 = low ∧
        wordOf e ((u32Bytes e low ++ u32Bytes e high) ++ rest) 4 = high := by
    rw [List.append_assoc]
    exact ⟨wordOf_behind List.length_nil, wordOf_behind (length_u32Bytes e low)⟩
  obtain ⟨ino, number⟩ := id
  rw [dirIdOf.eq_def, dev]
  cases e with
  | little =>
    simp only [dirIdBytes, u64Bytes, List.append_assoc (u32Bytes _ _ ++ u32Bytes _ _), first,
      joinWords_eq]
  | big =>
    simp only [dirIdBytes, u64Bytes, List.append_assoc (u32Bytes _ _ ++ u32Bytes _ _), first,
      joinWords_eq]

/-- `bpf_map.update(&key, &[1], ANY)` on the kernel's watchlist. -/
def updateProtectedDirs (e : Endian) (pick : Nat) : Update ProtectedDirs := fun key m =>
  match m.update pick (dirIdOf e key) 1 with
  | some m' => .ok m'
  | none => .error "Argument list too long (os error 7)"

/-- The id user space makes of what stands at a path. -/
def idAt (fs : Fs) (path : OsText) : Option DirId :=
  match fs.openPath path with
  | some (some metadata) => some ⟨metadata.ino, kernelDev metadata.dev⟩
  | some none | none => none

theorem getSecureHardwareKey_eq (e : Endian) (fs : Fs) (path : OsText) :
    getSecureHardwareKey e fs path = (idAt fs path).map (dirIdBytes e) := by
  rw [getSecureHardwareKey, idAt]
  cases fs.openPath path with
  | none => rfl
  | some opened =>
    cases opened with
    | none => rfl
    | some metadata => exact congrArg some (generateHardwareKey_eq e metadata)

end Keys

section Populate

/-- The map holds exactly some ids. -/
structure Holds (cap : Nat) (ids : List DirId) (m : ProtectedDirs) : Prop where
  lookup : ∀ id, m.lookup id = if id ∈ ids then some 1 else none
  maxEntries : m.maxEntries = cap

variable {cap pick : Nat} {ids : List DirId} {m : ProtectedDirs}

theorem Holds.congr (holds : Holds cap ids m) {others : List DirId}
    (same : ∀ id, id ∈ ids ↔ id ∈ others) : Holds cap others m := by
  refine ⟨fun id => ?_, holds.maxEntries⟩
  rw [holds.lookup, if_congr (same id) rfl rfl]

theorem Holds.protected_iff (holds : Holds cap ids m) (id : DirId) :
    Protected m id ↔ id ∈ ids := by
  rw [Protected, holds.lookup]
  simp

/-- A map is no larger than a list of its keys. -/
theorem Holds.size_le (holds : Holds cap ids m) : m.size ≤ ids.length := by
  refine (List.Nodup.subperm m.table.keys_nodup fun id member => ?_).length_le
  by_contra absent
  have found := holds.lookup id
  rw [if_neg absent] at found
  exact BoundedMap.lookup_eq_none.mp found (AList.mem_keys.mp member)

theorem Holds.update (pick : Nat) (id : DirId) (holds : Holds cap ids m)
    (room : ids.length < cap) :
    ∃ m', m.update pick id 1 = some m' ∧ Holds cap (id :: ids) m' := by
  have spare : ¬ m.Full := by
    have bounded := holds.size_le
    rw [BoundedMap.Full, holds.maxEntries]
    omega
  have fits : ∃ m', m.update pick id 1 = some m' := BoundedMap.exists_update_of_room spare
  obtain ⟨m', stored⟩ := fits
  refine ⟨m', stored, ?_, (BoundedMap.update_maxEntries stored).trans holds.maxEntries⟩
  intro other
  by_cases same : other = id
  · subst same
    rw [if_pos List.mem_cons_self, BoundedMap.lookup_update_self stored]
  · rw [BoundedMap.lookup_update_ne stored (.inr (.inl spare)) same, holds.lookup]
    simp [same]

/-- A population that fails nowhere and adds just these ids, as long as they fit. -/
def Adds (cap : Nat) (ids : List DirId) (population : Populating ProtectedDirs Unit) : Prop :=
  ∀ before m, Holds cap before m → ids.length + before.length ≤ cap →
    ∃ m', execute population m = (.ok (), m') ∧ Holds cap (ids ++ before) m' ∧
      m'.policy = m.policy

theorem adds_pure : Adds cap [] (pure ()) := fun _ m holds _ => ⟨m, rfl, holds, rfl⟩

theorem adds_updateMap (e : Endian) (describe : String → String) (id : DirId) :
    Adds cap [id] (updateMap (updateProtectedDirs e pick) describe (dirIdBytes e id)) := by
  intro before m holds room
  obtain ⟨m', stored, later⟩ := holds.update pick id (by
    rw [List.length_singleton] at room
    omega)
  refine ⟨m', ?_, later, BoundedMap.update_policy stored⟩
  rw [execute_updateMap, updateProtectedDirs, dirIdOf_dirIdBytes, stored]

theorem Adds.bind {more : List DirId} {first second : Populating ProtectedDirs Unit}
    (front : Adds cap ids first) (back : Adds cap more second) :
    Adds cap (ids ++ more) (first >>= fun _ => second) := by
  intro before m holds room
  rw [List.length_append] at room
  obtain ⟨m₁, done, held, kept⟩ := front before m holds (by omega)
  obtain ⟨m₂, finished, all, still⟩ := back _ m₁ held (by rw [List.length_append]; omega)
  refine ⟨m₂, ?_, all.congr fun id => ?_, still.trans kept⟩
  · rw [execute_bind, done]
    exact finished
  · simp only [List.mem_append]
    tauto

theorem adds_forM {A : Type} {idsOf : A → List DirId} {body : A → Populating ProtectedDirs Unit}
    (each : ∀ a, Adds cap (idsOf a) (body a)) (l : List A) :
    Adds cap (l.flatMap idsOf) (l.forM body) := by
  induction l with
  | nil => exact adds_pure
  | cons a l ih =>
    show Adds _ _ (body a >>= fun _ => l.forM body)
    rw [List.flatMap_cons]
    exact (each a).bind ih

private theorem flatMap_matching {A B : Type} (p : A → Bool) (f : A → Option B) (l : List A) :
    (l.flatMap fun a => if p a then (f a).toList else []) = (l.filter p).filterMap f := by
  induction l with
  | nil => rfl
  | cons a l ih =>
    rw [List.flatMap_cons, ih]
    cases matching : p a with
    | false => rw [List.filter_cons_of_neg (by simp [matching])]; rfl
    | true =>
      rw [List.filter_cons_of_pos matching, List.filterMap_cons]
      cases f a <;> rfl

variable (e : Endian) (fs : Fs) (targetPaths : List OsText) (entryType : EntryType)
  (ignoreHidden : Bool) (allowHidden : List String)

/-- The ids of the entries that the sizing pass counts. -/
def scannedIds : List DirId :=
  (counted fs targetPaths entryType ignoreHidden allowHidden).filterMap fun entry =>
    idAt fs entry.path

theorem length_scannedIds_le :
    (scannedIds fs targetPaths entryType ignoreHidden allowHidden).length ≤
      (counted fs targetPaths entryType ignoreHidden allowHidden).length :=
  List.length_filterMap_le _ _

theorem adds_populateMapFromPaths :
    Adds cap (scannedIds fs targetPaths entryType ignoreHidden allowHidden)
      (populateMapFromPaths e fs (updateProtectedDirs e pick) targetPaths entryType ignoreHidden
        allowHidden) := by
  have shape : scannedIds fs targetPaths entryType ignoreHidden allowHidden =
      targetPaths.flatMap fun path =>
        ((fs.filterEntry secureOptions path (keepEntry ignoreHidden allowHidden)).filterMap
          id).flatMap fun entry =>
            if entryType.isMatch entry then (idAt fs entry.path).toList else [] := by
    rw [scannedIds, counted, List.filterMap_flatMap]
    exact congrArg targetPaths.flatMap (funext fun path => (flatMap_matching _ _ _).symm)
  rw [shape, populateMapFromPaths]
  refine adds_forM (fun path => adds_forM (fun entry => ?_) _) targetPaths
  cases entryType.isMatch entry with
  | false => exact adds_pure
  | true =>
    rw [getSecureHardwareKey_eq]
    cases idAt fs entry.path with
    | none => exact adds_pure
    | some id => exact adds_updateMap e _ id

end Populate

section Walks

variable {keep : DirEntry → Bool}

/-- There is a directory `names` below `parent` that is kept, as all those on the way to it are. -/
inductive Within (keep : DirEntry → Bool) : OsText → Listing → List OsText → Prop
  | entry {parent name : OsText} {rest : Listing}
      (kept : keep (child parent name .directory) = true) :
      Within keep parent (.entry name .directory rest) [name]
  | directory {parent name : OsText} {contents rest : Listing}
      (kept : keep (child parent name .directory) = true) :
      Within keep parent (.directory name contents rest) [name]
  | inside {parent name : OsText} {contents rest : Listing} {names : List OsText}
      (kept : keep (child parent name .directory) = true)
      (inner : Within keep (parent ++ slash :: name) contents names) :
      Within keep parent (.directory name contents rest) (name :: names)
  | pastError {parent : OsText} {rest : Listing} {names : List OsText}
      (later : Within keep parent rest names) : Within keep parent (.unreadable rest) names
  | pastEntry {parent name : OsText} {fileType : FileType} {rest : Listing} {names : List OsText}
      (later : Within keep parent rest names) :
      Within keep parent (.entry name fileType rest) names
  | pastDirectory {parent name : OsText} {contents rest : Listing} {names : List OsText}
      (later : Within keep parent rest names) :
      Within keep parent (.directory name contents rest) names

/-- The same from the path on that a walk starts at; a link there is followed. -/
def Stands (keep : DirEntry → Bool) (path : OsText) (target : Target) (names : List OsText) :
    Prop :=
  match target with
  | .absent => False
  | .object fileType =>
    (fileType = .directory ∧ keep ⟨path, lastComponent path, .directory⟩ = true) ∧ names = []
  | .directory contents =>
    keep ⟨path, lastComponent path, .directory⟩ = true ∧
      (names = [] ∨ Within keep path contents names)
  | .linkToDirectory contents => Within keep path contents names

private theorem pathBelow_cons (parent name : OsText) (names : List OsText) :
    pathBelow parent (name :: names) = pathBelow (parent ++ slash :: name) names := by
  simp [pathBelow]

private theorem pathBelow_singleton (parent name : OsText) :
    pathBelow parent [name] = parent ++ slash :: name := by
  simp [pathBelow]

private theorem Within.ne_nil {parent : OsText} {listing : Listing} {names : List OsText}
    (within : Within keep parent listing names) : names ≠ [] := by
  induction within with
  | entry kept => exact List.cons_ne_nil _ _
  | directory kept => exact List.cons_ne_nil _ _
  | inside kept inner _ => exact List.cons_ne_nil _ _
  | pastError later ih => exact ih
  | pastEntry later ih => exact ih
  | pastDirectory later ih => exact ih

/-- The directories a walk comes past are within its reach. -/
private theorem within_of_mem {entry : DirEntry} {room : Nat} {parent : OsText}
    {listing : Listing} (member : some entry ∈ walkListing keep room parent listing)
    (kind : entry.fileType = .directory) :
    ∃ names, names.length ≤ room + 1 ∧ Within keep parent listing names ∧
      entry.path = pathBelow parent names := by
  induction listing generalizing room parent with
  | done => cases member
  | unreadable rest ih =>
    rw [walkListing, List.mem_cons] at member
    obtain ⟨names, few, within, path⟩ := ih (member.resolve_left (Option.some_ne_none entry))
    exact ⟨names, few, .pastError within, path⟩
  | entry name fileType rest ih =>
    rw [walkListing, List.mem_append] at member
    rcases member with here | later
    · split at here
      · cases List.mem_singleton.mp here
        have kind : fileType = .directory := kind
        subst kind
        exact ⟨[name], Nat.succ_le_succ (Nat.zero_le room), .entry ‹_›,
          (pathBelow_singleton parent name).symm⟩
      · cases here
    · obtain ⟨names, few, within, path⟩ := ih later
      exact ⟨names, few, .pastEntry within, path⟩
  | directory name contents rest inner after =>
    rw [walkListing, List.mem_append] at member
    rcases member with here | later
    · split at here
      · rcases List.mem_cons.mp here with self | below
        · cases self
          exact ⟨[name], Nat.succ_le_succ (Nat.zero_le room), .directory ‹_›,
            (pathBelow_singleton parent name).symm⟩
        · split at below
          · cases below
          · obtain ⟨names, few, within, path⟩ := inner below
            refine ⟨name :: names, ?_, .inside ‹_› within, ?_⟩
            · rw [List.length_cons]
              omega
            · rw [path, pathBelow_cons]
              rfl
      · cases here
    · obtain ⟨names, few, within, path⟩ := after later
      exact ⟨names, few, .pastDirectory within, path⟩

/-- A walk comes past every directory within its reach. -/
private theorem mem_of_within {room : Nat} {parent : OsText} {listing : Listing}
    {names : List OsText} (within : Within keep parent listing names)
    (few : names.length ≤ room + 1) :
    ∃ entry, some entry ∈ walkListing keep room parent listing ∧
      entry.fileType = .directory ∧ entry.path = pathBelow parent names := by
  induction within generalizing room with
  | entry kept =>
    refine ⟨child _ _ .directory, ?_, rfl, (pathBelow_singleton _ _).symm⟩
    rw [walkListing, if_pos kept]
    exact List.mem_append_left _ List.mem_cons_self
  | directory kept =>
    refine ⟨child _ _ .directory, ?_, rfl, (pathBelow_singleton _ _).symm⟩
    rw [walkListing, if_pos kept]
    exact List.mem_append_left _ List.mem_cons_self
  | inside kept inner ih =>
    have occupied := List.length_pos_iff.mpr inner.ne_nil
    rw [List.length_cons] at few
    have closer : _ ≤ (room - 1) + 1 := Nat.le_trans (Nat.le_of_lt_succ few) (by omega)
    obtain ⟨entry, member, kind, path⟩ := ih closer
    refine ⟨entry, ?_, kind, ?_⟩
    · rw [walkListing, if_pos kept, if_neg (by omega)]
      exact List.mem_append_left _ (List.mem_cons_of_mem _ member)
    · rw [path, pathBelow_cons]
  | pastError later ih =>
    obtain ⟨entry, member, rest⟩ := ih few
    exact ⟨entry, List.mem_cons_of_mem _ member, rest⟩
  | pastEntry later ih =>
    obtain ⟨entry, member, rest⟩ := ih few
    exact ⟨entry, List.mem_append_right _ member, rest⟩
  | pastDirectory later ih =>
    obtain ⟨entry, member, rest⟩ := ih few
    exact ⟨entry, List.mem_append_right _ member, rest⟩

/-- The directories that the daemon's walk from a path comes past. -/
theorem mem_secure_walk_iff (path : OsText) (target : Target) (found : OsText) :
    (∃ entry, some entry ∈ walkTarget secureOptions keep path target ∧
        entry.fileType = .directory ∧ entry.path = found) ↔
      ∃ names, names.length ≤ 20 ∧ Stands keep path target names ∧
        found = pathBelow path names := by
  have start : pathBelow path [] = path := List.append_nil path
  cases target with
  | absent => simp [walkTarget, Stands]
  | object fileType =>
    constructor
    · rintro ⟨entry, member, kind, rfl⟩
      rw [walkTarget] at member
      split at member
      · cases List.mem_singleton.mp member
        have kind : fileType = .directory := kind
        subst kind
        exact ⟨[], Nat.zero_le _, ⟨⟨rfl, ‹_›⟩, rfl⟩, start.symm⟩
      · cases member
    · rintro ⟨names, _, ⟨⟨rfl, kept⟩, rfl⟩, rfl⟩
      refine ⟨⟨path, lastComponent path, .directory⟩, ?_, rfl, start.symm⟩
      rw [walkTarget, if_pos kept]
      exact List.mem_cons_self
  | directory contents =>
    constructor
    · rintro ⟨entry, member, kind, rfl⟩
      rw [walkTarget] at member
      split at member
      · rcases List.mem_cons.mp member with self | below
        · cases self
          exact ⟨[], Nat.zero_le _, ⟨‹_›, .inl rfl⟩, start.symm⟩
        · obtain ⟨names, few, within, shape⟩ := within_of_mem below kind
          exact ⟨names, few, ⟨‹_›, .inr within⟩, shape⟩
      · cases member
    · rintro ⟨names, few, ⟨kept, place⟩, rfl⟩
      rcases place with rfl | within
      · refine ⟨⟨path, lastComponent path, .directory⟩, ?_, rfl, start.symm⟩
        rw [walkTarget, if_pos kept]
        exact List.mem_cons_self
      · obtain ⟨entry, member, rest⟩ := mem_of_within within few
        refine ⟨entry, ?_, rest⟩
        rw [walkTarget, if_pos kept]
        exact List.mem_cons_of_mem _ member
  | linkToDirectory contents =>
    constructor
    · rintro ⟨entry, member, kind, rfl⟩
      rw [walkTarget, List.mem_append] at member
      rcases member with self | below
      · split at self
        · cases List.mem_singleton.mp self
          cases kind
        · cases self
      · obtain ⟨names, few, within, shape⟩ := within_of_mem below kind
        exact ⟨names, few, within, shape⟩
    · rintro ⟨names, few, within, rfl⟩
      obtain ⟨entry, member, rest⟩ := mem_of_within within few
      refine ⟨entry, ?_, rest⟩
      rw [walkTarget]
      exact List.mem_append_right _ member

end Walks

section Scan

/-- A directory at most twenty levels below a target path, such that no directory from there down
to it is hidden from the scan. -/
def Reached (forest : Forest) (w : DynamicWatchlist) (found : OsText) : Prop :=
  ∃ path ∈ targets w.targetPaths, ∃ names, names.length ≤ 20 ∧
    Stands (keepEntry w.ignoreHidden w.allowHidden) path (forest.target path) names ∧
    found = pathBelow path names

theorem mem_scannedIds_iff {forest : Forest} {w : DynamicWatchlist}
    (directories : w.entryType = .directory) (id : DirId) :
    id ∈ scannedIds forest.fs (targets w.targetPaths) w.entryType w.ignoreHidden w.allowHidden ↔
      ∃ path, Reached forest w path ∧ idAt forest.fs path = some id := by
  have matching (entry : DirEntry) :
      w.entryType.isMatch entry = true ↔ entry.fileType = .directory := by
    rw [directories]
    exact beq_iff_eq
  simp only [scannedIds, counted, List.mem_filterMap, List.mem_flatMap, List.mem_filter, matching,
    Reached]
  constructor
  · rintro ⟨entry, ⟨path, listed, ⟨some_entry, member, rfl⟩, kind⟩, same⟩
    refine ⟨entry.path, ⟨path, listed, ?_⟩, same⟩
    exact (mem_secure_walk_iff path _ _).mp ⟨entry, member, kind, rfl⟩
  · rintro ⟨found, ⟨path, listed, reached⟩, same⟩
    obtain ⟨entry, member, kind, rfl⟩ := (mem_secure_walk_iff path _ _).mpr reached
    exact ⟨entry, ⟨path, listed, ⟨some entry, member, rfl⟩, kind⟩, same⟩

variable (host : Host) (forest : Forest) (w : DynamicWatchlist) (pick : Nat)

private theorem capacity_toNat
    (few : (counted host.fs (targets w.targetPaths) w.entryType w.ignoreHidden
      w.allowHidden).length < 2 ^ 31) :
    (w.capacity host).toNat = max
      ((counted host.fs (targets w.targetPaths) w.entryType w.ignoreHidden
          w.allowHidden).length +
        (counted host.fs (targets w.targetPaths) w.entryType w.ignoreHidden
          w.allowHidden).length / 4)
      w.minCapacity.toNat := calculateDynamicCapacity_toNat few w.minCapacity

private theorem populate_exact (few : (counted host.fs (targets w.targetPaths) w.entryType
      w.ignoreHidden w.allowHidden).length < 2 ^ 31) (positive : 0 < (w.capacity host).toNat) :
    ∃ m, execute (w.populate host (updateProtectedDirs host.endian pick))
        (.empty protectedDirsType (w.capacity host).toNat positive) = (.ok (), m) ∧
      Holds (w.capacity host).toNat (scannedIds host.fs (targets w.targetPaths) w.entryType
        w.ignoreHidden w.allowHidden) m ∧ m.policy = protectedDirsType := by
  have capacity := capacity_toNat host w few
  have within := length_scannedIds_le host.fs (targets w.targetPaths) w.entryType w.ignoreHidden
    w.allowHidden
  have fresh : Holds (w.capacity host).toNat []
      (.empty protectedDirsType (w.capacity host).toNat positive) :=
    ⟨fun id => BoundedMap.lookup_empty .., rfl⟩
  have adds : Adds (w.capacity host).toNat (scannedIds host.fs (targets w.targetPaths) w.entryType
      w.ignoreHidden w.allowHidden) (w.populate host (updateProtectedDirs host.endian pick)) :=
    adds_populateMapFromPaths _ _ _ _ _ _
  obtain ⟨m, done, held, mapType⟩ := adds [] _ fresh (by rw [List.length_nil]; omega)
  rw [List.append_nil] at held
  exact ⟨m, done, held, mapType⟩

/-- The skeleton of a module whose one watchlist is the kernel's. -/
def provider : MapProvider ProtectedDirs := fun name =>
  if name = w.mapName then .ok (updateProtectedDirs host.endian pick)
  else .error s!"Map {name} not found"

/-- A module declares a watchlist of directories and nothing else. -/
structure Declares (d : Declaration ProtectedDirs) (w : DynamicWatchlist) : Prop where
  dynamic : d.dynamicWatchlist = some w
  xattr : d.xattrWatchlist = none
  capacities : d.capacities = none
  init : d.init = none
  directories : w.entryType = .directory
  positive : 0 < w.minCapacity.toNat

/-- The `init` of such a module succeeds on a fresh map of the capacity it asked for, and leaves
in it the ids of the scan. -/
theorem runInit_holds {d : Declaration ProtectedDirs} (declares : Declares d w)
    (few : (counted host.fs (targets w.targetPaths) w.entryType w.ignoreHidden
      w.allowHidden).length < 2 ^ 31) :
    (d.mapCapacities host).lookup w.mapName = some (w.capacity host) ∧
      ∃ (positive : 0 < (w.capacity host).toNat) (m : ProtectedDirs),
        execute (d.runInit host (provider host w pick))
          (.empty protectedDirsType (w.capacity host).toNat positive) = (.ok (), m) ∧
        Holds (w.capacity host).toNat (scannedIds host.fs (targets w.targetPaths) w.entryType
          w.ignoreHidden w.allowHidden) m ∧ m.policy = protectedDirsType := by
  have positive : 0 < (w.capacity host).toNat := by
    rw [capacity_toNat host w few]
    exact Nat.lt_of_lt_of_le declares.positive (Nat.le_max_right _ _)
  obtain ⟨m, done, held⟩ := populate_exact host w pick few positive
  have given : provider host w pick w.mapName = .ok (updateProtectedDirs host.endian pick) :=
    if_pos rfl
  refine ⟨?_, positive, m, ?_, held⟩
  · rw [Declaration.mapCapacities, declares.xattr, declares.dynamic, declares.capacities]
    exact List.lookup_cons_self
  · rw [Declaration.runInit, declares.xattr, declares.dynamic, declares.init]
    simp only [execute_bind, execute_pure, execute_getMap, given, done]

/-- The boot of such a module, which exec_block and rename_entropy are: its `init` never fails on
a fresh map of the capacity it asked for; a directory is protected afterwards exactly if the scan
reached it and could open it, so that nothing deeper, and nothing behind a hidden name that is
not allowed, is; and a quarter of the entries counted is left free. -/
theorem boot_scan_exact {d : Declaration ProtectedDirs} (declares : Declares d w)
    (same : host.fs = forest.fs)
    (few : (counted host.fs (targets w.targetPaths) w.entryType w.ignoreHidden
      w.allowHidden).length < 2 ^ 31) :
    ∃ capacity, (d.mapCapacities host).lookup w.mapName = some capacity ∧
      ∃ (positive : 0 < capacity.toNat) (m : ProtectedDirs),
        execute (d.runInit host (provider host w pick))
          (.empty protectedDirsType capacity.toNat positive) = (.ok (), m) ∧
        (∀ id, Protected m id ↔ ∃ path, Reached forest w path ∧ idAt forest.fs path = some id) ∧
        m.size + (counted host.fs (targets w.targetPaths) w.entryType w.ignoreHidden
          w.allowHidden).length / 4 ≤ m.maxEntries := by
  obtain ⟨capacity, positive, m, done, held, _⟩ := runInit_holds host w pick declares few
  refine ⟨w.capacity host, capacity, positive, m, done, ?_, ?_⟩
  · intro id
    rw [held.protected_iff, same, mem_scannedIds_iff declares.directories]
  · have small := held.size_le
    have within := length_scannedIds_le host.fs (targets w.targetPaths) w.entryType
      w.ignoreHidden w.allowHidden
    have asked := capacity_toNat host w few
    rw [held.maxEntries]
    omega

end Scan

def execBlockWatchlist : DynamicWatchlist where
  mapName := "protected_dirs"
  targetPaths := ["/tmp", "/var/tmp", "/dev/shm", "/var/crash", "/dev/mqueue", "/run/user"]
  entryType := .directory
  minCapacity := 8192
  ignoreHidden := false
  allowHidden := []

/-- A forest in which every target path holds the same few entries. -/
theorem boot_scan_exact_sample :
    ∃ m : ProtectedDirs, (∀ id, Protected m id ↔
      ∃ path, Reached Daemon.Sizing.smallForest execBlockWatchlist path ∧
        idAt Daemon.Sizing.smallForest.fs path = some id) := by
  obtain ⟨_, _, _, m, _, protects, _⟩ := boot_scan_exact Daemon.Sizing.smallHost
    Daemon.Sizing.smallForest execBlockWatchlist 0 (d := execBlock ProtectedDirs)
    ⟨rfl, rfl, rfl, rfl, rfl, by decide⟩ rfl (by decide)
  exact ⟨m, protects⟩

end BouclierBleu.Watchlist.BootScan
