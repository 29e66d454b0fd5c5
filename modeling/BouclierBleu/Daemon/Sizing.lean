/- GID: BouclierBleu/Daemon/Sizing
   source: modules/src/common/fs_utils.rs
   digest: What a population inserts fits into the map that the sizing pass asked for. -/

import BouclierBleu.Daemon.Forests
import BouclierBleu.Daemon.SecurityModules
import Mathlib.Data.Finset.Card

set_option autoImplicit false
set_option relaxedAutoImplicit false

namespace BouclierBleu.Daemon.Sizing

open BouclierBleu.Daemon.Forests (Forest)
open BouclierBleu.Daemon.FsUtils
open BouclierBleu.Daemon.SecurityModules
open BouclierBleu.Kernel.AlertStructs (Endian)
open BouclierBleu.Kernel.ModuleCore (CStr)
open BouclierBleu.Library.Doubles

/-- The entries the sizing pass counts. -/
def counted (fs : Fs) (targetPaths : List OsText) (entryType : EntryType) (ignoreHidden : Bool)
    (allowHidden : List String) : List DirEntry :=
  targetPaths.flatMap fun path =>
    ((fs.filterEntry secureOptions path (keepEntry ignoreHidden allowHidden)).filterMap id).filter
      entryType.isMatch

section Capacity

/-- Counting the matches in an `i32`. -/
private theorem foldl_count {A : Type} (p : A → Bool) (entries : List A) (start : Int32) :
    entries.foldl (fun count entry => if p entry then count + 1 else count) start =
      start + Int32.ofNat (entries.filter p).length := by
  induction entries generalizing start with
  | nil => exact (Int32.add_zero start).symm
  | cons entry entries ih =>
    rw [List.foldl_cons, ih]
    cases matching : p entry with
    | false =>
      rw [List.filter_cons_of_neg (by simp [matching])]
      rfl
    | true =>
      rw [List.filter_cons_of_pos matching, List.length_cons, Int32.ofNat_add, if_pos rfl,
        Int32.add_assoc, Int32.add_comm 1]
      rfl

private theorem foldl_paths {A B : Type} (p : B → Bool) (entriesOf : A → List B) (paths : List A)
    (start : Int32) :
    paths.foldl (fun count path => (entriesOf path).foldl
        (fun count entry => if p entry then count + 1 else count) count) start =
      start + Int32.ofNat (paths.flatMap fun path => (entriesOf path).filter p).length := by
  induction paths generalizing start with
  | nil => exact (Int32.add_zero start).symm
  | cons path paths ih =>
    rw [List.foldl_cons, ih, foldl_count, List.flatMap_cons, List.length_append, Int32.ofNat_add,
      Int32.add_assoc]

/-- The product is exact, and a quarter of the count is what the factor adds. -/
theorem scaleByBuffer_toNat {n : Nat} (few : n < 2 ^ 31) :
    (scaleByBuffer (Int32.ofNat n)).toNat = n + n / 4 := by
  have value : (Int32.ofNat n).toInt = n := Int32.toInt_ofNat_of_lt few
  have positive : ¬ Int32.ofNat n < 0 := by
    rw [Int32.lt_iff_toInt_lt, value]
    exact Int.not_lt.mpr (Int.natCast_nonneg n)
  have exactly : roundSignificand 53 (5 * n) = 5 * n :=
    roundSignificand_of_lt (by omega)
  rw [scaleByBuffer, if_neg positive, value, Int.toNat_natCast, exactly,
    saturateU32_toNat (by omega)]
  omega

/-- The capacity is the count and a quarter of it, or the minimum. -/
theorem calculateDynamicCapacity_toNat {fs : Fs} {targetPaths : List OsText}
    {entryType : EntryType} {ignoreHidden : Bool} {allowHidden : List String}
    (few : (counted fs targetPaths entryType ignoreHidden allowHidden).length < 2 ^ 31)
    (minCapacity : UInt32) :
    (calculateDynamicCapacity fs targetPaths entryType minCapacity ignoreHidden
        allowHidden).toNat =
      max ((counted fs targetPaths entryType ignoreHidden allowHidden).length +
        (counted fs targetPaths entryType ignoreHidden allowHidden).length / 4)
        minCapacity.toNat := by
  have sum := foldl_paths entryType.isMatch
    (fun path => (fs.filterEntry secureOptions path (keepEntry ignoreHidden allowHidden)).filterMap
      id) targetPaths 0
  have largest (a b : UInt32) : (max a b).toNat = max a.toNat b.toNat := by
    show (if a ≤ b then b else a).toNat = max a.toNat b.toNat
    by_cases ordered : a ≤ b
    · rw [if_pos ordered, Nat.max_eq_right (UInt32.le_iff_toNat_le.mp ordered)]
    · have above : ¬ a.toNat ≤ b.toNat := ordered
      rw [if_neg ordered, Nat.max_eq_left (Nat.le_of_not_le above)]
  rw [calculateDynamicCapacity]
  simp only []
  rw [sum, Int32.zero_add, largest]
  exact congrArg (max · minCapacity.toNat) (scaleByBuffer_toNat few)

end Capacity

section Log

variable {M A : Type}

/-- A map that also keeps the keys it took. -/
def logged (map : Update M) : Update (M × List Key) := fun key state =>
  match map key state.1 with
  | .ok m => .ok (m, key :: state.2)
  | .error e => .error e

/-- The keys a population adds to the log are at most so many, wherever it stops. -/
def InsertsAtMost (n : Nat) (population : Populating (M × List Key) Unit) : Prop :=
  ∀ m log, ∃ added : List Key, added.length ≤ n ∧
    (execute population (m, log)).2.2 = added ++ log

theorem insertsAtMost_pure {n : Nat} :
    InsertsAtMost n (pure () : Populating (M × List Key) Unit) :=
  fun _ _ => ⟨[], Nat.zero_le n, rfl⟩

theorem insertsAtMost_updateMap (map : Update M) (describe : String → String) (key : Key) :
    InsertsAtMost 1 (updateMap (logged map) describe key) := by
  intro m log
  rw [execute_updateMap, logged]
  cases map key m with
  | ok m' => exact ⟨[key], Nat.le_refl 1, rfl⟩
  | error e => exact ⟨[], Nat.zero_le 1, rfl⟩

/-- What follows a failure inserts nothing more. -/
theorem InsertsAtMost.bind {n k : Nat} {first second : Populating (M × List Key) Unit}
    (before : InsertsAtMost n first) (after : InsertsAtMost k second) :
    InsertsAtMost (n + k) (first >>= fun _ => second) := by
  intro m log
  obtain ⟨added, few, result⟩ := before m log
  rw [execute_bind]
  cases shape : execute first (m, log) with
  | mk answer state =>
    rw [shape] at result
    cases answer with
    | error e => exact ⟨added, Nat.le_add_right_of_le few, result⟩
    | ok u =>
      obtain ⟨more, fewMore, final⟩ := after state.1 state.2
      refine ⟨more ++ added, ?_, ?_⟩
      · rw [List.length_append]
        omega
      · have kept : state.2 = added ++ log := result
        rw [List.append_assoc, ← kept]
        exact final

/-- A loop inserts at most one key for each element that its body may insert one for. -/
theorem insertsAtMost_forM {p : A → Bool} {body : A → Populating (M × List Key) Unit}
    (one : ∀ a, p a = true → InsertsAtMost 1 (body a))
    (nothing : ∀ a, p a = false → InsertsAtMost 0 (body a)) (l : List A) :
    InsertsAtMost (l.filter p).length (l.forM body) := by
  induction l with
  | nil => exact insertsAtMost_pure
  | cons a l ih =>
    show InsertsAtMost _ (body a >>= fun _ => l.forM body)
    cases may : p a with
    | true =>
      rw [List.filter_cons_of_pos may, List.length_cons, Nat.add_comm]
      exact (one a may).bind ih
    | false =>
      rw [List.filter_cons_of_neg (by simp [may]), ← Nat.zero_add (List.filter p l).length]
      exact (nothing a may).bind ih

theorem insertsAtMost_forM_flatMap {B : Type} {entriesOf : A → List B}
    {body : A → Populating (M × List Key) Unit}
    (each : ∀ a, InsertsAtMost (entriesOf a).length (body a)) (l : List A) :
    InsertsAtMost (l.flatMap entriesOf).length (l.forM body) := by
  induction l with
  | nil => exact insertsAtMost_pure
  | cons a l ih =>
    rw [List.flatMap_cons, List.length_append]
    exact (each a).bind ih

end Log

section Populate

variable {M : Type} (e : Endian) (fs : Fs) (map : Update M) (targetPaths : List OsText)

theorem insertsAtMost_populateMapFromPaths (entryType : EntryType) (ignoreHidden : Bool)
    (allowHidden : List String) :
    InsertsAtMost (counted fs targetPaths entryType ignoreHidden allowHidden).length
      (populateMapFromPaths e fs (logged map) targetPaths entryType ignoreHidden allowHidden) := by
  refine insertsAtMost_forM_flatMap (fun path => ?_) targetPaths
  refine insertsAtMost_forM (fun entry matching => ?_) (fun entry matching => ?_) _
  · rw [matching]
    cases getSecureHardwareKey e fs entry.path with
    | none => exact insertsAtMost_pure
    | some key => exact insertsAtMost_updateMap map _ key
  · rw [matching]
    exact insertsAtMost_pure

/-- Here the two passes differ: the filter of the sizing pass keeps everything. -/
theorem insertsAtMost_populateMapFromXattr (mapName xattrName : String) :
    InsertsAtMost (counted fs targetPaths .file false []).length
      (populateMapFromXattr e fs (logged map) mapName targetPaths xattrName) := by
  refine insertsAtMost_forM_flatMap (fun path => ?_) targetPaths
  rw [fs.filterEntry_all secureOptions path (keepEntry false []) fun _ => rfl]
  refine insertsAtMost_forM (fun entry matching => ?_) (fun entry matching => ?_) _
  · have regular : (entry.fileType == .file) = true := matching
    rw [if_pos regular]
    cases optedInKey e fs xattrName entry.path with
    | none => exact insertsAtMost_pure
    | some key => exact insertsAtMost_updateMap map _ key
  · have irregular : ¬ (entry.fileType == .file) = true := Bool.eq_false_iff.mp matching
    rw [if_neg irregular]
    exact insertsAtMost_pure

end Populate

/-- The distinct keys a population puts into a map, whichever of its updates fail. -/
def insertedKeys {M : Type} (population : Populating (M × List Key) Unit) (m : M) : Finset Key :=
  (execute population (m, [])).2.2.toFinset

theorem card_insertedKeys_le {M : Type} {n : Nat} {population : Populating (M × List Key) Unit}
    (bounded : InsertsAtMost n population) (m : M) : (insertedKeys population m).card ≤ n := by
  obtain ⟨added, few, log⟩ := bounded m []
  rw [insertedKeys, log, List.append_nil]
  exact (List.toFinset_card_le added).trans few

section Fits

variable (e : Endian) {fs : Fs} {targetPaths : List OsText} (minCapacity : UInt32) {M : Type}
  (map : Update M) (m : M)

theorem populateMapFromPaths_fits {entryType : EntryType} {ignoreHidden : Bool}
    {allowHidden : List String}
    (few : (counted fs targetPaths entryType ignoreHidden allowHidden).length < 2 ^ 31) :
    (insertedKeys (populateMapFromPaths e fs (logged map) targetPaths entryType ignoreHidden
          allowHidden) m).card +
        (counted fs targetPaths entryType ignoreHidden allowHidden).length / 4 ≤
          (calculateDynamicCapacity fs targetPaths entryType minCapacity ignoreHidden
            allowHidden).toNat ∧
      minCapacity ≤ calculateDynamicCapacity fs targetPaths entryType minCapacity ignoreHidden
        allowHidden := by
  have keys := card_insertedKeys_le
    (insertsAtMost_populateMapFromPaths e fs map targetPaths entryType ignoreHidden allowHidden) m
  rw [UInt32.le_iff_toNat_le, calculateDynamicCapacity_toNat few]
  omega

theorem populateMapFromXattr_fits (mapName xattrName : String)
    (few : (counted fs targetPaths .file false []).length < 2 ^ 31) :
    (insertedKeys (populateMapFromXattr e fs (logged map) mapName targetPaths xattrName) m).card +
        (counted fs targetPaths .file false []).length / 4 ≤
          (calculateDynamicCapacity fs targetPaths .file minCapacity false []).toNat ∧
      minCapacity ≤ calculateDynamicCapacity fs targetPaths .file minCapacity false [] := by
  have keys := card_insertedKeys_le
    (insertsAtMost_populateMapFromXattr e fs map targetPaths mapName xattrName) m
  rw [UInt32.le_iff_toNat_le, calculateDynamicCapacity_toNat few]
  omega

end Fits

/-- On a filesystem that does not change, and with fewer than 2^31 entries to count, either kind
of watchlist takes in no more distinct keys than the capacity its module asks for, a quarter of
the count stays free, and the capacity is at least the minimum. -/
theorem watchlists_fit (host : Host) (dynamic : DynamicWatchlist) (xattr : XattrWatchlist)
    {M : Type} (map : Update M) (m : M) :
    (∀ count, count = (counted host.fs (targets dynamic.targetPaths) dynamic.entryType
          dynamic.ignoreHidden dynamic.allowHidden).length → count < 2 ^ 31 →
        (insertedKeys (dynamic.populate host (logged map)) m).card + count / 4 ≤
            (dynamic.capacity host).toNat ∧
          dynamic.minCapacity ≤ dynamic.capacity host) ∧
      (∀ count, count = (counted host.fs (targets xattr.targetPaths) .file false []).length →
        count < 2 ^ 31 →
        (insertedKeys (xattr.populate host (logged map)) m).card + count / 4 ≤
            (xattr.capacity host).toNat ∧
          2048 ≤ xattr.capacity host) := by
  constructor
  · rintro count rfl few
    exact populateMapFromPaths_fits host.endian dynamic.minCapacity map m few
  · rintro count rfl few
    exact populateMapFromXattr_fits host.endian 2048 map m xattr.mapName xattr.xattrName few

/-- A directory with a hidden one, a file and a subdirectory below it. -/
def smallForest : Forest where
  target _ := .directory (.directory (CStr.literal ".ssh") .done
    (.entry (CStr.literal "notes") .file (.directory (CStr.literal "work") .done .done)))
  openPath path := some (some ⟨UInt64.ofNat path.length, 2049⟩)
  openRead _ := none

def homes : DynamicWatchlist := ⟨"protected_dirs", ["/home"], .directory, 2, true, [".ssh"]⟩

/-- A map that takes every key. -/
def acceptAll : Update Unit := fun _ m => .ok m

def smallHost : Host := ⟨.little, smallForest.fs, ⟨false, 0, none⟩, none⟩

/-- The three directories get two distinct keys. -/
theorem watchlists_fit_sample :
    (insertedKeys (homes.populate smallHost (logged acceptAll)) ()).card + 3 / 4 ≤
      (homes.capacity smallHost).toNat := by
  have count : 3 = (counted smallHost.fs (targets homes.targetPaths) homes.entryType
      homes.ignoreHidden homes.allowHidden).length := by
    decide
  have fits := (watchlists_fit smallHost homes ⟨"binaries", "user.any", ["/home"]⟩ acceptAll ()).1
  exact (fits 3 count (by decide)).1

end BouclierBleu.Daemon.Sizing
