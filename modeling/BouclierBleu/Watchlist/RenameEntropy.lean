/- GID: BouclierBleu/Watchlist/RenameEntropy
   source: bpf/rename_entropy.bpf.c
   digest: The hook that kills renames to high-entropy names at the border of the watchlist. -/

import BouclierBleu.Kernel.AlertStructs
import BouclierBleu.Kernel.VfsHelpers
import Mathlib.Logic.Function.Basic

set_option autoImplicit false
set_option relaxedAutoImplicit false

namespace BouclierBleu.Watchlist.RenameEntropy

open BouclierBleu.Kernel.AlertStructs (RenameAlert)
open BouclierBleu.Kernel.ModuleCore (isModuleActive EPERM SIGKILL Outcome CStr Task)
open BouclierBleu.Kernel.VfsHelpers

def NAME_MAX : Nat := 255

def ENTROPY_THRESHOLD_SCALED : UInt32 := 4300

def scaledLog2 : List UInt32 :=
  [0, 0, 1024, 1623, 2048, 2377, 2647, 2874, 3072, 3246, 3401, 3542, 3671, 3790, 3900, 4004,
    4100, 4191, 4276, 4356, 4432, 4504, 4572, 4638, 4700, 4760, 4817, 4872, 4925, 4976, 5026,
    5074, 5120, 5164, 5208, 5250, 5291, 5332, 5371, 5410, 5448, 5485, 5521, 5557, 5592, 5626,
    5660, 5693, 5726, 5758, 5789, 5820, 5851, 5881, 5910, 5939, 5968, 5996, 6024, 6052, 6079,
    6106, 6132, 6158, 6184, 6209, 6234, 6259, 6283, 6307, 6331, 6355, 6378, 6401, 6424, 6446,
    6468, 6490, 6512, 6533, 6555, 6576, 6596, 6617, 6638, 6658, 6678, 6698, 6718, 6737, 6757,
    6776, 6795, 6814, 6833, 6851, 6870, 6888, 6906, 6924, 6942, 6960, 6977, 6995, 7012, 7029,
    7046, 7063, 7080, 7096, 7113, 7129, 7145, 7161, 7177, 7193, 7209, 7224, 7240, 7255, 7270,
    7285, 7300, 7315, 7330, 7345, 7359, 7374, 7388, 7402, 7416, 7430, 7444, 7458, 7472, 7486,
    7499, 7513, 7526, 7540, 7553, 7566, 7579, 7592, 7605, 7618, 7631, 7643, 7656, 7668, 7681,
    7693, 7705, 7718, 7730, 7742, 7754, 7766, 7778, 7789, 7801, 7813, 7824, 7836, 7847, 7859,
    7870, 7881, 7892, 7903, 7914, 7925, 7936, 7947, 7958, 7969, 7979, 7990, 8000, 8011, 8021,
    8032, 8042, 8052, 8062, 8072, 8083, 8093, 8103, 8113, 8123, 8132, 8142, 8152, 8162, 8171,
    8181, 8191, 8200, 8210, 8219, 8229, 8238, 8247, 8257, 8266, 8275, 8284, 8294, 8303, 8312,
    8321, 8330, 8339, 8348, 8356, 8365, 8374, 8383, 8392, 8400, 8409, 8418, 8426, 8435, 8443,
    8452, 8460, 8469, 8477, 8485, 8494, 8502, 8510, 8518, 8527, 8535, 8543, 8551, 8559, 8567,
    8575, 8583, 8591, 8599, 8607, 8615, 8622, 8630, 8638, 8646, 8653, 8661, 8669, 8676, 8684]

/-- `scaled_log2[i]` for an index below 256. -/
def scaledLog2At (i : Nat) : UInt32 := scaledLog2.getD i 0

/-- `struct entropy_scratch` after the name was copied in: the name up to its NUL. Every later
byte of the 256 is zero, and so is every count. -/
abbrev ScratchName := CStr 256

/-- `scratch->name[i & 0xFF]` -/
def nameAt (name : ScratchName) (i : Nat) : UInt8 := name.bytes.getD (i % 256) 0

/-- `calculate_character_counts`, in 8-bit cells. -/
def calculateCharacterCounts (name : ScratchName) : UInt8 → UInt8 :=
  (name.bytes.take NAME_MAX).foldl (fun counts c => Function.update counts c (counts c + 1))
    fun _ => 0

def computeEntropy (counts : UInt8 → UInt8) : UInt32 :=
  (List.range 256).foldl
    (fun sum i =>
      let c := counts (UInt8.ofNat i)
      if c == 0 then sum else sum + c.toUInt32 * scaledLog2At c.toNat) 0

def dotPos (name : ScratchName) (nlen : Nat) : Option Nat :=
  ((List.range 8).find? fun i =>
    i < nlen && nameAt name (nlen - 1 - i) == '.'.toNat.toUInt8).map fun i => nlen - 1 - i

def extensionIs (name : ScratchName) (dot : Nat) (ext : String) : Bool :=
  [nameAt name (dot + 1), nameAt name (dot + 2), nameAt name (dot + 3)] == CStr.literal ext

/-- The extension whitelist, in `#pragma unroll` order. -/
def whitelisted (name : ScratchName) (originalNlen : UInt32) (nlen : Nat) : Bool :=
  if originalNlen ≥ 4 && originalNlen ≤ 255 then
    match dotPos name nlen with
    | none => false
    | some dot =>
      dot > 0 && originalNlen - UInt32.ofNat dot ≤ 5 &&
        ["log", "git", "tmp", "swp"].any (extensionIs name dot)
  else false

/-- The score of a name of length `nlen`, in 1024ths of a bit. -/
def hScaled (name : ScratchName) (nlen : Nat) : UInt32 :=
  let sumCLogC := computeEntropy (calculateCharacterCounts name)
  let safeNlen := if nlen > 0 then nlen else 1
  let maximum := scaledLog2At (safeNlen % 256)
  let average := sumCLogC / UInt32.ofNat safeNlen
  if maximum > average then maximum - average else 0

/-- `struct qstr` of a dentry: the recorded length and the bytes at the name pointer. -/
structure Qstr where
  len : UInt32
  name : List UInt8

structure Maps where
  stateMap : Option UInt32
  protectedDirs : ProtectedDirs
  scratchAvailable : Bool

/-- What the alert's `dir_path` holds: the resolved path, or what the ring buffer record held
before when there is no path buffer or `bpf_d_path` fails. -/
def dirPath (record : List UInt8) (resolved : Option (List UInt8)) : CStr 4096 :=
  match resolved with
  | some path => .copy 4096 CStr.pathLen_pos path
  | none => .copy 4096 CStr.pathLen_pos record

/-- The entry of a directory counts unless it is absent or zero. -/
def watched (protectedDirs : ProtectedDirs) (id : DirId) : Bool :=
  match protectedDirs.lookup id with
  | none => false
  | some value => value != 0

/-- `rename_entropy_path_rename`; `record` is `none` when the ring buffer has no room. -/
def renameEntropyPathRename (maps : Maps) (record : Option (List UInt8)) (task : Task)
    (ppid : UInt32) (resolved : Option (List UInt8)) (oldDir newDir : Dentry) (newName : Qstr) :
    Outcome RenameAlert :=
  if !isModuleActive maps.stateMap then .quiet 0
  else if !maps.scratchAvailable then .quiet 0
  else if !watched maps.protectedDirs (extractDirIdFromDentry oldDir) &&
      !watched maps.protectedDirs (extractDirIdFromDentry newDir) then .quiet 0
  else
    let originalNlen := newName.len
    let nlen := if originalNlen > 255 then 255 else originalNlen.toNat
    if nlen < 8 || nlen > NAME_MAX then .quiet 0
    else
      let name : ScratchName := .copy 256 CStr.nameLen_pos newName.name
      if whitelisted name originalNlen nlen then .quiet 0
      else if hScaled name nlen > ENTROPY_THRESHOLD_SCALED then
        { ret := -EPERM
          alerts :=
            match record with
            | some record => [⟨task.tgid, ppid, dirPath record resolved, name⟩]
            | none => []
          signals := [SIGKILL] }
      else .quiet 0

section Verdict

variable {maps : Maps} {record : Option (List UInt8)} {task : Task} {ppid : UInt32}
  {resolved : Option (List UInt8)}

/-- The hook reads nothing off the watchlist but the entries of the two directories. -/
theorem renameEntropyPathRename_congr (maps : Maps) {other : ProtectedDirs}
    (same : ∀ id, maps.protectedDirs.lookup id = other.lookup id) (oldDir newDir : Dentry)
    (newName : Qstr) :
    renameEntropyPathRename maps record task ppid resolved oldDir newDir newName =
      renameEntropyPathRename { maps with protectedDirs := other } record task ppid resolved
        oldDir newDir newName := by
  simp only [renameEntropyPathRename, watched, same]

def randomName : Qstr := ⟨19, CStr.literal "qwertyuiopasdfghjkl"⟩

private theorem randomName_not_whitelisted :
    whitelisted (.copy 256 CStr.nameLen_pos randomName.name) randomName.len 19 = false := by
  decide

private theorem randomName_hScaled :
    hScaled (.copy 256 CStr.nameLen_pos randomName.name) 19 = 4356 := by
  decide +kernel

/-- A rename to such a name within one directory is denied exactly if that directory is
watched. -/
theorem denied_randomName_iff (enabled : isModuleActive maps.stateMap = true)
    (scratch : maps.scratchAvailable = true) (dir : Dentry) :
    (renameEntropyPathRename maps record task ppid resolved dir dir randomName).Denied ↔
      watched maps.protectedDirs (extractDirIdFromDentry dir) = true := by
  unfold renameEntropyPathRename
  cases inside : watched maps.protectedDirs (extractDirIdFromDentry dir) with
  | false => simp [enabled, scratch]
  | true =>
    have length : (if randomName.len > 255 then 255 else randomName.len.toNat) = 19 := by decide
    have high : (4356 : UInt32) > ENTROPY_THRESHOLD_SCALED := by decide
    simp [enabled, scratch, length, NAME_MAX, randomName_not_whitelisted, randomName_hScaled,
      high, Outcome.Denied, EPERM]

end Verdict

end BouclierBleu.Watchlist.RenameEntropy
