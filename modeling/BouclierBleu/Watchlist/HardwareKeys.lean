/- GID: BouclierBleu/Watchlist/HardwareKeys
   source: modules/src/common/fs_utils.rs, bpf/headers/vfs_helpers.h
   digest: The watchlist keys of user space are the bytes of the ids the kernel looks up. -/

import BouclierBleu.Kernel.AlertStructs
import BouclierBleu.Kernel.VfsHelpers
import BouclierBleu.Library.Overwrites
import BouclierBleu.Telemetry.Reader
import Mathlib.Data.UInt

set_option autoImplicit false
set_option relaxedAutoImplicit false

namespace BouclierBleu.Watchlist.HardwareKeys

open BouclierBleu.Kernel.AlertStructs (Endian u32Bytes length_u32Bytes)
open BouclierBleu.Kernel.VfsHelpers
open BouclierBleu.Library.Overwrites (overwrite)
open BouclierBleu.Telemetry.Reader (fromNeBytes_u32Bytes)

/-- The bytes of a `__u64`, which is two words. -/
def u64Bytes (e : Endian) (v : UInt64) : List UInt8 :=
  match e with
  | .little => u32Bytes .little v.toUInt32 ++ u32Bytes .little (v >>> 32).toUInt32
  | .big => u32Bytes .big (v >>> 32).toUInt32 ++ u32Bytes .big v.toUInt32

/-- What `stat` reports of a file, as far as the keys need it. -/
structure Metadata where
  ino : UInt64
  dev : UInt64

def major (userDev : UInt64) : UInt64 :=
  ((userDev >>> 8) &&& (0xfff : UInt64)) ||| ((userDev >>> 32) &&& ~~~(0xfff : UInt64))

def minor (userDev : UInt64) : UInt64 :=
  (userDev &&& (0xff : UInt64)) ||| ((userDev >>> 12) &&& ~~~(0xff : UInt64))

def kernelDev (userDev : UInt64) : UInt32 :=
  ((major userDev).toUInt32 <<< 20) ||| (minor userDev).toUInt32

def generateHardwareKey (e : Endian) (metadata : Metadata) : List UInt8 :=
  let keyBytes := List.replicate 16 0
  let keyBytes := overwrite keyBytes 0 (u64Bytes e metadata.ino)
  overwrite keyBytes 8 (u32Bytes e (kernelDev metadata.dev))

/-- A `struct dir_id` in memory, with its padding word. -/
def dirIdBytes (e : Endian) (id : DirId) : List UInt8 :=
  u64Bytes e id.ino ++ u32Bytes e id.dev ++ u32Bytes e 0

/-- A device number of the kernel, by its two parts. -/
structure Device where
  major : UInt32
  minor : UInt32
  major_lt : major.toNat < 2 ^ 12
  minor_lt : minor.toNat < 2 ^ 20

namespace Device

/-- `s_dev` of the device's superblock. -/
def sDev (device : Device) : UInt32 := device.major * 2 ^ 20 + device.minor

/-- `st_dev` as Linux reports the device to user space. -/
def stDev (device : Device) : UInt64 :=
  (device.minor.toUInt64 &&& (0xff : UInt64)) ||| (device.major.toUInt64 <<< 8) |||
    ((device.minor.toUInt64 &&& ~~~(0xff : UInt64)) <<< 12)

end Device

/-- A file, as the kernel and as user space see it. -/
structure File where
  inode : Inode
  device : Device
  numbered : inode.sb.dev = device.sDev

def File.metadata (file : File) : Metadata := ⟨file.inode.ino, file.device.stDev⟩

section Bits

/-- Clearing the low bits of a word. -/
private theorem and_high {w k x : Nat} (narrow : k ≤ w) (inside : x < 2 ^ w) :
    x &&& (2 ^ w - 2 ^ k) = 2 ^ k * (x / 2 ^ k) := by
  have positive : 0 < 2 ^ k := Nat.two_pow_pos k
  have wide : 2 ^ k ≤ 2 ^ w := Nat.pow_le_pow_right (by decide) narrow
  have mask : 2 ^ w - 2 ^ k = 2 ^ w - ((2 ^ k - 1) + 1) := by omega
  refine Nat.eq_of_testBit_eq fun i => ?_
  rw [mask, Nat.testBit_and, Nat.testBit_two_pow_sub_succ (by omega), Nat.testBit_two_pow_sub_one,
    Nat.testBit_two_pow_mul, Nat.testBit_div_two_pow]
  by_cases low : i < k
  · simp [low]
  · by_cases high : i < w
    · simp [low, high, Nat.le_of_not_lt low, Nat.sub_add_cancel]
    · have zero : x.testBit i = false :=
        Nat.testBit_lt_two_pow (inside.trans_le (Nat.pow_le_pow_right (by decide) (by omega)))
      simp [high, zero, Nat.sub_add_cancel (Nat.le_of_not_lt low)]

private theorem toNat_and_not_0xff (x : UInt64) :
    (x &&& ~~~(0xff : UInt64)).toNat = 2 ^ 8 * (x.toNat / 2 ^ 8) := by
  have narrow : 8 ≤ 64 := by decide
  rw [UInt64.toNat_and]
  exact and_high narrow x.toNat_lt

private theorem toNat_and_not_0xfff (x : UInt64) :
    (x &&& ~~~(0xfff : UInt64)).toNat = 2 ^ 12 * (x.toNat / 2 ^ 12) := by
  have narrow : 12 ≤ 64 := by decide
  rw [UInt64.toNat_and]
  exact and_high narrow x.toNat_lt

private theorem toNat_and_0xff (x : UInt64) : (x &&& (0xff : UInt64)).toNat = x.toNat % 2 ^ 8 := by
  rw [UInt64.toNat_and]
  exact Nat.and_two_pow_sub_one_eq_mod _ 8

private theorem toNat_and_0xfff (x : UInt64) :
    (x &&& (0xfff : UInt64)).toNat = x.toNat % 2 ^ 12 := by
  rw [UInt64.toNat_and]
  exact Nat.and_two_pow_sub_one_eq_mod _ 12

/-- Fields that do not overlap are joined by adding them. -/
private theorem or_eq_add {k low : Nat} (inside : low < 2 ^ k) (high : Nat) :
    low ||| 2 ^ k * high = low + 2 ^ k * high := by
  rw [Nat.or_comm, ← Nat.two_pow_add_eq_or_of_lt inside, Nat.add_comm]

end Bits

section DeviceNumbers

variable (device : Device)

theorem sDev_toNat : device.sDev.toNat = device.major.toNat * 2 ^ 20 + device.minor.toNat := by
  have major := device.major_lt
  have minor := device.minor_lt
  have scale : (2 ^ 20 : UInt32).toNat = 2 ^ 20 := by decide
  rw [Device.sDev, UInt32.toNat_add, UInt32.toNat_mul, scale]
  omega

/-- The low byte of the minor, the major, and the rest of the minor. -/
theorem stDev_toNat : device.stDev.toNat =
    device.minor.toNat % 2 ^ 8 + 2 ^ 8 * device.major.toNat +
      2 ^ 20 * (device.minor.toNat / 2 ^ 8) := by
  have major := device.major_lt
  have minor := device.minor_lt
  have low : device.minor.toNat % 2 ^ 8 < 2 ^ 8 := Nat.mod_lt _ (by decide)
  have middle : device.minor.toNat % 2 ^ 8 + 2 ^ 8 * device.major.toNat < 2 ^ 20 := by omega
  have shiftedMajor : (device.major.toUInt64 <<< 8).toNat = 2 ^ 8 * device.major.toNat := by
    rw [UInt64.toNat_shiftLeft, UInt32.toNat_toUInt64, Nat.shiftLeft_eq]
    show device.major.toNat * 2 ^ 8 % 2 ^ 64 = _
    omega
  have shiftedMinor : ((device.minor.toUInt64 &&& ~~~(0xff : UInt64)) <<< 12).toNat =
      2 ^ 20 * (device.minor.toNat / 2 ^ 8) := by
    rw [UInt64.toNat_shiftLeft, toNat_and_not_0xff, UInt32.toNat_toUInt64, Nat.shiftLeft_eq]
    show 2 ^ 8 * (device.minor.toNat / 2 ^ 8) * 2 ^ 12 % 2 ^ 64 = _
    omega
  rw [Device.stDev, UInt64.toNat_or, UInt64.toNat_or, toNat_and_0xff, UInt32.toNat_toUInt64,
    shiftedMajor, shiftedMinor, or_eq_add low, or_eq_add middle]

theorem major_stDev : (major device.stDev).toNat = device.major.toNat := by
  have number := stDev_toNat device
  have majorLt := device.major_lt
  have minorLt := device.minor_lt
  have shifted : (device.stDev >>> 8).toNat = device.stDev.toNat / 2 ^ 8 := by
    rw [UInt64.toNat_shiftRight, Nat.shiftRight_eq_div_pow]
    rfl
  have far : (device.stDev >>> 32).toNat = device.stDev.toNat / 2 ^ 32 := by
    rw [UInt64.toNat_shiftRight, Nat.shiftRight_eq_div_pow]
    rfl
  have low : device.stDev.toNat / 2 ^ 8 % 2 ^ 12 < 2 ^ 12 := Nat.mod_lt _ (by decide)
  rw [major, UInt64.toNat_or, toNat_and_0xfff, toNat_and_not_0xfff, shifted, far, or_eq_add low]
  omega

theorem minor_stDev : (minor device.stDev).toNat = device.minor.toNat := by
  have number := stDev_toNat device
  have majorLt := device.major_lt
  have minorLt := device.minor_lt
  have shifted : (device.stDev >>> 12).toNat = device.stDev.toNat / 2 ^ 12 := by
    rw [UInt64.toNat_shiftRight, Nat.shiftRight_eq_div_pow]
    rfl
  have low : device.stDev.toNat % 2 ^ 8 < 2 ^ 8 := Nat.mod_lt _ (by decide)
  rw [minor, UInt64.toNat_or, toNat_and_0xff, toNat_and_not_0xff, shifted, or_eq_add low]
  omega

/-- What user space makes of `st_dev` is the kernel's own number. -/
theorem kernelDev_stDev : kernelDev device.stDev = device.sDev := by
  have minorLt := device.minor_lt
  have majorLt := device.major_lt
  rw [← UInt32.toNat_inj, sDev_toNat, kernelDev, UInt32.toNat_or, UInt32.toNat_shiftLeft,
    UInt64.toNat_toUInt32, UInt64.toNat_toUInt32, major_stDev, minor_stDev, Nat.shiftLeft_eq]
  have shifted : device.major.toNat % 2 ^ 32 * 2 ^ ((20 : UInt32).toNat % 32) % 2 ^ 32 =
      2 ^ 20 * device.major.toNat := by
    show device.major.toNat % 2 ^ 32 * 2 ^ 20 % 2 ^ 32 = _
    omega
  have small : device.minor.toNat % 2 ^ 32 = device.minor.toNat := Nat.mod_eq_of_lt (by omega)
  rw [shifted, small, Nat.or_comm, or_eq_add minorLt, Nat.mul_comm, Nat.add_comm]

end DeviceNumbers

section Bytes

@[simp] theorem length_u64Bytes (e : Endian) (v : UInt64) : (u64Bytes e v).length = 8 := by
  cases e <;> simp [u64Bytes]

theorem u32Bytes_inj {e : Endian} {v w : UInt32} : u32Bytes e v = u32Bytes e w ↔ v = w := by
  constructor
  · intro same
    rw [← fromNeBytes_u32Bytes e v, same, fromNeBytes_u32Bytes]
  · intro same
    rw [same]

/-- A 64-bit value is known from its two words. -/
private theorem eq_of_words {v w : UInt64} (low : v.toUInt32 = w.toUInt32)
    (high : (v >>> 32).toUInt32 = (w >>> 32).toUInt32) : v = w := by
  rw [← UInt32.toNat_inj, UInt64.toNat_toUInt32, UInt64.toNat_toUInt32] at low high
  rw [UInt64.toNat_shiftRight, UInt64.toNat_shiftRight, Nat.shiftRight_eq_div_pow,
    Nat.shiftRight_eq_div_pow] at high
  have top : v.toNat / 2 ^ 32 % 2 ^ 32 = w.toNat / 2 ^ 32 % 2 ^ 32 := high
  have vSmall := v.toNat_lt
  have wSmall := w.toNat_lt
  rw [← UInt64.toNat_inj]
  omega

theorem u64Bytes_inj {e : Endian} {v w : UInt64} : u64Bytes e v = u64Bytes e w ↔ v = w := by
  constructor
  · intro same
    cases e with
    | little =>
      have parts := List.append_inj same (by simp)
      exact eq_of_words (u32Bytes_inj.mp parts.1) (u32Bytes_inj.mp parts.2)
    | big =>
      have parts := List.append_inj same (by simp)
      exact eq_of_words (u32Bytes_inj.mp parts.2) (u32Bytes_inj.mp parts.1)
  · intro same
    rw [same]

/-- No two ids share their bytes. -/
theorem dirIdBytes_inj {e : Endian} {id other : DirId} :
    dirIdBytes e id = dirIdBytes e other ↔ id = other := by
  constructor
  · intro same
    have front := (List.append_inj same (by simp)).1
    have parts := List.append_inj front (by simp)
    cases id
    cases other
    rw [DirId.mk.injEq]
    exact ⟨u64Bytes_inj.mp parts.1, u32Bytes_inj.mp parts.2⟩
  · intro same
    rw [same]

/-- The two copies into the zeroed array leave the padding word. -/
theorem generateHardwareKey_eq (e : Endian) (metadata : Metadata) :
    generateHardwareKey e metadata = dirIdBytes e ⟨metadata.ino, kernelDev metadata.dev⟩ := by
  have first : overwrite (List.replicate 16 0) 0 (u64Bytes e metadata.ino) =
      u64Bytes e metadata.ino ++ List.replicate 8 0 := by
    rw [overwrite, length_u64Bytes]
    rfl
  have pad : u32Bytes e 0 = List.replicate 4 0 := by
    cases e <;> decide
  have front : (u64Bytes e metadata.ino ++ List.replicate 8 0).take 8 = u64Bytes e metadata.ino :=
    List.take_left' (length_u64Bytes e metadata.ino)
  have rest : (u64Bytes e metadata.ino ++ List.replicate 8 0).drop (8 + 4) =
      List.replicate 4 0 := by
    rw [← List.drop_drop, List.drop_left' (length_u64Bytes e metadata.ino)]
    rfl
  rw [generateHardwareKey, first, overwrite, length_u32Bytes, front, rest, dirIdBytes, pad]

end Bytes

/-- For every file, user space computes the bytes of the id the kernel reads off its inode, and
two files share a key exactly if they share the inode number and the device number. -/
theorem hardwareKey_eq_dirId (e : Endian) (file other : File) :
    generateHardwareKey e file.metadata = dirIdBytes e (extractDirIdFromInode file.inode) ∧
      (generateHardwareKey e file.metadata = generateHardwareKey e other.metadata ↔
        file.inode.ino = other.inode.ino ∧ file.inode.sb.dev = other.inode.sb.dev) := by
  have key (file : File) : generateHardwareKey e file.metadata =
      dirIdBytes e (extractDirIdFromInode file.inode) := by
    rw [generateHardwareKey_eq, File.metadata, kernelDev_stDev, ← file.numbered]
    rfl
  refine ⟨key file, ?_⟩
  rw [key file, key other, dirIdBytes_inj, extractDirIdFromInode, extractDirIdFromInode,
    DirId.mk.injEq]

end BouclierBleu.Watchlist.HardwareKeys
