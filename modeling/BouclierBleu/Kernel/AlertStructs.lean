/- GID: BouclierBleu/Kernel/AlertStructs
   source: bpf/*.bpf.c, the alert structs
   digest: The ten alert structs the hooks submit and the bytes a C compiler lays them out in. -/

import BouclierBleu.Kernel.ModuleCore

set_option autoImplicit false
set_option relaxedAutoImplicit false

namespace BouclierBleu.Kernel.AlertStructs

open BouclierBleu.Kernel.ModuleCore (CStr)

/-- The byte order of the machine. -/
inductive Endian
  | little | big
  deriving DecidableEq

/-- The bytes of a `__u32`, least significant first. -/
def u32LittleEndian (v : UInt32) : List UInt8 :=
  [UInt8.ofNat (v.toNat % 256), UInt8.ofNat (v.toNat / 256 % 256),
    UInt8.ofNat (v.toNat / 65536 % 256), UInt8.ofNat (v.toNat / 16777216 % 256)]

def u32Bytes (e : Endian) (v : UInt32) : List UInt8 :=
  match e with
  | .little => u32LittleEndian v
  | .big => (u32LittleEndian v).reverse

/-- A `char` array: the string, its NUL and zero padding. -/
def charBytes {cap : Nat} (s : CStr cap) : List UInt8 :=
  s.bytes ++ List.replicate (cap - s.bytes.length) 0

inductive CField
  | u32 (v : UInt32)
  | chars (cap : Nat) (s : CStr cap)

/-- Bytes up to the next multiple of four. -/
def padding (offset : Nat) : List UInt8 := List.replicate ((4 - offset % 4) % 4) 0

/-- Fields in declaration order from an offset on, a `__u32` aligned to four bytes, with the
trailing padding of the struct. -/
def layoutFrom (e : Endian) : Nat → List CField → List UInt8
  | offset, [] => padding offset
  | offset, .u32 v :: rest =>
    padding offset ++ u32Bytes e v ++ layoutFrom e (offset + (padding offset).length + 4) rest
  | offset, .chars cap s :: rest => charBytes s ++ layoutFrom e (offset + cap) rest

def layout (e : Endian) (fields : List CField) : List UInt8 := layoutFrom e 0 fields

@[simp] theorem length_u32Bytes (e : Endian) (v : UInt32) : (u32Bytes e v).length = 4 := by
  cases e <;> simp [u32Bytes, u32LittleEndian]

@[simp] theorem length_charBytes {cap : Nat} (s : CStr cap) : (charBytes s).length = cap := by
  have fits := s.fits
  rw [charBytes, List.length_append, List.length_replicate]
  omega

theorem padding_of_aligned {offset : Nat} (aligned : offset % 4 = 0) : padding offset = [] := by
  rw [padding, aligned]
  rfl

/-- An aligned word stands where the previous field ends. -/
theorem layoutFrom_u32 (e : Endian) {offset : Nat} (aligned : offset % 4 = 0) (v : UInt32)
    (rest : List CField) :
    layoutFrom e offset (.u32 v :: rest) = u32Bytes e v ++ layoutFrom e (offset + 4) rest := by
  rw [layoutFrom, padding_of_aligned aligned]
  rfl

structure ExecAlert where
  pid : UInt32
  path : CStr 4096
  deriving DecidableEq

structure RenameAlert where
  pid : UInt32
  ppid : UInt32
  dirPath : CStr 4096
  fileName : CStr 256
  deriving DecidableEq

structure ShieldAlert where
  pid : UInt32
  actionType : UInt32
  target : CStr 4096
  deriving DecidableEq

structure MountAlert where
  pid : UInt32
  devName : CStr 256
  fsType : CStr 64
  mountPoint : CStr 512
  deriving DecidableEq

structure StrictWxAlert where
  pid : UInt32
  syscall : CStr 16
  deriving DecidableEq

structure PtraceAlert where
  pid : UInt32
  targetPid : UInt32
  actionType : UInt32
  targetComm : CStr 16
  deriving DecidableEq

structure DumpAlert where
  pid : UInt32
  uid : UInt32
  actionType : UInt32
  comm : CStr 16
  deriving DecidableEq

structure UsernsAlert where
  pid : UInt32
  actionType : UInt32
  target : CStr 64
  deriving DecidableEq

structure MadviseAlert where
  pid : UInt32
  tid : UInt32
  count : UInt32
  actionType : UInt32
  comm : CStr 16
  deriving DecidableEq

structure IoRestrictAlert where
  tgid : UInt32
  pid : UInt32
  actionType : UInt32
  syscall : CStr 16
  deriving DecidableEq

/-- An alert of one of the ten modules. -/
inductive Alert
  | execBlock (a : ExecAlert)
  | renameEntropy (a : RenameAlert)
  | shield (a : ShieldAlert)
  | mountSecure (a : MountAlert)
  | strictWx (a : StrictWxAlert)
  | ptraceBlock (a : PtraceAlert)
  | dumpRestrict (a : DumpAlert)
  | usernsRestrict (a : UsernsAlert)
  | madviseRatelimit (a : MadviseAlert)
  | ioRestrict (a : IoRestrictAlert)

/-- The members of each struct in declaration order. -/
def Alert.fields : Alert → List CField
  | .execBlock a => [.u32 a.pid, .chars 4096 a.path]
  | .renameEntropy a =>
    [.u32 a.pid, .u32 a.ppid, .chars 4096 a.dirPath, .chars 256 a.fileName]
  | .shield a => [.u32 a.pid, .u32 a.actionType, .chars 4096 a.target]
  | .mountSecure a =>
    [.u32 a.pid, .chars 256 a.devName, .chars 64 a.fsType, .chars 512 a.mountPoint]
  | .strictWx a => [.u32 a.pid, .chars 16 a.syscall]
  | .ptraceBlock a =>
    [.u32 a.pid, .u32 a.targetPid, .u32 a.actionType, .chars 16 a.targetComm]
  | .dumpRestrict a => [.u32 a.pid, .u32 a.uid, .u32 a.actionType, .chars 16 a.comm]
  | .usernsRestrict a => [.u32 a.pid, .u32 a.actionType, .chars 64 a.target]
  | .madviseRatelimit a =>
    [.u32 a.pid, .u32 a.tid, .u32 a.count, .u32 a.actionType, .chars 16 a.comm]
  | .ioRestrict a => [.u32 a.tgid, .u32 a.pid, .u32 a.actionType, .chars 16 a.syscall]

/-- The record the kernel side submits. -/
def Alert.bytes (e : Endian) (a : Alert) : List UInt8 := layout e a.fields

end BouclierBleu.Kernel.AlertStructs
