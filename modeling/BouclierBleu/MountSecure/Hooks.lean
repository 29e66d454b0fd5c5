/- GID: BouclierBleu/MountSecure/Hooks
   source: bpf/mount_secure.bpf.c, bpf/headers/bpf_fallbacks.h
   digest: The hooks of the two mount interfaces and the heuristics they share. -/

import BouclierBleu.Kernel.AlertStructs

set_option autoImplicit false
set_option relaxedAutoImplicit false

namespace BouclierBleu.MountSecure.Hooks

open BouclierBleu.Kernel.AlertStructs (MountAlert)
open BouclierBleu.Kernel.ModuleCore
  (isModuleActive EPERM Outcome CStr Task KernelStr probeReadKernelStr spells)

def MS_NOSUID : UInt64 := 2

def MS_NODEV : UInt64 := 4

def MS_NOEXEC : UInt64 := 8

def SECURE_MOUNT_FLAGS : UInt64 := MS_NOSUID ||| MS_NODEV ||| MS_NOEXEC

def MNT_NOSUID : UInt32 := 0x01

def MNT_NODEV : UInt32 := 0x02

def MNT_NOEXEC : UInt32 := 0x04

def SECURE_MOVE_MNT_FLAGS : UInt32 := MNT_NOSUID ||| MNT_NODEV ||| MNT_NOEXEC

/-- `pathBuffer` is what the per-CPU path buffer held before. -/
structure Maps where
  stateMap : Option UInt32
  pathBuffer : Option (List UInt8)

/-- The chain of a dentry up to the root, which is its own parent. -/
inductive Dentry
  | root (name : KernelStr)
  | child (name : KernelStr) (parent : Dentry)

namespace Dentry

def dName : Dentry → KernelStr
  | root name => name
  | child name _ => name

def dParent : Dentry → Dentry
  | root name => root name
  | child _ parent => parent

end Dentry

/-- A `struct path`, with what `bpf_d_path` makes of it when it succeeds. -/
structure Path where
  dentry : Option Dentry
  dPath : Option (List UInt8)

structure FileSystemType where
  name : KernelStr

structure SuperBlock where
  sType : Option FileSystemType
  sId : KernelStr

/-- The `struct vfsmount` to be attached, with the device name of the `struct mount` around
it. -/
structure VfsMount where
  mntFlags : UInt32
  mntSb : Option SuperBlock
  mntDevname : KernelStr

/-- What the running kernel's type information says of `struct mount`. -/
structure MountLayout where
  mntDevnameExists : Bool
  mntOffset : Nat
  mountSize : Nat

def isRemovableDevice (devName : KernelStr) : Bool :=
  match probeReadKernelStr 8 CStr.devicePrefix_pos devName with
  | none => false
  | some head =>
    if spells head.bytes 0 "/dev/" then
      if spells head.bytes 5 "sd" then true
      else spells head.bytes 5 "mmc"
    else false

/-- `len` counts the NUL. -/
def isSensitivePath (path : List UInt8) (len : Nat) : Bool :=
  if len < 4 || !spells path 0 "/" then false
  else if spells path 1 "mnt" then true
  else if len ≥ 6 && spells path 1 "media" then true
  else if len ≥ 10 && spells path 1 "run/media" then true
  else false

/-- The test of one name in `fallback_dentry_check`; five bytes fit beside the NUL. -/
def sensitiveName (name : KernelStr) : Bool :=
  match probeReadKernelStr 6 CStr.componentPrefix_pos name with
  | none => false
  | some pName =>
    (spells pName.bytes 0 "mnt" && pName.byte 3 == 0) ||
      (spells pName.bytes 0 "media" && pName.byte 5 == 0)

/-- The loop of `fallback_dentry_check`, over at most `steps` dentries. -/
def sensitiveWithin : Nat → Dentry → Bool
  | 0, _ => false
  | steps + 1, d => sensitiveName d.dName || sensitiveWithin steps d.dParent

def fallbackDentryCheck (dstPath : Path) : Bool :=
  match dstPath.dentry with
  | none => false
  | some d => sensitiveWithin 32 d

/-- The text of a source string in the alert when there is none to read. -/
def notAvailable (cap : Nat) (positive : 0 < cap) : CStr cap :=
  .copy cap positive (CStr.literal "N/A")

/-- `dispatch_mount_alert`; the record is zeroed first. -/
def dispatchMountAlert (reserved : Bool) (task : Task) (devName fsType : KernelStr)
    (pathBuf : Option (List UInt8)) : List MountAlert :=
  if reserved then
    [{ pid := task.tgid
       devName :=
        (probeReadKernelStr 256 CStr.nameLen_pos devName).getD (notAvailable 256 CStr.nameLen_pos)
       fsType :=
        if fsType = .null then .copy 64 CStr.fsTypeLen_pos []
        else
          (probeReadKernelStr 64 CStr.fsTypeLen_pos fsType).getD
            (notAvailable 64 CStr.fsTypeLen_pos)
       mountPoint := .copy 512 CStr.mountPointLen_pos (pathBuf.getD []) }]
  else []

/-- The path buffer after the attempt to resolve the destination, and the length of the path
in it: zero when there is no attempt or `bpf_d_path` fails. -/
def resolvePath (pathBuffer : Option (List UInt8)) (dstPath : Path) (allowDPath : Bool) :
    Option (List UInt8) × Nat :=
  match pathBuffer with
  | none => (none, 0)
  | some _ =>
    if allowDPath then
      match dstPath.dPath with
      | some path => (some path, path.length + 1)
      | none => (some [], 0)
    else (some [], 0)

def isTarget (devName : KernelStr) (dstPath : Path) (pathBuf : Option (List UInt8)) (len : Nat) :
    Bool :=
  if isRemovableDevice devName then true
  else if len > 0 then isSensitivePath (pathBuf.getD []) len
  else fallbackDentryCheck dstPath

def evaluateSecureMount (maps : Maps) (reserved : Bool) (task : Task)
    (devName fsType : KernelStr) (dstPath : Path) (allowDPath : Bool) : Outcome MountAlert :=
  let (pathBuf, len) := resolvePath maps.pathBuffer dstPath allowDPath
  if isTarget devName dstPath pathBuf len then
    ⟨-EPERM, dispatchMountAlert reserved task devName fsType pathBuf, []⟩
  else .quiet 0

def mountSecureSbMount (maps : Maps) (reserved : Bool) (task : Task) (devName : KernelStr)
    (path : Path) (type : KernelStr) (flags : UInt64) : Outcome MountAlert :=
  if !isModuleActive maps.stateMap then .quiet 0
  else if flags &&& SECURE_MOUNT_FLAGS == SECURE_MOUNT_FLAGS then .quiet 0
  else evaluateSecureMount maps reserved task devName type path true

/-- The device name `mount_secure_move_mount` arrives at. -/
def VfsMount.devName (layout : MountLayout) (mnt : VfsMount) : KernelStr :=
  let sId := (mnt.mntSb.map SuperBlock.sId).getD .null
  if layout.mntDevnameExists then
    if layout.mntOffset > 0 && layout.mntOffset ≤ layout.mountSize then mnt.mntDevname else sId
  else sId

def VfsMount.fsType (mnt : VfsMount) : KernelStr :=
  ((mnt.mntSb.bind SuperBlock.sType).map FileSystemType.name).getD .null

def mountSecureMoveMount (maps : Maps) (layout : MountLayout) (reserved : Bool) (task : Task)
    (fromMnt : VfsMount) (toPath : Path) : Outcome MountAlert :=
  if !isModuleActive maps.stateMap then .quiet 0
  else if fromMnt.mntFlags &&& SECURE_MOVE_MNT_FLAGS == SECURE_MOVE_MNT_FLAGS then .quiet 0
  else
    evaluateSecureMount maps reserved task (fromMnt.devName layout) fromMnt.fsType toPath false

end BouclierBleu.MountSecure.Hooks
