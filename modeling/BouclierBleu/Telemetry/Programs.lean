/- GID: BouclierBleu/Telemetry/Programs
   source: bpf/*.bpf.c, bpf/headers/vfs_helpers.h, every SEC program
   digest: All programs of the ten modules as one machine over all their maps. -/

import BouclierBleu.DumpRestrict.Hooks
import BouclierBleu.IoRestrict.Confinement
import BouclierBleu.MadviseRatelimit.Hook
import BouclierBleu.MountSecure.Hooks
import BouclierBleu.PtraceBlock.Hooks
import BouclierBleu.Shield.Hooks
import BouclierBleu.StrictWx.Hook
import BouclierBleu.Telemetry.Records
import BouclierBleu.UsernsRestrict.Hooks
import BouclierBleu.Watchlist.ExecBlock
import BouclierBleu.Watchlist.RenameEntropy

set_option autoImplicit false
set_option relaxedAutoImplicit false

namespace BouclierBleu.Telemetry.Programs

open BouclierBleu.Kernel.AlertStructs (Endian)
open BouclierBleu.Kernel.ModuleCore (Outcome Task KernelStr)
open BouclierBleu.Kernel.VfsHelpers
open BouclierBleu.Library.BoundedMaps (BoundedMap)
open BouclierBleu.DumpRestrict.Hooks
  (dumpRestrictFileOpen dumpRestrictTaskPrctl dumpRestrictObserver dumpRestrictBprmCheck)
open BouclierBleu.IoRestrict.Confinement (ioRestrictUringSetup ioRestrictVmsplice)
open BouclierBleu.IoRestrict.Hooks (ioRestrictSplice ioRestrictWrite ioRestrictPipeRelease)
open BouclierBleu.MadviseRatelimit.Hook (madviseRatelimitSysEnter)
open BouclierBleu.MountSecure.Hooks (mountSecureSbMount mountSecureMoveMount)
open BouclierBleu.PtraceBlock.Hooks
  (ptraceBlockAccessCheck ptraceBlockTraceme ptraceBlockFileOpen)
open BouclierBleu.Shield.Hooks (shieldFileOpen shieldBpf shieldSyslog)
open BouclierBleu.StrictWx.Hook (strictWxFileMprotect strictWxMmapFile)
open BouclierBleu.UsernsRestrict.Hooks
  (usernsRestrictCreate usernsRestrictCapable usernsRestrictSbMount)
open BouclierBleu.Watchlist.ExecBlock (execBlockBprmCheck)
open BouclierBleu.Watchlist.RenameEntropy (renameEntropyPathRename)
open BouclierBleu.Telemetry.Records
open BouclierBleu.Telemetry.Totality (Module)

/-- The maps of the ten modules. A path buffer in them says only that its lookup succeeds. -/
structure Maps where
  execBlock : Watchlist.ExecBlock.Maps
  renameEntropy : Watchlist.RenameEntropy.Maps
  shield : Shield.Hooks.Maps
  mountSecure : MountSecure.Hooks.Maps
  strictWx : StrictWx.Hook.Maps
  ptraceBlock : PtraceBlock.Hooks.Maps
  dumpRestrict : DumpRestrict.Hooks.Maps
  usernsRestrict : Option UInt32
  madviseRatelimit : MadviseRatelimit.Hook.Maps
  ioRestrict : IoRestrict.Hooks.Maps
  ioRestrictBinaries : BoundedMap DirId UInt8

/-- The programs the two inheritance macros generate, for either watchlist module. -/
inductive VfsExit
  | mkdirOld (pick : Nat) (dir : Inode) (dentry : Dentry) (ret : Int)
  | mkdirNew (pick : Nat) (dir : Inode) (dentry : Dentry) (ret : UInt64)
  | renameOld (pick : Nat) (oldDir : Inode) (oldDentry : Dentry) (newDir : Inode)
      (newDentry : Dentry) (ret : Int)
  | renameNew (pick : Nat) (rd : RenameData) (ret : Int)

def VfsExit.run (stateMap : Option UInt32) (protectedDirs : ProtectedDirs) :
    VfsExit → ProtectedDirs × List Nat
  | mkdirOld pick dir dentry ret => vfsMkdirExitOld stateMap pick protectedDirs dir dentry ret
  | mkdirNew pick dir dentry ret => vfsMkdirExitNew stateMap pick protectedDirs dir dentry ret
  | renameOld pick oldDir oldDentry newDir newDentry ret =>
    vfsRenameExitOld stateMap pick protectedDirs oldDir oldDentry newDir newDentry ret
  | renameNew pick rd ret => vfsRenameExitNew stateMap pick protectedDirs rd ret

/-- What triggers a program, with what the program reads from the kernel. -/
inductive Event
  | execBlockBprmCheck (shmem : Watchlist.ExecBlock.ShmemLayout) (task : Task)
      (dPath : Watchlist.ExecBlock.DPath) (file : Option Watchlist.ExecBlock.File)
  | execBlockVfsExit (exit : VfsExit)
  | renameEntropyPathRename (task : Task) (ppid : UInt32) (resolved : Option (List UInt8))
      (oldDir newDir : Dentry) (newName : Watchlist.RenameEntropy.Qstr)
  | renameEntropyVfsExit (exit : VfsExit)
  | shieldFileOpen (task : Task) (file : Shield.Hooks.File)
  | shieldBpf (task : Task)
  | shieldSyslog (task : Task)
  | mountSecureSbMount (task : Task) (devName : KernelStr) (path : MountSecure.Hooks.Path)
      (type : KernelStr) (flags : UInt64)
  | mountSecureMoveMount (layout : MountSecure.Hooks.MountLayout) (task : Task)
      (fromMnt : MountSecure.Hooks.VfsMount) (toPath : MountSecure.Hooks.Path)
  | strictWxFileMprotect (current : StrictWx.Hook.Current) (vmFile : Option StrictWx.Hook.File)
      (vmFlags prot : UInt64)
  | strictWxMmapFile (current : StrictWx.Hook.Current) (file : Option StrictWx.Hook.File)
      (prot : UInt64)
  | ptraceBlockAccessCheck (tracer : Task) (child : PtraceBlock.Hooks.Tracee) (mode : UInt32)
  | ptraceBlockTraceme (child : Task) (parentTgid parentUid : UInt32)
  | ptraceBlockFileOpen (task : Task) (file : PtraceBlock.Hooks.File)
  | dumpRestrictFileOpen (task : Task) (coreState : Bool)
  | dumpRestrictTaskPrctl (task : Task) (option : Int) (arg2 : UInt64)
  | dumpRestrictObserver (task : Task) (coreState : Bool)
  | dumpRestrictBprmCheck (parentMm : Bool) (file : Option (Option Inode))
  | usernsRestrictCreate (creator : UsernsRestrict.Hooks.Creator)
  | usernsRestrictCapable (task : Task) (nsLevel : UInt32) (cap : Int)
  | usernsRestrictSbMount (task : Task) (userNs : Option UInt32) (devName type : KernelStr)
  | madviseRatelimitSysEnter (delivered : Bool) (pick : Nat) (task : Task) (behavior : Int)
      (now : UInt64)
  | ioRestrictUringSetup (task : Task) (mm : Option IoRestrict.Confinement.Mm)
  | ioRestrictVmsplice (task : Task)
  | ioRestrictSplice (current : IoRestrict.Hooks.Current) (fdIn fdOut flags : UInt32)
  | ioRestrictWrite (current : IoRestrict.Hooks.Current) (fd : UInt32)
  | ioRestrictPipeRelease (inode : IoRestrict.Hooks.Inode) (file : IoRestrict.Hooks.File)

/-- The module an event's program belongs to. -/
def Event.module : Event → Module
  | execBlockBprmCheck .. | execBlockVfsExit _ => .execBlock
  | renameEntropyPathRename .. | renameEntropyVfsExit _ => .renameEntropy
  | shieldFileOpen .. | shieldBpf _ | shieldSyslog _ => .shield
  | mountSecureSbMount .. | mountSecureMoveMount .. => .mountSecure
  | strictWxFileMprotect .. | strictWxMmapFile .. => .strictWx
  | ptraceBlockAccessCheck .. | ptraceBlockTraceme .. | ptraceBlockFileOpen .. => .ptraceBlock
  | dumpRestrictFileOpen .. | dumpRestrictTaskPrctl .. | dumpRestrictObserver ..
  | dumpRestrictBprmCheck .. => .dumpRestrict
  | usernsRestrictCreate _ | usernsRestrictCapable .. | usernsRestrictSbMount .. =>
    .usernsRestrict
  | madviseRatelimitSysEnter .. => .madviseRatelimit
  | ioRestrictUringSetup .. | ioRestrictVmsplice _ | ioRestrictSplice .. | ioRestrictWrite ..
  | ioRestrictPipeRelease .. => .ioRestrict

/-- What earlier runs left behind: the memory a reservation returns, and the contents of the
per-CPU path buffer. -/
structure Prior where
  memory : Nat → UInt8
  pathBuffer : List UInt8

namespace Prior

variable (prior : Prior)

/-- The record `bpf_ringbuf_reserve` returns to a module. -/
def record (m : Module) : List UInt8 := (List.range (recordSize m)).map prior.memory

@[simp] theorem length_record (m : Module) : (prior.record m).length = recordSize m := by
  rw [record, List.length_map, List.length_range]

def fill (pathBuffer : Option (List UInt8)) : Option (List UInt8) :=
  pathBuffer.map fun _ => prior.pathBuffer

end Prior

section Run

variable (e : Endian) (maps : Maps) (reserved : Bool) (prior : Prior)

/-- A program that leaves the maps as they are. -/
def submitting {Alert : Type} (record : Alert → List UInt8) (o : Outcome Alert) :
    Maps × Outcome (List UInt8) := (maps, o.map record)

/-- One program run; the outcome's alerts are the records it submits. -/
def run : Event → Maps × Outcome (List UInt8)
  | .execBlockBprmCheck shmem task dPath file =>
    submitting maps (execRecord e (prior.record .execBlock))
      (execBlockBprmCheck
        { maps.execBlock with pathBuffer := prior.fill maps.execBlock.pathBuffer }
        shmem reserved task dPath file)
  | .execBlockVfsExit exit =>
    let (protectedDirs, signals) := exit.run maps.execBlock.stateMap maps.execBlock.protectedDirs
    ({ maps with execBlock := { maps.execBlock with protectedDirs } }, ⟨0, [], signals⟩)
  | .renameEntropyPathRename task ppid resolved oldDir newDir newName =>
    let record := prior.record .renameEntropy
    let before := if reserved then some ((record.drop 8).take 4096) else none
    submitting maps (renameRecord e record resolved.isSome)
      (renameEntropyPathRename maps.renameEntropy before task ppid resolved oldDir newDir newName)
  | .renameEntropyVfsExit exit =>
    let (protectedDirs, signals) :=
      exit.run maps.renameEntropy.stateMap maps.renameEntropy.protectedDirs
    ({ maps with renameEntropy := { maps.renameEntropy with protectedDirs } }, ⟨0, [], signals⟩)
  | .shieldFileOpen task file =>
    submitting maps (shieldRecord e (prior.record .shield))
      (shieldFileOpen { maps.shield with pathBuffer := prior.fill maps.shield.pathBuffer }
        reserved task file)
  | .shieldBpf task =>
    submitting maps (shieldRecord e (prior.record .shield)) (shieldBpf maps.shield reserved task)
  | .shieldSyslog task =>
    submitting maps (shieldRecord e (prior.record .shield))
      (shieldSyslog maps.shield reserved task)
  | .mountSecureSbMount task devName path type flags =>
    submitting maps (mountRecord e (prior.record .mountSecure))
      (mountSecureSbMount
        { maps.mountSecure with pathBuffer := prior.fill maps.mountSecure.pathBuffer }
        reserved task devName path type flags)
  | .mountSecureMoveMount layout task fromMnt toPath =>
    submitting maps (mountRecord e (prior.record .mountSecure))
      (mountSecureMoveMount
        { maps.mountSecure with pathBuffer := prior.fill maps.mountSecure.pathBuffer }
        layout reserved task fromMnt toPath)
  | .strictWxFileMprotect current vmFile vmFlags prot =>
    submitting maps (strictWxRecord e (prior.record .strictWx))
      (strictWxFileMprotect maps.strictWx reserved current vmFile vmFlags prot)
  | .strictWxMmapFile current file prot =>
    submitting maps (strictWxRecord e (prior.record .strictWx))
      (strictWxMmapFile maps.strictWx reserved current file prot)
  | .ptraceBlockAccessCheck tracer child mode =>
    submitting maps (ptraceRecord e (prior.record .ptraceBlock))
      (ptraceBlockAccessCheck maps.ptraceBlock reserved tracer child mode)
  | .ptraceBlockTraceme child parentTgid parentUid =>
    submitting maps (ptraceRecord e (prior.record .ptraceBlock))
      (ptraceBlockTraceme maps.ptraceBlock reserved child parentTgid parentUid)
  | .ptraceBlockFileOpen task file =>
    submitting maps (ptraceRecord e (prior.record .ptraceBlock))
      (ptraceBlockFileOpen maps.ptraceBlock reserved task file)
  | .dumpRestrictFileOpen task coreState =>
    submitting maps (dumpRecord e (prior.record .dumpRestrict))
      (dumpRestrictFileOpen maps.dumpRestrict reserved task coreState)
  | .dumpRestrictTaskPrctl task option arg2 =>
    submitting maps (dumpRecord e (prior.record .dumpRestrict))
      (dumpRestrictTaskPrctl maps.dumpRestrict reserved task option arg2)
  | .dumpRestrictObserver task coreState =>
    ({ maps with dumpRestrict := dumpRestrictObserver maps.dumpRestrict task coreState },
      .quiet 0)
  | .dumpRestrictBprmCheck parentMm file =>
    let (dumpRestrict, outcome) :=
      dumpRestrictBprmCheck maps.dumpRestrict reserved parentMm file
    submitting { maps with dumpRestrict } (crashRecord e (prior.record .dumpRestrict)) outcome
  | .usernsRestrictCreate creator =>
    submitting maps (usernsRecord e (prior.record .usernsRestrict))
      (usernsRestrictCreate maps.usernsRestrict reserved creator)
  | .usernsRestrictCapable task nsLevel cap =>
    submitting maps (usernsRecord e (prior.record .usernsRestrict))
      (usernsRestrictCapable maps.usernsRestrict reserved task nsLevel cap)
  | .usernsRestrictSbMount task userNs devName type =>
    submitting maps (usernsRecord e (prior.record .usernsRestrict))
      (usernsRestrictSbMount maps.usernsRestrict reserved task userNs devName type)
  | .madviseRatelimitSysEnter delivered pick task behavior now =>
    let (madviseRatelimit, outcome) :=
      madviseRatelimitSysEnter maps.madviseRatelimit reserved delivered pick task behavior now
    submitting { maps with madviseRatelimit }
      (madviseRecord e (prior.record .madviseRatelimit)) outcome
  | .ioRestrictUringSetup task mm =>
    submitting maps (ioRecord e (prior.record .ioRestrict))
      (ioRestrictUringSetup maps.ioRestrict.stateMap maps.ioRestrictBinaries reserved task mm)
  | .ioRestrictVmsplice task =>
    submitting maps (ioRecord e (prior.record .ioRestrict))
      (ioRestrictVmsplice maps.ioRestrict.stateMap reserved task)
  | .ioRestrictSplice current fdIn fdOut flags =>
    let (ioRestrict, outcome) :=
      ioRestrictSplice maps.ioRestrict reserved current fdIn fdOut flags
    submitting { maps with ioRestrict } (ioRecord e (prior.record .ioRestrict)) outcome
  | .ioRestrictWrite current fd =>
    submitting maps (ioRecord e (prior.record .ioRestrict))
      (ioRestrictWrite maps.ioRestrict reserved current fd)
  | .ioRestrictPipeRelease inode file =>
    ({ maps with ioRestrict := ioRestrictPipeRelease maps.ioRestrict inode file }, .quiet 0)

end Run

end BouclierBleu.Telemetry.Programs
