/- GID: BouclierBleu/PtraceBlock/Hooks
   source: bpf/ptrace_block.bpf.c, bpf/headers/bpf_fallbacks.h
   digest: The three hooks against tracing other processes and writing their memory. -/

import BouclierBleu.Kernel.AlertStructs
import BouclierBleu.Kernel.VfsHelpers

set_option autoImplicit false
set_option relaxedAutoImplicit false

namespace BouclierBleu.PtraceBlock.Hooks

open BouclierBleu.Kernel.AlertStructs (PtraceAlert)
open BouclierBleu.Kernel.ModuleCore (isModuleActive EACCES Outcome CStr Task)
open BouclierBleu.Kernel.VfsHelpers (DirId Inode extractDirIdFromInode)
open BouclierBleu.Library.BoundedMaps (BoundedMap)

def ACTION_CRED_DUMP : UInt32 := 1

def ACTION_INJECTION : UInt32 := 2

def ACTION_PROC_MEM : UInt32 := 3

def PTRACE_MODE_ATTACH : UInt32 := 0x02

def PROC_SUPER_MAGIC : UInt32 := 0x9fa0

theorem protectedProcessesMax_pos : 0 < 256 := by decide

structure Maps where
  stateMap : Option UInt32
  protectedProcesses : BoundedMap DirId UInt8

/-- The task to be traced: `comm` is absent when it cannot be read, `exe` when the task has no
memory descriptor, executable or inode. -/
structure Tracee where
  tgid : UInt32
  comm : Option (List UInt8)
  exe : Option Inode

/-- `dispatch_ptrace_alert`; the name is the tracee's. -/
def dispatchPtraceAlert (reserved : Bool) (tracerTgid childTgid : UInt32)
    (childComm : Option (List UInt8)) (actionType : UInt32) : List PtraceAlert :=
  if reserved then
    [⟨tracerTgid, childTgid, actionType,
      .copy 16 CStr.commLen_pos (childComm.getD (CStr.literal "<unknown>"))⟩]
  else []

/-- The action a trace request triggers, if any. -/
def triggeredAction (protectedProcesses : BoundedMap DirId UInt8) (tracerUid : UInt32)
    (child : Tracee) (mode : UInt32) : Option UInt32 :=
  let credDump :=
    match child.exe with
    | none => false
    | some inode => protectedProcesses.lookup (extractDirIdFromInode inode) == some 1
  if credDump then some ACTION_CRED_DUMP
  else if (mode &&& PTRACE_MODE_ATTACH != 0) && tracerUid != 0 then some ACTION_INJECTION
  else none

def ptraceBlockAccessCheck (maps : Maps) (reserved : Bool) (tracer : Task) (child : Tracee)
    (mode : UInt32) : Outcome PtraceAlert :=
  if !isModuleActive maps.stateMap then .quiet 0
  else if tracer.tgid == child.tgid then .quiet 0
  else
    match triggeredAction maps.protectedProcesses tracer.getGlobalUid child mode with
    | none => .quiet 0
    | some action =>
      ⟨-EACCES, dispatchPtraceAlert reserved tracer.tgid child.tgid child.comm action, []⟩

/-- `ptrace_block_traceme`; the running task offers itself to its parent. -/
def ptraceBlockTraceme (maps : Maps) (reserved : Bool) (child : Task)
    (parentTgid parentUid : UInt32) : Outcome PtraceAlert :=
  if !isModuleActive maps.stateMap then .quiet 0
  else if parentUid != 0 then
    ⟨-EACCES, dispatchPtraceAlert reserved parentTgid child.tgid child.comm ACTION_INJECTION, []⟩
  else .quiet 0

/-- The name of a dentry; `name` is absent when the four bytes at its pointer cannot be read. -/
structure DentryName where
  len : UInt32
  name : Option (List UInt8)

/-- The file being opened; `fInode` is the magic number of its inode's filesystem. -/
structure File where
  dentry : Option DentryName
  fInode : Option UInt32

def ptraceBlockFileOpen (maps : Maps) (reserved : Bool) (task : Task) (file : File) :
    Outcome PtraceAlert :=
  if !isModuleActive maps.stateMap then .quiet 0
  else
    match file.dentry with
    | none => .quiet 0
    | some dentry =>
      if dentry.len != 3 then .quiet 0
      else
        match file.fInode with
        | none => .quiet 0
        | some magic =>
          if magic != PROC_SUPER_MAGIC then .quiet 0
          else
            match dentry.name with
            | none => .quiet 0
            | some name =>
              if name.take 4 == CStr.literal "mem" ++ [0] then
                if task.getGlobalUid != 0 then
                  ⟨-EACCES, dispatchPtraceAlert reserved task.tgid task.tgid task.comm
                    ACTION_PROC_MEM, []⟩
                else .quiet 0
              else .quiet 0

section Verdict

variable {maps : Maps} {reserved : Bool} {tracer : Task} {child : Tracee} {mode : UInt32}

theorem ptraceBlockAccessCheck_denied_iff :
    (ptraceBlockAccessCheck maps reserved tracer child mode).Denied ↔
      isModuleActive maps.stateMap = true ∧ tracer.tgid ≠ child.tgid ∧
        (triggeredAction maps.protectedProcesses tracer.getGlobalUid child mode).isSome = true := by
  unfold ptraceBlockAccessCheck
  cases isModuleActive maps.stateMap with
  | false => simp
  | true =>
    by_cases own : tracer.tgid = child.tgid
    · simp [own]
    · cases triggeredAction maps.protectedProcesses tracer.getGlobalUid child mode <;>
        simp [own, Outcome.Denied, EACCES]

/-- A task that runs a watched program is out of reach even for root. -/
theorem triggeredAction_of_protected {inode : Inode} (running : child.exe = some inode)
    (listed : maps.protectedProcesses.lookup (extractDirIdFromInode inode) = some 1) :
    triggeredAction maps.protectedProcesses tracer.getGlobalUid child mode =
      some ACTION_CRED_DUMP := by
  simp [triggeredAction, running, listed]

end Verdict

end BouclierBleu.PtraceBlock.Hooks
