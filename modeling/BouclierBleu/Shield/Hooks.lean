/- GID: BouclierBleu/Shield/Hooks
   source: bpf/shield.bpf.c, bpf/headers/bpf_fallbacks.h
   digest: The three hooks that keep the daemon's files, bpf() and the kernel log from users. -/

import BouclierBleu.Kernel.AlertStructs
import BouclierBleu.Kernel.VfsHelpers

set_option autoImplicit false
set_option relaxedAutoImplicit false

namespace BouclierBleu.Shield.Hooks

open BouclierBleu.Kernel.AlertStructs (ShieldAlert)
open BouclierBleu.Kernel.ModuleCore (isModuleActive EPERM EACCES Outcome CStr Task)
open BouclierBleu.Kernel.VfsHelpers (DirId Inode extractDirIdFromInode)
open BouclierBleu.Library.BoundedMaps (BoundedMap)

def ACTION_FILE_TAMPER : UInt32 := 1

def ACTION_BPF_TAMPER : UInt32 := 2

def ACTION_SYSLOG_LEAK : UInt32 := 3

def O_WRONLY : UInt32 := 0o1

def O_RDWR : UInt32 := 0o2

def O_TRUNC : UInt32 := 0o1000

def S_IFMT : UInt16 := 0o170000

def S_IFREG : UInt16 := 0o100000

def S_ISREG (m : UInt16) : Bool := m &&& S_IFMT == S_IFREG

/-- `pathBuffer` is what the per-CPU path buffer held before. -/
structure Maps where
  stateMap : Option UInt32
  protectedFiles : BoundedMap DirId UInt8
  pathBuffer : Option (List UInt8)

structure FileInode where
  iMode : UInt16
  inode : Inode

/-- The file being opened, with what `bpf_d_path` makes of its path when it succeeds. -/
structure File where
  fFlags : UInt32
  fInode : Option FileInode
  dPath : Option (List UInt8)

/-- The flags the fast path does not let through. -/
def mayModify (fFlags : UInt32) : Bool :=
  (fFlags &&& O_WRONLY != 0) || (fFlags &&& O_RDWR != 0) || (fFlags &&& O_TRUNC != 0)

/-- A zeroed record with the three members the hooks fill in. -/
def dispatchShieldAlert (reserved : Bool) (task : Task) (actionType : UInt32)
    (target : List UInt8) : List ShieldAlert :=
  if reserved then [⟨task.tgid, actionType, .copy 4096 CStr.pathLen_pos target⟩] else []

/-- What the alert shows of the file: nothing without a path buffer or when the path cannot be
resolved. -/
def resolvedTarget (pathBuffer dPath : Option (List UInt8)) : List UInt8 :=
  match pathBuffer with
  | none => []
  | some _ => dPath.getD []

/-- `BOUCLIER_ENFORCE_PRIVILEGE` -/
def enforcePrivilege (maps : Maps) (reserved : Bool) (task : Task) (action : UInt32)
    (targetStr : String) : Outcome ShieldAlert :=
  if !isModuleActive maps.stateMap then .quiet 0
  else if task.getGlobalUid != 0 then
    ⟨-EPERM, dispatchShieldAlert reserved task action (CStr.literal targetStr), []⟩
  else .quiet 0

def shieldFileOpen (maps : Maps) (reserved : Bool) (task : Task) (file : File) :
    Outcome ShieldAlert :=
  if !isModuleActive maps.stateMap then .quiet 0
  else if !mayModify file.fFlags then .quiet 0
  else if task.getGlobalUid == 0 then .quiet 0
  else
    -- a read through a null inode yields mode zero, which is not a regular file
    match file.fInode with
    | none => .quiet 0
    | some fInode =>
      if !S_ISREG fInode.iMode then .quiet 0
      else if maps.protectedFiles.lookup (extractDirIdFromInode fInode.inode) = some 1 then
        ⟨-EACCES, dispatchShieldAlert reserved task ACTION_FILE_TAMPER
          (resolvedTarget maps.pathBuffer file.dPath), []⟩
      else .quiet 0

def shieldBpf (maps : Maps) (reserved : Bool) (task : Task) : Outcome ShieldAlert :=
  enforcePrivilege maps reserved task ACTION_BPF_TAMPER "bpf() syscall invocation"

def shieldSyslog (maps : Maps) (reserved : Bool) (task : Task) : Outcome ShieldAlert :=
  enforcePrivilege maps reserved task ACTION_SYSLOG_LEAK "kernel syslog/dmesg read"

section Verdict

variable {maps : Maps} {reserved : Bool} {task : Task}

/-- Both privilege hooks deny everyone but root. -/
theorem enforcePrivilege_denied_iff {action : UInt32} {targetStr : String} :
    (enforcePrivilege maps reserved task action targetStr).Denied ↔
      isModuleActive maps.stateMap = true ∧ task.getGlobalUid ≠ 0 := by
  unfold enforcePrivilege
  cases isModuleActive maps.stateMap with
  | false => simp
  | true => by_cases root : task.getGlobalUid = 0 <;> simp [root, Outcome.Denied, EPERM]

/-- A watched file can be opened for writing or truncation by root alone. -/
theorem shieldFileOpen_denied_iff {flags : UInt32} {fInode : FileInode}
    {dPath : Option (List UInt8)} :
    (shieldFileOpen maps reserved task ⟨flags, some fInode, dPath⟩).Denied ↔
      isModuleActive maps.stateMap = true ∧ mayModify flags = true ∧ task.getGlobalUid ≠ 0 ∧
        S_ISREG fInode.iMode = true ∧
        maps.protectedFiles.lookup (extractDirIdFromInode fInode.inode) = some 1 := by
  unfold shieldFileOpen
  cases isModuleActive maps.stateMap with
  | false => simp
  | true =>
    cases mayModify flags with
    | false => simp
    | true =>
      by_cases root : task.getGlobalUid = 0
      · simp [root]
      · cases regular : S_ISREG fInode.iMode with
        | false => simp [root, regular]
        | true =>
          by_cases listed :
              maps.protectedFiles.lookup (extractDirIdFromInode fInode.inode) = some 1
          · simp [root, regular, listed, Outcome.Denied, EACCES]
          · simp [root, regular, listed]

end Verdict

end BouclierBleu.Shield.Hooks
