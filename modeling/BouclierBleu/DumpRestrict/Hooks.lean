/- GID: BouclierBleu/DumpRestrict/Hooks
   source: bpf/dump_restrict.bpf.c
   digest: The four core-dump hooks and the queue of crash tokens between two of them. -/

import BouclierBleu.Kernel.AlertStructs
import BouclierBleu.Kernel.VfsHelpers
import BouclierBleu.Library.BoundedQueues

set_option autoImplicit false
set_option relaxedAutoImplicit false

namespace BouclierBleu.DumpRestrict.Hooks

open BouclierBleu.Kernel.AlertStructs (DumpAlert)
open BouclierBleu.Kernel.ModuleCore
  (isModuleActive EPERM EACCES Outcome CStr Task extractSafeComm)
open BouclierBleu.Kernel.VfsHelpers (DirId Inode extractDirIdFromInode inodeOf)
open BouclierBleu.Library.BoundedMaps (BoundedMap)
open BouclierBleu.Library.BoundedQueues (BoundedQueue)

def ACTION_COREDUMP_FILE : UInt32 := 1

def ACTION_PRCTL_TAMPER : UInt32 := 2

def ACTION_PIPED_HANDLER : UInt32 := 3

def PR_SET_DUMPABLE : Int := 4

abbrev CrashQueue := BoundedQueue DumpAlert 512

structure Maps where
  stateMap : Option UInt32
  protectedFiles : BoundedMap DirId UInt8
  pendingCrashBlocks : CrashQueue

def alertOf (task : Task) (actionType : UInt32) : DumpAlert :=
  ⟨task.tgid, task.getGlobalUid, actionType, extractSafeComm task 16 CStr.commLen_pos⟩

/-- `dispatch_dump_alert`; nothing is sent when the ring buffer has no room. -/
def dispatchDumpAlert (reserved : Bool) (task : Task) (actionType : UInt32) :
    List DumpAlert :=
  if reserved then [alertOf task actionType] else []

/-- `dump_restrict_file_open`; `coreState` says that the task is dumping core. -/
def dumpRestrictFileOpen (maps : Maps) (reserved : Bool) (task : Task) (coreState : Bool) :
    Outcome DumpAlert :=
  if !isModuleActive maps.stateMap then .quiet 0
  else if !coreState then .quiet 0
  else if task.getGlobalUid != 0 then
    ⟨-EACCES, dispatchDumpAlert reserved task ACTION_COREDUMP_FILE, []⟩
  else .quiet 0

def dumpRestrictTaskPrctl (maps : Maps) (reserved : Bool) (task : Task) (option : Int)
    (arg2 : UInt64) : Outcome DumpAlert :=
  if !isModuleActive maps.stateMap then .quiet 0
  else if option == PR_SET_DUMPABLE && arg2 == 1 then
    if task.getGlobalUid != 0 then
      ⟨-EPERM, dispatchDumpAlert reserved task ACTION_PRCTL_TAMPER, []⟩
    else .quiet 0
  else .quiet 0

/-- `dump_restrict_observer`: a token for a non-root crash goes to the back of the queue; the
result of the push is ignored. -/
def dumpRestrictObserver (maps : Maps) (task : Task) (coreState : Bool) : Maps :=
  if !isModuleActive maps.stateMap then maps
  else if !coreState then maps
  else if task.getGlobalUid == 0 then maps
  else
    match maps.pendingCrashBlocks.push (alertOf task ACTION_PIPED_HANDLER) with
    | some queue => { maps with pendingCrashBlocks := queue }
    | none => maps

/-- `dump_restrict_bprm_check`; `parentMm` says that the parent is a user process. -/
def dumpRestrictBprmCheck (maps : Maps) (reserved parentMm : Bool)
    (file : Option (Option Inode)) : Maps × Outcome DumpAlert :=
  if !isModuleActive maps.stateMap then (maps, .quiet 0)
  else if parentMm then (maps, .quiet 0)
  else
    match file with
    | none => (maps, .quiet 0)
    | some none => (maps, .quiet 0)
    | some (some inode) =>
      if maps.protectedFiles.lookup (extractDirIdFromInode inode) = some 1 then
        match maps.pendingCrashBlocks.pop with
        | some (payload, queue) =>
          if payload.pid != 0 then
            ({ maps with pendingCrashBlocks := queue },
              ⟨-EPERM, if reserved then [payload] else [], []⟩)
          else ({ maps with pendingCrashBlocks := queue }, .quiet 0)
        | none => (maps, .quiet 0)
      else (maps, .quiet 0)

section Observer

variable {maps : Maps} {task : Task}

theorem observer_of_ignored
    (ignored : isModuleActive maps.stateMap = false ∨ task.getGlobalUid = 0) :
    dumpRestrictObserver maps task true = maps := by
  unfold dumpRestrictObserver
  rcases ignored with disabled | root
  · rw [disabled]
    rfl
  · cases isModuleActive maps.stateMap <;> simp [root]

/-- A non-root crash seen while the module is enabled leaves its token, if there is room. -/
theorem observer_of_nonroot (enabled : isModuleActive maps.stateMap = true)
    (nonroot : task.getGlobalUid ≠ 0) (room : maps.pendingCrashBlocks.items.length < 512) :
    (dumpRestrictObserver maps task true).stateMap = maps.stateMap ∧
      (dumpRestrictObserver maps task true).protectedFiles = maps.protectedFiles ∧
      (dumpRestrictObserver maps task true).pendingCrashBlocks.items =
        maps.pendingCrashBlocks.items ++ [alertOf task ACTION_PIPED_HANDLER] := by
  obtain ⟨queue, pushed, items⟩ :=
    BoundedQueue.push_of_room room (alertOf task ACTION_PIPED_HANDLER)
  unfold dumpRestrictObserver
  simp [enabled, nonroot, pushed, items]

end Observer

section BprmCheck

variable {maps : Maps} {reserved : Bool} {handler : DirId}

/-- A worker's execution that is not the indexed handler's, or that the disabled module sees,
touches no token. -/
theorem bprmCheck_of_ignored
    (ignored : isModuleActive maps.stateMap = false ∨
      maps.protectedFiles.lookup handler ≠ some 1) :
    dumpRestrictBprmCheck maps reserved false (some (some (inodeOf handler))) =
      (maps, .quiet 0) := by
  unfold dumpRestrictBprmCheck
  rcases ignored with disabled | unindexed
  · rw [disabled]
    rfl
  · cases isModuleActive maps.stateMap <;> simp [unindexed]

variable (enabled : isModuleActive maps.stateMap = true)
  (indexed : maps.protectedFiles.lookup handler = some 1)

include enabled indexed

/-- The indexed handler runs when no token is pending. -/
theorem bprmCheck_of_empty (none_pending : maps.pendingCrashBlocks.items = []) :
    dumpRestrictBprmCheck maps reserved false (some (some (inodeOf handler))) =
      (maps, .quiet 0) := by
  unfold dumpRestrictBprmCheck
  simp [enabled, indexed, BoundedQueue.pop_of_nil none_pending]

/-- Otherwise it is denied on account of the oldest token, whosever that is. -/
theorem bprmCheck_of_pending {payload : DumpAlert} {rest : List DumpAlert}
    (pending : maps.pendingCrashBlocks.items = payload :: rest) (real : payload.pid ≠ 0) :
    ∃ queue : CrashQueue, queue.items = rest ∧
      dumpRestrictBprmCheck maps reserved false (some (some (inodeOf handler))) =
        ({ maps with pendingCrashBlocks := queue },
          ⟨-EPERM, if reserved then [payload] else [], []⟩) := by
  obtain ⟨queue, popped, items⟩ := BoundedQueue.pop_of_cons pending
  refine ⟨queue, items, ?_⟩
  unfold dumpRestrictBprmCheck
  simp [enabled, indexed, popped, real]

end BprmCheck

end BouclierBleu.DumpRestrict.Hooks
