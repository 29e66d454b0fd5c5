/- GID: BouclierBleu/IoRestrict/Hooks
   source: bpf/io_restrict.bpf.c, bpf/headers/bpf_fallbacks.h
   digest: The tainted-pipe hooks on splice, write and the release of a pipe's file. -/

import BouclierBleu.Kernel.AlertStructs
import BouclierBleu.Library.BoundedMaps

set_option autoImplicit false
set_option relaxedAutoImplicit false

namespace BouclierBleu.IoRestrict.Hooks

open BouclierBleu.Kernel.AlertStructs (IoRestrictAlert)
open BouclierBleu.Kernel.ModuleCore (isModuleActive SIGKILL Outcome CStr Task)
open BouclierBleu.Library.BoundedMaps (BoundedMap Policy)

def ACTION_SPLICE_FLAGS : UInt32 := 4

def ACTION_SPLICE_TAINT : UInt32 := 5

def ACTION_MAP_EXHAUSTED : UInt32 := 6

def TAINTED_READONLY : UInt8 := 1

def SPLICE_F_MOVE : UInt32 := 1

def SPLICE_F_GIFT : UInt32 := 8

def FMODE_READ : UInt32 := 0x1

def FMODE_WRITE : UInt32 := 0x2

def S_IFMT : UInt16 := 0o170000

def S_IFIFO : UInt16 := 0o010000

def S_ISFIFO (m : UInt16) : Bool := m &&& S_IFMT == S_IFIFO

def generateOpaquePipeId (pipePtr ino : UInt64) : UInt64 :=
  let hash := pipePtr ^^^ ino
  let hash := hash ^^^ (hash >>> 33)
  let hash := hash * 0xff51afd7ed558ccd
  let hash := hash ^^^ (hash >>> 33)
  let hash := hash * 0xc4ceb9fe1a85ec53
  hash ^^^ (hash >>> 33)

structure Maps where
  stateMap : Option UInt32
  pipeTaintMap : BoundedMap UInt64 UInt8

/-- The map type `pipe_taint_map` declares: `BPF_MAP_TYPE_HASH`. -/
def pipeTaintType : Policy := .reject

theorem pipeTaintMax_pos : 0 < 8192 := by decide

structure Inode where
  iMode : UInt16
  iIno : UInt64
  deriving DecidableEq

/-- A `struct file`; a null `private_data` is zero. -/
structure File where
  fInode : Option Inode
  fMode : UInt32
  privateData : UInt64
  deriving DecidableEq

/-- The descriptor table of a process; `fd` is the array of its open files. -/
structure Fdtable where
  maxFds : UInt32
  fd : Option (UInt32 → Option File)

structure Current where
  task : Task
  files : Option Fdtable

/-- `struct file_meta`, where `is_valid` is set. -/
structure FileMeta where
  iMode : UInt16
  fMode : UInt32
  privateData : UInt64
  iIno : UInt64
  deriving DecidableEq

def extractFileMeta (current : Current) (fdNum : UInt32) : Option FileMeta :=
  match current.files with
  | none => none
  | some fdt =>
    if fdNum ≥ fdt.maxFds then none
    else
      match fdt.fd with
      | none => none
      | some fdArray =>
        match fdArray fdNum with
        | none => none
        | some f =>
          match f.fInode with
          | none => none
          | some inode => some ⟨inode.iMode, f.fMode, f.privateData, inode.iIno⟩

/-- `dispatch_io_alert`; nothing is sent when the ring buffer has no room. -/
def dispatchIoAlert (reserved : Bool) (task : Task) (actionType : UInt32)
    (syscallName : String) : List IoRestrictAlert :=
  if reserved then
    [⟨task.tgid, task.pidTgid.toUInt32, actionType,
      .copy 16 CStr.commLen_pos (CStr.literal syscallName)⟩]
  else []

/-- A hook that alerts and sends the current task a SIGKILL. -/
def neutralize (reserved : Bool) (task : Task) (actionType : UInt32) (syscallName : String) :
    Outcome IoRestrictAlert :=
  ⟨0, dispatchIoAlert reserved task actionType syscallName, [SIGKILL]⟩

/-- The identifier the hooks look up, for a file that is a pipe with its structure attached. -/
def FileMeta.pipeId (m : FileMeta) : Option UInt64 :=
  if S_ISFIFO m.iMode && m.privateData != 0 then
    some (generateOpaquePipeId m.privateData m.iIno)
  else none

/-- The test `taint && *taint == TAINTED_READONLY` at a file's identifier. -/
def FileMeta.tainted (m : FileMeta) (pipeTaintMap : BoundedMap UInt64 UInt8) : Bool :=
  match m.pipeId with
  | none => false
  | some id => pipeTaintMap.lookup id == some TAINTED_READONLY

/-- The source of a splice that taints the pipe it goes into. -/
def FileMeta.readOnlyNonPipe (m : FileMeta) : Bool :=
  !S_ISFIFO m.iMode && (m.fMode &&& FMODE_READ != 0) && !(m.fMode &&& FMODE_WRITE != 0)

def ioRestrictSplice (maps : Maps) (reserved : Bool) (current : Current)
    (fdIn fdOut flags : UInt32) : Maps × Outcome IoRestrictAlert :=
  if !isModuleActive maps.stateMap then (maps, .quiet 0)
  else if current.task.getGlobalUid == 0 then (maps, .quiet 0)
  else if flags &&& (SPLICE_F_GIFT ||| SPLICE_F_MOVE) != 0 then
    (maps, neutralize reserved current.task ACTION_SPLICE_FLAGS "splice")
  else
    match extractFileMeta current fdIn, extractFileMeta current fdOut with
    | some inMeta, some outMeta =>
      if inMeta.tainted maps.pipeTaintMap then
        (maps, neutralize reserved current.task ACTION_SPLICE_TAINT "splice")
      else
        match outMeta.pipeId with
        | none => (maps, .quiet 0)
        | some outId =>
          if outMeta.tainted maps.pipeTaintMap then
            (maps, neutralize reserved current.task ACTION_SPLICE_TAINT "splice")
          else if inMeta.readOnlyNonPipe then
            -- the map never evicts, so the replacement choice is idle
            match maps.pipeTaintMap.update 0 outId TAINTED_READONLY with
            | none =>
              (maps, ⟨0, dispatchIoAlert reserved current.task ACTION_MAP_EXHAUSTED "splice", []⟩)
            | some taintMap => ({ maps with pipeTaintMap := taintMap }, .quiet 0)
          else (maps, .quiet 0)
    | _, _ => (maps, .quiet 0)

def ioRestrictWrite (maps : Maps) (reserved : Bool) (current : Current) (fd : UInt32) :
    Outcome IoRestrictAlert :=
  if !isModuleActive maps.stateMap then .quiet 0
  else if current.task.getGlobalUid == 0 then .quiet 0
  else
    match extractFileMeta current fd with
    | none => .quiet 0
    | some fileMeta =>
      if fileMeta.tainted maps.pipeTaintMap then
        neutralize reserved current.task ACTION_SPLICE_TAINT "write"
      else .quiet 0

def ioRestrictPipeRelease (maps : Maps) (inode : Inode) (file : File) : Maps :=
  if !isModuleActive maps.stateMap then maps
  else
    let pipe := file.privateData
    if pipe == 0 then maps
    else
      { maps with
        pipeTaintMap := maps.pipeTaintMap.delete (generateOpaquePipeId pipe inode.iIno) }

/-- The two system calls the taint check guards, with the arguments it looks at. -/
inductive Call
  | splice (fdIn fdOut flags : UInt32)
  | write (fd : UInt32)
  deriving DecidableEq

namespace Call

def operands : Call → List UInt32
  | splice fdIn fdOut _ => [fdIn, fdOut]
  | write fd => [fd]

/-- The call hands memory pages over. -/
def Restricted : Call → Prop
  | splice _ _ flags => flags &&& (SPLICE_F_GIFT ||| SPLICE_F_MOVE) ≠ 0
  | write _ => False

instance (call : Call) : Decidable call.Restricted := by
  cases call <;> unfold Restricted <;> infer_instance

def Resolves (call : Call) (current : Current) : Prop :=
  ∀ fd ∈ call.operands, (extractFileMeta current fd).isSome

instance (call : Call) (current : Current) : Decidable (call.Resolves current) :=
  List.decidableBAll (fun fd => (extractFileMeta current fd).isSome = true) call.operands

def hook (maps : Maps) (reserved : Bool) (current : Current) :
    Call → Maps × Outcome IoRestrictAlert
  | splice fdIn fdOut flags => ioRestrictSplice maps reserved current fdIn fdOut flags
  | write fd => (maps, ioRestrictWrite maps reserved current fd)

end Call

/-- The taint check hits at the file behind a descriptor. -/
def TaintedAt (maps : Maps) (current : Current) (fd : UInt32) : Prop :=
  ∃ fileMeta, extractFileMeta current fd = some fileMeta ∧
    fileMeta.tainted maps.pipeTaintMap = true

theorem FileMeta.tainted_iff {m : FileMeta} {taintMap : BoundedMap UInt64 UInt8} :
    m.tainted taintMap = true ↔
      ∃ id, m.pipeId = some id ∧ taintMap.lookup id = some TAINTED_READONLY := by
  unfold FileMeta.tainted
  cases m.pipeId <;> simp

@[simp] theorem neutralize_signals (reserved : Bool) (task : Task) (actionType : UInt32)
    (syscallName : String) :
    (neutralize reserved task actionType syscallName).signals = [SIGKILL] := rfl

@[simp] theorem killed_neutralize (reserved : Bool) (task : Task) (actionType : UInt32)
    (syscallName : String) : (neutralize reserved task actionType syscallName).Killed := by
  simp [Outcome.Killed]

/-- The call moves data from a read-only non-pipe file into the pipe of that identifier. -/
def Call.Ingests (call : Call) (current : Current) (outId : UInt64) : Prop :=
  ∃ fdIn fdOut flags inMeta outMeta, call = .splice fdIn fdOut flags ∧
    extractFileMeta current fdIn = some inMeta ∧
    extractFileMeta current fdOut = some outMeta ∧
    inMeta.readOnlyNonPipe = true ∧ outMeta.pipeId = some outId

/-- The call is refused for taint once its flags are harmless. -/
def Call.Contaminated (call : Call) (maps : Maps) (current : Current) : Prop :=
  call.Resolves current ∧ ∃ fd ∈ call.operands, TaintedAt maps current fd

theorem taintedAt_iff {maps : Maps} {current : Current} {fd : UInt32} {fileMeta : FileMeta}
    (resolved : extractFileMeta current fd = some fileMeta) :
    TaintedAt maps current fd ↔ fileMeta.tainted maps.pipeTaintMap = true := by
  simp [TaintedAt, resolved]

theorem contaminated_splice {maps : Maps} {current : Current} {fdIn fdOut flags : UInt32}
    {inMeta outMeta : FileMeta} (resolvedIn : extractFileMeta current fdIn = some inMeta)
    (resolvedOut : extractFileMeta current fdOut = some outMeta) :
    (Call.splice fdIn fdOut flags).Contaminated maps current ↔
      inMeta.tainted maps.pipeTaintMap = true ∨ outMeta.tainted maps.pipeTaintMap = true := by
  simp [Call.Contaminated, Call.Resolves, Call.operands, resolvedIn, resolvedOut,
    taintedAt_iff resolvedIn, taintedAt_iff resolvedOut]

section Verdict

variable {maps : Maps} {current : Current} {call : Call}

theorem hook_of_ignored (reserved : Bool)
    (ignored : isModuleActive maps.stateMap = false ∨ current.task.getGlobalUid = 0) :
    call.hook maps reserved current = (maps, .quiet 0) := by
  rcases ignored with disabled | root
  · cases call <;> simp [Call.hook, ioRestrictSplice, ioRestrictWrite, disabled]
  · cases enabled : isModuleActive maps.stateMap <;> cases call <;>
      simp [Call.hook, ioRestrictSplice, ioRestrictWrite, enabled, root]

/-- A call that passes the flag check and the taint check goes through, and changes the map
only by marking the pipe it ingests into. -/
def Passes (maps : Maps) (reserved : Bool) (current : Current) (call : Call) : Prop :=
  (call.hook maps reserved current).2.signals = [] ∧
    (∀ alert ∈ (call.hook maps reserved current).2.alerts,
      alert.actionType = ACTION_MAP_EXHAUSTED) ∧
    ((call.hook maps reserved current).1 = maps ∨
      ∃ outId taintMap, call.Ingests current outId ∧
        maps.pipeTaintMap.update 0 outId TAINTED_READONLY = some taintMap ∧
        (call.hook maps reserved current).1 = { maps with pipeTaintMap := taintMap })

private theorem passes_of_quiet {reserved : Bool}
    (quiet : call.hook maps reserved current = (maps, .quiet 0)) :
    Passes maps reserved current call := by
  simp [Passes, quiet]

/-- A splice between two open files, with harmless flags. -/
private theorem splice_of_resolved {fdIn fdOut flags : UInt32} {inMeta outMeta : FileMeta}
    (reserved : Bool) (enabled : isModuleActive maps.stateMap = true)
    (unprivileged : current.task.getGlobalUid ≠ 0)
    (plain : flags &&& (SPLICE_F_GIFT ||| SPLICE_F_MOVE) = 0)
    (resolvedIn : extractFileMeta current fdIn = some inMeta)
    (resolvedOut : extractFileMeta current fdOut = some outMeta) :
    ((inMeta.tainted maps.pipeTaintMap = true ∨ outMeta.tainted maps.pipeTaintMap = true) ∧
      ioRestrictSplice maps reserved current fdIn fdOut flags =
        (maps, neutralize reserved current.task ACTION_SPLICE_TAINT "splice")) ∨
    (¬ (inMeta.tainted maps.pipeTaintMap = true ∨ outMeta.tainted maps.pipeTaintMap = true) ∧
      Passes maps reserved current (.splice fdIn fdOut flags)) := by
  have shape : (Call.splice fdIn fdOut flags).hook maps reserved current =
      ioRestrictSplice maps reserved current fdIn fdOut flags := rfl
  unfold Passes
  rw [shape]
  -- Past the guards: what is left is the taint check and the marking.
  simp only [ioRestrictSplice, enabled, unprivileged, plain, resolvedIn, resolvedOut,
    Bool.not_true, Bool.false_eq_true, if_false, beq_iff_eq, bne_self_eq_false]
  cases taintedIn : inMeta.tainted maps.pipeTaintMap with
  | true => simp
  | false =>
    cases target : outMeta.pipeId with
    | none =>
      have clean : outMeta.tainted maps.pipeTaintMap = false := by
        simp [FileMeta.tainted, target]
      simp [clean]
    | some outId =>
      cases taintedOut : outMeta.tainted maps.pipeTaintMap with
      | true => simp
      | false =>
        refine .inr ⟨by simp, ?_⟩
        cases ingests : inMeta.readOnlyNonPipe with
        | false => simp
        | true =>
          cases stored : maps.pipeTaintMap.update 0 outId TAINTED_READONLY with
          | none => cases reserved <;> simp [stored, dispatchIoAlert]
          | some taintMap =>
            have marks : (Call.splice fdIn fdOut flags).Ingests current outId :=
              ⟨fdIn, fdOut, flags, inMeta, outMeta, rfl, resolvedIn, resolvedOut, ingests,
                target⟩
            simp only [stored, if_true, if_false, Bool.false_eq_true]
            exact ⟨rfl, by simp, .inr ⟨outId, taintMap, marks, stored, rfl⟩⟩

/-- The three outcomes for an unprivileged caller of the enabled module. -/
theorem hook_cases (reserved : Bool) (call : Call) (enabled : isModuleActive maps.stateMap = true)
    (unprivileged : current.task.getGlobalUid ≠ 0) :
    (call.Restricted ∧ call.hook maps reserved current =
      (maps, neutralize reserved current.task ACTION_SPLICE_FLAGS "splice")) ∨
    (¬ call.Restricted ∧ call.Contaminated maps current ∧ ∃ syscallName,
      call.hook maps reserved current =
        (maps, neutralize reserved current.task ACTION_SPLICE_TAINT syscallName)) ∨
    (¬ call.Restricted ∧ ¬ call.Contaminated maps current ∧
      Passes maps reserved current call) := by
  cases call with
  | write fd =>
    right
    cases resolved : extractFileMeta current fd with
    | none =>
      refine .inr ⟨id, ?_, passes_of_quiet ?_⟩
      · simp [Call.Contaminated, Call.Resolves, Call.operands, resolved]
      · simp [Call.hook, ioRestrictWrite, enabled, unprivileged, resolved]
    | some fileMeta =>
      have hit : TaintedAt maps current fd ↔ _ := taintedAt_iff resolved
      cases tainted : fileMeta.tainted maps.pipeTaintMap with
      | true =>
        refine .inl ⟨id, ?_, "write", ?_⟩
        · simp [Call.Contaminated, Call.Resolves, Call.operands, resolved, hit, tainted]
        · simp [Call.hook, ioRestrictWrite, enabled, unprivileged, resolved, tainted]
      | false =>
        refine .inr ⟨id, ?_, passes_of_quiet ?_⟩
        · simp [Call.Contaminated, Call.operands, hit, tainted]
        · simp [Call.hook, ioRestrictWrite, enabled, unprivileged, resolved, tainted]
  | splice fdIn fdOut flags =>
    by_cases restricted : (Call.splice fdIn fdOut flags).Restricted
    · refine .inl ⟨restricted, ?_⟩
      unfold Call.Restricted at restricted
      simp [Call.hook, ioRestrictSplice, enabled, unprivileged, restricted]
    right
    have plain := restricted
    unfold Call.Restricted at plain
    rw [not_not] at plain
    cases resolvedIn : extractFileMeta current fdIn with
    | none =>
      refine .inr ⟨restricted, ?_, passes_of_quiet ?_⟩
      · simp [Call.Contaminated, Call.Resolves, Call.operands, resolvedIn]
      · simp [Call.hook, ioRestrictSplice, enabled, unprivileged, plain, resolvedIn]
    | some inMeta =>
    cases resolvedOut : extractFileMeta current fdOut with
    | none =>
      refine .inr ⟨restricted, ?_, passes_of_quiet ?_⟩
      · simp [Call.Contaminated, Call.Resolves, Call.operands, resolvedOut]
      · simp [Call.hook, ioRestrictSplice, enabled, unprivileged, plain, resolvedIn,
          resolvedOut]
    | some outMeta =>
    rw [contaminated_splice resolvedIn resolvedOut]
    rcases splice_of_resolved reserved enabled unprivileged plain resolvedIn resolvedOut with
      ⟨hit, shape⟩ | ⟨clean, passes⟩
    · exact .inl ⟨restricted, hit, "splice", shape⟩
    · exact .inr ⟨restricted, clean, passes⟩

theorem hook_killed_iff {reserved : Bool} (enabled : isModuleActive maps.stateMap = true)
    (unprivileged : current.task.getGlobalUid ≠ 0) :
    (call.hook maps reserved current).2.Killed ↔
      call.Restricted ∨ call.Contaminated maps current := by
  rcases hook_cases reserved call enabled unprivileged with
    ⟨restricted, shape⟩ | ⟨_, contaminated, _, shape⟩ | ⟨plain, clean, quiet, _⟩
  · simp [shape, restricted]
  · simp [shape, contaminated]
  · simp [Outcome.Killed, quiet, plain, clean]

/-- The map changes only when the call goes through and ingests read-only data into a pipe. -/
theorem hook_maps (maps : Maps) (reserved : Bool) (current : Current) (call : Call) :
    (call.hook maps reserved current).1 = maps ∨
      ∃ outId taintMap, isModuleActive maps.stateMap = true ∧
        current.task.getGlobalUid ≠ 0 ∧ ¬ (call.hook maps reserved current).2.Killed ∧
        call.Ingests current outId ∧
        maps.pipeTaintMap.update 0 outId TAINTED_READONLY = some taintMap ∧
        (call.hook maps reserved current).1 = { maps with pipeTaintMap := taintMap } := by
  by_cases ignored : isModuleActive maps.stateMap = false ∨ current.task.getGlobalUid = 0
  · rw [hook_of_ignored reserved ignored]
    exact .inl rfl
  obtain ⟨enabled, unprivileged⟩ := not_or.mp ignored
  rw [Bool.not_eq_false] at enabled
  rcases hook_cases reserved call enabled unprivileged with
    ⟨_, shape⟩ | ⟨_, _, _, shape⟩ | ⟨_, _, quiet, _, same | marked⟩
  · exact .inl (congrArg Prod.fst shape)
  · exact .inl (congrArg Prod.fst shape)
  · exact .inl same
  · obtain ⟨outId, taintMap, ingests, stored, shape⟩ := marked
    refine .inr ⟨outId, taintMap, enabled, unprivileged, ?_, ingests, stored, shape⟩
    simp [Outcome.Killed, quiet]

theorem hook_keeps (maps : Maps) (reserved : Bool) (current : Current) (call : Call) :
    (call.hook maps reserved current).1.stateMap = maps.stateMap ∧
      (call.hook maps reserved current).1.pipeTaintMap.policy = maps.pipeTaintMap.policy := by
  rcases hook_maps maps reserved current call with
    same | ⟨_, _, _, _, _, _, stored, shape⟩
  · rw [same]
    exact ⟨rfl, rfl⟩
  · rw [shape]
    exact ⟨rfl, BoundedMap.update_policy stored⟩

/-- The map does change when there is room for the mark. -/
theorem hook_of_ingests {reserved : Bool} {outId : UInt64}
    {taintMap : BoundedMap UInt64 UInt8} (enabled : isModuleActive maps.stateMap = true)
    (unprivileged : current.task.getGlobalUid ≠ 0)
    (alive : ¬ (call.hook maps reserved current).2.Killed)
    (ingests : call.Ingests current outId)
    (stored : maps.pipeTaintMap.update 0 outId TAINTED_READONLY = some taintMap) :
    (call.hook maps reserved current).1 = { maps with pipeTaintMap := taintMap } := by
  rw [hook_killed_iff enabled unprivileged, not_or] at alive
  obtain ⟨plain, clean⟩ := alive
  obtain ⟨fdIn, fdOut, flags, inMeta, outMeta, rfl, resolvedIn, resolvedOut, readOnly, target⟩ :=
    ingests
  simp only [Call.Restricted, not_not] at plain
  rw [contaminated_splice resolvedIn resolvedOut, not_or, Bool.not_eq_true,
    Bool.not_eq_true] at clean
  obtain ⟨cleanIn, cleanOut⟩ := clean
  simp [Call.hook, ioRestrictSplice, enabled, unprivileged, plain, resolvedIn, resolvedOut,
    cleanIn, cleanOut, target, readOnly, stored]

/-- The hook kills, and names the taint in its alert when the ring buffer has room for it. -/
def Call.TaintKilled (call : Call) (maps : Maps) (current : Current) : Prop :=
  (call.hook maps true current).2.Killed ∧
    ∃ alert ∈ (call.hook maps true current).2.alerts, alert.actionType = ACTION_SPLICE_TAINT

instance (call : Call) (maps : Maps) (current : Current) :
    Decidable (call.TaintKilled maps current) :=
  inferInstanceAs (Decidable (_ ∧ ∃ alert ∈ _, _))

theorem taintKilled_iff : call.TaintKilled maps current ↔
    isModuleActive maps.stateMap = true ∧ current.task.getGlobalUid ≠ 0 ∧
      ¬ call.Restricted ∧ call.Contaminated maps current := by
  unfold Call.TaintKilled
  by_cases ignored : isModuleActive maps.stateMap = false ∨ current.task.getGlobalUid = 0
  · rw [hook_of_ignored true ignored]
    rcases ignored with disabled | root
    · simp [disabled]
    · simp [root]
  obtain ⟨enabled, unprivileged⟩ := not_or.mp ignored
  rw [Bool.not_eq_false] at enabled
  rcases hook_cases true call enabled unprivileged with
    ⟨restricted, shape⟩ | ⟨plain, contaminated, _, shape⟩ | ⟨plain, clean, quiet, _⟩
  · have other : ACTION_SPLICE_FLAGS ≠ ACTION_SPLICE_TAINT := by decide
    simp [shape, restricted, neutralize, dispatchIoAlert, other]
  · simp [shape, enabled, unprivileged, plain, contaminated, neutralize, dispatchIoAlert,
      Outcome.Killed]
  · simp [Outcome.Killed, quiet, clean]

end Verdict

section Release

variable {maps : Maps} {inode : Inode} {file : File}

theorem release_of_disabled (disabled : isModuleActive maps.stateMap = false) :
    ioRestrictPipeRelease maps inode file = maps := by
  simp [ioRestrictPipeRelease, disabled]

/-- Whichever of the pipe's files is released, and however many remain open. -/
theorem release_of_enabled (enabled : isModuleActive maps.stateMap = true)
    (attached : file.privateData ≠ 0) :
    ioRestrictPipeRelease maps inode file =
      { maps with
        pipeTaintMap :=
          maps.pipeTaintMap.delete (generateOpaquePipeId file.privateData inode.iIno) } := by
  simp [ioRestrictPipeRelease, enabled, attached]

theorem release_keeps (maps : Maps) (inode : Inode) (file : File) :
    (ioRestrictPipeRelease maps inode file).stateMap = maps.stateMap ∧
      (ioRestrictPipeRelease maps inode file).pipeTaintMap.policy = maps.pipeTaintMap.policy := by
  unfold ioRestrictPipeRelease
  split
  · exact ⟨rfl, rfl⟩
  · simp only
    split <;> exact ⟨rfl, rfl⟩

end Release

end BouclierBleu.IoRestrict.Hooks
