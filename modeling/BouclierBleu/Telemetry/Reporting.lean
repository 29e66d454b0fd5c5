/- GID: BouclierBleu/Telemetry/Reporting
   source: bpf/*.bpf.c, bpf/headers/vfs_helpers.h, every SEC program
   digest: The programs report what they enforce, and what they let through for want of means. -/

import BouclierBleu.Telemetry.Programs

set_option autoImplicit false
set_option relaxedAutoImplicit false

namespace BouclierBleu.Telemetry.Reporting

open BouclierBleu.DumpRestrict.Hooks
  (dumpRestrictFileOpen dumpRestrictTaskPrctl dumpRestrictBprmCheck)
open BouclierBleu.IoRestrict.Confinement (ioRestrictUringSetup ioRestrictVmsplice)
open BouclierBleu.IoRestrict.Hooks
  (Call Current FileMeta extractFileMeta neutralize S_ISFIFO TAINTED_READONLY ACTION_SPLICE_FLAGS
    ACTION_SPLICE_TAINT ACTION_MAP_EXHAUSTED dispatchIoAlert ioRestrictSplice ioRestrictWrite
    hook_of_ignored)
open BouclierBleu.Kernel.AlertStructs (Endian)
open BouclierBleu.Kernel.ModuleCore (Outcome Task KernelStr isModuleActive SIGKILL EPERM EACCES)
open BouclierBleu.Kernel.VfsHelpers (DirId Dentry Inode)
open BouclierBleu.Library.BoundedMaps (BoundedMap)
open BouclierBleu.MadviseRatelimit.Hook
  (madviseRatelimitSysEnter MADV_DONTNEED RATELIMIT_WINDOW_NS RATELIMIT_THRESHOLD
    dispatchMadviseAlert)
open BouclierBleu.MountSecure.Hooks (mountSecureSbMount mountSecureMoveMount evaluateSecureMount)
open BouclierBleu.PtraceBlock.Hooks
  (ptraceBlockAccessCheck ptraceBlockTraceme ptraceBlockFileOpen triggeredAction)
open BouclierBleu.Shield.Hooks (shieldFileOpen enforcePrivilege)
open BouclierBleu.StrictWx.Hook (enforceStrictWx)
open BouclierBleu.Telemetry.Programs
open BouclierBleu.UsernsRestrict.Hooks
  (usernsRestrictCreate usernsRestrictCapable usernsRestrictSbMount)
open BouclierBleu.Watchlist.ExecBlock (execBlockBprmCheck blockExec)
open BouclierBleu.Watchlist.RenameEntropy (renameEntropyPathRename)

universe u

/-- The operation is refused, or its caller killed. -/
def Enforced {A : Type u} (o : Outcome A) : Prop := o.Denied ∨ o.Killed

/-- The programs that extend a watchlist; they kill a process whose directory finds no room. -/
def Silent : Event → Prop
  | .execBlockVfsExit _ | .renameEntropyVfsExit _ => True
  | _ => False

/-- A pipe is filled from a read-only file, and its taint finds no room. -/
def Untainted (maps : IoRestrict.Hooks.Maps) (current : Current) (fdIn fdOut flags : UInt32) :
    Prop :=
  isModuleActive maps.stateMap = true ∧ current.task.getGlobalUid ≠ 0 ∧
    ¬ (Call.splice fdIn fdOut flags).Restricted ∧
      ∃ outId, (Call.splice fdIn fdOut flags).Ingests current outId ∧
        maps.pipeTaintMap.update 0 outId TAINTED_READONLY = none

/-- What goes on although a program means to stop it: the limiter's signal is not delivered, or
the taint map is full. -/
def LetThrough (maps : Maps) : Event → Prop
  | .madviseRatelimitSysEnter delivered pick task behavior now => delivered = false ∧
    (madviseRatelimitSysEnter maps.madviseRatelimit true true pick task behavior now).2.Killed
  | .ioRestrictSplice current fdIn fdOut flags =>
    Untainted maps.ioRestrict current fdIn fdOut flags
  | _ => False

/-- One alert at most, and one exactly if there is room for it and something to report. -/
structure Candid {A : Type u} (reserved : Bool) (cause : Prop) (o : Outcome A) : Prop where
  single : o.alerts.length ≤ 1
  reported : o.alerts ≠ [] ↔ reserved = true ∧ cause

/-- Candid about what is enforced. -/
def Plain {A : Type u} (reserved : Bool) (o : Outcome A) : Prop := Candid reserved (Enforced o) o

section Outcomes

variable {A : Type u} {reserved : Bool}

private theorem refused : -EPERM < 0 := by decide

private theorem inaccessible : -EACCES < 0 := by decide

theorem not_enforced_quiet : ¬ Enforced (.quiet 0 : Outcome A) := by
  rintro (denied | killed)
  · exact absurd denied (Int.lt_irrefl 0)
  · exact Outcome.not_killed_quiet 0 killed

theorem Plain.quiet : Plain reserved (.quiet 0 : Outcome A) where
  single := Nat.zero_le _
  reported := iff_of_false (fun reported => reported rfl) fun both => not_enforced_quiet both.2

theorem Plain.branch {c : Prop} [Decidable c] {o o' : Outcome A} (first : Plain reserved o)
    (second : Plain reserved o') : Plain reserved (if c then o else o') := by
  by_cases holds : c
  · rw [if_pos holds]
    exact first
  · rw [if_neg holds]
    exact second

private theorem reported_iff (a : A) :
    (if reserved then [a] else []) ≠ [] ↔ reserved = true := by
  cases reserved <;> simp

private theorem length_le (a : A) : (if reserved then [a] else []).length ≤ 1 := by
  cases reserved <;> simp

theorem Plain.of_enforced {o : Outcome A} (enforced : Enforced o) (single : o.alerts.length ≤ 1)
    (reported : o.alerts ≠ [] ↔ reserved = true) : Plain reserved o where
  single := single
  reported := reported.trans (and_iff_left enforced).symm

/-- The common shape of the programs: an alert if there is room, and the verdict. -/
theorem Plain.enforced {ret : Int} {signals : List Nat} (a : A)
    (verdict : ret < 0 ∨ SIGKILL ∈ signals) :
    Plain reserved ⟨ret, if reserved then [a] else [], signals⟩ :=
  .of_enforced verdict (length_le a) (reported_iff a)

theorem Plain.map {B : Type u} {o : Outcome A} (plain : Plain reserved o) (f : A → B) :
    Plain reserved (o.map f) where
  single := (List.length_map f).trans_le plain.single
  reported := (not_congr List.map_eq_nil_iff).trans plain.reported

/-- Candid as well about some cause for which nothing is enforced. -/
structure CandidExcept (reserved : Bool) (passed : Prop) (o : Outcome A) : Prop where
  candid : Candid reserved (Enforced o ∨ passed) o
  passes : passed → ¬ Enforced o

theorem CandidExcept.of_plain {passed : Prop} {o : Outcome A} (stopped : ¬ passed)
    (plain : Plain reserved o) : CandidExcept reserved passed o where
  candid := ⟨plain.single, plain.reported.trans (and_congr_right' (or_iff_left stopped).symm)⟩
  passes := fun passed => absurd passed stopped

theorem CandidExcept.of_passed {passed : Prop} (holds : passed) (a : A) :
    CandidExcept reserved passed ⟨0, if reserved then [a] else [], []⟩ where
  candid := ⟨length_le a, (reported_iff a).trans (and_iff_left (.inr holds)).symm⟩
  passes := by
    rintro - (denied | killed)
    · exact absurd denied (Int.lt_irrefl 0)
    · cases killed

theorem CandidExcept.map {B : Type u} {passed : Prop} {o : Outcome A}
    (candid : CandidExcept reserved passed o) (f : A → B) :
    CandidExcept reserved passed (o.map f) where
  candid := ⟨(List.length_map f).trans_le candid.candid.single,
    (not_congr List.map_eq_nil_iff).trans candid.candid.reported⟩
  passes := candid.passes

end Outcomes

section Hooks

variable (reserved : Bool)

private theorem execBlock_plain (maps : Watchlist.ExecBlock.Maps)
    (shmem : Watchlist.ExecBlock.ShmemLayout) (task : Task)
    (dPath : Watchlist.ExecBlock.DPath) (file : Option Watchlist.ExecBlock.File) :
    Plain reserved (execBlockBprmCheck maps shmem reserved task dPath file) := by
  have blocked : Plain reserved (blockExec maps reserved task dPath) := by
    unfold blockExec
    cases maps.pathBuffer with
    | none => exact .quiet
    | some before => exact .enforced _ (.inl refused)
  unfold execBlockBprmCheck
  apply Plain.branch .quiet
  rcases file with _ | ⟨_ | parent, fInode, seals⟩
  · exact .quiet
  · exact .quiet
  · exact .branch blocked (.branch (.branch blocked .quiet) .quiet)

private theorem renameEntropy_plain (maps : Watchlist.RenameEntropy.Maps)
    (record : List UInt8) (task : Task) (ppid : UInt32) (resolved : Option (List UInt8))
    (oldDir newDir : Dentry) (newName : Watchlist.RenameEntropy.Qstr) :
    Plain reserved
      (renameEntropyPathRename maps (if reserved then some record else none) task ppid resolved
        oldDir newDir newName) := by
  unfold renameEntropyPathRename
  refine .branch .quiet (.branch .quiet (.branch .quiet (.branch .quiet (.branch .quiet ?_))))
  refine .branch ?_ .quiet
  refine .of_enforced (.inl refused) ?_ ?_
  · cases reserved with
    | true => exact Nat.le_refl 1
    | false => exact Nat.zero_le 1
  · cases reserved with
    | true => exact iff_of_true (List.cons_ne_nil _ _) rfl
    | false => exact iff_of_false (fun reported => reported rfl) Bool.false_ne_true

private theorem shieldFileOpen_plain (maps : Shield.Hooks.Maps) (task : Task)
    (file : Shield.Hooks.File) : Plain reserved (shieldFileOpen maps reserved task file) := by
  unfold shieldFileOpen
  refine .branch .quiet (.branch .quiet (.branch .quiet ?_))
  cases file.fInode with
  | none => exact .quiet
  | some fInode => exact .branch .quiet (.branch (.enforced _ (.inl inaccessible)) .quiet)

/-- The two programs for `bpf` and `syslog`. -/
private theorem enforcePrivilege_plain (maps : Shield.Hooks.Maps) (task : Task) (action : UInt32)
    (targetStr : String) : Plain reserved (enforcePrivilege maps reserved task action targetStr) := by
  unfold enforcePrivilege
  exact .branch .quiet (.branch (.enforced _ (.inl refused)) .quiet)

private theorem evaluateSecureMount_plain (maps : MountSecure.Hooks.Maps) (task : Task)
    (devName fsType : KernelStr) (dstPath : MountSecure.Hooks.Path) (allowDPath : Bool) :
    Plain reserved
      (evaluateSecureMount maps reserved task devName fsType dstPath allowDPath) := by
  unfold evaluateSecureMount
  exact .branch (.enforced _ (.inl refused)) .quiet

private theorem enforceStrictWx_plain (maps : StrictWx.Hook.Maps)
    (current : StrictWx.Hook.Current) (prot vmaFlags : UInt64)
    (mappedFile : Option StrictWx.Hook.File) (syscallName : String) :
    Plain reserved
      (enforceStrictWx maps reserved current prot vmaFlags mappedFile syscallName) := by
  unfold enforceStrictWx
  refine .branch .quiet (.branch .quiet ?_)
  cases current.mm with
  | none => exact .quiet
  | some mm => exact .branch (.enforced _ (.inl inaccessible)) .quiet

private theorem ptraceAccessCheck_plain (maps : PtraceBlock.Hooks.Maps) (tracer : Task)
    (child : PtraceBlock.Hooks.Tracee) (mode : UInt32) :
    Plain reserved (ptraceBlockAccessCheck maps reserved tracer child mode) := by
  unfold ptraceBlockAccessCheck
  refine .branch .quiet (.branch .quiet ?_)
  cases triggeredAction maps.protectedProcesses tracer.getGlobalUid child mode with
  | none => exact .quiet
  | some action => exact .enforced _ (.inl inaccessible)

private theorem ptraceTraceme_plain (maps : PtraceBlock.Hooks.Maps) (child : Task)
    (parentTgid parentUid : UInt32) :
    Plain reserved (ptraceBlockTraceme maps reserved child parentTgid parentUid) := by
  unfold ptraceBlockTraceme
  exact .branch .quiet (.branch (.enforced _ (.inl inaccessible)) .quiet)

private theorem ptraceFileOpen_plain (maps : PtraceBlock.Hooks.Maps) (task : Task)
    (file : PtraceBlock.Hooks.File) :
    Plain reserved (ptraceBlockFileOpen maps reserved task file) := by
  unfold ptraceBlockFileOpen
  apply Plain.branch .quiet
  rcases file with ⟨_ | ⟨len, name⟩, fInode⟩
  · exact .quiet
  · apply Plain.branch .quiet
    cases fInode with
    | none => exact .quiet
    | some magic =>
      apply Plain.branch .quiet
      cases name with
      | none => exact .quiet
      | some name => exact .branch (.branch (.enforced _ (.inl inaccessible)) .quiet) .quiet

private theorem dumpFileOpen_plain (maps : DumpRestrict.Hooks.Maps) (task : Task)
    (coreState : Bool) : Plain reserved (dumpRestrictFileOpen maps reserved task coreState) := by
  unfold dumpRestrictFileOpen
  exact .branch .quiet (.branch .quiet (.branch (.enforced _ (.inl inaccessible)) .quiet))

private theorem dumpTaskPrctl_plain (maps : DumpRestrict.Hooks.Maps) (task : Task)
    (option : Int) (arg2 : UInt64) :
    Plain reserved (dumpRestrictTaskPrctl maps reserved task option arg2) := by
  unfold dumpRestrictTaskPrctl
  exact .branch .quiet (.branch (.branch (.enforced _ (.inl refused)) .quiet) .quiet)

/-- A token that is taken off the queue is reported, or is nobody's. -/
private theorem dumpBprmCheck_plain (maps : DumpRestrict.Hooks.Maps) (parentMm : Bool)
    (file : Option (Option Inode)) :
    Plain reserved (dumpRestrictBprmCheck maps reserved parentMm file).2 := by
  unfold dumpRestrictBprmCheck
  rw [apply_ite Prod.snd, apply_ite Prod.snd]
  refine .branch .quiet (.branch .quiet ?_)
  rcases file with _ | _ | inode
  · exact .quiet
  · exact .quiet
  · rw [apply_ite Prod.snd]
    refine .branch ?_ .quiet
    cases maps.pendingCrashBlocks.pop with
    | none => exact .quiet
    | some popped =>
      obtain ⟨payload, queue⟩ := popped
      change Plain reserved (ite _ _ _ : DumpRestrict.Hooks.Maps × Outcome _).2
      rw [apply_ite Prod.snd]
      exact .branch (.enforced _ (.inl refused)) .quiet

private theorem usernsCreate_plain (stateMap : Option UInt32)
    (creator : UsernsRestrict.Hooks.Creator) :
    Plain reserved (usernsRestrictCreate stateMap reserved creator) := by
  unfold usernsRestrictCreate
  refine .branch .quiet (.branch (.enforced _ (.inl refused)) ?_)
  exact .branch (.enforced _ (.inl refused)) (.branch (.enforced _ (.inl refused)) .quiet)

private theorem usernsCapable_plain (stateMap : Option UInt32) (task : Task) (nsLevel : UInt32)
    (cap : Int) : Plain reserved (usernsRestrictCapable stateMap reserved task nsLevel cap) := by
  unfold usernsRestrictCapable
  exact .branch .quiet (.branch .quiet (.branch (.enforced _ (.inl refused)) .quiet))

private theorem usernsSbMount_plain (stateMap : Option UInt32) (task : Task)
    (userNs : Option UInt32) (devName type : KernelStr) :
    Plain reserved (usernsRestrictSbMount stateMap reserved task userNs devName type) := by
  unfold usernsRestrictSbMount
  exact .branch .quiet (.branch (.branch (.enforced _ (.inl refused)) .quiet) .quiet)

private theorem neutralize_plain (task : Task) (actionType : UInt32) (syscallName : String) :
    Plain reserved (neutralize reserved task actionType syscallName) :=
  .enforced _ (.inr List.mem_cons_self)

private theorem uringSetup_plain (stateMap : Option UInt32) (binaries : BoundedMap DirId UInt8)
    (task : Task) (mm : Option IoRestrict.Confinement.Mm) :
    Plain reserved (ioRestrictUringSetup stateMap binaries reserved task mm) := by
  unfold ioRestrictUringSetup
  refine .branch .quiet (.branch .quiet ?_)
  cases mm with
  | none => exact .quiet
  | some mm => exact .branch .quiet (neutralize_plain reserved ..)

private theorem vmsplice_plain (stateMap : Option UInt32) (task : Task) :
    Plain reserved (ioRestrictVmsplice stateMap reserved task) := by
  unfold ioRestrictVmsplice
  exact .branch .quiet (.branch (neutralize_plain reserved ..) .quiet)

private theorem write_plain (maps : IoRestrict.Hooks.Maps) (current : Current) (fd : UInt32) :
    Plain reserved (ioRestrictWrite maps reserved current fd) := by
  unfold ioRestrictWrite
  refine .branch .quiet (.branch .quiet ?_)
  cases extractFileMeta current fd with
  | none => exact .quiet
  | some fileMeta => exact .branch (neutralize_plain reserved ..) .quiet

private theorem sbMount_plain (maps : MountSecure.Hooks.Maps) (task : Task)
    (devName : KernelStr) (path : MountSecure.Hooks.Path) (type : KernelStr) (flags : UInt64) :
    Plain reserved (mountSecureSbMount maps reserved task devName path type flags) := by
  unfold mountSecureSbMount
  exact .branch .quiet (.branch .quiet (evaluateSecureMount_plain reserved ..))

private theorem moveMount_plain (maps : MountSecure.Hooks.Maps)
    (layout : MountSecure.Hooks.MountLayout) (task : Task)
    (fromMnt : MountSecure.Hooks.VfsMount) (toPath : MountSecure.Hooks.Path) :
    Plain reserved (mountSecureMoveMount maps layout reserved task fromMnt toPath) := by
  unfold mountSecureMoveMount
  exact .branch .quiet (.branch .quiet (evaluateSecureMount_plain reserved ..))

/-- The limiter does nothing, or sends its signal and reports it, however that ends. -/
private theorem madvise_cases (maps : MadviseRatelimit.Hook.Maps) (pick : Nat) (task : Task)
    (behavior : Int) (now : UInt64) :
    (∀ reserved delivered,
      (madviseRatelimitSysEnter maps reserved delivered pick task behavior now).2 = .quiet 0) ∨
    ∃ count, ∀ reserved delivered,
      (madviseRatelimitSysEnter maps reserved delivered pick task behavior now).2 =
        ⟨0, dispatchMadviseAlert reserved task count, if delivered then [SIGKILL] else []⟩ := by
  unfold madviseRatelimitSysEnter
  cases isModuleActive maps.stateMap with
  | false => exact .inl fun _ _ => rfl
  | true =>
    by_cases hint : behavior = MADV_DONTNEED
    · cases found : maps.madviseTrackingMap.lookup task.getGlobalUid with
      | none => exact .inl fun _ _ => by simp [hint, found]
      | some state =>
        by_cases expired : now - state.windowStart > RATELIMIT_WINDOW_NS
        · exact .inl fun _ _ => by simp [hint, found, expired]
        · have within : now - state.windowStart ≤ RATELIMIT_WINDOW_NS :=
            UInt64.not_lt.mp expired
          by_cases spam : (state.count + 1).toUInt64 > RATELIMIT_THRESHOLD
          · refine .inr ⟨state.count + 1, fun _ _ => ?_⟩
            simp [-UInt32.toUInt64_add, hint, found, expired, spam]
          · refine .inl fun _ _ => ?_
            simp [-UInt32.toUInt64_add, hint, found, expired, spam]
    · exact .inl fun _ _ => by simp [hint]

private theorem pipeId_of_readOnlyNonPipe {m : FileMeta} (regular : m.readOnlyNonPipe = true) :
    m.pipeId = none := by
  unfold FileMeta.readOnlyNonPipe at regular
  cases fifo : S_ISFIFO m.iMode with
  | false => simp [FileMeta.pipeId, fifo]
  | true => simp [fifo] at regular

/-- A splice ends without effect, with the death of its caller, or with a pipe that is left
untainted. -/
private theorem splice_cases (maps : IoRestrict.Hooks.Maps) (current : Current)
    (fdIn fdOut flags : UInt32) :
    let o := (ioRestrictSplice maps reserved current fdIn fdOut flags).2
    (¬ Untainted maps current fdIn fdOut flags ∧
      (o = .quiet 0 ∨ ∃ action, o = neutralize reserved current.task action "splice")) ∨
    (Untainted maps current fdIn fdOut flags ∧
      o = ⟨0, dispatchIoAlert reserved current.task ACTION_MAP_EXHAUSTED "splice", []⟩) := by
  intro o
  by_cases ignored : isModuleActive maps.stateMap = false ∨ current.task.getGlobalUid = 0
  · refine .inl ⟨?_, .inl ?_⟩
    · rintro ⟨enabled, user, _⟩
      rcases ignored with disabled | root
      · rw [disabled] at enabled
        cases enabled
      · exact user root
    · have unseen : (Call.splice fdIn fdOut flags).hook maps reserved current = (maps, .quiet 0) :=
        hook_of_ignored reserved ignored
      exact congrArg Prod.snd unseen
  obtain ⟨enabled, unprivileged⟩ := not_or.mp ignored
  rw [Bool.not_eq_false] at enabled
  by_cases restricted : (Call.splice fdIn fdOut flags).Restricted
  · refine .inl ⟨fun untainted => untainted.2.2.1 restricted, .inr ⟨ACTION_SPLICE_FLAGS, ?_⟩⟩
    unfold Call.Restricted at restricted
    simp [o, ioRestrictSplice, enabled, unprivileged, restricted]
  have plain := restricted
  unfold Call.Restricted at plain
  rw [not_not] at plain
  -- Past the guards: two open files, the taint check and the marking.
  cases resolvedIn : extractFileMeta current fdIn with
  | none =>
    refine .inl ⟨?_, .inl ?_⟩
    · simp [Untainted, Call.Ingests, resolvedIn]
    · simp [o, ioRestrictSplice, enabled, unprivileged, plain, resolvedIn]
  | some inMeta =>
  cases resolvedOut : extractFileMeta current fdOut with
  | none =>
    refine .inl ⟨?_, .inl ?_⟩
    · simp [Untainted, Call.Ingests, resolvedOut]
    · simp [o, ioRestrictSplice, enabled, unprivileged, plain, resolvedIn, resolvedOut]
  | some outMeta =>
  have untainted_iff : Untainted maps current fdIn fdOut flags ↔ ∃ outId,
      (inMeta.readOnlyNonPipe = true ∧ outMeta.pipeId = some outId) ∧
        maps.pipeTaintMap.update 0 outId TAINTED_READONLY = none := by
    simp [Untainted, Call.Ingests, enabled, unprivileged, restricted, resolvedIn, resolvedOut]
  rw [untainted_iff]
  simp only [o, ioRestrictSplice, enabled, unprivileged, plain, resolvedIn, resolvedOut,
    Bool.not_true, Bool.false_eq_true, if_false, beq_iff_eq, bne_self_eq_false]
  cases taintedIn : inMeta.tainted maps.pipeTaintMap with
  | true =>
    refine .inl ⟨?_, .inr ⟨ACTION_SPLICE_TAINT, rfl⟩⟩
    rintro ⟨_, ⟨regular, _⟩, _⟩
    obtain ⟨id, piped, _⟩ := FileMeta.tainted_iff.mp taintedIn
    rw [pipeId_of_readOnlyNonPipe regular] at piped
    cases piped
  | false =>
    cases target : outMeta.pipeId with
    | none => exact .inl ⟨by simp, .inl rfl⟩
    | some outId =>
      cases taintedOut : outMeta.tainted maps.pipeTaintMap with
      | true =>
        refine .inl ⟨?_, .inr ⟨ACTION_SPLICE_TAINT, rfl⟩⟩
        rintro ⟨id, ⟨_, same⟩, full⟩
        cases same
        obtain ⟨id, piped, present⟩ := FileMeta.tainted_iff.mp taintedOut
        cases target.symm.trans piped
        have absent := (BoundedMap.update_eq_none.mp full).2.2
        rw [present] at absent
        cases absent
      | false =>
        cases ingests : inMeta.readOnlyNonPipe with
        | false => exact .inl ⟨by simp, .inl rfl⟩
        | true =>
          cases stored : maps.pipeTaintMap.update 0 outId TAINTED_READONLY with
          | none => exact .inr ⟨⟨outId, ⟨rfl, rfl⟩, stored⟩, by simp [stored]⟩
          | some taintMap => exact .inl ⟨by simp [stored], .inl (by simp [stored])⟩

private theorem madvise_candid (maps : MadviseRatelimit.Hook.Maps) (delivered : Bool) (pick : Nat)
    (task : Task) (behavior : Int) (now : UInt64) :
    CandidExcept reserved
      (delivered = false ∧
        (madviseRatelimitSysEnter maps true true pick task behavior now).2.Killed)
      (madviseRatelimitSysEnter maps reserved delivered pick task behavior now).2 := by
  rcases madvise_cases maps pick task behavior now with same | ⟨count, same⟩
  · rw [same, same]
    exact .of_plain (fun both => Outcome.not_killed_quiet 0 both.2) .quiet
  · rw [same, same]
    cases delivered with
    | true =>
      exact .of_plain (fun both => Bool.noConfusion both.1)
        (.enforced _ (.inr List.mem_cons_self))
    | false => exact .of_passed ⟨rfl, List.mem_cons_self⟩ _

private theorem splice_candid (maps : IoRestrict.Hooks.Maps) (current : Current)
    (fdIn fdOut flags : UInt32) :
    CandidExcept reserved (Untainted maps current fdIn fdOut flags)
      (ioRestrictSplice maps reserved current fdIn fdOut flags).2 := by
  rcases splice_cases reserved maps current fdIn fdOut flags with ⟨stored, cases⟩ | ⟨full, shape⟩
  · refine .of_plain stored ?_
    rcases cases with still | ⟨action, killed⟩
    · rw [still]
      exact .quiet
    · rw [killed]
      exact neutralize_plain reserved ..
  · rw [shape]
    exact .of_passed full _

variable (e : Endian) (maps : Maps) (prior : Prior)

/-- All but the programs that extend a watchlist. -/
theorem run_candid {event : Event} (candid : ¬ Silent event) :
    CandidExcept reserved (LetThrough maps event) (run e maps reserved prior event).2 := by
  have plain {A : Type} {o : Outcome A} (report : Plain reserved o) (record : A → List UInt8) :
      CandidExcept reserved False (o.map record) := .of_plain id (report.map record)
  cases event with
  | execBlockBprmCheck shmem task dPath file => exact plain (execBlock_plain reserved ..) _
  | execBlockVfsExit exit => exact absurd trivial candid
  | renameEntropyPathRename task ppid resolved oldDir newDir newName =>
    exact plain (renameEntropy_plain reserved ..) _
  | renameEntropyVfsExit exit => exact absurd trivial candid
  | shieldFileOpen task file => exact plain (shieldFileOpen_plain reserved ..) _
  | shieldBpf task => exact plain (enforcePrivilege_plain reserved ..) _
  | shieldSyslog task => exact plain (enforcePrivilege_plain reserved ..) _
  | mountSecureSbMount task devName path type flags => exact plain (sbMount_plain reserved ..) _
  | mountSecureMoveMount layout task fromMnt toPath => exact plain (moveMount_plain reserved ..) _
  | strictWxFileMprotect current vmFile vmFlags prot =>
    exact plain (enforceStrictWx_plain reserved ..) _
  | strictWxMmapFile current file prot => exact plain (enforceStrictWx_plain reserved ..) _
  | ptraceBlockAccessCheck tracer child mode => exact plain (ptraceAccessCheck_plain reserved ..) _
  | ptraceBlockTraceme child parentTgid parentUid =>
    exact plain (ptraceTraceme_plain reserved ..) _
  | ptraceBlockFileOpen task file => exact plain (ptraceFileOpen_plain reserved ..) _
  | dumpRestrictFileOpen task coreState => exact plain (dumpFileOpen_plain reserved ..) _
  | dumpRestrictTaskPrctl task option arg2 => exact plain (dumpTaskPrctl_plain reserved ..) _
  | dumpRestrictObserver task coreState => exact .of_plain id .quiet
  | dumpRestrictBprmCheck parentMm file => exact plain (dumpBprmCheck_plain reserved ..) _
  | usernsRestrictCreate creator => exact plain (usernsCreate_plain reserved ..) _
  | usernsRestrictCapable task nsLevel cap => exact plain (usernsCapable_plain reserved ..) _
  | usernsRestrictSbMount task userNs devName type =>
    exact plain (usernsSbMount_plain reserved ..) _
  | madviseRatelimitSysEnter delivered pick task behavior now =>
    exact (madvise_candid reserved ..).map _
  | ioRestrictUringSetup task mm => exact plain (uringSetup_plain reserved ..) _
  | ioRestrictVmsplice task => exact plain (vmsplice_plain reserved ..) _
  | ioRestrictSplice current fdIn fdOut flags => exact (splice_candid reserved ..).map _
  | ioRestrictWrite current fd => exact plain (write_plain reserved ..) _
  | ioRestrictPipeRelease inode file => exact .of_plain id .quiet

/-- A program that extends a watchlist has no alert to send. -/
theorem run_silent {event : Event} (silent : Silent event) :
    (run e maps reserved prior event).2.alerts = [] ∧ ¬ LetThrough maps event := by
  cases event with
  | execBlockVfsExit exit => exact ⟨rfl, id⟩
  | renameEntropyVfsExit exit => exact ⟨rfl, id⟩
  | _ => cases silent

end Hooks

/-- A program submits one record at most, and one exactly if there is room for it and the program
refuses the operation or kills its caller, or lets something through for want of means; apart
from those that extend a watchlist, whose kills are not reported. -/
theorem reported_iff_enforced (e : Endian) (maps : Maps) (reserved : Bool) (prior : Prior)
    (event : Event) :
    let o := (run e maps reserved prior event).2
    o.alerts.length ≤ 1 ∧ (o.alerts ≠ [] ↔
        reserved = true ∧ (Enforced o ∧ ¬ Silent event ∨ LetThrough maps event)) ∧
      (LetThrough maps event → ¬ Enforced o) := by
  intro o
  by_cases silent : Silent event
  · obtain ⟨none, stopped⟩ := run_silent reserved e maps prior silent
    refine ⟨?_, iff_of_false (fun reported => reported none) ?_,
      fun passed => absurd passed stopped⟩
    · rw [none]
      exact Nat.zero_le _
    · rintro ⟨_, ⟨_, candid⟩ | passed⟩
      · exact candid silent
      · exact stopped passed
  · have candid := run_candid reserved e maps prior silent
    refine ⟨candid.candid.single, ?_, candid.passes⟩
    rw [and_iff_left silent]
    exact candid.candid.reported

end BouclierBleu.Telemetry.Reporting
