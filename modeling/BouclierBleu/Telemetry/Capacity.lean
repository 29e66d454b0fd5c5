/- GID: BouclierBleu/Telemetry/Capacity
   source: bpf/*.bpf.c, the bpf_ringbuf_reserve branches
   digest: Verdicts, signals and maps do not depend on whether an alert can be sent. -/

import BouclierBleu.Telemetry.Programs

set_option autoImplicit false
set_option relaxedAutoImplicit false

namespace BouclierBleu.Telemetry.Capacity

open BouclierBleu.Kernel.AlertStructs (Endian)
open BouclierBleu.Kernel.ModuleCore (Outcome Task KernelStr)
open BouclierBleu.Kernel.VfsHelpers
open BouclierBleu.DumpRestrict.Hooks
  (dumpRestrictFileOpen dumpRestrictTaskPrctl dumpRestrictBprmCheck)
open BouclierBleu.IoRestrict.Confinement (ioRestrictUringSetup ioRestrictVmsplice)
open BouclierBleu.IoRestrict.Hooks (ioRestrictSplice ioRestrictWrite)
open BouclierBleu.MadviseRatelimit.Hook (madviseRatelimitSysEnter)
open BouclierBleu.MountSecure.Hooks
  (resolvePath evaluateSecureMount mountSecureSbMount mountSecureMoveMount)
open BouclierBleu.PtraceBlock.Hooks
  (ptraceBlockAccessCheck ptraceBlockTraceme ptraceBlockFileOpen triggeredAction)
open BouclierBleu.Shield.Hooks (shieldFileOpen enforcePrivilege)
open BouclierBleu.StrictWx.Hook (enforceStrictWx)
open BouclierBleu.UsernsRestrict.Hooks
  (usernsRestrictCreate usernsRestrictCapable usernsRestrictSbMount)
open BouclierBleu.Watchlist.ExecBlock (execBlockBprmCheck blockExec)
open BouclierBleu.Watchlist.RenameEntropy (renameEntropyPathRename)
open BouclierBleu.Telemetry.Programs

/-- Two outcomes that differ in nothing but their alerts. -/
structure Agree {A : Type} (o o' : Outcome A) : Prop where
  ret : o.ret = o'.ret
  signals : o.signals = o'.signals

/-- The same for a hook that also returns its maps. -/
structure SameEffect {S A : Type} (p p' : S × Outcome A) : Prop where
  maps : p.1 = p'.1
  outcome : Agree p.2 p'.2

theorem Agree.refl {A : Type} (o : Outcome A) : Agree o o := ⟨rfl, rfl⟩

theorem SameEffect.refl {S A : Type} (p : S × Outcome A) : SameEffect p p := ⟨rfl, .refl _⟩

/-- Two conditionals on one condition are related when their branches are. -/
private theorem rel_ite {B : Type} {R : B → B → Prop} {c : Prop} [Decidable c] {a a' b b' : B}
    (first : R a a') (second : R b b') : R (if c then a else b) (if c then a' else b') := by
  by_cases holds : c
  · rw [if_pos holds, if_pos holds]
    exact first
  · rw [if_neg holds, if_neg holds]
    exact second

theorem SameEffect.submitting {A : Type} {maps maps' : Maps} {record record' : A → List UInt8}
    {o o' : Outcome A} (same : maps = maps') (agree : Agree o o') :
    SameEffect (submitting maps record o) (submitting maps' record' o') :=
  ⟨same, agree.ret, agree.signals⟩

section Hooks

variable (reserved reserved' : Bool) (prior prior' : Prior)

private theorem blockExec_agree (maps : Watchlist.ExecBlock.Maps) (task : Task)
    (dPath : Watchlist.ExecBlock.DPath) :
    Agree (blockExec { maps with pathBuffer := prior.fill maps.pathBuffer } reserved task dPath)
      (blockExec { maps with pathBuffer := prior'.fill maps.pathBuffer } reserved' task dPath) := by
  rcases maps with ⟨stateMap, protectedDirs, pathBuffer⟩
  cases pathBuffer with
  | none => exact .refl _
  | some before => exact ⟨rfl, rfl⟩

private theorem execBlock_agree (maps : Watchlist.ExecBlock.Maps)
    (shmem : Watchlist.ExecBlock.ShmemLayout) (task : Task)
    (dPath : Watchlist.ExecBlock.DPath) (file : Option Watchlist.ExecBlock.File) :
    Agree
      (execBlockBprmCheck { maps with pathBuffer := prior.fill maps.pathBuffer }
        shmem reserved task dPath file)
      (execBlockBprmCheck { maps with pathBuffer := prior'.fill maps.pathBuffer }
        shmem reserved' task dPath file) := by
  have blocked := blockExec_agree reserved reserved' prior prior' maps task dPath
  unfold execBlockBprmCheck
  apply rel_ite (.refl _)
  rcases file with _ | ⟨_ | parent, fInode, seals⟩
  · exact .refl _
  · exact .refl _
  · exact rel_ite blocked (rel_ite (rel_ite blocked (.refl _)) (.refl _))

private theorem renameEntropy_agree (maps : Watchlist.RenameEntropy.Maps)
    (record record' : Option (List UInt8)) (task : Task) (ppid : UInt32)
    (resolved : Option (List UInt8)) (oldDir newDir : Dentry)
    (newName : Watchlist.RenameEntropy.Qstr) :
    Agree (renameEntropyPathRename maps record task ppid resolved oldDir newDir newName)
      (renameEntropyPathRename maps record' task ppid resolved oldDir newDir newName) := by
  unfold renameEntropyPathRename
  refine rel_ite (.refl _) (rel_ite (.refl _) (rel_ite (.refl _) (rel_ite (.refl _) ?_)))
  exact rel_ite (.refl _) (rel_ite ⟨rfl, rfl⟩ (.refl _))

private theorem shieldFileOpen_agree (maps : Shield.Hooks.Maps) (task : Task)
    (file : Shield.Hooks.File) :
    Agree
      (shieldFileOpen { maps with pathBuffer := prior.fill maps.pathBuffer } reserved task file)
      (shieldFileOpen { maps with pathBuffer := prior'.fill maps.pathBuffer } reserved' task
        file) := by
  unfold shieldFileOpen
  refine rel_ite (.refl _) (rel_ite (.refl _) (rel_ite (.refl _) ?_))
  cases file.fInode with
  | none => exact .refl _
  | some fInode => exact rel_ite (.refl _) (rel_ite ⟨rfl, rfl⟩ (.refl _))

private theorem enforcePrivilege_agree (maps : Shield.Hooks.Maps) (task : Task) (action : UInt32)
    (targetStr : String) :
    Agree (enforcePrivilege maps reserved task action targetStr)
      (enforcePrivilege maps reserved' task action targetStr) := by
  unfold enforcePrivilege
  exact rel_ite (.refl _) (rel_ite ⟨rfl, rfl⟩ (.refl _))

/-- The target is judged by the path the hook has just resolved, never by what the buffer held
before. -/
private theorem resolvePath_fill (pathBuffer : Option (List UInt8))
    (dstPath : MountSecure.Hooks.Path) (allowDPath : Bool) :
    resolvePath (prior.fill pathBuffer) dstPath allowDPath =
      resolvePath (prior'.fill pathBuffer) dstPath allowDPath := by
  cases pathBuffer <;> rfl

private theorem evaluateSecureMount_agree (maps : MountSecure.Hooks.Maps) (task : Task)
    (devName fsType : KernelStr) (dstPath : MountSecure.Hooks.Path) (allowDPath : Bool) :
    Agree
      (evaluateSecureMount { maps with pathBuffer := prior.fill maps.pathBuffer } reserved task
        devName fsType dstPath allowDPath)
      (evaluateSecureMount { maps with pathBuffer := prior'.fill maps.pathBuffer } reserved' task
        devName fsType dstPath allowDPath) := by
  unfold evaluateSecureMount
  rw [resolvePath_fill prior prior']
  exact rel_ite ⟨rfl, rfl⟩ (.refl _)

private theorem enforceStrictWx_agree (maps : StrictWx.Hook.Maps)
    (current : StrictWx.Hook.Current) (prot vmaFlags : UInt64)
    (mappedFile : Option StrictWx.Hook.File) (syscallName : String) :
    Agree (enforceStrictWx maps reserved current prot vmaFlags mappedFile syscallName)
      (enforceStrictWx maps reserved' current prot vmaFlags mappedFile syscallName) := by
  unfold enforceStrictWx
  refine rel_ite (.refl _) (rel_ite (.refl _) ?_)
  cases current.mm with
  | none => exact .refl _
  | some mm => exact rel_ite ⟨rfl, rfl⟩ (.refl _)

private theorem ptraceAccessCheck_agree (maps : PtraceBlock.Hooks.Maps) (tracer : Task)
    (child : PtraceBlock.Hooks.Tracee) (mode : UInt32) :
    Agree (ptraceBlockAccessCheck maps reserved tracer child mode)
      (ptraceBlockAccessCheck maps reserved' tracer child mode) := by
  unfold ptraceBlockAccessCheck
  refine rel_ite (.refl _) (rel_ite (.refl _) ?_)
  cases triggeredAction maps.protectedProcesses tracer.getGlobalUid child mode with
  | none => exact .refl _
  | some action => exact ⟨rfl, rfl⟩

private theorem ptraceTraceme_agree (maps : PtraceBlock.Hooks.Maps) (child : Task)
    (parentTgid parentUid : UInt32) :
    Agree (ptraceBlockTraceme maps reserved child parentTgid parentUid)
      (ptraceBlockTraceme maps reserved' child parentTgid parentUid) := by
  unfold ptraceBlockTraceme
  exact rel_ite (.refl _) (rel_ite ⟨rfl, rfl⟩ (.refl _))

private theorem ptraceFileOpen_agree (maps : PtraceBlock.Hooks.Maps) (task : Task)
    (file : PtraceBlock.Hooks.File) :
    Agree (ptraceBlockFileOpen maps reserved task file)
      (ptraceBlockFileOpen maps reserved' task file) := by
  unfold ptraceBlockFileOpen
  apply rel_ite (.refl _)
  rcases file with ⟨_ | ⟨len, name⟩, fInode⟩
  · exact .refl _
  · apply rel_ite (.refl _)
    cases fInode with
    | none => exact .refl _
    | some magic =>
      apply rel_ite (.refl _)
      cases name with
      | none => exact .refl _
      | some name => exact rel_ite (rel_ite ⟨rfl, rfl⟩ (.refl _)) (.refl _)

private theorem dumpFileOpen_agree (maps : DumpRestrict.Hooks.Maps) (task : Task)
    (coreState : Bool) :
    Agree (dumpRestrictFileOpen maps reserved task coreState)
      (dumpRestrictFileOpen maps reserved' task coreState) := by
  unfold dumpRestrictFileOpen
  exact rel_ite (.refl _) (rel_ite (.refl _) (rel_ite ⟨rfl, rfl⟩ (.refl _)))

private theorem dumpTaskPrctl_agree (maps : DumpRestrict.Hooks.Maps) (task : Task)
    (option : Int) (arg2 : UInt64) :
    Agree (dumpRestrictTaskPrctl maps reserved task option arg2)
      (dumpRestrictTaskPrctl maps reserved' task option arg2) := by
  unfold dumpRestrictTaskPrctl
  exact rel_ite (.refl _) (rel_ite (rel_ite ⟨rfl, rfl⟩ (.refl _)) (.refl _))

/-- The token is consumed, and the handler denied, also when its alert is lost. -/
private theorem dumpBprmCheck_same (maps : DumpRestrict.Hooks.Maps) (parentMm : Bool)
    (file : Option (Option Inode)) :
    SameEffect (dumpRestrictBprmCheck maps reserved parentMm file)
      (dumpRestrictBprmCheck maps reserved' parentMm file) := by
  unfold dumpRestrictBprmCheck
  refine rel_ite (.refl _) (rel_ite (.refl _) ?_)
  rcases file with _ | _ | inode
  · exact .refl _
  · exact .refl _
  · apply rel_ite ?_ (.refl _)
    cases maps.pendingCrashBlocks.pop with
    | none => exact .refl _
    | some popped => exact rel_ite ⟨rfl, rfl, rfl⟩ (.refl _)

private theorem usernsCreate_agree (stateMap : Option UInt32)
    (creator : UsernsRestrict.Hooks.Creator) :
    Agree (usernsRestrictCreate stateMap reserved creator)
      (usernsRestrictCreate stateMap reserved' creator) := by
  unfold usernsRestrictCreate
  refine rel_ite (.refl _) (rel_ite ⟨rfl, rfl⟩ (rel_ite ⟨rfl, rfl⟩ ?_))
  exact rel_ite ⟨rfl, rfl⟩ (.refl _)

private theorem usernsCapable_agree (stateMap : Option UInt32) (task : Task) (nsLevel : UInt32)
    (cap : Int) :
    Agree (usernsRestrictCapable stateMap reserved task nsLevel cap)
      (usernsRestrictCapable stateMap reserved' task nsLevel cap) := by
  unfold usernsRestrictCapable
  exact rel_ite (.refl _) (rel_ite (.refl _) (rel_ite ⟨rfl, rfl⟩ (.refl _)))

private theorem usernsSbMount_agree (stateMap : Option UInt32) (task : Task)
    (userNs : Option UInt32) (devName type : KernelStr) :
    Agree (usernsRestrictSbMount stateMap reserved task userNs devName type)
      (usernsRestrictSbMount stateMap reserved' task userNs devName type) := by
  unfold usernsRestrictSbMount
  exact rel_ite (.refl _) (rel_ite (rel_ite ⟨rfl, rfl⟩ (.refl _)) (.refl _))

/-- The counter is reset for the kill alone, and the kill does not wait for the alert. -/
private theorem madvise_same (maps : MadviseRatelimit.Hook.Maps) (delivered : Bool) (pick : Nat)
    (task : Task) (behavior : Int) (now : UInt64) :
    SameEffect (madviseRatelimitSysEnter maps reserved delivered pick task behavior now)
      (madviseRatelimitSysEnter maps reserved' delivered pick task behavior now) := by
  unfold madviseRatelimitSysEnter
  refine rel_ite (.refl _) (rel_ite (.refl _) ?_)
  dsimp only
  cases maps.madviseTrackingMap.lookup task.getGlobalUid with
  | none => exact .refl _
  | some state => exact rel_ite (.refl _) (rel_ite ⟨rfl, rfl, rfl⟩ (.refl _))

private theorem uringSetup_agree (stateMap : Option UInt32)
    (binaries : Library.BoundedMaps.BoundedMap DirId UInt8) (task : Task)
    (mm : Option IoRestrict.Confinement.Mm) :
    Agree (ioRestrictUringSetup stateMap binaries reserved task mm)
      (ioRestrictUringSetup stateMap binaries reserved' task mm) := by
  unfold ioRestrictUringSetup
  refine rel_ite (.refl _) (rel_ite (.refl _) ?_)
  cases mm with
  | none => exact .refl _
  | some mm => exact rel_ite (.refl _) ⟨rfl, rfl⟩

private theorem vmsplice_agree (stateMap : Option UInt32) (task : Task) :
    Agree (ioRestrictVmsplice stateMap reserved task)
      (ioRestrictVmsplice stateMap reserved' task) := by
  unfold ioRestrictVmsplice
  exact rel_ite (.refl _) (rel_ite ⟨rfl, rfl⟩ (.refl _))

private theorem splice_same (maps : IoRestrict.Hooks.Maps) (current : IoRestrict.Hooks.Current)
    (fdIn fdOut flags : UInt32) :
    SameEffect (ioRestrictSplice maps reserved current fdIn fdOut flags)
      (ioRestrictSplice maps reserved' current fdIn fdOut flags) := by
  unfold ioRestrictSplice
  refine rel_ite (.refl _) (rel_ite (.refl _) (rel_ite ⟨rfl, rfl, rfl⟩ ?_))
  cases IoRestrict.Hooks.extractFileMeta current fdIn with
  | none => exact .refl _
  | some inMeta =>
    cases IoRestrict.Hooks.extractFileMeta current fdOut with
    | none => exact .refl _
    | some outMeta =>
      apply rel_ite ⟨rfl, rfl, rfl⟩
      cases outMeta.pipeId with
      | none => exact .refl _
      | some outId =>
        refine rel_ite ⟨rfl, rfl, rfl⟩ (rel_ite ?_ (.refl _))
        cases maps.pipeTaintMap.update 0 outId IoRestrict.Hooks.TAINTED_READONLY with
        | none => exact ⟨rfl, rfl, rfl⟩
        | some taintMap => exact .refl _

private theorem write_agree (maps : IoRestrict.Hooks.Maps) (current : IoRestrict.Hooks.Current)
    (fd : UInt32) :
    Agree (ioRestrictWrite maps reserved current fd)
      (ioRestrictWrite maps reserved' current fd) := by
  unfold ioRestrictWrite
  refine rel_ite (.refl _) (rel_ite (.refl _) ?_)
  cases IoRestrict.Hooks.extractFileMeta current fd with
  | none => exact .refl _
  | some fileMeta => exact rel_ite ⟨rfl, rfl⟩ (.refl _)

private theorem sbMount_agree (maps : MountSecure.Hooks.Maps) (task : Task)
    (devName : KernelStr) (path : MountSecure.Hooks.Path) (type : KernelStr) (flags : UInt64) :
    Agree
      (mountSecureSbMount { maps with pathBuffer := prior.fill maps.pathBuffer } reserved task
        devName path type flags)
      (mountSecureSbMount { maps with pathBuffer := prior'.fill maps.pathBuffer } reserved' task
        devName path type flags) := by
  unfold mountSecureSbMount
  refine rel_ite (.refl _) (rel_ite (.refl _) ?_)
  exact evaluateSecureMount_agree reserved reserved' prior prior' maps task devName type path true

private theorem moveMount_agree (maps : MountSecure.Hooks.Maps)
    (layout : MountSecure.Hooks.MountLayout) (task : Task)
    (fromMnt : MountSecure.Hooks.VfsMount) (toPath : MountSecure.Hooks.Path) :
    Agree
      (mountSecureMoveMount { maps with pathBuffer := prior.fill maps.pathBuffer } layout reserved
        task fromMnt toPath)
      (mountSecureMoveMount { maps with pathBuffer := prior'.fill maps.pathBuffer } layout
        reserved' task fromMnt toPath) := by
  unfold mountSecureMoveMount
  refine rel_ite (.refl _) (rel_ite (.refl _) ?_)
  exact evaluateSecureMount_agree reserved reserved' prior prior' maps task _ _ toPath false

/-- No program looks at the reservation, or at what earlier runs left in its buffers, for
anything but its alert. -/
private theorem run_same (e : Endian) (maps : Maps) (event : Event) :
    SameEffect (run e maps reserved prior event) (run e maps reserved' prior' event) := by
  cases event with
  | execBlockBprmCheck shmem task dPath file =>
    exact .submitting rfl (execBlock_agree reserved reserved' prior prior' _ shmem task dPath file)
  | execBlockVfsExit exit => exact .refl _
  | renameEntropyPathRename task ppid resolved oldDir newDir newName =>
    exact .submitting rfl (renameEntropy_agree _ _ _ task ppid resolved oldDir newDir newName)
  | renameEntropyVfsExit exit => exact .refl _
  | shieldFileOpen task file =>
    exact .submitting rfl (shieldFileOpen_agree reserved reserved' prior prior' _ task file)
  | shieldBpf task => exact .submitting rfl (enforcePrivilege_agree reserved reserved' _ task _ _)
  | shieldSyslog task =>
    exact .submitting rfl (enforcePrivilege_agree reserved reserved' _ task _ _)
  | mountSecureSbMount task devName path type flags =>
    exact .submitting rfl
      (sbMount_agree reserved reserved' prior prior' _ task devName path type flags)
  | mountSecureMoveMount layout task fromMnt toPath =>
    exact .submitting rfl
      (moveMount_agree reserved reserved' prior prior' _ layout task fromMnt toPath)
  | strictWxFileMprotect current vmFile vmFlags prot =>
    exact .submitting rfl (enforceStrictWx_agree reserved reserved' _ current prot vmFlags vmFile _)
  | strictWxMmapFile current file prot =>
    exact .submitting rfl (enforceStrictWx_agree reserved reserved' _ current prot 0 file _)
  | ptraceBlockAccessCheck tracer child mode =>
    exact .submitting rfl (ptraceAccessCheck_agree reserved reserved' _ tracer child mode)
  | ptraceBlockTraceme child parentTgid parentUid =>
    exact .submitting rfl (ptraceTraceme_agree reserved reserved' _ child parentTgid parentUid)
  | ptraceBlockFileOpen task file =>
    exact .submitting rfl (ptraceFileOpen_agree reserved reserved' _ task file)
  | dumpRestrictFileOpen task coreState =>
    exact .submitting rfl (dumpFileOpen_agree reserved reserved' _ task coreState)
  | dumpRestrictTaskPrctl task option arg2 =>
    exact .submitting rfl (dumpTaskPrctl_agree reserved reserved' _ task option arg2)
  | dumpRestrictObserver task coreState => exact .refl _
  | dumpRestrictBprmCheck parentMm file =>
    have same := dumpBprmCheck_same reserved reserved' maps.dumpRestrict parentMm file
    exact .submitting (congrArg (fun dumpRestrict => { maps with dumpRestrict }) same.maps)
      same.outcome
  | usernsRestrictCreate creator =>
    exact .submitting rfl (usernsCreate_agree reserved reserved' _ creator)
  | usernsRestrictCapable task nsLevel cap =>
    exact .submitting rfl (usernsCapable_agree reserved reserved' _ task nsLevel cap)
  | usernsRestrictSbMount task userNs devName type =>
    exact .submitting rfl (usernsSbMount_agree reserved reserved' _ task userNs devName type)
  | madviseRatelimitSysEnter delivered pick task behavior now =>
    have same := madvise_same reserved reserved' maps.madviseRatelimit delivered pick task
      behavior now
    exact .submitting (congrArg (fun madviseRatelimit => { maps with madviseRatelimit }) same.maps)
      same.outcome
  | ioRestrictUringSetup task mm =>
    exact .submitting rfl (uringSetup_agree reserved reserved' _ _ task mm)
  | ioRestrictVmsplice task => exact .submitting rfl (vmsplice_agree reserved reserved' _ task)
  | ioRestrictSplice current fdIn fdOut flags =>
    have same := splice_same reserved reserved' maps.ioRestrict current fdIn fdOut flags
    exact .submitting (congrArg (fun ioRestrict => { maps with ioRestrict }) same.maps)
      same.outcome
  | ioRestrictWrite current fd =>
    exact .submitting rfl (write_agree reserved reserved' _ current fd)
  | ioRestrictPipeRelease inode file => exact .refl _

end Hooks

/-- Whether the reservation succeeds or fails, a program returns the same verdict, sends the
same signals and leaves the same maps. -/
theorem enforcement_independent (e : Endian) (maps : Maps) (prior prior' : Prior) (event : Event) :
    let full := run e maps true prior event
    let flooded := run e maps false prior' event
    full.2.ret = flooded.2.ret ∧ full.2.signals = flooded.2.signals ∧ full.1 = flooded.1 :=
  have same := run_same true false prior prior' e maps event
  ⟨same.outcome.ret, same.outcome.signals, same.maps⟩

/-- What telemetry leaves to chance at one event. -/
structure Chance where
  reserved : Bool
  prior : Prior

/-- A sequence of events: the maps afterwards, with the verdict and the signals of each. -/
def runs (e : Endian) (maps : Maps) : List (Chance × Event) → Maps × List (Int × List Nat)
  | [] => (maps, [])
  | (chance, event) :: rest =>
    let (maps', outcome) := run e maps chance.reserved chance.prior event
    let (final, verdicts) := runs e maps' rest
    (final, (outcome.ret, outcome.signals) :: verdicts)

private theorem runs_cons (e : Endian) (maps : Maps) (chance : Chance) (event : Event)
    (rest : List (Chance × Event)) :
    runs e maps ((chance, event) :: rest) =
      let first := run e maps chance.reserved chance.prior event
      ((runs e first.1 rest).1,
        (first.2.ret, first.2.signals) :: (runs e first.1 rest).2) := rfl

/-- A flood of the ring buffer, however long, changes neither a later verdict nor the maps. -/
theorem runs_independent (e : Endian) (maps : Maps) {steps others : List (Chance × Event)}
    (events : steps.map Prod.snd = others.map Prod.snd) :
    runs e maps steps = runs e maps others := by
  induction steps generalizing maps others with
  | nil =>
    cases others with
    | nil => rfl
    | cons step rest => cases events
  | cons step rest ih =>
    cases others with
    | nil => cases events
    | cons step' rest' =>
      obtain ⟨chance, event⟩ := step
      obtain ⟨chance', event'⟩ := step'
      obtain ⟨first, later⟩ := List.cons.inj events
      change event = event' at first
      subst first
      have same := run_same chance.reserved chance'.reserved chance.prior chance'.prior e maps event
      rw [runs_cons, runs_cons]
      dsimp only
      rw [same.maps, same.outcome.ret, same.outcome.signals, ih _ later]

end BouclierBleu.Telemetry.Capacity
