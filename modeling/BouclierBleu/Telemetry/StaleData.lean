/- GID: BouclierBleu/Telemetry/StaleData
   source: bpf/*.bpf.c, the population of reserved records; modules/src/*.rs
   digest: When a decoded alert shows nothing but the event it was raised for. -/

import BouclierBleu.Telemetry.Programs

set_option autoImplicit false
set_option relaxedAutoImplicit false

namespace BouclierBleu.Telemetry.StaleData

open BouclierBleu.Kernel.AlertStructs
  (Endian ExecAlert RenameAlert ShieldAlert MountAlert DumpAlert)
open BouclierBleu.Kernel.ModuleCore (Outcome Task KernelStr CStr)
open BouclierBleu.Kernel.VfsHelpers
open BouclierBleu.MountSecure.Hooks (mountSecureSbMount mountSecureMoveMount)
open BouclierBleu.Shield.Hooks (shieldFileOpen)
open BouclierBleu.Watchlist.ExecBlock (execBlockBprmCheck blockExec)
open BouclierBleu.Watchlist.RenameEntropy (renameEntropyPathRename dirPath)
open BouclierBleu.Telemetry.Programs
open BouclierBleu.Telemetry.Reader
open BouclierBleu.Telemetry.Records
open BouclierBleu.Telemetry.Totality (Module stringAt fieldAt)

/-- The alerts user space decodes from what a program submits. -/
def decoded (e : Endian) (maps : Maps) (event : Event) (prior : Prior) :
    List (Except String Parsers.Alert) :=
  (run e maps true prior event).2.alerts.map (event.module.tryFromBytes e)

/-- The path an `exec_block` or a `rename_entropy` alert shows was resolved, or its failure left
a mark of its own. -/
def Resolved : Event → Prop
  | .execBlockBprmCheck _ _ .nameTooLong _ => False
  | .renameEntropyPathRename _ _ none _ _ _ => False
  | _ => True

/-- Across all pasts a hook raises no alert, or always the one given for it. -/
def Alerts {I A : Type} (o : I → Outcome A) (alert : I → A) : Prop :=
  (∀ i, (o i).alerts = []) ∨ ∀ i, (o i).alerts = [alert i]

namespace Alerts

variable {I A : Type} {alert : I → A}

theorem quiet (ret : Int) : Alerts (fun _ : I => (Outcome.quiet ret : Outcome A)) alert :=
  .inl fun _ => rfl

theorem branch {c : Prop} {test : I → Decidable c} {o o' : I → Outcome A} (first : Alerts o alert)
    (second : Alerts o' alert) : Alerts (fun i => @ite _ c (test i) (o i) (o' i)) alert := by
  by_cases holds : c
  · simp only [if_pos holds]
    exact first
  · simp only [if_neg holds]
    exact second

end Alerts

section Unzeroed

private theorem blockExec_alerts (maps : Watchlist.ExecBlock.Maps) (task : Task)
    (dPath : Watchlist.ExecBlock.DPath) :
    Alerts
      (fun prior : Prior =>
        blockExec { maps with pathBuffer := prior.fill maps.pathBuffer } true task dPath)
      fun prior =>
        ⟨task.tgid, .copy 4096 CStr.pathLen_pos (dPath.buffer prior.pathBuffer)⟩ := by
  rcases maps with ⟨stateMap, protectedDirs, pathBuffer⟩
  cases pathBuffer with
  | none => exact .quiet 0
  | some before => exact .inr fun _ => rfl

/-- Whether `exec_block` alerts does not depend on the past, and what it shows is the path
buffer after the attempt to resolve the path. -/
private theorem execBlock_alerts (maps : Watchlist.ExecBlock.Maps)
    (shmem : Watchlist.ExecBlock.ShmemLayout) (task : Task)
    (dPath : Watchlist.ExecBlock.DPath) (file : Option Watchlist.ExecBlock.File) :
    Alerts
      (fun prior : Prior =>
        execBlockBprmCheck { maps with pathBuffer := prior.fill maps.pathBuffer }
          shmem true task dPath file)
      fun prior =>
        ⟨task.tgid, .copy 4096 CStr.pathLen_pos (dPath.buffer prior.pathBuffer)⟩ := by
  have blocked := blockExec_alerts maps task dPath
  unfold execBlockBprmCheck
  dsimp only
  apply Alerts.branch (.quiet 0)
  rcases file with _ | ⟨_ | parent, fInode, seals⟩
  · exact .quiet 0
  · exact .quiet 0
  · exact .branch blocked (.branch (.branch blocked (.quiet 0)) (.quiet 0))

/-- Whether `rename_entropy` alerts does not depend on it either. -/
private theorem renameEntropy_alerts (maps : Watchlist.RenameEntropy.Maps) (task : Task)
    (ppid : UInt32) (resolved : Option (List UInt8)) (oldDir newDir : Dentry)
    (newName : Watchlist.RenameEntropy.Qstr) :
    Alerts
      (fun record =>
        renameEntropyPathRename maps (some record) task ppid resolved oldDir newDir newName)
      fun record =>
        ⟨task.tgid, ppid, dirPath record resolved, .copy 256 CStr.nameLen_pos newName.name⟩ := by
  unfold renameEntropyPathRename
  refine .branch (.quiet 0) (.branch (.quiet 0) (.branch (.quiet 0) (.branch (.quiet 0) ?_)))
  exact .branch (.quiet 0) (.branch (.inr fun _ => rfl) (.quiet 0))

variable (e : Endian) (maps : Maps)

private theorem execBlock_decoded (shmem : Watchlist.ExecBlock.ShmemLayout) (task : Task)
    (dPath : Watchlist.ExecBlock.DPath) (file : Option Watchlist.ExecBlock.File) :
    (∀ prior, decoded e maps (.execBlockBprmCheck shmem task dPath file) prior = []) ∨
    ∀ prior, decoded e maps (.execBlockBprmCheck shmem task dPath file) prior =
      [.ok (.execBlock
        ⟨task.tgid, shown (.copy 4096 CStr.pathLen_pos (dPath.buffer prior.pathBuffer))⟩)] := by
  have shape (prior : Prior) : decoded e maps (.execBlockBprmCheck shmem task dPath file) prior =
      ((execBlockBprmCheck
          { maps.execBlock with pathBuffer := prior.fill maps.execBlock.pathBuffer }
          shmem true task dPath file).alerts.map (execRecord e (prior.record .execBlock))).map
        (Module.execBlock.tryFromBytes e) := rfl
  rcases execBlock_alerts maps.execBlock shmem task dPath file with none_sent | sent
  · left
    intro prior
    rw [shape, none_sent prior]
    rfl
  · right
    intro prior
    rw [shape, sent prior, List.map_singleton, List.map_singleton,
      execRecord_decoded e (prior.length_record .execBlock)]

private theorem renameEntropy_decoded (task : Task) (ppid : UInt32)
    (resolved : Option (List UInt8)) (oldDir newDir : Dentry)
    (newName : Watchlist.RenameEntropy.Qstr) :
    (∀ prior, decoded e maps
      (.renameEntropyPathRename task ppid resolved oldDir newDir newName) prior = []) ∨
    ∀ prior, decoded e maps
      (.renameEntropyPathRename task ppid resolved oldDir newDir newName) prior =
        [.ok (.renameEntropy ⟨task.tgid, ppid, Parsers.joinPath
          (match resolved with
            | some path => shown (.copy 4096 CStr.pathLen_pos path)
            | none => stringAt (prior.record .renameEntropy) (8, 4096))
          (shown (.copy 256 CStr.nameLen_pos newName.name))⟩)] := by
  have shape (prior : Prior) : decoded e maps
      (.renameEntropyPathRename task ppid resolved oldDir newDir newName) prior =
      ((renameEntropyPathRename maps.renameEntropy
          (some (((prior.record .renameEntropy).drop 8).take 4096)) task ppid resolved oldDir newDir
          newName).alerts.map
            (renameRecord e (prior.record .renameEntropy) resolved.isSome)).map
        (Module.renameEntropy.tryFromBytes e) := rfl
  rcases renameEntropy_alerts maps.renameEntropy task ppid resolved oldDir newDir newName with
    none_sent | sent
  · left
    intro prior
    rw [shape, none_sent]
    rfl
  · right
    intro prior
    rw [shape, sent, List.map_singleton, List.map_singleton,
      renameRecord_decoded e (prior.length_record .renameEntropy)]
    cases resolved <;> rfl

end Unzeroed

section Zeroed

variable (e : Endian) (maps : Maps) (prior prior' : Prior)

/-- Both records are the bytes of the struct. -/
private theorem recordOf_past {a : Kernel.AlertStructs.Alert}
    (zeroes : zeroesRecord (moduleOf a) = true) :
    recordOf e (prior.record (moduleOf a)) a = recordOf e (prior'.record (moduleOf a)) a := by
  rw [recordOf_of_zeroes e zeroes (prior.length_record _),
    recordOf_of_zeroes e zeroes (prior'.length_record _)]

private theorem crashRecord_past (payload : DumpAlert) :
    crashRecord e (prior.record .dumpRestrict) payload =
      crashRecord e (prior'.record .dumpRestrict) payload := by
  rw [crashRecord_eq e (prior.length_record _), crashRecord_eq e (prior'.length_record _)]

private theorem submitting_congr {A : Type} {record record' : A → List UInt8} {o o' : Outcome A}
    {maps maps' : Maps} (alerts : o = o') (records : ∀ a, record a = record' a) :
    (submitting maps record o).2.alerts = (submitting maps' record' o').2.alerts := by
  subst alerts
  exact List.map_congr_left fun a _ => records a

private theorem shieldFileOpen_past (maps : Shield.Hooks.Maps) (reserved : Bool) (task : Task)
    (file : Shield.Hooks.File) :
    shieldFileOpen { maps with pathBuffer := prior.fill maps.pathBuffer } reserved task file =
      shieldFileOpen { maps with pathBuffer := prior'.fill maps.pathBuffer } reserved task
        file := by
  rcases maps with ⟨stateMap, protectedFiles, _ | before⟩ <;> rfl

private theorem sbMount_past (maps : MountSecure.Hooks.Maps) (reserved : Bool) (task : Task)
    (devName : KernelStr) (path : MountSecure.Hooks.Path) (type : KernelStr) (flags : UInt64) :
    mountSecureSbMount { maps with pathBuffer := prior.fill maps.pathBuffer } reserved task
        devName path type flags =
      mountSecureSbMount { maps with pathBuffer := prior'.fill maps.pathBuffer } reserved task
        devName path type flags := by
  rcases maps with ⟨stateMap, _ | before⟩ <;> rfl

private theorem moveMount_past (maps : MountSecure.Hooks.Maps)
    (layout : MountSecure.Hooks.MountLayout) (reserved : Bool) (task : Task)
    (fromMnt : MountSecure.Hooks.VfsMount) (toPath : MountSecure.Hooks.Path) :
    mountSecureMoveMount { maps with pathBuffer := prior.fill maps.pathBuffer } layout reserved
        task fromMnt toPath =
      mountSecureMoveMount { maps with pathBuffer := prior'.fill maps.pathBuffer } layout reserved
        task fromMnt toPath := by
  rcases maps with ⟨stateMap, _ | before⟩ <;> rfl

/-- The bytes a program of a module that zeroes its records submits do not depend on the past. -/
private theorem records_past {event : Event} (zeroes : zeroesRecord event.module = true) :
    (run e maps true prior event).2.alerts = (run e maps true prior' event).2.alerts := by
  cases event with
  | execBlockBprmCheck | execBlockVfsExit => cases zeroes
  | renameEntropyPathRename | renameEntropyVfsExit => cases zeroes
  | shieldFileOpen task file =>
    exact submitting_congr (shieldFileOpen_past prior prior' _ true task file)
      fun a => recordOf_past e prior prior' (a := .shield a) rfl
  | shieldBpf | shieldSyslog =>
    exact submitting_congr rfl fun a => recordOf_past e prior prior' (a := .shield a) rfl
  | mountSecureSbMount task devName path type flags =>
    exact submitting_congr (sbMount_past prior prior' _ true task devName path type flags)
      fun a => recordOf_past e prior prior' (a := .mountSecure a) rfl
  | mountSecureMoveMount layout task fromMnt toPath =>
    exact submitting_congr (moveMount_past prior prior' _ layout true task fromMnt toPath)
      fun a => recordOf_past e prior prior' (a := .mountSecure a) rfl
  | strictWxFileMprotect | strictWxMmapFile =>
    exact submitting_congr rfl fun a => recordOf_past e prior prior' (a := .strictWx a) rfl
  | ptraceBlockAccessCheck | ptraceBlockTraceme | ptraceBlockFileOpen =>
    exact submitting_congr rfl fun a => recordOf_past e prior prior' (a := .ptraceBlock a) rfl
  | dumpRestrictFileOpen | dumpRestrictTaskPrctl =>
    exact submitting_congr rfl fun a => recordOf_past e prior prior' (a := .dumpRestrict a) rfl
  | dumpRestrictObserver => rfl
  | dumpRestrictBprmCheck => exact submitting_congr rfl (crashRecord_past e prior prior')
  | usernsRestrictCreate | usernsRestrictCapable | usernsRestrictSbMount =>
    exact submitting_congr rfl fun a => recordOf_past e prior prior' (a := .usernsRestrict a) rfl
  | madviseRatelimitSysEnter =>
    exact submitting_congr rfl fun a => recordOf_past e prior prior' (a := .madviseRatelimit a) rfl
  | ioRestrictUringSetup | ioRestrictVmsplice | ioRestrictSplice | ioRestrictWrite =>
    exact submitting_congr rfl fun a => recordOf_past e prior prior' (a := .ioRestrict a) rfl
  | ioRestrictPipeRelease => rfl

end Zeroed

section Leaks

/-- A past that left one character in both buffers. -/
def leaving (c : UInt8) : Prior where
  memory := fun i => if i = 8 then c else 0
  pathBuffer := [c]

variable {c : UInt8}

private theorem shown_leaving (printable : PrintableBytes [c]) :
    shown (.copy 4096 CStr.pathLen_pos
      (Watchlist.ExecBlock.DPath.nameTooLong.buffer (leaving c).pathBuffer)) = text [c] := by
  have whole : (CStr.copy 4096 CStr.pathLen_pos [c]).bytes = [c] :=
    CStr.copy_bytes_of_noNul CStr.pathLen_pos printable.noNul
  change sanitize (Library.LossyUtf8.lossy (CStr.copy 4096 CStr.pathLen_pos [c]).bytes) = _
  rw [whole, sanitize_lossy_of_printable printable]

private theorem stringAt_leaving (printable : PrintableBytes [c]) :
    stringAt ((leaving c).record .renameEntropy) (8, 4096) = text [c] := by
  have cells : fieldAt ((leaving c).record .renameEntropy) (8, 4096) =
      c :: 0 :: ((List.range' 10 4350).map (leaving c).memory).take 4094 := by
    rw [fieldAt, Prior.record, ← List.map_drop, List.range_eq_range', List.drop_range']
    rfl
  have kept : ¬ c = 0 := printable.noNul c List.mem_cons_self
  rw [stringAt, cells, decodeString, List.takeWhile_cons_of_pos (by simpa using kept),
    List.takeWhile_cons_of_neg (by simp), sanitize_lossy_of_printable printable]

end Leaks

/-- An alert shows the same to user space after every past exactly when its path was resolved. -/
theorem decoded_fresh_iff (e : Endian) (maps : Maps) (event : Event)
    (submits : ∃ prior, decoded e maps event prior ≠ []) :
    (∀ prior prior', decoded e maps event prior = decoded e maps event prior') ↔
      Resolved event := by
  obtain ⟨sample, alerted⟩ := submits
  have zeroed (zeroes : zeroesRecord event.module = true) (prior prior' : Prior) :
      decoded e maps event prior = decoded e maps event prior' :=
    congrArg (List.map (event.module.tryFromBytes e)) (records_past e maps prior prior' zeroes)
  have letterA : PrintableBytes [97] := by decide
  have letterB : PrintableBytes [98] := by decide
  cases event with
  | execBlockBprmCheck shmem task dPath file =>
    rcases execBlock_decoded e maps shmem task dPath file with none_sent | sent
    · exact absurd (none_sent sample) alerted
    · cases dPath with
      | resolved path => exact iff_of_true (fun _ _ => by rw [sent, sent]; rfl) trivial
      | failed => exact iff_of_true (fun _ _ => by rw [sent, sent]; rfl) trivial
      | nameTooLong =>
        refine iff_of_false (fun same => ?_) id
        have leaked := same (leaving 97) (leaving 98)
        rw [sent, sent, shown_leaving letterA, shown_leaving letterB] at leaked
        simp [text] at leaked
  | renameEntropyPathRename task ppid resolved oldDir newDir newName =>
    rcases renameEntropy_decoded e maps task ppid resolved oldDir newDir newName with
      none_sent | sent
    · exact absurd (none_sent sample) alerted
    · cases resolved with
      | some path => exact iff_of_true (fun _ _ => by rw [sent, sent]) trivial
      | none =>
        refine iff_of_false (fun same => ?_) id
        have leaked := same (leaving 97) (leaving 98)
        rw [sent, sent] at leaked
        simp only [stringAt_leaving letterA, stringAt_leaving letterB] at leaked
        simp [text, Parsers.joinPath, Parsers.trimEndMatches, List.rdropWhile] at leaked
  | execBlockVfsExit | renameEntropyVfsExit => exact iff_of_true (fun _ _ => rfl) trivial
  | _ => exact iff_of_true (zeroed rfl) trivial

section Sample

/-- Every module enabled, with one directory on the watchlist of `exec_block`. -/
def sampleMaps : Maps where
  execBlock := ⟨some 1, .single protectedDirsType 8192 protectedDirsMax_pos ⟨11, 1⟩ 1, some []⟩
  renameEntropy := ⟨some 1, .empty protectedDirsType 8192 protectedDirsMax_pos, true⟩
  shield := ⟨some 1, .empty .reject 16 protectedFilesMax_pos, some []⟩
  mountSecure := ⟨some 1, some []⟩
  strictWx := ⟨some 1, .empty .reject 2048 StrictWx.Hook.strictWxMax_pos⟩
  ptraceBlock := ⟨some 1, .empty .reject 256 PtraceBlock.Hooks.protectedProcessesMax_pos⟩
  dumpRestrict := ⟨some 1, .empty .reject 16 protectedFilesMax_pos, .empty⟩
  usernsRestrict := some 1
  madviseRatelimit := ⟨some 1, .empty MadviseRatelimit.Hook.madviseTrackingType 8192
    MadviseRatelimit.Hook.madviseTrackingMax_pos⟩
  ioRestrict := ⟨some 1, .empty IoRestrict.Hooks.pipeTaintType 8192
    IoRestrict.Hooks.pipeTaintMax_pos⟩
  ioRestrictBinaries := .empty .reject 2048 IoRestrict.Confinement.ioRestrictBinariesMax_pos

/-- A file of that directory is executed by a path that is too long to resolve. -/
def deepExec : Event :=
  .execBlockBprmCheck ⟨true, 8, 64⟩ ⟨0x6400000064, 1000, none⟩ .nameTooLong
    (some ⟨some (dentryOf ⟨11, 1⟩), some (inodeOf ⟨20, 1⟩), none⟩)

theorem decoded_fresh_iff_deepExec :
    (∀ prior prior', decoded .little sampleMaps deepExec prior =
      decoded .little sampleMaps deepExec prior') ↔ Resolved deepExec :=
  decoded_fresh_iff .little sampleMaps deepExec ⟨leaving 97, List.cons_ne_nil _ _⟩

/-- The alert shows a path that an earlier run left in the buffer. -/
theorem deepExec_stale :
    decoded .little sampleMaps deepExec (leaving 97) ≠
      decoded .little sampleMaps deepExec (leaving 98) := by
  have shape (prior : Prior) : decoded .little sampleMaps deepExec prior =
      [Module.execBlock.tryFromBytes .little
        (execRecord .little (prior.record .execBlock)
          ⟨100, .copy 4096 CStr.pathLen_pos
            (Watchlist.ExecBlock.DPath.nameTooLong.buffer prior.pathBuffer)⟩)] := rfl
  intro same
  rw [shape, shape, execRecord_decoded _ (Prior.length_record _ _),
    execRecord_decoded _ (Prior.length_record _ _), shown_leaving (by decide),
    shown_leaving (by decide)] at same
  simp [text] at same

end Sample

end BouclierBleu.Telemetry.StaleData
