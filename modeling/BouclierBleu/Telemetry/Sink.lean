/- GID: BouclierBleu/Telemetry/Sink
   source: modules/src/common/telemetry.rs
   digest: Which file the alerts are written to, and what leads there. -/

import BouclierBleu.Daemon.PathObjects

set_option autoImplicit false
set_option relaxedAutoImplicit false

namespace BouclierBleu.Telemetry.Sink

open BouclierBleu.Daemon.PathObjects

/-- Which of the calls fail for a reason beyond the objects: a `false` is an error. -/
structure Answers where
  create : Bool
  metadata : Bool
  remove : Bool
  recreate : Bool
  openAlerts : Bool
  openFallback : Bool

/-- The filesystem at the first event: what stands at `/var/log/bouclier-bleu`, with
`alerts.json` as the name inside, and at `/tmp`, with `bouclier_fallback.log`. -/
structure World where
  logDir : Object
  tmp : Object
  answers : Answers

/-- A file that is open for writing: whether one of the last two components of its path is a
link, and the directory its name stands in. -/
structure File where
  linked : Bool
  directory : Directory
  deriving DecidableEq

/-- A call that the system may fail. -/
def attempt {A : Type} (answer : Bool) (result : Except String A) : Except String A :=
  if answer then result else .error "Input/output error (os error 5)"

/-- `ensure_secure_directory`: whether it succeeds, and what it leaves at the path. -/
def ensureSecureDirectory (answers : Answers) (logDir : Object) : Bool × Object :=
  let logDir :=
    match attempt answers.create logDir.createDir with
    | .ok created => created
    | .error _ => logDir
  match if answers.metadata then logDir.metadata else none with
  | none => (false, logDir)
  | some metadata =>
    if !metadata.isDir || metadata.foreign then
      let removalResult :=
        if !metadata.isDir then attempt answers.remove logDir.removeFile
        else attempt answers.remove logDir.removeDirAll
      match removalResult with
      | .error _ => (false, logDir)
      | .ok logDir =>
        match attempt answers.recreate logDir.createDir with
        | .error _ => (false, logDir)
        | .ok logDir => (true, logDir)
    else (true, logDir)

/-- A directory reached by its name, or through a link. -/
def directoryAt : Object → Option (Bool × Directory)
  | .directory d => some (false, d)
  | .symlink (.directory d) => some (true, d)
  | .absent | .file .. | .symlink .missing | .symlink (.file ..) => none

/-- `open_strict_file`: the file may be created, and its name may not be a link. -/
def openStrictFile (answer : Bool) (logDir : Object) : Option File :=
  match directoryAt logDir with
  | none => none
  | some (linked, d) =>
    match d.leaf with
    | .absent | .file => if answer then some ⟨linked, d⟩ else none
    | .directory | .symlink _ => none

/-- `get_fallback_sink`: the file must be there, and its name may be a link. -/
def getFallbackSink (answer : Bool) (tmp : Object) : Option File :=
  match directoryAt tmp with
  | none => none
  | some (linked, d) =>
    match d.leaf with
    | .file => if answer then some ⟨linked, d⟩ else none
    | .symlink true => if answer then some ⟨true, d⟩ else none
    | .absent | .directory | .symlink false => none

/-- The initialisation of `SIEM_LOG_SINK`; without a file every event is dropped. -/
def siemLogSink (w : World) : Option File :=
  match ensureSecureDirectory w.answers w.logDir with
  | (false, _) => getFallbackSink w.answers.openFallback w.tmp
  | (true, logDir) =>
    match openStrictFile w.answers.openAlerts logDir with
    | some file => some file
    | none => getFallbackSink w.answers.openFallback w.tmp

/-- No link leads to the file, and only root can write to its directory. -/
def File.Safe (file : File) : Prop :=
  file.linked = false ∧ file.directory.uid = 0 ∧ file.directory.mode &&& 0o022 = 0

instance (file : File) : Decidable file.Safe := inferInstanceAs (Decidable (_ ∧ _ ∧ _))

/-- Events are dropped or go to a safe file. -/
def SinkSafe (w : World) : Prop := ∀ file, siemLogSink w = some file → file.Safe

/-- An `alerts.json` that can be opened or created. -/
def Openable (d : Directory) : Prop := d.leaf = .absent ∨ d.leaf = .file

instance (d : Directory) : Decidable (Openable d) := inferInstanceAs (Decidable (_ ∨ _))

/-- The checks of the log directory and the opening of `alerts.json` go well. -/
def LogUsable (w : World) : Prop :=
  w.answers.metadata = true ∧ w.answers.openAlerts = true ∧
    match w.logDir with
    | .absent => w.answers.create = true
    | .directory d | .symlink (.directory d) =>
      if d.Trusted then Openable d else w.answers.remove = true ∧ w.answers.recreate = true
    | .file .. | .symlink (.file ..) => w.answers.remove = true ∧ w.answers.recreate = true
    | .symlink .missing => False

/-- Nothing at the fallback path can be opened for writing, or what can is safe. -/
def FallbackHarmless (w : World) : Prop :=
  w.answers.openFallback = false ∨
    match w.tmp with
    | .directory d =>
      d.leaf ≠ .symlink true ∧ (d.leaf = .file → d.uid = 0 ∧ d.mode &&& 0o022 = 0)
    | .symlink (.directory d) => d.leaf ≠ .symlink true ∧ d.leaf ≠ .file
    | .absent | .file .. | .symlink .missing | .symlink (.file ..) => True

/-- The log directory is used and not linked to a trusted directory, or the fallback is used and
is harmless. -/
def Guarded (w : World) : Prop :=
  (LogUsable w ∧ ∀ d, w.logDir = .symlink (.directory d) → ¬ d.Trusted) ∨
    (¬ LogUsable w ∧ FallbackHarmless w)

section LogFile

variable {logDir : Object} {d : Directory}

/-- The checks pass a trusted directory as it is, whether by its name or through a link. -/
theorem ensure_of_trusted (answers : Answers) (trusted : d.Trusted)
    (is : logDir = .directory d ∨ logDir = .symlink (.directory d)) :
    ensureSecureDirectory answers logDir = (answers.metadata, logDir) := by
  have own : d.metadata.foreign = false := by
    rw [← Bool.not_eq_true, Directory.foreign_metadata, not_not]
    exact trusted
  obtain ⟨create, metadata, _, _, _, _⟩ := answers
  rcases is with rfl | rfl <;> cases create <;> cases metadata <;>
    simp [ensureSecureDirectory, attempt, Object.createDir, Object.metadata, own]

/-- What is there but no trusted directory is removed and replaced. -/
theorem ensure_of_untrusted (answers : Answers) {metadata : Metadata}
    (inspected : logDir.metadata = some metadata)
    (unfit : metadata.isDir = false ∨ metadata.foreign = true) :
    (ensureSecureDirectory answers logDir).1 =
        (answers.metadata && answers.remove && answers.recreate) ∧
      ((ensureSecureDirectory answers logDir).1 = true →
        (ensureSecureDirectory answers logDir).2 = .directory created) := by
  have kept : (match attempt answers.create logDir.createDir with
      | .ok created => created
      | .error _ => logDir) = logDir := by
    cases answers.create with
    | false => rfl
    | true =>
      cases logDir with
      | absent => cases inspected
      | file uid mode => rfl
      | directory d => rfl
      | symlink target => cases target <;> rfl
  have test : (!metadata.isDir || metadata.foreign) = true := by
    rcases unfit with other | foreign
    · rw [other]
      rfl
    · rw [foreign, Bool.or_true]
  have removal : (if !metadata.isDir then attempt answers.remove logDir.removeFile
      else attempt answers.remove logDir.removeDirAll) =
      attempt answers.remove (.ok .absent) := by
    cases logDir with
    | absent => cases inspected
    | file uid mode => cases inspected; rfl
    | directory d => cases inspected; rfl
    | symlink target =>
      rw [Object.removeFile, Object.removeDirAll, ite_self]
  rw [ensureSecureDirectory]
  simp only [kept]
  cases answers.metadata with
  | false => exact ⟨rfl, nofun⟩
  | true =>
    simp only [if_true, inspected, test, removal]
    cases answers.remove with
    | false => exact ⟨rfl, nofun⟩
    | true =>
      cases answers.recreate with
      | false => exact ⟨rfl, nofun⟩
      | true => exact ⟨rfl, fun _ => rfl⟩

/-- What is opened in a directory that passed the checks. -/
theorem openStrictFile_eq {linked answer : Bool} (reached : directoryAt logDir = some (linked, d)) :
    openStrictFile answer logDir =
      if answer = true ∧ Openable d then some ⟨linked, d⟩ else none := by
  rw [openStrictFile, reached]
  obtain ⟨uid, mode, leaf⟩ := d
  cases leaf <;> cases answer <;> simp [Openable]

/-- The file behind a usable log directory. -/
def logFile : Object → File
  | .directory d => if d.Trusted then ⟨false, d⟩ else ⟨false, created⟩
  | .symlink (.directory d) => if d.Trusted then ⟨true, d⟩ else ⟨false, created⟩
  | .absent | .file .. | .symlink .missing | .symlink (.file ..) => ⟨false, created⟩

theorem safe_of_trusted (trusted : d.Trusted) : File.Safe ⟨false, d⟩ := by
  have within : (0o022 : UInt32) = 0o777 &&& 0o022 := by decide
  refine ⟨rfl, trusted.1, ?_⟩
  rw [within, ← UInt32.and_assoc, trusted.2]
  decide

theorem safe_logFile_iff (logDir : Object) :
    (logFile logDir).Safe ↔ ∀ d, logDir = .symlink (.directory d) → ¬ d.Trusted := by
  have fresh : File.Safe ⟨false, created⟩ := safe_of_trusted trusted_created
  cases logDir with
  | absent => exact iff_of_true fresh nofun
  | file uid mode => exact iff_of_true fresh nofun
  | directory d =>
    refine iff_of_true ?_ nofun
    rw [logFile]
    split
    · exact safe_of_trusted ‹_›
    · exact fresh
  | symlink target =>
    cases target with
    | missing => exact iff_of_true fresh nofun
    | file uid mode => exact iff_of_true fresh nofun
    | directory d =>
      rw [logFile]
      split
      · exact iff_of_false (fun safe => nomatch safe.1) fun apart => apart d rfl ‹_›
      · refine iff_of_true fresh ?_
        rintro _ ⟨⟩
        exact ‹_›

end LogFile

section Sink

variable {w : World} {d : Directory}

/-- Nothing but the fallback is left when the checks fail. -/
private theorem siemLogSink_of_unchecked
    (failed : (ensureSecureDirectory w.answers w.logDir).1 = false) :
    siemLogSink w = getFallbackSink w.answers.openFallback w.tmp := by
  rw [siemLogSink]
  cases checked : ensureSecureDirectory w.answers w.logDir with
  | mk passed logDir =>
    rw [checked] at failed
    rw [show passed = false from failed]

private theorem siemLogSink_of_checked {logDir : Object} {linked : Bool}
    (checked : ensureSecureDirectory w.answers w.logDir = (true, logDir))
    (reached : directoryAt logDir = some (linked, d)) :
    siemLogSink w =
      if w.answers.openAlerts = true ∧ Openable d then some ⟨linked, d⟩
      else getFallbackSink w.answers.openFallback w.tmp := by
  rw [siemLogSink, checked]
  show (match openStrictFile w.answers.openAlerts logDir with
    | some file => some file
    | none => getFallbackSink w.answers.openFallback w.tmp) = _
  rw [openStrictFile_eq reached]
  by_cases opens : w.answers.openAlerts = true ∧ Openable d
  · rw [if_pos opens, if_pos opens]
  · rw [if_neg opens, if_neg opens]

private theorem openable_created : Openable created := .inl rfl

/-- A log directory that has to be rebuilt is used if that goes well. -/
private theorem siemLogSink_of_untrusted (metadata : Metadata)
    (inspected : w.logDir.metadata = some metadata)
    (unfit : metadata.isDir = false ∨ metadata.foreign = true) :
    siemLogSink w =
      if w.answers.metadata = true ∧ w.answers.openAlerts = true ∧ w.answers.remove = true ∧
          w.answers.recreate = true then some ⟨false, created⟩
      else getFallbackSink w.answers.openFallback w.tmp := by
  obtain ⟨passed, left⟩ := ensure_of_untrusted w.answers inspected unfit
  cases rebuilt : (w.answers.metadata && w.answers.remove && w.answers.recreate) with
  | false =>
    rw [rebuilt] at passed
    rw [siemLogSink_of_unchecked passed, if_neg]
    rintro ⟨metadata, _, remove, recreate⟩
    rw [metadata, remove, recreate] at rebuilt
    cases rebuilt
  | true =>
    rw [rebuilt] at passed
    have checked : ensureSecureDirectory w.answers w.logDir = (true, .directory created) :=
      Prod.ext passed (left passed)
    rw [Bool.and_eq_true, Bool.and_eq_true] at rebuilt
    rw [siemLogSink_of_checked checked rfl]
    simp only [openable_created, and_true, rebuilt, true_and]

/-- A trusted directory is used if its metadata can be read and its file can be opened. -/
private theorem siemLogSink_of_trusted {linked : Bool} (trusted : d.Trusted)
    (is : w.logDir = .directory d ∨ w.logDir = .symlink (.directory d))
    (reached : directoryAt w.logDir = some (linked, d)) :
    siemLogSink w =
      if w.answers.metadata = true ∧ w.answers.openAlerts = true ∧ Openable d then
        some ⟨linked, d⟩
      else getFallbackSink w.answers.openFallback w.tmp := by
  have checked := ensure_of_trusted w.answers trusted is
  cases inspected : w.answers.metadata with
  | false =>
    rw [inspected] at checked
    rw [siemLogSink_of_unchecked (congrArg Prod.fst checked), if_neg]
    exact fun all => nomatch all.1
  | true =>
    rw [inspected] at checked
    rw [siemLogSink_of_checked checked reached]
    simp only [true_and]

private theorem siemLogSink_of_absent (absent : w.logDir = .absent) :
    siemLogSink w =
      if w.answers.metadata = true ∧ w.answers.openAlerts = true ∧ w.answers.create = true then
        some ⟨false, created⟩
      else getFallbackSink w.answers.openFallback w.tmp := by
  obtain ⟨_, tmp, create, metadata, _, _, openAlerts, _⟩ := w
  cases absent
  cases create <;> cases metadata <;> cases openAlerts <;> rfl

private theorem siemLogSink_of_dangling (dangling : w.logDir = .symlink .missing) :
    siemLogSink w = getFallbackSink w.answers.openFallback w.tmp := by
  obtain ⟨_, tmp, create, metadata, _, _, _, _⟩ := w
  cases dangling
  cases create <;> cases metadata <;> rfl

/-- Where one condition decides between a file and the fallback, and is that of a usable log. -/
private theorem cases_of_sink {usable : Prop} [Decidable usable] {file : File}
    (shape : LogUsable w ↔ usable) (named : usable → logFile w.logDir = file)
    (sink : siemLogSink w =
      if usable then some file else getFallbackSink w.answers.openFallback w.tmp) :
    (LogUsable w ∧ siemLogSink w = some (logFile w.logDir)) ∨
      (¬ LogUsable w ∧ siemLogSink w = getFallbackSink w.answers.openFallback w.tmp) := by
  by_cases holds : usable
  · rw [if_pos holds] at sink
    exact .inl ⟨shape.mpr holds, by rw [sink, named holds]⟩
  · rw [if_neg holds] at sink
    exact .inr ⟨mt shape.mp holds, sink⟩

/-- A file, by its name or through a link. -/
private theorem siemLogSink_of_file {uid mode : UInt32}
    (is : w.logDir = .file uid mode ∨ w.logDir = .symlink (.file uid mode)) :
    (LogUsable w ∧ siemLogSink w = some (logFile w.logDir)) ∨
      (¬ LogUsable w ∧ siemLogSink w = getFallbackSink w.answers.openFallback w.tmp) := by
  have inspected : w.logDir.metadata = some ⟨.file, uid, mode⟩ := by
    rcases is with stands | stands <;> rw [stands] <;> rfl
  refine cases_of_sink ?_ (fun _ => ?_) (siemLogSink_of_untrusted _ inspected (.inl rfl))
  · rcases is with stands | stands <;> rw [LogUsable, stands]
  · rcases is with stands | stands <;> rw [stands, logFile]

/-- A directory, by its name or through a link. -/
private theorem siemLogSink_of_directory {linked : Bool}
    (reached : directoryAt w.logDir = some (linked, d))
    (is : w.logDir = .directory d ∨ w.logDir = .symlink (.directory d)) :
    (LogUsable w ∧ siemLogSink w = some (logFile w.logDir)) ∨
      (¬ LogUsable w ∧ siemLogSink w = getFallbackSink w.answers.openFallback w.tmp) := by
  by_cases trusted : d.Trusted
  · refine cases_of_sink ?_ (fun _ => ?_) (siemLogSink_of_trusted trusted is reached)
    · rcases is with stands | stands <;> rw [LogUsable, stands] <;> simp only [if_pos trusted]
    · rcases is with stands | stands <;> rw [stands] at reached ⊢ <;> cases reached <;>
        rw [logFile, if_pos trusted]
  · have inspected : w.logDir.metadata = some d.metadata := by
      rcases is with stands | stands <;> rw [stands] <;> rfl
    have foreign := (Directory.foreign_metadata d).mpr trusted
    refine cases_of_sink ?_ (fun _ => ?_) (siemLogSink_of_untrusted _ inspected (.inr foreign))
    · rcases is with stands | stands <;> rw [LogUsable, stands] <;> simp only [if_neg trusted]
    · rcases is with stands | stands <;> rw [stands, logFile, if_neg trusted]

/-- The log file or the fallback, whatever stands at the path of the log directory. -/
theorem siemLogSink_cases (w : World) :
    (LogUsable w ∧ siemLogSink w = some (logFile w.logDir)) ∨
      (¬ LogUsable w ∧ siemLogSink w = getFallbackSink w.answers.openFallback w.tmp) := by
  cases stands : w.logDir with
  | absent =>
    rw [← stands]
    refine cases_of_sink ?_ (fun _ => by rw [stands, logFile]) (siemLogSink_of_absent stands)
    rw [LogUsable, stands]
  | file uid mode =>
    rw [← stands]
    exact siemLogSink_of_file (.inl stands)
  | directory d =>
    rw [← stands]
    exact siemLogSink_of_directory (by rw [stands]; rfl) (.inl stands)
  | symlink target =>
    rw [← stands]
    cases target with
    | missing =>
      refine .inr ⟨?_, siemLogSink_of_dangling stands⟩
      rw [LogUsable, stands]
      exact fun usable => usable.2.2
    | file uid mode => exact siemLogSink_of_file (.inr stands)
    | directory d => exact siemLogSink_of_directory (by rw [stands]; rfl) (.inr stands)

/-- No fallback is opened if its opening fails, -/
private theorem getFallbackSink_false (tmp : Object) : getFallbackSink false tmp = none := by
  rw [getFallbackSink]
  cases directoryAt tmp with
  | none => rfl
  | some place =>
    obtain ⟨linked, uid, mode, leaf⟩ := place
    rcases leaf with _ | _ | _ | _ | _ <;> rfl

/-- and else what is opened is safe if its name is no link and its directory is safe. -/
private theorem getFallbackSink_safe_iff {tmp : Object} {linked : Bool}
    (reached : directoryAt tmp = some (linked, d)) :
    (∀ file, getFallbackSink true tmp = some file → file.Safe) ↔
      d.leaf ≠ .symlink true ∧ (d.leaf = .file → File.Safe ⟨linked, d⟩) := by
  rw [getFallbackSink, reached]
  obtain ⟨uid, mode, leaf⟩ := d
  rcases leaf with _ | _ | _ | _ | _ <;> simp [File.Safe]

/-- The fallback is safe or dropped exactly if it is harmless. -/
theorem fallback_safe_iff (w : World) :
    (∀ file, getFallbackSink w.answers.openFallback w.tmp = some file → file.Safe) ↔
      FallbackHarmless w := by
  rw [FallbackHarmless]
  cases w.answers.openFallback with
  | false =>
    rw [getFallbackSink_false]
    exact iff_of_true nofun (.inl rfl)
  | true =>
    rw [or_iff_right Bool.noConfusion]
    cases w.tmp with
    | absent => exact iff_of_true nofun trivial
    | file uid mode => exact iff_of_true nofun trivial
    | directory d =>
      rw [getFallbackSink_safe_iff rfl]
      simp [File.Safe]
    | symlink target =>
      cases target with
      | missing => exact iff_of_true nofun trivial
      | file uid mode => exact iff_of_true nofun trivial
      | directory d =>
        rw [getFallbackSink_safe_iff rfl]
        simp [File.Safe]

end Sink

/-- Every event is dropped or written to a safe file exactly if the log directory is usable and
no link to a trusted directory, or is not usable and the fallback is harmless. -/
theorem sinkSafe_iff_guarded (w : World) : SinkSafe w ↔ Guarded w := by
  rcases siemLogSink_cases w with ⟨usable, sink⟩ | ⟨unusable, sink⟩
  · have log : SinkSafe w ↔ (logFile w.logDir).Safe := by
      rw [SinkSafe, sink]
      exact ⟨fun all => all _ rfl, fun safe other is => Option.some.inj is ▸ safe⟩
    rw [log, safe_logFile_iff, Guarded]
    exact ⟨fun apart => .inl ⟨usable, apart⟩,
      fun guarded => (guarded.resolve_right fun other => other.1 usable).2⟩
  · rw [SinkSafe, sink, fallback_safe_iff, Guarded]
    exact ⟨fun harmless => .inr ⟨unusable, harmless⟩,
      fun guarded => (guarded.resolve_left fun other => unusable other.1).2⟩

/-- No call fails for a reason of its own. -/
def allWell : Answers := ⟨true, true, true, true, true, true⟩

/-- The usual `/tmp`, with what stands under the name of the fallback. -/
def usualTmp (leaf : Leaf) : Object := .directory ⟨0, 0o1777, leaf⟩

/-- The log directory is a link to a directory of root's. -/
def linkedLog : World := ⟨.symlink (.directory ⟨0, 0o700, .file⟩), usualTmp .absent, allWell⟩

/-- The log directory is a link to nowhere, and the fallback a link to a file. -/
def linkedFallback : World := ⟨.symlink .missing, usualTmp (.symlink true), allWell⟩

theorem links_reach_sink :
    siemLogSink linkedLog = some ⟨true, ⟨0, 0o700, .file⟩⟩ ∧
      siemLogSink linkedFallback = some ⟨true, ⟨0, 0o1777, .symlink true⟩⟩ ∧
      ¬ SinkSafe linkedLog ∧ ¬ SinkSafe linkedFallback := by
  have log : siemLogSink linkedLog = some ⟨true, ⟨0, 0o700, .file⟩⟩ := by decide
  have fallback : siemLogSink linkedFallback = some ⟨true, ⟨0, 0o1777, .symlink true⟩⟩ := by
    decide
  refine ⟨log, fallback, fun safe => ?_, fun safe => ?_⟩
  · have unlinked := (safe _ log).1
    cases unlinked
  · have unlinked := (safe _ fallback).1
    cases unlinked

end BouclierBleu.Telemetry.Sink
