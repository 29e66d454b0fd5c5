/- GID: BouclierBleu/Daemon/FailedInit
   source: core/src/main.rs, core/src/bpf_manager.rs, modules/src/common/macros.rs
   digest: What becomes of a module whose watchlist could not be set up at boot. -/

import BouclierBleu.Daemon.Forests
import BouclierBleu.Daemon.SecurityModules
import Mathlib.Data.List.Infix

set_option autoImplicit false
set_option relaxedAutoImplicit false

namespace BouclierBleu.Daemon.FailedInit

open BouclierBleu.Daemon.Config
open BouclierBleu.Daemon.Engine
open BouclierBleu.Daemon.Forests (Forest Listing)
open BouclierBleu.Daemon.FsUtils
open BouclierBleu.Daemon.ModuleState (status_boot_iff)
open BouclierBleu.Daemon.SecurityModules
open BouclierBleu.Kernel.ModuleCore (CStr)

/-- What the daemon finds when it starts. `lsm` is what reading `/sys/kernel/security/lsm` gives,
`files` what the search path of the configuration leads to, `answers` the fate of loads and flag
writes, `kernel` the maps of each skeleton before its module's `init`, and `ringBuffer` whether
the telemetry pipeline can be built. -/
structure Startup (M : Type) where
  isRoot : Bool
  lsm : Option (List Char)
  files : List ConfigFile
  answers : Boot
  host : Host
  provider : String → MapProvider M
  kernel : String → M
  ringBuffer : Bool

namespace Startup

variable {M : Type} (s : Startup M)

/-- A run of a module's `init` on the maps of its skeleton. -/
def runInit (slug : String) : Except String Unit × M :=
  match (declarations M).find? fun d => d.slug == slug with
  | some d => execute (d.runInit s.host (s.provider slug)) (s.kernel slug)
  | none => (.ok (), s.kernel slug)

def initError (slug : String) : Option String :=
  match (s.runInit slug).1 with
  | .ok _ => none
  | .error e => some e

def lacksLsm : Bool :=
  match s.lsm with
  | some lsms => !decide ("bpf".toList <:+: lsms)
  | none => false

/-- The boot under a configuration, with the real initialisations. -/
def bootWith (config : DaemonConfig) : Boot :=
  { configured s.answers config with inits := s.initError }

/-- `main` up to the event loop; `none` is a daemon that has stopped. -/
def main : Option DaemonState :=
  if !s.isRoot then none
  else if s.lacksLsm then none
  else
    match DaemonConfig.load s.files with
    | none => none
    | some config =>
      let engine := boot (s.bootWith config)
      if s.ringBuffer then some engine else none

/-- The start is given up before or after the modules are loaded. -/
def Refused : Prop :=
  s.isRoot = false ∨ s.lacksLsm = true ∨ DaemonConfig.load s.files = none ∨ s.ringBuffer = false

end Startup

/-- A module is reported as inactive, and the kernel's copy of its flag is unset. -/
def Inactive (d : DaemonState) (slug : String) : Prop :=
  (∀ m ∈ d.registry, m.slug = slug → m.status = false) ∧ d.stateMap slug = 0

/-- After boot the daemon has stopped, or every module whose `init` failed is inactive. -/
def FailuresInactive {M : Type} (s : Startup M) : Prop :=
  ∀ d, s.main = some d → ∀ slug ∈ s.answers.loaded, s.initError slug ≠ none → Inactive d slug

section Start

variable {M : Type} {s : Startup M} {d : DaemonState}

theorem main_eq_some_iff :
    s.main = some d ↔ ¬ s.Refused ∧
      ∃ config, DaemonConfig.load s.files = some config ∧ d = boot (s.bootWith config) := by
  unfold Startup.main Startup.Refused
  cases s.isRoot with
  | false => simp
  | true =>
    cases s.lacksLsm with
    | true => simp
    | false =>
      cases DaemonConfig.load s.files with
      | none => simp
      | some config =>
        cases s.ringBuffer with
        | false => simp
        | true => simp [eq_comm]

/-- A loaded module is inactive after the boot exactly if it is not enabled: its `init` has no
say in it. -/
theorem inactive_boot_iff {config : DaemonConfig} {slug : String}
    (loaded : slug ∈ s.answers.loaded) :
    Inactive (boot (s.bootWith config)) slug ↔ config.get slug ≠ some true := by
  have active : (s.bootWith config).isActive slug = true ↔ config.get slug = some true := by
    show (config.get slug).getD false = true ↔ _
    cases config.get slug <;> simp
  rw [Ne, ← active]
  constructor
  · intro inactive enabled
    obtain ⟨m, listed, rfl⟩ :=
      exists_module_of_available slug (List.mem_filter.mp loaded).1
    have member : { m with isActive := (s.bootWith config).isActive m.slug } ∈
        (boot (s.bootWith config)).registry := by
      rw [boot_registry]
      exact List.mem_map.mpr ⟨m, listed, if_pos loaded⟩
    have status : (s.bootWith config).isActive m.slug = false := inactive.1 _ member rfl
    rw [enabled] at status
    cases status
  · intro disabled
    constructor
    · rintro m member rfl
      rw [← Bool.not_eq_true, status_boot_iff _ member]
      exact fun both => disabled both.2
    · rw [boot_stateMap]
      split
      · rw [Bool.eq_false_iff.mpr disabled]
        rfl
      · rfl

end Start

section Failures

variable {M A : Type} {update : Update M}

/-- A population that fails leaves the map as it was when an update was refused. -/
def FailsByRefusal (update : Update M) (population : Populating M Unit) : Prop :=
  ∀ m e m', execute population m = (.error e, m') → ∃ key err, update key m' = .error err

theorem failsByRefusal_pure : FailsByRefusal update (pure ()) := by
  intro m e m' run
  rw [execute_pure] at run
  cases run

theorem failsByRefusal_updateMap (describe : String → String) (key : Key) :
    FailsByRefusal update (updateMap update describe key) := by
  intro m e m' run
  rw [execute_updateMap] at run
  cases answer : update key m with
  | ok next =>
    rw [answer] at run
    cases run
  | error err =>
    rw [answer] at run
    cases run
    exact ⟨key, err, answer⟩

theorem failsByRefusal_forM {body : A → Populating M Unit}
    (each : ∀ a, FailsByRefusal update (body a)) (l : List A) :
    FailsByRefusal update (l.forM body) := by
  induction l with
  | nil => exact failsByRefusal_pure
  | cons a l ih =>
    intro m e m' run
    change execute (body a >>= fun _ => l.forM body) m = _ at run
    rw [execute_bind] at run
    cases first : execute (body a) m with
    | mk answer state =>
      rw [first] at run
      cases answer with
      | ok u => exact ih state e m' run
      | error err =>
        cases run
        exact each a m e m' first

variable (host : Host)

theorem failsByRefusal_dynamic (w : DynamicWatchlist) :
    FailsByRefusal update (w.populate host update) := by
  refine failsByRefusal_forM (fun path => failsByRefusal_forM (fun entry => ?_) _) _
  cases w.entryType.isMatch entry with
  | false => exact failsByRefusal_pure
  | true =>
    cases getSecureHardwareKey host.endian host.fs entry.path with
    | none => exact failsByRefusal_pure
    | some key => exact failsByRefusal_updateMap _ key

theorem failsByRefusal_xattr (w : XattrWatchlist) :
    FailsByRefusal update (w.populate host update) := by
  refine failsByRefusal_forM (fun path => failsByRefusal_forM (fun entry => ?_) _) _
  cases entry.fileType == .file with
  | false => exact failsByRefusal_pure
  | true =>
    cases optedInKey host.endian host.fs w.xattrName entry.path with
    | none => exact failsByRefusal_pure
    | some key => exact failsByRefusal_updateMap _ key

private theorem le_protectBinaries (paths : List String) (n : Nat) (m : M) :
    n ≤ (protectBinaries host update paths (n, m)).1 := by
  induction paths generalizing n m with
  | nil => exact Nat.le_refl n
  | cons path paths ih =>
    rw [protectBinaries]
    cases offer host update path m with
    | none => exact ih n m
    | some answer =>
      cases answer with
      | ok m' => exact (Nat.le_succ n).trans (ih (n + 1) m')
      | error err => exact ih n m

/-- No binary was counted exactly if none was taken; the map is then as it was before. -/
theorem protectBinaries_zero_iff (paths : List String) (m : M) :
    (protectBinaries host update paths (0, m)).1 = 0 ↔
      ∀ path ∈ paths, ∀ m', offer host update path m ≠ some (.ok m') := by
  induction paths with
  | nil => simp [protectBinaries]
  | cons path paths ih =>
    rw [protectBinaries, List.forall_mem_cons]
    cases offer host update path m with
    | none => exact ih.trans (and_iff_right fun m' => nofun).symm
    | some answer =>
      cases answer with
      | ok m' =>
        have positive : 1 ≤ (protectBinaries host update paths (1, m')).1 :=
          le_protectBinaries host paths 1 m'
        exact iff_of_false (Nat.ne_of_gt positive) fun untaken => untaken.1 m' rfl
      | error err => exact ih.trans (and_iff_right fun m' => nofun).symm

/-- The last check of ptrace_block's `init` fails it exactly if no binary could be protected. -/
theorem initPtraceBlock_fails_iff {provider : MapProvider M}
    (found : provider "protected_processes" = .ok update) (m : M) :
    (∃ e, (execute (initPtraceBlock M host provider) m).1 = .error e) ↔
      ∀ path ∈ targetBinaries, ∀ m', offer host update path m ≠ some (.ok m') := by
  have run : execute (initPtraceBlock M host provider) m =
      if (protectBinaries host update targetBinaries (0, m)).1 = 0 then
        (.error "Credential protection initialization failed: Watchlist empty",
          (protectBinaries host update targetBinaries (0, m)).2)
      else (.ok (), (protectBinaries host update targetBinaries (0, m)).2) := by
    unfold initPtraceBlock
    rw [execute_bind, execute_getMap, found]
    show execute (if (protectBinaries host update targetBinaries (0, m)).1 == 0 then
      throw "Credential protection initialization failed: Watchlist empty" else pure ())
        (protectBinaries host update targetBinaries (0, m)).2 = _
    by_cases none : (protectBinaries host update targetBinaries (0, m)).1 = 0
    · rw [if_pos none, if_pos (beq_iff_eq.mpr none), execute_throw]
    · rw [if_neg none, if_neg (mt beq_iff_eq.mp none), execute_pure]
  rw [← protectBinaries_zero_iff, run]
  split
  · exact iff_of_true ⟨_, rfl⟩ ‹_›
  · exact iff_of_false (fun failed => nomatch failed) ‹_›

end Failures

section Partial

/-- Two directories to index. -/
def nestedForest : Forest where
  target path :=
    if path = CStr.literal "/tmp" then .directory (.directory (CStr.literal "build") .done .done)
    else .absent
  openPath path := some (some ⟨UInt64.ofNat path.length, 2049⟩)
  openRead _ := none

/-- A map with room for one key. -/
def oneSlot : Update (List Key) := fun key keys =>
  if keys.length < 1 then .ok (key :: keys) else .error "Argument list too long (os error 7)"

/-- exec_block is enabled and loads, and its watchlist does not fit. -/
def overfullStartup : Startup (List Key) where
  isRoot := true
  lsm := none
  files := [⟨true, 0, some (some [("modules", .table [("exec_block", .boolean true)])])⟩]
  answers := { ModuleState.unwrittenBoot with updates := fun _ => true }
  host := ⟨.little, nestedForest.fs, ⟨false, 0, none⟩, none⟩
  provider := fun _ _ => .ok oneSlot
  kernel := fun _ => []
  ringBuffer := true

/-- Half of the watchlist is in the kernel, and the module runs as active. -/
theorem partial_watchlist_active :
    (overfullStartup.runInit "exec_block").2.length = 1 ∧
      overfullStartup.initError "exec_block" ≠ none ∧
      (∃ d, overfullStartup.main = some d ∧ d.stateMap "exec_block" = 1) ∧
      ¬ FailuresInactive overfullStartup := by
  have failed : overfullStartup.initError "exec_block" ≠ none := by decide
  have running : ∃ d, overfullStartup.main = some d ∧ d.stateMap "exec_block" = 1 :=
    ⟨_, rfl, by decide⟩
  refine ⟨by decide, failed, running, fun inactive => ?_⟩
  obtain ⟨d, started, enabled⟩ := running
  have unset := (inactive d started "exec_block" (by decide) failed).2
  rw [enabled] at unset
  exact absurd unset (by decide)

end Partial

/-- Every module whose `init` failed is inactive after boot, or the daemon has stopped, exactly
if the start is refused or the configuration enables no such module. -/
theorem failuresInactive_iff {M : Type} (s : Startup M) :
    FailuresInactive s ↔
      s.Refused ∨ ∃ config, DaemonConfig.load s.files = some config ∧
        ∀ slug ∈ s.answers.loaded, s.initError slug ≠ none → config.get slug ≠ some true := by
  by_cases refused : s.Refused
  · refine iff_of_true (fun d started => ?_) (.inl refused)
    exact absurd refused (main_eq_some_iff.mp started).1
  · rw [or_iff_right refused]
    constructor
    · intro inactive
      cases load : DaemonConfig.load s.files with
      | none => exact absurd (.inr (.inr (.inl load))) refused
      | some config =>
        have started : s.main = some (boot (s.bootWith config)) :=
          main_eq_some_iff.mpr ⟨refused, config, load, rfl⟩
        refine ⟨config, rfl, fun slug loaded failed => ?_⟩
        exact (inactive_boot_iff loaded).mp (inactive _ started slug loaded failed)
    · rintro ⟨config, load, disabled⟩ d started slug loaded failed
      obtain ⟨_, other, read, rfl⟩ := main_eq_some_iff.mp started
      rw [load, Option.some.injEq] at read
      subst read
      exact (inactive_boot_iff loaded).mpr (disabled slug loaded failed)

end BouclierBleu.Daemon.FailedInit
