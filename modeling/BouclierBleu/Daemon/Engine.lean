/- GID: BouclierBleu/Daemon/Engine
   source: core/src/bpf_manager.rs, core/build.rs, modules/src/common/macros.rs
   digest: The module registry, the loaded skeletons and the boot sequence over both. -/

import Mathlib.Data.List.Basic
import Mathlib.Logic.Function.Basic
import Mathlib.Tactic.Common

set_option autoImplicit false
set_option relaxedAutoImplicit false

namespace BouclierBleu.Daemon.Engine

/-- A registry module: its identifiers and its own copy of the enable flag. -/
structure SecurityModule where
  name : String
  slug : String
  isActive : Bool
  deriving DecidableEq

/-- `define_security_module!`: a fresh module is inactive. -/
def SecurityModule.new (name slug : String) : SecurityModule := ⟨name, slug, false⟩

def SecurityModule.status (m : SecurityModule) : Bool := m.isActive

abbrev Registry := List SecurityModule

def buildRegistry : Registry := [
  .new "Untrusted Path Execution Prevention" "exec_block",
  .new "Ransomware Rename Entropy Monitor" "rename_entropy",
  .new "Self-Defense Architecture" "shield",
  .new "Removable Media Neutralizer" "mount_secure",
  .new "Strict Write XOR Execute (W^X)" "strict_wx",
  .new "Process Injection Prevention" "ptrace_block",
  .new "Unprivileged Dump Restriction" "dump_restrict",
  .new "Namespace Escape Monitor" "userns_restrict",
  .new "Race Condition Mitigator" "madvise_ratelimit",
  .new "I/O Confinement Monitor" "io_restrict"]

/-- `available_modules`: one name for each `.bpf.c` file the build compiles. -/
def availableModules : List String := [
  "dump_restrict", "exec_block", "io_restrict", "madvise_ratelimit", "mount_secure",
  "ptrace_block", "rename_entropy", "shield", "strict_wx", "userns_restrict"]

/-- `shared_registry.iter().find(..)` followed by `toggle`: the first module with the slug
takes the flag. -/
def toggleFirst (slug : String) (state : Bool) : Registry → Registry
  | [] => []
  | m :: rest =>
    if m.slug == slug then { m with isActive := state } :: rest
    else m :: toggleFirst slug state rest

/-- The engine and the registry it keeps in step. `stateMap` is the one slot of each loaded
skeleton's `state_map`, and `log` the lines printed so far. -/
structure DaemonState where
  activeSkeletons : List String
  stateMap : String → UInt32
  registry : Registry
  log : List String

/-- `set_module_state`; `updated` is the kernel's answer to the map update. -/
def setModuleState (stateMap : String → UInt32) (name : String) (active updated : Bool) :
    Except String (String → UInt32) :=
  if name ∈ availableModules then
    if updated then .ok (Function.update stateMap name (if active then 1 else 0))
    else .error s!"Failed to synchronize eBPF state_map for {name}"
  else .error s!"Unknown eBPF module '{name}'"

/-- What the environment decides during a boot: the configuration, the fate of every load, of
every first write of a `state_map` and of every `init`, and the order in which the hash map of
skeletons is walked. -/
structure Boot where
  modules : String → Option Bool
  loads : String → Bool
  updates : String → Bool
  inits : String → Option String
  order : List String
  order_perm : order.Perm (availableModules.filter loads)

def Boot.loaded (boot : Boot) : List String := availableModules.filter boot.loads

/-- `daemon_config.modules.get(mod_name).copied().unwrap_or(false)` -/
def Boot.isActive (boot : Boot) (name : String) : Bool := (boot.modules name).getD false

/-- The first half of one turn of the loop in `initialize_active_modules`: the kernel's copy
of the flag. A failure is printed and otherwise ignored. -/
def writeInitialState (boot : Boot) (d : DaemonState) (modName : String) : DaemonState :=
  match setModuleState d.stateMap modName (boot.isActive modName) (boot.updates modName) with
  | .ok stateMap => { d with stateMap := stateMap }
  | .error e =>
    { d with log := d.log ++
      [s!"· [Warning] Failed to initialize kernel state map for {modName}: {e}"] }

/-- The second half: `init`, whose failure is printed too, and the registry's copy. -/
def initUserModule (boot : Boot) (d : DaemonState) (modName : String) : DaemonState :=
  match d.registry.find? (fun m => m.slug == modName) with
  | none => d
  | some _ =>
    { d with
      registry := toggleFirst modName (boot.isActive modName) d.registry
      log :=
        match boot.inits modName with
        | none => d.log
        | some e => d.log ++ [s!"· [Fatal] Module {modName} initialization failed: {e}"] }

def initializeModule (boot : Boot) (d : DaemonState) (modName : String) : DaemonState :=
  initUserModule boot (writeInitialState boot d modName) modName

def initializeActiveModules (boot : Boot) (d : DaemonState) : DaemonState :=
  boot.order.foldl (initializeModule boot) d

/-- The loop of `load_modules`: a fresh `state_map` holds 0, and a skeleton that fails to load
is left out. -/
def loadSkeletons (boot : Boot) (registry : Registry) : DaemonState where
  activeSkeletons := boot.loaded
  stateMap := fun _ => 0
  registry := registry
  log := availableModules.map fun name =>
    if boot.loads name then s!"· Loaded and Attached eBPF module: {name}"
    else s!"· [Fatal] Failed to load module {name}"

def loadModules (boot : Boot) (registry : Registry) : DaemonState :=
  initializeActiveModules boot (loadSkeletons boot registry)

def boot (b : Boot) : DaemonState := loadModules b buildRegistry

section Registry

variable {slug : String} {state : Bool} {registry : Registry}

theorem slugs_toggleFirst :
    (toggleFirst slug state registry).map SecurityModule.slug =
      registry.map SecurityModule.slug := by
  induction registry with
  | nil => rfl
  | cons m rest ih =>
    rw [toggleFirst]
    split
    · rfl
    · rw [List.map_cons, List.map_cons, ih]

/-- With distinct slugs the loop over the registry touches exactly the module meant. -/
theorem toggleFirst_eq_map (nodup : (registry.map SecurityModule.slug).Nodup) :
    toggleFirst slug state registry =
      registry.map fun m => if m.slug = slug then { m with isActive := state } else m := by
  induction registry with
  | nil => rfl
  | cons m rest ih =>
    rw [List.map_cons, List.nodup_cons] at nodup
    rw [toggleFirst, List.map_cons]
    by_cases same : m.slug = slug
    · subst same
      have others : rest.map (fun k => if k.slug = m.slug then { k with isActive := state }
          else k) = rest := by
        conv_rhs => rw [← List.map_id rest]
        apply List.map_congr_left
        intro k member
        have different : k.slug ≠ m.slug := by
          intro equal
          exact nodup.1 (equal ▸ List.mem_map_of_mem member)
        rw [if_neg different, id]
      rw [if_pos (beq_self_eq_true _), if_pos rfl, others]
    · have other : ¬ (m.slug == slug) = true := by
        rwa [beq_iff_eq]
      rw [if_neg other, if_neg same, ih nodup.2]

theorem nodup_buildRegistry : (buildRegistry.map SecurityModule.slug).Nodup := by
  decide

theorem exists_module_of_available :
    ∀ name ∈ availableModules, ∃ m ∈ buildRegistry, m.slug = name := by
  decide

end Registry

/-- The value a successful write of the flag leaves in the kernel. -/
def flag (active : Bool) : UInt32 := if active then 1 else 0

@[simp] theorem flag_eq_one {active : Bool} : flag active = 1 ↔ active = true := by
  cases active <;> simp [flag]

theorem setModuleState_eq {name : String} (known : name ∈ availableModules)
    (stateMap : String → UInt32) (active : Bool) :
    setModuleState stateMap name active true =
      .ok (Function.update stateMap name (flag active)) := by
  rw [setModuleState, if_pos known, if_pos rfl, flag]

/-- An update that succeeds writes the flag of the one module; any other outcome writes
nothing. -/
theorem setModuleState_cases (stateMap : String → UInt32) (name : String)
    (active updated : Bool) :
    (name ∈ availableModules ∧ updated = true ∧
      setModuleState stateMap name active updated =
        .ok (Function.update stateMap name (flag active))) ∨
    (¬ (name ∈ availableModules ∧ updated = true) ∧
      ∃ e, setModuleState stateMap name active updated = .error e) := by
  by_cases known : name ∈ availableModules
  · cases updated with
    | true => exact .inl ⟨known, rfl, setModuleState_eq known stateMap active⟩
    | false =>
      refine .inr ⟨by simp, s!"Failed to synchronize eBPF state_map for {name}", ?_⟩
      rw [setModuleState, if_pos known]
      rfl
  · refine .inr ⟨fun both => known both.1, s!"Unknown eBPF module '{name}'", ?_⟩
    rw [setModuleState, if_neg known]

section Boot

variable (b : Boot) (d : DaemonState) (modName : String)

private theorem writeInitialState_frame :
    (writeInitialState b d modName).activeSkeletons = d.activeSkeletons ∧
      (writeInitialState b d modName).registry = d.registry := by
  unfold writeInitialState
  cases setModuleState d.stateMap modName (b.isActive modName) (b.updates modName) <;>
    exact ⟨rfl, rfl⟩

private theorem writeInitialState_stateMap (name : String) :
    (writeInitialState b d modName).stateMap name =
      if name = modName ∧ modName ∈ availableModules ∧ b.updates modName = true then
        flag (b.isActive modName)
      else d.stateMap name := by
  unfold writeInitialState
  rcases setModuleState_cases d.stateMap modName (b.isActive modName) (b.updates modName) with
    ⟨known, updated, shape⟩ | ⟨refused, e, shape⟩ <;> rw [shape]
  · by_cases same : name = modName
    · subst same
      simp [known, updated]
    · simp [same]
  · rw [if_neg fun all => refused all.2]

private theorem initUserModule_frame :
    (initUserModule b d modName).activeSkeletons = d.activeSkeletons ∧
      (initUserModule b d modName).stateMap = d.stateMap := by
  unfold initUserModule
  cases d.registry.find? (fun m => m.slug == modName) <;> exact ⟨rfl, rfl⟩

private theorem initUserModule_registry
    (nodup : (d.registry.map SecurityModule.slug).Nodup) :
    (initUserModule b d modName).registry =
      d.registry.map fun m =>
        if m.slug = modName then { m with isActive := b.isActive modName } else m := by
  unfold initUserModule
  cases found : d.registry.find? (fun m => m.slug == modName) with
  | some _ => exact toggleFirst_eq_map nodup
  | none =>
    conv_lhs => rw [← List.map_id d.registry]
    apply List.map_congr_left
    intro m member
    have other : m.slug ≠ modName := by
      simpa using List.find?_eq_none.mp found m member
    rw [if_neg other, id]

/-- After a turn for each module of a list: the loaded set is as before, the kernel flags of
the listed modules whose write succeeded carry the configuration, and the registry's copies of
all listed modules do. -/
theorem foldl_initializeModule {d : DaemonState} (names : List String)
    (known : ∀ name ∈ names, name ∈ availableModules)
    (nodup : (d.registry.map SecurityModule.slug).Nodup) :
    (names.foldl (initializeModule b) d).activeSkeletons = d.activeSkeletons ∧
    (∀ name, (names.foldl (initializeModule b) d).stateMap name =
      if name ∈ names ∧ b.updates name = true then flag (b.isActive name)
      else d.stateMap name) ∧
    (names.foldl (initializeModule b) d).registry =
      d.registry.map fun m =>
        if m.slug ∈ names then { m with isActive := b.isActive m.slug } else m := by
  induction names generalizing d with
  | nil => simp
  | cons first rest ih =>
    have written := writeInitialState_frame b d first
    have framed := initUserModule_frame b (writeInitialState b d first) first
    have stored := writeInitialState_stateMap b d first
    have turned : (initializeModule b d first).registry =
        d.registry.map fun m =>
          if m.slug = first then { m with isActive := b.isActive first } else m := by
      have step := initUserModule_registry b (writeInitialState b d first) first
        (by rw [written.2]; exact nodup)
      rwa [written.2] at step
    have slugs : (initializeModule b d first).registry.map SecurityModule.slug =
        d.registry.map SecurityModule.slug := by
      rw [turned, List.map_map]
      apply List.map_congr_left
      intro m _
      by_cases same : m.slug = first <;> simp [same]
    obtain ⟨loaded, flags, registry⟩ :=
      ih (d := initializeModule b d first)
        (fun name member => known name (List.mem_cons_of_mem _ member)) (slugs ▸ nodup)
    rw [List.foldl_cons]
    refine ⟨?_, ?_, ?_⟩
    · rw [loaded, initializeModule, framed.1, written.1]
    · intro name
      rw [flags, initializeModule, framed.2, stored]
      have available := known first List.mem_cons_self
      by_cases same : name = first
      · subst same
        by_cases updated : b.updates name = true <;> simp [available, updated]
      · simp [same]
    · rw [registry, turned, List.map_map]
      apply List.map_congr_left
      intro m _
      by_cases same : m.slug = first
      · subst same
        by_cases later : m.slug ∈ rest <;> simp [later]
      · simp [same]

private theorem order_known : ∀ name ∈ b.order, name ∈ availableModules := by
  intro name member
  exact (List.mem_filter.mp (b.order_perm.mem_iff.mp member)).1

private theorem mem_order_iff (name : String) : name ∈ b.order ↔ name ∈ b.loaded :=
  b.order_perm.mem_iff

theorem boot_activeSkeletons : (boot b).activeSkeletons = b.loaded :=
  (foldl_initializeModule b (d := loadSkeletons b buildRegistry) b.order
    (order_known b) nodup_buildRegistry).1

/-- The kernel's copies after boot: the configured value where the write succeeded, 0 where it
did not. -/
theorem boot_stateMap (name : String) :
    (boot b).stateMap name =
      if name ∈ b.loaded ∧ b.updates name = true then flag (b.isActive name) else 0 := by
  have closed := (foldl_initializeModule b (d := loadSkeletons b buildRegistry) b.order
    (order_known b) nodup_buildRegistry).2.1 name
  simp only [mem_order_iff] at closed
  exact closed

/-- The registry's copies after boot: the configured value for every loaded module, whether
its write succeeded or not. -/
theorem boot_registry :
    (boot b).registry = buildRegistry.map fun m =>
      if m.slug ∈ b.loaded then { m with isActive := b.isActive m.slug } else m := by
  have closed := (foldl_initializeModule b (d := loadSkeletons b buildRegistry) b.order
    (order_known b) nodup_buildRegistry).2.2
  simp only [mem_order_iff] at closed
  exact closed

theorem slugs_boot_registry :
    (boot b).registry.map SecurityModule.slug = buildRegistry.map SecurityModule.slug := by
  rw [boot_registry, List.map_map]
  apply List.map_congr_left
  intro m _
  by_cases loaded : m.slug ∈ b.loaded <;> simp [loaded]

end Boot

end BouclierBleu.Daemon.Engine
