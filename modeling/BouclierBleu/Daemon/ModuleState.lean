/- GID: BouclierBleu/Daemon/ModuleState
   source: core/src/actor.rs, core/src/bpf_manager.rs
   digest: When the module states the daemon reports are the ones the kernel enforces. -/

import BouclierBleu.Daemon.Engine
import BouclierBleu.Library.Trace

set_option autoImplicit false
set_option relaxedAutoImplicit false

namespace BouclierBleu.Daemon.ModuleState

open BouclierBleu.Daemon.Engine
open BouclierBleu.Library.Trace (Move Run)

inductive DaemonCmd
  | status
  | list
  | enable (target : String)
  | disable (target : String)

/-- `toggle_module`; `updated` is the kernel's answer to the map update. -/
def toggleModule (d : DaemonState) (target : String) (enable updated : Bool) :
    DaemonState × String :=
  let stateStr := if enable then "ENABLED" else "DISABLED"
  if target ∈ d.activeSkeletons then
    match setModuleState d.stateMap target enable updated with
    | .ok stateMap =>
      ({ d with
          stateMap := stateMap
          registry := toggleFirst target enable d.registry },
        s!"SUCCESS: Defense module '{target}' {stateStr} via state synchronization\n")
    | .error e => (d, s!"ERROR: Failed to update kernel state for '{target}': {e}\n")
  else if enable then
    (d, s!"ERROR: Module '{target}' is not loaded in kernel memory. Check daemon boot logs or restart the service to load new modules.\n")
  else (d, s!"ERROR: Module '{target}' is not currently active\n")

def listLine (active : Bool) (m : SecurityModule) : String :=
  let state := if active then "[ACTIVE]  " else "[INACTIVE]"
  s!" {state} {m.slug} ({m.name})\n"

def handleCommand (d : DaemonState) (cmd : DaemonCmd) (updated : Bool) : DaemonState × String :=
  match cmd with
  | .status => (d, "Bouclier Bleu EDR Status: Kernel Engine Running\n")
  | .list =>
    (d, d.registry.foldl (fun out m => out ++ listLine m.status m) "MODULE REGISTRY:\n")
  | .enable target => toggleModule d target true updated
  | .disable target => toggleModule d target false updated

/-- A command and the kernel's answer to the map update it may ask for. -/
structure Request where
  cmd : DaemonCmd
  updated : Bool

def Step (d : DaemonState) (request : Request) (d' : DaemonState) : Prop :=
  (handleCommand d request.cmd request.updated).1 = d'

def Enforced (d : DaemonState) (slug : String) : Prop :=
  slug ∈ d.activeSkeletons ∧ d.stateMap slug = 1

instance (d : DaemonState) (slug : String) : Decidable (Enforced d slug) :=
  inferInstanceAs (Decidable (_ ∧ _))

/-- Every registry module reports what the kernel enforces. -/
def Truthful (d : DaemonState) : Prop :=
  ∀ m ∈ d.registry, m.status = true ↔ Enforced d m.slug

/-- In a truthful state the `List` reply is the listing of the kernel's flags. -/
theorem list_reply_of_truthful {d : DaemonState} (truthful : Truthful d) (updated : Bool) :
    (handleCommand d .list updated).2 =
      d.registry.foldl (fun out m => out ++ listLine (decide (Enforced d m.slug)) m)
        "MODULE REGISTRY:\n" := by
  apply List.foldl_ext
  intro out m member
  have agree : m.status = decide (Enforced d m.slug) := by
    rw [Bool.eq_iff_iff, decide_eq_true_iff]
    exact truthful m member
  rw [agree]

section Commands

variable (d : DaemonState) (target : String) (enable updated : Bool)

/-- A toggle changes nothing, or writes both copies of the flag of one loaded module. -/
theorem toggleModule_cases :
    (toggleModule d target enable updated).1 = d ∨
    (target ∈ d.activeSkeletons ∧
      (toggleModule d target enable updated).1 =
        { d with
          stateMap := Function.update d.stateMap target (flag enable)
          registry := toggleFirst target enable d.registry }) := by
  unfold toggleModule
  by_cases loaded : target ∈ d.activeSkeletons
  · rcases setModuleState_cases d.stateMap target enable updated with
      ⟨_, _, shape⟩ | ⟨_, e, shape⟩
    · exact .inr ⟨loaded, by rw [if_pos loaded, shape]⟩
    · exact .inl (by rw [if_pos loaded, shape])
  · left
    cases enable <;> rw [if_neg loaded] <;> rfl

/-- A toggle that writes nothing leaves the state as it was. -/
theorem toggleModule_of_unwritten
    (unwritten : ¬ (target ∈ d.activeSkeletons ∧ target ∈ availableModules ∧ updated = true)) :
    (toggleModule d target enable updated).1 = d := by
  unfold toggleModule
  by_cases loaded : target ∈ d.activeSkeletons
  · rcases setModuleState_cases d.stateMap target enable updated with
      ⟨known, accepted, _⟩ | ⟨_, e, shape⟩
    · exact absurd ⟨loaded, known, accepted⟩ unwritten
    · rw [if_pos loaded, shape]
  · cases enable <;> rw [if_neg loaded] <;> rfl

private theorem toggleModule_keeps (nodup : (d.registry.map SecurityModule.slug).Nodup)
    (truthful : Truthful d) : Truthful (toggleModule d target enable updated).1 := by
  rcases toggleModule_cases d target enable updated with shape | ⟨loaded, shape⟩ <;> rw [shape]
  · exact truthful
  · intro m' member'
    rw [toggleFirst_eq_map nodup] at member'
    obtain ⟨m, member, rfl⟩ := List.mem_map.mp member'
    by_cases same : m.slug = target
    · rw [if_pos same]
      simp [SecurityModule.status, Enforced, same, loaded]
    · rw [if_neg same]
      have before := truthful m member
      simpa [Enforced, same] using before

/-- What every command keeps: distinct slugs, and truthfulness with them. -/
def Sound (d : DaemonState) : Prop :=
  (d.registry.map SecurityModule.slug).Nodup ∧ Truthful d

theorem step_keeps_sound {d d' : DaemonState} (request : Request) (taken : Step d request d')
    (sound : Sound d) :
    Sound d' := by
  subst taken
  have toggled (target : String) (enable : Bool) :
      Sound (toggleModule d target enable request.updated).1 := by
    refine ⟨?_, toggleModule_keeps d target enable request.updated sound.1 sound.2⟩
    rcases toggleModule_cases d target enable request.updated with shape | ⟨_, shape⟩ <;> rw [shape]
    · exact sound.1
    · rw [slugs_toggleFirst]
      exact sound.1
  unfold handleCommand
  cases request.cmd with
  | status => exact sound
  | list => exact sound
  | enable target => exact toggled target true
  | disable target => exact toggled target false

end Commands

section Boot

private theorem inactive_of_buildRegistry :
    ∀ m ∈ buildRegistry, m.status = false := by
  decide

variable (b : Boot)

/-- What a boot enforces: the loaded modules the configuration enables, if the write of their
flag succeeded. -/
theorem enforced_boot_iff (slug : String) : Enforced (boot b) slug ↔
    slug ∈ b.loaded ∧ b.updates slug = true ∧ b.isActive slug = true := by
  rw [Enforced, boot_activeSkeletons, boot_stateMap]
  by_cases written : slug ∈ b.loaded ∧ b.updates slug = true
  · rw [if_pos written, flag_eq_one]
    exact ⟨fun both => ⟨both.1, written.2, both.2⟩, fun all => ⟨all.1, all.2.2⟩⟩
  · rw [if_neg written]
    have unset : ¬ (0 : UInt32) = 1 := by decide
    exact ⟨fun both => absurd both.2 unset, fun all => absurd ⟨all.1, all.2.1⟩ written⟩

/-- What a boot reports: the loaded modules the configuration enables. -/
theorem status_boot_iff {m : SecurityModule} (member : m ∈ (boot b).registry) :
    m.status = true ↔ m.slug ∈ b.loaded ∧ b.isActive m.slug = true := by
  rw [boot_registry] at member
  obtain ⟨original, listed, rfl⟩ := List.mem_map.mp member
  by_cases loaded : original.slug ∈ b.loaded
  · rw [if_pos loaded]
    exact ⟨fun active => ⟨loaded, active⟩, And.right⟩
  · have fresh : original.status = false := inactive_of_buildRegistry original listed
    rw [if_neg loaded, fresh]
    exact ⟨nofun, fun both => absurd both.1 loaded⟩

/-- A boot ends in a truthful state exactly when the first write succeeded for every loaded
module that the configuration enables. -/
theorem truthful_boot_iff :
    Truthful (boot b) ↔
      ∀ slug ∈ b.loaded, b.isActive slug = true → b.updates slug = true := by
  constructor
  · intro truthful slug loaded active
    obtain ⟨m, member, rfl⟩ :=
      exists_module_of_available slug (List.mem_filter.mp loaded).1
    have booted : { m with isActive := b.isActive m.slug } ∈ (boot b).registry := by
      rw [boot_registry]
      exact List.mem_map.mpr ⟨m, member, by rw [if_pos loaded]⟩
    exact ((enforced_boot_iff b m.slug).mp ((truthful _ booted).mp active)).2.1
  · intro written m member
    rw [status_boot_iff b member, enforced_boot_iff]
    exact ⟨fun both => ⟨both.1, written m.slug both.1 both.2, both.2⟩,
      fun all => ⟨all.1, all.2.2⟩⟩

private theorem sound_boot (truthful : Truthful (boot b)) : Sound (boot b) := by
  refine ⟨?_, truthful⟩
  rw [slugs_boot_registry]
  exact nodup_buildRegistry

end Boot

/-- exec_block is configured on, its skeleton loads, and the one write of its flag fails. -/
def unwrittenBoot : Boot where
  modules := fun name => if name = "exec_block" then some true else none
  loads := fun name => name == "exec_block"
  updates := fun _ => false
  inits := fun _ => none
  order := ["exec_block"]
  order_perm := by decide

/-- That boot lists a module as active whose kernel flag is 0. -/
theorem boot_lists_unenforced_module :
    listLine true ⟨"Untrusted Path Execution Prevention", "exec_block", true⟩ =
        " [ACTIVE]   exec_block (Untrusted Path Execution Prevention)\n" ∧
      ⟨"Untrusted Path Execution Prevention", "exec_block", true⟩ ∈ (boot unwrittenBoot).registry ∧
      (boot unwrittenBoot).stateMap "exec_block" = 0 ∧ ¬ Truthful (boot unwrittenBoot) := by
  have active : ⟨"Untrusted Path Execution Prevention", "exec_block", true⟩ ∈
      (boot unwrittenBoot).registry := by decide
  have unset : (boot unwrittenBoot).stateMap "exec_block" = 0 := by decide
  refine ⟨by decide, active, unset, ?_⟩
  intro truthful
  have enforced := (truthful _ active).mp rfl
  exact absurd enforced.2 (by rw [unset]; decide)

/-- The reported states are the enforced ones after the boot and after every command of every
run exactly when no loaded module that the configuration enables had its first write fail. -/
theorem truthful_throughout_iff (b : Boot) {d : DaemonState}
    {moves : List (Move DaemonState Request)} (run : Run Step (boot b) moves d) :
    (Truthful (boot b) ∧ ∀ m ∈ moves, Truthful m.target) ↔
      ∀ slug ∈ b.loaded, b.isActive slug = true → b.updates slug = true := by
  rw [← truthful_boot_iff]
  constructor
  · exact fun both => both.1
  · intro truthful
    refine ⟨truthful, ?_⟩
    intro m member
    have sound := run.invariant_at (fun _ _ _ taken => step_keeps_sound _ taken)
      (sound_boot b truthful) member
    exact sound.2.2

/-- The same boot with its write accepted, then a refused attempt to disable the module. -/
theorem truthful_throughout_iff_sample :
    ∃ d, Step (boot { unwrittenBoot with updates := fun _ => true })
        ⟨.disable "exec_block", false⟩ d ∧ Truthful d := by
  have throughout := (truthful_throughout_iff { unwrittenBoot with updates := fun _ => true }
    (.cons (e := ⟨.disable "exec_block", false⟩) rfl (.nil _))).mpr (by decide)
  exact ⟨_, rfl, throughout.2 _ List.mem_cons_self⟩

end BouclierBleu.Daemon.ModuleState
