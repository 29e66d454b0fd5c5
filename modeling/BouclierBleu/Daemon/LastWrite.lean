/- GID: BouclierBleu/Daemon/LastWrite
   source: core/src/actor.rs, core/src/bpf_manager.rs, bpf/headers/module_core.h
   digest: The last toggle carried out decides what the hooks check and what the listing shows. -/

import BouclierBleu.Daemon.Linearization

set_option autoImplicit false
set_option relaxedAutoImplicit false

namespace BouclierBleu.Daemon.LastWrite

open BouclierBleu.Daemon.Actor
open BouclierBleu.Daemon.Engine
open BouclierBleu.Daemon.Linearization
open BouclierBleu.Daemon.ModuleState
  (DaemonCmd Request handleCommand listLine toggleModule toggleModule_of_unwritten)
open BouclierBleu.Kernel.AlertStructs (Endian)
open BouclierBleu.Kernel.ModuleCore (isModuleActive_some)
open BouclierBleu.Library.Histories
open BouclierBleu.Library.Trace (Move Run)

variable (b : Boot) (slug : String)

/-- A toggle of `slug` to `on` that reaches both copies of its flag. -/
def Writes (target : String) (updated : Bool) : Prop :=
  target = slug ∧ slug ∈ b.loaded ∧ updated = true

instance (target : String) (updated : Bool) : Decidable (Writes b slug target updated) :=
  inferInstanceAs (Decidable (_ ∧ _))

/-- The value a request writes to the flags of `slug`, if it writes any. -/
def written (request : Request) : Option Bool :=
  match request.cmd with
  | .enable target => if Writes b slug target request.updated then some true else none
  | .disable target => if Writes b slug target request.updated then some false else none
  | .status | .list => none

/-- The value last written to the flags of `slug` by the operations of a history. -/
def lastWritten (ops : List CommandOperation) : Option Bool :=
  ops.foldl (fun last op => (written b slug op.input).or last) none

/-- What the listing shows after a history: the last write, and before any the configuration. -/
def reported (ops : List CommandOperation) : Bool :=
  (lastWritten b slug ops).getD (decide (slug ∈ b.loaded) && b.isActive slug)

/-- What the hooks find after a history: the last write, and before any the configuration, if
the first write of the boot succeeded. -/
def switchedOn (ops : List CommandOperation) : Bool :=
  (lastWritten b slug ops).getD
    (decide (slug ∈ b.loaded) && b.updates slug && b.isActive slug)

/-- The text of a `List` reply that shows `active`. -/
def listing (active : String → Bool) : String :=
  buildRegistry.foldl (fun out m => out ++ listLine (active m.slug) m) "MODULE REGISTRY:\n"

/-- A history leaves in the daemon the loaded set of the boot and what it last wrote. -/
structure Shows (ops : List CommandOperation) (d : DaemonState) : Prop where
  loaded : d.activeSkeletons = b.loaded
  flags : ∀ slug, d.stateMap slug = flag (switchedOn b slug ops)
  registry : d.registry = buildRegistry.map fun m => { m with isActive := reported b m.slug ops }

section Writes

variable {b slug} {ops : List CommandOperation} {op : CommandOperation} {d : DaemonState}

theorem lastWritten_snoc :
    lastWritten b slug (ops ++ [op]) = (written b slug op.input).or (lastWritten b slug ops) := by
  rw [lastWritten, List.foldl_append]
  rfl

private theorem reported_snoc : reported b slug (ops ++ [op]) =
    (written b slug op.input).getD (reported b slug ops) := by
  rw [reported, lastWritten_snoc, reported]
  cases written b slug op.input <;> rfl

private theorem switchedOn_snoc : switchedOn b slug (ops ++ [op]) =
    (written b slug op.input).getD (switchedOn b slug ops) := by
  rw [switchedOn, lastWritten_snoc, switchedOn]
  cases written b slug op.input <;> rfl

private theorem available_of_loaded (loaded : slug ∈ b.loaded) : slug ∈ availableModules :=
  (List.mem_filter.mp loaded).1

/-- A toggle that writes reaches the flags of the one module. -/
private theorem toggleModule_of_writes (shows : Shows b ops d) {target : String} {enable : Bool}
    (loaded : target ∈ b.loaded) : (toggleModule d target enable true).1 =
      { d with
        stateMap := Function.update d.stateMap target (flag enable)
        registry := toggleFirst target enable d.registry } := by
  rw [toggleModule, if_pos (shows.loaded ▸ loaded),
    setModuleState_eq (available_of_loaded loaded)]

private theorem nodup_of_shows (shows : Shows b ops d) :
    (d.registry.map SecurityModule.slug).Nodup := by
  rw [shows.registry, List.map_map]
  exact nodup_buildRegistry

private theorem shows_idle (shows : Shows b ops d)
    (idle : ∀ slug, written b slug op.input = none) : Shows b (ops ++ [op]) d := by
  refine ⟨shows.loaded, ?_, ?_⟩
  · intro slug
    rw [switchedOn_snoc, idle]
    exact shows.flags slug
  · rw [shows.registry]
    apply List.map_congr_left
    intro m _
    rw [reported_snoc, idle]
    rfl

/-- One toggle, as the last operation of a history that shows `d`. -/
private theorem shows_toggle (shows : Shows b ops d) {target : String} {enable updated : Bool}
    (wrote : ∀ slug, written b slug op.input =
      if Writes b slug target updated then some enable else none) :
    Shows b (ops ++ [op]) (toggleModule d target enable updated).1 := by
  by_cases writes : target ∈ b.loaded ∧ updated = true
  · obtain ⟨loaded, rfl⟩ := writes
    have here (slug : String) : Writes b slug target true ↔ slug = target := by
      constructor
      · exact fun all => all.1.symm
      · rintro rfl
        exact ⟨rfl, loaded, rfl⟩
    rw [toggleModule_of_writes shows loaded]
    refine ⟨shows.loaded, ?_, ?_⟩
    · intro slug
      rw [switchedOn_snoc, wrote]
      by_cases same : slug = target
      · rw [if_pos ((here slug).mpr same), same]
        exact Function.update_self ..
      · rw [if_neg (mt (here slug).mp same)]
        exact (Function.update_of_ne same ..).trans (shows.flags slug)
    · rw [toggleFirst_eq_map (nodup_of_shows shows), shows.registry, List.map_map]
      apply List.map_congr_left
      intro m _
      rw [reported_snoc, wrote]
      by_cases same : m.slug = target
      · rw [if_pos ((here m.slug).mpr same)]
        exact if_pos same
      · rw [if_neg (mt (here m.slug).mp same)]
        exact if_neg same
  · have idle (slug : String) : written b slug op.input = none := by
      rw [wrote, if_neg]
      rintro ⟨rfl, loaded, updated⟩
      exact writes ⟨loaded, updated⟩
    rw [toggleModule_of_unwritten d target enable updated
      (fun all => writes ⟨shows.loaded ▸ all.1, all.2.2⟩)]
    exact shows_idle shows idle

private theorem shows_step (shows : Shows b ops d) :
    Shows b (ops ++ [op]) (serve d op.input).1 := by
  obtain ⟨client, ⟨cmd, updated⟩, output⟩ := op
  cases cmd with
  | status => exact shows_idle shows fun _ => rfl
  | list => exact shows_idle shows fun _ => rfl
  | enable target => exact shows_toggle shows fun _ => rfl
  | disable target => exact shows_toggle shows fun _ => rfl

private theorem inactive_of_buildRegistry : ∀ m ∈ buildRegistry, m.isActive = false := by
  decide

private theorem shows_boot : Shows b [] (boot b) := by
  refine ⟨boot_activeSkeletons b, ?_, ?_⟩
  · intro slug
    rw [boot_stateMap]
    by_cases loaded : slug ∈ b.loaded
    · by_cases updated : b.updates slug = true
      · simp [switchedOn, lastWritten, loaded, updated]
      · simp [switchedOn, lastWritten, updated, flag]
    · simp [switchedOn, lastWritten, loaded, flag]
  · rw [boot_registry]
    apply List.map_congr_left
    intro m member
    by_cases loaded : m.slug ∈ b.loaded
    · simp [reported, lastWritten, loaded]
    · have fresh := inactive_of_buildRegistry m member
      obtain ⟨name, mslug, isActive⟩ := m
      simp_all [reported, lastWritten]

/-- Carrying out a history from the boot leaves what the history last wrote. -/
theorem shows_after (ops : List CommandOperation) : Shows b ops (after serve (boot b) ops) := by
  induction ops using List.reverseRecOn with
  | nil => exact shows_boot
  | append_singleton ops op ih =>
    rw [after_snoc]
    exact shows_step ih

theorem list_of_shows (shows : Shows b ops d) (updated : Bool) :
    (handleCommand d .list updated).2 = listing fun slug => reported b slug ops := by
  rw [handleCommand, shows.registry, List.foldl_map]
  rfl

end Writes

end BouclierBleu.Daemon.LastWrite
