/- GID: BouclierBleu/Daemon/Config
   source: core/src/config.rs, core/src/bpf_manager.rs, modules/src/io_restrict.rs
   digest: The two readers of the configuration file, and when a boot starts as it says. -/

import BouclierBleu.Daemon.ModuleState
import Mathlib.Data.List.Basic

set_option autoImplicit false
set_option relaxedAutoImplicit false

namespace BouclierBleu.Daemon.Config

open BouclierBleu.Daemon.Engine
open BouclierBleu.Daemon.ModuleState

/-- A TOML value as far as the two readers tell them apart. -/
inductive Value
  | boolean (b : Bool)
  | integer (i : Int)
  | other
  deriving DecidableEq

abbrev Table := List (String × Value)

inductive Item
  | value (v : Value)
  | table (entries : Table)
  deriving DecidableEq

/-- A parsed TOML document. -/
abbrev Document := List (String × Item)

/-- What a path of the search list leads to. `contents` is `none` when the file cannot be read,
and `some none` when it is not TOML. -/
structure ConfigFile where
  opened : Bool
  uid : UInt32
  contents : Option (Option Document)

/-- `HashMap<String, bool>` -/
structure DaemonConfig where
  modules : List (String × Bool)

def DaemonConfig.default : DaemonConfig := ⟨[]⟩

def DaemonConfig.get (config : DaemonConfig) (slug : String) : Option Bool :=
  config.modules.lookup slug

def Value.toBool : Value → Option Bool
  | .boolean b => some b
  | _ => none

/-- One value that is not a boolean fails the whole table. -/
def boolTable (entries : Table) : Option (List (String × Bool)) :=
  entries.mapM fun entry => entry.2.toBool.map fun b => (entry.1, b)

/-- `toml::from_str`, from the parsed document on; `modules` may be missing. -/
def DaemonConfig.fromDocument (document : Document) : Option DaemonConfig :=
  match document.lookup "modules" with
  | none => some .default
  | some (.value _) => none
  | some (.table entries) => (boolTable entries).map fun modules => ⟨modules⟩

/-- `DaemonConfig::load` over the search paths; `none` is the panic on a foreign owner. -/
def DaemonConfig.load : List ConfigFile → Option DaemonConfig
  | [] => some .default
  | file :: rest =>
    if !file.opened then load rest
    else if file.uid != 0 then none
    else
      match file.contents with
      | none => load rest
      | some none => some .default
      | some (some document) => some ((fromDocument document).getD .default)

/-- `size as u32` -/
def asU32 (i : Int) : UInt32 := UInt32.ofNat (i % 4294967296).toNat

/-- The closure in the `capacities` of `io_restrict`, which reads the file again. -/
def extractedSize (file : ConfigFile) : Option UInt32 :=
  match file.contents with
  | some (some document) =>
    match document.lookup "modules" with
    | some (.table entries) =>
      match entries.lookup "io_restrict_map_size" with
      | some (.integer i) => some (asU32 i)
      | _ => none
    | _ => none
  | _ => none

/-- The capacity of `pipe_taint_map`. -/
def pipeMapSize (file : ConfigFile) : UInt32 :=
  match extractedSize file with
  | some size => max size 1024
  | none => 8192

/-- A boot under a configuration. -/
def configured (b : Boot) (config : DaemonConfig) : Boot := { b with modules := config.get }

/-- The two kinds of keys the shipped file documents, each written once. -/
structure Documented (entries : Table) : Prop where
  nodup : (entries.map Prod.fst).Nodup
  kinds : ∀ entry ∈ entries,
    (entry.1 ∈ availableModules ∧ ∃ b, entry.2 = .boolean b) ∨
      (entry.1 = "io_restrict_map_size" ∧ ∃ i, entry.2 = .integer i)

/-- A root-owned file with the table as its `modules`. -/
structure Holds (file : ConfigFile) (entries : Table) : Prop where
  opened : file.opened = true
  root : file.uid = 0
  table : ∃ document, file.contents = some (some document) ∧
    document.lookup "modules" = some (.table entries)

/-- Every loaded module starts enabled, in the kernel and in the registry, exactly if the table
sets its slug. -/
def StartsAs (d : DaemonState) (entries : Table) : Prop :=
  ∀ slug ∈ d.activeSkeletons,
    (Enforced d slug ↔ (slug, .boolean true) ∈ entries) ∧
    ∀ m ∈ d.registry, m.slug = slug → (m.status = true ↔ (slug, .boolean true) ∈ entries)

/-- `pipe_taint_map` is sized from the key, if there is one. -/
def SizedAs (size : UInt32) (entries : Table) : Prop :=
  ∀ i, ("io_restrict_map_size", .integer i) ∈ entries → size = max (asU32 i) 1024

section Readers

variable {entries : Table} {modules : List (String × Bool)}

private theorem boolTable_cons (key : String) (v : Value) (rest : Table) :
    boolTable ((key, v) :: rest) =
      v.toBool.bind fun b => (boolTable rest).map fun modules => (key, b) :: modules := by
  rw [boolTable, List.mapM_cons]
  change (v.toBool.map fun b => (key, b)).bind
    (fun first => (boolTable rest).bind fun others => some (first :: others)) = _
  cases v.toBool <;> cases boolTable rest <;> rfl

/-- The tables that deserialize are those of booleans alone. -/
theorem boolTable_eq_some_iff :
    boolTable entries = some modules ↔
      entries = modules.map fun entry => (entry.1, .boolean entry.2) := by
  induction entries generalizing modules with
  | nil => cases modules <;> simp [boolTable]
  | cons entry rest ih =>
    obtain ⟨key, v⟩ := entry
    rw [boolTable_cons]
    cases modules with
    | nil => cases v <;> cases boolTable rest <;> simp [Value.toBool]
    | cons first others =>
      cases v with
      | boolean b =>
        rw [List.map_cons, List.cons.injEq, ← ih]
        cases boolTable rest <;> simp [Value.toBool, Prod.ext_iff]
      | integer i => simp [Value.toBool]
      | other => simp [Value.toBool]

private theorem lookup_eq_some_iff_mem {A : Type} {l : List (String × A)}
    (nodup : (l.map Prod.fst).Nodup) {key : String} {a : A} :
    l.lookup key = some a ↔ (key, a) ∈ l := by
  induction l with
  | nil => simp
  | cons entry rest ih =>
    obtain ⟨k, v⟩ := entry
    rw [List.map_cons, List.nodup_cons] at nodup
    rw [List.lookup_cons, List.mem_cons]
    by_cases same : key = k
    · subst same
      have new (a : A) : (key, a) ∉ rest := fun member =>
        nodup.1 (List.mem_map.mpr ⟨(key, a), member, rfl⟩)
      simp [new, eq_comm]
    · have other : (key == k) = false := beq_false_of_ne same
      simp [other, same, ih nodup.2]

/-- The size key in the table; it is what keeps a documented table from deserializing. -/
def HasSize (entries : Table) : Prop := ∃ i, ("io_restrict_map_size", .integer i) ∈ entries

private theorem exists_modules (documented : Documented entries) (sizeless : ¬ HasSize entries) :
    ∃ modules : List (String × Bool),
      entries = modules.map fun entry => (entry.1, .boolean entry.2) := by
  refine ⟨entries.map fun entry => (entry.1, entry.2.toBool.getD false), ?_⟩
  rw [List.map_map]
  conv_lhs => rw [← List.map_id entries]
  apply List.map_congr_left
  intro entry member
  rcases documented.kinds entry member with ⟨_, b, shape⟩ | ⟨key, i, shape⟩
  · simp [Prod.ext_iff, shape, Value.toBool]
  · exact absurd ⟨i, by rw [← key, ← shape]; exact member⟩ sizeless

private theorem boolTable_of_hasSize (sized : HasSize entries) : boolTable entries = none := by
  obtain ⟨i, member⟩ := sized
  cases shape : boolTable entries with
  | none => rfl
  | some modules =>
    rw [boolTable_eq_some_iff.mp shape] at member
    obtain ⟨entry, _, equal⟩ := List.mem_map.mp member
    cases congrArg Prod.snd equal

/-- What the daemon reads off a documented table: the booleans as they stand without the size
key, and nothing at all with it. -/
theorem load_of_holds {file : ConfigFile} (holds : Holds file entries)
    (documented : Documented entries) (rest : List ConfigFile) :
    ∃ config, DaemonConfig.load (file :: rest) = some config ∧
      ∀ slug, config.get slug = some true ↔
        (slug, .boolean true) ∈ entries ∧ ¬ HasSize entries := by
  obtain ⟨document, contents, table⟩ := holds.table
  have load : DaemonConfig.load (file :: rest) =
      some (((boolTable entries).map fun modules => ⟨modules⟩).getD .default) := by
    simp [DaemonConfig.load, holds.opened, holds.root, contents, DaemonConfig.fromDocument, table]
  by_cases sized : HasSize entries
  · rw [boolTable_of_hasSize sized] at load
    refine ⟨_, load, fun slug => ?_⟩
    simp [DaemonConfig.default, DaemonConfig.get, sized]
  · obtain ⟨modules, shape⟩ := exists_modules documented sized
    rw [boolTable_eq_some_iff.mpr shape] at load
    refine ⟨_, load, fun slug => ?_⟩
    have nodup : (modules.map Prod.fst).Nodup := by
      have keys := documented.nodup
      rwa [shape, List.map_map] at keys
    rw [and_iff_left sized, shape]
    simp [DaemonConfig.get, lookup_eq_some_iff_mem nodup]

/-- The size key is honoured either way. -/
theorem sizedAs_pipeMapSize {file : ConfigFile} (holds : Holds file entries)
    (documented : Documented entries) : SizedAs (pipeMapSize file) entries := by
  intro i member
  obtain ⟨document, contents, table⟩ := holds.table
  have found : entries.lookup "io_restrict_map_size" = some (.integer i) :=
    (lookup_eq_some_iff_mem documented.nodup).mpr member
  simp [pipeMapSize, extractedSize, contents, table, found]

end Readers

/-- The boot under the file starts as it says. -/
def AsConfigured (b : Boot) (file : ConfigFile) (rest : List ConfigFile) (entries : Table) :
    Prop :=
  ∃ config, DaemonConfig.load (file :: rest) = some config ∧
    StartsAs (boot (configured b config)) entries ∧ SizedAs (pipeMapSize file) entries

section Capacity

/-- exec_block is enabled, and the taint map is given the size of the shipped example. -/
def resizedTable : Table :=
  [("exec_block", .boolean true), ("io_restrict_map_size", .integer 32768)]

def resizedFile : ConfigFile := ⟨true, 0, some (some [("modules", .table resizedTable)])⟩

theorem holds_resizedFile : Holds resizedFile resizedTable :=
  ⟨rfl, rfl, _, rfl, by decide⟩

theorem documented_resizedTable : Documented resizedTable where
  nodup := by decide
  kinds := by
    intro entry member
    simp only [resizedTable, List.mem_cons, List.not_mem_nil, or_false] at member
    rcases member with rfl | rfl
    · exact .inl ⟨by decide, true, rfl⟩
    · exact .inr ⟨rfl, 32768, rfl⟩

end Capacity

/-- The same file without the size key. -/
def plainTable : Table := [("exec_block", .boolean true)]

def plainFile : ConfigFile := ⟨true, 0, some (some [("modules", .table plainTable)])⟩

end BouclierBleu.Daemon.Config
