/- GID: BouclierBleu/Daemon/TaintMapSize
   source: modules/src/io_restrict.rs
   digest: Which configured sizes of the taint map survive the narrowing to 32 bits. -/

import BouclierBleu.Daemon.SecurityModules
import Mathlib.Algebra.Group.Int.Defs
import Mathlib.Data.Set.Defs

set_option autoImplicit false
set_option relaxedAutoImplicit false

namespace BouclierBleu.Daemon.TaintMapSize

open BouclierBleu.Daemon.Config
open BouclierBleu.Daemon.SecurityModules
open BouclierBleu.Kernel.AlertStructs (Endian)

/-- The file sets the size key to an integer. -/
def Sets (file : ConfigFile) (i : Int) : Prop :=
  ∃ document entries, file.contents = some (some document) ∧
    document.lookup "modules" = some (.table entries) ∧
    entries.lookup "io_restrict_map_size" = some (.integer i)

/-- The capacity handed to the loader for `pipe_taint_map`. -/
def handedSize (host : Host) : Option UInt32 :=
  ((ioRestrict Unit).mapCapacities host).lookup "pipe_taint_map"

/-- On the given values the capacity is at least 1024, the value itself if it is a usual one,
1024 below, and monotone. -/
structure SafeOn (values : Set Int) (size : Int → UInt32) : Prop where
  minimum : ∀ i ∈ values, 1024 ≤ size i
  usual : ∀ i ∈ values, 1024 ≤ i → i < 2 ^ 32 → (size i).toNat = i
  small : ∀ i ∈ values, i < 1024 → size i = 1024
  monotone : ∀ i ∈ values, ∀ j ∈ values, i ≤ j → size i ≤ size j

/-- The low 32 bits of a value do no harm: it needs no more of them, or is negative with few, or
too large with all of them set. -/
def Harmless (i : Int) : Prop :=
  (0 ≤ i ∧ i < 2 ^ 32) ∨ (i < 0 ∧ i % 2 ^ 32 ≤ 1024) ∨ (2 ^ 32 ≤ i ∧ i % 2 ^ 32 = 2 ^ 32 - 1)

section Size

variable {host : Host} {i : Int}

theorem handedSize_eq (host : Host) : handedSize host = some (pipeMapSize host.configFile) := rfl

theorem handedSize_of_sets (sets : Sets host.configFile i) :
    handedSize host = some (max (asU32 i) 1024) := by
  obtain ⟨document, entries, contents, table, key⟩ := sets
  rw [handedSize_eq]
  simp [pipeMapSize, extractedSize, contents, table, key]

theorem asU32_toNat (i : Int) : ((asU32 i).toNat : Int) = i % 2 ^ 32 := by
  have positive : 0 ≤ i % 4294967296 := Int.emod_nonneg i (by decide)
  have small : i % 4294967296 < 4294967296 := Int.emod_lt_of_pos i (by decide)
  have value : (asU32 i).toNat = (i % 4294967296).toNat :=
    UInt32.toNat_ofNat_of_lt' (by
      have size : UInt32.size = 4294967296 := rfl
      omega)
  rw [value, Int.toNat_of_nonneg positive]
  rfl

theorem max_1024_toNat (i : Int) : ((max (asU32 i) 1024).toNat : Int) = max (i % 2 ^ 32) 1024 := by
  have number := asU32_toNat i
  have bound : (1024 : UInt32).toNat = 1024 := rfl
  show ((if asU32 i ≤ 1024 then 1024 else asU32 i).toNat : Int) = _
  by_cases low : asU32 i ≤ 1024
  · rw [if_pos low]
    rw [UInt32.le_iff_toNat_le] at low
    omega
  · rw [if_neg low]
    rw [UInt32.le_iff_toNat_le] at low
    omega

end Size

section Safe

variable {values : Set Int} {size : Int → UInt32}

/-- The largest usual value is above every capacity but the largest. -/
private theorem harmless_of_safeOn (safe : SafeOn values size)
    (narrowed : ∀ i ∈ values, ((size i).toNat : Int) = max (i % 2 ^ 32) 1024)
    (usual : ∀ i, 1024 ≤ i → i < 2 ^ 32 → i ∈ values) {i : Int} (member : i ∈ values) :
    Harmless i := by
  have value := narrowed i member
  rcases lt_or_ge i 0 with negative | positive
  · have small := congrArg UInt32.toNat (safe.small i member (by omega))
    have least : (1024 : UInt32).toNat = 1024 := rfl
    exact .inr (.inl ⟨negative, by omega⟩)
  · rcases lt_or_ge i (2 ^ 32) with inside | beyond
    · exact .inl ⟨positive, inside⟩
    · have top : (2 ^ 32 - 1 : Int) ∈ values := usual _ (by decide) (by decide)
      have above := UInt32.le_iff_toNat_le.mp (safe.monotone _ top i member (by omega))
      have largest := narrowed _ top
      have bits : i % 2 ^ 32 < 2 ^ 32 := Int.emod_lt_of_pos i (by decide)
      exact .inr (.inr ⟨beyond, by omega⟩)

private theorem safeOn_of_harmless (harmless : ∀ i ∈ values, Harmless i)
    (narrowed : ∀ i ∈ values, ((size i).toNat : Int) = max (i % 2 ^ 32) 1024) :
    SafeOn values size where
  minimum i member := by
    have value := narrowed i member
    have least : (1024 : UInt32).toNat = 1024 := rfl
    rw [UInt32.le_iff_toNat_le]
    omega
  usual i member above below := by
    have value := narrowed i member
    omega
  small i member below := by
    have value := narrowed i member
    have least : (1024 : UInt32).toNat = 1024 := rfl
    rw [← UInt32.toNat_inj]
    rcases harmless i member with ⟨positive, inside⟩ | ⟨negative, few⟩ | ⟨beyond, all⟩ <;> omega
  monotone i member j other ordered := by
    have value := narrowed i member
    have value' := narrowed j other
    have bits : i % 2 ^ 32 < 2 ^ 32 := Int.emod_lt_of_pos i (by decide)
    rw [UInt32.le_iff_toNat_le]
    rcases harmless i member with ⟨positive, inside⟩ | ⟨negative, few⟩ | ⟨beyond, all⟩ <;>
      rcases harmless j other with ⟨positive', inside'⟩ | ⟨negative', few'⟩ | ⟨beyond', all'⟩ <;>
        omega

end Safe

/-- A file that sets the key alone, on a machine with an empty filesystem. -/
def sizedHost (i : Int) : Host where
  endian := .little
  fs := ⟨fun _ _ => [], fun _ _ _ => [], fun _ => none, fun _ => none, fun _ _ _ _ => rfl⟩
  configFile :=
    ⟨true, 0, some (some [("modules", .table [("io_restrict_map_size", .integer i)])])⟩
  corePattern := none

theorem sets_sizedHost (i : Int) : Sets (sizedHost i).configFile i :=
  ⟨_, _, rfl, rfl, rfl⟩

/-- The 64-bit values, one of which is written in the file. -/
def signed64 : Set Int := {i | -2 ^ 63 ≤ i ∧ i < 2 ^ 63}

end BouclierBleu.Daemon.TaintMapSize
