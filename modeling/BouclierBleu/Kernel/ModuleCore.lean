/- GID: BouclierBleu/Kernel/ModuleCore
   source: bpf/headers/module_core.h
   digest: The enable flag, the running task, C strings in arrays and what a hook leaves behind. -/

import Mathlib.Algebra.Order.Ring.Nat
import Mathlib.Data.List.GetD
import Mathlib.Data.List.TakeWhile
import Mathlib.Tactic.Common

set_option autoImplicit false
set_option relaxedAutoImplicit false

namespace BouclierBleu.Kernel.ModuleCore

universe u

/-- `is_module_active`; a failed lookup of the control map counts as active. -/
def isModuleActive (stateMap : Option UInt32) : Bool :=
  match stateMap with
  | none => true
  | some active => active == 1

@[simp] theorem isModuleActive_some (active : UInt32) :
    isModuleActive (some active) = true ↔ active = 1 := by
  simp [isModuleActive]

@[simp] theorem isModuleActive_none : isModuleActive none = true := rfl

def EPERM : Int := 1

def EACCES : Int := 13

/-- The signal numbers the hooks use. -/
def SIGKILL : Nat := 9

/-- What running a hook leaves behind besides its map writes: the value returned to the
kernel, the alerts submitted to the ring buffer and the signals raised. -/
structure Outcome (Alert : Type u) where
  ret : Int
  alerts : List Alert
  signals : List Nat

namespace Outcome

variable {Alert : Type u}

/-- A hook that returns without any effect. -/
def quiet (ret : Int) : Outcome Alert := ⟨ret, [], []⟩

def Denied (o : Outcome Alert) : Prop := o.ret < 0

instance (o : Outcome Alert) : Decidable o.Denied := inferInstanceAs (Decidable (o.ret < 0))

def Killed (o : Outcome Alert) : Prop := SIGKILL ∈ o.signals

instance (o : Outcome Alert) : Decidable o.Killed :=
  inferInstanceAs (Decidable (SIGKILL ∈ o.signals))

/-- The same outcome with its alerts in another form. -/
def map {Form : Type u} (f : Alert → Form) (o : Outcome Alert) : Outcome Form :=
  ⟨o.ret, o.alerts.map f, o.signals⟩

@[simp] theorem quiet_ret (ret : Int) : (quiet ret : Outcome Alert).ret = ret := rfl

@[simp] theorem quiet_alerts (ret : Int) : (quiet ret : Outcome Alert).alerts = [] := rfl

@[simp] theorem quiet_signals (ret : Int) : (quiet ret : Outcome Alert).signals = [] := rfl

@[simp] theorem not_killed_quiet (ret : Int) : ¬ (quiet ret : Outcome Alert).Killed := by
  simp [Killed]

@[simp] theorem denied_quiet (ret : Int) : (quiet ret : Outcome Alert).Denied ↔ ret < 0 :=
  Iff.rfl

end Outcome

/-- A NUL-terminated string in a `char` array of `cap` bytes: what stands before the NUL. -/
structure CStr (cap : Nat) where
  bytes : List UInt8
  noNul : ∀ b ∈ bytes, b ≠ 0
  fits : bytes.length < cap
  deriving DecidableEq

namespace CStr

variable {cap : Nat}

/-- Copy at most `cap - 1` bytes up to the first NUL and terminate, as
`bpf_probe_read_kernel_str` does, and `strncpy` followed by a store to the last byte. -/
def copy (cap : Nat) (positive : 0 < cap) (source : List UInt8) : CStr cap where
  bytes := (source.takeWhile (· != 0)).take (cap - 1)
  noNul := by
    intro b member
    have kept := List.mem_takeWhile_imp (List.mem_of_mem_take member)
    simpa using kept
  fits := by
    rw [List.length_take]
    omega

/-- The arrays for task and syscall names, file names and paths have room for a NUL. -/
theorem commLen_pos : 0 < 16 := by decide

theorem nameLen_pos : 0 < 256 := by decide

theorem pathLen_pos : 0 < 4096 := by decide

/-- The bytes of an ASCII string literal of the source. -/
def literal (text : String) : List UInt8 := text.toList.map fun c => c.toNat.toUInt8

@[simp] theorem copy_bytes (positive : 0 < cap) (source : List UInt8) :
    (copy cap positive source).bytes = (source.takeWhile (· != 0)).take (cap - 1) := rfl

/-- What precedes the first NUL of a source with none is the source. -/
theorem beforeNul_of_noNul {source : List UInt8} (noNul : ∀ b ∈ source, b ≠ 0) :
    source.takeWhile (· != 0) = source := by
  rw [List.takeWhile_eq_self_iff]
  intro b member
  simpa using noNul b member

/-- A source with no NUL is copied whole, up to the room there is. -/
theorem copy_bytes_of_noNul (positive : 0 < cap) {source : List UInt8}
    (noNul : ∀ b ∈ source, b ≠ 0) : (copy cap positive source).bytes = source.take (cap - 1) := by
  rw [copy_bytes, beforeNul_of_noNul noNul]

/-- The form in which a closed text is tested. -/
theorem noNul_of_all {source : List UInt8} (all : source.all (· != 0) = true) :
    ∀ b ∈ source, b ≠ 0 := by
  intro b member
  have nonzero := List.all_eq_true.mp all b member
  simpa using nonzero

/-- The byte at an index of an array that was zeroed before the copy. -/
def byte (s : CStr cap) (i : Nat) : UInt8 := s.bytes.getD i 0

/-- The array ends where its string does. -/
theorem byte_eq_zero_iff (s : CStr cap) (i : Nat) : s.byte i = 0 ↔ s.bytes.length ≤ i := by
  rw [byte]
  constructor
  · intro zero
    by_contra inside
    rw [not_le] at inside
    rw [List.getD_eq_getElem _ _ inside] at zero
    exact s.noNul _ (List.getElem_mem inside) zero
  · intro outside
    exact List.getD_eq_default _ _ outside

/-- The room for a name's first five or seven bytes, and for a mount's three texts. -/
theorem componentPrefix_pos : 0 < 6 := by decide

theorem devicePrefix_pos : 0 < 8 := by decide

theorem fsTypeLen_pos : 0 < 64 := by decide

theorem mountPointLen_pos : 0 < 512 := by decide

end CStr

/-- Consecutive bytes, from an index on, compared with those of a literal. -/
def spells (bytes : List UInt8) (i : Nat) (text : String) : Bool :=
  (CStr.literal text).isPrefixOf (bytes.drop i)

theorem spells_iff {bytes : List UInt8} {i : Nat} {text : String} :
    spells bytes i text = true ↔ CStr.literal text <+: bytes.drop i := by
  rw [spells, List.isPrefixOf_iff_prefix]

/-- A string pointer in kernel memory. -/
inductive KernelStr
  | null
  | unreadable
  | text (bytes : List UInt8)
  deriving DecidableEq

/-- `bpf_probe_read_kernel_str` into an array of `cap` bytes: what it copies, unless it fails. -/
def probeReadKernelStr (cap : Nat) (positive : 0 < cap) : KernelStr → Option (CStr cap)
  | .text bytes => some (.copy cap positive bytes)
  | .null | .unreadable => none

/-- The task a hook runs in, with the fields the hooks read from it. -/
structure Task where
  pidTgid : UInt64
  uid : UInt32
  comm : Option (List UInt8)
  deriving DecidableEq

namespace Task

/-- `bpf_get_current_pid_tgid() >> 32`, the process id user space knows. -/
def tgid (t : Task) : UInt32 := (t.pidTgid >>> 32).toUInt32

def getGlobalUid (t : Task) : UInt32 := t.uid

end Task

/-- `extract_safe_comm`; a task whose name cannot be read is reported as `<unknown>`. -/
def extractSafeComm (t : Task) (cap : Nat) (positive : 0 < cap) : CStr cap :=
  match t.comm with
  | some comm => .copy cap positive comm
  | none => .copy cap positive (CStr.literal "<unknown>")

end BouclierBleu.Kernel.ModuleCore
