/- GID: BouclierBleu/MountSecure/MountTable
   source: bpf/mount_secure.bpf.c
   digest: Whether removable devices stay hardened, over runs of mounts, remounts and moves. -/

import BouclierBleu.Library.Trace
import BouclierBleu.MountSecure.RemovableNames
import Mathlib.Logic.Function.Basic

set_option autoImplicit false
set_option relaxedAutoImplicit false

namespace BouclierBleu.MountSecure.MountTable

open BouclierBleu.Kernel.ModuleCore (isModuleActive EPERM Outcome CStr Task KernelStr)
open BouclierBleu.Library.Trace (Move Run)
open BouclierBleu.MountSecure.Hooks

/-- The flags of the mount that mount(2) makes of those it is called with, bit for bit. -/
def mntFlagsOf (flags : UInt64) : UInt32 :=
  (if flags &&& MS_NOSUID = MS_NOSUID then MNT_NOSUID else 0) |||
    (if flags &&& MS_NODEV = MS_NODEV then MNT_NODEV else 0) |||
      (if flags &&& MS_NOEXEC = MS_NOEXEC then MNT_NOEXEC else 0)

/-- A mount; until it is attached somewhere, only a descriptor leads to it. -/
structure Mount where
  vfs : VfsMount
  attached : Bool

structure Table where
  maps : Maps
  layout : MountLayout
  mounts : Nat → Option Mount

def Table.put (s : Table) (id : Nat) (m : Mount) : Table :=
  { s with mounts := Function.update s.mounts id (some m) }

inductive Event
  | newMount (id : Nat) (devName : KernelStr) (flags : UInt64)
  | bind (source id : Nat)
  | remount (id : Nat) (flags : UInt64)
  | fsmount (id : Nat) (vfs : VfsMount)
  | openTree (source id : Nat)
  | setattr (id : Nat) (flags : UInt32)
  | moveMount (id : Nat)
  | umount (id : Nat)
  | toggle (stateMap : Option UInt32)

/-- What the kernel lets happen once the hooks have passed it. All of mount(2) passes
`sb_mount`, with whatever source the caller names; the calls that make a mount without attaching
it, and `mount_setattr`, pass no hook. -/
inductive Step : Table → Event → Table → Prop
  | newMount {s : Table} {id : Nat} {reserved : Bool} {task : Task} {devName type : KernelStr}
      {path : Path} {flags : UInt64} {sb : Option SuperBlock} (free : s.mounts id = none)
      (allowed : ¬ (mountSecureSbMount s.maps reserved task devName path type flags).Denied) :
      Step s (.newMount id devName flags) (s.put id ⟨⟨mntFlagsOf flags, sb, devName⟩, true⟩)
  | bind {s : Table} {source id : Nat} {m : Mount} {reserved : Bool} {task : Task}
      {devName type : KernelStr} {path : Path} {flags : UInt64} (found : s.mounts source = some m)
      (placed : m.attached = true) (free : s.mounts id = none)
      (allowed : ¬ (mountSecureSbMount s.maps reserved task devName path type flags).Denied) :
      Step s (.bind source id) (s.put id ⟨m.vfs, true⟩)
  | remount {s : Table} {id : Nat} {m : Mount} {reserved : Bool} {task : Task}
      {devName type : KernelStr} {path : Path} {flags : UInt64} (found : s.mounts id = some m)
      (placed : m.attached = true)
      (allowed : ¬ (mountSecureSbMount s.maps reserved task devName path type flags).Denied) :
      Step s (.remount id flags)
        (s.put id { m with vfs := { m.vfs with mntFlags := mntFlagsOf flags } })
  | fsmount {s : Table} {id : Nat} {vfs : VfsMount} (free : s.mounts id = none) :
      Step s (.fsmount id vfs) (s.put id ⟨vfs, false⟩)
  | openTree {s : Table} {source id : Nat} {m : Mount} (found : s.mounts source = some m)
      (free : s.mounts id = none) : Step s (.openTree source id) (s.put id ⟨m.vfs, false⟩)
  | setattr {s : Table} {id : Nat} {m : Mount} {flags : UInt32} (found : s.mounts id = some m) :
      Step s (.setattr id flags) (s.put id { m with vfs := { m.vfs with mntFlags := flags } })
  | moveMount {s : Table} {id : Nat} {m : Mount} {reserved : Bool} {task : Task} {toPath : Path}
      (found : s.mounts id = some m)
      (allowed : ¬ (mountSecureMoveMount s.maps s.layout reserved task m.vfs toPath).Denied) :
      Step s (.moveMount id) (s.put id { m with attached := true })
  | umount {s : Table} {id : Nat} :
      Step s (.umount id) { s with mounts := Function.update s.mounts id none }
  | toggle {s : Table} {stateMap : Option UInt32} :
      Step s (.toggle stateMap) { s with maps := { s.maps with stateMap := stateMap } }

/-- A mount of a device that the heuristic takes for removable. -/
def Removable (vfs : VfsMount) : Prop := isRemovableDevice vfs.mntDevname = true

def Secure (vfs : VfsMount) : Prop :=
  vfs.mntFlags &&& SECURE_MOVE_MNT_FLAGS = SECURE_MOVE_MNT_FLAGS

def SecureFlags (flags : UInt64) : Prop := flags &&& SECURE_MOUNT_FLAGS = SECURE_MOUNT_FLAGS

def Active (s : Table) : Prop := isModuleActive s.maps.stateMap = true

/-- No removable device is mounted anywhere without all three flags. -/
def Hardened (s : Table) : Prop :=
  ∀ id m, s.mounts id = some m → m.attached = true → Removable m.vfs → Secure m.vfs

/-- What an event must avoid: to mount a removable device without the flags while the module is
off, or, through the modern interface, with a source the hook cannot read; and, which no hook
sees, to take the flags from a mount that has them. -/
def Hardens (s : Table) : Event → Prop
  | .newMount _ devName flags =>
    Active s ∨ (isRemovableDevice devName = true → SecureFlags flags)
  | .remount id flags => ∀ m, s.mounts id = some m → Removable m.vfs → SecureFlags flags
  | .setattr id flags =>
    ∀ m, s.mounts id = some m → m.attached = true → Removable m.vfs →
      flags &&& SECURE_MOVE_MNT_FLAGS = SECURE_MOVE_MNT_FLAGS
  | .moveMount id =>
    ∀ m, s.mounts id = some m → Removable m.vfs →
      Secure m.vfs ∨ Active s ∧ isRemovableDevice (m.vfs.devName s.layout) = true
  | .bind _ _ | .fsmount _ _ | .openTree _ _ | .umount _ | .toggle _ => True

section Flags

/-- Flags are there together exactly if each is. -/
private theorem and_or_eq_iff (flags a b : UInt64) :
    flags &&& (a ||| b) = a ||| b ↔ flags &&& a = a ∧ flags &&& b = b := by
  have split (x y z : UInt64) : x &&& (y ||| z) = x &&& y ||| x &&& z :=
    UInt64.toBitVec_inj.1 (BitVec.and_or_distrib_left ..)
  have absorb (x y : UInt64) : (x ||| y) &&& x = x := by
    apply UInt64.toBitVec_inj.1
    ext i
    simp only [UInt64.toBitVec_and, UInt64.toBitVec_or, BitVec.getElem_and, BitVec.getElem_or]
    cases x.toBitVec[i] with
    | false => exact Bool.and_false _
    | true => rfl
  constructor
  · intro whole
    constructor
    · rw [← absorb a b, ← UInt64.and_assoc, whole]
    · rw [← absorb b a, UInt64.or_comm b a, ← UInt64.and_assoc, whole]
  · rintro ⟨first, second⟩
    rw [split, first, second]

theorem secure_mntFlagsOf_iff {flags : UInt64} :
    mntFlagsOf flags &&& SECURE_MOVE_MNT_FLAGS = SECURE_MOVE_MNT_FLAGS ↔ SecureFlags flags := by
  rw [SecureFlags, SECURE_MOUNT_FLAGS, and_or_eq_iff, and_or_eq_iff, mntFlagsOf]
  by_cases nosuid : flags &&& MS_NOSUID = MS_NOSUID <;>
    by_cases nodev : flags &&& MS_NODEV = MS_NODEV <;>
      by_cases noexec : flags &&& MS_NOEXEC = MS_NOEXEC <;>
        simp only [nosuid, nodev, noexec, if_true, if_false] <;> decide

end Flags

section Steps

variable {s t : Table}

private theorem mounts_put_self {id : Nat} {m : Mount} : (s.put id m).mounts id = some m :=
  Function.update_self ..

private theorem mounts_put_ne {id k : Nat} {m : Mount} (other : k ≠ id) :
    (s.put id m).mounts k = s.mounts k :=
  Function.update_of_ne other ..

/-- The other mounts stay as they are. -/
private theorem hardened_put_iff {id : Nat} {m : Mount} (hardened : Hardened s) :
    Hardened (s.put id m) ↔ (m.attached = true → Removable m.vfs → Secure m.vfs) := by
  constructor
  · exact fun later => later id m mounts_put_self
  · intro fine k r here
    by_cases own : k = id
    · subst own
      cases mounts_put_self.symm.trans here
      exact fine
    · exact hardened k r ((mounts_put_ne own).symm.trans here)

/-- While the module is on, mount(2) turns down a removable source without the flags. -/
private theorem secure_of_sbMount {reserved : Bool} {task : Task} {devName type : KernelStr}
    {path : Path} {flags : UInt64} (active : Active s)
    (removable : isRemovableDevice devName = true)
    (allowed : ¬ (mountSecureSbMount s.maps reserved task devName path type flags).Denied) :
    SecureFlags flags := by
  by_contra lacking
  apply allowed
  have on : isModuleActive s.maps.stateMap = true := active
  have compared : (flags &&& SECURE_MOUNT_FLAGS == SECURE_MOUNT_FLAGS) = false :=
    beq_eq_false_iff_ne.mpr lacking
  simp [mountSecureSbMount, on, compared, evaluateSecureMount, isTarget, removable,
    Outcome.Denied, EPERM]

private theorem secure_of_moveMount {reserved : Bool} {task : Task} {vfs : VfsMount}
    {toPath : Path} (active : Active s)
    (removable : isRemovableDevice (vfs.devName s.layout) = true)
    (allowed : ¬ (mountSecureMoveMount s.maps s.layout reserved task vfs toPath).Denied) :
    Secure vfs := by
  by_contra lacking
  apply allowed
  have on : isModuleActive s.maps.stateMap = true := active
  have compared : (vfs.mntFlags &&& SECURE_MOVE_MNT_FLAGS == SECURE_MOVE_MNT_FLAGS) = false :=
    beq_eq_false_iff_ne.mpr lacking
  simp [mountSecureMoveMount, on, compared, evaluateSecureMount, isTarget, removable,
    Outcome.Denied, EPERM]

private theorem hardened_step_iff {event : Event} (taken : Step s event t)
    (hardened : Hardened s) : Hardened t ↔ Hardens s event := by
  cases taken with
  | newMount free allowed =>
    refine (hardened_put_iff hardened).trans ?_
    constructor
    · exact fun fine => .inr fun removable => secure_mntFlagsOf_iff.mp (fine rfl removable)
    · intro hardens _ removable
      refine secure_mntFlagsOf_iff.mpr ?_
      rcases hardens with active | secure
      · exact secure_of_sbMount active removable allowed
      · exact secure removable
  | @bind source _ m _ _ _ _ _ _ found placed free allowed =>
    have copied : Removable m.vfs → Secure m.vfs := hardened source m found placed
    exact iff_of_true ((hardened_put_iff hardened).mpr fun _ => copied) trivial
  | @remount _ m _ _ _ _ _ _ found placed allowed =>
    refine (hardened_put_iff hardened).trans ?_
    constructor
    · intro fine r here removable
      cases found.symm.trans here
      exact secure_mntFlagsOf_iff.mp (fine placed removable)
    · exact fun hardens _ removable => secure_mntFlagsOf_iff.mpr (hardens m found removable)
  | fsmount free => exact iff_of_true ((hardened_put_iff hardened).mpr nofun) trivial
  | openTree found free => exact iff_of_true ((hardened_put_iff hardened).mpr nofun) trivial
  | setattr found =>
    refine (hardened_put_iff hardened).trans ?_
    constructor
    · intro fine r here placed removable
      cases found.symm.trans here
      exact fine placed removable
    · exact fun hardens placed removable => hardens _ found placed removable
  | @moveMount _ m _ _ _ found allowed =>
    refine (hardened_put_iff hardened).trans ?_
    constructor
    · intro fine r here removable
      cases found.symm.trans here
      exact .inl (fine rfl removable)
    · intro hardens _ removable
      rcases hardens m found removable with secure | ⟨active, read⟩
      · exact secure
      · exact secure_of_moveMount active read allowed
  | @umount id =>
    refine iff_of_true ?_ trivial
    intro k r here
    by_cases gone : k = id
    · subst gone
      cases (Function.update_self ..).symm.trans here
    · exact hardened k r ((Function.update_of_ne gone ..).symm.trans here)
  | toggle => exact iff_of_true hardened trivial

end Steps

section Sample

/-- A USB stick. -/
def usbStick : KernelStr := .text (CStr.literal "/dev/sda1")

def sampleTable : Table := ⟨⟨some 1, some []⟩, ⟨true, 32, 320⟩, fun _ => none⟩

/-- It is mounted on a directory of a user with the flags, and remounted without, under a made-up
source. -/
def userMount : Path := ⟨some (.root (.text [47])), some (CStr.literal "/home/stick")⟩

def mountedStick : Mount := ⟨⟨mntFlagsOf SECURE_MOUNT_FLAGS, none, usbStick⟩, true⟩

def remountedStick : Mount := ⟨⟨mntFlagsOf 0, none, usbStick⟩, true⟩

def remountMoves : List (Move Table Event) :=
  [⟨sampleTable, .newMount 1 usbStick SECURE_MOUNT_FLAGS, sampleTable.put 1 mountedStick⟩,
    ⟨sampleTable.put 1 mountedStick, .remount 1 0,
      (sampleTable.put 1 mountedStick).put 1 remountedStick⟩]

private theorem run_remountMoves : Run Step sampleTable remountMoves
    ((sampleTable.put 1 mountedStick).put 1 remountedStick) := by
  have first : ¬ (mountSecureSbMount sampleTable.maps true ⟨0, 0, none⟩ usbStick userMount .null
      SECURE_MOUNT_FLAGS).Denied := by
    decide
  have second : ¬ (mountSecureSbMount sampleTable.maps true ⟨0, 0, none⟩
      (.text (CStr.literal "none")) userMount .null 0).Denied := by
    decide
  exact .cons (.newMount rfl first) (.cons (.remount mounts_put_self rfl second) (.nil _))

end Sample

end BouclierBleu.MountSecure.MountTable
