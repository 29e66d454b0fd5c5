/- GID: BouclierBleu/PtraceBlock/Rights
   source: bpf/ptrace_block.bpf.c, modules/src/ptrace_block.rs
   digest: Who gets at the memory of whom, over runs of tracing, forks, execs and exits. -/

import BouclierBleu.Library.Trace
import BouclierBleu.PtraceBlock.Hooks
import Mathlib.Logic.Function.Basic

set_option autoImplicit false
set_option relaxedAutoImplicit false

namespace BouclierBleu.PtraceBlock.Rights

open BouclierBleu.Kernel.ModuleCore (isModuleActive EACCES Outcome CStr Task)
open BouclierBleu.Kernel.VfsHelpers (DirId Inode extractDirIdFromInode)
open BouclierBleu.Library.BoundedMaps (BoundedMap)
open BouclierBleu.Library.Trace (Move Run)
open BouclierBleu.PtraceBlock.Hooks

/-- An address space; `exe` is the program it was made for. -/
structure Memory where
  serial : Nat
  exe : Option Inode

/-- A thread group. At most one process is attached to it. -/
structure Process where
  uid : UInt32
  comm : Option (List UInt8)
  mm : Memory
  parent : UInt32
  tracer : Option UInt32

def Process.tracee (tgid : UInt32) (p : Process) : Tracee := ⟨tgid, p.comm, p.mm.exe⟩

/-- When process `pid` exits: its children pass to `reaper`, and those it traced run on. -/
def Process.released (pid reaper : UInt32) (p : Process) : Process :=
  { p with
    parent := if p.parent = pid then reaper else p.parent
    tracer := if p.tracer = some pid then none else p.tracer }

/-- An open `/proc/<pid>/mem`. It stands for the address space, whatever becomes of the process. -/
structure Handle where
  holder : UInt32
  mm : Memory

/-- `inspected` holds the address spaces that another process has read from at least once. -/
structure System where
  maps : Maps
  processes : UInt32 → Option Process
  handles : List Handle
  inspected : List Memory

inductive Event
  | attach (tracer : Task) (target : UInt32)
  | traceme (child : Task)
  | detach (target : UInt32)
  | inspect (reader : Task) (target : UInt32)
  | openMem (opener : Task) (target : UInt32)
  | send (h : Handle) (receiver : UInt32)
  | close
  | fork (parent child : UInt32)
  | execve (pid : UInt32) (inode : Inode)
  | setuid (pid uid : UInt32)
  | exit (pid : UInt32)
  | toggle (stateMap : Option UInt32)

/-- What `/proc/<pid>/mem` looks like to the hook. -/
def memFile : File := ⟨some ⟨3, some (CStr.literal "mem" ++ [0])⟩, some PROC_SUPER_MAGIC⟩

namespace System

/-- A task that runs in the process of its number. -/
def Runs (s : System) (task : Task) : Prop :=
  ∃ p, s.processes task.tgid = some p ∧ p.uid = task.uid ∧ p.comm = task.comm

def put (s : System) (pid : UInt32) (p : Process) : System :=
  { s with processes := Function.update s.processes pid (some p) }

/-- An address space no process runs in and no handle stands for. -/
def Fresh (s : System) (mm : Memory) : Prop :=
  (∀ pid p, s.processes pid = some p → p.mm ≠ mm) ∧ (∀ h ∈ s.handles, h.mm ≠ mm) ∧
    mm ∉ s.inspected

/-- The child gets a copy of the address space, and the open files; a tracer that follows forks
is attached to it from the start, without any check. -/
def fork (s : System) (parent child : UInt32) (p : Process) (serial : Nat) (followed : Bool) :
    System :=
  { s.put child
      { p with
        mm := ⟨serial, p.mm.exe⟩
        parent := parent
        tracer := if followed then p.tracer else none } with
    handles := (s.handles.filter fun h => h.holder = parent).map (fun h => ⟨child, h.mm⟩) ++
      s.handles }

/-- A new address space in the same process, with the same tracer and the same open files. -/
def execve (s : System) (pid : UInt32) (p : Process) (serial : Nat) (inode : Inode) : System :=
  s.put pid { p with mm := ⟨serial, some inode⟩ }

def exit (s : System) (pid reaper : UInt32) : System :=
  { s with
    processes := fun k => if k = pid then none else (s.processes k).map (Process.released pid reaper)
    handles := s.handles.filter fun h => h.holder ≠ pid }

section Lookups

variable {s : System} {pid k : UInt32} {p : Process}

@[simp] theorem processes_put_self : (s.put pid p).processes pid = some p :=
  Function.update_self ..

theorem processes_put_ne (other : k ≠ pid) : (s.put pid p).processes k = s.processes k :=
  Function.update_of_ne other ..

@[simp] theorem processes_execve_self {serial : Nat} {inode : Inode} :
    (s.execve pid p serial inode).processes pid = some { p with mm := ⟨serial, some inode⟩ } :=
  processes_put_self

theorem processes_exit_self {reaper : UInt32} : (s.exit pid reaper).processes pid = none :=
  if_pos rfl

theorem processes_exit_ne {reaper : UInt32} (other : k ≠ pid) :
    (s.exit pid reaper).processes k = (s.processes k).map (Process.released pid reaper) :=
  if_neg other

end Lookups

end System

/-- What the kernel lets happen once the hooks have passed it; its own checks could only forbid
more. A process cannot trace itself, nor be traced twice. -/
inductive Step : System → Event → System → Prop
  | attach {s : System} {tracer : Task} {target mode : UInt32} {q : Process} {reserved : Bool}
      (running : s.Runs tracer) (found : s.processes target = some q) (free : q.tracer = none)
      (other : tracer.tgid ≠ target) (attaching : mode &&& PTRACE_MODE_ATTACH ≠ 0)
      (allowed : ¬ (ptraceBlockAccessCheck s.maps reserved tracer (q.tracee target) mode).Denied) :
      Step s (.attach tracer target) (s.put target { q with tracer := some tracer.tgid })
  | traceme {s : System} {child : Task} {p q : Process} {reserved : Bool}
      (running : s.Runs child) (found : s.processes child.tgid = some p) (free : p.tracer = none)
      (parented : s.processes p.parent = some q)
      (allowed : ¬ (ptraceBlockTraceme s.maps reserved child p.parent q.uid).Denied) :
      Step s (.traceme child) (s.put child.tgid { p with tracer := some p.parent })
  | detach {s : System} {target : UInt32} {q : Process} (found : s.processes target = some q) :
      Step s (.detach target) (s.put target { q with tracer := none })
  | inspect {s : System} {reader : Task} {target mode : UInt32} {q : Process} {reserved : Bool}
      (running : s.Runs reader) (found : s.processes target = some q)
      (other : reader.tgid ≠ target)
      (allowed : ¬ (ptraceBlockAccessCheck s.maps reserved reader (q.tracee target) mode).Denied) :
      Step s (.inspect reader target) { s with inspected := q.mm :: s.inspected }
  | openMem {s : System} {opener : Task} {target mode : UInt32} {q : Process} {reserved : Bool}
      (running : s.Runs opener) (found : s.processes target = some q)
      (attaching : mode &&& PTRACE_MODE_ATTACH ≠ 0)
      (opened : ¬ (ptraceBlockFileOpen s.maps reserved opener memFile).Denied)
      (allowed : ¬ (ptraceBlockAccessCheck s.maps reserved opener (q.tracee target) mode).Denied) :
      Step s (.openMem opener target) { s with handles := ⟨opener.tgid, q.mm⟩ :: s.handles }
  | send {s : System} {h : Handle} {receiver : UInt32} {p : Process} (held : h ∈ s.handles)
      (found : s.processes receiver = some p) :
      Step s (.send h receiver) { s with handles := ⟨receiver, h.mm⟩ :: s.handles }
  | close {s : System} {kept : List Handle} (fewer : kept ⊆ s.handles) :
      Step s .close { s with handles := kept }
  | fork {s : System} {parent child : UInt32} {p : Process} {serial : Nat} {followed : Bool}
      (found : s.processes parent = some p) (free : s.processes child = none)
      (fresh : s.Fresh ⟨serial, p.mm.exe⟩) :
      Step s (.fork parent child) (s.fork parent child p serial followed)
  | execve {s : System} {pid : UInt32} {inode : Inode} {p : Process} {serial : Nat}
      (found : s.processes pid = some p) (fresh : s.Fresh ⟨serial, some inode⟩) :
      Step s (.execve pid inode) (s.execve pid p serial inode)
  | setuid {s : System} {pid uid : UInt32} {p : Process} (found : s.processes pid = some p) :
      Step s (.setuid pid uid) (s.put pid { p with uid := uid })
  | exit {s : System} {pid reaper : UInt32} : Step s (.exit pid) (s.exit pid reaper)
  | toggle {s : System} {stateMap : Option UInt32} :
      Step s (.toggle stateMap) { s with maps := { s.maps with stateMap := stateMap } }

def Listed (protectedProcesses : BoundedMap DirId UInt8) (inode : Inode) : Prop :=
  protectedProcesses.lookup (extractDirIdFromInode inode) = some 1

/-- The address space of a process that runs a watched program. -/
def Shielded (s : System) (mm : Memory) : Prop :=
  ∃ inode, mm.exe = some inode ∧ Listed s.maps.protectedProcesses inode

def Active (s : System) : Prop := isModuleActive s.maps.stateMap = true

/-- No watched program is traced, only its own process has its memory open, and no other has
ever read from it. -/
structure Sheltered (s : System) : Prop where
  untraced : ∀ pid p, s.processes pid = some p → Shielded s p.mm → p.tracer = none
  owned : ∀ h ∈ s.handles, Shielded s h.mm → ∃ p, s.processes h.holder = some p ∧ p.mm = h.mm
  unseen : ∀ mm ∈ s.inspected, ¬ Shielded s mm

/-- What an event must avoid: to reach for a watched program while the module is off; and, which
no hook sees, that a watched program asks to be traced or is started under a tracer, and that a
handle on its own memory leaves it, by a message, through a fork or through an exec. -/
def Spares (s : System) : Event → Prop
  | .attach _ target | .inspect _ target =>
    ∀ q, s.processes target = some q → Shielded s q.mm → Active s
  | .openMem opener target =>
    ∀ p q, s.processes opener.tgid = some p → s.processes target = some q → Shielded s q.mm →
      Active s ∨ p.mm = q.mm
  | .traceme child => ∀ p, s.processes child.tgid = some p → ¬ Shielded s p.mm
  | .send h receiver => ∀ p, s.processes receiver = some p → Shielded s h.mm → p.mm = h.mm
  | .fork parent _ => ∀ h ∈ s.handles, h.holder = parent → ¬ Shielded s h.mm
  | .execve pid inode =>
    (∀ p, s.processes pid = some p → Listed s.maps.protectedProcesses inode → p.tracer = none) ∧
      ∀ h ∈ s.handles, h.holder = pid → ¬ Shielded s h.mm
  | .detach _ | .close | .setuid _ _ | .exit _ | .toggle _ => True

section Shelter

open BouclierBleu.PtraceBlock.Rights.System

variable {s t : System}

/-- While the module is on, the access check keeps others off a watched program. -/
private theorem unshielded_of_allowed {tracer : Task} {target mode : UInt32} {q : Process}
    {reserved : Bool} (other : tracer.tgid ≠ target)
    (allowed : ¬ (ptraceBlockAccessCheck s.maps reserved tracer (q.tracee target) mode).Denied)
    (active : Active s) : ¬ Shielded s q.mm := by
  rintro ⟨inode, running, listed⟩
  apply allowed
  have trigger : triggeredAction s.maps.protectedProcesses tracer.getGlobalUid (q.tracee target)
      mode = some ACTION_CRED_DUMP := triggeredAction_of_protected running listed
  rw [ptraceBlockAccessCheck_denied_iff, trigger]
  exact ⟨active, other, rfl⟩

/-- A process that stays in its address space changes nothing but its own tracer. -/
private theorem sheltered_put_iff {pid : UInt32} {p : Process} (sheltered : Sheltered s)
    (found : s.processes pid = some p) (p' : Process) (same : p'.mm = p.mm) :
    Sheltered (s.put pid p') ↔ (Shielded s p.mm → p'.tracer = none) := by
  constructor
  · intro later shielded
    exact later.untraced pid p' processes_put_self (same ▸ shielded)
  · intro untraced
    refine ⟨?_, ?_, sheltered.unseen⟩
    · intro k r here shielded
      by_cases own : k = pid
      · subst own
        cases processes_put_self.symm.trans here
        exact untraced (same ▸ shielded)
      · rw [processes_put_ne own] at here
        exact sheltered.untraced k r here shielded
    · intro h held shielded
      obtain ⟨r, running, own⟩ := sheltered.owned h held shielded
      by_cases changed : h.holder = pid
      · rw [changed, found] at running
        cases running
        exact ⟨p', by rw [changed, processes_put_self], same.trans own⟩
      · exact ⟨r, (processes_put_ne changed).trans running, own⟩

private theorem sheltered_hold_iff {h : Handle} (sheltered : Sheltered s) :
    Sheltered { s with handles := h :: s.handles } ↔
      (Shielded s h.mm → ∃ p, s.processes h.holder = some p ∧ p.mm = h.mm) := by
  constructor
  · intro later shielded
    exact later.owned h List.mem_cons_self shielded
  · intro owned
    refine ⟨sheltered.untraced, ?_, sheltered.unseen⟩
    intro k held
    rcases List.mem_cons.mp held with rfl | old
    · exact owned
    · exact sheltered.owned k old

private theorem sheltered_fork_iff {parent child : UInt32} {p : Process} {serial : Nat}
    {followed : Bool} (sheltered : Sheltered s) (found : s.processes parent = some p)
    (free : s.processes child = none) (fresh : s.Fresh ⟨serial, p.mm.exe⟩) :
    Sheltered (s.fork parent child p serial followed) ↔ Spares s (.fork parent child) := by
  constructor
  · intro later h held own shielded
    have copied : ⟨child, h.mm⟩ ∈ (s.fork parent child p serial followed).handles := by
      refine List.mem_append_left _ (List.mem_map.mpr ⟨h, ?_, rfl⟩)
      exact List.mem_filter.mpr ⟨held, decide_eq_true own⟩
    obtain ⟨q, running, same⟩ := later.owned _ copied shielded
    cases processes_put_self.symm.trans running
    exact fresh.2.1 h held same.symm
  · intro spares
    refine ⟨?_, ?_, sheltered.unseen⟩
    · intro k r here shielded
      by_cases own : k = child
      · subst own
        cases processes_put_self.symm.trans here
        have untraced := sheltered.untraced parent p found shielded
        cases followed with
        | false => rfl
        | true => exact untraced
      · exact sheltered.untraced k r ((processes_put_ne own).symm.trans here) shielded
    · intro h held shielded
      rcases List.mem_append.mp held with copied | old
      · obtain ⟨original, member, rfl⟩ := List.mem_map.mp copied
        obtain ⟨member, own⟩ := List.mem_filter.mp member
        exact absurd shielded (spares original member (of_decide_eq_true own))
      · obtain ⟨r, running, same⟩ := sheltered.owned h old shielded
        have other : h.holder ≠ child := by
          intro reused
          rw [reused, free] at running
          cases running
        exact ⟨r, (processes_put_ne other).trans running, same⟩

private theorem sheltered_execve_iff {pid : UInt32} {inode : Inode} {p : Process} {serial : Nat}
    (sheltered : Sheltered s) (found : s.processes pid = some p)
    (fresh : s.Fresh ⟨serial, some inode⟩) :
    Sheltered (s.execve pid p serial inode) ↔ Spares s (.execve pid inode) := by
  constructor
  · intro later
    constructor
    · intro q running listed
      cases found.symm.trans running
      exact later.untraced pid { p with mm := ⟨serial, some inode⟩ } processes_execve_self
        ⟨inode, rfl, listed⟩
    · intro h held own shielded
      obtain ⟨q, running, same⟩ := later.owned h held shielded
      rw [own] at running
      cases processes_execve_self.symm.trans running
      exact fresh.2.1 h held same.symm
  · rintro ⟨untraced, unshared⟩
    refine ⟨?_, ?_, sheltered.unseen⟩
    · intro k r here shielded
      by_cases own : k = pid
      · subst own
        cases processes_execve_self.symm.trans here
        obtain ⟨_, shape, listed⟩ := shielded
        cases shape
        exact untraced p found listed
      · exact sheltered.untraced k r ((processes_put_ne own).symm.trans here) shielded
    · intro h held shielded
      obtain ⟨r, running, same⟩ := sheltered.owned h held shielded
      have other : h.holder ≠ pid := fun own => unshared h held own shielded
      exact ⟨r, (processes_put_ne other).trans running, same⟩

private theorem sheltered_exit {pid reaper : UInt32} (sheltered : Sheltered s) :
    Sheltered (s.exit pid reaper) := by
  refine ⟨?_, ?_, sheltered.unseen⟩
  · intro k r here shielded
    by_cases gone : k = pid
    · subst gone
      cases processes_exit_self.symm.trans here
    · rw [processes_exit_ne gone] at here
      obtain ⟨q, running, rfl⟩ := Option.map_eq_some_iff.mp here
      have untraced := sheltered.untraced k q running shielded
      show (if q.tracer = some pid then none else q.tracer) = none
      rw [untraced, ite_self]
  · intro h held shielded
    obtain ⟨old, stays⟩ := List.mem_filter.mp held
    obtain ⟨r, running, same⟩ := sheltered.owned h old shielded
    refine ⟨r.released pid reaper, ?_, same⟩
    rw [processes_exit_ne (of_decide_eq_true stays), running]
    rfl

private theorem sheltered_step_iff {event : Event} (taken : Step s event t)
    (sheltered : Sheltered s) : Sheltered t ↔ Spares s event := by
  cases taken with
  | @attach tracer _ _ q _ running found free other attaching allowed =>
    refine (sheltered_put_iff sheltered found { q with tracer := some tracer.tgid } rfl).trans ?_
    constructor
    · intro untraced q here shielded
      cases found.symm.trans here
      cases untraced shielded
    · intro spares shielded
      have active := spares _ found shielded
      exact absurd shielded (unshielded_of_allowed other allowed active)
  | @traceme _ p _ _ running found free parented allowed =>
    refine (sheltered_put_iff sheltered found { p with tracer := some p.parent } rfl).trans ?_
    constructor
    · intro untraced q here shielded
      cases found.symm.trans here
      cases untraced shielded
    · intro spares shielded
      exact absurd shielded (spares _ found)
  | @detach _ q found =>
    have released := sheltered_put_iff sheltered found { q with tracer := none } rfl
    exact iff_of_true (released.mpr fun _ => rfl) trivial
  | inspect running found other allowed =>
    constructor
    · intro later q here shielded
      cases found.symm.trans here
      exact absurd shielded (later.unseen _ List.mem_cons_self)
    · intro spares
      refine ⟨sheltered.untraced, sheltered.owned, ?_⟩
      intro mm member shielded
      rcases List.mem_cons.mp member with rfl | old
      · exact unshielded_of_allowed other allowed (spares _ found shielded) shielded
      · exact sheltered.unseen mm old shielded
  | @openMem opener target _ q _ running found attaching opened allowed =>
    obtain ⟨p, own, _⟩ := running
    refine (sheltered_hold_iff sheltered).trans ?_
    constructor
    · intro owned p' q' here there shielded
      cases own.symm.trans here
      cases found.symm.trans there
      obtain ⟨r, running, same⟩ := owned shielded
      cases own.symm.trans running
      exact .inr same
    · intro spares shielded
      by_cases self : opener.tgid = target
      · exact ⟨q, by rw [self]; exact found, rfl⟩
      · rcases spares p q own found shielded with active | same
        · exact absurd shielded (unshielded_of_allowed self allowed active)
        · exact ⟨p, own, same⟩
  | send held found =>
    refine (sheltered_hold_iff sheltered).trans ?_
    constructor
    · intro owned p here shielded
      obtain ⟨r, running, same⟩ := owned shielded
      cases here.symm.trans running
      exact same
    · intro spares shielded
      exact ⟨_, found, spares _ found shielded⟩
  | close fewer =>
    exact iff_of_true ⟨sheltered.untraced, fun h held => sheltered.owned h (fewer held),
      sheltered.unseen⟩ trivial
  | fork found free fresh => exact sheltered_fork_iff sheltered found free fresh
  | execve found fresh => exact sheltered_execve_iff sheltered found fresh
  | @setuid _ uid p found =>
    have changed := sheltered_put_iff sheltered found { p with uid := uid } rfl
    exact iff_of_true (changed.mpr (sheltered.untraced _ _ found)) trivial
  | exit => exact iff_of_true (sheltered_exit sheltered) trivial
  | toggle =>
    exact iff_of_true ⟨sheltered.untraced, sheltered.owned, sheltered.unseen⟩ trivial

/-- In every run of tracing, forks, execs, exits and toggles: the programs on the watchlist stay
out of reach, for root too, exactly as long as every event spares them. -/
theorem sheltered_throughout_iff {moves : List (Move System Event)} (run : Run Step s moves t)
    (start : Sheltered s) :
    (∀ m ∈ moves, Sheltered m.target) ↔ ∀ m ∈ moves, Spares m.source m.label :=
  run.invariant_iff_moves (fun _ _ _ taken sheltered => sheltered_step_iff taken sheltered) start

end Shelter

section Sample

/-- Root's debugger, and a shell that is about to run a watched program. -/
def debugger : Task := ⟨0x100000001, 0, none⟩

def shell : Process := ⟨1000, none, ⟨1, none⟩, 1, none⟩

def passwd : Inode := ⟨41, ⟨8, 0xEF53⟩, 1⟩

def sampleSystem : System where
  maps := ⟨some 1, .single .reject 256 protectedProcessesMax_pos (extractDirIdFromInode passwd) 1⟩
  processes := fun pid =>
    if pid = 1 then some ⟨0, none, ⟨0, none⟩, 0, none⟩ else if pid = 2 then some shell else none
  handles := []
  inspected := []

def tracedShell : Process := { shell with tracer := some 1 }

def tracedMoves : List (Move System Event) :=
  [⟨sampleSystem, .attach debugger 2, sampleSystem.put 2 tracedShell⟩,
    ⟨sampleSystem.put 2 tracedShell, .execve 2 passwd,
      (sampleSystem.put 2 tracedShell).execve 2 tracedShell 2 passwd⟩]

private theorem sampleSystem_cases {pid : UInt32} {p : Process}
    (found : sampleSystem.processes pid = some p) :
    p.mm.serial ≤ 1 ∧ p.mm.exe = none ∧ p.tracer = none := by
  simp only [sampleSystem] at found
  split at found
  · cases found
    exact ⟨Nat.zero_le _, rfl, rfl⟩
  · split at found
    · cases found
      exact ⟨Nat.le_refl _, rfl, rfl⟩
    · cases found

private theorem run_tracedMoves : Run Step sampleSystem tracedMoves
    ((sampleSystem.put 2 tracedShell).execve 2 tracedShell 2 passwd) := by
  have allowed :
      ¬ (ptraceBlockAccessCheck sampleSystem.maps true debugger (shell.tracee 2) 2).Denied := by
    decide
  have attached : Step sampleSystem (.attach debugger 2) (sampleSystem.put 2 tracedShell) :=
    .attach ⟨_, rfl, rfl, rfl⟩ rfl rfl (by decide) (by decide) allowed
  have unused : ∀ pid p, (sampleSystem.put 2 tracedShell).processes pid = some p →
      p.mm ≠ ⟨2, some passwd⟩ := by
    rintro pid p found same
    by_cases own : pid = 2
    · subst own
      cases System.processes_put_self.symm.trans found
      cases same
    · rw [System.processes_put_ne own] at found
      have small := (sampleSystem_cases found).1
      rw [same] at small
      exact absurd small (by decide)
  exact .cons attached (.cons (.execve System.processes_put_self ⟨unused, nofun, nofun⟩) (.nil _))

private theorem sheltered_sampleSystem : Sheltered sampleSystem :=
  ⟨fun _ _ found _ => (sampleSystem_cases found).2.2, nofun, nofun⟩

/-- The module is on all the while. -/
theorem sheltered_throughout_iff_sample : Run Step sampleSystem tracedMoves
      ((sampleSystem.put 2 tracedShell).execve 2 tracedShell 2 passwd) ∧
    (∀ m ∈ tracedMoves, Active m.source) ∧ ¬ ∀ m ∈ tracedMoves, Sheltered m.target := by
  refine ⟨run_tracedMoves, ?_, ?_⟩
  · intro m member
    rcases List.mem_pair.mp member with rfl | rfl <;> rfl
  · intro sheltered
    have spares := (sheltered_throughout_iff run_tracedMoves sheltered_sampleSystem).mp sheltered
    have started := spares _ (List.mem_cons_of_mem _ List.mem_cons_self)
    have listed : Listed sampleSystem.maps.protectedProcesses passwd := by
      rw [Listed]
      decide
    cases started.1 tracedShell System.processes_put_self listed

end Sample

def RunsAsRoot (s : System) (pid : UInt32) : Prop := ∃ p, s.processes pid = some p ∧ p.uid = 0

/-- Whoever traces a process or has memory open, its own or another's, is root. -/
structure Privileged (s : System) : Prop where
  tracers : ∀ pid p tracer, s.processes pid = some p → p.tracer = some tracer →
    RunsAsRoot s tracer
  holders : ∀ h ∈ s.handles, RunsAsRoot s h.holder

/-- What an event must avoid: that a user gets at memory while the module is off; and, which no
hook sees, that a user is sent a handle, or a process stops being root while it traces or holds
one. -/
def StaysPrivileged (s : System) : Event → Prop
  | .attach task _ | .openMem task _ => Active s ∨ task.uid = 0
  | .traceme child =>
    Active s ∨ ∀ p, s.processes child.tgid = some p → RunsAsRoot s p.parent
  | .send _ receiver => RunsAsRoot s receiver
  | .setuid pid uid =>
    uid = 0 ∨ (∀ k p, s.processes k = some p → p.tracer ≠ some pid) ∧
      ∀ h ∈ s.handles, h.holder ≠ pid
  | .detach _ | .inspect _ _ | .close | .fork _ _ | .execve _ _ | .exit _ | .toggle _ => True

section Privilege

open BouclierBleu.PtraceBlock.Rights.System

variable {s t : System}

private theorem runsAsRoot_iff {pid : UInt32} {p : Process} (found : s.processes pid = some p) :
    RunsAsRoot s pid ↔ p.uid = 0 := by
  constructor
  · rintro ⟨q, running, root⟩
    cases found.symm.trans running
    exact root
  · exact fun root => ⟨p, found, root⟩

private theorem runsAsRoot_task {task : Task} (running : s.Runs task) :
    RunsAsRoot s task.tgid ↔ task.uid = 0 := by
  obtain ⟨p, found, same, _⟩ := running
  rw [runsAsRoot_iff found, same]

private theorem runsAsRoot_put {pid k : UInt32} {p : Process} (found : s.processes pid = some p)
    (p' : Process) (same : p'.uid = p.uid) : RunsAsRoot (s.put pid p') k ↔ RunsAsRoot s k := by
  by_cases own : k = pid
  · subst own
    rw [runsAsRoot_iff processes_put_self, runsAsRoot_iff found, same]
  · rw [RunsAsRoot, RunsAsRoot, processes_put_ne own]

/-- While the module is on, the access check keeps users from attaching. -/
private theorem root_of_allowed {tracer : Task} {target mode : UInt32} {q : Process}
    {reserved : Bool} (other : tracer.tgid ≠ target) (attaching : mode &&& PTRACE_MODE_ATTACH ≠ 0)
    (allowed : ¬ (ptraceBlockAccessCheck s.maps reserved tracer (q.tracee target) mode).Denied)
    (active : Active s) : tracer.uid = 0 := by
  by_contra user
  apply allowed
  refine ptraceBlockAccessCheck_denied_iff.mpr ⟨active, other, ?_⟩
  rw [triggeredAction]
  have injects : (mode &&& PTRACE_MODE_ATTACH != 0 && tracer.getGlobalUid != 0) = true := by
    rw [bne_iff_ne.mpr attaching, Task.getGlobalUid, bne_iff_ne.mpr user, Bool.and_true]
  rw [if_pos injects]
  generalize q.tracee target = child
  split
  · rfl
  · split <;> rfl

/-- While the module is on, the hook on opens keeps users from all of `/proc/<pid>/mem`. -/
private theorem root_of_opened {opener : Task} {reserved : Bool}
    (opened : ¬ (ptraceBlockFileOpen s.maps reserved opener memFile).Denied)
    (active : Active s) : opener.uid = 0 := by
  by_contra user
  apply opened
  have named : ((CStr.literal "mem" ++ [0]).take 4 == CStr.literal "mem" ++ [0]) = true := by decide
  have on : isModuleActive s.maps.stateMap = true := active
  simp [ptraceBlockFileOpen, memFile, on, named, Task.getGlobalUid, user, Outcome.Denied, EACCES]

private theorem root_of_traceme {child : Task} {parent parentUid : UInt32} {reserved : Bool}
    (allowed : ¬ (ptraceBlockTraceme s.maps reserved child parent parentUid).Denied)
    (active : Active s) : parentUid = 0 := by
  by_contra user
  apply allowed
  have on : isModuleActive s.maps.stateMap = true := active
  simp [ptraceBlockTraceme, on, user, Outcome.Denied, EACCES]

/-- A process that keeps its user changes nothing but its own tracer. -/
private theorem privileged_put_iff {pid : UInt32} {p : Process} (privileged : Privileged s)
    (found : s.processes pid = some p) (p' : Process) (same : p'.uid = p.uid) :
    Privileged (s.put pid p') ↔ ∀ tracer, p'.tracer = some tracer → RunsAsRoot s tracer := by
  constructor
  · intro later tracer traced
    exact (runsAsRoot_put found p' same).mp (later.tracers pid p' tracer processes_put_self traced)
  · intro traced
    constructor
    · intro k r tracer here attached
      rw [runsAsRoot_put found p' same]
      by_cases own : k = pid
      · subst own
        cases processes_put_self.symm.trans here
        exact traced tracer attached
      · exact privileged.tracers k r tracer ((processes_put_ne own).symm.trans here) attached
    · intro h held
      exact (runsAsRoot_put found p' same).mpr (privileged.holders h held)

private theorem privileged_hold_iff {h : Handle} (privileged : Privileged s) :
    Privileged { s with handles := h :: s.handles } ↔ RunsAsRoot s h.holder := by
  constructor
  · exact fun later => later.holders h List.mem_cons_self
  · intro root
    refine ⟨privileged.tracers, ?_⟩
    intro k held
    rcases List.mem_cons.mp held with rfl | old
    · exact root
    · exact privileged.holders k old

private theorem privileged_fork {parent child : UInt32} {p : Process} {serial : Nat}
    {followed : Bool} (privileged : Privileged s) (found : s.processes parent = some p)
    (free : s.processes child = none) :
    Privileged (s.fork parent child p serial followed) := by
  have older {pid : UInt32} (root : RunsAsRoot s pid) :
      RunsAsRoot (s.fork parent child p serial followed) pid := by
    obtain ⟨q, running, zero⟩ := root
    have other : pid ≠ child := by
      rintro rfl
      cases free.symm.trans running
    exact ⟨q, (processes_put_ne other).trans running, zero⟩
  constructor
  · intro k r tracer here attached
    by_cases own : k = child
    · subst own
      cases processes_put_self.symm.trans here
      cases followed with
      | false => cases attached
      | true => exact older (privileged.tracers parent p tracer found attached)
    · have before := (processes_put_ne own).symm.trans here
      exact older (privileged.tracers k r tracer before attached)
  · intro h held
    rcases List.mem_append.mp held with copied | old
    · obtain ⟨original, member, rfl⟩ := List.mem_map.mp copied
      obtain ⟨member, own⟩ := List.mem_filter.mp member
      have root := privileged.holders original member
      rw [of_decide_eq_true own] at root
      exact ⟨_, processes_put_self, (runsAsRoot_iff found).mp root⟩
    · exact older (privileged.holders h old)

private theorem privileged_exit {pid reaper : UInt32} (privileged : Privileged s) :
    Privileged (s.exit pid reaper) := by
  have survivor {k : UInt32} (root : RunsAsRoot s k) (stays : k ≠ pid) :
      RunsAsRoot (s.exit pid reaper) k := by
    obtain ⟨q, running, zero⟩ := root
    exact ⟨q.released pid reaper, by rw [processes_exit_ne stays, running]; rfl, zero⟩
  constructor
  · intro k r tracer here attached
    by_cases gone : k = pid
    · subst gone
      cases processes_exit_self.symm.trans here
    · rw [processes_exit_ne gone] at here
      obtain ⟨q, running, rfl⟩ := Option.map_eq_some_iff.mp here
      change (if q.tracer = some pid then none else q.tracer) = some tracer at attached
      split at attached
      · cases attached
      · rename_i kept
        refine survivor (privileged.tracers k q tracer running attached) ?_
        rintro rfl
        exact kept attached
  · intro h held
    obtain ⟨old, stays⟩ := List.mem_filter.mp held
    exact survivor (privileged.holders h old) (of_decide_eq_true stays)

private theorem privileged_setuid_iff {pid uid : UInt32} {p : Process}
    (privileged : Privileged s) (found : s.processes pid = some p) :
    Privileged (s.put pid { p with uid := uid }) ↔ StaysPrivileged s (.setuid pid uid) := by
  have own : RunsAsRoot (s.put pid { p with uid := uid }) pid ↔ uid = 0 :=
    runsAsRoot_iff processes_put_self
  have others {k : UInt32} (other : k ≠ pid) :
      RunsAsRoot (s.put pid { p with uid := uid }) k ↔ RunsAsRoot s k := by
    rw [RunsAsRoot, RunsAsRoot, processes_put_ne other]
  -- Only the user of the process changes; its tracer and those it traces stay.
  have tracers {k : UInt32} {tracer : UInt32} : (∃ r, (s.put pid { p with uid := uid }).processes k =
      some r ∧ r.tracer = some tracer) ↔ ∃ r, s.processes k = some r ∧ r.tracer = some tracer := by
    by_cases same : k = pid
    · subst same
      simp [found]
    · rw [processes_put_ne same]
  constructor
  · intro later
    by_cases root : uid = 0
    · exact .inl root
    · refine .inr ⟨?_, ?_⟩
      · intro k r here attached
        obtain ⟨r', here', attached'⟩ := tracers.mpr ⟨r, here, attached⟩
        exact root (own.mp (later.tracers k r' pid here' attached'))
      · rintro h held rfl
        exact root (own.mp (later.holders h held))
  · intro stays
    have kept {k : UInt32} (root : RunsAsRoot s k) (other : uid = 0 ∨ k ≠ pid) :
        RunsAsRoot (s.put pid { p with uid := uid }) k := by
      by_cases same : k = pid
      · subst same
        exact own.mpr (other.resolve_right fun apart => apart rfl)
      · exact (others same).mpr root
    constructor
    · intro k r tracer here attached
      obtain ⟨r', here', attached'⟩ := tracers.mp ⟨r, here, attached⟩
      refine kept (privileged.tracers k r' tracer here' attached') (stays.imp_right ?_)
      rintro ⟨free, _⟩ rfl
      exact free k r' here' attached'
    · intro h held
      exact kept (privileged.holders h held) (stays.imp_right fun unheld => unheld.2 h held)

private theorem privileged_step_iff {event : Event} (taken : Step s event t)
    (privileged : Privileged s) : Privileged t ↔ StaysPrivileged s event := by
  cases taken with
  | @attach tracer _ _ q _ running found free other attaching allowed =>
    refine (privileged_put_iff privileged found { q with tracer := some tracer.tgid } rfl).trans ?_
    constructor
    · exact fun root => .inr ((runsAsRoot_task running).mp (root _ rfl))
    · rintro root _ ⟨⟩
      exact (runsAsRoot_task running).mpr (root.elim (root_of_allowed other attaching allowed) id)
  | @traceme _ p q _ running found free parented allowed =>
    refine (privileged_put_iff privileged found { p with tracer := some p.parent } rfl).trans ?_
    constructor
    · intro root
      refine .inr fun r here => ?_
      cases found.symm.trans here
      exact root _ rfl
    · rintro root _ ⟨⟩
      rcases root with active | root
      · exact (runsAsRoot_iff parented).mpr (root_of_traceme allowed active)
      · exact root p found
  | @detach _ q found =>
    have released := privileged_put_iff privileged found { q with tracer := none } rfl
    exact iff_of_true (released.mpr (by rintro _ ⟨⟩)) trivial
  | inspect running found other allowed =>
    exact iff_of_true ⟨privileged.tracers, privileged.holders⟩ trivial
  | openMem running found attaching opened allowed =>
    refine (privileged_hold_iff privileged).trans ?_
    rw [runsAsRoot_task running]
    exact ⟨.inr, fun root => root.elim (root_of_opened opened) id⟩
  | send held found => exact privileged_hold_iff privileged
  | close fewer =>
    exact iff_of_true ⟨privileged.tracers, fun h held => privileged.holders h (fewer held)⟩ trivial
  | fork found free fresh => exact iff_of_true (privileged_fork privileged found free) trivial
  | @execve pid inode p serial found fresh =>
    have run := privileged_put_iff privileged found { p with mm := ⟨serial, some inode⟩ } rfl
    exact iff_of_true (run.mpr fun tracer => privileged.tracers pid p tracer found) trivial
  | setuid found => exact privileged_setuid_iff privileged found
  | exit => exact iff_of_true (privileged_exit privileged) trivial
  | toggle => exact iff_of_true ⟨privileged.tracers, privileged.holders⟩ trivial

end Privilege

end BouclierBleu.PtraceBlock.Rights
