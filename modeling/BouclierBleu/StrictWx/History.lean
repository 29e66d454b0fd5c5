/- GID: BouclierBleu/StrictWx/History
   source: bpf/strict_wx.bpf.c
   digest: What write-xor-execute guarantees over whole histories of one memory region. -/

import BouclierBleu.Library.Trace
import BouclierBleu.StrictWx.Hook

set_option autoImplicit false
set_option relaxedAutoImplicit false

namespace BouclierBleu.StrictWx.History

open BouclierBleu.Kernel.AlertStructs (StrictWxAlert)
open BouclierBleu.Kernel.ModuleCore (isModuleActive Outcome)
open BouclierBleu.Kernel.VfsHelpers (inodeOf)
open BouclierBleu.Library.Trace (Move Run)
open BouclierBleu.StrictWx.Hook

/-- The protection bits of a region's flags: `VM_READ`, `VM_WRITE` and `VM_EXEC`. -/
def VM_ACCESS : UInt64 := 0x7

def ENOMEM : Int := 12

structure Region where
  vmFlags : UInt64
  vmFile : Option File

/-- A memory request on the region; `reserved` is the fate of the alert it may raise. -/
inductive Request
  | mmap (reserved : Bool) (file : Option File) (prot : UInt64)
  | mprotect (reserved : Bool) (prot : UInt64)

def Request.prot : Request → UInt64
  | .mmap _ _ prot => prot
  | .mprotect _ prot => prot

def Request.IsMprotect : Request → Prop
  | .mmap .. => False
  | .mprotect .. => True

/-- The flags of a region; nothing is writable or executable before its first mapping. -/
def flagsOf (region : Option Region) : UInt64 := (region.map Region.vmFlags).getD 0

def setProt (flags prot : UInt64) : UInt64 := (flags &&& ~~~VM_ACCESS) ||| (prot &&& VM_ACCESS)

/-- The hook's answer; a protection change without a mapping fails before it is asked. -/
def verdict (maps : Maps) (current : Current) (region : Option Region) :
    Request → Outcome StrictWxAlert
  | .mmap reserved file prot => strictWxMmapFile maps reserved current file prot
  | .mprotect reserved prot =>
    match region with
    | none => .quiet (-ENOMEM)
    | some r => strictWxFileMprotect maps reserved current r.vmFile r.vmFlags prot

/-- A denied request leaves the region alone; a granted one sets its protection. -/
def handle (maps : Maps) (current : Current) (region : Option Region) (request : Request) :
    Option Region :=
  if (verdict maps current region request).Denied then region
  else
    match request with
    | .mmap _ file prot => some ⟨setProt 0 prot, file⟩
    | .mprotect _ prot => region.map fun r => { r with vmFlags := setProt r.vmFlags prot }

def Step (maps : Maps) (current : Current) (region : Option Region) (request : Request)
    (region' : Option Region) : Prop := handle maps current region request = region'

/-- The request of a move was let through. -/
def Granted (maps : Maps) (current : Current) (m : Move (Option Region) Request) : Prop :=
  ¬ (verdict maps current m.source m.label).Denied

instance (maps : Maps) (current : Current) (m : Move (Option Region) Request) :
    Decidable (Granted maps current m) := inferInstanceAs (Decidable (¬ _))

private theorem setProt_and {bit : UInt64} (flags prot : UInt64)
    (inside : VM_ACCESS &&& bit = bit) (kept : ~~~VM_ACCESS &&& bit = 0) :
    setProt flags prot &&& bit = prot &&& bit := by
  have spread (x y : UInt64) : (x ||| y) &&& bit = (x &&& bit) ||| (y &&& bit) :=
    UInt64.toBitVec_inj.mp BitVec.and_or_distrib_right
  rw [setProt, spread, UInt64.and_assoc, kept, UInt64.and_zero, UInt64.zero_or,
    UInt64.and_assoc, inside]

@[simp] theorem writable_setProt (flags prot : UInt64) :
    Writable (setProt flags prot) ↔ Writable prot := by
  rw [Writable, setProt_and flags prot (by decide) (by decide), Writable]

@[simp] theorem executable_setProt (flags prot : UInt64) :
    Executable (setProt flags prot) ↔ Executable prot := by
  rw [Executable, setProt_and flags prot (by decide) (by decide), Executable]

section Requests

variable {maps : Maps} {current : Current} {region region' : Option Region}
  {request : Request}

private theorem denied_unmapped (maps : Maps) (current : Current) (reserved : Bool)
    (prot : UInt64) : (verdict maps current none (.mprotect reserved prot)).Denied := by
  simp [verdict, ENOMEM]

/-- What a step does: nothing, or a grant that puts exactly the requested bits in place. -/
theorem step_cases (taken : Step maps current region request region') :
    ((verdict maps current region request).Denied ∧ region' = region) ∨
    (¬ (verdict maps current region request).Denied ∧
      (Writable (flagsOf region') ↔ Writable request.prot) ∧
      (Executable (flagsOf region') ↔ Executable request.prot)) := by
  subst taken
  by_cases denied : (verdict maps current region request).Denied
  · exact .inl ⟨denied, if_pos denied⟩
  · refine .inr ⟨denied, ?_⟩
    unfold handle
    rw [if_neg denied]
    cases request with
    | mmap _ file prot => simp [flagsOf, Request.prot]
    | mprotect reserved prot =>
      cases region with
      | none => exact absurd (denied_unmapped maps current reserved prot) denied
      | some r => simp [flagsOf, Request.prot]

variable (enabled : isModuleActive maps.stateMap = true) (optedIn : OptedIn maps current)

include enabled optedIn

/-- No grant asks for writing and executing at once. -/
theorem granted_not_both (granted : ¬ (verdict maps current region request).Denied) :
    ¬ (Writable request.prot ∧ Executable request.prot) := by
  intro both
  apply granted
  cases request with
  | mmap reserved file prot =>
    exact (denied_iff_of_optedIn enabled optedIn).mpr ((isWxViolation_iff _ _).mpr (.inl both))
  | mprotect reserved prot =>
    cases region with
    | none => exact denied_unmapped maps current reserved prot
    | some r =>
      exact (denied_iff_of_optedIn enabled optedIn).mpr
        ((isWxViolation_iff _ _).mpr (.inl both))

/-- A granted protection change never adds the bit whose opposite is currently set. -/
theorem granted_mprotect (change : request.IsMprotect)
    (granted : ¬ (verdict maps current region request).Denied) :
    ¬ (Executable request.prot ∧ Writable (flagsOf region)) ∧
      ¬ (Writable request.prot ∧ Executable (flagsOf region)) := by
  cases request with
  | mmap => exact change.elim
  | mprotect reserved prot =>
    cases region with
    | none => exact absurd (denied_unmapped maps current reserved prot) granted
    | some r =>
      have allowed : ¬ isWxViolation prot r.vmFlags = true := fun violation =>
        granted ((denied_iff_of_optedIn enabled optedIn).mpr violation)
      rw [isWxViolation_iff] at allowed
      exact ⟨fun both => allowed (.inr (.inl both)), fun both => allowed (.inr (.inr both))⟩

/-- A protection change leads from a writable region to one still writable or not executable. -/
private theorem leave_writable (region : Option Region) (request : Request)
    (region' : Option Region) (taken : Step maps current region request region')
    (change : request.IsMprotect) (write : Writable (flagsOf region)) :
    Writable (flagsOf region') ∨ ¬ Executable (flagsOf region') := by
  rcases step_cases taken with ⟨_, rfl⟩ | ⟨granted, _, exec⟩
  · exact .inl write
  · rw [exec]
    have blocked := (granted_mprotect enabled optedIn change granted).1
    exact .inr fun asked => blocked ⟨asked, write⟩

private theorem leave_executable (region : Option Region) (request : Request)
    (region' : Option Region) (taken : Step maps current region request region')
    (change : request.IsMprotect) (exec : Executable (flagsOf region)) :
    Executable (flagsOf region') ∨ ¬ Writable (flagsOf region') := by
  rcases step_cases taken with ⟨_, rfl⟩ | ⟨granted, write, _⟩
  · exact .inl exec
  · rw [write]
    have blocked := (granted_mprotect enabled optedIn change granted).2
    exact .inr fun asked => blocked ⟨asked, exec⟩

theorem step_keeps_apart (taken : Step maps current region request region')
    (apart : ¬ (Writable (flagsOf region) ∧ Executable (flagsOf region))) :
    ¬ (Writable (flagsOf region') ∧ Executable (flagsOf region')) := by
  rcases step_cases taken with ⟨_, rfl⟩ | ⟨granted, write, exec⟩
  · exact apart
  · rw [write, exec]
    exact granted_not_both enabled optedIn granted

end Requests

/-- The law over a whole history: a request that makes the region executable finds it never
writable before and does not ask to write; one that makes it writable finds it never
executable before. -/
def NeverBothOverTime (maps : Maps) (current : Current)
    (moves : List (Move (Option Region) Request)) : Prop :=
  ∀ before m after, moves = before ++ m :: after → Granted maps current m →
    (Executable m.label.prot → ¬ Writable m.label.prot ∧
      ∀ k ∈ before ++ [m], ¬ Writable (flagsOf k.source)) ∧
    (Writable m.label.prot → ∀ k ∈ before ++ [m], ¬ Executable (flagsOf k.source))

/-- The moves a list of requests makes; the verdicts decide every state. -/
def history (maps : Maps) (current : Current) (region : Option Region) :
    List Request → List (Move (Option Region) Request)
  | [] => []
  | request :: requests =>
    ⟨region, request, handle maps current region request⟩ ::
      history maps current (handle maps current region request) requests

theorem run_history (maps : Maps) (current : Current) (region : Option Region)
    (requests : List Request) :
    Run (Step maps current) region (history maps current region requests)
      (requests.foldl (handle maps current) region) := by
  induction requests generalizing region with
  | nil => exact .nil region
  | cons request requests ih => exact .cons rfl (ih _)

section Sample

/-- A task whose executable is the one opted-in file. -/
def sampleMaps : Maps :=
  ⟨some 1, .single .reject 2048 strictWxMax_pos ⟨7, 1⟩ 1⟩

def sampleCurrent : Current :=
  ⟨⟨0, 1000, none⟩, some ⟨some ⟨some (inodeOf ⟨7, 1⟩)⟩⟩⟩

theorem sample_optedIn : OptedIn sampleMaps sampleCurrent :=
  ⟨_, rfl, by decide⟩

end Sample

/-- A page written first becomes executable by way of no access at all, and by mapping over
it. -/
theorem writable_then_executable :
    isModuleActive sampleMaps.stateMap = true ∧ OptedIn sampleMaps sampleCurrent ∧
    ¬ NeverBothOverTime sampleMaps sampleCurrent
      (history sampleMaps sampleCurrent none
        [.mmap true none 0x3, .mprotect true 0x0, .mprotect true 0x5]) ∧
    ¬ NeverBothOverTime sampleMaps sampleCurrent
      (history sampleMaps sampleCurrent none
        [.mmap true none 0x3, .mmap true none 0x5]) := by
  refine ⟨by decide, sample_optedIn, ?_, ?_⟩
  · intro law
    have last := law [_, _] ⟨_, .mprotect true 0x5, _⟩ [] rfl (by decide)
    have never := (last.1 (by decide)).2 _ (.tail _ (.head _))
    exact never (by decide)
  · intro law
    have last := law [_] ⟨_, .mmap true none 0x5, _⟩ [] rfl (by decide)
    have never := (last.1 (by decide)).2 _ (.tail _ (.head _))
    exact never (by decide)

/-- What the hooks do guarantee over every history of a region. A grant never asks for both
bits, and a granted protection change never adds the opposite of a bit currently set. If the
region does not start with both, no state ever has both, and between a writable and an
executable moment that no mapping separates lies a state that is neither. -/
theorem write_xor_execute_at_every_moment {maps : Maps} {current : Current}
    {start last : Option Region} {moves : List (Move (Option Region) Request)}
    (enabled : isModuleActive maps.stateMap = true) (optedIn : OptedIn maps current)
    (run : Run (Step maps current) start moves last) :
    (∀ m ∈ moves, Granted maps current m →
      ¬ (Writable m.label.prot ∧ Executable m.label.prot) ∧
      (m.label.IsMprotect →
        ¬ (Executable m.label.prot ∧ Writable (flagsOf m.source)) ∧
        ¬ (Writable m.label.prot ∧ Executable (flagsOf m.source)))) ∧
    (¬ (Writable (flagsOf start) ∧ Executable (flagsOf start)) →
      (∀ m ∈ moves, ¬ (Writable (flagsOf m.target) ∧ Executable (flagsOf m.target))) ∧
      ((∀ m ∈ moves, m.label.IsMprotect) →
        (Writable (flagsOf start) ∧ Executable (flagsOf last)) ∨
          (Executable (flagsOf start) ∧ Writable (flagsOf last)) →
        ∃ m ∈ moves, ¬ Writable (flagsOf m.target) ∧ ¬ Executable (flagsOf m.target))) := by
  constructor
  · intro m _ granted
    exact ⟨granted_not_both enabled optedIn granted,
      fun change => granted_mprotect enabled optedIn change granted⟩
  · intro apart
    have keep (s : Option Region) (e : Request) (t : Option Region)
        (taken : Step maps current s e t)
        (before : ¬ (Writable (flagsOf s) ∧ Executable (flagsOf s))) :
        ¬ (Writable (flagsOf t) ∧ Executable (flagsOf t)) :=
      step_keeps_apart enabled optedIn taken before
    have final := run.invariant keep apart
    constructor
    · intro m member
      exact (run.invariant_at keep apart member).2
    · intro changes ends
      rcases ends with ⟨write, exec⟩ | ⟨exec, write⟩
      · exact run.exists_neither (leave_writable enabled optedIn) changes write exec final
      · obtain ⟨m, member, exec, write⟩ :=
          run.exists_neither (leave_executable enabled optedIn) changes exec write
            fun both => final both.symm
        exact ⟨m, member, write, exec⟩

theorem write_xor_execute_at_every_moment_sample :
    ∃ m ∈ history sampleMaps sampleCurrent (some ⟨0x3, none⟩)
        [.mprotect true 0x0, .mprotect true 0x5],
      ¬ Writable (flagsOf m.target) ∧ ¬ Executable (flagsOf m.target) := by
  have laws := write_xor_execute_at_every_moment (by decide) sample_optedIn
    (run_history sampleMaps sampleCurrent (some ⟨0x3, none⟩)
      [.mprotect true 0x0, .mprotect true 0x5])
  refine (laws.2 (by decide)).2 ?_ (.inl (by decide))
  simp [history, Request.IsMprotect]

end BouclierBleu.StrictWx.History
