/- GID: BouclierBleu/Library/ProcessTables
   source: none (general)
   digest: Processes that fork, exit, hand their children to the first process and reuse numbers. -/

import Mathlib.Data.List.Basic
import Mathlib.Tactic.Common

set_option autoImplicit false
set_option relaxedAutoImplicit false

namespace BouclierBleu.Library.ProcessTables

universe u

/-- Who a process is. Its number may be reused after its exit, its serial is not. -/
@[ext]
structure Identity (P : Type u) where
  serial : Nat
  pid : P
  deriving DecidableEq

/-- A process, with the one that forked it and its parent at the moment. -/
structure Process (P : Type u) where
  identity : Identity P
  starter : Identity P
  parent : Option P
  startedAt : Nat
  deriving DecidableEq

variable {P : Type u}

namespace Process

def pid (p : Process P) : P := p.identity.pid

variable [DecidableEq P]

/-- A process whose parent may just have exited; `init` adopts it then. -/
def orphaned (pid init : P) (p : Process P) : Process P :=
  { p with parent := if p.parent = some pid then some init else p.parent }

@[simp] theorem orphaned_identity (pid init : P) (p : Process P) :
    (p.orphaned pid init).identity = p.identity := rfl

@[simp] theorem orphaned_starter (pid init : P) (p : Process P) :
    (p.orphaned pid init).starter = p.starter := rfl

@[simp] theorem orphaned_pid (pid init : P) (p : Process P) :
    (p.orphaned pid init).pid = p.pid := rfl

end Process

/-- The running processes; `init` never exits. -/
structure Table (P : Type u) where
  init : P
  processes : List (Process P)
  next : Nat
  now : Nat

namespace Table

/-- A process starts another. -/
def fork (t : Table P) (parent : Process P) (pid : P) : Table P :=
  { t with
    processes := ⟨⟨t.next, pid⟩, parent.identity, some parent.pid, t.now⟩ :: t.processes
    next := t.next + 1 }

/-- A process goes, and its children pass to `init`. -/
def exit [DecidableEq P] (t : Table P) (pid : P) : Table P :=
  { t with
    processes := (t.processes.filter fun p => p.pid ≠ pid).map (Process.orphaned pid t.init) }

def tick (t : Table P) (now : Nat) : Table P := { t with now := now }

end Table

inductive Event (P : Type u)
  | fork (parent : Process P) (pid : P)
  | exit (pid : P)
  | tick (now : Nat)

inductive Step [DecidableEq P] : Table P → Event P → Table P → Prop
  | fork {t : Table P} {parent : Process P} {pid : P} (alive : parent ∈ t.processes)
      (free : ∀ p ∈ t.processes, p.pid ≠ pid) : Step t (.fork parent pid) (t.fork parent pid)
  | exit {t : Table P} {pid : P} (mortal : pid ≠ t.init) : Step t (.exit pid) (t.exit pid)
  | tick {t : Table P} {now : Nat} (later : t.now ≤ now) : Step t (.tick now) (t.tick now)

/-- Running processes differ in their numbers; a parent is the process that started its child,
or `init`; and whoever still runs is parent to all it started. -/
structure WellFormed (t : Table P) : Prop where
  distinct : ∀ p ∈ t.processes, ∀ q ∈ t.processes, p.pid = q.pid → p = q
  serials : ∀ p ∈ t.processes, p.identity.serial < t.next ∧ p.starter.serial < t.next
  parented : ∀ p ∈ t.processes, ∀ pid, p.parent = some pid →
    pid = t.init ∨ ∃ q ∈ t.processes, q.identity = p.starter ∧ q.pid = pid
  keeps : ∀ p ∈ t.processes, ∀ q ∈ t.processes, p.starter = q.identity → p ≠ q →
    p.parent = some q.pid
  apart : ∀ p ∈ t.processes, p.pid ≠ t.init → p.starter.pid ≠ p.pid
  past : ∀ p ∈ t.processes, p.startedAt ≤ t.now

/-- Only `init` runs. -/
def Table.boot (init : P) : Table P := ⟨init, [⟨⟨0, init⟩, ⟨0, init⟩, none, 0⟩], 1, 0⟩

theorem wellFormed_boot (init : P) : WellFormed (Table.boot init) := by
  have only : ∀ p ∈ (Table.boot init).processes, p = ⟨⟨0, init⟩, ⟨0, init⟩, none, 0⟩ :=
    fun p here => List.mem_singleton.mp here
  refine ⟨?_, ?_, ?_, ?_, ?_, ?_⟩
  · intro p here q there _
    rw [only p here, only q there]
  · intro p here
    rw [only p here]
    exact ⟨Nat.one_pos, Nat.one_pos⟩
  · intro p here pid parent
    rw [only p here] at parent
    cases parent
  · intro p here q there _ other
    exact absurd ((only p here).trans (only q there).symm) other
  · intro p here notInit
    rw [only p here] at notInit
    exact absurd rfl notInit
  · intro p here
    rw [only p here]
    exact Nat.le_refl 0

section Steps

variable {s t : Table P}

theorem WellFormed.eq_of_identity (wellFormed : WellFormed t) {p q : Process P}
    (here : p ∈ t.processes) (there : q ∈ t.processes) (same : p.identity = q.identity) :
    p = q :=
  wellFormed.distinct p here q there (congrArg Identity.pid same)

/-- Unless it is `init`, a process was started by its parent. -/
theorem WellFormed.starter_of_parent (wellFormed : WellFormed t) {p : Process P} {pid : P}
    (here : p ∈ t.processes) (parent : p.parent = some pid) (notInit : pid ≠ t.init) :
    ∃ q ∈ t.processes, q.identity = p.starter ∧ q.pid = pid :=
  (wellFormed.parented p here pid parent).resolve_left notInit

private theorem WellFormed.fork (wellFormed : WellFormed t) {parent : Process P} {pid : P}
    (alive : parent ∈ t.processes) (free : ∀ p ∈ t.processes, p.pid ≠ pid) :
    WellFormed (t.fork parent pid) where
  distinct := by
    intro p here q there same
    rcases List.mem_cons.mp here with rfl | old
    · rcases List.mem_cons.mp there with rfl | other
      · rfl
      · exact absurd same.symm (free q other)
    · rcases List.mem_cons.mp there with rfl | other
      · exact absurd same (free p old)
      · exact wellFormed.distinct p old q other same
  serials := by
    intro p here
    rcases List.mem_cons.mp here with rfl | old
    · exact ⟨Nat.lt_succ_self _, Nat.lt_succ_of_lt (wellFormed.serials parent alive).1⟩
    · obtain ⟨own, started⟩ := wellFormed.serials p old
      exact ⟨Nat.lt_succ_of_lt own, Nat.lt_succ_of_lt started⟩
  parented := by
    intro p here q named
    rcases List.mem_cons.mp here with rfl | old
    · cases named
      exact .inr ⟨parent, List.mem_cons_of_mem _ alive, rfl, rfl⟩
    · rcases wellFormed.parented p old q named with adopted | ⟨r, running, started, number⟩
      · exact .inl adopted
      · exact .inr ⟨r, List.mem_cons_of_mem _ running, started, number⟩
  keeps := by
    intro p here q there started other
    rcases List.mem_cons.mp here with rfl | old
    · rcases List.mem_cons.mp there with rfl | running
      · exact absurd rfl other
      · rw [wellFormed.eq_of_identity running alive started.symm]
    · rcases List.mem_cons.mp there with rfl | running
      · have earlier := (wellFormed.serials p old).2
        rw [started] at earlier
        exact absurd earlier (Nat.lt_irrefl _)
      · exact wellFormed.keeps p old q running started other
  apart := by
    intro p here notInit
    rcases List.mem_cons.mp here with rfl | old
    · exact free parent alive
    · exact wellFormed.apart p old notInit
  past := by
    intro p here
    rcases List.mem_cons.mp here with rfl | old
    · exact Nat.le_refl _
    · exact wellFormed.past p old

variable [DecidableEq P]

theorem mem_exit {pid : P} {p : Process P} :
    p ∈ (t.exit pid).processes ↔
      ∃ q ∈ t.processes, q.pid ≠ pid ∧ q.orphaned pid t.init = p := by
  simp only [Table.exit, List.mem_map, List.mem_filter, decide_eq_true_eq, and_assoc]

theorem mem_exit_of_ne {pid : P} {p : Process P} (here : p ∈ t.processes) (stays : p.pid ≠ pid) :
    p.orphaned pid t.init ∈ (t.exit pid).processes :=
  mem_exit.mpr ⟨p, here, stays, rfl⟩

private theorem WellFormed.exit (wellFormed : WellFormed t) (pid : P) :
    WellFormed (t.exit pid) where
  distinct := by
    intro p here q there same
    obtain ⟨p, old, _, rfl⟩ := mem_exit.mp here
    obtain ⟨q, other, _, rfl⟩ := mem_exit.mp there
    rw [wellFormed.distinct p old q other same]
  serials := by
    intro p here
    obtain ⟨p, old, _, rfl⟩ := mem_exit.mp here
    exact wellFormed.serials p old
  parented := by
    intro p here q named
    obtain ⟨p, old, _, rfl⟩ := mem_exit.mp here
    by_cases orphan : p.parent = some pid
    · rw [Process.orphaned, if_pos orphan] at named
      cases named
      exact .inl rfl
    · rw [Process.orphaned, if_neg orphan] at named
      rcases wellFormed.parented p old q named with adopted | ⟨r, running, started, number⟩
      · exact .inl adopted
      · have stays : r.pid ≠ pid := by
          rintro rfl
          exact orphan (named.trans (congrArg some number.symm))
        exact .inr ⟨_, mem_exit.mpr ⟨r, running, stays, rfl⟩, started, number⟩
  keeps := by
    intro p here q there started other
    obtain ⟨p, old, _, rfl⟩ := mem_exit.mp here
    obtain ⟨q, running, stays, rfl⟩ := mem_exit.mp there
    have parent := wellFormed.keeps p old q running started (fun same => other (same ▸ rfl))
    have kept : p.parent ≠ some pid := by
      rw [parent]
      exact fun same => stays (Option.some.inj same)
    rw [Process.orphaned, if_neg kept]
    exact parent
  apart := by
    intro p here notInit
    obtain ⟨p, old, _, rfl⟩ := mem_exit.mp here
    exact wellFormed.apart p old notInit
  past := by
    intro p here
    obtain ⟨p, old, _, rfl⟩ := mem_exit.mp here
    exact wellFormed.past p old

theorem step_keeps_wellFormed (event : Event P) (taken : Step s event t)
    (wellFormed : WellFormed s) : WellFormed t := by
  cases taken with
  | fork alive free => exact wellFormed.fork alive free
  | exit mortal => exact wellFormed.exit _
  | tick later =>
    refine ⟨wellFormed.distinct, wellFormed.serials, wellFormed.parented, wellFormed.keeps,
      wellFormed.apart, ?_⟩
    intro p here
    exact Nat.le_trans (wellFormed.past p here) later

end Steps

end BouclierBleu.Library.ProcessTables
