/- GID: BouclierBleu/Eradication/Lineage
   source: modules/src/rename_entropy.rs, bpf/rename_entropy.bpf.c (lineage extraction)
   digest: Sweeps that reach the daemon, or processes the alerts have nothing to do with. -/

import BouclierBleu.Eradication.Remediation

set_option autoImplicit false
set_option relaxedAutoImplicit false

namespace BouclierBleu.Eradication.Lineage

open BouclierBleu.Eradication.Remediation
open BouclierBleu.Library.ProcessTables (Identity Process)
open BouclierBleu.Library.Trace (Reachable)

/-- An orchestrator of the workers behind a call, or a process one of them started. -/
def Involved (call : Call) (p : Process UInt32) : Prop :=
  ∃ r ∈ call.strikers, p.identity = r.orchestrator ∨ p.starter = r.orchestrator

/-- The sweep kills neither the daemon nor a process that is not involved. -/
def SparesOthers (s : System) (snapshot : Snapshot) : Prop :=
  ∀ call, s.call = some call → ∀ p, snapshot.Killed call.target p →
    p.identity ≠ s.daemon ∧ Involved call p

/-- The target is not process 1, and whichever process has its number now is involved, or out of
reach of the sweep. -/
def Attributed (s : System) (snapshot : Snapshot) : Prop :=
  ∀ call, s.call = some call → call.target ≠ 1 ∧
    ∀ p ∈ snapshot.table.processes, snapshot.Holds p call.target →
      (p.identity ≠ s.daemon ∧ Involved call p) ∨ snapshot.Harmless call.target

section Target

variable {s : System} {call : Call} {p : Process UInt32}

/-- The orchestrators of the workers had the number of the target, unless that is process 1. -/
theorem orchestrator_number (held : Held s) (due : s.call = some call) (orphans : call.target ≠ 1)
    {r : Raised} (striker : r ∈ call.strikers) :
    call.target = 0 ∨ r.orchestrator.pid = call.target := by
  obtain ⟨traced, parent⟩ := held.call call due r striker
  rw [← parent] at orphans ⊢
  exact traced.parent.resolve_left orphans

/-- A process with the number of the target is involved only as an orchestrator. -/
theorem involved_iff_of_number (held : Held s) (due : s.call = some call)
    (orphans : call.target ≠ 1) (here : p ∈ s.table.processes) (number : p.pid = call.target) :
    Involved call p ↔ ∃ r ∈ call.strikers, p.identity = r.orchestrator := by
  refine exists_congr fun r => and_congr_right fun striker => or_iff_left ?_
  intro started
  rcases orchestrator_number held due orphans striker with zero | same
  · exact held.hosted.numbered p here (number.trans zero)
  · refine held.hosted.wellFormed.apart p here ?_ ?_
    · rw [number, held.hosted.first]
      exact orphans
    · rw [started, same, number]

/-- A child of the target is involved exactly if the process that has the number is. -/
theorem involved_child_iff (held : Held s) (due : s.call = some call) (orphans : call.target ≠ 1)
    (here : p ∈ s.table.processes) (parent : p.parent = some call.target) :
    ∃ q ∈ s.table.processes, q.identity = p.starter ∧ q.pid = call.target ∧
      (Involved call p ↔ Involved call q) := by
  have notInit : call.target ≠ s.table.init := by
    rw [held.hosted.first]
    exact orphans
  obtain ⟨q, there, starter, number⟩ :=
    held.hosted.wellFormed.starter_of_parent here parent notInit
  refine ⟨q, there, starter, number, ?_⟩
  rw [involved_iff_of_number held due orphans there number, starter]
  refine exists_congr fun r => and_congr_right fun striker => or_iff_right ?_
  -- An orchestrator with the number of the target would have started itself.
  intro itself
  rcases orchestrator_number held due orphans striker with zero | same
  · exact held.hosted.numbered q there (number.trans zero)
  · have own : p.pid = call.target := (congrArg Identity.pid itself).trans same
    refine held.hosted.wellFormed.apart p here (own ▸ notInit) ?_
    rw [← starter, own]
    exact number

end Target

section Sweep

variable {s : System} {snapshot : Snapshot} {call : Call} {p : Process UInt32}

private theorem killed_iff_of_held (held : Held s) (current : snapshot.table = s.table)
    (consistent : snapshot.Consistent) {targetPpid : UInt32} :
    snapshot.Killed targetPpid p ↔ p ∈ s.table.processes ∧
      (p.parent = some targetPpid ∨
        (p.pid = targetPpid ∧ ∃ task ∈ snapshot.tasks, task.owner = targetPpid) ∨
          (validated snapshot.processes targetPpid snapshot.currentEpoch = true ∧
            snapshot.Holds p targetPpid)) := by
  rw [Snapshot.killed_iff (current ▸ held.hosted.wellFormed) consistent, current]

/-- The process with the number is the only one that holds it. -/
private theorem eq_of_holds (held : Held s) (current : snapshot.table = s.table)
    (consistent : snapshot.Consistent) {q : Process UInt32} (here : p ∈ s.table.processes)
    (there : q ∈ s.table.processes) (holds : snapshot.Holds p q.pid) : p = q := by
  rcases holds with same | ⟨task, listed, _, same⟩
  · exact held.hosted.wellFormed.distinct p here q there same
  · exact absurd same.symm (consistent.fresh task listed q (current ▸ there))

/-- Process 1 is the parent of the daemon. -/
theorem orphans_of_spared (held : Held s) (current : snapshot.table = s.table)
    (consistent : snapshot.Consistent)
    (spared : ∀ p, snapshot.Killed call.target p → p.identity ≠ s.daemon ∧ Involved call p) :
    call.target ≠ 1 := by
  intro first
  obtain ⟨d, running, daemon, parent⟩ := held.hosted.running
  rw [first] at spared
  exact (spared d ((killed_iff_of_held held current consistent).mpr
    ⟨running, .inl parent⟩)).1 daemon

/-- Whoever holds the number of a sweep that spares all others is involved or out of reach. -/
theorem attributed_of_spared (held : Held s) (current : snapshot.table = s.table)
    (consistent : snapshot.Consistent) (due : s.call = some call) (orphans : call.target ≠ 1)
    (spared : ∀ p, snapshot.Killed call.target p → p.identity ≠ s.daemon ∧ Involved call p)
    (here : p ∈ s.table.processes) (holds : snapshot.Holds p call.target)
    (stranger : ¬ (p.identity ≠ s.daemon ∧ Involved call p)) :
    snapshot.Harmless call.target where
  childless := by
    intro c child parent
    rw [current] at child
    have involved := (spared c ((killed_iff_of_held held current consistent).mpr
      ⟨child, .inl parent⟩)).2
    obtain ⟨q, there, starter, number, same⟩ := involved_child_iff held due orphans child parent
    rw [← number] at holds
    obtain rfl := eq_of_holds held current consistent here there holds
    refine stranger ⟨?_, same.mp involved⟩
    rw [starter]
    exact held.hosted.childless c child
  single := by
    intro task listed owner
    obtain ⟨q, there, number⟩ := consistent.owned task listed
    rw [current] at there
    rw [owner] at number
    have mine := spared q ((killed_iff_of_held held current consistent).mpr
      ⟨there, .inr (.inl ⟨number, task, listed, owner⟩)⟩)
    rw [← number] at holds
    obtain rfl := eq_of_holds held current consistent here there holds
    exact stranger mine
  young := by
    rw [Bool.eq_false_iff]
    intro old
    exact stranger (spared p ((killed_iff_of_held held current consistent).mpr
      ⟨here, .inr (.inr ⟨old, holds⟩)⟩))

/-- What a sweep kills is involved if whoever holds the number of the target is. -/
theorem spared_of_attributed (held : Held s) (current : snapshot.table = s.table)
    (consistent : snapshot.Consistent) (due : s.call = some call) (orphans : call.target ≠ 1)
    (attributed : ∀ p ∈ s.table.processes, snapshot.Holds p call.target →
      (p.identity ≠ s.daemon ∧ Involved call p) ∨ snapshot.Harmless call.target)
    (killed : snapshot.Killed call.target p) : p.identity ≠ s.daemon ∧ Involved call p := by
  obtain ⟨here, reason⟩ := (killed_iff_of_held held current consistent).mp killed
  have harmful : ¬ snapshot.Harmless call.target := by
    intro harmless
    obtain ⟨_, n, sent, _⟩ := killed
    rw [harmless.sweep_eq_nil] at sent
    cases sent
  rcases reason with parent | ⟨number, _⟩ | ⟨_, holds⟩
  · obtain ⟨q, there, _, number, same⟩ := involved_child_iff held due orphans here parent
    have mine := (attributed q there (.inl number)).resolve_right harmful
    refine ⟨?_, same.mpr mine.2⟩
    intro daemon
    obtain ⟨d, running, identity, first⟩ := held.hosted.running
    rw [← identity] at daemon
    rw [held.hosted.wellFormed.eq_of_identity here running daemon, first] at parent
    exact orphans (Option.some.inj parent).symm
  · exact (attributed p here (.inl number)).resolve_right harmful
  · exact (attributed p here holds).resolve_right harmful

end Sweep

/-- In every state reached, a sweep spares the daemon and all that are not involved exactly if its
target is not process 1 and no stranger within reach has its number by now. -/
theorem sparesOthers_iff {s t : System} {snapshot : Snapshot} (reach : Reachable Step Start s)
    (taken : Step s (.sweep snapshot) t) : SparesOthers s snapshot ↔ Attributed s snapshot := by
  have held := held_of_reachable reach
  cases taken with
  | sweep _ current consistent =>
    refine forall₂_congr fun call due => ?_
    rw [current]
    constructor
    · intro spared
      have orphans := orphans_of_spared held current consistent spared
      refine ⟨orphans, fun p here holds => ?_⟩
      by_cases stranger : p.identity ≠ s.daemon ∧ Involved call p
      · exact .inl stranger
      · exact .inr (attributed_of_spared held current consistent due orphans spared here holds
          stranger)
    · rintro ⟨orphans, attributed⟩ p killed
      exact spared_of_attributed held current consistent due orphans attributed killed

section Sample

/-- A worker whose orchestrator is gone. -/
def orphan (number : Nat) (pid : UInt32) : Process UInt32 := ⟨⟨number, pid⟩, ⟨2, 100⟩, some 1, 0⟩

/-- The orchestrator exits, and then its three workers strike. -/
def orphansStruck : System :=
  struck (orphan 5 103) (struck (orphan 4 102) (struck (orphan 3 101)
    (exited 100 (crew (millis 900)))))

theorem reachable_orphansStruck : Reachable Step Start orphansStruck := by
  have alone : Reachable Step Start (exited 100 (crew (millis 900))) :=
    reachable_exited (reachable_crew _) (by decide) (by decide)
  have one : Reachable Step Start (struck (orphan 3 101) (exited 100 (crew (millis 900)))) :=
    reachable_struck alone (by decide) rfl rfl
  have two : Reachable Step Start (struck (orphan 4 102) (struck (orphan 3 101)
      (exited 100 (crew (millis 900))))) := reachable_struck one (by decide) rfl rfl
  exact reachable_struck two (by decide) rfl rfl

/-- The sweep takes process 1 for their orchestrator, and kills the daemon. -/
theorem daemon_killed :
    let snapshot := snapshotOf orphansStruck 1001
    Reachable Step Start orphansStruck ∧
      Step orphansStruck (.sweep snapshot) { orphansStruck with call := none } ∧
      (∃ d, d.identity = orphansStruck.daemon ∧ snapshot.Killed 1 d) ∧
      ¬ SparesOthers orphansStruck snapshot := by
  intro snapshot
  let call : Call := ⟨1, [alertOf (orphan 5 103) [], alertOf (orphan 4 102) [],
    alertOf (orphan 3 101) []], 6⟩
  have due : orphansStruck.call = some call := rfl
  have killed : snapshot.Killed 1 ⟨⟨1, 50⟩, ⟨0, 1⟩, some 1, 0⟩ :=
    ⟨by decide, 50, by decide, .inl rfl⟩
  refine ⟨reachable_orphansStruck, step_snapshotOf due 1001, ⟨_, rfl, killed⟩, ?_⟩
  intro spares
  exact (spares call due _ killed).1 rfl

/-- The workers strike while the orchestrator runs. -/
def workersStruck : System :=
  struck (worker 5 103) (struck (worker 4 102) (struck (worker 3 101) (crew (millis 900))))

theorem sparesOthers_iff_sample : SparesOthers workersStruck (snapshotOf workersStruck 1001) := by
  have reach : Reachable Step Start workersStruck := reachable_threeStrikes
  let call : Call := ⟨100, [alertOf (worker 5 103) [], alertOf (worker 4 102) [],
    alertOf (worker 3 101) []], 6⟩
  have due : workersStruck.call = some call := rfl
  refine (sparesOthers_iff reach (step_snapshotOf due 1001)).mpr ?_
  intro other same
  obtain rfl : call = other := Option.some.inj (due.symm.trans same)
  refine ⟨by decide, ?_⟩
  intro p here holds
  rcases holds with number | ⟨task, listed, _⟩
  · have only : ∀ q ∈ workersStruck.table.processes, q.pid = 100 → q = orchestrator := by decide
    obtain rfl := only p here number
    exact .inl ⟨by decide, _, .head _, .inl rfl⟩
  · cases listed

end Sample

end BouclierBleu.Eradication.Lineage
