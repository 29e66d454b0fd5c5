/- GID: BouclierBleu/Eradication/Recycling
   source: modules/src/rename_entropy.rs, neutralize_threat_tree
   digest: Sweeps whose target is a process that was started after the strikes. -/

import BouclierBleu.Eradication.Remediation

set_option autoImplicit false
set_option relaxedAutoImplicit false

namespace BouclierBleu.Eradication.Recycling

open BouclierBleu.Eradication.Remediation
open BouclierBleu.Library.ProcessTables (Process)
open BouclierBleu.Library.Trace (Reachable)

/-- The process that has the number of the target by now, started after the strikes. -/
structure Recycled (call : Call) (snapshot : Snapshot) (holder : Process UInt32) : Prop where
  running : holder ∈ snapshot.table.processes
  number : holder.pid = call.target
  started : call.recorded ≤ holder.identity.serial

/-- The sweep kills neither such a process nor those whose parent it is. -/
def SparesRecycled (s : System) (snapshot : Snapshot) : Prop :=
  ∀ call holder, s.call = some call → Recycled call snapshot holder →
    ¬ snapshot.Killed call.target holder ∧
      ∀ p, p.parent = some holder.pid → ¬ snapshot.Killed call.target p

/-- A process without children and further threads, whose start time does not lie before the
present second. -/
structure Newborn (snapshot : Snapshot) (holder : Process UInt32) : Prop where
  childless : ∀ p ∈ snapshot.table.processes, p.parent ≠ some holder.pid
  single : ∀ task ∈ snapshot.tasks, task.owner ≠ holder.pid
  young : snapshot.startTime holder.startedAt = 0 ∨
    snapshot.currentEpoch ≤ snapshot.startTime holder.startedAt

section Sweep

variable {snapshot : Snapshot} {holder : Process UInt32}

theorem newborn_iff_harmless (wellFormed : Library.ProcessTables.WellFormed snapshot.table)
    (running : holder ∈ snapshot.table.processes) :
    Newborn snapshot holder ↔ snapshot.Harmless holder.pid := by
  have young : validated snapshot.processes holder.pid snapshot.currentEpoch = false ↔
      snapshot.startTime holder.startedAt = 0 ∨
        snapshot.currentEpoch ≤ snapshot.startTime holder.startedAt := by
    rw [Snapshot.validated_of_pid wellFormed running, Bool.and_eq_false_iff,
      decide_eq_false_iff_not, decide_eq_false_iff_not, Nat.not_lt, Nat.not_lt, Nat.le_zero]
  exact ⟨fun h => ⟨h.childless, h.single, young.mpr h.young⟩,
    fun h => ⟨h.childless, h.single, young.mp h.young⟩⟩

/-- Whatever is sent a signal for the target hits the holder of its number or one of its
children. -/
theorem harmless_of_spared (running : holder ∈ snapshot.table.processes)
    (spared : ¬ snapshot.Killed holder.pid holder)
    (children : ∀ p, p.parent = some holder.pid → ¬ snapshot.Killed holder.pid p) :
    snapshot.Harmless holder.pid where
  childless := by
    intro p here parent
    exact children p parent
      ⟨here, p.pid, Snapshot.mem_sweep.mpr (.inl ⟨p, here, parent, rfl⟩), .inl rfl⟩
  single := by
    intro task listed owner
    have sent : task.tid ∈ snapshot.sweep holder.pid :=
      Snapshot.mem_sweep.mpr (.inr (.inl ⟨task, listed, owner, rfl⟩))
    exact spared ⟨running, task.tid, sent, .inr ⟨task, listed, owner, rfl⟩⟩
  young := by
    by_contra old
    have sent : holder.pid ∈ snapshot.sweep holder.pid :=
      Snapshot.mem_sweep.mpr (.inr (.inr ⟨Bool.not_eq_false _ ▸ old, rfl⟩))
    exact spared ⟨running, holder.pid, sent, .inl rfl⟩

end Sweep

/-- In every state reached, a sweep spares the processes that took over the number of its target
exactly if those have no children, no further threads and started in the present second. -/
theorem sparesRecycled_iff {s t : System} {snapshot : Snapshot}
    (reach : Reachable Step Start s) (taken : Step s (.sweep snapshot) t) :
    SparesRecycled s snapshot ↔ ∀ call holder, s.call = some call →
      Recycled call snapshot holder → Newborn snapshot holder := by
  have wellFormed : Library.ProcessTables.WellFormed snapshot.table := by
    cases taken with
    | sweep _ current _ =>
      rw [current]
      exact (held_of_reachable reach).hosted.wellFormed
  refine forall₄_congr fun call holder _ recycled => ?_
  rw [newborn_iff_harmless wellFormed recycled.running, ← recycled.number]
  constructor
  · rintro ⟨spared, children⟩
    exact harmless_of_spared recycled.running spared children
  · intro harmless
    have nothing (p : Process UInt32) : ¬ snapshot.Killed holder.pid p := by
      rintro ⟨_, n, sent, _⟩
      rw [harmless.sweep_eq_nil] at sent
      cases sent
    exact ⟨nothing holder, fun p _ => nothing p⟩

section Sample

/-- Three workers of process 100 have struck 0.9 seconds after the boot, and it exits. -/
def vacated : System :=
  exited 100 (struck (worker 5 103) (struck (worker 4 102) (struck (worker 3 101)
    (crew (millis 900)))))

/-- Process 1 starts another process with the number 50 milliseconds later, before the sweep. -/
def reused (sweepAt : Nat) : System :=
  waited sweepAt (started firstProcess 100 (waited (millis 950) vacated))

def newHolder : Process UInt32 := ⟨⟨6, 100⟩, ⟨0, 1⟩, some 1, millis 950⟩

theorem reachable_reused {sweepAt : Nat} (later : millis 950 ≤ sweepAt) :
    Reachable Step Start (reused sweepAt) := by
  have empty : Reachable Step Start vacated :=
    reachable_exited reachable_threeStrikes (by decide) (by decide)
  have again : Reachable Step Start (started firstProcess 100 (waited (millis 950) vacated)) :=
    reachable_started (reachable_waited empty (by decide)) (by decide) (by decide) (by decide)
      (by decide)
  exact reachable_waited again later

def thirdStrike : Call :=
  ⟨100, [alertOf (worker 5 103) [], alertOf (worker 4 102) [], alertOf (worker 3 101) []], 6⟩

theorem reused_call (sweepAt : Nat) : (reused sweepAt).call = some thirdStrike := rfl

theorem recycled_newHolder (sweepAt currentEpoch : Nat) :
    Recycled thirdStrike (snapshotOf (reused sweepAt) currentEpoch) newHolder :=
  ⟨.head _, rfl, Nat.le_refl 6⟩

/-- A sweep in the next second kills a process that is 0.1 seconds old. -/
theorem recycled_process_killed :
    let s := reused (millis 1050)
    let snapshot := snapshotOf s 1001
    Reachable Step Start s ∧ s.call = some thirdStrike ∧
      Step s (.sweep snapshot) { s with call := none } ∧
      Recycled thirdStrike snapshot newHolder ∧ snapshot.Killed thirdStrike.target newHolder ∧
      ¬ SparesRecycled s snapshot := by
  intro s snapshot
  have recycled : Recycled thirdStrike snapshot newHolder := recycled_newHolder _ _
  have killed : snapshot.Killed thirdStrike.target newHolder :=
    ⟨recycled.running, 100, by decide, .inl rfl⟩
  refine ⟨reachable_reused (by decide), reused_call _, step_snapshotOf (reused_call _) 1001,
    recycled, killed, ?_⟩
  intro spares
  exact (spares thirdStrike newHolder (reused_call _) recycled).1 killed

/-- In the same second the sweep spares it. -/
theorem sparesRecycled_iff_sample :
    SparesRecycled (reused (millis 960)) (snapshotOf (reused (millis 960)) 1000) := by
  refine (sparesRecycled_iff (reachable_reused (by decide))
    (step_snapshotOf (reused_call _) 1000)).mpr ?_
  intro call holder due recycled
  obtain rfl : thirdStrike = call := Option.some.inj ((reused_call _).symm.trans due)
  have number : holder.pid = 100 := recycled.number
  have present : ∀ p ∈ (reused (millis 960)).table.processes, p.pid = 100 →
      1000 ≤ (snapshotOf (reused (millis 960)) 1000).startTime p.startedAt := by decide
  refine ⟨?_, ?_, .inr (present holder recycled.running number)⟩
  · rw [number]
    decide
  · intro task listed
    cases listed

end Sample

end BouclierBleu.Eradication.Recycling
