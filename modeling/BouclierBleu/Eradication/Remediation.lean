/- GID: BouclierBleu/Eradication/Remediation
   source: modules/src/rename_entropy.rs, bpf/rename_entropy.bpf.c (lineage extraction)
   digest: The sweep over the process table, and the processes, alerts and sweeps of a system. -/

import BouclierBleu.Eradication.Strikes
import BouclierBleu.Library.ProcessTables

set_option autoImplicit false
set_option relaxedAutoImplicit false

namespace BouclierBleu.Eradication.Remediation

open BouclierBleu.Eradication.Strikes
open BouclierBleu.Library.ProcessTables
  (Identity Process Table WellFormed mem_exit mem_exit_of_ne)
open BouclierBleu.Library.Trace (Reachable)
open BouclierBleu.Telemetry.Parsers (RenameAlert)

/-- An entry of `sys.processes()`. -/
structure SysProcess where
  pid : UInt32
  parent : Option UInt32
  startTime : Nat
  deriving DecidableEq

/-- The validation of the start time of the target, in seconds. -/
def validated (processes : List SysProcess) (targetPpid : UInt32) (currentEpoch : Nat) : Bool :=
  match processes.find? fun process => process.pid = targetPpid with
  | some parent => parent.startTime > 0 && parent.startTime < currentEpoch
  | none => false

/-- The numbers `neutralize_threat_tree` sends `SIGKILL` to. -/
def neutralizeThreatTree (processes : List SysProcess) (targetPpid : UInt32)
    (currentEpoch : Nat) : List UInt32 :=
  let workers := processes.filter fun process => process.parent = some targetPpid
  workers.map SysProcess.pid ++
    if validated processes targetPpid currentEpoch then [targetPpid] else []

theorem mem_neutralizeThreatTree {processes : List SysProcess} {targetPpid n : UInt32}
    {currentEpoch : Nat} :
    n ∈ neutralizeThreatTree processes targetPpid currentEpoch ↔
      (∃ process ∈ processes, process.parent = some targetPpid ∧ process.pid = n) ∨
        validated processes targetPpid currentEpoch = true ∧ n = targetPpid := by
  simp only [neutralizeThreatTree, List.mem_append, List.mem_map, List.mem_filter,
    decide_eq_true_eq, and_assoc]
  refine or_congr_right ?_
  split
  · rename_i old
    simp [old]
  · rename_i young
    simp [young]

/-- A further thread of a process. `sysinfo` lists it as well, with the process as parent. -/
structure Task where
  tid : UInt32
  owner : UInt32
  startedAt : Nat
  deriving DecidableEq

/-- What a sweep sees: the processes, their tasks and the wall clock, in seconds. -/
structure Snapshot where
  table : Table UInt32
  tasks : List Task
  bootTime : Nat
  currentEpoch : Nat

namespace Snapshot

def startTime (s : Snapshot) (startedAt : Nat) : Nat := s.bootTime + startedAt / fromSecs 1

def processes (s : Snapshot) : List SysProcess :=
  (s.table.processes.map fun p => ⟨p.pid, p.parent, s.startTime p.startedAt⟩) ++
    s.tasks.map fun task => ⟨task.tid, some task.owner, s.startTime task.startedAt⟩

/-- Tasks belong to running processes, and all numbers differ. -/
structure Consistent (s : Snapshot) : Prop where
  owned : ∀ task ∈ s.tasks, ∃ p ∈ s.table.processes, p.pid = task.owner
  fresh : ∀ task ∈ s.tasks, ∀ p ∈ s.table.processes, p.pid ≠ task.tid
  distinct : ∀ task ∈ s.tasks, ∀ other ∈ s.tasks, task.tid = other.tid → task = other

/-- A signal to a number reaches the process that has it, itself or for one of its tasks. -/
def Holds (s : Snapshot) (p : Process UInt32) (n : UInt32) : Prop :=
  p.pid = n ∨ ∃ task ∈ s.tasks, task.owner = p.pid ∧ task.tid = n

def sweep (s : Snapshot) (targetPpid : UInt32) : List UInt32 :=
  neutralizeThreatTree s.processes targetPpid s.currentEpoch

/-- A process that the sweep of a target kills. -/
def Killed (s : Snapshot) (targetPpid : UInt32) (p : Process UInt32) : Prop :=
  p ∈ s.table.processes ∧ ∃ n ∈ s.sweep targetPpid, s.Holds p n

/-- The target is the parent of nothing and fails the validation. -/
structure Harmless (s : Snapshot) (targetPpid : UInt32) : Prop where
  childless : ∀ p ∈ s.table.processes, p.parent ≠ some targetPpid
  single : ∀ task ∈ s.tasks, task.owner ≠ targetPpid
  young : validated s.processes targetPpid s.currentEpoch = false

section Sweep

variable {s : Snapshot} {targetPpid n : UInt32} {p : Process UInt32}

/-- A sweep sends a signal to the children of the target, to its tasks, and to itself. -/
theorem mem_sweep : n ∈ s.sweep targetPpid ↔
    (∃ p ∈ s.table.processes, p.parent = some targetPpid ∧ p.pid = n) ∨
      (∃ task ∈ s.tasks, task.owner = targetPpid ∧ task.tid = n) ∨
        validated s.processes targetPpid s.currentEpoch = true ∧ n = targetPpid := by
  rw [sweep, mem_neutralizeThreatTree, processes]
  simp only [List.mem_append, List.mem_map, or_and_right, exists_or, or_assoc]
  refine or_congr ?_ (or_congr_left ?_)
  · constructor
    · rintro ⟨_, ⟨p, here, rfl⟩, parent, number⟩
      exact ⟨p, here, parent, number⟩
    · rintro ⟨p, here, parent, number⟩
      exact ⟨_, ⟨p, here, rfl⟩, parent, number⟩
  · constructor
    · rintro ⟨_, ⟨task, listed, rfl⟩, owner, number⟩
      exact ⟨task, listed, Option.some.inj owner, number⟩
    · rintro ⟨task, listed, owner, number⟩
      exact ⟨_, ⟨task, listed, rfl⟩, congrArg some owner, number⟩

/-- The validation reads the start time of the process with the number. -/
theorem validated_of_pid (wellFormed : WellFormed s.table) (here : p ∈ s.table.processes) :
    validated s.processes p.pid s.currentEpoch =
      (decide (s.startTime p.startedAt > 0) &&
        decide (s.startTime p.startedAt < s.currentEpoch)) := by
  have first : s.table.processes.find? (fun q => q.pid = p.pid) = some p := by
    cases found : s.table.processes.find? fun q => q.pid = p.pid with
    | none => exact absurd (decide_eq_true rfl) (List.find?_eq_none.mp found p here)
    | some q =>
      have same := List.find?_some found
      rw [decide_eq_true_eq] at same
      rw [wellFormed.distinct q (List.mem_of_find?_eq_some found) p here same]
  have found : s.processes.find? (fun process => process.pid = p.pid) =
      some ⟨p.pid, p.parent, s.startTime p.startedAt⟩ := by
    rw [processes, List.find?_append, List.find?_map, Function.comp_def, first]
    rfl
  rw [validated, found]

/-- The processes a sweep kills: the children of the target, and the process of that number for
its tasks or, if the validation lets it, for the number. -/
theorem killed_iff (wellFormed : WellFormed s.table) (consistent : s.Consistent) :
    s.Killed targetPpid p ↔ p ∈ s.table.processes ∧
      (p.parent = some targetPpid ∨
        (p.pid = targetPpid ∧ ∃ task ∈ s.tasks, task.owner = targetPpid) ∨
          (validated s.processes targetPpid s.currentEpoch = true ∧ s.Holds p targetPpid)) := by
  refine and_congr_right fun here => ?_
  constructor
  · rintro ⟨n, sent, holds⟩
    rcases mem_sweep.mp sent with ⟨q, there, parent, rfl⟩ | ⟨task, listed, owner, rfl⟩ |
      ⟨old, rfl⟩
    · rcases holds with same | ⟨task, listed, _, same⟩
      · rw [wellFormed.distinct p here q there same]
        exact .inl parent
      · exact absurd same.symm (consistent.fresh task listed q there)
    · rcases holds with same | ⟨other, member, owned, same⟩
      · exact absurd same (consistent.fresh task listed p here)
      · rw [consistent.distinct other member task listed same] at owned
        exact .inr (.inl ⟨owned.symm.trans owner, task, listed, owner⟩)
    · exact .inr (.inr ⟨old, holds⟩)
  · rintro (parent | ⟨number, task, listed, owner⟩ | ⟨old, holds⟩)
    · exact ⟨p.pid, mem_sweep.mpr (.inl ⟨p, here, parent, rfl⟩), .inl rfl⟩
    · exact ⟨task.tid, mem_sweep.mpr (.inr (.inl ⟨task, listed, owner, rfl⟩)),
        .inr ⟨task, listed, owner.trans number.symm, rfl⟩⟩
    · exact ⟨targetPpid, mem_sweep.mpr (.inr (.inr ⟨old, rfl⟩)), holds⟩

theorem Harmless.sweep_eq_nil (harmless : s.Harmless targetPpid) : s.sweep targetPpid = [] := by
  refine List.eq_nil_iff_forall_not_mem.mpr ?_
  intro n sent
  rcases mem_sweep.mp sent with ⟨p, here, parent, _⟩ | ⟨task, listed, owner, _⟩ | ⟨old, _⟩
  · exact harmless.childless p here parent
  · exact harmless.single task listed owner
  · rw [harmless.young] at old
    exact Bool.false_ne_true old

end Sweep

end Snapshot

/-- An alert, and the process that started the one it is about. -/
structure Raised where
  alert : RenameAlert
  orchestrator : Identity UInt32

/-- The alerts behind a third strike: the last three of the parent. -/
def strikers (log : List Raised) (ppid : UInt32) : List Raised :=
  (log.filter fun r => r.alert.ppid = ppid).take 3

/-- A call of `neutralize_threat_tree` by the handler. Processes that start later have serials
from `recorded` on. -/
structure Call where
  target : UInt32
  strikers : List Raised
  recorded : Nat

/-- The processes, one of them the daemon, and what the daemon works on. `log` has the alerts
handled so far, newest first. -/
structure System where
  table : Table UInt32
  daemon : Identity UInt32
  pending : List Raised
  tracker : Tracker
  log : List Raised
  call : Option Call

/-- The alert of the kernel hook: the parent of the task at the moment is `real_parent`. -/
def alertOf (worker : Process UInt32) (path : List Char) : Raised :=
  ⟨⟨worker.pid, worker.parent.getD 0, path⟩, worker.starter⟩

namespace System

def raise (s : System) (worker : Process UInt32) (path : List Char) : System :=
  { s with pending := s.pending ++ [alertOf worker path] }

/-- The handler up to the call of `neutralize_threat_tree`. -/
def handle (s : System) (r : Raised) (rest : List Raised) (arrival : Arrival) : System :=
  { s with
    pending := rest
    tracker := (handler s.tracker arrival).1
    log := r :: s.log
    call := (handler s.tracker arrival).2.map fun target =>
      ⟨target, strikers (r :: s.log) target, s.table.next⟩ }

end System

/-- What happens to the processes while the daemon runs. It starts none itself, and 0 is no
process's number. -/
def Allowed (daemon : Identity UInt32) : Library.ProcessTables.Event UInt32 → Prop
  | .fork parent pid => parent.identity ≠ daemon ∧ pid ≠ 0
  | .exit pid => pid ≠ daemon.pid
  | .tick _ => True

inductive Event
  | process (event : Library.ProcessTables.Event UInt32)
  | raise (worker : Process UInt32) (path : List Char)
  | handle (arrival : Arrival)
  | sweep (snapshot : Snapshot)

inductive Step : System → Event → System → Prop
  | process {s : System} {event : Library.ProcessTables.Event UInt32} {table : Table UInt32}
      (allowed : Allowed s.daemon event) (taken : Library.ProcessTables.Step s.table event table) :
      Step s (.process event) { s with table := table }
  | raise {s : System} {worker : Process UInt32} {path : List Char}
      (alive : worker ∈ s.table.processes) : Step s (.raise worker path) (s.raise worker path)
  | handle {s : System} {r : Raised} {rest : List Raised} {arrival : Arrival}
      (idle : s.call = none) (next : s.pending = r :: rest) (same : arrival.alert = r.alert)
      (present : arrival.now = s.table.now) : Step s (.handle arrival) (s.handle r rest arrival)
  | sweep {s : System} {call : Call} {snapshot : Snapshot} (due : s.call = some call)
      (current : snapshot.table = s.table) (consistent : snapshot.Consistent) :
      Step s (.sweep snapshot) { s with call := none }

/-- Where an alert comes from: its parent is the process that started the worker, unless that
one is gone or the worker has no parent. -/
structure Traced (daemon : Identity UInt32) (r : Raised) : Prop where
  parent : r.alert.ppid = 1 ∨ r.alert.ppid = 0 ∨ r.orchestrator.pid = r.alert.ppid
  foreign : r.orchestrator ≠ daemon

/-- The processes while the daemon runs as a child of process 1. -/
structure Hosted (table : Table UInt32) (daemon : Identity UInt32) : Prop where
  wellFormed : WellFormed table
  first : table.init = 1
  numbered : ∀ p ∈ table.processes, p.pid ≠ 0
  running : ∃ d ∈ table.processes, d.identity = daemon ∧ d.parent = some 1
  childless : ∀ p ∈ table.processes, p.starter ≠ daemon

/-- The daemon starts to listen. -/
structure Start (s : System) : Prop where
  hosted : Hosted s.table s.daemon
  pending : s.pending = []
  tracker : s.tracker = Tracker.new
  log : s.log = []
  call : s.call = none

/-- What holds in every state of a run. -/
structure Held (s : System) : Prop where
  hosted : Hosted s.table s.daemon
  traced : ∀ r ∈ s.pending ++ s.log, Traced s.daemon r
  call : ∀ c, s.call = some c → ∀ r ∈ c.strikers, Traced s.daemon r ∧ r.alert.ppid = c.target

section Held

variable {s t : System}

theorem Start.held (start : Start s) : Held s where
  hosted := start.hosted
  traced := by
    intro r member
    rw [start.pending, start.log] at member
    cases member
  call := by
    intro c due
    rw [start.call] at due
    cases due

theorem Hosted.step {table after : Table UInt32} {daemon : Identity UInt32}
    {event : Library.ProcessTables.Event UInt32} (hosted : Hosted table daemon)
    (allowed : Allowed daemon event) (taken : Library.ProcessTables.Step table event after) :
    Hosted after daemon := by
  have wellFormed := Library.ProcessTables.step_keeps_wellFormed event taken hosted.wellFormed
  obtain ⟨d, running, identity, parent⟩ := hosted.running
  cases taken with
  | fork alive free =>
    refine ⟨wellFormed, hosted.first, ?_, ⟨d, .tail _ running, identity, parent⟩, ?_⟩
    · intro p here
      rcases List.mem_cons.mp here with rfl | old
      · exact allowed.2
      · exact hosted.numbered p old
    · intro p here
      rcases List.mem_cons.mp here with rfl | old
      · exact allowed.1
      · exact hosted.childless p old
  | @exit pid mortal =>
    have stays : d.pid ≠ pid := by
      rintro rfl
      exact allowed (congrArg Identity.pid identity)
    refine ⟨wellFormed, hosted.first, ?_, ⟨_, mem_exit_of_ne running stays, identity, ?_⟩, ?_⟩
    · intro p here
      obtain ⟨q, old, _, rfl⟩ := mem_exit.mp here
      exact hosted.numbered q old
    · rw [Process.orphaned, parent, hosted.first, ite_self]
    · intro p here
      obtain ⟨q, old, _, rfl⟩ := mem_exit.mp here
      exact hosted.childless q old
  | tick later =>
    exact ⟨wellFormed, hosted.first, hosted.numbered, ⟨d, running, identity, parent⟩,
      hosted.childless⟩

/-- An alert names the parent of its worker. -/
private theorem Hosted.traced {table : Table UInt32} {daemon : Identity UInt32}
    {worker : Process UInt32} {path : List Char} (hosted : Hosted table daemon)
    (alive : worker ∈ table.processes) : Traced daemon (alertOf worker path) where
  parent := by
    have named : (alertOf worker path).alert.ppid = worker.parent.getD 0 := rfl
    rw [named]
    cases parent : worker.parent with
    | none => exact .inr (.inl rfl)
    | some pid =>
      rcases hosted.wellFormed.parented worker alive pid parent with rfl | ⟨q, _, starter, number⟩
      · exact .inl hosted.first
      · exact .inr (.inr ((congrArg Identity.pid starter).symm.trans number))
  foreign := hosted.childless worker alive

theorem mem_strikers {log : List Raised} {ppid : UInt32} {r : Raised}
    (member : r ∈ strikers log ppid) : r ∈ log ∧ r.alert.ppid = ppid := by
  have kept := List.mem_filter.mp (List.mem_of_mem_take member)
  exact ⟨kept.1, of_decide_eq_true kept.2⟩

theorem step_keeps_held (event : Event) (taken : Step s event t) (held : Held s) : Held t := by
  cases taken with
  | process allowed taken =>
    exact ⟨held.hosted.step allowed taken, held.traced, held.call⟩
  | raise alive =>
    refine ⟨held.hosted, ?_, held.call⟩
    intro r member
    rw [System.raise, List.append_assoc, List.mem_append, List.mem_append,
      List.mem_singleton] at member
    rcases member with waiting | rfl | handled
    · exact held.traced r (List.mem_append_left _ waiting)
    · exact held.hosted.traced alive
    · exact held.traced r (List.mem_append_right _ handled)
  | @handle r rest arrival idle next same present =>
    have traced : ∀ r' ∈ rest ++ r :: s.log, Traced s.daemon r' := by
      intro r' member
      refine held.traced r' ?_
      rw [next]
      exact List.perm_middle.mem_iff.mp member
    refine ⟨held.hosted, traced, ?_⟩
    intro c due r' striker
    obtain ⟨target, _, rfl⟩ := Option.map_eq_some_iff.mp due
    obtain ⟨handled, parent⟩ := mem_strikers striker
    exact ⟨traced r' (List.mem_append_right _ handled), parent⟩
  | sweep due current consistent =>
    refine ⟨held.hosted, held.traced, ?_⟩
    intro c gone
    cases gone

theorem held_of_reachable (reach : Reachable Step Start s) : Held s :=
  reach.invariant (fun _ => Start.held) fun _ event _ => step_keeps_held event

end Held

section Sample

def millis (n : Nat) : Nat := n * 1000000

def started (parent : Process UInt32) (pid : UInt32) (s : System) : System :=
  { s with table := s.table.fork parent pid }

def exited (pid : UInt32) (s : System) : System := { s with table := s.table.exit pid }

def waited (now : Nat) (s : System) : System := { s with table := s.table.tick now }

/-- Process 1. -/
def firstProcess : Process UInt32 := ⟨⟨0, 1⟩, ⟨0, 1⟩, none, 0⟩

/-- A process started by process 1. -/
def orchestrator : Process UInt32 := ⟨⟨2, 100⟩, ⟨0, 1⟩, some 1, 0⟩

/-- A process started by the orchestrator, with its serial. -/
def worker (number : Nat) (pid : UInt32) : Process UInt32 := ⟨⟨number, pid⟩, ⟨2, 100⟩, some 100, 0⟩

/-- The daemon is process 50. -/
def listening : System :=
  ⟨(Table.boot 1).fork firstProcess 50, ⟨1, 50⟩, [], Tracker.new, [], none⟩

/-- The orchestrator has started three workers by the given instant. -/
def crew (now : Nat) : System :=
  waited now (started orchestrator 103 (started orchestrator 102 (started orchestrator 101
    (started firstProcess 100 listening))))

/-- A process raises an alert, and the handler gets it at once. -/
def struck (worker : Process UInt32) (s : System) : System :=
  (s.raise worker []).handle (alertOf worker []) []
    ⟨(alertOf worker []).alert, fun _ => s.table.now, s.table.now, fun _ => Nat.le_refl _⟩

/-- A sweep without further threads; the boot was in second 1000. -/
def snapshotOf (s : System) (currentEpoch : Nat) : Snapshot := ⟨s.table, [], 1000, currentEpoch⟩

theorem step_snapshotOf {s : System} {call : Call} (due : s.call = some call)
    (currentEpoch : Nat) :
    Step s (.sweep (snapshotOf s currentEpoch)) { s with call := none } := by
  refine .sweep due rfl ⟨?_, ?_, ?_⟩ <;>
  · intro task listed
    cases listed

theorem start_listening : Start listening where
  hosted := by
    refine ⟨?_, rfl, by decide, ⟨⟨⟨1, 50⟩, ⟨0, 1⟩, some 1, 0⟩, by decide, rfl, rfl⟩, by decide⟩
    exact Library.ProcessTables.step_keeps_wellFormed (.fork firstProcess 50)
      (.fork (by decide) (by decide)) (Library.ProcessTables.wellFormed_boot 1)
  pending := rfl
  tracker := rfl
  log := rfl
  call := rfl

section Runs

variable {s : System} {parent worker : Process UInt32} {pid : UInt32} {now : Nat}

theorem reachable_started (reach : Reachable Step Start s) (foreign : parent.identity ≠ s.daemon)
    (positive : pid ≠ 0) (alive : parent ∈ s.table.processes)
    (free : ∀ p ∈ s.table.processes, p.pid ≠ pid) :
    Reachable Step Start (started parent pid s) := by
  have allowed : Allowed s.daemon (.fork parent pid) := ⟨foreign, positive⟩
  exact reach.snoc (.process allowed (.fork alive free))

theorem reachable_exited (reach : Reachable Step Start s) (foreign : pid ≠ s.daemon.pid)
    (mortal : pid ≠ s.table.init) : Reachable Step Start (exited pid s) := by
  have allowed : Allowed s.daemon (.exit pid) := foreign
  exact reach.snoc (.process allowed (.exit mortal))

theorem reachable_waited (reach : Reachable Step Start s) (later : s.table.now ≤ now) :
    Reachable Step Start (waited now s) := by
  have allowed : Allowed s.daemon (.tick now) := trivial
  exact reach.snoc (.process allowed (.tick later))

theorem reachable_struck (reach : Reachable Step Start s) (alive : worker ∈ s.table.processes)
    (quiet : s.pending = []) (idle : s.call = none) :
    Reachable Step Start (struck worker s) := by
  have raised : Reachable Step Start (s.raise worker []) := reach.snoc (.raise alive)
  refine raised.snoc (.handle idle ?_ rfl rfl)
  rw [System.raise, quiet, List.nil_append]

theorem reachable_crew (now : Nat) : Reachable Step Start (crew now) := by
  have listens : Reachable Step Start listening := ⟨_, [], start_listening, .nil _⟩
  have orchestrated : Reachable Step Start (started firstProcess 100 listening) :=
    reachable_started listens (by decide) (by decide) (by decide) (by decide)
  have one : Reachable Step Start (started orchestrator 101 (started firstProcess 100 listening)) :=
    reachable_started orchestrated (by decide) (by decide) (by decide) (by decide)
  exact reachable_waited (reachable_started (reachable_started one (by decide) (by decide)
    (by decide) (by decide)) (by decide) (by decide) (by decide) (by decide)) (Nat.zero_le now)

end Runs

/-- The three workers strike while the orchestrator runs. -/
theorem reachable_threeStrikes : Reachable Step Start (struck (worker 5 103)
    (struck (worker 4 102) (struck (worker 3 101) (crew (millis 900))))) := by
  have one : Reachable Step Start (struck (worker 3 101) (crew (millis 900))) :=
    reachable_struck (reachable_crew _) (by decide) rfl rfl
  have two : Reachable Step Start (struck (worker 4 102) (struck (worker 3 101)
      (crew (millis 900)))) := reachable_struck one (by decide) rfl rfl
  exact reachable_struck two (by decide) rfl rfl

end Sample

end BouclierBleu.Eradication.Remediation
