/- GID: BouclierBleu/DumpRestrict/CrashMatching
   source: bpf/dump_restrict.bpf.c
   digest: When executions of a piped core-dump handler are matched with the crashes behind them. -/

import BouclierBleu.DumpRestrict.Hooks
import BouclierBleu.Library.Trace

set_option autoImplicit false
set_option relaxedAutoImplicit false

namespace BouclierBleu.DumpRestrict.CrashMatching

open BouclierBleu.DumpRestrict.Hooks
open BouclierBleu.Kernel.AlertStructs (DumpAlert)
open BouclierBleu.Kernel.ModuleCore (isModuleActive EPERM Outcome Task)
open BouclierBleu.Kernel.VfsHelpers (DirId inodeOf protectedFilesMax_pos)
open BouclierBleu.Library.Trace (Move Run)

/-- A crash of a user process, with the handler `core_pattern` named at that moment and
whether the module was enabled when the observer saw it. -/
structure Crash where
  id : Nat
  task : Task
  handler : DirId
  observedEnabled : Bool
  isUser : task.tgid ≠ 0
  deriving DecidableEq

/-- The system between two steps. `waiting` are the crashes whose handler has not been
executed yet. `pending` is a record kept beside the code: the non-root crashes observed while
the module was enabled, oldest first, less those whose indexed handler was executed while it
was enabled. -/
structure State where
  maps : Maps
  corePattern : DirId
  seen : List Nat
  waiting : List Crash
  pending : List Crash

inductive Event
  | observe (id : Nat) (task : Task) (isUser : task.tgid ≠ 0)
  | execute (crash : Crash) (reserved : Bool)
  | setCorePattern (handler : DirId)
  | toggle (enable : Bool)

def State.Enabled (s : State) : Prop := isModuleActive s.maps.stateMap = true

instance (s : State) : Decidable s.Enabled :=
  inferInstanceAs (Decidable (isModuleActive s.maps.stateMap = true))

/-- The handler's file is in the map that was filled at boot. -/
def State.Indexed (s : State) (handler : DirId) : Prop :=
  s.maps.protectedFiles.lookup handler = some 1

instance (s : State) (handler : DirId) : Decidable (s.Indexed handler) :=
  inferInstanceAs (Decidable (s.maps.protectedFiles.lookup handler = some 1))

/-- A crash the observer leaves a token for. -/
def Crash.Tracked (crash : Crash) : Prop :=
  crash.observedEnabled = true ∧ crash.task.getGlobalUid ≠ 0

instance (crash : Crash) : Decidable crash.Tracked := inferInstanceAs (Decidable (_ ∧ _))

def Crash.token (crash : Crash) : DumpAlert := alertOf crash.task ACTION_PIPED_HANDLER

/-- The observer runs in the crashing thread. -/
def State.observe (s : State) (crash : Crash) : State :=
  { s with
    maps := dumpRestrictObserver s.maps crash.task true
    seen := crash.id :: s.seen
    waiting := crash :: s.waiting
    pending := if crash.Tracked then s.pending ++ [crash] else s.pending }

/-- A kernel worker, whose parent has no memory map, executes the handler of a crash. -/
def State.check (s : State) (crash : Crash) (reserved : Bool) : Maps × Outcome DumpAlert :=
  dumpRestrictBprmCheck s.maps reserved false (some (some (inodeOf crash.handler)))

def State.execute (s : State) (crash : Crash) (reserved : Bool) : State :=
  { s with
    maps := (s.check crash reserved).1
    waiting := s.waiting.erase crash
    pending :=
      if s.Enabled ∧ s.Indexed crash.handler then s.pending.erase crash else s.pending }

inductive Step : State → Event → State → Prop
  | observe {s : State} {id : Nat} {task : Task} {isUser : task.tgid ≠ 0} (fresh : id ∉ s.seen) :
      Step s (.observe id task isUser)
        (s.observe ⟨id, task, s.corePattern, isModuleActive s.maps.stateMap, isUser⟩)
  | execute {s : State} (crash : Crash) (reserved : Bool) (member : crash ∈ s.waiting) :
      Step s (.execute crash reserved) (s.execute crash reserved)
  | setCorePattern {s : State} {handler : DirId} :
      Step s (.setCorePattern handler) { s with corePattern := handler }
  | toggle {s : State} {enable : Bool} :
      Step s (.toggle enable)
        { s with maps := { s.maps with stateMap := some (if enable then 1 else 0) } }

/-- Before the first crash: an empty queue. -/
def Initial (s : State) : Prop :=
  s.maps.pendingCrashBlocks.items = [] ∧ s.seen = [] ∧ s.waiting = [] ∧ s.pending = []

/-- At the execution of the indexed handler of a crash, with the module enabled there and at
the observation: the execution is denied exactly for a non-root crash, and an alert is the one
of that process. -/
def Matched (m : Move State Event) : Prop :=
  ∀ crash reserved, m.label = .execute crash reserved →
    m.source.Enabled → crash.observedEnabled = true → m.source.Indexed crash.handler →
    ((m.source.check crash reserved).2.Denied ↔ crash.task.getGlobalUid ≠ 0) ∧
    (reserved = true → crash.task.getGlobalUid ≠ 0 →
      (m.source.check crash reserved).2.alerts ≠ []) ∧
    ∀ alert ∈ (m.source.check crash reserved).2.alerts,
      alert.pid = crash.task.tgid ∧ alert.uid = crash.task.getGlobalUid

/-- The steps that keep tokens and crashes in line: a tracked crash finds room in the queue; an
indexed handler is executed for the oldest pending crash, or for an untracked one while none is
pending. -/
def InTurn (m : Move State Event) : Prop :=
  match m.label with
  | .observe _ task _ =>
    m.source.Enabled → task.getGlobalUid ≠ 0 → m.source.pending.length < 512
  | .execute crash _ =>
    m.source.Enabled → m.source.Indexed crash.handler →
      if crash.Tracked then m.source.pending.head? = some crash else m.source.pending = []
  | .setCorePattern _ => True
  | .toggle _ => True

instance (m : Move State Event) : Decidable (InTurn m) :=
  match m with
  | ⟨s, .observe _ task _, _⟩ => inferInstanceAs
      (Decidable (s.Enabled → task.getGlobalUid ≠ 0 → s.pending.length < 512))
  | ⟨s, .execute crash _, _⟩ => inferInstanceAs
      (Decidable (s.Enabled → s.Indexed crash.handler →
        if crash.Tracked then s.pending.head? = some crash else s.pending = []))
  | ⟨_, .setCorePattern _, _⟩ => inferInstanceAs (Decidable True)
  | ⟨_, .toggle _, _⟩ => inferInstanceAs (Decidable True)

/-- The queue holds the tokens of the pending crashes, in their order. -/
def Faithful (s : State) : Prop :=
  s.maps.pendingCrashBlocks.items = s.pending.map Crash.token

section Execution

variable {s : State} {crash : Crash} (reserved : Bool)

private theorem check_of_ignored (ignored : ¬ (s.Enabled ∧ s.Indexed crash.handler)) :
    s.check crash reserved = (s.maps, .quiet 0) := by
  apply bprmCheck_of_ignored
  by_cases enabled : s.Enabled
  · exact .inr fun indexed => ignored ⟨enabled, indexed⟩
  · exact .inl (Bool.eq_false_iff.mpr enabled)

variable (faithful : Faithful s) (enabled : s.Enabled) (indexed : s.Indexed crash.handler)

include faithful enabled indexed

/-- With nothing pending the handler runs. -/
theorem check_of_none_pending (none_pending : s.pending = []) :
    s.check crash reserved = (s.maps, .quiet 0) := by
  apply bprmCheck_of_empty enabled indexed
  rw [faithful, none_pending, List.map_nil]

/-- With something pending the handler is denied, and the alert is that of the oldest pending
crash, whatever crash the handler was spawned for. -/
theorem check_of_pending {oldest : Crash} {rest : List Crash}
    (pending : s.pending = oldest :: rest) :
    ∃ queue : CrashQueue, queue.items = rest.map Crash.token ∧
      s.check crash reserved =
        ({ s.maps with pendingCrashBlocks := queue },
          ⟨-EPERM, if reserved then [oldest.token] else [], []⟩) := by
  have items : s.maps.pendingCrashBlocks.items = oldest.token :: rest.map Crash.token := by
    rw [faithful, pending, List.map_cons]
  exact bprmCheck_of_pending enabled indexed items oldest.isUser

end Execution

theorem step_keeps_faithful {s t : State} {e : Event} (taken : Step s e t)
    (turn : InTurn ⟨s, e, t⟩) (faithful : Faithful s) : Faithful t := by
  cases taken with
  | @observe id task isUser fresh =>
    let crash : Crash := ⟨id, task, s.corePattern, isModuleActive s.maps.stateMap, isUser⟩
    change (dumpRestrictObserver s.maps task true).pendingCrashBlocks.items =
      (if crash.Tracked then s.pending ++ [crash] else s.pending).map Crash.token
    by_cases tracked : crash.Tracked
    · have length := turn tracked.1 tracked.2
      have room : s.maps.pendingCrashBlocks.items.length < 512 := by
        rw [faithful, List.length_map]
        exact length
      obtain ⟨_, _, items⟩ := observer_of_nonroot tracked.1 tracked.2 room
      rw [items, if_pos tracked, faithful, List.map_append]
      rfl
    · have ignored : isModuleActive s.maps.stateMap = false ∨ task.getGlobalUid = 0 := by
        by_cases root : task.getGlobalUid = 0
        · exact .inr root
        · exact .inl (Bool.eq_false_iff.mpr fun on => tracked ⟨on, root⟩)
      rw [observer_of_ignored ignored, if_neg tracked, faithful]
  | execute crash reserved member =>
    change (s.check crash reserved).1.pendingCrashBlocks.items =
      (if s.Enabled ∧ s.Indexed crash.handler then s.pending.erase crash
        else s.pending).map Crash.token
    by_cases acts : s.Enabled ∧ s.Indexed crash.handler
    · rw [if_pos acts]
      have turn := turn acts.1 acts.2
      cases pending : s.pending with
      | nil =>
        rw [check_of_none_pending reserved faithful acts.1 acts.2 pending]
        exact faithful.trans (by rw [pending]; rfl)
      | cons oldest rest =>
        obtain ⟨queue, items, shape⟩ :=
          check_of_pending reserved faithful acts.1 acts.2 pending
        have same : oldest = crash := by
          change (if crash.Tracked then s.pending.head? = some crash else s.pending = [])
            at turn
          rw [pending] at turn
          split at turn
          · exact Option.some.inj turn
          · contradiction
        rw [shape, same, List.erase_cons_head]
        exact items
    · rw [if_neg acts, check_of_ignored reserved acts]
      exact faithful
  | setCorePattern => exact faithful
  | toggle => exact faithful

private theorem matched_of_faithful {m : Move State Event} (turn : InTurn m)
    (faithful : Faithful m.source) : Matched m := by
  obtain ⟨s, label, t⟩ := m
  rintro crash reserved rfl enabled observed indexed
  have turn := turn enabled indexed
  change (if crash.Tracked then s.pending.head? = some crash else s.pending = []) at turn
  by_cases nonroot : crash.task.getGlobalUid ≠ 0
  · rw [if_pos ⟨observed, nonroot⟩] at turn
    obtain ⟨rest, pending⟩ := List.head?_eq_some_iff.mp turn
    obtain ⟨queue, _, shape⟩ :=
      check_of_pending reserved faithful enabled indexed pending
    change ((s.check crash reserved).2.Denied ↔ _) ∧ _
    rw [shape]
    refine ⟨⟨fun _ => nonroot, fun _ => by simp [Outcome.Denied, EPERM]⟩, ?_, ?_⟩
    · rintro rfl _
      simp
    · intro alert member
      cases reserved with
      | false => simp at member
      | true =>
        rw [List.mem_singleton.mp member]
        exact ⟨rfl, rfl⟩
  · rw [if_neg fun tracked => nonroot tracked.2] at turn
    have shape := check_of_none_pending reserved faithful enabled indexed turn
    change ((s.check crash reserved).2.Denied ↔ _) ∧ _
    rw [shape]
    refine ⟨⟨fun denied => by simp at denied, fun different => absurd different nonroot⟩, ?_, ?_⟩
    · exact fun _ different => absurd different nonroot
    · intro alert member
      simp at member

/-- In every run whose steps are in turn, every execution of a handler is matched with the
crash it was spawned for. -/
theorem handlers_matched {s₀ s : State} {moves : List (Move State Event)}
    (initial : Initial s₀) (run : Run Step s₀ moves s) (turns : ∀ m ∈ moves, InTurn m) :
    ∀ m ∈ moves, Matched m := by
  have start : Faithful s₀ := by
    obtain ⟨items, _, _, pending⟩ := initial
    rw [Faithful, items, pending, List.map_nil]
  intro m member
  have around := run.invariant_at_moves (C := InTurn)
    (fun _ _ _ taken turn faithful => step_keeps_faithful taken turn faithful)
    turns start member
  exact matched_of_faithful (turns m member) around.1

section Sample

def sampleStart : State where
  maps := ⟨some 1, .single .reject 16 protectedFilesMax_pos ⟨9, 1⟩ 1, .empty⟩
  corePattern := ⟨9, 1⟩
  seen := []
  waiting := []
  pending := []

def userCrash : Crash := ⟨1, ⟨0x500000000, 1000, none⟩, ⟨9, 1⟩, true, by decide⟩

def rootCrash : Crash := ⟨2, ⟨0x600000000, 0, none⟩, ⟨9, 1⟩, true, by decide⟩

def bothObserved : State := (sampleStart.observe userCrash).observe rootCrash

private theorem run_bothObserved :
    Run Step sampleStart
      [⟨sampleStart, .observe 1 userCrash.task userCrash.isUser, sampleStart.observe userCrash⟩,
        ⟨sampleStart.observe userCrash, .observe 2 rootCrash.task rootCrash.isUser,
          bothObserved⟩] bothObserved :=
  .cons (.observe (by decide)) (.cons (.observe (by decide)) (.nil _))

theorem handlers_matched_sample :
    Matched ⟨bothObserved, .execute userCrash true, bothObserved.execute userCrash true⟩ :=
  handlers_matched ⟨rfl, rfl, rfl, rfl⟩
    (run_bothObserved.snoc (.execute userCrash true (by decide)))
    (by decide) _ (by simp)

/-- A worker gets to the handler of a root crash before it gets to that of an older user
crash: the root crash's handler is denied, under the name of the user process. -/
theorem root_handler_denied :
    ∃ moves s, Initial sampleStart ∧ Run Step sampleStart moves s ∧ ∃ m ∈ moves, ¬ Matched m := by
  refine ⟨_, _, ⟨rfl, rfl, rfl, rfl⟩, run_bothObserved.snoc (.execute rootCrash true
    (by decide)), _, List.mem_append_right _ List.mem_cons_self, ?_⟩
  intro matched
  have denied := (matched rootCrash true rfl (by decide) rfl (by decide)).1.mp (by decide)
  exact denied rfl

end Sample

end BouclierBleu.DumpRestrict.CrashMatching
