/- GID: BouclierBleu/IoRestrict/ForeignTaint
   source: bpf/io_restrict.bpf.c
   digest: When a pipe is held to account for a taint that another pipe received. -/

import BouclierBleu.IoRestrict.Pipes

set_option autoImplicit false
set_option relaxedAutoImplicit false

namespace BouclierBleu.IoRestrict.ForeignTaint

open BouclierBleu.IoRestrict.Hooks
open BouclierBleu.IoRestrict.Pipes
open BouclierBleu.Library.Trace (Move Run)

/-- Whatever the module's switch says, a call that is killed for taint is on a pipe that has
itself received read-only data since it was created; so is every operand the check hits. -/
def KillsReceivers (s : State) : Prop :=
  ∀ (stateMap : Option UInt32) (caller : Caller) (call : Call),
    call.TaintKilled { s.maps with stateMap := stateMap } (s.current caller) →
      (∃ fd ∈ call.operands, TaintedAt s.maps (s.current caller) fd) ∧
      ∀ fd ∈ call.operands, TaintedAt s.maps (s.current caller) fd →
        ∃ p pipe, s.pipeAt caller fd = some p ∧ s.pipes p = some pipe ∧ pipe.received = true

/-- A new pipe's identifier carries no mark; and when a pipe is about to be marked, the other
live pipes with its identifier have received read-only data themselves. -/
def NoStrayMark (m : Move State Event) : Prop :=
  match m.label with
  | .create pipe _ _ => m.source.maps.pipeTaintMap.lookup pipe.id ≠ some TAINTED_READONLY
  | .call caller reserved call =>
    m.source.Enabled → ¬ m.source.maps.pipeTaintMap.Full →
      ∀ q target p other, m.source.receiver caller reserved call = some q →
        m.source.pipes q = some target → m.source.pipes p = some other →
        other.id = target.id → p = q ∨ other.received = true
  | _ => True

/-- A live pipe is marked on its own account. -/
structure OwnMarks (s : State) : Prop where
  wf : WellFormed s
  own : ∀ p pipe, s.pipes p = some pipe →
    s.maps.pipeTaintMap.lookup pipe.id = some TAINTED_READONLY → pipe.received = true

section Verdict

variable {s : State}

theorem OwnMarks.killsReceivers (marks : OwnMarks s) : KillsReceivers s := by
  intro stateMap caller call killed
  obtain ⟨_, _, _, _, hit⟩ := taintKilled_iff.mp killed
  refine ⟨hit, ?_⟩
  intro fd _ tainted
  obtain ⟨p, pipe, refers, live, marked⟩ := taintedAt_iff_pipeAt.mp tainted
  exact ⟨p, pipe, refers, live, marks.own p pipe live marked⟩

theorem ownMarks_of_killsReceivers (wf : WellFormed s) (kills : KillsReceivers s) :
    OwnMarks s := by
  refine ⟨wf, ?_⟩
  intro p pipe live marked
  obtain ⟨n, fMode, ends⟩ := wf.liveOpen p pipe live
  have refers := holder_refers ends
  have hit : TaintedAt s.maps (s.current (holder n)) 0 :=
    taintedAt_iff_pipeAt.mpr ⟨p, pipe, refers, live, marked⟩
  have here : (0 : UInt32) ∈ (Call.write 0).operands := List.mem_singleton.mpr rfl
  have killed : (Call.write 0).TaintKilled { s.maps with stateMap := some 1 }
      (s.current (holder n)) :=
    taintKilled_iff.mpr ⟨rfl, holder_unprivileged n, id, holder_resolves refers live, 0, here, hit⟩
  obtain ⟨q, other, refers', live', received⟩ := (kills _ _ _ killed).2 0 here hit
  cases refers.symm.trans refers'
  cases live.symm.trans live'
  exact received

end Verdict

section Step

variable {s t : State} {e : Event}

private theorem noStrayMark_of_ownMarks (taken : Step s e t) (after : OwnMarks t) :
    NoStrayMark ⟨s, e, t⟩ := by
  cases taken with
  | @create pipe n fMode _ _ untouched =>
    intro marked
    have received := after.own s.born pipe (by simp) marked
    rw [untouched] at received
    contradiction
  | @call caller reserved call =>
    intro enabled room q target p other received liveTarget live same
    have marked := marked_of_receiver enabled room received liveTarget
    by_cases target_itself : p = q
    · exact .inl target_itself
    · have elsewhere : s.receiver caller reserved call ≠ some p := by
        rw [received]
        intro equal
        exact target_itself (Option.some.inj equal).symm
      refine .inr (after.own p other ?_ (by rw [same]; exact marked))
      simp only [State.call, if_neg elsewhere]
      exact live
  | openEnd _ _ => trivial
  | openOther _ => trivial
  | closeEnd _ _ _ => trivial
  | closeLast _ _ _ => trivial
  | closeOther _ => trivial
  | toggle => trivial

/-- One step keeps every mark a pipe's own exactly if it strays no mark. -/
theorem ownMarks_step_iff (taken : Step s e t) (marks : OwnMarks s) :
    OwnMarks t ↔ NoStrayMark ⟨s, e, t⟩ := by
  refine ⟨noStrayMark_of_ownMarks taken, ?_⟩
  intro clean
  refine ⟨marks.wf.step taken, ?_⟩
  intro p pipe live marked
  have change := taken.pipe_change p
  generalize after : t.pipes p = pipe' at change
  rw [live] at after
  cases change with
  | kept =>
    have entry := taken.entry_change marks.wf pipe.id
    rw [marked] at entry
    generalize held : some TAINTED_READONLY = value at entry
    cases entry with
    | kept => exact marks.own p pipe after.symm held.symm
    | released _ _ _ _ => contradiction
    | @marked caller reserved call q target enabled room received liveTarget same =>
      rcases clean enabled room q target p pipe received liveTarget after.symm same.symm with
        rfl | own
      · cases taken with
        | call =>
          simp only [State.call, received, if_true, ← after, Option.map_some] at live
          exact (congrArg Pipe.received (Option.some.inj live)).symm
      · exact own
  | created _ _ _ =>
    cases after
    cases taken with
    | create _ _ _ => exact absurd marked clean
  | freed _ _ => contradiction
  | ingested _ =>
    obtain ⟨_, _, rfl⟩ := Option.map_eq_some_iff.mp after.symm
    rfl

end Step

/-- In a run from the loading of the module, with any toggles, every taint kill is on account
of a pipe that received read-only data itself, if and only if no step strays a mark. -/
theorem kills_receivers_iff {s u : State} {moves : List (Move State Event)}
    (initial : Initial s) (run : Run Step s moves u) :
    (KillsReceivers s ∧ ∀ m ∈ moves, KillsReceivers m.target) ↔ ∀ m ∈ moves, NoStrayMark m := by
  have start : OwnMarks s := by
    refine ⟨initial.1, ?_⟩
    intro p pipe _ marked
    rw [initial.2] at marked
    contradiction
  have shows (s : State) (wf : WellFormed s) : KillsReceivers s ↔ OwnMarks s :=
    ⟨ownMarks_of_killsReceivers wf, OwnMarks.killsReceivers⟩
  rw [and_iff_right start.killsReceivers]
  exact run.observed_iff_moves (fun _ _ _ taken wf => wf.step taken) shows
    (fun _ _ _ taken _ marks => ownMarks_step_iff taken marks) initial.1 start

section Sample

theorem kills_receivers_iff_sample :
    KillsReceivers sampleStart ∧ ∀ m ∈ [(⟨sampleStart, .create samplePipe 1 FMODE_READ,
      sampleStart.create samplePipe 1 FMODE_READ⟩ : Move State Event)],
      KillsReceivers m.target := by
  have fresh (q : Nat) (other : Pipe) (live : sampleStart.pipes q = some other) :
      other.addr ≠ samplePipe.addr := by contradiction
  refine (kills_receivers_iff sampleStart_initial
    (.cons (.create fresh rfl rfl) (.nil _))).mpr ?_
  intro m member
  rw [List.mem_singleton.mp member]
  intro marked
  contradiction

/-- A marked pipe with a write end, file 1, and a read end, file 2. -/
def ghostMarked : State :=
  ((sampleStart.create samplePipe 1 FMODE_WRITE).openFile 2 (.pipeEnd 0 FMODE_READ)).call user
    true (.splice 0 1 0)

/-- The module is disabled and the write end closed. -/
def ghostShared : State :=
  ((ghostMarked.switch false).release samplePipe.receive FMODE_WRITE).closeFile 1

/-- The read end is closed and the module enabled again. -/
def ghostFreed : State :=
  (((ghostShared.release samplePipe.receive FMODE_READ).closeFile 2).freePipe 0).switch true

/-- The kernel reuses the address and the inode number. -/
def ghostReused : State := ghostFreed.create samplePipe 1 FMODE_WRITE

private theorem ghostMarked_pipes (p : Nat) :
    ghostMarked.pipes p = if p = 0 then some samplePipe.receive else none := by
  have through : ((sampleStart.create samplePipe 1 FMODE_WRITE).openFile 2
      (.pipeEnd 0 FMODE_READ)).receiver user true (.splice 0 1 0) = some 0 := by decide
  simp only [ghostMarked, State.call, through]
  by_cases first : p = 0
  · subst first
    rfl
  · have other : some 0 ≠ some p := by simpa using Ne.symm first
    simp [first, other, sampleStart]

private theorem ghost_live : ghostMarked.pipes 0 = some samplePipe.receive := by
  rw [ghostMarked_pipes, if_pos rfl]

private theorem ghost_shared : ¬ (ghostMarked.switch false).LastFile 1 0 := by
  intro last
  have same := last 2 FMODE_READ rfl
  contradiction

private theorem ghost_last : ghostShared.LastFile 2 0 := by
  intro k fMode ends
  change Function.update (Function.update (Function.update sampleStart.files 1 _) 2 _) 1 none k
    = _ at ends
  by_contra other
  by_cases first : k = 1
  · simp [first] at ends
  · rw [Function.update_of_ne first, Function.update_of_ne other,
      Function.update_of_ne first] at ends
    obtain ⟨pipe, live⟩ := sampleStart_initial.1.endsLive k 0 fMode ends
    contradiction

private theorem ghostFreed_pipes (p : Nat) : ghostFreed.pipes p = none := by
  change Function.update ghostMarked.pipes 0 none p = none
  by_cases first : p = 0
  · rw [first, Function.update_self]
  · rw [Function.update_of_ne first, ghostMarked_pipes, if_neg first]

private theorem run_ghostMarked : ∃ moves, Run Step sampleStart moves ghostMarked :=
  ⟨_, .cons (.create (fun _ _ live => by contradiction) rfl rfl)
    (.cons (.openEnd rfl rfl) (.cons .call (.nil _)))⟩

private theorem run_ghostReused : ∃ moves, Run Step sampleStart moves ghostReused := by
  obtain ⟨moves, run⟩ := run_ghostMarked
  have shared : Run Step sampleStart _ ghostShared :=
    (run.snoc .toggle).snoc (.closeEnd rfl ghost_live ghost_shared)
  have live : ghostShared.pipes 0 = some samplePipe.receive := ghost_live
  have freed : Run Step sampleStart _ ghostFreed :=
    (shared.snoc (.closeLast rfl live ghost_last)).snoc .toggle
  refine ⟨_, freed.snoc (.create ?_ rfl rfl)⟩
  intro q other live
  simp [ghostFreed_pipes] at live

/-- A pipe that reuses the address and the inode number of a marked pipe freed while the module
was disabled is killed for its taint. -/
theorem reused_pipe_killed :
    Initial sampleStart ∧ (∃ moves, Run Step sampleStart moves ghostReused) ∧
      ghostReused.pipes 1 = some samplePipe ∧ samplePipe.received = false ∧
      ghostReused.pipeAt user 1 = some 1 ∧
      (Call.write 1).TaintKilled ghostReused.maps (ghostReused.current user) :=
  ⟨sampleStart_initial, run_ghostReused, rfl, rfl, by decide, by decide⟩

end Sample

end BouclierBleu.IoRestrict.ForeignTaint
