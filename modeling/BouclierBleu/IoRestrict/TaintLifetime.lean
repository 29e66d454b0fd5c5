/- GID: BouclierBleu/IoRestrict/TaintLifetime
   source: bpf/io_restrict.bpf.c
   digest: Which closes a pipe's mark survives while the module stays enabled. -/

import BouclierBleu.IoRestrict.Pipes

set_option autoImplicit false
set_option relaxedAutoImplicit false

namespace BouclierBleu.IoRestrict.TaintLifetime

open BouclierBleu.IoRestrict.Hooks
open BouclierBleu.IoRestrict.Pipes
open BouclierBleu.Library.BoundedMaps (BoundedMap)
open BouclierBleu.Library.Trace (Move Run Reachable)

/-- A step during which the module is not switched off. -/
def EnabledStep (s : State) (e : Event) (t : State) : Prop := Step s e t ∧ e ≠ .toggle false

/-- Every unprivileged call on the pipe is killed: a splice from it, a splice into it and a
write to it, through any of its files. -/
def Guarded (s : State) (p : Nat) : Prop :=
  ∀ caller reserved call, caller.task.getGlobalUid ≠ 0 → call.Resolves (s.current caller) →
    (∃ fd ∈ call.operands, s.pipeAt caller fd = some p) →
    (s.hook caller reserved call).2.Killed

/-- While the pipe lives, a file of a pipe with its identifier is closed only when it is the
last one open on the pipe. -/
def ClosesLast (p : Nat) (m : Move State Event) : Prop :=
  ∀ n q fMode pipe closed, m.label = .close n →
    m.source.files n = some (.pipeEnd q fMode) → m.source.pipes q = some closed →
    m.source.pipes p = some pipe → closed.id = pipe.id → m.source.LastFile n p

/-- The mark is there as long as the pipe is. -/
structure Carried (p : Nat) (s : State) : Prop where
  wf : WellFormed s
  enabled : s.Enabled
  born : p < s.born
  marked : ∀ pipe, s.pipes p = some pipe →
    s.maps.pipeTaintMap.lookup pipe.id = some TAINTED_READONLY

section Verdict

variable {s : State} {p : Nat}

theorem Carried.guarded (carried : Carried p s) : Guarded s p := by
  rintro caller reserved call unprivileged resolves ⟨fd, operand, refers⟩
  apply (hook_killed_iff carried.enabled unprivileged).mpr
  obtain ⟨pipe, live⟩ := exists_live_of_pipeAt carried.wf refers
  have hit : TaintedAt s.maps (s.current caller) fd :=
    taintedAt_iff_pipeAt.mpr ⟨p, pipe, refers, live, carried.marked pipe live⟩
  exact .inr ⟨resolves, fd, operand, hit⟩

/-- An unmarked pipe can be written to by whoever holds one of its files. -/
theorem marked_of_guarded (wf : WellFormed s) (enabled : s.Enabled) (guarded : Guarded s p)
    {pipe : Pipe} (live : s.pipes p = some pipe) :
    s.maps.pipeTaintMap.lookup pipe.id = some TAINTED_READONLY := by
  obtain ⟨n, fMode, ends⟩ := wf.liveOpen p pipe live
  have refers := holder_refers ends
  have resolves := holder_resolves refers live
  have killed := guarded (holder n) true (.write 0) (holder_unprivileged n) resolves
    ⟨0, List.mem_singleton.mpr rfl, refers⟩
  rcases (hook_killed_iff enabled (holder_unprivileged n)).mp killed with restricted | contaminated
  · exact restricted.elim
  · obtain ⟨_, fd, operand, hit⟩ := contaminated
    rw [List.mem_singleton.mp operand] at hit
    obtain ⟨q, other, refers', live', marked⟩ := taintedAt_iff_pipeAt.mp hit
    cases refers.symm.trans refers'
    cases live.symm.trans live'
    exact marked

end Verdict

section Step

variable {s t : State} {e : Event} {p : Nat}

/-- A pipe is freed by a close exactly when the file is its last. -/
private theorem freed_iff_lastFile {n : Nat} {pipe : Pipe} (taken : Step s (.close n) t)
    (wf : WellFormed s) (live : s.pipes p = some pipe) :
    t.pipes p = none ↔ s.LastFile n p := by
  have change := taken.pipe_change p
  constructor
  · intro freed
    generalize t.pipes p = after at change freed
    cases change with
    | kept => simp [live] at freed
    | freed _ last => exact last
  · intro last
    obtain ⟨k, fMode, ends⟩ := wf.liveOpen p pipe live
    have same := last k fMode ends
    subst same
    cases taken with
    | closeEnd ends' _ shared =>
      cases ends.symm.trans ends'
      exact absurd last shared
    | closeLast ends' _ _ =>
      cases ends.symm.trans ends'
      rw [State.pipes_freePipe, Function.update_self]
    | closeOther ends' => cases ends.symm.trans ends'

/-- The release of any file of a pipe evicts the pipe's identifier. -/
private theorem evicted_of_close {n q : Nat} {fMode : UInt32} {closed : Pipe}
    (taken : Step s (.close n) t) (enabled : s.Enabled)
    (ends : s.files n = some (.pipeEnd q fMode)) (live : s.pipes q = some closed) :
    t.maps.pipeTaintMap.lookup closed.id = none := by
  have released (mode : UInt32) :
      (s.release closed mode).maps.pipeTaintMap.lookup closed.id = none := by
    rw [State.release, release_of_enabled enabled closed.attached]
    exact BoundedMap.lookup_delete_self _ _
  cases taken with
  | closeEnd ends' live' _ =>
    cases ends.symm.trans ends'
    cases live.symm.trans live'
    exact released fMode
  | closeLast ends' live' _ =>
    cases ends.symm.trans ends'
    cases live.symm.trans live'
    exact released fMode
  | closeOther ends' => cases ends.symm.trans ends'

/-- A pipe that was already there keeps its identifier. -/
private theorem id_before {pipe : Pipe} (taken : Step s e t) (born : p < s.born)
    (live : t.pipes p = some pipe) : ∃ old, s.pipes p = some old ∧ pipe.id = old.id := by
  rcases taken.live_before live with ⟨old, before, addr, inode, _⟩ | ⟨next, _⟩
  · exact ⟨old, before, by rw [Pipe.id, Pipe.id, addr, inode]⟩
  · omega

private theorem closesLast_of_carried (taken : Step s e t) (carried : Carried p s)
    (after : Carried p t) : ClosesLast p ⟨s, e, t⟩ := by
  rintro n q fMode pipe closed label ends liveClosed live same
  have closing : e = .close n := label
  subst closing
  rw [← freed_iff_lastFile taken carried.wf live]
  by_contra alive
  obtain ⟨pipe', live'⟩ := Option.ne_none_iff_exists'.mp alive
  obtain ⟨old, before, identified⟩ := id_before taken carried.born live'
  cases live.symm.trans before
  have marked := after.marked pipe' live'
  rw [identified, ← same, evicted_of_close taken carried.enabled ends liveClosed] at marked
  contradiction

/-- While the module stays enabled, a step keeps the mark exactly if it evicts it with the
pipe's last file or not at all. -/
theorem carried_step_iff (taken : EnabledStep s e t) (carried : Carried p s) :
    Carried p t ↔ ClosesLast p ⟨s, e, t⟩ := by
  obtain ⟨taken, on⟩ := taken
  refine ⟨closesLast_of_carried taken carried, ?_⟩
  intro closes
  refine ⟨carried.wf.step taken, taken.enabled carried.enabled on,
    carried.born.trans_le taken.born_le, ?_⟩
  intro pipe live
  obtain ⟨old, before, identified⟩ := id_before taken carried.born live
  rw [identified]
  have marked := carried.marked old before
  have change := taken.entry_change carried.wf old.id
  generalize t.maps.pipeTaintMap.lookup old.id = entry at change
  cases change with
  | kept => exact marked
  | @released n q fMode closed _ ends liveClosed same =>
    have last := closes n q fMode old closed rfl ends liveClosed before same
    rw [(freed_iff_lastFile taken carried.wf before).mpr last] at live
    contradiction
  | marked _ _ _ _ _ => rfl

end Step

/-- The splice that marks a pipe starts its carried lifetime. -/
theorem carried_of_receiver {s t : State} {caller : Caller} {reserved : Bool} {call : Call}
    {p : Nat} (wf : WellFormed s) (enabled : s.Enabled) (room : ¬ s.maps.pipeTaintMap.Full)
    (spliced : Step s (.call caller reserved call) t)
    (through : s.receiver caller reserved call = some p) : Carried p t := by
  have later : WellFormed t := wf.step spliced
  refine ⟨later, spliced.enabled enabled (by simp), ?_, ?_⟩
  · obtain ⟨_, _, _, fdOut, _, _, _, _, _, refers⟩ := receiver_spec through
    obtain ⟨pipe, live⟩ := exists_live_of_pipeAt wf refers
    have born : p < s.born := by
      by_contra unborn
      rw [wf.unborn p (by omega)] at live
      contradiction
    exact born.trans_le spliced.born_le
  · intro pipe live
    cases spliced with
    | call =>
      simp only [State.call, through, if_true] at live
      obtain ⟨old, before, rfl⟩ := Option.map_eq_some_iff.mp live
      rw [Pipe.receive_id]
      exact marked_of_receiver enabled room through before

/-- Once a splice has marked a pipe, and until the module is switched off, every state reached
guards the pipe if and only if each file closed on a pipe with its identifier, while the pipe
lives, is its last one. -/
theorem guarded_throughout_iff {s t u : State} {caller : Caller} {reserved : Bool} {call : Call}
    {p : Nat} {moves : List (Move State Event)} (reach : Reachable Step Initial s)
    (enabled : s.Enabled) (room : ¬ s.maps.pipeTaintMap.Full)
    (spliced : Step s (.call caller reserved call) t)
    (through : s.receiver caller reserved call = some p) (run : Run EnabledStep t moves u) :
    (Guarded t p ∧ ∀ m ∈ moves, Guarded m.target p) ↔ ∀ m ∈ moves, ClosesLast p m := by
  have start := carried_of_receiver (.of_reachable reach) enabled room spliced through
  have keep (s : State) (e : Event) (t : State) (taken : EnabledStep s e t)
      (base : WellFormed s ∧ s.Enabled ∧ p < s.born) :
      WellFormed t ∧ t.Enabled ∧ p < t.born := by
    obtain ⟨taken, on⟩ := taken
    obtain ⟨wf, enabled, born⟩ := base
    exact ⟨wf.step taken, taken.enabled enabled on, born.trans_le taken.born_le⟩
  have shows (s : State) (base : WellFormed s ∧ s.Enabled ∧ p < s.born) :
      Guarded s p ↔ Carried p s := by
    obtain ⟨wf, enabled, born⟩ := base
    refine ⟨fun guarded => ?_, Carried.guarded⟩
    exact ⟨wf, enabled, born, fun _ live => marked_of_guarded wf enabled guarded live⟩
  rw [and_iff_right start.guarded]
  exact run.observed_iff_moves keep shows
    (fun _ _ _ taken _ carried => carried_step_iff taken carried)
    ⟨start.wf, start.enabled, start.born⟩ start

section Sample

/-- The second write end is closed again; the pipe still has its first two files. -/
def sampleReleased : State := (sampleMarked.release samplePipe.receive FMODE_WRITE).closeFile 3

private theorem sample_live : sampleMarked.pipes 0 = some samplePipe.receive := by
  have through : sampleOpen.receiver user true sampleSplice = some 0 := by decide
  simp only [sampleMarked, State.call, through, if_true]
  rfl

private theorem sample_shared : ¬ sampleMarked.LastFile 3 0 := by
  intro last
  have same := last 2 FMODE_WRITE rfl
  contradiction

theorem guarded_throughout_iff_sample :
    Guarded sampleMarked 0 ∧ ∀ m ∈ [(⟨sampleMarked, .close 0, sampleMarked.closeFile 0⟩ :
      Move State Event)], Guarded m.target 0 := by
  refine (guarded_throughout_iff sampleOpen_reachable rfl (by decide) .call (by decide)
    (.cons ⟨.closeOther rfl, by simp⟩ (.nil _))).mpr ?_
  intro m member n q fMode pipe closed label ends
  rw [List.mem_singleton.mp member] at label ends
  cases label
  injection Option.some.inj ends

/-- After the close of a re-opened write end, the marked pipe is written to unhindered. -/
theorem marked_pipe_written :
    Reachable Step Initial sampleOpen ∧ sampleOpen.Enabled ∧
      ¬ sampleOpen.maps.pipeTaintMap.Full ∧
      Step sampleOpen (.call user true sampleSplice) sampleMarked ∧
      sampleOpen.receiver user true sampleSplice = some 0 ∧
      Run EnabledStep sampleMarked [⟨sampleMarked, .close 3, sampleReleased⟩] sampleReleased ∧
      sampleReleased.pipeAt user 2 = some 0 ∧
      (Call.write 2).Resolves (sampleReleased.current user) ∧
      ¬ (sampleReleased.hook user true (.write 2)).2.Killed := by
  refine ⟨sampleOpen_reachable, rfl, by decide, .call, by decide, ?_, by decide, ?_, by decide⟩
  · exact .cons ⟨.closeEnd rfl sample_live sample_shared, by simp⟩ (.nil _)
  · decide

end Sample

end BouclierBleu.IoRestrict.TaintLifetime
