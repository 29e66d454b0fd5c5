/- GID: BouclierBleu/Daemon/Delivery
   source: core/src/actor.rs, core/src/telemetry.rs, modules/src/common/macros.rs
   digest: When the records submitted before a toggle reach the log. -/

import BouclierBleu.Daemon.Actor
import Mathlib.Data.List.Nodup

set_option autoImplicit false
set_option relaxedAutoImplicit false

namespace BouclierBleu.Daemon.Delivery

open BouclierBleu.Daemon.Actor
open BouclierBleu.Daemon.Engine
open BouclierBleu.Kernel.AlertStructs (Endian)
open BouclierBleu.Daemon.ModuleState (handleCommand)
open BouclierBleu.Library.Trace (Move Run)
open BouclierBleu.Telemetry.Totality (tryFromBytes_ok_iff)

/-- The module's parser accepts the record. -/
def Parses (e : Endian) (r : Record) : Prop := ∃ alert, r.parse e = .ok alert

/-- Still in its ring buffer, or passed on to the log. -/
def Present (s : System) (r : Record) : Prop := r ∈ s.rings r.slug ∨ r ∈ s.emitted

/-- Every record that was submitted before a `DISABLE` of its module was taken off the queue,
and that parses, is passed to the log exactly once, or still waits to be. -/
def Delivered (e : Endian) (s : System) : Prop :=
  ∀ r ∈ s.submitted, r.serial < s.marks r.slug → Parses e r →
    s.emitted.count r + (s.rings r.slug).count r = 1

/-- The poll reads a record that parses while its module is off. -/
def Loses (e : Endian) (m : Move System Event) (r : Record) : Prop :=
  m.label = .consume r.slug ∧ (∃ rest, m.source.rings r.slug = r :: rest) ∧ Parses e r ∧
    isOn m.source.daemon r.slug = false

/-- Records are numbered as they come, and each is in one place at most. -/
structure Accounted (s : System) : Prop where
  numbered : ∀ r ∈ s.submitted, r.serial < s.submitted.length
  waiting : ∀ slug, ∀ r ∈ s.rings slug, r.slug = slug ∧ r ∈ s.submitted
  logged : ∀ r ∈ s.emitted, r ∈ s.submitted
  once : ∀ slug, (s.emitted ++ s.rings slug).Nodup
  marked : ∀ slug, s.marks slug ≤ s.submitted.length

section Steps

variable {e : Endian} {s t : System}

/-- A record parses exactly if it comes from one of the modules and is long enough. -/
theorem parses_iff (r : Record) :
    Parses e r ↔ ∃ m, moduleOf r.slug = some m ∧ m.minimum ≤ r.bytes.length := by
  unfold Parses Record.parse
  cases moduleOf r.slug with
  | none => simp
  | some m => simpa using tryFromBytes_ok_iff e m r.bytes

theorem processEvent_isSome_iff (d : DaemonState) (r : Record) :
    (processEvent e d r).isSome = true ↔ isOn d r.slug = true ∧ Parses e r := by
  unfold processEvent Parses
  cases isOn d r.slug with
  | false => simp
  | true => cases r.parse e <;> simp

private theorem Accounted.submit (accounted : Accounted s) (slug : String)
    (bytes : List UInt8) : Accounted (s.submit slug bytes) := by
  have new : (⟨slug, s.submitted.length, bytes⟩ : Record) ∉ s.submitted := fun member =>
    Nat.lt_irrefl _ (accounted.numbered _ member)
  refine ⟨?_, ?_, ?_, ?_, ?_⟩
  · intro r member
    change r.serial < (s.submitted ++ [_]).length
    rw [List.length_append, List.length_singleton]
    rcases List.mem_append.mp member with earlier | added
    · exact Nat.lt_succ_of_lt (accounted.numbered r earlier)
    · rw [List.mem_singleton.mp added]
      exact Nat.lt_succ_self _
  · intro other r member
    by_cases same : other = slug
    · subst same
      rw [rings_submit_self] at member
      rcases List.mem_append.mp member with earlier | added
      · obtain ⟨named, known⟩ := accounted.waiting other r earlier
        exact ⟨named, List.mem_append_left _ known⟩
      · exact ⟨by rw [List.mem_singleton.mp added], List.mem_append_right _ added⟩
    · rw [rings_submit_of_ne same] at member
      obtain ⟨named, known⟩ := accounted.waiting other r member
      exact ⟨named, List.mem_append_left _ known⟩
  · intro r member
    exact List.mem_append_left _ (accounted.logged r member)
  · intro other
    by_cases same : other = slug
    · subst same
      rw [rings_submit_self]
      change (s.emitted ++ (s.rings other ++ [_])).Nodup
      rw [← List.append_assoc, ← List.concat_eq_append]
      refine (accounted.once other).concat ?_
      intro member
      rcases List.mem_append.mp member with logged | waiting
      · exact new (accounted.logged _ logged)
      · exact new (accounted.waiting other _ waiting).2
    · rw [rings_submit_of_ne same]
      exact accounted.once other
  · intro other
    refine Nat.le_trans (accounted.marked other) ?_
    exact (List.sublist_append_left s.submitted _).length_le

private theorem Accounted.consume (accounted : Accounted s) {slug : String} {r : Record}
    {rest : List Record} (oldest : s.rings slug = r :: rest) :
    Accounted (s.consume e slug r rest) := by
  have here : r ∈ s.rings slug := oldest ▸ List.mem_cons_self
  obtain ⟨named, known⟩ := accounted.waiting slug r here
  have once := accounted.once slug
  rw [oldest, List.nodup_middle, List.nodup_cons] at once
  have fewer {other : String} {q : Record} (member : q ∈ (s.consume e slug r rest).rings other) :
      q ∈ s.rings other := by
    by_cases same : other = slug
    · subst same
      rw [rings_consume_self] at member
      exact oldest ▸ List.mem_cons_of_mem _ member
    · rwa [rings_consume_of_ne same] at member
  refine ⟨accounted.numbered, ?_, ?_, ?_, accounted.marked⟩
  · intro other q member
    exact accounted.waiting other q (fewer member)
  · intro q member
    rw [emitted_consume] at member
    split at member
    · rcases List.mem_append.mp member with earlier | added
      · exact accounted.logged q earlier
      · rw [List.mem_singleton.mp added]
        exact known
    · exact accounted.logged q member
  · intro other
    -- Wherever the record goes, it was nowhere else.
    have apart : (s.emitted ++ r :: (s.consume e slug r rest).rings other).Nodup := by
      by_cases same : other = slug
      · subst same
        rw [rings_consume_self, ← oldest]
        exact accounted.once other
      · rw [rings_consume_of_ne same, List.nodup_middle, List.nodup_cons]
        refine ⟨?_, accounted.once other⟩
        intro member
        rcases List.mem_append.mp member with logged | waiting
        · exact once.1 (List.mem_append_left _ logged)
        · exact same ((accounted.waiting other r waiting).1.symm.trans named)
    rw [emitted_consume]
    split
    · rw [List.append_assoc, List.singleton_append]
      exact apart
    · exact apart.sublist ((List.sublist_cons_self _ _).append_left _)

theorem step_keeps_accounted (event : Event) (taken : Step e s event t)
    (accounted : Accounted s) : Accounted t := by
  rcases records_cases taken with ⟨⟨rings, submitted, emitted⟩, marks, _⟩ |
    ⟨slug, bytes, _, rfl⟩ | ⟨slug, r, rest, _, oldest, rfl⟩
  · refine ⟨?_, ?_, ?_, ?_, ?_⟩
    · rw [submitted]
      exact accounted.numbered
    · rw [rings, submitted]
      exact accounted.waiting
    · rw [emitted, submitted]
      exact accounted.logged
    · rw [emitted, rings]
      exact accounted.once
    · rw [submitted]
      rcases marks with same | ⟨target, raised⟩
      · rw [same]
        exact accounted.marked
      · intro slug
        by_cases here : slug = target
        · rw [raised, here, Function.update_self]
        · rw [raised, Function.update_of_ne here]
          exact accounted.marked slug
  · exact accounted.submit slug bytes
  · exact accounted.consume oldest

theorem count_eq_one_iff (accounted : Accounted s) (r : Record) :
    s.emitted.count r + (s.rings r.slug).count r = 1 ↔ Present s r := by
  rw [← List.count_append, Present, or_comm, ← List.mem_append]
  constructor
  · intro once
    exact List.count_pos_iff.mp (by omega)
  · exact List.count_eq_one_of_mem (accounted.once r.slug)

/-- A record that parses stays present until it is lost. -/
private theorem present_step (event : Event) (taken : Step e s event t) {r : Record}
    (parses : Parses e r) (kept : ¬ Loses e ⟨s, event, t⟩ r) (present : Present s r) :
    Present t r := by
  rcases records_cases taken with ⟨⟨rings, _, emitted⟩, _, _⟩ |
    ⟨slug, bytes, _, rfl⟩ | ⟨slug, q, rest, rfl, oldest, rfl⟩
  · rwa [Present, rings, emitted]
  · refine present.imp_left ?_
    intro waiting
    by_cases same : r.slug = slug
    · rw [same, rings_submit_self, ← same]
      exact List.mem_append_left _ waiting
    · rwa [rings_submit_of_ne same]
  · rcases present with waiting | logged
    · by_cases same : r.slug = slug
      · subst same
        rw [oldest] at waiting
        rcases List.mem_cons.mp waiting with rfl | later
        · right
          have read : (processEvent e s.daemon r).isSome = true := by
            rw [processEvent_isSome_iff]
            refine ⟨?_, parses⟩
            by_contra off
            exact kept ⟨rfl, ⟨rest, oldest⟩, parses, Bool.eq_false_iff.mpr off⟩
          rw [emitted_consume, if_pos read]
          exact List.mem_append_right _ List.mem_cons_self
        · left
          rwa [rings_consume_self]
      · left
        rwa [rings_consume_of_ne same]
    · right
      rw [emitted_consume]
      split
      · exact List.mem_append_left _ logged
      · exact logged

/-- A record that is gone stays gone. -/
private theorem absent_step (event : Event) (taken : Step e s event t) (accounted : Accounted s)
    {r : Record} (known : r ∈ s.submitted) (absent : ¬ Present s r) :
    r ∈ t.submitted ∧ ¬ Present t r := by
  rw [Present, not_or] at absent
  rcases records_cases taken with ⟨⟨rings, submitted, emitted⟩, _, _⟩ |
    ⟨slug, bytes, _, rfl⟩ | ⟨slug, q, rest, _, oldest, rfl⟩
  · rw [submitted, Present, rings, emitted, not_or]
    exact ⟨known, absent⟩
  · refine ⟨List.mem_append_left _ known, ?_⟩
    rintro (waiting | logged)
    · by_cases same : r.slug = slug
      · subst same
        rw [rings_submit_self] at waiting
        rcases List.mem_append.mp waiting with earlier | added
        · exact absent.1 earlier
        · have numbered := accounted.numbered r known
          have serial := congrArg Record.serial (List.mem_singleton.mp added)
          exact Nat.ne_of_lt numbered serial
      · rw [rings_submit_of_ne same] at waiting
        exact absent.1 waiting
    · exact absent.2 logged
  · refine ⟨known, ?_⟩
    rintro (waiting | logged)
    · by_cases same : r.slug = slug
      · subst same
        rw [rings_consume_self] at waiting
        exact absent.1 (oldest ▸ List.mem_cons_of_mem _ waiting)
      · rw [rings_consume_of_ne same] at waiting
        exact absent.1 waiting
    · rw [emitted_consume] at logged
      split at logged
      · rcases List.mem_append.mp logged with earlier | added
        · exact absent.2 earlier
        · have here : r ∈ s.rings slug :=
            oldest ▸ List.mem_singleton.mp added ▸ List.mem_cons_self
          rw [← (accounted.waiting slug r here).1] at here
          exact absent.1 here
      · exact absent.2 logged

private theorem absent_of_loses {m : Move System Event} (taken : Step e m.source m.label m.target)
    (accounted : Accounted m.source) {r : Record} (loses : Loses e m r) :
    r ∈ m.target.submitted ∧ ¬ Present m.target r := by
  obtain ⟨label, ⟨later, oldest⟩, _, off⟩ := loses
  have here : r ∈ m.source.rings r.slug := oldest ▸ List.mem_cons_self
  have once := accounted.once r.slug
  rw [oldest, List.nodup_middle, List.nodup_cons, List.mem_append, not_or] at once
  rcases records_cases taken with ⟨_, _, other⟩ | ⟨slug, bytes, other, _⟩ |
    ⟨slug, q, rest, label', oldest', target⟩
  · exact absurd label (other r.slug)
  · rw [label] at other
    cases other
  · rw [label] at label'
    cases label'
    rw [oldest] at oldest'
    cases oldest'
    rw [target]
    refine ⟨(accounted.waiting r.slug r here).2, ?_⟩
    have unread : ¬ (processEvent e m.source.daemon r).isSome = true := by
      rw [processEvent_isSome_iff, off]
      exact fun both => Bool.false_ne_true both.1
    rw [Present, rings_consume_self, emitted_consume, if_neg unread, not_or]
    exact ⟨once.1.2, once.1.1⟩

private theorem new_step (event : Event) (taken : Step e s event t) {r : Record}
    (known : r ∈ t.submitted) : r ∈ s.submitted ∨ Present t r := by
  rcases records_cases taken with ⟨⟨_, submitted, _⟩, _, _⟩ |
    ⟨slug, bytes, _, rfl⟩ | ⟨slug, q, rest, _, _, rfl⟩
  · exact .inl (submitted ▸ known)
  · rcases List.mem_append.mp known with earlier | added
    · exact .inl earlier
    · right
      left
      rw [List.mem_singleton.mp added, rings_submit_self]
      exact List.mem_append_right _ List.mem_cons_self
  · exact .inl known

private theorem marks_step (event : Event) (taken : Step e s event t) (accounted : Accounted s)
    (slug : String) : s.marks slug ≤ t.marks slug := by
  rcases records_cases taken with ⟨_, marks, _⟩ | ⟨_, _, _, rfl⟩ | ⟨_, _, _, _, _, rfl⟩
  · rcases marks with same | ⟨target, raised⟩
    · rw [same]
    · by_cases here : slug = target
      · rw [raised, here, Function.update_self]
        exact accounted.marked target
      · rw [raised, Function.update_of_ne here]
  · exact Nat.le_refl _
  · exact Nat.le_refl _

end Steps

section Runs

variable {e : Endian} {s : System} {moves : List (Move System Event)}

theorem accounted_start (b : Boot) : Accounted (System.start b) where
  numbered := nofun
  waiting := nofun
  logged := nofun
  once _ := List.nodup_nil
  marked _ := Nat.le_refl _

/-- A record that no move of the run loses is present at its end. -/
private theorem present_of_not_lost (b : Boot) (run : Run (Step e) (System.start b) moves s)
    {r : Record} (parses : Parses e r) (each : ∀ m ∈ moves, ¬ Loses e m r)
    (known : r ∈ s.submitted) : Present s r := by
  have held : r ∈ s.submitted → Present s r := by
    refine run.invariant_of_moves (C := fun m => ¬ Loses e m r)
      (I := fun s => r ∈ s.submitted → Present s r) ?_ each nofun
    intro s event t taken kept present known
    rcases new_step event taken known with earlier | new
    · exact present_step event taken parses kept (present earlier)
    · exact new
  exact held known

/-- A record that a move of the run loses is absent from then on. -/
private theorem absent_after {s t : System} (run : Run (Step e) s moves t)
    (accounted : Accounted s) {r : Record} (lost : r ∈ s.submitted ∧ ¬ Present s r) :
    r ∈ t.submitted ∧ ¬ Present t r := by
  have held := run.invariant (I := fun s => Accounted s ∧ r ∈ s.submitted ∧ ¬ Present s r)
    (fun _ _ _ taken both => ⟨step_keeps_accounted _ taken both.1,
      absent_step _ taken both.1 both.2.1 both.2.2⟩) ⟨accounted, lost⟩
  exact held.2

private theorem marks_after {s t : System} (run : Run (Step e) s moves t)
    (accounted : Accounted s) (slug : String) : s.marks slug ≤ t.marks slug := by
  have held := run.invariant (I := fun u => Accounted u ∧ s.marks slug ≤ u.marks slug)
    (fun _ _ _ taken both => ⟨step_keeps_accounted _ taken both.1,
      both.2.trans (marks_step _ taken both.1 slug)⟩) ⟨accounted, Nat.le_refl _⟩
  exact held.2

private theorem delivered_iff (accounted : Accounted s) : Delivered e s ↔
    ∀ r ∈ s.submitted, r.serial < s.marks r.slug → Parses e r → Present s r := by
  simp only [Delivered, count_eq_one_iff accounted]

end Runs

/-- When a poll is through, the records delivered that were there at its beginning are in the
log. -/
theorem logged_of_pollDone {e : Endian} {s t : System} {due : Nat}
    (taken : Step e s .pollDone t) (here : s.actor = .polling due) (delivered : Delivered e t)
    {r : Record} (known : r ∈ t.submitted) (there : r.serial < due)
    (early : r.serial < t.marks r.slug) (parses : Parses e r) : t.emitted.count r = 1 := by
  have once := delivered r known early parses
  cases taken with
  | pollDone stage drained =>
    rw [here] at stage
    cases stage
    have read : r ∉ s.rings r.slug := fun waiting =>
      Nat.not_le.mpr there (drained r.slug r waiting)
    have none : (s.rings r.slug).count r = 0 := List.count_eq_zero_of_not_mem read
    change s.emitted.count r + (s.rings r.slug).count r = 1 at once
    rwa [none, Nat.add_zero] at once

section Dropped

/-- The alert of a blocked execution, empty but for its size. -/
def blockedRecord : Record := ⟨"exec_block", 0, List.replicate 4100 0⟩

theorem parses_blockedRecord : Parses .little blockedRecord := by
  have long : blockedRecord.bytes.length = 4100 := List.length_replicate
  exact (parses_iff blockedRecord).mpr ⟨.execBlock, by decide, long.ge⟩

/-- A hook of exec_block passes its check and submits its alert while the `DISABLE` waits in the
channel. -/
def submittedSystem : System :=
  { (System.start guardedBoot).connect (.command disableCommand.cmd) with
    hooks := ["exec_block"] }.submit "exec_block" blockedRecord.bytes

/-- The `DISABLE` is taken off the queue and carried out. -/
def disabledSystem : System :=
  (submittedSystem.receive disableCommand .empty 10).handle disableCommand 10 true

/-- The client has its answer, and the poll begins. -/
def pollingSystem : System :=
  { disabledSystem.reply 0 (handleCommand (boot guardedBoot) disableCommand.cmd true).2 10 with
    actor := .polling 1 }

private theorem pollingSystem_oldest : pollingSystem.rings "exec_block" = [blockedRecord] := by
  change submittedSystem.rings "exec_block" = _
  exact rings_submit_self

theorem pollingSystem_off : isOn pollingSystem.daemon "exec_block" = false := by
  decide

end Dropped

/-- The same record submitted with no command about. -/
def alertedSystem : System :=
  { System.start guardedBoot with hooks := ["exec_block"] }.submit "exec_block"
    blockedRecord.bytes

def unhurriedSystem : System := { alertedSystem with actor := .polling 1 }

end BouclierBleu.Daemon.Delivery
