/- GID: BouclierBleu/Daemon/RingRoom
   source: core/src/actor.rs, core/src/telemetry.rs, bpf/headers/module_core.h
   digest: How many alerts fit a module's ring buffer between the polls of the actor. -/

import BouclierBleu.Daemon.Delivery
import BouclierBleu.Library.Histories
import BouclierBleu.Telemetry.Records

set_option autoImplicit false
set_option relaxedAutoImplicit false

namespace BouclierBleu.Daemon.RingRoom

open BouclierBleu.Daemon.Actor
open BouclierBleu.Daemon.Delivery (Accounted step_keeps_accounted)
open BouclierBleu.Daemon.Engine
open BouclierBleu.Kernel.AlertStructs (Endian)
open BouclierBleu.Kernel.ModuleCore (isModuleActive)
open BouclierBleu.Library.Histories (invariant_along)
open BouclierBleu.Library.Trace (Move Run)
open BouclierBleu.Telemetry.Records (recordSize)
open BouclierBleu.Telemetry.Totality (Module)

/-- The `max_entries` of `BOUCLIER_MODULE_ALERTS`, in bytes. -/
def ringBytes : Nat := 256 * 1024

/-- What `bpf_ringbuf_reserve` takes for a record: a header of eight bytes, rounded up to a
multiple of eight. -/
def slot (size : Nat) : Nat := (size + 8 + 7) / 8 * 8

/-- What is taken of a module's ring buffer when every hook that runs has a record reserved. -/
def occupied (s : System) (m : Module) : Nat :=
  ((s.rings m.slug).map fun r => slot r.bytes.length).sum +
    s.hooks.count m.slug * slot (recordSize m)

/-- A ring buffer is never filled to its last byte. -/
def Fits (s : System) (m : Module) : Prop := occupied s m < ringBytes

/-- How many records of a module fit. -/
def burst (m : Module) : Nat := (ringBytes - 1) / slot (recordSize m)

/-- How many records of a module were submitted since the last poll that ran to its end began,
and since the last poll began. -/
structure Tally where
  since : Nat
  during : Nat

def Tally.count (slug : String) (tally : Tally) : Event → Tally
  | .submit other _ => if other = slug then ⟨tally.since + 1, tally.during + 1⟩ else tally
  | .tickOver => { tally with during := 0 }
  | .pollDone => { tally with since := tally.during }
  | _ => tally

def tally (slug : String) (moves : List (Move System Event)) : Tally :=
  moves.foldl (fun tally m => tally.count slug m.label) ⟨0, 0⟩

def backlog (slug : String) (moves : List (Move System Event)) : Nat := (tally slug moves).since

/-- The hooks of a module submit records of its own struct. -/
def Sized (m : Module) (moves : List (Move System Event)) : Prop :=
  ∀ move ∈ moves, ∀ bytes, move.label = .submit m.slug bytes → bytes.length = recordSize m

/-- A ring buffer holds no more than the tally, of which a poll that is under way leaves only what
came after it began. -/
structure Counted (slug : String) (tally : Tally) (s : System) : Prop where
  held : (s.rings slug).length ≤ tally.since
  recent : ∀ due, s.actor = .polling due →
    (s.rings slug).countP (fun r => due ≤ r.serial) ≤ tally.during

section Steps

variable {e : Endian} {s t : System} {slug : String}

theorem tally_snoc (before : List (Move System Event)) (m : Move System Event) :
    tally slug (before ++ [m]) = (tally slug before).count slug m.label := by
  rw [tally, List.foldl_append]
  rfl

/-- A step that leaves the ring buffers alone, and begins no poll. -/
private theorem Counted.frame {tally : Tally} (counted : Counted slug tally s)
    (rings : t.rings = s.rings) (actor : ∀ due, t.actor = .polling due → s.actor = .polling due) :
    Counted slug tally t := by
  constructor
  · rw [rings]
    exact counted.held
  · intro due polling
    rw [rings]
    exact counted.recent due (actor due polling)

private theorem Counted.submit {tally : Tally} (counted : Counted slug tally s) (other : String)
    (bytes : List UInt8) :
    Counted slug (tally.count slug (.submit other bytes)) (s.submit other bytes) := by
  by_cases own : other = slug
  · subst own
    rw [Tally.count, if_pos rfl]
    constructor
    · rw [rings_submit_self, List.length_append, List.length_singleton]
      exact Nat.succ_le_succ counted.held
    · intro due polling
      rw [rings_submit_self, List.countP_append]
      have earlier := counted.recent due polling
      have added := List.countP_le_length (p := fun r : Record => decide (due ≤ r.serial))
        (l := [⟨other, s.submitted.length, bytes⟩])
      rw [List.length_singleton] at added
      exact Nat.add_le_add earlier added
  · rw [Tally.count, if_neg own]
    have same : (s.submit other bytes).rings slug = s.rings slug :=
      rings_submit_of_ne fun same => own same.symm
    constructor
    · rw [same]
      exact counted.held
    · intro due polling
      rw [same]
      exact counted.recent due polling

private theorem Counted.consume {tally : Tally} (counted : Counted slug tally s) {other : String}
    {r : Record} {rest : List Record} (oldest : s.rings other = r :: rest) :
    Counted slug tally (s.consume e other r rest) := by
  have fewer : ((s.consume e other r rest).rings slug).Sublist (s.rings slug) := by
    by_cases own : slug = other
    · subst own
      rw [rings_consume_self, oldest]
      exact List.sublist_cons_self ..
    · rw [rings_consume_of_ne own]
  constructor
  · exact Nat.le_trans fewer.length_le counted.held
  · intro due polling
    exact Nat.le_trans (fewer.countP_le ..) (counted.recent due polling)

private theorem counted_step {tally : Tally} {event : Event} (taken : Step e s event t)
    (accounted : Accounted s) (counted : Counted slug tally s) :
    Counted slug (tally.count slug event) t := by
  cases taken with
  | connect connection free =>
    rcases connect_cases s connection with ⟨_, shape⟩ | shape | ⟨_, _, _, shape⟩
    · rw [shape]
      exact counted.frame rfl fun _ => id
    · rw [shape]
      exact counted.frame rfl fun _ => id
    · rw [shape]
      exact counted.frame rfl fun _ => id
  | tickOver ended =>
    refine ⟨counted.held, ?_⟩
    -- A poll begins, and every record there is came before it.
    rintro due ⟨⟩
    refine Nat.le_of_eq (List.countP_eq_zero.mpr ?_)
    intro r member
    have numbered := accounted.numbered r (accounted.waiting slug r member).2
    simpa using numbered
  | @pollDone due here drained =>
    refine ⟨?_, nofun⟩
    -- A poll ends, and every record left came after it began.
    have left : (s.rings slug).countP (fun r => due ≤ r.serial) = (s.rings slug).length :=
      List.countP_eq_length.mpr fun r member => decide_eq_true (drained slug r member)
    exact left ▸ counted.recent due here
  | submit bytes running => exact counted.submit _ bytes
  | consume here oldest => exact counted.consume oldest
  | deliver waiting => exact counted.frame rfl fun _ => id
  | expire waiting => exact counted.frame rfl fun _ => id
  | receive room taken => exact counted.frame rfl nofun
  | handle updated here => exact counted.frame rfl nofun
  | reply here => exact counted.frame rfl nofun
  | pollInterrupted here => exact counted.frame rfl nofun
  | panic => exact counted.frame rfl nofun
  | enter loaded active => exact counted.frame rfl fun _ => id
  | leave running => exact counted.frame rfl fun _ => id

/-- The records of a module that wait are of its size. -/
private theorem sized_step {m : Module} {event : Event} (taken : Step e s event t)
    (own : ∀ bytes, event = .submit m.slug bytes → bytes.length = recordSize m)
    (sized : ∀ r ∈ s.rings m.slug, r.bytes.length = recordSize m) :
    ∀ r ∈ t.rings m.slug, r.bytes.length = recordSize m := by
  rcases records_cases taken with ⟨⟨rings, _, _⟩, _, _⟩ | ⟨other, bytes, rfl, rfl⟩ |
    ⟨other, q, rest, _, oldest, rfl⟩
  · rw [rings]
    exact sized
  · by_cases same : other = m.slug
    · subst same
      intro r member
      rw [rings_submit_self] at member
      rcases List.mem_append.mp member with earlier | added
      · exact sized r earlier
      · rw [List.mem_singleton.mp added]
        exact own bytes rfl
    · rw [rings_submit_of_ne fun equal => same equal.symm]
      exact sized
  · by_cases same : m.slug = other
    · subst same
      intro r member
      rw [rings_consume_self] at member
      exact sized r (oldest ▸ List.mem_cons_of_mem _ member)
    · rw [rings_consume_of_ne same]
      exact sized

end Steps

section Runs

variable {e : Endian} {b : Boot} {t : System} {moves : List (Move System Event)} {m : Module}

private theorem counted_of_run (run : Run (Step e) (System.start b) moves t) (slug : String) :
    Counted slug (tally slug moves) t := by
  have start : Accounted (System.start b) ∧ Counted slug (tally slug []) (System.start b) :=
    ⟨⟨nofun, nofun, nofun, fun _ => List.nodup_nil, fun _ => Nat.le_refl _⟩,
      ⟨Nat.le_refl 0, nofun⟩⟩
  have kept := invariant_along (I := fun before s => Accounted s ∧ Counted slug (tally slug before) s)
    (fun before s event t taken held => ?_) run start
  · exact kept.2
  · obtain ⟨accounted, counted⟩ := held
    refine ⟨step_keeps_accounted event taken accounted, ?_⟩
    rw [tally_snoc]
    exact counted_step taken accounted counted

private theorem occupied_eq (run : Run (Step e) (System.start b) moves t)
    (sized : Sized m moves) : occupied t m =
      ((t.rings m.slug).length + t.hooks.count m.slug) * slot (recordSize m) := by
  have each : ∀ r ∈ t.rings m.slug, r.bytes.length = recordSize m :=
    run.invariant_of_moves
      (I := fun s : System => ∀ r ∈ s.rings m.slug, r.bytes.length = recordSize m)
      (fun _ _ _ taken own held => sized_step taken own held) sized nofun
  have slots : ((t.rings m.slug).map fun r => slot r.bytes.length) =
      (t.rings m.slug).map fun _ => slot (recordSize m) :=
    List.map_congr_left fun r member => by rw [each r member]
  rw [occupied, slots, List.map_const', List.sum_replicate_nat, Nat.add_mul]

/-- In every run of the daemon's threads and the hooks: as long as the records of a module that
were submitted since the last complete poll began, and the hooks of the module that run, are no
more than `burst`, every reservation finds room, whatever the other modules submit. -/
theorem reservations_fit (run : Run (Step e) (System.start b) moves t) (sized : Sized m moves)
    (few : backlog m.slug moves + t.hooks.count m.slug ≤ burst m) : Fits t m := by
  have held := (counted_of_run run m.slug).held
  have small : ((t.rings m.slug).length + t.hooks.count m.slug) * slot (recordSize m) ≤
      ringBytes - 1 := by
    calc ((t.rings m.slug).length + t.hooks.count m.slug) * slot (recordSize m)
        ≤ burst m * slot (recordSize m) :=
          Nat.mul_le_mul_right _ (Nat.le_trans (Nat.add_le_add_right held _) few)
      _ ≤ ringBytes - 1 := Nat.div_mul_le_self ..
  rw [Fits, occupied_eq run sized]
  exact Nat.lt_of_le_of_lt small (by decide)

/-- A first alert waits to be read while the hook runs again. -/
theorem reservations_fit_sample : ∃ moves t, Run (Step .little) (System.start guardedBoot) moves t ∧
    backlog "exec_block" moves = 1 ∧ Fits t .execBlock := by
  have loaded : "exec_block" ∈ (boot guardedBoot).activeSkeletons := by decide
  have active : isModuleActive (some ((boot guardedBoot).stateMap "exec_block")) = true := by decide
  have run : Run (Step .little) (System.start guardedBoot) _ _ :=
    .cons (.enter loaded active)
      (.cons (.submit (List.replicate 4100 0) List.mem_cons_self)
        (.cons (.enter loaded active) (.nil _)))
  refine ⟨_, _, run, by decide, reservations_fit run ?_ (by decide)⟩
  intro move member bytes label
  simp only [List.mem_cons, List.not_mem_nil, or_false] at member
  rcases member with rfl | rfl | rfl
  · cases label
  · cases label
    exact List.length_replicate
  · cases label

/-- Sixty blocked renames, or eight thousand blocked mappings. -/
example : Module.all.map burst = [63, 60, 63, 309, 8191, 6553, 6553, 3276, 6553, 6553] := by
  decide

end Runs

end BouclierBleu.Daemon.RingRoom
