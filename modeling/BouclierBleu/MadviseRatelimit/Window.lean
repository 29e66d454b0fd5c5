/- GID: BouclierBleu/MadviseRatelimit/Window
   source: bpf/madvise_ratelimit.bpf.c
   digest: Runs of madvise calls, and what one call does to the trackers of all users. -/

import BouclierBleu.Library.Trace
import BouclierBleu.MadviseRatelimit.Hook

set_option autoImplicit false
set_option relaxedAutoImplicit false

namespace BouclierBleu.MadviseRatelimit.Window

open BouclierBleu.Kernel.AlertStructs (MadviseAlert)
open BouclierBleu.Kernel.ModuleCore (isModuleActive SIGKILL Outcome Task)
open BouclierBleu.Library.BoundedMaps (BoundedMap)
open BouclierBleu.Library.Trace (Run)
open BouclierBleu.MadviseRatelimit.Hook

/-- What a counted call does to the tracker of its user, and the count of which it dies. -/
def visit (entry : Option Tracker) (delivered : Bool) (now : UInt64) : Tracker × Option UInt32 :=
  match entry with
  | none => (⟨now, 1⟩, none)
  | some state =>
    if now - state.windowStart > RATELIMIT_WINDOW_NS then (⟨now, 1⟩, none)
    else if (state.count + 1).toUInt64 > RATELIMIT_THRESHOLD then
      (⟨state.windowStart, if delivered then 0 else state.count + 1⟩, some (state.count + 1))
    else (⟨state.windowStart, state.count + 1⟩, none)

/-- What a visit does: the window opens, its count goes up, or it goes above the threshold. -/
theorem visit_cases {entry : Option Tracker} {delivered : Bool} {now : UInt64}
    (opened : ∀ state, entry = some state → state.windowStart ≤ now) :
    ((∀ state, entry = some state →
        state.windowStart.toNat + RATELIMIT_WINDOW_NS.toNat < now.toNat) ∧
        visit entry delivered now = (⟨now, 1⟩, none)) ∨
      ∃ state, entry = some state ∧
        now.toNat ≤ state.windowStart.toNat + RATELIMIT_WINDOW_NS.toNat ∧
        (((state.count + 1).toNat ≤ RATELIMIT_THRESHOLD.toNat ∧
            visit entry delivered now = (⟨state.windowStart, state.count + 1⟩, none)) ∨
          (RATELIMIT_THRESHOLD.toNat < (state.count + 1).toNat ∧
            visit entry delivered now =
              (⟨state.windowStart, if delivered then 0 else state.count + 1⟩,
                some (state.count + 1)))) := by
  cases entry with
  | none => exact .inl ⟨fun _ absent => (nomatch absent), rfl⟩
  | some state =>
    have since := UInt64.toNat_sub_of_le now state.windowStart (opened state rfl)
    have expired_iff : now - state.windowStart > RATELIMIT_WINDOW_NS ↔
        state.windowStart.toNat + RATELIMIT_WINDOW_NS.toNat < now.toNat := by
      rw [gt_iff_lt, UInt64.lt_iff_toNat_lt, since]
      omega
    have above_iff : (state.count + 1).toUInt64 > RATELIMIT_THRESHOLD ↔
        RATELIMIT_THRESHOLD.toNat < (state.count + 1).toNat := by
      rw [gt_iff_lt, UInt64.lt_iff_toNat_lt, UInt32.toNat_toUInt64]
    by_cases expired : now - state.windowStart > RATELIMIT_WINDOW_NS
    · refine .inl ⟨?_, if_pos expired⟩
      intro other same
      cases same
      exact expired_iff.mp expired
    · refine .inr ⟨state, rfl, Nat.le_of_not_lt (mt expired_iff.mpr expired), ?_⟩
      by_cases above : (state.count + 1).toUInt64 > RATELIMIT_THRESHOLD
      · exact .inr ⟨above_iff.mp above, (if_neg expired).trans (if_pos above)⟩
      · exact .inl ⟨Nat.le_of_not_lt (mt above_iff.mpr above),
          (if_neg expired).trans (if_neg above)⟩

/-- A call as the tracepoint sees it, with what the kernel does meanwhile. -/
structure Call where
  task : Task
  behavior : Int
  now : UInt64
  reserved : Bool
  delivered : Bool
  pick : Nat

/-- The hook counts the call. -/
def Call.counted (call : Call) (maps : Maps) : Bool :=
  isModuleActive maps.stateMap && call.behavior == MADV_DONTNEED

def Call.handled (call : Call) (maps : Maps) : Maps × Outcome MadviseAlert :=
  madviseRatelimitSysEnter maps call.reserved call.delivered call.pick call.task call.behavior
    call.now

/-- The tracker is written through the pointer, or stored when the lookup found none. -/
def record (pick : Nat) (map : TrackingMap) (uid : UInt32) (tracker : Tracker) : TrackingMap :=
  match map.lookup uid with
  | none => (map.update pick uid tracker).getD map
  | some _ => writeThrough map uid tracker

def answer (call : Call) : Option UInt32 → Outcome MadviseAlert
  | none => .quiet 0
  | some count => ⟨0, dispatchMadviseAlert call.reserved call.task count,
      if call.delivered then [SIGKILL] else []⟩

section Record

variable {map : TrackingMap} {pick : Nat} {uid other : UInt32} {tracker found : Tracker}

theorem lookup_record_self (evicts : map.policy = madviseTrackingType) :
    (record pick map uid tracker).lookup uid = some tracker := by
  rw [record]
  cases present : map.lookup uid with
  | some old => rw [lookup_writeThrough present, if_pos rfl]
  | none =>
    obtain ⟨map', stored⟩ : ∃ map', map.update pick uid tracker = some map' := by
      refine Option.ne_none_iff_exists'.mp ?_
      intro refused
      rw [(BoundedMap.update_eq_none.mp refused).1] at evicts
      cases evicts
    rw [stored, Option.getD_some]
    exact BoundedMap.lookup_update_self stored

/-- No other user gets a tracker. -/
theorem lookup_of_record (differs : other ≠ uid)
    (held : (record pick map uid tracker).lookup other = some found) :
    map.lookup other = some found := by
  rw [record] at held
  cases present : map.lookup uid with
  | some old =>
    rw [present] at held
    rwa [lookup_writeThrough present, if_neg differs] at held
  | none =>
    rw [present] at held
    cases stored : map.update pick uid tracker with
    | none => rwa [stored] at held
    | some map' =>
      rw [stored, Option.getD_some] at held
      exact BoundedMap.lookup_of_update stored differs held

/-- Where there is a tracker or room for one, no other user loses theirs. -/
theorem lookup_record_ne (room : ¬ map.Full ∨ map.lookup uid ≠ none) (differs : other ≠ uid) :
    (record pick map uid tracker).lookup other = map.lookup other := by
  rw [record]
  cases present : map.lookup uid with
  | some old => rw [lookup_writeThrough present, if_neg differs]
  | none =>
    cases stored : map.update pick uid tracker with
    | none => rfl
    | some map' => exact BoundedMap.lookup_update_ne stored (.inr room) differs

theorem policy_record : (record pick map uid tracker).policy = map.policy := by
  have kept (other : Nat) : ((map.update other uid tracker).getD map).policy = map.policy := by
    cases stored : map.update other uid tracker with
    | none => rfl
    | some map' => exact BoundedMap.update_policy stored
  rw [record]
  split
  · exact kept pick
  · exact kept 0

end Record

section Handled

variable {maps : Maps} {call : Call}

theorem handled_of_uncounted (ignored : call.counted maps = false) :
    call.handled maps = (maps, .quiet 0) := by
  rw [Call.handled, madviseRatelimitSysEnter]
  cases active : isModuleActive maps.stateMap with
  | false => rfl
  | true =>
    rw [Call.counted, active, Bool.true_and] at ignored
    rw [if_neg (by decide), if_pos (by rw [bne, ignored]; rfl)]

theorem handled_of_counted (counted : call.counted maps = true) :
    call.handled maps =
      let uid := call.task.getGlobalUid
      let (tracker, sent) := visit (maps.madviseTrackingMap.lookup uid) call.delivered call.now
      ({ maps with madviseTrackingMap := record call.pick maps.madviseTrackingMap uid tracker },
        answer call sent) := by
  rw [Call.counted, Bool.and_eq_true] at counted
  rw [Call.handled, madviseRatelimitSysEnter, if_neg (by rw [counted.1]; decide),
    if_neg (by rw [bne, counted.2]; decide)]
  cases found : maps.madviseTrackingMap.lookup call.task.getGlobalUid with
  | none => simp only [found, record, visit, answer]
  | some state =>
    simp only [found, record, visit]
    split
    · rfl
    · split <;> rfl

end Handled

/-- The count with which a `SIGKILL` is sent, whether it is delivered or not: the one an alert
reports if there is room for it. -/
def Call.sent (call : Call) (maps : Maps) : Option UInt32 :=
  ({ call with reserved := true }.handled maps).2.alerts.head?.map MadviseAlert.count

/-- A call that was made: its place among all calls, and what came of it. -/
structure Made where
  number : Nat
  uid : UInt32
  behavior : Int
  instant : Nat
  counted : Bool
  sent : Option UInt32
  killed : Bool
  deriving DecidableEq

/-- `log` has the calls made so far, newest first. -/
structure State where
  maps : Maps
  clock : UInt64
  log : List Made

namespace State

def made (s : State) (call : Call) : Made :=
  ⟨s.log.length, call.task.getGlobalUid, call.behavior, call.now.toNat, call.counted s.maps,
    call.sent s.maps, decide (call.handled s.maps).2.Killed⟩

def make (s : State) (call : Call) : State :=
  ⟨(call.handled s.maps).1, call.now, s.made call :: s.log⟩

def tracker (s : State) (uid : UInt32) : Option Tracker := s.maps.madviseTrackingMap.lookup uid

end State

/-- Calls come one after another at non-decreasing timestamps, and the module is switched on and
off in between. -/
inductive Event
  | call (call : Call)
  | toggle (stateMap : Option UInt32)

inductive Step : State → Event → State → Prop
  | call {s : State} {call : Call} (later : s.clock ≤ call.now) :
      Step s (.call call) (s.make call)
  | toggle {s : State} {stateMap : Option UInt32} :
      Step s (.toggle stateMap) { s with maps := { s.maps with stateMap := stateMap } }

/-- The tracking map is empty right after the program is loaded. -/
structure Start (s : State) : Prop where
  empty : ∀ uid, s.tracker uid = none
  evicts : s.maps.madviseTrackingMap.policy = madviseTrackingType
  log : s.log = []

section Made

variable {s : State} {call : Call}

theorem sent_of_uncounted {maps : Maps} (ignored : call.counted maps = false) :
    call.sent maps = none := by
  have same : ({ call with reserved := true } : Call).counted maps = false := ignored
  rw [Call.sent, handled_of_uncounted same]
  rfl

theorem sent_of_counted {maps : Maps} (counted : call.counted maps = true) :
    call.sent maps = (visit (maps.madviseTrackingMap.lookup call.task.getGlobalUid)
      call.delivered call.now).2 := by
  have same : ({ call with reserved := true } : Call).counted maps = true := counted
  rw [Call.sent, handled_of_counted same]
  dsimp only
  cases (visit (maps.madviseTrackingMap.lookup call.task.getGlobalUid) call.delivered
    call.now).2 <;> rfl

theorem killed_answer (sent : Option UInt32) :
    (answer call sent).Killed ↔ call.delivered = true ∧ sent.isSome = true := by
  cases sent with
  | none => simp [answer]
  | some count => cases delivered : call.delivered <;> simp [answer, Outcome.Killed, delivered]

/-- A call dies exactly if the signal is delivered. -/
theorem killed_iff {maps : Maps} :
    (call.handled maps).2.Killed ↔ call.delivered = true ∧ (call.sent maps).isSome = true := by
  cases counted : call.counted maps with
  | false => simp [sent_of_uncounted counted, handled_of_uncounted counted]
  | true =>
    rw [sent_of_counted counted, handled_of_counted counted]
    exact killed_answer _

theorem make_of_uncounted (ignored : call.counted s.maps = false) : (s.make call).maps = s.maps :=
  congrArg Prod.fst (handled_of_uncounted ignored)

theorem tracker_make_self (evicts : s.maps.madviseTrackingMap.policy = madviseTrackingType)
    (counted : call.counted s.maps = true) :
    (s.make call).tracker call.task.getGlobalUid =
      some (visit (s.tracker call.task.getGlobalUid) call.delivered call.now).1 := by
  rw [State.make, State.tracker, handled_of_counted counted]
  exact lookup_record_self evicts

/-- A call invents no tracker of another user. -/
theorem tracker_of_make {uid : UInt32} {found : Tracker} (differs : uid ≠ call.task.getGlobalUid)
    (held : (s.make call).tracker uid = some found) : s.tracker uid = some found := by
  cases counted : call.counted s.maps with
  | false =>
    rw [State.tracker, make_of_uncounted counted] at held
    exact held
  | true =>
    rw [State.make, State.tracker, handled_of_counted counted] at held
    exact lookup_of_record differs held

theorem evicts_make (evicts : s.maps.madviseTrackingMap.policy = madviseTrackingType) :
    (s.make call).maps.madviseTrackingMap.policy = madviseTrackingType := by
  cases counted : call.counted s.maps with
  | false =>
    rw [make_of_uncounted counted]
    exact evicts
  | true =>
    rw [State.make, handled_of_counted counted]
    exact policy_record.trans evicts

end Made

section Burst

/-- The same call some number of times. -/
def State.burst (s : State) (call : Call) : Nat → State
  | 0 => s
  | n + 1 => (s.burst call n).make call

/-- A call counts in a window that is open at its timestamp. -/
structure Counting (s : State) (call : Call) (tracker : Tracker) : Prop where
  counted : call.counted s.maps = true
  evicts : s.maps.madviseTrackingMap.policy = madviseTrackingType
  found : s.tracker call.task.getGlobalUid = some tracker
  opened : tracker.windowStart ≤ call.now
  inside : call.now.toNat ≤ tracker.windowStart.toNat + RATELIMIT_WINDOW_NS.toNat
  past : s.clock ≤ call.now

variable {s : State} {call : Call} {tracker : Tracker}

/-- Below the threshold the count goes up. -/
theorem Counting.make (counting : Counting s call tracker) (few : tracker.count.toNat < 10000) :
    Counting (s.make call) call ⟨tracker.windowStart, tracker.count + 1⟩ ∧
      (s.made call).killed = false := by
  have grown : (tracker.count + 1).toNat ≤ RATELIMIT_THRESHOLD.toNat := by
    rw [UInt32.toNat_add]
    exact Nat.le_trans (Nat.mod_le _ _) few
  have shape : visit (some tracker) call.delivered call.now =
      (⟨tracker.windowStart, tracker.count + 1⟩, none) := by
    have opened : ∀ state, some tracker = some state → state.windowStart ≤ call.now := by
      rintro _ ⟨⟩
      exact counting.opened
    rcases visit_cases opened with ⟨lapsed, _⟩ | ⟨_, ⟨⟩, _, ⟨_, shape⟩ | ⟨above, _⟩⟩
    · exact absurd counting.inside (Nat.not_le_of_lt (lapsed tracker rfl))
    · exact shape
    · exact absurd grown (Nat.not_le_of_lt above)
  have found : s.maps.madviseTrackingMap.lookup call.task.getGlobalUid = some tracker :=
    counting.found
  refine ⟨⟨?_, evicts_make counting.evicts, ?_, counting.opened, counting.inside,
    UInt64.le_refl _⟩, ?_⟩
  · rw [State.make, handled_of_counted counting.counted]
    exact counting.counted
  · rw [tracker_make_self counting.evicts counting.counted, counting.found, shape]
  · refine decide_eq_false ?_
    rw [killed_iff, sent_of_counted counting.counted, found, shape]
    simp

/-- The timestamps of the hints of a user, newest first. -/
def instants (log : List Made) (uid : UInt32) : List Nat :=
  (log.filter fun m => m.behavior == MADV_DONTNEED && m.uid == uid).map Made.instant

/-- And of the user's calls that were killed. -/
def kills (log : List Made) (uid : UInt32) : List Nat :=
  (log.filter fun m => m.killed && m.uid == uid).map Made.instant

/-- So many calls at once as the threshold allows are all counted and none is killed. -/
theorem Counting.burst (counting : Counting s call tracker) (n : Nat)
    (few : tracker.count.toNat + n ≤ 10000) :
    Counting (s.burst call n) call ⟨tracker.windowStart, tracker.count + UInt32.ofNat n⟩ ∧
      instants (s.burst call n).log call.task.getGlobalUid =
        List.replicate n call.now.toNat ++ instants s.log call.task.getGlobalUid ∧
      kills (s.burst call n).log call.task.getGlobalUid = kills s.log call.task.getGlobalUid := by
  induction n with
  | zero =>
    have same : tracker.count + UInt32.ofNat 0 = tracker.count := UInt32.add_zero _
    rw [same]
    exact ⟨counting, rfl, rfl⟩
  | succ n ih =>
    obtain ⟨before, times, deaths⟩ := ih (by omega)
    have below : (tracker.count + UInt32.ofNat n).toNat < 10000 := by
      rw [UInt32.toNat_add, UInt32.toNat_ofNat']
      omega
    obtain ⟨after, spared⟩ := before.make below
    have same : tracker.count + UInt32.ofNat n + 1 = tracker.count + UInt32.ofNat (n + 1) := by
      rw [UInt32.ofNat_add, UInt32.add_assoc]
      rfl
    rw [same] at after
    have hinted : (((s.burst call n).made call).behavior == MADV_DONTNEED &&
        ((s.burst call n).made call).uid == call.task.getGlobalUid) = true := by
      rw [Bool.and_eq_true]
      exact ⟨(Bool.and_eq_true_iff.mp before.counted).2, beq_self_eq_true _⟩
    refine ⟨after, ?_, ?_⟩
    · rw [List.replicate_succ, List.cons_append, ← times]
      exact congrArg (List.map Made.instant) (List.filter_cons_of_pos hinted)
    · rw [← deaths]
      exact congrArg (List.map Made.instant)
        (List.filter_cons_of_neg (by rw [spared, Bool.false_and]; exact Bool.false_ne_true))

/-- They are steps of any relation that lets such a call happen. -/
theorem Counting.run_burst {E : Type} {step : State → E → State → Prop} {e : E}
    (takes : ∀ s tracker, Counting s call tracker → step s e (s.make call))
    (counting : Counting s call tracker) (n : Nat) (few : tracker.count.toNat + n ≤ 10000) :
    ∃ moves, Run step s moves (s.burst call n) := by
  induction n with
  | zero => exact ⟨[], .nil s⟩
  | succ n ih =>
    obtain ⟨moves, run⟩ := ih (by omega)
    exact ⟨_, run.snoc (takes _ _ (counting.burst n (by omega)).1)⟩

end Burst

section Sample

/-- The module is on, and no user has a tracker. -/
def loaded : State :=
  ⟨⟨some 1, .empty madviseTrackingType 8192 madviseTrackingMax_pos⟩, 0, []⟩

/-- User 1000 drops a page. -/
def hintAt (now : UInt64) : Call := ⟨⟨0, 1000, none⟩, MADV_DONTNEED, now, true, true, 0⟩

theorem start_loaded : Start loaded := ⟨fun _ => rfl, rfl, rfl⟩

/-- The first call opens the window. -/
theorem counting_loaded : Counting (loaded.make (hintAt 0)) (hintAt 0) ⟨0, 1⟩ :=
  ⟨by decide, rfl, by decide, by decide, by decide, by decide⟩

end Sample

end BouclierBleu.MadviseRatelimit.Window
