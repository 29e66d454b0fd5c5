/- GID: BouclierBleu/Eradication/Strikes
   source: modules/src/rename_entropy.rs, the strike tracker and the handler
   digest: How the handler of the entropy alerts counts the strikes of a parent process. -/

import BouclierBleu.Library.AnchoredWindows
import BouclierBleu.Library.Trace
import BouclierBleu.Telemetry.Parsers
import Mathlib.Logic.Function.Basic

set_option autoImplicit false
set_option relaxedAutoImplicit false

namespace BouclierBleu.Eradication.Strikes

open BouclierBleu.Library.AnchoredWindows (countedFrom Tracks)
open BouclierBleu.Telemetry.Parsers (RenameAlert)

/-- `Duration::from_secs`; durations and instants are in nanoseconds. -/
def fromSecs (seconds : Nat) : Nat := seconds * 1000000000

structure PpidStrike where
  count : Nat
  firstStrike : Nat
  deriving DecidableEq

/-- What `STRIKE_TRACKER` guards. -/
abbrev Tracker := UInt32 → Option PpidStrike

def Tracker.new : Tracker := fun _ => none

/-- An invocation of the handler: the alert, what the clock shows when `retain` looks at the
entry of each parent, and what it shows afterwards. -/
structure Arrival where
  alert : RenameAlert
  pruneAt : UInt32 → Nat
  now : Nat
  monotonic : ∀ ppid, pruneAt ppid ≤ now

/-- `tracker.retain` -/
def prune (pruneAt : UInt32 → Nat) (tracker : Tracker) : Tracker := fun ppid =>
  (tracker ppid).filter fun strike => pruneAt ppid - strike.firstStrike < fromSecs 5

/-- The entry of the alert's parent from `entry` and `or_insert` on: what is left of it, and
whether it reached three strikes. -/
def strike (entry : Option PpidStrike) (now : Nat) : Option PpidStrike × Bool :=
  let strike := entry.getD ⟨0, now⟩
  if now - strike.firstStrike > fromSecs 2 then (some ⟨1, now⟩, false)
  else if strike.count + 1 ≥ 3 then (none, true)
  else (some { strike with count := strike.count + 1 }, false)

/-- The handler behind `retain`, with the parent it passes to `neutralize_threat_tree`. -/
def correlate (tracker : Tracker) (ppid : UInt32) (now : Nat) : Tracker × Option UInt32 :=
  let (entry, crossed) := strike (tracker ppid) now
  (Function.update tracker ppid entry, if crossed then some ppid else none)

def handler (tracker : Tracker) (arrival : Arrival) : Tracker × Option UInt32 :=
  correlate (prune arrival.pruneAt tracker) arrival.alert.ppid arrival.now

section Entries

variable {entry : Option PpidStrike} {now : Nat}

/-- Without an entry, or with an expired one, a window opens. -/
theorem strike_of_lapsed (lapsed : ∀ old, entry = some old → old.firstStrike + fromSecs 2 < now) :
    strike entry now = (some ⟨1, now⟩, false) := by
  cases entry with
  | none => simp [strike]
  | some old => exact if_pos (Nat.lt_sub_iff_add_lt'.mpr (lapsed old rfl))

/-- In an open window the count goes up, to the third strike. -/
theorem strike_of_open {old : PpidStrike} (alive : now ≤ old.firstStrike + fromSecs 2) :
    strike (some old) now =
      if 2 ≤ old.count then (none, true)
      else (some ⟨old.count + 1, old.firstStrike⟩, false) := by
  have fresh : ¬ now - old.firstStrike > fromSecs 2 := by
    rw [gt_iff_lt, Nat.lt_sub_iff_add_lt', Nat.not_lt]
    exact alive
  rw [strike, Option.getD_some, if_neg fresh]
  exact if_congr Nat.succ_le_succ_iff rfl rfl

/-- What becomes of an entry: a window opens, its count goes up, or it has its third strike. -/
theorem strike_cases (entry : Option PpidStrike) (now : Nat) :
    ((∀ old, entry = some old → old.firstStrike + fromSecs 2 < now) ∧
        strike entry now = (some ⟨1, now⟩, false)) ∨
      ∃ old, entry = some old ∧ now ≤ old.firstStrike + fromSecs 2 ∧
        ((old.count < 2 ∧ strike entry now = (some ⟨old.count + 1, old.firstStrike⟩, false)) ∨
          (2 ≤ old.count ∧ strike entry now = (none, true))) := by
  by_cases lapsed : ∀ old, entry = some old → old.firstStrike + fromSecs 2 < now
  · exact .inl ⟨lapsed, strike_of_lapsed lapsed⟩
  · push Not at lapsed
    obtain ⟨old, found, alive⟩ := lapsed
    refine .inr ⟨old, found, alive, ?_⟩
    rw [found, strike_of_open alive]
    by_cases third : 2 ≤ old.count
    · exact .inr ⟨third, if_pos third⟩
    · exact .inl ⟨Nat.lt_of_not_le third, if_neg third⟩

theorem strike_crossed_iff : (strike entry now).2 = true ↔
    ∃ old, entry = some old ∧ now ≤ old.firstStrike + fromSecs 2 ∧ 2 ≤ old.count := by
  rcases strike_cases entry now with ⟨lapsed, shape⟩ |
    ⟨old, found, alive, ⟨few, shape⟩ | ⟨third, shape⟩⟩
  · rw [shape]
    refine iff_of_false Bool.false_ne_true ?_
    rintro ⟨old, found, alive, _⟩
    exact Nat.not_lt.mpr alive (lapsed old found)
  · rw [shape]
    refine iff_of_false Bool.false_ne_true ?_
    rintro ⟨other, same, _, third⟩
    rw [found] at same
    cases same
    omega
  · rw [shape]
    exact iff_of_true rfl ⟨old, found, alive, third⟩

end Entries

section Handler

variable {tracker : Tracker} {arrival : Arrival} {ppid : UInt32}

theorem prune_eq_some_iff {pruneAt : UInt32 → Nat} {entry : PpidStrike} :
    prune pruneAt tracker ppid = some entry ↔
      tracker ppid = some entry ∧ pruneAt ppid < entry.firstStrike + fromSecs 5 := by
  rw [prune, Option.filter_eq_some_iff, decide_eq_true_eq]
  have positive : 0 < fromSecs 5 := by decide
  exact and_congr_right fun _ => by omega

/-- What `retain` drops is older than five seconds. -/
theorem expired_of_pruned {pruneAt : UInt32 → Nat} {old : PpidStrike}
    (found : tracker ppid = some old) (gone : prune pruneAt tracker ppid = none) :
    old.firstStrike + fromSecs 5 ≤ pruneAt ppid := by
  by_contra recent
  rw [prune_eq_some_iff.mpr ⟨found, Nat.lt_of_not_le recent⟩] at gone
  cases gone

/-- An entry that has not expired is not pruned. -/
theorem prune_of_alive {old : PpidStrike} (found : tracker ppid = some old)
    (alive : arrival.now ≤ old.firstStrike + fromSecs 2) :
    prune arrival.pruneAt tracker ppid = some old := by
  refine prune_eq_some_iff.mpr ⟨found, ?_⟩
  have reading := arrival.monotonic ppid
  have longer : fromSecs 2 < fromSecs 5 := by decide
  omega

@[simp] theorem handler_self (tracker : Tracker) (arrival : Arrival) :
    (handler tracker arrival).1 arrival.alert.ppid =
      (strike (prune arrival.pruneAt tracker arrival.alert.ppid) arrival.now).1 :=
  Function.update_self _ _ _

theorem handler_ne (other : ppid ≠ arrival.alert.ppid) :
    (handler tracker arrival).1 ppid = prune arrival.pruneAt tracker ppid :=
  Function.update_of_ne other _ _

theorem handler_snd (tracker : Tracker) (arrival : Arrival) :
    (handler tracker arrival).2 =
      if (strike (prune arrival.pruneAt tracker arrival.alert.ppid) arrival.now).2 then
        some arrival.alert.ppid
      else none := rfl

theorem handler_crossed (tracker : Tracker) (arrival : Arrival) :
    (handler tracker arrival).2.isSome =
      (strike (prune arrival.pruneAt tracker arrival.alert.ppid) arrival.now).2 := by
  rw [handler_snd]
  cases (strike (prune arrival.pruneAt tracker arrival.alert.ppid) arrival.now).2 <;> rfl

/-- The handler calls `neutralize_threat_tree` exactly when the window of the alert's parent is
open and has counted two strikes. -/
theorem handler_eradicates_iff : (handler tracker arrival).2.isSome = true ↔
    ∃ old, tracker arrival.alert.ppid = some old ∧
      arrival.now ≤ old.firstStrike + fromSecs 2 ∧ 2 ≤ old.count := by
  rw [handler_crossed, strike_crossed_iff]
  constructor
  · rintro ⟨old, kept, alive, third⟩
    exact ⟨old, (prune_eq_some_iff.mp kept).1, alive, third⟩
  · rintro ⟨old, found, alive, third⟩
    exact ⟨old, prune_of_alive found alive, alive, third⟩

end Handler

/-- An alert the handler has dealt with, and whether it was answered with an eradication. -/
structure Handled where
  ppid : UInt32
  instant : Nat
  eradicated : Bool
  deriving DecidableEq

/-- The tracker between two alerts, with the time of the last one and, newest first, a log of all
that nothing reads. -/
structure State where
  tracker : Tracker
  clock : Nat
  log : List Handled

def State.start : State := ⟨.new, 0, []⟩

/-- A way to handle alerts. -/
abbrev Reaction := Tracker → Arrival → Tracker × Option UInt32

def State.after (react : Reaction) (s : State) (arrival : Arrival) : State where
  tracker := (react s.tracker arrival).1
  clock := arrival.now
  log := ⟨arrival.alert.ppid, arrival.now, (react s.tracker arrival).2.isSome⟩ :: s.log

/-- Alerts arrive at non-decreasing instants. -/
inductive Step (react : Reaction) : State → Arrival → State → Prop
  | handle {s : State} {arrival : Arrival} (later : s.clock ≤ arrival.now) :
      Step react s arrival (s.after react arrival)

/-- The instants of a parent's alerts since its last eradication, newest first. -/
def sinceEradication (log : List Handled) (ppid : UInt32) : List Nat :=
  ((log.filter fun h => h.ppid = ppid).takeWhile fun h => !h.eradicated).map Handled.instant

section Log

variable {log : List Handled} {ppid : UInt32} {now : Nat}

theorem sinceEradication_other {h : Handled} (other : ppid ≠ h.ppid) :
    sinceEradication (h :: log) ppid = sinceEradication log ppid := by
  rw [sinceEradication, List.filter_cons_of_neg (by simpa using other.symm), sinceEradication]

theorem sinceEradication_struck :
    sinceEradication (⟨ppid, now, false⟩ :: log) ppid = now :: sinceEradication log ppid := by
  simp [sinceEradication]

theorem sinceEradication_eradicated :
    sinceEradication (⟨ppid, now, true⟩ :: log) ppid = [] := by
  simp [sinceEradication]

theorem sinceEradication_cons_self (crossed : Bool) :
    sinceEradication (⟨ppid, now, crossed⟩ :: log) ppid =
      if crossed then [] else now :: sinceEradication log ppid := by
  cases crossed with
  | false => exact sinceEradication_struck
  | true => exact sinceEradication_eradicated

end Log

/-- How the entry of a parent relates to its alerts since the last eradication: its window
counts them, and without an entry they are all too old to matter. -/
structure Fits (clock : Nat) (entry : Option PpidStrike) (since : List Nat) : Prop where
  past : ∀ t ∈ since, t ≤ clock
  held : ∀ e, entry = some e → Tracks (fromSecs 2) e.firstStrike e.count since ∧
    e.firstStrike ≤ clock ∧ (e.count = 1 ∨ e.count = 2)
  absent : entry = none → ∀ t ∈ since, t + fromSecs 2 < clock

section Fits

variable {clock now : Nat} {entry : Option PpidStrike} {since : List Nat}

/-- The entry after `retain`. -/
theorem Fits.prune {tracker : Tracker} {ppid : UInt32} {pruneAt : UInt32 → Nat}
    (fits : Fits clock (tracker ppid) since) (later : clock ≤ now) (reading : pruneAt ppid ≤ now) :
    Fits now (prune pruneAt tracker ppid) since where
  past t member := Nat.le_trans (fits.past t member) later
  held := by
    intro e kept
    obtain ⟨tracks, opened, count⟩ := fits.held e (prune_eq_some_iff.mp kept).1
    exact ⟨tracks, Nat.le_trans opened later, count⟩
  absent := by
    intro gone t member
    cases found : tracker ppid with
    | none =>
      have old := fits.absent found t member
      omega
    | some e =>
      have dropped := expired_of_pruned found gone
      have within := (fits.held e found).1.within t member
      have margin : fromSecs 2 + fromSecs 2 < fromSecs 5 := by decide
      omega

/-- The entry after the alert of an instant. -/
theorem Fits.strike (fits : Fits now entry since) :
    Fits now (strike entry now).1 (if (strike entry now).2 then [] else now :: since) := by
  have past : ∀ t ∈ now :: since, t ≤ now := by
    intro t member
    rcases List.mem_cons.mp member with rfl | old
    · exact Nat.le_refl _
    · exact fits.past t old
  rcases strike_cases entry now with ⟨lapsed, shape⟩ |
    ⟨old, found, alive, ⟨few, shape⟩ | ⟨third, shape⟩⟩
  · rw [shape, if_neg Bool.false_ne_true]
    have earlier : ∀ t ∈ since, t < now := by
      cases found : entry with
      | none =>
        intro t member
        have gone := fits.absent found t member
        omega
      | some old => exact (fits.held old found).1.earlier (lapsed old found)
    refine ⟨past, ?_, ?_⟩
    · intro e same
      cases same
      exact ⟨.opening earlier, Nat.le_refl _, .inl rfl⟩
    · intro absent
      cases absent
  · rw [shape, if_neg Bool.false_ne_true]
    obtain ⟨tracks, opened, count⟩ := fits.held old found
    refine ⟨past, ?_, ?_⟩
    · intro e same
      cases same
      refine ⟨tracks.push opened alive, opened, .inr ?_⟩
      change old.count + 1 = 2
      omega
    · intro absent
      cases absent
  · rw [shape, if_pos rfl]
    refine ⟨?_, ?_, ?_⟩
    · intro t member
      cases member
    · intro e same
      cases same
    · intro _ t member
      cases member

end Fits

/-- Every entry relates so to the log. -/
def Sound (s : State) : Prop :=
  ∀ ppid, Fits s.clock (s.tracker ppid) (sinceEradication s.log ppid)

/-- Whatever was logged lies before the next alert. -/
theorem Sound.past {s : State} (sound : Sound s) (ppid : UInt32) {now : Nat}
    (later : s.clock ≤ now) : ∀ t ∈ sinceEradication s.log ppid, t ≤ now :=
  fun t member => Nat.le_trans ((sound ppid).past t member) later

theorem sound_start : Sound State.start := by
  intro ppid
  refine ⟨?_, ?_, ?_⟩
  · intro t member
    cases member
  · intro e found
    cases found
  · intro _ t member
    cases member

theorem step_keeps_sound {s t : State} {arrival : Arrival} (taken : Step handler s arrival t)
    (sound : Sound s) : Sound t := by
  cases taken with
  | handle later =>
    intro ppid
    have pruned := (sound ppid).prune later (arrival.monotonic ppid)
    by_cases same : ppid = arrival.alert.ppid
    · subst same
      have struck := pruned.strike
      rw [← handler_self, ← handler_crossed, ← sinceEradication_cons_self] at struck
      exact struck
    · have unseen : sinceEradication (s.after handler arrival).log ppid =
          sinceEradication s.log ppid := sinceEradication_other same
      rw [← handler_ne same, ← unseen] at pruned
      exact pruned

end BouclierBleu.Eradication.Strikes
