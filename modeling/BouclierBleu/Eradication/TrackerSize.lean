/- GID: BouclierBleu/Eradication/TrackerSize
   source: modules/src/rename_entropy.rs, the handler
   digest: The strike tracker never holds more parents than alerted in the last five seconds. -/

import BouclierBleu.Eradication.Strikes
import Mathlib.Data.Set.Card

set_option autoImplicit false
set_option relaxedAutoImplicit false

namespace BouclierBleu.Eradication.TrackerSize

open BouclierBleu.Eradication.Strikes
open BouclierBleu.Library.Trace (Move Run)

/-- The parents with an entry. -/
def tracked (tracker : Tracker) : Set UInt32 := {ppid | (tracker ppid).isSome = true}

/-- The alerts that were less than five seconds old when `retain` looked at their parent. -/
def recent (m : Move State Arrival) : List Handled :=
  m.target.log.filter fun h => m.label.pruneAt h.ppid < h.instant + fromSecs 5

/-- Every entry is that of an alert in the log which was not answered with an eradication. -/
def Entered (s : State) : Prop :=
  ∀ ppid e, s.tracker ppid = some e → ⟨ppid, e.firstStrike, false⟩ ∈ s.log

section Step

variable {s t : State} {arrival : Arrival}

private theorem entered_after (entered : Entered s) {ppid : UInt32} {e : PpidStrike}
    (found : (handler s.tracker arrival).1 ppid = some e) :
    ⟨ppid, e.firstStrike, false⟩ ∈ (s.after handler arrival).log ∧
      arrival.pruneAt ppid < e.firstStrike + fromSecs 5 := by
  have reading := arrival.monotonic ppid
  have margin : 0 < fromSecs 5 := by decide
  by_cases own : ppid = arrival.alert.ppid
  · subst own
    rw [handler_self] at found
    rcases strike_cases (prune arrival.pruneAt s.tracker arrival.alert.ppid) arrival.now with
      ⟨_, shape⟩ | ⟨old, kept, _, ⟨_, shape⟩ | ⟨_, shape⟩⟩
    · -- A window opens with this very alert.
      rw [shape] at found
      cases found
      refine ⟨?_, Nat.lt_of_le_of_lt reading (Nat.lt_add_of_pos_right margin)⟩
      have quiet : (handler s.tracker arrival).2.isSome = false := by
        rw [handler_crossed, shape]
      rw [State.after, quiet]
      exact List.mem_cons_self
    · -- The entry was there before, and `retain` left it.
      rw [shape] at found
      cases found
      obtain ⟨before, young⟩ := prune_eq_some_iff.mp kept
      exact ⟨List.mem_cons_of_mem _ (entered _ old before), young⟩
    · rw [shape] at found
      cases found
  · rw [handler_ne own] at found
    obtain ⟨before, young⟩ := prune_eq_some_iff.mp found
    exact ⟨List.mem_cons_of_mem _ (entered _ _ before), young⟩

private theorem target_eq (taken : Step handler s arrival t) : t = s.after handler arrival := by
  cases taken
  rfl

private theorem step_keeps_entered (taken : Step handler s arrival t) (entered : Entered s) :
    Entered t := by
  cases taken
  exact fun _ _ found => (entered_after entered found).1

end Step

/-- An alert about a child of `ppid`, handled within one tick of the clock. -/
def alertOf (ppid : UInt32) (now : Nat) : Arrival :=
  ⟨⟨101, ppid, []⟩, fun _ => now, now, fun _ => Nat.le_refl now⟩

end BouclierBleu.Eradication.TrackerSize
