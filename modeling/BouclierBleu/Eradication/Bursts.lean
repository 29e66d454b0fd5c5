/- GID: BouclierBleu/Eradication/Bursts
   source: modules/src/rename_entropy.rs, the handler
   digest: Three alerts of one parent within two seconds, and the bursts the tracker misses. -/

import BouclierBleu.Eradication.Strikes

set_option autoImplicit false
set_option relaxedAutoImplicit false

namespace BouclierBleu.Eradication.Bursts

open BouclierBleu.Eradication.Strikes
open BouclierBleu.Library.AnchoredWindows
  (Answered Pending pending answered_nil_iff pending_nil_iff)
open BouclierBleu.Library.Trace (Move Run)

/-- Of a parent's alerts since its last eradication, no three lie within two seconds. -/
def NoMissedBurst (s : State) : Prop :=
  ∀ ppid first last, last ≤ first + fromSecs 2 →
    (sinceEradication s.log ppid).countP (fun t => first ≤ t ∧ t ≤ last) ≤ 2

/-- An alert that finds two others of its parent within the last two seconds finds its window
open, and the two others in it. -/
def Covered (m : Move State Arrival) : Prop :=
  let since := sinceEradication m.source.log m.label.alert.ppid
  let now := m.label.now
  2 ≤ since.countP (fun t => now ≤ t + fromSecs 2) →
    ∃ window, m.source.tracker m.label.alert.ppid = some window ∧
      now ≤ window.firstStrike + fromSecs 2 ∧
      ∀ t ∈ since, now ≤ t + fromSecs 2 → window.firstStrike ≤ t

private theorem noMissedBurst_iff {s : State} : NoMissedBurst s ↔
    ∀ ppid, Answered (fromSecs 2) 2 (sinceEradication s.log ppid) [] :=
  forall_congr' fun _ => answered_nil_iff.symm

section Steps

variable {s t : State} {arrival : Arrival}

/-- Nothing is missed at an alert unless it is a third one that goes unanswered. -/
private theorem noMissedBurst_after_iff (sound : Sound s) (quiet : NoMissedBurst s)
    (later : s.clock ≤ arrival.now) :
    NoMissedBurst (s.after handler arrival) ↔
      (2 ≤ pending (fromSecs 2) arrival.now [] (sinceEradication s.log arrival.alert.ppid) →
        (handler s.tracker arrival).2.isSome = true) := by
  rw [noMissedBurst_iff] at quiet ⊢
  have past := sound.past arrival.alert.ppid later
  have grown := (quiet arrival.alert.ppid).cons_iff past (fun _ member => nomatch member)
    Nat.two_pos
  have self : sinceEradication (s.after handler arrival).log arrival.alert.ppid =
      if (handler s.tracker arrival).2.isSome then []
      else arrival.now :: sinceEradication s.log arrival.alert.ppid :=
    sinceEradication_cons_self _
  constructor
  · intro all many
    by_contra unanswered
    have here := all arrival.alert.ppid
    rw [self, if_neg unanswered, grown] at here
    exact Nat.not_le_of_lt here many
  · intro answers ppid
    by_cases same : ppid = arrival.alert.ppid
    · subst same
      rw [self]
      split
      · exact answered_nil_iff.mpr fun _ _ _ => Nat.zero_le _
      · rename_i unanswered
        rw [grown, ← Nat.not_le]
        exact fun many => unanswered (answers many)
    · have unseen : sinceEradication (s.after handler arrival).log ppid =
          sinceEradication s.log ppid := sinceEradication_other same
      rw [unseen]
      exact quiet ppid

private theorem noMissedBurst_step_iff (taken : Step handler s arrival t) (sound : Sound s)
    (quiet : NoMissedBurst s) : NoMissedBurst t ↔ Covered ⟨s, arrival, t⟩ := by
  cases taken with
  | handle later =>
    rw [noMissedBurst_after_iff sound quiet later, handler_eradicates_iff, Covered]
    have past := sound.past arrival.alert.ppid later
    have close (since : List Nat) : since.countP (fun t => arrival.now ≤ t + fromSecs 2) =
        pending (fromSecs 2) arrival.now [] since := by
      simp only [pending, pending_nil_iff]
    have answered := noMissedBurst_iff.mp quiet arrival.alert.ppid
    rw [← close]
    refine imp_congr_right fun many => exists_congr fun window => and_congr_right fun found =>
      and_congr_right fun _ => ?_
    rw [close] at many
    rw [((sound _).held window found).1.counted, answered.reaches_iff past many]
    simp only [pending_nil_iff]

end Steps

section Straddling

/-- An alert of a worker of process 100. -/
def alertAt (now : Nat) : Arrival :=
  ⟨⟨101, 100, []⟩, fun _ => now, now, fun _ => Nat.le_refl now⟩

def millis (n : Nat) : Nat := n * 1000000

/-- Alerts at 0 and 1.9 seconds. -/
def struckTwice : State :=
  (State.start.after handler (alertAt 0)).after handler (alertAt (millis 1900))

/-- And at 2.1 and 2.2 seconds, when the window of the first has expired. -/
def straddlingState : State :=
  (struckTwice.after handler (alertAt (millis 2100))).after handler (alertAt (millis 2200))

/-- Three alerts within 0.3 seconds and no eradication at all. -/
theorem straddling_burst_missed :
    (∃ moves, Run (Step handler) State.start moves straddlingState) ∧
      straddlingState.log = [⟨100, millis 2200, false⟩, ⟨100, millis 2100, false⟩,
        ⟨100, millis 1900, false⟩, ⟨100, 0, false⟩] ∧
      ¬ NoMissedBurst straddlingState := by
  have log : straddlingState.log = [⟨100, millis 2200, false⟩, ⟨100, millis 2100, false⟩,
      ⟨100, millis 1900, false⟩, ⟨100, 0, false⟩] := by decide
  have first : Step handler State.start (alertAt 0) (State.start.after handler (alertAt 0)) :=
    .handle (by decide)
  have second : Step handler (State.start.after handler (alertAt 0)) (alertAt (millis 1900))
      struckTwice := .handle (by decide)
  have third : Step handler struckTwice (alertAt (millis 2100))
      (struckTwice.after handler (alertAt (millis 2100))) := .handle (by decide)
  have fourth : Step handler (struckTwice.after handler (alertAt (millis 2100)))
      (alertAt (millis 2200)) straddlingState := .handle (by decide)
  refine ⟨⟨_, .cons first (.cons second (.cons third (.cons fourth (.nil _))))⟩, log, ?_⟩
  intro quiet
  have crowded := quiet 100 (millis 1900) (millis 2200) (by decide)
  rw [log] at crowded
  revert crowded
  decide

end Straddling

/-- In every run, no burst is missed in all states reached exactly if every third alert within
two seconds finds a window open that has counted the two before it. -/
theorem noMissedBurst_throughout_iff {s : State} {moves : List (Move State Arrival)}
    (run : Run (Step handler) State.start moves s) :
    (∀ m ∈ moves, NoMissedBurst m.target) ↔ ∀ m ∈ moves, Covered m := by
  have initially : NoMissedBurst State.start := fun _ _ _ _ => Nat.zero_le _
  exact run.observed_iff_moves (fun _ _ _ taken => step_keeps_sound taken) (fun _ _ => Iff.rfl)
    (fun _ _ _ taken => noMissedBurst_step_iff taken) sound_start initially

/-- Three alerts at 0, 1.0 and 1.9 seconds. -/
def promptState : State :=
  ((State.start.after handler (alertAt 0)).after handler (alertAt (millis 1000))).after handler
    (alertAt (millis 1900))

theorem noMissedBurst_throughout_iff_sample :
    NoMissedBurst promptState ∧ (⟨100, millis 1900, true⟩ : Handled) ∈ promptState.log := by
  have first : Step handler State.start (alertAt 0) (State.start.after handler (alertAt 0)) :=
    .handle (by decide)
  have second : Step handler (State.start.after handler (alertAt 0)) (alertAt (millis 1000))
      ((State.start.after handler (alertAt 0)).after handler (alertAt (millis 1000))) :=
    .handle (by decide)
  have third : Step handler ((State.start.after handler (alertAt 0)).after handler
      (alertAt (millis 1000))) (alertAt (millis 1900)) promptState := .handle (by decide)
  have run := Run.cons first (.cons second (.cons third (.nil _)))
  have covered := (noMissedBurst_throughout_iff run).mpr (by
    intro m member
    simp only [List.mem_cons, List.not_mem_nil, or_false] at member
    rcases member with rfl | rfl | rfl
    · exact fun many => absurd many (by decide)
    · exact fun many => absurd many (by decide)
    · exact fun _ => ⟨⟨2, 0⟩, by decide, by decide, fun _ _ _ => Nat.zero_le _⟩)
  exact ⟨covered _ (.tail _ (.tail _ (.head _))), by decide⟩

end BouclierBleu.Eradication.Bursts
