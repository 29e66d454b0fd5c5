/- GID: BouclierBleu/Eradication/Pruning
   source: modules/src/rename_entropy.rs, the handler
   digest: The handler against one that never forgets an entry, and why it eradicates. -/

import BouclierBleu.Eradication.Strikes

set_option autoImplicit false
set_option relaxedAutoImplicit false

namespace BouclierBleu.Eradication.Pruning

open BouclierBleu.Eradication.Strikes
open BouclierBleu.Library.Trace (Move Run)

/-- The handler without `retain`. -/
def reference (tracker : Tracker) (arrival : Arrival) : Tracker × Option UInt32 :=
  correlate tracker arrival.alert.ppid arrival.now

/-- An entry that was pruned is one the reference holds expired. -/
structure Hides (clock : Nat) (code ref : Option PpidStrike) : Prop where
  kept : ∀ e, code = some e → ref = some e
  lapsed : code = none → ∀ e, ref = some e → e.firstStrike + fromSecs 2 < clock

section Hides

variable {clock now : Nat} {code ref : Option PpidStrike}

theorem Hides.refl {entry : Option PpidStrike} : Hides clock entry entry where
  kept _ found := found
  lapsed := by
    intro absent e found
    rw [absent] at found
    cases found

/-- The handler prunes, the reference does not. -/
theorem Hides.prune {tracker : Tracker} {ppid : UInt32} {pruneAt : UInt32 → Nat}
    (hides : Hides clock (tracker ppid) ref) (later : clock ≤ now) (reading : pruneAt ppid ≤ now) :
    Hides now (prune pruneAt tracker ppid) ref where
  kept e found := hides.kept e (prune_eq_some_iff.mp found).1
  lapsed := by
    intro gone e held
    cases found : tracker ppid with
    | none =>
      have old := hides.lapsed found e held
      omega
    | some other =>
      have same := hides.kept other found
      rw [held] at same
      cases same
      have dropped := expired_of_pruned found gone
      have longer : fromSecs 2 < fromSecs 5 := by decide
      omega

/-- An expired entry is treated like none. -/
theorem Hides.strike_eq (hides : Hides now code ref) : strike code now = strike ref now := by
  cases found : code with
  | some e => rw [hides.kept e found]
  | none =>
    rw [strike_of_lapsed (hides.lapsed found)]
    exact strike_of_lapsed fun e absent => nomatch absent

end Hides

section Simulation

variable {s : State} {arrival : Arrival}

theorem reference_self (tracker : Tracker) (arrival : Arrival) :
    (reference tracker arrival).1 arrival.alert.ppid =
      (strike (tracker arrival.alert.ppid) arrival.now).1 :=
  Function.update_self _ _ _

theorem reference_ne {tracker : Tracker} {ppid : UInt32} (other : ppid ≠ arrival.alert.ppid) :
    (reference tracker arrival).1 ppid = tracker ppid :=
  Function.update_of_ne other _ _

theorem reference_snd (tracker : Tracker) (arrival : Arrival) :
    (reference tracker arrival).2 =
      if (strike (tracker arrival.alert.ppid) arrival.now).2 then some arrival.alert.ppid
      else none := rfl

variable {code ref : Tracker}

/-- One alert: both handlers answer alike, and their trackers stay related. -/
theorem hides_handle {clock : Nat} (hides : ∀ ppid, Hides clock (code ppid) (ref ppid))
    (later : clock ≤ arrival.now) :
    (handler code arrival).2 = (reference ref arrival).2 ∧
      ∀ ppid, Hides arrival.now ((handler code arrival).1 ppid)
        ((reference ref arrival).1 ppid) := by
  have pruned (ppid : UInt32) := (hides ppid).prune later (arrival.monotonic ppid)
  have same := (pruned arrival.alert.ppid).strike_eq
  constructor
  · rw [handler_snd, reference_snd, same]
  · intro ppid
    by_cases here : ppid = arrival.alert.ppid
    · subst here
      rw [handler_self, reference_self, same]
      exact .refl
    · rw [handler_ne here, reference_ne here]
      exact pruned ppid

/-- Over the same alerts both write the same log. -/
theorem same_log {a b s t : State} {moves moves' : List (Move State Arrival)}
    (run : Run (Step handler) a moves s) (run' : Run (Step reference) b moves' t)
    (arrivals : moves.map Move.label = moves'.map Move.label)
    (hides : ∀ ppid, Hides a.clock (a.tracker ppid) (b.tracker ppid)) (log : a.log = b.log) :
    s.log = t.log := by
  induction run generalizing b moves' with
  | nil _ =>
    cases run' with
    | nil _ => exact log
    | cons _ _ => cases arrivals
  | cons taken _ ih =>
    cases run' with
    | nil _ => cases arrivals
    | cons taken' rest' =>
      obtain ⟨label, later⟩ := List.cons.inj arrivals
      cases taken with
      | handle inOrder =>
        cases taken' with
        | handle _ =>
          dsimp only at label
          subst label
          obtain ⟨same, related⟩ := hides_handle hides inOrder
          refine ih rest' later related ?_
          rw [State.after, State.after, same, log]

end Simulation

/-- Every eradication was preceded by two more alerts of the parent within two seconds, both
since its last eradication. -/
def Justified (log : List Handled) : Prop :=
  ∀ later h earlier, log = later ++ h :: earlier → h.eradicated = true →
    2 ≤ (sinceEradication earlier h.ppid).countP fun t => h.instant ≤ t + fromSecs 2

section Justified

variable {s t : State} {arrival : Arrival}

theorem Justified.cons {log : List Handled} {h : Handled} (justified : Justified log)
    (here : h.eradicated = true →
      2 ≤ (sinceEradication log h.ppid).countP fun t => h.instant ≤ t + fromSecs 2) :
    Justified (h :: log) := by
  intro later h' earlier shape eradicated
  cases later with
  | nil =>
    cases shape
    exact here eradicated
  | cons _ later =>
    obtain ⟨_, rest⟩ := List.cons.inj shape
    exact justified later h' earlier rest eradicated

theorem step_keeps_justified (taken : Step handler s arrival t)
    (both : Sound s ∧ Justified s.log) : Sound t ∧ Justified t.log := by
  refine ⟨step_keeps_sound taken both.1, ?_⟩
  cases taken with
  | handle later =>
    refine both.2.cons ?_
    intro eradicated
    obtain ⟨old, found, alive, third⟩ := handler_eradicates_iff.mp eradicated
    have tracks := ((both.1 arrival.alert.ppid).held old found).1
    -- What the window has counted lies within its two seconds.
    refine Nat.le_trans (Nat.le_trans third (Nat.le_of_eq tracks.counted)) ?_
    refine List.countP_mono_left ?_
    intro t _ counted
    rw [decide_eq_true_eq] at counted ⊢
    change arrival.now ≤ t + fromSecs 2
    omega

end Justified

section Sample

/-- An alert of a worker of process 100, `seconds` after the start. -/
def alertAfter (seconds : Nat) : Arrival :=
  ⟨⟨101, 100, []⟩, fun _ => fromSecs seconds, fromSecs seconds, fun _ => Nat.le_refl _⟩

end Sample

end BouclierBleu.Eradication.Pruning
