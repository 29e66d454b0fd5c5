/- GID: BouclierBleu/Library/AnchoredWindows
   source: none (general)
   digest: Counters whose window opens with an event, against all events of the past. -/

import Mathlib.Data.List.Basic
import Mathlib.Tactic.Common

set_option autoImplicit false
set_option relaxedAutoImplicit false

namespace BouclierBleu.Library.AnchoredWindows

/-- How many of the instants are not before `start`. -/
def countedFrom (start : Nat) (instants : List Nat) : Nat :=
  instants.countP fun t => start ≤ t

section Counting

variable {start now : Nat} {instants : List Nat}

@[simp] theorem countedFrom_nil : countedFrom start [] = 0 := rfl

theorem countedFrom_cons_of_le (later : start ≤ now) :
    countedFrom start (now :: instants) = countedFrom start instants + 1 :=
  List.countP_cons_of_pos (by simpa using later)

theorem countedFrom_eq_zero (earlier : ∀ t ∈ instants, t < start) :
    countedFrom start instants = 0 := by
  refine List.countP_eq_zero.mpr ?_
  intro t member
  have below := earlier t member
  simpa using below

/-- Counting from `start` reaches a limit that the events with `Q` just reach, exactly if it
counts them all. `Q` is a property that lasts, such as being pending (below). -/
theorem reaches_iff_covers {Q : Nat → Prop} [DecidablePred Q]
    (lasting : ∀ t u, Q t → t ≤ u → Q u) {limit : Nat}
    (few : instants.countP (fun t => Q t) ≤ limit)
    (many : limit ≤ instants.countP (fun t => Q t)) :
    limit ≤ countedFrom start instants ↔ ∀ t ∈ instants, Q t → start ≤ t := by
  constructor
  · intro reached t member within
    by_contra before
    rw [Nat.not_le] at before
    -- Whatever is counted has `Q`, and so has `t`, which is not counted.
    have split := List.countP_eq_countP_filter_add instants (fun u => decide (Q u))
      (fun u => decide (start ≤ u))
    have inside : (instants.filter fun u => start ≤ u).countP (fun u => Q u) =
        countedFrom start instants := by
      rw [countedFrom, List.countP_eq_length_filter (l := instants), List.countP_eq_length]
      intro u kept
      have from_start : start ≤ u := by simpa using (List.mem_filter.mp kept).2
      exact decide_eq_true (lasting t u within (by omega))
    have outside : 0 < (instants.filter fun u => !decide (start ≤ u)).countP (fun u => Q u) := by
      refine List.countP_pos_iff.mpr ⟨t, List.mem_filter.mpr ⟨member, ?_⟩, decide_eq_true within⟩
      simpa using before
    omega
  · intro covered
    refine Nat.le_trans many (List.countP_mono_left ?_)
    intro t member within
    rw [decide_eq_true_eq] at within ⊢
    exact covered t member within

end Counting

/-- A window of some width keeps track of the instants since its counter was last cleared: it
has counted those from its start on, and none lies behind its end. -/
structure Tracks (width start count : Nat) (instants : List Nat) : Prop where
  counted : count = countedFrom start instants
  within : ∀ t ∈ instants, t ≤ start + width

section Tracks

variable {width start count now : Nat} {instants : List Nat}

/-- A window opens with an event later than all before. -/
theorem Tracks.opening (earlier : ∀ t ∈ instants, t < now) :
    Tracks width now 1 (now :: instants) where
  counted := by
    rw [countedFrom_cons_of_le (Nat.le_refl now), countedFrom_eq_zero earlier]
  within := by
    intro t member
    rcases List.mem_cons.mp member with rfl | old
    · exact Nat.le_add_right _ _
    · have before := earlier t old
      omega

theorem Tracks.push (tracks : Tracks width start count instants) (later : start ≤ now)
    (inside : now ≤ start + width) : Tracks width start (count + 1) (now :: instants) where
  counted := by
    rw [countedFrom_cons_of_le later, tracks.counted]
  within := by
    intro t member
    rcases List.mem_cons.mp member with rfl | old
    · exact inside
    · exact tracks.within t old

/-- All events lie before one that finds the window expired. -/
theorem Tracks.earlier (tracks : Tracks width start count instants)
    (expired : start + width < now) : ∀ t ∈ instants, t < now := by
  intro t member
  exact Nat.lt_of_le_of_lt (tracks.within t member) expired

theorem Tracks.cleared (width start : Nat) : Tracks width start 0 [] where
  counted := rfl
  within := by
    intro t member
    cases member

end Tracks

/-- Every span of at most `width` that holds more than `limit` events holds an answer. -/
def Answered (width limit : Nat) (events answers : List Nat) : Prop :=
  ∀ first last, last ≤ first + width →
    limit < events.countP (fun t => first ≤ t ∧ t ≤ last) → ∃ t ∈ answers, first ≤ t ∧ t ≤ last

/-- An event within the last span, and later than every answer. -/
def Pending (width now : Nat) (answers : List Nat) (t : Nat) : Prop :=
  now ≤ t + width ∧ ∀ a ∈ answers, a < t

instance (width now : Nat) (answers : List Nat) : DecidablePred (Pending width now answers) :=
  fun _ => inferInstanceAs (Decidable (_ ∧ _))

def pending (width now : Nat) (answers events : List Nat) : Nat :=
  events.countP fun t => Pending width now answers t

section Answered

variable {width limit now : Nat} {events answers : List Nat}

/-- Being pending lasts. -/
theorem Pending.mono {t u : Nat} (here : Pending width now answers t) (later : t ≤ u) :
    Pending width now answers u :=
  ⟨by have close := here.1; omega, fun a member => Nat.lt_of_lt_of_le (here.2 a member) later⟩

/-- The first instant behind all answers. -/
private theorem exists_behind (answers : List Nat) :
    ∃ b, ∀ t, b ≤ t ↔ ∀ a ∈ answers, a < t := by
  induction answers with
  | nil => exact ⟨0, fun t => iff_of_true (Nat.zero_le t) fun _ member => nomatch member⟩
  | cons a rest ih =>
    obtain ⟨b, behind⟩ := ih
    refine ⟨max (a + 1) b, ?_⟩
    intro t
    rw [Nat.max_le, behind, List.forall_mem_cons]
    rfl

/-- The pending events are those of one span up to now without an answer. -/
private theorem exists_span (past : ∀ t ∈ events, t ≤ now) :
    ∃ first, now ≤ first + width ∧ (∀ a ∈ answers, ¬ first ≤ a) ∧
      ((∀ a ∈ answers, a < now) → first ≤ now) ∧
      pending width now answers events = events.countP fun t => first ≤ t ∧ t ≤ now := by
  obtain ⟨b, behind⟩ := exists_behind answers
  refine ⟨max (now - width) b, by omega, ?_, ?_, ?_⟩
  · intro a member above
    have later := (behind a).mp (by omega) a member
    exact Nat.lt_irrefl a later
  · intro unanswered
    have reached := (behind now).mpr unanswered
    omega
  · refine List.countP_congr ?_
    intro t member
    have old := past t member
    rw [decide_eq_true_eq, decide_eq_true_eq, Pending, ← behind]
    omega

/-- Before an event no more than the limit are pending. -/
theorem Answered.pending_le (answered : Answered width limit events answers)
    (past : ∀ t ∈ events, t ≤ now) : pending width now answers events ≤ limit := by
  obtain ⟨first, close, behind, _, same⟩ := exists_span past
  by_contra many
  rw [same, Nat.not_le] at many
  obtain ⟨a, member, above, _⟩ := answered first now close many
  exact behind a member above

/-- Counting from `start` finds as many as the limit, when so many are pending, exactly if it
counts all that are pending. -/
theorem Answered.reaches_iff {start : Nat} (answered : Answered width limit events answers)
    (past : ∀ t ∈ events, t ≤ now) (many : limit ≤ pending width now answers events) :
    limit ≤ countedFrom start events ↔
      ∀ t ∈ events, Pending width now answers t → start ≤ t :=
  reaches_iff_covers (fun _ _ here later => here.mono later) (answered.pending_le past) many

/-- Without any answer a span is answered if it holds no more than the limit. -/
theorem answered_nil_iff : Answered width limit events [] ↔
    ∀ first last, last ≤ first + width →
      events.countP (fun t => first ≤ t ∧ t ≤ last) ≤ limit := by
  refine forall_congr' fun first => forall_congr' fun last => imp_congr_right fun _ => ?_
  rw [← Nat.not_lt]
  exact ⟨fun all many => by simpa using all many, fun few many => absurd many few⟩

theorem pending_nil_iff {t : Nat} : Pending width now [] t ↔ now ≤ t + width :=
  and_iff_left fun _ member => nomatch member

/-- With one more event that is answered, all spans still are. -/
theorem Answered.cons_answer (answered : Answered width limit events answers) :
    Answered width limit (now :: events) (now :: answers) := by
  intro first last close many
  by_cases inside : first ≤ now ∧ now ≤ last
  · exact ⟨now, List.mem_cons_self, inside⟩
  · rw [List.countP_cons_of_neg (by simpa using inside)] at many
    obtain ⟨a, member, within⟩ := answered first last close many
    exact ⟨a, List.mem_cons_of_mem _ member, within⟩

/-- With one that is not, they are unless the limit was pending already. -/
theorem Answered.cons_iff (answered : Answered width limit events answers)
    (past : ∀ t ∈ events, t ≤ now) (before : ∀ a ∈ answers, a ≤ now) (positive : 0 < limit) :
    Answered width limit (now :: events) answers ↔ pending width now answers events < limit := by
  constructor
  · intro all
    by_contra many
    rw [Nat.not_lt] at many
    obtain ⟨t, member, open_⟩ := List.countP_pos_iff.mp (Nat.lt_of_lt_of_le positive many)
    have unanswered : ∀ a ∈ answers, a < now := by
      intro a early
      exact Nat.lt_of_lt_of_le ((of_decide_eq_true open_).2 a early) (past t member)
    obtain ⟨first, close, behind, reached, same⟩ := exists_span past
    have counted : (now :: events).countP (fun t => first ≤ t ∧ t ≤ now) =
        pending width now answers events + 1 := by
      rw [List.countP_cons_of_pos (by simpa using reached unanswered), same]
    obtain ⟨a, early, above, _⟩ := all first now close (by omega)
    exact behind a early above
  · intro few first last close many
    by_cases inside : first ≤ now ∧ now ≤ last
    · rw [List.countP_cons_of_pos (by simpa using inside)] at many
      by_contra unanswered
      push Not at unanswered
      -- Without an answer in the span, all its events are pending.
      have all : events.countP (fun t => first ≤ t ∧ t ≤ last) ≤
          pending width now answers events := by
        refine List.countP_mono_left ?_
        intro t _ within
        rw [decide_eq_true_eq] at within ⊢
        refine ⟨by omega, ?_⟩
        intro a member
        have early := before a member
        by_contra late
        have outside := unanswered a member (by omega)
        omega
      omega
    · rw [List.countP_cons_of_neg (by simpa using inside)] at many
      exact answered first last close many

end Answered

end BouclierBleu.Library.AnchoredWindows
