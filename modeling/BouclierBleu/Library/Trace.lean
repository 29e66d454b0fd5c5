/- GID: BouclierBleu/Library/Trace
   source: none (general)
   digest: Finite runs of a labelled step relation, and the rules that lift step facts to runs. -/

import Mathlib.Data.List.Basic
import Mathlib.Tactic.Common

set_option autoImplicit false
set_option relaxedAutoImplicit false

namespace BouclierBleu.Library.Trace

universe u v

variable {S : Type u} {E : Type v}

/-- One labelled move of a run, with the state on either side of it. -/
structure Move (S : Type u) (E : Type v) where
  source : S
  label : E
  target : S

/-- Chronological runs: consecutive moves share a state, and every move is a step. -/
inductive Run (step : S → E → S → Prop) : S → List (Move S E) → S → Prop
  | nil (s : S) : Run step s [] s
  | cons {s t u : S} {e : E} {moves : List (Move S E)} :
      step s e t → Run step t moves u → Run step s (⟨s, e, t⟩ :: moves) u

/-- States that some run reaches from an initial one. -/
def Reachable (step : S → E → S → Prop) (init : S → Prop) (s : S) : Prop :=
  ∃ s₀ moves, init s₀ ∧ Run step s₀ moves s

variable {step : S → E → S → Prop} {s t u : S} {moves : List (Move S E)}

theorem Run.append {more : List (Move S E)} (first : Run step s moves t)
    (second : Run step t more u) : Run step s (moves ++ more) u := by
  induction first with
  | nil _ => exact second
  | cons taken _ ih => exact .cons taken (ih second)

theorem Run.snoc {e : E} (run : Run step s moves t) (taken : step t e u) :
    Run step s (moves ++ [⟨t, e, u⟩]) u :=
  run.append (.cons taken (.nil u))

/-- A run is cut at any of its moves into a run before it, the step, and a run after it. -/
theorem Run.split {m : Move S E} (run : Run step s moves u) (member : m ∈ moves) :
    ∃ before after, moves = before ++ m :: after ∧ Run step s before m.source ∧
      step m.source m.label m.target ∧ Run step m.target after u := by
  induction run with
  | nil _ => simp at member
  | @cons s t u e moves taken rest ih =>
    rcases List.mem_cons.mp member with rfl | member
    · exact ⟨[], moves, rfl, .nil s, taken, rest⟩
    · obtain ⟨before, after, shape, prior, here, later⟩ := ih member
      refine ⟨⟨s, e, t⟩ :: before, after, ?_, .cons taken prior, here, later⟩
      simp [shape]

theorem Run.step_of_mem {m : Move S E} (run : Run step s moves u) (member : m ∈ moves) :
    step m.source m.label m.target := by
  obtain ⟨_, _, _, _, taken, _⟩ := run.split member
  exact taken

/-- A run with any move at all has a last one. -/
theorem Run.exists_last (run : Run step s moves u) (moved : moves ≠ []) :
    ∃ m ∈ moves, m.target = u := by
  induction run with
  | nil _ => contradiction
  | @cons s t u e rest taken later ih =>
    cases later with
    | nil _ => exact ⟨_, List.mem_cons_self, rfl⟩
    | cons _ _ =>
      obtain ⟨m, member, last⟩ := ih (List.cons_ne_nil _ _)
      exact ⟨m, List.mem_cons_of_mem _ member, last⟩

/-- A fact that every step keeps, as long as the move meets `C`, holds at the end of a run
whose moves all meet `C`. -/
theorem Run.invariant_of_moves {I : S → Prop} {C : Move S E → Prop}
    (keep : ∀ s e t, step s e t → C ⟨s, e, t⟩ → I s → I t)
    (run : Run step s moves u) (each : ∀ m ∈ moves, C m) (start : I s) : I u := by
  induction run with
  | nil _ => exact start
  | cons taken _ ih =>
    have here := keep _ _ _ taken (each _ List.mem_cons_self) start
    exact ih (fun m member => each m (List.mem_cons_of_mem _ member)) here

theorem Run.invariant {I : S → Prop} (keep : ∀ s e t, step s e t → I s → I t)
    (run : Run step s moves u) (start : I s) : I u :=
  run.invariant_of_moves (C := fun _ => True) (fun s e t taken _ => keep s e t taken)
    (fun _ _ => trivial) start

/-- The same fact on both sides of every move of the run. -/
theorem Run.invariant_at_moves {I : S → Prop} {C : Move S E → Prop}
    (keep : ∀ s e t, step s e t → C ⟨s, e, t⟩ → I s → I t)
    (run : Run step s moves u) (each : ∀ m ∈ moves, C m) (start : I s)
    {m : Move S E} (member : m ∈ moves) : I m.source ∧ I m.target := by
  obtain ⟨before, after, shape, prior, taken, _⟩ := run.split member
  have here : I m.source := by
    refine prior.invariant_of_moves keep ?_ start
    intro k hk
    exact each k (by rw [shape]; exact List.mem_append_left _ hk)
  exact ⟨here, keep _ _ _ taken (each m member) here⟩

/-- Every state of a run has what every step keeps. -/
theorem Run.invariant_at {I : S → Prop} (keep : ∀ s e t, step s e t → I s → I t)
    (run : Run step s moves u) (start : I s) {m : Move S E} (member : m ∈ moves) :
    I m.source ∧ I m.target :=
  run.invariant_at_moves (C := fun _ => True) (fun s e t taken _ => keep s e t taken)
    (fun _ _ => trivial) start member

/-- When a step keeps `I` exactly if its move meets `C`, a run keeps `I` throughout exactly
if all its moves meet `C`. -/
theorem Run.invariant_iff_moves {I : S → Prop} {C : Move S E → Prop}
    (exact_step : ∀ s e t, step s e t → I s → (I t ↔ C ⟨s, e, t⟩))
    (run : Run step s moves u) (start : I s) :
    (∀ m ∈ moves, I m.target) ↔ ∀ m ∈ moves, C m := by
  induction run with
  | nil _ => simp
  | cons taken _ ih =>
    simp only [List.forall_mem_cons]
    constructor
    · rintro ⟨here, later⟩
      exact ⟨(exact_step _ _ _ taken start).mp here, (ih here).mp later⟩
    · rintro ⟨here, later⟩
      have held := (exact_step _ _ _ taken start).mpr here
      exact ⟨held, (ih held).mpr later⟩

/-- The same for an observation `O` that, under what every step keeps, shows whether `I`
holds. -/
theorem Run.observed_iff_moves {B I O : S → Prop} {C : Move S E → Prop}
    (keep : ∀ s e t, step s e t → B s → B t) (shows : ∀ s, B s → (O s ↔ I s))
    (exact_step : ∀ s e t, step s e t → B s → I s → (I t ↔ C ⟨s, e, t⟩))
    (run : Run step s moves u) (base : B s) (start : I s) :
    (∀ m ∈ moves, O m.target) ↔ ∀ m ∈ moves, C m := by
  have held : ∀ m ∈ moves, B m.target := fun m member => (run.invariant_at keep base member).2
  have both_step (s : S) (e : E) (t : S) (taken : step s e t) (both : B s ∧ I s) :
      B t ∧ I t ↔ C ⟨s, e, t⟩ := by
    rw [← exact_step s e t taken both.1 both.2]
    exact and_iff_right (keep s e t taken both.1)
  rw [← run.invariant_iff_moves both_step ⟨base, start⟩]
  constructor
  · intro seen m member
    exact ⟨held m member, (shows m.target (held m member)).mp (seen m member)⟩
  · intro both m member
    exact (shows m.target (held m member)).mpr (both m member).2

/-- When no move leads straight from `A` to `B`, a run from one to the other passes a state
that is neither. -/
theorem Run.exists_neither {A B : S → Prop} {C : Move S E → Prop}
    (detour : ∀ s e t, step s e t → C ⟨s, e, t⟩ → A s → A t ∨ ¬ B t)
    (run : Run step s moves u) (each : ∀ m ∈ moves, C m) (start : A s) (finish : B u)
    (apart : ¬ (A u ∧ B u)) : ∃ m ∈ moves, ¬ A m.target ∧ ¬ B m.target := by
  induction run with
  | nil _ => exact absurd ⟨start, finish⟩ apart
  | @cons s t u e rest taken _ ih =>
    by_cases stay : A t
    · obtain ⟨m, member, neither⟩ :=
        ih (fun m member => each m (List.mem_cons_of_mem _ member)) stay finish apart
      exact ⟨m, List.mem_cons_of_mem _ member, neither⟩
    · have left := (detour s e t taken (each _ List.mem_cons_self) start).resolve_left stay
      exact ⟨⟨s, e, t⟩, List.mem_cons_self, stay, left⟩

theorem Reachable.snoc {init : S → Prop} {e : E} (reach : Reachable step init s)
    (taken : step s e t) : Reachable step init t := by
  obtain ⟨s₀, moves, first, run⟩ := reach
  exact ⟨s₀, _, first, run.snoc taken⟩

theorem Reachable.invariant {init I : S → Prop} (reach : Reachable step init s)
    (start : ∀ s₀, init s₀ → I s₀) (keep : ∀ s e t, step s e t → I s → I t) : I s := by
  obtain ⟨s₀, moves, first, run⟩ := reach
  exact run.invariant keep (start s₀ first)

end BouclierBleu.Library.Trace
