/- GID: BouclierBleu/Library/Projections
   source: none (general)
   digest: A run beside one of only those of its events that matter to an observer. -/

import BouclierBleu.Library.Trace

set_option autoImplicit false
set_option relaxedAutoImplicit false

namespace BouclierBleu.Library.Projections

open BouclierBleu.Library.Trace (Move Run)

universe u u' v

variable {S : Type u} {S' : Type u'} {E : Type v} {step : S → E → S → Prop}
  {step' : S' → E → S' → Prop} {s t : S} {s' t' : S'} {moves : List (Move S E)}
  {moves' : List (Move S' E)}

/-- Two states stay related when the events that do not matter happen to the first only, and
those that do to both, as long as the moves of the first meet `C`. -/
theorem related_of_projection {R : S → S' → Prop} {C : Move S E → Prop} (relevant : E → Bool)
    (skip : ∀ s e t s', step s e t → C ⟨s, e, t⟩ → relevant e = false → R s s' → R t s')
    (follow : ∀ s e t s' t', step s e t → C ⟨s, e, t⟩ → step' s' e t' → relevant e = true →
      R s s' → R t t')
    (run : Run step s moves t) (each : ∀ m ∈ moves, C m) (run' : Run step' s' moves' t')
    (events : moves'.map Move.label = (moves.map Move.label).filter relevant)
    (start : R s s') : R t t' := by
  induction run generalizing s' moves' with
  | nil _ =>
    rw [List.map_nil, List.filter_nil, List.map_eq_nil_iff] at events
    subst events
    cases run'
    exact start
  | @cons s u t e moves taken _ ih =>
    rw [List.forall_mem_cons] at each
    rw [List.map_cons] at events
    cases matters : relevant e with
    | false =>
      rw [List.filter_cons_of_neg (by rw [matters]; exact Bool.false_ne_true)] at events
      exact ih each.2 run' events (skip s e u s' taken each.1 matters start)
    | true =>
      rw [List.filter_cons_of_pos matters] at events
      cases run' with
      | nil _ => cases events
      | @cons _ u' _ e' moves' taken' rest' =>
        rw [List.map_cons, List.cons.injEq] at events
        obtain ⟨same, later⟩ := events
        have same : e' = e := same
        subst same
        exact ih each.2 rest' later (follow s e' u s' u' taken each.1 taken' matters start)

end BouclierBleu.Library.Projections
