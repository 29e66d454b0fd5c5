/- GID: BouclierBleu/Library/Histories
   source: none (general)
   digest: Invariants that speak of the moves made so far, and legal histories of a sequential object. -/

import BouclierBleu.Library.Trace

set_option autoImplicit false
set_option relaxedAutoImplicit false

namespace BouclierBleu.Library.Histories

open BouclierBleu.Library.Trace (Move Run)

universe u v w

section Along

variable {S : Type u} {E : Type v} {step : S → E → S → Prop} {s t : S}
  {before moves : List (Move S E)}

/-- A fact about a state and the moves that led to it, kept by every step, holds at the end of a
run of the moves made by then. -/
theorem invariant_along {I : List (Move S E) → S → Prop}
    (keep : ∀ before s e t, step s e t → I before s → I (before ++ [⟨s, e, t⟩]) t)
    (run : Run step s moves t) (start : I before s) : I (before ++ moves) t := by
  induction run generalizing before with
  | nil _ => rwa [List.append_nil]
  | @cons s t u e moves taken _ ih =>
    have here := keep before s e t taken start
    have closed := ih here
    rwa [List.append_assoc] at closed

/-- Every step adds what it shows to the end of what the moves before it have shown. -/
theorem filterMap_snoc {O : Type w} (seen : Move S E → Option O) (m : Move S E) :
    (before ++ [m]).filterMap seen = before.filterMap seen ++ (seen m).toList := by
  rw [List.filterMap_append]
  cases shown : seen m <;> simp [shown]

end Along

section Objects

variable {A : Type u} {I : Type v} {O : Type w}

/-- A call on an object: who made it, what it asked for, and the answer. -/
structure Operation (I : Type v) (O : Type w) where
  client : Nat
  input : I
  output : O

variable (apply : A → I → A × O)

/-- The object after the operations of a history, one at a time. -/
def after (a : A) (ops : List (Operation I O)) : A :=
  ops.foldl (fun a op => (apply a op.input).1) a

/-- The answers are those of the object when it carries out the operations one at a time. -/
inductive Legal : A → List (Operation I O) → Prop
  | nil (a : A) : Legal a []
  | cons {a : A} {op : Operation I O} {rest : List (Operation I O)}
      (answered : op.output = (apply a op.input).2)
      (later : Legal (apply a op.input).1 rest) : Legal a (op :: rest)

variable {apply} {a : A} {op : Operation I O} {ops more : List (Operation I O)}

theorem after_append : after apply a (ops ++ more) = after apply (after apply a ops) more :=
  List.foldl_append ..

theorem after_snoc : after apply a (ops ++ [op]) = (apply (after apply a ops) op.input).1 :=
  after_append

theorem legal_append : Legal apply a (ops ++ more) ↔
    Legal apply a ops ∧ Legal apply (after apply a ops) more := by
  induction ops generalizing a with
  | nil => exact ⟨fun legal => ⟨.nil a, legal⟩, And.right⟩
  | cons op ops ih =>
    constructor
    · rintro (_ | ⟨answered, later⟩)
      obtain ⟨first, second⟩ := ih.mp later
      exact ⟨.cons answered first, second⟩
    · rintro ⟨_ | ⟨answered, first⟩, second⟩
      exact .cons answered (ih.mpr ⟨first, second⟩)

theorem legal_snoc : Legal apply a (ops ++ [op]) ↔
    Legal apply a ops ∧ op.output = (apply (after apply a ops) op.input).2 := by
  rw [legal_append]
  constructor
  · rintro ⟨first, _ | ⟨answered, _⟩⟩
    exact ⟨first, answered⟩
  · exact fun both => ⟨both.1, .cons both.2 (.nil _)⟩

/-- In a legal history every answer is the object's, in the state the operations before it
leave. -/
theorem Legal.output_of_split (legal : Legal apply a (ops ++ op :: more)) :
    op.output = (apply (after apply a ops) op.input).2 := by
  obtain ⟨_, _ | ⟨answered, _⟩⟩ := legal_append.mp legal
  exact answered

end Objects

end BouclierBleu.Library.Histories
