/- GID: BouclierBleu/Library/Separated
   source: none
   digest: Lists joined with a separator in front of each, and their prefixes. -/

import Mathlib.Data.List.Infix

set_option autoImplicit false
set_option relaxedAutoImplicit false

namespace BouclierBleu.Library.Separated

universe u

variable {α : Type u} {sep : α}

/-- Every part with the separator in front of it. -/
def joinWith (sep : α) (parts : List (List α)) : List α := parts.flatMap (sep :: ·)

@[simp] theorem joinWith_nil (sep : α) : joinWith sep [] = [] := rfl

@[simp] theorem joinWith_cons (sep : α) (part : List α) (parts : List (List α)) :
    joinWith sep (part :: parts) = sep :: (part ++ joinWith sep parts) := rfl

/-- What a joined list starts with is the separator. -/
private theorem head_of_starts {x : α} {pattern : List α} {parts : List (List α)}
    (starts : x :: pattern <+: joinWith sep parts) : x = sep := by
  cases parts with
  | nil => simp at starts
  | cons part parts =>
    rw [joinWith_cons, List.cons_prefix_cons] at starts
    exact starts.1

/-- A prefix without the separator lies within the first part. -/
theorem prefix_part_iff {pattern : List α} (free : sep ∉ pattern) (part : List α)
    (parts : List (List α)) : pattern <+: part ++ joinWith sep parts ↔ pattern <+: part := by
  induction pattern generalizing part with
  | nil => simp
  | cons x pattern ih =>
    rw [List.mem_cons, not_or] at free
    cases part with
    | nil =>
      rw [List.nil_append]
      constructor
      · intro starts
        exact absurd (head_of_starts starts).symm free.1
      · intro starts
        simp at starts
    | cons y part => rw [List.cons_append, List.cons_prefix_cons, List.cons_prefix_cons, ih free.2]

/-- A prefix with the separator spells out the whole first part and goes on in the second. -/
theorem prefix_parts_iff {before after part : List α} (free : sep ∉ before)
    (whole : sep ∉ part) (parts : List (List α)) :
    before ++ sep :: after <+: part ++ joinWith sep parts ↔
      part = before ∧ ∃ next rest, parts = next :: rest ∧ after <+: next ++ joinWith sep rest := by
  induction before generalizing part with
  | nil =>
    cases part with
    | nil =>
      cases parts with
      | nil => simp
      | cons next rest => simp
    | cons y part =>
      rw [List.mem_cons, not_or] at whole
      simp [whole.1]
  | cons x before ih =>
    rw [List.mem_cons, not_or] at free
    cases part with
    | nil =>
      rw [List.cons_append, List.nil_append]
      constructor
      · intro starts
        exact absurd (head_of_starts starts).symm free.1
      · rintro ⟨empty, _⟩
        cases empty
    | cons y part =>
      rw [List.mem_cons, not_or] at whole
      rw [List.cons_append, List.cons_append, List.cons_prefix_cons, ih free.2 whole.2,
        List.cons.injEq, eq_comm (a := x), and_assoc]

end BouclierBleu.Library.Separated
