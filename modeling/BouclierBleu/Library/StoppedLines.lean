/- GID: BouclierBleu/Library/StoppedLines
   source: none (general)
   digest: The lines of a text that end with their stop, and what is appended behind whole lines. -/

import Mathlib.Data.List.Basic

set_option autoImplicit false
set_option relaxedAutoImplicit false

namespace BouclierBleu.Library.StoppedLines

universe u

variable {α : Type u} {stop : α}

/-- Every part with a stop behind it. -/
def terminate (stop : α) (parts : List (List α)) : List α := parts.flatMap (· ++ [stop])

@[simp] theorem terminate_nil : terminate stop [] = [] := rfl

@[simp] theorem terminate_cons (part : List α) (parts : List (List α)) :
    terminate stop (part :: parts) = part ++ stop :: terminate stop parts := by
  rw [terminate, List.flatMap_cons, List.append_assoc]
  rfl

theorem terminate_append (front back : List (List α)) :
    terminate stop (front ++ back) = terminate stop front ++ terminate stop back :=
  List.flatMap_append

variable [BEq α] [LawfulBEq α]

/-- The parts that end with a stop; what comes behind the last stop is no line. -/
def lines (stop : α) (text : List α) : List (List α) := (text.splitOn stop).dropLast

theorem lines_of_notMem {text : List α} (free : stop ∉ text) : lines stop text = [] := by
  rw [lines, List.splitOn_eq_singleton free]
  rfl

theorem lines_append_cons {part : List α} (free : stop ∉ part) (rest : List α) :
    lines stop (part ++ stop :: rest) = part :: lines stop rest := by
  rw [lines, List.splitOn_append_cons_self_of_not_mem free,
    List.dropLast_cons_of_ne_nil (List.splitOn_ne_nil stop rest)]
  rfl

/-- Whole lines in front stay lines, whatever is behind them. -/
theorem lines_terminate_append {parts : List (List α)} (free : ∀ part ∈ parts, stop ∉ part)
    (rest : List α) : lines stop (terminate stop parts ++ rest) = parts ++ lines stop rest := by
  induction parts with
  | nil => rfl
  | cons part parts ih =>
    rw [List.forall_mem_cons] at free
    rw [terminate_cons, List.append_assoc, List.cons_append, lines_append_cons free.1, ih free.2]
    rfl

end BouclierBleu.Library.StoppedLines
