/- GID: BouclierBleu/Library/Overwrites
   source: none (general)
   digest: Lists written over at an offset, and what is read back from them. -/

import Mathlib.Data.List.Basic
import Mathlib.Tactic.Common

set_option autoImplicit false
set_option relaxedAutoImplicit false

namespace BouclierBleu.Library.Overwrites

universe u

variable {A : Type u} {old new : List A} {offset : Nat}

/-- The list with `new` in place of the elements from an offset on. -/
def overwrite (old : List A) (offset : Nat) (new : List A) : List A :=
  old.take offset ++ new ++ old.drop (offset + new.length)

theorem length_overwrite (fits : offset + new.length ≤ old.length) :
    (overwrite old offset new).length = old.length := by
  rw [overwrite, List.length_append, List.length_append, List.length_take, List.length_drop]
  omega

/-- Reading where the write began. -/
theorem drop_overwrite_self (fits : offset + new.length ≤ old.length) :
    (overwrite old offset new).drop offset = new ++ old.drop (offset + new.length) := by
  have front : (old.take offset).length = offset := List.length_take_of_le (by omega)
  rw [overwrite, List.append_assoc, List.drop_append_of_le_length (Nat.le_of_eq front.symm),
    List.drop_eq_nil_of_le (Nat.le_of_eq front), List.nil_append]

theorem read_overwrite_self (fits : offset + new.length ≤ old.length) :
    ((overwrite old offset new).drop offset).take new.length = new := by
  rw [drop_overwrite_self fits, List.take_left]

/-- A read that starts where the write began and goes beyond its end. -/
theorem read_overwrite_beyond {n : Nat} (fits : offset + new.length ≤ old.length)
    (beyond : new.length ≤ n) :
    ((overwrite old offset new).drop offset).take n =
      new ++ (old.drop (offset + new.length)).take (n - new.length) := by
  rw [drop_overwrite_self fits, List.take_append, List.take_of_length_le beyond]

/-- A read in front of the write. -/
theorem read_overwrite_before {start n : Nat} (apart : start + n ≤ offset)
    (inside : offset ≤ old.length) :
    ((overwrite old offset new).drop start).take n = (old.drop start).take n := by
  have front : (old.take offset).length = offset := List.length_take_of_le inside
  have reach : start ≤ (old.take offset).length := by omega
  have room : n ≤ ((old.take offset).drop start).length := by
    rw [List.length_drop]
    omega
  rw [overwrite, List.append_assoc, List.drop_append_of_le_length reach,
    List.take_append_of_le_length room, List.drop_take, List.take_take, Nat.min_eq_left (by omega)]

/-- A read behind the write. -/
theorem drop_overwrite_after {start : Nat} (apart : offset + new.length ≤ start)
    (fits : offset + new.length ≤ old.length) :
    (overwrite old offset new).drop start = old.drop start := by
  obtain ⟨more, rfl⟩ := Nat.exists_eq_add_of_le apart
  have front : (old.take offset ++ new).length = offset + new.length := by
    rw [List.length_append, List.length_take_of_le (by omega)]
  rw [overwrite, ← List.drop_drop, ← front, List.drop_left, front, List.drop_drop]

/-- A write at the end of what has been written so far. -/
theorem overwrite_append {front back : List A} (here : front.length = offset) :
    overwrite (front ++ back) offset new = front ++ new ++ back.drop new.length := by
  subst here
  rw [overwrite, List.take_left, ← List.drop_drop, List.drop_left]

theorem overwrite_append_replicate {front : List A} {x : A} {m : Nat}
    (here : front.length = offset) :
    overwrite (front ++ List.replicate m x) offset new =
      front ++ new ++ List.replicate (m - new.length) x := by
  rw [overwrite_append here, List.drop_replicate]

theorem getElem?_overwrite (fits : offset + new.length ≤ old.length) (k : Nat) :
    (overwrite old offset new)[k]? =
      if k < offset then old[k]?
      else if k < offset + new.length then new[k - offset]?
      else old[k]? := by
  have front : (old.take offset).length = offset := List.length_take_of_le (by omega)
  by_cases before : k < offset
  · rw [if_pos before, overwrite, List.append_assoc, List.getElem?_append_left (by omega),
      List.getElem?_take_of_lt before]
  · rw [if_neg before, overwrite, List.append_assoc, List.getElem?_append_right (by omega), front]
    by_cases inside : k < offset + new.length
    · rw [if_pos inside, List.getElem?_append_left (by omega)]
    · rw [if_neg inside, List.getElem?_append_right (by omega), List.getElem?_drop]
      congr 1
      omega

/-- Two writes that do not overlap can be made in either order. -/
theorem overwrite_comm {first second : List A} {i j : Nat} (apart : i + first.length ≤ j)
    (fits : j + second.length ≤ old.length) :
    overwrite (overwrite old j second) i first = overwrite (overwrite old i first) j second := by
  have fits' : i + first.length ≤ old.length := by omega
  have later : i + first.length ≤ (overwrite old j second).length := by
    rw [length_overwrite fits]
    exact fits'
  have later' : j + second.length ≤ (overwrite old i first).length := by
    rw [length_overwrite fits']
    exact fits
  apply List.ext_getElem?
  intro k
  rw [getElem?_overwrite later, getElem?_overwrite fits, getElem?_overwrite later',
    getElem?_overwrite fits']
  by_cases low : k < i + first.length
  · have middle : k < j := by omega
    simp only [if_pos low, if_pos middle]
  · have first_done : ¬ k < i := by omega
    simp only [if_neg low, if_neg first_done]

end BouclierBleu.Library.Overwrites
