/- GID: BouclierBleu/Library/BoundedQueues
   source: none (general)
   digest: First-in first-out queues of bounded length; a push onto a full queue is refused. -/

import Mathlib.Data.List.Basic
import Mathlib.Tactic.Common

set_option autoImplicit false
set_option relaxedAutoImplicit false

namespace BouclierBleu.Library.BoundedQueues

universe u

/-- A queue that never holds more than `maxEntries` items; the oldest comes first. -/
structure BoundedQueue (A : Type u) (maxEntries : Nat) where
  items : List A
  bounded : items.length ≤ maxEntries

variable {A : Type u} {maxEntries : Nat}

namespace BoundedQueue

@[ext] theorem ext {q r : BoundedQueue A maxEntries} (same : q.items = r.items) : q = r := by
  cases q
  cases r
  cases same
  rfl

def empty : BoundedQueue A maxEntries := ⟨[], Nat.zero_le _⟩

/-- Append an item; a full queue refuses it. -/
def push (q : BoundedQueue A maxEntries) (a : A) : Option (BoundedQueue A maxEntries) :=
  if room : q.items.length < maxEntries then
    some ⟨q.items ++ [a], by
      rw [List.length_append, List.length_singleton]
      omega⟩
  else none

/-- Take the oldest item; an empty queue has none. -/
def pop (q : BoundedQueue A maxEntries) : Option (A × BoundedQueue A maxEntries) :=
  match shape : q.items with
  | [] => none
  | a :: rest => some (a, ⟨rest, by
      have bounded := q.bounded
      rw [shape, List.length_cons] at bounded
      omega⟩)

@[simp] theorem items_empty : (empty : BoundedQueue A maxEntries).items = [] := rfl

theorem push_of_room {q : BoundedQueue A maxEntries} (room : q.items.length < maxEntries)
    (a : A) : ∃ r, q.push a = some r ∧ r.items = q.items ++ [a] := by
  rw [push, dif_pos room]
  exact ⟨_, rfl, rfl⟩

theorem pop_of_nil {q : BoundedQueue A maxEntries} (shape : q.items = []) : q.pop = none := by
  unfold pop
  split
  · rfl
  · rename_i other
    rw [shape] at other
    contradiction

theorem pop_of_cons {q : BoundedQueue A maxEntries} {a : A} {rest : List A}
    (shape : q.items = a :: rest) : ∃ r, q.pop = some (a, r) ∧ r.items = rest := by
  unfold pop
  split
  · rename_i other
    rw [shape] at other
    contradiction
  · rename_i b tail other
    rw [shape] at other
    cases other
    exact ⟨_, rfl, rfl⟩

theorem items_of_push {q r : BoundedQueue A maxEntries} {a : A} (pushed : q.push a = some r) :
    r.items = q.items ++ [a] := by
  unfold push at pushed
  split at pushed
  · cases pushed
    rfl
  · contradiction

theorem items_of_pop {q r : BoundedQueue A maxEntries} {a : A} (popped : q.pop = some (a, r)) :
    q.items = a :: r.items := by
  cases shape : q.items with
  | nil =>
    rw [pop_of_nil shape] at popped
    contradiction
  | cons b rest =>
    obtain ⟨r', found, items⟩ := pop_of_cons shape
    rw [found] at popped
    cases popped
    rw [items]

end BoundedQueue

end BouclierBleu.Library.BoundedQueues
