/- GID: BouclierBleu/Library/BoundedMaps
   source: none (general)
   digest: Fixed-capacity key-value maps that reject or evict when a fresh key finds them full. -/

import Mathlib.Data.List.AList
import Mathlib.Order.Basic
import Mathlib.Tactic.Common

set_option autoImplicit false
set_option relaxedAutoImplicit false

namespace BouclierBleu.Library.BoundedMaps

universe u v

/-- What a full map does with a fresh key. -/
inductive Policy
  | reject | evict
  deriving DecidableEq

/-- A map that never holds more than `maxEntries` keys. -/
structure BoundedMap (K : Type u) (V : Type v) where
  table : AList (fun _ : K => V)
  policy : Policy
  maxEntries : Nat
  positive : 0 < maxEntries
  bounded : table.keys.length ≤ maxEntries

variable {K : Type u} {V : Type v}

namespace BoundedMap

/-- The number of keys held. -/
def size (m : BoundedMap K V) : Nat := m.table.keys.length

def Full (m : BoundedMap K V) : Prop := m.size = m.maxEntries

instance (m : BoundedMap K V) : Decidable m.Full :=
  inferInstanceAs (Decidable (m.size = m.maxEntries))

/-- The map right after its creation. -/
def empty (policy : Policy) (maxEntries : Nat) (positive : 0 < maxEntries) :
    BoundedMap K V :=
  ⟨∅, policy, maxEntries, positive, Nat.zero_le _⟩

def single (policy : Policy) (maxEntries : Nat) (positive : 0 < maxEntries) (k : K) (v : V) :
    BoundedMap K V :=
  ⟨AList.singleton k v, policy, maxEntries, positive, positive⟩

variable [DecidableEq K]

/-- Drop the entry at a position counted modulo the size; the caller's choice of `pick`
stands for the unspecified replacement order. -/
def dropAt (pick : Nat) (table : AList (fun _ : K => V)) : AList (fun _ : K => V) :=
  match table.keys[pick % table.keys.length]? with
  | some victim => table.erase victim
  | none => table

def lookup (m : BoundedMap K V) (k : K) : Option V := m.table.lookup k

private theorem length_erase_le (table : AList (fun _ : K => V)) (k : K) :
    (table.erase k).keys.length ≤ table.keys.length := by
  rw [AList.keys_erase]
  exact List.erase_sublist.length_le

private theorem length_insert_of_mem {table : AList (fun _ : K => V)} {k : K} (v : V)
    (present : k ∈ table) : (table.insert k v).keys.length = table.keys.length := by
  have member := AList.mem_keys.mp present
  have occupied := List.length_pos_of_mem member
  rw [AList.keys_insert, List.length_cons, List.length_erase_of_mem member]
  omega

private theorem length_insert_le (table : AList (fun _ : K => V)) (k : K) (v : V) :
    (table.insert k v).keys.length ≤ table.keys.length + 1 := by
  rw [AList.keys_insert, List.length_cons]
  exact Nat.succ_le_succ List.erase_sublist.length_le

private theorem dropAt_eq_erase (table : AList (fun _ : K => V)) (pick : Nat)
    (occupied : 0 < table.keys.length) :
    ∃ victim ∈ table, dropAt pick table = table.erase victim := by
  have inside := Nat.mod_lt pick occupied
  have entry := List.getElem?_eq_getElem inside
  refine ⟨table.keys[pick % table.keys.length], ?_, ?_⟩
  · exact AList.mem_keys.mpr (List.getElem_mem inside)
  · rw [dropAt, entry]

private theorem length_dropAt (table : AList (fun _ : K => V)) (pick : Nat)
    (occupied : 0 < table.keys.length) :
    (dropAt pick table).keys.length + 1 = table.keys.length := by
  obtain ⟨victim, member, shape⟩ := dropAt_eq_erase table pick occupied
  rw [shape, AList.keys_erase, List.length_erase_of_mem (AList.mem_keys.mp member)]
  omega

/-- Store a value under a key. A present key is overwritten in place; a fresh key that finds
the map full is refused, or takes the place of the entry that `pick` selects. -/
def update (pick : Nat) (m : BoundedMap K V) (k : K) (v : V) : Option (BoundedMap K V) :=
  if present : k ∈ m.table then
    some { m with
      table := m.table.insert k v
      bounded := by
        rw [length_insert_of_mem v present]
        exact m.bounded }
  else if full : m.Full then
    match m.policy with
    | .reject => none
    | .evict => some { m with
        table := (dropAt pick m.table).insert k v
        bounded := by
          have positive := m.positive
          unfold Full size at full
          have dropped := length_dropAt m.table pick (by omega)
          have stored := length_insert_le (dropAt pick m.table) k v
          omega }
  else
    some { m with
      table := m.table.insert k v
      bounded := by
        have stored := length_insert_le m.table k v
        have bounded := m.bounded
        unfold Full size at full
        omega }

/-- The key whose entry makes room for a fresh one in a full map. -/
def victim (pick : Nat) (m : BoundedMap K V) (k : K) : Option K :=
  if k ∉ m.table ∧ m.Full then m.table.keys[pick % m.table.keys.length]? else none

/-- Remove a key, present or not. -/
def delete (m : BoundedMap K V) (k : K) : BoundedMap K V :=
  { m with
    table := m.table.erase k
    bounded := (length_erase_le m.table k).trans m.bounded }

@[simp] theorem lookup_empty (policy : Policy) (n : Nat) (positive : 0 < n) (k : K) :
    (empty policy n positive : BoundedMap K V).lookup k = none := rfl

@[simp] theorem lookup_delete_self (m : BoundedMap K V) (k : K) :
    (m.delete k).lookup k = none :=
  AList.lookup_erase k m.table

theorem lookup_delete_ne (m : BoundedMap K V) {j k : K} (other : j ≠ k) :
    (m.delete k).lookup j = m.lookup j :=
  AList.lookup_erase_ne other

theorem lookup_eq_none {m : BoundedMap K V} {k : K} : m.lookup k = none ↔ k ∉ m.table :=
  AList.lookup_eq_none

theorem exists_lookup {m : BoundedMap K V} {k : K} :
    (∃ v, m.lookup k = some v) ↔ k ∈ m.table := by
  rw [← AList.lookup_isSome, Option.isSome_iff_exists]
  rfl

section Update

variable {m m' : BoundedMap K V} {pick : Nat} {j k : K} {v w : V}

/-- The three ways an update can succeed. -/
theorem update_cases (stored : m.update pick k v = some m') :
    m'.policy = m.policy ∧ m'.maxEntries = m.maxEntries ∧
      (((k ∈ m.table ∨ ¬ m.Full) ∧ m'.table = m.table.insert k v) ∨
        (k ∉ m.table ∧ m.Full ∧ m.policy = .evict ∧
          ∃ victim ∈ m.table, m'.table = (m.table.erase victim).insert k v)) := by
  unfold update at stored
  split_ifs at stored with present full
  · cases stored
    exact ⟨rfl, rfl, .inl ⟨.inl present, rfl⟩⟩
  · split at stored
    · contradiction
    · rename_i policy
      cases stored
      have positive := m.positive
      have filled := full
      unfold Full size at filled
      obtain ⟨victim, member, shape⟩ := dropAt_eq_erase m.table pick (by omega)
      exact ⟨rfl, rfl, .inr ⟨present, full, policy, victim, member,
        congrArg (AList.insert k v) shape⟩⟩
  · cases stored
    exact ⟨rfl, rfl, .inl ⟨.inr full, rfl⟩⟩

/-- A full map refuses a fresh key exactly under the rejecting policy. -/
theorem update_eq_none : m.update pick k v = none ↔
    m.policy = .reject ∧ m.Full ∧ m.lookup k = none := by
  unfold update
  rw [lookup_eq_none]
  split_ifs with present full
  · simp [present]
  · cases policy : m.policy <;> simp [present, full]
  · simp [full]

theorem exists_update_of_room (room : ¬ m.Full) : ∃ m', m.update pick k v = some m' := by
  apply Option.ne_none_iff_exists'.mp
  intro refused
  exact room (update_eq_none.mp refused).2.1

theorem update_maxEntries (stored : m.update pick k v = some m') :
    m'.maxEntries = m.maxEntries := (update_cases stored).2.1

theorem update_policy (stored : m.update pick k v = some m') : m'.policy = m.policy :=
  (update_cases stored).1

theorem lookup_update_self (stored : m.update pick k v = some m') : m'.lookup k = some v := by
  obtain ⟨-, -, ⟨-, shape⟩ | ⟨-, -, -, _, -, shape⟩⟩ := update_cases stored <;>
    rw [lookup, shape] <;> exact AList.lookup_insert _

/-- Whatever else an update removes, it invents no entry. -/
theorem lookup_of_update (stored : m.update pick k v = some m') (other : j ≠ k)
    (found : m'.lookup j = some w) : m.lookup j = some w := by
  obtain ⟨-, -, ⟨-, shape⟩ | ⟨-, -, -, victim, -, shape⟩⟩ := update_cases stored <;>
    rw [lookup, shape, AList.lookup_insert_ne other] at found
  · exact found
  · by_cases same : j = victim
    · subst same
      simp at found
    · rwa [AList.lookup_erase_ne same] at found

/-- Without an eviction the other keys keep their values. -/
theorem lookup_update_ne (stored : m.update pick k v = some m')
    (room : m.policy = .reject ∨ ¬ m.Full ∨ m.lookup k ≠ none) (other : j ≠ k) :
    m'.lookup j = m.lookup j := by
  obtain ⟨-, -, ⟨-, shape⟩ | ⟨absent, full, policy, -⟩⟩ := update_cases stored
  · rw [lookup, shape]
    exact AList.lookup_insert_ne other
  · rw [ne_eq, lookup_eq_none] at room
    simp [absent, full, policy] at room

theorem victim_ne : m.victim pick k ≠ some k := by
  intro same
  unfold victim at same
  split at same
  · rename_i fresh
    exact fresh.1 (AList.mem_keys.mpr (List.mem_of_getElem? same))
  · cases same

private theorem table_of_evicted (stored : m.update pick k v = some m') (absent : k ∉ m.table)
    (full : m.Full) :
    ∃ j, m.victim pick k = some j ∧ m'.table = (m.table.erase j).insert k v := by
  have occupied : 0 < m.table.keys.length := by
    have positive := m.positive
    have filled : m.table.keys.length = m.maxEntries := full
    omega
  obtain ⟨j, entry⟩ : ∃ j, m.table.keys[pick % m.table.keys.length]? = some j :=
    ⟨_, List.getElem?_eq_getElem (Nat.mod_lt pick occupied)⟩
  have dropped : dropAt pick m.table = m.table.erase j := by
    unfold dropAt
    rw [entry]
  refine ⟨j, (if_pos ⟨absent, full⟩).trans entry, ?_⟩
  unfold update at stored
  rw [dif_neg absent, dif_pos full] at stored
  split at stored
  · cases stored
  · cases stored
    exact congrArg (AList.insert k v) dropped

/-- A map that evicts refuses no update, and forgets nothing but its victim. -/
theorem lookup_update_of_evict (evicts : m.policy = .evict) (pick : Nat) (k : K) (v : V) :
    ∃ m', m.update pick k v = some m' ∧ ∀ j, m'.lookup j =
      if j = k then some v else if m.victim pick k = some j then none else m.lookup j := by
  have accepted : m.update pick k v ≠ none := by
    rw [Ne, update_eq_none, evicts]
    exact fun refused => Policy.noConfusion refused.1
  obtain ⟨m', stored⟩ := Option.ne_none_iff_exists'.mp accepted
  refine ⟨m', stored, fun j => ?_⟩
  by_cases same : j = k
  · rw [if_pos same, same]
    exact lookup_update_self stored
  rw [if_neg same]
  by_cases fresh : k ∉ m.table ∧ m.Full
  · obtain ⟨victim, chosen, shape⟩ := table_of_evicted stored fresh.1 fresh.2
    rw [lookup, shape, AList.lookup_insert_ne same, chosen]
    by_cases lost : victim = j
    · subst lost
      rw [if_pos rfl, AList.lookup_erase]
    · rw [if_neg fun here => lost (Option.some.inj here)]
      exact AList.lookup_erase_ne fun here => lost here.symm
  · have room : m.policy = .reject ∨ ¬ m.Full ∨ m.lookup k ≠ none := by
      rw [not_and_or, not_not] at fresh
      rcases fresh with present | room
      · exact .inr (.inr fun absent => lookup_eq_none.mp absent present)
      · exact .inr (.inl room)
    have spared : ¬ m.victim pick k = some j := by
      rw [victim, if_neg fresh]
      exact Option.some_ne_none j ∘ Eq.symm
    rw [lookup_update_ne stored room same, if_neg spared]

/-- An eviction costs some key its entry. -/
theorem exists_evicted (stored : m.update pick k v = some m') (full : m.Full)
    (fresh : m.lookup k = none) :
    ∃ j w, j ≠ k ∧ m.lookup j = some w ∧ m'.lookup j = none := by
  have absent := lookup_eq_none.mp fresh
  obtain ⟨-, -, ⟨room, -⟩ | ⟨-, -, -, victim, member, shape⟩⟩ := update_cases stored
  · simp [absent, full] at room
  · obtain ⟨w, held⟩ := exists_lookup.mpr member
    have other : victim ≠ k := by
      rintro rfl
      exact absent member
    refine ⟨victim, w, other, held, ?_⟩
    rw [lookup, shape, AList.lookup_insert_ne other]
    exact AList.lookup_erase _ _

theorem size_update_fresh (stored : m.update pick k v = some m') (fresh : m.lookup k = none)
    (room : ¬ m.Full) : m'.size = m.size + 1 := by
  have absent := lookup_eq_none.mp fresh
  obtain ⟨-, -, ⟨-, shape⟩ | ⟨-, full, -⟩⟩ := update_cases stored
  · have outside : k ∉ m.table.keys := fun inside => absent (AList.mem_keys.mpr inside)
    rw [size, size, shape, AList.keys_insert, List.length_cons,
      List.erase_of_not_mem outside]
  · exact absurd full room

end Update

end BoundedMap

end BouclierBleu.Library.BoundedMaps
