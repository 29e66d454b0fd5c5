/- GID: BouclierBleu/Library/PathTrees
   source: none (general)
   digest: Trees of keyed objects addressed by path, with grafting, moving and exchanging. -/

import Mathlib.Data.List.Infix
import Mathlib.Logic.Function.Basic

set_option autoImplicit false
set_option relaxedAutoImplicit false

namespace BouclierBleu.Library.PathTrees

open Function (update)

universe u v w

variable {N : Type u} {A : Type v} {K : Type w}

/-- What stands at each path, innermost name first. Only inner objects have anything below
them, and no key stands at two paths. -/
structure Tree (N : Type u) (inner : A → Prop) (key : A → K) where
  node : List N → Option A
  parented : ∀ n p, (node (n :: p)).isSome → ∃ b, node p = some b ∧ inner b
  distinct : ∀ p q a b, node p = some a → node q = some b → key a = key b → p = q

section Strip

variable [DecidableEq N] {p q r : List N}

/-- What is left of a path below another one. -/
def strip (p r : List N) : Option (List N) :=
  if p <:+ r then some (r.take (r.length - p.length)) else none

theorem strip_eq_some : strip p r = some q ↔ r = q ++ p := by
  unfold strip
  constructor
  · intro found
    split at found
    · rename_i below
      obtain ⟨q', rfl⟩ := below
      cases found
      simp
    · contradiction
  · rintro rfl
    simp

theorem strip_eq_none : strip p r = none ↔ ¬ p <:+ r := by
  unfold strip
  split
  · rename_i below
    simp [below]
  · rename_i outside
    simp [outside]

@[simp] theorem strip_append (p q : List N) : strip p (q ++ p) = some q := strip_eq_some.mpr rfl

end Strip

private theorem not_suffix_of_cons {n : N} {p r : List N} (outside : ¬ p <:+ n :: r) :
    ¬ p <:+ r :=
  fun below => outside (below.trans (List.suffix_cons n r))

private theorem not_cons_suffix_self (n : N) (p : List N) : ¬ n :: p <:+ p := by
  intro below
  have length := below.length_le
  rw [List.length_cons] at length
  omega

private theorem ne_cons_self (n : N) (p : List N) : p ≠ n :: p := by
  intro same
  exact not_cons_suffix_self n p (same ▸ List.suffix_rfl)

theorem not_suffix_append {a b : List N} (apart : ¬ a <:+ b) (apart' : ¬ b <:+ a)
    (q : List N) : ¬ a <:+ q ++ b := by
  intro below
  rcases List.suffix_or_suffix_of_suffix below (List.suffix_append q b) with h | h
  · exact apart h
  · exact apart' h

namespace Tree

variable {inner : A → Prop} {key : A → K}

/-- The object at a path can take another below it. -/
def Inner (t : Tree N inner key) (p : List N) : Prop := ∃ b, t.node p = some b ∧ inner b

/-- Nothing stands directly below the path. -/
def Leaf (t : Tree N inner key) (p : List N) : Prop := ∀ n, t.node (n :: p) = none

/-- No object of the tree has the key. -/
def Fresh (t : Tree N inner key) (k : K) : Prop := ∀ p a, t.node p = some a → key a ≠ k

variable {t : Tree N inner key}

theorem inner_of_child {n : N} {p : List N} {a : A} (child : t.node (n :: p) = some a) :
    t.Inner p :=
  t.parented n p (by rw [child]; rfl)

theorem eq_of_key {p q : List N} {a b : A} (here : t.node p = some a) (there : t.node q = some b)
    (same : key a = key b) : p = q ∧ a = b := by
  have path := t.distinct p q a b here there same
  subst path
  exact ⟨rfl, Option.some.inj (here.symm.trans there)⟩

/-- The tree of a single object, at the empty path. -/
def root (inner : A → Prop) (key : A → K) (a : A) : Tree N inner key where
  node
    | [] => some a
    | _ :: _ => none
  parented := by
    intro n p live
    contradiction
  distinct := by
    intro p q b c here there _
    cases p <;> cases q <;> first | rfl | contradiction

theorem fresh_root {a : A} {k : K} (other : key a ≠ k) :
    (root inner key a : Tree N inner key).Fresh k := by
  intro p b here
  cases p with
  | nil =>
    cases here
    exact other
  | cons n p => contradiction

/-- Nothing stands below a free path. -/
theorem leaf_of_free {p : List N} (free : t.node p = none) : t.Leaf p := by
  intro n
  by_contra live
  obtain ⟨b, here, _⟩ := t.parented n p (Option.isSome_iff_ne_none.mpr live)
  rw [free] at here
  contradiction

/-- The tree in which the object at a path is the one that stood at its origin. -/
def rearrange (t : Tree N inner key) (origin : List N → Option (List N))
    (injective : ∀ q r o, origin q = some o → origin r = some o → q = r)
    (carried : ∀ n r o, origin (n :: r) = some o → (t.node o).isSome →
      ∃ o', origin r = some o' ∧ t.Inner o') : Tree N inner key where
  node r := (origin r).bind t.node
  parented := by
    intro n r live
    obtain ⟨a, here⟩ := Option.isSome_iff_exists.mp live
    obtain ⟨o, from_, stood⟩ := Option.bind_eq_some_iff.mp here
    obtain ⟨o', above, b, parent, kind⟩ := carried n r o from_ (by rw [stood]; rfl)
    exact ⟨b, by rw [above]; exact parent, kind⟩
  distinct := by
    intro q r a b here there same
    obtain ⟨o, from_, stood⟩ := Option.bind_eq_some_iff.mp here
    obtain ⟨o', from', stood'⟩ := Option.bind_eq_some_iff.mp there
    have path := t.distinct o o' a b stood stood' same
    subst path
    exact injective q r o from_ from'

section Operations

variable [DecidableEq N]

/-- A new object at a free path. -/
def put (t : Tree N inner key) (n : N) (p : List N) (a : A) (parent : t.Inner p)
    (free : t.node (n :: p) = none) (fresh : t.Fresh (key a)) : Tree N inner key where
  node := update t.node (n :: p) (some a)
  parented := by
    intro m q live
    by_cases same : m :: q = n :: p
    · cases same
      rw [Function.update_of_ne (ne_cons_self n p)]
      exact parent
    · rw [Function.update_of_ne same] at live
      obtain ⟨b, here, kind⟩ := t.parented m q live
      have other : q ≠ n :: p := by
        rintro rfl
        rw [free] at here
        contradiction
      exact ⟨b, by rw [Function.update_of_ne other, here], kind⟩
  distinct := by
    intro q r b c here there same
    by_cases first : q = n :: p <;> by_cases second : r = n :: p
    · rw [first, second]
    · rw [first, Function.update_self] at here
      rw [Function.update_of_ne second] at there
      cases here
      exact absurd same.symm (fresh r c there)
    · rw [Function.update_of_ne first] at here
      rw [second, Function.update_self] at there
      cases there
      exact absurd same (fresh q b here)
    · rw [Function.update_of_ne first] at here
      rw [Function.update_of_ne second] at there
      exact t.distinct q r b c here there same

/-- Take away the object at a leaf. -/
def drop (t : Tree N inner key) (p : List N) (leaf : t.Leaf p) : Tree N inner key :=
  t.rearrange (fun r => if r = p then none else some r)
    (by
      intro q r o here there
      split at here
      · contradiction
      split at there
      · contradiction
      cases here
      cases there
      rfl)
    (by
      intro n r o here live
      split at here
      · contradiction
      cases here
      have other : r ≠ p := by
        rintro rfl
        rw [leaf n] at live
        contradiction
      rw [if_neg other]
      exact ⟨r, rfl, t.parented n r live⟩)

/-- Where the objects of a tree were before the one at `src` was moved to `dst`. -/
def moveOrigin (src dst r : List N) : Option (List N) :=
  match strip dst r with
  | some q => some (q ++ src)
  | none => if src <:+ r then none else some r

/-- Where the objects of a tree were before those at `a` and `b` changed places. -/
def exchangeOrigin (a b r : List N) : Option (List N) :=
  match strip a r with
  | some q => some (q ++ b)
  | none =>
    match strip b r with
    | some q => some (q ++ a)
    | none => some r

theorem moveOrigin_cases {src dst r o : List N} (origin : moveOrigin src dst r = some o) :
    (∃ q, r = q ++ dst ∧ o = q ++ src) ∨ (¬ dst <:+ r ∧ ¬ src <:+ r ∧ o = r) := by
  unfold moveOrigin at origin
  split at origin
  · rename_i q below
    exact .inl ⟨q, strip_eq_some.mp below, (Option.some.inj origin).symm⟩
  · rename_i outside
    split at origin
    · contradiction
    · rename_i apart
      exact .inr ⟨strip_eq_none.mp outside, apart, (Option.some.inj origin).symm⟩

@[simp] theorem moveOrigin_below (src dst q : List N) :
    moveOrigin src dst (q ++ dst) = some (q ++ src) := by
  simp [moveOrigin]

theorem moveOrigin_outside {src dst r : List N} (outside : ¬ dst <:+ r) (apart : ¬ src <:+ r) :
    moveOrigin src dst r = some r := by
  rw [moveOrigin, strip_eq_none.mpr outside]
  exact if_neg apart

theorem exchangeOrigin_cases {a b r o : List N} (origin : exchangeOrigin a b r = some o) :
    (∃ q, r = q ++ a ∧ o = q ++ b) ∨ (∃ q, r = q ++ b ∧ o = q ++ a) ∨
      (¬ a <:+ r ∧ ¬ b <:+ r ∧ o = r) := by
  unfold exchangeOrigin at origin
  split at origin
  · rename_i q below
    exact .inl ⟨q, strip_eq_some.mp below, (Option.some.inj origin).symm⟩
  · rename_i outside
    split at origin
    · rename_i q below
      exact .inr (.inl ⟨q, strip_eq_some.mp below, (Option.some.inj origin).symm⟩)
    · rename_i apart
      exact .inr (.inr ⟨strip_eq_none.mp outside, strip_eq_none.mp apart,
        (Option.some.inj origin).symm⟩)

@[simp] theorem exchangeOrigin_left (a b q : List N) :
    exchangeOrigin a b (q ++ a) = some (q ++ b) := by
  simp [exchangeOrigin]

theorem exchangeOrigin_right {a b : List N} (apart : ¬ a <:+ b) (apart' : ¬ b <:+ a)
    (q : List N) : exchangeOrigin a b (q ++ b) = some (q ++ a) := by
  rw [exchangeOrigin, strip_eq_none.mpr (not_suffix_append apart apart' q)]
  simp

theorem exchangeOrigin_outside {a b r : List N} (outA : ¬ a <:+ r) (outB : ¬ b <:+ r) :
    exchangeOrigin a b r = some r := by
  simp [exchangeOrigin, strip_eq_none.mpr outA, strip_eq_none.mpr outB]

/-- Move what stands at and below `src` to `n :: p`, in place of what stood there. -/
def move (t : Tree N inner key) (src : List N) (n : N) (p : List N) (parent : t.Inner p)
    (into : ¬ src <:+ n :: p) : Tree N inner key :=
  t.rearrange (moveOrigin src (n :: p))
    (by
      intro q r o here there
      rcases moveOrigin_cases here with ⟨k, rfl, rfl⟩ | ⟨_, apart, rfl⟩ <;>
        rcases moveOrigin_cases there with ⟨k', rfl, same⟩ | ⟨_, apart', same⟩
      · rw [List.append_cancel_right same]
      · exact absurd (same ▸ List.suffix_append k src) apart'
      · exact absurd (same ▸ List.suffix_append k' src) apart
      · exact same)
    (by
      intro m r o here live
      rcases moveOrigin_cases here with ⟨k, shape, rfl⟩ | ⟨outside, apart, rfl⟩
      · cases k with
        | nil =>
          cases shape
          exact ⟨p, moveOrigin_outside (not_cons_suffix_self n p) (not_suffix_of_cons into),
            parent⟩
        | cons m' k =>
          cases shape
          exact ⟨k ++ src, moveOrigin_below src (n :: p) k, t.parented m (k ++ src) live⟩
      · exact ⟨r, moveOrigin_outside (not_suffix_of_cons outside) (not_suffix_of_cons apart),
          t.parented m r live⟩)

/-- Exchange what stands at and below two paths. -/
def exchange (t : Tree N inner key) (a b : List N) (liveA : (t.node a).isSome)
    (liveB : (t.node b).isSome) (apart : ¬ a <:+ b) (apart' : ¬ b <:+ a) : Tree N inner key :=
  t.rearrange (exchangeOrigin a b)
    (by
      intro q r o here there
      have never {k k' : List N} (same : k ++ a = k' ++ b) : False :=
        not_suffix_append apart' apart k (same ▸ List.suffix_append k' b)
      rcases exchangeOrigin_cases here with ⟨k, rfl, rfl⟩ | ⟨k, rfl, rfl⟩ | ⟨outA, outB, rfl⟩ <;>
        rcases exchangeOrigin_cases there with
          ⟨k', rfl, same⟩ | ⟨k', rfl, same⟩ | ⟨outA', outB', same⟩
      · rw [List.append_cancel_right same]
      · exact (never same.symm).elim
      · exact absurd (same ▸ List.suffix_append k b) outB'
      · exact (never same).elim
      · rw [List.append_cancel_right same]
      · exact absurd (same ▸ List.suffix_append k a) outA'
      · exact absurd (same ▸ List.suffix_append k' b) outB
      · exact absurd (same ▸ List.suffix_append k' a) outA
      · exact same)
    (by
      intro m r o here live
      rcases exchangeOrigin_cases here with ⟨k, shape, rfl⟩ | ⟨k, shape, rfl⟩ | ⟨outA, outB, rfl⟩
      · cases k with
        | nil =>
          subst shape
          refine ⟨r, exchangeOrigin_outside (not_cons_suffix_self m r) ?_, t.parented m r liveA⟩
          exact not_suffix_of_cons apart'
        | cons m' k =>
          cases shape
          exact ⟨k ++ b, exchangeOrigin_left a b k, t.parented m (k ++ b) live⟩
      · cases k with
        | nil =>
          subst shape
          refine ⟨r, exchangeOrigin_outside ?_ (not_cons_suffix_self m r), t.parented m r liveB⟩
          exact not_suffix_of_cons apart
        | cons m' k =>
          cases shape
          exact ⟨k ++ a, exchangeOrigin_right apart apart' k, t.parented m (k ++ a) live⟩
      · exact ⟨r, exchangeOrigin_outside (not_suffix_of_cons outA) (not_suffix_of_cons outB),
          t.parented m r live⟩)

end Operations

section Effects

variable [DecidableEq N]

@[simp] theorem put_node {n : N} {p : List N} {a : A} {parent : t.Inner p}
    {free : t.node (n :: p) = none} {fresh : t.Fresh (key a)} :
    (t.put n p a parent free fresh).node = update t.node (n :: p) (some a) := rfl

theorem node_of_put {n : N} {p q : List N} {a b : A} (parent : t.Inner p)
    (free : t.node (n :: p) = none) (fresh : t.Fresh (key a))
    (here : (t.put n p a parent free fresh).node q = some b) :
    (q = n :: p ∧ b = a) ∨ t.node q = some b := by
  rw [put_node] at here
  by_cases same : q = n :: p
  · rw [same, Function.update_self] at here
    exact .inl ⟨same, (Option.some.inj here).symm⟩
  · rw [Function.update_of_ne same] at here
    exact .inr here

theorem fresh_put {n : N} {p : List N} {a : A} (parent : t.Inner p)
    (free : t.node (n :: p) = none) (fresh : t.Fresh (key a)) {k : K} (before : t.Fresh k)
    (other : key a ≠ k) : (t.put n p a parent free fresh).Fresh k := by
  intro q b here
  rcases node_of_put _ _ _ here with ⟨_, rfl⟩ | stood
  · exact other
  · exact before q b stood

/-- Every child after a new object came is that object, or was a child of the same object
before. -/
theorem child_of_put {n m : N} {p r : List N} {a c d : A} (parent : t.Inner p)
    (free : t.node (n :: p) = none) (fresh : t.Fresh (key a))
    (child : (t.put n p a parent free fresh).node (m :: r) = some c)
    (above : (t.put n p a parent free fresh).node r = some d) :
    (c = a ∧ t.node p = some d) ∨ (t.node (m :: r) = some c ∧ t.node r = some d) := by
  rw [put_node] at child above
  by_cases same : m :: r = n :: p
  · rw [same, Function.update_self] at child
    cases same
    cases child
    rw [Function.update_of_ne (ne_cons_self n p)] at above
    exact .inl ⟨rfl, above⟩
  · rw [Function.update_of_ne same] at child
    by_cases below : r = n :: p
    · subst below
      obtain ⟨b, there, _⟩ := inner_of_child child
      rw [free] at there
      contradiction
    · rw [Function.update_of_ne below] at above
      exact .inr ⟨child, above⟩

theorem drop_node {p r : List N} (leaf : t.Leaf p) {a : A} :
    (t.drop p leaf).node r = some a ↔ r ≠ p ∧ t.node r = some a := by
  by_cases same : r = p <;> simp [drop, rearrange, same]

/-- Every child after a move is the moved object, or was a child of the same object before. -/
theorem child_of_move {src : List N} {n m : N} {p r : List N} (parent : t.Inner p)
    (into : ¬ src <:+ n :: p) {c d : A}
    (child : (t.move src n p parent into).node (m :: r) = some c)
    (above : (t.move src n p parent into).node r = some d) :
    (t.node src = some c ∧ t.node p = some d) ∨
      ∃ o, t.node (m :: o) = some c ∧ t.node o = some d := by
  obtain ⟨o, origin, stood⟩ := Option.bind_eq_some_iff.mp child
  obtain ⟨o', origin', stood'⟩ := Option.bind_eq_some_iff.mp above
  rcases moveOrigin_cases origin with ⟨k, shape, rfl⟩ | ⟨outside, apart, rfl⟩
  · cases k with
    | nil =>
      cases shape
      rw [moveOrigin_outside (not_cons_suffix_self n p) (not_suffix_of_cons into)] at origin'
      cases origin'
      exact .inl ⟨stood, stood'⟩
    | cons m' k =>
      obtain ⟨rfl, rfl⟩ := List.cons.inj shape
      rw [List.append_eq, moveOrigin_below] at origin'
      cases origin'
      exact .inr ⟨k ++ src, stood, stood'⟩
  · rw [moveOrigin_outside (not_suffix_of_cons outside) (not_suffix_of_cons apart)] at origin'
    cases origin'
    exact .inr ⟨r, stood, stood'⟩

/-- Where an object was before a move. -/
theorem node_of_move {src : List N} {n : N} {p r : List N} (parent : t.Inner p)
    (into : ¬ src <:+ n :: p) {a : A} (here : (t.move src n p parent into).node r = some a) :
    (∃ q, r = q ++ n :: p ∧ t.node (q ++ src) = some a) ∨ (¬ src <:+ r ∧ t.node r = some a) := by
  obtain ⟨o, origin, stood⟩ := Option.bind_eq_some_iff.mp here
  rcases moveOrigin_cases origin with ⟨q, shape, rfl⟩ | ⟨_, apart, rfl⟩
  · exact .inl ⟨q, shape, stood⟩
  · exact .inr ⟨apart, stood⟩

theorem move_node_below {src : List N} {n : N} {p : List N} (parent : t.Inner p)
    (into : ¬ src <:+ n :: p) (q : List N) :
    (t.move src n p parent into).node (q ++ n :: p) = t.node (q ++ src) := by
  simp [move, rearrange]

variable {n n' m : N} {p p' r : List N} (liveA : (t.node (n :: p)).isSome)
  (liveB : (t.node (n' :: p')).isSome) (apart : ¬ n :: p <:+ n' :: p')
  (apart' : ¬ n' :: p' <:+ n :: p)

/-- Every child after an exchange is one of the two exchanged objects under the other's parent,
or was a child of the same object before. -/
theorem child_of_exchange {c d : A}
    (child : (t.exchange (n :: p) (n' :: p') liveA liveB apart apart').node (m :: r) = some c)
    (above : (t.exchange (n :: p) (n' :: p') liveA liveB apart apart').node r = some d) :
    (t.node (n' :: p') = some c ∧ t.node p = some d) ∨
      (t.node (n :: p) = some c ∧ t.node p' = some d) ∨
      ∃ o, t.node (m :: o) = some c ∧ t.node o = some d := by
  obtain ⟨o, origin, stood⟩ := Option.bind_eq_some_iff.mp child
  obtain ⟨o', origin', stood'⟩ := Option.bind_eq_some_iff.mp above
  rcases exchangeOrigin_cases origin with ⟨k, shape, rfl⟩ | ⟨k, shape, rfl⟩ | ⟨outA, outB, rfl⟩
  · cases k with
    | nil =>
      cases shape
      rw [exchangeOrigin_outside (not_cons_suffix_self n p) (not_suffix_of_cons apart')]
        at origin'
      cases origin'
      exact .inl ⟨stood, stood'⟩
    | cons m' k =>
      obtain ⟨rfl, rfl⟩ := List.cons.inj shape
      rw [List.append_eq, exchangeOrigin_left] at origin'
      cases origin'
      exact .inr (.inr ⟨_, stood, stood'⟩)
  · cases k with
    | nil =>
      cases shape
      rw [exchangeOrigin_outside (not_suffix_of_cons apart) (not_cons_suffix_self n' p')]
        at origin'
      cases origin'
      exact .inr (.inl ⟨stood, stood'⟩)
    | cons m' k =>
      obtain ⟨rfl, rfl⟩ := List.cons.inj shape
      rw [List.append_eq, exchangeOrigin_right apart apart'] at origin'
      cases origin'
      exact .inr (.inr ⟨_, stood, stood'⟩)
  · rw [exchangeOrigin_outside (not_suffix_of_cons outA) (not_suffix_of_cons outB)] at origin'
    cases origin'
    exact .inr (.inr ⟨r, stood, stood'⟩)

/-- Where an object was before an exchange. -/
theorem node_of_exchange {x : A}
    (here : (t.exchange (n :: p) (n' :: p') liveA liveB apart apart').node r = some x) :
    (∃ q, r = q ++ n :: p ∧ t.node (q ++ n' :: p') = some x) ∨
      (∃ q, r = q ++ n' :: p' ∧ t.node (q ++ n :: p) = some x) ∨
      (¬ n :: p <:+ r ∧ t.node r = some x) := by
  obtain ⟨o, origin, stood⟩ := Option.bind_eq_some_iff.mp here
  rcases exchangeOrigin_cases origin with ⟨q, shape, rfl⟩ | ⟨q, shape, rfl⟩ | ⟨outside, _, rfl⟩
  · exact .inl ⟨q, shape, stood⟩
  · exact .inr (.inl ⟨q, shape, stood⟩)
  · exact .inr (.inr ⟨outside, stood⟩)

theorem exchange_node_left (q : List N) :
    (t.exchange (n :: p) (n' :: p') liveA liveB apart apart').node (q ++ n :: p) =
      t.node (q ++ n' :: p') := by
  simp [exchange, rearrange]

theorem exchange_node_right (q : List N) :
    (t.exchange (n :: p) (n' :: p') liveA liveB apart apart').node (q ++ n' :: p') =
      t.node (q ++ n :: p) := by
  simp [exchange, rearrange, exchangeOrigin_right apart apart']

theorem exchange_node_left_parent :
    (t.exchange (n :: p) (n' :: p') liveA liveB apart apart').node p = t.node p := by
  have origin := exchangeOrigin_outside (not_cons_suffix_self n p) (not_suffix_of_cons apart')
  simp [exchange, rearrange, origin]

end Effects

end Tree

end BouclierBleu.Library.PathTrees
