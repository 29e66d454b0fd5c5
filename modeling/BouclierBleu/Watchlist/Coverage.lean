/- GID: BouclierBleu/Watchlist/Coverage
   source: bpf/headers/vfs_helpers.h
   digest: Which renames leave every directory below a watched one watched. -/

import BouclierBleu.Watchlist.Filesystem

set_option autoImplicit false
set_option relaxedAutoImplicit false

namespace BouclierBleu.Watchlist.Coverage

open BouclierBleu.Kernel.VfsHelpers
open BouclierBleu.Library.PathTrees
open BouclierBleu.Library.Trace (Move Run)
open BouclierBleu.Watchlist.Filesystem

/-- Every directory directly below a watched directory is watched. -/
def Covered (s : State) : Prop :=
  ∀ n p dir child, s.tree.node p = some dir → s.tree.node (n :: p) = some child →
    child.isDir = true → s.Watches dir → s.Watches child

/-- An operation while the module is enabled and the map has room. -/
def ActiveStep (s : State) (e : Event) (t : State) : Prop :=
  Step s e t ∧ s.Enabled ∧ ¬ s.protectedDirs.Full

/-- An unwatched directory with an unwatched subdirectory goes into a watched directory. -/
def BringsUnwatched (s : State) (src p : Path) : Prop :=
  ∃ moved newDir n child, s.tree.node src = some moved ∧ s.tree.node p = some newDir ∧
    s.Watches newDir ∧ ¬ s.Watches moved ∧ s.tree.node (n :: src) = some child ∧
    child.isDir = true ∧ ¬ s.Watches child

/-- An exchange puts an unwatched directory in the place of an entry of a watched one. -/
def LeavesUnwatched (s : State) (dst p₀ : Path) : Prop :=
  ∃ other oldDir, s.tree.node dst = some other ∧ s.tree.node p₀ = some oldDir ∧
    s.Watches oldDir ∧ other.isDir = true ∧ ¬ s.Watches other

def KeepsCovered (m : Move State Event) : Prop :=
  match m.label with
  | .rename n₀ p₀ _ p _ => ¬ BringsUnwatched m.source (n₀ :: p₀) p
  | .exchange n₀ p₀ n p _ =>
    ¬ BringsUnwatched m.source (n₀ :: p₀) p ∧ ¬ LeavesUnwatched m.source (n :: p) p₀
  | _ => True

theorem Covered.below {s : State} (covered : Covered s) {p q : Path} {dir o : Object}
    (above : s.tree.node p = some dir) (here : s.tree.node (q ++ p) = some o)
    (kind : o.isDir = true) (watched : s.Watches dir) : s.Watches o := by
  induction q generalizing o with
  | nil =>
    cases above.symm.trans here
    exact watched
  | cons n q ih =>
    obtain ⟨parent, there, parentKind⟩ := s.tree.parented n (q ++ p) (by
      rw [← List.cons_append, here]
      rfl)
    exact covered n (q ++ p) parent o there here kind (ih there parentKind)

theorem covered_of_scanned {targets : List Path} {s : State} (scanned : Scanned targets s) :
    Covered s := by
  intro n p dir child above here kind watched
  obtain ⟨_, q, o, there, _, same, below⟩ := scanned.exact_entries dir.id 1 watched
  obtain ⟨rfl, rfl⟩ := s.tree.eq_of_key there above same
  exact scanned.covers (n :: q) child here kind (below.append [n])

section Step

variable {s t : State} {e : Event}

/-- The id of `o` joins the watchlist if `dir` is in it. -/
def Joins (s : State) (map : ProtectedDirs) (dir o : Object) : Prop :=
  ∀ x : Object, Protected map x.id ↔ s.Watches x ∨ (x.id = o.id ∧ s.Watches dir)

private theorem joins_mkdir (enabled : s.Enabled) (room : ¬ s.protectedDirs.Full) (pick : Nat)
    (dir o : Object) : Joins s (s.mkdirHook pick dir o).1 dir o := by
  intro x
  rw [mkdirHook_of_enabled enabled]
  exact protected_inheritProtection_iff room

private theorem joins_rename (enabled : s.Enabled) (room : ¬ s.protectedDirs.Full) (pick : Nat)
    (oldDir dir o : Object) (replaced : Dentry) :
    Joins s (s.renameHook pick oldDir o dir replaced).1 dir o := by
  rw [renameHook_eq_mkdirHook]
  exact joins_mkdir enabled room pick dir o

/-- Objects at other paths than that of `o` stay as they were. -/
private theorem Joins.other {map : ProtectedDirs} {dir o x : Object} (joins : Joins s map dir o)
    {p q : Path} (here : s.tree.node p = some o) (there : s.tree.node q = some x)
    (apart : q ≠ p) : Protected map x.id ↔ s.Watches x := by
  rw [joins x]
  refine or_iff_left ?_
  rintro ⟨same, _⟩
  exact apart (s.tree.eq_of_key there here same).1

/-- The moved object is watched in a watched directory, before or after. -/
private theorem Joins.moved {map : ProtectedDirs} {dir o : Object} (joins : Joins s map dir o)
    (watched : Protected map dir.id) : Protected map o.id := by
  have before : s.Watches dir := ((joins dir).mp watched).elim id And.right
  exact (joins o).mpr (.inr ⟨rfl, before⟩)

private theorem covered_of_put {n : String} {p : Path} {dir new : Object}
    (covered : Covered s) (parent : s.tree.node p = some dir) (kind : dir.isDir = true)
    (free : s.tree.node (n :: p) = none) (fresh : s.tree.Fresh new.id) {map : ProtectedDirs}
    (joins : ∀ x : Object, Protected map x.id → s.Watches x ∨ (x.id = new.id ∧ s.Watches dir))
    (keeps : ∀ x : Object, s.Watches x → Protected map x.id)
    (inherits : new.isDir = true → s.Watches dir → Protected map new.id) :
    Covered { s with
      tree := s.tree.put n p new ⟨dir, parent, kind⟩ free fresh
      protectedDirs := map } := by
  intro m q above child there here childKind watched
  rcases Tree.child_of_put ⟨dir, parent, kind⟩ free fresh here there with
    ⟨rfl, stood⟩ | ⟨was, stood⟩
  · cases parent.symm.trans stood
    refine inherits childKind ?_
    rcases joins dir watched with before | ⟨same, _⟩
    · exact before
    · exact absurd same (fresh p dir parent)
  · rcases joins above watched with before | ⟨same, _⟩
    · have kept : s.Watches child := covered m q above child stood was childKind before
      exact keeps child kept
    · exact absurd same (fresh q above stood)

/-- An object that was already below another one is uncovered only if that one is the moved
object, newly watched. -/
private theorem watched_of_kept {src p o : Path} {m : String} {moved newDir above child : Object}
    (covered : Covered s) (source : s.tree.node src = some moved)
    (newParent : s.tree.node p = some newDir) {map : ProtectedDirs}
    (joins : Joins s map newDir moved) (clean : ¬ BringsUnwatched s src p)
    (stood : s.tree.node (m :: o) = some child) (under : s.tree.node o = some above)
    (kind : child.isDir = true) (watched : Protected map above.id) :
    Protected map child.id := by
  by_cases was : s.Watches above
  · have before : s.Watches child := covered m o above child under stood kind was
    exact (joins child).mpr (.inl before)
  obtain ⟨same, newWatched⟩ := ((joins above).mp watched).resolve_left was
  obtain ⟨rfl, rfl⟩ := s.tree.eq_of_key under source same
  by_contra unwatched
  refine clean ⟨above, newDir, m, child, source, newParent, newWatched, was, stood, kind, ?_⟩
  exact fun before => unwatched ((joins child).mpr (.inl before))

/-- Nothing unwatched was brought along if everything below the new place is covered. -/
private theorem not_bringsUnwatched {n₀ n : String} {p₀ p : Path} {moved newDir : Object}
    (source : s.tree.node (n₀ :: p₀) = some moved) (newParent : s.tree.node p = some newDir)
    (arrived : ∀ q, t.tree.node (q ++ n :: p) = s.tree.node (q ++ n₀ :: p₀))
    (joins : Joins s t.protectedDirs newDir moved) (covered : Covered t) :
    ¬ BringsUnwatched s (n₀ :: p₀) p := by
  rintro ⟨_, _, m, child, source', newParent', watched, _, stood, childKind, unwatched⟩
  cases source.symm.trans source'
  cases newParent.symm.trans newParent'
  have brought : t.Watches moved := (joins moved).mpr (.inr ⟨rfl, watched⟩)
  have reached := covered m (n :: p) moved child ((arrived []).trans source)
    ((arrived [m]).trans stood) childKind brought
  have deeper : m :: n₀ :: p₀ ≠ n₀ :: p₀ := by simp
  exact unwatched ((joins.other source stood deeper).mp reached)

private theorem covered_of_move {n₀ n : String} {p₀ p : Path} {moved newDir : Object}
    (covered : Covered s) (source : s.tree.node (n₀ :: p₀) = some moved)
    (newParent : s.tree.node p = some newDir) (kind : newDir.isDir = true)
    (into : ¬ n₀ :: p₀ <:+ n :: p) {map : ProtectedDirs} (joins : Joins s map newDir moved) :
    Covered { s with
        tree := s.tree.move (n₀ :: p₀) n p ⟨newDir, newParent, kind⟩ into
        protectedDirs := map } ↔ ¬ BringsUnwatched s (n₀ :: p₀) p := by
  have parent : s.tree.Inner p := ⟨newDir, newParent, kind⟩
  have arrived (q : Path) : (s.tree.move (n₀ :: p₀) n p parent into).node (q ++ n :: p) =
      s.tree.node (q ++ n₀ :: p₀) := Tree.move_node_below parent into q
  constructor
  · exact not_bringsUnwatched source newParent arrived joins
  · intro clean m q above child there here childKind watched
    rcases Tree.child_of_move parent into here there with ⟨stood, under⟩ | ⟨o, stood, under⟩
    · cases source.symm.trans stood
      cases newParent.symm.trans under
      exact joins.moved watched
    · exact watched_of_kept covered source newParent joins clean stood under childKind watched

private theorem covered_of_exchange {n₀ n : String} {p₀ p : Path}
    {moved oldDir other newDir : Object} (covered : Covered s)
    (source : s.tree.node (n₀ :: p₀) = some moved) (oldParent : s.tree.node p₀ = some oldDir)
    (target : s.tree.node (n :: p) = some other) (newParent : s.tree.node p = some newDir)
    (liveA : (s.tree.node (n₀ :: p₀)).isSome) (liveB : (s.tree.node (n :: p)).isSome)
    (apart : ¬ n₀ :: p₀ <:+ n :: p) (apart' : ¬ n :: p <:+ n₀ :: p₀) {map : ProtectedDirs}
    (joins : Joins s map newDir moved) :
    Covered { s with
        tree := s.tree.exchange (n₀ :: p₀) (n :: p) liveA liveB apart apart'
        protectedDirs := map } ↔
      ¬ BringsUnwatched s (n₀ :: p₀) p ∧ ¬ LeavesUnwatched s (n :: p) p₀ := by
  have distinct : n :: p ≠ n₀ :: p₀ := by
    intro same
    exact apart' (same ▸ List.suffix_rfl)
  have arrived (q : Path) :
      (s.tree.exchange (n₀ :: p₀) (n :: p) liveA liveB apart apart').node (q ++ n :: p) =
        s.tree.node (q ++ n₀ :: p₀) := Tree.exchange_node_right liveA liveB apart apart' q
  constructor
  · intro after
    constructor
    · exact not_bringsUnwatched source newParent arrived joins after
    · rintro ⟨_, _, target', oldParent', watched, otherKind, unwatched⟩
      cases target.symm.trans target'
      cases oldParent.symm.trans oldParent'
      have left := Tree.exchange_node_left liveA liveB apart apart' []
      have above := Tree.exchange_node_left_parent liveA liveB apart apart'
      have still : Protected map oldDir.id := (joins oldDir).mpr (.inl watched)
      have reached := after n₀ p₀ oldDir other (above.trans oldParent) (left.trans target)
        otherKind still
      exact unwatched ((joins.other source target distinct).mp reached)
  · rintro ⟨clean, kept⟩ m q above child there here childKind watched
    rcases Tree.child_of_exchange liveA liveB apart apart' here there with
      ⟨stood, under⟩ | ⟨stood, under⟩ | ⟨o, stood, under⟩
    · cases target.symm.trans stood
      cases oldParent.symm.trans under
      have higher : p₀ ≠ n₀ :: p₀ := by simp
      have before := (joins.other source oldParent higher).mp watched
      refine (joins other).mpr (.inl ?_)
      by_contra unwatched
      exact kept ⟨other, oldDir, target, oldParent, before, childKind, unwatched⟩
    · cases source.symm.trans stood
      cases newParent.symm.trans under
      exact joins.moved watched
    · exact watched_of_kept covered source newParent joins clean stood under childKind watched

/-- One operation keeps the coverage exactly if it is not one of those two. -/
theorem covered_step_iff (taken : ActiveStep s e t) (covered : Covered s) :
    Covered t ↔ KeepsCovered ⟨s, e, t⟩ := by
  obtain ⟨taken, enabled, room⟩ := taken
  cases taken with
  | @mkdir n p id pick dir parent kind free fresh =>
    have joins := joins_mkdir enabled room pick dir ⟨id, true⟩
    refine iff_of_true (covered_of_put covered parent kind free fresh (fun x => (joins x).mp)
      (fun x before => (joins x).mpr (.inl before)) ?_) trivial
    exact fun _ watched => (joins _).mpr (.inr ⟨rfl, watched⟩)
  | create parent kind free fresh =>
    refine iff_of_true (covered_of_put covered parent kind free fresh (fun x => .inl)
      (fun x => id) ?_) trivial
    exact fun dir => by contradiction
  | remove leaf =>
    refine iff_of_true ?_ trivial
    intro n q dir child above here
    exact covered n q dir child ((Tree.drop_node leaf).mp above).2
      ((Tree.drop_node leaf).mp here).2
  | rename source oldParent newParent kind into leaf =>
    exact covered_of_move covered source newParent kind into (joins_rename enabled room _ _ _ _ _)
  | exchange source oldParent target newParent apart apart' =>
    exact covered_of_exchange covered source oldParent target newParent _ _ apart apart'
      (joins_rename enabled room _ _ _ _ _)
  | toggle => exact iff_of_true covered trivial

end Step

/-- From a complete boot scan, with the module enabled and room in the map: after every
operation each directory below a watched one is watched, if and only if no rename brings an
unwatched directory with an unwatched subdirectory below a watched directory, and no exchange
leaves an unwatched directory there. -/
theorem covered_throughout_iff {targets : List Path} {s u : State}
    {moves : List (Move State Event)} (scanned : Scanned targets s)
    (run : Run ActiveStep s moves u) :
    (∀ m ∈ moves, Covered m.target) ↔ ∀ m ∈ moves, KeepsCovered m :=
  run.invariant_iff_moves (fun _ _ _ taken covered => covered_step_iff taken covered)
    (covered_of_scanned scanned)

section Sample

theorem covered_throughout_iff_sample :
    ∃ t, Step sampleStart (.mkdir "a" ["tmp"] ⟨20, 1⟩ 0) t ∧ Covered t := by
  have taken : Step sampleStart (.mkdir "a" ["tmp"] ⟨20, 1⟩ 0) _ := .mkdir rfl rfl rfl fresh_twenty
  refine ⟨_, taken, ?_⟩
  refine (covered_throughout_iff sampleStart_scanned
    (.cons ⟨taken, rfl, by decide⟩ (.nil _))).mpr ?_ _ List.mem_cons_self
  intro m member
  rw [List.mem_singleton.mp member]
  trivial

def homeA : State := sampleStart.mkdir "a" ["home"] ⟨20, 1⟩ 0 homeDir rfl rfl rfl fresh_twenty

private theorem fresh_b : homeA.tree.Fresh ⟨21, 1⟩ :=
  fresh_mkdir (sampleTree_fresh (by decide) (by decide) (by decide)) (by decide)

def homeAB : State :=
  homeA.mkdir "b" ["a", "home"] ⟨21, 1⟩ 0 ⟨⟨20, 1⟩, true⟩ rfl rfl rfl fresh_b

/-- A tree `/home/a/b` is made and then moved to `/tmp/a`: its inner directory is not watched. -/
theorem moved_tree_uncovered :
    Scanned execBlockTargets sampleStart ∧ ∃ moves u, Run ActiveStep sampleStart moves u ∧
      moves.map Move.label = [.mkdir "a" ["home"] ⟨20, 1⟩ 0, .mkdir "b" ["a", "home"] ⟨21, 1⟩ 0,
        .rename "a" ["home"] "a" ["tmp"] 0] ∧ ¬ Covered u := by
  have first : Step sampleStart (.mkdir "a" ["home"] ⟨20, 1⟩ 0) homeA :=
    .mkdir rfl rfl rfl fresh_twenty
  have second : Step homeA (.mkdir "b" ["a", "home"] ⟨21, 1⟩ 0) homeAB :=
    .mkdir rfl rfl rfl fresh_b
  have third : Step homeAB (.rename "a" ["home"] "a" ["tmp"] 0) _ :=
    .rename rfl rfl rfl rfl (by decide) (Tree.leaf_of_free rfl)
  refine ⟨sampleStart_scanned, _, _, .cons ⟨first, rfl, by decide⟩
    (.cons ⟨second, rfl, by decide⟩ (.cons ⟨third, rfl, by decide⟩ (.nil _))), rfl, ?_⟩
  intro covered
  have watched := covered "b" ["a", "tmp"] ⟨⟨20, 1⟩, true⟩ ⟨⟨21, 1⟩, true⟩ rfl rfl rfl (by decide)
  exact absurd watched (by decide)

end Sample

end BouclierBleu.Watchlist.Coverage
