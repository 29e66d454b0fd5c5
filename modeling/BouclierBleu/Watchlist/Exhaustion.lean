/- GID: BouclierBleu/Watchlist/Exhaustion
   source: bpf/headers/vfs_helpers.h
   digest: How many directories an evicting watchlist takes before it forgets one. -/

import BouclierBleu.Watchlist.Filesystem

set_option autoImplicit false
set_option relaxedAutoImplicit false

namespace BouclierBleu.Watchlist.Exhaustion

open BouclierBleu.Kernel.ModuleCore (SIGKILL)
open BouclierBleu.Kernel.VfsHelpers
open BouclierBleu.Library.BoundedMaps (BoundedMap)
open BouclierBleu.Library.PathTrees
open BouclierBleu.Library.Trace (Move Run)
open BouclierBleu.Watchlist.Filesystem

/-- A mkdir below a watched directory while the module is enabled. -/
inductive MkdirStep : State → Event → State → Prop
  | mk {s : State} {n : String} {p : Path} {id : DirId} {pick : Nat} {dir : Object}
      (parent : s.tree.node p = some dir) (kind : dir.isDir = true)
      (free : s.tree.node (n :: p) = none) (fresh : s.tree.Fresh id) (enabled : s.Enabled)
      (watched : s.Watches dir) :
      MkdirStep s (.mkdir n p id pick) (s.mkdir n p id pick dir parent kind free fresh)

/-- Either nothing watched is lost and the new directory is watched, or the process that made
it is killed. -/
def FailsClosed (m : Move State Event) : Prop :=
  ∀ n p id pick dir, m.label = .mkdir n p id pick → m.source.tree.node p = some dir →
    ((∀ j, Protected m.source.protectedDirs j → Protected m.target.protectedDirs j) ∧
      Protected m.target.protectedDirs id) ∨
    SIGKILL ∈ (m.source.mkdirHook pick dir ⟨id, true⟩).2

section Step

variable {s t : State} {e : Event}

/-- Below a watched directory the hook either stores the new id or kills. -/
private theorem mkdir_cases (taken : MkdirStep s e t) :
    ∃ n p id pick dir, e = .mkdir n p id pick ∧ s.tree.node p = some dir ∧ s.tree.Fresh id ∧
      ((s.protectedDirs.update pick id 1 = some t.protectedDirs ∧
          (s.mkdirHook pick dir ⟨id, true⟩).2 = []) ∨
        (s.protectedDirs.update pick id 1 = none ∧ t.protectedDirs = s.protectedDirs ∧
          (s.mkdirHook pick dir ⟨id, true⟩).2 = [SIGKILL])) := by
  cases taken with
  | @mk n p id pick dir parent kind free fresh enabled watched =>
    refine ⟨n, p, id, pick, dir, rfl, parent, fresh, ?_⟩
    simp only [State.mkdir, mkdirHook_of_enabled enabled]
    rcases inheritProtection_of_protected pick id watched with
      ⟨map, stored, shape⟩ | ⟨refused, shape⟩
    · rw [shape]
      exact .inl ⟨stored, rfl⟩
    · rw [shape]
      exact .inr ⟨refused, rfl, rfl⟩

/-- What a run keeps besides the size of the map. -/
structure Evicting (s : State) : Prop where
  listed : Listed s
  mapType : s.protectedDirs.policy = protectedDirsType

private theorem evicting_step (taken : MkdirStep s e t) (evicting : Evicting s) : Evicting t := by
  constructor
  · cases taken with
    | mk _ _ _ _ _ _ => exact listed_mkdir evicting.listed
  · obtain ⟨_, _, _, _, _, _, _, _, ⟨stored, _⟩ | ⟨_, same, _⟩⟩ := mkdir_cases taken
    · rw [BoundedMap.update_policy stored]
      exact evicting.mapType
    · rw [same]
      exact evicting.mapType

private theorem maxEntries_step (taken : MkdirStep s e t) :
    t.protectedDirs.maxEntries = s.protectedDirs.maxEntries := by
  obtain ⟨_, _, _, _, _, _, _, _, ⟨stored, _⟩ | ⟨_, same, _⟩⟩ := mkdir_cases taken
  · exact BoundedMap.update_maxEntries stored
  · rw [same]

private theorem size_step (taken : MkdirStep s e t) (evicting : Evicting s)
    (room : ¬ s.protectedDirs.Full) : t.protectedDirs.size = s.protectedDirs.size + 1 := by
  obtain ⟨_, _, id, _, _, _, _, fresh, ⟨stored, _⟩ | ⟨refused, _⟩⟩ := mkdir_cases taken
  · exact BoundedMap.size_update_fresh stored (evicting.listed.lookup_fresh fresh) room
  · exact absurd (BoundedMap.update_eq_none.mp refused).2.1 room

/-- An update that evicts nothing fails closed. -/
private theorem failsClosed_of_stored {n : String} {p : Path} {id : DirId} {pick : Nat}
    (stored : s.protectedDirs.update pick id 1 = some t.protectedDirs)
    (room : s.protectedDirs.policy = .reject ∨ ¬ s.protectedDirs.Full) :
    FailsClosed ⟨s, .mkdir n p id pick, t⟩ := by
  intro _ _ _ _ _ label _
  cases label
  refine .inl ⟨?_, BoundedMap.lookup_update_self stored⟩
  intro j held
  by_cases same : j = id
  · subst same
    exact BoundedMap.lookup_update_self stored
  · have kept := BoundedMap.lookup_update_ne stored (room.imp_right .inl) same
    exact kept.trans held

/-- A full map silently gives up an entry for the new one. -/
theorem failsClosed_iff_room (taken : MkdirStep s e t) (evicting : Evicting s) :
    FailsClosed ⟨s, e, t⟩ ↔ ¬ s.protectedDirs.Full := by
  obtain ⟨n, p, id, pick, dir, rfl, parent, fresh, stored⟩ := mkdir_cases taken
  have absent := evicting.listed.lookup_fresh fresh
  rcases stored with ⟨stored, quiet⟩ | ⟨refused, _⟩
  · constructor
    · intro closed full
      obtain ⟨j, value, other, held, lost⟩ := BoundedMap.exists_evicted stored full absent
      rw [(evicting.listed j value held).1] at held
      rcases closed n p id pick dir rfl parent with ⟨kept, _⟩ | killed
      · have still : t.protectedDirs.lookup j = some 1 := kept j held
        rw [lost] at still
        contradiction
      · change SIGKILL ∈ (s.mkdirHook pick dir ⟨id, true⟩).2 at killed
        rw [quiet] at killed
        contradiction
    · exact fun room => failsClosed_of_stored stored (.inr room)
  · have rejects := (BoundedMap.update_eq_none.mp refused).1
    rw [evicting.mapType] at rejects
    contradiction

/-- A map that rejected would fail closed at every size. -/
theorem failsClosed_of_reject (taken : MkdirStep s e t)
    (rejects : s.protectedDirs.policy = .reject) : FailsClosed ⟨s, e, t⟩ := by
  obtain ⟨n, p, id, pick, dir, rfl, parent, fresh, stored⟩ := mkdir_cases taken
  rcases stored with ⟨stored, _⟩ | ⟨_, _, killed⟩
  · exact failsClosed_of_stored stored (.inl rejects)
  · intro _ _ _ _ _ label here
    cases label
    cases parent.symm.trans here
    refine .inr ?_
    change SIGKILL ∈ (s.mkdirHook pick dir ⟨id, true⟩).2
    rw [killed]
    exact List.mem_singleton.mpr rfl

end Step

private theorem failsClosed_run {s u : State} {moves : List (Move State Event)}
    (evicting : Evicting s) (run : Run MkdirStep s moves u) :
    (∀ m ∈ moves, FailsClosed m) ↔
      s.protectedDirs.size + moves.length ≤ s.protectedDirs.maxEntries := by
  induction run with
  | nil s =>
    have bounded : s.protectedDirs.size ≤ s.protectedDirs.maxEntries := s.protectedDirs.bounded
    simpa using bounded
  | @cons s t u e moves taken rest ih =>
    have closed := failsClosed_iff_room taken evicting
    rw [List.forall_mem_cons, closed, ih (evicting_step taken evicting), maxEntries_step taken,
      List.length_cons]
    have bounded : s.protectedDirs.size ≤ s.protectedDirs.maxEntries := s.protectedDirs.bounded
    by_cases full : s.protectedDirs.Full
    · have size : s.protectedDirs.size = s.protectedDirs.maxEntries := full
      constructor
      · exact fun both => absurd full both.1
      · intro fits
        omega
    · rw [size_step taken evicting full]
      constructor
      · rintro ⟨_, fits⟩
        omega
      · intro fits
        exact ⟨full, by omega⟩

/-- From a boot scan of any size into a map of any capacity: every mkdir below a watched
directory fails closed if and only if the entries of the scan and the directories made fit the
map together. -/
theorem failsClosed_throughout_iff {targets : List Path} {s u : State}
    {moves : List (Move State Event)} (scanned : Scanned targets s)
    (mapType : s.protectedDirs.policy = protectedDirsType) (run : Run MkdirStep s moves u) :
    (∀ m ∈ moves, FailsClosed m) ↔
      s.protectedDirs.size + moves.length ≤ s.protectedDirs.maxEntries :=
  failsClosed_run ⟨scanned.listed, mapType⟩ run

section Sample

/-- A watched directory with nothing below it, and inode numbers left from `i` on. -/
private structure Extensible (s : State) (i : Nat) : Prop where
  evicting : Evicting s
  enabled : s.Enabled
  spare : ∀ p o, s.tree.node p = some o → o.id.ino.toNat < i
  place : ∃ p dir, s.tree.node p = some dir ∧ dir.isDir = true ∧ s.Watches dir ∧ s.tree.Leaf p

private theorem extend {s : State} {i : Nat} (extensible : Extensible s i) (small : i < 2 ^ 64) :
    ∃ e t, MkdirStep s e t ∧ Extensible t (i + 1) := by
  obtain ⟨evicting, enabled, spare, p, dir, parent, kind, watched, leaf⟩ := extensible
  have ino : (UInt64.ofNat i).toNat = i := UInt64.toNat_ofNat_of_lt' small
  have fresh : s.tree.Fresh ⟨UInt64.ofNat i, 1⟩ := by
    intro q o here same
    have below := spare q o here
    rw [same, ino] at below
    exact lt_irrefl i below
  have taken : MkdirStep s (.mkdir "a" p ⟨UInt64.ofNat i, 1⟩ 0) _ :=
    .mk parent kind (leaf "a") fresh enabled watched
  refine ⟨_, _, taken, ⟨evicting_step taken evicting, enabled, ?_, "a" :: p, _, node_mkdir_self,
    rfl, ?_, leaf_mkdir⟩⟩
  · intro q o here
    rcases node_of_mkdir here with ⟨_, rfl⟩ | stood
    · rw [ino]
      omega
    · have below := spare q o stood
      omega
  · obtain ⟨_, _, _, _, _, label, _, _, ⟨stored, _⟩ | ⟨refused, _⟩⟩ := mkdir_cases taken
    · cases label
      exact BoundedMap.lookup_update_self stored
    · have rejects := (BoundedMap.update_eq_none.mp refused).1
      rw [evicting.mapType] at rejects
      contradiction

private theorem exists_run (k : Nat) {s : State} {i : Nat} (extensible : Extensible s i)
    (small : i + k < 2 ^ 64) : ∃ moves u, Run MkdirStep s moves u ∧ moves.length = k := by
  induction k generalizing s i with
  | zero => exact ⟨[], s, .nil s, rfl⟩
  | succ k ih =>
    obtain ⟨e, t, taken, next⟩ := extend extensible (by omega)
    obtain ⟨moves, u, run, length⟩ := ih next (by omega)
    exact ⟨_, u, .cons taken run, by rw [List.length_cons, length]⟩

private theorem sampleStart_evicting : Evicting sampleStart := ⟨sampleStart_scanned.listed, rfl⟩

theorem failsClosed_throughout_iff_sample : ∃ t,
    MkdirStep sampleStart (.mkdir "a" ["tmp"] ⟨20, 1⟩ 0) t ∧
      FailsClosed ⟨sampleStart, .mkdir "a" ["tmp"] ⟨20, 1⟩ 0, t⟩ := by
  have taken : MkdirStep sampleStart (.mkdir "a" ["tmp"] ⟨20, 1⟩ 0) _ :=
    .mk rfl rfl rfl fresh_twenty rfl (by decide)
  have fits : 1 + 1 ≤ 8192 := by decide
  exact ⟨_, taken, (failsClosed_throughout_iff sampleStart_scanned rfl
    (.cons taken (.nil _))).mpr fits _ List.mem_cons_self⟩

/-- A loop of 8192 mkdirs below `/tmp`, into a map of the default capacity. -/
theorem mkdir_loop_evicts :
    Scanned execBlockTargets sampleStart ∧
      sampleStart.protectedDirs.policy = protectedDirsType ∧
      sampleStart.protectedDirs.maxEntries = 8192 ∧
      ∃ moves u, Run MkdirStep sampleStart moves u ∧ moves.length = 8192 ∧
        ∃ m ∈ moves, ¬ FailsClosed m := by
  refine ⟨sampleStart_scanned, rfl, rfl, ?_⟩
  have start : Extensible sampleStart 20 := by
    refine ⟨sampleStart_evicting, rfl, ?_, ["tmp"], tmpDir, rfl, rfl, by decide, ?_⟩
    · intro p o here
      rcases sampleTree_cases here with ⟨_, rfl⟩ | ⟨_, rfl⟩ | ⟨_, rfl⟩ <;> decide
    · intro n
      by_contra live
      obtain ⟨o, here⟩ := Option.ne_none_iff_exists'.mp live
      rcases sampleTree_cases here with ⟨path, _⟩ | ⟨path, _⟩ | ⟨path, _⟩ <;> simp at path
  obtain ⟨moves, u, run, length⟩ := exists_run 8192 start (by omega)
  refine ⟨moves, u, run, length, ?_⟩
  by_contra none_open
  have closed : ∀ m ∈ moves, FailsClosed m := by
    intro m member
    by_contra fails
    exact none_open ⟨m, member, fails⟩
  have fits := (failsClosed_run sampleStart_evicting run).mp closed
  rw [length] at fits
  have exceeds : ¬ 1 + 8192 ≤ 8192 := by decide
  exact exceeds fits

end Sample

end BouclierBleu.Watchlist.Exhaustion
