/- GID: BouclierBleu/Watchlist/StaleProtection
   source: bpf/headers/vfs_helpers.h, bpf/exec_block.bpf.c
   digest: Which moves and reused ids leave protection outside the target paths. -/

import BouclierBleu.Watchlist.ExecBlock
import BouclierBleu.Watchlist.Filesystem

set_option autoImplicit false
set_option relaxedAutoImplicit false

namespace BouclierBleu.Watchlist.StaleProtection

open BouclierBleu.Kernel.ModuleCore (isModuleActive_some)
open BouclierBleu.Kernel.VfsHelpers
open BouclierBleu.Library.PathTrees
open BouclierBleu.Library.Trace (Move Run)
open BouclierBleu.Watchlist.ExecBlock
open BouclierBleu.Watchlist.Filesystem

/-- With the module enabled, an execution in a directory that is not at or below a target path is
denied only for what the hook looks at next, unsealed memory without a link. -/
def DeniesBelow (targets : List Path) (s : State) : Prop :=
  ∀ p dir, s.tree.node p = some dir → dir.isDir = true →
    ∀ pathBuffer shmem reserved task dPath (file : File), file.parent = some (dentryOf dir.id) →
      (execBlockBprmCheck ⟨some 1, s.protectedDirs, pathBuffer⟩ shmem reserved task dPath
        (some file)).Denied →
      Below targets p ∨
        (¬ s.Watches dir ∧ (file.fInode.map Inode.nlink).getD 0 = 0 ∧
          unsealedMemory shmem file.fInode file.seals = true)

/-- Every watched directory that stands at or below `src` would stand below a target path if
`src` were at `dst`. -/
def Carries (targets : List Path) (s : State) (src dst : Path) : Prop :=
  ∀ q o, s.tree.node (q ++ src) = some o → o.isDir = true → s.Watches o →
    Below targets (q ++ dst)

/-- No directory whose id is in the watchlist comes to a place outside the target paths. -/
def KeepsPlaced (targets : List Path) (m : Move State Event) : Prop :=
  match m.label with
  | .mkdir n p id _ => Protected m.source.protectedDirs id → Below targets (n :: p)
  | .rename n₀ p₀ n p _ => Carries targets m.source (n₀ :: p₀) (n :: p)
  | .exchange n₀ p₀ n p _ =>
    Carries targets m.source (n₀ :: p₀) (n :: p) ∧ Carries targets m.source (n :: p) (n₀ :: p₀)
  | _ => True

/-- Every watched directory stands at or below a target path. -/
def Placed (targets : List Path) (s : State) : Prop :=
  ∀ p o, s.tree.node p = some o → o.isDir = true → s.Watches o → Below targets p

variable {targets : List Path} {s t : State} {e : Event}

theorem placed_of_scanned (scanned : Scanned targets s) : Placed targets s := by
  intro p o here _ watched
  obtain ⟨_, q, dir, there, _, same, below⟩ := scanned.exact_entries o.id 1 watched
  obtain ⟨rfl, rfl⟩ := s.tree.eq_of_key there here same
  exact below

/-- The hook tells which directories are watched. -/
theorem deniesBelow_iff_placed : DeniesBelow targets s ↔ Placed targets s := by
  constructor
  · intro denies p dir here kind watched
    have linked : (inodeOf dir.id).nlink ≠ 0 := by
      have one : (1 : UInt32) ≠ 0 := by decide
      exact one
    have denied : (execBlockBprmCheck ⟨some 1, s.protectedDirs, some []⟩ ⟨true, 0, 0⟩ true
        ⟨0, 0, none⟩ .failed
        (some ⟨some (dentryOf dir.id), some (inodeOf dir.id), none⟩)).Denied :=
      (denied_iff_of_linked linked).mpr ⟨(isModuleActive_some 1).mpr rfl, by simp, watched⟩
    rcases denies p dir here kind _ _ _ _ _ _ rfl denied with below | ⟨unwatched, _⟩
    · exact below
    · exact absurd watched unwatched
  · intro placed p dir here kind pathBuffer shmem reserved task dPath file within denied
    obtain ⟨_, _, reason⟩ := (denied_iff within).mp denied
    by_cases watched : s.Watches dir
    · exact .inl (placed p dir here kind watched)
    · exact .inr ⟨watched, reason.resolve_left watched⟩

section Step

/-- Under a watched directory everything is below a target path. -/
private theorem below_of_watched {n : String} {p : Path} {dir : Object}
    (placed : Placed targets s) (parent : s.tree.node p = some dir) (kind : dir.isDir = true)
    (watched : s.Watches dir) (q : Path) : Below targets (q ++ n :: p) := by
  have above := placed p dir parent kind watched
  rw [← List.singleton_append, ← List.append_assoc]
  exact above.append (q ++ [n])

private theorem placed_of_mkdir {n : String} {p : Path} {id : DirId} {pick : Nat} {dir : Object}
    (placed : Placed targets s) (parent : s.tree.node p = some dir) (kind : dir.isDir = true)
    (free : s.tree.node (n :: p) = none) (fresh : s.tree.Fresh id)
    (clean : Protected s.protectedDirs id → Below targets (n :: p)) :
    Placed targets (s.mkdir n p id pick dir parent kind free fresh) := by
  intro q o here directory watched
  rcases node_of_mkdir here with ⟨rfl, rfl⟩ | stood
  · rcases protected_of_mkdirHook watched with before | ⟨_, inside⟩
    · exact clean before
    · exact below_of_watched placed parent kind inside []
  · rcases protected_of_mkdirHook watched with before | ⟨same, _⟩
    · exact placed q o stood directory before
    · exact absurd same (fresh q o stood)

private theorem placed_of_rename {n₀ n : String} {p₀ p : Path} {pick : Nat}
    {oldDir moved newDir : Object} (placed : Placed targets s)
    (source : s.tree.node (n₀ :: p₀) = some moved) (newParent : s.tree.node p = some newDir)
    (kind : newDir.isDir = true) (into : ¬ n₀ :: p₀ <:+ n :: p)
    (clean : Carries targets s (n₀ :: p₀) (n :: p)) :
    Placed targets (s.rename n₀ p₀ n p pick oldDir moved newDir newParent kind into) := by
  intro r o here directory watched
  rcases Tree.node_of_move ⟨newDir, newParent, kind⟩ into here with
    ⟨q, rfl, stood⟩ | ⟨outside, stood⟩
  · rcases protected_of_mkdirHook watched with before | ⟨_, inside⟩
    · exact clean q o stood directory before
    · exact below_of_watched placed newParent kind inside q
  · rcases protected_of_mkdirHook watched with before | ⟨same, _⟩
    · exact placed r o stood directory before
    · obtain ⟨path, _⟩ := s.tree.eq_of_key source stood same.symm
      exact absurd (path ▸ List.suffix_rfl) outside

private theorem placed_of_exchange {n₀ n : String} {p₀ p : Path} {pick : Nat}
    {oldDir moved newDir other : Object} (placed : Placed targets s)
    (source : s.tree.node (n₀ :: p₀) = some moved) (target : s.tree.node (n :: p) = some other)
    (newParent : s.tree.node p = some newDir) (apart : ¬ n₀ :: p₀ <:+ n :: p)
    (apart' : ¬ n :: p <:+ n₀ :: p₀) (clean : Carries targets s (n₀ :: p₀) (n :: p))
    (clean' : Carries targets s (n :: p) (n₀ :: p₀)) :
    Placed targets
      (s.exchange n₀ p₀ n p pick oldDir moved newDir other source target apart apart') := by
  have kind : newDir.isDir = true := by
    obtain ⟨dir, there, directory⟩ := Tree.inner_of_child target
    cases newParent.symm.trans there
    exact directory
  have liveA : (s.tree.node (n₀ :: p₀)).isSome := by rw [source]; rfl
  have liveB : (s.tree.node (n :: p)).isSome := by rw [target]; rfl
  intro r o here directory watched
  rcases Tree.node_of_exchange liveA liveB apart apart' here with
    ⟨q, rfl, stood⟩ | ⟨q, rfl, stood⟩ | ⟨outside, stood⟩ <;>
    rcases protected_of_mkdirHook watched with before | ⟨same, inside⟩
  · exact clean' q o stood directory before
  · obtain ⟨path, _⟩ := s.tree.eq_of_key source stood same.symm
    exact absurd (path ▸ List.suffix_append q (n :: p)) apart'
  · exact clean q o stood directory before
  · exact below_of_watched placed newParent kind inside q
  · exact placed r o stood directory before
  · obtain ⟨path, _⟩ := s.tree.eq_of_key source stood same.symm
    exact absurd (path ▸ List.suffix_rfl) outside

theorem placed_step (taken : Step s e t) (clean : KeepsPlaced targets ⟨s, e, t⟩)
    (placed : Placed targets s) : Placed targets t := by
  cases taken with
  | mkdir parent kind free fresh => exact placed_of_mkdir placed parent kind free fresh clean
  | @create n p id dir parent kind free fresh =>
    intro q o here directory watched
    rcases Tree.node_of_put ⟨dir, parent, kind⟩ free fresh here with ⟨_, rfl⟩ | stood
    · contradiction
    · exact placed q o stood directory watched
  | remove leaf =>
    intro q o here directory watched
    exact placed q o ((Tree.drop_node leaf).mp here).2 directory watched
  | rename source oldParent newParent kind into leaf =>
    exact placed_of_rename placed source newParent kind into clean
  | exchange source oldParent target newParent apart apart' =>
    exact placed_of_exchange placed source target newParent apart apart' clean.1 clean.2
  | toggle => exact placed

/-- While nothing is evicted, no weaker condition will do. -/
theorem keepsPlaced_of_placed (taken : Step s e t) (room : ¬ s.protectedDirs.Full)
    (placed : Placed targets t) : KeepsPlaced targets ⟨s, e, t⟩ := by
  cases taken with
  | @mkdir n p id pick dir parent kind free fresh =>
    intro reused
    exact placed (n :: p) ⟨id, true⟩ node_mkdir_self rfl (protected_mkdirHook room reused)
  | @rename n₀ n p₀ p pick oldDir moved newDir source oldParent newParent kind into leaf =>
    intro q o stood directory watched
    have arrived := Tree.move_node_below ⟨newDir, newParent, kind⟩ into q
    exact placed (q ++ n :: p) o (arrived.trans stood) directory
      (protected_mkdirHook room watched)
  | @exchange n₀ n p₀ p pick oldDir moved newDir other source oldParent target newParent apart
      apart' =>
    have liveA : (s.tree.node (n₀ :: p₀)).isSome := by rw [source]; rfl
    have liveB : (s.tree.node (n :: p)).isSome := by rw [target]; rfl
    constructor
    · intro q o stood directory watched
      have arrived := Tree.exchange_node_right liveA liveB apart apart' q
      exact placed (q ++ n :: p) o (arrived.trans stood) directory
        (protected_mkdirHook room watched)
    · intro q o stood directory watched
      have arrived := Tree.exchange_node_left liveA liveB apart apart' q
      exact placed (q ++ n₀ :: p₀) o (arrived.trans stood) directory
        (protected_mkdirHook room watched)
  | create | remove | toggle => trivial

end Step

/-- From an exact boot scan: every execution that is denied for its directory takes place at or
below a target path, in every run in which no directory whose id is in the watchlist comes to a
place outside the target paths; and in no other run that keeps room in the map. -/
theorem denies_only_below {u : State} {moves : List (Move State Event)}
    (scanned : Scanned targets s) (run : Run Step s moves u) :
    ((∀ m ∈ moves, KeepsPlaced targets m) →
        DeniesBelow targets s ∧ ∀ m ∈ moves, DeniesBelow targets m.target) ∧
      ((∀ m ∈ moves, ¬ m.source.protectedDirs.Full) →
        (∀ m ∈ moves, DeniesBelow targets m.target) → ∀ m ∈ moves, KeepsPlaced targets m) := by
  have start := placed_of_scanned scanned
  simp only [deniesBelow_iff_placed]
  constructor
  · intro clean
    refine ⟨start, fun m member => ?_⟩
    exact (run.invariant_at_moves (fun _ _ _ => placed_step) clean start member).2
  · intro room placed m member
    exact keepsPlaced_of_placed (run.step_of_mem member) (room m member) (placed m member)

section Sample

def tmpA : State := sampleStart.mkdir "a" ["tmp"] ⟨20, 1⟩ 0 tmpDir rfl tmpDir_isDir rfl fresh_twenty

private theorem step_tmpA : Step sampleStart (.mkdir "a" ["tmp"] ⟨20, 1⟩ 0) tmpA :=
  .mkdir rfl rfl rfl fresh_twenty

theorem denies_only_below_sample :
    ∃ u, Step tmpA (.rename "a" ["tmp"] "b" ["tmp"] 0) u ∧ DeniesBelow execBlockTargets u := by
  have taken : Step tmpA (.rename "a" ["tmp"] "b" ["tmp"] 0) _ :=
    .rename rfl rfl rfl rfl (by decide) (Tree.leaf_of_free rfl)
  have run := Run.cons step_tmpA (.cons taken (.nil _))
  obtain ⟨_, each⟩ := (denies_only_below sampleStart_scanned run).1 (by
    rw [List.forall_mem_cons, List.forall_mem_singleton]
    constructor
    · intro _
      decide
    · intro q o _ _ _
      have below : Below execBlockTargets ["b", "tmp"] := by decide
      exact below.append q)
  exact ⟨_, taken, each _ (List.mem_cons_of_mem _ List.mem_cons_self)⟩

/-- A directory made below `/tmp` is moved to `/home`: executions in it are still denied. -/
theorem moved_out_denied :
    Scanned execBlockTargets sampleStart ∧ ∃ moves u, Run Step sampleStart moves u ∧
      moves.map Move.label =
        [.mkdir "a" ["tmp"] ⟨20, 1⟩ 0, .rename "a" ["tmp"] "a" ["home"] 0] ∧
      u.Enabled ∧ ¬ DeniesBelow execBlockTargets u := by
  have taken : Step tmpA (.rename "a" ["tmp"] "a" ["home"] 0) _ :=
    .rename rfl rfl rfl rfl (by decide) (Tree.leaf_of_free rfl)
  refine ⟨sampleStart_scanned, _, _, .cons step_tmpA (.cons taken (.nil _)), rfl, rfl, ?_⟩
  rw [deniesBelow_iff_placed]
  intro placed
  have below := placed ["a", "home"] ⟨⟨20, 1⟩, true⟩ rfl rfl (by decide)
  exact absurd below (by decide)

end Sample

end BouclierBleu.Watchlist.StaleProtection
