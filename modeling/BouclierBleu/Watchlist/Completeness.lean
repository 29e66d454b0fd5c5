/- GID: BouclierBleu/Watchlist/Completeness
   source: bpf/headers/vfs_helpers.h, bpf/exec_block.bpf.c, bpf/rename_entropy.bpf.c
   digest: Which events let a directory below a target path escape the watchlist. -/

import BouclierBleu.Watchlist.Toggles

set_option autoImplicit false
set_option relaxedAutoImplicit false

namespace BouclierBleu.Watchlist.Completeness

open BouclierBleu.Kernel.ModuleCore (isModuleActive isModuleActive_some CStr EPERM Outcome Task)
open BouclierBleu.Kernel.VfsHelpers
open BouclierBleu.Library.BoundedMaps (BoundedMap)
open BouclierBleu.Library.PathTrees
open BouclierBleu.Library.Trace (Move Run)
open BouclierBleu.Watchlist.ExecBlock (File execBlockBprmCheck denied_iff denied_iff_of_linked)
open BouclierBleu.Watchlist.Filesystem
open BouclierBleu.Watchlist.RenameEntropy
open BouclierBleu.Watchlist.Toggles (Module)

/-- Every directory at or below a target path is watched. -/
def Complete (targets : List Path) (s : State) : Prop :=
  ∀ p o, s.tree.node p = some o → o.isDir = true → Below targets p → s.Watches o

/-- What both watchlists are from their creation on. -/
structure Sound (map : ProtectedDirs) : Prop where
  mapType : map.policy = protectedDirsType
  ones : ∀ id value, map.lookup id = some value → value = 1

section Events

/-- The hook is at work in a directory. -/
def Enters (s : State) (dir : Object) : Prop := s.Enabled ∧ s.Watches dir

/-- In a full map the hook gives up the entry of another directory. -/
def Evicts (s : State) (pick : Nat) (dir : Object) (child id : DirId) : Prop :=
  Enters s dir ∧ s.protectedDirs.victim pick child = some id

/-- None of the directories that are at or below a target path afterwards is given up. -/
def Spares (targets : List Path) (m : Move State Event) (pick : Nat) (dir : Object)
    (child : DirId) : Prop :=
  ∀ q o, m.target.tree.node q = some o → o.isDir = true → Below targets q →
    ¬ Evicts m.source pick dir child o.id

/-- What comes from `src` to `dst` is watched already where it is then at or below a target path,
but for its topmost directory if the hook enters that. -/
def Arrives (targets : List Path) (s : State) (src dst : Path) (enters : Prop) : Prop :=
  ∀ q o, s.tree.node (q ++ src) = some o → o.isDir = true → Below targets (q ++ dst) →
    s.Watches o ∨ (q = [] ∧ enters)

/-- What an event must avoid: that a directory is made at or below a target path while the module
is off or its parent is unwatched, unless its id is in the watchlist of old; that one is brought
there that nobody has watched; and that an entry still in use is evicted. -/
def KeepsComplete (targets : List Path) (m : Move State Event) : Prop :=
  match m.label with
  | .mkdir n p id pick => ∀ dir, m.source.tree.node p = some dir →
    (Below targets (n :: p) → Protected m.source.protectedDirs id ∨ Enters m.source dir) ∧
      Spares targets m pick dir id
  | .rename n₀ p₀ n p pick => ∀ moved newDir, m.source.tree.node (n₀ :: p₀) = some moved →
    m.source.tree.node p = some newDir →
    Arrives targets m.source (n₀ :: p₀) (n :: p) (Enters m.source newDir) ∧
      Spares targets m pick newDir moved.id
  | .exchange n₀ p₀ n p pick => ∀ moved newDir, m.source.tree.node (n₀ :: p₀) = some moved →
    m.source.tree.node p = some newDir →
    Arrives targets m.source (n₀ :: p₀) (n :: p) (Enters m.source newDir) ∧
      Arrives targets m.source (n :: p) (n₀ :: p₀) False ∧
      Spares targets m pick newDir moved.id
  | .create .. | .remove _ | .toggle _ => True

end Events

section Verdict

/-- A name that `rename_entropy` refuses in a watched directory. -/
def Condemned (newName : Qstr) : Prop :=
  let nlen := if newName.len > 255 then 255 else newName.len.toNat
  let name : ScratchName := .copy 256 CStr.nameLen_pos newName.name
  (nlen < 8 || nlen > NAME_MAX) = false ∧ whitelisted name newName.len nlen = false ∧
    hScaled name nlen > ENTROPY_THRESHOLD_SCALED

/-- With its module enabled, a hook refuses what it is meant to refuse in a directory: every
execution, or every rename from or to a name that is condemned. -/
def Guards (map : ProtectedDirs) (dir : DirId) : Module → Prop
  | .execBlock => ∀ before shmem reserved task dPath (file : File),
      file.parent = some (dentryOf dir) →
        (execBlockBprmCheck ⟨some 1, map, some before⟩ shmem reserved task dPath
          (some file)).Denied
  | .renameEntropy => ∀ record task ppid resolved other newName, Condemned newName →
      (renameEntropyPathRename ⟨some 1, map, true⟩ record task ppid resolved (dentryOf dir) other
        newName).Denied ∧
      (renameEntropyPathRename ⟨some 1, map, true⟩ record task ppid resolved other (dentryOf dir)
        newName).Denied

variable {map : ProtectedDirs} {id : DirId}

theorem renameEntropyPathRename_denied_iff {record : Option (List UInt8)} {task : Task}
    {ppid : UInt32} {resolved : Option (List UInt8)} {oldDir newDir : Dentry} {newName : Qstr} :
    (renameEntropyPathRename ⟨some 1, map, true⟩ record task ppid resolved oldDir newDir
        newName).Denied ↔
      (watched map (extractDirIdFromDentry oldDir) = true ∨
        watched map (extractDirIdFromDentry newDir) = true) ∧ Condemned newName := by
  have active : isModuleActive (some 1) = true := (isModuleActive_some 1).mpr rfl
  by_cases inside : watched map (extractDirIdFromDentry oldDir) = true ∨
      watched map (extractDirIdFromDentry newDir) = true
  · have gate : (!watched map (extractDirIdFromDentry oldDir) &&
        !watched map (extractDirIdFromDentry newDir)) = false := by
      rcases inside with held | held <;> simp [held]
    simp only [renameEntropyPathRename, Condemned, active, gate, and_iff_right inside]
    generalize (if newName.len > 255 then 255 else newName.len.toNat) = nlen
    cases short : nlen < 8 || nlen > NAME_MAX with
    | true => simp
    | false =>
      cases listed : whitelisted (.copy 256 CStr.nameLen_pos newName.name) newName.len nlen with
      | true => simp
      | false =>
        by_cases random : hScaled (.copy 256 CStr.nameLen_pos newName.name) nlen >
            ENTROPY_THRESHOLD_SCALED
        · simp [random, Outcome.Denied, EPERM]
        · simp [random]
  · obtain ⟨old, new⟩ := not_or.mp inside
    simp [renameEntropyPathRename, active, old, new]

private theorem watched_iff (sound : Sound map) : watched map id = true ↔ Protected map id := by
  unfold watched Protected
  cases found : map.lookup id with
  | none => simp
  | some value => simp [sound.ones id value found]

private theorem condemned_randomName : Condemned randomName := by
  have held : (renameEntropyPathRename ⟨some 1, .single protectedDirsType 8192
      protectedDirsMax_pos ⟨0, 0⟩ 1, true⟩ none ⟨0, 0, none⟩ 0 none (dentryOf ⟨0, 0⟩)
      (dentryOf ⟨0, 0⟩) randomName).Denied :=
    (denied_randomName_iff rfl rfl (dentryOf ⟨0, 0⟩)).mpr (by decide)
  exact (renameEntropyPathRename_denied_iff.mp held).2

/-- A module guards a directory exactly if its watchlist holds it. -/
theorem guards_iff_protected (sound : Sound map) (module : Module) :
    Guards map id module ↔ Protected map id := by
  have active : isModuleActive (some 1) = true := (isModuleActive_some 1).mpr rfl
  cases module with
  | execBlock =>
    constructor
    · intro guards
      have linked : (inodeOf id).nlink ≠ 0 := by
        have one : (1 : UInt32) ≠ 0 := by decide
        exact one
      have denied := guards [] ⟨true, 0, 0⟩ true ⟨0, 0, none⟩ .failed
        ⟨some (dentryOf id), some (inodeOf id), none⟩ rfl
      exact ((denied_iff_of_linked linked).mp denied).2.2
    · intro held before shmem reserved task dPath file within
      exact (denied_iff within).mpr ⟨active, Option.some_ne_none before, .inl held⟩
  | renameEntropy =>
    constructor
    · intro guards
      have denied := (guards none ⟨0, 0, none⟩ 0 none (dentryOf id) randomName
        condemned_randomName).1
      have inside := (renameEntropyPathRename_denied_iff.mp denied).1
      rw [or_self] at inside
      exact (watched_iff sound).mp inside
    · intro held record task ppid resolved other newName condemned
      have inside : watched map (extractDirIdFromDentry (dentryOf id)) = true :=
        (watched_iff sound).mpr held
      exact ⟨renameEntropyPathRename_denied_iff.mpr ⟨.inl inside, condemned⟩,
        renameEntropyPathRename_denied_iff.mpr ⟨.inr inside, condemned⟩⟩

end Verdict

section Step

variable {targets : List Path} {s t : State} {e : Event} {pick : Nat} {dir child : Object}

/-- What a hook leaves of the watchlist, full or not. -/
private theorem lookup_mkdirHook (mapType : s.protectedDirs.policy = protectedDirsType)
    (j : DirId) :
    (Enters s dir ∧ j = child.id ∧ (s.mkdirHook pick dir child).1.lookup j = some 1) ∨
      (Evicts s pick dir child.id j ∧ j ≠ child.id ∧
        (s.mkdirHook pick dir child).1.lookup j = none) ∨
      (¬ (Enters s dir ∧ j = child.id) ∧ ¬ Evicts s pick dir child.id j ∧
        (s.mkdirHook pick dir child).1.lookup j = s.protectedDirs.lookup j) := by
  by_cases enters : Enters s dir
  · obtain ⟨map, stored, lookup⟩ :=
      BoundedMap.lookup_update_of_evict mapType pick child.id (1 : UInt8)
    have shape : (s.mkdirHook pick dir child).1 = map := by
      have inside : Protected s.protectedDirs dir.id := enters.2
      rw [mkdirHook_of_enabled enters.1, inheritProtection, if_pos inside, stored]
    rw [shape, lookup j]
    by_cases same : j = child.id
    · exact .inl ⟨enters, same, if_pos same⟩
    · rw [if_neg same]
      by_cases lost : s.protectedDirs.victim pick child.id = some j
      · exact .inr (.inl ⟨⟨enters, lost⟩, same, if_pos lost⟩)
      · exact .inr (.inr ⟨fun new => same new.2, fun evicted => lost evicted.2, if_neg lost⟩)
  · refine .inr (.inr ⟨fun new => enters new.1, fun evicted => enters evicted.1, ?_⟩)
    by_cases enabled : s.Enabled
    · have outside : ¬ Protected s.protectedDirs dir.id := fun inside => enters ⟨enabled, inside⟩
      rw [mkdirHook_of_enabled enabled, inheritProtection_of_unprotected outside]
    · rw [mkdirHook_of_disabled enabled]

private theorem protected_mkdirHook_iff (mapType : s.protectedDirs.policy = protectedDirsType)
    (j : DirId) : Protected (s.mkdirHook pick dir child).1 j ↔
      (Protected s.protectedDirs j ∨ (j = child.id ∧ Enters s dir)) ∧
        ¬ Evicts s pick dir child.id j := by
  rcases lookup_mkdirHook mapType j with
    ⟨enters, same, here⟩ | ⟨evicted, other, here⟩ | ⟨old, kept, here⟩
  · refine iff_of_true here ⟨.inr ⟨same, enters⟩, ?_⟩
    subst same
    exact fun evicted => BoundedMap.victim_ne evicted.2
  · refine iff_of_false ?_ fun both => both.2 evicted
    rw [Protected, here]
    exact (Option.some_ne_none 1).symm
  · rw [Protected, here, and_iff_left kept]
    exact ⟨.inl, fun held => held.resolve_right fun new => old ⟨new.2, new.1⟩⟩

private theorem sound_mkdirHook (sound : Sound s.protectedDirs) :
    Sound (s.mkdirHook pick dir child).1 := by
  refine ⟨?_, fun j value found => ?_⟩
  · by_cases enabled : s.Enabled
    · rw [mkdirHook_of_enabled enabled, inheritProtection]
      split
      · split
        · exact (BoundedMap.update_policy ‹_›).trans sound.mapType
        · exact sound.mapType
      · exact sound.mapType
    · rw [mkdirHook_of_disabled enabled]
      exact sound.mapType
  · rcases lookup_mkdirHook sound.mapType j with ⟨_, _, here⟩ | ⟨_, _, here⟩ | ⟨_, _, here⟩
    · rw [here] at found
      exact (Option.some.inj found).symm
    · rw [here] at found
      cases found
    · exact sound.ones j value (here.symm.trans found)

theorem Sound.step (taken : Step s e t) (sound : Sound s.protectedDirs) :
    Sound t.protectedDirs := by
  cases taken with
  | mkdir | rename | exchange => exact sound_mkdirHook sound
  | create | remove | toggle => exact sound

/-- Where a hook runs, the watchlist stays complete exactly if every directory that matters is in
it before, or is the one entered, and is not the one evicted. -/
private theorem complete_hook_iff (e : Event) (child : Object) (sound : Sound s.protectedDirs)
    (map : t.protectedDirs = (s.mkdirHook pick dir child).1) :
    Complete targets t ↔
      (∀ q o, t.tree.node q = some o → o.isDir = true → Below targets q →
        s.Watches o ∨ (o.id = child.id ∧ Enters s dir)) ∧
      Spares targets ⟨s, e, t⟩ pick dir child.id := by
  have same (o : Object) : t.Watches o ↔
      (s.Watches o ∨ (o.id = child.id ∧ Enters s dir)) ∧ ¬ Evicts s pick dir child.id o.id := by
    rw [State.Watches, map]
    exact protected_mkdirHook_iff sound.mapType o.id
  constructor
  · intro complete
    have each (q : Path) (o : Object) (here : t.tree.node q = some o) (kind : o.isDir = true)
        (below : Below targets q) := (same o).mp (complete q o here kind below)
    exact ⟨fun q o here kind below => (each q o here kind below).1,
      fun q o here kind below => (each q o here kind below).2⟩
  · exact fun both q o here kind below =>
      (same o).mpr ⟨both.1 q o here kind below, both.2 q o here kind below⟩

/-- What is at or below `src` in one tree and at or below `dst` in the next. -/
private theorem arrives_iff {src dst : Path} {moved newDir : Object}
    (source : s.tree.node src = some moved)
    (arrived : ∀ q, t.tree.node (q ++ dst) = s.tree.node (q ++ src)) :
    Arrives targets s src dst (Enters s newDir) ↔
      ∀ q o, t.tree.node (q ++ dst) = some o → o.isDir = true → Below targets (q ++ dst) →
        s.Watches o ∨ (o.id = moved.id ∧ Enters s newDir) := by
  constructor
  · intro arrives q o here kind below
    rw [arrived] at here
    refine (arrives q o here kind below).imp_right fun top => ⟨?_, top.2⟩
    obtain ⟨rfl, _⟩ := top
    cases source.symm.trans here
    rfl
  · intro supplied q o here kind below
    refine (supplied q o ((arrived q).trans here) kind below).imp_right fun top => ⟨?_, top.2⟩
    obtain ⟨path, _⟩ := s.tree.eq_of_key here source top.1
    exact List.append_left_eq_self.mp path

private theorem complete_mkdir_iff {n : String} {p : Path} {id : DirId}
    (sound : Sound s.protectedDirs) (complete : Complete targets s)
    (parent : s.tree.node p = some dir) (kind : dir.isDir = true)
    (free : s.tree.node (n :: p) = none) (fresh : s.tree.Fresh id) :
    Complete targets (s.mkdir n p id pick dir parent kind free fresh) ↔
      KeepsComplete targets
        ⟨s, .mkdir n p id pick, s.mkdir n p id pick dir parent kind free fresh⟩ := by
  rw [complete_hook_iff (.mkdir n p id pick) ⟨id, true⟩ sound rfl]
  constructor
  · rintro ⟨supplied, spares⟩ other here
    cases parent.symm.trans here
    refine ⟨fun below => ?_, spares⟩
    exact (supplied (n :: p) ⟨id, true⟩ node_mkdir_self rfl below).imp_right And.right
  · intro keeps
    obtain ⟨enters, spares⟩ := keeps dir parent
    refine ⟨fun q o here directory below => ?_, spares⟩
    rcases node_of_mkdir here with ⟨rfl, rfl⟩ | stood
    · exact (enters below).imp_right fun entered => ⟨rfl, entered⟩
    · exact .inl (complete q o stood directory below)

private theorem complete_rename_iff {n₀ n : String} {p₀ p : Path} {oldDir moved newDir : Object}
    (sound : Sound s.protectedDirs) (complete : Complete targets s)
    (source : s.tree.node (n₀ :: p₀) = some moved) (newParent : s.tree.node p = some newDir)
    (kind : newDir.isDir = true) (into : ¬ n₀ :: p₀ <:+ n :: p) :
    Complete targets (s.rename n₀ p₀ n p pick oldDir moved newDir newParent kind into) ↔
      KeepsComplete targets ⟨s, .rename n₀ p₀ n p pick,
        s.rename n₀ p₀ n p pick oldDir moved newDir newParent kind into⟩ := by
  have arrived := Tree.move_node_below ⟨newDir, newParent, kind⟩ into
  have arrives : Arrives targets s (n₀ :: p₀) (n :: p) (Enters s newDir) ↔ _ := arrives_iff
    (t := s.rename n₀ p₀ n p pick oldDir moved newDir newParent kind into) source arrived
  rw [complete_hook_iff (.rename n₀ p₀ n p pick) moved sound rfl]
  constructor
  · rintro ⟨supplied, spares⟩ _ _ here there
    cases source.symm.trans here
    cases newParent.symm.trans there
    exact ⟨arrives.mpr fun q o => supplied (q ++ n :: p) o, spares⟩
  · intro keeps
    obtain ⟨brought, spares⟩ := keeps moved newDir source newParent
    refine ⟨fun r o here directory below => ?_, spares⟩
    rcases Tree.node_of_move ⟨newDir, newParent, kind⟩ into here with
      ⟨q, rfl, _⟩ | ⟨_, stood⟩
    · exact arrives.mp brought q o here directory below
    · exact .inl (complete r o stood directory below)

private theorem complete_exchange_iff {n₀ n : String} {p₀ p : Path}
    {oldDir moved newDir other : Object} (sound : Sound s.protectedDirs)
    (complete : Complete targets s) (source : s.tree.node (n₀ :: p₀) = some moved)
    (target : s.tree.node (n :: p) = some other) (newParent : s.tree.node p = some newDir)
    (apart : ¬ n₀ :: p₀ <:+ n :: p) (apart' : ¬ n :: p <:+ n₀ :: p₀) :
    Complete targets
        (s.exchange n₀ p₀ n p pick oldDir moved newDir other source target apart apart') ↔
      KeepsComplete targets ⟨s, .exchange n₀ p₀ n p pick,
        s.exchange n₀ p₀ n p pick oldDir moved newDir other source target apart apart'⟩ := by
  have liveA : (s.tree.node (n₀ :: p₀)).isSome := by rw [source]; rfl
  have liveB : (s.tree.node (n :: p)).isSome := by rw [target]; rfl
  have arrived := Tree.exchange_node_right liveA liveB apart apart'
  have left := Tree.exchange_node_left liveA liveB apart apart'
  have arrives : Arrives targets s (n₀ :: p₀) (n :: p) (Enters s newDir) ↔ _ := arrives_iff
    (t := s.exchange n₀ p₀ n p pick oldDir moved newDir other source target apart apart')
    source arrived
  rw [complete_hook_iff (.exchange n₀ p₀ n p pick) moved sound rfl]
  constructor
  · rintro ⟨supplied, spares⟩ _ _ here there
    cases source.symm.trans here
    cases newParent.symm.trans there
    refine ⟨arrives.mpr fun q o => supplied (q ++ n :: p) o, fun q o stood kind below => ?_, spares⟩
    -- What comes the other way is not what the hook enters.
    rcases supplied (q ++ n₀ :: p₀) o ((left q).trans stood) kind below with held | ⟨same, _⟩
    · exact .inl held
    · obtain ⟨path, _⟩ := s.tree.eq_of_key source stood same.symm
      exact absurd (path ▸ List.suffix_append q (n :: p)) apart'
  · intro keeps
    obtain ⟨brought, returned, spares⟩ := keeps moved newDir source newParent
    refine ⟨fun r o here directory below => ?_, spares⟩
    rcases Tree.node_of_exchange liveA liveB apart apart' here with
      ⟨q, rfl, stood⟩ | ⟨q, rfl, _⟩ | ⟨_, stood⟩
    · exact (returned q o stood directory below).imp_right fun none => none.2.elim
    · exact arrives.mp brought q o here directory below
    · exact .inl (complete r o stood directory below)

/-- One event keeps the watchlist complete exactly if it is none of those. -/
theorem complete_step_iff (taken : Step s e t) (sound : Sound s.protectedDirs)
    (complete : Complete targets s) : Complete targets t ↔ KeepsComplete targets ⟨s, e, t⟩ := by
  cases taken with
  | mkdir parent kind free fresh => exact complete_mkdir_iff sound complete parent kind free fresh
  | create parent kind free fresh =>
    refine iff_of_true (fun q o here directory below => ?_) trivial
    rcases Tree.node_of_put ⟨_, parent, kind⟩ free fresh here with ⟨_, rfl⟩ | stood
    · cases directory
    · exact complete q o stood directory below
  | remove leaf =>
    refine iff_of_true (fun q o here directory below => ?_) trivial
    exact complete q o ((Tree.drop_node leaf).mp here).2 directory below
  | rename source oldParent newParent kind into leaf =>
    exact complete_rename_iff sound complete source newParent kind into
  | exchange source oldParent target newParent apart apart' =>
    exact complete_exchange_iff sound complete source target newParent apart apart'
  | toggle => exact iff_of_true complete trivial

end Step

/-- What a module is there for: with it enabled, it guards every directory at or below a target
path. -/
def Guarded (module : Module) (targets : List Path) (s : State) : Prop :=
  ∀ p o, s.tree.node p = some o → o.isDir = true → Below targets p →
    Guards s.protectedDirs o.id module

theorem guarded_iff_complete {module : Module} {targets : List Path} {s : State}
    (sound : Sound s.protectedDirs) : Guarded module targets s ↔ Complete targets s :=
  forall₅_congr fun _ _ _ _ _ => guards_iff_protected sound module

/-- In every run, whatever is toggled and however full the map: from a state in which a module
guards every directory at or below its target paths, it does so throughout exactly if no event
is one of those. -/
theorem guarded_run_iff {module : Module} {targets : List Path} {s u : State}
    {moves : List (Move State Event)} (sound : Sound s.protectedDirs)
    (start : Guarded module targets s) (run : Run Step s moves u) :
    (∀ m ∈ moves, Guarded module targets m.target) ↔ ∀ m ∈ moves, KeepsComplete targets m :=
  run.observed_iff_moves (fun _ _ _ taken => Sound.step taken)
    (fun _ sound => guarded_iff_complete sound)
    (fun _ _ _ taken sound complete => complete_step_iff taken sound complete) sound
    ((guarded_iff_complete sound).mp start)

end BouclierBleu.Watchlist.Completeness
