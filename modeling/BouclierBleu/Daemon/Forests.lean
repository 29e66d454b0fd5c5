/- GID: BouclierBleu/Daemon/Forests
   source: modules/src/common/fs_utils.rs, the walks it asks for
   digest: Directory trees, and the walk over them that stops at a depth and at rejected names. -/

import BouclierBleu.Daemon.FsUtils

set_option autoImplicit false
set_option relaxedAutoImplicit false

namespace BouclierBleu.Daemon.Forests

open BouclierBleu.Daemon.FsUtils

/-- The byte `'/'`. -/
def slash : UInt8 := 47

/-- The contents of a directory as they are read, with the contents of its subdirectories. -/
inductive Listing
  | done
  | unreadable (rest : Listing)
  | entry (name : OsText) (fileType : FileType) (rest : Listing)
  | directory (name : OsText) (contents rest : Listing)

/-- What stands at the path a walk starts from. -/
inductive Target
  | absent
  | object (fileType : FileType)
  | directory (contents : Listing)
  | linkToDirectory (contents : Listing)

def child (parent name : OsText) (fileType : FileType) : DirEntry :=
  ⟨parent ++ slash :: name, name, fileType⟩

/-- A walk over the contents of a directory that may go `room` levels further down. -/
def walkListing (keep : DirEntry → Bool) : Nat → OsText → Listing → List (Option DirEntry)
  | _, _, .done => []
  | room, parent, .unreadable rest => none :: walkListing keep room parent rest
  | room, parent, .entry name fileType rest =>
    let here := child parent name fileType
    (if keep here then [some here] else []) ++ walkListing keep room parent rest
  | room, parent, .directory name contents rest =>
    let here := child parent name .directory
    (if keep here then
      some here :: (if room = 0 then [] else walkListing keep (room - 1) here.path contents)
    else []) ++ walkListing keep room parent rest

/-- The last component of a path. -/
def lastComponent (path : OsText) : OsText := (path.reverse.takeWhile (· != slash)).reverse

/-- A walk from a path on. A link at its very start is reported as one and followed, whatever
the filter says of it. -/
def walkTarget (options : WalkOptions) (keep : DirEntry → Bool) (path : OsText) :
    Target → List (Option DirEntry)
  | .absent => [none]
  | .object fileType =>
    let here : DirEntry := ⟨path, lastComponent path, fileType⟩
    if keep here then [some here] else []
  | .directory contents =>
    let here : DirEntry := ⟨path, lastComponent path, .directory⟩
    if keep here then some here :: below contents else []
  | .linkToDirectory contents =>
    let here : DirEntry := ⟨path, lastComponent path, .symlink⟩
    (if keep here then [some here] else []) ++ below contents
where
  below (contents : Listing) : List (Option DirEntry) :=
    match options.maxDepth with
    | 0 => []
    | room + 1 => walkListing keep room path contents

/-- A filesystem: what stands at each path, and how its files open. -/
structure Forest where
  target : OsText → Target
  openPath : OsText → Option (Option Watchlist.HardwareKeys.Metadata)
  openRead : OsText → Option OpenFile

/-- A forest as the walks of the daemon see it, none of which follows links. -/
def Forest.fs (forest : Forest) : Fs where
  walk options path := walkTarget options (fun _ => true) path (forest.target path)
  filterEntry options path keep := walkTarget options keep path (forest.target path)
  openPath := forest.openPath
  openRead := forest.openRead
  filterEntry_all := by
    intro options path keep all
    have everything : keep = fun _ => true := funext all
    rw [everything]

section Depth

variable {keep : DirEntry → Bool} {e : DirEntry}

/-- A path a number of names below another one. -/
def pathBelow (start : OsText) (names : List OsText) : OsText :=
  start ++ names.flatMap fun name => slash :: name

/-- Whatever the tree looks like, a walk goes no deeper than its room. -/
theorem depth_walkListing {room : Nat} {parent : OsText} {listing : Listing}
    (member : some e ∈ walkListing keep room parent listing) :
    ∃ names, names.length ≤ room + 1 ∧ e.path = pathBelow parent names := by
  induction listing generalizing room parent with
  | done => cases member
  | unreadable rest ih =>
    rw [walkListing, List.mem_cons] at member
    exact ih (member.resolve_left nofun)
  | entry name fileType rest ih =>
    rw [walkListing, List.mem_append] at member
    rcases member with here | later
    · split at here
      · cases List.mem_singleton.mp here
        exact ⟨[name], Nat.succ_le_succ (Nat.zero_le room), by simp [pathBelow, child]⟩
      · cases here
    · exact ih later
  | directory name contents rest inner later =>
    rw [walkListing, List.mem_append] at member
    rcases member with here | after
    · split at here
      · rcases List.mem_cons.mp here with self | below
        · cases self
          exact ⟨[name], Nat.succ_le_succ (Nat.zero_le room), by simp [pathBelow, child]⟩
        · split at below
          · cases below
          · obtain ⟨names, few, path⟩ := inner below
            refine ⟨name :: names, ?_, ?_⟩
            · rw [List.length_cons]
              omega
            · rw [path]
              simp [pathBelow, child]
      · cases here
    · exact later after

/-- The walks of the daemon reach at most twenty names below their start. -/
theorem depth_secure_walk {forest : Forest} {path : OsText}
    (member : some e ∈ forest.fs.filterEntry secureOptions path keep) :
    ∃ names, names.length ≤ 20 ∧ e.path = pathBelow path names := by
  have start : ∃ names, names.length ≤ 20 ∧ path = pathBelow path names :=
    ⟨[], Nat.zero_le 20, (List.append_nil path).symm⟩
  change some e ∈ walkTarget secureOptions keep path (forest.target path) at member
  cases target : forest.target path with
  | absent =>
    rw [target, walkTarget, List.mem_singleton] at member
    cases member
  | object fileType =>
    rw [target, walkTarget] at member
    split at member
    · cases List.mem_singleton.mp member
      exact start
    · cases member
  | directory contents =>
    rw [target, walkTarget] at member
    split at member
    · rcases List.mem_cons.mp member with self | below
      · cases self
        exact start
      · exact depth_walkListing below
    · cases member
  | linkToDirectory contents =>
    rw [target, walkTarget, List.mem_append] at member
    rcases member with self | below
    · split at self
      · cases List.mem_singleton.mp self
        exact start
      · cases self
    · exact depth_walkListing below

end Depth

end BouclierBleu.Daemon.Forests
