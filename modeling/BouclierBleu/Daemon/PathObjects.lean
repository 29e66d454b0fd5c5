/- GID: BouclierBleu/Daemon/PathObjects
   source: none, the system calls of core/src/ipc/setup.rs and modules/src/common/telemetry.rs
   digest: What can stand at a path, and what creating, inspecting and removing it does. -/

import Mathlib.Tactic.Common

set_option autoImplicit false
set_option relaxedAutoImplicit false

namespace BouclierBleu.Daemon.PathObjects

/-- What stands under a name inside a directory: anything to unlink is a file or a link. -/
inductive Leaf
  | absent | file | directory
  | symlink (toFile : Bool)
  deriving DecidableEq

/-- A directory, with its owner, its mode and what stands in it under the one name in question. -/
structure Directory where
  uid : UInt32
  mode : UInt32
  leaf : Leaf
  deriving DecidableEq

/-- Owned by root, and closed to everyone else. -/
def Directory.Trusted (d : Directory) : Prop := d.uid = 0 ∧ d.mode &&& 0o777 = 0o700

instance (d : Directory) : Decidable d.Trusted := inferInstanceAs (Decidable (_ ∧ _))

/-- Where a symbolic link leads. -/
inductive Resolved
  | missing
  | file (uid mode : UInt32)
  | directory (d : Directory)
  deriving DecidableEq

inductive Object
  | absent
  | file (uid mode : UInt32)
  | directory (d : Directory)
  | symlink (target : Resolved)
  deriving DecidableEq

inductive FileType
  | file | directory | symlink
  deriving DecidableEq

structure Metadata where
  fileType : FileType
  uid : UInt32
  mode : UInt32
  deriving DecidableEq

namespace Metadata

variable (metadata : Metadata)

def isSymlink : Bool := metadata.fileType == .symlink

def isFile : Bool := metadata.fileType == .file

def isDir : Bool := metadata.fileType == .directory

/-- `meta.uid() != 0 || (meta.mode() & 0o777) != 0o700` -/
def foreign : Bool := metadata.uid != 0 || metadata.mode &&& 0o777 != 0o700

end Metadata

def Directory.metadata (d : Directory) : Metadata := ⟨.directory, d.uid, d.mode⟩

@[simp] theorem Directory.isSymlink_metadata (d : Directory) : d.metadata.isSymlink = false := rfl

@[simp] theorem Directory.isFile_metadata (d : Directory) : d.metadata.isFile = false := rfl

@[simp] theorem Directory.isDir_metadata (d : Directory) : d.metadata.isDir = true := rfl

@[simp] theorem Directory.foreign_metadata (d : Directory) :
    d.metadata.foreign = true ↔ ¬ d.Trusted := by
  simp only [Metadata.foreign, Directory.metadata, Directory.Trusted, Bool.or_eq_true, bne_iff_ne]
  tauto

/-- A directory made with mode 0700. -/
def created : Directory := ⟨0, 0o700, .absent⟩

theorem trusted_created : created.Trusted := by decide

namespace Object

/-- `fs::symlink_metadata`, which looks at a link itself. -/
def symlinkMetadata : Object → Option Metadata
  | absent => none
  | file uid mode => some ⟨.file, uid, mode⟩
  | directory d => some d.metadata
  | symlink _ => some ⟨.symlink, 0, 0o777⟩

/-- `fs::metadata`, which looks at what a link leads to. -/
def metadata : Object → Option Metadata
  | absent | symlink .missing => none
  | file uid mode | symlink (.file uid mode) => some ⟨.file, uid, mode⟩
  | directory d | symlink (.directory d) => some d.metadata

/-- `DirBuilder::new().recursive(true).mode(0o700).create(path)`: a directory that is there, also
behind a link, is left as it is. -/
def createDir : Object → Except String Object
  | absent => .ok (.directory created)
  | directory d => .ok (directory d)
  | symlink (.directory d) => .ok (symlink (.directory d))
  | file .. | symlink .missing | symlink (.file ..) => .error "File exists (os error 17)"

/-- `fs::remove_file`; of a link it takes the link away. -/
def removeFile : Object → Except String Object
  | absent => .error "No such file or directory (os error 2)"
  | file .. | symlink _ => .ok absent
  | directory _ => .error "Is a directory (os error 21)"

/-- `fs::remove_dir_all`; of a link it takes the link away. -/
def removeDirAll : Object → Except String Object
  | absent => .error "No such file or directory (os error 2)"
  | directory _ | symlink _ => .ok absent
  | file .. => .error "Not a directory (os error 20)"

end Object

end BouclierBleu.Daemon.PathObjects
