/- GID: BouclierBleu/Daemon/ControlSocket
   source: core/src/ipc/setup.rs, core/src/ipc/mod.rs, core/src/actor.rs
   digest: Which objects at the path of the control socket let the event loop go on. -/

import BouclierBleu.Daemon.PathObjects
import BouclierBleu.Library.Trace

set_option autoImplicit false
set_option relaxedAutoImplicit false

namespace BouclierBleu.Daemon.ControlSocket

open BouclierBleu.Daemon.PathObjects
open BouclierBleu.Library.Trace (Move Run)

/-- The object at `SOCKET_DIR` after a step, and whether the step succeeded. -/
abbrev Outcome := Except String Unit × Object

/-- `setup_secure_dir`, for root and without faults of the disk. -/
def setupSecureDir (socketDir : Object) : Outcome :=
  match socketDir.createDir with
  | .error e => (.error s!"FATAL: Failed to construct secure IPC directory: {e}", socketDir)
  | .ok socketDir =>
    match socketDir.symlinkMetadata with
    | none => (.error "FATAL: Failed to verify IPC directory metadata.", socketDir)
    | some metadata =>
      if metadata.isSymlink || metadata.foreign then
        let removed :=
          if metadata.isSymlink || metadata.isFile then
            socketDir.removeFile.mapError fun e =>
              s!"FATAL: Failed to remove compromised symlink/file: {e}"
          else
            socketDir.removeDirAll.mapError fun e =>
              s!"FATAL: Failed to wipe compromised IPC directory: {e}"
        match removed with
        | .error e => (.error e, socketDir)
        | .ok socketDir =>
          match socketDir.createDir with
          | .error e =>
            (.error s!"FATAL: Failed to recreate secure IPC directory post-remediation: {e}",
              socketDir)
          | .ok socketDir => (.ok (), socketDir)
      else (.ok (), socketDir)

/-- What is left under a name after `fs::remove_file` on it, whatever that returns. -/
def Leaf.removed : Leaf → Leaf
  | .directory => .directory
  | .absent | .file | .symlink _ => .absent

/-- `bind_socket` in a directory that nobody else can write to: a name that is still taken is
refused, and a socket that was bound is root's own. -/
def bindSocket (d : Directory) : Except String Directory :=
  match Leaf.removed d.leaf with
  | .absent => .ok { d with leaf := .file }
  | .file | .directory | .symlink _ =>
    .error "FATAL: Failed to bind to Unix socket: Address already in use (os error 98)"

/-- `start_ipc_server`: whether the listener thread, which never ends, holds the sender. -/
def startIpcServer (socketDir : Object) : Bool :=
  match setupSecureDir socketDir with
  | (.error _, _) => false
  | (.ok _, .directory d) =>
    match bindSocket d with
    | .ok _ => true
    | .error _ => false
  | (.ok _, _) => false

/-- The event loop of the daemon with its channel. -/
structure EventLoop where
  sender : Bool
  queued : Nat
  running : Bool
  deriving DecidableEq

def start (socketDir : Object) : EventLoop := ⟨startIpcServer socketDir, 0, true⟩

inductive Event
  | send
  | handle (messages : Nat)
  | timeout
  | disconnected

/-- A client's command, or one turn of `DaemonActor::run`: it takes a message and up to ten more,
waits in vain, or finds the channel without a sender. -/
inductive Step : EventLoop → Event → EventLoop → Prop
  | send {s : EventLoop} (alive : s.sender = true) (room : s.queued < 128) :
      Step s .send { s with queued := s.queued + 1 }
  | handle {s : EventLoop} {n : Nat} (running : s.running = true) (some : 0 < n)
      (batch : n ≤ 11) (waiting : n ≤ s.queued) :
      Step s (.handle n) { s with queued := s.queued - n }
  | timeout {s : EventLoop} (running : s.running = true) (alive : s.sender = true)
      (idle : s.queued = 0) : Step s .timeout s
  | disconnected {s : EventLoop} (running : s.running = true) (dropped : s.sender = false)
      (idle : s.queued = 0) : Step s .disconnected { s with running := false }

/-- The directory is set up, and no run of the daemon leaves the event loop. -/
structure Survives (socketDir : Object) : Prop where
  setup : (setupSecureDir socketDir).1 = .ok ()
  directory : ∃ d, (setupSecureDir socketDir).2 = .directory d ∧ d.Trusted
  loop : ∀ moves t, Run Step (start socketDir) moves t → t.running = true

/-- Nothing, a link to a directory, or a directory; one that is kept must have a name to bind. -/
def Usable : Object → Prop
  | .absent | .symlink (.directory _) => True
  | .directory d => d.Trusted → d.leaf ≠ .directory
  | .file .. | .symlink .missing | .symlink (.file ..) => False

section Setup

theorem setupSecureDir_absent : setupSecureDir .absent = (.ok (), .directory created) := by decide

theorem setupSecureDir_link (d : Directory) :
    setupSecureDir (.symlink (.directory d)) = (.ok (), .directory created) := rfl

/-- A trusted directory is kept with its contents, any other is replaced. -/
theorem setupSecureDir_directory (d : Directory) :
    setupSecureDir (.directory d) =
      (.ok (), .directory (if d.Trusted then d else created)) := by
  by_cases trusted : d.Trusted
  · have own : d.metadata.foreign = false := by
      rw [← Bool.not_eq_true, Directory.foreign_metadata, not_not]
      exact trusted
    rw [if_pos trusted]
    simp [setupSecureDir, Object.createDir, Object.symlinkMetadata, own]
  · have foreign := (Directory.foreign_metadata d).mpr trusted
    rw [if_neg trusted]
    simp [setupSecureDir, Object.createDir, Object.symlinkMetadata, foreign, Object.removeDirAll,
      Except.mapError]

/-- Where no directory can be created nothing is repaired. -/
theorem setupSecureDir_blocked {socketDir : Object} {e : String}
    (blocked : socketDir.createDir = .error e) : (setupSecureDir socketDir).1 ≠ .ok () := by
  rw [setupSecureDir, blocked]
  exact nofun

theorem bindSocket_fails_iff (d : Directory) :
    (∃ e, bindSocket d = .error e) ↔ d.leaf = .directory := by
  rw [bindSocket]
  cases d.leaf <;> simp [Leaf.removed]

end Setup

section Loop

variable {socketDir : Object} {d : Directory}

/-- In a trusted directory the listener starts unless the name of the socket is a directory's. -/
theorem startIpcServer_of_setup (setup : setupSecureDir socketDir = (.ok (), .directory d)) :
    startIpcServer socketDir = true ↔ d.leaf ≠ .directory := by
  rw [← not_iff_not, not_not, ← bindSocket_fails_iff, startIpcServer, setup]
  show ¬ (match bindSocket d with
    | .ok _ => true
    | .error _ => false) = true ↔ _
  cases bindSocket d <;> simp

/-- The sender is never dropped while the listener runs, so the loop only times out. -/
private theorem running_of_sender {s t : EventLoop} {moves : List (Move EventLoop Event)}
    (run : Run Step s moves t) (alive : s.sender = true) (running : s.running = true) :
    t.running = true := by
  have keep : ∀ s e t, Step s e t → s.sender = true ∧ s.running = true →
      t.sender = true ∧ t.running = true := by
    intro s e t taken both
    cases taken with
    | send _ _ => exact both
    | handle _ _ _ _ => exact both
    | timeout _ _ _ => exact both
    | disconnected _ dropped _ =>
      rw [both.1] at dropped
      cases dropped
  exact (run.invariant keep ⟨alive, running⟩).2

/-- The loop goes on in every run exactly if the listener was started. -/
theorem loop_goes_on_iff :
    (∀ moves t, Run Step (start socketDir) moves t → t.running = true) ↔
      startIpcServer socketDir = true := by
  constructor
  · intro always
    by_contra failed
    have dropped : (start socketDir).sender = false := Bool.eq_false_iff.mpr failed
    have left := always _ _ (.cons (.disconnected rfl dropped rfl) (.nil _))
    cases left
  · intro started moves t run
    exact running_of_sender run started rfl

theorem survives_of_setup (setup : setupSecureDir socketDir = (.ok (), .directory d))
    (trusted : d.Trusted) : Survives socketDir ↔ d.leaf ≠ .directory := by
  rw [← startIpcServer_of_setup setup, ← loop_goes_on_iff]
  constructor
  · exact Survives.loop
  · intro loop
    exact ⟨congrArg Prod.fst setup, ⟨d, congrArg Prod.snd setup, trusted⟩, loop⟩

end Loop

/-- The daemon survives what stands at the path of its socket directory exactly if that is
nothing, a link to a directory or a directory, and no trusted directory in which the name of the
socket is a directory's. -/
theorem survives_iff_usable (socketDir : Object) : Survives socketDir ↔ Usable socketDir := by
  have blocked {o : Object} {e : String} (refused : o.createDir = .error e) : ¬ Survives o :=
    fun survives => setupSecureDir_blocked refused survives.setup
  have rebuilt : created.leaf ≠ .directory := by decide
  cases socketDir with
  | absent =>
    exact iff_of_true ((survives_of_setup setupSecureDir_absent trusted_created).mpr rebuilt)
      trivial
  | file uid mode => exact iff_of_false (blocked rfl) id
  | symlink target =>
    cases target with
    | missing => exact iff_of_false (blocked rfl) id
    | file uid mode => exact iff_of_false (blocked rfl) id
    | directory d =>
      exact iff_of_true
        ((survives_of_setup (setupSecureDir_link d) trusted_created).mpr rebuilt) trivial
  | directory d =>
    have setup := setupSecureDir_directory d
    rw [Usable]
    by_cases trusted : d.Trusted
    · rw [if_pos trusted] at setup
      rw [survives_of_setup setup trusted]
      exact ⟨fun free _ => free, fun free => free trusted⟩
    · rw [if_neg trusted] at setup
      exact iff_of_true ((survives_of_setup setup trusted_created).mpr rebuilt)
        fun other => absurd other trusted

/-- A regular file staged at the path takes the daemon down in its first turn. -/
theorem staged_file_stops_daemon :
    (setupSecureDir (.file 1000 0o644)).1 =
        .error "FATAL: Failed to construct secure IPC directory: File exists (os error 17)" ∧
      Step (start (.file 1000 0o644)) .disconnected ⟨false, 0, false⟩ ∧
      ¬ Survives (.file 1000 0o644) := by
  have refused : (setupSecureDir (.file 1000 0o644)).1 =
      .error "FATAL: Failed to construct secure IPC directory: File exists (os error 17)" := by
    decide
  refine ⟨refused, .disconnected rfl rfl rfl, fun survives => ?_⟩
  have setup := survives.setup
  rw [refused] at setup
  cases setup

end BouclierBleu.Daemon.ControlSocket
