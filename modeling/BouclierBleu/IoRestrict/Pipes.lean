/- GID: BouclierBleu/IoRestrict/Pipes
   source: bpf/io_restrict.bpf.c
   digest: Pipes, their open files and the taint map as one labelled transition system. -/

import BouclierBleu.IoRestrict.Hooks
import BouclierBleu.Library.Trace
import Mathlib.Logic.Function.Basic

set_option autoImplicit false
set_option relaxedAutoImplicit false

namespace BouclierBleu.IoRestrict.Pipes

open Function (update)
open BouclierBleu.IoRestrict.Hooks
open BouclierBleu.Kernel.AlertStructs (IoRestrictAlert)
open BouclierBleu.Kernel.ModuleCore (isModuleActive isModuleActive_some Outcome Task)
open BouclierBleu.Library.BoundedMaps (BoundedMap)
open BouclierBleu.Library.Trace (Reachable)

/-- A `pipe_inode_info` with the inode its files carry. `received` records that an unprivileged
splice from a read-only non-pipe file into it went through. -/
structure Pipe where
  addr : UInt64
  inode : Inode
  attached : addr ≠ 0
  fifo : S_ISFIFO inode.iMode = true
  received : Bool

def Pipe.id (pipe : Pipe) : UInt64 := generateOpaquePipeId pipe.addr pipe.inode.iIno

def Pipe.receive (pipe : Pipe) : Pipe := { pipe with received := true }

@[simp] theorem Pipe.receive_id (pipe : Pipe) : pipe.receive.id = pipe.id := rfl

@[simp] theorem Pipe.receive_received (pipe : Pipe) : pipe.receive.received = true := rfl

def FileOnPipe (file : File) : Prop :=
  ∃ inode, file.fInode = some inode ∧ S_ISFIFO inode.iMode = true ∧ file.privateData ≠ 0

/-- A `struct file`: one of a pipe's, a read end, a write end or a re-opened one, or another. -/
inductive OpenFile
  | pipeEnd (pipe : Nat) (fMode : UInt32)
  | other (file : File) (foreign : ¬ FileOnPipe file)

/-- Pipes and files by the number of the object; no number is given to two pipes. -/
structure State where
  maps : Maps
  pipes : Nat → Option Pipe
  files : Nat → Option OpenFile
  born : Nat

/-- The process in a system call: its descriptors stand for file objects. -/
structure Caller where
  task : Task
  maxFds : UInt32
  fds : UInt32 → Option Nat

namespace State

def Enabled (s : State) : Prop := isModuleActive s.maps.stateMap = true

def fileOf (s : State) : OpenFile → Option File
  | .pipeEnd p fMode => (s.pipes p).map fun pipe => ⟨some pipe.inode, fMode, pipe.addr⟩
  | .other file _ => some file

def current (s : State) (caller : Caller) : Current where
  task := caller.task
  files := some ⟨caller.maxFds, some fun fd =>
    (caller.fds fd).bind fun n => (s.files n).bind s.fileOf⟩

/-- The pipe a descriptor of the caller refers to. -/
def pipeAt (s : State) (caller : Caller) (fd : UInt32) : Option Nat :=
  if fd ≥ caller.maxFds then none
  else
    match (caller.fds fd).bind s.files with
    | some (.pipeEnd p _) => some p
    | _ => none

def hook (s : State) (caller : Caller) (reserved : Bool) (call : Call) :
    Maps × Outcome IoRestrictAlert :=
  call.hook s.maps reserved (s.current caller)

/-- The pipe that an unprivileged splice from a read-only non-pipe file, let through, goes
into. -/
def receiver (s : State) (caller : Caller) (reserved : Bool) : Call → Option Nat
  | .write _ => none
  | .splice fdIn fdOut flags =>
    if caller.task.getGlobalUid ≠ 0 ∧
        ¬ (s.hook caller reserved (.splice fdIn fdOut flags)).2.Killed ∧
        (extractFileMeta (s.current caller) fdIn).any FileMeta.readOnlyNonPipe then
      s.pipeAt caller fdOut
    else none

/-- A new pipe, with the file of its first end. -/
def create (s : State) (pipe : Pipe) (n : Nat) (fMode : UInt32) : State :=
  { s with
    pipes := update s.pipes s.born (some pipe)
    files := update s.files n (some (.pipeEnd s.born fMode))
    born := s.born + 1 }

def openFile (s : State) (n : Nat) (file : OpenFile) : State :=
  { s with files := update s.files n (some file) }

def closeFile (s : State) (n : Nat) : State := { s with files := update s.files n none }

/-- The hook at the release of one of a pipe's files. -/
def release (s : State) (pipe : Pipe) (fMode : UInt32) : State :=
  { s with maps := ioRestrictPipeRelease s.maps pipe.inode ⟨some pipe.inode, fMode, pipe.addr⟩ }

def freePipe (s : State) (p : Nat) : State := { s with pipes := update s.pipes p none }

def call (s : State) (caller : Caller) (reserved : Bool) (call : Call) : State :=
  { s with
    maps := (s.hook caller reserved call).1
    pipes := fun p =>
      if s.receiver caller reserved call = some p then (s.pipes p).map Pipe.receive
      else s.pipes p }

def switch (s : State) (enable : Bool) : State :=
  { s with maps := { s.maps with stateMap := some (if enable then 1 else 0) } }

/-- No file other than `n` is open on the pipe. -/
def LastFile (s : State) (n p : Nat) : Prop :=
  ∀ k fMode, s.files k = some (.pipeEnd p fMode) → k = n

variable (s : State) (pipe : Pipe) (p n : Nat) (fMode : UInt32) (file : OpenFile)

@[simp] theorem pipes_create :
    (s.create pipe n fMode).pipes = update s.pipes s.born (some pipe) := rfl

@[simp] theorem files_create :
    (s.create pipe n fMode).files = update s.files n (some (.pipeEnd s.born fMode)) := rfl

@[simp] theorem pipes_openFile : (s.openFile n file).pipes = s.pipes := rfl

@[simp] theorem files_openFile : (s.openFile n file).files = update s.files n (some file) := rfl

@[simp] theorem pipes_closeFile : (s.closeFile n).pipes = s.pipes := rfl

@[simp] theorem files_closeFile : (s.closeFile n).files = update s.files n none := rfl

@[simp] theorem pipes_release : (s.release pipe fMode).pipes = s.pipes := rfl

@[simp] theorem files_release : (s.release pipe fMode).files = s.files := rfl

@[simp] theorem pipes_freePipe : (s.freePipe p).pipes = update s.pipes p none := rfl

@[simp] theorem files_freePipe : (s.freePipe p).files = s.files := rfl

end State

inductive Event
  | create (pipe : Pipe) (n : Nat) (fMode : UInt32)
  | openFile (n : Nat) (file : OpenFile)
  | close (n : Nat)
  | call (caller : Caller) (reserved : Bool) (call : Call)
  | toggle (enable : Bool)

/-- The kernel gives a new pipe an address no live pipe has, and runs `pipe_release` for every
file of a pipe that is released; the pipe is freed with its last file. -/
inductive Step : State → Event → State → Prop
  | create {s : State} {pipe : Pipe} {n : Nat} {fMode : UInt32}
      (apart : ∀ q other, s.pipes q = some other → other.addr ≠ pipe.addr)
      (unused : s.files n = none) (untouched : pipe.received = false) :
      Step s (.create pipe n fMode) (s.create pipe n fMode)
  | openEnd {s : State} {p n : Nat} {fMode : UInt32} {pipe : Pipe}
      (live : s.pipes p = some pipe) (unused : s.files n = none) :
      Step s (.openFile n (.pipeEnd p fMode)) (s.openFile n (.pipeEnd p fMode))
  | openOther {s : State} {n : Nat} {file : File} {foreign : ¬ FileOnPipe file}
      (unused : s.files n = none) :
      Step s (.openFile n (.other file foreign)) (s.openFile n (.other file foreign))
  | closeEnd {s : State} {p n : Nat} {fMode : UInt32} {pipe : Pipe}
      (ends : s.files n = some (.pipeEnd p fMode)) (live : s.pipes p = some pipe)
      (shared : ¬ s.LastFile n p) :
      Step s (.close n) ((s.release pipe fMode).closeFile n)
  | closeLast {s : State} {p n : Nat} {fMode : UInt32} {pipe : Pipe}
      (ends : s.files n = some (.pipeEnd p fMode)) (live : s.pipes p = some pipe)
      (last : s.LastFile n p) :
      Step s (.close n) (((s.release pipe fMode).closeFile n).freePipe p)
  | closeOther {s : State} {n : Nat} {file : File} {foreign : ¬ FileOnPipe file}
      (ends : s.files n = some (.other file foreign)) :
      Step s (.close n) (s.closeFile n)
  | call {s : State} {caller : Caller} {reserved : Bool} {call : Call} :
      Step s (.call caller reserved call) (s.call caller reserved call)
  | toggle {s : State} {enable : Bool} : Step s (.toggle enable) (s.switch enable)

/-- What the kernel's bookkeeping and the map's type guarantee in every reached state. -/
structure WellFormed (s : State) : Prop where
  endsLive : ∀ n p fMode, s.files n = some (.pipeEnd p fMode) → ∃ pipe, s.pipes p = some pipe
  liveOpen : ∀ p pipe, s.pipes p = some pipe → ∃ n fMode, s.files n = some (.pipeEnd p fMode)
  unborn : ∀ p, s.born ≤ p → s.pipes p = none
  apart : ∀ p q pipe other, s.pipes p = some pipe → s.pipes q = some other →
    pipe.addr = other.addr → p = q
  mapType : s.maps.pipeTaintMap.policy = pipeTaintType
  values : ∀ id value, s.maps.pipeTaintMap.lookup id = some value → value = TAINTED_READONLY

/-- The module has just been loaded, among whatever pipes there are. -/
def Initial (s : State) : Prop :=
  WellFormed s ∧ ∀ id, s.maps.pipeTaintMap.lookup id = none

section Descriptors

variable {s : State} {caller : Caller} {fd : UInt32} {p : Nat} {pipe : Pipe}

/-- A descriptor of a live pipe resolves to that pipe's identifier. -/
theorem extractFileMeta_of_pipeAt (refers : s.pipeAt caller fd = some p)
    (live : s.pipes p = some pipe) :
    ∃ fileMeta, extractFileMeta (s.current caller) fd = some fileMeta ∧
      fileMeta.pipeId = some pipe.id := by
  unfold State.pipeAt at refers
  split at refers
  · contradiction
  rename_i inside
  split at refers
  · rename_i q fMode ends
    cases refers
    refine ⟨⟨pipe.inode.iMode, fMode, pipe.addr, pipe.inode.iIno⟩, ?_, ?_⟩
    · obtain ⟨n, stands, open_⟩ := Option.bind_eq_some_iff.mp ends
      simp [extractFileMeta, State.current, inside, stands, open_, State.fileOf, live]
    · simp [FileMeta.pipeId, pipe.fifo, pipe.attached, Pipe.id]
  · contradiction

/-- Only a descriptor of a live pipe resolves to an identifier. -/
theorem pipeAt_of_extractFileMeta {fileMeta : FileMeta} {id : UInt64}
    (resolved : extractFileMeta (s.current caller) fd = some fileMeta)
    (identified : fileMeta.pipeId = some id) :
    ∃ p pipe, s.pipeAt caller fd = some p ∧ s.pipes p = some pipe ∧ pipe.id = id := by
  unfold extractFileMeta State.current at resolved
  simp only at resolved
  split at resolved
  · contradiction
  rename_i inside
  split at resolved
  · contradiction
  rename_i file stands
  obtain ⟨n, number, rest⟩ := Option.bind_eq_some_iff.mp stands
  obtain ⟨openFile, held, read⟩ := Option.bind_eq_some_iff.mp rest
  cases openFile with
  | pipeEnd p fMode =>
    obtain ⟨pipe, live, shape⟩ := Option.map_eq_some_iff.mp read
    subst shape
    cases resolved
    refine ⟨p, pipe, ?_, live, ?_⟩
    · simp [State.pipeAt, inside, number, held]
    · simpa [FileMeta.pipeId, pipe.fifo, pipe.attached, Pipe.id] using identified
  | other file foreign =>
    cases read
    split at resolved
    · contradiction
    rename_i inode carries
    cases resolved
    have onPipe : FileOnPipe file := by
      refine ⟨inode, carries, ?_⟩
      simp only [FileMeta.pipeId] at identified
      split at identified
      · rename_i attached
        simpa using attached
      · contradiction
    exact absurd onPipe foreign

theorem exists_live_of_pipeAt (wf : WellFormed s) (refers : s.pipeAt caller fd = some p) :
    ∃ pipe, s.pipes p = some pipe := by
  unfold State.pipeAt at refers
  split at refers
  · contradiction
  split at refers
  · rename_i q fMode ends
    cases refers
    obtain ⟨n, _, held⟩ := Option.bind_eq_some_iff.mp ends
    exact wf.endsLive n _ _ held
  · contradiction

/-- The taint check hits exactly at the descriptors of live pipes whose identifier is marked. -/
theorem taintedAt_iff_pipeAt : TaintedAt s.maps (s.current caller) fd ↔
    ∃ p pipe, s.pipeAt caller fd = some p ∧ s.pipes p = some pipe ∧
      s.maps.pipeTaintMap.lookup pipe.id = some TAINTED_READONLY := by
  constructor
  · rintro ⟨fileMeta, resolved, tainted⟩
    obtain ⟨id, identified, marked⟩ := FileMeta.tainted_iff.mp tainted
    obtain ⟨p, pipe, refers, live, rfl⟩ := pipeAt_of_extractFileMeta resolved identified
    exact ⟨p, pipe, refers, live, marked⟩
  · rintro ⟨p, pipe, refers, live, marked⟩
    obtain ⟨fileMeta, resolved, identified⟩ := extractFileMeta_of_pipeAt refers live
    exact ⟨fileMeta, resolved, FileMeta.tainted_iff.mpr ⟨pipe.id, identified, marked⟩⟩

/-- A process other than root's whose only descriptor stands for file `n`. -/
def holder (n : Nat) : Caller := ⟨⟨0, 1000, none⟩, 1, fun _ => some n⟩

theorem holder_unprivileged (n : Nat) : (holder n).task.getGlobalUid ≠ 0 := by
  have uid : (1000 : UInt32) ≠ 0 := by decide
  exact uid

theorem holder_refers {n : Nat} {fMode : UInt32} (ends : s.files n = some (.pipeEnd p fMode)) :
    s.pipeAt (holder n) 0 = some p := by
  have inside : ¬ (0 : UInt32) ≥ 1 := by decide
  simp [State.pipeAt, holder, inside, ends]

theorem holder_resolves {n : Nat} (refers : s.pipeAt (holder n) 0 = some p)
    (live : s.pipes p = some pipe) : (Call.write 0).Resolves (s.current (holder n)) := by
  obtain ⟨fileMeta, resolved, _⟩ := extractFileMeta_of_pipeAt refers live
  simp [Call.Resolves, Call.operands, resolved]

end Descriptors

section Receiver

variable {s : State} {caller : Caller} {reserved : Bool} {call : Call} {q : Nat} {pipe : Pipe}

theorem receiver_spec (received : s.receiver caller reserved call = some q) :
    caller.task.getGlobalUid ≠ 0 ∧ ¬ (s.hook caller reserved call).2.Killed ∧
      ∃ fdIn fdOut flags inMeta, call = .splice fdIn fdOut flags ∧
        extractFileMeta (s.current caller) fdIn = some inMeta ∧
        inMeta.readOnlyNonPipe = true ∧ s.pipeAt caller fdOut = some q := by
  cases call with
  | write fd => contradiction
  | splice fdIn fdOut flags =>
    simp only [State.receiver] at received
    split at received
    · rename_i through
      obtain ⟨unprivileged, alive, source⟩ := through
      cases resolved : extractFileMeta (s.current caller) fdIn with
      | none => simp [resolved] at source
      | some inMeta =>
        rw [resolved, Option.any_some] at source
        exact ⟨unprivileged, alive, fdIn, fdOut, flags, inMeta, rfl, resolved, source, received⟩
    · contradiction

theorem ingests_of_receiver (received : s.receiver caller reserved call = some q)
    (live : s.pipes q = some pipe) : call.Ingests (s.current caller) pipe.id := by
  obtain ⟨-, -, fdIn, fdOut, flags, inMeta, shape, resolved, readOnly, refers⟩ :=
    receiver_spec received
  obtain ⟨outMeta, resolvedOut, identified⟩ := extractFileMeta_of_pipeAt refers live
  exact ⟨fdIn, fdOut, flags, inMeta, outMeta, shape, resolved, resolvedOut, readOnly, identified⟩

theorem receiver_of_ingests {id : UInt64} (ingests : call.Ingests (s.current caller) id)
    (unprivileged : caller.task.getGlobalUid ≠ 0)
    (alive : ¬ (s.hook caller reserved call).2.Killed) :
    ∃ q pipe, s.receiver caller reserved call = some q ∧ s.pipes q = some pipe ∧
      pipe.id = id := by
  obtain ⟨fdIn, fdOut, flags, inMeta, outMeta, rfl, resolvedIn, resolvedOut, readOnly, target⟩ :=
    ingests
  obtain ⟨q, pipe, refers, live, identified⟩ := pipeAt_of_extractFileMeta resolvedOut target
  refine ⟨q, pipe, ?_, live, identified⟩
  simp [State.receiver, unprivileged, alive, resolvedIn, readOnly, refers]

end Receiver

/-- The only ways the entry of an identifier changes. -/
inductive EntryChange (s : State) (id : UInt64) : Event → Option UInt8 → Prop
  | kept {e : Event} : EntryChange s id e (s.maps.pipeTaintMap.lookup id)
  | released {n p : Nat} {fMode : UInt32} {pipe : Pipe} (enabled : s.Enabled)
      (ends : s.files n = some (.pipeEnd p fMode)) (live : s.pipes p = some pipe)
      (identified : pipe.id = id) : EntryChange s id (.close n) none
  | marked {caller : Caller} {reserved : Bool} {call : Call} {q : Nat} {pipe : Pipe}
      (enabled : s.Enabled) (room : ¬ s.maps.pipeTaintMap.Full)
      (received : s.receiver caller reserved call = some q)
      (live : s.pipes q = some pipe) (identified : pipe.id = id) :
      EntryChange s id (.call caller reserved call) (some TAINTED_READONLY)

/-- The only ways a pipe changes. -/
inductive PipeChange (s : State) (p : Nat) : Event → Option Pipe → Prop
  | kept {e : Event} : PipeChange s p e (s.pipes p)
  | created {pipe : Pipe} {n : Nat} {fMode : UInt32} (next : p = s.born)
      (apart : ∀ q other, s.pipes q = some other → other.addr ≠ pipe.addr)
      (untouched : pipe.received = false) :
      PipeChange s p (.create pipe n fMode) (some pipe)
  | freed {n : Nat} {fMode : UInt32} (ends : s.files n = some (.pipeEnd p fMode))
      (last : s.LastFile n p) : PipeChange s p (.close n) none
  | ingested {caller : Caller} {reserved : Bool} {call : Call}
      (received : s.receiver caller reserved call = some p) :
      PipeChange s p (.call caller reserved call) ((s.pipes p).map Pipe.receive)

section Entries

variable {s t : State} {e : Event} {id : UInt64}

private theorem entry_of_release {n p : Nat} {fMode : UInt32} {pipe : Pipe}
    (ends : s.files n = some (.pipeEnd p fMode)) (live : s.pipes p = some pipe) :
    EntryChange s id (.close n) ((s.release pipe fMode).maps.pipeTaintMap.lookup id) := by
  cases enabled : isModuleActive s.maps.stateMap with
  | false =>
    rw [State.release, release_of_disabled enabled]
    exact .kept
  | true =>
    have evicted : (s.release pipe fMode).maps.pipeTaintMap =
        s.maps.pipeTaintMap.delete pipe.id := by
      rw [State.release, release_of_enabled enabled pipe.attached]
      rfl
    rw [evicted]
    by_cases same : id = pipe.id
    · subst same
      rw [BoundedMap.lookup_delete_self]
      exact .released enabled ends live rfl
    · rw [BoundedMap.lookup_delete_ne _ same]
      exact .kept

/-- A full map takes a mark only where there is one already. -/
private theorem marked_of_full {taintMap : BoundedMap UInt64 UInt8} (wf : WellFormed s)
    (full : s.maps.pipeTaintMap.Full)
    (stored : s.maps.pipeTaintMap.update 0 id TAINTED_READONLY = some taintMap) :
    s.maps.pipeTaintMap.lookup id = some TAINTED_READONLY := by
  obtain ⟨-, -, ⟨present | room, -⟩ | ⟨-, -, evicts, -⟩⟩ := BoundedMap.update_cases stored
  · obtain ⟨value, found⟩ := BoundedMap.exists_lookup.mpr present
    rwa [wf.values id value found] at found
  · exact absurd full room
  · rw [wf.mapType] at evicts
    contradiction

private theorem entry_of_call (wf : WellFormed s) (caller : Caller) (reserved : Bool)
    (call : Call) :
    EntryChange s id (.call caller reserved call)
      ((s.call caller reserved call).maps.pipeTaintMap.lookup id) := by
  unfold State.call State.hook
  rcases hook_maps s.maps reserved (s.current caller) call with
    same | ⟨outId, taintMap, enabled, unprivileged, alive, ingests, stored, shape⟩
  · rw [same]
    exact .kept
  · rw [shape]
    obtain ⟨q, pipe, received, live, identified⟩ :=
      receiver_of_ingests ingests unprivileged alive
    by_cases same : id = outId
    · subst same
      rw [BoundedMap.lookup_update_self stored]
      by_cases full : s.maps.pipeTaintMap.Full
      · have marked := marked_of_full wf full stored
        rw [← marked]
        exact .kept
      · exact .marked enabled full received live identified
    · rw [BoundedMap.lookup_update_ne stored (.inl wf.mapType) same]
      exact .kept

theorem Step.entry_change (step : Step s e t) (wf : WellFormed s) (id : UInt64) :
    EntryChange s id e (t.maps.pipeTaintMap.lookup id) := by
  cases step with
  | create _ _ _ => exact .kept
  | openEnd _ _ => exact .kept
  | openOther _ => exact .kept
  | closeEnd ends live _ => exact entry_of_release ends live
  | closeLast ends live _ => exact entry_of_release ends live
  | closeOther _ => exact .kept
  | call => exact entry_of_call wf _ _ _
  | toggle => exact .kept

/-- Room in the map is enough for the mark of a pipe that ingests. -/
theorem marked_of_receiver {caller : Caller} {reserved : Bool} {call : Call} {q : Nat}
    {pipe : Pipe} (enabled : s.Enabled) (room : ¬ s.maps.pipeTaintMap.Full)
    (received : s.receiver caller reserved call = some q) (live : s.pipes q = some pipe) :
    (s.call caller reserved call).maps.pipeTaintMap.lookup pipe.id =
      some TAINTED_READONLY := by
  obtain ⟨unprivileged, alive, -⟩ := receiver_spec received
  obtain ⟨taintMap, stored⟩ : ∃ taintMap,
      s.maps.pipeTaintMap.update 0 pipe.id TAINTED_READONLY = some taintMap :=
    BoundedMap.exists_update_of_room room
  have shape := hook_of_ingests enabled unprivileged alive
    (ingests_of_receiver received live) stored
  simp only [State.call, State.hook, shape]
  exact BoundedMap.lookup_update_self stored

end Entries

section Invariant

variable {s t : State} {e : Event}

theorem Step.pipe_change (step : Step s e t) (p : Nat) : PipeChange s p e (t.pipes p) := by
  cases step with
  | create apart _ untouched =>
    by_cases next : p = s.born
    · rw [State.pipes_create, next, Function.update_self]
      exact .created rfl apart untouched
    · rw [State.pipes_create, Function.update_of_ne next]
      exact .kept
  | openEnd _ _ => exact .kept
  | openOther _ => exact .kept
  | closeEnd _ _ _ => exact .kept
  | @closeLast q n fMode pipe ends _ last =>
    by_cases same : p = q
    · subst same
      rw [State.pipes_freePipe, Function.update_self]
      exact .freed ends last
    · rw [State.pipes_freePipe, Function.update_of_ne same]
      exact .kept
  | closeOther _ => exact .kept
  | @call caller reserved call =>
    by_cases received : s.receiver caller reserved call = some p
    · simp only [State.call, received, if_true]
      exact .ingested received
    · simp only [State.call, received, if_false]
      exact .kept
  | toggle => exact .kept

/-- A live pipe was live before with the same address and inode, or has just been created. -/
theorem Step.live_before {p : Nat} {pipe : Pipe} (step : Step s e t)
    (live : t.pipes p = some pipe) :
    (∃ old, s.pipes p = some old ∧ pipe.addr = old.addr ∧ pipe.inode = old.inode ∧
      (old.received = true → pipe.received = true)) ∨
    (p = s.born ∧ pipe.received = false ∧
      ∀ q other, s.pipes q = some other → other.addr ≠ pipe.addr) := by
  have change := step.pipe_change p
  generalize t.pipes p = after at change live
  cases change with
  | kept => exact .inl ⟨pipe, live, rfl, rfl, id⟩
  | created next apart untouched =>
    cases live
    exact .inr ⟨next, untouched, apart⟩
  | freed _ _ => contradiction
  | ingested _ =>
    obtain ⟨old, before, rfl⟩ := Option.map_eq_some_iff.mp live
    exact .inl ⟨old, before, rfl, rfl, fun _ => rfl⟩

/-- What stands at a number of a file table after one entry changed. -/
private theorem cases_of_update {files : Nat → Option OpenFile} {n k : Nat}
    {file : Option OpenFile} {held : OpenFile} (here : update files n file k = some held) :
    (k = n ∧ file = some held) ∨ (k ≠ n ∧ files k = some held) := by
  by_cases same : k = n
  · rw [same, Function.update_self] at here
    exact .inl ⟨same, here⟩
  · rw [Function.update_of_ne same] at here
    exact .inr ⟨same, here⟩

/-- A pipe keeps an open file when an entry changes that is none of its files. -/
private theorem open_of_update {files : Nat → Option OpenFile} {n p : Nat}
    (file : Option OpenFile) (foreign : ∀ fMode, files n ≠ some (.pipeEnd p fMode))
    (before : ∃ k fMode, files k = some (.pipeEnd p fMode)) :
    ∃ k fMode, update files n file k = some (.pipeEnd p fMode) := by
  obtain ⟨k, fMode, ends⟩ := before
  have other : k ≠ n := by
    rintro rfl
    exact foreign fMode ends
  exact ⟨k, fMode, by rw [Function.update_of_ne other, ends]⟩

private theorem ends_live (step : Step s e t) (wf : WellFormed s) {k p : Nat} {fMode : UInt32}
    (ends : t.files k = some (.pipeEnd p fMode)) : ∃ pipe, t.pipes p = some pipe := by
  cases step with
  | @create pipe n _ _ _ _ =>
    rw [State.files_create] at ends
    rw [State.pipes_create]
    by_cases next : p = s.born
    · exact ⟨pipe, by rw [next, Function.update_self]⟩
    rw [Function.update_of_ne next]
    rcases cases_of_update ends with ⟨_, new⟩ | ⟨_, before⟩
    · cases new
      contradiction
    · exact wf.endsLive k p fMode before
  | @openEnd q n _ pipe live _ =>
    rw [State.files_openFile] at ends
    rcases cases_of_update ends with ⟨_, new⟩ | ⟨_, before⟩
    · cases new
      exact ⟨pipe, live⟩
    · exact wf.endsLive k p fMode before
  | openOther _ =>
    rw [State.files_openFile] at ends
    rcases cases_of_update ends with ⟨_, new⟩ | ⟨_, before⟩
    · cases new
    · exact wf.endsLive k p fMode before
  | closeEnd _ _ _ =>
    rw [State.files_closeFile, State.files_release] at ends
    rcases cases_of_update ends with ⟨_, new⟩ | ⟨_, before⟩
    · contradiction
    · exact wf.endsLive k p fMode before
  | @closeLast q n _ _ _ _ last =>
    rw [State.files_freePipe, State.files_closeFile, State.files_release] at ends
    rcases cases_of_update ends with ⟨_, new⟩ | ⟨other, before⟩
    · contradiction
    -- A file that is still open is not on the freed pipe, whose last file was `n`.
    have elsewhere : p ≠ q := by
      rintro rfl
      exact other (last k fMode before)
    rw [State.pipes_freePipe, Function.update_of_ne elsewhere]
    exact wf.endsLive k p fMode before
  | closeOther _ =>
    rw [State.files_closeFile] at ends
    rcases cases_of_update ends with ⟨_, new⟩ | ⟨_, before⟩
    · contradiction
    · exact wf.endsLive k p fMode before
  | call =>
    obtain ⟨pipe, live⟩ := wf.endsLive k p fMode ends
    simp only [State.call, live]
    split
    · exact ⟨pipe.receive, rfl⟩
    · exact ⟨pipe, rfl⟩
  | toggle => exact wf.endsLive k p fMode ends

private theorem live_open (step : Step s e t) (wf : WellFormed s) {p : Nat} {pipe : Pipe}
    (live : t.pipes p = some pipe) : ∃ k fMode, t.files k = some (.pipeEnd p fMode) := by
  cases step with
  | @create _ n fMode _ unused _ =>
    rw [State.pipes_create] at live
    rw [State.files_create]
    by_cases next : p = s.born
    · exact ⟨n, fMode, by rw [next, Function.update_self]⟩
    rw [Function.update_of_ne next] at live
    exact open_of_update _ (by simp [unused]) (wf.liveOpen p pipe live)
  | openEnd _ unused => exact open_of_update _ (by simp [unused]) (wf.liveOpen p pipe live)
  | openOther unused => exact open_of_update _ (by simp [unused]) (wf.liveOpen p pipe live)
  | @closeEnd q n _ _ closed _ shared =>
    rw [State.files_closeFile, State.files_release]
    by_cases same : p = q
    · subst same
      obtain ⟨k, mode, ends, other⟩ : ∃ k mode, s.files k = some (.pipeEnd p mode) ∧ k ≠ n := by
        simpa [State.LastFile] using shared
      exact ⟨k, mode, by rw [Function.update_of_ne other, ends]⟩
    · refine open_of_update _ ?_ (wf.liveOpen p pipe live)
      simp [closed, Ne.symm same]
  | @closeLast q n _ _ closed _ _ =>
    rw [State.pipes_freePipe] at live
    rw [State.files_freePipe, State.files_closeFile, State.files_release]
    have elsewhere : p ≠ q := by
      rintro rfl
      simp at live
    rw [Function.update_of_ne elsewhere] at live
    refine open_of_update _ ?_ (wf.liveOpen p pipe live)
    simp [closed, Ne.symm elsewhere]
  | closeOther closed => exact open_of_update _ (by simp [closed]) (wf.liveOpen p pipe live)
  | call =>
    simp only [State.call] at live
    split at live
    · obtain ⟨old, before, -⟩ := Option.map_eq_some_iff.mp live
      exact wf.liveOpen p old before
    · exact wf.liveOpen p pipe live
  | toggle => exact wf.liveOpen p pipe live

private theorem unborn (step : Step s e t) (wf : WellFormed s) {p : Nat}
    (later : t.born ≤ p) : t.pipes p = none := by
  cases step with
  | create _ _ _ =>
    have after : s.born + 1 ≤ p := later
    rw [State.pipes_create, Function.update_of_ne (by omega)]
    exact wf.unborn p (by omega)
  | openEnd _ _ => exact wf.unborn p later
  | openOther _ => exact wf.unborn p later
  | closeEnd _ _ _ => exact wf.unborn p later
  | @closeLast q _ _ _ _ _ _ =>
    by_cases same : p = q
    · rw [State.pipes_freePipe, same, Function.update_self]
    · rw [State.pipes_freePipe, Function.update_of_ne same]
      exact wf.unborn p later
  | closeOther _ => exact wf.unborn p later
  | call => simp [State.call, wf.unborn p later]
  | toggle => exact wf.unborn p later

private theorem apart (step : Step s e t) (wf : WellFormed s) {p q : Nat} {pipe other : Pipe}
    (live : t.pipes p = some pipe) (liveOther : t.pipes q = some other)
    (same : pipe.addr = other.addr) : p = q := by
  rcases step.live_before live with ⟨old, before, addr, -⟩ | ⟨next, -, fresh⟩ <;>
    rcases step.live_before liveOther with ⟨old', before', addr', -⟩ | ⟨next', -, fresh'⟩
  · exact wf.apart p q old old' before before' (by rw [← addr, same, addr'])
  · exact absurd (addr.symm.trans same) (fresh' p old before)
  · exact absurd (addr'.symm.trans same.symm) (fresh q old' before')
  · rw [next, next']

private theorem map_type (step : Step s e t) (wf : WellFormed s) :
    t.maps.pipeTaintMap.policy = pipeTaintType := by
  refine Eq.trans ?_ wf.mapType
  cases step with
  | create _ _ _ => rfl
  | openEnd _ _ => rfl
  | openOther _ => rfl
  | closeEnd _ _ _ => exact (release_keeps _ _ _).2
  | closeLast _ _ _ => exact (release_keeps _ _ _).2
  | closeOther _ => rfl
  | call => exact (hook_keeps _ _ _ _).2
  | toggle => rfl

private theorem values (step : Step s e t) (wf : WellFormed s) {id : UInt64} {value : UInt8}
    (found : t.maps.pipeTaintMap.lookup id = some value) : value = TAINTED_READONLY := by
  have change := step.entry_change wf id
  generalize t.maps.pipeTaintMap.lookup id = after at change found
  cases change with
  | kept => exact wf.values id value found
  | released _ _ _ _ => contradiction
  | marked _ _ _ _ _ => exact (Option.some.inj found).symm

theorem WellFormed.step (wf : WellFormed s) (step : Step s e t) : WellFormed t where
  endsLive _ _ _ ends := ends_live step wf ends
  liveOpen _ _ live := live_open step wf live
  unborn _ later := Pipes.unborn step wf later
  apart _ _ _ _ live liveOther same := Pipes.apart step wf live liveOther same
  mapType := map_type step wf
  values _ _ found := Pipes.values step wf found

theorem WellFormed.of_reachable (reach : Reachable Step Initial s) : WellFormed s :=
  reach.invariant (fun _ init => init.1) fun _ _ _ taken wf => wf.step taken

theorem Step.born_le (step : Step s e t) : s.born ≤ t.born := by
  cases step <;> first | exact Nat.le_succ _ | exact Nat.le_refl _

theorem Step.enabled (step : Step s e t) (enabled : s.Enabled) (on : e ≠ .toggle false) :
    t.Enabled := by
  have untouched : t.maps.stateMap = s.maps.stateMap → t.Enabled := by
    intro same
    rwa [State.Enabled, same]
  cases step with
  | create _ _ _ => exact enabled
  | openEnd _ _ => exact enabled
  | openOther _ => exact enabled
  | closeEnd _ _ _ => exact untouched (release_keeps _ _ _).1
  | closeLast _ _ _ => exact untouched (release_keeps _ _ _).1
  | closeOther _ => exact enabled
  | call => exact untouched (hook_keeps _ _ _ _).1
  | @toggle enable =>
    cases enable with
    | false => exact absurd rfl on
    | true => exact (isModuleActive_some 1).mpr rfl

end Invariant

section Sample

/-- The module as loaded, on a machine whose only open file is a read-only regular one. -/
def sampleStart : State where
  maps := ⟨some 1, .empty pipeTaintType 8192 pipeTaintMax_pos⟩
  pipes := fun _ => none
  files := update (fun _ => none) 0
    (some (.other ⟨some ⟨0o100644, 131⟩, FMODE_READ, 0⟩ (by simp [FileOnPipe])))
  born := 0

def samplePipe : Pipe where
  addr := 0xffff888100a4f0c0
  inode := ⟨0o010600, 52711⟩
  attached := by decide
  fifo := by decide
  received := false

/-- File 1 is the pipe's read end, file 2 its write end, file 3 a second write end that was
opened through the descriptor of the first. -/
def sampleOpen : State :=
  ((sampleStart.create samplePipe 1 FMODE_READ).openFile 2 (.pipeEnd 0 FMODE_WRITE)).openFile 3
    (.pipeEnd 0 FMODE_WRITE)

/-- Descriptor numbers are file numbers. -/
def user : Caller := ⟨⟨0x500000005, 1000, none⟩, 8, fun fd => some fd.toNat⟩

def sampleSplice : Call := .splice 0 2 0

def sampleMarked : State := sampleOpen.call user true sampleSplice

theorem sampleStart_initial : Initial sampleStart := by
  refine ⟨⟨?_, fun _ _ live => ?_, fun _ _ => rfl, fun _ _ _ _ live => ?_, rfl, ?_⟩,
    fun _ => rfl⟩
  · intro n p fMode ends
    unfold sampleStart at ends
    by_cases first : n = 0
    · simp [first] at ends
    · simp [Function.update_of_ne first] at ends
  · contradiction
  · contradiction
  · intro id value found
    contradiction

theorem sampleOpen_reachable : Reachable Step Initial sampleOpen :=
  ⟨sampleStart, _, sampleStart_initial,
    .cons (.create (fun _ _ live => by contradiction) rfl rfl)
      (.cons (.openEnd rfl rfl) (.cons (.openEnd rfl rfl) (.nil _)))⟩

end Sample

end BouclierBleu.IoRestrict.Pipes
