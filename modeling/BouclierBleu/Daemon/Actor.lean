/- GID: BouclierBleu/Daemon/Actor
   source: core/src/actor.rs, core/src/ipc/*.rs, core/src/telemetry.rs, modules/src/common/macros.rs
   digest: The IPC thread, the actor loop and the kernel hooks as parties that run side by side. -/

import BouclierBleu.Daemon.ModuleState
import BouclierBleu.Kernel.ModuleCore
import BouclierBleu.Library.BoundedQueues
import BouclierBleu.Telemetry.Totality

set_option autoImplicit false
set_option relaxedAutoImplicit false

namespace BouclierBleu.Daemon.Actor

open BouclierBleu.Daemon.Engine
open BouclierBleu.Daemon.ModuleState
open BouclierBleu.Kernel.AlertStructs (Endian)
open BouclierBleu.Kernel.ModuleCore (isModuleActive)
open BouclierBleu.Library.BoundedQueues (BoundedQueue)
open BouclierBleu.Telemetry.Parsers (Alert)
open BouclierBleu.Telemetry.Totality (Module)

/-- `IpcMessage`; the reply sender is named by the connection that holds its receiver. -/
structure IpcMessage where
  cmd : DaemonCmd
  client : Nat

/-- The IPC thread serves one connection at a time. While it is in `dispatch_command` the reply
channel holds at most one text. -/
inductive IpcThread
  | listening
  | awaiting (client : Nat) (response : Option String)
  deriving DecidableEq

/-- Where the actor stands in its loop. `left` is what remains of the ten messages it drains
after the first, and `due` the number of records submitted when the poll began. -/
inductive ActorThread
  | receiving
  | draining (left : Nat)
  | handling (msg : IpcMessage) (left : Nat)
  | replying (client : Nat) (response : String) (left : Nat)
  | polling (due : Nat)
  | stopped

/-- How a new connection gets on before its command is dispatched. -/
inductive Connection
  | refused
  | silent
  | unknown
  | command (cmd : DaemonCmd)

/-- A record in a ring buffer, numbered in order of submission. -/
structure Record where
  slug : String
  serial : Nat
  bytes : List UInt8
  deriving DecidableEq

/-- All parties. `hooks` are the hook executions that have passed their `is_module_active`
check. The fields after `rings` are a history that nothing reads: the connections whose command
was carried out, those whose command changed a flag, the answers written, the records submitted,
those passed to `emit_siem_event`, and for each module how many records there were when its last
`DISABLE` was taken off the queue. -/
structure System where
  daemon : DaemonState
  ipc : IpcThread
  connections : Nat
  channel : BoundedQueue IpcMessage 128
  actor : ActorThread
  hooks : List String
  rings : String → List Record
  carriedOut : List Nat
  changed : List Nat
  answers : List (Nat × String)
  submitted : List Record
  emitted : List Record
  marks : String → Nat

def System.start (b : Boot) : System where
  daemon := boot b
  ipc := .listening
  connections := 0
  channel := .empty
  actor := .receiving
  hooks := []
  rings := fun _ => []
  carriedOut := []
  changed := []
  answers := []
  submitted := []
  emitted := []
  marks := fun _ => 0

section Ipc

def permissionDenied : String := "ERROR: Permission denied. Root access required.\n"

def unknownCommand : String := "ERROR: Unknown command received.\n"

def timedOut : String := "ERROR: Engine operation timed out or panicked.\n"

def busy : String := "ERROR: Daemon is busy or overwhelmed. Try again later.\n"

def disconnected : String := "FATAL: Core engine has crashed. Channel disconnected.\n"

/-- The IPC thread writes its answer and turns to the next connection. -/
def System.answer (s : System) (client : Nat) (text : String) : System :=
  { s with ipc := .listening, answers := (client, text) :: s.answers }

/-- The first half of `dispatch_command`: `try_send`. -/
def System.dispatch (s : System) (cmd : DaemonCmd) : System :=
  match s.actor with
  | .stopped => s.answer s.connections disconnected
  | _ =>
    match s.channel.push ⟨cmd, s.connections⟩ with
    | none => s.answer s.connections busy
    | some channel => { s with channel := channel, ipc := .awaiting s.connections none }

/-- A dispatched command is turned down at once, or goes into the channel. -/
theorem dispatch_cases (s : System) (cmd : DaemonCmd) :
    s.dispatch cmd = s.answer s.connections disconnected ∨
    s.dispatch cmd = s.answer s.connections busy ∨
    ∃ channel, s.channel.push ⟨cmd, s.connections⟩ = some channel ∧
      s.dispatch cmd = { s with channel := channel, ipc := .awaiting s.connections none } := by
  unfold System.dispatch
  split
  · exact .inl rfl
  · cases pushed : s.channel.push ⟨cmd, s.connections⟩ with
    | none => exact .inr (.inl rfl)
    | some channel => exact .inr (.inr ⟨channel, rfl, rfl⟩)

/-- `handle_connection` up to the wait for the reply. -/
def System.connect (s : System) (connection : Connection) : System :=
  let served :=
    match connection with
    | .refused => s.answer s.connections permissionDenied
    | .silent => s
    | .unknown => s.answer s.connections unknownCommand
    | .command cmd => s.dispatch cmd
  { served with connections := s.connections + 1 }

/-- A connection is answered at once, goes without a word, or leaves its command in the
channel. -/
theorem connect_cases (s : System) (connection : Connection) :
    (∃ text, s.connect connection =
      { s.answer s.connections text with connections := s.connections + 1 }) ∨
    s.connect connection = { s with connections := s.connections + 1 } ∨
    ∃ cmd channel, s.channel.push ⟨cmd, s.connections⟩ = some channel ∧
      s.connect connection = { s with
        channel := channel
        ipc := .awaiting s.connections none
        connections := s.connections + 1 } := by
  cases connection with
  | refused => exact .inl ⟨permissionDenied, rfl⟩
  | silent => exact .inr (.inl rfl)
  | unknown => exact .inl ⟨unknownCommand, rfl⟩
  | command cmd =>
    rw [System.connect]
    rcases dispatch_cases s cmd with shape | shape | ⟨channel, pushed, shape⟩
    · exact .inl ⟨disconnected, by rw [shape]⟩
    · exact .inl ⟨busy, by rw [shape]⟩
    · exact .inr (.inr ⟨cmd, channel, pushed, by rw [shape]⟩)

/-- The IPC thread has no hand in the records. -/
theorem connect_frame (s : System) (connection : Connection) :
    (s.connect connection).rings = s.rings ∧ (s.connect connection).submitted = s.submitted ∧
      (s.connect connection).emitted = s.emitted ∧ (s.connect connection).marks = s.marks := by
  rcases connect_cases s connection with ⟨_, shape⟩ | shape | ⟨_, _, _, shape⟩
  · rw [shape]
    exact ⟨rfl, rfl, rfl, rfl⟩
  · rw [shape]
    exact ⟨rfl, rfl, rfl, rfl⟩
  · rw [shape]
    exact ⟨rfl, rfl, rfl, rfl⟩

end Ipc

section Commands

/-- A toggle of `target` that leaves something other than it was. -/
def Effective (d : DaemonState) (target : String) (enable updated : Bool) : Prop :=
  (target ∈ d.activeSkeletons ∧ target ∈ availableModules ∧ updated = true) ∧
    (d.stateMap target ≠ flag enable ∨ toggleFirst target enable d.registry ≠ d.registry)

instance (d : DaemonState) (target : String) (enable updated : Bool) :
    Decidable (Effective d target enable updated) := inferInstanceAs (Decidable (_ ∧ _))

def TakesEffect (d : DaemonState) (cmd : DaemonCmd) (updated : Bool) : Prop :=
  match cmd with
  | .enable target => Effective d target true updated
  | .disable target => Effective d target false updated
  | .status | .list => False

instance (d : DaemonState) (updated : Bool) :
    (cmd : DaemonCmd) → Decidable (TakesEffect d cmd updated)
  | .enable target => inferInstanceAs (Decidable (Effective d target true updated))
  | .disable target => inferInstanceAs (Decidable (Effective d target false updated))
  | .status => inferInstanceAs (Decidable False)
  | .list => inferInstanceAs (Decidable False)

/-- What the actor may still take off the queue in this tick, after one message. -/
def ActorThread.quota : ActorThread → Option Nat
  | .receiving => some 10
  | .draining (left + 1) => some left
  | _ => none

/-- Nothing is left to take in this tick: the wait of 50 ms ran out, or the drain ended. -/
def System.TickOver (s : System) : Prop :=
  match s.actor with
  | .receiving => s.channel.items = []
  | .draining left => left = 0 ∨ s.channel.items = []
  | _ => False

/-- Taking a message off the queue. -/
def System.receive (s : System) (msg : IpcMessage) (channel : BoundedQueue IpcMessage 128)
    (left : Nat) : System :=
  { s with
    channel := channel
    actor := .handling msg left
    marks :=
      match msg.cmd with
      | .disable target => Function.update s.marks target s.submitted.length
      | _ => s.marks }

/-- `handle_command`, in the actor's thread. -/
def System.handle (s : System) (msg : IpcMessage) (left : Nat) (updated : Bool) : System :=
  { s with
    daemon := (handleCommand s.daemon msg.cmd updated).1
    actor := .replying msg.client (handleCommand s.daemon msg.cmd updated).2 left
    carriedOut := msg.client :: s.carriedOut
    changed :=
      if TakesEffect s.daemon msg.cmd updated then msg.client :: s.changed else s.changed }

/-- `reply.send`; it is lost when the receiver is gone. -/
def System.reply (s : System) (client : Nat) (response : String) (left : Nat) : System :=
  { s with
    actor := .draining left
    ipc := if s.ipc = .awaiting client none then .awaiting client (some response) else s.ipc }

end Commands

section Telemetry

/-- The module of a slug. -/
def moduleOf (slug : String) : Option Module := Module.all.find? fun m => m.slug == slug

def Record.parse (e : Endian) (r : Record) : Except String Alert :=
  match moduleOf r.slug with
  | none => .error "Unknown module"
  | some m => m.tryFromBytes e r.bytes

/-- `status()` of the first registry module with the slug. -/
def isOn (d : DaemonState) (slug : String) : Bool :=
  (d.registry.find? fun m => m.slug == slug).any SecurityModule.status

/-- `process_event`: the alert it passes to `emit_siem_event`. -/
def processEvent (e : Endian) (d : DaemonState) (r : Record) : Option Alert :=
  if isOn d r.slug then
    match r.parse e with
    | .ok alert => some alert
    | .error _ => none
  else none

/-- A hook submits a record it has reserved and filled. -/
def System.submit (s : System) (slug : String) (bytes : List UInt8) : System :=
  let r : Record := ⟨slug, s.submitted.length, bytes⟩
  { s with
    hooks := s.hooks.erase slug
    rings := Function.update s.rings slug (s.rings slug ++ [r])
    submitted := s.submitted ++ [r] }

/-- The poll reads the oldest record of a ring buffer. -/
def System.consume (e : Endian) (s : System) (slug : String) (r : Record)
    (rest : List Record) : System :=
  { s with
    rings := Function.update s.rings slug rest
    emitted := if (processEvent e s.daemon r).isSome then s.emitted ++ [r] else s.emitted }

section Rings

variable {e : Endian} {s : System} {slug other : String} {bytes : List UInt8} {r : Record}
  {rest : List Record}

theorem rings_submit_self : (s.submit slug bytes).rings slug =
    s.rings slug ++ [⟨slug, s.submitted.length, bytes⟩] := Function.update_self ..

theorem rings_submit_of_ne (apart : other ≠ slug) :
    (s.submit slug bytes).rings other = s.rings other := Function.update_of_ne apart ..

theorem rings_consume_self : (s.consume e slug r rest).rings slug = rest :=
  Function.update_self ..

theorem rings_consume_of_ne (apart : other ≠ slug) :
    (s.consume e slug r rest).rings other = s.rings other := Function.update_of_ne apart ..

theorem emitted_consume : (s.consume e slug r rest).emitted =
    if (processEvent e s.daemon r).isSome then s.emitted ++ [r] else s.emitted := rfl

end Rings

end Telemetry

/-- `expire` is any end of the wait for a reply other than a reply: the five seconds are over, or
the sender is gone. `handle` carries the kernel's answer to the map update. -/
inductive Event
  | connect (connection : Connection)
  | deliver
  | expire
  | receive
  | tickOver
  | handle (updated : Bool)
  | reply
  | consume (slug : String)
  | pollDone
  | pollInterrupted
  | panic
  | enter (slug : String)
  | submit (slug : String) (bytes : List UInt8)
  | leave (slug : String)

/-- One step of one party; they interleave in any order. -/
inductive Step (e : Endian) : System → Event → System → Prop
  | connect {s : System} (connection : Connection) (free : s.ipc = .listening) :
      Step e s (.connect connection) (s.connect connection)
  | deliver {s : System} {client : Nat} {response : String}
      (waiting : s.ipc = .awaiting client (some response)) :
      Step e s .deliver (s.answer client response)
  | expire {s : System} {client : Nat} (waiting : s.ipc = .awaiting client none) :
      Step e s .expire (s.answer client timedOut)
  | receive {s : System} {msg : IpcMessage} {channel : BoundedQueue IpcMessage 128} {left : Nat}
      (room : s.actor.quota = some left) (taken : s.channel.pop = some (msg, channel)) :
      Step e s .receive (s.receive msg channel left)
  | tickOver {s : System} (ended : s.TickOver) :
      Step e s .tickOver { s with actor := .polling s.submitted.length }
  | handle {s : System} {msg : IpcMessage} {left : Nat} (updated : Bool)
      (here : s.actor = .handling msg left) :
      Step e s (.handle updated) (s.handle msg left updated)
  | reply {s : System} {client left : Nat} {response : String}
      (here : s.actor = .replying client response left) :
      Step e s .reply (s.reply client response left)
  | consume {s : System} {due : Nat} {slug : String} {r : Record} {rest : List Record}
      (here : s.actor = .polling due) (oldest : s.rings slug = r :: rest) :
      Step e s (.consume slug) (s.consume e slug r rest)
  | pollDone {s : System} {due : Nat} (here : s.actor = .polling due)
      (drained : ∀ slug, ∀ r ∈ s.rings slug, due ≤ r.serial) :
      Step e s .pollDone { s with actor := .receiving }
  | pollInterrupted {s : System} {due : Nat} (here : s.actor = .polling due) :
      Step e s .pollInterrupted { s with actor := .receiving }
  | panic {s : System} :
      Step e s .panic { s with actor := .stopped, channel := .empty }
  | enter {s : System} {slug : String} (loaded : slug ∈ s.daemon.activeSkeletons)
      (active : isModuleActive (some (s.daemon.stateMap slug)) = true) :
      Step e s (.enter slug) { s with hooks := slug :: s.hooks }
  | submit {s : System} {slug : String} (bytes : List UInt8) (running : slug ∈ s.hooks) :
      Step e s (.submit slug bytes) (s.submit slug bytes)
  | leave {s : System} {slug : String} (running : slug ∈ s.hooks) :
      Step e s (.leave slug) { s with hooks := s.hooks.erase slug }

/-- A boot with exec_block alone, enabled. -/
def guardedBoot : Boot := { unwrittenBoot with updates := fun _ => true }

/-- The first client asks for it to be disabled. -/
def disableCommand : IpcMessage := ⟨.disable "exec_block", 0⟩

/-- What a step does to the records: nothing, apart from a new mark of one module, or one is
submitted, or the oldest of one ring buffer is read. -/
theorem records_cases {e : Endian} {s t : System} {event : Event} (taken : Step e s event t) :
    ((t.rings = s.rings ∧ t.submitted = s.submitted ∧ t.emitted = s.emitted) ∧
      (t.marks = s.marks ∨
        ∃ target, t.marks = Function.update s.marks target s.submitted.length) ∧
      ∀ slug, event ≠ .consume slug) ∨
    (∃ slug bytes, event = .submit slug bytes ∧ t = s.submit slug bytes) ∨
    ∃ slug r rest, event = .consume slug ∧ s.rings slug = r :: rest ∧
      t = s.consume e slug r rest := by
  cases taken with
  | connect connection free =>
    obtain ⟨rings, submitted, emitted, marks⟩ := connect_frame s connection
    exact .inl ⟨⟨rings, submitted, emitted⟩, .inl marks, nofun⟩
  | @receive msg channel left room taken =>
    refine .inl ⟨⟨rfl, rfl, rfl⟩, ?_, nofun⟩
    cases shape : msg.cmd with
    | disable target => exact .inr ⟨target, by simp [System.receive, shape]⟩
    | _ => exact .inl (by simp [System.receive, shape])
  | submit bytes running => exact .inr (.inl ⟨_, bytes, rfl, rfl⟩)
  | consume here oldest => exact .inr (.inr ⟨_, _, _, rfl, oldest, rfl⟩)
  | deliver waiting => exact .inl ⟨⟨rfl, rfl, rfl⟩, .inl rfl, nofun⟩
  | expire waiting => exact .inl ⟨⟨rfl, rfl, rfl⟩, .inl rfl, nofun⟩
  | tickOver ended => exact .inl ⟨⟨rfl, rfl, rfl⟩, .inl rfl, nofun⟩
  | handle updated here => exact .inl ⟨⟨rfl, rfl, rfl⟩, .inl rfl, nofun⟩
  | reply here => exact .inl ⟨⟨rfl, rfl, rfl⟩, .inl rfl, nofun⟩
  | pollDone here drained => exact .inl ⟨⟨rfl, rfl, rfl⟩, .inl rfl, nofun⟩
  | pollInterrupted here => exact .inl ⟨⟨rfl, rfl, rfl⟩, .inl rfl, nofun⟩
  | panic => exact .inl ⟨⟨rfl, rfl, rfl⟩, .inl rfl, nofun⟩
  | enter loaded active => exact .inl ⟨⟨rfl, rfl, rfl⟩, .inl rfl, nofun⟩
  | leave running => exact .inl ⟨⟨rfl, rfl, rfl⟩, .inl rfl, nofun⟩

end BouclierBleu.Daemon.Actor
