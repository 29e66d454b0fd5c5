/- GID: BouclierBleu/Daemon/Linearization
   source: core/src/actor.rs, core/src/ipc/handler.rs
   digest: The threads of the daemon answer as if commands were carried out one at a time, in turn. -/

import BouclierBleu.Daemon.Actor
import BouclierBleu.Library.Histories

set_option autoImplicit false
set_option relaxedAutoImplicit false

namespace BouclierBleu.Daemon.Linearization

open BouclierBleu.Daemon.Actor
open BouclierBleu.Daemon.Engine
open BouclierBleu.Daemon.ModuleState (DaemonCmd Request handleCommand)
open BouclierBleu.Kernel.AlertStructs (Endian)
open BouclierBleu.Library.BoundedQueues (BoundedQueue)
open BouclierBleu.Library.Histories
open BouclierBleu.Library.Trace (Move Run)

/-- The engine as an object that carries out one request after another. -/
def serve (d : DaemonState) (request : Request) : DaemonState × String :=
  handleCommand d request.cmd request.updated

abbrev CommandOperation := Operation Request String

/-- The command a move carries out, with the text the actor goes on to send. -/
def operationOf (m : Move System Event) : Option CommandOperation :=
  match m.label with
  | .handle updated =>
    match m.source.actor, m.target.actor with
    | .handling msg _, .replying _ response _ => some ⟨msg.client, ⟨msg.cmd, updated⟩, response⟩
    | _, _ => none
  | _ => none

def connectionOf (m : Move System Event) : Option Connection :=
  match m.label with
  | .connect connection => some connection
  | _ => none

/-- The commands of a run, in the order in which they were carried out. -/
def operations (moves : List (Move System Event)) : List CommandOperation :=
  moves.filterMap operationOf

/-- The connections of a run; the number of each is its place. -/
def connections (moves : List (Move System Event)) : List Connection :=
  moves.filterMap connectionOf

/-- Why the client `c` was told `text`, where `ops` have been carried out and no command of a
client outside `live` ever will be. -/
inductive Explains (conns : List Connection) (ops : List CommandOperation) (live : List Nat)
    (c : Nat) : String → Prop
  | refused (sent : conns[c]? = some .refused) : Explains conns ops live c permissionDenied
  | unknown (sent : conns[c]? = some .unknown) : Explains conns ops live c unknownCommand
  | busy (cmd : DaemonCmd) (sent : conns[c]? = some (.command cmd)) (never : c ∉ live) :
      Explains conns ops live c busy
  | disconnected (cmd : DaemonCmd) (sent : conns[c]? = some (.command cmd)) (never : c ∉ live) :
      Explains conns ops live c disconnected
  | timedOut (cmd : DaemonCmd) (sent : conns[c]? = some (.command cmd)) :
      Explains conns ops live c timedOut
  | answered (op : CommandOperation) (member : op ∈ ops) (own : op.client = c) :
      Explains conns ops live c op.output

/-- The commands on their way to be carried out, the next one first. -/
def pending (s : System) : List IpcMessage :=
  (match s.actor with
    | .handling msg _ => [msg]
    | _ => []) ++ s.channel.items

/-- The clients whose command has been or may yet be carried out, in that order. -/
def live (ops : List CommandOperation) (s : System) : List Nat :=
  ops.map Operation.client ++ (pending s).map IpcMessage.client

/-- What a run from the boot shows of the threads: the engine is where carrying out the
operations one at a time leaves it, each with the answer it gives there. They are carried out
in the order their clients connected, at most one for each client and as it was sent. Clients
are answered in that order too, once and with a reason, and only a client that sent nothing is
passed over. -/
structure Linearized (b : Boot) (conns : List Connection) (ops : List CommandOperation)
    (s : System) : Prop where
  legal : Legal serve (boot b) ops
  current : s.daemon = after serve (boot b) ops
  ordered : (ops.map Operation.client).Pairwise (· < ·)
  sent : ∀ op ∈ ops, conns[op.client]? = some (.command op.input.cmd)
  turns : (s.answers.map Prod.fst).Pairwise (· > ·)
  explained : ∀ answer ∈ s.answers,
    Explains conns ops (ops.map Operation.client) answer.1 answer.2
  served : ∀ (c : Nat) (connection : Connection), conns[c]? = some connection →
    connection = .silent ∨ c ∈ s.answers.map Prod.fst ∨ ∃ response, s.ipc = .awaiting c response

/-- The same with the commands and texts under way taken into account, as every step keeps it. -/
structure Ledger (b : Boot) (conns : List Connection) (ops : List CommandOperation)
    (s : System) : Prop where
  numbered : conns.length = s.connections
  legal : Legal serve (boot b) ops
  current : s.daemon = after serve (boot b) ops
  ordered : (live ops s).Pairwise (· < ·)
  sent : ∀ op ∈ ops, conns[op.client]? = some (.command op.input.cmd)
  queued : ∀ msg ∈ pending s, conns[msg.client]? = some (.command msg.cmd)
  replying : ∀ c response left, s.actor = .replying c response left →
    ∃ op ∈ ops, op.client = c ∧ op.output = response
  awaiting : ∀ c response, s.ipc = .awaiting c response →
    (∃ cmd, conns[c]? = some (.command cmd)) ∧
      (∀ text, response = some text → ∃ op ∈ ops, op.client = c ∧ op.output = text) ∧
      ∀ answer ∈ s.answers, answer.1 < c
  turns : (s.answers.map Prod.fst).Pairwise (· > ·)
  known : ∀ answer ∈ s.answers, answer.1 < s.connections
  explained : ∀ answer ∈ s.answers, Explains conns ops (live ops s) answer.1 answer.2
  served : ∀ (c : Nat) (connection : Connection), conns[c]? = some connection →
    connection = .silent ∨ c ∈ s.answers.map Prod.fst ∨ ∃ response, s.ipc = .awaiting c response

section Explanations

variable {conns : List Connection} {ops : List CommandOperation} {clients : List Nat} {c : Nat}
  {text : String}

/-- An explanation stands as long as nobody comes to be live whose command was turned down. -/
private theorem Explains.mono {more : List CommandOperation} {others : List Nat}
    (explains : Explains conns ops clients c text) (later : ops ⊆ more)
    (fewer : c ∈ others → c ∈ clients) : Explains conns more others c text := by
  cases explains with
  | refused sent => exact .refused sent
  | unknown sent => exact .unknown sent
  | busy cmd sent never => exact .busy cmd sent (mt fewer never)
  | disconnected cmd sent never => exact .disconnected cmd sent (mt fewer never)
  | timedOut cmd sent => exact .timedOut cmd sent
  | answered op member own => exact .answered op (later member) own

/-- An earlier client's connection is the same after another one. -/
private theorem getElem?_snoc {connection found : Connection} (here : conns[c]? = some found) :
    (conns ++ [connection])[c]? = some found := by
  obtain ⟨below, _⟩ := List.getElem?_eq_some_iff.mp here
  rw [List.getElem?_append_left below, here]

private theorem Explains.snoc (explains : Explains conns ops clients c text)
    (connection : Connection) : Explains (conns ++ [connection]) ops clients c text := by
  cases explains with
  | refused sent => exact .refused (getElem?_snoc sent)
  | unknown sent => exact .unknown (getElem?_snoc sent)
  | busy cmd sent never => exact .busy cmd (getElem?_snoc sent) never
  | disconnected cmd sent never => exact .disconnected cmd (getElem?_snoc sent) never
  | timedOut cmd sent => exact .timedOut cmd (getElem?_snoc sent)
  | answered op member own => exact .answered op member own

end Explanations

section Steps

variable {b : Boot} {conns : List Connection} {ops : List CommandOperation} {s t : System}

private theorem pending_receive {msg : IpcMessage} {channel : BoundedQueue IpcMessage 128}
    {left : Nat} (room : s.actor.quota = some left) (taken : s.channel.pop = some (msg, channel)) :
    pending (s.receive msg channel left) = pending s := by
  have items := BoundedQueue.items_of_pop taken
  cases here : s.actor with
  | receiving => simp [pending, System.receive, here, items]
  | draining _ => simp [pending, System.receive, here, items]
  | handling _ _ => simp [here, ActorThread.quota] at room
  | replying _ _ _ => simp [here, ActorThread.quota] at room
  | polling _ => simp [here, ActorThread.quota] at room
  | stopped => simp [here, ActorThread.quota] at room

/-- A client that is live has connected with a command. -/
private theorem Ledger.exists_command (ledger : Ledger b conns ops s) {c : Nat}
    (member : c ∈ live ops s) : ∃ cmd, conns[c]? = some (.command cmd) := by
  rcases List.mem_append.mp member with done | waiting
  · obtain ⟨op, listed, rfl⟩ := List.mem_map.mp done
    exact ⟨_, ledger.sent op listed⟩
  · obtain ⟨msg, listed, rfl⟩ := List.mem_map.mp waiting
    exact ⟨_, ledger.queued msg listed⟩

private theorem Ledger.live_lt (ledger : Ledger b conns ops s) {c : Nat}
    (member : c ∈ live ops s) : c < s.connections := by
  obtain ⟨cmd, sent⟩ := ledger.exists_command member
  rw [← ledger.numbered]
  exact (List.getElem?_eq_some_iff.mp sent).1

/-- Steps that carry out no command and leave the IPC thread alone; they may drop commands. -/
private theorem Ledger.frame (ledger : Ledger b conns ops s) (daemon : t.daemon = s.daemon)
    (ipc : t.ipc = s.ipc) (connections : t.connections = s.connections)
    (answers : t.answers = s.answers) (commands : (pending t).Sublist (pending s))
    (texts : ∀ c response left, t.actor = .replying c response left →
      s.actor = .replying c response left) : Ledger b conns ops t := by
  have clients : (live ops t).Sublist (live ops s) :=
    (List.Sublist.refl _).append (commands.map _)
  refine ⟨?_, ledger.legal, ?_, ledger.ordered.sublist clients, ledger.sent, ?_, ?_, ?_, ?_, ?_, ?_,
    ?_⟩
  · rw [connections, ledger.numbered]
  · rw [daemon, ledger.current]
  · intro msg member
    exact ledger.queued msg (commands.subset member)
  · intro c response left here
    exact ledger.replying c response left (texts c response left here)
  · rw [ipc, answers]
    exact ledger.awaiting
  · rw [answers]
    exact ledger.turns
  · rw [answers, connections]
    exact ledger.known
  · rw [answers]
    intro answer member
    exact (ledger.explained answer member).mono (List.Subset.refl _) fun here =>
      clients.subset here
  · rw [ipc, answers]
    exact ledger.served

/-- A waiting client is answered. -/
private theorem Ledger.answer (ledger : Ledger b conns ops s) {client : Nat}
    {response : Option String} (waiting : s.ipc = .awaiting client response) {text : String}
    (reason : Explains conns ops (live ops s) client text) :
    Ledger b conns ops (s.answer client text) := by
  obtain ⟨⟨cmd, sent⟩, _, early⟩ := ledger.awaiting client response waiting
  refine ⟨ledger.numbered, ledger.legal, ledger.current, ledger.ordered, ledger.sent,
    ledger.queued, ledger.replying, ?_, ?_, ?_, ?_, ?_⟩
  · intro c other listening
    cases listening
  · refine List.pairwise_cons.mpr ⟨?_, ledger.turns⟩
    intro c member
    obtain ⟨answer, listed, rfl⟩ := List.mem_map.mp member
    exact early answer listed
  · intro answer member
    rcases List.mem_cons.mp member with rfl | earlier
    · rw [← show conns.length = (s.answer client text).connections from ledger.numbered]
      exact (List.getElem?_eq_some_iff.mp sent).1
    · exact ledger.known answer earlier
  · intro answer member
    rcases List.mem_cons.mp member with rfl | earlier
    · exact reason
    · exact ledger.explained answer earlier
  · intro c connection here
    refine (ledger.served c connection here).imp_right fun rest => .inl ?_
    rcases rest with told | ⟨other, still⟩
    · exact List.mem_cons_of_mem _ told
    · rw [waiting] at still
      cases still
      exact List.mem_cons_self

/-- A new connection that puts nothing into the channel: it is answered at once with a text that
its own kind explains, or it is silent. -/
private theorem Ledger.turnAway (ledger : Ledger b conns ops s) (free : s.ipc = .listening)
    {connection : Connection} (told : List (Nat × String)) {ipc : IpcThread}
    (quiet : ipc = .listening)
    (reasons : ∀ answer ∈ told, answer.1 = s.connections ∧
      Explains (conns ++ [connection]) ops (live ops s) answer.1 answer.2)
    (brief : told.length ≤ 1) (passed : connection = .silent ∨ told ≠ []) :
    Ledger b (conns ++ [connection]) ops { s with
      ipc := ipc
      answers := told ++ s.answers
      connections := s.connections + 1 } := by
  refine ⟨?_, ledger.legal, ledger.current, ledger.ordered, ?_, ?_, ledger.replying, ?_, ?_, ?_,
    ?_, ?_⟩
  · rw [List.length_append, ledger.numbered, List.length_singleton]
  · intro op member
    exact getElem?_snoc (ledger.sent op member)
  · intro msg member
    exact getElem?_snoc (ledger.queued msg member)
  · intro c response waiting
    change ipc = _ at waiting
    rw [quiet] at waiting
    cases waiting
  · rw [List.map_append]
    refine List.pairwise_append.mpr ⟨?_, ledger.turns, ?_⟩
    · cases told with
      | nil => exact .nil
      | cons first rest =>
        rw [List.length_cons] at brief
        have alone : rest = [] := List.length_eq_zero_iff.mp (by omega)
        rw [alone]
        exact List.pairwise_singleton _ _
    · intro c here c' member
      obtain ⟨answer, listed, rfl⟩ := List.mem_map.mp here
      obtain ⟨earlier, before, rfl⟩ := List.mem_map.mp member
      rw [(reasons answer listed).1]
      exact ledger.known earlier before
  · intro answer member
    rcases List.mem_append.mp member with new | earlier
    · rw [(reasons answer new).1]
      exact Nat.lt_succ_self _
    · exact Nat.lt_succ_of_lt (ledger.known answer earlier)
  · intro answer member
    rcases List.mem_append.mp member with new | earlier
    · exact (reasons answer new).2
    · exact (ledger.explained answer earlier).snoc connection
  · intro c found here
    rw [List.map_append]
    by_cases below : c < conns.length
    · rw [List.getElem?_append_left below] at here
      refine (ledger.served c found here).imp_right fun rest => .inl ?_
      refine List.mem_append_right _ (rest.resolve_right ?_)
      rintro ⟨response, waiting⟩
      rw [free] at waiting
      cases waiting
    · obtain ⟨inside, _⟩ := List.getElem?_eq_some_iff.mp here
      rw [List.length_append, List.length_singleton] at inside
      have last : c = conns.length := by omega
      subst last
      rw [List.getElem?_concat_length, Option.some.injEq] at here
      subst here
      refine passed.imp_right fun spoken => .inl (List.mem_append_left _ ?_)
      obtain ⟨answer, rest, shape⟩ := List.exists_cons_of_ne_nil spoken
      have own := (reasons answer (shape ▸ List.mem_cons_self)).1
      rw [ledger.numbered, ← own, shape]
      exact List.mem_map_of_mem List.mem_cons_self

/-- A command that goes into the channel. -/
private theorem Ledger.queue (ledger : Ledger b conns ops s) (free : s.ipc = .listening)
    {cmd : DaemonCmd} {channel : BoundedQueue IpcMessage 128}
    (pushed : s.channel.push ⟨cmd, s.connections⟩ = some channel) :
    Ledger b (conns ++ [.command cmd]) ops { s with
      channel := channel
      ipc := .awaiting s.connections none
      connections := s.connections + 1 } := by
  have commands : pending { s with
      channel := channel
      ipc := .awaiting s.connections none
      connections := s.connections + 1 } = pending s ++ [⟨cmd, s.connections⟩] := by
    simp [pending, BoundedQueue.items_of_push pushed]
  have clients : live ops { s with
      channel := channel
      ipc := .awaiting s.connections none
      connections := s.connections + 1 } = live ops s ++ [s.connections] := by
    rw [live, commands, List.map_append, ← List.append_assoc]
    rfl
  have own : (conns ++ [Connection.command cmd])[s.connections]? = some (.command cmd) := by
    rw [← ledger.numbered]
    exact List.getElem?_concat_length ..
  refine ⟨?_, ledger.legal, ledger.current, ?_, ?_, ?_, ledger.replying, ?_, ledger.turns, ?_, ?_,
    ?_⟩
  · rw [List.length_append, ledger.numbered, List.length_singleton]
  · rw [clients]
    refine List.pairwise_append.mpr ⟨ledger.ordered, List.pairwise_singleton _ _, ?_⟩
    intro c member c' new
    rw [List.mem_singleton.mp new]
    exact ledger.live_lt member
  · intro op member
    exact getElem?_snoc (ledger.sent op member)
  · rw [commands]
    intro msg member
    rcases List.mem_append.mp member with earlier | new
    · exact getElem?_snoc (ledger.queued msg earlier)
    · rw [List.mem_singleton.mp new]
      exact own
  · intro c response waiting
    cases waiting
    exact ⟨⟨cmd, own⟩, nofun, ledger.known⟩
  · intro answer member
    exact Nat.lt_succ_of_lt (ledger.known answer member)
  · intro answer member
    rw [clients]
    refine ((ledger.explained answer member).snoc _).mono (List.Subset.refl _) fun here => ?_
    refine (List.mem_append.mp here).resolve_right fun new => ?_
    have below := ledger.known answer member
    rw [List.mem_singleton.mp new] at below
    exact Nat.lt_irrefl _ below
  · intro c found here
    by_cases below : c < conns.length
    · rw [List.getElem?_append_left below] at here
      refine (ledger.served c found here).imp_right fun rest => .inl ?_
      refine rest.resolve_right ?_
      rintro ⟨response, waiting⟩
      rw [free] at waiting
      cases waiting
    · obtain ⟨inside, _⟩ := List.getElem?_eq_some_iff.mp here
      rw [List.length_append, List.length_singleton] at inside
      have last : c = s.connections := by
        rw [← ledger.numbered]
        omega
      subst last
      exact .inr (.inr ⟨none, rfl⟩)

private theorem Ledger.connect (ledger : Ledger b conns ops s) (free : s.ipc = .listening)
    (connection : Connection) : Ledger b (conns ++ [connection]) ops (s.connect connection) := by
  have own : (conns ++ [connection])[s.connections]? = some connection := by
    rw [← ledger.numbered]
    exact List.getElem?_concat_length ..
  have away : s.connections ∉ live ops s := fun member =>
    Nat.lt_irrefl _ (ledger.live_lt member)
  have told {text : String}
      (reason : Explains (conns ++ [connection]) ops (live ops s) s.connections text) :
      Ledger b (conns ++ [connection]) ops
        { s.answer s.connections text with connections := s.connections + 1 } := by
    refine ledger.turnAway free [(s.connections, text)] rfl ?_ (Nat.le_refl _)
      (.inr (List.cons_ne_nil _ _))
    intro answer member
    rw [List.mem_singleton.mp member]
    exact ⟨rfl, reason⟩
  cases connection with
  | refused => exact told (.refused own)
  | silent => exact ledger.turnAway free [] free (nofun) (Nat.zero_le _) (.inl rfl)
  | unknown => exact told (.unknown own)
  | command cmd =>
    rw [System.connect]
    unfold System.dispatch
    split
    · exact told (.disconnected cmd own away)
    · cases pushed : s.channel.push ⟨cmd, s.connections⟩ with
      | none => exact told (.busy cmd own away)
      | some channel => exact ledger.queue free pushed

/-- `handle_command`: the operation is the next one of the history. -/
private theorem Ledger.handle (ledger : Ledger b conns ops s) {msg : IpcMessage} {left : Nat}
    (updated : Bool) (here : s.actor = .handling msg left) :
    Ledger b conns
      (ops ++ [⟨msg.client, ⟨msg.cmd, updated⟩, (handleCommand s.daemon msg.cmd updated).2⟩])
      (s.handle msg left updated) := by
  have commands : pending s = msg :: pending (s.handle msg left updated) := by
    simp [pending, here, System.handle]
  have clients : live (ops ++ [⟨msg.client, ⟨msg.cmd, updated⟩,
      (handleCommand s.daemon msg.cmd updated).2⟩]) (s.handle msg left updated) = live ops s := by
    simp [live, commands]
  have grown (c : Nat) (text : String) (earlier : ∃ op ∈ ops, op.client = c ∧ op.output = text) :
      ∃ op ∈ ops ++ [⟨msg.client, ⟨msg.cmd, updated⟩,
        (handleCommand s.daemon msg.cmd updated).2⟩], op.client = c ∧ op.output = text := by
    obtain ⟨op, member, both⟩ := earlier
    exact ⟨op, List.mem_append_left _ member, both⟩
  refine ⟨ledger.numbered, ?_, ?_, ?_, ?_, ?_, ?_, ?_, ledger.turns, ledger.known, ?_,
    ledger.served⟩
  · rw [legal_snoc, ← ledger.current]
    exact ⟨ledger.legal, rfl⟩
  · rw [after_snoc, ← ledger.current]
    rfl
  · rw [clients]
    exact ledger.ordered
  · intro op member
    rcases List.mem_append.mp member with earlier | new
    · exact ledger.sent op earlier
    · rw [List.mem_singleton.mp new]
      exact ledger.queued msg (commands ▸ List.mem_cons_self)
  · intro other member
    exact ledger.queued other (commands ▸ List.mem_cons_of_mem _ member)
  · intro c response left' stage
    cases stage
    exact ⟨_, List.mem_append_right _ List.mem_cons_self, rfl, rfl⟩
  · intro c response waiting
    obtain ⟨sent, texts, early⟩ := ledger.awaiting c response waiting
    exact ⟨sent, fun text held => grown c text (texts text held), early⟩
  · intro answer member
    rw [clients]
    exact (ledger.explained answer member).mono (List.subset_append_left _ _) id

private theorem Ledger.reply (ledger : Ledger b conns ops s) {client left : Nat}
    {response : String} (here : s.actor = .replying client response left) :
    Ledger b conns ops (s.reply client response left) := by
  have commands : pending (s.reply client response left) = pending s := by
    simp [pending, System.reply, here]
  have clients : live ops (s.reply client response left) = live ops s := by
    rw [live, commands, live]
  refine ⟨ledger.numbered, ledger.legal, ledger.current, ?_, ledger.sent, ?_, ?_, ?_, ledger.turns,
    ledger.known, ?_, ?_⟩
  · rw [clients]
    exact ledger.ordered
  · rw [commands]
    exact ledger.queued
  · intro c text left' stage
    cases stage
  · intro c text waiting
    by_cases open_ : s.ipc = .awaiting client none
    · have ipc : (s.reply client response left).ipc = .awaiting client (some response) :=
        if_pos open_
      rw [ipc] at waiting
      cases waiting
      obtain ⟨sent, _, early⟩ := ledger.awaiting client none open_
      refine ⟨sent, ?_, early⟩
      intro text held
      cases held
      exact ledger.replying client response left here
    · rw [show (s.reply client response left).ipc = s.ipc from if_neg open_] at waiting
      exact ledger.awaiting c text waiting
  · rw [clients]
    exact ledger.explained
  · intro c connection found
    refine (ledger.served c connection found).imp_right (Or.imp_right ?_)
    rintro ⟨held, waiting⟩
    by_cases open_ : s.ipc = .awaiting client none
    · rw [open_] at waiting
      cases waiting
      exact ⟨some response, if_pos open_⟩
    · exact ⟨held, (show (s.reply client response left).ipc = s.ipc from if_neg open_).trans
        waiting⟩

variable {e : Endian}

private theorem ledger_step (event : Event) (taken : Step e s event t)
    (ledger : Ledger b conns ops s) :
    Ledger b (conns ++ (connectionOf ⟨s, event, t⟩).toList)
      (ops ++ (operationOf ⟨s, event, t⟩).toList) t := by
  -- Steps of the actor and the hooks that carry out nothing, and end no wait.
  have aside {t : System} (daemon : t.daemon = s.daemon) (ipc : t.ipc = s.ipc)
      (count : t.connections = s.connections) (answers : t.answers = s.answers)
      (commands : (pending t).Sublist (pending s))
      (texts : ∀ c response left, t.actor = .replying c response left →
        s.actor = .replying c response left) : Ledger b (conns ++ []) (ops ++ []) t := by
    rw [List.append_nil, List.append_nil]
    exact ledger.frame daemon ipc count answers commands texts
  cases taken with
  | connect connection free =>
    have closed := ledger.connect free connection
    rwa [← List.append_nil ops] at closed
  | @deliver client response waiting =>
    obtain ⟨_, texts, _⟩ := ledger.awaiting client (some response) waiting
    obtain ⟨op, member, own, rfl⟩ := texts response rfl
    have closed := ledger.answer waiting (.answered op member own)
    rwa [← List.append_nil ops, ← List.append_nil conns] at closed
  | @expire client waiting =>
    obtain ⟨⟨cmd, sent⟩, _⟩ := ledger.awaiting client none waiting
    have closed := ledger.answer waiting (.timedOut cmd sent)
    rwa [← List.append_nil ops, ← List.append_nil conns] at closed
  | @receive msg channel left room taken =>
    refine aside rfl rfl rfl rfl ?_ ?_
    · rw [pending_receive room taken]
    · intro c response left' stage
      cases stage
  | @handle msg left updated here =>
    have closed := ledger.handle updated here
    have shown : operationOf ⟨s, .handle updated, s.handle msg left updated⟩ =
        some ⟨msg.client, ⟨msg.cmd, updated⟩, (handleCommand s.daemon msg.cmd updated).2⟩ := by
      simp [operationOf, here, System.handle]
    rw [shown]
    rwa [← List.append_nil conns] at closed
  | reply here =>
    have closed := ledger.reply here
    rwa [← List.append_nil ops, ← List.append_nil conns] at closed
  | tickOver ended =>
    refine aside rfl rfl rfl rfl (List.sublist_append_right _ _) ?_
    intro c response left' stage
    cases stage
  | pollDone here drained =>
    refine aside rfl rfl rfl rfl (List.sublist_append_right _ _) ?_
    intro c response left' stage
    cases stage
  | pollInterrupted here =>
    refine aside rfl rfl rfl rfl (List.sublist_append_right _ _) ?_
    intro c response left' stage
    cases stage
  | panic =>
    refine aside rfl rfl rfl rfl (List.nil_sublist _) ?_
    intro c response left' stage
    cases stage
  | consume here oldest => exact aside rfl rfl rfl rfl (.refl _) fun _ _ _ => id
  | enter loaded active => exact aside rfl rfl rfl rfl (.refl _) fun _ _ _ => id
  | submit bytes running => exact aside rfl rfl rfl rfl (.refl _) fun _ _ _ => id
  | leave running => exact aside rfl rfl rfl rfl (.refl _) fun _ _ _ => id

private theorem ledger_start (b : Boot) : Ledger b [] [] (System.start b) where
  numbered := rfl
  legal := .nil _
  current := rfl
  ordered := .nil
  sent := nofun
  queued := nofun
  replying := nofun
  awaiting := nofun
  turns := .nil
  known := nofun
  explained := nofun
  served := nofun

theorem Ledger.linearized (ledger : Ledger b conns ops s) : Linearized b conns ops s where
  legal := ledger.legal
  current := ledger.current
  ordered := (List.pairwise_append.mp ledger.ordered).1
  sent := ledger.sent
  turns := ledger.turns
  explained answer member :=
    (ledger.explained answer member).mono (List.Subset.refl _) (List.mem_append_left _)
  served := ledger.served

end Steps

theorem ledger_of_run {e : Endian} (b : Boot) {s : System} {moves : List (Move System Event)}
    (run : Run (Step e) (System.start b) moves s) :
    Ledger b (connections moves) (operations moves) s := by
  have kept : Ledger b (connections ([] ++ moves)) (operations ([] ++ moves)) s := by
    refine invariant_along (I := fun before s => Ledger b (connections before) (operations before) s)
      ?_ run (ledger_start b)
    intro before s event t taken ledger
    have grown := ledger_step event taken ledger
    rwa [connections, operations, ← filterMap_snoc, ← filterMap_snoc] at grown
  exact kept

/-- Every run of the daemon's threads is, to its clients, a sequential one: the commands take
effect one at a time in the order of their connections. -/
theorem linearized_of_run {e : Endian} (b : Boot) {s : System} {moves : List (Move System Event)}
    (run : Run (Step e) (System.start b) moves s) :
    Linearized b (connections moves) (operations moves) s :=
  (ledger_of_run b run).linearized

/-- A command that goes into the channel, is taken off it and carried out. -/
def promptMoves : List (Move System Event) :=
  let queued := (System.start guardedBoot).connect (.command disableCommand.cmd)
  let taken := queued.receive disableCommand .empty 10
  [⟨System.start guardedBoot, .connect (.command disableCommand.cmd), queued⟩,
    ⟨queued, .receive, taken⟩, ⟨taken, .handle true, taken.handle disableCommand 10 true⟩]

theorem linearized_of_run_prompt : ∃ s,
    Run (Step .little) (System.start guardedBoot) promptMoves s ∧
      (operations promptMoves).map Operation.output =
        ["SUCCESS: Defense module 'exec_block' DISABLED via state synchronization\n"] ∧
      Linearized guardedBoot (connections promptMoves) (operations promptMoves) s := by
  have run : Run (Step .little) (System.start guardedBoot) promptMoves _ :=
    .cons (.connect _ rfl) (.cons (.receive rfl rfl) (.cons (.handle true rfl) (.nil _)))
  exact ⟨_, run, by decide, linearized_of_run guardedBoot run⟩

end BouclierBleu.Daemon.Linearization
