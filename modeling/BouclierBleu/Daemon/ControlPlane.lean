/- GID: BouclierBleu/Daemon/ControlPlane
   source: core/src/ipc/handler.rs, core/src/actor.rs
   digest: When a client that was told of a failure can rely on nothing having changed. -/

import BouclierBleu.Daemon.Actor
import Mathlib.Data.List.Nodup

set_option autoImplicit false
set_option relaxedAutoImplicit false

namespace BouclierBleu.Daemon.ControlPlane

open BouclierBleu.Daemon.Actor
open BouclierBleu.Daemon.Engine
open BouclierBleu.Daemon.ModuleState
open BouclierBleu.Kernel.AlertStructs (Endian)
open BouclierBleu.Library.BoundedQueues (BoundedQueue)
open BouclierBleu.Library.Trace (Move Run)

/-- A text that starts with `ERROR` or `FATAL`. -/
def Refusal (text : String) : Prop :=
  "ERROR".toList <+: text.toList ∨ "FATAL".toList <+: text.toList

instance (text : String) : Decidable (Refusal text) := inferInstanceAs (Decidable (_ ∨ _))

section Replies

variable {d : DaemonState} {target : String} {enable updated : Bool}

theorem refusal_timedOut : Refusal timedOut := by
  decide

private theorem not_refusal_success (target stateStr : String) : ¬ Refusal
    s!"SUCCESS: Defense module '{target}' {stateStr} via state synchronization\n" := by
  have front : "SUCCESS: Defense module '".toList = 'S' :: "UCCESS: Defense module '".toList := rfl
  have error : "ERROR".toList = 'E' :: "RROR".toList := rfl
  have fatal : "FATAL".toList = 'F' :: "ATAL".toList := rfl
  simp [Refusal, front, error, fatal, toString]

/-- A toggle that takes effect is answered with a success. -/
private theorem not_refusal_of_effective (effective : Effective d target enable updated) :
    ¬ Refusal (toggleModule d target enable updated).2 := by
  obtain ⟨⟨loaded, known, rfl⟩, _⟩ := effective
  rw [toggleModule, if_pos loaded, setModuleState_eq known]
  exact not_refusal_success target _

/-- The toggles that take effect are those after which a flag differs. -/
private theorem effective_iff : Effective d target enable updated ↔
    (toggleModule d target enable updated).1.stateMap ≠ d.stateMap ∨
      (toggleModule d target enable updated).1.registry ≠ d.registry := by
  by_cases written : target ∈ d.activeSkeletons ∧ target ∈ availableModules ∧ updated = true
  · obtain ⟨loaded, known, rfl⟩ := written
    have stored : Function.update d.stateMap target (flag enable) = d.stateMap ↔
        d.stateMap target = flag enable := by
      rw [Function.update_eq_self_iff, eq_comm]
    rw [toggleModule, if_pos loaded, setModuleState_eq known, Effective, ne_eq, ne_eq, ← stored]
    exact and_iff_right ⟨loaded, known, rfl⟩
  · have unchanged := toggleModule_of_unwritten d target enable updated written
    rw [unchanged, Effective]
    simp [written]

theorem takesEffect_iff {cmd : DaemonCmd} : TakesEffect d cmd updated ↔
    (handleCommand d cmd updated).1.stateMap ≠ d.stateMap ∨
      (handleCommand d cmd updated).1.registry ≠ d.registry := by
  cases cmd with
  | enable target => exact effective_iff
  | disable target => exact effective_iff
  | status => simp [TakesEffect, handleCommand]
  | list => simp [TakesEffect, handleCommand]

theorem not_takesEffect_of_refusal {cmd : DaemonCmd}
    (refused : Refusal (handleCommand d cmd updated).2) : ¬ TakesEffect d cmd updated := by
  cases cmd with
  | enable target => exact fun effective => not_refusal_of_effective effective refused
  | disable target => exact fun effective => not_refusal_of_effective effective refused
  | status => exact id
  | list => exact id

end Replies

/-- The connections whose command the actor has yet to carry out. -/
def outstanding (s : System) : List Nat :=
  (match s.actor with
    | .handling msg _ => [msg.client]
    | _ => []) ++ s.channel.items.map IpcMessage.client

/-- What holds in every reachable state: the connections are numbered freshly, every command is
in one stage only, and the texts under way and the answers fit the stage. -/
structure Consistent (s : System) : Prop where
  fresh : ∀ c ∈ outstanding s ++ s.carriedOut, c < s.connections
  answered : ∀ answer ∈ s.answers, answer.1 < s.connections
  once : (outstanding s ++ s.carriedOut).Nodup
  changed_subset : s.changed ⊆ s.carriedOut
  unanswered : ∀ c response, s.ipc = .awaiting c response →
    c < s.connections ∧ ∀ answer ∈ s.answers, answer.1 ≠ c
  attended : ∀ c ∈ outstanding s, s.ipc = .awaiting c none ∨ (c, timedOut) ∈ s.answers
  replying : ∀ c response left, s.actor = .replying c response left →
    c ∈ s.carriedOut ∧ (Refusal response → c ∉ s.changed)
  replied : ∀ c response, s.ipc = .awaiting c (some response) → Refusal response → c ∉ s.changed

/-- Every command is carried out at most once, and none whose client was told of a failure has
changed a flag. -/
def Truthful (s : System) : Prop :=
  s.carriedOut.Nodup ∧ ∀ answer ∈ s.answers, Refusal answer.2 → answer.1 ∉ s.changed

/-- A command that takes effect is carried out while its client still waits, and a wait that
ends without a reply is not for a command that has taken effect. -/
def InTime (m : Move System Event) : Prop :=
  match m.label with
  | .handle updated => ∀ msg left, m.source.actor = .handling msg left →
      TakesEffect m.source.daemon msg.cmd updated → m.source.ipc = .awaiting msg.client none
  | .expire => ∀ client, m.source.ipc = .awaiting client none → client ∉ m.source.changed
  | _ => True

section Outstanding

variable {s : System}

theorem outstanding_receive {msg : IpcMessage} {channel : BoundedQueue IpcMessage 128}
    {left : Nat} (room : s.actor.quota = some left) (taken : s.channel.pop = some (msg, channel)) :
    outstanding (s.receive msg channel left) = outstanding s := by
  have items := BoundedQueue.items_of_pop taken
  cases here : s.actor with
  | receiving => simp [outstanding, System.receive, here, items]
  | draining _ => simp [outstanding, System.receive, here, items]
  | handling _ _ => simp [here, ActorThread.quota] at room
  | replying _ _ _ => simp [here, ActorThread.quota] at room
  | polling _ => simp [here, ActorThread.quota] at room
  | stopped => simp [here, ActorThread.quota] at room

theorem outstanding_handle {msg : IpcMessage} {left : Nat} (updated : Bool)
    (here : s.actor = .handling msg left) :
    outstanding s = msg.client :: outstanding (s.handle msg left updated) := by
  simp only [outstanding, here]
  rfl

end Outstanding

section Steps

variable {s t : System}

/-- Steps that leave the exchange between the threads alone. -/
private theorem Consistent.frame (consistent : Consistent s) (ipc : t.ipc = s.ipc)
    (connections : s.connections ≤ t.connections) (carriedOut : t.carriedOut = s.carriedOut)
    (changed : t.changed = s.changed) (answers : t.answers = s.answers)
    (commands : (outstanding t).Sublist (outstanding s))
    (texts : ∀ c response left, t.actor = .replying c response left →
      s.actor = .replying c response left) : Consistent t where
  fresh := by
    rw [carriedOut]
    intro c member
    have below := consistent.fresh c ((commands.append_right _).subset member)
    exact Nat.lt_of_lt_of_le below connections
  answered := by
    rw [answers]
    intro answer member
    exact Nat.lt_of_lt_of_le (consistent.answered answer member) connections
  once := by
    rw [carriedOut]
    exact consistent.once.sublist (commands.append_right _)
  changed_subset := by
    rw [changed, carriedOut]
    exact consistent.changed_subset
  unanswered := by
    rw [ipc, answers]
    intro c response waiting
    obtain ⟨below, apart⟩ := consistent.unanswered c response waiting
    exact ⟨Nat.lt_of_lt_of_le below connections, apart⟩
  attended := by
    rw [ipc, answers]
    intro c member
    exact consistent.attended c (commands.subset member)
  replying := by
    rw [carriedOut, changed]
    intro c response left here
    exact consistent.replying c response left (texts c response left here)
  replied := by
    rw [ipc, changed]
    exact consistent.replied

/-- The IPC thread answers; `n` counts the connections afterwards. -/
private theorem Consistent.answer (consistent : Consistent s) {client n : Nat} (text : String)
    (known : client < n) (grown : s.connections ≤ n)
    (settled : ∀ c ∈ outstanding s, (c, timedOut) ∈ (client, text) :: s.answers) :
    Consistent { s.answer client text with connections := n } where
  fresh c member := Nat.lt_of_lt_of_le (consistent.fresh c member) grown
  answered := by
    intro answer member
    rcases List.mem_cons.mp member with rfl | earlier
    · exact known
    · exact Nat.lt_of_lt_of_le (consistent.answered answer earlier) grown
  once := consistent.once
  changed_subset := consistent.changed_subset
  unanswered := by
    intro c response waiting
    cases waiting
  attended c member := .inr (settled c member)
  replying := consistent.replying
  replied := by
    intro c response waiting
    cases waiting

/-- A command that goes into the channel. -/
private theorem Consistent.queue (consistent : Consistent s) {cmd : DaemonCmd}
    {channel : BoundedQueue IpcMessage 128} (free : s.ipc = .listening)
    (pushed : s.channel.push ⟨cmd, s.connections⟩ = some channel) :
    Consistent { s with
      channel := channel
      ipc := .awaiting s.connections none
      connections := s.connections + 1 } := by
  have commands : outstanding { s with
      channel := channel
      ipc := .awaiting s.connections none
      connections := s.connections + 1 } = outstanding s ++ [s.connections] := by
    simp [outstanding, BoundedQueue.items_of_push pushed]
  refine ⟨?_, ?_, ?_, consistent.changed_subset, ?_, ?_, consistent.replying, ?_⟩
  · intro c member
    rw [commands, List.append_assoc, List.singleton_append] at member
    rcases List.mem_append.mp member with earlier | later
    · have below := consistent.fresh c (List.mem_append_left _ earlier)
      exact Nat.lt_succ_of_lt below
    · rcases List.mem_cons.mp later with rfl | earlier
      · exact Nat.lt_succ_self _
      · have below := consistent.fresh c (List.mem_append_right _ earlier)
        exact Nat.lt_succ_of_lt below
  · intro answer member
    exact Nat.lt_succ_of_lt (consistent.answered answer member)
  · rw [commands, List.append_assoc, List.singleton_append, List.nodup_middle, List.nodup_cons]
    refine ⟨?_, consistent.once⟩
    intro member
    exact Nat.lt_irrefl _ (consistent.fresh _ member)
  · intro c response waiting
    cases waiting
    refine ⟨Nat.lt_succ_self _, ?_⟩
    intro answer member same
    have below := consistent.answered answer member
    omega
  · intro c member
    rw [commands] at member
    rcases List.mem_append.mp member with earlier | added
    · refine (consistent.attended c earlier).imp_left ?_
      intro waiting
      rw [free] at waiting
      cases waiting
    · rw [List.mem_singleton.mp added]
      exact .inl rfl
  · intro c response waiting
    cases waiting

private theorem Consistent.handle (consistent : Consistent s) {msg : IpcMessage} {left : Nat}
    (updated : Bool) (here : s.actor = .handling msg left) :
    Consistent (s.handle msg left updated) := by
  have commands := outstanding_handle updated here
  have once := consistent.once
  have fresh := consistent.fresh
  have absent : msg.client ∉ s.changed := by
    intro member
    rw [commands, List.cons_append, List.nodup_cons] at once
    exact once.1 (List.mem_append_right _ (consistent.changed_subset member))
  have changed (c : Nat) (member : c ∈ (s.handle msg left updated).changed) :
      c = msg.client ∨ c ∈ s.changed := by
    by_cases effective : TakesEffect s.daemon msg.cmd updated
    · rw [System.handle, if_pos effective] at member
      exact List.mem_cons.mp member
    · rw [System.handle, if_neg effective] at member
      exact .inr member
  refine ⟨?_, consistent.answered, ?_, ?_, consistent.unanswered, ?_, ?_, ?_⟩
  · intro c member
    refine fresh c ?_
    rw [commands]
    exact List.perm_middle.subset member
  · rw [commands, List.cons_append] at once
    exact List.nodup_middle.mpr once
  · intro c member
    rcases changed c member with rfl | earlier
    · exact List.mem_cons_self
    · exact List.mem_cons_of_mem _ (consistent.changed_subset earlier)
  · intro c member
    exact consistent.attended c (commands ▸ List.mem_cons_of_mem _ member)
  · intro c response left' stage
    cases stage
    refine ⟨List.mem_cons_self, ?_⟩
    intro refused
    have idle := not_takesEffect_of_refusal refused
    simpa [System.handle, idle] using absent
  · intro c response waiting refused member
    change s.ipc = _ at waiting
    have present : msg.client ∈ outstanding s := commands ▸ List.mem_cons_self
    rcases changed c member with rfl | earlier
    · rcases consistent.attended msg.client present with open_ | told
      · rw [waiting] at open_
        cases open_
      · exact (consistent.unanswered _ _ waiting).2 _ told rfl
    · exact consistent.replied c response waiting refused earlier

private theorem Consistent.reply (consistent : Consistent s) {client left : Nat}
    {response : String} (here : s.actor = .replying client response left) :
    Consistent (s.reply client response left) := by
  have commands : outstanding (s.reply client response left) = outstanding s := by
    simp [outstanding, System.reply, here]
  obtain ⟨done, kept⟩ := consistent.replying client response left here
  have away : client ∉ outstanding s := by
    intro member
    exact (List.nodup_append.mp consistent.once).2.2 client member client done rfl
  by_cases open_ : s.ipc = .awaiting client none
  · have ipc : (s.reply client response left).ipc = .awaiting client (some response) :=
      if_pos open_
    refine ⟨?_, consistent.answered, ?_, consistent.changed_subset, ?_, ?_, ?_, ?_⟩
    · rw [commands]
      exact consistent.fresh
    · rw [commands]
      exact consistent.once
    · intro c text waiting
      rw [ipc] at waiting
      cases waiting
      exact consistent.unanswered client none open_
    · intro c member
      rw [commands] at member
      rcases consistent.attended c member with waiting | told
      · rw [open_] at waiting
        cases waiting
        exact absurd member away
      · exact .inr told
    · intro c text left' stage
      cases stage
    · intro c text waiting
      rw [ipc] at waiting
      cases waiting
      exact kept
  · have ipc : (s.reply client response left).ipc = s.ipc := if_neg open_
    refine consistent.frame ipc (Nat.le_refl _) rfl rfl rfl ?_ ?_
    · rw [commands]
    · intro c text left' stage
      cases stage

private theorem Consistent.connect (consistent : Consistent s) (connection : Connection)
    (free : s.ipc = .listening) : Consistent (s.connect connection) := by
  have settled (text : String) :
      ∀ c ∈ outstanding s, (c, timedOut) ∈ (s.connections, text) :: s.answers := by
    intro c member
    refine List.mem_cons_of_mem _ ((consistent.attended c member).resolve_left ?_)
    intro waiting
    rw [free] at waiting
    cases waiting
  have told (text : String) :
      Consistent { s.answer s.connections text with connections := s.connections + 1 } :=
    consistent.answer text (Nat.lt_succ_self _) (Nat.le_succ _) (settled text)
  rcases connect_cases s connection with ⟨text, shape⟩ | shape | ⟨cmd, channel, pushed, shape⟩
  · rw [shape]
    exact told text
  · rw [shape]
    exact consistent.frame rfl (Nat.le_succ _) rfl rfl rfl (.refl _) fun _ _ _ => id
  · rw [shape]
    exact consistent.queue free pushed

end Steps

variable {e : Endian} {s t : System}

theorem step_keeps_consistent (event : Event) (taken : Step e s event t)
    (consistent : Consistent s) : Consistent t := by
  -- Steps that neither answer nor carry out a command leave the exchange alone.
  have aside {t : System} (ipc : t.ipc = s.ipc) (connections : t.connections = s.connections)
      (carriedOut : t.carriedOut = s.carriedOut) (changed : t.changed = s.changed)
      (answers : t.answers = s.answers) (commands : (outstanding t).Sublist (outstanding s))
      (texts : ∀ c response left, t.actor = .replying c response left →
        s.actor = .replying c response left) : Consistent t :=
    consistent.frame ipc connections.ge carriedOut changed answers commands texts
  cases taken with
  | connect connection free => exact consistent.connect connection free
  | @deliver client response waiting =>
    refine consistent.answer response (consistent.unanswered _ _ waiting).1 (Nat.le_refl _) ?_
    intro c member
    refine List.mem_cons_of_mem _ ((consistent.attended c member).resolve_left ?_)
    intro other
    rw [waiting] at other
    cases other
  | @expire client waiting =>
    refine consistent.answer timedOut (consistent.unanswered _ _ waiting).1 (Nat.le_refl _) ?_
    intro c member
    rcases consistent.attended c member with other | told
    · rw [waiting] at other
      cases other
      exact List.mem_cons_self
    · exact List.mem_cons_of_mem _ told
  | @receive msg channel left room taken =>
    refine aside rfl rfl rfl rfl rfl ?_ ?_
    · rw [outstanding_receive room taken]
    · intro c response left' stage
      cases stage
  | tickOver ended =>
    refine aside rfl rfl rfl rfl rfl ?_ ?_
    · exact List.sublist_append_right _ _
    · intro c response left' stage
      cases stage
  | handle updated here => exact consistent.handle updated here
  | reply here => exact consistent.reply here
  | pollDone here drained =>
    refine aside rfl rfl rfl rfl rfl ?_ ?_
    · exact List.sublist_append_right _ _
    · intro c response left' stage
      cases stage
  | pollInterrupted here =>
    refine aside rfl rfl rfl rfl rfl ?_ ?_
    · exact List.sublist_append_right _ _
    · intro c response left' stage
      cases stage
  | panic =>
    refine aside rfl rfl rfl rfl rfl (List.nil_sublist _) ?_
    intro c response left' stage
    cases stage
  | consume here oldest => exact aside rfl rfl rfl rfl rfl (.refl _) fun _ _ _ => id
  | enter loaded active => exact aside rfl rfl rfl rfl rfl (.refl _) fun _ _ _ => id
  | submit bytes running => exact aside rfl rfl rfl rfl rfl (.refl _) fun _ _ _ => id
  | leave running => exact aside rfl rfl rfl rfl rfl (.refl _) fun _ _ _ => id

private theorem truthful_answer (truthful : Truthful s) (client n : Nat) (text : String) :
    Truthful { s.answer client text with connections := n } ↔
      (Refusal text → client ∉ s.changed) := by
  constructor
  · intro after
    exact after.2 (client, text) List.mem_cons_self
  · intro kept
    refine ⟨truthful.1, ?_⟩
    intro answer member
    rcases List.mem_cons.mp member with rfl | earlier
    · exact kept
    · exact truthful.2 answer earlier

private theorem truthful_connect (consistent : Consistent s) (truthful : Truthful s)
    (connection : Connection) : Truthful (s.connect connection) := by
  have told (text : String) :
      Truthful { s.answer s.connections text with connections := s.connections + 1 } := by
    refine (truthful_answer truthful s.connections _ text).mpr fun _ member => ?_
    have below := consistent.fresh _
      (List.mem_append_right _ (consistent.changed_subset member))
    exact Nat.lt_irrefl _ below
  rcases connect_cases s connection with ⟨text, shape⟩ | shape | ⟨_, _, _, shape⟩
  · rw [shape]
    exact told text
  · rw [shape]
    exact truthful
  · rw [shape]
    exact truthful

private theorem truthful_handle_iff (consistent : Consistent s) (truthful : Truthful s)
    {msg : IpcMessage} {left : Nat} (updated : Bool) (here : s.actor = .handling msg left) :
    Truthful (s.handle msg left updated) ↔
      (TakesEffect s.daemon msg.cmd updated → s.ipc = .awaiting msg.client none) := by
  have once := (consistent.handle updated here).once.of_append_right
  have present : msg.client ∈ outstanding s := outstanding_handle updated here ▸ List.mem_cons_self
  by_cases effective : TakesEffect s.daemon msg.cmd updated
  · have changed : (s.handle msg left updated).changed = msg.client :: s.changed :=
      if_pos effective
    constructor
    · intro after _
      refine (consistent.attended msg.client present).resolve_right fun told => ?_
      have untouched := after.2 _ told refusal_timedOut
      rw [changed] at untouched
      exact untouched List.mem_cons_self
    · intro inTime
      refine ⟨once, ?_⟩
      intro answer member refused
      rw [changed, List.mem_cons, not_or]
      exact ⟨(consistent.unanswered _ _ (inTime effective)).2 answer member,
        truthful.2 answer member refused⟩
  · have changed : (s.handle msg left updated).changed = s.changed := if_neg effective
    refine iff_of_true ⟨once, ?_⟩ fun effect => absurd effect effective
    rw [changed]
    exact truthful.2

private theorem truthful_step_iff (event : Event) (taken : Step e s event t)
    (consistent : Consistent s) (truthful : Truthful s) :
    Truthful t ↔ InTime ⟨s, event, t⟩ := by
  cases taken with
  | connect connection free =>
    exact iff_of_true (truthful_connect consistent truthful connection) trivial
  | @deliver client response waiting =>
    refine iff_of_true ?_ trivial
    exact (truthful_answer truthful client s.connections response).mpr
      (consistent.replied client response waiting)
  | @expire client waiting =>
    refine (truthful_answer truthful client s.connections timedOut).trans ?_
    constructor
    · intro kept other same
      change s.ipc = _ at same
      rw [waiting] at same
      cases same
      exact kept refusal_timedOut
    · intro inTime _
      exact inTime client waiting
  | @handle msg left updated here =>
    refine (truthful_handle_iff consistent truthful updated here).trans ?_
    constructor
    · intro inTime other left' same
      change s.actor = _ at same
      rw [here] at same
      cases same
      exact inTime
    · intro inTime
      exact inTime msg left here
  | receive room taken => exact iff_of_true truthful trivial
  | tickOver ended => exact iff_of_true truthful trivial
  | reply here => exact iff_of_true truthful trivial
  | consume here oldest => exact iff_of_true truthful trivial
  | pollDone here drained => exact iff_of_true truthful trivial
  | pollInterrupted here => exact iff_of_true truthful trivial
  | panic => exact iff_of_true truthful trivial
  | enter loaded active => exact iff_of_true truthful trivial
  | submit bytes running => exact iff_of_true truthful trivial
  | leave running => exact iff_of_true truthful trivial

private theorem consistent_start (b : Boot) : Consistent (System.start b) where
  fresh := by
    intro c member
    cases member
  answered := by
    intro answer member
    cases member
  once := List.nodup_nil
  changed_subset := List.nil_subset _
  unanswered := by
    intro c response waiting
    cases waiting
  attended := by
    intro c member
    cases member
  replying := by
    intro c response left stage
    cases stage
  replied := by
    intro c response waiting
    cases waiting

section Late

/-- The command is in the channel while the actor is busy. -/
def queuedSystem : System := (System.start guardedBoot).connect (.command disableCommand.cmd)

/-- The five seconds are over, and only then the actor takes the message. -/
def lateSystem : System := (queuedSystem.answer 0 timedOut).receive disableCommand .empty 10

/-- The client was told of a timeout, and its command disables the module afterwards. -/
theorem lateCommand_disables :
    ∃ moves s, Run (Step .little) (System.start guardedBoot) moves s ∧
      (0, timedOut) ∈ s.answers ∧ Refusal timedOut ∧
      (System.start guardedBoot).daemon.stateMap "exec_block" = 1 ∧
      s.daemon.stateMap "exec_block" = 0 ∧ ¬ Truthful s := by
  have asked : Step .little (System.start guardedBoot) (.connect (.command disableCommand.cmd))
      queuedSystem := .connect _ rfl
  have told : Step .little queuedSystem .expire (queuedSystem.answer 0 timedOut) := .expire rfl
  have taken : Step .little (queuedSystem.answer 0 timedOut) .receive lateSystem :=
    .receive rfl rfl
  have applied : Step .little lateSystem (.handle true)
      (lateSystem.handle disableCommand 10 true) :=
    .handle true rfl
  have answered : (0, timedOut) ∈ (lateSystem.handle disableCommand 10 true).answers :=
    List.mem_cons_self
  have changed : 0 ∈ (lateSystem.handle disableCommand 10 true).changed := by decide
  refine ⟨_, _, .cons asked (.cons told (.cons taken (.cons applied (.nil _)))), answered,
    refusal_timedOut, by decide, by decide, ?_⟩
  intro truthful
  exact truthful.2 _ answered refusal_timedOut changed

end Late

/-- In every run of the daemon's threads, the replies are truthful in all states reached exactly
if every command that takes effect is carried out and answered in time. -/
theorem truthful_throughout_iff_inTime (b : Boot) {s : System} {moves : List (Move System Event)}
    (run : Run (Step e) (System.start b) moves s) :
    (∀ m ∈ moves, Truthful m.target) ↔ ∀ m ∈ moves, InTime m := by
  have initially : Truthful (System.start b) := ⟨List.nodup_nil, fun _ member => nomatch member⟩
  exact run.observed_iff_moves (fun _ _ _ taken => step_keeps_consistent _ taken)
    (fun _ _ => Iff.rfl) (fun _ _ _ taken => truthful_step_iff _ taken) (consistent_start b)
    initially

/-- The same command, taken at once. -/
def promptSystem : System := queuedSystem.receive disableCommand .empty 10

theorem truthful_throughout_iff_inTime_sample :
    Step .little promptSystem (.handle true) (promptSystem.handle disableCommand 10 true) ∧
      Truthful (promptSystem.handle disableCommand 10 true) := by
  have asked : Step .little (System.start guardedBoot) (.connect (.command disableCommand.cmd))
      queuedSystem := .connect _ rfl
  have taken : Step .little queuedSystem .receive promptSystem := .receive rfl rfl
  have applied : Step .little promptSystem (.handle true)
      (promptSystem.handle disableCommand 10 true) := .handle true rfl
  have run := Run.cons asked (.cons taken (.cons applied (.nil _)))
  have throughout := (truthful_throughout_iff_inTime guardedBoot run).mpr (by
    intro m member
    simp only [List.mem_cons, List.not_mem_nil, or_false] at member
    rcases member with rfl | rfl | rfl
    · trivial
    · trivial
    · intro msg left here _
      cases here
      rfl)
  exact ⟨applied, throughout _ (.tail _ (.tail _ (.head _)))⟩

end BouclierBleu.Daemon.ControlPlane
