/- GID: BouclierBleu/Daemon/Turns
   source: core/src/actor.rs
   digest: The actor serves the queue and the ring buffers in turn, and starves neither. -/

import BouclierBleu.Daemon.Actor
import BouclierBleu.Library.Trace

set_option autoImplicit false
set_option relaxedAutoImplicit false

namespace BouclierBleu.Daemon.Turns

open BouclierBleu.Daemon.Actor
open BouclierBleu.Daemon.Engine
open BouclierBleu.Daemon.ModuleState (handleCommand)
open BouclierBleu.Kernel.AlertStructs (Endian)
open BouclierBleu.Library.BoundedQueues (BoundedQueue)
open BouclierBleu.Library.Trace (Move Run)

/-- How many messages the actor may still take before its next poll. -/
def budget : ActorThread → Nat
  | .receiving | .polling _ => 11
  | .draining left | .handling _ left | .replying _ _ left => left
  | .stopped => 0

def isPoll (m : Move System Event) : Bool :=
  match m.label with
  | .tickOver => true
  | _ => false

def isReceive (m : Move System Event) : Bool :=
  match m.label with
  | .receive => true
  | _ => false

/-- How often the actor turns to the ring buffers in a run. -/
def polls (moves : List (Move System Event)) : Nat := moves.countP isPoll

/-- How many messages it takes off the queue. -/
def receives (moves : List (Move System Event)) : Nat := moves.countP isReceive

/-- The move takes `msg` off the queue. -/
def Takes (msg : IpcMessage) (m : Move System Event) : Prop :=
  m.label = .receive ∧ ∃ left, m.target.actor = .handling msg left

section Steps

variable {e : Endian} {s t : System}

private theorem budget_of_quota {left : Nat} (room : s.actor.quota = some left) :
    budget s.actor = left + 1 := by
  cases here : s.actor with
  | receiving =>
    rw [here] at room
    cases room
    rfl
  | draining remaining =>
    rw [here] at room
    cases remaining with
    | zero => cases room
    | succ fewer =>
      cases room
      rfl
  | handling _ _ | replying _ _ _ | polling _ | stopped =>
    rw [here] at room
    cases room

private theorem budget_of_tickOver {channel : List IpcMessage} (queue : s.channel.items = channel)
    (ended : s.TickOver) : budget s.actor = 0 ∨ channel = [] := by
  unfold System.TickOver at ended
  cases here : s.actor with
  | receiving =>
    rw [here] at ended
    exact .inr (queue ▸ ended)
  | draining left =>
    rw [here] at ended
    exact ended.imp id fun empty => queue ▸ empty
  | handling _ _ | replying _ _ _ | polling _ | stopped =>
    rw [here] at ended
    exact ended.elim

/-- A connection leaves the actor alone and adds to the end of the queue at most. -/
private theorem connect_turns (s : System) (connection : Connection) :
    (s.connect connection).actor = s.actor ∧
      s.channel.items <+: (s.connect connection).channel.items := by
  rcases connect_cases s connection with ⟨text, shape⟩ | shape | ⟨cmd, channel, pushed, shape⟩
  · rw [shape]
    exact ⟨rfl, List.prefix_refl _⟩
  · rw [shape]
    exact ⟨rfl, List.prefix_refl _⟩
  · rw [shape]
    refine ⟨rfl, ?_⟩
    rw [BoundedQueue.items_of_push pushed]
    exact List.prefix_append _ _

/-- What a step does to the budget and the queue: a message is taken and paid for; a poll begins
and the budget is whole again; the actor stops; or the budget stays and the queue grows at the
end at most. -/
private theorem turns_cases {event : Event} (taken : Step e s event t) :
    (event = .receive ∧ budget s.actor = budget t.actor + 1 ∧
      ∃ msg left, t.actor = .handling msg left ∧ s.channel.items = msg :: t.channel.items) ∨
    (event = .tickOver ∧ budget t.actor = 11 ∧ t.channel = s.channel ∧
      (budget s.actor = 0 ∨ s.channel.items = [])) ∨
    (event = .panic ∧ budget t.actor = 0) ∨
    (isReceive ⟨s, event, t⟩ = false ∧ isPoll ⟨s, event, t⟩ = false ∧ event ≠ .panic ∧
      budget t.actor = budget s.actor ∧ s.channel.items <+: t.channel.items) := by
  have aside {t : System} (event : Event) (quiet : isReceive ⟨s, event, t⟩ = false)
      (still : isPoll ⟨s, event, t⟩ = false) (alive : event ≠ .panic)
      (actor : budget t.actor = budget s.actor) (channel : t.channel = s.channel) :
      isReceive ⟨s, event, t⟩ = false ∧ isPoll ⟨s, event, t⟩ = false ∧ event ≠ .panic ∧
        budget t.actor = budget s.actor ∧ s.channel.items <+: t.channel.items :=
    ⟨quiet, still, alive, actor, channel ▸ List.prefix_refl _⟩
  cases taken with
  | @receive msg channel left room taken =>
    refine .inl ⟨rfl, budget_of_quota room, msg, left, rfl, ?_⟩
    exact BoundedQueue.items_of_pop taken
  | tickOver ended => exact .inr (.inl ⟨rfl, rfl, rfl, budget_of_tickOver rfl ended⟩)
  | panic => exact .inr (.inr (.inl ⟨rfl, rfl⟩))
  | connect connection free =>
    obtain ⟨actor, queue⟩ := connect_turns s connection
    exact .inr (.inr (.inr ⟨rfl, rfl, nofun, by rw [actor], queue⟩))
  | handle updated here => exact .inr (.inr (.inr (aside _ rfl rfl nofun (by rw [here]; rfl) rfl)))
  | reply here => exact .inr (.inr (.inr (aside _ rfl rfl nofun (by rw [here]; rfl) rfl)))
  | pollDone here drained =>
    exact .inr (.inr (.inr (aside _ rfl rfl nofun (by rw [here]; rfl) rfl)))
  | pollInterrupted here =>
    exact .inr (.inr (.inr (aside _ rfl rfl nofun (by rw [here]; rfl) rfl)))
  | deliver waiting => exact .inr (.inr (.inr (aside _ rfl rfl nofun rfl rfl)))
  | expire waiting => exact .inr (.inr (.inr (aside _ rfl rfl nofun rfl rfl)))
  | consume here oldest => exact .inr (.inr (.inr (aside _ rfl rfl nofun rfl rfl)))
  | enter loaded active => exact .inr (.inr (.inr (aside _ rfl rfl nofun rfl rfl)))
  | submit bytes running => exact .inr (.inr (.inr (aside _ rfl rfl nofun rfl rfl)))
  | leave running => exact .inr (.inr (.inr (aside _ rfl rfl nofun rfl rfl)))

private theorem budget_le_step (event : Event) (taken : Step e s event t)
    (bounded : budget s.actor ≤ 11) : budget t.actor ≤ 11 := by
  rcases turns_cases taken with ⟨_, paid, _⟩ | ⟨_, whole, _⟩ | ⟨_, spent⟩ | ⟨_, _, _, kept, _⟩
  · omega
  · omega
  · omega
  · omega

end Steps

section Runs

variable {e : Endian} {s t : System} {moves : List (Move System Event)} {event : Event}

private theorem polls_cons : polls (⟨s, event, t⟩ :: moves) =
    polls moves + (isPoll ⟨s, event, t⟩).toNat := by
  rw [polls, List.countP_cons, polls]
  cases isPoll ⟨s, event, t⟩ <;> rfl

private theorem receives_cons : receives (⟨s, event, t⟩ :: moves) =
    receives moves + (isReceive ⟨s, event, t⟩).toNat := by
  rw [receives, List.countP_cons, receives]
  cases isReceive ⟨s, event, t⟩ <;> rfl

/-- Every message is paid for out of a budget that only a poll renews. -/
private theorem receives_le_budget (run : Run (Step e) s moves t)
    (bounded : budget s.actor ≤ 11) :
    receives moves + budget t.actor ≤ budget s.actor + 11 * polls moves := by
  induction run with
  | nil _ => simp [receives, polls]
  | cons taken _ ih =>
    have later := ih (budget_le_step _ taken bounded)
    rw [polls_cons, receives_cons]
    rcases turns_cases taken with
      ⟨rfl, paid, _⟩ | ⟨rfl, whole, _⟩ | ⟨rfl, spent⟩ | ⟨quiet, still, _, kept, _⟩
    · simp only [isPoll, isReceive, Bool.toNat_true, Bool.toNat_false]
      omega
    · simp only [isPoll, isReceive, Bool.toNat_true, Bool.toNat_false]
      omega
    · simp only [isPoll, isReceive, Bool.toNat_false]
      omega
    · rw [quiet, still, Bool.toNat_false]
      omega

/-- While a message waits, its place and the messages taken add up to the place it had, and every
poll comes after a budget that was used up. -/
private theorem waits_of_not_taken {msg : IpcMessage} {place : Nat}
    (run : Run (Step e) s moves t) (alive : ∀ m ∈ moves, m.label ≠ .panic)
    (waiting : s.channel.items[place]? = some msg) (passed : ∀ m ∈ moves, ¬ Takes msg m) :
    receives moves ≤ place ∧
      11 * polls moves + budget s.actor = receives moves + budget t.actor := by
  induction run generalizing place with
  | nil _ => simp [receives, polls]
  | @cons s t u event moves taken _ ih =>
    rw [List.forall_mem_cons] at alive passed
    rw [polls_cons, receives_cons]
    rcases turns_cases taken with
      ⟨rfl, paid, first, left, here, queue⟩ | ⟨rfl, whole, queue, due⟩ | ⟨rfl, _⟩ |
        ⟨quiet, still, _, kept, grown⟩
    · simp only [isPoll, isReceive, Bool.toNat_true, Bool.toNat_false]
      cases place with
      | zero =>
        rw [queue, List.getElem?_cons_zero, Option.some.injEq] at waiting
        exact absurd ⟨rfl, left, waiting ▸ here⟩ passed.1
      | succ place =>
        rw [queue, List.getElem?_cons_succ] at waiting
        have later := ih alive.2 waiting passed.2
        omega
    · simp only [isPoll, isReceive, Bool.toNat_true, Bool.toNat_false]
      have later := ih alive.2 (queue ▸ waiting) passed.2
      have spent : budget s.actor = 0 := by
        refine due.resolve_right ?_
        intro empty
        rw [empty] at waiting
        cases waiting
      omega
    · exact absurd rfl alive.1
    · have behind : t.channel.items[place]? = some msg := by
        obtain ⟨added, shape⟩ := grown
        obtain ⟨inside, _⟩ := List.getElem?_eq_some_iff.mp waiting
        rw [← shape, List.getElem?_append_left inside, waiting]
      have later := ih alive.2 behind passed.2
      rw [quiet, still, Bool.toNat_false]
      omega

/-- In every run of the daemon's threads: between two polls the actor takes at most eleven
messages, so that the ring buffers get their turn however many commands arrive; and a message
with `place` others ahead of it is taken before poll number `place / 11 + 2`, so that the
commands get theirs however many records arrive. -/
theorem neither_starves (b : Boot) {before : List (Move System Event)}
    (first : Run (Step e) (System.start b) before s) (run : Run (Step e) s moves t) :
    (polls moves = 0 → receives moves ≤ 11) ∧
    ((∀ m ∈ moves, m.label ≠ .panic) → ∀ place msg, s.channel.items[place]? = some msg →
      place / 11 + 2 ≤ polls moves → ∃ m ∈ moves, Takes msg m) := by
  have bounded : budget s.actor ≤ 11 :=
    first.invariant (I := fun s : System => budget s.actor ≤ 11) (fun _ event _ => budget_le_step event)
      (Nat.le_refl 11)
  have later : budget t.actor ≤ 11 :=
    run.invariant (I := fun s : System => budget s.actor ≤ 11) (fun _ event _ => budget_le_step event)
      bounded
  constructor
  · intro unbroken
    have paid := receives_le_budget run bounded
    omega
  · intro alive place msg waiting many
    by_contra passed
    push Not at passed
    obtain ⟨ahead, renewed⟩ := waits_of_not_taken run alive waiting passed
    omega

/-- The queue holds the first client's command; the actor takes it, and polls twice. -/
def queuedSystem : System := (System.start guardedBoot).connect (.command disableCommand.cmd)

def repliedSystem : System :=
  ((queuedSystem.receive disableCommand .empty 10).handle disableCommand 10 true).reply 0
    (handleCommand (boot guardedBoot) disableCommand.cmd true).2 10

theorem neither_starves_sample : ∃ moves t, Run (Step .little) queuedSystem moves t ∧
    polls moves = 2 ∧ ∃ m ∈ moves, Takes disableCommand m := by
  have first : Run (Step .little) (System.start guardedBoot) [_] queuedSystem :=
    .cons (.connect _ rfl) (.nil _)
  have run : Run (Step .little) queuedSystem _
      { repliedSystem with actor := .polling repliedSystem.submitted.length } :=
    .cons (.receive rfl rfl) (.cons (.handle true rfl) (.cons (.reply rfl)
      (.cons (.tickOver (.inr rfl)) (.cons (.pollInterrupted rfl)
        (.cons (.tickOver rfl) (.nil _))))))
  refine ⟨_, _, run, rfl, ?_⟩
  exact (neither_starves guardedBoot first run).2 (by simp) 0 disableCommand rfl (by decide)

end Runs

end BouclierBleu.Daemon.Turns
