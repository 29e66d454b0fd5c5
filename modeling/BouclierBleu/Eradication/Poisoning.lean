/- GID: BouclierBleu/Eradication/Poisoning
   source: modules/src/rename_entropy.rs, the handler; core/src/telemetry.rs, bind_ringbuffer
   digest: The strike tracker behind its mutex, when invocations panic while they hold it. -/

import BouclierBleu.Eradication.Strikes

set_option autoImplicit false
set_option relaxedAutoImplicit false

namespace BouclierBleu.Eradication.Poisoning

open BouclierBleu.Eradication.Strikes hiding State Step
open BouclierBleu.Library.Trace (Move Run)

/-- The `Mutex` of `STRIKE_TRACKER`. A poisoned one stays so: nothing calls `clear_poison`. -/
structure TrackerMutex where
  tracker : Tracker
  poisoned : Bool

namespace TrackerMutex

def new : TrackerMutex := ⟨.new, false⟩

/-- The map the handler goes on with; its recovery branch clears it. -/
def lock (m : TrackerMutex) : Tracker := if m.poisoned then .new else m.tracker

end TrackerMutex

/-- Where an invocation can panic while it holds the lock: at the warning in front of
`recovered.clear`, at the alert's message, and at a third strike, in its message or in
`neutralize_threat_tree`. -/
inductive PanicPoint
  | recovering | alerting | crossing

/-- The map an invocation that panics leaves behind, if it gets as far as that. -/
def torn (m : TrackerMutex) (arrival : Arrival) : PanicPoint → Option Tracker
  | .recovering => if m.poisoned then some m.tracker else none
  | .alerting => some (prune arrival.pruneAt m.lock)
  | .crossing =>
    let tracker := prune arrival.pruneAt m.lock
    let ppid := arrival.alert.ppid
    if (strike (tracker ppid) arrival.now).2 then
      some (Function.update tracker ppid
        ((tracker ppid).map fun strike => { strike with count := strike.count + 1 }))
    else none

/-- An alert, and where its invocation panics if it does. -/
structure Invocation where
  arrival : Arrival
  panic : Option PanicPoint

/-- An invocation inside `catch_unwind`: a panic poisons the mutex, an ordinary return leaves it
as it is. -/
def invoke (m : TrackerMutex) (i : Invocation) : TrackerMutex × Option UInt32 :=
  match i.panic.bind (torn m i.arrival) with
  | some tracker => (⟨tracker, true⟩, none)
  | none =>
    let (tracker, eradicated) := handler m.lock i.arrival
    (⟨tracker, m.poisoned⟩, eradicated)

/-- The answers to alerts whose invocations do not panic. -/
def eradications (m : TrackerMutex) : List Arrival → List (Option UInt32)
  | [] => []
  | arrival :: later =>
    let (m', eradicated) := invoke m ⟨arrival, none⟩
    eradicated :: eradications m' later

structure State where
  mutex : TrackerMutex
  clock : Nat

def State.start : State := ⟨.new, 0⟩

inductive Step : State → Invocation → State → Prop
  | invoke {s : State} {i : Invocation} (later : s.clock ≤ i.arrival.now) :
      Step s i ⟨(invoke s.mutex i).1, i.arrival.now⟩

/-- The invocation panics while it holds the lock. -/
def Panicked (m : Move State Invocation) : Prop :=
  m.label.panic.bind (torn m.source.mutex m.label.arrival) ≠ none

/-- Any three later alerts of one parent at one instant lead to its eradication. -/
def BehavesFresh (s : State) : Prop :=
  ∀ later : List Arrival, later.Pairwise (fun a b => a.now ≤ b.now) →
    (∀ a ∈ later, s.clock ≤ a.now) → ∀ ppid instant,
      3 ≤ later.countP (fun a => a.alert.ppid = ppid ∧ a.now = instant) →
        some ppid ∈ eradications s.mutex later

section Poisoned

variable {m : TrackerMutex}

/-- With an empty map no alert is a third strike. -/
private theorem handler_new (arrival : Arrival) : (handler .new arrival).2 = none := by
  cases crossed : (handler .new arrival).2 with
  | none => rfl
  | some _ =>
    obtain ⟨old, found, _⟩ := handler_eradicates_iff.mp (Option.isSome_of_eq_some crossed)
    cases found

/-- Behind a poisoned mutex every alert finds an empty map. -/
theorem eradications_of_poisoned (poisoned : m.poisoned = true) (later : List Arrival) :
    ∀ answer ∈ eradications m later, answer = none := by
  induction later generalizing m with
  | nil =>
    intro answer member
    cases member
  | cons arrival later ih =>
    have cleared : m.lock = .new := if_pos poisoned
    have here : (invoke m ⟨arrival, none⟩).2 = none := by
      rw [← handler_new arrival, ← cleared]
      rfl
    have still : (invoke m ⟨arrival, none⟩).1.poisoned = true := poisoned
    intro answer member
    rcases List.mem_cons.mp member with rfl | rest
    · exact here
    · exact ih still answer rest

end Poisoned

/-- An entry exists from its first strike on. -/
def Counted (tracker : Tracker) : Prop :=
  ∀ ppid e, tracker ppid = some e → 1 ≤ e.count

section Sound

variable {m : TrackerMutex} {tracker : Tracker} {arrival : Arrival}

private theorem counted_handler (counted : Counted tracker) :
    Counted (handler tracker arrival).1 := by
  have pruned : Counted (prune arrival.pruneAt tracker) :=
    fun ppid e kept => counted ppid e (prune_eq_some_iff.mp kept).1
  intro ppid e found
  by_cases same : ppid = arrival.alert.ppid
  · subst same
    rw [handler_self] at found
    rcases strike_cases (prune arrival.pruneAt tracker arrival.alert.ppid) arrival.now with
      ⟨_, shape⟩ | ⟨_, _, _, ⟨_, shape⟩ | ⟨_, shape⟩⟩
    · rw [shape] at found
      cases found
      exact Nat.le_refl 1
    · rw [shape] at found
      cases found
      exact Nat.le_add_left 1 _
    · rw [shape] at found
      cases found
  · rw [handler_ne same] at found
    exact pruned ppid e found

variable {ppid : UInt32} {instant : Nat} {later : List Arrival}

/-- The alerts of a parent at an instant. -/
private def strikesAt (ppid : UInt32) (instant : Nat) (later : List Arrival) : Nat :=
  later.countP fun a => a.alert.ppid = ppid ∧ a.now = instant

private theorem eradications_cons (sound : m.poisoned = false) :
    eradications m (arrival :: later) = (handler m.tracker arrival).2 ::
      eradications ⟨(handler m.tracker arrival).1, false⟩ later := by
  obtain ⟨tracker, poisoned⟩ := m
  subst sound
  rfl

/-- No alert of an instant follows a later one. -/
private theorem strikesAt_eq_zero (order : (arrival :: later).Pairwise fun a b => a.now ≤ b.now)
    (past : instant < arrival.now) : strikesAt ppid instant (arrival :: later) = 0 := by
  refine List.countP_eq_zero.mpr ?_
  intro a member
  have reached : arrival.now ≤ a.now := by
    rcases List.mem_cons.mp member with rfl | after
    · exact Nat.le_refl _
    · exact (List.pairwise_cons.mp order).1 a after
  rw [decide_eq_true_eq]
  rintro ⟨_, same⟩
  omega

/-- What a handled alert leaves of the strikes to come. -/
private theorem strikesAt_cons :
    strikesAt ppid instant (arrival :: later) =
      strikesAt ppid instant later +
        if arrival.alert.ppid = ppid ∧ arrival.now = instant then 1 else 0 := by
  rw [strikesAt, List.countP_cons, strikesAt]
  simp only [decide_eq_true_eq]

/-- A window that is open at an instant needs but the strikes that are missing. -/
private theorem eradicates_of_open (sound : m.poisoned = false)
    (order : later.Pairwise fun a b => a.now ≤ b.now) (reached : ∀ a ∈ later, instant ≤ a.now)
    {e : PpidStrike} (found : m.tracker ppid = some e)
    (alive : instant ≤ e.firstStrike + fromSecs 2) (struck : 1 ≤ e.count)
    (another : 0 < strikesAt ppid instant later)
    (enough : 3 ≤ e.count + strikesAt ppid instant later) :
    some ppid ∈ eradications m later := by
  induction later generalizing m e with
  | nil => exact absurd another (Nat.lt_irrefl 0)
  | cons arrival later ih =>
    have rest := (List.pairwise_cons.mp order).2
    have after : ∀ a ∈ later, instant ≤ a.now :=
      fun a member => reached a (List.mem_cons_of_mem _ member)
    by_cases here : arrival.now = instant
    · subst here
      have kept := prune_of_alive found alive
      rw [eradications_cons sound]
      by_cases same : arrival.alert.ppid = ppid
      · subst same
        rw [strikesAt_cons, if_pos ⟨rfl, rfl⟩] at enough
        have struckHere := strike_of_open alive
        by_cases third : 2 ≤ e.count
        · have answer : (handler m.tracker arrival).2 = some arrival.alert.ppid := by
            rw [handler_snd, kept, struckHere, if_pos third]
            rfl
          rw [answer]
          exact List.mem_cons_self
        · have next : (handler m.tracker arrival).1 arrival.alert.ppid =
              some ⟨e.count + 1, e.firstStrike⟩ := by
            rw [handler_self, kept, struckHere, if_neg third]
          refine List.mem_cons_of_mem _ (ih rfl rest after next alive (Nat.le_add_left 1 _) ?_ ?_)
          · omega
          · dsimp only
            omega
      · rw [strikesAt_cons, if_neg fun both => same both.1] at enough another
        have next : (handler m.tracker arrival).1 ppid = some e := by
          rw [handler_ne (Ne.symm same), kept]
        exact List.mem_cons_of_mem _ (ih rfl rest after next alive struck another enough)
    · have past : instant < arrival.now :=
        Nat.lt_of_le_of_ne (reached arrival List.mem_cons_self) (Ne.symm here)
      rw [strikesAt_eq_zero order past] at another
      exact absurd another (Nat.lt_irrefl 0)

/-- Behind a sound mutex three alerts of one instant are enough, whatever was counted before. -/
theorem eradicates_of_sound (sound : m.poisoned = false) (counted : Counted m.tracker)
    (order : later.Pairwise fun a b => a.now ≤ b.now)
    (enough : 3 ≤ strikesAt ppid instant later) : some ppid ∈ eradications m later := by
  induction later generalizing m with
  | nil => exact absurd enough (Nat.not_succ_le_zero 2)
  | cons arrival later ih =>
    have rest := (List.pairwise_cons.mp order).2
    rw [eradications_cons sound]
    by_cases here : arrival.alert.ppid = ppid ∧ arrival.now = instant
    · rw [strikesAt_cons, if_pos here] at enough
      obtain ⟨rfl, rfl⟩ := here
      have after := (List.pairwise_cons.mp order).1
      rcases strike_cases (prune arrival.pruneAt m.tracker arrival.alert.ppid) arrival.now with
        ⟨_, shape⟩ | ⟨old, found, alive, ⟨few, shape⟩ | ⟨_, shape⟩⟩
      · have next : (handler m.tracker arrival).1 arrival.alert.ppid = some ⟨1, arrival.now⟩ := by
          rw [handler_self, shape]
        refine List.mem_cons_of_mem _ (eradicates_of_open rfl rest after next
          (Nat.le_add_right _ _) (Nat.le_refl 1) ?_ ?_)
        · omega
        · dsimp only
          omega
      · have next : (handler m.tracker arrival).1 arrival.alert.ppid =
            some ⟨old.count + 1, old.firstStrike⟩ := by
          rw [handler_self, shape]
        refine List.mem_cons_of_mem _ (eradicates_of_open rfl rest after next alive
          (Nat.le_add_left 1 _) ?_ ?_)
        · omega
        · dsimp only
          omega
      · have answer : (handler m.tracker arrival).2 = some arrival.alert.ppid := by
          rw [handler_snd, shape]
          rfl
        rw [answer]
        exact List.mem_cons_self
    · rw [strikesAt_cons, if_neg here] at enough
      exact List.mem_cons_of_mem _ (ih rfl (counted_handler counted) rest enough)

end Sound

section Runs

variable {s t : State} {i : Invocation}

/-- A sound mutex guards entries with at least one strike. -/
def Intact (s : State) : Prop := s.mutex.poisoned = false → Counted s.mutex.tracker

theorem step_keeps_intact (taken : Step s i t) (intact : Intact s) : Intact t := by
  cases taken with
  | invoke later =>
    intro sound
    unfold invoke at sound ⊢
    split at sound
    · cases sound
    · rename_i returned
      change s.mutex.poisoned = false at sound
      change Counted (handler s.mutex.lock i.arrival).1
      have lock : s.mutex.lock = s.mutex.tracker := if_neg (ne_true_of_eq_false sound)
      rw [lock]
      exact counted_handler (intact sound)

/-- A step poisons the mutex exactly if its invocation panics. -/
theorem step_poisoned_iff (taken : Step s i t) :
    t.mutex.poisoned = true ↔ s.mutex.poisoned = true ∨ Panicked ⟨s, i, t⟩ := by
  cases taken with
  | invoke later =>
    rw [Panicked]
    unfold invoke
    cases i.panic.bind (torn s.mutex i.arrival) with
    | none => simp
    | some tracker => simp

theorem run_poisoned_iff {moves : List (Move State Invocation)} (run : Run Step s moves t) :
    t.mutex.poisoned = true ↔ s.mutex.poisoned = true ∨ ∃ m ∈ moves, Panicked m := by
  induction run with
  | nil _ => simp
  | cons taken _ ih =>
    rw [ih, step_poisoned_iff taken, List.exists_mem_cons_iff, or_assoc]

end Runs

/-- An alert of a worker of process 100. -/
def alertAt (now : Nat) : Arrival :=
  ⟨⟨101, 100, []⟩, fun _ => now, now, fun _ => Nat.le_refl now⟩

/-- Three alerts at once, of which a poisoned mutex notices nothing. -/
theorem not_behavesFresh_of_poisoned {s : State} (poisoned : s.mutex.poisoned = true) :
    ¬ BehavesFresh s := by
  intro fresh
  have order : (List.replicate 3 (alertAt s.clock)).Pairwise fun a b => a.now ≤ b.now :=
    List.pairwise_replicate.mpr (.inr (Nat.le_refl _))
  have reached : ∀ a ∈ List.replicate 3 (alertAt s.clock), s.clock ≤ a.now := by
    intro a member
    rw [List.eq_of_mem_replicate member]
    exact Nat.le_refl _
  have eradicated := fresh _ order reached 100 s.clock (by simp [alertAt])
  cases eradications_of_poisoned poisoned _ _ eradicated

section Recovered

/-- The first alert's invocation panics at its message; a second one returns. -/
def recovered : State :=
  ⟨(invoke (invoke State.start.mutex ⟨alertAt 0, some .alerting⟩).1 ⟨alertAt 1, none⟩).1, 1⟩

/-- Three alerts after the recovery, at one instant, and no eradication. -/
theorem recovery_forgets_strikes :
    (∃ moves, Run Step State.start moves recovered ∧ ∃ m ∈ moves, Panicked m) ∧
      eradications recovered.mutex [alertAt 2, alertAt 2, alertAt 2] = [none, none, none] ∧
      ¬ BehavesFresh recovered := by
  have first : Step State.start ⟨alertAt 0, some .alerting⟩
      ⟨(invoke State.start.mutex ⟨alertAt 0, some .alerting⟩).1, 0⟩ := .invoke (Nat.le_refl 0)
  have second : Step ⟨(invoke State.start.mutex ⟨alertAt 0, some .alerting⟩).1, 0⟩
      ⟨alertAt 1, none⟩ recovered := .invoke (Nat.zero_le 1)
  refine ⟨⟨_, .cons first (.cons second (.nil _)), _, List.mem_cons_self, ?_⟩, by decide, ?_⟩
  · exact Option.some_ne_none _
  · exact not_behavesFresh_of_poisoned rfl

end Recovered

/-- After a run, three alerts of one instant lead to an eradication exactly if no invocation
panicked while it held the lock. -/
theorem behavesFresh_iff {s : State} {moves : List (Move State Invocation)}
    (run : Run Step State.start moves s) : BehavesFresh s ↔ ∀ m ∈ moves, ¬ Panicked m := by
  have poisoned := run_poisoned_iff run
  have start : ¬ State.start.mutex.poisoned = true := Bool.false_ne_true
  rw [or_iff_right start] at poisoned
  constructor
  · intro fresh m member panicked
    exact not_behavesFresh_of_poisoned (poisoned.mpr ⟨m, member, panicked⟩) fresh
  · intro calm later order _ ppid instant enough
    have sound : s.mutex.poisoned = false := by
      rw [← Bool.not_eq_true, poisoned]
      rintro ⟨m, member, panicked⟩
      exact calm m member panicked
    have intact : Intact s := by
      refine run.invariant (fun _ _ _ taken => step_keeps_intact taken) ?_
      intro _ ppid e found
      cases found
    exact eradicates_of_sound sound (intact sound) order enough

theorem behavesFresh_iff_sample :
    BehavesFresh ⟨(invoke State.start.mutex ⟨alertAt 0, none⟩).1, 0⟩ := by
  have first : Step State.start ⟨alertAt 0, none⟩
      ⟨(invoke State.start.mutex ⟨alertAt 0, none⟩).1, 0⟩ := .invoke (Nat.le_refl 0)
  refine (behavesFresh_iff (.cons first (.nil _))).mpr ?_
  intro m member
  rw [List.mem_singleton.mp member]
  exact fun panicked => panicked rfl

end BouclierBleu.Eradication.Poisoning
