/- GID: BouclierBleu/MadviseRatelimit/BlindSpot
   source: bpf/madvise_ratelimit.bpf.c
   digest: More calls within one second than the threshold, and when one of them is killed. -/

import BouclierBleu.Library.AnchoredWindows
import BouclierBleu.MadviseRatelimit.Window

set_option autoImplicit false
set_option relaxedAutoImplicit false

namespace BouclierBleu.MadviseRatelimit.BlindSpot

open BouclierBleu.Kernel.ModuleCore (isModuleActive)
open BouclierBleu.Library.AnchoredWindows
  (Answered Pending pending Tracks countedFrom reaches_iff_covers)
open BouclierBleu.Library.Trace (Move Run)
open BouclierBleu.MadviseRatelimit.Hook
open BouclierBleu.MadviseRatelimit.Window

/-- Hints follow each other, no tracker is evicted, and every signal is delivered. -/
inductive SteadyStep : State → Call → State → Prop
  | call {s : State} {call : Call} (later : s.clock ≤ call.now)
      (hint : call.behavior = MADV_DONTNEED) (delivered : call.delivered = true)
      (room : ¬ s.maps.madviseTrackingMap.Full ∨ s.tracker call.task.getGlobalUid ≠ none) :
      SteadyStep s call (s.make call)

/-- Whenever more of a user's calls than the threshold lie within one second, one is killed. -/
def NoBlindSpot (s : State) : Prop :=
  ∀ uid, Answered 1000000000 10000 (instants s.log uid) (kills s.log uid)

/-- A call that finds as many calls as the threshold in the last second and after the last kill
finds the window open, and all of them in it. -/
def Covered (m : Move State Call) : Prop :=
  let uid := m.label.task.getGlobalUid
  let now := m.label.now.toNat
  10000 ≤ pending 1000000000 now (kills m.source.log uid) (instants m.source.log uid) →
    ∃ window, m.source.tracker uid = some window ∧
      now ≤ window.windowStart.toNat + 1000000000 ∧
      ∀ t ∈ instants m.source.log uid, Pending 1000000000 now (kills m.source.log uid) t →
        window.windowStart.toNat ≤ t

/-- How a tracker relates to the calls of its user: it counts those since the last kill. -/
structure Fits (clock : Nat) (entry : Option Tracker) (calls deaths since rest : List Nat) :
    Prop where
  split : calls = since ++ rest
  answered : ∀ t ∈ rest, ∃ a ∈ deaths, t ≤ a
  past : ∀ t ∈ calls, t ≤ clock
  mortal : ∀ a ∈ deaths, a ≤ clock
  held : ∀ e, entry = some e → Tracks 1000000000 e.windowStart.toNat e.count.toNat since ∧
    e.windowStart.toNat ≤ clock ∧ e.count.toNat ≤ 10000
  absent : entry = none → since = []

section Fits

variable {clock : Nat} {now : UInt64} {entry : Option Tracker} {calls deaths since rest : List Nat}

theorem Fits.later (fits : Fits clock entry calls deaths since rest) {next : Nat}
    (inOrder : clock ≤ next) : Fits next entry calls deaths since rest :=
  ⟨fits.split, fits.answered, fun t member => Nat.le_trans (fits.past t member) inOrder,
    fun a member => Nat.le_trans (fits.mortal a member) inOrder,
    fun e found => (fits.held e found).imp_right (And.imp_left fun opened =>
      Nat.le_trans opened inOrder), fits.absent⟩

/-- Pending calls were made since the last kill. -/
theorem Fits.since_of_pending (fits : Fits clock entry calls deaths since rest) {t at' : Nat}
    (member : t ∈ calls) (open_ : Pending 1000000000 at' deaths t) : t ∈ since := by
  rw [fits.split] at member
  refine (List.mem_append.mp member).resolve_right fun old => ?_
  obtain ⟨a, death, before⟩ := fits.answered t old
  exact Nat.not_lt_of_le before (open_.2 a death)

theorem Fits.pending_eq (fits : Fits clock entry calls deaths since rest) (at' : Nat) :
    pending 1000000000 at' deaths calls =
      since.countP fun t => Pending 1000000000 at' deaths t := by
  have none : rest.countP (fun t => Pending 1000000000 at' deaths t) = 0 := by
    refine List.countP_eq_zero.mpr fun t old open_ => ?_
    obtain ⟨a, death, before⟩ := fits.answered t old
    exact Nat.not_lt_of_le before ((of_decide_eq_true open_).2 a death)
  rw [pending, fits.split, List.countP_append, none, Nat.add_zero]

private theorem toNat_succ {count : UInt32} (few : count.toNat ≤ 10000) :
    (count + 1).toNat = count.toNat + 1 := by
  rw [UInt32.toNat_add]
  exact Nat.mod_eq_of_lt (Nat.lt_of_le_of_lt (Nat.succ_le_succ few) (by decide))

private theorem Fits.opened (fits : Fits now.toNat entry calls deaths since rest) :
    ∀ e, entry = some e → e.windowStart ≤ now :=
  fun e found => UInt64.le_iff_toNat_le.mpr (fits.held e found).2.1

/-- A call is killed exactly if its window is open and has counted as many as the threshold. -/
theorem Fits.killed_iff (fits : Fits now.toNat entry calls deaths since rest) :
    (visit entry true now).2.isSome = true ↔ ∃ e, entry = some e ∧
      now.toNat ≤ e.windowStart.toNat + 1000000000 ∧ 10000 ≤ e.count.toNat := by
  rcases visit_cases fits.opened with ⟨lapsed, shape⟩ |
    ⟨old, found, inside, ⟨few, shape⟩ | ⟨above, shape⟩⟩
  · rw [shape]
    refine iff_of_false Bool.false_ne_true ?_
    rintro ⟨e, found, inside, _⟩
    exact Nat.not_lt.mpr inside (lapsed e found)
  · rw [shape]
    refine iff_of_false Bool.false_ne_true ?_
    rintro ⟨e, same, _, full⟩
    rw [found] at same
    cases same
    rw [toNat_succ (fits.held old found).2.2] at few
    exact Nat.not_lt.mpr few (Nat.lt_succ_of_le full)
  · rw [shape]
    rw [toNat_succ (fits.held old found).2.2] at above
    exact iff_of_true rfl ⟨old, found, inside, Nat.le_of_lt_succ above⟩

/-- The tracker after a call that is killed when a signal is sent. -/
theorem Fits.visit (fits : Fits now.toNat entry calls deaths since rest) :
    ∃ since' rest', Fits now.toNat (some (visit entry true now).1) (now.toNat :: calls)
      (if (Window.visit entry true now).2.isSome then now.toNat :: deaths else deaths)
      since' rest' := by
  have past : ∀ t ∈ now.toNat :: calls, t ≤ now.toNat :=
    List.forall_mem_cons.mpr ⟨Nat.le_refl _, fits.past⟩
  rcases visit_cases fits.opened with ⟨lapsed, shape⟩ |
    ⟨old, found, inside, ⟨few, shape⟩ | ⟨above, shape⟩⟩
  · rw [shape]
    have earlier : ∀ t ∈ since, t < now.toNat := by
      cases found : entry with
      | none =>
        rw [fits.absent found]
        exact List.forall_mem_nil _
      | some e => exact (fits.held e found).1.earlier (lapsed e found)
    refine ⟨now.toNat :: since, rest, congrArg (now.toNat :: ·) fits.split, fits.answered, past,
      fits.mortal, ?_, nofun⟩
    rintro e ⟨⟩
    have one : (1 : UInt32).toNat ≤ 10000 := by decide
    exact ⟨.opening earlier, Nat.le_refl _, one⟩
  · rw [shape]
    obtain ⟨tracks, opened, bound⟩ := fits.held old found
    refine ⟨now.toNat :: since, rest, congrArg (now.toNat :: ·) fits.split, fits.answered, past,
      fits.mortal, ?_, nofun⟩
    rintro e ⟨⟩
    refine ⟨?_, opened, few⟩
    rw [toNat_succ bound]
    exact tracks.push opened inside
  · rw [shape]
    obtain ⟨_, opened, _⟩ := fits.held old found
    refine ⟨[], now.toNat :: calls, rfl, ?_, past, ?_, ?_, fun _ => rfl⟩
    · intro t member
      exact ⟨now.toNat, List.mem_cons_self, past t member⟩
    · exact List.forall_mem_cons.mpr ⟨Nat.le_refl _, fits.mortal⟩
    · rintro e ⟨⟩
      exact ⟨.cleared _ _, opened, Nat.zero_le _⟩

/-- With as many calls pending as the threshold, the next one is killed exactly if the window is
open and counts all of them. -/
theorem Fits.killed_iff_covers (fits : Fits now.toNat entry calls deaths since rest)
    (answered : Answered 1000000000 10000 calls deaths)
    (many : 10000 ≤ pending 1000000000 now.toNat deaths calls) :
    (Window.visit entry true now).2.isSome = true ↔ ∃ e, entry = some e ∧
      now.toNat ≤ e.windowStart.toNat + 1000000000 ∧
      ∀ t ∈ calls, Pending 1000000000 now.toNat deaths t → e.windowStart.toNat ≤ t := by
  have few := answered.pending_le fits.past
  rw [fits.pending_eq] at many few
  rw [fits.killed_iff]
  refine exists_congr fun e => and_congr_right fun found => and_congr_right fun _ => ?_
  rw [(fits.held e found).1.counted,
    reaches_iff_covers (fun _ _ here later => here.mono later) few many]
  constructor
  · intro covered t member open_
    exact covered t (fits.since_of_pending member open_) open_
  · intro covered t member open_
    rw [fits.split] at covered
    exact covered t (List.mem_append_left _ member) open_

end Fits

/-- What holds in every state of a run. -/
structure Sound (s : State) : Prop where
  evicts : s.maps.madviseTrackingMap.policy = madviseTrackingType
  active : isModuleActive s.maps.stateMap = true
  fits : ∀ uid, ∃ since rest, Fits s.clock.toNat (s.tracker uid) (instants s.log uid)
    (kills s.log uid) since rest

section Steps

variable {s t : State} {call : Call} {uid : UInt32}

theorem sound_of_start (start : Start s) (active : isModuleActive s.maps.stateMap = true) :
    Sound s where
  evicts := start.evicts
  active := active
  fits := by
    intro uid
    rw [start.log, start.empty]
    exact ⟨[], [], rfl, nofun, nofun, nofun, nofun, fun _ => rfl⟩

/-- A steady call as the log shows it. -/
structure Seen (s : State) (call : Call) : Prop where
  counted : call.counted s.maps = true
  delivered : call.delivered = true

theorem Seen.of_steady (sound : Sound s) (hint : call.behavior = MADV_DONTNEED)
    (delivered : call.delivered = true) : Seen s call where
  counted := by
    rw [Call.counted, sound.active, hint]
    rfl
  delivered := delivered

theorem Seen.killed (seen : Seen s call) : (s.made call).killed =
    (visit (s.tracker call.task.getGlobalUid) true call.now).2.isSome := by
  have same : (s.made call).killed = true ↔
      (visit (s.tracker call.task.getGlobalUid) true call.now).2.isSome = true := by
    refine decide_eq_true_iff.trans ?_
    rw [killed_iff, sent_of_counted seen.counted, seen.delivered]
    exact and_iff_right rfl
  exact Bool.eq_iff_iff.mpr same

theorem Seen.instants_self (seen : Seen s call) :
    instants (s.make call).log call.task.getGlobalUid =
      call.now.toNat :: instants s.log call.task.getGlobalUid := by
  have hinted : ((s.made call).behavior == MADV_DONTNEED &&
      (s.made call).uid == call.task.getGlobalUid) = true := by
    rw [Bool.and_eq_true]
    exact ⟨(Bool.and_eq_true_iff.mp seen.counted).2, beq_self_eq_true _⟩
  exact congrArg (List.map Made.instant) (List.filter_cons_of_pos hinted)

theorem Seen.kills_self (seen : Seen s call) :
    kills (s.make call).log call.task.getGlobalUid =
      if (visit (s.tracker call.task.getGlobalUid) true call.now).2.isSome then
        call.now.toNat :: kills s.log call.task.getGlobalUid
      else kills s.log call.task.getGlobalUid := by
  rw [← seen.killed]
  have own : ((s.made call).uid == call.task.getGlobalUid) = true := beq_self_eq_true _
  split
  · rename_i killed
    exact congrArg (List.map Made.instant)
      (List.filter_cons_of_pos (by rw [killed, own, Bool.true_and]))
  · rename_i spared
    refine congrArg (List.map Made.instant) (List.filter_cons_of_neg ?_)
    rw [Bool.and_eq_true]
    exact fun both => spared both.1

theorem instants_other (other : uid ≠ call.task.getGlobalUid) :
    instants (s.make call).log uid = instants s.log uid := by
  refine congrArg (List.map Made.instant) (List.filter_cons_of_neg ?_)
  rw [Bool.and_eq_true, beq_iff_eq]
  exact fun both => other (eq_of_beq both.2).symm

theorem kills_other (other : uid ≠ call.task.getGlobalUid) :
    kills (s.make call).log uid = kills s.log uid := by
  refine congrArg (List.map Made.instant) (List.filter_cons_of_neg ?_)
  rw [Bool.and_eq_true]
  exact fun both => other (eq_of_beq both.2).symm

private theorem Seen.tracker_other (seen : Seen s call)
    (room : ¬ s.maps.madviseTrackingMap.Full ∨ s.tracker call.task.getGlobalUid ≠ none)
    (other : uid ≠ call.task.getGlobalUid) : (s.make call).tracker uid = s.tracker uid := by
  rw [State.make, State.tracker, handled_of_counted seen.counted]
  exact lookup_record_ne room other

theorem step_keeps_sound (taken : SteadyStep s call t) (sound : Sound s) : Sound t := by
  cases taken with
  | call later hint delivered room =>
    have seen := Seen.of_steady sound hint delivered
    have inOrder := UInt64.le_iff_toNat_le.mp later
    refine ⟨evicts_make sound.evicts, ?_, ?_⟩
    · rw [State.make, handled_of_counted seen.counted]
      exact sound.active
    · intro uid
      obtain ⟨since, rest, fits⟩ := sound.fits uid
      by_cases mine : uid = call.task.getGlobalUid
      · subst mine
        rw [tracker_make_self sound.evicts seen.counted, seen.instants_self, seen.kills_self,
          delivered]
        exact (fits.later inOrder).visit
      · rw [seen.tracker_other room mine, instants_other mine, kills_other mine]
        exact ⟨since, rest, fits.later inOrder⟩

/-- A call keeps all answered unless it is one too many and is not killed. -/
private theorem noBlindSpot_step_iff (taken : SteadyStep s call t) (sound : Sound s)
    (quiet : NoBlindSpot s) : NoBlindSpot t ↔ Covered ⟨s, call, t⟩ := by
  cases taken with
  | call later hint delivered room =>
    have seen := Seen.of_steady sound hint delivered
    obtain ⟨since, rest, before⟩ := sound.fits call.task.getGlobalUid
    have fits := before.later (UInt64.le_iff_toNat_le.mp later)
    have answered := quiet call.task.getGlobalUid
    have mine : Answered 1000000000 10000 (instants (s.make call).log call.task.getGlobalUid)
        (kills (s.make call).log call.task.getGlobalUid) ↔ Covered ⟨s, call, s.make call⟩ := by
      rw [seen.instants_self, seen.kills_self, Covered]
      dsimp only
      by_cases killed : (visit (s.tracker call.task.getGlobalUid) true call.now).2.isSome
      · rw [if_pos killed]
        refine iff_of_true answered.cons_answer ?_
        intro many
        exact (fits.killed_iff_covers answered many).mp killed
      · rw [if_neg killed, answered.cons_iff fits.past fits.mortal (by decide), ← Nat.not_le]
        constructor
        · intro few many
          exact absurd many few
        · intro covered many
          exact killed ((fits.killed_iff_covers answered many).mpr (covered many))
    constructor
    · intro all
      exact mine.mp (all _)
    · intro covered uid
      by_cases same : uid = call.task.getGlobalUid
      · rw [same]
        exact mine.mpr covered
      · rw [instants_other same, kills_other same]
        exact quiet uid

end Steps

section Straddling

/-- One call at 0 and 9999 at 0.9 seconds. -/
def crowded : State := (loaded.make (hintAt 0)).burst (hintAt 900000000) 9999

/-- And two more just after the first second, when the window has expired. -/
def straddled : State :=
  (crowded.make (hintAt 1000000001)).make (hintAt 1000000001)

theorem step_of_found {s : State} {tracker : Tracker} {now : UInt64} (later : s.clock ≤ now)
    (found : s.tracker 1000 = some tracker) :
    SteadyStep s (hintAt now) (s.make (hintAt now)) := by
  refine .call later rfl rfl (.inr ?_)
  change s.tracker 1000 ≠ none
  rw [found]
  exact Option.some_ne_none _

theorem counting_loaded_late : Counting (loaded.make (hintAt 0)) (hintAt 900000000) ⟨0, 1⟩ :=
  ⟨by decide, rfl, by decide, by decide, by decide, by decide⟩

/-- A call that is not killed, and what it leaves for the next. -/
theorem make_spared {s : State} {tracker : Tracker} (now : UInt64)
    (counted : (hintAt now).counted s.maps = true)
    (evicts : s.maps.madviseTrackingMap.policy = madviseTrackingType)
    (found : s.tracker 1000 = some tracker) (spared : (visit (some tracker) true now).2 = none) :
    (hintAt now).counted (s.make (hintAt now)).maps = true ∧
      (s.make (hintAt now)).tracker 1000 = some (visit (some tracker) true now).1 ∧
      instants (s.make (hintAt now)).log 1000 = now.toNat :: instants s.log 1000 ∧
      kills (s.make (hintAt now)).log 1000 = kills s.log 1000 := by
  have seen : Seen s (hintAt now) := ⟨counted, rfl⟩
  have own : (hintAt now).task.getGlobalUid = 1000 := rfl
  refine ⟨?_, ?_, ?_, ?_⟩
  · rw [State.make, handled_of_counted counted]
    exact counted
  · have stored := tracker_make_self evicts counted
    rwa [own, found] at stored
  · have added := seen.instants_self
    rwa [own] at added
  · have kept := seen.kills_self
    have reading : (hintAt now).now = now := rfl
    rw [own, found, reading, spared] at kept
    exact kept

/-- More than 10000 calls within 0.2 seconds, and none is killed. -/
theorem straddling_calls_survive :
    (∃ moves, Run SteadyStep loaded moves straddled) ∧
      (instants straddled.log 1000).countP (fun t => 900000000 ≤ t ∧ t ≤ 1000000001) = 10001 ∧
      kills straddled.log 1000 = [] ∧ ¬ NoBlindSpot straddled := by
  obtain ⟨counting, times, deaths⟩ := counting_loaded_late.burst 9999 (by decide)
  have first : SteadyStep loaded (hintAt 0) (loaded.make (hintAt 0)) :=
    .call (by decide) rfl rfl (.inl (by decide))
  obtain ⟨moves, run⟩ : ∃ moves, Run SteadyStep (loaded.make (hintAt 0)) moves crowded :=
    counting_loaded_late.run_burst
      (fun s tracker counting => step_of_found counting.past counting.found) 9999 (by decide)
  change Counting crowded (hintAt 900000000) ⟨0, 10000⟩ at counting
  change instants crowded.log 1000 = List.replicate 9999 900000000 ++ [0] at times
  change kills crowded.log 1000 = [] at deaths
  rw [straddled]
  generalize crowded = s at counting times deaths run ⊢
  have found : s.tracker 1000 = some ⟨0, 10000⟩ := counting.found
  have inOrder : s.clock ≤ 1000000001 := UInt64.le_trans counting.past (by decide)
  obtain ⟨counted, reopened, times', deaths'⟩ :=
    make_spared 1000000001 counting.counted counting.evicts found rfl
  obtain ⟨_, _, times'', deaths''⟩ :=
    make_spared 1000000001 counted (evicts_make counting.evicts) reopened rfl
  rw [times', times] at times''
  rw [deaths', deaths] at deaths''
  have crowd : (instants ((s.make (hintAt 1000000001)).make (hintAt 1000000001)).log 1000).countP
      (fun t => 900000000 ≤ t ∧ t ≤ 1000000001) = 10001 := by
    rw [times'']
    rw [List.countP_cons_of_pos (by decide), List.countP_cons_of_pos (by decide),
      List.countP_append, List.countP_replicate, if_pos (by decide)]
    rfl
  refine ⟨⟨_, (Run.cons first run).append (.cons (step_of_found inOrder found)
    (.cons (step_of_found (UInt64.le_refl _) reopened) (.nil _)))⟩, crowd, deaths'', ?_⟩
  intro quiet
  obtain ⟨a, killed, _⟩ := quiet 1000 900000000 1000000001 (by decide) (by rw [crowd]; decide)
  rw [deaths''] at killed
  cases killed

end Straddling

/-- In every run, more calls within a second than the threshold are answered in all states reached
exactly if every call that finds so many finds a window open that has counted them. -/
theorem noBlindSpot_throughout_iff {s t : State} {moves : List (Move State Call)}
    (start : Start s) (active : isModuleActive s.maps.stateMap = true)
    (run : Run SteadyStep s moves t) :
    (∀ m ∈ moves, NoBlindSpot m.target) ↔ ∀ m ∈ moves, Covered m := by
  have initially : NoBlindSpot s := by
    intro uid first last _ many
    rw [start.log] at many
    cases many
  exact run.observed_iff_moves (fun _ _ _ taken => step_keeps_sound taken) (fun _ _ => Iff.rfl)
    (fun _ _ _ taken => noBlindSpot_step_iff taken) (sound_of_start start active) initially

/-- Two calls two seconds apart. -/
theorem noBlindSpot_throughout_iff_sample :
    NoBlindSpot ((loaded.make (hintAt 0)).make (hintAt 2000000000)) := by
  have first : SteadyStep loaded (hintAt 0) (loaded.make (hintAt 0)) :=
    .call (by decide) rfl rfl (.inl (by decide))
  have second : SteadyStep (loaded.make (hintAt 0)) (hintAt 2000000000)
      ((loaded.make (hintAt 0)).make (hintAt 2000000000)) :=
    step_of_found (by decide) counting_loaded.found
  refine (noBlindSpot_throughout_iff start_loaded (by decide)
    (.cons first (.cons second (.nil _)))).mpr ?_ _ (.tail _ (.head _))
  intro m member
  simp only [List.mem_cons, List.not_mem_nil, or_false] at member
  rcases member with rfl | rfl
  · exact fun many => absurd many (by decide)
  · exact fun many => absurd many (by decide)

end BouclierBleu.MadviseRatelimit.BlindSpot
