/- GID: BouclierBleu/MadviseRatelimit/Justified
   source: bpf/madvise_ratelimit.bpf.c
   digest: Every kill has more calls to its name than the threshold, none of them another's. -/

import BouclierBleu.MadviseRatelimit.Window

set_option autoImplicit false
set_option relaxedAutoImplicit false

namespace BouclierBleu.MadviseRatelimit.Justified

open BouclierBleu.Library.Trace (Move Run)
open BouclierBleu.MadviseRatelimit.Hook
open BouclierBleu.MadviseRatelimit.Window

/-- The calls of a user that the hook counted, newest first. -/
def countedCalls (log : List Made) (uid : UInt32) : List Made :=
  log.filter fun m => m.counted && m.uid == uid

/-- The calls that a count is made of: the user's last ones, as many as it says. -/
def credited (log : List Made) (uid count : UInt32) : List Made :=
  (countedCalls log uid).take count.toNat

/-- A kill that counts more calls than the threshold, all of them within the closing second and
none before another kill of the user. -/
structure Earned (m : Made) (earlier : List Made) (count : UInt32) : Prop where
  enough : RATELIMIT_THRESHOLD.toNat < (credited (m :: earlier) m.uid count).length
  closing : ∀ c ∈ credited (m :: earlier) m.uid count,
    m.instant ≤ c.instant + RATELIMIT_WINDOW_NS.toNat
  fresh : ∀ c ∈ credited (m :: earlier) m.uid count, c = m ∨ c.killed = false

/-- What the count of a tracker is made of. -/
structure Counts (clock : UInt64) (tracker : Tracker) (calls : List Made) : Prop where
  opened : tracker.windowStart ≤ clock
  enough : tracker.count.toNat ≤ calls.length
  within : ∀ c ∈ calls.take tracker.count.toNat,
    tracker.windowStart.toNat ≤ c.instant ∧ c.killed = false

section Calls

variable {log : List Made} {uid : UInt32} {m : Made}

theorem countedCalls_cons_self (counted : m.counted = true) (same : m.uid = uid) :
    countedCalls (m :: log) uid = m :: countedCalls log uid :=
  List.filter_cons_of_pos (by rw [counted, same, Bool.true_and, beq_self_eq_true])

theorem countedCalls_cons_other (other : ¬ (m.counted = true ∧ m.uid = uid)) :
    countedCalls (m :: log) uid = countedCalls log uid :=
  List.filter_cons_of_neg (by rwa [Bool.and_eq_true, beq_iff_eq])

theorem mem_countedCalls : m ∈ countedCalls log uid ↔
    m ∈ log ∧ m.counted = true ∧ m.uid = uid := by
  rw [countedCalls, List.mem_filter, Bool.and_eq_true, beq_iff_eq]

end Calls

section Visits

variable {entry : Option Tracker} {state : Tracker} {delivered : Bool} {clock now : UInt64}
  {calls : List Made} {m : Made}

/-- A count that goes up covers one more call. It may wrap. -/
private theorem toNat_succ_le (count : UInt32) : (count + 1).toNat ≤ count.toNat + 1 := by
  rw [UInt32.toNat_add]
  exact Nat.mod_le _ _

private theorem mem_take_succ {count : UInt32} {c : Made}
    (member : c ∈ (m :: calls).take (count + 1).toNat) : c = m ∨ c ∈ calls.take count.toNat := by
  have longer := List.take_subset_take_left (m :: calls) (toNat_succ_le count) member
  rw [List.take_succ_cons] at longer
  exact List.mem_cons.mp longer

theorem Counts.push (counts : Counts clock state calls) (later : clock ≤ now)
    (instant : m.instant = now.toNat) (alive : m.killed = false) :
    Counts now ⟨state.windowStart, state.count + 1⟩ (m :: calls) := by
  have opened := UInt64.le_trans counts.opened later
  have grown := toNat_succ_le state.count
  refine ⟨opened, Nat.le_trans grown (Nat.succ_le_succ counts.enough), ?_⟩
  intro c member
  rcases mem_take_succ member with rfl | old
  · rw [instant]
    exact ⟨UInt64.le_iff_toNat_le.mp opened, alive⟩
  · exact counts.within c old

/-- The tracker after a counted call. -/
theorem Counts.visit (counts : ∀ state, entry = some state → Counts clock state calls)
    (later : clock ≤ now) (instant : m.instant = now.toNat)
    (killed : m.killed = (delivered && (visit entry delivered now).2.isSome)) :
    Counts now (visit entry delivered now).1 (m :: calls) := by
  have opened : ∀ state, entry = some state → state.windowStart ≤ now :=
    fun state found => UInt64.le_trans (counts state found).opened later
  rcases visit_cases opened with ⟨_, shape⟩ |
    ⟨state, found, _, ⟨_, shape⟩ | ⟨_, shape⟩⟩
  · rw [shape, Option.isSome_none, Bool.and_false] at killed
    rw [shape]
    refine ⟨UInt64.le_refl now, Nat.succ_le_succ (Nat.zero_le _), ?_⟩
    intro c member
    obtain rfl := List.mem_singleton.mp member
    exact ⟨Nat.le_of_eq instant.symm, killed⟩
  · rw [shape, Option.isSome_none, Bool.and_false] at killed
    rw [shape]
    exact (counts state found).push later instant killed
  · rw [shape, Option.isSome_some, Bool.and_true] at killed
    rw [shape]
    cases delivered with
    | false => exact (counts state found).push later instant killed
    | true =>
      refine ⟨opened state found, Nat.zero_le _, ?_⟩
      intro c member
      cases member

/-- A kill has a count above the threshold, made of calls of the closing second. -/
theorem Counts.sent (counts : ∀ state, entry = some state → Counts clock state calls)
    (later : clock ≤ now) {count : UInt32}
    (sent : (Window.visit entry delivered now).2 = some count) :
    RATELIMIT_THRESHOLD.toNat < count.toNat ∧ count.toNat ≤ calls.length + 1 ∧
      ∀ c ∈ (m :: calls).take count.toNat, c = m ∨
        (now.toNat ≤ c.instant + RATELIMIT_WINDOW_NS.toNat ∧ c.killed = false) := by
  have opened : ∀ state, entry = some state → state.windowStart ≤ now :=
    fun state found => UInt64.le_trans (counts state found).opened later
  rcases visit_cases opened with ⟨_, shape⟩ |
    ⟨state, found, inside, ⟨_, shape⟩ | ⟨above, shape⟩⟩
  · rw [shape] at sent
    cases sent
  · rw [shape] at sent
    cases sent
  · rw [shape] at sent
    cases sent
    have counted := counts state found
    refine ⟨above, Nat.le_trans (toNat_succ_le _) (Nat.succ_le_succ counted.enough), ?_⟩
    intro c member
    rcases mem_take_succ member with rfl | old
    · exact .inl rfl
    · obtain ⟨after, alive⟩ := counted.within c old
      exact .inr ⟨by omega, alive⟩

end Visits

/-- What holds in every state of a run. -/
structure Sound (s : State) : Prop where
  evicts : s.maps.madviseTrackingMap.policy = madviseTrackingType
  ordered : s.log.Pairwise fun later earlier =>
    earlier.number < later.number ∧ earlier.instant ≤ later.instant
  below : ∀ m ∈ s.log, m.number < s.log.length ∧ m.instant ≤ s.clock.toNat
  hinted : ∀ m ∈ s.log, m.counted = true → m.behavior = MADV_DONTNEED
  killers : ∀ m ∈ s.log, m.killed = true → m.counted = true
  counts : ∀ uid tracker, s.tracker uid = some tracker →
    Counts s.clock tracker (countedCalls s.log uid)

/-- Every `SIGKILL` that was sent is earned. -/
def AllEarned (log : List Made) : Prop :=
  ∀ later m earlier count, log = later ++ m :: earlier → m.sent = some count →
    Earned m earlier count

section Steps

variable {s t : State} {call : Call}

theorem sound_of_start (start : Start s) : Sound s where
  evicts := start.evicts
  ordered := by
    rw [start.log]
    exact .nil
  below := by
    intro m member
    rw [start.log] at member
    cases member
  hinted := by
    intro m member
    rw [start.log] at member
    cases member
  killers := by
    intro m member
    rw [start.log] at member
    cases member
  counts := by
    intro uid tracker found
    rw [start.empty] at found
    cases found

private theorem made_killed (s : State) (call : Call) :
    (s.made call).killed = (call.delivered && (call.sent s.maps).isSome) := by
  rw [Bool.eq_iff_iff, Bool.and_eq_true, ← killed_iff]
  exact decide_eq_true_iff

private theorem Sound.counts_make (sound : Sound s) (later : s.clock ≤ call.now) :
    ∀ uid tracker, (s.make call).tracker uid = some tracker →
      Counts call.now tracker (countedCalls (s.made call :: s.log) uid) := by
  intro uid tracker found
  by_cases mine : (s.made call).counted = true ∧ (s.made call).uid = uid
  · obtain ⟨counted, rfl⟩ := mine
    rw [countedCalls_cons_self counted rfl]
    have stored := tracker_make_self sound.evicts counted
    have same := Option.some.inj (stored.symm.trans found)
    rw [← same]
    refine Counts.visit (sound.counts _) later rfl ?_
    rw [made_killed, sent_of_counted counted]
    rfl
  · rw [countedCalls_cons_other mine]
    have old : s.tracker uid = some tracker := by
      cases counted : call.counted s.maps with
      | false =>
        rw [State.tracker, make_of_uncounted counted] at found
        exact found
      | true => exact tracker_of_make (fun same => mine ⟨counted, same.symm⟩) found
    have counts := sound.counts uid tracker old
    exact ⟨UInt64.le_trans counts.opened later, counts.enough, counts.within⟩

theorem step_keeps_sound (event : Event) (taken : Step s event t) (sound : Sound s) :
    Sound t := by
  cases taken with
  | toggle =>
    exact ⟨sound.evicts, sound.ordered, sound.below, sound.hinted, sound.killers, sound.counts⟩
  | @call call later =>
    have past : ∀ m ∈ s.log, m.instant ≤ call.now.toNat := fun m member =>
      Nat.le_trans (sound.below m member).2 (UInt64.le_iff_toNat_le.mp later)
    refine ⟨evicts_make sound.evicts, .cons ?_ sound.ordered, ?_, ?_, ?_,
      sound.counts_make later⟩
    · intro m member
      exact ⟨(sound.below m member).1, past m member⟩
    · intro m member
      rcases List.mem_cons.mp member with rfl | old
      · exact ⟨Nat.lt_succ_self _, Nat.le_refl _⟩
      · exact ⟨Nat.lt_succ_of_lt (sound.below m old).1, past m old⟩
    · intro m member counted
      rcases List.mem_cons.mp member with rfl | old
      · exact eq_of_beq (Bool.and_eq_true_iff.mp counted).2
      · exact sound.hinted m old counted
    · intro m member killed
      rcases List.mem_cons.mp member with rfl | old
      · by_contra ignored
        rw [made_killed, sent_of_uncounted (Bool.eq_false_iff.mpr ignored)] at killed
        simp at killed
      · exact sound.killers m old killed

/-- A `SIGKILL` that a call is sent is earned. -/
theorem Sound.earned (sound : Sound s) (later : s.clock ≤ call.now) {count : UInt32}
    (sent : call.sent s.maps = some count) : Earned (s.made call) s.log count := by
  have counted : (s.made call).counted = true := by
    by_contra ignored
    rw [sent_of_uncounted (Bool.eq_false_iff.mpr ignored)] at sent
    cases sent
  rw [sent_of_counted counted] at sent
  obtain ⟨above, few, each⟩ :=
    Counts.sent (m := s.made call) (sound.counts (s.made call).uid) later sent
  have all : credited (s.made call :: s.log) (s.made call).uid count =
      (s.made call :: countedCalls s.log (s.made call).uid).take count.toNat := by
    rw [credited, countedCalls_cons_self counted rfl]
  refine ⟨?_, ?_, ?_⟩
  · rw [all, List.length_take, List.length_cons, Nat.min_eq_left few]
    exact above
  · intro c member
    rw [all] at member
    rcases each c member with rfl | ⟨close, _⟩
    · exact Nat.le_add_right _ _
    · exact close
  · intro c member
    rw [all] at member
    exact (each c member).imp_right And.right

theorem step_keeps_allEarned (event : Event) (taken : Step s event t)
    (both : Sound s ∧ AllEarned s.log) : Sound t ∧ AllEarned t.log := by
  refine ⟨step_keeps_sound event taken both.1, ?_⟩
  cases taken with
  | toggle => exact both.2
  | call inOrder =>
    intro later m earlier count shape sent
    cases later with
    | nil =>
      cases shape
      exact both.1.earned inOrder sent
    | cons _ later =>
      obtain ⟨_, rest⟩ := List.cons.inj shape
      exact both.2 later m earlier count rest sent

end Steps

/-- The counts of two kills share no call, if the earlier one was delivered. -/
theorem Earned.disjoint {m m' : Made} {between earlier : List Made} {count count' : UInt32}
    (earned : Earned m (between ++ m' :: earlier) count)
    (ordered : (m :: between ++ m' :: earlier).Pairwise fun later earlier =>
      earlier.number < later.number ∧ earlier.instant ≤ later.instant)
    (counted : m'.counted = true) (killed : m'.killed = true) :
    List.Disjoint (credited (m :: (between ++ m' :: earlier)) m.uid count)
      (credited (m' :: earlier) m'.uid count') := by
  obtain ⟨_, _, apart⟩ := List.pairwise_append.mp ordered
  intro c mine theirs
  have own := (mem_countedCalls.mp (List.mem_of_mem_take mine)).2.2
  obtain ⟨behind, _, other⟩ := mem_countedCalls.mp (List.mem_of_mem_take theirs)
  -- The later count does not reach the earlier kill.
  have all : countedCalls (m :: (between ++ m' :: earlier)) m.uid =
      countedCalls (m :: between) m.uid ++ countedCalls (m' :: earlier) m.uid :=
    List.filter_append (m :: between) (m' :: earlier)
  have few : count.toNat ≤ (countedCalls (m :: between) m.uid).length := by
    by_contra many
    rw [Nat.not_le] at many
    have reached : m' ∈ credited (m :: (between ++ m' :: earlier)) m.uid count := by
      rw [credited, all, countedCalls_cons_self counted (other.symm.trans own),
        List.take_append, List.mem_append]
      refine .inr ?_
      rw [← Nat.succ_pred_eq_of_pos (Nat.sub_pos_of_lt many), List.take_succ_cons]
      exact List.mem_cons_self
    rcases earned.fresh m' reached with rfl | spared
    · exact Nat.lt_irrefl _ (apart m' List.mem_cons_self m' List.mem_cons_self).1
    · rw [killed] at spared
      cases spared
  rw [credited, all, List.take_append_of_le_length few] at mine
  have ahead := (mem_countedCalls.mp (List.mem_of_mem_take mine)).1
  exact Nat.lt_irrefl _ (apart c ahead c behind).1

/-- Ten thousand calls at once. -/
def flooded : State := (loaded.make (hintAt 0)).burst (hintAt 0) 9999

end BouclierBleu.MadviseRatelimit.Justified
