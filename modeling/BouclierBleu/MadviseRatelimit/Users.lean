/- GID: BouclierBleu/MadviseRatelimit/Users
   source: bpf/madvise_ratelimit.bpf.c
   digest: While the tracking map has room for all users, none is judged by the calls of another. -/

import BouclierBleu.Library.Histories
import BouclierBleu.Library.Projections
import BouclierBleu.MadviseRatelimit.Window
import Mathlib.Data.Finset.Card

set_option autoImplicit false
set_option relaxedAutoImplicit false

namespace BouclierBleu.MadviseRatelimit.Users

open BouclierBleu.Kernel.ModuleCore (isModuleActive)
open BouclierBleu.Library.BoundedMaps (BoundedMap)
open BouclierBleu.Library.Histories
open BouclierBleu.Library.Projections
open BouclierBleu.Library.Trace (Move Run)
open BouclierBleu.MadviseRatelimit.Hook
open BouclierBleu.MadviseRatelimit.Window

/-- The events that concern a user: the calls of their processes, and every toggle. -/
def concerns (uid : UInt32) : Event → Bool
  | .call call => call.task.getGlobalUid == uid
  | .toggle _ => true

def callerOf (m : Move State Event) : Option UInt32 :=
  match m.label with
  | .call call => some call.task.getGlobalUid
  | .toggle _ => none

/-- The users whose processes called, one for each call. -/
def callers (moves : List (Move State Event)) : List UInt32 := moves.filterMap callerOf

/-- What came of a call, without its place among the calls of all users. -/
structure Verdict where
  behavior : Int
  instant : Nat
  counted : Bool
  sent : Option UInt32
  killed : Bool
  deriving DecidableEq

def verdictOf (m : Made) : Verdict := ⟨m.behavior, m.instant, m.counted, m.sent, m.killed⟩

/-- What came of the calls of a user, newest first. -/
def verdicts (log : List Made) (uid : UInt32) : List Verdict :=
  (log.filter fun m => m.uid == uid).map verdictOf

/-- A call finds a tracker of its user or room for one. -/
def Room (m : Move State Event) : Prop :=
  ∀ call, m.label = .call call → ¬ m.source.maps.madviseTrackingMap.Full ∨
    m.source.tracker call.task.getGlobalUid ≠ none

section Capacity

variable {s t : State} {call : Call} {moves : List (Move State Event)}

private theorem maxEntries_record (pick : Nat) (map : TrackingMap) (uid : UInt32)
    (tracker : Tracker) : (record pick map uid tracker).maxEntries = map.maxEntries := by
  have kept (other : Nat) :
      ((map.update other uid tracker).getD map).maxEntries = map.maxEntries := by
    cases stored : map.update other uid tracker with
    | none => rfl
    | some map' => exact BoundedMap.update_maxEntries stored
  rw [record]
  split
  · exact kept pick
  · exact kept 0

private theorem maxEntries_make :
    (s.make call).maps.madviseTrackingMap.maxEntries = s.maps.madviseTrackingMap.maxEntries := by
  cases counted : call.counted s.maps with
  | false => rw [make_of_uncounted counted]
  | true =>
    rw [State.make, handled_of_counted counted]
    exact maxEntries_record ..

/-- The trackers are those of users who have called, in a map as large as at the start. -/
structure Occupied (n : Nat) (moves : List (Move State Event)) (s : State) : Prop where
  keys : ∀ uid, s.tracker uid ≠ none → uid ∈ callers moves
  maxEntries : s.maps.madviseTrackingMap.maxEntries = n

private theorem occupied_step {n : Nat} (before : List (Move State Event)) (event : Event)
    (taken : Step s event t) (occupied : Occupied n before s) :
    Occupied n (before ++ [⟨s, event, t⟩]) t := by
  have grown : callers (before ++ [⟨s, event, t⟩]) =
      callers before ++ (callerOf ⟨s, event, t⟩).toList := filterMap_snoc _ _
  cases taken with
  | @call call later =>
    refine ⟨?_, maxEntries_make.trans occupied.maxEntries⟩
    intro uid held
    rw [grown]
    by_cases own : uid = call.task.getGlobalUid
    · exact List.mem_append_right _ (List.mem_singleton.mpr own)
    · obtain ⟨found, present⟩ := Option.ne_none_iff_exists'.mp held
      have earlier := tracker_of_make own present
      refine List.mem_append_left _ (occupied.keys uid ?_)
      rw [earlier]
      exact Option.some_ne_none _
  | toggle =>
    refine ⟨?_, occupied.maxEntries⟩
    intro uid held
    rw [grown]
    exact List.mem_append_left _ (occupied.keys uid held)

/-- As long as there are no more callers than entries, every call finds room. -/
private theorem room_of_few (start : Start s) (run : Run Step s moves t)
    (few : (callers moves).toFinset.card ≤ s.maps.madviseTrackingMap.maxEntries) :
    ∀ m ∈ moves, Room m := by
  intro m member call labelled
  obtain ⟨before, after, shape, prior, _, _⟩ := run.split member
  have occupied : Occupied s.maps.madviseTrackingMap.maxEntries ([] ++ before) m.source := by
    refine invariant_along (fun before s e t => occupied_step before e) prior ⟨?_, rfl⟩
    intro uid held
    exact absurd (start.empty uid) held
  by_contra crowded
  rw [not_or, not_not, not_not] at crowded
  obtain ⟨full, fresh⟩ := crowded
  -- Together with the new user there is one more caller than the map has entries.
  let users := call.task.getGlobalUid :: m.source.maps.madviseTrackingMap.table.keys
  have nodup : users.Nodup := by
    refine List.nodup_cons.mpr ⟨?_, m.source.maps.madviseTrackingMap.table.keys_nodup⟩
    exact fun member => BoundedMap.lookup_eq_none.mp fresh (AList.mem_keys.mpr member)
  have among : users.toFinset ⊆ (callers moves).toFinset := by
    intro uid listed
    rw [List.mem_toFinset] at listed ⊢
    rcases List.mem_cons.mp listed with rfl | tracked
    · exact List.mem_filterMap.mpr ⟨m, member, by rw [callerOf, labelled]⟩
    · obtain ⟨tracker, present⟩ := BoundedMap.exists_lookup.mpr (AList.mem_keys.mp tracked)
      have earlier : uid ∈ callers before := by
        refine occupied.keys uid ?_
        rw [State.tracker, present]
        exact Option.some_ne_none _
      rw [shape, callers, List.filterMap_append]
      exact List.mem_append_left _ earlier
  have counted := Finset.card_le_card among
  rw [List.toFinset_card_of_nodup nodup, List.length_cons] at counted
  have size : m.source.maps.madviseTrackingMap.table.keys.length =
      s.maps.madviseTrackingMap.maxEntries := full.trans occupied.maxEntries
  omega

end Capacity

section Alike

variable {uid : UInt32} {s s' t t' : State} {event : Event}

/-- Two states in which the next call of a user comes out alike. -/
structure Alike (uid : UInt32) (s s' : State) : Prop where
  stateMap : s.maps.stateMap = s'.maps.stateMap
  tracker : s.tracker uid = s'.tracker uid
  evicts : s.maps.madviseTrackingMap.policy = madviseTrackingType
  evicts' : s'.maps.madviseTrackingMap.policy = madviseTrackingType
  verdicts : verdicts s.log uid = verdicts s'.log uid

private theorem stateMap_make (s : State) (call : Call) :
    (s.make call).maps.stateMap = s.maps.stateMap := by
  cases counted : call.counted s.maps with
  | false => rw [make_of_uncounted counted]
  | true => rw [State.make, handled_of_counted counted]

private theorem tracker_make_other {call : Call} (differs : uid ≠ call.task.getGlobalUid)
    (room : ¬ s.maps.madviseTrackingMap.Full ∨ s.tracker call.task.getGlobalUid ≠ none) :
    (s.make call).tracker uid = s.tracker uid := by
  cases counted : call.counted s.maps with
  | false => rw [State.tracker, make_of_uncounted counted, State.tracker]
  | true =>
    rw [State.make, State.tracker, handled_of_counted counted]
    exact lookup_record_ne room differs

private theorem verdicts_make_other {call : Call} (differs : uid ≠ call.task.getGlobalUid) :
    verdicts (s.make call).log uid = verdicts s.log uid := by
  have skipped : ((s.made call).uid == uid) = false := by
    rw [beq_eq_false_iff_ne]
    exact Ne.symm differs
  exact congrArg (List.map verdictOf)
    (List.filter_cons_of_neg (by rw [skipped]; exact Bool.false_ne_true))

private theorem verdicts_make_self {call : Call} (own : call.task.getGlobalUid = uid) :
    verdicts (s.make call).log uid = verdictOf (s.made call) :: verdicts s.log uid := by
  have kept : ((s.made call).uid == uid) = true := beq_iff_eq.mpr own
  exact congrArg (List.map verdictOf) (List.filter_cons_of_pos kept)

/-- A call of another user, when there is room for them. -/
private theorem Alike.skip (alike : Alike uid s s') (taken : Step s event t)
    (room : Room ⟨s, event, t⟩) (other : concerns uid event = false) : Alike uid t s' := by
  cases taken with
  | toggle => cases other
  | @call call later =>
    have differs : uid ≠ call.task.getGlobalUid := Ne.symm (beq_eq_false_iff_ne.mp other)
    refine ⟨?_, ?_, evicts_make alike.evicts, alike.evicts', ?_⟩
    · rw [stateMap_make, alike.stateMap]
    · rw [tracker_make_other differs (room call rfl), alike.tracker]
    · rw [verdicts_make_other differs, alike.verdicts]

/-- A call of the user, or a toggle, in both. -/
private theorem Alike.follow (alike : Alike uid s s') (taken : Step s event t)
    (taken' : Step s' event t') (own : concerns uid event = true) : Alike uid t t' := by
  cases taken with
  | toggle =>
    cases taken'
    exact ⟨rfl, alike.tracker, alike.evicts, alike.evicts', alike.verdicts⟩
  | @call call later =>
    cases taken'
    have user : call.task.getGlobalUid = uid := beq_iff_eq.mp own
    have counted : call.counted s.maps = call.counted s'.maps := by
      rw [Call.counted, Call.counted, alike.stateMap]
    have sent : call.sent s.maps = call.sent s'.maps := by
      cases here : call.counted s'.maps with
      | false => rw [sent_of_uncounted here, sent_of_uncounted (counted.trans here)]
      | true =>
        rw [sent_of_counted here, sent_of_counted (counted.trans here), user]
        exact congrArg (fun entry => (visit entry call.delivered call.now).2) alike.tracker
    refine ⟨?_, ?_, evicts_make alike.evicts, evicts_make alike.evicts', ?_⟩
    · rw [stateMap_make, stateMap_make, alike.stateMap]
    · cases here : call.counted s'.maps with
      | false =>
        rw [State.tracker, State.tracker, make_of_uncounted here,
          make_of_uncounted (counted.trans here)]
        exact alike.tracker
      | true =>
        rw [← user, tracker_make_self alike.evicts (counted.trans here),
          tracker_make_self alike.evicts' here, user, alike.tracker]
    · have verdict : verdictOf (s.made call) = verdictOf (s'.made call) := by
        simp only [verdictOf, State.made, counted, sent, killed_iff]
      rw [verdicts_make_self user, verdicts_make_self user, verdict, alike.verdicts]

end Alike

/-- In every run that starts with an empty map, with no more users calling than the map has
entries: what becomes of the calls of one user, which are counted, which are sent a signal with
which count, and which are killed, is what would become of them if nobody else had called. -/
theorem users_isolated {s s' t t' : State} {moves moves' : List (Move State Event)}
    (uid : UInt32) (start : Start s) (start' : Start s')
    (same : s.maps.stateMap = s'.maps.stateMap) (run : Run Step s moves t)
    (few : (callers moves).toFinset.card ≤ s.maps.madviseTrackingMap.maxEntries)
    (run' : Run Step s' moves' t')
    (alone : moves'.map Move.label = (moves.map Move.label).filter (concerns uid)) :
    verdicts t.log uid = verdicts t'.log uid := by
  have beginning : Alike uid s s' := by
    refine ⟨same, ?_, start.evicts, start'.evicts, ?_⟩
    · rw [start.empty, start'.empty]
    · rw [start.log, start'.log]
  have finished := related_of_projection (R := Alike uid) (C := Room) (concerns uid)
    (fun _ _ _ _ taken room other alike => alike.skip taken room other)
    (fun _ _ _ _ _ taken _ taken' own alike => alike.follow taken taken' own)
    run (room_of_few start run few) run' alone beginning
  exact finished.verdicts

section Sample

/-- User 7 drops a page at the same time. -/
def neighbour : Call := ⟨⟨0, 7, none⟩, MADV_DONTNEED, 5, true, true, 0⟩

theorem start_loaded : Start loaded := ⟨fun _ => rfl, rfl, rfl⟩

theorem users_isolated_sample :
    verdicts ((loaded.make neighbour).make (hintAt 5)).log 1000 =
      verdicts (loaded.make (hintAt 5)).log 1000 := by
  have run : Run Step loaded _ ((loaded.make neighbour).make (hintAt 5)) :=
    .cons (.call (by decide)) (.cons (.call (by decide)) (.nil _))
  have run' : Run Step loaded _ (loaded.make (hintAt 5)) := .cons (.call (by decide)) (.nil _)
  exact users_isolated 1000 start_loaded start_loaded rfl run (by decide) run' rfl

end Sample

end BouclierBleu.MadviseRatelimit.Users
