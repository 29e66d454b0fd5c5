/- GID: BouclierBleu/MadviseRatelimit/Hook
   source: bpf/madvise_ratelimit.bpf.c, bpf/headers/bpf_fallbacks.h
   digest: The hook that counts a user's madvise calls in a one-second window. -/

import BouclierBleu.Kernel.AlertStructs
import BouclierBleu.Library.BoundedMaps

set_option autoImplicit false
set_option relaxedAutoImplicit false

namespace BouclierBleu.MadviseRatelimit.Hook

open BouclierBleu.Kernel.AlertStructs (MadviseAlert)
open BouclierBleu.Kernel.ModuleCore (isModuleActive SIGKILL Outcome CStr Task extractSafeComm)
open BouclierBleu.Library.BoundedMaps (BoundedMap Policy)

def RATELIMIT_WINDOW_NS : UInt64 := 1000000000

def RATELIMIT_THRESHOLD : UInt64 := 10000

def ACTION_MADVISE_SPAM : UInt32 := 1

def MADV_DONTNEED : Int := 4

/-- `struct madvise_tracker` -/
structure Tracker where
  windowStart : UInt64
  count : UInt32
  deriving DecidableEq

abbrev TrackingMap := BoundedMap UInt32 Tracker

/-- The map type `madvise_tracking_map` declares: `BPF_MAP_TYPE_LRU_HASH`. -/
def madviseTrackingType : Policy := .evict

theorem madviseTrackingMax_pos : 0 < 8192 := by decide

structure Maps where
  stateMap : Option UInt32
  madviseTrackingMap : TrackingMap

/-- A write through the pointer a lookup returned: the key is there, and nothing is evicted. -/
def writeThrough (map : TrackingMap) (uid : UInt32) (tracker : Tracker) : TrackingMap :=
  (map.update 0 uid tracker).getD map

def dispatchMadviseAlert (reserved : Bool) (task : Task) (count : UInt32) : List MadviseAlert :=
  if reserved then
    [⟨task.tgid, task.pidTgid.toUInt32, count, ACTION_MADVISE_SPAM,
      extractSafeComm task 16 CStr.commLen_pos⟩]
  else []

/-- `madvise_ratelimit_sys_enter`; `delivered` says whether `bpf_send_signal` succeeds, `pick`
which entry a full map gives up. -/
def madviseRatelimitSysEnter (maps : Maps) (reserved delivered : Bool) (pick : Nat) (task : Task)
    (behavior : Int) (now : UInt64) : Maps × Outcome MadviseAlert :=
  if !isModuleActive maps.stateMap then (maps, .quiet 0)
  else if behavior != MADV_DONTNEED then (maps, .quiet 0)
  else
    let uid := task.getGlobalUid
    match maps.madviseTrackingMap.lookup uid with
    | none =>
      let map := (maps.madviseTrackingMap.update pick uid ⟨now, 1⟩).getD maps.madviseTrackingMap
      ({ maps with madviseTrackingMap := map }, .quiet 0)
    | some state =>
      if now - state.windowStart > RATELIMIT_WINDOW_NS then
        let map := writeThrough maps.madviseTrackingMap uid ⟨now, 1⟩
        ({ maps with madviseTrackingMap := map }, .quiet 0)
      else
        let currentCount := state.count + 1
        if currentCount.toUInt64 > RATELIMIT_THRESHOLD then
          let kept := if delivered then 0 else currentCount
          let map := writeThrough maps.madviseTrackingMap uid { state with count := kept }
          ({ maps with madviseTrackingMap := map },
            ⟨0, dispatchMadviseAlert reserved task currentCount,
              if delivered then [SIGKILL] else []⟩)
        else
          let map := writeThrough maps.madviseTrackingMap uid { state with count := currentCount }
          ({ maps with madviseTrackingMap := map }, .quiet 0)

section Step

variable {maps : Maps} {reserved delivered : Bool} {pick : Nat} {task : Task} {now : UInt64}

/-- A write through a pointer replaces the tracker and no other. -/
theorem lookup_writeThrough {map : TrackingMap} {uid : UInt32} {old tracker : Tracker}
    (present : map.lookup uid = some old) (other : UInt32) :
    (writeThrough map uid tracker).lookup other =
      if other = uid then some tracker else map.lookup other := by
  obtain ⟨map', stored⟩ : ∃ map', map.update 0 uid tracker = some map' := by
    cases shape : map.update 0 uid tracker with
    | some map' => exact ⟨map', rfl⟩
    | none =>
      have absent := (BoundedMap.update_eq_none.mp shape).2.2
      rw [absent] at present
      cases present
  rw [writeThrough, stored, Option.getD_some]
  by_cases same : other = uid
  · subst same
    rw [if_pos rfl]
    exact BoundedMap.lookup_update_self stored
  · rw [if_neg same]
    refine BoundedMap.lookup_update_ne stored (.inr (.inr ?_)) same
    rw [present]
    exact Option.some_ne_none _

/-- The hook kills only a user whose count passes the threshold within the window. -/
theorem madviseRatelimitSysEnter_killed_iff {behavior : Int} :
    (madviseRatelimitSysEnter maps reserved delivered pick task behavior now).2.Killed ↔
      isModuleActive maps.stateMap = true ∧ behavior = MADV_DONTNEED ∧ delivered = true ∧
        ∃ state, maps.madviseTrackingMap.lookup task.getGlobalUid = some state ∧
          ¬ now - state.windowStart > RATELIMIT_WINDOW_NS ∧
          (state.count + 1).toUInt64 > RATELIMIT_THRESHOLD := by
  unfold madviseRatelimitSysEnter
  cases isModuleActive maps.stateMap with
  | false => simp
  | true =>
    by_cases hint : behavior = MADV_DONTNEED
    · cases found : maps.madviseTrackingMap.lookup task.getGlobalUid with
      | none => simp [hint, found]
      | some state =>
        by_cases expired : now - state.windowStart > RATELIMIT_WINDOW_NS
        · simp [hint, found, expired]
        · by_cases spam : (state.count + 1).toUInt64 > RATELIMIT_THRESHOLD
          · have within : now - state.windowStart ≤ RATELIMIT_WINDOW_NS :=
              UInt64.not_lt.mp expired
            cases delivered <;>
              simp [-UInt32.toUInt64_add, hint, found, expired, within, spam, Outcome.Killed]
          · simp [-UInt32.toUInt64_add, hint, found, expired, spam]
    · simp [hint]

end Step

end BouclierBleu.MadviseRatelimit.Hook
