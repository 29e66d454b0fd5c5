/- GID: BouclierBleu/Telemetry/Provenance
   source: bpf/*.bpf.c, core/src/actor.rs, modules/src/common/macros.rs,
     modules/src/common/telemetry.rs
   digest: Every event of the alert log goes back to one run of a program that reported it. -/

import BouclierBleu.Daemon.Delivery
import BouclierBleu.Telemetry.LogDecoding
import BouclierBleu.Telemetry.Reporting
import BouclierBleu.Telemetry.StaleData
import Mathlib.Data.List.Forall2

set_option autoImplicit false
set_option relaxedAutoImplicit false

namespace BouclierBleu.Telemetry.Provenance

open BouclierBleu.Daemon.Actor (System Record processEvent isOn records_cases rings_submit_self
  rings_submit_of_ne rings_consume_self rings_consume_of_ne emitted_consume)
open BouclierBleu.Daemon.Delivery (Accounted step_keeps_accounted)
open BouclierBleu.Daemon.Engine (Boot)
open BouclierBleu.Kernel.AlertStructs (Endian)
open BouclierBleu.Kernel.ModuleCore (Outcome)
open BouclierBleu.Library.Trace (Move Run)
open BouclierBleu.Telemetry.AlertLog
  (Call EnvelopedAlert Log TornLast WriteAnswer newline)
open BouclierBleu.Telemetry.LogDecoding
open BouclierBleu.Telemetry.Parsers (Alert)
open BouclierBleu.Telemetry.Reader (Text)
open BouclierBleu.Telemetry.Reporting (Enforced Silent LetThrough)
open BouclierBleu.Telemetry.Totality (Module)

section Order

/-- The records of each module are in the order they were submitted in, those already passed to
the log before those that wait. -/
structure Ordered (s : System) : Prop where
  logged : s.emitted.Pairwise fun r later => r.slug = later.slug → r.serial < later.serial
  waiting : ∀ slug, (s.rings slug).Pairwise fun r later => r.serial < later.serial
  across : ∀ r ∈ s.emitted, ∀ later ∈ s.rings r.slug, r.serial < later.serial

variable {e : Endian} {s t : System}

private theorem Ordered.submit (ordered : Ordered s) (accounted : Accounted s) (slug : String)
    (bytes : List UInt8) : Ordered (s.submit slug bytes) where
  logged := ordered.logged
  waiting := by
    intro other
    by_cases same : other = slug
    · subst same
      rw [rings_submit_self, List.pairwise_append]
      refine ⟨ordered.waiting other, List.pairwise_singleton _ _, ?_⟩
      intro r member later new
      cases List.mem_singleton.mp new
      exact accounted.numbered r (accounted.waiting other r member).2
    · rw [rings_submit_of_ne same]
      exact ordered.waiting other
  across := by
    intro r member later there
    by_cases same : r.slug = slug
    · rw [same, rings_submit_self] at there
      rcases List.mem_append.mp there with old | new
      · exact ordered.across r member later (same ▸ old)
      · cases List.mem_singleton.mp new
        exact accounted.numbered r (accounted.logged r member)
    · rw [rings_submit_of_ne same] at there
      exact ordered.across r member later there

private theorem Ordered.consume (ordered : Ordered s) (accounted : Accounted s) {slug : String}
    {r : Record} {rest : List Record} (oldest : s.rings slug = r :: rest) :
    Ordered (s.consume e slug r rest) := by
  have first := List.pairwise_cons.mp (oldest ▸ ordered.waiting slug)
  have here : r ∈ s.rings slug := oldest ▸ List.mem_cons_self
  have own : r.slug = slug := (accounted.waiting slug r here).1
  have fewer (other : String) : ((s.consume e slug r rest).rings other).Sublist (s.rings other) := by
    by_cases same : other = slug
    · subst same
      rw [rings_consume_self, oldest]
      exact List.sublist_cons_self ..
    · rw [rings_consume_of_ne same]
  have known {x : Record} (member : x ∈ (s.consume e slug r rest).emitted) :
      x ∈ s.emitted ∨ x = r := by
    rw [emitted_consume] at member
    split at member
    · exact (List.mem_append.mp member).imp_right List.mem_singleton.mp
    · exact .inl member
  refine ⟨?_, fun other => (ordered.waiting other).sublist (fewer other), ?_⟩
  · rw [emitted_consume]
    split
    · rw [List.pairwise_append]
      refine ⟨ordered.logged, List.pairwise_singleton _ _, ?_⟩
      intro x member later new same
      cases List.mem_singleton.mp new
      exact ordered.across x member r (same ▸ own ▸ here)
    · exact ordered.logged
  · intro x member later there
    rcases known member with old | rfl
    · exact ordered.across x old later ((fewer _).subset there)
    · rw [own, rings_consume_self] at there
      exact first.1 later there

theorem step_keeps_ordered (event : Daemon.Actor.Event) (taken : Daemon.Actor.Step e s event t)
    (accounted : Accounted s) (ordered : Ordered s) : Ordered t := by
  rcases records_cases taken with ⟨⟨rings, _, emitted⟩, _⟩ | ⟨slug, bytes, rfl, rfl⟩ |
    ⟨slug, r, rest, rfl, oldest, rfl⟩
  · refine ⟨emitted ▸ ordered.logged, rings ▸ ordered.waiting, ?_⟩
    rw [emitted, rings]
    exact ordered.across
  · exact ordered.submit accounted slug bytes
  · exact ordered.consume accounted oldest

end Order

/-- One run of a program that finds room for a record. -/
structure Execution where
  maps : Programs.Maps
  prior : Programs.Prior
  event : Programs.Event

namespace Execution

variable (e : Endian) (x : Execution)

def outcome : Outcome (List UInt8) := (Programs.run e x.maps true x.prior x.event).2

/-- What there is to report: the operation is refused or its caller killed, or it is let through
for want of means. -/
def Deed : Prop :=
  Enforced (x.outcome e) ∧ ¬ Silent x.event ∨
    LetThrough x.maps x.event ∧ ¬ Enforced (x.outcome e)

variable {e x}

/-- A run submits nothing without a deed, and no more than one record for it. -/
theorem deed_of_record {bytes : List UInt8} (submits : bytes ∈ (x.outcome e).alerts) :
    (x.outcome e).alerts = [bytes] ∧ x.Deed e := by
  have some_ : (x.outcome e).alerts ≠ [] := List.ne_nil_of_mem submits
  by_cases silent : Silent x.event
  · exact absurd (Reporting.run_silent true e x.maps x.prior silent).1 some_
  · have honest := Reporting.run_candid true e x.maps x.prior silent
    refine ⟨?_, ?_⟩
    · obtain ⟨only, shape⟩ := List.length_eq_one_iff.mp
        (Nat.le_antisymm honest.candid.single (List.length_pos_iff.mpr some_))
      have shape : (x.outcome e).alerts = [only] := shape
      rw [shape, List.mem_singleton] at submits
      rw [shape, submits]
    · rcases (honest.candid.reported.mp some_).2 with enforced | passed
      · exact .inl ⟨enforced, silent⟩
      · exact .inr ⟨passed, honest.passes passed⟩

end Execution

/-- The techniques each module names in its declaration. -/
def mitreTags : Module → List Text
  | .execBlock => ["T1620".toList, "T1027.002".toList]
  | .renameEntropy => ["T1486".toList]
  | .shield => ["T1562.001".toList, "T1014".toList, "T082".toList]
  | .mountSecure =>
    ["T1200".toList, "T1548.001".toList, "T1204.002".toList, "T1068".toList, "T1091".toList]
  | .strictWx => ["T1055".toList, "T1620".toList, "T1027.002".toList]
  | .ptraceBlock => ["T1055.008".toList, "T1003.007".toList, "T1068".toList]
  | .dumpRestrict => ["T1003".toList, "T1068".toList]
  | .usernsRestrict => ["T1611".toList, "T1068".toList, "T1610".toList, "T1612".toList]
  | .madviseRatelimit => ["T1068".toList]
  | .ioRestrict => ["T1486".toList, "T1068".toList]

/-- What `emit_siem_event` meets with: the time, the lock of the sink and the answers of the
disk. -/
structure Circumstances where
  timestampMs : Nat
  locked : Bool
  answers : List WriteAnswer

/-- The call `process_event` makes for an alert. -/
def emitCall (m : Module) (alert : Alert) (c : Circumstances) : Call :=
  ⟨c.timestampMs, m.slug.toList, mitreTags m, alert, c.locked, c.answers⟩

/-- The daemon beside the programs and the alert log. `executions` tells for each record which
run submitted it, and `reports` for which records `emit_siem_event` was called. -/
structure Trail where
  system : System
  executions : Nat → Option Execution
  reports : List (Record × Call)

namespace Trail

def start (b : Boot) : Trail := ⟨.start b, fun _ => none, []⟩

def log (t : Trail) : Log := AlertLog.run (t.reports.map Prod.snd)

def submit (t : Trail) (x : Execution) (bytes : List UInt8) : Trail :=
  { t with
    system := t.system.submit x.event.module.slug bytes
    executions := Function.update t.executions t.system.submitted.length (some x) }

/-- The poll hands a record to `process_event`, which has an alert to pass on. -/
def read (e : Endian) (t : Trail) (slug : String) (r : Record) (rest : List Record)
    (call : Call) : Trail :=
  { t with
    system := t.system.consume e slug r rest
    reports := t.reports ++ [(r, call)] }

end Trail

inductive Event
  | submit (x : Execution)
  | read (r : Record)
  | skip (r : Record)
  | act (event : Daemon.Actor.Event)

/-- What is submitted comes from the programs; the daemon and its clients do as they please. -/
inductive Step (e : Endian) : Trail → Event → Trail → Prop
  | submit {t : Trail} {x : Execution} {bytes : List UInt8}
      (running : x.event.module.slug ∈ t.system.hooks)
      (submits : bytes ∈ (x.outcome e).alerts) : Step e t (.submit x) (t.submit x bytes)
  | read {t : Trail} {due : Nat} {slug : String} {r : Record} {rest : List Record} {m : Module}
      {alert : Alert} (c : Circumstances) (here : t.system.actor = .polling due)
      (oldest : t.system.rings slug = r :: rest) (module : Daemon.Actor.moduleOf r.slug = some m)
      (processed : processEvent e t.system.daemon r = some alert) :
      Step e t (.read r) (t.read e slug r rest (emitCall m alert c))
  | skip {t : Trail} {due : Nat} {slug : String} {r : Record} {rest : List Record}
      (here : t.system.actor = .polling due) (oldest : t.system.rings slug = r :: rest)
      (ignored : processEvent e t.system.daemon r = none) :
      Step e t (.skip r) { t with system := t.system.consume e slug r rest }
  | act {t : Trail} {event : Daemon.Actor.Event} {s : System}
      (taken : Daemon.Actor.Step e t.system event s) (unread : ∀ slug, event ≠ .consume slug)
      (unsubmitted : ∀ slug bytes, event ≠ .submit slug bytes) :
      Step e t (.act event) { t with system := s }

section Steps

variable {e : Endian} {t u : Trail}

/-- Each step is one of the daemon, its clients and the programs. -/
theorem exists_act {event : Event} (taken : Step e t event u) :
    ∃ act, Daemon.Actor.Step e t.system act u.system := by
  cases taken with
  | submit running submits => exact ⟨_, .submit _ running⟩
  | read c here oldest module processed => exact ⟨_, .consume here oldest⟩
  | skip here oldest ignored => exact ⟨_, .consume here oldest⟩
  | act taken unread unsubmitted => exact ⟨_, taken⟩

/-- The record is the one that some run of its module's programs submits. -/
def Comes (e : Endian) (executions : Nat → Option Execution) (r : Record) : Prop :=
  ∃ x, executions r.serial = some x ∧ r.slug = x.event.module.slug ∧
    r.bytes ∈ (x.outcome e).alerts

/-- The call is that of the record's module for the alert its parser finds in the record. -/
def Conveys (e : Endian) (report : Record × Call) : Prop :=
  ∃ m alert c, Daemon.Actor.moduleOf report.1.slug = some m ∧
    m.tryFromBytes e report.1.bytes = .ok alert ∧ report.2 = emitCall m alert c

private theorem parse_of_processed {d : Daemon.Engine.DaemonState} {r : Record} {alert : Alert}
    (processed : processEvent e d r = some alert) : r.parse e = .ok alert := by
  unfold processEvent at processed
  split at processed
  · cases parsed : r.parse e with
    | ok found =>
      rw [parsed] at processed
      exact congrArg Except.ok (Option.some.inj processed)
    | error _ =>
      rw [parsed] at processed
      cases processed
  · cases processed

structure Kept (e : Endian) (t : Trail) : Prop where
  accounted : Accounted t.system
  ordered : Ordered t.system
  comes : ∀ r ∈ t.system.submitted, Comes e t.executions r
  emitted : t.system.emitted = t.reports.map Prod.fst
  conveys : ∀ report ∈ t.reports, Conveys e report

theorem step_keeps_kept {event : Event} (taken : Step e t event u) (kept : Kept e t) :
    Kept e u := by
  obtain ⟨act, acted⟩ := exists_act taken
  have accounted := step_keeps_accounted act acted kept.accounted
  have ordered := step_keeps_ordered act acted kept.accounted kept.ordered
  cases taken with
  | @submit x bytes running submits =>
    refine ⟨accounted, ordered, ?_, kept.emitted, kept.conveys⟩
    intro r member
    rcases List.mem_append.mp member with old | new
    · obtain ⟨y, found, own, reported⟩ := kept.comes r old
      have apart : r.serial ≠ t.system.submitted.length :=
        Nat.ne_of_lt (kept.accounted.numbered r old)
      exact ⟨y, (Function.update_of_ne apart ..).trans found, own, reported⟩
    · cases List.mem_singleton.mp new
      exact ⟨x, Function.update_self .., rfl, submits⟩
  | @read due slug r rest m alert c here oldest module processed =>
    refine ⟨accounted, ordered, kept.comes, ?_, ?_⟩
    · change (t.system.consume e slug r rest).emitted = (t.reports ++ [(r, _)]).map Prod.fst
      rw [emitted_consume, processed, Option.isSome_some, if_pos rfl, kept.emitted,
        List.map_append]
      rfl
    · intro report member
      rcases List.mem_append.mp member with old | new
      · exact kept.conveys report old
      · cases List.mem_singleton.mp new
        refine ⟨m, alert, c, module, ?_, rfl⟩
        have parsed := parse_of_processed processed
        rw [Record.parse, module] at parsed
        exact parsed
  | @skip due slug r rest here oldest ignored =>
    refine ⟨accounted, ordered, kept.comes, ?_, kept.conveys⟩
    change (t.system.consume e slug r rest).emitted = t.reports.map Prod.fst
    rw [emitted_consume, ignored, Option.isSome_none, if_neg Bool.false_ne_true, kept.emitted]
  | @act event s taken unread unsubmitted =>
    rcases records_cases taken with ⟨⟨_, submitted, emitted⟩, _⟩ | ⟨slug, bytes, event, _⟩ |
      ⟨slug, _, _, event, _⟩
    · exact ⟨accounted, ordered, submitted ▸ kept.comes, emitted.trans kept.emitted, kept.conveys⟩
    · exact absurd event (unsubmitted slug bytes)
    · exact absurd event (unread slug)

end Steps

section Runs

variable {e : Endian} {b : Boot} {t : Trail} {moves : List (Move Trail Event)}

private theorem kept_start (b : Boot) : Kept e (Trail.start b) where
  accounted := Daemon.Delivery.accounted_start b
  ordered := ⟨.nil, fun _ => .nil, nofun⟩
  comes := nofun
  emitted := rfl
  conveys := nofun

/-- The events whose lines are whole, with the records they were emitted for. -/
def Trail.whole (t : Trail) : List (Record × Call) := t.reports.filter fun report => report.2.Whole

/-- An event of the log and the record it was emitted for: one run of a program submitted the
record, and no other with it, since there was a deed to report; and the event shows what the
module's parser finds in the record, under the names of the module and its techniques. -/
def Accounts (e : Endian) (t : Trail) (event : Option EnvelopedAlert) (r : Record) : Prop :=
  ∃ x alert timestampMs, t.executions r.serial = some x ∧ (x.outcome e).alerts = [r.bytes] ∧
    x.Deed e ∧ x.event.module.tryFromBytes e r.bytes = .ok alert ∧
      event = some ⟨timestampMs, x.event.module.slug.toList, mitreTags x.event.module, alert⟩

private theorem moduleOf_slug (m : Module) : Daemon.Actor.moduleOf m.slug = some m := by
  cases m <;> decide

/-- A parser makes alerts of its own module only. -/
private theorem source_of_parsed {m : Module} {data : List UInt8} {alert : Alert}
    (parsed : m.tryFromBytes e data = .ok alert) : source alert = m := by
  have enough := (Totality.tryFromBytes_ok_iff e m data).mp ⟨alert, parsed⟩
  cases parsed.symm.trans (Totality.tryFromBytes_of_enough e enough)
  cases m <;> rfl

private theorem Kept.accounts (kept : Kept e t) {report : Record × Call}
    (member : report ∈ t.reports) : Accounts e t (decodeLine report.2.json) report.1 := by
  obtain ⟨m, alert, c, module, parsed, emitted⟩ := kept.conveys report member
  have logged : report.1 ∈ t.system.emitted := kept.emitted ▸ List.mem_map_of_mem member
  obtain ⟨x, found, own, submits⟩ := kept.comes _ (kept.accounted.logged _ logged)
  obtain ⟨only, deed⟩ := Execution.deed_of_record submits
  have same : x.event.module = m := by
    rw [own, moduleOf_slug] at module
    exact Option.some.inj module
  refine ⟨x, alert, c.timestampMs, found, only, deed, same ▸ parsed, ?_⟩
  have own : Own (envelope report.2) := by
    rw [emitted]
    change m.slug.toList = (source alert).slug.toList
    rw [source_of_parsed parsed]
  have line : decodeLine report.2.json = some (envelope report.2) := decodeLine_toString own
  rw [line, same, emitted]
  rfl

section Sample

/-- The module is enabled. -/
def sentryBoot : Boot where
  modules := fun _ => some true
  loads := fun name => name == "userns_restrict"
  updates := fun _ => true
  inits := fun _ => none
  order := ["userns_restrict"]
  order_perm := by decide

/-- A user asks for a namespace. -/
def unshareRun : Execution where
  maps := StaleData.sampleMaps
  prior := StaleData.leaving 0
  event := .usernsRestrictCreate ⟨⟨0x6400000064, 1000, none⟩, 1000, 1000⟩

def unshareRecord : List UInt8 := (unshareRun.outcome .little).alerts.head?.getD []

private theorem alerts_unshareRun : (unshareRun.outcome .little).alerts = [unshareRecord] := rfl

private theorem length_unshareRecord : unshareRecord.length = 72 := by
  have zeroed (a : Kernel.AlertStructs.UsernsAlert) (record : List UInt8)
      (sized : record.length = 72) : (Records.usernsRecord .little record a).length = 72 := by
    have whole := Records.recordOf_of_zeroes .little (a := .usernsRestrict a) rfl sized
    exact (congrArg List.length whole).trans (Records.length_bytes .little (.usernsRestrict a))
  exact zeroed _ _ ((StaleData.leaving 0).length_record .usernsRestrict)

private theorem processed_unshareRecord {d : Daemon.Engine.DaemonState}
    (on : isOn d "userns_restrict" = true) :
    ∃ alert, processEvent .little d ⟨"userns_restrict", 0, unshareRecord⟩ = some alert := by
  refine Option.isSome_iff_exists.mp ?_
  rw [Daemon.Delivery.processEvent_isSome_iff, Daemon.Delivery.parses_iff]
  exact ⟨on, .usernsRestrict, moduleOf_slug .usernsRestrict, length_unshareRecord.ge⟩

/-- A disk that takes everything stores the whole line. -/
private theorem whole_of_room (m : Module) (alert : Alert) :
    (emitCall m alert ⟨0, true, []⟩).Whole := by
  have all (size : Nat) : AlertLog.taken [] size = (some [], size) := by
    cases size <;> rfl
  have stored (json : List UInt8) : AlertLog.takenLine [] json.length = json.length + 1 := by
    rw [AlertLog.takenLine, all]
    rfl
  exact Nat.lt_of_lt_of_eq (Nat.lt_succ_self _) (stored _).symm

def guardedTrail : Trail :=
  { Trail.start sentryBoot with
    system := { System.start sentryBoot with hooks := ["userns_restrict"] } }

/-- The hook has denied the namespace, and the poll begins. -/
def deniedTrail : Trail :=
  { guardedTrail.submit unshareRun unshareRecord with
    system := { (guardedTrail.submit unshareRun unshareRecord).system with actor := .polling 1 } }

def reportedTrail (alert : Alert) : Trail :=
  deniedTrail.read .little "userns_restrict" ⟨"userns_restrict", 0, unshareRecord⟩ []
    (emitCall .usernsRestrict alert ⟨0, true, []⟩)

end Sample

end Runs

end BouclierBleu.Telemetry.Provenance
