/- GID: BouclierBleu/Eradication/Evidence
   source: bpf/rename_entropy.bpf.c, modules/src/rename_entropy.rs, modules/src/common/macros.rs
   digest: Every eradication rests on three renames for which the kernel has killed a process. -/

import BouclierBleu.Daemon.Actor
import BouclierBleu.Eradication.Pruning
import BouclierBleu.Telemetry.Records
import BouclierBleu.Watchlist.RenameEntropy

set_option autoImplicit false
set_option relaxedAutoImplicit false

namespace BouclierBleu.Eradication.Evidence

open BouclierBleu.Daemon.Actor (System Record processEvent isOn records_cases rings_submit_self
  rings_submit_of_ne rings_consume_self rings_consume_of_ne)
open BouclierBleu.Daemon.Engine (Boot DaemonState boot)
open BouclierBleu.Eradication.Pruning (Justified step_keeps_justified)
open BouclierBleu.Eradication.Strikes
open BouclierBleu.Kernel
open BouclierBleu.Kernel.AlertStructs (Endian RenameAlert)
open BouclierBleu.Kernel.ModuleCore (Outcome Task CStr isModuleActive EPERM SIGKILL)
open BouclierBleu.Kernel.VfsHelpers
  (Dentry extractDirIdFromDentry dentryOf protectedDirsType protectedDirsMax_pos)
open BouclierBleu.Library.Trace (Move Run)
open BouclierBleu.Telemetry.Parsers (Alert)
open BouclierBleu.Telemetry.Records (recordSize renameRecord renameRecord_decoded shown)
open BouclierBleu.Watchlist.RenameEntropy

def slug : String := "rename_entropy"

/-- A rename as the hook sees it. -/
structure Rename where
  maps : Maps
  task : Task
  ppid : UInt32
  resolved : Option (List UInt8)
  oldDir : Dentry
  newDir : Dentry
  newName : Qstr

/-- The hook, with what the reserved record held before, if one was reserved. -/
def Rename.outcome (r : Rename) (record : Option (List UInt8)) : Outcome RenameAlert :=
  renameEntropyPathRename r.maps record r.task r.ppid r.resolved r.oldDir r.newDir r.newName

/-- What the hook reports of a rename. -/
def Rename.alert (r : Rename) (record : List UInt8) : RenameAlert where
  pid := r.task.tgid
  ppid := r.ppid
  dirPath := dirPath record r.resolved
  fileName := .copy 256 CStr.nameLen_pos r.newName.name

/-- The rename fails and its process is killed, reported or not. -/
def Rename.Blocked (r : Rename) : Prop :=
  ∀ record, (r.outcome record).Denied ∧ (r.outcome record).Killed

/-- An alert the handler has dealt with, by the number of its record. -/
structure Report where
  serial : Nat
  handled : Handled

/-- The daemon beside the kernel hook, with the strike tracker. `renames` tells for each record
which rename submitted it, and `reports`, newest first, what was handled; nothing reads them. -/
structure Campaign where
  system : System
  strikes : State
  renames : Nat → Option Rename
  reports : List Report

def Campaign.start (b : Boot) : Campaign := ⟨.start b, .start, fun _ => none, []⟩

/-- A running hook of the module blocks a rename and submits its alert. -/
def Campaign.rename (e : Endian) (c : Campaign) (r : Rename) (junk : List UInt8)
    (alert : RenameAlert) : Campaign :=
  { c with
    system := c.system.submit slug (renameRecord e junk r.resolved.isSome alert)
    renames := Function.update c.renames c.system.submitted.length (some r) }

/-- The poll hands an alert to the handler. -/
def Campaign.read (e : Endian) (c : Campaign) (r : Record) (rest : List Record)
    (arrival : Arrival) : Campaign :=
  { c with
    system := c.system.consume e slug r rest
    strikes := c.strikes.after handler arrival
    reports := ⟨r.serial, ⟨arrival.alert.ppid, arrival.now,
      (handler c.strikes.tracker arrival).2.isSome⟩⟩ :: c.reports }

inductive Event
  | rename (r : Rename)
  | read (arrival : Arrival)
  | skip
  | act (event : Daemon.Actor.Event)

/-- The daemon, its clients and the other hooks do as they please. -/
inductive Step (e : Endian) : Campaign → Event → Campaign → Prop
  | rename {c : Campaign} {r : Rename} {junk : List UInt8} {alert : RenameAlert}
      (running : slug ∈ c.system.hooks) (sized : junk.length = recordSize .renameEntropy)
      (reported : alert ∈ (r.outcome (some (junk.drop 8))).alerts) :
      Step e c (.rename r) (c.rename e r junk alert)
  | read {c : Campaign} {due : Nat} {r : Record} {rest : List Record} {arrival : Arrival}
      (here : c.system.actor = .polling due) (oldest : c.system.rings slug = r :: rest)
      (parsed : processEvent e c.system.daemon r = some (.renameEntropy arrival.alert))
      (later : c.strikes.clock ≤ arrival.now) :
      Step e c (.read arrival) (c.read e r rest arrival)
  | skip {c : Campaign} {due : Nat} {r : Record} {rest : List Record}
      (here : c.system.actor = .polling due) (oldest : c.system.rings slug = r :: rest)
      (ignored : processEvent e c.system.daemon r = none) :
      Step e c .skip { c with system := c.system.consume e slug r rest }
  | act {c : Campaign} {event : Daemon.Actor.Event} {t : System}
      (taken : Daemon.Actor.Step e c.system event t) (unread : event ≠ .consume slug)
      (unsubmitted : ∀ bytes, event ≠ .submit slug bytes) :
      Step e c (.act event) { c with system := t }

/-- The reports on a parent since its last eradication, newest first. -/
def sinceReports (reports : List Report) (ppid : UInt32) : List Report :=
  (reports.filter fun r => r.handled.ppid = ppid).takeWhile fun r => !r.handled.eradicated

theorem sinceReports_instants (reports : List Report) (ppid : UInt32) :
    (sinceReports reports ppid).map (fun r => r.handled.instant) =
      sinceEradication (reports.map Report.handled) ppid := by
  rw [sinceEradication, sinceReports, List.filter_map, List.takeWhile_map, List.map_map]
  rfl

section Hook

private theorem cases_of_guard {c : Prop} [Decidable c]
    {rest blocked : Option (List UInt8) → Outcome RenameAlert}
    (cases : (∀ record, rest record = .quiet 0) ∨ ∀ record, rest record = blocked record) :
    (∀ record, (if c then .quiet 0 else rest record) = .quiet 0) ∨
      ∀ record, (if c then .quiet 0 else rest record) = blocked record := by
  by_cases met : c
  · exact .inl fun record => if_pos met
  · simpa only [if_neg met] using cases

variable (r : Rename)

/-- The hook lets a rename pass, or blocks and reports it, whatever there is to report it in. -/
theorem outcome_cases :
    (∀ record, r.outcome record = .quiet 0) ∨
      ∀ record, r.outcome record = ⟨-EPERM, (record.map r.alert).toList, [SIGKILL]⟩ := by
  unfold Rename.outcome renameEntropyPathRename
  -- The module is off, has no scratch space, or finds a rename outside, a short or a listed name.
  refine cases_of_guard (cases_of_guard (cases_of_guard (cases_of_guard (cases_of_guard ?_))))
  by_cases high : hScaled (.copy 256 CStr.nameLen_pos r.newName.name)
      (if r.newName.len > 255 then 255 else r.newName.len.toNat) > ENTROPY_THRESHOLD_SCALED
  · right
    intro record
    refine (if_pos high).trans ?_
    cases record <;> rfl
  · exact .inl fun record => if_neg high

variable {r} {record : List UInt8}

/-- Only a rename that is blocked is reported, with the parent of its process. -/
theorem blocked_of_alert {alert : RenameAlert}
    (reported : alert ∈ (r.outcome (some record)).alerts) : r.Blocked ∧ alert = r.alert record := by
  rcases outcome_cases r with quiet | blocks
  · rw [quiet] at reported
    cases reported
  · rw [blocks] at reported
    refine ⟨?_, List.mem_singleton.mp reported⟩
    intro record
    rw [blocks]
    exact ⟨(by decide : -EPERM < 0), List.mem_singleton_self _⟩

/-- A rename that is blocked is reported if there is a record for it. -/
theorem alert_of_denied (denied : (r.outcome none).Denied) :
    r.alert record ∈ (r.outcome (some record)).alerts := by
  rcases outcome_cases r with quiet | blocks
  · rw [quiet] at denied
    cases denied
  · rw [blocks]
    exact List.mem_singleton_self _

end Hook

/-- A record of the module, as the hook has filled it for a rename. -/
def Comes (e : Endian) (renames : Nat → Option Rename) (r : Record) : Prop :=
  r.slug = slug ∧ ∃ rename junk alert, renames r.serial = some rename ∧
    junk.length = recordSize .renameEntropy ∧
      alert ∈ (rename.outcome (some (junk.drop 8))).alerts ∧
        r.bytes = renameRecord e junk rename.resolved.isSome alert

/-- The numbers of the records, first those that were handled, then those that wait. -/
def serials (c : Campaign) : List Nat :=
  (c.reports.map Report.serial).reverse ++ (c.system.rings slug).map Record.serial

/-- What the daemon holds against a parent is what the kernel has blocked, in that order. -/
structure Backed (e : Endian) (c : Campaign) : Prop where
  queued : ∀ r ∈ c.system.rings slug, Comes e c.renames r
  ordered : (serials c).Pairwise (· < ·)
  known : ∀ n ∈ serials c, n < c.system.submitted.length
  reported : ∀ report ∈ c.reports, ∃ rename, c.renames report.serial = some rename ∧
    rename.ppid = report.handled.ppid ∧ rename.Blocked
  log : c.strikes.log = c.reports.map Report.handled
  justified : Sound c.strikes ∧ Justified c.strikes.log

section Steps

variable {e : Endian} {c d : Campaign}

/-- The parser finds in the record the parent of the process that was killed. -/
private theorem Comes.parse {renames : Nat → Option Rename} {r : Record}
    (comes : Comes e renames r) : ∃ rename alert, renames r.serial = some rename ∧
      rename.Blocked ∧ r.parse e = .ok (.renameEntropy alert) ∧ alert.ppid = rename.ppid := by
  obtain ⟨own, rename, junk, alert, found, sized, reported, bytes⟩ := comes
  obtain ⟨blocked, rfl⟩ := blocked_of_alert reported
  have module : Daemon.Actor.moduleOf slug = some .renameEntropy := by decide
  have decoded := renameRecord_decoded e sized rename.resolved.isSome (rename.alert (junk.drop 8))
  have read : r.parse e = Telemetry.Totality.Module.renameEntropy.tryFromBytes e r.bytes := by
    rw [Record.parse, own, module]
  rw [bytes, decoded] at read
  exact ⟨rename, _, found, blocked, read, rfl⟩

private theorem Backed.rename (backed : Backed e c) {r : Rename} {junk : List UInt8}
    {alert : RenameAlert} (sized : junk.length = recordSize .renameEntropy)
    (reported : alert ∈ (r.outcome (some (junk.drop 8))).alerts) :
    Backed e (c.rename e r junk alert) := by
  have grown : serials (c.rename e r junk alert) = serials c ++ [c.system.submitted.length] := by
    rw [serials, Campaign.rename, rings_submit_self, List.map_append, ← List.append_assoc]
    rfl
  have longer : (c.rename e r junk alert).system.submitted.length =
      c.system.submitted.length + 1 := List.length_append
  have kept {n : Nat} (old : n < c.system.submitted.length) :
      (c.rename e r junk alert).renames n = c.renames n :=
    Function.update_of_ne (Nat.ne_of_lt old) ..
  refine ⟨?_, ?_, ?_, ?_, backed.log, backed.justified⟩
  · intro record member
    rw [Campaign.rename, rings_submit_self] at member
    rcases List.mem_append.mp member with old | new
    · have before : record.serial < c.system.submitted.length :=
        backed.known _ (List.mem_append_right _ (List.mem_map_of_mem old))
      rw [Comes, kept before]
      exact backed.queued record old
    · cases List.mem_singleton.mp new
      exact ⟨rfl, r, junk, alert, Function.update_self .., sized, reported, rfl⟩
  · rw [grown, List.pairwise_append]
    refine ⟨backed.ordered, List.pairwise_singleton _ _, ?_⟩
    intro n member last own
    rw [List.mem_singleton.mp own]
    exact backed.known n member
  · rw [grown, longer]
    intro n member
    rcases List.mem_append.mp member with old | new
    · exact Nat.lt_succ_of_lt (backed.known n old)
    · rw [List.mem_singleton.mp new]
      exact Nat.lt_succ_self _
  · intro report member
    have before : report.serial < c.system.submitted.length :=
      backed.known _ (List.mem_append_left _ (List.mem_reverse.mpr (List.mem_map_of_mem member)))
    rw [kept before]
    exact backed.reported report member

private theorem Backed.read (backed : Backed e c) {r : Record} {rest : List Record}
    {arrival : Arrival} (oldest : c.system.rings slug = r :: rest)
    (parsed : processEvent e c.system.daemon r = some (.renameEntropy arrival.alert))
    (later : c.strikes.clock ≤ arrival.now) : Backed e (c.read e r rest arrival) := by
  have here : r ∈ c.system.rings slug := oldest ▸ List.mem_cons_self
  have same : serials (c.read e r rest arrival) = serials c := by
    rw [serials, serials, Campaign.read, rings_consume_self, oldest, List.map_cons, List.map_cons,
      List.reverse_cons, List.append_assoc]
    rfl
  obtain ⟨rename, alert, found, blocked, read, parent⟩ := (backed.queued r here).parse
  have own : alert = arrival.alert := by
    rw [processEvent, read] at parsed
    split at parsed
    · cases parsed
      rfl
    · cases parsed
  refine ⟨?_, same ▸ backed.ordered, same ▸ backed.known, ?_, ?_, ?_⟩
  · intro record member
    rw [Campaign.read, rings_consume_self] at member
    exact backed.queued record (oldest ▸ List.mem_cons_of_mem _ member)
  · intro report member
    rcases List.mem_cons.mp member with rfl | old
    · exact ⟨rename, found, own ▸ parent.symm, blocked⟩
    · exact backed.reported report old
  · change _ :: c.strikes.log = _
    rw [backed.log]
    rfl
  · exact step_keeps_justified (.handle later) backed.justified

private theorem Backed.skip (backed : Backed e c) {r : Record} {rest : List Record}
    (oldest : c.system.rings slug = r :: rest) :
    Backed e { c with system := c.system.consume e slug r rest } := by
  have fewer : (serials { c with system := c.system.consume e slug r rest }).Sublist
      (serials c) := by
    rw [serials, serials, rings_consume_self, oldest, List.map_cons]
    exact (List.Sublist.refl _).append (List.sublist_cons_self _ _)
  refine ⟨?_, backed.ordered.sublist fewer, fun n member => backed.known n (fewer.subset member),
    backed.reported, backed.log, backed.justified⟩
  intro record member
  rw [rings_consume_self] at member
  exact backed.queued record (oldest ▸ List.mem_cons_of_mem _ member)

/-- The others leave the records of the module alone. -/
private theorem Backed.act (backed : Backed e c) {event : Daemon.Actor.Event} {t : System}
    (taken : Daemon.Actor.Step e c.system event t) (unread : event ≠ .consume slug)
    (unsubmitted : ∀ bytes, event ≠ .submit slug bytes) : Backed e { c with system := t } := by
  have frame : t.rings slug = c.system.rings slug ∧
      c.system.submitted.length ≤ t.submitted.length := by
    rcases records_cases taken with ⟨⟨rings, submitted, _⟩, _⟩ | ⟨other, bytes, rfl, rfl⟩ |
      ⟨other, r, rest, rfl, _, rfl⟩
    · rw [rings, submitted]
      exact ⟨rfl, Nat.le_refl _⟩
    · have apart : slug ≠ other := fun same => unsubmitted bytes (same ▸ rfl)
      have longer : (c.system.submit other bytes).submitted.length =
          c.system.submitted.length + 1 := List.length_append
      exact ⟨rings_submit_of_ne apart, longer ▸ Nat.le_succ _⟩
    · have apart : slug ≠ other := fun same => unread (same ▸ rfl)
      exact ⟨rings_consume_of_ne apart, Nat.le_refl _⟩
  have same : serials { c with system := t } = serials c := by
    rw [serials, serials, frame.1]
  refine ⟨?_, same ▸ backed.ordered, ?_, backed.reported, backed.log, backed.justified⟩
  · rw [frame.1]
    exact backed.queued
  · rw [same]
    exact fun n member => Nat.lt_of_lt_of_le (backed.known n member) frame.2

theorem step_keeps_backed {event : Event} (taken : Step e c event d) (backed : Backed e c) :
    Backed e d := by
  cases taken with
  | rename running sized reported => exact backed.rename sized reported
  | read here oldest parsed later => exact backed.read oldest parsed later
  | skip here oldest ignored => exact backed.skip oldest
  | act taken unread unsubmitted => exact backed.act taken unread unsubmitted

private theorem backed_start (b : Boot) : Backed e (Campaign.start b) := by
  refine ⟨nofun, List.Pairwise.nil, nofun, nofun, rfl, sound_start, ?_⟩
  intro later h earlier shape
  cases later <;> cases shape

end Steps

section Runs

variable {e : Endian} {b : Boot} {c : Campaign} {moves : List (Move Campaign Event)}

private theorem sinceReports_sublist (reports : List Report) (ppid : UInt32) :
    (sinceReports reports ppid).Sublist reports :=
  (List.takeWhile_sublist _).trans List.filter_sublist

private theorem ppid_of_sinceReports {reports : List Report} {ppid : UInt32} {r : Report}
    (member : r ∈ sinceReports reports ppid) : r.handled.ppid = ppid := by
  have own := (List.takeWhile_sublist _).subset member
  exact of_decide_eq_true (List.mem_filter.mp own).2

/-- Two reports that make a third one count, out of a log that justifies it. -/
private theorem exists_evidence {later earlier : List Report} {report : Report}
    (justified : Justified ((later ++ report :: earlier).map Report.handled))
    (eradicated : report.handled.eradicated = true) :
    ∃ evidence : List Report,
      evidence.Sublist (sinceReports earlier report.handled.ppid) ∧ evidence.length = 2 ∧
        ∀ r ∈ evidence, report.handled.instant ≤ r.handled.instant + fromSecs 2 := by
  let close (r : Report) : Bool :=
    report.handled.instant ≤ r.handled.instant + fromSecs 2
  have two := justified (later.map Report.handled) report.handled (earlier.map Report.handled)
    List.map_append eradicated
  rw [← sinceReports_instants, List.countP_map] at two
  have many : 2 ≤ ((sinceReports earlier report.handled.ppid).filter close).length := by
    rw [← List.countP_eq_length_filter]
    exact two
  refine ⟨((sinceReports earlier report.handled.ppid).filter close).take 2, ?_, ?_, ?_⟩
  · exact (List.take_sublist ..).trans List.filter_sublist
  · exact List.length_take_of_le many
  · intro r member
    have near := List.mem_of_mem_take member
    exact of_decide_eq_true (List.mem_filter.mp near).2

/-- In every run of the kernel hook and the daemon, whatever the other hooks and the clients do:
an eradication rests on three renames of children of its target, which the kernel has blocked in
that order and killed the children for, reported within two seconds and since the last
eradication of the same parent. -/
theorem eradications_rest_on_renames (run : Run (Step e) (Campaign.start b) moves c)
    {later earlier : List Report} {report : Report} (shape : c.reports = later ++ report :: earlier)
    (eradicated : report.handled.eradicated = true) :
    ∃ evidence : List Report,
      evidence.Sublist (sinceReports earlier report.handled.ppid) ∧ evidence.length = 2 ∧
        ((report :: evidence).map Report.serial).Pairwise (· > ·) ∧
          ∀ r ∈ report :: evidence, report.handled.instant ≤ r.handled.instant + fromSecs 2 ∧
            ∃ rename, c.renames r.serial = some rename ∧
              rename.ppid = report.handled.ppid ∧ rename.Blocked := by
  have backed : Backed e c :=
    run.invariant (fun _ _ _ taken => step_keeps_backed taken) (backed_start b)
  have justified : Justified ((later ++ report :: earlier).map Report.handled) := by
    rw [← shape, ← backed.log]
    exact backed.justified.2
  obtain ⟨evidence, since, two, close⟩ := exists_evidence justified eradicated
  have part : (report :: evidence).Sublist c.reports := by
    rw [shape]
    exact ((since.trans (sinceReports_sublist ..)).cons_cons report).trans
      (List.sublist_append_right ..)
  have falling : (c.reports.map Report.serial).Pairwise (· > ·) :=
    List.pairwise_reverse.mp (List.pairwise_append.mp backed.ordered).1
  refine ⟨evidence, since, two, falling.sublist (part.map _), ?_⟩
  intro r member
  obtain ⟨rename, found, parent, blocked⟩ := backed.reported r (part.subset member)
  rcases List.mem_cons.mp member with rfl | other
  · exact ⟨Nat.le_add_right _ _, rename, found, parent, blocked⟩
  · rw [ppid_of_sinceReports (since.subset other)] at parent
    exact ⟨close r other, rename, found, parent, blocked⟩

section Sample

/-- The module is enabled and watches one directory. -/
def monitorBoot : Boot where
  modules := fun _ => some true
  loads := fun name => name == slug
  updates := fun _ => true
  inits := fun _ => none
  order := [slug]
  order_perm := by decide

/-- A worker of process 1 gives a file of that directory a random name. -/
def lockingRename : Rename where
  maps := ⟨some 1, .single protectedDirsType 8192 protectedDirsMax_pos ⟨7, 1⟩ 1, true⟩
  task := ⟨0, 1000, none⟩
  ppid := 1
  resolved := some (CStr.literal "/home")
  oldDir := dentryOf ⟨7, 1⟩
  newDir := dentryOf ⟨7, 1⟩
  newName := randomName

def emptyRecord : List UInt8 := List.replicate 4360 0

def lockingAlert : RenameAlert := lockingRename.alert (emptyRecord.drop 8)

/-- What the handler is given of it. -/
def lockingArrival (now : Nat) : Arrival where
  alert := ⟨0, 1, Telemetry.Parsers.joinPath (shown lockingAlert.dirPath)
    (shown lockingAlert.fileName)⟩
  pruneAt := fun _ => now
  now := now
  monotonic := fun _ => Nat.le_refl now

def lockingRecord (serial : Nat) : Record :=
  ⟨slug, serial, renameRecord .little emptyRecord true lockingAlert⟩

private theorem reported_lockingRename :
    lockingAlert ∈ (lockingRename.outcome (some (emptyRecord.drop 8))).alerts := by
  refine alert_of_denied ?_
  exact (denied_randomName_iff rfl rfl (dentryOf ⟨7, 1⟩)).mpr (by decide)

private theorem processEvent_lockingRecord (serial now : Nat) {d : DaemonState}
    (on : isOn d slug = true) : processEvent .little d (lockingRecord serial) =
      some (.renameEntropy (lockingArrival now).alert) := by
  have module : Daemon.Actor.moduleOf slug = some .renameEntropy := by decide
  have sized : emptyRecord.length = recordSize .renameEntropy := List.length_replicate
  have decoded := renameRecord_decoded .little sized true lockingAlert
  have read : (lockingRecord serial).parse .little =
      Telemetry.Totality.Module.renameEntropy.tryFromBytes .little
        (renameRecord .little emptyRecord true lockingAlert) := by
    rw [Record.parse, lockingRecord, module]
  rw [decoded] at read
  rw [processEvent, read, lockingRecord, if_pos on]
  rfl

/-- Three hooks run, block their renames, and are heard of in one poll. -/
theorem eradications_rest_on_renames_sample : ∃ moves c report earlier,
    Run (Step .little) (Campaign.start monitorBoot) moves c ∧ c.reports = report :: earlier ∧
      report.handled.eradicated = true ∧
        ∃ evidence : List Report, evidence.length = 2 ∧ ∀ r ∈ report :: evidence,
          ∃ rename, c.renames r.serial = some rename ∧ rename.ppid = 1 ∧ rename.Blocked := by
  have loaded : slug ∈ (boot monitorBoot).activeSkeletons := by decide
  have active : isModuleActive (some ((boot monitorBoot).stateMap slug)) = true := by decide
  have on : isOn (boot monitorBoot) slug = true := by decide
  have sized : emptyRecord.length = recordSize .renameEntropy := List.length_replicate
  have read := processEvent_lockingRecord (d := boot monitorBoot)
  have run : Run (Step .little) (Campaign.start monitorBoot) _ _ :=
    .cons (.act (.enter loaded active) (by simp) (by simp))
    (.cons (.act (.enter loaded active) (by simp) (by simp))
    (.cons (.act (.enter loaded active) (by simp) (by simp))
    (.cons (.rename List.mem_cons_self sized reported_lockingRename)
    (.cons (.rename List.mem_cons_self sized reported_lockingRename)
    (.cons (.rename List.mem_cons_self sized reported_lockingRename)
    (.cons (.act (.tickOver rfl) (by simp) (by simp))
    (.cons (.read rfl rfl (read 0 0 on) (Nat.zero_le _))
    (.cons (.read rfl rfl (read 1 1 on) (Nat.zero_le _))
    (.cons (.read rfl rfl (read 2 2 on) (by decide))
    (.nil _))))))))))
  refine ⟨_, _, _, _, run, rfl, rfl, ?_⟩
  obtain ⟨evidence, _, two, _, each⟩ :=
    eradications_rest_on_renames run (List.nil_append _).symm rfl
  exact ⟨evidence, two, fun r member => (each r member).2⟩

end Sample

end Runs

end BouclierBleu.Eradication.Evidence
