/- GID: BouclierBleu/Telemetry/AlertLog
   source: modules/src/common/telemetry.rs, EnvelopedAlert and emit_siem_event; the alert structs
     of modules/src/*.rs
   digest: The alert log keeps whole lines exactly while nothing is written behind a torn record. -/

import BouclierBleu.Library.FlatJson
import BouclierBleu.Library.StoppedLines
import BouclierBleu.Telemetry.Parsers

set_option autoImplicit false
set_option relaxedAutoImplicit false

namespace BouclierBleu.Telemetry.AlertLog

open BouclierBleu.Library.FlatJson
open BouclierBleu.Library.LossyUtf8 (encode)
open BouclierBleu.Library.StoppedLines
open BouclierBleu.Telemetry.Parsers
open BouclierBleu.Telemetry.Reader (Text)

section Envelope

abbrev Fields := List (List UInt8 × Value)

def text (t : Text) : Value := .string (encode t)

def word (n : UInt32) : Value := .number n.toNat

def field (name : String) (value : Value) : List UInt8 × Value := (encode name.toList, value)

def ExecAlert.serialize (a : ExecAlert) : Fields :=
  [field "pid" (word a.pid), field "path" (text a.path)]

def RenameAlert.serialize (a : RenameAlert) : Fields :=
  [field "pid" (word a.pid), field "ppid" (word a.ppid), field "full_path" (text a.fullPath)]

def ShieldAlert.serialize (a : ShieldAlert) : Fields :=
  [field "pid" (word a.pid), field "action_type" (word a.actionType),
    field "target" (text a.target)]

def MountAlert.serialize (a : MountAlert) : Fields :=
  [field "pid" (word a.pid), field "dev_name" (text a.devName), field "fs_type" (text a.fsType),
    field "mount_point" (text a.mountPoint)]

def StrictWxAlert.serialize (a : StrictWxAlert) : Fields :=
  [field "pid" (word a.pid), field "syscall" (text a.syscall)]

def PtraceAlert.serialize (a : PtraceAlert) : Fields :=
  [field "pid" (word a.pid), field "target_pid" (word a.targetPid),
    field "action_type" (word a.actionType), field "target_comm" (text a.targetComm)]

def DumpAlert.serialize (a : DumpAlert) : Fields :=
  [field "pid" (word a.pid), field "uid" (word a.uid), field "action_type" (word a.actionType),
    field "comm" (text a.comm)]

def UsernsAlert.serialize (a : UsernsAlert) : Fields :=
  [field "pid" (word a.pid), field "action_type" (word a.actionType),
    field "target" (text a.target)]

def MadviseAlert.serialize (a : MadviseAlert) : Fields :=
  [field "pid" (word a.pid), field "tid" (word a.tid), field "count" (word a.count),
    field "action_type" (word a.actionType), field "comm" (text a.comm)]

def IoRestrictAlert.serialize (a : IoRestrictAlert) : Fields :=
  [field "pid" (word a.pid), field "action_type" (word a.actionType),
    field "syscall" (text a.syscall)]

/-- The fields the derived serializers write, in the order of the structs. -/
def serialize : Alert → Fields
  | .execBlock a => ExecAlert.serialize a
  | .renameEntropy a => RenameAlert.serialize a
  | .shield a => ShieldAlert.serialize a
  | .mountSecure a => MountAlert.serialize a
  | .strictWx a => StrictWxAlert.serialize a
  | .ptraceBlock a => PtraceAlert.serialize a
  | .dumpRestrict a => DumpAlert.serialize a
  | .usernsRestrict a => UsernsAlert.serialize a
  | .madviseRatelimit a => MadviseAlert.serialize a
  | .ioRestrict a => IoRestrictAlert.serialize a

structure EnvelopedAlert where
  timestampMs : Nat
  eventSource : Text
  mitreTechniques : List Text
  payload : Alert

/-- `serde_json::to_string`, with the payload flattened into the envelope. -/
def EnvelopedAlert.toString (e : EnvelopedAlert) : List UInt8 :=
  object (field "@timestamp" (.number e.timestampMs) ::
    field "event_source" (text e.eventSource) ::
    field "mitre_techniques" (.strings (e.mitreTechniques.map encode)) :: serialize e.payload)

def newline : UInt8 := 0x0A

theorem EnvelopedAlert.newline_notMem_toString (e : EnvelopedAlert) : newline ∉ e.toString :=
  notMem_object (by decide) _

/-- No event is the end of another one. -/
theorem EnvelopedAlert.toString_ne_append (e other : EnvelopedAlert) {front : List UInt8}
    (occupied : front ≠ []) : other.toString ≠ front ++ e.toString := by
  have apart : ¬ Delimiter 0x40 := by
    rintro (same | same | same | same) <;> cases same
  exact object_ne_append apart rfl occupied

end Envelope

section Writing

/-- What one write answers: bytes that were taken, a signal, or an error with some bytes stored. -/
inductive WriteAnswer
  | accepted (count : Nat)
  | interrupted
  | failed (stored : Nat)

abbrev Log := List UInt8

/-- `write_all`: the answers left if all was written, and the log. Writes without an answer here
take all they are given. -/
def writeAll : List WriteAnswer → Log → List UInt8 → Option (List WriteAnswer) × Log
  | answers, log, [] => (some answers, log)
  | [], log, buf => (some [], log ++ buf)
  | .accepted count :: rest, log, buf =>
    if count = 0 then (none, log) else writeAll rest (log ++ buf.take count) (buf.drop count)
  | .interrupted :: rest, log, buf => writeAll rest log buf
  | .failed stored :: _, log, buf => (none, log ++ buf.take stored)

/-- `writeln!`: the text and the newline are written one after the other. -/
def writeln (answers : List WriteAnswer) (log : Log) (json : List UInt8) : Bool × Log :=
  match writeAll answers log json with
  | (none, log) => (false, log)
  | (some rest, log) =>
    match writeAll rest log [newline] with
    | (left, log) => (left.isSome, log)

/-- A call of `emit_siem_event`, with what its environment answers. -/
structure Call where
  timestampMs : Nat
  moduleSlug : Text
  mitreTechniques : List Text
  alert : Alert
  /-- The lock is not poisoned. -/
  locked : Bool
  answers : List WriteAnswer

def Call.json (call : Call) : List UInt8 :=
  EnvelopedAlert.toString ⟨call.timestampMs, call.moduleSlug, call.mitreTechniques, call.alert⟩

/-- Whether the write succeeded, and the log. An error is printed and nothing else. -/
def emitSiemEvent (log : Log) (call : Call) : Bool × Log :=
  if call.locked then writeln call.answers log call.json else (false, log)

/-- The log after some calls. -/
def run (calls : List Call) : Log := calls.foldl (fun log call => (emitSiemEvent log call).2) []

/-- How many of some bytes the answers let into a file, and the answers left if there was no
error. -/
def taken : List WriteAnswer → Nat → Option (List WriteAnswer) × Nat
  | answers, 0 => (some answers, 0)
  | [], size => (some [], size)
  | .accepted count :: rest, size =>
    if count = 0 then (none, 0)
    else ((taken rest (size - count)).1, min count size + (taken rest (size - count)).2)
  | .interrupted :: rest, size => taken rest size
  | .failed stored :: _, size => (none, min stored size)

/-- The same for a text of some size and a newline behind it. -/
def takenLine (answers : List WriteAnswer) (size : Nat) : Nat :=
  match taken answers size with
  | (none, count) => count
  | (some rest, count) => count + (taken rest 1).2

/-- How many bytes of an event and its newline get into the file. -/
def Call.stored (call : Call) : Nat :=
  if call.locked then takenLine call.answers call.json.length else 0

/-- Some bytes of an event get into the file, but not its newline. -/
def Call.Torn (call : Call) : Prop := 0 < call.stored ∧ call.stored ≤ call.json.length

/-- The event and its newline get into the file. -/
def Call.Whole (call : Call) : Prop := call.json.length < call.stored

theorem taken_le (answers : List WriteAnswer) (size : Nat) : (taken answers size).2 ≤ size := by
  fun_induction taken answers size with
  | case1 => exact Nat.le_refl 0
  | case2 => exact Nat.le_refl _
  | case3 => exact Nat.zero_le _
  | case4 => omega
  | case5 _ _ _ ih => exact ih
  | case6 => exact Nat.min_le_right ..

theorem taken_of_some {answers rest : List WriteAnswer} {size : Nat}
    (done : (taken answers size).1 = some rest) : (taken answers size).2 = size := by
  fun_induction taken answers size with
  | case1 => rfl
  | case2 => rfl
  | case3 => cases done
  | case4 size count rest answers nonzero ih =>
    have all := ih done
    omega
  | case5 _ _ _ ih => exact ih done
  | case6 => cases done

private theorem take_accepted (count : Nat) (rest : List WriteAnswer) (buf : List UInt8) :
    buf.take (min count buf.length + (taken rest (buf.length - count)).2) =
      buf.take count ++ (buf.drop count).take (taken rest (buf.length - count)).2 := by
  rcases Nat.le_total count buf.length with within | beyond
  · rw [Nat.min_eq_left within, List.take_add]
  · have none_left : (taken rest (buf.length - count)).2 = 0 := by
      have bound := taken_le rest (buf.length - count)
      omega
    rw [none_left, Nat.min_eq_right beyond, List.take_of_length_le beyond]
    simp

/-- The log gets the bytes that are taken, and nothing else changes. -/
theorem writeAll_eq (answers : List WriteAnswer) (log : Log) (buf : List UInt8) :
    writeAll answers log buf =
      ((taken answers buf.length).1, log ++ buf.take (taken answers buf.length).2) := by
  induction answers generalizing log buf with
  | nil => cases buf <;> simp [writeAll, taken]
  | cons answer rest ih =>
    cases buf with
    | nil => simp [writeAll, taken]
    | cons b buf =>
      cases answer with
      | interrupted => simp [writeAll, taken, ih]
      | failed stored =>
        rw [writeAll, taken, ← List.take_eq_take_min]
        · exact nofun
        · exact nofun
      | accepted count =>
        rw [writeAll, taken]
        split
        · simp
        · have pieces := take_accepted count rest (b :: buf)
          rw [ih, List.length_drop, List.append_assoc, ← pieces]
        · exact nofun
        · exact nofun

theorem writeln_log (answers : List WriteAnswer) (log : Log) (json : List UInt8) :
    (writeln answers log json).2 =
      log ++ (json ++ [newline]).take (takenLine answers json.length) := by
  rw [writeln, takenLine, writeAll_eq]
  cases outcome : taken answers json.length with
  | mk left count =>
    cases left with
    | none =>
      have within := taken_le answers json.length
      rw [outcome] at within
      exact congrArg (log ++ ·) (List.take_append_of_le_length within).symm
    | some rest =>
      have full := taken_of_some (congrArg Prod.fst outcome)
      rw [outcome] at full
      simp only at full
      simp only [writeAll_eq, full, List.take_length, List.length_singleton, List.append_assoc,
        List.take_length_add_append]

theorem takenLine_of_success {answers : List WriteAnswer} {log : Log} {json : List UInt8}
    (success : (writeln answers log json).1 = true) :
    takenLine answers json.length = json.length + 1 := by
  rw [writeln, writeAll_eq] at success
  rw [takenLine]
  cases outcome : taken answers json.length with
  | mk left count =>
    rw [outcome] at success
    cases left with
    | none => cases success
    | some rest =>
      have full := taken_of_some (congrArg Prod.fst outcome)
      rw [outcome] at full
      simp only [writeAll_eq] at success
      obtain ⟨final, finished⟩ := Option.isSome_iff_exists.mp success
      have last : (taken rest 1).2 = 1 := taken_of_some finished
      exact congr (congrArg (· + ·) full) last

/-- A call adds the first bytes of its event and newline to the log. -/
theorem emit_log (log : Log) (call : Call) :
    (emitSiemEvent log call).2 = log ++ (call.json ++ [newline]).take call.stored := by
  rw [emitSiemEvent, Call.stored]
  split
  · exact writeln_log call.answers log call.json
  · simp

/-- A write that reports success has put its event and the newline into the log. -/
theorem whole_of_reported {log : Log} {call : Call}
    (reported : (emitSiemEvent log call).1 = true) : call.Whole := by
  rw [emitSiemEvent] at reported
  rw [Call.Whole, Call.stored]
  split at reported
  · rw [if_pos ‹_›, takenLine_of_success reported]
    exact Nat.lt_succ_self _
  · cases reported

end Writing

section Runs

theorem run_snoc (calls : List Call) (call : Call) :
    run (calls ++ [call]) = run calls ++ (call.json ++ [newline]).take call.stored := by
  rw [run, List.foldl_append, List.foldl_cons, List.foldl_nil, emit_log]
  rfl

theorem Call.Whole.take_stored {call : Call} (whole : call.Whole) :
    (call.json ++ [newline]).take call.stored = call.json ++ [newline] := by
  refine List.take_of_length_le ?_
  rw [List.length_append, List.length_singleton]
  exact whole

/-- The log is only ever appended to. -/
theorem run_prefix (calls more : List Call) : run calls <+: run (calls ++ more) := by
  induction more using List.reverseRecOn with
  | nil => rw [List.append_nil]
  | append_singleton more call ih =>
    rw [← List.append_assoc, run_snoc]
    exact ih.trans (List.prefix_append _ _)

def LineStart (log : Log) : Prop := log = [] ∨ ∃ front, log = front ++ [newline]

/-- Every line is the object of one event, and every event whose write succeeded has a line of
its own. -/
structure Ndjson (calls : List Call) : Prop where
  lines : ∀ line ∈ lines newline (run calls), ∃ call ∈ calls, line = call.json
  alone : ∀ before call after, calls = before ++ call :: after →
    (emitSiemEvent (run before) call).1 = true →
      LineStart (run before) ∧ run before ++ (call.json ++ [newline]) <+: run calls

/-- Once an event is torn no event is written whole any more. -/
def TornLast (calls : List Call) : Prop :=
  calls.Pairwise fun earlier later => earlier.Torn → ¬ later.Whole

/-- Whole events, and the bytes of the torn ones behind them. -/
structure Shape (calls : List Call) (records : List (List UInt8)) (tail : List UInt8) : Prop where
  log : run calls = terminate newline records ++ tail
  single : newline ∉ tail
  events : ∀ record ∈ records, ∃ call ∈ calls, record = call.json
  torn : tail ≠ [] ↔ ∃ call ∈ calls, call.Torn

variable {calls : List Call} {records : List (List UInt8)} {tail : List UInt8}

theorem Shape.free (shape : Shape calls records tail) :
    ∀ record ∈ records, newline ∉ record := by
  intro record member
  obtain ⟨call, _, rfl⟩ := shape.events record member
  exact EnvelopedAlert.newline_notMem_toString _

theorem exists_torn_snoc (calls : List Call) (call : Call) :
    (∃ other ∈ calls ++ [call], other.Torn) ↔ (∃ other ∈ calls, other.Torn) ∨ call.Torn := by
  simp [or_and_right, exists_or]

theorem Shape.events_snoc (shape : Shape calls records tail) (call : Call) :
    ∀ record ∈ records, ∃ other ∈ calls ++ [call], record = other.json := by
  intro record member
  obtain ⟨other, among, same⟩ := shape.events record member
  exact ⟨other, List.mem_append_left _ among, same⟩

theorem Shape.snoc_whole (shape : Shape calls records []) {call : Call} (whole : call.Whole) :
    Shape (calls ++ [call]) (records ++ [call.json]) [] where
  log := by
    rw [run_snoc, shape.log, whole.take_stored, terminate_append]
    simp
  single := nofun
  events := by
    intro record member
    rcases List.mem_append.mp member with earlier | last
    · exact shape.events_snoc call record earlier
    · rw [List.mem_singleton] at last
      exact ⟨call, by simp, last⟩
  torn := by
    have complete : ¬ call.Torn := fun torn => Nat.not_lt.mpr torn.2 whole
    rw [exists_torn_snoc, ← shape.torn]
    simp [complete]

theorem Shape.snoc_torn (shape : Shape calls records tail) {call : Call} (torn : call.Torn) :
    Shape (calls ++ [call]) records (tail ++ call.json.take call.stored) where
  log := by
    rw [run_snoc, shape.log, List.append_assoc, List.take_append_of_le_length torn.2]
  single := by
    rw [List.mem_append, not_or]
    exact ⟨shape.single, fun member =>
      EnvelopedAlert.newline_notMem_toString _ (List.mem_of_mem_take member)⟩
  events := shape.events_snoc call
  torn := by
    have some_bytes : call.json.take call.stored ≠ [] := by
      rw [← List.length_pos_iff, List.length_take, Nat.min_eq_left torn.2]
      exact torn.1
    rw [exists_torn_snoc]
    exact iff_of_true (fun empty => some_bytes (List.append_eq_nil_iff.mp empty).2) (.inr torn)

/-- One call: it ends a line at a line's start, adds to what is torn, or stores nothing. -/
theorem Shape.snoc (shape : Shape calls records tail) (call : Call)
    (fresh : call.Whole → tail = []) :
    ∃ records tail, Shape (calls ++ [call]) records tail := by
  by_cases whole : call.Whole
  · cases fresh whole
    exact ⟨_, _, shape.snoc_whole whole⟩
  by_cases torn : call.Torn
  · exact ⟨_, _, shape.snoc_torn torn⟩
  · have nothing : call.stored = 0 := by
      rw [Call.Whole] at whole
      rw [Call.Torn] at torn
      omega
    refine ⟨records, tail, ?_, shape.single, shape.events_snoc call, ?_⟩
    · rw [run_snoc, nothing, shape.log, List.take_zero, List.append_nil]
    · rw [exists_torn_snoc, shape.torn, or_iff_left torn]

theorem tornLast_snoc_iff (calls : List Call) (call : Call) :
    TornLast (calls ++ [call]) ↔
      TornLast calls ∧ ((∃ earlier ∈ calls, earlier.Torn) → ¬ call.Whole) := by
  simp [TornLast, List.pairwise_append]

/-- A log in which nothing is written whole behind a torn event. -/
theorem exists_shape (last : TornLast calls) : ∃ records tail, Shape calls records tail := by
  induction calls using List.reverseRecOn with
  | nil => exact ⟨[], [], rfl, nofun, nofun, by simp⟩
  | append_singleton calls call ih =>
    rw [tornLast_snoc_iff] at last
    obtain ⟨records, tail, shape⟩ := ih last.1
    refine shape.snoc call fun whole => ?_
    by_contra occupied
    exact last.2 (shape.torn.mp occupied) whole

/-- A newline behind a torn event ends a line that is no event's object. -/
theorem exists_merged (behind : ¬ TornLast calls) :
    ∃ records line back,
      run calls = terminate newline records ++ (line ++ newline :: back) ∧
        (∀ record ∈ records, newline ∉ record) ∧ newline ∉ line ∧
          ∀ call : Call, line ≠ call.json := by
  induction calls using List.reverseRecOn with
  | nil => exact absurd List.Pairwise.nil behind
  | append_singleton calls call ih =>
    by_cases last : TornLast calls
    · rw [tornLast_snoc_iff, not_and, Classical.not_imp, not_not] at behind
      obtain ⟨torn, whole⟩ := behind last
      obtain ⟨records, tail, shape⟩ := exists_shape last
      refine ⟨records, tail ++ call.json, [], ?_, shape.free, ?_, ?_⟩
      · rw [run_snoc, shape.log, whole.take_stored]
        simp
      · rw [List.mem_append, not_or]
        exact ⟨shape.single, EnvelopedAlert.newline_notMem_toString _⟩
      · exact fun other same =>
          EnvelopedAlert.toString_ne_append _ _ (shape.torn.mpr torn) same.symm
    · obtain ⟨records, line, back, log, free, single, other⟩ := ih last
      refine ⟨records, line, back ++ (call.json ++ [newline]).take call.stored, ?_, free, single,
        other⟩
      rw [run_snoc, log]
      simp

/-- Whole lines and nothing else end at a line's start. -/
theorem lineStart_terminate (records : List (List UInt8)) :
    LineStart (terminate newline records) := by
  induction records using List.reverseRecOn with
  | nil => exact .inl rfl
  | append_singleton records record _ =>
    refine .inr ⟨terminate newline records ++ record, ?_⟩
    rw [terminate_append]
    simp

theorem ndjson_of_tornLast (last : TornLast calls) : Ndjson calls := by
  constructor
  · intro line member
    obtain ⟨records, tail, shape⟩ := exists_shape last
    rw [shape.log, lines_terminate_append shape.free, lines_of_notMem shape.single,
      List.append_nil] at member
    exact shape.events line member
  · rintro before call after rfl reported
    have whole := whole_of_reported reported
    have regroup : before ++ call :: after = before ++ [call] ++ after := by simp
    rw [regroup] at last ⊢
    have first := (List.pairwise_append.mp last).1
    have ⟨earlier, untorn⟩ := (tornLast_snoc_iff before call).mp first
    obtain ⟨records, tail, shape⟩ := exists_shape earlier
    have clean : tail = [] := by
      by_contra occupied
      exact untorn (shape.torn.mp occupied) whole
    constructor
    · rw [shape.log, clean, List.append_nil]
      exact lineStart_terminate records
    · rw [← whole.take_stored, ← run_snoc]
      exact run_prefix _ _

end Runs

def strictWxTags : List Text := ["T1055".toList, "T1620".toList, "T1027.002".toList]

/-- The disk is full after one byte. -/
def onFullDisk : Call :=
  ⟨1760000000000, "strict_wx".toList, strictWxTags, .strictWx ⟨701, "mprotect".toList⟩, true,
    [.accepted 1, .failed 0]⟩

/-- There is room again. -/
def withRoom : Call :=
  ⟨1760000000250, "strict_wx".toList, strictWxTags, .strictWx ⟨702, "mmap".toList⟩, true, []⟩

end BouclierBleu.Telemetry.AlertLog
