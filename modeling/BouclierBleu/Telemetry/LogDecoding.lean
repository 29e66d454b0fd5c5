/- GID: BouclierBleu/Telemetry/LogDecoding
   source: modules/src/common/telemetry.rs, the alert structs of modules/src/*.rs
   digest: The alert log determines the events written to it, field by field. -/

import BouclierBleu.Library.FlatJsonReader
import BouclierBleu.Library.LossyUtf8
import BouclierBleu.Telemetry.AlertLog
import BouclierBleu.Telemetry.Totality

set_option autoImplicit false
set_option relaxedAutoImplicit false

namespace BouclierBleu.Telemetry.LogDecoding

open BouclierBleu.Library.FlatJson (Value)
open BouclierBleu.Library.FlatJsonReader (readObject readObject_object)
open BouclierBleu.Library.LossyUtf8 (encode lossy lossy_encode)
open BouclierBleu.Library.StoppedLines
open BouclierBleu.Telemetry.AlertLog
open BouclierBleu.Telemetry.Parsers
open BouclierBleu.Telemetry.Reader (Text)
open BouclierBleu.Telemetry.Totality (Module)

/-- The module whose handler emits an alert. -/
def source : Alert → Module
  | .execBlock _ => .execBlock
  | .renameEntropy _ => .renameEntropy
  | .shield _ => .shield
  | .mountSecure _ => .mountSecure
  | .strictWx _ => .strictWx
  | .ptraceBlock _ => .ptraceBlock
  | .dumpRestrict _ => .dumpRestrict
  | .usernsRestrict _ => .usernsRestrict
  | .madviseRatelimit _ => .madviseRatelimit
  | .ioRestrict _ => .ioRestrict

section Fields

/-- The value of a key. -/
def get (name : String) (fields : Fields) : Option Value := fields.lookup (encode name.toList)

def getNumber (name : String) (fields : Fields) : Option Nat :=
  match get name fields with
  | some (.number n) => some n
  | _ => none

def getWord (name : String) (fields : Fields) : Option UInt32 :=
  (getNumber name fields).map UInt32.ofNat

def getText (name : String) (fields : Fields) : Option Text :=
  match get name fields with
  | some (.string t) => some (lossy t)
  | _ => none

def getTexts (name : String) (fields : Fields) : Option (List Text) :=
  match get name fields with
  | some (.strings ts) => some (ts.map lossy)
  | _ => none

variable {name other : String} {value : Value} {fields : Fields}

private theorem encode_injective : Function.Injective encode := by
  intro t t' same
  rw [← lossy_encode t, same, lossy_encode]

@[simp] theorem get_field_self : get name (field name value :: fields) = some value := by
  simp [get, field]

@[simp] theorem get_field_of_ne (apart : name ≠ other) :
    get name (field other value :: fields) = get name fields := by
  have keys : (encode name.toList == encode other.toList) = false := by
    rw [beq_eq_false_iff_ne]
    intro same
    exact apart (String.toList_inj.mp (encode_injective same))
  rw [get, field, List.lookup_cons, keys]
  rfl

end Fields

section Events

/-- The alert of a module, from the fields of its event. -/
def decodeAlert (fields : Fields) : Module → Option Alert
  | .execBlock => do
    return .execBlock ⟨← getWord "pid" fields, ← getText "path" fields⟩
  | .renameEntropy => do
    return .renameEntropy ⟨← getWord "pid" fields, ← getWord "ppid" fields,
      ← getText "full_path" fields⟩
  | .shield => do
    return .shield ⟨← getWord "pid" fields, ← getWord "action_type" fields,
      ← getText "target" fields⟩
  | .mountSecure => do
    return .mountSecure ⟨← getWord "pid" fields, ← getText "dev_name" fields,
      ← getText "fs_type" fields, ← getText "mount_point" fields⟩
  | .strictWx => do
    return .strictWx ⟨← getWord "pid" fields, ← getText "syscall" fields⟩
  | .ptraceBlock => do
    return .ptraceBlock ⟨← getWord "pid" fields, ← getWord "target_pid" fields,
      ← getWord "action_type" fields, ← getText "target_comm" fields⟩
  | .dumpRestrict => do
    return .dumpRestrict ⟨← getWord "pid" fields, ← getWord "uid" fields,
      ← getWord "action_type" fields, ← getText "comm" fields⟩
  | .usernsRestrict => do
    return .usernsRestrict ⟨← getWord "pid" fields, ← getWord "action_type" fields,
      ← getText "target" fields⟩
  | .madviseRatelimit => do
    return .madviseRatelimit ⟨← getWord "pid" fields, ← getWord "tid" fields,
      ← getWord "count" fields, ← getWord "action_type" fields, ← getText "comm" fields⟩
  | .ioRestrict => do
    return .ioRestrict ⟨← getWord "pid" fields, ← getWord "action_type" fields,
      ← getText "syscall" fields⟩

/-- The event on a line. Two modules have the same fields, so the source decides. -/
def decodeLine (line : List UInt8) : Option EnvelopedAlert := do
  let (fields, rest) ← readObject line
  if rest = [] then
    let eventSource ← getText "event_source" fields
    let m ← Module.all.find? fun m => m.slug.toList == eventSource
    return ⟨← getNumber "@timestamp" fields, eventSource, ← getTexts "mitre_techniques" fields,
      ← decodeAlert fields m⟩
  else none

/-- The events on the lines of a log. -/
def decodeLog (log : Log) : List (Option EnvelopedAlert) := (lines newline log).map decodeLine

/-- An event carries the slug of the module it comes from, as the macro that emits it has it. -/
def Own (event : EnvelopedAlert) : Prop := event.eventSource = (source event.payload).slug.toList

private theorem find?_slug (m : Module) :
    Module.all.find? (fun other => other.slug.toList == m.slug.toList) = some m := by
  cases m <;> decide

theorem decodeAlert_serialize (timestampMs : Nat) (eventSource : List UInt8)
    (mitreTechniques : List (List UInt8)) (a : Alert) :
    decodeAlert (field "@timestamp" (.number timestampMs) ::
      field "event_source" (.string eventSource) ::
      field "mitre_techniques" (.strings mitreTechniques) :: serialize a) (source a) = some a := by
  cases a <;>
    simp [decodeAlert, source, serialize, getWord, getNumber, getText, word, text, lossy_encode,
      ExecAlert.serialize, RenameAlert.serialize, ShieldAlert.serialize, MountAlert.serialize,
      StrictWxAlert.serialize, PtraceAlert.serialize, DumpAlert.serialize, UsernsAlert.serialize,
      MadviseAlert.serialize, IoRestrictAlert.serialize]

theorem decodeLine_toString {event : EnvelopedAlert} (own : Own event) :
    decodeLine event.toString = some event := by
  obtain ⟨timestampMs, eventSource, mitreTechniques, payload⟩ := event
  have own : eventSource = (source payload).slug.toList := own
  subst own
  have payload_read := decodeAlert_serialize timestampMs
    (encode (source payload).slug.toList) (mitreTechniques.map encode) payload
  have read := readObject_object (field "@timestamp" (.number timestampMs) ::
    field "event_source" (text (source payload).slug.toList) ::
    field "mitre_techniques" (.strings (mitreTechniques.map encode)) :: serialize payload) []
  rw [List.append_nil] at read
  have tags : (mitreTechniques.map encode).map lossy = mitreTechniques := by
    rw [List.map_map]
    conv_rhs => rw [← List.map_id mitreTechniques]
    exact List.map_congr_left fun t _ => lossy_encode t
  rw [decodeLine, EnvelopedAlert.toString, read]
  simp only [text] at payload_read ⊢
  simp [getText, getNumber, getTexts, lossy_encode, find?_slug, payload_read, tags]

end Events

section Logs

/-- The event of a call. -/
def envelope (call : Call) : EnvelopedAlert :=
  ⟨call.timestampMs, call.moduleSlug, call.mitreTechniques, call.alert⟩

instance (call : Call) : Decidable call.Whole := inferInstanceAs (Decidable (_ < _))

/-- The calls whose event and newline got into the log. -/
def wholeCalls (calls : List Call) : List Call := calls.filter fun call => decide call.Whole

variable {calls : List Call}

/-- The lines of a log in which nothing is written whole behind a torn event are those of the
whole events, in order. -/
private theorem exists_run_eq (last : TornLast calls) :
    ∃ tail, run calls = terminate newline ((wholeCalls calls).map Call.json) ++ tail ∧
      newline ∉ tail ∧ (tail ≠ [] → ∃ call ∈ calls, call.Torn) := by
  induction calls using List.reverseRecOn with
  | nil => exact ⟨[], rfl, nofun, fun occupied => absurd rfl occupied⟩
  | append_singleton calls call ih =>
    rw [tornLast_snoc_iff] at last
    obtain ⟨tail, log, single, torn⟩ := ih last.1
    rw [run_snoc, log]
    by_cases whole : call.Whole
    · have clean : tail = [] := by
        by_contra occupied
        exact last.2 (torn occupied) whole
      refine ⟨[], ?_, nofun, fun occupied => absurd rfl occupied⟩
      rw [clean, whole.take_stored]
      simp [wholeCalls, whole, terminate_append]
    · have short : call.stored ≤ call.json.length := Nat.not_lt.mp whole
      refine ⟨tail ++ call.json.take call.stored, ?_, ?_, ?_⟩
      · rw [List.take_append_of_le_length short]
        simp [wholeCalls, whole]
      · rw [List.mem_append, not_or]
        exact ⟨single, fun member =>
          EnvelopedAlert.newline_notMem_toString _ (List.mem_of_mem_take member)⟩
      · intro occupied
        rw [exists_torn_snoc]
        by_cases stored : call.stored = 0
        · rw [stored, List.take_zero, List.append_nil] at occupied
          exact .inl (torn occupied)
        · exact .inr ⟨Nat.pos_of_ne_zero stored, short⟩

theorem lines_run (last : TornLast calls) :
    lines newline (run calls) = (wholeCalls calls).map Call.json := by
  obtain ⟨tail, log, single, _⟩ := exists_run_eq last
  have free : ∀ line ∈ (wholeCalls calls).map Call.json, newline ∉ line := by
    intro line member
    obtain ⟨call, _, rfl⟩ := List.mem_map.mp member
    exact EnvelopedAlert.newline_notMem_toString _
  rw [log, lines_terminate_append free, lines_of_notMem single, List.append_nil]

end Logs

end BouclierBleu.Telemetry.LogDecoding
