/- GID: BouclierBleu/Telemetry/Totality
   source: modules/src/*.rs, modules/src/common/traits.rs
   digest: Every parser is total, takes just its minimum size and lets only printable text out. -/

import BouclierBleu.Telemetry.Parsers
import Mathlib.Data.List.Forall2

set_option autoImplicit false
set_option relaxedAutoImplicit false

namespace BouclierBleu.Telemetry.Totality

open BouclierBleu.Kernel.AlertStructs (Endian)
open BouclierBleu.Library.LossyUtf8
open BouclierBleu.Telemetry.Reader
open BouclierBleu.Telemetry.Parsers

/-- The ten modules, each with one record type. -/
inductive Module
  | execBlock | renameEntropy | shield | mountSecure | strictWx
  | ptraceBlock | dumpRestrict | usernsRestrict | madviseRatelimit | ioRestrict
  deriving DecidableEq

def Module.all : List Module :=
  [.execBlock, .renameEntropy, .shield, .mountSecure, .strictWx,
    .ptraceBlock, .dumpRestrict, .usernsRestrict, .madviseRatelimit, .ioRestrict]

def Module.slug : Module → String
  | .execBlock => "exec_block"
  | .renameEntropy => "rename_entropy"
  | .shield => "shield"
  | .mountSecure => "mount_secure"
  | .strictWx => "strict_wx"
  | .ptraceBlock => "ptrace_block"
  | .dumpRestrict => "dump_restrict"
  | .usernsRestrict => "userns_restrict"
  | .madviseRatelimit => "madvise_ratelimit"
  | .ioRestrict => "io_restrict"

/-- The size below which `try_from_bytes` refuses a payload. -/
def Module.minimum : Module → Nat
  | .execBlock => 4100
  | .renameEntropy => 4360
  | .shield => 4104
  | .mountSecure => 836
  | .strictWx => 20
  | .ptraceBlock => 28
  | .dumpRestrict => 28
  | .usernsRestrict => 72
  | .madviseRatelimit => 32
  | .ioRestrict => 24

/-- The `try_from_bytes` of a module. -/
def Module.tryFromBytes (e : Endian) (m : Module) (data : List UInt8) : Except String Alert :=
  match m with
  | .execBlock => (ExecAlert.tryFromBytes e data).map .execBlock
  | .renameEntropy => (RenameAlert.tryFromBytes e data).map .renameEntropy
  | .shield => (ShieldAlert.tryFromBytes e data).map .shield
  | .mountSecure => (MountAlert.tryFromBytes e data).map .mountSecure
  | .strictWx => (StrictWxAlert.tryFromBytes e data).map .strictWx
  | .ptraceBlock => (PtraceAlert.tryFromBytes e data).map .ptraceBlock
  | .dumpRestrict => (DumpAlert.tryFromBytes e data).map .dumpRestrict
  | .usernsRestrict => (UsernsAlert.tryFromBytes e data).map .usernsRestrict
  | .madviseRatelimit => (MadviseAlert.tryFromBytes e data).map .madviseRatelimit
  | .ioRestrict => (IoRestrictAlert.tryFromBytes e data).map .ioRestrict

section Bodies

variable {M : Type → Type} [Monad M] (readU32 : M UInt32) (readString : Nat → M Text)

/-- The reads behind the size check, for any reader that offers the two primitives. -/
def Module.body : Module → M Alert
  | .execBlock => do
    let pid ← readU32
    let path ← readString 4096
    return .execBlock ⟨pid, path⟩
  | .renameEntropy => do
    let pid ← readU32
    let ppid ← readU32
    let dirPath ← readString 4096
    let fileName ← readString 256
    return .renameEntropy ⟨pid, ppid, joinPath dirPath fileName⟩
  | .shield => do
    let pid ← readU32
    let actionType ← readU32
    let target ← readString 4096
    return .shield ⟨pid, actionType, target⟩
  | .mountSecure => do
    let pid ← readU32
    let devName ← readString 256
    let fsType ← readString 64
    let mountPoint ← readString 512
    return .mountSecure ⟨pid, devName, fsType, mountPoint⟩
  | .strictWx => do
    let pid ← readU32
    let syscall ← readString 16
    return .strictWx ⟨pid, syscall⟩
  | .ptraceBlock => do
    let pid ← readU32
    let targetPid ← readU32
    let actionType ← readU32
    let rawComm ← readString 16
    return .ptraceBlock ⟨pid, targetPid, actionType, trimMatches nul rawComm⟩
  | .dumpRestrict => do
    let pid ← readU32
    let uid ← readU32
    let actionType ← readU32
    let rawComm ← readString 16
    return .dumpRestrict ⟨pid, uid, actionType, trimMatches nul rawComm⟩
  | .usernsRestrict => do
    let pid ← readU32
    let actionType ← readU32
    let rawTarget ← readString 64
    return .usernsRestrict ⟨pid, actionType, trimMatches nul rawTarget⟩
  | .madviseRatelimit => do
    let pid ← readU32
    let tid ← readU32
    let count ← readU32
    let actionType ← readU32
    let rawComm ← readString 16
    return .madviseRatelimit ⟨pid, tid, count, actionType, trimMatches nul rawComm⟩
  | .ioRestrict => do
    let pid ← readU32
    let actionType ← readU32
    let rawSyscall ← readString 16
    return .ioRestrict ⟨pid, actionType, trimMatches nul rawSyscall⟩

end Bodies

private theorem parseAtLeast_map {A B : Type} (minimum : Nat) (p : Parser A) (f : A → B)
    (data : List UInt8) :
    (parseAtLeast minimum p data).map f =
      parseAtLeast minimum (p >>= fun a => pure (f a)) data := by
  rw [parseAtLeast, parseAtLeast]
  by_cases short : data.length < minimum
  · rw [if_pos short, if_pos short]
    rfl
  · rw [if_neg short, if_neg short]
    change Except.map f ((fun x => x.1) <$> p (.new data)) =
      (fun x => x.1) <$> (p (.new data) >>= fun x => pure (f x.1, x.2))
    cases p (.new data) <;> rfl

theorem tryFromBytes_eq_body (e : Endian) (m : Module) (data : List UInt8) :
    m.tryFromBytes e data = parseAtLeast m.minimum (m.body (readU32 e) readString) data := by
  cases m <;>
  · refine (parseAtLeast_map _ _ _ data).trans ?_
    simp only [bind_assoc, pure_bind]
    rfl

section Panics

/-- A computation that may panic: `none` is a slice out of range. -/
abbrev Panicking (A : Type) := StateT BpfReader (ExceptT String Option) A

/-- `&data[start..stop]` -/
def slice (data : List UInt8) (start stop : Nat) : Option (List UInt8) :=
  if start ≤ stop ∧ stop ≤ data.length then some ((data.drop start).take (stop - start))
  else none

/-- `read_u32` with its slicing left to panic. -/
def readU32Slicing (e : Endian) : Panicking UInt32 := fun r => ExceptT.mk <|
  if r.offset + 4 > r.data.length then
    some (.error "Buffer underrun: Failed to isolate u32 block.")
  else do
    let bytes ← slice r.data r.offset (r.offset + 4)
    some (.ok (fromNeBytes e bytes, { r with offset := r.offset + 4 }))

/-- `read_string` with its slicing left to panic, of the field and of its text. -/
def readStringSlicing (maxLen : Nat) : Panicking Text := fun r => ExceptT.mk <|
  if r.offset + maxLen > r.data.length then
    some (.error "Buffer underrun: String boundary exceeds payload size.")
  else do
    let pathBuffer ← slice r.data r.offset (r.offset + maxLen)
    let nullIndex := (pathBuffer.findIdx? (· == 0)).getD maxLen
    let raw ← slice pathBuffer 0 nullIndex
    some (.ok (sanitize (lossy raw), { r with offset := r.offset + maxLen }))

def parseAtLeastSlicing {A : Type} (minimum : Nat) (body : Panicking A) (data : List UInt8) :
    Option (Except String A) :=
  if data.length < minimum then
    some (.error "Telemetry payload violates minimum size constraints.")
  else (body.run' (.new data)).run

def Module.tryFromBytesSlicing (e : Endian) (m : Module) (data : List UInt8) :
    Option (Except String Alert) :=
  parseAtLeastSlicing m.minimum (m.body (readU32Slicing e) readStringSlicing) data

/-- A parser that cannot panic, among those that can. -/
def settled {A : Type} (p : Parser A) : Panicking A := fun r => some (p r)

theorem settled_pure {A : Type} (a : A) : settled (pure a) = pure a := rfl

theorem settled_bind {A B : Type} (p : Parser A) (f : A → Parser B) :
    settled (p >>= f) = settled p >>= fun a => settled (f a) := by
  funext r
  change some (p r >>= fun x => f x.1 x.2) =
    ExceptT.run (some (p r) >>= fun x => settled (f x.1) x.2)
  cases shape : p r with
  | error e => rfl
  | ok x => rfl

theorem settled_body (u32 : Parser UInt32) (string : Nat → Parser Text) (m : Module) :
    m.body (settled u32) (fun n => settled (string n)) = settled (m.body u32 string) := by
  cases m <;> simp only [Module.body, settled_bind, settled_pure]

private theorem settled_readU32 (e : Endian) : settled (readU32 e) = readU32Slicing e := by
  funext r
  rw [settled, readU32, readU32Slicing]
  by_cases short : r.offset + 4 > r.data.length
  · rw [if_pos short, if_pos short]
    rfl
  · have inside : slice r.data r.offset (r.offset + 4) =
        some ((r.data.drop r.offset).take 4) := by
      rw [slice, if_pos ⟨by omega, by omega⟩, Nat.add_sub_cancel_left]
    rw [if_neg short, if_neg short, inside]
    rfl

/-- The position of the first NUL, or the end of the field, cuts off its text. -/
private theorem slice_nullIndex {pathBuffer : List UInt8} {maxLen : Nat}
    (length : pathBuffer.length = maxLen) :
    slice pathBuffer 0 ((pathBuffer.findIdx? (· == 0)).getD maxLen) =
      some (pathBuffer.takeWhile (· != 0)) := by
  have index : (pathBuffer.findIdx? (· == 0)).getD maxLen = pathBuffer.findIdx (· == 0) := by
    rw [List.findIdx_eq_getD_findIdx?, length]
  have bound : pathBuffer.findIdx (· == 0) ≤ pathBuffer.length := List.findIdx_le_length
  have before : pathBuffer.takeWhile (· != 0) =
      pathBuffer.take (pathBuffer.findIdx (· == 0)) := by
    rw [List.takeWhile_eq_take_findIdx_not]
    simp [bne]
  rw [index, slice, if_pos ⟨Nat.zero_le _, bound⟩, before]
  rfl

private theorem settled_readString (maxLen : Nat) :
    settled (readString maxLen) = readStringSlicing maxLen := by
  funext r
  rw [settled, readString, readStringSlicing]
  by_cases short : r.offset + maxLen > r.data.length
  · rw [if_pos short, if_pos short]
    rfl
  · have inside : slice r.data r.offset (r.offset + maxLen) =
        some ((r.data.drop r.offset).take maxLen) := by
      rw [slice, if_pos ⟨by omega, by omega⟩, Nat.add_sub_cancel_left]
    have length : ((r.data.drop r.offset).take maxLen).length = maxLen := by
      rw [List.length_take, List.length_drop]
      omega
    rw [if_neg short, if_neg short, inside]
    simp only [Option.bind_eq_bind, Option.bind_some, slice_nullIndex length]
    rfl

/-- No slice of a parser is ever out of range. -/
theorem tryFromBytesSlicing_eq (e : Endian) (m : Module) (data : List UInt8) :
    m.tryFromBytesSlicing e data = some (m.tryFromBytes e data) := by
  have strings : readStringSlicing = fun n => settled (readString n) := by
    funext n
    exact (settled_readString n).symm
  rw [tryFromBytes_eq_body, Module.tryFromBytesSlicing, ← settled_readU32, strings,
    settled_body, parseAtLeastSlicing, parseAtLeast]
  by_cases short : data.length < m.minimum
  · rw [if_pos short, if_pos short]
  · rw [if_neg short, if_neg short]
    change ExceptT.run ((fun x => x.1) <$> (some (m.body (readU32 e) readString (.new data)) :
      ExceptT String Option _)) =
      some ((fun x => x.1) <$> m.body (readU32 e) readString (.new data))
    cases m.body (readU32 e) readString (.new data) <;> rfl

end Panics

section Assembly

variable (e : Endian) (data : List UInt8)

def wordAt (offset : Nat) : UInt32 := fromNeBytes e ((data.drop offset).take 4)

/-- The bytes of a field, given by its offset and length. -/
def fieldAt (field : Nat × Nat) : List UInt8 := (data.drop field.1).take field.2

def stringAt (field : Nat × Nat) : Text := decodeString (fieldAt data field)

/-- What a parser makes of a payload that is long enough. -/
def Module.assemble : Module → Alert
  | .execBlock => .execBlock ⟨wordAt e data 0, stringAt data (4, 4096)⟩
  | .renameEntropy => .renameEntropy ⟨wordAt e data 0, wordAt e data 4,
      joinPath (stringAt data (8, 4096)) (stringAt data (4104, 256))⟩
  | .shield => .shield ⟨wordAt e data 0, wordAt e data 4, stringAt data (8, 4096)⟩
  | .mountSecure => .mountSecure ⟨wordAt e data 0, stringAt data (4, 256),
      stringAt data (260, 64), stringAt data (324, 512)⟩
  | .strictWx => .strictWx ⟨wordAt e data 0, stringAt data (4, 16)⟩
  | .ptraceBlock => .ptraceBlock
      ⟨wordAt e data 0, wordAt e data 4, wordAt e data 8, stringAt data (12, 16)⟩
  | .dumpRestrict => .dumpRestrict
      ⟨wordAt e data 0, wordAt e data 4, wordAt e data 8, stringAt data (12, 16)⟩
  | .usernsRestrict => .usernsRestrict ⟨wordAt e data 0, wordAt e data 4, stringAt data (8, 64)⟩
  | .madviseRatelimit => .madviseRatelimit ⟨wordAt e data 0, wordAt e data 4, wordAt e data 8,
      wordAt e data 12, stringAt data (16, 16)⟩
  | .ioRestrict => .ioRestrict ⟨wordAt e data 0, wordAt e data 4, stringAt data (8, 16)⟩

variable {data}

private theorem readU32_at {offset : Nat} (inside : offset + 4 ≤ data.length) :
    readU32 e ⟨data, offset⟩ = .ok (wordAt e data offset, ⟨data, offset + 4⟩) := by
  rw [readU32, if_neg (Nat.not_lt.mpr inside)]
  rfl

private theorem readString_at {offset maxLen : Nat} (inside : offset + maxLen ≤ data.length) :
    readString maxLen ⟨data, offset⟩ =
      .ok (stringAt data (offset, maxLen), ⟨data, offset + maxLen⟩) := by
  rw [readString, if_neg (Nat.not_lt.mpr inside)]
  rfl

private theorem bind_at {A B : Type} {p : Parser A} {f : A → Parser B} {r r' : BpfReader} {a : A}
    (read : p r = .ok (a, r')) : (p >>= f) r = f a r' := by
  change (p r >>= fun x => f x.1 x.2) = f a r'
  rw [read]
  rfl

private theorem body_run (m : Module) (enough : m.minimum ≤ data.length) :
    m.body (readU32 e) readString (.new data) =
      .ok (m.assemble e data, ⟨data, m.minimum⟩) := by
  cases m <;> simp only [Module.minimum] at enough <;>
    simp only [Module.body, BpfReader.new] <;>
    repeat (first
      | rw [bind_at (readU32_at e (by omega))]
      | rw [bind_at (readString_at (by omega))])
  all_goals simp only [stringAt, trimMatches_decodeString]
  all_goals rfl

theorem tryFromBytes_of_enough {m : Module} (enough : m.minimum ≤ data.length) :
    m.tryFromBytes e data = .ok (m.assemble e data) := by
  rw [tryFromBytes_eq_body, parseAtLeast, if_neg (Nat.not_lt.mpr enough)]
  change (fun x => x.1) <$> m.body (readU32 e) readString (.new data) = _
  rw [body_run e m enough]
  rfl

theorem tryFromBytes_of_short {m : Module} (short : data.length < m.minimum) :
    m.tryFromBytes e data = .error "Telemetry payload violates minimum size constraints." := by
  rw [tryFromBytes_eq_body, parseAtLeast, if_pos short]

theorem tryFromBytes_ok_iff (m : Module) (data : List UInt8) :
    (∃ alert, m.tryFromBytes e data = .ok alert) ↔ m.minimum ≤ data.length := by
  constructor
  · rintro ⟨alert, parsed⟩
    by_contra short
    rw [tryFromBytes_of_short e (Nat.not_le.mp short)] at parsed
    cases parsed
  · intro enough
    exact ⟨_, tryFromBytes_of_enough e enough⟩

private theorem wordAt_take {n offset : Nat} (inside : offset + 4 ≤ n) :
    wordAt e (data.take n) offset = wordAt e data offset := by
  rw [wordAt, List.drop_take, List.take_take, Nat.min_eq_left (by omega)]
  rfl

private theorem stringAt_take {n : Nat} {field : Nat × Nat} (inside : field.1 + field.2 ≤ n) :
    stringAt (data.take n) field = stringAt data field := by
  rw [stringAt, fieldAt, List.drop_take, List.take_take, Nat.min_eq_left (by omega)]
  rfl

private theorem assemble_take (m : Module) :
    m.assemble e (data.take m.minimum) = m.assemble e data := by
  cases m <;>
    simp (disch := decide) only [Module.minimum, Module.assemble, wordAt_take, stringAt_take]

/-- A parser sees nothing behind its minimum. -/
theorem tryFromBytes_take (m : Module) (data : List UInt8) :
    m.tryFromBytes e (data.take m.minimum) = m.tryFromBytes e data := by
  by_cases enough : m.minimum ≤ data.length
  · have length : (data.take m.minimum).length = m.minimum := List.length_take_of_le enough
    rw [tryFromBytes_of_enough e enough, tryFromBytes_of_enough e length.ge, assemble_take]
  · rw [List.take_of_length_le (by omega)]

end Assembly

section Sanitised

/-- Every `String` field of a parsed alert. -/
def strings : Alert → List Text
  | .execBlock a => [a.path]
  | .renameEntropy a => [a.fullPath]
  | .shield a => [a.target]
  | .mountSecure a => [a.devName, a.fsType, a.mountPoint]
  | .strictWx a => [a.syscall]
  | .ptraceBlock a => [a.targetComm]
  | .dumpRestrict a => [a.comm]
  | .usernsRestrict a => [a.target]
  | .madviseRatelimit a => [a.comm]
  | .ioRestrict a => [a.syscall]

/-- Where a module's record has its strings: offset and length of each. -/
def Module.stringFields : Module → List (Nat × Nat)
  | .execBlock => [(4, 4096)]
  | .renameEntropy => [(8, 4096), (4104, 256)]
  | .shield => [(8, 4096)]
  | .mountSecure => [(4, 256), (260, 64), (324, 512)]
  | .strictWx => [(4, 16)]
  | .ptraceBlock => [(12, 16)]
  | .dumpRestrict => [(12, 16)]
  | .usernsRestrict => [(8, 64)]
  | .madviseRatelimit => [(16, 16)]
  | .ioRestrict => [(8, 16)]

/-- From the strings read to the `String` fields: only `rename_entropy` composes. -/
def Module.compose : Module → List Text → List Text
  | .renameEntropy, [dirPath, fileName] => [joinPath dirPath fileName]
  | _, read => read

def PrintableText (t : Text) : Prop := ∀ c ∈ t, 0x20 ≤ c.toNat ∧ c.toNat ≤ 0x7E

/-- The bytes of a `String`. -/
def asBytes (t : Text) : List UInt8 := t.flatMap String.utf8EncodeChar

theorem strings_assemble (e : Endian) (m : Module) (data : List UInt8) :
    strings (m.assemble e data) = m.compose (m.stringFields.map (stringAt data)) := by
  cases m <;> rfl

private theorem sanitized_printable (c : Char) :
    let kept := if !isAsciiGraphic c && c != ' ' then '?' else c
    0x20 ≤ kept.toNat ∧ kept.toNat ≤ 0x7E := by
  intro kept
  by_cases graphic : isAsciiGraphic c = true
  · have same : kept = c := by simp [kept, graphic]
    rw [same]
    simp only [isAsciiGraphic, Bool.and_eq_true, decide_eq_true_eq] at graphic
    omega
  · by_cases blank : c = ' '
    · subst blank
      decide
    · have replaced : kept = '?' := by simp [kept, graphic, blank]
      rw [replaced]
      decide

theorem printableText_sanitize (raw : Text) : PrintableText (sanitize raw) := by
  intro c member
  obtain ⟨original, _, rfl⟩ := List.mem_map.mp member
  exact sanitized_printable original

theorem PrintableText.joinPath {dirPath fileName : Text} (front : PrintableText dirPath)
    (back : PrintableText fileName) : PrintableText (joinPath dirPath fileName) := by
  intro c member
  rcases List.mem_append.mp member with inside | inside
  · exact front c ((List.rdropWhile_prefix _ dirPath).subset inside)
  · rcases List.mem_cons.mp inside with rfl | inside
    · decide
    · exact back c inside

theorem asBytes_of_printable {t : Text} (printable : PrintableText t) :
    asBytes t = t.map fun c => UInt8.ofNat c.toNat := by
  induction t with
  | nil => rfl
  | cons c rest ih =>
    have one : String.utf8EncodeChar c = [UInt8.ofNat c.toNat] :=
      if_pos (Nat.le_trans (printable c List.mem_cons_self).2 (by decide))
    have later := ih fun d member => printable d (List.mem_cons_of_mem _ member)
    rw [asBytes, List.flatMap_cons, one, ← asBytes, later]
    rfl

theorem printableBytes_asBytes {t : Text} (printable : PrintableText t) :
    PrintableBytes (asBytes t) := by
  rw [asBytes_of_printable printable]
  intro b member
  obtain ⟨c, inside, rfl⟩ := List.mem_map.mp member
  obtain ⟨above, below⟩ := printable c inside
  have value : (UInt8.ofNat c.toNat).toNat = c.toNat := by
    rw [UInt8.toNat_ofNat', Nat.mod_eq_of_lt (by omega)]
  rw [UInt8.le_iff_toNat_le, UInt8.le_iff_toNat_le, value]
  exact ⟨above, below⟩

/-- What a field decodes to is never longer than its text, and is its text exactly when that
is printable. -/
theorem decodeString_faithful (chunk : List UInt8) :
    (decodeString chunk).length ≤ (chunk.takeWhile (· != 0)).length ∧
    (asBytes (decodeString chunk) = chunk.takeWhile (· != 0) ↔
      PrintableBytes (chunk.takeWhile (· != 0))) := by
  have sanitised : PrintableText (decodeString chunk) := printableText_sanitize _
  constructor
  · rw [decodeString, sanitize, List.length_map]
    exact length_lossy_le _
  · constructor
    · intro same
      rw [← same]
      exact printableBytes_asBytes sanitised
    · intro printable
      have kept : decodeString chunk = text (chunk.takeWhile (· != 0)) := by
        have read := sanitize_lossy_append [] printable
        rwa [List.nil_append] at read
      rw [asBytes_of_printable sanitised, kept, text, List.map_map]
      conv_rhs => rw [← List.map_id (chunk.takeWhile (· != 0))]
      apply List.map_congr_left
      intro b member
      have low : b.toNat ≤ 0x7E := UInt8.le_iff_toNat_le.mp (printable b member).2
      change UInt8.ofNat (Char.ofNat b.toNat).toNat = b
      rw [toNat_ofNat_of_lt (by omega), UInt8.ofNat_toNat]

theorem printable_strings (e : Endian) (m : Module) (data : List UInt8) :
    ∀ t ∈ strings (m.assemble e data), PrintableText t := by
  have read (field : Nat × Nat) : PrintableText (stringAt data field) :=
    printableText_sanitize _
  have composed : PrintableText (joinPath (stringAt data (8, 4096)) (stringAt data (4104, 256))) :=
    (read _).joinPath (read _)
  intro t member
  rw [strings_assemble] at member
  cases m
  case renameEntropy =>
    rw [List.mem_singleton.mp member]
    exact composed
  all_goals
    obtain ⟨field, _, rfl⟩ := List.mem_map.mp member
    exact read field

end Sanitised

/-- For every payload: no slice is out of range; the parse succeeds exactly on payloads of at
least the minimum size, and looks at nothing behind it; all strings that come out are printable;
and a field's string is no longer than the text of the field, and is that text exactly when it
was printable. -/
theorem tryFromBytes_total (e : Endian) (m : Module) (data : List UInt8) :
    m.tryFromBytesSlicing e data = some (m.tryFromBytes e data) ∧
    ((∃ alert, m.tryFromBytes e data = .ok alert) ↔ m.minimum ≤ data.length) ∧
    (∀ other, other.take m.minimum = data.take m.minimum →
      m.tryFromBytes e other = m.tryFromBytes e data) ∧
    ∀ alert, m.tryFromBytes e data = .ok alert →
      (∀ t ∈ strings alert, PrintableText t) ∧
      strings alert = m.compose (m.stringFields.map (stringAt data)) ∧
      ∀ field ∈ m.stringFields,
        (stringAt data field).length ≤ ((fieldAt data field).takeWhile (· != 0)).length ∧
        (asBytes (stringAt data field) = (fieldAt data field).takeWhile (· != 0) ↔
          PrintableBytes ((fieldAt data field).takeWhile (· != 0))) := by
  refine ⟨tryFromBytesSlicing_eq e m data, tryFromBytes_ok_iff e m data, ?_, ?_⟩
  · intro other same
    rw [← tryFromBytes_take e m other, same, tryFromBytes_take]
  · intro alert parsed
    have enough := (tryFromBytes_ok_iff e m data).mp ⟨alert, parsed⟩
    rw [tryFromBytes_of_enough e enough, Except.ok.injEq] at parsed
    subst parsed
    exact ⟨printable_strings e m data, strings_assemble e m data,
      fun field _ => decodeString_faithful (fieldAt data field)⟩

end BouclierBleu.Telemetry.Totality
