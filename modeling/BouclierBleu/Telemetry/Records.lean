/- GID: BouclierBleu/Telemetry/Records
   source: bpf/*.bpf.c, the population of reserved records; bpf/headers/module_core.h
   digest: How each alert is written into reserved memory, and what is left there of the past. -/

import BouclierBleu.Library.Overwrites
import BouclierBleu.Telemetry.Totality

set_option autoImplicit false
set_option relaxedAutoImplicit false

namespace BouclierBleu.Telemetry.Records

open BouclierBleu.Kernel
open BouclierBleu.Kernel.AlertStructs
  (Endian ExecAlert RenameAlert ShieldAlert MountAlert StrictWxAlert PtraceAlert DumpAlert
    UsernsAlert MadviseAlert IoRestrictAlert CField padding layout layoutFrom u32Bytes charBytes
    length_u32Bytes length_charBytes)
open BouclierBleu.Kernel.ModuleCore (CStr)
open BouclierBleu.Library.LossyUtf8 (lossy)
open BouclierBleu.Library.Overwrites
open BouclierBleu.Telemetry.Reader
open BouclierBleu.Telemetry.Totality

/-- What a hook does to a record: `BPF_SAFE_MEMSET`, the assignment of a `__u32` member, a string
copied with its NUL into a `char` array, and a `__builtin_memcpy` of a whole struct. -/
inductive Write
  | zero
  | word (offset : Nat) (v : UInt32)
  | string (offset cap : Nat) (s : CStr cap)
  | memcpy (bytes : List UInt8)

def Write.apply (e : Endian) : Write → List UInt8 → List UInt8
  | .zero, record => List.replicate record.length 0
  | .word offset v, record => overwrite record offset (u32Bytes e v)
  | .string offset _ s, record => overwrite record offset (s.bytes ++ [0])
  | .memcpy bytes, record => overwrite record 0 bytes

def populate (e : Endian) (record : List UInt8) (writes : List Write) : List UInt8 :=
  writes.foldl (fun record write => write.apply e record) record

section Population

variable (e : Endian) (record : List UInt8)

/-- `exec_block_bprm_check` -/
def execRecord (a : ExecAlert) : List UInt8 :=
  populate e record [.word 0 a.pid, .string 4 4096 a.path]

/-- `rename_entropy_path_rename`; `resolved` says that the path of the directory was written. -/
def renameRecord (resolved : Bool) (a : RenameAlert) : List UInt8 :=
  populate e record
    ([.word 4 a.ppid, .word 0 a.pid] ++ (if resolved then [.string 8 4096 a.dirPath] else []) ++
      [.string 4104 256 a.fileName])

/-- `shield_file_open` and `BOUCLIER_ENFORCE_PRIVILEGE`. In a zeroed record, here and below, a
string that the source leaves out is the empty one. -/
def shieldRecord (a : ShieldAlert) : List UInt8 :=
  populate e record [.zero, .word 0 a.pid, .word 4 a.actionType, .string 8 4096 a.target]

/-- `dispatch_mount_alert` -/
def mountRecord (a : MountAlert) : List UInt8 :=
  populate e record [.zero, .word 0 a.pid, .string 260 64 a.fsType, .string 4 256 a.devName,
    .string 324 512 a.mountPoint]

/-- `enforce_strict_wx` -/
def strictWxRecord (a : StrictWxAlert) : List UInt8 :=
  populate e record [.zero, .word 0 a.pid, .string 4 16 a.syscall]

/-- `dispatch_ptrace_alert` -/
def ptraceRecord (a : PtraceAlert) : List UInt8 :=
  populate e record [.zero, .word 0 a.pid, .word 4 a.targetPid, .word 8 a.actionType,
    .string 12 16 a.targetComm]

/-- `dispatch_dump_alert` -/
def dumpRecord (a : DumpAlert) : List UInt8 :=
  populate e record [.zero, .word 0 a.pid, .word 4 a.uid, .word 8 a.actionType,
    .string 12 16 a.comm]

/-- `dump_restrict_bprm_check`; the payload is a whole struct off the queue. -/
def crashRecord (payload : DumpAlert) : List UInt8 :=
  populate e record [.memcpy ((AlertStructs.Alert.dumpRestrict payload).bytes e)]

/-- `dispatch_userns_alert` -/
def usernsRecord (a : UsernsAlert) : List UInt8 :=
  populate e record [.zero, .word 0 a.pid, .word 4 a.actionType, .string 8 64 a.target]

/-- `madvise_ratelimit_sys_enter` -/
def madviseRecord (a : MadviseAlert) : List UInt8 :=
  populate e record [.zero, .word 0 a.pid, .word 4 a.tid, .word 8 a.count, .word 12 a.actionType,
    .string 16 16 a.comm]

/-- `dispatch_io_alert` -/
def ioRecord (a : IoRestrictAlert) : List UInt8 :=
  populate e record [.zero, .word 0 a.tgid, .word 4 a.pid, .word 8 a.actionType,
    .string 12 16 a.syscall]

end Population

/-- `sizeof` of each struct. -/
def recordSize : Module → Nat
  | .execBlock => 4100
  | .renameEntropy => 4360
  | .shield => 4104
  | .mountSecure => 836
  | .strictWx => 20
  | .ptraceBlock => 28
  | .dumpRestrict => 28
  | .usernsRestrict => 72
  | .madviseRatelimit => 32
  | .ioRestrict => 28

/-- The module whose hooks submit an alert. -/
def moduleOf : AlertStructs.Alert → Module
  | .execBlock _ => .execBlock
  | .renameEntropy _ => .renameEntropy
  | .shield _ => .shield
  | .mountSecure _ => .mountSecure
  | .strictWx _ => .strictWx
  | .ptraceBlock _ => .ptraceBlock
  | .dumpRestrict _ => .dumpRestrict
  | .usernsRestrict _ => .usernsRestrict
  | .madviseRatelimit _ => .madviseRatelimit
  | .ioRestrict _ => .ioRestrict

/-- Every struct is as long as the record reserved for it. -/
theorem length_bytes (e : Endian) (a : AlertStructs.Alert) :
    (a.bytes e).length = recordSize (moduleOf a) := by
  cases a <;>
    simp [AlertStructs.Alert.bytes, AlertStructs.Alert.fields, layout,
      AlertStructs.layoutFrom_u32, layoutFrom, padding, moduleOf, recordSize]

/-- The record an alert is submitted in; in `rename_entropy`, with the path resolved. -/
def recordOf (e : Endian) (record : List UInt8) : AlertStructs.Alert → List UInt8
  | .execBlock a => execRecord e record a
  | .renameEntropy a => renameRecord e record true a
  | .shield a => shieldRecord e record a
  | .mountSecure a => mountRecord e record a
  | .strictWx a => strictWxRecord e record a
  | .ptraceBlock a => ptraceRecord e record a
  | .dumpRestrict a => dumpRecord e record a
  | .usernsRestrict a => usernsRecord e record a
  | .madviseRatelimit a => madviseRecord e record a
  | .ioRestrict a => ioRecord e record a

/-- The modules that begin with `BPF_SAFE_MEMSET`. -/
def zeroesRecord : Module → Bool
  | .execBlock | .renameEntropy => false
  | _ => true

section Zeroed

variable (e : Endian)

/-- The next multiple of four. -/
def aligned (offset : Nat) : Nat := (offset + 3) / 4 * 4

theorem aligned_eq (offset : Nat) : aligned offset = offset + (padding offset).length := by
  rw [aligned, padding, List.length_replicate]
  omega

/-- The members of a struct, assigned in declaration order from an offset on. -/
def writesFrom : Nat → List CField → List Write
  | _, [] => []
  | offset, .u32 v :: rest => .word (aligned offset) v :: writesFrom (aligned offset + 4) rest
  | offset, .chars cap s :: rest => .string offset cap s :: writesFrom (offset + cap) rest

/-- A word at the end of what has been written into a zeroed record. -/
private theorem word_next {front : List UInt8} {offset m : Nat} {v : UInt32}
    {writes : List Write} (here : front.length = offset) :
    populate e (front ++ List.replicate m 0) (.word offset v :: writes) =
      populate e (front ++ u32Bytes e v ++ List.replicate (m - 4) 0) writes := by
  change populate e (overwrite (front ++ List.replicate m 0) offset (u32Bytes e v)) writes = _
  rw [overwrite_append_replicate here, length_u32Bytes]

/-- A string there fills its array with the zeros that follow it. -/
private theorem string_next {front : List UInt8} {offset cap m : Nat} {s : CStr cap}
    {writes : List Write} (here : front.length = offset) (room : cap ≤ m) :
    populate e (front ++ List.replicate m 0) (.string offset cap s :: writes) =
      populate e (front ++ charBytes s ++ List.replicate (m - cap) 0) writes := by
  have fits := s.fits
  have nul : [(0 : UInt8)] = List.replicate 1 0 := rfl
  have tail : (s.bytes ++ [0]) ++ List.replicate (m - (s.bytes ++ [0]).length) 0 =
      charBytes s ++ List.replicate (m - cap) 0 := by
    rw [charBytes, List.length_append, List.length_singleton, nul, List.append_assoc,
      List.append_assoc, List.replicate_append_replicate, List.replicate_append_replicate]
    congr 2
    omega
  change populate e (overwrite (front ++ List.replicate m 0) offset (s.bytes ++ [0])) writes = _
  rw [overwrite_append_replicate here, List.append_assoc, tail, ← List.append_assoc]

/-- The zeros of the record are the padding of the struct and of its arrays. -/
private theorem populate_writesFrom {fields : List CField} {front : List UInt8} {offset m : Nat}
    (here : front.length = offset) (rest : m = (layoutFrom e offset fields).length) :
    populate e (front ++ List.replicate m 0) (writesFrom offset fields) =
      front ++ layoutFrom e offset fields := by
  induction fields generalizing front offset m with
  | nil =>
    rw [rest, layoutFrom, padding, List.length_replicate]
    rfl
  | cons field fields ih =>
    cases field with
    | u32 v =>
      rw [layoutFrom, List.length_append, List.length_append, length_u32Bytes] at rest
      have place : (front ++ padding offset).length = aligned offset := by
        rw [List.length_append, here, aligned_eq]
      have zeros : List.replicate m (0 : UInt8) =
          padding offset ++ List.replicate (m - (padding offset).length) 0 := by
        have whole : m = (padding offset).length + (m - (padding offset).length) := by omega
        conv_lhs => rw [whole, ← List.replicate_append_replicate]
        rw [padding, List.length_replicate]
      rw [← aligned_eq] at rest
      rw [layoutFrom, writesFrom, zeros, ← List.append_assoc, word_next e place, ← aligned_eq,
        ih (by rw [List.length_append, place, length_u32Bytes]) (by omega)]
      simp only [List.append_assoc]
    | chars cap s =>
      rw [layoutFrom, List.length_append, length_charBytes] at rest
      rw [layoutFrom, writesFrom, string_next e here (by omega),
        ih (by rw [List.length_append, here, length_charBytes]) (by omega), List.append_assoc]

/-- A zeroed record whose members are then assigned holds the bytes of the struct. -/
theorem populate_zero_fields {fields : List CField} {record : List UInt8}
    (sized : record.length = (layout e fields).length) :
    populate e record (.zero :: writesFrom 0 fields) = layout e fields := by
  have empty : ([] : List UInt8).length = 0 := rfl
  exact populate_writesFrom e empty sized

/-- `dispatch_mount_alert` fills in the filesystem type before the device name. -/
private theorem mountRecord_reorder {record : List UInt8} (sized : record.length = 836)
    (a : MountAlert) :
    mountRecord e record a =
      populate e record (.zero :: writesFrom 0 (AlertStructs.Alert.mountSecure a).fields) := by
  have device := a.devName.fits
  have kind := a.fsType.fits
  have written : mountRecord e record a =
      overwrite (overwrite (overwrite (overwrite (List.replicate record.length 0) 0
        (u32Bytes e a.pid)) 260 (a.fsType.bytes ++ [0])) 4 (a.devName.bytes ++ [0]))
        324 (a.mountPoint.bytes ++ [0]) := rfl
  have declared :
      populate e record (.zero :: writesFrom 0 (AlertStructs.Alert.mountSecure a).fields) =
      overwrite (overwrite (overwrite (overwrite (List.replicate record.length 0) 0
        (u32Bytes e a.pid)) 4 (a.devName.bytes ++ [0])) 260 (a.fsType.bytes ++ [0]))
        324 (a.mountPoint.bytes ++ [0]) := rfl
  have word : (overwrite (List.replicate record.length (0 : UInt8)) 0 (u32Bytes e a.pid)).length =
      836 := by
    rw [length_overwrite (by rw [length_u32Bytes, List.length_replicate]; omega),
      List.length_replicate, sized]
  have apart : 4 + (a.devName.bytes ++ [0]).length ≤ 260 := by
    rw [List.length_append, List.length_singleton]
    omega
  have fits : 260 + (a.fsType.bytes ++ [0]).length ≤
      (overwrite (List.replicate record.length (0 : UInt8)) 0 (u32Bytes e a.pid)).length := by
    rw [word, List.length_append, List.length_singleton]
    omega
  rw [written, declared, overwrite_comm apart fits]

private theorem populate_zero_bytes {record : List UInt8} {a : AlertStructs.Alert}
    (sized : record.length = recordSize (moduleOf a)) :
    populate e record (.zero :: writesFrom 0 a.fields) = a.bytes e :=
  populate_zero_fields e (sized.trans (length_bytes e a).symm)

/-- The record of a module that zeroes it first is the struct, whatever the record held. -/
theorem recordOf_of_zeroes {record : List UInt8} {a : AlertStructs.Alert}
    (zeroes : zeroesRecord (moduleOf a) = true)
    (sized : record.length = recordSize (moduleOf a)) : recordOf e record a = a.bytes e := by
  have declared := populate_zero_bytes e sized
  cases a with
  | execBlock a => cases zeroes
  | renameEntropy a => cases zeroes
  | mountSecure a => exact (mountRecord_reorder e sized a).trans declared
  | _ => exact declared

/-- The handler's record is a copy of the struct on the queue. -/
theorem crashRecord_eq {record : List UInt8} (sized : record.length = recordSize .dumpRestrict)
    (payload : DumpAlert) :
    crashRecord e record payload = (AlertStructs.Alert.dumpRestrict payload).bytes e := by
  have length : ((AlertStructs.Alert.dumpRestrict payload).bytes e).length = record.length :=
    (length_bytes e (.dumpRestrict payload)).trans sized.symm
  change overwrite record 0 _ = _
  rw [overwrite, List.take_zero, List.nil_append, Nat.zero_add, length,
    List.drop_length, List.append_nil]

end Zeroed

section Decoded

variable (e : Endian) {record : List UInt8}

/-- What the parser shows of a string in an array. -/
def shown {cap : Nat} (s : CStr cap) : Text := sanitize (lossy s.bytes)

theorem sanitize_lossy_of_printable {bytes : List UInt8} (printable : PrintableBytes bytes) :
    sanitize (lossy bytes) = text bytes := by
  rw [← List.nil_append bytes, sanitize_lossy_append [] printable]
  rfl

/-- Nothing behind the NUL is seen. -/
theorem decodeString_terminated {cap : Nat} (s : CStr cap) (junk : List UInt8) :
    decodeString (s.bytes ++ [0] ++ junk) = shown s := by
  rw [decodeString, List.append_assoc, List.takeWhile_append_of_pos (by simpa using s.noNul),
    List.singleton_append, List.takeWhile_cons_of_neg (by decide), List.append_nil]
  rfl

private theorem wordAt_word {offset : Nat} {v : UInt32} (fits : offset + 4 ≤ record.length) :
    wordAt e (overwrite record offset (u32Bytes e v)) offset = v := by
  have read : ((overwrite record offset (u32Bytes e v)).drop offset).take (u32Bytes e v).length =
      u32Bytes e v := read_overwrite_self (by rwa [length_u32Bytes])
  rw [length_u32Bytes] at read
  rw [wordAt, read, fromNeBytes_u32Bytes]

private theorem wordAt_before {offset start : Nat} {new : List UInt8}
    (apart : start + 4 ≤ offset) (inside : offset ≤ record.length) :
    wordAt e (overwrite record offset new) start = wordAt e record start := by
  rw [wordAt, read_overwrite_before apart inside, wordAt]

private theorem wordAt_after {offset start : Nat} {new : List UInt8}
    (apart : offset + new.length ≤ start) (fits : offset + new.length ≤ record.length) :
    wordAt e (overwrite record offset new) start = wordAt e record start := by
  rw [wordAt, drop_overwrite_after apart fits, wordAt]

private theorem stringAt_string {offset cap : Nat} {s : CStr cap}
    (fits : offset + cap ≤ record.length) :
    stringAt (overwrite record offset (s.bytes ++ [0])) (offset, cap) = shown s := by
  have room := s.fits
  have length : (s.bytes ++ [0]).length = s.bytes.length + 1 := by
    rw [List.length_append, List.length_singleton]
  rw [stringAt, fieldAt, read_overwrite_beyond (by omega) (by omega), decodeString_terminated]

private theorem stringAt_before {offset start n : Nat} {new : List UInt8}
    (apart : start + n ≤ offset) (inside : offset ≤ record.length) :
    stringAt (overwrite record offset new) (start, n) = stringAt record (start, n) := by
  rw [stringAt, fieldAt, read_overwrite_before apart inside, stringAt, fieldAt]

private theorem stringAt_after {offset start n : Nat} {new : List UInt8}
    (apart : offset + new.length ≤ start) (fits : offset + new.length ≤ record.length) :
    stringAt (overwrite record offset new) (start, n) = stringAt record (start, n) := by
  rw [stringAt, fieldAt, drop_overwrite_after apart fits, stringAt, fieldAt]

private theorem length_word {offset : Nat} {v : UInt32} (fits : offset + 4 ≤ record.length) :
    (overwrite record offset (u32Bytes e v)).length = record.length :=
  length_overwrite (by rwa [length_u32Bytes])

private theorem length_string {offset cap : Nat} (s : CStr cap)
    (fits : offset + cap ≤ record.length) :
    (overwrite record offset (s.bytes ++ [0])).length = record.length := by
  have room := s.fits
  apply length_overwrite
  rw [List.length_append, List.length_singleton]
  omega

/-- An `exec_block` record decodes to its two members, whatever was there before. -/
theorem execRecord_decoded (sized : record.length = recordSize .execBlock) (a : ExecAlert) :
    Module.execBlock.tryFromBytes e (execRecord e record a) =
      .ok (.execBlock ⟨a.pid, shown a.path⟩) := by
  have shape : execRecord e record a =
      overwrite (overwrite record 0 (u32Bytes e a.pid)) 4 (a.path.bytes ++ [0]) := rfl
  have start : record.length = 4100 := sized
  have word : (overwrite record 0 (u32Bytes e a.pid)).length = 4100 :=
    (length_word e (by omega)).trans start
  have whole : (execRecord e record a).length = 4100 := by
    rw [shape, length_string a.path (by omega), word]
  have pid : wordAt e (execRecord e record a) 0 = a.pid := by
    rw [shape, wordAt_before e (by omega) (by omega), wordAt_word e (by omega)]
  have path : stringAt (execRecord e record a) (4, 4096) = shown a.path := by
    rw [shape, stringAt_string (by omega)]
  have enough : Module.execBlock.minimum ≤ (execRecord e record a).length :=
    Nat.le_of_eq whole.symm
  rw [tryFromBytes_of_enough e enough, Module.assemble, pid, path]

/-- The two ids of a `rename_entropy` record, in front of what its strings held before. -/
private theorem rename_ids (sized : record.length = 4360) (pid ppid : UInt32) :
    let r := overwrite (overwrite record 4 (u32Bytes e ppid)) 0 (u32Bytes e pid)
    r.length = 4360 ∧ wordAt e r 0 = pid ∧ wordAt e r 4 = ppid ∧
      stringAt r (8, 4096) = stringAt record (8, 4096) := by
  intro r
  have word : (overwrite record 4 (u32Bytes e ppid)).length = 4360 :=
    (length_word e (by omega)).trans sized
  have four (v : UInt32) : (u32Bytes e v).length = 4 := length_u32Bytes e v
  refine ⟨(length_word e (by omega)).trans word, wordAt_word e (by omega), ?_, ?_⟩
  · rw [wordAt_after e (by rw [four]) (by rw [four]; omega), wordAt_word e (by omega)]
  · rw [stringAt_after (by rw [four]; omega) (by rw [four]; omega),
      stringAt_after (by rw [four]) (by rw [four]; omega)]

/-- A `rename_entropy` record decodes to its members, but for the path of the directory when
that was not written: there the parser shows what the record held before. -/
theorem renameRecord_decoded (sized : record.length = recordSize .renameEntropy)
    (resolved : Bool) (a : RenameAlert) :
    Module.renameEntropy.tryFromBytes e (renameRecord e record resolved a) =
      .ok (.renameEntropy ⟨a.pid, a.ppid,
        Parsers.joinPath (if resolved then shown a.dirPath else stringAt record (8, 4096))
          (shown a.fileName)⟩) := by
  obtain ⟨length, pid, ppid, stale⟩ := rename_ids e sized a.pid a.ppid
  generalize ids : overwrite (overwrite record 4 (u32Bytes e a.ppid)) 0 (u32Bytes e a.pid) = r
    at length pid ppid stale
  -- the record before the name of the file is written
  obtain ⟨r', shape, length', pid', ppid', dir⟩ : ∃ r' : List UInt8,
      renameRecord e record resolved a = overwrite r' 4104 (a.fileName.bytes ++ [0]) ∧
      r'.length = 4360 ∧ wordAt e r' 0 = a.pid ∧ wordAt e r' 4 = a.ppid ∧
      stringAt r' (8, 4096) =
        if resolved then shown a.dirPath else stringAt record (8, 4096) := by
    cases resolved with
    | false =>
      refine ⟨r, ?_, length, pid, ppid, stale⟩
      rw [← ids]
      rfl
    | true =>
      refine ⟨overwrite r 8 (a.dirPath.bytes ++ [0]), ?_,
        (length_string a.dirPath (by omega)).trans length, ?_, ?_, stringAt_string (by omega)⟩
      · rw [← ids]
        rfl
      · exact (wordAt_before e (by omega) (by omega)).trans pid
      · exact (wordAt_before e (by omega) (by omega)).trans ppid
  have whole : (overwrite r' 4104 (a.fileName.bytes ++ [0])).length = 4360 :=
    (length_string a.fileName (by omega)).trans length'
  have enough : Module.renameEntropy.minimum ≤
      (overwrite r' 4104 (a.fileName.bytes ++ [0])).length := Nat.le_of_eq whole.symm
  rw [shape, tryFromBytes_of_enough e enough, Module.assemble,
    wordAt_before e (by omega) (by omega), wordAt_before e (by omega) (by omega),
    stringAt_before (by omega) (by omega), stringAt_string (by omega), pid', ppid', dir]

end Decoded

end BouclierBleu.Telemetry.Records
