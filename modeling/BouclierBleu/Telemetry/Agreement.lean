/- GID: BouclierBleu/Telemetry/Agreement
   source: bpf/*.bpf.c, modules/src/*.rs
   digest: When a parser reads back the fields the kernel laid out. -/

import BouclierBleu.Telemetry.Parsers

set_option autoImplicit false
set_option relaxedAutoImplicit false

namespace BouclierBleu.Telemetry.Agreement

open BouclierBleu.Kernel
open BouclierBleu.Kernel.AlertStructs
open BouclierBleu.Kernel.ModuleCore (CStr)
open BouclierBleu.Library.LossyUtf8 (lossy)
open BouclierBleu.Telemetry.Reader

/-- The parser of the module an alert comes from. -/
def tryFromBytes (e : Endian) (a : AlertStructs.Alert) (data : List UInt8) :
    Except String Parsers.Alert :=
  match a with
  | .execBlock _ => (Parsers.ExecAlert.tryFromBytes e data).map .execBlock
  | .renameEntropy _ => (Parsers.RenameAlert.tryFromBytes e data).map .renameEntropy
  | .shield _ => (Parsers.ShieldAlert.tryFromBytes e data).map .shield
  | .mountSecure _ => (Parsers.MountAlert.tryFromBytes e data).map .mountSecure
  | .strictWx _ => (Parsers.StrictWxAlert.tryFromBytes e data).map .strictWx
  | .ptraceBlock _ => (Parsers.PtraceAlert.tryFromBytes e data).map .ptraceBlock
  | .dumpRestrict _ => (Parsers.DumpAlert.tryFromBytes e data).map .dumpRestrict
  | .usernsRestrict _ => (Parsers.UsernsAlert.tryFromBytes e data).map .usernsRestrict
  | .madviseRatelimit _ => (Parsers.MadviseAlert.tryFromBytes e data).map .madviseRatelimit
  | .ioRestrict _ => (Parsers.IoRestrictAlert.tryFromBytes e data).map .ioRestrict

/-- The alert whose fields are the kernel's: the PID is the process id the handler prints,
which `io_restrict` keeps in `tgid`. -/
def mirror : AlertStructs.Alert → Parsers.Alert
  | .execBlock a => .execBlock ⟨a.pid, text a.path.bytes⟩
  | .renameEntropy a => .renameEntropy
      ⟨a.pid, a.ppid, Parsers.joinPath (text a.dirPath.bytes) (text a.fileName.bytes)⟩
  | .shield a => .shield ⟨a.pid, a.actionType, text a.target.bytes⟩
  | .mountSecure a => .mountSecure
      ⟨a.pid, text a.devName.bytes, text a.fsType.bytes, text a.mountPoint.bytes⟩
  | .strictWx a => .strictWx ⟨a.pid, text a.syscall.bytes⟩
  | .ptraceBlock a => .ptraceBlock ⟨a.pid, a.targetPid, a.actionType, text a.targetComm.bytes⟩
  | .dumpRestrict a => .dumpRestrict ⟨a.pid, a.uid, a.actionType, text a.comm.bytes⟩
  | .usernsRestrict a => .usernsRestrict ⟨a.pid, a.actionType, text a.target.bytes⟩
  | .madviseRatelimit a => .madviseRatelimit
      ⟨a.pid, a.tid, a.count, a.actionType, text a.comm.bytes⟩
  | .ioRestrict a => .ioRestrict ⟨a.tgid, a.actionType, text a.syscall.bytes⟩

/-- Every string of the alert is printable ASCII. -/
def Printable : AlertStructs.Alert → Prop
  | .execBlock a => PrintableBytes a.path.bytes
  | .renameEntropy a => PrintableBytes a.dirPath.bytes ∧ PrintableBytes a.fileName.bytes
  | .shield a => PrintableBytes a.target.bytes
  | .mountSecure a => PrintableBytes a.devName.bytes ∧ PrintableBytes a.fsType.bytes ∧
      PrintableBytes a.mountPoint.bytes
  | .strictWx a => PrintableBytes a.syscall.bytes
  | .ptraceBlock a => PrintableBytes a.targetComm.bytes
  | .dumpRestrict a => PrintableBytes a.comm.bytes
  | .usernsRestrict a => PrintableBytes a.target.bytes
  | .madviseRatelimit a => PrintableBytes a.comm.bytes
  | .ioRestrict a => PrintableBytes a.syscall.bytes

/-- The bytes of `action_type` in front of the first zero byte; in `io_restrict` they stand
where the parser looks for the start of the syscall name. -/
def actionPrefix (e : Endian) (a : AlertStructs.IoRestrictAlert) : List UInt8 :=
  (u32Bytes e a.actionType).takeWhile (· != 0)

/-- When the shifted `io_restrict` record happens to read back as it was meant: both numbers
agree, and the syscall name is what the prefix turns into, followed by its own first twelve
characters if the prefix has no zero byte to stop at. -/
def ShiftAgrees (e : Endian) (a : AlertStructs.IoRestrictAlert) : Prop :=
  a.pid = a.actionType ∧
    sanitize (lossy (actionPrefix e a)) ++
      (if (actionPrefix e a).length < 4 then [] else (text a.syscall.bytes).take 12) =
      text a.syscall.bytes

def Agrees (e : Endian) : AlertStructs.Alert → Prop
  | .ioRestrict a => ShiftAgrees e a
  | _ => True

section Modules

variable (e : Endian)

private theorem trim_text {cap : Nat} {s : CStr cap} (printable : PrintableBytes s.bytes) :
    Parsers.trimMatches Parsers.nul (text s.bytes) = text s.bytes := by
  rw [← decodeString_charBytes printable]
  exact Parsers.trimMatches_decodeString _

theorem execBlock_agrees (a : AlertStructs.ExecAlert) (path : PrintableBytes a.path.bytes) :
    Parsers.ExecAlert.tryFromBytes e ((AlertStructs.Alert.execBlock a).bytes e) =
      .ok ⟨a.pid, text a.path.bytes⟩ := by
  have shape : (AlertStructs.Alert.execBlock a).bytes e =
      u32Bytes e a.pid ++ charBytes a.path := by
    simp [Alert.bytes, Alert.fields, layout, layoutFrom_u32, layoutFrom, padding]
  refine Parsers.parseAtLeast_of_reads_all ?_ shape (by simp [shape])
  exact (reads_readU32 e a.pid).bind (reads_readString path).bind_pure

theorem renameEntropy_agrees (a : AlertStructs.RenameAlert)
    (dirPath : PrintableBytes a.dirPath.bytes) (fileName : PrintableBytes a.fileName.bytes) :
    Parsers.RenameAlert.tryFromBytes e ((AlertStructs.Alert.renameEntropy a).bytes e) =
      .ok ⟨a.pid, a.ppid, Parsers.joinPath (text a.dirPath.bytes) (text a.fileName.bytes)⟩ := by
  have shape : (AlertStructs.Alert.renameEntropy a).bytes e =
      u32Bytes e a.pid ++ (u32Bytes e a.ppid ++ (charBytes a.dirPath ++
        charBytes a.fileName)) := by
    simp [Alert.bytes, Alert.fields, layout, layoutFrom_u32, layoutFrom, padding]
  refine Parsers.parseAtLeast_of_reads_all ?_ shape (by simp [shape])
  exact (reads_readU32 e a.pid).bind ((reads_readU32 e a.ppid).bind
    ((reads_readString dirPath).bind (reads_readString fileName).bind_pure))

theorem shield_agrees (a : AlertStructs.ShieldAlert) (target : PrintableBytes a.target.bytes) :
    Parsers.ShieldAlert.tryFromBytes e ((AlertStructs.Alert.shield a).bytes e) =
      .ok ⟨a.pid, a.actionType, text a.target.bytes⟩ := by
  have shape : (AlertStructs.Alert.shield a).bytes e =
      u32Bytes e a.pid ++ (u32Bytes e a.actionType ++ charBytes a.target) := by
    simp [Alert.bytes, Alert.fields, layout, layoutFrom_u32, layoutFrom, padding]
  refine Parsers.parseAtLeast_of_reads_all ?_ shape (by simp [shape])
  exact (reads_readU32 e a.pid).bind ((reads_readU32 e a.actionType).bind
    (reads_readString target).bind_pure)

theorem mountSecure_agrees (a : AlertStructs.MountAlert)
    (devName : PrintableBytes a.devName.bytes) (fsType : PrintableBytes a.fsType.bytes)
    (mountPoint : PrintableBytes a.mountPoint.bytes) :
    Parsers.MountAlert.tryFromBytes e ((AlertStructs.Alert.mountSecure a).bytes e) =
      .ok ⟨a.pid, text a.devName.bytes, text a.fsType.bytes, text a.mountPoint.bytes⟩ := by
  have shape : (AlertStructs.Alert.mountSecure a).bytes e =
      u32Bytes e a.pid ++ (charBytes a.devName ++ (charBytes a.fsType ++
        charBytes a.mountPoint)) := by
    simp [Alert.bytes, Alert.fields, layout, layoutFrom_u32, layoutFrom, padding]
  refine Parsers.parseAtLeast_of_reads_all ?_ shape (by simp [shape])
  exact (reads_readU32 e a.pid).bind ((reads_readString devName).bind
    ((reads_readString fsType).bind (reads_readString mountPoint).bind_pure))

theorem strictWx_agrees (a : AlertStructs.StrictWxAlert)
    (syscall : PrintableBytes a.syscall.bytes) :
    Parsers.StrictWxAlert.tryFromBytes e ((AlertStructs.Alert.strictWx a).bytes e) =
      .ok ⟨a.pid, text a.syscall.bytes⟩ := by
  have shape : (AlertStructs.Alert.strictWx a).bytes e =
      u32Bytes e a.pid ++ charBytes a.syscall := by
    simp [Alert.bytes, Alert.fields, layout, layoutFrom_u32, layoutFrom, padding]
  refine Parsers.parseAtLeast_of_reads_all ?_ shape (by simp [shape])
  exact (reads_readU32 e a.pid).bind (reads_readString syscall).bind_pure

theorem ptraceBlock_agrees (a : AlertStructs.PtraceAlert)
    (targetComm : PrintableBytes a.targetComm.bytes) :
    Parsers.PtraceAlert.tryFromBytes e ((AlertStructs.Alert.ptraceBlock a).bytes e) =
      .ok ⟨a.pid, a.targetPid, a.actionType, text a.targetComm.bytes⟩ := by
  have shape : (AlertStructs.Alert.ptraceBlock a).bytes e =
      u32Bytes e a.pid ++ (u32Bytes e a.targetPid ++ (u32Bytes e a.actionType ++
        charBytes a.targetComm)) := by
    simp [Alert.bytes, Alert.fields, layout, layoutFrom_u32, layoutFrom, padding]
  rw [← trim_text targetComm]
  refine Parsers.parseAtLeast_of_reads_all ?_ shape (by simp [shape])
  exact (reads_readU32 e a.pid).bind ((reads_readU32 e a.targetPid).bind
    ((reads_readU32 e a.actionType).bind (reads_readString targetComm).bind_pure))

theorem dumpRestrict_agrees (a : AlertStructs.DumpAlert) (comm : PrintableBytes a.comm.bytes) :
    Parsers.DumpAlert.tryFromBytes e ((AlertStructs.Alert.dumpRestrict a).bytes e) =
      .ok ⟨a.pid, a.uid, a.actionType, text a.comm.bytes⟩ := by
  have shape : (AlertStructs.Alert.dumpRestrict a).bytes e =
      u32Bytes e a.pid ++ (u32Bytes e a.uid ++ (u32Bytes e a.actionType ++
        charBytes a.comm)) := by
    simp [Alert.bytes, Alert.fields, layout, layoutFrom_u32, layoutFrom, padding]
  rw [← trim_text comm]
  refine Parsers.parseAtLeast_of_reads_all ?_ shape (by simp [shape])
  exact (reads_readU32 e a.pid).bind ((reads_readU32 e a.uid).bind
    ((reads_readU32 e a.actionType).bind (reads_readString comm).bind_pure))

theorem usernsRestrict_agrees (a : AlertStructs.UsernsAlert)
    (target : PrintableBytes a.target.bytes) :
    Parsers.UsernsAlert.tryFromBytes e ((AlertStructs.Alert.usernsRestrict a).bytes e) =
      .ok ⟨a.pid, a.actionType, text a.target.bytes⟩ := by
  have shape : (AlertStructs.Alert.usernsRestrict a).bytes e =
      u32Bytes e a.pid ++ (u32Bytes e a.actionType ++ charBytes a.target) := by
    simp [Alert.bytes, Alert.fields, layout, layoutFrom_u32, layoutFrom, padding]
  rw [← trim_text target]
  refine Parsers.parseAtLeast_of_reads_all ?_ shape (by simp [shape])
  exact (reads_readU32 e a.pid).bind ((reads_readU32 e a.actionType).bind
    (reads_readString target).bind_pure)

theorem madviseRatelimit_agrees (a : AlertStructs.MadviseAlert)
    (comm : PrintableBytes a.comm.bytes) :
    Parsers.MadviseAlert.tryFromBytes e ((AlertStructs.Alert.madviseRatelimit a).bytes e) =
      .ok ⟨a.pid, a.tid, a.count, a.actionType, text a.comm.bytes⟩ := by
  have shape : (AlertStructs.Alert.madviseRatelimit a).bytes e =
      u32Bytes e a.pid ++ (u32Bytes e a.tid ++ (u32Bytes e a.count ++
        (u32Bytes e a.actionType ++ charBytes a.comm))) := by
    simp [Alert.bytes, Alert.fields, layout, layoutFrom_u32, layoutFrom, padding]
  rw [← trim_text comm]
  refine Parsers.parseAtLeast_of_reads_all ?_ shape (by simp [shape])
  exact (reads_readU32 e a.pid).bind ((reads_readU32 e a.tid).bind
    ((reads_readU32 e a.count).bind ((reads_readU32 e a.actionType).bind
      (reads_readString comm).bind_pure)))

/-- The sixteen bytes the `io_restrict` parser takes for the syscall name. -/
def shiftedChunk (a : AlertStructs.IoRestrictAlert) : List UInt8 :=
  u32Bytes e a.actionType ++ (charBytes a.syscall).take 12

private theorem length_shiftedChunk (a : AlertStructs.IoRestrictAlert) :
    (shiftedChunk e a).length = 16 := by
  simp [shiftedChunk]

private theorem takeWhile_take_charBytes {cap : Nat} (s : CStr cap) (n : Nat) :
    ((charBytes s).take n).takeWhile (· != 0) = s.bytes.take n := by
  rw [charBytes, List.take_append, List.take_replicate]
  exact takeWhile_noNul (fun b member => s.noNul b (List.mem_of_mem_take member)) _

theorem decodeString_shiftedChunk (a : AlertStructs.IoRestrictAlert)
    (syscall : PrintableBytes a.syscall.bytes) :
    decodeString (shiftedChunk e a) = sanitize (lossy (actionPrefix e a)) ++
      (if (actionPrefix e a).length < 4 then [] else (text a.syscall.bytes).take 12) := by
  have bound : (actionPrefix e a).length ≤ 4 := by
    rw [← length_u32Bytes e a.actionType]
    exact (List.takeWhile_prefix _).length_le
  rw [decodeString, shiftedChunk, List.takeWhile_append, length_u32Bytes,
    takeWhile_take_charBytes]
  change sanitize (lossy (if (actionPrefix e a).length = 4 then _ else actionPrefix e a)) = _
  by_cases whole : (actionPrefix e a).length = 4
  · have same : actionPrefix e a = u32Bytes e a.actionType :=
      (List.takeWhile_prefix _).eq_of_length (by rw [length_u32Bytes]; exact whole)
    rw [if_pos whole, if_neg (by omega), same, sanitize_lossy_append _ (syscall.take 12), text,
      List.map_take]
    rfl
  · rw [if_neg whole, if_pos (by omega), List.append_nil]

/-- What the `io_restrict` parser reads: the thread id for the action, and the action for the
start of the syscall name. -/
theorem ioRestrict_parsed (a : AlertStructs.IoRestrictAlert) :
    Parsers.IoRestrictAlert.tryFromBytes e ((AlertStructs.Alert.ioRestrict a).bytes e) =
      .ok ⟨a.tgid, a.pid, decodeString (shiftedChunk e a)⟩ := by
  have shape : (AlertStructs.Alert.ioRestrict a).bytes e =
      (u32Bytes e a.tgid ++ (u32Bytes e a.pid ++ shiftedChunk e a)) ++
        (charBytes a.syscall).drop 12 := by
    simp [Alert.bytes, Alert.fields, layout, layoutFrom_u32, layoutFrom, padding, shiftedChunk]
  have chunk := reads_readString_chunk (shiftedChunk e a) (by rw [length_shiftedChunk]; omega)
  rw [length_shiftedChunk] at chunk
  rw [shape, ← Parsers.trimMatches_decodeString]
  refine Parsers.parseAtLeast_of_reads ?_ (by simp [length_shiftedChunk])
  exact (reads_readU32 e a.tgid).bind ((reads_readU32 e a.pid).bind chunk.bind_pure)

end Modules

private theorem action_cases {v : UInt32} (low : 1 ≤ v) (high : v ≤ 6) :
    v = 1 ∨ v = 2 ∨ v = 3 ∨ v = 4 ∨ v = 5 ∨ v = 6 := by
  rw [UInt32.le_iff_toNat_le] at low high
  simp only [← UInt32.toNat_inj]
  simp at low high ⊢
  omega

/-- No alert the `io_restrict` hooks emit, with one of their six actions and a real syscall
name, reads back as it was meant. -/
theorem not_agrees_of_emitted (e : Endian) (a : AlertStructs.IoRestrictAlert)
    (low : 1 ≤ a.actionType) (high : a.actionType ≤ 6) (named : 1 < a.syscall.bytes.length) :
    ¬ Agrees e (.ioRestrict a) := by
  have front : (sanitize (lossy (actionPrefix e a))).length ≤ 1 ∧
      (actionPrefix e a).length < 4 := by
    rcases action_cases low high with h | h | h | h | h | h <;> cases e <;>
      rw [actionPrefix, h] <;> decide
  rintro ⟨_, same⟩
  rw [if_pos front.2, List.append_nil] at same
  have lengths := congrArg List.length same
  rw [text, List.length_map] at lengths
  omega

section Sample

def vmspliceAlert : AlertStructs.IoRestrictAlert :=
  ⟨100, 101, 2, .copy 16 CStr.commLen_pos (CStr.literal "vmsplice")⟩

/-- The alert of a blocked `vmsplice` reads back with the thread id as its action and a
question mark as its syscall. -/
theorem vmspliceAlert_misread :
    Printable (.ioRestrict vmspliceAlert) ∧
    tryFromBytes .little (.ioRestrict vmspliceAlert)
        ((AlertStructs.Alert.ioRestrict vmspliceAlert).bytes .little) =
      .ok (.ioRestrict ⟨100, 101, ['?']⟩) ∧
    tryFromBytes .little (.ioRestrict vmspliceAlert)
        ((AlertStructs.Alert.ioRestrict vmspliceAlert).bytes .little) ≠
      .ok (mirror (.ioRestrict vmspliceAlert)) := by
  have printable : PrintableBytes vmspliceAlert.syscall.bytes := by decide
  have parsed : tryFromBytes .little (.ioRestrict vmspliceAlert)
      ((AlertStructs.Alert.ioRestrict vmspliceAlert).bytes .little) =
      .ok (.ioRestrict ⟨100, 101, ['?']⟩) := by
    rw [tryFromBytes, ioRestrict_parsed]
    rfl
  refine ⟨printable, parsed, ?_⟩
  rw [parsed]
  decide

end Sample

/-- Every alert of nine modules reads back as the kernel filled it in; one of `io_restrict`
does exactly when the shift of its fields goes unnoticed. -/
theorem tryFromBytes_eq_mirror_iff (e : Endian) (a : AlertStructs.Alert)
    (printable : Printable a) :
    tryFromBytes e a (a.bytes e) = .ok (mirror a) ↔ Agrees e a := by
  cases a with
  | execBlock a => simp [tryFromBytes, mirror, Agrees, execBlock_agrees e a printable, Except.map]
  | renameEntropy a =>
    simp [tryFromBytes, mirror, Agrees, renameEntropy_agrees e a printable.1 printable.2,
      Except.map]
  | shield a => simp [tryFromBytes, mirror, Agrees, shield_agrees e a printable, Except.map]
  | mountSecure a =>
    simp [tryFromBytes, mirror, Agrees,
      mountSecure_agrees e a printable.1 printable.2.1 printable.2.2, Except.map]
  | strictWx a => simp [tryFromBytes, mirror, Agrees, strictWx_agrees e a printable, Except.map]
  | ptraceBlock a =>
    simp [tryFromBytes, mirror, Agrees, ptraceBlock_agrees e a printable, Except.map]
  | dumpRestrict a =>
    simp [tryFromBytes, mirror, Agrees, dumpRestrict_agrees e a printable, Except.map]
  | usernsRestrict a =>
    simp [tryFromBytes, mirror, Agrees, usernsRestrict_agrees e a printable, Except.map]
  | madviseRatelimit a =>
    simp [tryFromBytes, mirror, Agrees, madviseRatelimit_agrees e a printable, Except.map]
  | ioRestrict a =>
    rw [tryFromBytes, ioRestrict_parsed, decodeString_shiftedChunk e a printable]
    simp [mirror, Agrees, ShiftAgrees, Except.map]

def mprotectAlert : AlertStructs.Alert :=
  .strictWx ⟨7, .copy 16 CStr.commLen_pos (CStr.literal "mprotect")⟩

theorem tryFromBytes_eq_mirror_iff_sample :
    tryFromBytes .little mprotectAlert (mprotectAlert.bytes .little) =
      .ok (mirror mprotectAlert) :=
  (tryFromBytes_eq_mirror_iff .little mprotectAlert
    (show PrintableBytes (CStr.literal "mprotect") by decide)).mpr trivial

end BouclierBleu.Telemetry.Agreement
