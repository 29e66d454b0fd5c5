/- GID: BouclierBleu/Telemetry/Parsers
   source: modules/src/*.rs, the try_from_bytes functions
   digest: The ten user-space alerts and the functions that parse them from kernel records. -/

import BouclierBleu.Telemetry.Reader
import Mathlib.Data.List.DropRight

set_option autoImplicit false
set_option relaxedAutoImplicit false

namespace BouclierBleu.Telemetry.Parsers

open BouclierBleu.Kernel.AlertStructs (Endian)
open BouclierBleu.Library.Decoders (Reads)
open BouclierBleu.Telemetry.Reader

/-- The check every `try_from_bytes` starts with, and the reads behind it. -/
def parseAtLeast {A : Type} (minimum : Nat) (body : Parser A) (data : List UInt8) :
    Except String A :=
  if data.length < minimum then
    .error "Telemetry payload violates minimum size constraints."
  else body.run' (.new data)

def trimEndMatches (c : Char) (t : Text) : Text := t.rdropWhile (· == c)

def trimMatches (c : Char) (t : Text) : Text := trimEndMatches c (t.dropWhile (· == c))

def nul : Char := '\x00'

structure ExecAlert where
  pid : UInt32
  path : Text
  deriving DecidableEq

def ExecAlert.tryFromBytes (e : Endian) : List UInt8 → Except String ExecAlert :=
  parseAtLeast 4100 do
    let pid ← readU32 e
    let path ← readString 4096
    return ⟨pid, path⟩

structure RenameAlert where
  pid : UInt32
  ppid : UInt32
  fullPath : Text
  deriving DecidableEq

/-- `format!("{}/{}", dir_path.trim_end_matches('/'), file_name)` -/
def joinPath (dirPath fileName : Text) : Text := trimEndMatches '/' dirPath ++ '/' :: fileName

def RenameAlert.tryFromBytes (e : Endian) : List UInt8 → Except String RenameAlert :=
  parseAtLeast 4360 do
    let pid ← readU32 e
    let ppid ← readU32 e
    let dirPath ← readString 4096
    let fileName ← readString 256
    return ⟨pid, ppid, joinPath dirPath fileName⟩

structure ShieldAlert where
  pid : UInt32
  actionType : UInt32
  target : Text
  deriving DecidableEq

def ShieldAlert.tryFromBytes (e : Endian) : List UInt8 → Except String ShieldAlert :=
  parseAtLeast 4104 do
    let pid ← readU32 e
    let actionType ← readU32 e
    let target ← readString 4096
    return ⟨pid, actionType, target⟩

structure MountAlert where
  pid : UInt32
  devName : Text
  fsType : Text
  mountPoint : Text
  deriving DecidableEq

def MountAlert.tryFromBytes (e : Endian) : List UInt8 → Except String MountAlert :=
  parseAtLeast 836 do
    let pid ← readU32 e
    let devName ← readString 256
    let fsType ← readString 64
    let mountPoint ← readString 512
    return ⟨pid, devName, fsType, mountPoint⟩

structure StrictWxAlert where
  pid : UInt32
  syscall : Text
  deriving DecidableEq

def StrictWxAlert.tryFromBytes (e : Endian) : List UInt8 → Except String StrictWxAlert :=
  parseAtLeast 20 do
    let pid ← readU32 e
    let syscall ← readString 16
    return ⟨pid, syscall⟩

structure PtraceAlert where
  pid : UInt32
  targetPid : UInt32
  actionType : UInt32
  targetComm : Text
  deriving DecidableEq

def PtraceAlert.tryFromBytes (e : Endian) : List UInt8 → Except String PtraceAlert :=
  parseAtLeast 28 do
    let pid ← readU32 e
    let targetPid ← readU32 e
    let actionType ← readU32 e
    let rawComm ← readString 16
    return ⟨pid, targetPid, actionType, trimMatches nul rawComm⟩

structure DumpAlert where
  pid : UInt32
  uid : UInt32
  actionType : UInt32
  comm : Text
  deriving DecidableEq

def DumpAlert.tryFromBytes (e : Endian) : List UInt8 → Except String DumpAlert :=
  parseAtLeast 28 do
    let pid ← readU32 e
    let uid ← readU32 e
    let actionType ← readU32 e
    let rawComm ← readString 16
    return ⟨pid, uid, actionType, trimMatches nul rawComm⟩

structure UsernsAlert where
  pid : UInt32
  actionType : UInt32
  target : Text
  deriving DecidableEq

def UsernsAlert.tryFromBytes (e : Endian) : List UInt8 → Except String UsernsAlert :=
  parseAtLeast 72 do
    let pid ← readU32 e
    let actionType ← readU32 e
    let rawTarget ← readString 64
    return ⟨pid, actionType, trimMatches nul rawTarget⟩

structure MadviseAlert where
  pid : UInt32
  tid : UInt32
  count : UInt32
  actionType : UInt32
  comm : Text
  deriving DecidableEq

def MadviseAlert.tryFromBytes (e : Endian) : List UInt8 → Except String MadviseAlert :=
  parseAtLeast 32 do
    let pid ← readU32 e
    let tid ← readU32 e
    let count ← readU32 e
    let actionType ← readU32 e
    let rawComm ← readString 16
    return ⟨pid, tid, count, actionType, trimMatches nul rawComm⟩

structure IoRestrictAlert where
  pid : UInt32
  actionType : UInt32
  syscall : Text
  deriving DecidableEq

def IoRestrictAlert.tryFromBytes (e : Endian) : List UInt8 → Except String IoRestrictAlert :=
  parseAtLeast 24 do
    let pid ← readU32 e
    let actionType ← readU32 e
    let rawSyscall ← readString 16
    return ⟨pid, actionType, trimMatches nul rawSyscall⟩

/-- A parsed alert of one of the ten modules. -/
inductive Alert
  | execBlock (a : ExecAlert)
  | renameEntropy (a : RenameAlert)
  | shield (a : ShieldAlert)
  | mountSecure (a : MountAlert)
  | strictWx (a : StrictWxAlert)
  | ptraceBlock (a : PtraceAlert)
  | dumpRestrict (a : DumpAlert)
  | usernsRestrict (a : UsernsAlert)
  | madviseRatelimit (a : MadviseAlert)
  | ioRestrict (a : IoRestrictAlert)
  deriving DecidableEq

theorem parseAtLeast_of_reads {A : Type} {minimum : Nat} {body : Parser A}
    {chunk rest : List UInt8} {a : A} (reads : Reads remaining body chunk a)
    (enough : minimum ≤ (chunk ++ rest).length) :
    parseAtLeast minimum body (chunk ++ rest) = .ok a := by
  rw [parseAtLeast, if_neg (by omega)]
  exact reads.run' (r := .new (chunk ++ rest)) rfl

/-- A record that holds nothing but what is read. -/
theorem parseAtLeast_of_reads_all {A : Type} {minimum : Nat} {body : Parser A}
    {chunk data : List UInt8} {a : A} (reads : Reads remaining body chunk a)
    (shape : data = chunk) (enough : minimum ≤ data.length) :
    parseAtLeast minimum body data = .ok a := by
  subst shape
  rw [← List.append_nil data] at enough ⊢
  exact parseAtLeast_of_reads reads enough

theorem trimMatches_of_not_mem {c : Char} {t : Text} (absent : c ∉ t) :
    trimMatches c t = t := by
  have other (x : Char) (member : x ∈ t) : ¬ (x == c) = true := by
    rw [beq_iff_eq]
    rintro rfl
    exact absent member
  have front : t.dropWhile (· == c) = t := by
    cases t with
    | nil => rfl
    | cons x rest => exact List.dropWhile_cons_of_neg (other x List.mem_cons_self)
  rw [trimMatches, trimEndMatches, front, List.rdropWhile_eq_self_iff]
  intro occupied
  exact other _ (List.getLast_mem occupied)

private theorem nul_not_mem_sanitize (raw : Text) : nul ∉ sanitize raw := by
  intro member
  obtain ⟨c, _, shape⟩ := List.mem_map.mp member
  by_cases graphic : isAsciiGraphic c = true ∨ c = ' '
  · have kept : (!isAsciiGraphic c && c != ' ') = false := by
      rcases graphic with graphic | rfl
      · simp [graphic]
      · simp
    rw [kept] at shape
    subst shape
    rcases graphic with graphic | blank
    · exact absurd graphic (by decide)
    · exact absurd blank (by decide)
  · rw [not_or] at graphic
    have replaced : (!isAsciiGraphic c && c != ' ') = true := by
      simp [graphic.1, graphic.2]
    rw [replaced, if_pos rfl] at shape
    exact absurd shape (by decide)

/-- The NUL trimming some parsers add after `read_string` never removes anything. -/
theorem trimMatches_decodeString (chunk : List UInt8) :
    trimMatches nul (decodeString chunk) = decodeString chunk :=
  trimMatches_of_not_mem (nul_not_mem_sanitize _)

end BouclierBleu.Telemetry.Parsers
