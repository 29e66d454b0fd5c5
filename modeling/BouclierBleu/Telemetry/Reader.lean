/- GID: BouclierBleu/Telemetry/Reader
   source: modules/src/common/traits.rs
   digest: The cursor that takes words and sanitised strings off a kernel record. -/

import BouclierBleu.Kernel.AlertStructs
import BouclierBleu.Library.Decoders
import BouclierBleu.Library.LossyUtf8

set_option autoImplicit false
set_option relaxedAutoImplicit false

namespace BouclierBleu.Telemetry.Reader

open BouclierBleu.Kernel.AlertStructs (Endian u32Bytes u32LittleEndian charBytes
  length_u32Bytes length_charBytes)
open BouclierBleu.Kernel.ModuleCore (CStr)
open BouclierBleu.Library.Decoders (Reads)
open BouclierBleu.Library.LossyUtf8 (lossy lossy_of_ascii lossy_append_of_ascii)

/-- A text of user space, character by character. -/
abbrev Text := List Char

structure BpfReader where
  data : List UInt8
  offset : Nat

def BpfReader.new (data : List UInt8) : BpfReader := ⟨data, 0⟩

abbrev Parser (A : Type) := StateT BpfReader (Except String) A

def fromLittleEndian : List UInt8 → UInt32
  | [b₀, b₁, b₂, b₃] =>
    UInt32.ofNat (b₀.toNat + b₁.toNat * 256 + b₂.toNat * 65536 + b₃.toNat * 16777216)
  | _ => 0

def fromNeBytes (e : Endian) (bytes : List UInt8) : UInt32 :=
  match e with
  | .little => fromLittleEndian bytes
  | .big => fromLittleEndian bytes.reverse

def readU32 (e : Endian) : Parser UInt32 := fun r =>
  if r.offset + 4 > r.data.length then
    .error "Buffer underrun: Failed to isolate u32 block."
  else .ok (fromNeBytes e ((r.data.drop r.offset).take 4), { r with offset := r.offset + 4 })

def isAsciiGraphic (c : Char) : Bool := 0x21 ≤ c.toNat && c.toNat ≤ 0x7E

def sanitize (raw : Text) : Text :=
  raw.map fun c => if !isAsciiGraphic c && c != ' ' then '?' else c

/-- What `read_string` makes of the bytes of one field. -/
def decodeString (chunk : List UInt8) : Text := sanitize (lossy (chunk.takeWhile (· != 0)))

def readString (maxLen : Nat) : Parser Text := fun r =>
  if r.offset + maxLen > r.data.length then
    .error "Buffer underrun: String boundary exceeds payload size."
  else
    .ok (decodeString ((r.data.drop r.offset).take maxLen),
      { r with offset := r.offset + maxLen })

/-- The input a reader has not consumed. -/
def remaining (r : BpfReader) : List UInt8 := r.data.drop r.offset

@[simp] theorem remaining_new (data : List UInt8) : remaining (.new data) = data := rfl

theorem fromNeBytes_u32Bytes (e : Endian) (v : UInt32) : fromNeBytes e (u32Bytes e v) = v := by
  have small : v.toNat < 4294967296 := v.toNat_lt
  have little : fromLittleEndian (u32LittleEndian v) = v := by
    rw [← UInt32.toNat_inj]
    simp only [u32LittleEndian, fromLittleEndian, UInt8.toNat_ofNat', UInt32.toNat_ofNat']
    omega
  cases e with
  | little => exact little
  | big =>
    rw [fromNeBytes, u32Bytes, List.reverse_reverse]
    exact little

section Reads

variable {r : BpfReader} {chunk rest : List UInt8}

private theorem fits_of_remaining (shape : remaining r = chunk ++ rest)
    (occupied : 0 < chunk.length) : r.offset + chunk.length ≤ r.data.length := by
  have lengths := congrArg List.length shape
  rw [remaining, List.length_drop, List.length_append] at lengths
  omega

private theorem take_of_remaining (shape : remaining r = chunk ++ rest) :
    (r.data.drop r.offset).take chunk.length = chunk := by
  change (remaining r).take chunk.length = chunk
  rw [shape, List.take_left]

private theorem remaining_advance (shape : remaining r = chunk ++ rest) :
    remaining { r with offset := r.offset + chunk.length } = rest := by
  have dropped : (remaining r).drop chunk.length = rest := by
    rw [shape, List.drop_left]
  rw [remaining, List.drop_drop] at dropped
  exact dropped

theorem reads_readU32 (e : Endian) (v : UInt32) :
    Reads remaining (readU32 e) (u32Bytes e v) v := by
  intro r rest shape
  have length := length_u32Bytes e v
  have fits := fits_of_remaining shape (by omega)
  have taken := take_of_remaining shape
  have left := remaining_advance shape
  rw [length] at fits taken left
  refine ⟨_, ?_, left⟩
  change readU32 e r = _
  rw [readU32, if_neg (by omega), taken, fromNeBytes_u32Bytes]

/-- Any field of the right size is read, whatever stands in it. -/
theorem reads_readString_chunk (chunk : List UInt8) (occupied : 0 < chunk.length) :
    Reads remaining (readString chunk.length) chunk (decodeString chunk) := by
  intro r rest shape
  have fits := fits_of_remaining shape occupied
  refine ⟨_, ?_, remaining_advance shape⟩
  change readString chunk.length r = _
  rw [readString, if_neg (by omega), take_of_remaining shape]

end Reads

/-- The characters of ASCII bytes. -/
def text (bytes : List UInt8) : Text := bytes.map fun b => Char.ofNat b.toNat

def PrintableBytes (bytes : List UInt8) : Prop := ∀ b ∈ bytes, 0x20 ≤ b ∧ b ≤ 0x7E

instance (bytes : List UInt8) : Decidable (PrintableBytes bytes) :=
  List.decidableBAll _ bytes

section Strings

variable {bytes more : List UInt8}

theorem PrintableBytes.ascii (printable : PrintableBytes bytes) : ∀ b ∈ bytes, b < 0x80 := by
  intro b member
  exact UInt8.lt_of_le_of_lt (printable b member).2 (by decide)

theorem PrintableBytes.noNul (printable : PrintableBytes bytes) : ∀ b ∈ bytes, b ≠ 0 := by
  intro b member
  rintro rfl
  exact absurd (printable 0 member).1 (by decide)

theorem PrintableBytes.take (printable : PrintableBytes bytes) (n : Nat) :
    PrintableBytes (bytes.take n) :=
  fun b member => printable b (List.mem_of_mem_take member)

theorem sanitize_append (x y : Text) : sanitize (x ++ y) = sanitize x ++ sanitize y :=
  List.map_append

theorem toNat_ofNat_of_lt {n : Nat} (small : n < 0xD800) :
    (Char.ofNat n).toNat = n := by
  have valid : n.isValidChar := .inl small
  rw [Char.ofNat, dif_pos valid]
  rfl

private theorem sanitize_text (printable : PrintableBytes bytes) :
    sanitize (text bytes) = text bytes := by
  rw [sanitize, text, List.map_map]
  apply List.map_congr_left
  intro b member
  obtain ⟨above, below⟩ := printable b member
  have low : 0x20 ≤ b.toNat := UInt8.le_iff_toNat_le.mp above
  have high : b.toNat ≤ 0x7E := UInt8.le_iff_toNat_le.mp below
  have value : (Char.ofNat b.toNat).toNat = b.toNat := toNat_ofNat_of_lt (by omega)
  by_cases space : b.toNat = 0x20
  · have blank : Char.ofNat b.toNat = ' ' := by rw [space]
    simp [blank]
  · have graphic : isAsciiGraphic (Char.ofNat b.toNat) = true := by
      simp only [isAsciiGraphic, value, Bool.and_eq_true, decide_eq_true_eq]
      omega
    simp [graphic]

/-- Printable text behind any bytes without a NUL comes through as it is. -/
theorem sanitize_lossy_append (front : List UInt8) (printable : PrintableBytes bytes) :
    sanitize (lossy (front ++ bytes)) = sanitize (lossy front) ++ text bytes := by
  rw [lossy_append_of_ascii front printable.ascii, sanitize_append,
    lossy_of_ascii printable.ascii, ← text, sanitize_text printable]

theorem takeWhile_noNul (noNul : ∀ b ∈ bytes, b ≠ 0) (pad : Nat) :
    (bytes ++ List.replicate pad 0).takeWhile (· != 0) = bytes := by
  rw [List.takeWhile_append_of_pos (by simpa using noNul)]
  cases pad <;> simp [List.replicate_succ]

/-- A printable string that fits its array is decoded to itself. -/
theorem decodeString_charBytes {cap : Nat} {s : CStr cap} (printable : PrintableBytes s.bytes) :
    decodeString (charBytes s) = text s.bytes := by
  rw [decodeString, charBytes, takeWhile_noNul s.noNul, ← List.nil_append s.bytes,
    sanitize_lossy_append [] printable]
  rfl

theorem reads_readString {cap : Nat} {s : CStr cap} (printable : PrintableBytes s.bytes) :
    Reads remaining (readString cap) (charBytes s) (text s.bytes) := by
  have length := length_charBytes s
  have fits := s.fits
  have read := reads_readString_chunk (charBytes s) (by omega)
  rwa [length, decodeString_charBytes printable] at read

end Strings

end BouclierBleu.Telemetry.Reader
