/- GID: BouclierBleu/Library/LossyUtf8
   source: none (general)
   digest: Lossy UTF-8 decoding: every maximal malformed part becomes one replacement character. -/

import Mathlib.Data.List.Basic
import Mathlib.Tactic.Common

set_option autoImplicit false
set_option relaxedAutoImplicit false

namespace BouclierBleu.Library.LossyUtf8

def replacement : Char := '\uFFFD'

/-- An unfinished multi-byte sequence: how many bytes are owed, the bits read so far and the
range of the next byte. -/
structure Pending where
  owed : Nat
  point : Nat
  lower : UInt8
  upper : UInt8
  beyondAscii : 0x80 ≤ lower

/-- A byte between characters: what it completes, and what it opens. -/
def lead (b : UInt8) : List Char × Option Pending :=
  if b < 0x80 then ([Char.ofNat b.toNat], none)
  else if b < 0xC2 then ([replacement], none)
  else if b < 0xE0 then ([], some ⟨1, b.toNat % 32, 0x80, 0xBF, by decide⟩)
  else if b = 0xE0 then ([], some ⟨2, 0, 0xA0, 0xBF, by decide⟩)
  else if b = 0xED then ([], some ⟨2, 13, 0x80, 0x9F, by decide⟩)
  else if b < 0xF0 then ([], some ⟨2, b.toNat % 16, 0x80, 0xBF, by decide⟩)
  else if b = 0xF0 then ([], some ⟨3, 0, 0x90, 0xBF, by decide⟩)
  else if b < 0xF4 then ([], some ⟨3, b.toNat % 8, 0x80, 0xBF, by decide⟩)
  else if b = 0xF4 then ([], some ⟨3, 4, 0x80, 0x8F, by decide⟩)
  else ([replacement], none)

/-- One byte: it continues the open sequence, or ends it as malformed and starts afresh. -/
def feed : Option Pending → UInt8 → List Char × Option Pending
  | none, b => lead b
  | some p, b =>
    if p.lower ≤ b ∧ b ≤ p.upper then
      let point := p.point * 64 + b.toNat % 64
      if p.owed = 1 then ([Char.ofNat point], none)
      else ([], some ⟨p.owed - 1, point, 0x80, 0xBF, by decide⟩)
    else (replacement :: (lead b).1, (lead b).2)

/-- Decode from a given state; a sequence still open at the end is malformed. -/
def decode : Option Pending → List UInt8 → List Char
  | none, [] => []
  | some _, [] => [replacement]
  | state, b :: rest => (feed state b).1 ++ decode (feed state b).2 rest

/-- `from_utf8_lossy` as a list of characters. -/
def lossy (bytes : List UInt8) : List Char := decode none bytes

@[simp] theorem lossy_nil : lossy [] = [] := rfl

@[simp] theorem decode_cons (state : Option Pending) (b : UInt8) (rest : List UInt8) :
    decode state (b :: rest) = (feed state b).1 ++ decode (feed state b).2 rest := by
  cases state <;> rfl

theorem lead_of_ascii {b : UInt8} (ascii : b < 0x80) :
    lead b = ([Char.ofNat b.toNat], none) := if_pos ascii

/-- An ASCII byte closes whatever is open and stands for itself. -/
theorem feed_of_ascii (state : Option Pending) {b : UInt8} (ascii : b < 0x80) :
    feed state b = (decode state [] ++ [Char.ofNat b.toNat], none) := by
  cases state with
  | none => exact lead_of_ascii ascii
  | some p =>
    have outside : ¬ (p.lower ≤ b ∧ b ≤ p.upper) := by
      intro inside
      have above := UInt8.le_trans p.beyondAscii inside.1
      exact UInt8.not_le.mpr ascii above
    rw [feed, if_neg outside, lead_of_ascii ascii]
    rfl

theorem lossy_of_ascii {bytes : List UInt8} (ascii : ∀ b ∈ bytes, b < 0x80) :
    lossy bytes = bytes.map fun b => Char.ofNat b.toNat := by
  induction bytes with
  | nil => rfl
  | cons b rest ih =>
    have here := feed_of_ascii none (ascii b List.mem_cons_self)
    have later := ih fun c member => ascii c (List.mem_cons_of_mem _ member)
    rw [lossy, decode_cons, here, List.map_cons, ← later]
    rfl

private theorem decode_append_of_ascii (state : Option Pending) (front : List UInt8)
    {b : UInt8} (rest : List UInt8) (ascii : b < 0x80) :
    decode state (front ++ b :: rest) = decode state front ++ decode none (b :: rest) := by
  induction front generalizing state with
  | nil =>
    rw [List.nil_append, decode_cons, decode_cons, feed_of_ascii state ascii,
      feed_of_ascii none ascii, List.append_assoc]
    rfl
  | cons c front ih =>
    rw [List.cons_append, decode_cons, decode_cons, ih, List.append_assoc]

/-- Decoding splits in front of ASCII text. -/
theorem lossy_append_of_ascii (front : List UInt8) {text : List UInt8}
    (ascii : ∀ b ∈ text, b < 0x80) : lossy (front ++ text) = lossy front ++ lossy text := by
  cases text with
  | nil => simp
  | cons b rest => exact decode_append_of_ascii none front rest (ascii b List.mem_cons_self)

theorem length_lead_le (b : UInt8) :
    (lead b).1.length + (lead b).2.toList.length ≤ 1 := by
  let Short (made : List Char × Option Pending) : Prop :=
    made.1.length + made.2.toList.length ≤ 1
  change Short (lead b)
  unfold lead
  repeat' refine iteInduction (fun _ => ?_) (fun _ => ?_)
  all_goals exact Nat.le_refl 1

/-- A byte makes at most one character, or two if it ends an open sequence. -/
theorem length_feed_le (state : Option Pending) (b : UInt8) :
    (feed state b).1.length + (feed state b).2.toList.length ≤ state.toList.length + 1 := by
  have fresh := length_lead_le b
  cases state with
  | none => exact Nat.le_trans fresh (Nat.le_add_left _ _)
  | some p =>
    rw [feed]
    split_ifs
    · simp
    · simp
    · simp only [List.length_cons, Option.toList_some, List.length_nil]
      omega

private theorem length_decode_le (state : Option Pending) (bytes : List UInt8) :
    (decode state bytes).length ≤ state.toList.length + bytes.length := by
  induction bytes generalizing state with
  | nil => cases state <;> simp [decode]
  | cons b rest ih =>
    have here := length_feed_le state b
    have later := ih (feed state b).2
    rw [decode_cons, List.length_append, List.length_cons]
    omega

/-- Decoding never lengthens: every character takes at least one byte. -/
theorem length_lossy_le (bytes : List UInt8) : (lossy bytes).length ≤ bytes.length := by
  have bound := length_decode_le none bytes
  rwa [Option.toList_none, List.length_nil, Nat.zero_add] at bound

section Encoding

/-- `as_bytes` of a list of characters. -/
def encode (text : List Char) : List UInt8 := text.flatMap String.utf8EncodeChar

@[simp] theorem encode_nil : encode [] = [] := rfl

@[simp] theorem encode_cons (c : Char) (text : List Char) :
    encode (c :: text) = String.utf8EncodeChar c ++ encode text := rfl

theorem encode_append (front back : List Char) :
    encode (front ++ back) = encode front ++ encode back := List.flatMap_append

variable {b : UInt8} {rest : List UInt8} {p : Pending}

/-- The last byte of a sequence completes its character. -/
private theorem decode_last (last : p.owed = 1) (lower : p.lower.toNat ≤ b.toNat)
    (upper : b.toNat ≤ p.upper.toNat) :
    decode (some p) (b :: rest) = Char.ofNat (p.point * 64 + b.toNat % 64) :: decode none rest := by
  have inside : p.lower ≤ b ∧ b ≤ p.upper :=
    ⟨UInt8.le_iff_toNat_le.mpr lower, UInt8.le_iff_toNat_le.mpr upper⟩
  rw [decode_cons, feed, if_pos inside, if_pos last]
  rfl

/-- A byte before it adds six bits. -/
private theorem decode_more (more : p.owed ≠ 1) (lower : p.lower.toNat ≤ b.toNat)
    (upper : b.toNat ≤ p.upper.toNat) :
    decode (some p) (b :: rest) =
      decode (some ⟨p.owed - 1, p.point * 64 + b.toNat % 64, 0x80, 0xBF, by decide⟩) rest := by
  have inside : p.lower ≤ b ∧ b ≤ p.upper :=
    ⟨UInt8.le_iff_toNat_le.mpr lower, UInt8.le_iff_toNat_le.mpr upper⟩
  rw [decode_cons, feed, if_pos inside, if_neg more]
  rfl

private theorem not_lt_of_toNat {a : UInt8} (above : a.toNat ≤ b.toNat) : ¬ b < a :=
  UInt8.not_lt.mpr (UInt8.le_iff_toNat_le.mpr above)

private theorem ne_of_toNat {a : UInt8} (other : b.toNat ≠ a.toNat) : ¬ b = a :=
  fun same => other (congrArg UInt8.toNat same)

/-- What the first byte of two, three or four opens. -/
private theorem lead_two (low : 0xC2 ≤ b.toNat) (high : b.toNat < 0xE0) :
    lead b = ([], some ⟨1, b.toNat % 32, 0x80, 0xBF, by decide⟩) := by
  have ascii : ¬ b < 0x80 := not_lt_of_toNat (Nat.le_trans (by decide) low)
  have late : ¬ b < 0xC2 := not_lt_of_toNat low
  rw [lead, if_neg ascii, if_neg late, if_pos (UInt8.lt_iff_toNat_lt.mpr high)]

private theorem lead_three (low : 0xE0 ≤ b.toNat) (high : b.toNat < 0xF0) :
    ∃ p : Pending, lead b = ([], some p) ∧ p.owed = 2 ∧ p.point = b.toNat % 16 ∧
      p.lower.toNat = (if b.toNat = 0xE0 then 0xA0 else 0x80) ∧
      p.upper.toNat = (if b.toNat = 0xED then 0x9F else 0xBF) := by
  by_cases least : b.toNat = 0xE0
  · obtain rfl : b = 0xE0 := UInt8.toNat_inj.mp least
    exact ⟨_, rfl, rfl, rfl, rfl, rfl⟩
  by_cases surrogates : b.toNat = 0xED
  · obtain rfl : b = 0xED := UInt8.toNat_inj.mp surrogates
    exact ⟨_, rfl, rfl, rfl, rfl, rfl⟩
  have ascii : ¬ b < 0x80 := not_lt_of_toNat (Nat.le_trans (by decide) low)
  have late : ¬ b < 0xC2 := not_lt_of_toNat (Nat.le_trans (by decide) low)
  have three : ¬ b < 0xE0 := not_lt_of_toNat low
  refine ⟨⟨2, b.toNat % 16, 0x80, 0xBF, by decide⟩, ?_, rfl, rfl, ?_, ?_⟩
  · rw [lead, if_neg ascii, if_neg late, if_neg three, if_neg (ne_of_toNat least),
      if_neg (ne_of_toNat surrogates), if_pos (UInt8.lt_iff_toNat_lt.mpr high)]
  · rw [if_neg least]
    rfl
  · rw [if_neg surrogates]
    rfl

private theorem lead_four (low : 0xF0 ≤ b.toNat) (high : b.toNat ≤ 0xF4) :
    ∃ p : Pending, lead b = ([], some p) ∧ p.owed = 3 ∧ p.point = b.toNat % 8 ∧
      p.lower.toNat = (if b.toNat = 0xF0 then 0x90 else 0x80) ∧
      p.upper.toNat = (if b.toNat = 0xF4 then 0x8F else 0xBF) := by
  by_cases least : b.toNat = 0xF0
  · obtain rfl : b = 0xF0 := UInt8.toNat_inj.mp least
    exact ⟨_, rfl, rfl, rfl, rfl, rfl⟩
  by_cases greatest : b.toNat = 0xF4
  · obtain rfl : b = 0xF4 := UInt8.toNat_inj.mp greatest
    exact ⟨_, rfl, rfl, rfl, rfl, rfl⟩
  have bounds (a : UInt8) (below : a.toNat ≤ 0xF0) : ¬ b < a :=
    not_lt_of_toNat (Nat.le_trans below low)
  have others (a : UInt8) (below : a.toNat < 0xF0) : ¬ b = a := ne_of_toNat (by omega)
  have between : b < 0xF4 := UInt8.lt_iff_toNat_lt.mpr (Nat.lt_of_le_of_ne high greatest)
  refine ⟨⟨3, b.toNat % 8, 0x80, 0xBF, by decide⟩, ?_, rfl, rfl, ?_, ?_⟩
  · rw [lead, if_neg (bounds 0x80 (by decide)), if_neg (bounds 0xC2 (by decide)),
      if_neg (bounds 0xE0 (by decide)), if_neg (others 0xE0 (by decide)),
      if_neg (others 0xED (by decide)), if_neg (bounds 0xF0 (by decide)),
      if_neg (ne_of_toNat least), if_pos between]
  · rw [if_neg least]
    rfl
  · rw [if_neg greatest]
    rfl

private theorem decode_of_lead (opened : lead b = ([], some p)) :
    decode none (b :: rest) = decode (some p) rest := by
  rw [decode_cons, feed, opened]
  rfl

private theorem toNat_byte {n : Nat} (small : n < 256) : (UInt8.ofNat n).toNat = n :=
  UInt8.toNat_ofNat_of_lt' small

private theorem decode_two {v : Nat} (low : 0x7F < v) (high : v ≤ 0x7FF) :
    decode none (UInt8.ofNat (v / 64 % 0x20 + 0xC0) :: UInt8.ofNat (v % 0x40 + 0x80) :: rest) =
      Char.ofNat v :: decode none rest := by
  have first : (UInt8.ofNat (v / 64 % 0x20 + 0xC0)).toNat = v / 64 + 0xC0 := by
    rw [toNat_byte (by omega)]
    omega
  have second := toNat_byte (show v % 0x40 + 0x80 < 256 by omega)
  rw [decode_of_lead (lead_two (by omega) (by omega)), decode_last rfl]
  · rw [first, second]
    have whole : (v / 64 + 0xC0) % 32 * 64 + (v % 0x40 + 0x80) % 64 = v := by omega
    exact congrArg (fun n => Char.ofNat n :: decode none rest) whole
  · rw [second]
    exact Nat.le_add_left _ _
  · rw [second]
    change v % 0x40 + 0x80 ≤ 0xBF
    omega

private theorem decode_three {v : Nat} (low : 0x7FF < v) (high : v ≤ 0xFFFF)
    (scalar : v < 0xD800 ∨ 0xDFFF < v) :
    decode none (UInt8.ofNat (v / 4096 % 0x10 + 0xE0) :: UInt8.ofNat (v / 64 % 0x40 + 0x80) ::
      UInt8.ofNat (v % 0x40 + 0x80) :: rest) = Char.ofNat v :: decode none rest := by
  have first : (UInt8.ofNat (v / 4096 % 0x10 + 0xE0)).toNat = v / 4096 + 0xE0 := by
    rw [toNat_byte (by omega)]
    omega
  have second := toNat_byte (show v / 64 % 0x40 + 0x80 < 256 by omega)
  have third := toNat_byte (show v % 0x40 + 0x80 < 256 by omega)
  obtain ⟨p, opened, owed, point, lower, upper⟩ :=
    lead_three (b := UInt8.ofNat (v / 4096 % 0x10 + 0xE0)) (by omega) (by omega)
  rw [first] at point lower upper
  rw [decode_of_lead opened, decode_more, decode_last]
  · rw [second, third, point]
    have whole : ((v / 4096 + 0xE0) % 16 * 64 + (v / 64 % 0x40 + 0x80) % 64) * 64 +
        (v % 0x40 + 0x80) % 64 = v := by omega
    exact congrArg (fun n => Char.ofNat n :: decode none rest) whole
  · rw [owed]
  · rw [third]
    exact Nat.le_add_left _ _
  · rw [third]
    change v % 0x40 + 0x80 ≤ 0xBF
    omega
  · rw [owed]
    decide
  · rw [second, lower]
    split <;> omega
  · rw [second, upper]
    split <;> omega

private theorem decode_four {v : Nat} (low : 0xFFFF < v) (high : v < 0x110000) :
    decode none (UInt8.ofNat (v / 262144 % 0x08 + 0xF0) ::
      UInt8.ofNat (v / 4096 % 0x40 + 0x80) :: UInt8.ofNat (v / 64 % 0x40 + 0x80) ::
      UInt8.ofNat (v % 0x40 + 0x80) :: rest) = Char.ofNat v :: decode none rest := by
  have first : (UInt8.ofNat (v / 262144 % 0x08 + 0xF0)).toNat = v / 262144 + 0xF0 := by
    rw [toNat_byte (by omega)]
    omega
  have second := toNat_byte (show v / 4096 % 0x40 + 0x80 < 256 by omega)
  have third := toNat_byte (show v / 64 % 0x40 + 0x80 < 256 by omega)
  have fourth := toNat_byte (show v % 0x40 + 0x80 < 256 by omega)
  obtain ⟨p, opened, owed, point, lower, upper⟩ :=
    lead_four (b := UInt8.ofNat (v / 262144 % 0x08 + 0xF0)) (by omega) (by omega)
  rw [first] at point lower upper
  rw [decode_of_lead opened, decode_more, decode_more, decode_last]
  · rw [second, third, fourth, point]
    have whole : (((v / 262144 + 0xF0) % 8 * 64 + (v / 4096 % 0x40 + 0x80) % 64) * 64 +
        (v / 64 % 0x40 + 0x80) % 64) * 64 + (v % 0x40 + 0x80) % 64 = v := by omega
    exact congrArg (fun n => Char.ofNat n :: decode none rest) whole
  · change p.owed - 1 - 1 = 1
    rw [owed]
  · rw [fourth]
    exact Nat.le_add_left _ _
  · rw [fourth]
    change v % 0x40 + 0x80 ≤ 0xBF
    omega
  · change p.owed - 1 ≠ 1
    rw [owed]
    decide
  · rw [third]
    exact Nat.le_add_left _ _
  · rw [third]
    change v / 64 % 0x40 + 0x80 ≤ 0xBF
    omega
  · rw [owed]
    decide
  · rw [second, lower]
    split <;> omega
  · rw [second, upper]
    split <;> omega

/-- The bytes of a character decode to it. -/
theorem decode_encodeChar (c : Char) (rest : List UInt8) :
    decode none (String.utf8EncodeChar c ++ rest) = c :: decode none rest := by
  have scalar : c.toNat < 0xD800 ∨ (0xDFFF < c.toNat ∧ c.toNat < 0x110000) := c.valid
  have back : Char.ofNat c.toNat = c := Char.ofNat_toNat c
  conv => rhs; rw [← back]
  unfold String.utf8EncodeChar
  change decode none ((if c.toNat ≤ 0x7F then _ else if c.toNat ≤ 0x7FF then _ else
    if c.toNat ≤ 0xFFFF then _ else _) ++ rest) = _
  split_ifs with one two three
  · have ascii : UInt8.ofNat c.toNat < 0x80 := by
      rw [UInt8.lt_iff_toNat_lt, toNat_byte (by omega)]
      exact Nat.lt_succ_of_le one
    change decode none (UInt8.ofNat c.toNat :: rest) = _
    rw [decode_cons, feed_of_ascii none ascii, toNat_byte (by omega)]
    rfl
  · exact decode_two (Nat.lt_of_not_le one) two
  · exact decode_three (Nat.lt_of_not_le two) three (scalar.imp_right And.left)
  · have high : c.toNat < 0x110000 := by omega
    exact decode_four (Nat.lt_of_not_le three) high

/-- Decoding what was encoded, with anything behind it. -/
theorem decode_encode_append (text : List Char) (rest : List UInt8) :
    decode none (encode text ++ rest) = text ++ lossy rest := by
  induction text with
  | nil => rfl
  | cons c text ih =>
    rw [encode_cons, List.append_assoc, decode_encodeChar, ih, List.cons_append]

theorem lossy_encode (text : List Char) : lossy (encode text) = text := by
  have whole := decode_encode_append text []
  rwa [List.append_nil, lossy_nil, List.append_nil] at whole

end Encoding

end BouclierBleu.Library.LossyUtf8
