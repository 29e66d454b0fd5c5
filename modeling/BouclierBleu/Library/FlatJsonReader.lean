/- GID: BouclierBleu/Library/FlatJsonReader
   source: none (general)
   digest: A reader for flat JSON objects that gives back what was written, and where it ended. -/

import BouclierBleu.Library.FlatJson

set_option autoImplicit false
set_option relaxedAutoImplicit false

namespace BouclierBleu.Library.FlatJsonReader

open BouclierBleu.Library.FlatJson
open BouclierBleu.Library.Separated

universe u

/-- Something read, and the bytes behind it. -/
abbrev Reader (A : Type u) := List UInt8 → Option (A × List UInt8)

section Texts

def hexValue (digit : UInt8) : Nat :=
  if digit < 0x3A then digit.toNat - 0x30 else digit.toNat - 0x57

/-- What a backslash and one letter stand for. -/
def shortEscape (letter : UInt8) : Option UInt8 :=
  if letter = 0x22 then some 0x22
  else if letter = 0x5C then some 0x5C
  else if letter = 0x62 then some 0x08
  else if letter = 0x74 then some 0x09
  else if letter = 0x6E then some 0x0A
  else if letter = 0x66 then some 0x0C
  else if letter = 0x72 then some 0x0D
  else none

/-- The first byte of a string's text. -/
def readByte : Reader UInt8
  | [] => none
  | b :: rest =>
    if b = 0x5C then
      match rest with
      | [] => none
      | letter :: rest =>
        if letter = 0x75 then
          match rest with
          | _ :: _ :: high :: low :: rest =>
            some (UInt8.ofNat (hexValue high * 16 + hexValue low), rest)
          | _ => none
        else (shortEscape letter).map fun b => (b, rest)
    else some (b, rest)

/-- A text up to its closing quote, `fuel` bytes of it at most. -/
def readText : Nat → Reader (List UInt8)
  | 0, _ => none
  | fuel + 1, bytes =>
    match bytes with
    | [] => none
    | b :: rest =>
      if b = 0x22 then some ([], rest)
      else do
        let (first, rest) ← readByte (b :: rest)
        let (others, rest) ← readText fuel rest
        return (first :: others, rest)

def readQuoted : Reader (List UInt8)
  | [] => none
  | b :: rest => if b = 0x22 then readText (rest.length + 1) rest else none

private theorem hexValue_hexDigit : ∀ nibble < 16, hexValue (hexDigit nibble) = nibble := by
  decide

theorem readByte_escapeByte (b : UInt8) (rest : List UInt8) :
    readByte (escapeByte b ++ rest) = some (b, rest) := by
  rw [escapeByte]
  split_ifs with quote backslash _ _ _ _ _ control
  iterate 7
    · subst b
      rfl
  · have high := hexValue_hexDigit (b.toNat / 16) (by have := b.toNat_lt; omega)
    have low := hexValue_hexDigit (b.toNat % 16) (by omega)
    have whole : UInt8.ofNat (b.toNat / 16 * 16 + b.toNat % 16) = b := by
      rw [Nat.div_add_mod']
      exact UInt8.ofNat_toNat
    simp only [List.cons_append, List.nil_append, readByte, if_true, high, low, whole]
  · exact if_neg backslash

private theorem head_escapeByte (b : UInt8) :
    ∃ first others, escapeByte b = first :: others ∧ first ≠ 0x22 := by
  rw [escapeByte]
  split_ifs with quote
  iterate 8 exact ⟨_, _, rfl, by decide⟩
  exact ⟨b, [], rfl, quote⟩

theorem readText_escaped (text rest : List UInt8) {fuel : Nat} (enough : text.length < fuel) :
    readText fuel (text.flatMap escapeByte ++ 0x22 :: rest) = some (text, rest) := by
  induction text generalizing fuel with
  | nil =>
    obtain ⟨fuel, rfl⟩ := Nat.exists_eq_succ_of_ne_zero (Nat.ne_of_gt enough)
    rfl
  | cons b text ih =>
    obtain ⟨fuel, rfl⟩ := Nat.exists_eq_succ_of_ne_zero (Nat.ne_of_gt (Nat.zero_lt_of_lt enough))
    have later := ih (Nat.lt_of_succ_lt_succ enough)
    have first := readByte_escapeByte b (text.flatMap escapeByte ++ 0x22 :: rest)
    obtain ⟨head, others, shape, other⟩ := head_escapeByte b
    rw [List.flatMap_cons, List.append_assoc]
    rw [shape, List.cons_append] at first ⊢
    rw [readText, if_neg other, first]
    simp only [Option.bind_eq_bind, Option.bind_some, later]
    rfl

theorem readQuoted_quoted (text rest : List UInt8) :
    readQuoted (quoted text ++ rest) = some (text, rest) := by
  have long : text.length ≤ (text.flatMap escapeByte).length := by
    induction text with
    | nil => exact Nat.le_refl 0
    | cons b text ih =>
      obtain ⟨head, others, shape, _⟩ := head_escapeByte b
      rw [List.flatMap_cons, List.length_append, shape, List.length_cons, List.length_cons]
      omega
  rw [quoted, List.cons_append, readQuoted, if_pos rfl, List.append_assoc]
  refine readText_escaped text rest ?_
  rw [List.length_append]
  omega

end Texts

section Numbers

def isDigit (b : UInt8) : Bool := 0x30 ≤ b && b ≤ 0x39

def readNumber : Reader Nat := fun bytes =>
  some (Nat.ofDigitChars 10 ((bytes.takeWhile isDigit).map fun b => Char.ofNat b.toNat) 0,
    bytes.dropWhile isDigit)

/-- What may stand behind a part of an object. -/
def Stopped (rest : List UInt8) : Prop := ∃ b more, rest = b :: more ∧ Delimiter b

private theorem toNat_digit {n : Nat} {c : Char} (member : c ∈ Nat.toDigits 10 n) :
    0x30 ≤ c.toNat ∧ c.toNat ≤ 0x39 ∧ (UInt8.ofNat c.toNat).toNat = c.toNat := by
  have digit := Nat.isDigit_of_mem_toDigits (by decide) (by decide) member
  obtain ⟨above, below⟩ := Char.isDigit_iff_toNat.mp digit
  have below : c.toNat ≤ 0x39 := below
  exact ⟨above, below, UInt8.toNat_ofNat_of_lt (Nat.lt_of_le_of_lt below (by decide))⟩

private theorem isDigit_decimal (n : Nat) : ∀ b ∈ decimal n, isDigit b = true := by
  intro b member
  obtain ⟨c, listed, rfl⟩ := List.mem_map.mp member
  obtain ⟨above, below, same⟩ := toNat_digit listed
  rw [isDigit, Bool.and_eq_true, decide_eq_true_iff, decide_eq_true_iff, UInt8.le_iff_toNat_le,
    UInt8.le_iff_toNat_le, same]
  exact ⟨above, below⟩

private theorem decimal_ne_nil (n : Nat) : decimal n ≠ [] := by
  rw [decimal, Ne, List.map_eq_nil_iff]
  exact Nat.toDigits_ne_nil

private theorem chars_decimal (n : Nat) :
    (decimal n).map (fun b => Char.ofNat b.toNat) = Nat.toDigits 10 n := by
  rw [decimal, List.map_map]
  conv_rhs => rw [← List.map_id (Nat.toDigits 10 n)]
  apply List.map_congr_left
  intro c member
  obtain ⟨_, _, same⟩ := toNat_digit member
  rw [Function.comp_apply, same, id]
  exact Char.ofNat_toNat c

theorem readNumber_decimal (n : Nat) {rest : List UInt8} (stopped : Stopped rest) :
    readNumber (decimal n ++ rest) = some (n, rest) := by
  have clear : rest.takeWhile isDigit = [] ∧ rest.dropWhile isDigit = rest := by
    obtain ⟨b, more, rfl, delimiter⟩ := stopped
    rcases delimiter with rfl | rfl | rfl | rfl <;> exact ⟨rfl, rfl⟩
  rw [readNumber, List.takeWhile_append_of_pos (isDigit_decimal n),
    List.dropWhile_append_of_pos (isDigit_decimal n), clear.1, clear.2, List.append_nil,
    chars_decimal, Nat.ofDigitChars_ten_toDigits]

end Numbers

section Lists

variable {A : Type u}

/-- The parts behind a first one, each with its comma, up to the closing byte. -/
def readOthers (item : Reader A) (close : UInt8) : Nat → Reader (List A)
  | 0, _ => none
  | fuel + 1, bytes =>
    match bytes with
    | [] => none
    | b :: rest =>
      if b = close then some ([], rest)
      else if b = 0x2C then do
        let (first, rest) ← item rest
        let (others, rest) ← readOthers item close fuel rest
        return (first :: others, rest)
      else none

def readListed (item : Reader A) (close : UInt8) : Reader (List A) := fun bytes =>
  if bytes.head? = some close then some ([], bytes.tail)
  else do
    let (first, rest) ← item bytes
    let (others, rest) ← readOthers item close (rest.length + 1) rest
    return (first :: others, rest)

variable {item : Reader A} {close : UInt8} {write : A → List UInt8} {parts : List A}

private theorem length_le_joinWith (parts : List (List UInt8)) :
    parts.length ≤ (joinWith 0x2C parts).length := by
  induction parts with
  | nil => exact Nat.le_refl 0
  | cons part parts ih =>
    rw [joinWith_cons, List.length_cons, List.length_cons, List.length_append]
    omega

private theorem readOthers_joinWith (apart : close ≠ 0x2C) (delimiter : Delimiter close)
    (reads : ∀ part ∈ parts, ∀ rest, Stopped rest → item (write part ++ rest) = some (part, rest))
    (rest : List UInt8) {fuel : Nat} (enough : parts.length < fuel) :
    readOthers item close fuel (joinWith 0x2C (parts.map write) ++ close :: rest) =
      some (parts, rest) := by
  induction parts generalizing fuel with
  | nil =>
    obtain ⟨fuel, rfl⟩ := Nat.exists_eq_succ_of_ne_zero (Nat.ne_of_gt enough)
    exact if_pos rfl
  | cons part parts ih =>
    obtain ⟨fuel, rfl⟩ := Nat.exists_eq_succ_of_ne_zero (Nat.ne_of_gt (Nat.zero_lt_of_lt enough))
    rw [List.forall_mem_cons] at reads
    have later := ih reads.2 (Nat.lt_of_succ_lt_succ enough)
    have stopped : Stopped (joinWith 0x2C (parts.map write) ++ close :: rest) := by
      cases parts with
      | nil => exact ⟨close, rest, rfl, delimiter⟩
      | cons other parts => exact ⟨0x2C, _, rfl, .inl rfl⟩
    rw [List.map_cons, joinWith_cons, List.cons_append, List.append_assoc, readOthers,
      if_neg (Ne.symm apart), if_pos rfl, reads.1 _ stopped]
    simp only [Option.bind_eq_bind, Option.bind_some, later]
    rfl

/-- A list is read back when each of its parts is, and no part starts with the closing byte. -/
theorem readListed_listed (apart : close ≠ 0x2C) (delimiter : Delimiter close)
    (reads : ∀ part ∈ parts, ∀ rest, Stopped rest → item (write part ++ rest) = some (part, rest))
    (opens : ∀ part ∈ parts, ∀ rest, (write part ++ rest).head? ≠ some close)
    (rest : List UInt8) :
    readListed item close (listed (parts.map write) ++ close :: rest) = some (parts, rest) := by
  cases parts with
  | nil => exact if_pos rfl
  | cons part parts =>
    rw [List.forall_mem_cons] at reads opens
    have stopped : Stopped (joinWith 0x2C (parts.map write) ++ close :: rest) := by
      cases parts with
      | nil => exact ⟨close, rest, rfl, delimiter⟩
      | cons other parts => exact ⟨0x2C, _, rfl, .inl rfl⟩
    have enough : parts.length <
        (joinWith 0x2C (parts.map write) ++ close :: rest).length + 1 := by
      have long := length_le_joinWith (parts.map write)
      rw [List.length_map] at long
      rw [List.length_append]
      omega
    rw [List.map_cons, listed, List.append_assoc, readListed, if_neg (opens.1 _), reads.1 _ stopped]
    simp only [Option.bind_eq_bind, Option.bind_some,
      readOthers_joinWith apart delimiter reads.2 rest enough]
    rfl

end Lists

section Objects

def readValue : Reader Value
  | [] => none
  | b :: rest =>
    if b = 0x22 then (readQuoted (b :: rest)).map (Prod.map .string id)
    else if b = 0x5B then (readListed readQuoted 0x5D rest).map (Prod.map .strings id)
    else (readNumber (b :: rest)).map (Prod.map .number id)

def readEntry : Reader (List UInt8 × Value) := fun bytes => do
  let (key, rest) ← readQuoted bytes
  match rest with
  | [] => none
  | b :: rest =>
    if b = 0x3A then
      let (value, rest) ← readValue rest
      return ((key, value), rest)
    else none

def readObject : Reader (List (List UInt8 × Value))
  | [] => none
  | b :: rest => if b = 0x7B then readListed readEntry 0x7D rest else none

theorem readValue_write (value : Value) {rest : List UInt8} (stopped : Stopped rest) :
    readValue (value.write ++ rest) = some (value, rest) := by
  cases value with
  | number n =>
    have read := readNumber_decimal n stopped
    have digits := isDigit_decimal n
    cases shape : decimal n with
    | nil => exact absurd shape (decimal_ne_nil n)
    | cons b more =>
      rw [shape] at read
      have digit := digits b (shape ▸ List.mem_cons_self)
      have quote : b ≠ 0x22 := by
        rintro rfl
        cases digit
      have bracket : b ≠ 0x5B := by
        rintro rfl
        cases digit
      rw [List.cons_append] at read
      rw [Value.write, shape, List.cons_append, readValue, if_neg quote, if_neg bracket, read]
      rfl
  | string text =>
    have read := readQuoted_quoted text rest
    rw [quoted, List.cons_append] at read
    rw [Value.write, quoted, List.cons_append, readValue, if_pos rfl, read]
    rfl
  | strings texts =>
    have read : readListed readQuoted 0x5D (listed (texts.map quoted) ++ 0x5D :: rest) =
        some (texts, rest) :=
      readListed_listed (by decide) (.inr (.inr (.inl rfl)))
        (fun text _ rest _ => readQuoted_quoted text rest) (fun _ _ _ => by simp [quoted]) rest
    rw [Value.write, List.cons_append, readValue, if_neg (by decide), if_pos rfl,
      List.append_assoc, List.singleton_append, read]
    rfl

theorem readEntry_entry (field : List UInt8 × Value) {rest : List UInt8} (stopped : Stopped rest) :
    readEntry (entry field ++ rest) = some (field, rest) := by
  have read := readValue_write field.2 stopped
  rw [readEntry, entry, List.append_assoc, readQuoted_quoted]
  simp [read]

/-- An object is read back field by field, whatever stands behind it. -/
theorem readObject_object (fields : List (List UInt8 × Value)) (rest : List UInt8) :
    readObject (object fields ++ rest) = some (fields, rest) := by
  rw [object, List.cons_append, readObject, if_pos rfl, List.append_assoc, List.singleton_append]
  exact readListed_listed (by decide) (.inr (.inr (.inr rfl)))
    (fun field _ rest stopped => readEntry_entry field stopped)
    (fun _ _ _ => by simp [entry, quoted]) rest

end Objects

end BouclierBleu.Library.FlatJsonReader
