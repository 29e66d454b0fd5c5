/- GID: BouclierBleu/Library/FlatJson
   source: none (general)
   digest: Flat JSON objects in compact form, and the bytes that open them and nothing else. -/

import BouclierBleu.Library.Separated
import Mathlib.Tactic.Common

set_option autoImplicit false
set_option relaxedAutoImplicit false

namespace BouclierBleu.Library.FlatJson

open BouclierBleu.Library.Separated

def hexDigit (nibble : Nat) : UInt8 := UInt8.ofNat (Nat.digitChar nibble).toNat

/-- A byte of a string: quotes, backslashes and control characters are escaped. -/
def escapeByte (b : UInt8) : List UInt8 :=
  if b = 0x22 then [0x5C, 0x22]
  else if b = 0x5C then [0x5C, 0x5C]
  else if b = 0x08 then [0x5C, 0x62]
  else if b = 0x09 then [0x5C, 0x74]
  else if b = 0x0A then [0x5C, 0x6E]
  else if b = 0x0C then [0x5C, 0x66]
  else if b = 0x0D then [0x5C, 0x72]
  else if b < 0x20 then [0x5C, 0x75, 0x30, 0x30, hexDigit (b.toNat / 16), hexDigit (b.toNat % 16)]
  else [b]

def quoted (text : List UInt8) : List UInt8 := 0x22 :: (text.flatMap escapeByte ++ [0x22])

def decimal (n : Nat) : List UInt8 := (Nat.toDigits 10 n).map fun c => UInt8.ofNat c.toNat

/-- Parts with commas between them. -/
def listed : List (List UInt8) → List UInt8
  | [] => []
  | part :: parts => part ++ joinWith 0x2C parts

inductive Value
  | number (n : Nat)
  | string (text : List UInt8)
  | strings (texts : List (List UInt8))

def Value.write : Value → List UInt8
  | .number n => decimal n
  | .string text => quoted text
  | .strings texts => 0x5B :: (listed (texts.map quoted) ++ [0x5D])

def entry (field : List UInt8 × Value) : List UInt8 := quoted field.1 ++ 0x3A :: field.2.write

def object (fields : List (List UInt8 × Value)) : List UInt8 :=
  0x7B :: (listed (fields.map entry) ++ [0x7D])

theorem le_hexDigit {nibble : Nat} (small : nibble < 16) : 0x30 ≤ hexDigit nibble := by
  have all : ∀ nibble < 16, 0x30 ≤ hexDigit nibble := by decide
  exact all nibble small

private theorem le_hexDigits (b : UInt8) :
    0x30 ≤ hexDigit (b.toNat / 16) ∧ 0x30 ≤ hexDigit (b.toNat % 16) := by
  have short := b.toNat_lt
  exact ⟨le_hexDigit (by omega), le_hexDigit (by omega)⟩

section Printable

/-- No control character. -/
def Printable (text : List UInt8) : Prop := ∀ b ∈ text, 0x20 ≤ b

theorem Printable.append {front back : List UInt8} (first : Printable front)
    (second : Printable back) : Printable (front ++ back) :=
  List.forall_mem_append.mpr ⟨first, second⟩

theorem Printable.cons {b : UInt8} {rest : List UInt8} (first : 0x20 ≤ b)
    (others : Printable rest) : Printable (b :: rest) :=
  List.forall_mem_cons.mpr ⟨first, others⟩

theorem printable_escapeByte (b : UInt8) : Printable (escapeByte b) := by
  have bound : (0x20 : UInt8) ≤ 0x30 := by decide
  have ⟨high, low⟩ := le_hexDigits b
  rw [escapeByte]
  have first := UInt8.le_trans bound high
  have second := UInt8.le_trans bound low
  split_ifs with _ _ _ _ _ _ _ control
  iterate 7 exact .cons (by decide) (.cons (by decide) nofun)
  · have digits : Printable [hexDigit (b.toNat / 16), hexDigit (b.toNat % 16)] :=
      .cons first (.cons second nofun)
    exact .cons (by decide) (.cons (by decide) (.cons (by decide) (.cons (by decide) digits)))
  · exact .cons (UInt8.not_lt.mp control) nofun

theorem printable_quoted (text : List UInt8) : Printable (quoted text) := by
  refine .cons (by decide) (.append ?_ (.cons (by decide) nofun))
  intro b member
  obtain ⟨source, _, within⟩ := List.mem_flatMap.mp member
  exact printable_escapeByte source b within

private theorem isDigit_bounds {c : Char} (digit : c.isDigit = true) :
    0x30 ≤ UInt8.ofNat c.toNat ∧ UInt8.ofNat c.toNat ≤ 0x39 := by
  obtain ⟨above, below⟩ := Char.isDigit_iff_toNat.mp digit
  have above : 48 ≤ c.toNat := above
  have below : c.toNat ≤ 57 := below
  have short : c.toNat < 256 := by omega
  have same : (UInt8.ofNat c.toNat).toNat = c.toNat := UInt8.toNat_ofNat_of_lt short
  rw [UInt8.le_iff_toNat_le, UInt8.le_iff_toNat_le, same]
  exact ⟨above, below⟩

theorem printable_decimal (n : Nat) : Printable (decimal n) := by
  intro b member
  obtain ⟨c, digit, rfl⟩ := List.mem_map.mp member
  have above := (isDigit_bounds (Nat.isDigit_of_mem_toDigits (by decide) (by decide) digit)).1
  exact UInt8.le_trans (by decide) above

theorem printable_listed {parts : List (List UInt8)} (each : ∀ part ∈ parts, Printable part) :
    Printable (listed parts) := by
  cases parts with
  | nil => exact nofun
  | cons part parts =>
    rw [List.forall_mem_cons] at each
    refine .append each.1 fun b member => ?_
    obtain ⟨other, among, within⟩ := List.mem_flatMap.mp member
    rcases List.mem_cons.mp within with rfl | within
    · decide
    · exact each.2 other among b within

theorem Value.printable_write (value : Value) : Printable value.write := by
  cases value with
  | number n => exact printable_decimal n
  | string text => exact printable_quoted text
  | strings texts =>
    refine .cons (by decide) (.append (printable_listed ?_) (.cons (by decide) nofun))
    intro part member
    obtain ⟨text, _, rfl⟩ := List.mem_map.mp member
    exact printable_quoted text

theorem printable_object (fields : List (List UInt8 × Value)) : Printable (object fields) := by
  refine .cons (by decide) (.append (printable_listed ?_) (.cons (by decide) nofun))
  intro part member
  obtain ⟨field, _, rfl⟩ := List.mem_map.mp member
  exact .append (printable_quoted field.1) (.cons (by decide) field.2.printable_write)

/-- A control character is no part of an object. -/
theorem notMem_object {b : UInt8} (control : b < 0x20) (fields : List (List UInt8 × Value)) :
    b ∉ object fields := fun member =>
  UInt8.not_le.mpr control (printable_object fields b member)

end Printable

section Opening

/-- How much of an opening brace and quote has just been read, and whether the byte `c` has ever
come right after them. -/
inductive Seen
  | nothing
  | brace
  | quote
  | opening

def Seen.next (c : UInt8) : Seen → UInt8 → Seen
  | .opening, _ => .opening
  | .quote, b => if b = c then .opening else if b = 0x7B then .brace else .nothing
  | .brace, b => if b = 0x22 then .quote else if b = 0x7B then .brace else .nothing
  | .nothing, b => if b = 0x7B then .brace else .nothing

def scan (c : UInt8) (seen : Seen) (text : List UInt8) : Seen := text.foldl (Seen.next c) seen

variable {c : UInt8} {seen : Seen}

@[simp] theorem scan_nil : scan c seen [] = seen := rfl

@[simp] theorem scan_cons (b : UInt8) (rest : List UInt8) :
    scan c seen (b :: rest) = scan c (seen.next c b) rest := rfl

@[simp] theorem scan_append (front back : List UInt8) :
    scan c seen (front ++ back) = scan c (scan c seen front) back := List.foldl_append

theorem scan_opening (text : List UInt8) : scan c .opening text = .opening := by
  induction text with
  | nil => rfl
  | cons b rest ih => exact ih

/-- Inside a string, and outside of strings behind one. -/
def Seen.InText (seen : Seen) : Prop := seen = .nothing ∨ seen = .brace

def Seen.Closed (seen : Seen) : Prop := seen = .nothing ∨ seen = .quote

theorem scan_inText (inside : seen.InText) {text : List UInt8} (free : 0x22 ∉ text) :
    (scan c seen text).InText := by
  induction text generalizing seen with
  | nil => exact inside
  | cons b rest ih =>
    rw [List.mem_cons, not_or] at free
    refine ih ?_ free.2
    rcases inside with rfl | rfl
    · rw [Seen.next]
      split
      · exact .inr rfl
      · exact .inl rfl
    · rw [Seen.next, if_neg (Ne.symm free.1)]
      split
      · exact .inr rfl
      · exact .inl rfl

/-- An unescaped quote does not occur, and an escaped one has a backslash in front of it. -/
theorem escapeByte_cases (b : UInt8) :
    escapeByte b = [0x5C, 0x22] ∨ 0x22 ∉ escapeByte b := by
  have apart {digit : UInt8} (above : 0x30 ≤ digit) : 0x22 ≠ digit := by
    rintro rfl
    exact absurd above (by decide)
  have ⟨high, low⟩ := le_hexDigits b
  rw [escapeByte]
  split_ifs with quote
  · exact .inl rfl
  iterate 6 exact .inr (by decide)
  · exact .inr (by simp [apart high, apart low])
  · exact .inr (by simpa using Ne.symm quote)

theorem scan_escapeByte (inside : seen.InText) (b : UInt8) :
    (scan c seen (escapeByte b)).InText := by
  rcases escapeByte_cases b with escaped | free
  · rw [escaped]
    rcases inside with rfl | rfl <;> exact .inl rfl
  · exact scan_inText inside free

theorem scan_escaped (inside : seen.InText) (text : List UInt8) :
    (scan c seen (text.flatMap escapeByte)).InText := by
  induction text generalizing seen with
  | nil => exact inside
  | cons b rest ih =>
    rw [List.flatMap_cons, scan_append]
    exact ih (scan_escapeByte inside b)

theorem scan_quoted (text : List UInt8) : (scan c .nothing (quoted text)).Closed := by
  rw [quoted, scan_cons, scan_append]
  have inside : (Seen.next c .nothing 0x22).InText := .inl rfl
  rcases scan_escaped (c := c) inside text with before | before
  · rw [before]
    exact .inl rfl
  · rw [before]
    exact .inr rfl

theorem scan_decimal (n : Nat) : scan c .nothing (decimal n) = .nothing := by
  have low : ∀ b ∈ decimal n, b ≠ 0x7B := by
    intro b member same
    obtain ⟨digit, within, rfl⟩ := List.mem_map.mp member
    have below := (isDigit_bounds (Nat.isDigit_of_mem_toDigits (by decide) (by decide) within)).2
    rw [same] at below
    exact absurd below (by decide)
  generalize decimal n = digits at low ⊢
  induction digits with
  | nil => rfl
  | cons b rest ih =>
    rw [List.forall_mem_cons] at low
    rw [scan_cons, Seen.next, if_neg low.1]
    exact ih low.2

/-- A byte that may stand behind a closing quote. -/
def Delimiter (b : UInt8) : Prop := b = 0x2C ∨ b = 0x3A ∨ b = 0x5D ∨ b = 0x7D

theorem next_of_closed (apart : ¬ Delimiter c) (closed : seen.Closed) {b : UInt8}
    (delimiter : Delimiter b) : seen.next c b = .nothing := by
  have brace : b ≠ 0x7B := by
    rcases delimiter with rfl | rfl | rfl | rfl <;> decide
  have other : b ≠ c := fun same => apart (same ▸ delimiter)
  rcases closed with rfl | rfl
  · rw [Seen.next, if_neg brace]
  · rw [Seen.next, if_neg other, if_neg brace]

theorem scan_joinWith (apart : ¬ Delimiter c) {parts : List (List UInt8)}
    (each : ∀ part ∈ parts, (scan c .nothing part).Closed) (closed : seen.Closed) :
    (scan c seen (joinWith 0x2C parts)).Closed := by
  induction parts generalizing seen with
  | nil => exact closed
  | cons part parts ih =>
    rw [List.forall_mem_cons] at each
    rw [joinWith_cons, scan_cons, scan_append, next_of_closed apart closed (.inl rfl)]
    exact ih each.2 each.1

theorem scan_listed (apart : ¬ Delimiter c) {parts : List (List UInt8)}
    (each : ∀ part ∈ parts, (scan c .nothing part).Closed) :
    (scan c .nothing (listed parts)).Closed := by
  cases parts with
  | nil => exact .inl rfl
  | cons part parts =>
    rw [List.forall_mem_cons] at each
    rw [listed, scan_append]
    exact scan_joinWith apart each.2 each.1

theorem Value.scan_write (apart : ¬ Delimiter c) (value : Value) :
    (scan c .nothing value.write).Closed := by
  cases value with
  | number n => exact .inl (scan_decimal n)
  | string text => exact scan_quoted text
  | strings texts =>
    have each : ∀ part ∈ texts.map quoted, (scan c .nothing part).Closed := by
      intro part member
      obtain ⟨text, _, rfl⟩ := List.mem_map.mp member
      exact scan_quoted text
    rw [Value.write, scan_cons, scan_append]
    exact .inl (next_of_closed apart (scan_listed apart each) (.inr (.inr (.inl rfl))))

theorem scan_entry (apart : ¬ Delimiter c) (field : List UInt8 × Value) :
    (scan c .nothing (entry field)).Closed := by
  rw [entry, scan_append, scan_cons,
    next_of_closed apart (scan_quoted field.1) (.inr (.inl rfl))]
  exact field.2.scan_write apart

/-- Behind its first byte an object never has a brace, a quote and `c` in a row. -/
theorem scan_object_tail (apart : ¬ Delimiter c) (fields : List (List UInt8 × Value)) :
    scan c .nothing (listed (fields.map entry) ++ [0x7D]) = .nothing := by
  have each : ∀ part ∈ fields.map entry, (scan c .nothing part).Closed := by
    intro part member
    obtain ⟨field, _, rfl⟩ := List.mem_map.mp member
    exact scan_entry apart field
  rw [scan_append]
  exact next_of_closed apart (scan_listed apart each) (.inr (.inr (.inr rfl)))

theorem opening_prefix (plain : escapeByte c = [c]) (key : List UInt8) (value : Value)
    (fields : List (List UInt8 × Value)) :
    [0x7B, 0x22, c] <+: object ((c :: key, value) :: fields) := by
  rw [object, List.map_cons, listed, entry, quoted, List.flatMap_cons, plain]
  exact ⟨_, rfl⟩

/-- An object whose first key starts with `c` is never the end of a longer object. -/
theorem object_ne_append (apart : ¬ Delimiter c) (plain : escapeByte c = [c])
    {front key : List UInt8} {value : Value} {fields others : List (List UInt8 × Value)}
    (occupied : front ≠ []) :
    object others ≠ front ++ object ((c :: key, value) :: fields) := by
  obtain ⟨b, rest, rfl⟩ := List.exists_cons_of_ne_nil occupied
  intro same
  have tail : listed (others.map entry) ++ [0x7D] =
      rest ++ object ((c :: key, value) :: fields) := (List.cons.inj same).2
  have clear := scan_object_tail apart others
  rw [tail, scan_append] at clear
  generalize scan c .nothing rest = seen at clear
  have opened : Seen.next c (Seen.next c (Seen.next c seen 0x7B) 0x22) c = .opening := by
    cases seen with
    | quote => by_cases first : (0x7B : UInt8) = c <;> simp [Seen.next, first]
    | nothing | brace | opening => simp [Seen.next]
  obtain ⟨more, shape⟩ := opening_prefix plain key value fields
  rw [← shape, scan_append, scan_cons, scan_cons, scan_cons, opened, scan_nil,
    scan_opening] at clear
  cases clear

end Opening

end BouclierBleu.Library.FlatJson
