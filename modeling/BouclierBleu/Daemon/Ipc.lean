/- GID: BouclierBleu/Daemon/Ipc
   source: cli/src/main.rs and core/src/ipc/handler.rs, parse_command
   digest: The payload the command line sends and the command the daemon reads from it. -/

import BouclierBleu.Daemon.ModuleState
import BouclierBleu.Library.LossyUtf8
import Mathlib.Data.List.DropRight

set_option autoImplicit false
set_option relaxedAutoImplicit false

namespace BouclierBleu.Daemon.Ipc

open BouclierBleu.Daemon.ModuleState (DaemonCmd)
open BouclierBleu.Library.LossyUtf8

/-- The subcommands of the command line. -/
inductive Commands
  | status
  | list
  | enable (target : String)
  | disable (target : String)

def payload : Commands → List Char
  | .status => "STATUS".toList
  | .list => "LIST".toList
  | .enable target => "ENABLE ".toList ++ target.toList
  | .disable target => "DISABLE ".toList ++ target.toList

/-- What arrives on a socket until its end, or until a read fails. -/
structure UnixStream where
  bytes : List UInt8
  failure : Option String

/-- `send_command_to_daemon`: everything is written, and the direction is shut down. -/
def sendCommandToDaemon (cmd : Commands) : UnixStream := ⟨encode (payload cmd), none⟩

/-- `stream.take(limit).read_to_end`; past the limit nothing more is read. -/
def readToEnd (limit : Nat) (stream : UnixStream) : Except String (List UInt8) :=
  if limit ≤ stream.bytes.length then .ok (stream.bytes.take limit)
  else
    match stream.failure with
    | none => .ok stream.bytes
    | some e => .error e

/-- `char::is_whitespace`, the property `White_Space`. -/
def isWhitespace (c : Char) : Bool :=
  let v := c.toNat
  (0x09 ≤ v && v ≤ 0x0D) || v == 0x20 || v == 0x85 || v == 0xA0 || v == 0x1680 ||
    (0x2000 ≤ v && v ≤ 0x200A) || v == 0x2028 || v == 0x2029 || v == 0x202F || v == 0x205F ||
    v == 0x3000

def trim (text : List Char) : List Char := (text.dropWhile isWhitespace).rdropWhile isWhitespace

def splitWhitespace (text : List Char) : List (List Char) :=
  (text.splitOnP isWhitespace).filter fun word => !word.isEmpty

/-- The letters of `to_uppercase` for one character. Those that have only ASCII letters are
complete; any other stays as it is, and outside ASCII. -/
def upperCase (c : Char) : List Char :=
  match c with
  | '\u0131' => ['I']
  | '\u017F' => ['S']
  | '\u00DF' => ['S', 'S']
  | '\uFB00' => ['F', 'F']
  | '\uFB01' => ['F', 'I']
  | '\uFB02' => ['F', 'L']
  | '\uFB03' => ['F', 'F', 'I']
  | '\uFB04' => ['F', 'F', 'L']
  | '\uFB05' => ['S', 'T']
  | '\uFB06' => ['S', 'T']
  | c => [c.toUpper]

def toUppercase (text : List Char) : List Char := text.flatMap upperCase

def parseCommand (stream : UnixStream) : Except String (Option DaemonCmd) :=
  match readToEnd 1024 stream with
  | .error e => .error s!"Read error: {e}"
  | .ok buffer =>
    if buffer.isEmpty then .ok none
    else
      let commandStr := trim (lossy buffer)
      match splitWhitespace commandStr with
      | [] => .ok none
      | first :: rest =>
        let keyword := toUppercase first
        if keyword = "STATUS".toList then .ok (some .status)
        else if keyword = "LIST".toList then .ok (some .list)
        else
          match rest with
          | [] => .error "Unknown command"
          | target :: _ =>
            if keyword = "ENABLE".toList then .ok (some (.enable (String.ofList target)))
            else if keyword = "DISABLE".toList then .ok (some (.disable (String.ofList target)))
            else .error "Unknown command"

section Words

variable {text front back : List Char} {c : Char}

/-- White space separates the words on either side. -/
theorem splitWhitespace_append_cons (space : isWhitespace c = true) :
    splitWhitespace (front ++ c :: back) = splitWhitespace front ++ splitWhitespace back := by
  rw [splitWhitespace, List.splitOnP_append_cons _ _ space, List.filter_append]
  rfl

theorem splitWhitespace_of_word (some_ : text ≠ [])
    (word : ∀ c ∈ text, isWhitespace c = false) : splitWhitespace text = [text] := by
  rw [splitWhitespace, List.splitOnP_eq_singleton word]
  exact List.filter_cons_of_pos (by rwa [Bool.not_eq_true', List.isEmpty_eq_false_iff])

private theorem splitWhitespace_dropWhile (text : List Char) :
    splitWhitespace (text.dropWhile isWhitespace) = splitWhitespace text := by
  induction text with
  | nil => rfl
  | cons c text ih =>
    by_cases space : isWhitespace c = true
    · have split : splitWhitespace ([] ++ c :: text) = splitWhitespace text :=
        splitWhitespace_append_cons space
      rw [List.dropWhile_cons_of_pos space, ih, ← split, List.nil_append]
    · rw [List.dropWhile_cons_of_neg space]

private theorem splitWhitespace_rdropWhile (text : List Char) :
    splitWhitespace (text.rdropWhile isWhitespace) = splitWhitespace text := by
  induction text using List.reverseRecOn with
  | nil => rfl
  | append_singleton text c ih =>
    by_cases space : isWhitespace c = true
    · rw [List.rdropWhile_concat_pos _ _ _ space, ih]
      exact ((splitWhitespace_append_cons space).trans (List.append_nil _)).symm
    · rw [List.rdropWhile_concat_neg _ _ _ space]

/-- Trimming takes no word away. -/
@[simp] theorem splitWhitespace_trim (text : List Char) :
    splitWhitespace (trim text) = splitWhitespace text := by
  rw [trim, splitWhitespace_rdropWhile, splitWhitespace_dropWhile]

end Words

/-- The two subcommands with an argument. -/
inductive Switch
  | enable | disable

namespace Switch

def keyword : Switch → List Char
  | .enable => "ENABLE".toList
  | .disable => "DISABLE".toList

def command : Switch → String → Commands
  | .enable => .enable
  | .disable => .disable

def daemonCmd : Switch → String → DaemonCmd
  | .enable => .enable
  | .disable => .disable

theorem payload_command (switch : Switch) (m : String) :
    payload (switch.command m) = switch.keyword ++ ' ' :: m.toList := by
  cases switch <;> rfl

theorem keyword_word (switch : Switch) : splitWhitespace switch.keyword = [switch.keyword] := by
  cases switch <;> decide

theorem toUppercase_keyword (switch : Switch) : toUppercase switch.keyword = switch.keyword := by
  cases switch <;> decide

end Switch

/-- What the daemon receives of the argument: the bytes it still reads, decoded. -/
def received (switch : Switch) (m : String) : List Char :=
  lossy ((encode m.toList).take (1024 - (switch.keyword.length + 1)))

section Payload

variable (switch : Switch) (m : String)

/-- The whole payload arrives before the daemon's limit. -/
def Fits : Prop := (encode (payload (switch.command m))).length ≤ 1024

private theorem readToEnd_of_closed (limit : Nat) (bytes : List UInt8) :
    readToEnd limit ⟨bytes, none⟩ = .ok (bytes.take limit) := by
  rw [readToEnd]
  by_cases long : limit ≤ bytes.length
  · exact if_pos long
  · rw [if_neg long, List.take_of_length_le (Nat.le_of_not_le long)]

private theorem length_encode_keyword :
    (encode (switch.keyword ++ [' '])).length = switch.keyword.length + 1 := by
  cases switch <;> decide

/-- The limit cuts the argument only. -/
private theorem take_payload :
    (encode (payload (switch.command m))).take 1024 = encode (switch.keyword ++ [' ']) ++
      (encode m.toList).take (1024 - (switch.keyword.length + 1)) := by
  have parts : switch.keyword ++ ' ' :: m.toList = (switch.keyword ++ [' ']) ++ m.toList :=
    List.append_cons _ _ _
  have short : (encode (switch.keyword ++ [' '])).length ≤ 1024 := by cases switch <;> decide
  rw [switch.payload_command, parts, encode_append, List.take_append,
    List.take_of_length_le short, length_encode_keyword]

/-- What the daemon makes of an argument: its first word, as far as it is received. -/
theorem parseCommand_sent :
    parseCommand (sendCommandToDaemon (switch.command m)) =
      match splitWhitespace (received switch m) with
      | [] => .error "Unknown command"
      | word :: _ => .ok (some (switch.daemonCmd (String.ofList word))) := by
  have decoded : lossy ((encode (payload (switch.command m))).take 1024) =
      switch.keyword ++ ' ' :: received switch m := by
    rw [take_payload, lossy, decode_encode_append, List.append_assoc]
    rfl
  have words : splitWhitespace (trim (switch.keyword ++ ' ' :: received switch m)) =
      switch.keyword :: splitWhitespace (received switch m) := by
    rw [splitWhitespace_trim, splitWhitespace_append_cons (by decide), switch.keyword_word]
    rfl
  have some_ : ((encode (payload (switch.command m))).take 1024).isEmpty = false := by
    rw [take_payload]
    cases switch <;> rfl
  have notStatus : switch.keyword ≠ "STATUS".toList := by cases switch <;> decide
  have notList : switch.keyword ≠ "LIST".toList := by cases switch <;> decide
  unfold parseCommand sendCommandToDaemon
  simp only [readToEnd_of_closed, some_, decoded, words, switch.toUppercase_keyword, notStatus,
    notList, if_false]
  cases splitWhitespace (received switch m) with
  | nil => rfl
  | cons word rest => cases switch <;> rfl

/-- Nothing of an argument is lost that fits. -/
theorem received_of_fits (fits : Fits switch m) : received switch m = m.toList := by
  rw [Fits, switch.payload_command, List.append_cons, encode_append, List.length_append,
    length_encode_keyword] at fits
  rw [received, List.take_of_length_le (by omega), lossy_encode]

end Payload

section TwoWords

def twoModules : String := "exec_block rename_entropy"

/-- The daemon takes the first of two words for the argument. -/
theorem second_word_dropped :
    parseCommand (sendCommandToDaemon (.enable twoModules)) = .ok (some (.enable "exec_block")) ∧
      "exec_block" ≠ twoModules := by
  have fits : Fits .enable twoModules := by
    unfold Fits
    decide
  have words : splitWhitespace twoModules.toList =
      ["exec_block".toList, "rename_entropy".toList] := by decide
  have parsed := parseCommand_sent .enable twoModules
  rw [received_of_fits _ _ fits, words] at parsed
  exact ⟨parsed, by decide⟩

end TwoWords

/-- The daemon either rejects what the command line sends, or takes it for the same command with
the first word of the argument; and that is the argument, if it is one word and arrives whole. -/
theorem command_of_payload (switch : Switch) (m : String) :
    parseCommand (sendCommandToDaemon (switch.command m)) =
        (match splitWhitespace (received switch m) with
        | [] => .error "Unknown command"
        | word :: _ => .ok (some (switch.daemonCmd (String.ofList word)))) ∧
      (Fits switch m → received switch m = m.toList) ∧
      (Fits switch m → m.toList ≠ [] → (∀ c ∈ m.toList, isWhitespace c = false) →
        parseCommand (sendCommandToDaemon (switch.command m)) =
          .ok (some (switch.daemonCmd m))) := by
  refine ⟨parseCommand_sent switch m, received_of_fits switch m, ?_⟩
  intro fits some_ word
  rw [parseCommand_sent, received_of_fits switch m fits, splitWhitespace_of_word some_ word]
  exact congrArg (fun target => Except.ok (some (switch.daemonCmd target)))
    String.ofList_toList

theorem command_of_payload_sample :
    parseCommand (sendCommandToDaemon (.disable "rename_entropy")) =
      .ok (some (.disable "rename_entropy")) := by
  have word : ("rename_entropy".toList.all fun c => !isWhitespace c) = true := by decide
  refine (command_of_payload .disable "rename_entropy").2.2 (by unfold Fits; decide) (by decide) ?_
  intro c member
  have plain := List.all_eq_true.mp word c member
  rwa [Bool.not_eq_true'] at plain

end BouclierBleu.Daemon.Ipc
