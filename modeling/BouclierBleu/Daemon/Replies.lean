/- GID: BouclierBleu/Daemon/Replies
   source: cli/src/main.rs, core/src/actor.rs, core/src/ipc/handler.rs
   digest: What an administrator reads of the daemon's replies. -/

import BouclierBleu.Daemon.Ipc
import BouclierBleu.Daemon.LastWrite
import BouclierBleu.Library.StoppedLines

set_option autoImplicit false
set_option relaxedAutoImplicit false

namespace BouclierBleu.Daemon.Replies

open BouclierBleu.Daemon.Actor
open BouclierBleu.Daemon.Engine
open BouclierBleu.Daemon.Ipc
  (UnixStream readToEnd isWhitespace trim splitWhitespace parseCommand sendCommandToDaemon)
open BouclierBleu.Daemon.LastWrite
open BouclierBleu.Daemon.Linearization
open BouclierBleu.Daemon.ModuleState
open BouclierBleu.Kernel.AlertStructs (Endian)
open BouclierBleu.Library.Histories (after Legal)
open BouclierBleu.Library.LossyUtf8
open BouclierBleu.Library.StoppedLines
open BouclierBleu.Library.Trace (Move Run)

/-- `take(limit).read_to_string`; what is not valid UTF-8 is an error. -/
def readToString (limit : Nat) (bytes : List UInt8) : Option (List Char) :=
  let buffer := bytes.take limit
  if encode (lossy buffer) = buffer then some (lossy buffer) else none

/-- What `send_command_to_daemon` prints of a reply, unless it fails. -/
def printed (reply : String) : Option (List Char) :=
  (readToString 4096 (encode reply.toList)).map fun response =>
    response.rdropWhile isWhitespace ++ ['\n']

/-- The reply gets through to the terminal whole. -/
def Whole (reply : String) : Prop := readToString 4096 (encode reply.toList) = some reply.toList

/-- How a reader takes a line of the listing: a flag of ten columns, and the slug behind it. -/
def decodeRow (line : List Char) : Option (List Char × Bool) :=
  let slug := (line.drop 12).takeWhile (· ≠ ' ')
  if (line.drop 1).take 10 = "[ACTIVE]  ".toList then some (slug, true)
  else if (line.drop 1).take 10 = "[INACTIVE]".toList then some (slug, false)
  else none

def decodeListing (text : List Char) : Option (List (List Char × Bool)) :=
  match lines '\n' text with
  | [] => none
  | header :: rows => if header = "MODULE REGISTRY:".toList then rows.mapM decodeRow else none

section Lengths

private theorem length_utf8EncodeChar_le (c : Char) : (String.utf8EncodeChar c).length ≤ 4 := by
  rw [String.length_utf8EncodeChar]
  exact Char.utf8Size_le_four c

/-- A character takes four bytes at most. -/
theorem length_encode_le (text : List Char) : (encode text).length ≤ 4 * text.length := by
  induction text with
  | nil => exact Nat.le_refl _
  | cons c text ih =>
    have here := length_utf8EncodeChar_le c
    rw [encode_cons, List.length_append, List.length_cons]
    omega

private theorem length_ascii : ∀ n < 128, (String.utf8EncodeChar (Char.ofNat n)).length ≤ 3 := by
  decide

private theorem length_encode_lead_le (b : UInt8) :
    (encode (lead b).1).length + 3 * (lead b).2.toList.length ≤ 3 := by
  by_cases ascii : b < 0x80
  · have small : b.toNat < 128 := UInt8.lt_iff_toNat_lt.mp ascii
    rw [lead_of_ascii ascii, encode_cons, encode_nil, List.append_nil]
    exact length_ascii b.toNat small
  · let Short (made : List Char × Option Pending) : Prop :=
      (encode made.1).length + 3 * made.2.toList.length ≤ 3
    change Short (lead b)
    rw [lead, if_neg ascii]
    repeat' refine iteInduction (fun _ => ?_) (fun _ => ?_)
    all_goals exact Nat.le_refl 3

/-- A byte adds three bytes of output, counting three for an open sequence. -/
private theorem length_encode_feed_le (state : Option Pending) (b : UInt8) :
    (encode (feed state b).1).length + 3 * (feed state b).2.toList.length ≤
      3 * state.toList.length + 3 := by
  have fresh := length_encode_lead_le b
  cases state with
  | none => exact Nat.le_trans fresh (Nat.le_add_left _ _)
  | some p =>
    rw [feed]
    split_ifs
    · have made := length_encode_le [Char.ofNat (p.point * 64 + b.toNat % 64)]
      simp only [List.length_singleton, Option.toList_none, Option.toList_some,
        List.length_nil] at made ⊢
      omega
    · exact Nat.le_add_right 3 3
    · have replaced : (String.utf8EncodeChar replacement).length = 3 := by decide
      change (encode (replacement :: (lead b).1)).length + 3 * (lead b).2.toList.length ≤ 3 + 3
      rw [encode_cons, List.length_append, replaced]
      omega

private theorem length_encode_decode_le (state : Option Pending) (bytes : List UInt8) :
    (encode (decode state bytes)).length ≤ 3 * state.toList.length + 3 * bytes.length := by
  induction bytes generalizing state with
  | nil =>
    cases state with
    | none => exact Nat.le_refl _
    | some p =>
      have replaced : (encode [replacement]).length = 3 := by decide
      exact Nat.le_of_eq replaced
  | cons b rest ih =>
    have here := length_encode_feed_le state b
    have later := ih (feed state b).2
    rw [decode_cons, encode_append, List.length_append, List.length_cons]
    omega

/-- Replacement at most triples a text. -/
theorem length_encode_lossy_le (bytes : List UInt8) :
    (encode (lossy bytes)).length ≤ 3 * bytes.length := by
  have bound := length_encode_decode_le none bytes
  rwa [Option.toList_none, List.length_nil, Nat.mul_zero, Nat.zero_add] at bound

private theorem length_encode_sublist {part text : List Char} (inside : part.Sublist text) :
    (encode part).length ≤ (encode text).length := by
  induction inside with
  | slnil => exact Nat.le_refl _
  | cons c _ ih =>
    rw [encode_cons, List.length_append]
    exact Nat.le_trans ih (Nat.le_add_left _ _)
  | cons_cons c _ ih =>
    rw [encode_cons, encode_cons, List.length_append, List.length_append]
    exact Nat.add_le_add_left ih _

private theorem sublist_of_splitOnP {p : Char → Bool} {text : List Char} :
    ∀ word ∈ text.splitOnP p, word.Sublist text := by
  induction text with
  | nil =>
    intro word member
    rw [List.splitOnP_nil, List.mem_singleton] at member
    rw [member]
  | cons c text ih =>
    intro word member
    rw [List.splitOnP_cons_eq_if_modifyHead] at member
    split at member
    · rcases List.mem_cons.mp member with rfl | later
      · exact List.nil_sublist _
      · exact (ih word later).cons c
    · cases parts : text.splitOnP p with
      | nil => exact absurd parts (List.splitOnP_ne_nil p text)
      | cons first rest =>
        rw [parts] at ih member
        rcases List.mem_cons.mp member with rfl | later
        · exact (ih first List.mem_cons_self).cons_cons c
        · exact (ih word (List.mem_cons_of_mem _ later)).cons c

end Lengths

section Whole

private theorem whole_of_length {reply : String}
    (short : (encode reply.toList).length ≤ 4096) : Whole reply := by
  rw [Whole, readToString, List.take_of_length_le short, lossy_encode]
  exact if_pos rfl

/-- A command that is read has no argument, or a word of the first kilobyte. -/
private theorem parsed_cases {stream : UnixStream} {cmd : DaemonCmd}
    (parsed : parseCommand stream = .ok (some cmd)) :
    cmd = .status ∨ cmd = .list ∨ ∃ buffer named, buffer.length ≤ 1024 ∧
      named ∈ splitWhitespace (trim (lossy buffer)) ∧
        (cmd = .enable (.ofList named) ∨ cmd = .disable (.ofList named)) := by
  rw [parseCommand] at parsed
  split at parsed
  · cases parsed
  · rename_i buffer received
    have few : buffer.length ≤ 1024 := by
      rw [readToEnd] at received
      split at received
      · cases received
        exact List.length_take_le ..
      · split at received
        · cases received
          omega
        · cases received
    split at parsed
    · cases parsed
    · simp only at parsed
      split at parsed
      · cases parsed
      · rename_i first rest words
        split at parsed
        · cases parsed
          exact .inl rfl
        · split at parsed
          · cases parsed
            exact .inr (.inl rfl)
          · split at parsed
            · cases parsed
            · rename_i named more
              have second : named ∈ splitWhitespace (trim (lossy buffer)) :=
                words ▸ List.mem_cons_of_mem _ List.mem_cons_self
              split at parsed
              · cases parsed
                exact .inr (.inr ⟨buffer, named, few, second, .inl rfl⟩)
              · split at parsed
                · cases parsed
                  exact .inr (.inr ⟨buffer, named, few, second, .inr rfl⟩)
                · cases parsed

/-- A word takes no more than three times the bytes it was read from. -/
private theorem word_short {buffer : List UInt8} {word : List Char} (few : buffer.length ≤ 1024)
    (member : word ∈ splitWhitespace (trim (lossy buffer))) :
    (encode word).length ≤ 3 * 1024 := by
  have inside := sublist_of_splitOnP word (List.mem_of_mem_filter member)
  have trimmed : (trim (lossy buffer)).Sublist (lossy buffer) :=
    (List.rdropWhile_prefix _ _).sublist.trans (List.dropWhile_sublist _)
  have short := length_encode_sublist (inside.trans trimmed)
  have bound := length_encode_lossy_le buffer
  omega

private theorem length_encode_append (front back : String) :
    (encode (front ++ back).toList).length =
      (encode front.toList).length + (encode back.toList).length := by
  rw [String.toList_append, encode_append, List.length_append]

private theorem length_available : ∀ name ∈ availableModules, (encode name.toList).length ≤ 20 := by
  decide

def statusText : String := "Bouclier Bleu EDR Status: Kernel Engine Running\n"

private theorem length_texts :
    ∀ text ∈ [statusText, permissionDenied, unknownCommand, busy, disconnected, timedOut],
      (encode text.toList).length ≤ 60 := by
  decide +kernel

private theorem whole_text {text : String}
    (fixed : text ∈ [statusText, permissionDenied, unknownCommand, busy, disconnected, timedOut]) :
    Whole text :=
  whole_of_length (Nat.le_trans (length_texts text fixed) (by decide))

private theorem toString_eq (text : String) : toString text = text := rfl

/-- The replies to a toggle leave room for the longest word a command can carry. -/
private theorem whole_toggle {d : DaemonState} {target : String} {enable updated : Bool}
    (known : ∀ slug ∈ d.activeSkeletons, slug ∈ availableModules)
    (short : (encode target.toList).length ≤ 3 * 1024) :
    Whole (toggleModule d target enable updated).2 := by
  apply whole_of_length
  rw [toggleModule]
  split
  · rename_i loaded
    rw [setModuleState, if_pos (known target loaded)]
    cases updated with
    | true =>
      have texts : (encode "SUCCESS: Defense module '".toList).length = 25 ∧
          (encode "' ".toList).length = 2 ∧
            (encode " via state synchronization\n".toList).length = 27 := by
        decide +kernel
      have state : (encode (if enable then "ENABLED" else "DISABLED").toList).length ≤ 8 := by
        cases enable <;> decide +kernel
      rw [if_pos rfl]
      simp only [length_encode_append, toString_eq, texts]
      omega
    | false =>
      have texts : (encode "ERROR: Failed to update kernel state for '".toList).length = 42 ∧
          (encode "': ".toList).length = 3 ∧ (encode "\n".toList).length = 1 ∧
            (encode "Failed to synchronize eBPF state_map for ".toList).length = 41 ∧
              (encode "".toList).length = 0 := by
        decide +kernel
      have named := length_available target (known target loaded)
      rw [if_neg Bool.false_ne_true]
      simp only [length_encode_append, toString_eq, texts]
      omega
  · have texts : (encode "ERROR: Module '".toList).length = 15 ∧
        (encode "' is not loaded in kernel memory. Check daemon boot logs or restart the service to load new modules.\n".toList).length = 101 ∧
          (encode "' is not currently active\n".toList).length = 26 := by
      decide +kernel
    split <;> simp only [length_encode_append, toString_eq, texts] <;> omega

end Whole

section Rows

/-- A line of the listing without its end. -/
def row (active : Bool) (m : SecurityModule) : List Char :=
  ' ' :: (if active then "[ACTIVE]  " else "[INACTIVE]").toList ++
    ' ' :: m.slug.toList ++ " (".toList ++ m.name.toList ++ [')']

theorem toList_listLine (active : Bool) (m : SecurityModule) :
    (listLine active m).toList = row active m ++ ['\n'] := by
  rw [listLine, row]
  simp only [toString_eq, String.toList_append]
  cases active <;> simp

private theorem toList_foldl (active : String → Bool) (registry : Registry) (front : String) :
    (registry.foldl (fun out m => out ++ listLine (active m.slug) m) front).toList =
      front.toList ++ terminate '\n' (registry.map fun m => row (active m.slug) m) := by
  induction registry generalizing front with
  | nil => simp
  | cons m registry ih =>
    rw [List.foldl_cons, ih, String.toList_append, toList_listLine, List.map_cons, terminate_cons]
    simp

/-- The reply to `List` is the header and the rows, each on a line of its own. -/
theorem toList_listing (active : String → Bool) :
    (listing active).toList = terminate '\n'
      ("MODULE REGISTRY:".toList :: buildRegistry.map fun m => row (active m.slug) m) := by
  rw [listing, toList_foldl, terminate_cons]
  rfl

theorem decodeRow_row {m : SecurityModule} (word : ' ' ∉ m.slug.toList) (active : Bool) :
    decodeRow (row active m) = some (m.slug.toList, active) := by
  have taken : ((row active m).drop 12).takeWhile (· ≠ ' ') = m.slug.toList := by
    have behind : (row active m).drop 12 =
        m.slug.toList ++ ' ' :: '(' :: (m.name.toList ++ [')']) := by
      cases active <;> simp [row]
    rw [behind, List.takeWhile_append_of_pos]
    · simp
    · intro c member
      exact decide_eq_true fun same => word (same ▸ member)
  rw [decodeRow, taken]
  cases active <;> simp [row]

/-- Trimming takes the end of the last line, which printing puts back. -/
theorem rdropWhile_terminate {parts : List (List Char)} (some_ : parts ≠ [])
    (ended : ∀ part ∈ parts, ∃ front c, part = front ++ [c] ∧ isWhitespace c = false) :
    (terminate '\n' parts).rdropWhile isWhitespace ++ ['\n'] = terminate '\n' parts := by
  rcases List.eq_nil_or_concat parts with rfl | ⟨before, last, rfl⟩
  · exact absurd rfl some_
  · rw [List.concat_eq_append] at ended ⊢
    obtain ⟨front, c, rfl, visible⟩ := ended last (List.mem_append_right _ List.mem_cons_self)
    rw [terminate_append, terminate_cons, terminate_nil, ← List.append_assoc,
      List.rdropWhile_concat_pos _ _ _ (by decide), ← List.append_assoc,
      List.rdropWhile_concat_neg _ _ _ (ne_true_of_eq_false visible)]

private theorem plain_buildRegistry : ∀ m ∈ buildRegistry, ' ' ∉ m.slug.toList ∧
    '\n' ∉ m.slug.toList ∧ '\n' ∉ m.name.toList := by
  decide

variable (active : String → Bool)

/-- Printing a listing changes nothing. -/
private theorem rdropWhile_listing :
    (listing active).toList.rdropWhile isWhitespace ++ ['\n'] = (listing active).toList := by
  rw [toList_listing]
  apply rdropWhile_terminate (List.cons_ne_nil _ _)
  rw [List.forall_mem_cons, List.forall_mem_map]
  exact ⟨⟨"MODULE REGISTRY".toList, ':', by decide, by decide⟩,
    fun m _ => ⟨_, ')', rfl, by decide⟩⟩

private theorem lines_listing : lines '\n' (listing active).toList =
    "MODULE REGISTRY:".toList :: buildRegistry.map fun m => row (active m.slug) m := by
  have free : ∀ part ∈ "MODULE REGISTRY:".toList ::
      buildRegistry.map fun m => row (active m.slug) m, '\n' ∉ part := by
    rw [List.forall_mem_cons, List.forall_mem_map]
    refine ⟨by decide, ?_⟩
    intro m member
    obtain ⟨_, slug, name⟩ := plain_buildRegistry m member
    cases active m.slug <;> simp [row, slug, name]
  have split := lines_terminate_append free []
  rwa [List.append_nil, lines_of_notMem List.not_mem_nil, List.append_nil,
    ← toList_listing] at split

private theorem mapM_decodeRow {registry : Registry} (known : registry ⊆ buildRegistry) :
    (registry.map fun m => row (active m.slug) m).mapM decodeRow =
      some (registry.map fun m => (m.slug.toList, active m.slug)) := by
  induction registry with
  | nil => rfl
  | cons m registry ih =>
    have word := (plain_buildRegistry m (known List.mem_cons_self)).1
    rw [List.map_cons, List.mapM_cons, decodeRow_row word, ih (List.subset_of_cons_subset known)]
    rfl

private theorem decodeListing_listing : decodeListing (listing active).toList =
    some (buildRegistry.map fun m => (m.slug.toList, active m.slug)) := by
  rw [decodeListing, lines_listing]
  dsimp only
  rw [if_pos rfl, mapM_decodeRow active (List.Subset.refl _)]

end Rows

section Runs

variable {b : Boot} {e : Endian} {s : System} {moves : List (Move System Event)}

private theorem length_row : ∀ m ∈ buildRegistry, ∀ active,
    (encode (row active m ++ ['\n'])).length ≤ 80 := by
  decide +kernel

/-- The listing takes less than a kilobyte. -/
private theorem whole_listing (active : String → Bool) : Whole (listing active) := by
  have rows (registry : Registry) (known : registry ⊆ buildRegistry) :
      (encode (terminate '\n' (registry.map fun m => row (active m.slug) m))).length ≤
        80 * registry.length := by
    induction registry with
    | nil => exact Nat.le_refl _
    | cons m registry ih =>
      have here := length_row m (known List.mem_cons_self) (active m.slug)
      have later := ih (List.subset_of_cons_subset known)
      rw [List.map_cons, terminate_cons, List.append_cons, encode_append, List.length_append,
        List.length_cons]
      omega
  have header : (encode ("MODULE REGISTRY:".toList ++ ['\n'])).length = 17 := by decide +kernel
  have many : buildRegistry.length = 10 := rfl
  have bound := rows buildRegistry (List.Subset.refl _)
  apply whole_of_length
  rw [toList_listing, terminate_cons, List.append_cons, encode_append, List.length_append,
    header]
  omega

/-- What carrying out a command that was read from a socket gives is short. -/
private theorem whole_serve {ops : List CommandOperation} {stream : UnixStream} {cmd : DaemonCmd}
    (updated : Bool) (parsed : parseCommand stream = .ok (some cmd)) :
    Whole (serve (after serve (boot b) ops) ⟨cmd, updated⟩).2 := by
  have shows : Shows b ops (after serve (boot b) ops) := shows_after ops
  have known : ∀ slug ∈ (after serve (boot b) ops).activeSkeletons, slug ∈ availableModules := by
    rw [shows.loaded]
    exact fun slug loaded => (List.mem_filter.mp loaded).1
  rcases parsed_cases parsed with rfl | rfl | ⟨buffer, named, few, member, rfl | rfl⟩
  · exact whole_text (by simp [serve, handleCommand, statusText])
  · rw [serve, list_of_shows shows]
    exact whole_listing _
  · exact whole_toggle known (String.toList_ofList ▸ word_short few member)
  · exact whole_toggle known (String.toList_ofList ▸ word_short few member)

/-- A client asks for the listing, and is told. -/
def listMoves : List (Move System Event) :=
  let queued := (System.start guardedBoot).connect (.command .list)
  let taken := queued.receive ⟨.list, 0⟩ .empty 10
  let handled := taken.handle ⟨.list, 0⟩ 10 true
  let text := (handleCommand taken.daemon .list true).2
  let replied := handled.reply 0 text 10
  [⟨System.start guardedBoot, .connect (.command .list), queued⟩, ⟨queued, .receive, taken⟩,
    ⟨taken, .handle true, handled⟩, ⟨handled, .reply, replied⟩,
    ⟨replied, .deliver, replied.answer 0 text⟩]

private theorem run_listMoves : ∃ s, Run (Step .little) (System.start guardedBoot) listMoves s ∧
    s.answers.map Prod.fst = [0] :=
  ⟨_, .cons (.connect _ rfl) (.cons (.receive rfl rfl) (.cons (.handle true rfl)
    (.cons (.reply rfl) (.cons (.deliver rfl) (.nil _))))), rfl⟩

private theorem parseCommand_list :
    parseCommand (sendCommandToDaemon .list) = .ok (some .list) := by
  rfl

/-- Whatever clients write to the socket, and however the threads take turns: every answer the
daemon writes fits the command line's buffer, so that it is printed whole. -/
theorem answers_whole (run : Run (Step e) (System.start b) moves s)
    (read : ∀ cmd, .command cmd ∈ connections moves →
      ∃ stream, parseCommand stream = .ok (some cmd)) :
    ∀ answer ∈ s.answers, Whole answer.2 := by
  have ledger := ledger_of_run b run
  rintro ⟨c, text⟩ given
  cases ledger.explained _ given with
  | refused _ => exact whole_text (by simp [permissionDenied])
  | unknown _ => exact whole_text (by simp [unknownCommand])
  | busy _ _ _ => exact whole_text (by simp [busy])
  | disconnected _ _ _ => exact whole_text (by simp [disconnected])
  | timedOut _ _ => exact whole_text (by simp [timedOut])
  | answered op member _ =>
    obtain ⟨before, more, shape⟩ := List.append_of_mem member
    obtain ⟨stream, parsed⟩ := read _ (List.mem_of_getElem? (ledger.sent op member))
    have legal := ledger.legal
    rw [shape] at legal
    have output : (c, op.output).2 =
        (serve (after serve (boot b) before) ⟨op.input.cmd, op.input.updated⟩).2 :=
      legal.output_of_split
    rw [output]
    exact whole_serve op.input.updated parsed

theorem answers_whole_listing : ∃ s, Run (Step .little) (System.start guardedBoot) listMoves s ∧
    s.answers.map Prod.fst = [0] ∧ ∀ answer ∈ s.answers, Whole answer.2 := by
  obtain ⟨s, run, told⟩ := run_listMoves
  refine ⟨s, run, told, answers_whole run ?_⟩
  intro cmd member
  cases List.mem_singleton.mp member
  exact ⟨_, parseCommand_list⟩

/-- In every run, what an administrator sees of the reply to a `List` can be read back: for each
module of the registry, by its slug, what the commands carried out before it have left it. -/
theorem decodeListing_of_run (run : Run (Step e) (System.start b) moves s)
    {before more : List CommandOperation} {op : CommandOperation}
    (shape : operations moves = before ++ op :: more) (listed : op.input.cmd = .list) :
    (printed op.output).bind decodeListing =
      some (buildRegistry.map fun m => (m.slug.toList, reported b m.slug before)) := by
  have legal := (ledger_of_run b run).legal
  rw [shape] at legal
  have output : op.output = listing fun slug => reported b slug before := by
    rw [legal.output_of_split, serve, listed]
    exact list_of_shows (shows_after before) _
  have whole : Whole op.output := output ▸ whole_listing _
  rw [printed, whole, Option.map_some, Option.bind_some, output, rdropWhile_listing,
    decodeListing_listing]

theorem decodeListing_of_run_listing : ∃ op, operations listMoves = [op] ∧
    ((printed op.output).bind decodeListing).map (List.filter Prod.snd) =
      some [("exec_block".toList, true)] := by
  obtain ⟨s, run, _⟩ := run_listMoves
  refine ⟨_, rfl, ?_⟩
  have shape : operations listMoves = [] ++ _ :: [] := rfl
  rw [decodeListing_of_run run shape rfl]
  decide

end Runs

end BouclierBleu.Daemon.Replies
