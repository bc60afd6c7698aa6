/-
**Commands can be written so that a reader finds them.**

A command is cut into pieces, each on a line of its own; a piece but the last is continued by a
backslash. Lines end at a line feed with or without a carriage return in front, and blank lines may
stand anywhere between commands. However it is done, a reader finds the commands again.

* `Writes`: a file that is one of the ways to write commands;
* `read_written`: all ways are read as the commands, and there is one.
-/

import Mathlib.Data.List.Forall2
import Workyard.Proofs.Command.Grouping

namespace Workyard.Command

open Text

/-! ### Ways to write commands -/

/-- How a line ends. -/
inductive LineEnd where
  | feed
  | returnFeed
deriving DecidableEq, Repr

/-- The characters of a line's end. -/
def LineEnd.text : LineEnd → List Char
  | .feed => ['\n']
  | .returnFeed => ['\r', '\n']

/-- A line to be written. -/
structure WrittenLine where
  text : List Char
  ending : LineEnd
deriving DecidableEq, Repr

/-- The line with its end. -/
def WrittenLine.spelled (line : WrittenLine) : List Char := line.text ++ line.ending.text

/-- Whether the line is nothing but blanks. -/
def WrittenLine.Blank (line : WrittenLine) : Prop := allBlank line.text = true ∧ '\n' ∉ line.text

instance (line : WrittenLine) : Decidable line.Blank := inferInstanceAs (Decidable (_ ∧ _))

/-- The line going on in the next. -/
def WrittenLine.continued (line : WrittenLine) : WrittenLine :=
  { line with text := continuedLine line.text }

/-- A command cut into pieces, each with the end of its line, behind blank lines. The last piece
neither goes on in the next line nor ends in what could belong to the end of its line. -/
structure Entry where
  blanks : List WrittenLine
  heads : List WrittenLine
  last : WrittenLine
  blank : ∀ line ∈ blanks, line.Blank
  ends : last.text.getLast? ≠ some '\\'
  kept : last.text.getLast? ≠ some '\r'

/-- The pieces put together. -/
def Entry.command (entry : Entry) : List Char :=
  (entry.heads.map WrittenLine.text).flatten ++ entry.last.text

/-- The lines of an entry. -/
def Entry.lines (entry : Entry) : List WrittenLine :=
  entry.blanks ++ (entry.heads.map WrittenLine.continued ++ [entry.last])

/-- Lines as they stand in a file. The end of the last line may be left out if the line is not
empty. -/
inductive Spells (lines : List WrittenLine) : List Char → Prop where
  | ended : Spells lines (lines.flatMap WrittenLine.spelled)
  | unended {before : List WrittenLine} {last : WrittenLine} (some : last.text ≠ [])
      (whole : lines = before ++ [last]) :
      Spells lines (before.flatMap WrittenLine.spelled ++ last.text)

/-- **A file is a way to write commands** if it has entries for them and nothing else but blank
lines. -/
def Writes (commands : List (List Char)) (file : List Char) : Prop :=
  ∃ (entries : List Entry) (after : List WrittenLine), commands = entries.map Entry.command ∧
    (∀ line ∈ after, line.Blank) ∧ Spells (entries.flatMap Entry.lines ++ after) file

/-! ### Lines of a file -/

theorem lineFeed_not_mem {text : List Char} (single : '\n' ∉ text) :
    lineFeed ∉ Utf8.octets text :=
  fun member => single ((Utf8.mem_octets_iff '\n' (by decide)).mp member)

theorem withoutReturn_append (line : List UInt8) : withoutReturn (line ++ [carriageReturn]) = line := by
  simp [withoutReturn]

theorem withoutReturn_octets {text : List Char} (other : text.getLast? ≠ some '\r') :
    withoutReturn (Utf8.octets text) = Utf8.octets text := by
  refine if_neg fun returns => other ?_
  rcases List.eq_nil_or_concat' text with rfl | ⟨front, c, rfl⟩
  · cases returns
  have last : Utf8.octets [c] = String.utf8EncodeChar c := List.append_nil _
  have more : String.utf8EncodeChar c ≠ [] := by simp
  rw [Utf8.octets_append, last, List.getLast?_append_of_ne_nil _ more] at returns
  have same : c.toNat = carriageReturn.toNat :=
    Utf8.utf8EncodeChar_of_mem (by decide) (List.mem_of_getLast? returns)
  have carriage : c = '\r' := Char.toNat_inj.mp same
  rw [carriage, List.getLast?_concat]

/-- What is read of a written line: all of it, or all but a carriage return at its end. -/
def Kept (text : List Char) (line : WrittenLine) : Prop :=
  text = line.text ∨ line.text = text ++ ['\r']

theorem octets_feed : Utf8.octets LineEnd.feed.text = [lineFeed] := by decide

theorem octets_returnFeed :
    Utf8.octets LineEnd.returnFeed.text = [carriageReturn, lineFeed] := by decide

theorem octets_return (front : List Char) :
    Utf8.octets (front ++ ['\r']) = Utf8.octets front ++ [carriageReturn] := by
  rw [Utf8.octets_append]
  rfl

/-- A written line is cut where it ends. -/
theorem cut_line {line : WrittenLine} (single : '\n' ∉ line.text) {rest : List UInt8}
    {physical : List (List UInt8)} (behind : Cut rest physical) :
    ∃ text, Kept text line ∧
      Cut (Utf8.octets line.spelled ++ rest) (Utf8.octets text :: physical) := by
  obtain ⟨text, ending⟩ := line
  have feedless := lineFeed_not_mem single
  rw [WrittenLine.spelled, Utf8.octets_append, List.append_assoc]
  cases ending with
  | returnFeed =>
    refine ⟨text, .inl rfl, ?_⟩
    have longer : lineFeed ∉ Utf8.octets text ++ [carriageReturn] := by
      simpa using ⟨feedless, by decide⟩
    have cut := Cut.ended longer behind
    rw [withoutReturn_append, List.append_assoc] at cut
    rw [octets_returnFeed]
    exact cut
  | feed =>
    have cut := Cut.ended feedless behind
    rw [octets_feed]
    by_cases returns : text.getLast? = some '\r'
    · obtain ⟨front, rfl⟩ := List.getLast?_eq_some_iff.mp returns
      refine ⟨front, .inr rfl, ?_⟩
      simp only [octets_return, withoutReturn_append] at cut ⊢
      exact cut
    · rw [withoutReturn_octets returns] at cut
      exact ⟨text, .inl rfl, cut⟩

/-- Written lines are cut where they end. -/
theorem cut_lines {lines : List WrittenLine} (single : ∀ line ∈ lines, '\n' ∉ line.text)
    {rest : List UInt8} {physical : List (List UInt8)} (behind : Cut rest physical) :
    ∃ texts, List.Forall₂ Kept texts lines ∧
      Cut (Utf8.octets (lines.flatMap WrittenLine.spelled) ++ rest)
        (texts.map Utf8.octets ++ physical) := by
  induction lines with
  | nil => exact ⟨[], .nil, behind⟩
  | cons line lines hypothesis =>
    obtain ⟨here, others⟩ := List.forall_mem_cons.mp single
    obtain ⟨texts, kept, cut⟩ := hypothesis others
    obtain ⟨text, first, cut⟩ := cut_line here cut
    refine ⟨text :: texts, .cons first kept, ?_⟩
    rw [List.flatMap_cons, Utf8.octets_append, List.append_assoc]
    exact cut

/-- **The lines of a file are those that were written**, but for carriage returns at their ends. -/
theorem cut_of_spells {lines : List WrittenLine} (single : ∀ line ∈ lines, '\n' ∉ line.text)
    {file : List Char} (spells : Spells lines file) :
    ∃ texts, List.Forall₂ Kept texts lines ∧ Cut (Utf8.octets file) (texts.map Utf8.octets) := by
  cases spells with
  | ended =>
    obtain ⟨texts, kept, cut⟩ := cut_lines single .nothing
    rw [List.append_nil, List.append_nil] at cut
    exact ⟨texts, kept, cut⟩
  | @unended before last some whole =>
    subst whole
    obtain ⟨others, here⟩ := List.forall_mem_append.mp single
    have unended : Cut (Utf8.octets last.text) [Utf8.octets last.text] :=
      .unended (by simpa using some) (lineFeed_not_mem (here last (List.mem_singleton_self last)))
    obtain ⟨texts, kept, cut⟩ := cut_lines others unended
    refine ⟨texts ++ [last.text], List.rel_append kept (.cons (.inl rfl) .nil), ?_⟩
    rw [Utf8.octets_append, List.map_append]
    exact cut

/-! ### Lines laid out -/

/-- The lines are laid out in groups that are these commands. -/
def LaidOut (texts commands : List (List Char)) : Prop :=
  ∃ groups : List Group, texts = groups.flatMap Group.lines ∧
    commands = (groups.map Group.text).filter fun text => !allBlank text

namespace LaidOut

theorem nil : LaidOut [] [] := ⟨[], rfl, rfl⟩

theorem append {texts more commands others : List (List Char)} (first : LaidOut texts commands)
    (second : LaidOut more others) : LaidOut (texts ++ more) (commands ++ others) := by
  obtain ⟨groups, rfl, rfl⟩ := first
  obtain ⟨rest, rfl, rfl⟩ := second
  exact ⟨groups ++ rest, by simp, by simp⟩

/-- A blank line is no command. -/
theorem blank {text : List Char} (blank : allBlank text = true) : LaidOut [text] [] := by
  have ends : text.getLast? ≠ some '\\' := fun continued => by
    have dark : isBlank '\\' = true := List.all_eq_true.mp blank _ (List.mem_of_getLast? continued)
    exact absurd dark (by decide)
  exact ⟨[⟨[], text, ends⟩], rfl, by simp [Group.text, blank]⟩

/-- A group that is not blank is a command. -/
theorem group {group : Group} (dark : allBlank group.text = false) :
    LaidOut group.lines [group.text] :=
  ⟨[group], by simp, by simp [dark]⟩

/-- The commands are what a reader finds in octets that are cut into these lines. -/
theorem commands {texts commands : List (List Char)} (laid : LaidOut texts commands)
    {octets : List UInt8} (cut : Cut octets (texts.map Utf8.octets)) :
    (Reader.ofStream ⟨octets, none⟩).commands = (commands, none) := by
  obtain ⟨groups, rfl, rfl⟩ := laid
  let layout : Layout := ⟨groups, [], [], by simp⟩
  have same : layout.physical = (groups.flatMap Group.lines).map Utf8.octets := by
    simp [layout, Layout.physical, Layout.lines, Layout.complete]
  rw [← same] at cut
  exact commands_of_layout cut (.whole rfl rfl)

end LaidOut

/-! ### Entries laid out -/

theorem kept_append {texts : List (List Char)} {first second : List WrittenLine}
    (kept : List.Forall₂ Kept texts (first ++ second)) :
    ∃ front back, texts = front ++ back ∧ List.Forall₂ Kept front first ∧
      List.Forall₂ Kept back second :=
  ⟨texts.take first.length, texts.drop first.length, (List.take_append_drop _ _).symm,
    List.forall₂_take_append _ _ _ kept, List.forall₂_drop_append _ _ _ kept⟩

/-- Lines that do not end in a carriage return are kept whole. -/
theorem eq_of_kept {texts : List (List Char)} {lines : List WrittenLine}
    (kept : List.Forall₂ Kept texts lines)
    (whole : ∀ line ∈ lines, line.text.getLast? ≠ some '\r') :
    texts = lines.map WrittenLine.text := by
  induction kept with
  | nil => rfl
  | @cons text line texts lines first _ hypothesis =>
    obtain ⟨here, others⟩ := List.forall_mem_cons.mp whole
    rw [hypothesis others, List.map_cons]
    rcases first with rfl | returns
    · rfl
    · rw [returns, List.getLast?_concat] at here
      exact absurd rfl here

/-- Blank lines are no commands. -/
theorem laidOut_blanks {texts : List (List Char)} {lines : List WrittenLine}
    (kept : List.Forall₂ Kept texts lines) (blank : ∀ line ∈ lines, line.Blank) :
    LaidOut texts [] := by
  induction kept with
  | nil => exact .nil
  | @cons text line texts lines first _ hypothesis =>
    obtain ⟨⟨here, -⟩, others⟩ := List.forall_mem_cons.mp blank
    have still : allBlank text = true := by
      rcases first with rfl | returns
      · exact here
      · rw [returns, allBlank, List.all_append, Bool.and_eq_true] at here
        exact here.1
    exact (LaidOut.blank still).append (hypothesis others)

/-- **An entry is its command.** -/
theorem laidOut_entry {entry : Entry} (dark : allBlank entry.command = false)
    {texts : List (List Char)} (kept : List.Forall₂ Kept texts entry.lines) :
    LaidOut texts [entry.command] := by
  obtain ⟨front, back, rfl, blanks, pieces⟩ := kept_append kept
  let group : Group := ⟨entry.heads.map WrittenLine.text, entry.last.text, entry.ends⟩
  have whole : ∀ line ∈ entry.heads.map WrittenLine.continued ++ [entry.last],
      line.text.getLast? ≠ some '\r' := by
    refine List.forall_mem_append.mpr ⟨?_, List.forall_mem_singleton.mpr entry.kept⟩
    refine List.forall_mem_map.mpr fun head _ => ?_
    simp [WrittenLine.continued, continuedLine]
  have lines : back = group.lines := by
    rw [eq_of_kept pieces whole]
    simp [group, Group.lines, WrittenLine.continued, Function.comp_def]
  have laid : LaidOut group.lines [group.text] := .group dark
  rw [lines]
  exact (laidOut_blanks blanks entry.blank).append laid

/-- Entries are their commands, one after another. -/
theorem laidOut_entries {entries : List Entry}
    (dark : ∀ entry ∈ entries, allBlank entry.command = false) {texts : List (List Char)}
    (kept : List.Forall₂ Kept texts (entries.flatMap Entry.lines)) :
    LaidOut texts (entries.map Entry.command) := by
  induction entries generalizing texts with
  | nil =>
    cases kept
    exact .nil
  | cons entry entries hypothesis =>
    obtain ⟨first, rest⟩ := List.forall_mem_cons.mp dark
    obtain ⟨front, back, rfl, entered, behind⟩ := kept_append kept
    exact (laidOut_entry first entered).append (hypothesis rest behind)

/-! ### Reading what was written -/

/-- The lines of an entry are single lines if its command is one. -/
theorem Entry.single {entry : Entry} (single : '\n' ∉ entry.command) :
    ∀ line ∈ entry.lines, '\n' ∉ line.text := by
  have pieces : (∀ head ∈ entry.heads, '\n' ∉ head.text) ∧ '\n' ∉ entry.last.text := by
    simpa [Entry.command] using single
  refine List.forall_mem_append.mpr ⟨fun line member => (entry.blank line member).2, ?_⟩
  refine List.forall_mem_append.mpr ⟨List.forall_mem_map.mpr fun head member => ?_,
    List.forall_mem_singleton.mpr pieces.2⟩
  simpa [WrittenLine.continued, continuedLine] using pieces.1 head member

/-- A command as one continued piece in front of an empty line. -/
def Entry.plain (command : List Char) : Entry :=
  ⟨[], [⟨command, .feed⟩], ⟨[], .feed⟩, List.forall_mem_nil _, by simp, by simp⟩

/-- All commands can be written. -/
theorem exists_writes (commands : List (List Char)) : ∃ file, Writes commands file := by
  refine ⟨_, commands.map Entry.plain, [], ?_, List.forall_mem_nil _, .ended⟩
  simp [Entry.plain, Entry.command, Function.comp_def]

/-- **Commands that are written are found again.** Commands that are neither blank nor more than one
line can be written, and a reader finds them in every file that is a way to write them: the same
commands in the same order, with all their blanks, and no fault. -/
theorem read_written {commands : List (List Char)}
    (writable : ∀ command ∈ commands, allBlank command = false ∧ '\n' ∉ command) :
    (∃ file, Writes commands file) ∧
      ∀ file, Writes commands file →
        (Reader.ofStream ⟨Utf8.encode (String.ofList file), none⟩).commands = (commands, none) := by
  refine ⟨exists_writes commands, ?_⟩
  rintro file ⟨entries, after, rfl, blank, spells⟩
  rw [List.forall_mem_map] at writable
  have single : ∀ line ∈ entries.flatMap Entry.lines ++ after, '\n' ∉ line.text := by
    refine List.forall_mem_append.mpr ⟨fun line member => ?_, fun line member => ?_⟩
    · obtain ⟨entry, inside, member⟩ := List.mem_flatMap.mp member
      exact entry.single (writable entry inside).2 line member
    · exact (blank line member).2
  obtain ⟨texts, kept, cut⟩ := cut_of_spells single spells
  obtain ⟨front, back, rfl, entered, blanks⟩ := kept_append kept
  have laid : LaidOut front (entries.map Entry.command) :=
    laidOut_entries (fun entry inside => (writable entry inside).1) entered
  have whole := laid.append (laidOut_blanks blanks blank)
  rw [List.append_nil] at whole
  rw [Utf8.encode_eq, String.toList_ofList]
  exact whole.commands cut

/-- Three commands with blanks at their ends: one cut into three pieces of which one is empty, one that
ends in a backslash, and one behind blank lines. -/
def threeEntries : List Entry :=
  [⟨[⟨[' ', '\t'], .returnFeed⟩], [⟨"  echo ".toList, .returnFeed⟩, ⟨[], .feed⟩],
      ⟨"a ".toList, .feed⟩, by decide, by decide, by decide⟩,
    ⟨[], [⟨"é\\".toList, .feed⟩], ⟨[], .returnFeed⟩, by decide, by decide, by decide⟩,
    ⟨[⟨[], .feed⟩, ⟨['\r'], .feed⟩], [], ⟨"exit".toList, .feed⟩, by decide, by decide, by decide⟩]

/-- The three commands in a file without an end of the last line. -/
def threeFile : String :=
  " \t\r\n  echo \\\r\n\\\na \né\\\\\n\r\n\n\r\nexit"

theorem read_written_threeFile :
    (Reader.ofStream ⟨Utf8.encode threeFile, none⟩).commands =
      (["  echo a ".toList, "é\\".toList, "exit".toList], none) := by
  have file : threeFile.toList =
      (threeEntries.flatMap Entry.lines ++ []).dropLast.flatMap WrittenLine.spelled ++
        "exit".toList := by decide
  have spells : Spells (threeEntries.flatMap Entry.lines ++ []) threeFile.toList := by
    rw [file]
    exact @Spells.unended _ _ ⟨"exit".toList, .feed⟩ (by decide) (by decide)
  have written : Writes ["  echo a ".toList, "é\\".toList, "exit".toList] threeFile.toList :=
    ⟨threeEntries, [], by decide, List.forall_mem_nil _, spells⟩
  have read := (read_written (by decide)).2 _ written
  rwa [String.ofList_toList] at read

end Workyard.Command
