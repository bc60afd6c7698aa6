/-
**The commands of a stream.**

What a reader finds is described without the reader: octets are cut into physical lines, the lines are
laid out in groups, and each group is a command unless it is blank. Every stream has such a layout, and
it says where reading stops: at a line that is not UTF-8 or at the end of the input.

* `Cut`: the physical lines of octets;
* `Layout`: lines in groups, and what is left of them;
* `commands_eq`: the commands of a reader are what it finds next, again and again;
* `commands_iff_layout`: a reader finds the commands of the layout, and the fault with which it ends.
-/

import Workyard.Command.Reader
import Workyard.Proofs.Text.Utf8

namespace Workyard.Command

open Text

/-! ### Physical lines -/

/-- The octets of a line without the carriage return in which it ends. -/
def withoutReturn (line : List UInt8) : List UInt8 :=
  if line.getLast? = some carriageReturn then line.dropLast else line

/-- **The physical lines of octets.** A line ends at a line feed, with a carriage return right before
it dropped; octets behind the last line feed are one more line. -/
inductive Cut : List UInt8 → List (List UInt8) → Prop where
  | nothing : Cut [] []
  | unended {line : List UInt8} (octets : line ≠ []) (single : lineFeed ∉ line) : Cut line [line]
  | ended {line rest : List UInt8} {lines : List (List UInt8)} (single : lineFeed ∉ line)
      (behind : Cut rest lines) : Cut (line ++ lineFeed :: rest) (withoutReturn line :: lines)

/-- All octets have physical lines. -/
theorem exists_cut (octets : List UInt8) : ∃ lines, Cut octets lines := by
  induction octets with
  | nil => exact ⟨[], .nothing⟩
  | cons octet octets hypothesis =>
    obtain ⟨lines, cut⟩ := hypothesis
    by_cases feed : octet = lineFeed
    · subst feed
      have ended := Cut.ended (List.not_mem_nil : lineFeed ∉ []) cut
      exact ⟨_, ended⟩
    · cases cut with
      | nothing => exact ⟨_, .unended (List.cons_ne_nil octet []) (by simpa using Ne.symm feed)⟩
      | unended octets single =>
        exact ⟨_, .unended (List.cons_ne_nil octet _) (by simpa [Ne.symm feed] using single)⟩
      | @ended line rest lines single behind =>
        have longer : lineFeed ∉ octet :: line := by simpa [Ne.symm feed] using single
        exact ⟨_, Cut.ended longer behind⟩

theorem splitFrom_other {octet : UInt8} (other : octet ≠ lineFeed) (line : List UInt8)
    (cut : List (List UInt8)) (rest : List UInt8) :
    splitFrom line cut (octet :: rest) = splitFrom (octet :: line) cut rest := by
  rw [splitFrom.eq_def]
  simp only [other, if_false]

theorem splitFrom_unended {text : List UInt8} (single : lineFeed ∉ text) (line : List UInt8)
    (cut : List (List UInt8)) : splitFrom line cut text = (cut.reverse, line.reverse ++ text) := by
  induction text generalizing line with
  | nil => simp [splitFrom]
  | cons octet text hypothesis =>
    rw [List.mem_cons, not_or] at single
    obtain ⟨other, single⟩ := single
    rw [splitFrom_other (Ne.symm other), hypothesis single]
    simp

theorem splitFrom_ended {text : List UInt8} (single : lineFeed ∉ text) (line : List UInt8)
    (cut : List (List UInt8)) (rest : List UInt8) :
    splitFrom line cut (text ++ lineFeed :: rest) =
      splitFrom [] (withoutReturn (line.reverse ++ text) :: cut) rest := by
  induction text generalizing line with
  | nil =>
    cases line with
    | nil => simp [splitFrom, withoutReturn]
    | cons last before =>
      by_cases drops : last = carriageReturn <;> simp [splitFrom, withoutReturn, drops]
  | cons octet text hypothesis =>
    rw [List.mem_cons, not_or] at single
    obtain ⟨other, single⟩ := single
    rw [List.cons_append, splitFrom_other (Ne.symm other), hypothesis single]
    simp

theorem splitFrom_of_cut {octets : List UInt8} {physical : List (List UInt8)}
    (cut : Cut octets physical) (before : List (List UInt8)) :
    ∃ ended last, splitFrom [] before octets = (before.reverse ++ ended, last) ∧
      physical = ended ++ if last.isEmpty then [] else [last] := by
  induction cut generalizing before with
  | nothing => exact ⟨[], [], by simp [splitFrom], rfl⟩
  | @unended line octets single =>
    refine ⟨[], line, by simp [splitFrom_unended single], ?_⟩
    simp [octets]
  | @ended line rest lines single behind hypothesis =>
    obtain ⟨ended, last, split, rfl⟩ := hypothesis (withoutReturn line :: before)
    refine ⟨withoutReturn line :: ended, last, ?_, rfl⟩
    rw [splitFrom_ended single, List.reverse_nil, List.nil_append, split]
    simp

/-- The lines of a stream without a fault are read from its physical lines. -/
theorem lines_of_cut {octets : List UInt8} {physical : List (List UInt8)}
    (cut : Cut octets physical) : lines ⟨octets, none⟩ = physical.map readLine := by
  obtain ⟨ended, last, split, rfl⟩ := splitFrom_of_cut cut []
  rw [lines, splitLines, split]
  cases last <;> simp

/-! ### Groups of lines -/

/-- A line that goes on in the next. -/
def continuedLine (head : List Char) : List Char := head ++ ['\\']

/-- Lines that belong together: those that are continued, without their backslashes, and the first
that is not. -/
structure Group where
  heads : List (List Char)
  last : List Char
  ends : last.getLast? ≠ some '\\'

/-- The lines of a group. -/
def Group.lines (group : Group) : List (List Char) := group.heads.map continuedLine ++ [group.last]

/-- The lines of a group put together. -/
def Group.text (group : Group) : List Char := group.heads.flatten ++ group.last

/-- **Physical lines laid out in groups**, up to the first line that is not UTF-8. -/
structure Layout where
  groups : List Group
  /-- The continued lines of a group that is not completed, without their backslashes. -/
  cutOff : List (List Char)
  /-- The first line that is not UTF-8, and all behind it. -/
  foul : List (List UInt8)
  stops : ∀ line ∈ foul.head?, ∀ text, line ≠ Utf8.octets text

namespace Layout

/-- The lines of complete groups. -/
def complete (layout : Layout) : List (List Char) := layout.groups.flatMap Group.lines

/-- The lines before the first that is not UTF-8. -/
def lines (layout : Layout) : List (List Char) :=
  layout.complete ++ layout.cutOff.map continuedLine

/-- The physical lines that are laid out. -/
def physical (layout : Layout) : List (List UInt8) :=
  layout.lines.map Utf8.octets ++ layout.foul

/-- The groups that are not blank. -/
def commands (layout : Layout) : List (List Char) :=
  (layout.groups.map Group.text).filter fun text => !allBlank text

/-- **How reading ends**: with all lines read, in a group that is not completed, or at a line that is
not UTF-8. -/
inductive Ends (layout : Layout) : Option SourceFault → Prop where
  | whole (clean : layout.foul = []) (closed : layout.cutOff = []) : Ends layout none
  | cutOff (clean : layout.foul = []) (left : layout.cutOff ≠ []) :
      Ends layout (some (.unterminated (layout.complete.length + 1)))
  | foul {line : List UInt8} {rest : List (List UInt8)} {fault : Utf8.Fault}
      (unclean : layout.foul = line :: rest) (refused : Utf8.decode line = .error fault) :
      Ends layout (some (.unreadable (layout.lines.length + 1) (.encoding fault)))

/-- Some fault, or none, is how reading ends. -/
theorem exists_ends (layout : Layout) : ∃ fault, layout.Ends fault := by
  cases unclean : layout.foul with
  | nil =>
    by_cases closed : layout.cutOff = []
    · exact ⟨none, .whole unclean closed⟩
    · exact ⟨_, .cutOff unclean closed⟩
  | cons line rest =>
    cases decoded : Utf8.decode line with
    | ok text =>
      exact absurd (Utf8.decode_eq_ok_iff.mp decoded) (layout.stops line (by simp [unclean]) text)
    | error fault => exact ⟨_, .foul unclean decoded⟩

/-- A continued line belongs to the group behind it. -/
theorem exists_continued (layout : Layout) (head : List Char) :
    ∃ more : Layout, more.physical = Utf8.octets (continuedLine head) :: layout.physical := by
  obtain ⟨groups, cutOff, foul, stops⟩ := layout
  cases groups with
  | nil => exact ⟨⟨[], head :: cutOff, foul, stops⟩, by simp [physical, lines, complete]⟩
  | cons group groups =>
    obtain ⟨heads, last, ends⟩ := group
    exact ⟨⟨⟨head :: heads, last, ends⟩ :: groups, cutOff, foul, stops⟩,
      by simp [physical, lines, complete, Group.lines]⟩

/-- A line that is not continued is a group by itself. -/
theorem exists_single (layout : Layout) {last : List Char} (ends : last.getLast? ≠ some '\\') :
    ∃ more : Layout, more.physical = Utf8.octets last :: layout.physical :=
  ⟨{ layout with groups := ⟨[], last, ends⟩ :: layout.groups },
    by simp [physical, lines, complete, Group.lines]⟩

/-- **All physical lines can be laid out.** -/
theorem exists_layout (lines : List (List UInt8)) : ∃ layout : Layout, layout.physical = lines := by
  induction lines with
  | nil => exact ⟨⟨[], [], [], by simp⟩, rfl⟩
  | cons line lines hypothesis =>
    obtain ⟨layout, rfl⟩ := hypothesis
    by_cases text : ∃ text, line = Utf8.octets text
    · obtain ⟨text, rfl⟩ := text
      by_cases goesOn : text.getLast? = some '\\'
      · obtain ⟨head, rfl⟩ := List.getLast?_eq_some_iff.mp goesOn
        exact layout.exists_continued head
      · exact layout.exists_single goesOn
    · exact ⟨⟨[], [], line :: layout.physical, by simpa using text⟩, rfl⟩

end Layout

/-! ### Reading groups -/

/-- **The commands are what repeated reading finds** up to the first fault or the end. -/
theorem commands_eq (reader : Reader) :
    reader.commands = match reader.next with
      | (.command text, rest) => (text :: rest.commands.1, rest.commands.2)
      | (.fault fault, _) => ([], some fault)
      | (.done, _) => ([], none) := by
  unfold Reader.commands
  rw [Reader.steps]
  split
  · next nothing => simp [Reader.next, nothing, nextFrom, collect]
  · rcases reader.next with ⟨_ | _ | _, rest⟩ <;> rfl

theorem readLine_octets (text : List Char) : readLine (Utf8.octets text) = .ok text := by
  rw [readLine, Utf8.decode_eq_ok_iff.mpr rfl]
  rfl

theorem readLine_refused {line : List UInt8} {fault : Utf8.Fault}
    (refused : Utf8.decode line = .error fault) : readLine line = .error (.encoding fault) := by
  rw [readLine, refused]
  rfl

theorem continued?_continuedLine (head : List Char) : continued? (continuedLine head) = some head := by
  simp [continued?, continuedLine]

/-- Continued lines are put behind what a group holds; the first of them is where it started to be
continued. -/
theorem nextFrom_heads (heads : List (List Char)) (group : List Char) (start : Option Nat)
    (read : Nat) (rest : List Line) :
    nextFrom group start read ((heads.map continuedLine).map .ok ++ rest) =
      nextFrom (group ++ heads.flatten) (if heads = [] then start else start <|> some (read + 1))
        (read + heads.length) rest := by
  induction heads generalizing group start read with
  | nil => simp
  | cons head heads hypothesis =>
    simp only [List.map_cons, List.cons_append, nextFrom, continued?_continuedLine, hypothesis]
    cases start <;> simp [Nat.add_assoc, Nat.add_comm 1]

/-- A complete group is a command, or is passed over if it is blank. -/
theorem next_group (group : Group) (read : Nat) (rest : List Line) :
    Reader.next ⟨group.lines.map .ok ++ rest, read⟩ =
      if allBlank group.text then Reader.next ⟨rest, read + group.lines.length⟩
      else (.command group.text, ⟨rest, read + group.lines.length⟩) := by
  have single : continued? group.last = none := if_neg group.ends
  rw [Reader.next, Group.lines, List.map_append, List.append_assoc, nextFrom_heads,
    List.map_singleton, List.singleton_append, nextFrom]
  simp only [single, List.nil_append, List.length_append, List.length_map, List.length_singleton,
    ← Nat.add_assoc]
  rfl

/-- A complete group is found first, unless it is blank. -/
theorem commands_group (group : Group) (read : Nat) (rest : List Line) :
    Reader.commands ⟨group.lines.map .ok ++ rest, read⟩ =
      ([group.text].filter (fun text => !allBlank text) ++
          (Reader.commands ⟨rest, read + group.lines.length⟩).1,
        (Reader.commands ⟨rest, read + group.lines.length⟩).2) := by
  rw [commands_eq, next_group]
  by_cases blank : allBlank group.text = true
  · rw [if_pos blank, ← commands_eq]
    simp [blank]
  · rw [if_neg blank]
    simp [blank]

/-- Complete groups are found first, as far as they are not blank. -/
theorem commands_groups (groups : List Group) (read : Nat) (rest : List Line) :
    Reader.commands ⟨(groups.flatMap Group.lines).map .ok ++ rest, read⟩ =
      ((groups.map Group.text).filter (fun text => !allBlank text) ++
          (Reader.commands ⟨rest, read + (groups.flatMap Group.lines).length⟩).1,
        (Reader.commands ⟨rest, read + (groups.flatMap Group.lines).length⟩).2) := by
  induction groups generalizing read with
  | nil => rfl
  | cons group groups hypothesis =>
    rw [List.flatMap_cons, List.map_append, List.append_assoc, commands_group, hypothesis,
      List.length_append, ← Nat.add_assoc, List.map_cons, ← List.append_assoc, ← List.filter_append]
    rfl

/-- What is left behind the groups is a fault or the end. -/
theorem commands_rest {layout : Layout} {fault : Option SourceFault} (ended : layout.Ends fault) :
    Reader.commands ⟨(layout.cutOff.map continuedLine).map .ok ++ layout.foul.map readLine,
      layout.complete.length⟩ = ([], fault) := by
  rw [commands_eq, Reader.next, nextFrom_heads]
  cases ended with
  | whole clean closed => simp [clean, closed, nextFrom]
  | cutOff clean left => simp [clean, left, nextFrom]
  | @foul line rest fault unclean refused =>
    simp [unclean, readLine_refused refused, nextFrom, Layout.lines]

/-- A reader finds the commands of a layout. -/
theorem commands_of_layout {octets : List UInt8} {layout : Layout} {fault : Option SourceFault}
    (cut : Cut octets layout.physical) (ended : layout.Ends fault) :
    (Reader.ofStream ⟨octets, none⟩).commands = (layout.commands, fault) := by
  have read : lines ⟨octets, none⟩ = layout.complete.map .ok ++
      ((layout.cutOff.map continuedLine).map .ok ++ layout.foul.map readLine) := by
    have texts : readLine ∘ Utf8.octets = .ok := funext readLine_octets
    rw [lines_of_cut cut, Layout.physical, Layout.lines, List.map_append, List.map_append,
      List.map_append, List.map_map, List.map_map, texts, List.append_assoc]
  rw [Reader.ofStream, read, Layout.complete, commands_groups, Nat.zero_add, ← Layout.complete,
    commands_rest ended, List.append_nil]
  rfl

/-- **A reader finds the groups of lines that are not blank.** For octets that were read without a
fault there is a layout of the physical lines, which is to say: lines that end in a backslash are
put together with those behind them, without these backslashes, and every group of nothing but
blanks is left out; the first line that is not UTF-8 is a fault with its number, and so is the end of
the input within a group, with the number of the first line of the group. -/
theorem commands_iff_layout {octets : List UInt8} {commands : List (List Char)}
    {fault : Option SourceFault} :
    (Reader.ofStream ⟨octets, none⟩).commands = (commands, fault) ↔
      ∃ layout : Layout, Cut octets layout.physical ∧ commands = layout.commands ∧
        layout.Ends fault := by
  constructor
  · intro found
    obtain ⟨lines, cut⟩ := exists_cut octets
    obtain ⟨layout, rfl⟩ := Layout.exists_layout lines
    obtain ⟨other, ended⟩ := layout.exists_ends
    rw [commands_of_layout cut ended] at found
    obtain ⟨rfl, rfl⟩ := Prod.mk.inj found
    exact ⟨layout, cut, rfl, ended⟩
  · rintro ⟨layout, cut, rfl, ended⟩
    exact commands_of_layout cut ended

end Workyard.Command
