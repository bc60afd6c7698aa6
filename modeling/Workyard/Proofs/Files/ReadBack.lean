/-
**The log of successes can be read back.**

A log that is opened in two empty files keeps them apart: whatever is recorded, and however often it is
opened again, the file of successes holds the entries of the successes in order and nothing else. An entry
ends in a line feed, and is one line if the command in it has none; nothing keeps a client from submitting
one that has.

* `Keeps`: what is true of an open log at any time;
* `Keeps.perform`, `Keeps.performAll`: what is done with the log keeps it true;
* `commandsOn`: the commands on the lines of a text;
* `successes_read_back_iff`: reading back gives the commands of the successes exactly if none has a line feed.
-/

import Workyard.Files.LogBook
import Workyard.Proofs.Files.Growth
import Workyard.Proofs.Text.Utf8
import Workyard.Rpc.Manager

namespace Workyard

/-! ### The time of an entry -/

/-- A text has only signs that the written form of a point in time has. -/
def TimeSigns (text : String) : Prop := ∀ c ∈ text.toList, c.isDigit = true ∨ c ∈ "+-:TZ".toList

theorem timeSigns_append_iff (first second : String) :
    TimeSigns (first ++ second) ↔ TimeSigns first ∧ TimeSigns second := by
  unfold TimeSigns
  rw [String.toList_append]
  exact List.forall_mem_append

theorem timeSigns_padded (places value : Nat) : TimeSigns (Text.padded places value) := by
  intro c member
  rw [Text.padded, String.toList_ofList, List.mem_append] at member
  rcases member with zero | digit
  · rw [List.eq_of_mem_replicate zero]
    exact .inl rfl
  · rw [Nat.toString_eq_ofList_toDigits, String.toList_ofList] at digit
    exact .inl (Nat.isDigit_of_mem_toDigits (by decide) (by decide) digit)

theorem timeSigns_singleton {c : Char} (sign : c ∈ "+-:TZ".toList) :
    TimeSigns (String.singleton c) := by
  intro other member
  rw [String.toList_singleton, List.mem_singleton] at member
  exact .inr (member ▸ sign)

theorem timeSigns_yearText (year : Int) : TimeSigns (Date.yearText year) := by
  have minus : TimeSigns "-" := timeSigns_singleton (c := '-') (by decide)
  have plus : TimeSigns "+" := timeSigns_singleton (c := '+') (by decide)
  unfold Date.yearText
  repeat' split
  all_goals simp only [timeSigns_append_iff, timeSigns_padded, minus, plus, and_self]

/-- A point in time is written with these signs only. -/
theorem timeSigns_text (time : Timestamp) : TimeSigns time.text := by
  have dash : TimeSigns "-" := timeSigns_singleton (c := '-') (by decide)
  have colon : TimeSigns ":" := timeSigns_singleton (c := ':') (by decide)
  have behindDate : TimeSigns "T" := timeSigns_singleton (c := 'T') (by decide)
  have behindTime : TimeSigns "Z" := timeSigns_singleton (c := 'Z') (by decide)
  simp only [Timestamp.text, Date.text, timeSigns_append_iff, timeSigns_padded, timeSigns_yearText,
    dash, colon, behindDate, behindTime, and_self]

/-- None of them is a blank or ends a line. -/
theorem not_mem_time {time : Timestamp} {c : Char} (other : c = ' ' ∨ c = '\n') :
    c ∉ time.text.toList := by
  intro member
  have sign := timeSigns_text time c member
  rcases other with rfl | rfl <;> revert sign <;> decide

end Workyard

namespace Workyard.Files

open Dispatch

/-! ### Reading -/

/-- The lines of a text without their ends; what stands behind the last end is none. -/
def endedLines (text : String) : List String :=
  ((text.toList.splitOn '\n').dropLast).map String.ofList

/-- The command on a line: behind the time and a blank, it stands in brackets up to the end. -/
def commandOn? (line : String) : Option String :=
  match line.toList.dropWhile (· ≠ ' ') with
  | ' ' :: '[' :: rest =>
    if rest.getLast? = some ']' then some (String.ofList rest.dropLast) else none
  | _ => none

/-- What is found on the lines of a text. -/
def commandsOn (text : String) : List (Option String) := (endedLines text).map commandOn?

/-! ### What is done with a log -/

/-- Something that is done with a log that is open. -/
inductive Deed where
  | record (entry : Entry)
  /-- The log is closed and opened again. -/
  | reopen
  /-- Time passes. -/
  | pass (clock : Timestamp)

/-- The command whose success is recorded. -/
def Deed.success? : Deed → Option String
  | .record (.ok command) => some command
  | _ => none

/-- Does something with a log that has these files; nothing may fail. -/
def LogBook.perform (okName failedName : String) (book : LogBook) : Deed → Option LogBook
  | .record entry => match book.record? entry with
    | some (book, .ok ()) => some book
    | _ => none
  | .reopen => match book.openFiles okName failedName with
    | (book, .ok ()) => some book
    | _ => none
  | .pass clock => some { book with clock }

/-- Does one thing after the other. -/
def LogBook.performAll (okName failedName : String) (book : LogBook) (deeds : List Deed) :
    Option LogBook :=
  deeds.foldlM (LogBook.perform okName failedName) book

/-- A log has just been opened, in files that are empty and not the same. -/
structure Opening (okName failedName : String) (files : LogFiles) (start book : LogBook) : Prop where
  numbered : start.tree.Numbered
  opened : start.openFiles okName failedName = (book, .ok ())
  log : book.files = some files
  apart : files.ok ≠ files.failed
  okEmpty : book.tree.octets? files.ok = some []
  failedEmpty : book.tree.octets? files.failed = some []

/-- **A log can be opened** under two names for which there is nothing yet. -/
theorem opening_of_free {okName failedName : String} {start : LogBook} {okPath failedPath : Path}
    (numbered : start.tree.Numbered)
    (okFree : start.tree.locate (start.fullName okName) = .ok ⟨okPath, none, false⟩)
    (failedFree : start.tree.locate (start.fullName failedName) = .ok ⟨failedPath, none, false⟩)
    (apart : failedPath ≠ okPath) (okUnsealed : Tree.Unsealed okPath)
    (failedUnsealed : Tree.Unsealed failedPath) :
    ∃ files book, Opening okName failedName files start book ∧ book.clock = start.clock := by
  obtain ⟨middle, first, okEmpty, next, names⟩ := Tree.openAppend_free okFree okUnsealed
  obtain ⟨grown, numberedNow, -, -⟩ := Tree.openAppend_spec numbered first
  have still : middle.locate (start.fullName failedName) = .ok ⟨failedPath, none, false⟩ := by
    rw [Tree.locate_extends grown failedFree, Tree.look, names failedPath apart]
    exact congrArg Except.ok (Tree.eq_look_of_locate failedFree).symm
  obtain ⟨last, second, failedEmpty, -, -⟩ := Tree.openAppend_free still failedUnsealed
  obtain ⟨-, -, others, -⟩ := Tree.openAppend_spec numberedNow second
  have different : start.tree.fresh ≠ middle.fresh := by omega
  refine ⟨⟨start.tree.fresh, middle.fresh⟩,
    { start with tree := last, files := some ⟨start.tree.fresh, middle.fresh⟩ },
    ⟨numbered, ?_, rfl, different, (others _ different).trans okEmpty, failedEmpty⟩, rfl⟩
  simp only [LogBook.openFiles, openLogs, first, second]

/-- There is nothing but a root, and it is the start of 1970. -/
def bareRoot : LogBook where
  tree := numbered [([], .directory)] []

theorem opening_bareRoot :
    ∃ files book, Opening "/ok.log" "/fail.log" files bareRoot book ∧ book.clock = ⟨0⟩ := by
  have root : bareRoot.tree.enter [] = .ok () := rfl
  have okFull : bareRoot.fullName "/ok.log" = "/ok.log" := by simp [LogBook.fullName]
  have failedFull : bareRoot.fullName "/fail.log" = "/fail.log" := by simp [LogBook.fullName]
  have okFree : bareRoot.tree.locate "/ok.log" = .ok ⟨["ok.log"], none, false⟩ :=
    Tree.locate_in_root root "ok.log".toList (by decide) (by decide) (by decide) rfl
  have failedFree : bareRoot.tree.locate "/fail.log" = .ok ⟨["fail.log"], none, false⟩ :=
    Tree.locate_in_root root "fail.log".toList (by decide) (by decide) (by decide) rfl
  have unsealed : Tree.Unsealed ["ok.log"] ∧ Tree.Unsealed ["fail.log"] := ⟨rfl, rfl⟩
  rw [← okFull] at okFree
  rw [← failedFull] at failedFree
  exact opening_of_free (Tree.numbered_numbered _ _) okFree failedFree (by decide) unsealed.1
    unsealed.2

/-! ### What stays true -/

/-- The line of a success, without its end. -/
def okLine (success : Timestamp × String) : List Char :=
  success.1.text.toList ++ ' ' :: '[' :: (success.2.toList ++ [']'])

/-- The text of successes, each with the time at which it was recorded. -/
def okText (successes : List (Timestamp × String)) : List Char :=
  successes.flatMap fun success => okLine success ++ ['\n']

/-- A log is open in two files that are found under its names, and the first of them holds these
successes. -/
structure Keeps (okName failedName : String) (files : LogFiles) (successes : List (Timestamp × String))
    (book : LogBook) : Prop where
  log : book.files = some files
  apart : files.ok ≠ files.failed
  okFound : book.tree.IsFile (book.fullName okName) files.ok
  failedFound : book.tree.IsFile (book.fullName failedName) files.failed
  held : book.tree.octets? files.ok = some (Text.Utf8.octets (okText successes))

section

variable {okName failedName : String} {files : LogFiles} {successes : List (Timestamp × String)}
  {start book : LogBook}

/-- Names are read from the directory of the book, wherever that has got. -/
theorem fullName_eq {other : LogBook} (here : other.tree.here = book.tree.here) (name : String) :
    other.fullName name = book.fullName name := by
  unfold LogBook.fullName
  rw [here]

/-- A log that has just been opened holds nothing. -/
theorem Opening.keeps (opening : Opening okName failedName files start book) :
    Keeps okName failedName files [] book := by
  have opened := opening.opened
  unfold LogBook.openFiles openLogs at opened
  cases first : start.tree.openAppend (start.fullName okName) with
  | error fault => simp only [first] at opened; cases (Prod.mk.inj opened).2
  | ok one =>
    obtain ⟨middle, ok⟩ := one
    cases second : middle.openAppend (start.fullName failedName) with
    | error fault => simp only [first, second] at opened; cases (Prod.mk.inj opened).2
    | ok two =>
      obtain ⟨last, failed⟩ := two
      simp only [first, second, Prod.mk.injEq, and_true] at opened
      have numbers := opening.log
      subst opened
      obtain rfl : ⟨ok, failed⟩ = files := Option.some.inj numbers
      obtain ⟨grown, numbered, -, okFile⟩ := Tree.openAppend_spec opening.numbered first
      obtain ⟨grownAgain, -, others, failedFile⟩ := Tree.openAppend_spec numbered second
      have okEmpty : middle.octets? ok = some [] := (others ok opening.apart).symm.trans opening.okEmpty
      have here : last.here = start.tree.here := grownAgain.here.trans grown.here
      refine ⟨rfl, opening.apart, ?_, ?_, opening.okEmpty⟩
      · rw [fullName_eq here]
        exact (okFile (by rw [okEmpty]; rfl)).extends grownAgain
      · rw [fullName_eq here]
        exact failedFile (by rw [opening.failedEmpty]; rfl)

/-- What is kept can be read. -/
theorem Keeps.read (keeps : Keeps okName failedName files successes book) :
    book.read okName = .ok (String.ofList (okText successes)) := by
  unfold LogBook.read
  rw [keeps.okFound.read keeps.held]
  simp only [bind, Except.bind, Text.Utf8.decode_eq_ok_iff.mpr rfl]

/-- What a deed adds to the successes, if it is done at this time. -/
def Deed.adds (clock : Timestamp) (deed : Deed) : List (Timestamp × String) :=
  deed.success?.toList.map (clock, ·)

theorem Deed.adds_ok (clock : Timestamp) (command : String) :
    (Deed.record (.ok command)).adds clock = [(clock, command)] :=
  rfl

theorem Deed.adds_eq_nil {clock : Timestamp} {deed : Deed} (silent : deed.success? = none) :
    deed.adds clock = [] := by
  rw [Deed.adds, silent]
  rfl

theorem toList_entryText_ok (time : Timestamp) (command : String) :
    (entryText time (.ok command)).toList = okLine (time, command) ++ ['\n'] := by
  simp [entryText, okLine, toString]

theorem okText_concat (successes : List (Timestamp × String)) (success : Timestamp × String) :
    okText (successes ++ [success]) = okText successes ++ (okLine success ++ ['\n']) := by
  rw [okText, List.flatMap_append, List.flatMap_singleton]
  rfl

/-- The octets of an entry come behind what the file of successes held, or leave it as it was. -/
theorem Keeps.record (keeps : Keeps okName failedName files successes book) (entry : Entry) :
    ∃ after, book.record? entry = some (after, .ok ()) ∧
      Keeps okName failedName files (successes ++ (Deed.record entry).adds book.clock) after := by
  have holds : ∃ before, book.tree.octets? (files.file entry) = some before := by
    cases entry with
    | ok command => exact ⟨_, keeps.held⟩
    | failed command reason => exact Option.isSome_iff_exists.mp keeps.failedFound.1
  obtain ⟨before, held⟩ := holds
  obtain ⟨larger, appended, grown, now, others⟩ :=
    Tree.append_spec held (Text.Utf8.encode (entryText book.clock entry))
  refine ⟨{ book with tree := larger }, ?_, keeps.log, keeps.apart, ?_, ?_, ?_⟩
  · simp only [LogBook.record?, keeps.log, Option.map_some, LogFiles.record, appended]
  · rw [fullName_eq grown.here]
    exact keeps.okFound.extends grown
  · rw [fullName_eq grown.here]
    exact keeps.failedFound.extends grown
  · cases entry with
    | ok command =>
      obtain rfl : before = _ := Option.some.inj (held.symm.trans keeps.held)
      rw [Deed.adds_ok, okText_concat, Text.Utf8.octets_append, ← toList_entryText_ok,
        ← Text.Utf8.encode_eq]
      exact now
    | failed command reason =>
      rw [Deed.adds_eq_nil rfl, List.append_nil]
      exact (others files.ok keeps.apart).trans keeps.held

/-- **Whatever is done with a log succeeds, and keeps it.** -/
theorem Keeps.perform (keeps : Keeps okName failedName files successes book) (deed : Deed) :
    ∃ after, book.perform okName failedName deed = some after ∧
      Keeps okName failedName files (successes ++ deed.adds book.clock) after := by
  cases deed with
  | record entry =>
    obtain ⟨after, recorded, kept⟩ := keeps.record entry
    exact ⟨after, by rw [LogBook.perform, recorded], kept⟩
  | reopen =>
    rw [Deed.adds_eq_nil rfl, List.append_nil]
    refine ⟨book, ?_, keeps⟩
    simp only [LogBook.perform, LogBook.openFiles, openLogs, keeps.okFound.openAppend,
      keeps.failedFound.openAppend]
    rw [← keeps.log]
  | pass clock =>
    rw [Deed.adds_eq_nil rfl, List.append_nil]
    exact ⟨{ book with clock }, rfl, keeps.log, keeps.apart, keeps.okFound, keeps.failedFound,
      keeps.held⟩

/-- **So it is with everything that is done.** -/
theorem Keeps.performAll (keeps : Keeps okName failedName files successes book) (deeds : List Deed) :
    ∃ final more, book.performAll okName failedName deeds = some final ∧
      Keeps okName failedName files (successes ++ more) final ∧
      more.map (·.2) = deeds.filterMap Deed.success? := by
  induction deeds generalizing successes book with
  | nil => exact ⟨book, [], rfl, (List.append_nil successes).symm ▸ keeps, rfl⟩
  | cons deed rest hypothesis =>
    obtain ⟨after, performed, kept⟩ := keeps.perform deed
    obtain ⟨final, more, onward, keptOn, commands⟩ := hypothesis kept
    refine ⟨final, deed.adds book.clock ++ more, ?_, ?_, ?_⟩
    · rw [LogBook.performAll, List.foldlM_cons, performed]
      exact onward
    · rw [← List.append_assoc]
      exact keptOn
    · rw [List.map_append, commands, Deed.adds, List.map_map]
      cases told : deed.success? with
      | none => rw [List.filterMap_cons_none told]; rfl
      | some command => rw [List.filterMap_cons_some told]; rfl

end

/-! ### What is read back -/

theorem mem_okLine_iff (success : Timestamp × String) :
    '\n' ∈ okLine success ↔ '\n' ∈ success.2.toList := by
  simp [okLine, not_mem_time]

theorem length_splitOn (c : Char) (text : List Char) : (text.splitOn c).length = text.count c + 1 := by
  induction text with
  | nil => rfl
  | cons other rest hypothesis =>
    rw [List.splitOn_cons_eq_if_modifyHead, List.count_cons]
    split
    · rw [List.length_cons, hypothesis]
    · rw [List.length_modifyHead, hypothesis, Nat.add_zero]

/-- An entry is one line exactly if the command has no line feed. -/
theorem splitOn_okLine_iff (success : Timestamp × String) :
    (okLine success).splitOn '\n' = [okLine success] ↔ '\n' ∉ success.2.toList := by
  rw [← mem_okLine_iff]
  constructor
  · intro single
    have count := length_splitOn '\n' (okLine success)
    rw [single, List.length_singleton] at count
    exact List.count_eq_zero.mp (Nat.succ.inj count).symm
  · exact List.splitOn_eq_singleton

/-- The lines of the text of successes. -/
def okLines (successes : List (Timestamp × String)) : List (List Char) :=
  successes.flatMap fun success => (okLine success).splitOn '\n'

/-- They are what its line feeds end. -/
theorem splitOn_okText (successes : List (Timestamp × String)) :
    ((okText successes).splitOn '\n').dropLast = okLines successes := by
  induction successes with
  | nil => rfl
  | cons success rest hypothesis =>
    have split : okText (success :: rest) = okLine success ++ '\n' :: okText rest := by
      rw [okText, List.flatMap_cons, List.append_assoc]
      rfl
    rw [split, List.splitOn_append_cons_self, okLines, List.flatMap_cons,
      List.dropLast_append_of_ne_nil (List.splitOn_ne_nil _ _), hypothesis]
    rfl

theorem length_okLines_cons (success : Timestamp × String) (rest : List (Timestamp × String)) :
    (okLines (success :: rest)).length =
      (okLine success).count '\n' + 1 + (okLines rest).length := by
  rw [okLines, List.flatMap_cons, List.length_append, length_splitOn]
  rfl

theorem length_le_okLines (successes : List (Timestamp × String)) :
    successes.length ≤ (okLines successes).length := by
  induction successes with
  | nil => exact Nat.zero_le _
  | cons success rest hypothesis =>
    rw [length_okLines_cons, List.length_cons]
    omega

/-- If there are no more lines than successes, each of them is one line. -/
theorem single_of_length {successes : List (Timestamp × String)}
    (same : (okLines successes).length = successes.length) :
    ∀ success ∈ successes, '\n' ∉ success.2.toList := by
  induction successes with
  | nil => simp
  | cons success rest hypothesis =>
    have least := length_le_okLines rest
    rw [length_okLines_cons, List.length_cons] at same
    rw [List.forall_mem_cons, ← mem_okLine_iff]
    exact ⟨List.count_eq_zero.mp (by omega), hypothesis (by omega)⟩

/-- The command is found on its line. -/
theorem commandOn?_okLine (success : Timestamp × String) :
    commandOn? (String.ofList (okLine success)) = some success.2 := by
  have time : ∀ c ∈ success.1.text.toList, decide (c ≠ ' ') = true := by
    rintro c member
    simpa using fun same => not_mem_time (.inl same) member
  have behind : (okLine success).dropWhile (· ≠ ' ') = ' ' :: '[' :: (success.2.toList ++ [']']) := by
    rw [okLine, List.dropWhile_append_of_pos time]
    rfl
  unfold commandOn?
  rw [String.toList_ofList, behind]
  simp

/-- **Reading back gives the commands exactly if none has a line feed.** -/
theorem commandsOn_okText_iff (successes : List (Timestamp × String)) :
    commandsOn (String.ofList (okText successes)) = successes.map (some ·.2) ↔
      ∀ success ∈ successes, '\n' ∉ success.2.toList := by
  unfold commandsOn endedLines
  rw [String.toList_ofList, splitOn_okText]
  constructor
  · intro same
    refine single_of_length ?_
    simpa using congrArg List.length same
  · intro single
    have lines : okLines successes = successes.map okLine := by
      rw [okLines, List.map_eq_flatMap, List.flatMap_def, List.flatMap_def]
      exact congrArg List.flatten (List.map_congr_left fun success member =>
        (splitOn_okLine_iff success).mpr (single success member))
    rw [lines, List.map_map, List.map_map]
    refine List.map_congr_left fun success _ => ?_
    rw [Function.comp_apply, Function.comp_apply, commandOn?_okLine]

/-- The line of a success as a text. -/
theorem ofList_okLine (time : Timestamp) (command : String) :
    String.ofList (okLine (time, command)) = s!"{time.text} [{command}]" := by
  rw [← String.toList_inj, String.toList_ofList]
  simp [okLine, toString]

theorem ofList_okText_concat (successes : List (Timestamp × String)) (time : Timestamp)
    (command : String) :
    String.ofList (okText (successes ++ [(time, command)])) =
      String.ofList (okText successes) ++ s!"{time.text} [{command}]\n" := by
  rw [← String.toList_inj, String.toList_append, String.toList_ofList, String.toList_ofList,
    okText_concat]
  simp [okLine, toString]

/-- One more success is one more line exactly if its command has no line feed. -/
theorem endedLines_concat_iff (successes : List (Timestamp × String)) (success : Timestamp × String) :
    endedLines (String.ofList (okText (successes ++ [success]))) =
        endedLines (String.ofList (okText successes)) ++ [String.ofList (okLine success)] ↔
      '\n' ∉ success.2.toList := by
  unfold endedLines
  rw [String.toList_ofList, String.toList_ofList, splitOn_okText, splitOn_okText, okLines, okLines,
    List.flatMap_append, List.map_append, List.append_cancel_left_eq, List.flatMap_singleton,
    ← splitOn_okLine_iff, ← List.map_singleton, List.map_inj_right fun one other => String.ofList_inj.mp]

section

variable {okName failedName : String} {files : LogFiles} {start book : LogBook}

/-- **The log of successes.** Whatever is recorded in a log opened in two empty files, and however often
it is opened again, all of it succeeds and the file of successes can be read; its lines give back the
commands of the successes exactly if none of them has a line feed. One more success puts its entry
behind what there is, which is one line exactly if its command has no line feed, and one more failure
leaves the file as it is. -/
theorem successes_read_back_iff (opening : Opening okName failedName files start book)
    (deeds : List Deed) :
    book.read okName = .ok "" ∧ ∃ final text,
      book.performAll okName failedName deeds = some final ∧ final.read okName = .ok text ∧
      (commandsOn text = (deeds.filterMap Deed.success?).map some ↔
        ∀ command ∈ deeds.filterMap Deed.success?, '\n' ∉ command.toList) ∧
      (∀ command, ∃ after,
        final.perform okName failedName (.record (.ok command)) = some after ∧
        after.read okName = .ok (text ++ s!"{final.clock.text} [{command}]\n") ∧
        (endedLines (text ++ s!"{final.clock.text} [{command}]\n") =
            endedLines text ++ [s!"{final.clock.text} [{command}]"] ↔ '\n' ∉ command.toList)) ∧
      ∀ command reason, ∃ after,
        final.perform okName failedName (.record (.failed command reason)) = some after ∧
        after.read okName = .ok text := by
  obtain ⟨final, successes, performed, keeps, commands⟩ := opening.keeps.performAll deeds
  rw [List.nil_append] at keeps
  refine ⟨opening.keeps.read, final, _, performed, keeps.read, ?_, fun command => ?_, fun command reason => ?_⟩
  · rw [← commands, List.map_map, List.forall_mem_map]
    exact commandsOn_okText_iff successes
  · obtain ⟨after, recorded, kept⟩ := keeps.perform (.record (.ok command))
    refine ⟨after, recorded, ?_, ?_⟩
    · rw [← ofList_okText_concat]
      exact kept.read
    · rw [← ofList_okText_concat, ← ofList_okLine]
      exact endedLines_concat_iff successes (final.clock, command)
  · obtain ⟨after, recorded, kept⟩ := keeps.perform (.record (.failed command reason))
    refine ⟨after, recorded, ?_⟩
    rw [Deed.adds_eq_nil rfl, List.append_nil] at kept
    exact kept.read

end

theorem successes_read_back_iff_reopened :
    ∃ files book final text, Opening "/ok.log" "/fail.log" files bareRoot book ∧
      book.performAll "/ok.log" "/fail.log" [.record (.ok "a"),
        .record (.failed "false" "exit status 1: []"), .reopen, .record (.ok "b")] = some final ∧
      final.read "/ok.log" = .ok text ∧ commandsOn text = [some "a", some "b"] := by
  obtain ⟨files, book, opening, -⟩ := opening_bareRoot
  obtain ⟨-, final, text, performed, read, back, -⟩ := successes_read_back_iff opening
    [.record (.ok "a"), .record (.failed "false" "exit status 1: []"), .reopen, .record (.ok "b")]
  exact ⟨files, book, final, text, opening, performed, read, back.mpr (by decide)⟩

/-! ### A command with a line feed -/

/-- A command is accepted unless it is blank or the dispatcher has stopped. -/
theorem submit_isOk {σ : Type} (setting : Yard.Setting σ) (command : String) (yard : Yard σ) :
    (Rpc.Manager.submit setting command yard).2.isOk =
      (!Text.allBlank command.toList && yard.isOpen) := by
  have later : ({ yard with issued := yard.issued + 1 } : Yard σ).isOpen = yard.isOpen := rfl
  unfold Rpc.Manager.submit Yard.submit
  cases Text.allBlank command.toList <;> simp only [later] <;> cases yard.isOpen <;> rfl

/-- Such a command is accepted, and its entry is two lines, on neither of which it is found. -/
theorem lineFeed_not_read_back :
    (Rpc.Manager.submit ⟨.nothing, JobId.numbered⟩ "a\nb" ({ log := () } : Yard Unit)).2.isOk = true ∧
      ∃ files book after, Opening "/ok.log" "/fail.log" files bareRoot book ∧
        book.perform "/ok.log" "/fail.log" (.record (.ok "a\nb")) = some after ∧
        after.read "/ok.log" = .ok "1970-01-01T00:00:00Z [a\nb]\n" ∧
        endedLines "1970-01-01T00:00:00Z [a\nb]\n" = ["1970-01-01T00:00:00Z [a", "b]"] ∧
        commandsOn "1970-01-01T00:00:00Z [a\nb]\n" = [none, none] := by
  refine ⟨by rw [submit_isOk]; decide, ?_⟩
  obtain ⟨files, book, opening, clock⟩ := opening_bareRoot
  obtain ⟨after, recorded, kept⟩ := opening.keeps.perform (.record (.ok "a\nb"))
  refine ⟨files, book, after, opening, recorded, ?_, by decide, by decide⟩
  rw [kept.read, Deed.adds_ok, clock]
  exact congrArg Except.ok (by decide)

end Workyard.Files
