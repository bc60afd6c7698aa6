/-
**Reading goes on behind a line that is not UTF-8.**

Such a line costs a reader the command that it is putting together and nothing else. Behind it the
reader finds what a reader finds that starts there, and only counts its lines on from those that it
has read.

* `Stream.Splits`: a line of a stream, with what is before it and behind it;
* `nextFrom_shift`: where the counting of lines starts changes nothing but the numbers;
* `nextFrom_append`: lines behind a fault have no part in what is found before it;
* `resumes_behind`: what a reader finds before the line, at it and behind it.
-/

import Workyard.Proofs.Command.Grouping

namespace Workyard.Command

open Text

/-! ### One call after another -/

namespace Reader

/-- The reader after this many calls. -/
def later (reader : Reader) : Nat → Reader
  | 0 => reader
  | calls + 1 => reader.next.2.later calls

/-- What this many calls find, one after another. -/
def calls (reader : Reader) : Nat → List Step
  | 0 => []
  | more + 1 => reader.next.1 :: reader.next.2.calls more

theorem calls_add (reader : Reader) (first more : Nat) :
    reader.calls (first + more) = reader.calls first ++ (reader.later first).calls more := by
  induction first generalizing reader with
  | zero => simp [calls, later]
  | succ first hypothesis =>
    rw [Nat.add_right_comm, calls, calls, later, hypothesis]
    rfl

end Reader

/-! ### Lines counted on -/

/-- The fault with its line counted on. -/
def SourceFault.shift (more : Nat) : SourceFault → SourceFault
  | .unreadable line fault => .unreadable (line + more) fault
  | .unterminated line => .unterminated (line + more)

/-- What is found, with lines counted on. -/
def Step.shift (more : Nat) : Step → Step
  | .command text => .command text
  | .fault found => .fault (found.shift more)
  | .done => .done

/-- The reader as if it had read so many lines more. -/
def Reader.shift (more : Nat) (reader : Reader) : Reader :=
  { reader with read := reader.read + more }

/-- **Where the counting of lines starts changes nothing but the numbers.** -/
theorem nextFrom_shift (more : Nat) (group : List Char) (start : Option Nat) (read : Nat)
    (lines : List Line) :
    nextFrom group (start.map (· + more)) (read + more) lines =
      ((nextFrom group start read lines).1.shift more,
        (nextFrom group start read lines).2.shift more) := by
  induction lines generalizing group start read with
  | nil => cases start <;> rfl
  | cons line rest hypothesis =>
    have next : read + more + 1 = read + 1 + more := Nat.add_right_comm read more 1
    cases line with
    | error fault =>
      simp only [nextFrom, Step.shift, SourceFault.shift, Reader.shift, next]
    | ok line =>
      rw [nextFrom, nextFrom, next]
      cases continued? line with
      | some head =>
        have begun : (start.map (· + more) <|> some (read + 1 + more)) =
            (start <|> some (read + 1)).map (· + more) := by cases start <;> rfl
        simp only [begun]
        exact hypothesis _ _ _
      | none =>
        dsimp only
        split
        · exact hypothesis [] none _
        · rfl

namespace Reader

theorem next_shift (more : Nat) (reader : Reader) :
    (reader.shift more).next = (reader.next.1.shift more, reader.next.2.shift more) :=
  nextFrom_shift more [] none reader.read reader.lines

theorem calls_shift (more : Nat) (reader : Reader) (count : Nat) :
    (reader.shift more).calls count = (reader.calls count).map (Step.shift more) := by
  induction count generalizing reader with
  | zero => rfl
  | succ count hypothesis =>
    rw [calls, calls, next_shift, hypothesis]
    rfl

end Reader

/-! ### Lines in front of a fault -/

/-- Whether only the end of the input is found so. -/
def Step.isEnd : Step → Bool
  | .done | .fault (.unterminated _) => true
  | .command _ | .fault (.unreadable _ _) => false

/-- The number of lines that can be read. -/
def readable (lines : List Line) : Nat := lines.countP Except.isOk

/-- **Lines behind a fault have no part in what is found before it.** The fault is found where the
lines in front of it would have come to their end. -/
theorem nextFrom_append (fault : LineFault) (rest : List Line) (group : List Char)
    (start : Option Nat) (read : Nat) (front : List Line) :
    nextFrom group start read (front ++ .error fault :: rest) =
      if (nextFrom group start read front).1.isEnd then
        (.fault (.unreadable (read + readable front + 1) fault), ⟨rest, read + readable front⟩)
      else ((nextFrom group start read front).1,
        ⟨(nextFrom group start read front).2.lines ++ .error fault :: rest,
          (nextFrom group start read front).2.read⟩) := by
  induction front generalizing group start read with
  | nil => cases start <;> rfl
  | cons line front hypothesis =>
    cases line with
    | error first => rfl
    | ok line =>
      have counted : read + readable (.ok line :: front) = read + 1 + readable front := by
        rw [readable, List.countP_cons_of_pos rfl, ← readable]
        omega
      rw [List.cons_append, nextFrom, nextFrom, counted]
      cases continued? line with
      | some head => exact hypothesis _ _ _
      | none =>
        dsimp only
        split
        · exact hypothesis [] none _
        · rfl

/-- A call reads as many lines as it takes of those that can be read. -/
theorem nextFrom_read (group : List Char) (start : Option Nat) (read : Nat) (lines : List Line) :
    (nextFrom group start read lines).2.read + readable (nextFrom group start read lines).2.lines =
      read + readable lines := by
  induction lines generalizing group start read with
  | nil => rfl
  | cons line rest hypothesis =>
    cases line with
    | error fault =>
      rw [nextFrom, readable, readable, List.countP_cons_of_neg (by simp [Except.isOk, Except.toBool])]
    | ok line =>
      have counted : read + readable (.ok line :: rest) = read + 1 + readable rest := by
        rw [readable, List.countP_cons_of_pos rfl, ← readable]
        omega
      rw [nextFrom, counted]
      cases continued? line with
      | some head => exact hypothesis _ _ _
      | none =>
        dsimp only
        split
        · exact hypothesis [] none _
        · rfl

/-- At the end no line is left. -/
theorem nextFrom_end {group : List Char} {start : Option Nat} {read : Nat} {lines : List Line}
    (ended : (nextFrom group start read lines).1.isEnd = true) :
    (nextFrom group start read lines).2.lines = [] := by
  induction lines generalizing group start read with
  | nil => rfl
  | cons line rest hypothesis =>
    cases line with
    | error fault => cases ended
    | ok line =>
      rw [nextFrom] at ended ⊢
      cases continued : continued? line with
      | some head =>
        simp only [continued] at ended
        exact hypothesis ended
      | none =>
        simp only [continued] at ended
        dsimp only
        split at ended
        · next blank =>
          rw [if_pos blank]
          exact hypothesis ended
        · cases ended

namespace Reader

/-- All that a reader finds before the end of its lines. -/
def found (reader : Reader) : List Step := reader.steps.filter fun step => !step.isEnd

/-- A reader with a fault and more lines behind its own. -/
def before (reader : Reader) (fault : LineFault) (rest : List Line) : Reader :=
  { reader with lines := reader.lines ++ .error fault :: rest }

theorem next_before (reader : Reader) (fault : LineFault) (rest : List Line) :
    (reader.before fault rest).next =
      if reader.next.1.isEnd then
        (.fault (.unreadable (reader.read + readable reader.lines + 1) fault),
          ⟨rest, reader.read + readable reader.lines⟩)
      else (reader.next.1, reader.next.2.before fault rest) :=
  nextFrom_append fault rest [] none reader.read reader.lines

/-- **The fault is found next after all that is found before it**, and what is left then is what is
behind it. -/
theorem calls_before (reader : Reader) (fault : LineFault) (rest : List Line) :
    (reader.before fault rest).calls (reader.found.length + 1) =
        reader.found ++ [.fault (.unreadable (reader.read + readable reader.lines + 1) fault)] ∧
      (reader.before fault rest).later (reader.found.length + 1) =
        ⟨rest, reader.read + readable reader.lines⟩ := by
  unfold found
  fun_induction steps reader with
  | case1 reader ended =>
    obtain ⟨_, read⟩ := reader
    subst ended
    exact ⟨rfl, rfl⟩
  | case2 reader left hypothesis =>
    have counted : reader.next.2.read + readable reader.next.2.lines =
        reader.read + readable reader.lines := nextFrom_read [] none reader.read reader.lines
    rw [counted] at hypothesis
    by_cases ends : reader.next.1.isEnd = true
    · have none' : reader.next.2.lines = [] := nextFrom_end ends
      rw [List.filter_cons_of_neg (by simp [ends]), steps, dif_pos none', List.filter_nil]
      simp [calls, later, next_before, ends]
    · rw [List.filter_cons_of_pos (by simp [ends]), List.length_cons, calls, later, next_before,
        if_neg ends]
      exact ⟨congrArg (reader.next.1 :: ·) hypothesis.1, hypothesis.2⟩

end Reader

/-! ### Lines of a stream -/

/-- Octets that are nothing but ended lines. -/
def Whole (octets : List UInt8) : Prop := ∀ last ∈ octets.getLast?, last = lineFeed

/-- **A line of a stream**, with what is before it and behind it. A fault of the stream is behind all
ended lines, and before the line that is not ended. -/
inductive Stream.Splits : Stream → Stream → List UInt8 → Stream → Prop where
  | ended {before line behind : List UInt8} {fault : Option IoFault} (whole : Whole before)
      (single : lineFeed ∉ line) :
    Splits ⟨before ++ (line ++ lineFeed :: behind), fault⟩ ⟨before, none⟩ (withoutReturn line)
      ⟨behind, fault⟩
  /-- Where a fault has interrupted the line, it is read behind the fault, as `lines` assumes. -/
  | unended {before line : List UInt8} {fault : Option IoFault} (whole : Whole before)
      (single : lineFeed ∉ line) (octets : line ≠ []) :
    Splits ⟨before ++ line, fault⟩ ⟨before, fault⟩ line ⟨[], none⟩

theorem splitFrom_feed (line : List UInt8) (cut : List (List UInt8)) (rest : List UInt8) :
    splitFrom line cut (lineFeed :: rest) = splitFrom [] (withoutReturn line.reverse :: cut) rest := by
  have ended := splitFrom_ended List.not_mem_nil line cut rest
  rwa [List.nil_append, List.append_nil] at ended

/-- Cutting goes on from the lines that were cut before. -/
theorem splitFrom_append (first second line : List UInt8) (cut : List (List UInt8)) :
    splitFrom line cut (first ++ second) =
      splitFrom (splitFrom line cut first).2.reverse (splitFrom line cut first).1.reverse second := by
  induction first generalizing line cut with
  | nil => simp [splitFrom]
  | cons octet first hypothesis =>
    by_cases feed : octet = lineFeed
    · subst feed
      rw [List.cons_append, splitFrom_feed, splitFrom_feed]
      exact hypothesis _ _
    · rw [List.cons_append, splitFrom_other feed, splitFrom_other feed]
      exact hypothesis _ _

/-- The lines that were cut before stay in front. -/
theorem splitFrom_cut (octets line : List UInt8) (cut : List (List UInt8)) :
    splitFrom line cut octets =
      (cut.reverse ++ (splitFrom line [] octets).1, (splitFrom line [] octets).2) := by
  induction octets generalizing line cut with
  | nil => simp [splitFrom]
  | cons octet octets hypothesis =>
    by_cases feed : octet = lineFeed
    · subst feed
      rw [splitFrom_feed, splitFrom_feed, hypothesis, hypothesis _ [_]]
      simp
    · rw [splitFrom_other feed, splitFrom_other feed]
      exact hypothesis _ _

/-- No line is left behind ended lines. -/
theorem splitLines_whole {octets : List UInt8} (whole : Whole octets) :
    (splitLines octets).2 = [] := by
  cases known : octets.getLast? with
  | none =>
    rw [List.getLast?_eq_none_iff.mp known]
    rfl
  | some last =>
    obtain rfl : last = lineFeed := whole last known
    obtain ⟨front, rfl⟩ := List.getLast?_eq_some_iff.mp known
    rw [splitLines, splitFrom_append, splitFrom_feed]
    rfl

/-- Octets behind ended lines are cut as if they stood alone. -/
theorem splitLines_append {first : List UInt8} (whole : Whole first) (second : List UInt8) :
    splitLines (first ++ second) =
      ((splitLines first).1 ++ (splitLines second).1, (splitLines second).2) := by
  have nothing : (splitFrom [] [] first).2 = [] := splitLines_whole whole
  rw [splitLines, splitFrom_append, nothing, List.reverse_nil, splitFrom_cut, List.reverse_reverse]
  rfl

/-- **The lines of a stream are those before a line, the line, and those behind it.** -/
theorem lines_of_splits {stream before behind : Stream} {line : List UInt8}
    (splits : stream.Splits before line behind) :
    lines stream = lines before ++ readLine line :: lines behind := by
  cases splits with
  | @ended before line behind fault whole single =>
    have cut : splitLines (line ++ lineFeed :: behind) =
        (withoutReturn line :: (splitLines behind).1, (splitLines behind).2) := by
      rw [splitLines, splitFrom_ended single, splitFrom_cut]
      rfl
    simp only [lines, splitLines_append whole, cut, splitLines_whole whole]
    simp
  | @unended before line fault whole single octets =>
    have cut : splitLines line = ([], line) := by
      rw [splitLines, splitFrom_unended single]
      rfl
    simp only [lines, splitLines_append whole, cut, splitLines_whole whole]
    simp [octets, splitLines, splitFrom]

/-! ### Going on -/

/-- **Reading goes on behind a line that is not UTF-8.** All that is found before the line is found,
but for the command that would end in it or behind it. Then the line is reported, and its number is
one more than that of the lines read. From there on a reader finds what a reader at the next line
finds, its lines counted on from those that were read, however often it is called. -/
theorem resumes_behind {stream before behind : Stream} {line : List UInt8}
    (splits : stream.Splits before line behind) (foul : ∀ text, line ≠ Utf8.octets text) :
    let reader := Reader.ofStream stream
    let found := (Reader.ofStream before).found
    ∃ fault, Utf8.decode line = .error fault ∧
      (reader.later (found.length + 1)).read = readable (lines before) ∧
      ∀ more, reader.calls (found.length + 1 + more) =
        found ++ .fault (.unreadable (readable (lines before) + 1) (.encoding fault)) ::
          ((Reader.ofStream behind).calls more).map (Step.shift (readable (lines before))) := by
  intro reader found
  cases decoded : Utf8.decode line with
  | ok text => exact absurd (Utf8.decode_eq_ok_iff.mp decoded) (foul text)
  | error fault =>
    have starts : reader = (Reader.ofStream before).before (.encoding fault) (lines behind) := by
      rw [Reader.before, ← readLine_refused decoded]
      exact congrArg (Reader.mk · 0) (lines_of_splits splits)
    obtain ⟨calls, left⟩ := (Reader.ofStream before).calls_before (.encoding fault) (lines behind)
    have counted : (Reader.ofStream before).read + readable (Reader.ofStream before).lines =
        readable (lines before) := Nat.zero_add _
    rw [← starts, counted] at calls left
    have goesOn : (⟨lines behind, readable (lines before)⟩ : Reader) =
        (Reader.ofStream behind).shift (readable (lines before)) := by
      rw [Reader.shift, Reader.ofStream, Nat.zero_add]
    refine ⟨fault, rfl, congrArg Reader.read left, fun more => ?_⟩
    rw [Reader.calls_add, calls, left, goesOn, Reader.calls_shift, List.append_assoc]
    rfl

/-- Lines in front of one that is not UTF-8: a command, a blank line and one that is continued. -/
def openLines : Stream := ⟨Utf8.octets "a\n \nb\\\n".toList, none⟩

/-- Lines behind it: one that is continued, one that is not UTF-8, a command and one that is continued. -/
def laterLines : Stream :=
  ⟨Utf8.octets "c\\\n".toList ++ [0xc3, 0x28, 0x0a] ++ Utf8.octets "d\n\\\n".toList, none⟩

/-- A line that is not UTF-8 between them. -/
def interrupted : Stream := ⟨openLines.octets ++ ([0xff] ++ lineFeed :: laterLines.octets), none⟩

theorem resumes_behind_interrupted :
    interrupted.Splits openLines [0xff] laterLines ∧ (∀ text, [0xff] ≠ Utf8.octets text) ∧
      (Reader.ofStream interrupted).calls 6 =
        .command ['a'] :: .fault (.unreadable 4 (.encoding ⟨0, some 1⟩)) ::
          ((Reader.ofStream laterLines).calls 4).map (Step.shift 3) ∧
      (Reader.ofStream laterLines).calls 4 =
        [.fault (.unreadable 2 (.encoding ⟨0, some 1⟩)), .command ['d'], .fault (.unterminated 3),
          .done] := by
  have splits : interrupted.Splits openLines [0xff] laterLines :=
    @Stream.Splits.ended openLines.octets [0xff] laterLines.octets none
      (by unfold Whole; decide +kernel) (by decide +kernel)
  have refused : Utf8.decode [0xff] = .error ⟨0, some 1⟩ := rfl
  have foul : ∀ text, [0xff] ≠ Utf8.octets text := fun text same => by
    rw [Utf8.decode_eq_ok_iff.mpr same] at refused
    cases refused
  obtain ⟨fault, reported, -, calls⟩ := resumes_behind splits foul
  obtain rfl : fault = ⟨0, some 1⟩ := Except.error.inj (reported.symm.trans refused)
  have found : (Reader.ofStream openLines).found = [.command ['a']] := by decide +kernel
  have read : readable (lines openLines) = 3 := by decide +kernel
  rw [found, read] at calls
  exact ⟨splits, foul, calls 4, by decide +kernel⟩

end Workyard.Command
