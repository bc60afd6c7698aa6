/-
**How a failure reply cuts captured output.**

Output is cut at the first character boundary that leaves no more than the limit, behind a note of
how many octets are gone. A worker cuts the output of a failed command, and the error that it answers
is made by cutting once more: the note itself makes the text too long again, so that the second cut
goes through the first note and counts the octets of that.

* `Cut`, `dropOctets_cut`: the first boundary at or after an octet;
* `outputTail_of_lt`: long output behind its note;
* `outputTail_outputTail`: what is left of long output that is cut twice;
* `reply_truthful_iff`: what a failure reply holds, and when it says truly what was cut.
-/

import Mathlib.Data.Nat.Digits.Defs
import Workyard.Rpc.Worker

namespace Workyard

/-! ### Character boundaries -/

namespace Text.Utf8

/-- A text cut at the first character boundary that is not before octet `least`. -/
structure Cut (least : Nat) (text : List Char) (cut : Nat) (kept : List Char) : Prop where
  split : ∃ gone, text = gone ++ kept ∧ size gone = cut
  reaches : least ≤ cut
  first : ∀ front back, text = front ++ back → least ≤ size front → cut ≤ size front
  /-- A character has no more than four octets. -/
  near : cut ≤ least + 3

/-- Dropping from a place where nothing needs to be dropped any more. -/
theorem dropFrom_of_le {least offset : Nat} (enough : least ≤ offset) (text : List Char) :
    dropFrom least offset text = (offset, text) := by
  cases text with
  | nil => rfl
  | cons c rest => exact if_pos enough

theorem dropFrom_of_lt {least offset : Nat} (missing : offset < least) (c : Char)
    (rest : List Char) :
    dropFrom least offset (c :: rest) = dropFrom least (offset + c.utf8Size) rest :=
  if_neg (Nat.not_le.mpr missing)

/-- Dropping ends at the first boundary that is not too early, `offset` octets being gone before. -/
theorem dropFrom_cut {least offset : Nat} {text : List Char} (early : offset ≤ least + 3)
    (inside : least ≤ offset + size text) :
    ∃ gone, text = gone ++ (dropFrom least offset text).2 ∧
      (dropFrom least offset text).1 = offset + size gone ∧
      least ≤ offset + size gone ∧ offset + size gone ≤ least + 3 ∧
      ∀ front back, text = front ++ back → least ≤ offset + size front →
        size gone ≤ size front := by
  induction text generalizing offset with
  | nil => exact ⟨[], rfl, rfl, inside, early, fun _ _ _ _ => Nat.zero_le _⟩
  | cons c rest hypothesis =>
    by_cases enough : least ≤ offset
    · rw [dropFrom_of_le enough]
      exact ⟨[], rfl, rfl, enough, early, fun _ _ _ _ => Nat.zero_le _⟩
    · have four := c.utf8Size_le_four
      rw [dropFrom_of_lt (Nat.not_le.mp enough)]
      rw [size_cons, ← Nat.add_assoc] at inside
      obtain ⟨gone, split, cut, reaches, near, first⟩ := hypothesis (by omega) inside
      refine ⟨c :: gone, congrArg (c :: ·) split, ?_, ?_, ?_, fun front back parts late => ?_⟩
      · rw [cut, size_cons, Nat.add_assoc]
      · rw [size_cons, ← Nat.add_assoc]
        exact reaches
      · rw [size_cons, ← Nat.add_assoc]
        exact near
      · cases front with
        | nil => exact absurd late enough
        | cons d front =>
          obtain ⟨same, parts⟩ := List.cons.inj parts
          rw [size_cons, ← same, ← Nat.add_assoc] at late
          have earlier := first front back parts late
          rw [size_cons, size_cons, ← same]
          omega

/-- **A text is cut at the first character boundary that is not too early.** -/
theorem dropOctets_cut {least : Nat} {text : List Char} (inside : least ≤ size text) :
    Cut least text (dropOctets least text).1 (dropOctets least text).2 := by
  rw [← Nat.zero_add (size text)] at inside
  obtain ⟨gone, split, cut, reaches, near, first⟩ := dropFrom_cut (Nat.zero_le _) inside
  simp only [Nat.zero_add] at cut reaches near first
  have cut : (dropOctets least text).1 = size gone := cut
  exact ⟨⟨gone, split, cut.symm⟩, cut ▸ reaches, cut ▸ first, cut ▸ near⟩

/-- A text is cut at a boundary exactly where one is asked for. -/
theorem dropOctets_size (front back : List Char) :
    dropOctets (size front) (front ++ back) = (size front, back) := by
  have from_any : ∀ offset, dropFrom (offset + size front) offset (front ++ back) =
      (offset + size front, back) := by
    induction front with
    | nil => exact fun offset => dropFrom_of_le (Nat.le_refl offset) back
    | cons c front hypothesis =>
      intro offset
      have nonempty := c.utf8Size_pos
      rw [size_cons, List.cons_append, dropFrom_of_lt (by omega), ← Nat.add_assoc]
      exact hypothesis (offset + c.utf8Size)
  have start := from_any 0
  rw [Nat.zero_add] at start
  exact start

/-- A text of characters of one octet has as many octets as characters. -/
theorem size_eq_length {text : List Char} (single : ∀ c ∈ text, c.utf8Size = 1) :
    size text = text.length := by
  induction text with
  | nil => rfl
  | cons c rest hypothesis =>
    rw [size_cons, single c List.mem_cons_self,
      hypothesis fun d member => single d (List.mem_cons_of_mem c member), List.length_cons,
      Nat.add_comm]

end Text.Utf8

namespace ExecFailure

open Text.Utf8

/-! ### Notes of what was cut -/

/-- The note in front of a text of which so many octets were cut. -/
def note (cut : Nat) : List Char := '[' :: (Nat.toDigits 10 cut ++ " bytes truncated]".toList)

theorem ofList_note (cut : Nat) : String.ofList (note cut) = s!"[{cut} bytes truncated]" := by
  apply String.toList_inj.mp
  simp [note, toString]

theorem note_length (cut : Nat) : (note cut).length = (Nat.toDigits 10 cut).length + 18 := by
  simp [note]

theorem utf8Size_of_isDigit {c : Char} (digit : c.isDigit = true) : c.utf8Size = 1 := by
  simp only [Char.isDigit, Bool.and_eq_true, decide_eq_true_eq] at digit
  exact Char.utf8Size_eq_one_iff.mpr (UInt32.le_trans digit.2 (by decide))

theorem utf8Size_of_mem_note {cut : Nat} {c : Char} (member : c ∈ note cut) : c.utf8Size = 1 := by
  rcases List.mem_cons.mp member with rfl | member
  · rfl
  · rcases List.mem_append.mp member with digit | word
    · exact utf8Size_of_isDigit (Nat.isDigit_of_mem_toDigits (by decide) (by decide) digit)
    · have words : (" bytes truncated]".toList.all fun c => c.utf8Size = 1) = true := by rfl
      exact of_decide_eq_true (List.all_eq_true.mp words c word)

theorem size_note (cut : Nat) : size (note cut) = (note cut).length :=
  size_eq_length fun _ => utf8Size_of_mem_note

/-- A note can be told from what follows it. -/
theorem note_append_inj {cut other : Nat} {text rest : List Char}
    (same : note cut ++ text = note other ++ rest) : cut = other ∧ text = rest := by
  have digits : ∀ number (back : List Char),
      (Nat.toDigits 10 number ++ (" bytes truncated]".toList ++ back)).takeWhile Char.isDigit =
        Nat.toDigits 10 number := fun number back => by
    rw [List.takeWhile_append_of_pos fun c member =>
      Nat.isDigit_of_mem_toDigits (by decide) (by decide) member]
    exact List.append_nil _
  have behind : Nat.toDigits 10 cut ++ " bytes truncated]".toList ++ text =
      Nat.toDigits 10 other ++ " bytes truncated]".toList ++ rest := (List.cons.inj same).2
  rw [List.append_assoc, List.append_assoc] at behind
  have spelled : Nat.toDigits 10 cut = Nat.toDigits 10 other := by
    rw [← digits cut text, behind, digits other rest]
  obtain rfl : cut = other := by
    have read := congrArg (Nat.ofDigitChars 10 · 0) spelled
    simpa using read
  exact ⟨rfl, List.append_cancel_left same⟩

/-- A note as long as the number in it is that of twenty octets. -/
theorem note_length_eq_self {cut : Nat} (same : (note cut).length = cut) : cut = 20 := by
  rw [note_length] at same
  have digits : ∀ {count : Nat}, 0 < count →
      ((Nat.toDigits 10 cut).length ≤ count ↔ cut < 10 ^ count) :=
    fun positive => Nat.length_toDigits_le_iff (by decide) positive
  have positive : 0 < (Nat.toDigits 10 cut).length := Nat.length_toDigits_pos
  -- a number of three digits or more is greater than their count by far
  have few : (Nat.toDigits 10 cut).length ≤ 2 := by
    by_contra many
    obtain ⟨more, count⟩ : ∃ more, (Nat.toDigits 10 cut).length = more + 3 :=
      ⟨(Nat.toDigits 10 cut).length - 3, by omega⟩
    have large : ¬ cut < 10 ^ (more + 2) := fun small => by
      have fewer := (digits (Nat.succ_pos _)).mpr small
      omega
    have growth : more < 10 ^ more := Nat.lt_pow_self (by decide)
    rw [Nat.pow_add] at large
    omega
  have one := @digits 1 (by decide)
  omega

/-! ### Cutting once and twice -/

/-- Long output is cut at a character boundary, behind a note of how much is gone. -/
theorem outputTail_of_lt {limit : Nat} {output : String} (large : limit < size output.toList) :
    ∃ cut kept, Cut (size output.toList - limit) output.toList cut kept ∧
      (outputTail limit output).toList = note cut ++ kept := by
  refine ⟨_, _, dropOctets_cut (Nat.sub_le _ _), ?_⟩
  rw [outputTail, if_neg (Nat.not_le.mpr large)]
  dsimp only
  rw [← ofList_note, String.toList_append, String.toList_ofList, String.toList_ofList]

/-- Text that a note makes too long is cut inside the note. -/
theorem outputTail_note {limit cut : Nat} {kept : List Char} (fits : size kept ≤ limit)
    (under : limit < (note cut).length + size kept) :
    (outputTail limit (String.ofList (note cut ++ kept))).toList =
      note ((note cut).length + size kept - limit) ++
        ((note cut).drop ((note cut).length + size kept - limit) ++ kept) := by
  have total : size (String.ofList (note cut ++ kept)).toList = (note cut).length + size kept := by
    rw [String.toList_ofList, size_append, size_note]
  obtain ⟨dropped, spare, enough⟩ : ∃ dropped spare,
      (note cut).length = dropped + spare ∧ size kept + spare = limit :=
    ⟨(note cut).length + size kept - limit, limit - size kept, by omega, by omega⟩
  have parts : (note cut).length + size kept - limit = dropped := by omega
  rw [outputTail, if_neg (by omega), total, parts, String.toList_ofList]
  -- every character of the note is one octet, so that any place in it is a boundary
  have front : size ((note cut).take dropped) = dropped := by
    rw [size_eq_length fun c member => utf8Size_of_mem_note (List.mem_of_mem_take member),
      List.length_take]
    omega
  have cutThere := dropOctets_size ((note cut).take dropped) ((note cut).drop dropped ++ kept)
  rw [front, ← List.append_assoc, List.take_append_drop] at cutThere
  rw [cutThere]
  dsimp only
  rw [← ofList_note, String.toList_append, String.toList_ofList, String.toList_ofList]

/-- **Long output that is cut twice** is cut at a character boundary first, and then inside the note
in front of it, of which no more than three characters are left. -/
theorem outputTail_outputTail {limit : Nat} {output : String} (large : limit < size output.toList) :
    ∃ cut kept, Cut (size output.toList - limit) output.toList cut kept ∧
      size kept ≤ limit ∧ limit ≤ size kept + 3 ∧
      (outputTail limit (outputTail limit output)).toList =
        note ((note cut).length + size kept - limit) ++
          ((note cut).drop ((note cut).length + size kept - limit) ++ kept) := by
  obtain ⟨cut, kept, cutThere, once⟩ := outputTail_of_lt large
  obtain ⟨gone, split, same⟩ := cutThere.split
  have total : size output.toList = cut + size kept := by rw [split, size_append, same]
  have reaches := cutThere.reaches
  have near := cutThere.near
  have room := note_length cut
  have tail : outputTail limit output = String.ofList (note cut ++ kept) := by
    rw [← once, String.ofList_toList]
  refine ⟨cut, kept, cutThere, by omega, by omega, ?_⟩
  rw [tail]
  exact outputTail_note (by omega) (by omega)

/-- Text that says truly what was cut from an output: short output is whole, and long output stands
behind a note of how many octets are gone from its front. -/
structure Truthful (limit : Nat) (output text : String) : Prop where
  short : size output.toList ≤ limit → text = output
  long : limit < size output.toList → ∃ gone kept, output.toList = gone ++ kept ∧
    text = s!"[{size gone} bytes truncated]" ++ String.ofList kept

/-- **Long output that is cut twice stands behind a true note only by chance**: where twenty octets
are gone, the first note has twenty octets as well. -/
theorem truthful_outputTail_outputTail_iff (limit : Nat) (output : String) :
    Truthful limit output (outputTail limit (outputTail limit output)) ↔
      size output.toList ≤ limit ∨ size output.toList = limit + 20 ∧
        ∃ gone kept, output.toList = gone ++ kept ∧ size gone = 20 := by
  rcases Nat.lt_or_ge limit (size output.toList) with large | small
  · obtain ⟨cut, kept, cutThere, beyond, under, twice⟩ := outputTail_outputTail large
    obtain ⟨gone, split, same⟩ := cutThere.split
    have total : size output.toList = cut + size kept := by rw [split, size_append, same]
    constructor
    · intro truthful
      obtain ⟨front, back, parts, text⟩ := truthful.long large
      rw [← ofList_note, ← String.ofList_append] at text
      rw [text, String.toList_ofList] at twice
      obtain ⟨counted, rest⟩ := note_append_inj twice
      have left : size back = limit := by
        have spare : size ((note cut).drop ((note cut).length + size kept - limit)) =
            (note cut).length - ((note cut).length + size kept - limit) := by
          rw [size_eq_length fun c member => utf8Size_of_mem_note (List.mem_of_mem_drop member),
            List.length_drop]
        have room := note_length cut
        rw [rest, size_append, spare]
        omega
      -- the boundary that the note tells of is where the first cut falls
      have boundary : size front = size output.toList - limit := by
        rw [parts, size_append, left, Nat.add_sub_cancel]
      have falls : cut = size front := by
        have earliest := cutThere.first front back parts boundary.ge
        have reaches := cutThere.reaches
        omega
      have twenty : cut = 20 := note_length_eq_self (by omega)
      exact .inr ⟨by omega, gone, kept, split, same.trans twenty⟩
    · rintro (small | ⟨twenty, front, back, parts, counted⟩)
      · omega
      · have falls : cut = 20 := by
          have earliest := cutThere.first front back parts (by omega)
          have reaches := cutThere.reaches
          omega
        subst falls
        have long : (note 20).length = 20 := by decide
        have left : (note 20).length + size kept - limit = 20 := by omega
        rw [left, show (note 20).drop 20 = [] by decide, List.nil_append] at twice
        refine ⟨fun small => by omega, fun _ => ⟨gone, kept, split, ?_⟩⟩
        rw [same, ← ofList_note, ← String.ofList_append, ← twice, String.ofList_toList]
  · have whole : outputTail limit (outputTail limit output) = output := by
      rw [outputTail_of_le small, outputTail_of_le small]
    rw [whole]
    exact ⟨fun _ => .inl small, fun _ => ⟨fun _ => rfl, fun large => by omega⟩⟩

/-! ### Failure replies -/

/-- The output captured of a command that was started. -/
def captured? : ExecFailure → Option String
  | .exited _ output | .timedOut _ output => some output
  | .spawnFailed _ | .ioFailed _ => none

/-- What a message says before the captured output. -/
def label : ExecFailure → String
  | .exited (some code) _ => s!"exit status {code}: "
  | .exited none _ => "exit status: terminated by signal: "
  | .spawnFailed _ => "exit status: spawn failed: "
  | .timedOut afterMs _ => s!"exit status: killed after {afterMs}ms: "
  | .ioFailed _ => "exit status: IO error: "

/-- The opening bracket can be told from what is said before it. -/
theorem append_opening (front middle text : String) :
    front ++ (middle ++ "[") ++ text ++ "]" = front ++ middle ++ "[" ++ text ++ "]" := by
  simp only [String.append_assoc]

/-- The message brings the captured output in brackets. -/
theorem message_eq {failure : ExecFailure} {output : String}
    (captured : failure.captured? = some output) :
    failure.message = failure.label ++ "[" ++ output ++ "]" := by
  cases failure with
  | exited code text =>
    cases captured
    cases code with
    | none => exact append_opening "exit status: terminated by signal" ": " output
    | some code => exact append_opening ("exit status " ++ toString code) ": " output
  | timedOut afterMs text =>
    cases captured
    exact append_opening ("exit status: killed after " ++ toString afterMs) "ms: " output
  | spawnFailed reason | ioFailed reason => cases captured

/-- Cutting changes the captured output alone. -/
theorem truncated_eq {failure : ExecFailure} {output : String}
    (captured : failure.captured? = some output) (limit : Nat) :
    (failure.truncated limit).captured? = some (outputTail limit output) ∧
      (failure.truncated limit).output = outputTail limit output ∧
      (failure.truncated limit).label = failure.label ∧
      (failure.truncated limit).exitCode = failure.exitCode := by
  cases failure with
  | exited code text =>
    cases captured
    cases code <;> exact ⟨rfl, rfl, rfl, rfl⟩
  | timedOut afterMs text =>
    cases captured
    exact ⟨rfl, rfl, rfl, rfl⟩
  | spawnFailed reason | ioFailed reason => cases captured

end ExecFailure

namespace Rpc

open ExecFailure Text.Utf8

/-- An error that brings a text for the captured output of a failure, in its message and beside it. -/
structure Error.Brings (error : Error) (failure : ExecFailure) (text : String) : Prop where
  data : error.data = some ⟨failure.exitCode, text⟩
  message : error.message = failure.label ++ "[" ++ text ++ "]"

/-- A worker's reply brings the captured output, cut twice. -/
theorem Worker.reply_brings {failure : ExecFailure} {output : String}
    (captured : failure.captured? = some output) :
    ∃ error, Worker.reply (.error failure) = .error error ∧
      error.Brings failure (outputTail maxFailureOutput (outputTail maxFailureOutput output)) := by
  obtain ⟨once, -, labelled, code⟩ := truncated_eq captured maxFailureOutput
  obtain ⟨twice, text, labelledTwice, codeTwice⟩ := truncated_eq once maxFailureOutput
  refine ⟨_, rfl, ?_, ?_⟩
  · show some (Wire.FailureDetail.mk _ _) = _
    rw [text, codeTwice, code]
  · show ExecFailure.message _ = _
    rw [message_eq twice, labelledTwice, labelled]

/-- An error brings one text only. -/
theorem Error.Brings.unique {error : Error} {failure : ExecFailure} {text other : String}
    (brings : error.Brings failure text) (bringsToo : error.Brings failure other) :
    text = other := by
  have same := brings.data.symm.trans bringsToo.data
  simpa using same

/-- Output that is one octet too long. -/
def oneTooMany : String := String.ofList (List.replicate (maxFailureOutput + 1) 'a')

theorem size_replicate (count : Nat) : size (List.replicate count 'a') = count := by
  rw [size_eq_length fun c member => by rw [List.eq_of_mem_replicate member]; rfl,
    List.length_replicate]

theorem size_oneTooMany : size oneTooMany.toList = maxFailureOutput + 1 := by
  rw [oneTooMany, String.toList_ofList, size_replicate]

/-- **A failure reply does not always say truly what was cut.** -/
theorem Worker.reply_not_truthful :
    ¬ ∀ (failure : ExecFailure) (output : String), failure.captured? = some output →
      ∃ error text, Worker.reply (.error failure) = .error error ∧ error.Brings failure text ∧
        Truthful maxFailureOutput output text := by
  intro truthful
  have captured : (ExecFailure.exited (some 3) oneTooMany).captured? = some oneTooMany := rfl
  obtain ⟨error, text, replies, brings, holds⟩ := truthful _ _ captured
  obtain ⟨other, repliesToo, bringsToo⟩ := Worker.reply_brings captured
  obtain rfl : error = other := Except.error.inj (replies.symm.trans repliesToo)
  rw [brings.unique bringsToo, truthful_outputTail_outputTail_iff, size_oneTooMany] at holds
  omega

/-- **What a failure reply says of captured output.** The reply brings one text for it in its message
and beside it. Short output is whole. Long output is cut at the first character boundary that leaves
no more than the limit, and its note is cut in turn: the text stands behind a note of how many octets
of the first note are gone. So the text says truly what was cut only if the output is short or is
cut after twenty octets. -/
theorem Worker.reply_truthful_iff {failure : ExecFailure} {output : String}
    (captured : failure.captured? = some output) :
    ∃ error text, Worker.reply (.error failure) = .error error ∧ error.Brings failure text ∧
      (size output.toList ≤ maxFailureOutput → text = output) ∧
      (maxFailureOutput < size output.toList → ∃ gone kept, output.toList = gone ++ kept ∧
        size kept ≤ maxFailureOutput ∧ maxFailureOutput ≤ size kept + 3 ∧
        (∀ front back, output.toList = front ++ back → size back ≤ maxFailureOutput →
          size gone ≤ size front) ∧
        let note := s!"[{size gone} bytes truncated]"
        let lost := note.length + size kept - maxFailureOutput
        text = s!"[{lost} bytes truncated]" ++ String.ofList (note.toList.drop lost ++ kept)) ∧
      (Truthful maxFailureOutput output text ↔
        size output.toList ≤ maxFailureOutput ∨ size output.toList = maxFailureOutput + 20 ∧
          ∃ gone kept, output.toList = gone ++ kept ∧ size gone = 20) := by
  obtain ⟨error, replies, brings⟩ := Worker.reply_brings captured
  refine ⟨error, _, replies, brings, fun small => ?_, fun large => ?_,
    truthful_outputTail_outputTail_iff maxFailureOutput output⟩
  · rw [outputTail_of_le small, outputTail_of_le small]
  · obtain ⟨cut, kept, cutThere, beyond, under, twice⟩ := outputTail_outputTail large
    obtain ⟨gone, split, same⟩ := cutThere.split
    refine ⟨gone, kept, split, beyond, under, fun front back parts left => ?_, ?_⟩
    · rw [same]
      refine cutThere.first front back parts ?_
      rw [parts, size_append]
      omega
    · intro note lost
      have spelled : note = String.ofList (ExecFailure.note cut) := by
        rw [ofList_note, ← same]
      have counted : lost = (ExecFailure.note cut).length + size kept - maxFailureOutput := by
        rw [← String.length_ofList, ← spelled]
      rw [spelled, String.toList_ofList, counted, ← ofList_note, ← String.ofList_append, ← twice,
        String.ofList_toList]

theorem Worker.reply_truthful_iff_oneTooMany :
    (ExecFailure.exited (some 3) oneTooMany).captured? = some oneTooMany ∧
      ∃ error, Worker.reply (.error (.exited (some 3) oneTooMany)) = .error error ∧
        error.Brings (.exited (some 3) oneTooMany)
          ("[19 bytes truncated]" ++ String.ofList (List.replicate maxFailureOutput 'a')) := by
  have captured : (ExecFailure.exited (some 3) oneTooMany).captured? = some oneTooMany := rfl
  obtain ⟨error, text, replies, brings, -, long, -⟩ := Worker.reply_truthful_iff captured
  obtain ⟨gone, kept, split, beyond, -, first, same⟩ := long (by rw [size_oneTooMany]; omega)
  have letters : oneTooMany.toList = ['a'] ++ List.replicate maxFailureOutput 'a' := by
    rw [oneTooMany, String.toList_ofList, List.replicate_succ]
    rfl
  -- one letter has to go, and one is enough
  have total := size_oneTooMany
  have one : size gone ≤ 1 := first _ _ letters (size_replicate _).le
  rw [split, size_append] at total
  have lettersGone : size gone = 1 := by omega
  have left : size kept = maxFailureOutput := by omega
  have lettersKept : kept = List.replicate maxFailureOutput 'a' := by
    have here := dropOctets_size gone kept
    have there := dropOctets_size ['a'] (List.replicate maxFailureOutput 'a')
    rw [← split, letters, lettersGone] at here
    exact (Prod.mk.inj (here.symm.trans there)).2
  have length : "[1 bytes truncated]".length = 19 := by decide
  have nothing : "[1 bytes truncated]".toList.drop 19 = [] := by decide
  have note : s!"[{1} bytes truncated]" = "[1 bytes truncated]" := by decide
  simp only [lettersGone, note, length, left, Nat.add_sub_cancel, nothing, List.nil_append] at same
  have whole : text =
      "[19 bytes truncated]" ++ String.ofList (List.replicate maxFailureOutput 'a') := by
    rw [same, lettersKept]
    exact congrArg (· ++ String.ofList _) (by decide)
  exact ⟨captured, error, replies, whole ▸ brings⟩

end Rpc

end Workyard
