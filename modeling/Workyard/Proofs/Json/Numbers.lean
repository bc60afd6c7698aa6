/-
**Numbers, flags and statuses are read back.**

An integer is written in decimal digits, without zeros in front, behind a minus sign if it is below
zero. Reading folds the digits back into the number as long as it fits into 64 bits, and looks one
character beyond them, which is where a member of an object ends.

* `integerField_reads`: an integer is read back;
* `readable_of_fits`: so is every value that its kind of field can hold.
-/

import Workyard.Proofs.Json.RoundTrip
import Workyard.Proofs.Text.Numeral

namespace Workyard.Json

namespace Scan

variable {α β : Type}

/-! ### Digits -/

theorem eq_zero_of_digit {c : Char} (digit : c.isDigit = true) (zero : c.toNat - '0'.toNat = 0) :
    c = '0' := by
  have least : '0'.toNat ≤ c.toNat := (Text.bounds_of_isDigit digit).1
  exact Char.toNat_inj.mp (by omega)

theorem isBlank_of_isDigit {c : Char} (digit : c.isDigit = true) : isBlank c = false := by
  have differs : c ≠ ' ' ∧ c ≠ '\n' ∧ c ≠ '\t' ∧ c ≠ '\r' := by
    refine ⟨?_, ?_, ?_, ?_⟩ <;> rintro rfl <;> cases digit
  simp [isBlank, differs]

/-- Only zero is written with a zero in front. -/
theorem eq_zero_of_head_toDigits (number : Nat) :
    (Nat.toDigits 10 number).head? = some '0' → number = 0 := by
  induction number using Nat.strongRecOn with
  | ind number hypothesis =>
    intro zero
    rw [Nat.toDigits_eq_if (by decide)] at zero
    split at zero
    · exact Nat.digitChar_eq_zero.mp (Option.some.inj zero)
    · next large =>
      rw [List.head?_append_of_ne_nil _ Nat.toDigits_ne_nil] at zero
      have quotient := hypothesis (number / 10) (by omega) zero
      omega

/-! ### Integers -/

/-- This character is next behind a text. -/
def before (stop : Char) (rest : List Char) : Prop := rest.head? = some stop

/-- What is behind a member is a comma or the end of the object. -/
theorem Reads.of_delimited {scan : Scan α} {text : List Char} {value : α}
    (reads : ∀ stop, stop = ',' ∨ stop = '\x7d' → scan.Reads text value (before stop)) :
    scan.Reads text value delimited := by
  intro rest ended
  rcases ended with comma | brace
  · exact reads ',' (.inl rfl) rest comma
  · exact reads '\x7d' (.inr rfl) rest brace

theorem Reads.of_peekDigit {next : Option Nat → Scan β} {text : List Char} {result : β}
    {stops : List Char → Prop} {ahead : Option Char}
    (starts : ∀ rest, stops rest → (text ++ rest).head? = ahead)
    (reads : (next (ahead.bind Text.digit?)).Reads text result stops) :
    (peekDigit >>= next).Reads text result stops := by
  rw [peekDigit, bind_assoc]
  refine .of_peek starts ?_
  rw [pure_bind]
  exact reads

/-- Digits are folded into the number as long as it fits. -/
theorem integerDigits_reads {digits : List Char} (numeral : ∀ c ∈ digits, c.isDigit = true)
    {stop : Char} (ends : Text.digit? stop = none) {enough : Nat}
    (fuelled : digits.length < enough) (value : Nat)
    (small : Nat.ofDigitChars 10 digits value ≤ Text.maxU64) :
    (integerDigits enough value 0).Reads digits (Nat.ofDigitChars 10 digits value, 0)
      (before stop) := by
  induction digits generalizing enough value with
  | nil =>
    cases enough with
    | zero => cases fuelled
    | succ enough =>
      refine .of_peekDigit (fun _ ended => ended) ?_
      rw [Option.bind_some, ends]
      exact .pure _ _
  | cons c digits hypothesis =>
    cases enough with
    | zero => cases fuelled
    | succ enough =>
      rw [Nat.ofDigitChars_cons, Nat.mul_comm 10 value] at small ⊢
      have fits := Nat.le_trans (Text.le_ofDigitChars digits _) small
      have rest := hypothesis (fun other member => numeral other (List.mem_cons_of_mem c member))
        (Nat.lt_of_succ_lt_succ fuelled) _ small
      refine .of_peekDigit (fun _ _ => rfl) ?_
      rw [Option.bind_some, Text.digit_of_isDigit (numeral c List.mem_cons_self)]
      refine .of_advance ?_
      rw [if_pos (by simpa using fits)]
      exact rest

/-- A magnitude of 64 bits is read from its digits. -/
theorem number_reads (positive : Bool) (magnitude : Nat) (small : magnitude ≤ Text.maxU64)
    {stop : Char} (ends : stop = ',' ∨ stop = '\x7d') :
    (number positive).Reads (Nat.toDigits 10 magnitude) (integer positive magnitude)
      (before stop) := by
  have undigital : Text.digit? stop = none := by rcases ends with rfl | rfl <;> decide
  unfold number
  cases written : Nat.toDigits 10 magnitude with
  | nil => exact absurd written Nat.toDigits_ne_nil
  | cons c digits =>
    have numeral : ∀ other ∈ c :: digits, other.isDigit = true := fun other member =>
      Nat.isDigit_of_mem_toDigits (by decide) (by decide) (written ▸ member)
    refine .of_peek (fun _ _ => rfl) ?_
    simp only [Text.digit_of_isDigit (numeral c List.mem_cons_self)]
    refine .of_advance ?_
    by_cases zero : c.toNat - '0'.toNat = 0
    · -- a zero in front is the whole numeral, which reading insists on
      have leading := eq_zero_of_digit (numeral c List.mem_cons_self) zero
      obtain rfl : magnitude = 0 :=
        eq_zero_of_head_toDigits magnitude (by rw [written, leading]; rfl)
      obtain ⟨-, rfl⟩ : '0' = c ∧ [] = digits := List.cons.inj written
      rw [if_pos zero]
      refine .of_peekDigit (fun _ ended => ended) ?_
      rw [Option.bind_some, undigital, pure_bind]
      refine .of_peek (fun _ ended => ended) ?_
      rcases ends with rfl | rfl <;> exact .pure _ _
    · have folded : Nat.ofDigitChars 10 digits (c.toNat - '0'.toNat) = magnitude := by
        have whole : Nat.ofDigitChars 10 (Nat.toDigits 10 magnitude) 0 = magnitude :=
          Nat.ofDigitChars_toDigits (by decide) (by decide)
        rwa [written, Nat.ofDigitChars_cons, Nat.mul_zero, Nat.zero_add] at whole
      rw [if_neg zero]
      refine .of_fuel fun enough fuelled => ?_
      have read := integerDigits_reads
        (fun other member => numeral other (List.mem_cons_of_mem c member)) undigital fuelled
        (c.toNat - '0'.toNat) (by rwa [folded])
      rw [folded] at read
      refine read.bind_last (.of_peek (fun _ ended => ended) ?_)
      rcases ends with rfl | rfl <;> exact .pure _ _

/-- An integer is its digits, or a minus sign and the digits of its magnitude. -/
theorem toList_toString (value : Int) :
    (toString value).toList =
      if 0 ≤ value then Nat.toDigits 10 value.toNat else '-' :: Nat.toDigits 10 (-value).toNat := by
  rw [Int.toString_eq_repr, Int.repr_eq_if]
  split
  · exact Nat.toList_repr
  · rw [String.toList_append, Nat.toList_repr]
    rfl

/-- The character with which a natural number starts. -/
theorem toDigits_starts (number : Nat) :
    ∃ c digits, Nat.toDigits 10 number = c :: digits ∧ c.isDigit = true := by
  cases written : Nat.toDigits 10 number with
  | nil => exact absurd written Nat.toDigits_ne_nil
  | cons c digits =>
    exact ⟨c, digits, rfl, Nat.isDigit_of_mem_toDigits (by decide) (by decide)
      (written ▸ List.mem_cons_self)⟩

/-- **An integer is read back** if it fits into 64 bits. -/
theorem integerField_reads {value : Int} (least : -(Nat.pow 2 63 : Nat) ≤ value)
    (greatest : value ≤ Text.maxU64) :
    integerField.Reads (toString value).toList value delimited := by
  refine .of_delimited fun stop ends => ?_
  have bound : Nat.pow 2 63 ≤ Text.maxU64 := by decide
  rw [toList_toString]
  split
  · next positive =>
    obtain ⟨c, digits, written, digit⟩ := toDigits_starts value.toNat
    have read := number_reads true value.toNat (by omega) ends
    have signless : c ≠ '-' := by rintro rfl; cases digit
    rw [written] at read ⊢
    refine .of_needToken (isBlank_of_isDigit digit) (fun _ _ => rfl) ?_
    rw [if_neg signless, Text.digit_of_isDigit digit, Option.isSome_some, if_pos rfl]
    refine read.bind_last ?_
    rw [integer, if_pos rfl, Int.toNat_of_nonneg positive]
    exact .pure _ _
  · next negative =>
    have read := number_reads false (-value).toNat (by omega) ends
    refine .of_needToken rfl (fun _ _ => rfl) ?_
    rw [if_pos rfl]
    refine .of_advance (read.bind_last ?_)
    have magnitude : ¬ ((-value).toNat = 0 ∨ Nat.pow 2 63 < (-value).toNat) := by omega
    have opposite : -((-value).toNat : Int) = value := by omega
    simp only [integer, Bool.false_eq_true, if_false, Bool.or_eq_true, decide_eq_true_eq,
      magnitude, opposite]
    exact .pure _ _

/-! ### Values of fields -/

theorem word_reads (letters : List Char) (stops : List Char → Prop) :
    (word letters).Reads letters () stops := by
  induction letters with
  | nil => exact .pure () stops
  | cons c letters hypothesis =>
    refine .of_peek (fun _ _ => rfl) ?_
    simp only [if_true]
    exact .of_advance hypothesis

theorem flagField_reads (flag : Bool) :
    flagField.Reads (Json.bool flag).compact.toList flag delimited := by
  cases flag with
  | true =>
    refine .of_needToken rfl (fun _ _ => rfl) (.of_advance ?_)
    exact (word_reads ['r', 'u', 'e'] delimited).bind_last (.pure true delimited)
  | false =>
    refine .of_needToken rfl (fun _ _ => rfl) (.of_advance ?_)
    exact (word_reads ['a', 'l', 's', 'e'] delimited).bind_last (.pure false delimited)

theorem compact_number (value : Int) : (Json.number (.whole value)).compact = toString value := by
  rw [compact]

theorem readable_flag (flag : Bool) : Readable .flag (.flag flag) :=
  (flagField_reads flag).bind_last (.pure (Scalar.flag flag) delimited)

theorem readable_count {count : Nat} (greatest : count ≤ Text.maxU64) :
    Readable .count (.count count) := by
  rw [Readable, Scalar.toJson, Json.nat, compact_number]
  refine (integerField_reads (by omega) (by omega)).bind_last ?_
  have inRange : (decide ((0 : Int) ≤ count) && decide ((count : Int) ≤ Text.maxU64)) = true := by
    simpa using greatest
  rw [if_pos inRange]
  exact .pure (Scalar.count count) delimited

theorem readable_status_none : Readable .status (.status none) := by
  refine .of_peekToken rfl (fun _ _ => rfl) (.of_advance ?_)
  exact (word_reads ['u', 'l', 'l'] delimited).bind_last (.pure (Scalar.status none) delimited)

theorem readable_status_some {code : Int} (least : -(Int.pow 2 31) ≤ code)
    (greatest : code < Int.pow 2 31) : Readable .status (.status (some code)) := by
  have start : ∃ c rest, (toString code).toList = c :: rest ∧ isBlank c = false ∧ c ≠ 'n' := by
    rw [toList_toString]
    split
    · obtain ⟨c, digits, written, digit⟩ := toDigits_starts code.toNat
      exact ⟨c, digits, written, isBlank_of_isDigit digit, by rintro rfl; cases digit⟩
    · exact ⟨'-', _, rfl, rfl, by decide⟩
  obtain ⟨c, rest, written, dark, word⟩ := start
  have bounds : Int.pow 2 31 ≤ Nat.pow 2 63 ∧ Int.pow 2 31 ≤ Text.maxU64 := by decide
  have read : integerField.Reads (toString code).toList code delimited :=
    integerField_reads (by omega) (by omega)
  rw [Readable, Scalar.toJson, Json.int, compact_number]
  rw [written] at read ⊢
  refine .of_peekToken dark (fun _ _ => rfl) ?_
  split
  · next null => exact absurd (Option.some.inj null) word
  · refine read.bind_last ?_
    have inRange : (decide (-(Int.pow 2 31) ≤ code) && decide (code < Int.pow 2 31)) = true := by
      rw [decide_eq_true least, decide_eq_true greatest, Bool.and_self]
    rw [if_pos inRange]
    exact .pure (Scalar.status (some code)) delimited

end Scan

/-- The kind of field that holds the value. -/
def Scalar.kind : Scalar → FieldKind
  | .text _ => .text
  | .count _ => .count
  | .flag _ => .flag
  | .status _ => .status

/-- Whether a field can hold the value: a count has 64 bits, a status 32 with its sign. -/
def Scalar.Fits : Scalar → Prop
  | .text _ | .flag _ | .status none => True
  | .count value => value ≤ Text.maxU64
  | .status (some code) => -(Int.pow 2 31) ≤ code ∧ code < Int.pow 2 31

/-- **Every value that a field can hold is read back.** -/
theorem Scalar.readable_of_fits {value : Scalar} (fits : value.Fits) :
    Scan.Readable value.kind value := by
  cases value with
  | text text => exact Scan.readable_text text
  | count count => exact Scan.readable_count fits
  | flag flag => exact Scan.readable_flag flag
  | status code =>
    cases code with
    | none => exact Scan.readable_status_none
    | some code => exact Scan.readable_status_some fits.1 fits.2

end Workyard.Json
