/-
**A failure reply fits.**

A caller takes no reply beyond a certain size, and a reply that it does not take looks like a worker
that is lost. A failure reply brings the captured output twice, each time written with escapes. Cut
output is no longer than the limit and a note, whatever was captured; an escape has no more than six
octets for one; and numbers of fixed width have few digits.

* `size_quote_le`: how long a string is when it is written;
* `size_outputTail_outputTail_le`, `keepsEnd_outputTail_outputTail`: output that is cut twice is short,
  and ends as before;
* `Worker.reply_fits`: the reply for any failure of a command that was started.
-/

import Workyard.Proofs.Execution.Truncation
import Workyard.Proofs.Json.Numbers

namespace Workyard

open Text.Utf8

/-! ### Sizes of what is written -/

namespace Json

/-- A hexadecimal digit is one octet. -/
theorem utf8Size_hexDigit : ∀ value < 16, (Text.hexDigit value).utf8Size = 1 := by decide

/-- No character is written with more than six octets for each of its own. -/
theorem size_quoteChar_le (c : Char) : size (quoteChar c) ≤ 6 * c.utf8Size := by
  have one := c.utf8Size_pos
  -- the escapes of two characters come first, then that of six
  unfold quoteChar
  iterate 7
    split
    · exact Nat.le_trans (by decide : _ ≤ 6) (Nat.le_mul_of_pos_right 6 one)
  split
  · next control =>
    have high := utf8Size_hexDigit (c.toNat / 16) (by omega)
    have low := utf8Size_hexDigit (c.toNat % 16) (by omega)
    have escape : size ['\\', 'u', '0', '0'] = 4 := by decide
    have digits : size ['\\', 'u', '0', '0', Text.hexDigit (c.toNat / 16),
        Text.hexDigit (c.toNat % 16)] = 6 := by
      simp only [size_cons, size_nil, high, low] at escape ⊢
      omega
    omega
  · rw [size_cons, size_nil]
    omega

theorem size_flatMap_quoteChar_le (text : List Char) :
    size (text.flatMap quoteChar) ≤ 6 * size text := by
  induction text with
  | nil => exact Nat.le_refl 0
  | cons c rest hypothesis =>
    rw [List.flatMap_cons, size_append, size_cons, Nat.mul_add]
    exact Nat.add_le_add (size_quoteChar_le c) hypothesis

/-- **A string is written with no more than six octets for each of its own**, and two quotes. -/
theorem size_quote_le (text : String) : size (quote text).toList ≤ 6 * size text.toList + 2 := by
  have quotes : size ['"'] = 1 := by decide
  have inside := size_flatMap_quoteChar_le text.toList
  rw [quote, String.toList_ofList, size_cons, size_append, quotes]
  have first : '"'.utf8Size = 1 := by decide
  omega

theorem size_toDigits (number : Nat) :
    size (Nat.toDigits 10 number) = (Nat.toDigits 10 number).length :=
  size_eq_length fun _ member => ExecFailure.utf8Size_of_isDigit
    (Nat.isDigit_of_mem_toDigits (by decide) (by decide) member)

/-- A number of so many digits, perhaps behind a sign. -/
theorem size_toString_le {value : Int} {count : Nat} (positive : 0 < count)
    (small : value.natAbs < 10 ^ count) : size (toString value).toList ≤ count + 1 := by
  have digits : ∀ number, number = value.natAbs → (Nat.toDigits 10 number).length ≤ count := by
    rintro number rfl
    exact (Nat.length_toDigits_le_iff (by decide) positive).mpr small
  rw [Scan.toList_toString]
  split
  · have short := digits value.toNat (by omega)
    rw [size_toDigits]
    omega
  · have short := digits (-value).toNat (by omega)
    have sign : '-'.utf8Size = 1 := by decide
    rw [size_cons, size_toDigits, sign]
    omega

theorem size_status_le {code : Option Int} (fits : (Scalar.status code).Fits) :
    size (Scalar.status code).toJson.compact.toList ≤ 11 := by
  cases code with
  | none =>
    have null : size "null".toList = 4 := by decide
    rw [Scalar.toJson, compact, null]
    decide
  | some code =>
    have bounds : Int.pow 2 31 = 2147483648 := by decide
    obtain ⟨least, greatest⟩ := fits
    rw [bounds] at least greatest
    rw [Scalar.toJson, Json.int, Scan.compact_number]
    exact size_toString_le (by decide) (by omega)

end Json

/-! ### Output that is cut -/

namespace ExecFailure

/-- Numbers of the width that they have on a machine: 32 bits for a status, and 64 for a time and for
the length of an output. -/
def Sized : ExecFailure → Prop
  | .exited code output => (Json.Scalar.status code).Fits ∧ size output.toList < 2 ^ 64
  | .timedOut afterMs output => -2 ^ 63 ≤ afterMs ∧ afterMs < 2 ^ 63 ∧ size output.toList < 2 ^ 64
  | .spawnFailed _ | .ioFailed _ => True

/-- A text ends with as much of an output as a limit admits. -/
def KeepsEnd (limit : Nat) (output text : String) : Prop :=
  ∃ kept, kept <:+ output.toList ∧ size kept ≤ limit ∧
    (∀ back, back <:+ output.toList → size back ≤ limit → back <:+ kept) ∧ kept <:+ text.toList

theorem Sized.size_lt {failure : ExecFailure} {output : String} (sized : failure.Sized)
    (captured : failure.captured? = some output) : size output.toList < 2 ^ 64 := by
  cases failure with
  | exited code text =>
    cases captured
    exact sized.2
  | timedOut afterMs text =>
    cases captured
    exact sized.2.2
  | spawnFailed reason | ioFailed reason => cases captured

theorem Sized.status_fits {failure : ExecFailure} (sized : failure.Sized) :
    (Json.Scalar.status failure.exitCode).Fits := by
  cases failure with
  | exited code text => exact sized.1
  | timedOut afterMs text | spawnFailed reason | ioFailed reason => trivial

/-- What a message says before the captured output is short. -/
theorem Sized.size_label_le {failure : ExecFailure} {output : String} (sized : failure.Sized)
    (captured : failure.captured? = some output) : size failure.label.toList ≤ 50 := by
  have start : size "exit status ".toList = 12 := by decide
  have colon : size ": ".toList = 2 := by decide
  have signal : size "exit status: terminated by signal: ".toList = 35 := by decide
  have killed : size "exit status: killed after ".toList = 26 := by decide
  have unit : size "ms: ".toList = 4 := by decide
  cases failure with
  | exited code text =>
    cases code with
    | none =>
      show size "exit status: terminated by signal: ".toList ≤ 50
      rw [signal]
      decide
    | some code =>
      have number := Json.size_status_le sized.1
      rw [Json.Scalar.toJson, Json.int, Json.Scan.compact_number] at number
      show size ("exit status " ++ toString code ++ ": ").toList ≤ 50
      rw [String.toList_append, String.toList_append, size_append, size_append, start, colon]
      omega
  | timedOut afterMs text =>
    obtain ⟨least, greatest, -⟩ := sized
    have number : size (toString afterMs).toList ≤ 19 + 1 :=
      Json.size_toString_le (by decide) (by omega)
    show size ("exit status: killed after " ++ toString afterMs ++ "ms: ").toList ≤ 50
    rw [String.toList_append, String.toList_append, size_append, size_append, killed, unit]
    omega
  | spawnFailed reason | ioFailed reason => cases captured

/-- The note of a number below a hundred. -/
theorem note_length_le {cut : Nat} (small : cut < 100) : (note cut).length ≤ 20 := by
  have digits : (Nat.toDigits 10 cut).length ≤ 2 :=
    (Nat.length_toDigits_le_iff (by decide) (by decide)).mpr small
  rw [note_length]
  omega

/-- **Output that is cut twice is no longer than the limit and a short note**: what the second cut
takes is not even the whole of the first note, so that the second note counts in two digits. -/
theorem size_outputTail_outputTail_le (limit : Nat) {output : String}
    (sized : size output.toList < 2 ^ 64) :
    size (outputTail limit (outputTail limit output)).toList ≤ limit + 20 := by
  rcases Nat.lt_or_ge limit (size output.toList) with large | small
  · obtain ⟨cut, kept, cutThere, beyond, under, twice⟩ := outputTail_outputTail large
    obtain ⟨gone, split, counted⟩ := cutThere.split
    have few : cut < 10 ^ 20 := by
      rw [split, size_append, counted] at sized
      omega
    have digits : (Nat.toDigits 10 cut).length ≤ 20 :=
      (Nat.length_toDigits_le_iff (by decide) (by decide)).mpr few
    have first := note_length cut
    have second : (note ((note cut).length + size kept - limit)).length ≤ 20 :=
      note_length_le (by omega)
    have rest : size ((note cut).drop ((note cut).length + size kept - limit)) =
        (note cut).length - ((note cut).length + size kept - limit) := by
      rw [size_eq_length fun c member => utf8Size_of_mem_note (List.mem_of_mem_drop member),
        List.length_drop]
    rw [twice, size_append, size_append, size_note, rest]
    omega
  · rw [outputTail_of_le small, outputTail_of_le small]
    omega

/-- The shorter of two ends of a text is an end of the longer one. -/
theorem suffix_of_size_le {text first second : List Char} (ends : first <:+ text)
    (endsToo : second <:+ text) (shorter : size first ≤ size second) : first <:+ second := by
  rcases List.suffix_or_suffix_of_suffix ends endsToo with inside | ⟨front, split⟩
  · exact inside
  · have nothing : front = [] := by
      cases front with
      | nil => rfl
      | cons c front =>
        have one := c.utf8Size_pos
        rw [← split, List.cons_append, size_cons, size_append] at shorter
        omega
    rw [← split, nothing]
    exact List.suffix_refl second

/-- **Output that is cut twice ends as before**, as far as the limit admits. -/
theorem keepsEnd_outputTail_outputTail (limit : Nat) (output : String) :
    KeepsEnd limit output (outputTail limit (outputTail limit output)) := by
  rcases Nat.lt_or_ge limit (size output.toList) with large | small
  · obtain ⟨cut, kept, cutThere, beyond, -, twice⟩ := outputTail_outputTail large
    obtain ⟨gone, split, counted⟩ := cutThere.split
    have ends : kept <:+ output.toList := ⟨gone, split.symm⟩
    refine ⟨kept, ends, beyond, fun back endsToo fits => ?_, ?_⟩
    · obtain ⟨front, parts⟩ := endsToo
      refine suffix_of_size_le ⟨front, parts⟩ ends ?_
      -- an end that fits starts where the cut could have fallen
      have total : size output.toList = size front + size back := by rw [← parts, size_append]
      have earliest := cutThere.first front back parts.symm (by omega)
      rw [split, size_append, counted] at total
      omega
    · rw [twice, ← List.append_assoc]
      exact List.suffix_append _ kept
  · rw [outputTail_of_le small, outputTail_of_le small]
    exact ⟨output.toList, List.suffix_refl _, small, fun back ends _ => ends, List.suffix_refl _⟩

end ExecFailure

/-! ### Replies -/

namespace Rpc

open ExecFailure

/-- What is written of an error besides its parts. -/
theorem Error.size_toJson {error : Error} {detail : Wire.FailureDetail}
    (details : error.data = some detail) :
    size error.toJson.compact.toList =
      size (toString error.code).toList + size (Json.quote error.message).toList +
        size (Json.Scalar.status detail.exitCode).toJson.compact.toList +
        size (Json.quote detail.output).toList + 52 := by
  have names : Json.quote "code" = "\"code\"" ∧ Json.quote "message" = "\"message\"" ∧
      Json.quote "data" = "\"data\"" ∧ Json.quote "exit_code" = "\"exit_code\"" ∧
      Json.quote "output" = "\"output\"" := by decide
  obtain ⟨code, message, data, exitCode, output⟩ := names
  have constants : size "\x7b".toList = 1 ∧ size "\x7d".toList = 1 ∧ size ":".toList = 1 ∧
      size ",".toList = 1 ∧ size "\"code\"".toList = 6 ∧ size "\"message\"".toList = 9 ∧
      size "\"data\"".toList = 6 ∧ size "\"exit_code\"".toList = 11 ∧
      size "\"output\"".toList = 8 := by decide
  rw [Error.toJson, details]
  simp only [Wire.FailureDetail.toJson, Json.record, Json.int, Json.compact, Json.compactMembers,
    Json.Scalar.toJson, List.map_cons, List.map_nil, List.zip_cons_cons, List.zip_nil_right,
    List.cons_append, List.nil_append, String.toList_append, size_append, code, message, data,
    exitCode, output, constants]
  omega

/-- **A failure reply fits.** Whatever the output of a command that was started, the reply for it has
a message and details that are no longer than the limit and a hundred octets, its details end with as
much of the output as the limit admits, and all of it is written with less than ten million octets. -/
theorem Worker.reply_fits {failure : ExecFailure} {output : String} (sized : failure.Sized)
    (captured : failure.captured? = some output) :
    ∃ error detail, Worker.reply (.error failure) = .error error ∧ error.data = some detail ∧
      size error.message.toList < maxFailureOutput + 100 ∧
      size detail.output.toList < maxFailureOutput + 100 ∧
      KeepsEnd maxFailureOutput output detail.output ∧
      size error.toJson.compact.toList < 10000000 := by
  obtain ⟨error, replies, brings⟩ := Worker.reply_brings captured
  have bound : maxFailureOutput = 262144 := rfl
  have text := size_outputTail_outputTail_le maxFailureOutput (sized.size_lt captured)
  have ends := keepsEnd_outputTail_outputTail maxFailureOutput output
  have label := sized.size_label_le captured
  have brackets : size "[".toList = 1 ∧ size "]".toList = 1 := by decide
  have message : size error.message.toList ≤ maxFailureOutput + 72 := by
    rw [brings.message, String.toList_append, String.toList_append, String.toList_append,
      size_append, size_append, size_append]
    omega
  refine ⟨error, _, replies, brings.data, by omega, Nat.lt_of_le_of_lt text (by omega), ends, ?_⟩
  have code : size (toString error.code).toList = 4 := by
    have numbered : error.code = Error.processFailed := by
      rw [← Except.error.inj replies]
      rfl
    rw [numbered]
    decide
  have status := Json.size_status_le sized.status_fits
  have messageQuoted := Json.size_quote_le error.message
  have textQuoted := Json.size_quote_le
    (outputTail maxFailureOutput (outputTail maxFailureOutput output))
  have written := Error.size_toJson brings.data
  dsimp only at written
  omega

/-- Output of twice the limit, of which each octet is written with six. -/
def allEscaped : String := String.ofList (List.replicate (maxFailureOutput + maxFailureOutput) '\x01')

theorem size_allEscaped : size allEscaped.toList = maxFailureOutput + maxFailureOutput := by
  have repeated : ∀ count, size (List.replicate count '\x01') = count := by
    intro count
    rw [size_eq_length fun c member => by rw [List.eq_of_mem_replicate member]; rfl,
      List.length_replicate]
  rw [allEscaped, String.toList_ofList, repeated]

/-- The longest time, and output that is cut and then written with escapes only. -/
theorem Worker.reply_fits_allEscaped :
    (ExecFailure.timedOut (2 ^ 63 - 1) allEscaped).Sized ∧
      (ExecFailure.timedOut (2 ^ 63 - 1) allEscaped).captured? = some allEscaped ∧
      ∃ error, Worker.reply (.error (.timedOut (2 ^ 63 - 1) allEscaped)) = .error error ∧
        size error.toJson.compact.toList < 10000000 := by
  have sized : (ExecFailure.timedOut (2 ^ 63 - 1) allEscaped).Sized := by
    refine ⟨by decide, by decide, ?_⟩
    rw [size_allEscaped]
    decide
  obtain ⟨error, -, replies, -, -, -, -, written⟩ := Worker.reply_fits sized rfl
  exact ⟨sized, rfl, error, replies, written⟩

end Rpc

end Workyard
