/-
**Escapes and formats of printed text.**

A backslash stands for a character by letter or by octal digits. A format has text and directives; it is
used again for as long as arguments are left.

* `unescape`: a text with its escapes read, up to one that ends all output;
* `printed`: what a format makes of arguments.
-/

import Workyard.Shell.Arithmetic
import Workyard.Shell.Floating

namespace Workyard.Shell

/-- Reads the escape behind a backslash: its character and the text behind it. A backslash in front of
anything else stands for itself. -/
def escape (text : List Char) : Char × List Char :=
  match text with
  | [] => ('\\', [])
  | c :: rest =>
    if (digitIn 8 c).isSome then
      let digits := (text.take 3).takeWhile fun c => (digitIn 8 c).isSome
      (octetChar (valueIn 8 digits), text.drop digits.length)
    else match c with
      | '\\' => ('\\', rest)
      | 'a' => ('\x07', rest)
      | 'b' => ('\x08', rest)
      | 'e' => ('\x1b', rest)
      | 'f' => ('\x0c', rest)
      | 'n' => ('\n', rest)
      | 'r' => ('\x0d', rest)
      | 't' => ('\t', rest)
      | 'v' => ('\x0b', rest)
      | _ => ('\\', text)

theorem escape_length (text : List Char) : (escape text).2.length ≤ text.length := by
  unfold escape
  split
  · simp
  · split
    · simp
    · split <;> simp

/-- Reads the escape behind a backslash, where octal digits may follow a zero. -/
def zeroEscape (text : List Char) : Char × List Char :=
  if text.head? = some '0' && (text.drop 1).head?.any fun c => (digitIn 8 c).isSome then
    escape (text.drop 1)
  else escape text

theorem zeroEscape_length (text : List Char) : (zeroEscape text).2.length ≤ text.length := by
  unfold zeroEscape
  split
  · exact Nat.le_trans (escape_length _) (by simp)
  · exact escape_length text

/-- Reads escapes; `true` if one ends all output. `read` holds what came before in reverse. -/
def unescapeFrom (read : List Char) : List Char → List Char × Bool
  | [] => (read.reverse, false)
  | c :: rest =>
    if c = '\\' then
      if rest.head? = some 'c' then (read.reverse, true)
      else
        have := zeroEscape_length rest
        unescapeFrom ((zeroEscape rest).1 :: read) (zeroEscape rest).2
    else unescapeFrom (c :: read) rest
termination_by text => text.length

/-- A text with its escapes read; `true` if one ends all output. -/
def unescape (text : List Char) : List Char × Bool := unescapeFrom [] text

/-- How a directive lays out what it prints. -/
structure Layout where
  left : Bool := false
  plus : Bool := false
  space : Bool := false
  alternate : Bool := false
  zero : Bool := false
  width : Nat := 0
  precision : Option Nat := none

/-- A text in its width. -/
def Layout.pad (layout : Layout) (text : List Char) : List Char :=
  let blanks := List.replicate (layout.width - text.length) ' '
  if layout.left then text ++ blanks else blanks ++ text

/-- Digits behind a sign, in their precision and width; nothing of a zero is left where no digit is asked
for. -/
def Layout.number (layout : Layout) (sign digits : List Char) : List Char :=
  let digits := if layout.precision = some 0 && digits = ['0'] then [] else digits
  let least := match layout.precision with
    | some precision => precision
    | none => if layout.zero && !layout.left then layout.width - sign.length else 0
  layout.pad (sign ++ List.replicate (least - digits.length) '0' ++ digits)

/-- How a printer reads escapes, how exact it is and in what words it complains. -/
structure Manner where
  precision : Precision := .double
  /-- The bits in front of the point of hexadecimal digits. -/
  firstBits : Nat := 1
  /-- What stands for the escape at the front of a text behind a backslash, and the text behind it; nothing
  if the escape ends all output. -/
  escape : List Char → Option (List Char × List Char)
  /-- A text with its escapes read; `true` if one ends all output. -/
  unescape : List Char → List Char × Bool
  /-- The words for an argument that is no number, for one with more behind a number, and for one that is
  too large. -/
  noNumber : List Char → List Char
  more : List Char → List Char
  beyond : List Char → List Char
  /-- Whether the size counts for more than what stands behind a number. -/
  sizeFirst : Bool := false
  /-- The words for a directive that cannot be used, and for one that comes to no letter. -/
  useless : List Char → List Char
  missing : List Char → List Char
  /-- What may stand in front of the letter of a directive and says nothing. -/
  modifiers : List Char := []
  /-- What a format in parentheses makes of a time, if there is a directive for it. -/
  time : Option (List Char → Option (List Char) → List Char) := none
  /-- The letters of the directives that take an argument and print nothing. -/
  silent : List Char := []
  /-- The letters of the directives for a text in the quotes of a shell, and that text. -/
  quoting : List Char := []
  quote : List Char → List Char := id

/-- What is printed: a text, or a complaint. -/
inductive Printed where
  | text (text : List Char)
  | complaint (words : List Char)

/-- What has been printed so far and what is still to be printed. -/
structure Printing where
  /-- Newest first. -/
  printed : List Printed := []
  arguments : List (List Char)
  used : Bool := false
  /-- Whether nothing more is to be printed. -/
  ended : Bool := false
  /-- Whether the format cannot be used. -/
  broken : Bool := false

namespace Printing

/-- Puts out a text. -/
def put (state : Printing) (text : List Char) : Printing :=
  { state with printed := .text text :: state.printed }

/-- Takes the next argument. -/
def take (state : Printing) : Option (List Char) × Printing :=
  match state.arguments with
  | [] => (none, state)
  | argument :: rest => (some argument, { state with arguments := rest, used := true })

/-- Adds a complaint. -/
def complain (state : Printing) (words : List Char) : Printing :=
  { state with printed := .complaint words :: state.printed }

/-- Takes the next argument as a number within bounds. A quote stands for the number of the character
behind it. -/
def takeNumber (manner : Manner) (least most : Int) (state : Printing) : Int × Printing :=
  match state.take with
  | (none, state) => (0, state)
  | (some ('\'' :: text), state) => (((text.head?).map fun c => (c.toNat : Int)).getD 0, state)
  | (some ('"' :: text), state) => (((text.head?).map fun c => (c.toNat : Int)).getD 0, state)
  | (some text, state) =>
    let bare := text.dropWhile isSpace
    let negative := bare.head? = some '-'
    let digits := if negative || bare.head? = some '+' then bare.drop 1 else bare
    match numberFront digits with
    | none => (0, if text = [] then state else state.complain (manner.noNumber text))
    | some (value, rest) =>
      let value : Int := if negative then -value else value
      let large : Bool := value < least || most < value
      let state :=
        if large && (manner.sizeFirst || rest = []) then state.complain (manner.beyond text)
        else if rest ≠ [] then state.complain (manner.more text)
        else state
      (max least (min most value), state)

/-- Takes the next argument as a number with a fraction. -/
def takeFloating (manner : Manner) (state : Printing) : Floating × Printing :=
  match state.take with
  | (none, state) => (.finite false 0 0, state)
  | (some ('\'' :: text), state) => (.ofInt manner.precision ((text.head?.map Char.toNat).getD 0), state)
  | (some ('"' :: text), state) => (.ofInt manner.precision ((text.head?.map Char.toNat).getD 0), state)
  | (some text, state) => match Floating.front manner.precision text with
    | none =>
      (.finite false 0 0, if text = [] then state else state.complain (manner.noNumber text))
    | some (value, rest) =>
      (value, if rest = [] then state else state.complain (manner.more text))

end Printing

/-- Reads the flags of a directive. -/
def flags (layout : Layout) : List Char → Layout × List Char
  | '-' :: rest => flags { layout with left := true } rest
  | '+' :: rest => flags { layout with plus := true } rest
  | ' ' :: rest => flags { layout with space := true } rest
  | '#' :: rest => flags { layout with alternate := true } rest
  | '0' :: rest => flags { layout with zero := true } rest
  | text => (layout, text)

/-- Reads a number of a directive, or takes it from the arguments for a star. -/
def measure (manner : Manner) (state : Printing) (text : List Char) : Int × Printing × List Char :=
  match text with
  | '*' :: rest =>
    let (value, state) := state.takeNumber manner (-(Int.pow 2 63)) (Int.pow 2 63 - 1)
    (value, state, rest)
  | _ =>
    let digits := text.takeWhile Char.isDigit
    (valueIn 10 digits, state, text.drop digits.length)

/-- A number with a fraction, laid out by a letter. -/
def Layout.floating (layout : Layout) (precision : Precision) (firstBits : Nat) (letter : Char)
    (value : Floating) : List Char :=
  let sign := if value.isNegative then ['-'] else if layout.plus then ['+'] else
    if layout.space then [' '] else []
  let (digits, real) := match value with
    | .finite _ mantissa exponent =>
      (match letter.toLower with
      | 'f' => Floating.fixed (layout.precision.getD 6) layout.alternate mantissa exponent
      | 'e' => Floating.scientific (layout.precision.getD 6) layout.alternate mantissa exponent
      | 'g' => Floating.general (layout.precision.getD 6) layout.alternate mantissa exponent
      | _ => Floating.hexadecimal precision firstBits layout.precision mantissa exponent, true)
    | .infinite _ => ("inf".toList, false)
    | .notNumber _ => ("nan".toList, false)
  let digits := if letter.isUpper then digits.map Char.toUpper else digits
  let front := if letter.toLower = 'a' && real then digits.take 2 else []
  let least := if layout.zero && !layout.left && real then layout.width - sign.length - digits.length else 0
  layout.pad (sign ++ front ++ List.replicate least '0' ++ digits.drop front.length)

/-- Digits of a number in a base. -/
def digitsIn (base value : Nat) : List Char := Nat.toDigits base value

/-- Carries out a directive for a layout. -/
def directive (manner : Manner) (layout : Layout) (letter : Char) (state : Printing) : Option Printing :=
  match letter with
  | 'c' =>
    let (argument, state) := state.take
    some (state.put (layout.pad [(argument.getD []).headD '\x00']))
  | 's' =>
    let (argument, state) := state.take
    let text := argument.getD []
    some (state.put (layout.pad ((layout.precision.map text.take).getD text)))
  | 'b' =>
    let (argument, state) := state.take
    let (text, ended) := manner.unescape (argument.getD [])
    let text := (layout.precision.map text.take).getD text
    some { state.put (layout.pad text) with ended }
  | _ =>
    if letter = 'd' || letter = 'i' then
      let (value, state) := state.takeNumber manner (-(Int.pow 2 63)) (Int.pow 2 63 - 1)
      let sign := if value < 0 then ['-'] else if layout.plus then ['+'] else
        if layout.space then [' '] else []
      some (state.put (layout.number sign (digitsIn 10 value.natAbs)))
    else if ['u', 'o', 'x', 'X'].contains letter then
      let (value, state) := state.takeNumber manner (1 - Int.pow 2 64) (Int.pow 2 64 - 1)
      let value := Arithmetic.bits value
      let base := if letter = 'u' then 10 else if letter = 'o' then 8 else 16
      let digits := digitsIn base value
      let digits := if letter = 'X' then digits.map Char.toUpper else digits
      let sign := if layout.alternate && value ≠ 0 then
          (if letter = 'x' then ['0', 'x'] else if letter = 'X' then ['0', 'X'] else
            if letter = 'o' then ['0'] else [])
        else []
      some (state.put (layout.number sign digits))
    else if ['f', 'F', 'e', 'E', 'g', 'G', 'a', 'A'].contains letter then
      let (value, state) := state.takeFloating manner
      some (state.put (layout.floating manner.precision manner.firstBits letter value))
    else if manner.quoting.contains letter then
      let (argument, state) := state.take
      some (state.put (layout.pad (manner.quote (argument.getD []))))
    else if manner.silent.contains letter then some state.take.2
    else none

/-- Stops at a format that cannot be used. -/
def Printing.refuse (state : Printing) (words : List Char) : Printing :=
  { state.complain words with ended := true, broken := true }

/-- Goes through a format once. -/
def pass (manner : Manner) : Nat → List Char → Printing → Printing
  | 0, _, state => state
  | _, [], state => state
  | fuel + 1, '\\' :: rest, state =>
    match manner.escape rest with
    | none => { state with ended := true }
    | some (text, rest) => pass manner fuel rest (state.put text)
  | fuel + 1, '%' :: '%' :: rest, state => pass manner fuel rest (state.put ['%'])
  | fuel + 1, '%' :: rest, state =>
    let (layout, behind) := flags {} rest
    let (width, state, behind) := measure manner state behind
    let layout := { layout with left := layout.left || width < 0, width := width.natAbs }
    let (layout, state, behind) := match behind with
      | '.' :: more =>
        let (precision, state, more) := measure manner state more
        ({ layout with precision := if precision < 0 then none else some precision.natAbs }, state, more)
      | _ => (layout, state, behind)
    let behind := behind.dropWhile manner.modifiers.contains
    let inside := behind.drop 1 |>.takeWhile (· ≠ ')')
    match behind, behind.drop (inside.length + 2), manner.time with
    | [], _, _ => state.refuse (manner.missing ('%' :: rest))
    | '(' :: _, 'T' :: more, some time =>
      let (argument, state) := state.take
      pass manner fuel more (state.put (layout.pad (time inside argument)))
    | letter :: more, _, _ => match directive manner layout letter state with
      | some state => if state.ended then state else pass manner fuel more state
      | none => state.refuse (manner.useless ('%' :: rest.take (rest.length - more.length)))
  | fuel + 1, c :: rest, state =>
    let run := rest.takeWhile fun c => c ≠ '\\' && c ≠ '%'
    pass manner fuel (rest.drop run.length) (state.put (c :: run))

/-- Goes through a format until no argument is left. -/
def passes (manner : Manner) (format : List Char) : Nat → Printing → Printing
  | 0, state => state
  | fuel + 1, state =>
    let state := pass manner (format.length + 1) format { state with used := false }
    if state.arguments = [] || !state.used || state.ended then state
    else passes manner format fuel state

/-- What a format makes of arguments. -/
def printed (manner : Manner) (format : List Char) (arguments : List (List Char)) : Printing :=
  let state := passes manner format (arguments.length + 1) { arguments }
  { state with printed := state.printed.reverse }

end Workyard.Shell
