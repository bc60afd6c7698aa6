/-
**Scanning JSON from left to right.**

A scanner moves a cursor over the text and stops at the first fault. Strings, numbers and the words
`null`, `true` and `false` are read here, and whole values are stepped over without being kept;
reading into values or records builds on it.

* `string`: the characters of a string, escapes resolved;
* `number`: an integer if the numeral is one, else a number with a fraction or an exponent;
* `skipValue`: steps over one value of any depth. It is laxer than reading: escapes are not paired
  and the size of numbers does not matter.
-/

import Workyard.Json.Fault
import Workyard.Text.Hex
import Workyard.Text.Utf8
import Workyard.Text.Numeral

namespace Workyard.Json

/-- A place in a text: what is left, the line, and the octets read on the line. -/
structure Cursor where
  rest : List Char
  line : Nat
  column : Nat

/-- The start of a text. -/
def Cursor.ofText (text : String) : Cursor := ⟨text.toList, 1, 0⟩

/-- The place after one more character. -/
def Cursor.next (cursor : Cursor) : Cursor :=
  match cursor.rest with
  | [] => cursor
  | '\n' :: rest => ⟨rest, cursor.line + 1, 0⟩
  | c :: rest => ⟨rest, cursor.line, cursor.column + c.utf8Size⟩

/-- The line and column after `octets` more octets, which may end inside a character. -/
def placeAfter (octets line column : Nat) : List Char → Nat × Nat
  | [] => (line, column)
  | c :: rest =>
    if octets = 0 then (line, column)
    else if c = '\n' then placeAfter (octets - 1) (line + 1) 0 rest
    else if octets < c.utf8Size then (line, column + octets)
    else placeAfter (octets - c.utf8Size) line (column + c.utf8Size) rest

/-- The blank characters of JSON. -/
def isBlank (c : Char) : Bool := c = ' ' || c = '\n' || c = '\t' || c = '\r'

/-- Steps over blanks. -/
def skipBlanksFrom (line column : Nat) : List Char → Cursor
  | [] => ⟨[], line, column⟩
  | c :: rest =>
    if isBlank c then
      if c = '\n' then skipBlanksFrom (line + 1) 0 rest else skipBlanksFrom line (column + 1) rest
    else ⟨c :: rest, line, column⟩

/-- A scanner reads on from a cursor or stops at a fault. -/
abbrev Scan := StateT Cursor (Except Fault)

namespace Scan

/-- The next character. -/
def peek : Scan (Option Char) := do return (← get).rest.head?

/-- Steps over one character. -/
def advance : Scan Unit := modify Cursor.next

/-- A fault at the cursor. -/
def failHere {α : Type} (kind : FaultKind) : Scan α := do
  let cursor ← get
  throw ⟨kind, cursor.line, cursor.column⟩

/-- A fault at the next octet. -/
def failAhead {α : Type} (kind : FaultKind) : Scan α := do
  let cursor ← get
  let place := placeAfter 1 cursor.line cursor.column cursor.rest
  throw ⟨kind, place.1, place.2⟩

/-- Steps over blanks and looks at the next character. -/
def peekToken : Scan (Option Char) := do
  modify fun cursor => skipBlanksFrom cursor.line cursor.column cursor.rest
  peek

/-- Steps over blanks to a character, which must be there. -/
def needToken (missing : FaultKind) : Scan Char := do
  match ← peekToken with
  | some c => return c
  | none => failHere missing

/-- Reads the rest of a word. -/
def word : List Char → Scan Unit
  | [] => return
  | c :: rest => do
    match ← peek with
    | none => failHere .endInValue
    | some d => if c = d then do advance; word rest else failAhead .expectedWord

/-- Whether the next character is an ASCII digit, and which. -/
def peekDigit : Scan (Option Nat) := do return (← peek).bind Text.digit?

/-- More recursion than a loop over the rest of the text can need. -/
def fuel : Scan Nat := do return (← get).rest.length + 1

/-! ### Strings -/

/-- The number of exactly four hexadecimal digits. -/
def hexNumber? : List Char → Option Nat
  | [a, b, c, d] => do
    return (((← Text.hexDigit? a) * 16 + (← Text.hexDigit? b)) * 16 + (← Text.hexDigit? c)) * 16 + (← Text.hexDigit? d)
  | _ => none

/-- Reads the four hexadecimal digits of an escape; the text must have four more octets. -/
def hexEscape : Scan Nat := do
  let cursor ← get
  let digits := cursor.rest.take 4
  if Text.Utf8.size digits < 4 then
    let place := placeAfter 4 cursor.line cursor.column cursor.rest
    throw ⟨.endInString, place.1, place.2⟩
  match hexNumber? digits with
  | some value =>
    advance; advance; advance; advance
    return value
  | none =>
    let place := placeAfter 4 cursor.line cursor.column cursor.rest
    throw ⟨.invalidEscape, place.1, place.2⟩

/-- Steps over one character of a string, which must be `wanted`. -/
def pairMark (wanted : Char) : Scan Unit := do
  match ← peek with
  | none => failHere .endInString
  | some c => if c = wanted then advance else failAhead .brokenSurrogatePair

/-- The character that an escape of code units stands for: one unit, or a pair of surrogates. -/
def unicodeEscape : Scan Char := do
  let first ← hexEscape
  if 0xdc00 ≤ first && first ≤ 0xdfff then failHere .loneSurrogate
  if first < 0xd800 || 0xdbff < first then return Char.ofNat first
  pairMark '\\'
  pairMark 'u'
  let second ← hexEscape
  if second < 0xdc00 || 0xdfff < second then failHere .loneSurrogate
  return Char.ofNat ((first - 0xd800) * 1024 + (second - 0xdc00) + 0x10000)

/-- The character of an escape, the backslash being read; `lax` escapes are not paired. -/
def escape (lax : Bool) : Scan Char := do
  match ← peek with
  | none => failHere .endInString
  | some '"' => advance; return '"'
  | some '\\' => advance; return '\\'
  | some '/' => advance; return '/'
  | some 'b' => advance; return '\x08'
  | some 'f' => advance; return '\x0c'
  | some 'n' => advance; return '\n'
  | some 'r' => advance; return '\r'
  | some 't' => advance; return '\t'
  | some 'u' =>
    advance
    if lax then
      let _ ← hexEscape
      return 'u'
    else unicodeEscape
  | some _ => failAhead .invalidEscape

/-- Reads the characters of a string up to its closing quote; `read` holds those before, in
reverse. -/
def stringBody (lax : Bool) : Nat → List Char → Scan (List Char)
  | 0, _ => failHere .endInString
  | fuel + 1, read => do
    match ← peek with
    | none => failHere .endInString
    | some '"' => advance; return read.reverse
    | some '\\' =>
      advance
      let c ← escape lax
      stringBody lax fuel (c :: read)
    | some c =>
      if c.toNat < 0x20 then failAhead .controlCharacter
      else
        advance
        stringBody lax fuel (c :: read)

/-- Reads a string whose opening quote has been read. -/
def string : Scan String := do return String.ofList (← stringBody false (← fuel) [])

/-! ### Numbers -/

/-- A number: an integer, or one written with a fraction or exponent or too large for an integer
of 64 bits. -/
inductive Number where
  | whole (value : Int)
  | real
deriving DecidableEq, Repr

/-- The number rounded to 53 significant bits, a half to the even neighbour. -/
def roundToDouble (value : Nat) : Nat :=
  if value < Nat.pow 2 53 then value
  else
    let unit := Nat.pow 2 (value.log2 - 52)
    let below := value / unit
    let rest := value % unit
    let up := unit < 2 * rest || (2 * rest == unit && below % 2 == 1)
    (if up then below + 1 else below) * unit

/-- Whether `digits · 10 ^ exponent` is beyond the greatest double. -/
def beyondDouble (digits : Nat) (exponent : Int) : Bool :=
  if digits = 0 then false
  else if exponent < 0 then false
  else if 308 < exponent then true
  else Nat.pow 2 1024 - Nat.pow 2 970 ≤ roundToDouble digits * roundToDouble (Nat.pow 10 exponent.toNat)

/-- A number with a fraction or exponent, which must not be beyond the greatest double. -/
def real (digits : Nat) (exponent : Int) : Scan Number :=
  if beyondDouble digits exponent then failHere .numberOutOfRange else return .real

/-- Steps over digits. -/
def skipDigits : Nat → Scan Unit
  | 0 => return
  | fuel + 1 => do
    match ← peekDigit with
    | some _ => do advance; skipDigits fuel
    | none => return

/-- Reads on the digits of an exponent; one beyond 31 bits stops there. -/
def exponentDigits : Nat → Nat → Scan (Option Nat)
  | 0, value => return some value
  | fuel + 1, value => do
    match ← peekDigit with
    | some digit =>
      advance
      if Nat.pow 2 31 - 1 < value * 10 + digit then return none
      else exponentDigits fuel (value * 10 + digit)
    | none => return some value

/-- Reads the sign of an exponent; true is plus. -/
def exponentSign : Scan Bool := do
  match ← peek with
  | some '+' => advance; return true
  | some '-' => advance; return false
  | _ => return true

/-- Reads an exponent, the digits before it being worth `digits · 10 ^ scale`. -/
def exponent (digits : Nat) (scale : Int) : Scan Number := do
  advance
  let plus ← exponentSign
  match ← peek with
  | none => failHere .endInValue
  | some c => match Text.digit? c with
    | none => failAhead .invalidNumber
    | some first =>
      advance
      match ← exponentDigits (← fuel) first with
      | some value => real digits (if plus then scale + value else scale - value)
      | none =>
        if digits ≠ 0 && plus then failHere .numberOutOfRange
        else
          skipDigits (← fuel)
          return .real

/-- Reads fraction digits, as many as 64 bits hold; gives the digits, the scale and whether there
was one. -/
def fractionDigits : Nat → Nat → Int → Bool → Scan (Nat × Int × Bool)
  | 0, digits, scale, any => return (digits, scale, any)
  | fuel + 1, digits, scale, any => do
    match ← peekDigit with
    | some digit =>
      if Text.maxU64 < digits * 10 + digit then
        skipDigits (fuel + 1)
        return (digits, scale, true)
      else
        advance
        fractionDigits fuel (digits * 10 + digit) (scale - 1) true
    | none => return (digits, scale, any)

/-- Reads what follows the digits of a number with a fraction. -/
def afterFraction (digits : Nat) (scale : Int) : Scan Number := do
  match ← peek with
  | some 'e' | some 'E' => exponent digits scale
  | _ => real digits scale

/-- Reads a fraction. -/
def fraction (digits : Nat) (scale : Int) : Scan Number := do
  advance
  let (digits, scale, any) ← fractionDigits (← fuel) digits scale false
  if any then afterFraction digits scale
  else match ← peek with
    | some _ => failAhead .invalidNumber
    | none => failHere .endInValue

/-- Reads integer digits, as many as 64 bits hold; gives them and the number of further digits. -/
def integerDigits : Nat → Nat → Nat → Scan (Nat × Nat)
  | 0, digits, more => return (digits, more)
  | fuel + 1, digits, more => do
    match ← peekDigit with
    | some digit =>
      advance
      if more = 0 && digits * 10 + digit ≤ Text.maxU64 then
        integerDigits fuel (digits * 10 + digit) 0
      else integerDigits fuel digits (more + 1)
    | none => return (digits, more)

/-- The number of integer digits without fraction or exponent. -/
def integer (positive : Bool) (digits : Nat) : Number :=
  if positive then .whole digits
  else if digits = 0 || Nat.pow 2 63 < digits then .real
  else .whole (-(digits : Int))

/-- Reads a number whose minus sign, if any, has been read. -/
def number (positive : Bool) : Scan Number := do
  match ← peek with
  | none => failHere .endInValue
  | some c => match Text.digit? c with
    | none => failAhead .invalidNumber
    | some first =>
      advance
      let (digits, more) ←
        if first = 0 then do
          match ← peekDigit with
          | some _ => failAhead .invalidNumber
          | none => pure (0, 0)
        else integerDigits (← fuel) first 0
      match ← peek with
      | some '.' => fraction digits more
      | some 'e' | some 'E' => exponent digits more
      | _ => if more = 0 then return integer positive digits else real digits more

/-! ### Stepping over values -/

/-- Steps over an exponent. -/
def skipExponent : Scan Unit := do
  advance
  let _ ← exponentSign
  match ← peekDigit with
  | some _ => skipDigits (← fuel)
  | none => failAhead .invalidNumber

/-- Steps over what follows the integer digits. -/
def skipFraction : Scan Unit := do
  match ← peek with
  | some '.' =>
    advance
    match ← peekDigit with
    | none => failAhead .invalidNumber
    | some _ =>
      skipDigits (← fuel)
      match ← peek with
      | some 'e' | some 'E' => skipExponent
      | _ => return
  | some 'e' | some 'E' => skipExponent
  | _ => return

/-- Steps over a number whose minus sign, if any, has been read. -/
def skipNumber : Scan Unit := do
  match ← peekDigit with
  | none => failAhead .invalidNumber
  | some first =>
    advance
    if first = 0 then
      if (← peekDigit).isSome then failAhead .invalidNumber
    else skipDigits (← fuel)
    skipFraction

/-- Steps over a string whose opening quote has been read. -/
def skipString : Scan Unit := do
  let _ ← stringBody true (← fuel) []

/-- What encloses the value being stepped over: a list or an object. -/
inductive Frame where
  | list
  | object
deriving DecidableEq, Repr

/-- Steps over one value, or only the opening of a list or object. -/
def skipOpening : Scan (Option Frame) := do
  match ← needToken .endInValue with
  | 'n' => advance; word ['u', 'l', 'l']; return none
  | 't' => advance; word ['r', 'u', 'e']; return none
  | 'f' => advance; word ['a', 'l', 's', 'e']; return none
  | '-' => advance; skipNumber; return none
  | '"' => advance; skipString; return none
  | '[' => advance; return some .list
  | '\x7b' => advance; return some .object
  | c =>
    if (Text.digit? c).isSome then do skipNumber; return none
    else failAhead .expectedValue

/-- Closes what is complete, `comma` saying whether a comma may follow; gives the enclosures in
which one more value follows. -/
def skipClosings : Nat → Bool → List Frame → Scan (List Frame)
  | 0, _, _ => return []
  | _, _, [] => return []
  | fuel + 1, comma, frame :: outer => do
    match frame, ← peekToken with
    | .list, none => failHere .endInList
    | .object, none => failHere .endInObject
    | .list, some ']' => do advance; skipClosings fuel true outer
    | .object, some '\x7d' => do advance; skipClosings fuel true outer
    | frame, some c =>
      if !comma then return frame :: outer
      else if c = ',' then do advance; return frame :: outer
      else failAhead (if frame = .list then .expectedListEnd else .expectedObjectEnd)

/-- Steps over a colon. -/
def colon : Scan Unit := do
  match ← needToken .endInObject with
  | ':' => advance
  | _ => failAhead .expectedColon

/-- Steps over the key of an object and the colon after it. -/
def skipKey : Scan Unit := do
  match ← needToken .endInObject with
  | '"' => advance; skipString; colon
  | _ => failAhead .keyNotString

/-- Steps over a value inside `frames`. -/
def skipWithin : Nat → List Frame → Scan Unit
  | 0, _ => return
  | fuel + 1, frames => do
    let opened ← skipOpening
    let frames ← match opened with
      | some frame => skipClosings fuel false (frame :: frames)
      | none => skipClosings fuel true frames
    match frames with
    | [] => return
    | frame :: _ =>
      if frame = .object then skipKey
      skipWithin fuel frames

/-- Steps over one value. -/
def skipValue : Scan Unit := do skipWithin ((← fuel) + 1) []

/-- Nothing but blanks may be left. -/
def finish : Scan Unit := do
  match ← peekToken with
  | none => return
  | some _ => failAhead .trailingCharacters

end Scan

/-- Scans a whole text. -/
def scanText {α : Type} (scan : Scan α) (text : String) : Except Fault α :=
  (do let value ← scan; Scan.finish; return value : Scan α).run' (Cursor.ofText text)

end Workyard.Json
