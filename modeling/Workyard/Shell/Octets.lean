/-
**Octets and numbers as texts.**

What goes through files and pipes are octets, each kept as the character of the same number, so that
patterns and texts of ASCII are the same for all of them.

* `octets`, `spelled`: from a text to its octets and back;
* `numberOf`: the number that a whole text is;
* `isName`: whether a text can name a variable.
-/

import Workyard.Text.Utf8

namespace Workyard.Shell

/-- Octets, each as the character of the same number. -/
abbrev Octets := List Char

/-- The octets of a text. -/
def octets (text : String) : Octets := (Text.Utf8.encode text).map fun octet => Char.ofNat octet.toNat

/-- The numbers of octets. -/
def numbers (text : Octets) : List UInt8 := text.map fun c => UInt8.ofNat c.toNat

/-- The octets with numbers. -/
def ofNumbers (numbers : List UInt8) : Octets := numbers.map fun octet => Char.ofNat octet.toNat

/-- The text that octets spell. -/
def spelled (text : Octets) : String := String.ofList (Text.Utf8.decodeLossy (numbers text))

/-- The character of an octet. -/
def octetChar (value : Nat) : Char := Char.ofNat (value % 256)

/-- Texts with another one between them. -/
def joinedBy (separator : Octets) (texts : List Octets) : Octets :=
  (texts.intersperse separator).flatten

/-- The pieces of a text that an octet ends, with their ends. -/
def piecesOf (ends : Char) (text : Octets) : List Octets :=
  let (pieces, last) := text.foldr (fun c (state : List Octets × Octets) =>
    if c = ends then (if state.2 = [] then state.1 else state.2 :: state.1, [ends])
    else (state.1, c :: state.2)) ([], [])
  if last = [] then pieces else last :: pieces

/-- The lines of a text, with their ends. -/
def linesOf (text : Octets) : List Octets := piecesOf '\n' text

/-- The lines of a text, without their ends. -/
def bareLinesOf (text : Octets) : List Octets :=
  (linesOf text).map fun line => if line.getLast? = some '\n' then line.dropLast else line

/-- A text of at least so many characters, with blanks in front. -/
def rightIn (width : Nat) (text : Octets) : Octets :=
  List.replicate (width - text.length) ' ' ++ text

/-- A text of at least so many characters, with blanks behind. -/
def leftIn (width : Nat) (text : Octets) : Octets :=
  text ++ List.replicate (width - text.length) ' '

/-- Makes octets again and again, up to a number. -/
def repeated (count : Nat) (text : Octets) : Octets :=
  ((List.replicate (count / max text.length 1 + 1) text).flatten).take count

/-! ### Numbers -/

/-- The number as octets. -/
def decimal (number : Nat) : Octets := (toString number).toList

/-- The value of a digit in a base up to thirty-six. -/
def digitIn (base : Nat) (c : Char) : Option Nat :=
  let value :=
    if '0' ≤ c && c ≤ '9' then c.toNat - '0'.toNat
    else if 'a' ≤ c && c ≤ 'z' then c.toNat - 'a'.toNat + 10
    else if 'A' ≤ c && c ≤ 'Z' then c.toNat - 'A'.toNat + 10
    else base
  if value < base then some value else none

/-- The value of digits in a base. -/
def valueIn (base : Nat) (digits : Octets) : Nat :=
  digits.foldl (fun value c => value * base + (digitIn base c).getD 0) 0

/-- Whether a text is a row of digits. -/
def isDigits (text : Octets) : Bool := text ≠ [] && text.all Char.isDigit

/-- The unsigned number at the front of a text, in base ten, or in another after `0` or `0x`. -/
def numberFront (text : Octets) : Option (Nat × Octets) :=
  let take (base : Nat) (text : Octets) : Nat × Octets :=
    let digits := text.takeWhile fun c => (digitIn base c).isSome
    (valueIn base digits, text.drop digits.length)
  match text with
  | '0' :: x :: c :: rest =>
    if (x = 'x' || x = 'X') && (digitIn 16 c).isSome then some (take 16 (c :: rest))
    else some (take 8 text)
  | '0' :: rest => some (take 8 ('0' :: rest))
  | c :: rest => if c.isDigit then some (take 10 (c :: rest)) else none
  | [] => none

/-- Whether a character separates numbers. -/
def isSpace (c : Char) : Bool := c = ' ' || ('\t' ≤ c && c ≤ '\x0d')

/-- A text without blanks at its ends. -/
def stripped (text : Octets) : Octets :=
  ((text.dropWhile isSpace).reverse.dropWhile isSpace).reverse

/-- The order of two texts by their octets. -/
def byOctets : Octets → Octets → Ordering
  | [], [] => .eq
  | [], _ :: _ => .lt
  | _ :: _, [] => .gt
  | c :: rest, d :: other => match compare c.toNat d.toNat with
    | .eq => byOctets rest other
    | order => order

/-- The number of sixty-four bits that has the same lowest bits. -/
def wrapped (value : Int) : Int := Int.bmod value (Nat.pow 2 64)

/-- The greatest number. -/
def greatest : Int := Int.pow 2 63 - 1

/-- The value of a whole text that may have blanks around it; the empty text counts as zero. -/
def numberOf (text : Octets) : Option Int :=
  let text := text.dropWhile isSpace
  let negative := text.head? = some '-'
  let digits := if negative || text.head? = some '+' then text.drop 1 else text
  match numberFront digits with
  | some (value, rest) =>
    if rest.all isSpace then
      some (if negative then max (-(value : Int)) (-greatest - 1) else min (value : Int) greatest)
    else none
  | none => if text.all isSpace then some 0 else none

/-- The value of a whole text of digits that may have a sign in front. -/
def signed? (text : Octets) : Option Int :=
  match text with
  | '-' :: digits => if isDigits digits then some (-(valueIn 10 digits : Int)) else none
  | '+' :: digits => if isDigits digits then some (valueIn 10 digits) else none
  | digits => if isDigits digits then some (valueIn 10 digits) else none

/-- The count that a text is; blanks around it and a plus sign do not matter. -/
def count? (text : Octets) : Option Nat :=
  let front := text.dropWhile isSpace
  let front := if front.head? = some '+' then front.drop 1 else front
  let digits := front.takeWhile Char.isDigit
  if digits ≠ [] && (front.drop digits.length).all isSpace && valueIn 10 digits < Nat.pow 2 31 then
    some (valueIn 10 digits)
  else none

/-- The value of a whole text of octal digits. -/
def octal? (text : Octets) : Option Nat :=
  if text ≠ [] && text.all (fun c => (digitIn 8 c).isSome) then some (valueIn 8 text) else none

/-! ### Names

A name starts with a letter or a low line and goes on with those and digits. -/

/-- Whether a character can start a name. -/
def isNameStart (c : Char) : Bool :=
  ('a' ≤ c && c ≤ 'z') || ('A' ≤ c && c ≤ 'Z') || c = '_'

/-- Whether a character can go on in a name. -/
def isNameChar (c : Char) : Bool := isNameStart c || ('0' ≤ c && c ≤ '9')

/-- Whether a text is a name. -/
def isName (text : List Char) : Bool :=
  (text.head?.any isNameStart) && text.all isNameChar

end Workyard.Shell
