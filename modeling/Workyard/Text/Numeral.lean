/-
**Decimal numerals.**

A number can be written in a fixed number of places. A numeral is read with a bound: an unsigned one
is one optional plus sign and at least one ASCII digit, and its value is at most the bound. The
characters are looked at from left to right and the first that spoils the numeral decides the fault, so
a numeral that is too large before a foreign character is too large.
-/

namespace Workyard.Text

/-- Why a text is no numeral of the wanted size. -/
inductive NumeralFault where
  | empty
  | invalidDigit
  | tooLarge
  | tooSmall
deriving DecidableEq, Repr

/-- The words for a fault. -/
def NumeralFault.message : NumeralFault → String
  | .empty => "cannot parse integer from empty string"
  | .invalidDigit => "invalid digit found in string"
  | .tooLarge => "number too large to fit in target type"
  | .tooSmall => "number too small to fit in target type"

/-- The value of an ASCII digit. -/
def digit? (c : Char) : Option Nat :=
  if '0' ≤ c && c ≤ '9' then some (c.toNat - '0'.toNat) else none

/-- Reads digits on from `value`, which stays at most `bound`. -/
def readDigits (bound value : Nat) : List Char → Except NumeralFault Nat
  | [] => .ok value
  | c :: rest => match digit? c with
    | none => .error .invalidDigit
    | some digit =>
      let next := value * 10 + digit
      if bound < next then .error .tooLarge else readDigits bound next rest

/-- The value of an unsigned numeral. -/
def parseUnsigned (bound : Nat) (text : List Char) : Except NumeralFault Nat :=
  match text with
  | [] => .error .empty
  | ['+'] => .error .invalidDigit
  | ['-'] => .error .invalidDigit
  | '+' :: digits => readDigits bound 0 digits
  | digits => readDigits bound 0 digits

/-- The value of a numeral that may have a minus sign, of magnitude at most `bound`, or one more
below zero. -/
def parseSigned (bound : Nat) (text : List Char) : Except NumeralFault Int :=
  match text with
  | ['-'] => .error .invalidDigit
  | '-' :: digits => match readDigits (bound + 1) 0 digits with
    | .ok value => .ok (-(value : Int))
    | .error .tooLarge => .error .tooSmall
    | .error fault => .error fault
  | other => (parseUnsigned bound other).map Int.ofNat

/-- The decimal digits of a number, with zeros in front up to `places` digits. -/
def padded (places value : Nat) : String :=
  let digits := (toString value).toList
  String.ofList (List.replicate (places - digits.length) '0' ++ digits)

/-- The greatest number of sixteen bits. -/
def maxU16 : Nat := Nat.pow 2 16 - 1

/-- The greatest number of sixty-four bits. -/
def maxU64 : Nat := Nat.pow 2 64 - 1

/-- The greatest signed number of sixty-four bits. -/
def maxI64 : Nat := Nat.pow 2 63 - 1

end Workyard.Text
