/-
**Binary numbers with a fraction.**

A number is a mantissa times a power of two, as exact as the precision allows; what lies between two
numbers goes to the nearer one, and from the middle to the even one. Numbers are written in decimal
digits, exactly rounded in the same way.

* `Floating.round`: the number nearest to a quotient;
* `Floating.front`: the number at the front of a text;
* `fixed`, `scientific`, `general`, `hexadecimal`: the ways to write one.
-/

import Workyard.Shell.Octets

namespace Workyard.Shell

/-- A number, or what takes its place. -/
inductive Floating where
  /-- A mantissa times a power of two. -/
  | finite (negative : Bool) (mantissa : Nat) (exponent : Int)
  | infinite (negative : Bool)
  | notNumber (negative : Bool)
deriving DecidableEq, Repr

/-- How exact numbers are. -/
structure Precision where
  /-- The bits of a mantissa. -/
  bits : Nat
  least : Int
  greatest : Int

/-- The usual precision. -/
def Precision.double : Precision := ⟨53, -1074, 971⟩

/-- The precision of those who want more. -/
def Precision.extended : Precision := ⟨64, -16445, 16320⟩

/-- The whole number nearest to a quotient. -/
def nearest (numerator denominator : Nat) : Nat :=
  let quotient := numerator / denominator
  let left := numerator % denominator
  if 2 * left < denominator || (2 * left = denominator && quotient % 2 = 0) then quotient
  else quotient + 1

/-- A quotient over a power of two. -/
def scaled (numerator denominator : Nat) (exponent : Int) : Nat × Nat :=
  (numerator * Nat.pow 2 (-exponent).toNat, denominator * Nat.pow 2 exponent.toNat)

namespace Floating

/-- The number nearest to a quotient. -/
def round (precision : Precision) (negative : Bool) (numerator denominator : Nat) : Floating :=
  if numerator = 0 || denominator = 0 then .finite negative 0 0
  else
    let guess : Int := (numerator.log2 : Int) - denominator.log2 - precision.bits
    let (above, below) := scaled numerator denominator guess
    let exponent := max precision.least (if Nat.pow 2 precision.bits ≤ above / below then guess + 1 else guess)
    let (above, below) := scaled numerator denominator exponent
    let mantissa := nearest above below
    let (mantissa, exponent) := if mantissa = Nat.pow 2 precision.bits then (mantissa / 2, exponent + 1)
      else (mantissa, exponent)
    if precision.greatest < exponent then .infinite negative else .finite negative mantissa exponent

/-- A whole number. -/
def ofInt (precision : Precision) (value : Int) : Floating := round precision (value < 0) value.natAbs 1

/-- Whether a number has a minus sign. -/
def isNegative : Floating → Bool
  | .finite negative _ _ => negative
  | .infinite negative => negative
  | .notNumber negative => negative

/-- The quotient that the size of a number is. -/
def size (mantissa : Nat) (exponent : Int) : Nat × Nat :=
  (mantissa * Nat.pow 2 exponent.toNat, Nat.pow 2 (-exponent).toNat)

/-- The whole part of a number. -/
def whole : Floating → Int
  | .finite negative mantissa exponent =>
    let (above, below) := size mantissa exponent
    if negative then -((above / below : Nat) : Int) else (above / below : Nat)
  | _ => 0

/-- A number with the other sign. -/
def opposite : Floating → Floating
  | .finite negative mantissa exponent => .finite (!negative) mantissa exponent
  | .infinite negative => .infinite (!negative)
  | .notNumber negative => .notNumber (!negative)

/-- The signed numerator of a number over the denominator behind it. -/
def quotient (negative : Bool) (mantissa : Nat) (exponent : Int) : Int × Nat :=
  let (above, below) := size mantissa exponent
  (if negative then -(above : Int) else above, below)

/-- The sum of two numbers. -/
def add (precision : Precision) : Floating → Floating → Floating
  | .finite n m e, .finite n' m' e' =>
    let (above, below) := quotient n m e
    let (above', below') := quotient n' m' e'
    let sum := above * below' + above' * below
    round precision (if sum = 0 then n && n' else sum < 0) sum.natAbs (below * below')
  | .notNumber n, _ => .notNumber n
  | _, .notNumber n => .notNumber n
  | .infinite n, .infinite n' => if n = n' then .infinite n else .notNumber true
  | .infinite n, _ => .infinite n
  | _, .infinite n => .infinite n

/-- The product of two numbers. -/
def multiply (precision : Precision) : Floating → Floating → Floating
  | .finite n m e, .finite n' m' e' =>
    let (above, below) := size m e
    let (above', below') := size m' e'
    round precision (n != n') (above * above') (below * below')
  | .notNumber n, _ => .notNumber n
  | _, .notNumber n => .notNumber n
  | first, second => .infinite (first.isNegative != second.isNegative)

/-- How two numbers compare; none if one of them is no number. -/
def compare? : Floating → Floating → Option Ordering
  | .notNumber _, _ => none
  | _, .notNumber _ => none
  | .infinite n, .infinite n' => some (if n = n' then .eq else if n then .lt else .gt)
  | .infinite n, _ => some (if n then .lt else .gt)
  | _, .infinite n => some (if n then .gt else .lt)
  | .finite n m e, .finite n' m' e' =>
    let (above, below) := quotient n m e
    let (above', below') := quotient n' m' e'
    some (compare (above * below') (above' * below))

/-! ### Reading -/

/-- The digits of a base at the front of a text with a point among them: all digits, those of them that
stand behind the point, and the text behind. -/
def digits (base : Nat) (text : Octets) : Octets × Nat × Octets :=
  let fits (c : Char) : Bool := (digitIn base c).isSome
  let whole := text.takeWhile fits
  match text.drop whole.length with
  | '.' :: rest =>
    let part := rest.takeWhile fits
    if whole = [] && part = [] then ([], 0, text) else (whole ++ part, part.length, rest.drop part.length)
  | rest => (whole, 0, rest)

/-- The power behind a letter, and the text behind it. -/
def power (letters : List Char) (text : Octets) : Int × Octets :=
  match text with
  | c :: rest =>
    if letters.contains c then
      let (negative, digits) := match rest with
        | '-' :: rest => (true, rest)
        | '+' :: rest => (false, rest)
        | rest => (false, rest)
      let number := digits.takeWhile Char.isDigit
      if number = [] then (0, text)
      else
        let value : Int := min (valueIn 10 number) 100000
        (if negative then -value else value, digits.drop number.length)
    else (0, text)
  | [] => (0, [])

/-- The number at the front of a text, and the text behind it. -/
def front (precision : Precision) (text : Octets) : Option (Floating × Octets) :=
  let text := text.dropWhile isSpace
  let (negative, text) := match text with
    | '-' :: rest => (true, rest)
    | '+' :: rest => (false, rest)
    | rest => (false, rest)
  let low := text.map Char.toLower
  if "infinity".toList.isPrefixOf low then some (.infinite negative, text.drop 8)
  else if "inf".toList.isPrefixOf low then some (.infinite negative, text.drop 3)
  else if "nan".toList.isPrefixOf low then some (.notNumber negative, text.drop 3)
  else
    let hexadecimal := if "0x".toList.isPrefixOf low then some (digits 16 (text.drop 2)) else none
    match hexadecimal with
    | some (c :: number, places, rest) =>
      let (shift, rest) := power ['p', 'P'] rest
      let exponent := shift - 4 * places
      let value := valueIn 16 (c :: number)
      some (round precision negative (value * Nat.pow 2 exponent.toNat) (Nat.pow 2 (-exponent).toNat), rest)
    | _ =>
      match digits 10 text with
      | ([], _, _) => none
      | (number, places, rest) =>
        let (shift, rest) := power ['e', 'E'] rest
        let value := valueIn 10 number
        let exponent := if value = 0 then 0 else shift - places
        if 20000 + number.length < exponent.natAbs then
          some (if 0 < exponent then .infinite negative else .finite negative 0 0, rest)
        else
          some (round precision negative (value * Nat.pow 10 exponent.toNat) (Nat.pow 10 (-exponent).toNat), rest)

/-! ### Writing -/

/-- The digits of a number with so many places behind the point. -/
def fixed (places : Nat) (point : Bool) (mantissa : Nat) (exponent : Int) : Octets :=
  let (above, below) := size mantissa exponent
  let all := decimal (nearest (above * Nat.pow 10 places) below)
  let all := List.replicate (places + 1 - all.length) '0' ++ all
  let front := all.take (all.length - places)
  if places = 0 then (if point then front ++ ['.'] else front)
  else front ++ '.' :: all.drop (all.length - places)

/-- The power of ten of the first digit of a number that is not zero. -/
def tens (above below : Nat) : Int :=
  let guess : Int := ((above.log2 : Int) - below.log2) * 30103 / 100000
  let reaches (power : Int) : Bool := below * Nat.pow 10 power.toNat ≤ above * Nat.pow 10 (-power).toNat
  if reaches (guess + 2) then guess + 2
  else if reaches (guess + 1) then guess + 1
  else if reaches guess then guess
  else if reaches (guess - 1) then guess - 1
  else guess - 2

/-- The first digits of a number, and the power of ten of the first. -/
def leading (count : Nat) (mantissa : Nat) (exponent : Int) : Octets × Int :=
  if mantissa = 0 then (List.replicate count '0', 0)
  else
    let (above, below) := size mantissa exponent
    let power := tens above below
    let shift := power - (count - 1 : Int)
    let value := nearest (above * Nat.pow 10 (-shift).toNat) (below * Nat.pow 10 shift.toNat)
    if Nat.pow 10 count ≤ value then (decimal (value / 10), power + 1) else (decimal value, power)

/-- An exponent with a sign and at least two digits. -/
def exponentText (letter : Char) (power : Int) : Octets :=
  let digits := decimal power.natAbs
  letter :: (if power < 0 then '-' else '+') :: List.replicate (2 - digits.length) '0' ++ digits

/-- A number with one digit in front of the point. -/
def scientific (places : Nat) (point : Bool) (mantissa : Nat) (exponent : Int) : Octets :=
  let (digits, power) := leading (places + 1) mantissa exponent
  let front := digits.take 1
  (if places = 0 then (if point then front ++ ['.'] else front) else front ++ '.' :: digits.drop 1) ++
    exponentText 'e' power

/-- Digits without the zeros at the end behind a point. -/
def withoutZeros (text : Octets) : Octets :=
  if text.contains '.' then
    let text := (text.reverse.dropWhile (· = '0')).reverse
    if text.getLast? = some '.' then text.dropLast else text
  else text

/-- A number in the shorter of the two ways, with so many digits. -/
def general (count : Nat) (keepsZeros : Bool) (mantissa : Nat) (exponent : Int) : Octets :=
  let count := max count 1
  let (_, power) := leading count mantissa exponent
  if -4 ≤ power && power < count then
    let text := fixed ((count : Int) - 1 - power).toNat keepsZeros mantissa exponent
    if keepsZeros then text else withoutZeros text
  else
    let text := scientific (count - 1) keepsZeros mantissa exponent
    let digits := text.takeWhile (· ≠ 'e')
    (if keepsZeros then digits else withoutZeros digits) ++ text.drop digits.length

/-- The hexadecimal digits of a number. -/
def hexDigits (value : Nat) : Octets := Nat.toDigits 16 value

/-- A number in hexadecimal digits; the first has so many bits. -/
def hexadecimal (precision : Precision) (firstBits : Nat) (places : Option Nat) (mantissa : Nat)
    (exponent : Int) : Octets :=
  if mantissa = 0 then
    octets "0x0" ++ (match places with
      | some (count + 1) => '.' :: List.replicate (count + 1) '0'
      | _ => []) ++ octets "p+0"
  else
    let shift := precision.bits - (mantissa.log2 + 1)
    let mantissa := mantissa * Nat.pow 2 shift
    let exponent := exponent - shift
    let behind := (precision.bits - firstBits) / 4
    let (mantissa, behind) := match places with
      | some count => if count < behind then (nearest mantissa (Nat.pow 16 (behind - count)), count)
        else (mantissa * Nat.pow 16 (count - behind), count)
      | none => (mantissa, behind)
    let power := exponent + (precision.bits - firstBits)
    let digits := hexDigits mantissa
    let digits := List.replicate (behind + 1 - digits.length) '0' ++ digits
    let front := digits.take (digits.length - behind)
    let rest := digits.drop front.length
    let rest := if places.isSome then rest else (rest.reverse.dropWhile (· = '0')).reverse
    octets "0x" ++ front ++ (if rest = [] then [] else '.' :: rest) ++ 'p' ::
      (if power < 0 then '-' else '+') :: decimal power.natAbs

end Floating

end Workyard.Shell
