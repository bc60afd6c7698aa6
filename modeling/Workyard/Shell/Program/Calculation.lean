/-
**Calculating with arguments.**

* `Calculation.value`: the value of an expression each of whose parts is an argument;
* `expr`: puts out the value of an expression;
* `factor`: puts out the prime factors of numbers.
-/

import Workyard.Shell.Program.Plain
import Workyard.Shell.RegexSyntax

namespace Workyard.Shell.Program

namespace Calculation

/-- The number that a value is, if it is one. -/
def number? (value : Octets) : Option Int :=
  match value with
  | '-' :: digits => if isDigits digits then some (-(valueIn 10 digits)) else none
  | digits => if isDigits digits then some (valueIn 10 digits) else none

/-- The value of a number. -/
def ofInt (number : Int) : Octets :=
  if number < 0 then '-' :: decimal number.natAbs else decimal number.natAbs

/-- The value of a comparison. -/
def ofBool (holds : Bool) : Octets := if holds then ['1'] else ['0']

/-- Whether a value is nothing or zero. -/
def isNothing (value : Octets) : Bool :=
  value = [] || (number? value).any (· = 0)

/-- How a value compares with another: as numbers if both are. -/
def order (left right : Octets) : Ordering :=
  match number? left, number? right with
  | some left, some right => compare left right
  | _, _ => compareOfLessAndEq (String.ofList left) (String.ofList right)

/-- The comparisons by their signs. -/
def comparison? (sign : Octets) : Option (Ordering → Bool) :=
  match String.ofList sign with
  | "<" => some Ordering.isLT
  | "<=" => some Ordering.isLE
  | "=" => some Ordering.isEq
  | "==" => some Ordering.isEq
  | "!=" => some Ordering.isNe
  | ">=" => some Ordering.isGE
  | ">" => some Ordering.isGT
  | _ => none

/-- A calculation with two numbers. -/
def calculated (sign : Char) (left right : Octets) : Except Octets Octets := do
  let (some left, some right) := (number? left, number? right)
    | throw (octets "non-integer argument")
  match sign with
  | '+' => return ofInt (left + right)
  | '-' => return ofInt (left - right)
  | '*' => return ofInt (left * right)
  | _ =>
    if right = 0 then throw (octets "division by zero")
    return ofInt (if sign = '/' then left.tdiv right else left.tmod right)

/-- What an expression matches at the front of a text: the text of its first group, or else the number of
characters. -/
def matched (text expression : Octets) : Except Octets Octets := do
  match Regex.read { extended := false, helps := false, ordered := false } expression with
  | .error fault => throw (octets fault.words)
  | .ok (regex, groups, _) =>
    let matching : Matching := { text := text.toArray }
    match regex.matchAt? matching 0 with
    | none => return if groups = 0 then ['0'] else []
    | some found =>
      return if groups = 0 then decimal found.stop else (found.taken matching.text 1).getD []

/-- The place of the first character of a text that is one of some, from one on; zero if none is. -/
def placeOf (text wanted : Octets) : Nat :=
  match text.findIdx? wanted.contains with
  | some index => index + 1
  | none => 0

/-- A part of a text from a place on. -/
def part (text place size : Octets) : Octets :=
  match number? place, number? size with
  | some place, some size =>
    if place ≤ 0 || size ≤ 0 then [] else (text.drop (place.toNat - 1)).take size.toNat
  | _, _ => []

/-- The arguments that are left, and the one in front of them. -/
structure Place where
  before : Octets := []
  rest : List Octets

/-- Reads and calculates. -/
abbrev Step (α : Type) := StateT Place (Except Octets) α

/-- Takes the next argument. -/
def take : Step Octets := do
  let place ← get
  match place.rest with
  | [] => throw (octets "syntax error: missing argument after " ++ inQuotes place.before)
  | word :: rest =>
    set ({ before := word, rest } : Place)
    return word

/-- Takes the next argument if it is as wanted. -/
def taken? {α : Type} (wanted : Octets → Option α) : Step (Option α) := do
  match (← get).rest with
  | [] => return none
  | word :: rest =>
    match wanted word with
    | none => return none
    | some result =>
      set ({ before := word, rest } : Place)
      return some result

/-- The signs of calculations, by how strongly they bind. -/
def signs (level : Nat) (word : Octets) : Option Char :=
  match level, word with
  | 3, ['+'] => some '+'
  | 3, ['-'] => some '-'
  | 4, ['*'] => some '*'
  | 4, ['/'] => some '/'
  | 4, ['%'] => some '%'
  | _, _ => none

mutual

/-- The value of what binds at least as strongly as a level wants. Where the value is not `wanted`, nothing
can be wrong with it but its form. -/
def level (fuel : Nat) (strength : Nat) (wanted : Bool) : Step Octets := do
  match fuel with
  | 0 => throw []
  | fuel + 1 =>
    if strength ≤ 5 then
      let first ← level fuel (strength + 1) wanted
      more fuel strength wanted first
    else
      match ← taken? fun word => if ["length", "match", "index", "substr"].contains (String.ofList word)
        then some (String.ofList word) else none with
      | some "length" => return decimal (← level fuel 6 wanted).length
      | some "match" =>
        let text ← level fuel 6 wanted
        let expression ← level fuel 6 wanted
        if wanted then matched text expression else return text
      | some "index" =>
        let text ← level fuel 6 wanted
        let others ← level fuel 6 wanted
        return decimal (placeOf text others)
      | some _ =>
        let text ← level fuel 6 wanted
        let place ← level fuel 6 wanted
        let size ← level fuel 6 wanted
        return part text place size
      | none =>
        let word ← take
        if word = ['+'] then take
        else if word = ['('] then
          let value ← level fuel 0 wanted
          let before := (← get).before
          match (← get).rest with
          | [] => throw (octets "syntax error: expecting ')' after " ++ inQuotes before)
          | next :: _ =>
            if next ≠ [')'] then throw (octets "syntax error: expecting ')' instead of " ++ inQuotes next)
            let _ ← take
            return value
        else if word = [')'] then throw (octets "syntax error: unexpected ')'")
        else return word

/-- The value of what follows behind a first value. -/
def more (fuel : Nat) (strength : Nat) (wanted : Bool) (first : Octets) : Step Octets := do
  match fuel with
  | 0 => throw []
  | fuel + 1 =>
    match strength with
    | 0 =>
      match ← taken? fun word => if word = ['|'] then some () else none with
      | none => return first
      | some () =>
        let second ← level fuel 1 (wanted && isNothing first)
        more fuel 0 wanted (if !isNothing first then first else if isNothing second then ['0'] else second)
    | 1 =>
      match ← taken? fun word => if word = ['&'] then some () else none with
      | none => return first
      | some () =>
        let second ← level fuel 2 (wanted && !isNothing first)
        more fuel 1 wanted (if isNothing first || isNothing second then ['0'] else first)
    | 2 =>
      match ← taken? comparison? with
      | none => return first
      | some holds =>
        let second ← level fuel 3 wanted
        more fuel 2 wanted (ofBool (wanted && holds (order first second)))
    | 5 =>
      match ← taken? fun word => if word = [':'] then some () else none with
      | none => return first
      | some () =>
        let second ← level fuel 6 wanted
        more fuel 5 wanted (← if wanted then matched first second else pure first)
    | strength =>
      match ← taken? (signs strength) with
      | none => return first
      | some sign =>
        let second ← level fuel (strength + 1) wanted
        more fuel strength wanted (← if wanted then calculated sign first second else pure first)

end

/-- The value of an expression. -/
def value (words : List Octets) : Except Octets Octets := do
  let (value, place) ← (level (16 * (words.length + 2)) 0 true).run { rest := words }
  match place.rest with
  | [] => return value
  | word :: _ => throw (octets "syntax error: unexpected argument " ++ inQuotes word)

end Calculation

/-- Puts out the value of an expression; fails if it is nothing or zero. -/
def expr (call : Call) : Act Nat := do
  let words := if call.arguments.head? = some ['-', '-'] then call.arguments.drop 1 else call.arguments
  if words = [] then
    let _ ← lacking call
    return 2
  else match Calculation.value words with
    | .error words =>
      let _ ← scold call.name words
      return 2
    | .ok value =>
      put (value ++ ['\n'])
      return if Calculation.isNothing value then 1 else 0

/-! ### Prime factors -/

/-- The prime factors of a number from a divisor on, in ascending order. -/
def factorsFrom : Nat → Nat → Nat → List Nat
  | 0, _, number => if number ≤ 1 then [] else [number]
  | fuel + 1, divisor, number =>
    if number ≤ 1 then []
    else if number < divisor * divisor then [number]
    else if number % divisor = 0 then divisor :: factorsFrom fuel divisor (number / divisor)
    else factorsFrom fuel (if divisor = 2 then 3 else divisor + 2) number

/-- The most divisors that are tried. -/
def maxDivisors : Nat := Nat.pow 2 26

/-- The prime factors of a number, in ascending order. -/
def factors (number : Nat) : List Nat := factorsFrom maxDivisors 2 number

/-- Puts out prime factors. -/
def factor (call : Call) : Act Nat :=
  withOptions [("h", "exponents", .nothing)] false 1 call fun options => do
    let counted : Bool := options.has "h"
    let answer (word : Octets) : Act Bool := do
      let digits := word.dropWhile (· = ' ')
      let digits := if digits.head? = some '+' then digits.drop 1 else digits
      if !isDigits digits then
        write 2 (call.name ++ octets ": " ++ inQuotes word ++ octets " is not a valid positive integer\n")
        return false
      else
        let number := valueIn 10 digits
        let found := factors number
        let texts := if counted then found.eraseDups.map fun factor =>
            decimal factor ++ (let count := found.count factor
              if count = 1 then [] else '^' :: decimal count)
          else found.map decimal
        put (decimal number ++ ':' :: texts.flatMap (' ' :: ·) ++ ['\n'])
        return true
    let mut status := 0
    if options.rest ≠ [] then
      for word in options.rest do
        if !(← answer word) then status := 1
    else
      let (text, _) ← readAll 0
      for word in (text.splitOnP isSpace).filter (· ≠ []) do
        if !(← answer word) then status := 1
    return status

end Workyard.Shell.Program
