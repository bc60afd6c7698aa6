/-
**Numbers in equal steps.**

Numbers are put out with as many places behind the point as the first number and the step were given with.

* `seq`: the program.
-/

import Workyard.Shell.Program.Plain

namespace Workyard.Shell.Program

/-- A number as it was given. -/
structure Bound where
  value : Floating
  /-- How wide it is written out. -/
  width : Int
  /-- Its places behind the point, if they are known. -/
  places : Option Nat

/-- The number that an argument spells, with how it was given. -/
def bound? (argument : Octets) : Option Bound :=
  match Floating.front .extended argument with
  | some (value, []) =>
    let text := argument.dropWhile fun c => isSpace c || c = '+'
    let hasPoint : Bool := text.contains '.'
    let isFinite : Bool := match value with
      | .finite .. => true
      | _ => false
    let places : Option Nat := if !hasPoint && !text.contains 'p' then some 0 else none
    if !isFinite || text.any (fun c => c = 'x' || c = 'X') then some { value, width := 0, places }
    else
      let front := text.takeWhile (· ≠ '.')
      let fraction := ((text.drop (front.length + 1)).takeWhile fun c => c ≠ 'e' && c ≠ 'E').length
      let places := if hasPoint then some fraction else places
      let width : Int := text.length + (if !hasPoint then 0 else if fraction = 0 then -1 else
        if (front.getLast?.any Char.isDigit) then 0 else 1)
      let number := text.takeWhile fun c => c ≠ 'e' && c ≠ 'E'
      if number.length = text.length then some { value, width, places }
      else
        let exponent := (numberOf (text.drop (number.length + 1))).getD 0
        let known := places.getD 0
        let shifted := if exponent < 0 then known + exponent.natAbs else known - min known exponent.toNat
        let width := width - (text.length - number.length)
        let width := if exponent < 0 then
            (if hasPoint then (if number.getLast? = some '.' then width + 1 else width) else width + 1) +
              exponent.natAbs
          else
            (if hasPoint && shifted = 0 && fraction ≠ 0 then width - 1 else width) +
              (exponent - min (fraction : Int) exponent)
        some { value, width, places := some shifted }
  | _ => none

/-- How numbers are put out: what stands in front of each and behind it. -/
structure NumberForm where
  front : Octets := []
  layout : Layout
  letter : Char := 'f'
  behind : Octets := []

/-- A number as it is put out, without what stands around it. -/
def NumberForm.digits (form : NumberForm) (value : Floating) : Octets :=
  form.layout.floating .extended 4 form.letter value

/-- A number as it is put out. -/
def NumberForm.text (form : NumberForm) (value : Floating) : Octets :=
  form.front ++ form.digits value ++ form.behind

/-- The text at the front of a format up to a directive, and what comes behind that text. -/
def plainFront : Octets → Octets → Octets × Octets
  | '%' :: '%' :: rest, read => plainFront rest ('%' :: read)
  | '%' :: rest, read => (read.reverse, '%' :: rest)
  | c :: rest, read => plainFront rest (c :: read)
  | [], read => (read.reverse, [])

/-- The form that a format asks for. -/
def NumberForm.ofFormat (format : Octets) : Except Octets NumberForm := do
  let name := octets "format " ++ inQuotes format
  match plainFront format [] with
  | (front, '%' :: rest) =>
    let rest := rest.filter fun c => c ≠ '\''
    let (layout, rest) := Shell.flags {} rest
    let width := rest.takeWhile Char.isDigit
    let layout := { layout with width := valueIn 10 width }
    let (layout, rest) := match rest.drop width.length with
      | '.' :: rest =>
        let digits := rest.takeWhile Char.isDigit
        ({ layout with precision := some (valueIn 10 digits) }, rest.drop digits.length)
      | rest => (layout, rest)
    match if rest.head? = some 'L' then rest.drop 1 else rest with
    | [] => throw (name ++ octets " ends in %")
    | letter :: rest =>
      if !"efgaEFGA".toList.contains letter then
        throw (name ++ octets " has unknown %" ++ [letter] ++ octets " directive")
      match plainFront rest [] with
      | (behind, []) => return { front, layout, letter, behind }
      | _ => throw (name ++ octets " has too many % directives")
  | _ => throw (name ++ octets " has no % directive")

/-- The form of numbers from how the first, the step and the last were given. -/
def NumberForm.usual (sameWidth : Bool) (first step last : Bound) : NumberForm :=
  match first.places, step.places, last.places with
  | some one, some other, some lastPlaces =>
    let places := max one other
    let pointed (width : Int) (given : Nat) : Int :=
      width + (places - given : Int) + (if given = 0 && places ≠ 0 then 1 else 0) -
        (if given ≠ 0 && places = 0 then 1 else 0)
    let width := if sameWidth then max (pointed first.width one) (pointed last.width lastPlaces) else 0
    { layout := { zero := sameWidth, width := width.toNat, precision := some places } }
  | _, _, _ => { layout := {}, letter := 'g' }

/-- Whether a number lies beyond the last one. -/
def isBeyond (down : Bool) (value last : Floating) : Bool :=
  Floating.compare? value last = some (if down then .lt else .gt)

/-- The microseconds that a number takes. -/
def numberTime : Nat := 1

/-- Puts out one number after another, with a text in front of each but the first. -/
def numbersFrom (form : NumberForm) (separator : Octets) (first step last : Floating) :
    Nat → Nat → Floating → Act Unit
  | 0, _, _ => pure ()
  | fuel + 1, count, value => do
    put (form.text value)
    if count % 256 = 0 then spend (256 * numberTime)
    let next := Floating.add .extended first
      (Floating.multiply .extended (Floating.ofInt .extended (count + 1)) step)
    if !isBeyond step.isNegative next last then
      put separator
      numbersFrom form separator first step last fuel (count + 1) next
    else
      -- A number that is beyond the last one only for being rounded is written like the last one.
      let written := form.digits next
      let isLast : Bool := match Floating.front .extended written with
        | some (read, []) => Floating.compare? read last = some .eq
        | _ => false
      if isLast && written ≠ form.digits value then put (separator ++ form.text next)

/-- Puts out one whole number after another. -/
def wholeNumbers (separator : Octets) (step last : Nat) : Nat → Nat → Act Unit
  | 0, _ => pure ()
  | fuel + 1, value => do
    put (decimal value)
    if value % 256 = 0 then spend (256 * numberTime)
    if value + step ≤ last then
      put separator
      wholeNumbers separator step last fuel (value + step)

/-- The greatest step of numbers that are counted without a fraction. -/
def maxWholeStep : Nat := 200

/-- The arguments in front of the first number below zero, which is no option, and the others. -/
def beforeNumbers (arguments : List Octets) : List Octets :=
  match arguments with
  | ['-', '-'] :: rest => ['-', '-'] :: rest
  | ('-' :: c :: word) :: rest =>
    if c = '.' || c.isDigit then ['-', '-'] :: ('-' :: c :: word) :: rest
    else if (c = 's' || c = 'f') && word = [] then match rest with
      | value :: rest => ('-' :: c :: word) :: value :: beforeNumbers rest
      | [] => [['-', c]]
    else ('-' :: c :: word) :: beforeNumbers rest
  | rest => rest

/-- Puts out numbers in equal steps. -/
def seq (call : Call) : Act Nat :=
  let known : List Choice := [("f", "format", .value), ("s", "separator", .value),
    ("w", "equal-width", .nothing)]
  withOptions known false 1 { call with arguments := beforeNumbers call.arguments } fun options => do
    let separator := (options.last? "s").getD ['\n']
    let sameWidth : Bool := options.has "w"
    let one := ['1']
    let given : List Octets := match options.rest with
      | [last] => [one, one, last]
      | [first, last] => [first, one, last]
      | words => words
    let named := ["nan", "-nan", "+nan"]
    match given with
    | [] => lacking call
    | _ :: _ :: _ :: argument :: _ => extra call argument
    | words =>
      match (options.last? "f").map NumberForm.ofFormat with
      | some (.error words) => scold call.name words
      | format =>
        if sameWidth && format.isSome then
          misused call.name (octets "format string may not be specified when printing equal width strings")
        else
          let counts : Bool := words.all isDigits && valueIn 10 (words.getD 1 []) ≤ maxWholeStep &&
            0 < valueIn 10 (words.getD 1 []) && !sameWidth && format.isNone && separator.length = 1
          if counts then
            match words.map (valueIn 10) with
            | [first, step, last] =>
              if first ≤ last then
                wholeNumbers separator step last (last - first + 1) first
                put ['\n']
            | _ => pure ()
            return 0
          else
            match words.find? fun word => (bound? word).isNone with
            | some word => misused call.name (octets "invalid floating point argument: " ++ inQuotes word)
            | none =>
              match words.find? fun word => named.contains (spelled word).toLower with
              | some word =>
                misused call.name (octets "invalid 'not-a-number' argument: " ++ inQuotes word)
              | none =>
                match words.filterMap bound? with
                | [first, step, last] =>
                  if Floating.compare? step.value (.finite false 0 0) = some .eq then
                    misused call.name (octets "invalid Zero increment value: " ++
                      inQuotes (words.getD 1 []))
                  else
                    let form := match format with
                      | some (.ok form) => form
                      | _ => NumberForm.usual sameWidth first step last
                    if !isBeyond step.value.isNegative first.value last.value then
                      numbersFrom form separator first.value step.value last.value (Nat.pow 2 40) 0 first.value
                      put ['\n']
                    return 0
                | _ => return 0

end Workyard.Shell.Program
