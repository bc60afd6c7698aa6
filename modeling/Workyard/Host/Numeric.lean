/-
**Hosts that are numbers.**

A host may be an address instead of a name: four octets with dots between them, or eight groups of
hexadecimal digits with colons between them, of which one run of zeros may be left out and the last two
may be written as four octets.

* `fourOctets?`: an address written in full;
* `eightGroups?`: an address of eight groups;
* `loose?`: an address of up to four numbers in any base, as it is taken in place of a name.
-/

import Workyard.Text.Hex
import Workyard.Text.Numeral
import Workyard.Text.Split

namespace Workyard.Host

/-- The value of digits in a base. -/
def readBase (base : Nat) (digits : List Char) : Option Nat :=
  digits.foldl (fun value c => do
    let digit ← Text.hexDigit? c
    if digit < base then some ((← value) * base + digit) else none) (some 0)

/-- A decimal number of one octet, without zeros in front. -/
def octet? (digits : List Char) : Option Nat :=
  if digits.isEmpty || 3 < digits.length || (digits.head? = some '0' && 1 < digits.length) then none
  else (readBase 10 digits).filter (· < 256)

/-- The octets of an address that is written in full. -/
def fourOctets? (text : List Char) : Option (List Nat) := do
  let octets ← (Text.split '.' text).mapM octet?
  if octets.length = 4 then some octets else none

/-- The number of one to four hexadecimal digits. -/
def group? (digits : List Char) : Option Nat :=
  if digits.isEmpty || 4 < digits.length then none else readBase 16 digits

/-- Two groups of four octets. -/
def groupsOfOctets : List Nat → List Nat
  | high :: low :: rest => (high * 256 + low) :: groupsOfOctets rest
  | rest => rest

/-- The groups between colons; the last two may be written as four octets. -/
def groups? : List (List Char) → Option (List Nat)
  | [] => some []
  | [last] => match group? last with
    | some group => some [group]
    | none => (fourOctets? last).map groupsOfOctets
  | group :: rest => do return (← group? group) :: (← groups? rest)

/-- The groups of a text, which may be empty. -/
def groupsIn? (text : List Char) : Option (List Nat) :=
  if text.isEmpty then some [] else groups? (Text.split ':' text)

/-- Cuts a text at its first two colons in a row. -/
def cutAtGap : List Char → Option (List Char × List Char)
  | ':' :: ':' :: rest => some ([], rest)
  | c :: rest => (cutAtGap rest).map fun (before, behind) => (c :: before, behind)
  | [] => none

/-- The groups of an address of eight groups. -/
def eightGroups? (text : List Char) : Option (List Nat) :=
  match cutAtGap text with
  | none => (groupsIn? text).filter (·.length = 8)
  | some (before, behind) => do
    let first ← groupsIn? before
    let second ← groupsIn? behind
    if before.contains '.' || 7 < first.length + second.length then none
    else some (first ++ List.replicate (8 - first.length - second.length) 0 ++ second)

/-- The digits of a number and their base: hexadecimal behind `0x`, octal behind another zero. -/
def basedDigits : List Char → Nat × List Char
  | '0' :: 'x' :: digits => (16, digits)
  | '0' :: 'X' :: digits => (16, digits)
  | '0' :: digit :: digits => (8, digit :: digits)
  | digits => (10, digits)

/-- The octets of a number, the most significant first. -/
def octetsOf (count number : Nat) : List Nat :=
  (List.range count).map fun place => number / Nat.pow 256 (count - 1 - place) % 256

/-- The octets of numbers: all but the last are one octet each, the last fills those left. -/
def packed? (numbers : List Nat) : Option (List Nat) := do
  let last ← numbers.getLast?
  let before := numbers.dropLast
  if 4 < numbers.length || before.any (255 < ·) || Nat.pow 256 (4 - before.length) ≤ last then none
  else some (before ++ octetsOf (4 - before.length) last)

/-- The octets of up to four numbers with digits in any base. -/
def loose? (text : List Char) : Option (List Nat) := do
  let numbers ← (Text.split '.' text).mapM fun part =>
    let (base, digits) := basedDigits part
    if digits.isEmpty then none else readBase base digits
  packed? numbers

end Workyard.Host
