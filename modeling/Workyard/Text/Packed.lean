/-
**Sets of characters in a packed form.**

A large set of characters is written as text: ranges in ascending order between blanks, each a number
in hexadecimal digits or two of them around a minus sign. The ranges are found by halving.

* `Ranges.ofText`: the ranges that a text lists;
* `Sorted.find?`: the entry in whose range a number lies.
-/

import Workyard.Text.Hex

namespace Workyard.Text

/-- The value of hexadecimal digits; what is not a digit counts nothing. -/
def hexValue (digits : List Char) : Nat :=
  digits.foldl (fun value c => value * 16 + (hexDigit? c).getD 0) 0

/-- The runs of a text between blanks and line ends. -/
def runs (text : List Char) : List (List Char) :=
  let (found, last) := text.foldr (fun c (state : List (List Char) × List Char) =>
    if c = ' ' || c = '\n' then (if state.2.isEmpty then state.1 else state.2 :: state.1, [])
    else (state.1, c :: state.2)) ([], [])
  if last.isEmpty then found else last :: found

/-- An entry of a table: what holds for the numbers of a range. -/
structure Entry (α : Type) where
  first : Nat
  last : Nat
  value : α

/-- Entries in ascending order. -/
abbrev Sorted (α : Type) := Array (Entry α)

namespace Sorted

variable {α : Type}

/-- The entry in whose range a number lies, among those from `low` on and before `high`. -/
def findIn (table : Sorted α) (number low high : Nat) : Option (Entry α) :=
  if _between : low < high then
    let middle := (low + high) / 2
    match table[middle]? with
    | none => none
    | some entry =>
      if number < entry.first then findIn table number low middle
      else if entry.last < number then findIn table number (middle + 1) high
      else some entry
  else none
termination_by high - low

/-- The entry in whose range a number lies. -/
def find? (table : Sorted α) (number : Nat) : Option (Entry α) := table.findIn number 0 table.size

/-- Whether a number lies in the range of an entry. -/
def covers (table : Sorted α) (number : Nat) : Bool := (table.find? number).isSome

end Sorted

/-- Ranges in ascending order. -/
abbrev Ranges := Sorted Unit

/-- The range that a run writes. -/
def rangeOf (run : List Char) : Nat × Nat :=
  let first := run.takeWhile (· ≠ '-')
  let last := run.drop (first.length + 1)
  (hexValue first, if last.isEmpty then hexValue first else hexValue last)

/-- The ranges that a text lists. -/
def Ranges.ofText (text : String) : Ranges :=
  ((runs text.toList).map fun run => ⟨(rangeOf run).1, (rangeOf run).2, ()⟩).toArray

end Workyard.Text
