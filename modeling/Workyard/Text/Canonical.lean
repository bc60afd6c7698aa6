/-
**Canonical composition.**

Some characters stand for a pair of others, and marks of different classes on one character may stand in
any order. A text is composed if each pair that one character stands for is that character and the marks
stand in the order of their classes. The syllables of Hangul are composed by calculation, the other
characters by a table.

* `composed`: the composed form of a text.
-/

import Workyard.Text.CanonicalData
import Workyard.Text.Packed

namespace Workyard.Text.Canonical

/-- The value of decimal digits. -/
def decimalValue (digits : List Char) : Nat :=
  digits.foldl (fun value c => value * 10 + (c.toNat - '0'.toNat)) 0

/-- The combining classes that runs list behind the heading of a class. -/
def classEntries (current : Nat) : List (List Char) → List (Entry Nat)
  | [] => []
  | run :: rest =>
    if run.getLast? = some ':' then classEntries (decimalValue run.dropLast) rest
    else ⟨(rangeOf run).1, (rangeOf run).2, current⟩ :: classEntries current rest

/-- The combining classes other than zero. -/
def classTable : Sorted Nat :=
  ((classEntries 0 (runs classData.toList)).mergeSort fun one other => one.first ≤ other.first).toArray

/-- The combining class of a character; a character of class zero starts anew. -/
def combiningClass (c : Char) : Nat := ((classTable.find? c.toNat).map Entry.value).getD 0

/-- A pair of characters and the one that stands for it. -/
structure Pair where
  first : Char
  second : Char
  whole : Char
deriving DecidableEq, Repr

/-- The pairs that runs list behind the heading of a second character. -/
def pairsOf (second : Char) : List (List Char) → List Pair
  | [] => []
  | run :: rest =>
    if run.getLast? = some ':' then pairsOf (Char.ofNat (hexValue run.dropLast)) rest
    else
      let first := run.takeWhile (· ≠ '>')
      ⟨Char.ofNat (hexValue first), second, Char.ofNat (hexValue (run.drop (first.length + 1)))⟩ ::
        pairsOf second rest

/-- The pairs that one character stands for. -/
def pairs : List Pair := pairsOf '\x00' (runs pairData.toList)

/-- The pairs by the character that stands for them. -/
def wholeTable : Sorted Pair :=
  ((pairs.map fun pair => (⟨pair.whole.toNat, pair.whole.toNat, pair⟩ : Entry Pair)).mergeSort
    fun one other => one.first ≤ other.first).toArray

/-- A number for two characters. -/
def pairKey (first second : Char) : Nat := first.toNat * 0x110000 + second.toNat

/-- The pairs by their two characters. -/
def pairTable : Sorted Pair :=
  ((pairs.map fun pair =>
    (⟨pairKey pair.first pair.second, pairKey pair.first pair.second, pair⟩ : Entry Pair)).mergeSort
    fun one other => one.first ≤ other.first).toArray

/-! ### Hangul -/

/-- The first syllable. -/
def firstSyllable : Nat := 0xac00

/-- The numbers of syllables that share a leading consonant, and a vowel with it. -/
def perLead : Nat := 588

/-- The number of syllables that share all but the last consonant. -/
def perVowel : Nat := 28

/-- The number of all syllables. -/
def syllableCount : Nat := 19 * perLead

/-- The pair that a syllable stands for. -/
def syllablePair? (c : Char) : Option (Char × Char) :=
  let index := c.toNat - firstSyllable
  if c.toNat < firstSyllable || syllableCount ≤ index then none
  else if index % perVowel = 0 then
    some (Char.ofNat (0x1100 + index / perLead), Char.ofNat (0x1161 + index % perLead / perVowel))
  else some (Char.ofNat (c.toNat - index % perVowel), Char.ofNat (0x11a7 + index % perVowel))

/-- The syllable that stands for two letters, or for a syllable and a letter. -/
def syllable? (first second : Char) : Option Char :=
  let lead := first.toNat - 0x1100
  let vowel := second.toNat - 0x1161
  let last := second.toNat - 0x11a7
  let index := first.toNat - firstSyllable
  if 0x1100 ≤ first.toNat && lead < 19 && 0x1161 ≤ second.toNat && vowel < 21 then
    some (Char.ofNat (firstSyllable + lead * perLead + vowel * perVowel))
  else if firstSyllable ≤ first.toNat && index < syllableCount && index % perVowel = 0 &&
      0x11a7 < second.toNat && last < perVowel then
    some (Char.ofNat (first.toNat + last))
  else none

/-! ### Taking apart -/

/-- The pair that a character stands for. -/
def pair? (c : Char) : Option (Char × Char) :=
  match syllablePair? c with
  | some pair => some pair
  | none => (wholeTable.find? c.toNat).map fun entry => (entry.value.first, entry.value.second)

/-- The most pairs that are nested in a character. -/
def maxNesting : Nat := 4

/-- The characters that a character stands for. -/
def apart : Nat → Char → List Char
  | 0, c => [c]
  | fuel + 1, c => match pair? c with
    | some (first, second) => apart fuel first ++ [second]
    | none => [c]

/-- Puts a mark in front of those of greater classes; the text comes in reverse. -/
def place (c : Char) : List Char → List Char
  | [] => [c]
  | before :: rest =>
    if combiningClass c ≠ 0 && combiningClass c < combiningClass before then before :: place c rest
    else c :: before :: rest

/-- All characters taken apart, their marks in order. -/
def decomposed (text : List Char) : List Char :=
  ((text.flatMap (apart maxNesting)).foldl (fun read c => place c read) []).reverse

/-! ### Putting together -/

/-- The character that stands for two. -/
def whole? (first second : Char) : Option Char :=
  match syllable? first second with
  | some c => some c
  | none => (pairTable.find? (pairKey first second)).map fun entry => entry.value.whole

/-- What has been put together: the text up to the last character that starts anew, that character, and
the marks behind it, both texts in reverse. -/
structure Composing where
  done : List Char := []
  base : Option Char := none
  marks : List Char := []

namespace Composing

/-- The whole text in reverse. -/
def all (state : Composing) : List Char := state.marks ++ state.base.toList ++ state.done

/-- Goes on with a character. It joins the base unless a mark of its class or a greater one is between. -/
def step (state : Composing) (c : Char) : Composing :=
  let level := combiningClass c
  let reaches : Bool := match state.marks with
    | [] => true
    | mark :: _ => combiningClass mark < level
  match if reaches then state.base.bind (whole? · c) else none with
  | some whole => { state with base := some whole }
  | none =>
    if level = 0 then ⟨state.all, some c, []⟩ else { state with marks := c :: state.marks }

end Composing

/-- The composed form of a text. -/
def composed (text : List Char) : List Char :=
  ((decomposed text).foldl Composing.step {}).all.reverse

end Workyard.Text.Canonical
