/-
**Labels spelled in ASCII.**

A label with other characters can be spelled in ASCII: its ASCII characters come first, and behind the
last minus sign digits tell where the others are to be put. The digits make numbers of which each place
has a threshold that ends a number; the thresholds follow the numbers read so far.

* `decode`: the label that is spelled, if digits make sense.
-/

namespace Workyard.Host.Punycode

/-- The number of digits. -/
def base : Nat := 36

/-- The least and the greatest threshold. -/
def leastThreshold : Nat := 1

/-- The greatest threshold. -/
def greatestThreshold : Nat := 26

/-- The greatest number that is calculated with. -/
def limit : Nat := Nat.pow 2 32 - 1

/-- The value of a digit. -/
def digit? (c : Char) : Option Nat :=
  if 'a' ≤ c && c ≤ 'z' then some (c.toNat - 'a'.toNat)
  else if '0' ≤ c && c ≤ '9' then some (c.toNat - '0'.toNat + 26)
  else none

/-- The threshold at a place. -/
def threshold (bias place : Nat) : Nat :=
  if place ≤ bias then leastThreshold
  else if bias + greatestThreshold ≤ place then greatestThreshold
  else place - bias

/-- Scales a distance down and counts the places that this takes. -/
def scale (distance places : Nat) : Nat × Nat :=
  if 455 < distance then scale (distance / 35) (places + base) else (distance, places)
termination_by distance
decreasing_by exact Nat.div_lt_self (by omega) (by omega)

/-- The bias behind a number. -/
def adapt (distance count : Nat) (first : Bool) : Nat :=
  let distance := if first then distance / 700 else distance / 2
  let (distance, places) := scale (distance + distance / count) 0
  places + base * distance / (distance + 38)

/-- Reads a number, which is added to `total`; gives the sum and the digits behind the number. -/
def number (bias total weight place : Nat) : List Char → Option (Nat × List Char)
  | [] => none
  | c :: rest => do
    let digit ← digit? c
    let total := total + digit * weight
    if limit < digit * weight || limit < total then none
    else if digit < threshold bias place then return (total, rest)
    else
      let weight := weight * (base - threshold bias place)
      if limit < weight then none else number bias total weight (place + base) rest

theorem number_length {bias total weight place sum : Nat} {digits rest : List Char}
    (read : number bias total weight place digits = some (sum, rest)) :
    rest.length < digits.length := by
  induction digits generalizing total weight place with
  | nil => cases read
  | cons c digits hypothesis =>
    unfold number at read
    cases value : digit? c with
    | none => rw [value] at read; cases read
    | some digit =>
      rw [value] at read
      simp only [Option.bind_eq_bind, Option.bind_some] at read
      split at read
      · cases read
      · split at read
        · cases read; simp
        · split at read
          · cases read
          · exact Nat.lt_succ_of_lt (hypothesis read)

/-- Puts a character into a place of a text. -/
def insertAt (place : Nat) (c : Char) (text : List Char) : List Char :=
  text.take place ++ c :: text.drop place

/-- Puts characters into a text as digits tell. -/
def insertions (text : List Char) (point place bias : Nat) (digits : List Char) :
    Option (List Char) :=
  if digits.isEmpty then some text
  else match next : number bias place 1 base digits with
    | none => none
    | some (total, rest) =>
      have := number_length next
      let count := text.length + 1
      let point := point + total / count
      if 0x10ffff < point || (0xd800 ≤ point && point < 0xe000) then none
      else
        insertions (insertAt (total % count) (Char.ofNat point) text) point (total % count + 1)
          (adapt (total - place) count (place = 0)) rest
termination_by digits.length

/-- The label that is spelled. -/
def decode (spelling : List Char) : Option (List Char) :=
  let behind := (spelling.reverse.takeWhile (· ≠ '-')).reverse
  let before := spelling.take (spelling.length - behind.length)
  if before.length ≤ 1 then insertions [] 0x80 0 72 spelling
  else insertions before.dropLast 0x80 0 72 behind

end Workyard.Host.Punycode
