/-
**Long texts in brief.**

A long text is told from others by its length, a digest of its octets, and how it starts and ends.
-/

import Workyard.Text.Utf8

namespace Workyard.Text

/-- A digest of octets: each is mixed in by an exclusive or and a multiplication by a prime. -/
def digest (octets : List UInt8) : UInt64 :=
  octets.foldl (fun hash octet => (hash ^^^ octet.toUInt64) * 0x100000001b3) 0xcbf29ce484222325

/-- What is told of a long text. -/
structure Brief where
  chars : Nat
  octets : Nat
  digest : UInt64
  head : String
  tail : String

/-- The most characters of a text that is told whole. -/
def maxWhole : Nat := 600

/-- How many characters of the start and the end are told. -/
def edge : Nat := 40

/-- A long text in brief, none if it is short. -/
def brief? (text : String) : Option Brief :=
  let chars := text.length
  if chars ≤ maxWhole then none
  else
    let all := text.toList
    let octets := Utf8.encode text
    some ⟨chars, octets.length, digest octets, String.ofList (all.take edge),
      String.ofList (all.drop (chars - edge))⟩

end Workyard.Text
