/-
**Hexadecimal digits.**

They are written in lower case and read in either.
-/

namespace Workyard.Text

/-- The lower-case digit of a number below sixteen. -/
def hexDigit (value : Nat) : Char :=
  if value < 10 then Char.ofNat ('0'.toNat + value) else Char.ofNat ('a'.toNat + (value - 10))

/-- The value of a digit of either case. -/
def hexDigit? (c : Char) : Option Nat :=
  if '0' ≤ c && c ≤ '9' then some (c.toNat - '0'.toNat)
  else if 'a' ≤ c && c ≤ 'f' then some (c.toNat - 'a'.toNat + 10)
  else if 'A' ≤ c && c ≤ 'F' then some (c.toNat - 'A'.toNat + 10)
  else none

/-- The digits of a number of sixty-four bits. -/
def hexText (value : UInt64) : String :=
  String.ofList ((List.range 16).map fun place => hexDigit (value.toNat / Nat.pow 16 (15 - place) % 16))

/-- The octets that pairs of digits stand for. -/
def hexOctets? : List Char → Option (List UInt8)
  | [] => some []
  | [_] => none
  | high :: low :: rest => do
    return UInt8.ofNat ((← hexDigit? high) * 16 + (← hexDigit? low)) :: (← hexOctets? rest)

end Workyard.Text
