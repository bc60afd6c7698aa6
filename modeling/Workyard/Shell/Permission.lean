/-
**Permissions.**

Permissions are bits, three each for the owner, the group and all others, with three more in front of
them. They are spelled in octal digits or in letters, and changed by clauses of letters.

* `symbolic`: permissions in letters;
* `changedMode`: permissions changed as clauses say.
-/

import Workyard.Shell.Octets

namespace Workyard.Shell

/-- Permissions of the three kinds of users in letters. -/
def symbolic (mode : Nat) : Octets :=
  let kind (letter : Char) (shift : Nat) : Octets :=
    let bits := (mode >>> shift) &&& 7
    letter :: '=' :: ((if bits &&& 4 ≠ 0 then ['r'] else []) ++ (if bits &&& 2 ≠ 0 then ['w'] else []) ++
      (if bits &&& 1 ≠ 0 then ['x'] else []))
  joinedBy [','] [kind 'u' 6, kind 'g' 3, kind 'o' 0]

/-- The bits of the users that letters stand for. -/
def usersOf (letters : Octets) : Nat :=
  letters.foldl (fun mask letter => mask ||| (match letter with
    | 'u' => 0o4700
    | 'g' => 0o2070
    | 'o' => 0o0007
    | _ => 0o7777)) 0

/-- The bits that a letter of a permission stands for, among all kinds of users. -/
def permissionBits (mode : Nat) (directory : Bool) (letter : Char) : Option Nat :=
  let spread (bits : Nat) : Nat := bits * 0o111
  match letter with
  | 'r' => some 0o444
  | 'w' => some 0o222
  | 'x' => some 0o111
  | 'X' => some (if directory || mode &&& 0o111 ≠ 0 then 0o111 else 0)
  | 's' => some 0o6000
  | 't' => some 0o1000
  | 'u' => some (spread ((mode >>> 6) &&& 7))
  | 'g' => some (spread ((mode >>> 3) &&& 7))
  | 'o' => some (spread (mode &&& 7))
  | _ => none

/-- Carries out the operations of one clause on permissions. What no user was named for is kept from those
in a mask. -/
def clause (directory : Bool) (users mask : Nat) : Nat → Nat → Octets → Option Nat
  | 0, _, _ => none
  | _, mode, [] => some mode
  | fuel + 1, mode, sign :: rest =>
    if ['+', '-', '='].contains sign then
      let letters := rest.takeWhile fun c => !(['+', '-', '='].contains c)
      match letters.mapM (permissionBits mode directory) with
      | none => none
      | some bits =>
        let named : Bool := users ≠ 0
        let within := if named then users ||| (if letters.contains 't' then 0o1000 else 0)
          else 0o7777 &&& (0o7777 ^^^ mask)
        let bits := bits.foldl (· ||| ·) 0 &&& within
        let mode := match sign with
          | '+' => mode ||| bits
          | '-' => mode &&& (0o7777 ^^^ bits)
          | _ => (mode &&& (0o7777 ^^^ ((if named then users else 0o7777) &&& 0o777))) ||| bits
        clause directory users mask fuel mode (rest.drop letters.length)
    else none

/-- Permissions changed as clauses say, none if these mean nothing. -/
def changedMode (directory : Bool) (mask mode : Nat) (text : Octets) : Option Nat :=
  if isDigits text then (octal? text).bind fun value => if value ≤ 0o7777 then some value else none
  else (text.splitOn ',').foldl (fun mode part => mode.bind fun mode =>
    let letters := part.takeWhile fun c => ['u', 'g', 'o', 'a'].contains c
    let operations := part.drop letters.length
    if operations = [] then none
    else clause directory (usersOf letters) mask (operations.length + 1) mode operations) (some mode)

/-- Permissions in nine letters. -/
def modeLetters (mode : Nat) : Octets :=
  let has (bit : Nat) : Bool := mode &&& bit ≠ 0
  let kind (shift special : Nat) (letter : Char) : Octets :=
    let bits := mode >>> shift
    [if bits &&& 4 ≠ 0 then 'r' else '-', if bits &&& 2 ≠ 0 then 'w' else '-',
      if has special then (if bits &&& 1 ≠ 0 then letter else letter.toUpper)
      else if bits &&& 1 ≠ 0 then 'x' else '-']
  kind 6 0o4000 's' ++ kind 3 0o2000 's' ++ kind 0 0o1000 't'

/-- Permissions in at least so many octal digits. -/
def modeDigits (least mode : Nat) : Octets :=
  let digits := Nat.toDigits 8 mode
  List.replicate (least - digits.length) '0' ++ digits

end Workyard.Shell
