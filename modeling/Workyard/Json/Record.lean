/-
**Records of scalar fields.**

A record is written as an object with its fields in declared order and read from an object or from
a list of exactly its fields. Reading goes from left to right and stops at the first fault, be it of
the grammar or of the shape: an unknown member is stepped over, a field given twice or missing is a
fault, and only an optional field may be missing.

* `Record.scan`: reads the fields of a record in declared order;
* `Record.toJson`: the object of a record.
-/

import Workyard.Json.Value

namespace Workyard.Json

/-- What a field holds. -/
inductive FieldKind where
  /-- A string. -/
  | text
  /-- An unsigned number of 64 bits. -/
  | count
  /-- True or false. -/
  | flag
  /-- A signed number of 32 bits, or null, or nothing. -/
  | status
deriving DecidableEq, Repr

/-- The value of a field. -/
inductive Scalar where
  | text (value : String)
  | count (value : Nat)
  | flag (value : Bool)
  | status (value : Option Int)
deriving DecidableEq, Repr

/-- The value as JSON. -/
def Scalar.toJson : Scalar → Json
  | .text value => .string value
  | .count value => .nat value
  | .flag value => .bool value
  | .status none => .null
  | .status (some value) => .int value

/-- The names and kinds of a record's fields in declared order. -/
abbrev Schema := List (String × FieldKind)

/-- The object of a record with these names and values. -/
def record (names : List String) (values : List Scalar) : Json :=
  .object (names.zip (values.map Scalar.toJson))

namespace Scan

/-- Refuses a value of another shape than the one wanted, after reading what a scalar needs. -/
def refuseShape {α : Type} : Scan α := do
  match ← peek with
  | some 'n' => advance; word ['u', 'l', 'l']
  | some 't' => advance; word ['r', 'u', 'e']
  | some 'f' => advance; word ['a', 'l', 's', 'e']
  | some '-' => do advance; let _ ← number false
  | some '"' => do advance; let _ ← string
  | some '[' | some '\x7b' => pure ()
  | some c =>
    if (Text.digit? c).isSome then do let _ ← number true
    else failAhead .expectedValue
  | none => failAhead .expectedValue
  failHere .otherShape

/-- Reads a string. -/
def textField : Scan String := do
  match ← needToken .endInValue with
  | '"' => advance; string
  | _ => refuseShape

/-- Reads an integer. -/
def integerField : Scan Int := do
  let c ← needToken .endInValue
  let read ←
    if c = '-' then do advance; number false
    else if (Text.digit? c).isSome then number true
    else refuseShape
  match read with
  | .whole value => return value
  | .real => failHere .otherShape

/-- Reads true or false. -/
def flagField : Scan Bool := do
  match ← needToken .endInValue with
  | 't' => advance; word ['r', 'u', 'e']; return true
  | 'f' => advance; word ['a', 'l', 's', 'e']; return false
  | _ => refuseShape

/-- Reads the value of a field. -/
def scalar : FieldKind → Scan Scalar
  | .text => do return .text (← textField)
  | .flag => do return .flag (← flagField)
  | .count => do
    let value ← integerField
    if 0 ≤ value && value ≤ Text.maxU64 then return .count value.toNat
    else failHere .otherShape
  | .status => do
    match ← peekToken with
    | some 'n' => advance; word ['u', 'l', 'l']; return .status none
    | _ =>
      let value ← integerField
      if -(Int.pow 2 31) ≤ value && value < Int.pow 2 31 then return .status (some value)
      else failHere .otherShape

/-- Reads the fields of a record from the elements of a list. -/
def listFields : Bool → Schema → Scan (List Scalar)
  | _, [] => return []
  | first, (_, kind) :: rest => do
    if ← moreElements first then
      let value ← scalar kind
      return value :: (← listFields false rest)
    else failHere .otherShape

/-- Reads the members of an object; `found` holds the fields read before. -/
def memberFields (schema : Schema) : Nat → Bool → List (String × Scalar) →
    Scan (List (String × Scalar))
  | 0, _, _ => failHere .endInObject
  | fuel + 1, first, found => do
    if ← moreMembers first then
      advance
      let key ← string
      match schema.lookup key with
      | none =>
        colon
        skipValue
        memberFields schema fuel false found
      | some kind =>
        if (found.lookup key).isSome then failHere .otherShape
        colon
        let value ← scalar kind
        memberFields schema fuel false ((key, value) :: found)
    else return found

/-- The fields in declared order, of which only an optional one may be missing. -/
def inOrder (found : List (String × Scalar)) : Schema → Scan (List Scalar)
  | [] => return []
  | (name, kind) :: rest => do
    match found.lookup name, kind with
    | some value, _ => return value :: (← inOrder found rest)
    | none, .status => return .status none :: (← inOrder found rest)
    | none, _ => failHere .otherShape

/-- Reads a record. -/
def fields (schema : Schema) : Scan (List Scalar) := do
  match ← needToken .endInValue with
  | '[' =>
    advance
    let values ← listFields true schema
    endList
    return values
  | '\x7b' =>
    advance
    let found ← memberFields schema (← fuel) true []
    let values ← inOrder found schema
    endObject
    return values
  | _ => refuseShape

/-- Reads null or a record. -/
def optionalFields (schema : Schema) : Scan (Option (List Scalar)) := do
  match ← peekToken with
  | some 'n' => advance; word ['u', 'l', 'l']; return none
  | _ => return some (← fields schema)

end Scan

end Workyard.Json
