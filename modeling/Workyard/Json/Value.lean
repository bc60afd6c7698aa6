/-
**JSON values, read and written.**

A value keeps the members of an object in order. Reading refuses lists and objects nested 128 deep;
writing is compact and escapes the two characters that a string needs escaped and the control
characters.

An object whose first member has a certain name stands for the value that the text of the member spells.

* `ofText`: the value of a text, or the first fault;
* `compact`: the text of a value without blanks;
* `quote`: the text of a string.
-/

import Workyard.Json.Scan

namespace Workyard

/-- A JSON value. -/
inductive Json where
  | null
  | bool (value : Bool)
  | number (value : Json.Scan.Number)
  | string (value : String)
  | list (elements : List Json)
  | object (members : List (String × Json))

namespace Json

/-- A natural number as a value. -/
def nat (value : Nat) : Json := .number (.whole value)

/-- An integer as a value. -/
def int (value : Int) : Json := .number (.whole value)

/-! ### Writing -/

/-- A character inside a written string. -/
def quoteChar (c : Char) : List Char :=
  if c = '"' then ['\\', '"']
  else if c = '\\' then ['\\', '\\']
  else if c = '\n' then ['\\', 'n']
  else if c = '\r' then ['\\', 'r']
  else if c = '\t' then ['\\', 't']
  else if c = '\x08' then ['\\', 'b']
  else if c = '\x0c' then ['\\', 'f']
  else if c.toNat < 0x20 then ['\\', 'u', '0', '0', Text.hexDigit (c.toNat / 16), Text.hexDigit (c.toNat % 16)]
  else [c]

/-- The text of a string. -/
def quote (text : String) : String :=
  String.ofList ('"' :: (text.toList.flatMap quoteChar ++ ['"']))

mutual

/-- The text of a value without blanks. A real number is written as `0.0`, its value not being
kept. -/
def compact : Json → String
  | .null => "null"
  | .bool true => "true"
  | .bool false => "false"
  | .number (.whole value) => toString value
  | .number .real => "0.0"
  | .string value => quote value
  | .list elements => "[" ++ compactElements elements ++ "]"
  | .object members => "\x7b" ++ compactMembers members ++ "\x7d"

/-- The texts of elements with commas between them. -/
def compactElements : List Json → String
  | [] => ""
  | [last] => compact last
  | first :: rest => compact first ++ "," ++ compactElements rest

/-- The texts of members with commas between them. -/
def compactMembers : List (String × Json) → String
  | [] => ""
  | [(key, last)] => quote key ++ ":" ++ compact last
  | (key, first) :: rest => quote key ++ ":" ++ compact first ++ "," ++ compactMembers rest

end

/-- Two blanks for each level of nesting. -/
def indentation (depth : Nat) : String := String.ofList (List.replicate (2 * depth) ' ')

mutual

/-- The text of a value with each element and member on a line of its own. -/
def indented (depth : Nat) : Json → String
  | .list [] => "[]"
  | .object [] => "\x7b\x7d"
  | .list elements =>
    "[\n" ++ indentedElements (depth + 1) elements ++ "\n" ++ indentation depth ++ "]"
  | .object members =>
    "\x7b\n" ++ indentedMembers (depth + 1) members ++ "\n" ++ indentation depth ++ "\x7d"
  | scalar => compact scalar

/-- The lines of elements. -/
def indentedElements (depth : Nat) : List Json → String
  | [] => ""
  | [last] => indentation depth ++ indented depth last
  | first :: rest =>
    indentation depth ++ indented depth first ++ ",\n" ++ indentedElements depth rest

/-- The lines of members. -/
def indentedMembers (depth : Nat) : List (String × Json) → String
  | [] => ""
  | [(key, last)] => indentation depth ++ quote key ++ ": " ++ indented depth last
  | (key, first) :: rest =>
    indentation depth ++ quote key ++ ": " ++ indented depth first ++ ",\n" ++
      indentedMembers depth rest

end

/-! ### Reading -/

namespace Scan

/-- Whether one more element follows in a list; `first` until one was read. -/
def moreElements (first : Bool) : Scan Bool := do
  match ← needToken .endInList with
  | ']' => return false
  | ',' =>
    if first then return true
    advance
    match ← needToken .endInValue with
    | ']' => failAhead .trailingComma
    | _ => return true
  | _ => if first then return true else failAhead .expectedListEnd

/-- Whether one more member follows in an object; `first` until one was read. -/
def moreMembers (first : Bool) : Scan Bool := do
  match ← needToken .endInObject with
  | '\x7d' => return false
  | ',' =>
    if first then failAhead .keyNotString
    advance
    match ← needToken .endInValue with
    | '"' => return true
    | '\x7d' => failAhead .trailingComma
    | _ => failAhead .keyNotString
  | c =>
    if first then (if c = '"' then return true else failAhead .keyNotString)
    else failAhead .expectedObjectEnd

/-- Steps over the end of a list. -/
def endList : Scan Unit := do
  match ← needToken .endInList with
  | ']' => advance
  | ',' =>
    advance
    match ← peekToken with
    | some ']' => failAhead .trailingComma
    | _ => failAhead .trailingCharacters
  | _ => failAhead .trailingCharacters

/-- Steps over the end of an object. -/
def endObject : Scan Unit := do
  match ← needToken .endInObject with
  | '\x7d' => advance
  | ',' => failAhead .trailingComma
  | _ => failAhead .trailingCharacters

/-- The nesting at which reading a value stops. -/
def maxDepth : Nat := 128

/-- The name of a member that holds the text of a value. -/
def spelledMember : String := "$serde_json::private::RawValue"

/-- Reads the text of a value, which must be a string. -/
def spelledText : Scan String := do
  let refuse (found : String) : Scan String := failHere (.notText found)
  let refuseNumber (positive : Bool) : Scan String := do
    match ← number positive with
    | .whole value => refuse s!"integer `{value}`"
    | .real => refuse "floating point `0.0`"
  match ← needToken .endInValue with
  | '"' => advance; string
  | 'n' => advance; word ['u', 'l', 'l']; refuse "null"
  | 't' => advance; word ['r', 'u', 'e']; refuse "boolean `true`"
  | 'f' => advance; word ['a', 'l', 's', 'e']; refuse "boolean `false`"
  | '-' => advance; refuseNumber false
  | '[' => refuse "sequence"
  | '\x7b' => refuse "map"
  | c => if (Text.digit? c).isSome then refuseNumber true else failAhead .expectedValue

mutual

/-- Reads a value, `depth` more enclosures being allowed. -/
def value (depth : Nat) : Nat → Scan Json
  | 0 => failHere .endInValue
  | fuel + 1 => do
    match ← needToken .endInValue with
    | 'n' => advance; word ['u', 'l', 'l']; return .null
    | 't' => advance; word ['r', 'u', 'e']; return .bool true
    | 'f' => advance; word ['a', 'l', 's', 'e']; return .bool false
    | '-' => advance; return .number (← number false)
    | '"' => advance; return .string (← string)
    | '[' =>
      if depth ≤ 1 then failAhead .nestedTooDeep
      advance
      let elements ← elementsFrom (depth - 1) fuel []
      endList
      return .list elements
    | '\x7b' =>
      if depth ≤ 1 then failAhead .nestedTooDeep
      advance
      let object ← objectFrom (depth - 1) fuel
      endObject
      return object
    | c =>
      if (Text.digit? c).isSome then return .number (← number true)
      else failAhead .expectedValue

/-- Reads the further elements of a list; `read` holds those before in reverse. -/
def elementsFrom (depth : Nat) : Nat → List Json → Scan (List Json)
  | 0, _ => failHere .endInList
  | fuel + 1, read => do
    if ← moreElements read.isEmpty then
      let element ← value depth fuel
      elementsFrom depth fuel (element :: read)
    else return read.reverse

/-- Reads the members of an object, or the value for which it stands. -/
def objectFrom (depth : Nat) : Nat → Scan Json
  | 0 => failHere .endInObject
  | fuel + 1 => do
    if ← moreMembers true then
      advance
      let key ← string
      colon
      if key = spelledMember then
        let text ← spelledText
        let inner : Scan Json := do
          let spelled ← value maxDepth fuel
          finish
          return spelled
        match inner.run' (Cursor.ofText text) with
        | .ok spelled => return spelled
        | .error fault => throw fault
      else
        let member ← value depth fuel
        return .object (← membersFrom depth fuel [(key, member)])
    else return .object []

/-- Reads the further members of an object; `read` holds those before in reverse. -/
def membersFrom (depth : Nat) : Nat → List (String × Json) → Scan (List (String × Json))
  | 0, _ => failHere .endInObject
  | fuel + 1, read => do
    if ← moreMembers read.isEmpty then
      advance
      let key ← string
      colon
      let member ← value depth fuel
      membersFrom depth fuel ((key, member) :: read)
    else return read.reverse

end

/-- Reads one value. -/
def anyValue : Scan Json := do value maxDepth ((← fuel) + 1)

end Scan

/-- The value of a text, or the first fault. -/
def ofText (text : String) : Except Fault Json := scanText Scan.anyValue text

end Json

end Workyard
