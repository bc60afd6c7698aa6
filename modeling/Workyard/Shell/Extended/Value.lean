/-
**What can be done with values.**

* `substituted`: another text for what a pattern matches;
* `recased`: large or small letters;
* `sliced`: a part of a text or of a list;
* `transformed`: the ways to show a value.
-/

import Workyard.Shell.Binding
import Workyard.Shell.Extended.Quoting
import Workyard.Shell.Extended.Word

namespace Workyard.Shell.Extended

/-- The number of characters at the front of a text that a pattern stands for, as many as possible. -/
def longestAt (pattern : Pattern) (text : Octets) : Option Nat := pattern.matchFront true text

/-- Puts other texts for all matches of a pattern. -/
def substitutedAll (pattern : Pattern) (replacement : Octets → Octets) : Nat → Octets → Octets
  | 0, text => text
  | fuel + 1, text =>
    match text, longestAt pattern text with
    | [], _ => []
    | c :: rest, none => c :: substitutedAll pattern replacement fuel rest
    | c :: rest, some 0 => c :: substitutedAll pattern replacement fuel rest
    | text, some count => replacement (text.take count) ++
        substitutedAll pattern replacement fuel (text.drop count)

/-- Puts another text for the first match of a pattern. -/
def substitutedFirst (pattern : Pattern) (replacement : Octets → Octets) : Octets → Octets
  | [] => match longestAt pattern [] with
    | some _ => replacement []
    | none => []
  | c :: rest => match longestAt pattern (c :: rest) with
    | some count => replacement ((c :: rest).take count) ++ (c :: rest).drop count
    | none => c :: substitutedFirst pattern replacement rest

/-- Puts another text for what a pattern matches; what is put there may depend on what was matched. -/
def substituted (occurrence : Occurrence) (pattern : Pattern) (replacement : Octets → Octets)
    (text : Octets) : Octets :=
  match occurrence with
  | .front => match longestAt pattern text with
    | some count => replacement (text.take count) ++ text.drop count
    | none => text
  | .back => match pattern.matchBack true text with
    | some count => text.take (text.length - count) ++ replacement (text.drop (text.length - count))
    | none => text
  | .first => if pattern.isEmpty then text else substitutedFirst pattern replacement text
  | .every => if pattern.isEmpty then text else substitutedAll pattern replacement (text.length + 1) text

/-- Other letters for those that a pattern matches. -/
def recased (letters : LetterCase) (every : Bool) (pattern : Pattern) (text : Octets) : Octets :=
  let change (c : Char) : Char :=
    if pattern.isEmpty || pattern.matches [c] then letters.change c else c
  match every, text with
  | true, text => text.map change
  | false, c :: rest => change c :: rest
  | false, [] => []

/-- What a place and a length leave of so many: where it begins and how much it is; none if the length is
negative and leaves less than nothing. -/
def span (size : Nat) (start : Int) (length : Option Int) : Option (Nat × Nat) :=
  let start := if start < 0 then start + size else start
  if start < 0 || (size : Int) < start then some (0, 0)
  else match length with
    | none => some (start.toNat, size - start.toNat)
    | some length =>
      if length < 0 then
        let count := (size : Int) + length - start
        if count < 0 then none else some (start.toNat, count.toNat)
      else some (start.toNat, length.toNat)

/-- A value as a letter says; none if no way is known by the letter. -/
def transformed (letter : Char) (text : Octets) : Option Octets :=
  match letter with
  | 'Q' => some (quotedAlways text)
  | 'U' => some (text.map Char.toUpper)
  | 'L' => some (text.map Char.toLower)
  | 'u' => some (recased .large false [] text)
  | 'E' => some (escaped (text.length + 1) text)
  | 'P' => some text
  | 'K' => some (quotedAlways text)
  | 'k' => some (quotedAlways text)
  | _ => none

/-- What a parameter stands for: a value, or the values of a list with their keys. -/
inductive Standing where
  | value (text : Option Octets)
  | values (separately : Bool) (entries : List (Octets × Octets))

/-- Which part of a variable is meant. -/
inductive Which where
  | whole
  /-- All members, separately or together. -/
  | all (separately : Bool)
  /-- The member with a key. -/
  | at (key : Octets)

/-- The name and the part that a text stands for which names a parameter. -/
def reference? (text : Octets) : Option (String × Which) :=
  let name := text.takeWhile isNameChar
  let behind := text.drop name.length
  if isName name then match behind with
    | [] => some (String.ofList name, .whole)
    | '[' :: rest =>
      if rest.getLast? = some ']' && rest.length ≠ 1 then
        some (String.ofList name, match rest.dropLast with
          | ['@'] => .all true
          | ['*'] => .all false
          | key => .at key)
      else none
    | _ => none
  else if isDigits text then some (String.ofList text, .whole)
  else match text with
    | [c] => if specialNames.contains c then some (String.singleton c, .whole) else none
    | _ => none

/-- The names of all variables that start with a text. -/
def namesFrom (shell : State) (front : String) : List Octets :=
  let made := ["BASHPID", "BASH_LINENO", "BASH_SOURCE", "BASH_SUBSHELL", "DIRSTACK", "EPOCHSECONDS", "FUNCNAME",
    "GROUPS", "LINENO", "PIPESTATUS", "RANDOM", "SECONDS"]
  let known := (shell.bindings.filter fun entry => entry.2.text.isSome || entry.2.shape ≠ .single).map (·.1)
  let names := (known ++ made.filter fun name => !known.contains name).filter (·.startsWith front)
  (names.mergeSort fun first second => first ≤ second).map octets

end Workyard.Shell.Extended
