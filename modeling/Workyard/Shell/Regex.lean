/-
**Regular expressions.**

An expression stands for texts. It matches at the first place of a text where it can, and there as much
as it can; its parts, from left to right, take as much as they can in turn.

* `Regex.find?`: the first match in a text;
* `Regex.matchAt?`: the match at a place.
-/

import Workyard.Shell.Pattern

namespace Workyard.Shell

/-- The characters that one place in a text may hold. -/
structure OneOf where
  negated : Bool
  ranges : List (Char × Char)
deriving DecidableEq, Repr

/-- A condition on a place between characters. -/
inductive Anchor where
  | lineStart
  | lineEnd
  | wordEdge
  | insideWord
  | wordStart
  | wordEnd
  | textStart
  | textEnd
deriving DecidableEq, Repr

/-- A regular expression. -/
inductive Regex where
  | nothing
  | character (accepted : OneOf)
  | sequence (first second : Regex)
  | either (first second : Regex)
  /-- Again and again, at least and at most so often. -/
  | repeated (body : Regex) (least : Nat) (most : Option Nat)
  | group (number : Nat) (body : Regex)
  /-- What a group matched. -/
  | again (number : Nat)
  | place (anchor : Anchor)
deriving Repr

/-- What is matched and how. -/
structure Matching where
  text : Array Char
  ignoresCase : Bool := false
  /-- Whether lines begin and end inside the text. -/
  manyLines : Bool := false

/-- How far a match has come, and what its groups matched. -/
structure Matched where
  position : Nat
  /-- The newest first. -/
  groups : List (Nat × Nat × Nat) := []
deriving Repr

/-- Whether a character is one of words. -/
def isWordCharacter (c : Char) : Bool := c.isAlphanum || c = '_'

namespace Matching

/-- Whether a character is one of those that are accepted. -/
def accepts (matching : Matching) (accepted : OneOf) (c : Char) : Bool :=
  let isIn (c : Char) : Bool := accepted.ranges.any fun range => range.1 ≤ c && c ≤ range.2
  accepted.negated != (isIn c || (matching.ignoresCase && (isIn c.toLower || isIn c.toUpper)))

/-- Whether there is a character of a word at a position. -/
def isWordAt (matching : Matching) (position : Nat) : Bool := matching.text[position]?.any isWordCharacter

/-- Whether there is a character of a word in front of a position. -/
def isWordBefore (matching : Matching) (position : Nat) : Bool :=
  position ≠ 0 && matching.isWordAt (position - 1)

/-- Whether a condition holds at a position. -/
def holds (matching : Matching) (anchor : Anchor) (position : Nat) : Bool :=
  let before := matching.isWordBefore position
  let behind := matching.isWordAt position
  let isLast : Bool := position = matching.text.size
  match anchor with
  | .lineStart => position = 0 || (matching.manyLines && matching.text[position - 1]? = some '\n')
  | .lineEnd => isLast || (matching.manyLines && matching.text[position]? = some '\n')
  | .wordEdge => before != behind
  | .insideWord => before == behind
  | .wordStart => !before && behind
  | .wordEnd => before && !behind
  | .textStart => position = 0
  | .textEnd => isLast

/-- The first of the states at each position, those that came farthest in front. -/
def arranged (matching : Matching) (states : List Matched) : List Matched :=
  match states with
  | [] => []
  | [only] => [only]
  | states =>
    let empty : Array (Option Matched) := Array.replicate (matching.text.size + 1) none
    let first := states.foldl (fun (table : Array (Option Matched)) state =>
      if (table.getD state.position none).isSome then table
      else table.setIfInBounds state.position (some state)) empty
    (first.toList.filterMap fun state => state).reverse

/-- Goes on from a state as often as possible but no more often than allowed, by steps that get farther;
`seen` are the places that were reached before. -/
def closure (step : Matched → List Matched) : Nat → Option Nat → Matched →
    List Matched × List (Nat × Option Nat) → List Matched × List (Nat × Option Nat)
  | 0, _, _, found => found
  | fuel + 1, most, state, (found, seen) =>
    if seen.contains (state.position, most) then (found, seen)
    else
      let seen := (state.position, most) :: seen
      let found := if most = some 0 then (found, seen)
        else (step state).foldl (fun found next =>
          if state.position < next.position then
            closure step fuel (most.map (· - 1)) next found
          else found) (found, seen)
      (state :: found.1, found.2)

/-- Goes on from states so often. -/
def times (matching : Matching) (step : Matched → List Matched) : Nat → List Matched → List Matched
  | 0, states => states
  | count + 1, states => times matching step count (matching.arranged (states.flatMap step))

/-- The states to which an expression leads, those that came farthest in front. -/
def ends (matching : Matching) : Regex → Matched → List Matched
  | .nothing, state => [state]
  | .character accepted, state => match matching.text[state.position]? with
    | some c =>
      if matching.accepts accepted c then [{ state with position := state.position + 1 }] else []
    | none => []
  | .sequence first second, state =>
    matching.arranged ((ends matching first state).flatMap (ends matching second))
  | .either first second, state =>
    matching.arranged (ends matching first state ++ ends matching second state)
  | .repeated body least most, state =>
    let step := ends matching body
    let begun := times matching step least [state]
    let more := most.map (· - least)
    matching.arranged (begun.flatMap fun state =>
      (closure step (matching.text.size + 2) more state ([], [])).1)
  | .group number body, state =>
    (ends matching body state).map fun reached =>
      { reached with groups := (number, state.position, reached.position) :: reached.groups }
  | .again number, state => match state.groups.lookup number with
    | none => []
    | some (start, stop) =>
      let length := stop - start
      let same := (List.range length).all fun index =>
        match matching.text[start + index]?, matching.text[state.position + index]? with
        | some c, some d => c = d || (matching.ignoresCase && c.toLower = d.toLower)
        | _, _ => false
      if same then [{ state with position := state.position + length }] else []
  | .place anchor, state => if matching.holds anchor state.position then [state] else []

end Matching

/-- A match: where it begins and ends, and what its groups matched. -/
structure Match where
  start : Nat
  stop : Nat
  groups : List (Nat × Nat × Nat)
deriving Repr

namespace Regex

/-- The match at a place. -/
def matchAt? (regex : Regex) (matching : Matching) (start : Nat) : Option Match :=
  (matching.ends regex ⟨start, []⟩).head?.map fun reached => ⟨start, reached.position, reached.groups⟩

/-- Tries one place after another. -/
def findFrom (regex : Regex) (matching : Matching) : Nat → Nat → Option Match
  | 0, _ => none
  | fuel + 1, start =>
    match regex.matchAt? matching start with
    | some found => some found
    | none => findFrom regex matching fuel (start + 1)

/-- The first match from a place on. -/
def find? (regex : Regex) (matching : Matching) (start : Nat) : Option Match :=
  regex.findFrom matching (matching.text.size + 1 - start) start

end Regex

/-- What a match or one of its groups took from a text. -/
def Match.taken (found : Match) (text : Array Char) (number : Nat) : Option (List Char) :=
  let between (start stop : Nat) : List Char := (text.extract start stop).toList
  if number = 0 then some (between found.start found.stop)
  else (found.groups.lookup number).map fun range => between range.1 range.2

end Workyard.Shell
