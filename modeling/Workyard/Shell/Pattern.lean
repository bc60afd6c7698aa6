/-
**Patterns of text.**

A pattern is made of characters that match themselves, `?` for any character, `*` for any text and sets
of characters in brackets. It may also have groups of patterns, with a sign that says how often one of them
is met.

* `Pattern.ofMarked`: the pattern of characters, some of which act;
* `Pattern.matches`: whether a text is one that a pattern stands for.
-/

namespace Workyard.Shell

/-- A piece of a pattern. -/
inductive Piece where
  | exactly (c : Char)
  | anyCharacter
  | anyText
  /-- One of several ranges, or none of them. -/
  | oneOf (negated : Bool) (ranges : List (Char × Char))
  /-- One of several patterns: `?` at most once, `*` any number of times, `+` at least once, `@` once, and
  `!` for what none of them stands for. -/
  | group (sign : Char) (choices : List (List Piece))

/-- A pattern. -/
abbrev Pattern := List Piece

/-- The ranges of a named class of characters. -/
def classRanges (name : String) : List (Char × Char) :=
  match name with
  | "digit" => [('0', '9')]
  | "lower" => [('a', 'z')]
  | "upper" => [('A', 'Z')]
  | "alpha" => [('a', 'z'), ('A', 'Z')]
  | "alnum" => [('a', 'z'), ('A', 'Z'), ('0', '9')]
  | "space" => [(' ', ' '), ('\t', '\x0d')]
  | "blank" => [(' ', ' '), ('\t', '\t')]
  | "punct" => [('!', '/'), (':', '@'), ('[', (Char.ofNat 96)), (Char.ofNat 123, '~')]
  | "xdigit" => [('a', 'f'), ('A', 'F'), ('0', '9')]
  | "cntrl" => [('\x00', '\x1f'), ('\x7f', '\x7f')]
  | "print" => [(' ', '~')]
  | "graph" => [('!', '~')]
  | _ => []

/-- Reads ranges up to the closing bracket; none if there is no such bracket. A character is active if
it was not quoted. -/
def readRanges (first : Bool) (read : List (Char × Char)) :
    List (Char × Bool) → Option (List (Char × Char) × List (Char × Bool))
  | [] => none
  | (']', true) :: rest => if first then readRanges false ((']', ']') :: read) rest
    else some (read, rest)
  | ('[', true) :: (':', true) :: rest =>
    let name := rest.takeWhile fun c => c.1.isAlpha
    match h : rest.drop name.length with
    | (':', _) :: (']', _) :: more =>
      have : more.length < rest.length + 2 := by
        have := congrArg List.length h
        simp at this
        omega
      readRanges false (classRanges (String.ofList (name.map (·.1))) ++ read) more
    | _ => readRanges false (('[', '[') :: read) ((':', true) :: rest)
  | (low, _) :: ('-', true) :: (high, active) :: rest =>
    if high = ']' && active then readRanges false ((low, low) :: read) (('-', true) :: (high, active) :: rest)
    else readRanges false ((low, high) :: read) rest
  | (c, _) :: rest => readRanges false ((c, c) :: read) rest
termination_by text => text.length

/-- What is read in patterns besides. -/
structure PatternRules where
  /-- Whether groups are read. -/
  groups : Bool := false
  /-- Whether another sign negates sets too. -/
  caret : Bool := false
deriving DecidableEq, Repr

/-- The choices of a group, whose opening was read, and what is behind it; none if it is not closed. The
choices so far and the one at hand come in reverse. -/
def readChoices (choices : List (List (Char × Bool))) (choice : List (Char × Bool)) :
    Nat → List (Char × Bool) → Option (List (List (Char × Bool)) × List (Char × Bool))
  | _, [] => none
  | level, (c, active) :: rest =>
    if active && c = '(' then readChoices choices ((c, active) :: choice) (level + 1) rest
    else if active && c = ')' then
      if level = 0 then some ((choice.reverse :: choices).reverse, rest)
      else readChoices choices ((c, active) :: choice) (level - 1) rest
    else if active && c = '|' && level = 0 then readChoices (choice.reverse :: choices) [] 0 rest
    else readChoices choices ((c, active) :: choice) level rest

/-- Whether a character with a parenthesis behind it opens a group. -/
def opensGroup (c : Char) : Bool := ['?', '*', '+', '@', '!'].contains c

/-- The pattern that characters make. -/
def Pattern.ofMarked (rules : PatternRules) : Nat → List (Char × Bool) → Pattern
  | 0, _ => []
  | _, [] => []
  | fuel + 1, (c, active) :: rest =>
    let group := if rules.groups && active && opensGroup c && rest.head? = some ('(', true) then
        readChoices [] [] 0 (rest.drop 1)
      else none
    match group with
    | some (choices, rest) => .group c (choices.map (ofMarked rules fuel)) :: ofMarked rules fuel rest
    | none => match c, active, rest with
      | '?', true, rest => .anyCharacter :: ofMarked rules fuel rest
      | '*', true, rest => .anyText :: ofMarked rules fuel rest
      | '\\', true, (c, _) :: rest => .exactly c :: ofMarked rules fuel rest
      | '[', true, rest =>
        let negated := rest.head?.any fun c => c.2 && (c.1 = '!' || (rules.caret && c.1 = '^'))
        match readRanges true [] (if negated then rest.drop 1 else rest) with
        | some (ranges, rest) => .oneOf negated ranges :: ofMarked rules fuel rest
        | none => .exactly '[' :: ofMarked rules fuel rest
      | c, _, rest => .exactly c :: ofMarked rules fuel rest

/-- Whether a piece stands for a character. -/
def Piece.accepts (piece : Piece) (c : Char) : Bool :=
  match piece with
  | .exactly d => c = d
  | .anyCharacter => true
  | .anyText => true
  | .oneOf negated ranges => negated != ranges.any fun range => range.1 ≤ c && c ≤ range.2
  | .group _ _ => false

mutual

/-- The number of pieces in a piece. -/
def Piece.size : Piece → Nat
  | .group _ choices => Pattern.sizeOfAll choices + 1
  | _ => 1

/-- The number of pieces in a pattern. -/
def Pattern.size : List Piece → Nat
  | [] => 1
  | piece :: rest => piece.size + Pattern.size rest

/-- The number of pieces in patterns. -/
def Pattern.sizeOfAll : List (List Piece) → Nat
  | [] => 1
  | pattern :: rest => Pattern.size pattern + Pattern.sizeOfAll rest

end

/-- Whether a text starts with what a pattern stands for, so that what is behind it meets a goal. -/
def Pattern.leadsTo : Nat → Pattern → List Char → (List Char → Bool) → Bool
  | 0, _, _, _ => false
  | _, [], text, goal => goal text
  | fuel + 1, .anyText :: pieces, text, goal =>
    leadsTo fuel pieces text goal || match text with
      | [] => false
      | _ :: rest => leadsTo fuel (.anyText :: pieces) rest goal
  | fuel + 1, .group sign choices :: pieces, text, goal =>
    let behind (rest : List Char) : Bool := leadsTo fuel pieces rest goal
    let again (rest : List Char) : Bool :=
      rest.length < text.length && leadsTo fuel (.group '*' choices :: pieces) rest goal
    let once (goal : List Char → Bool) : Bool := choices.any fun choice => leadsTo fuel choice text goal
    match sign with
    | '?' => behind text || once behind
    | '@' => once behind
    | '*' => behind text || once again
    | '+' => once fun rest => behind rest || again rest
    | _ => (List.range (text.length + 1)).any fun count =>
      !choices.any (fun choice => leadsTo fuel choice (text.take count) List.isEmpty) &&
        behind (text.drop count)
  | _, _ :: _, [], _ => false
  | fuel + 1, piece :: pieces, c :: text, goal => piece.accepts c && leadsTo fuel pieces text goal

/-- Whether the whole of a text is what a pattern stands for. -/
def Pattern.matches (pattern : Pattern) (text : List Char) : Bool :=
  leadsTo ((Pattern.size pattern + 1) * (text.length + 2)) pattern text List.isEmpty

/-- The number of characters at the front of a text that a pattern stands for. -/
def Pattern.matchFront (pattern : Pattern) (longest : Bool) (text : List Char) : Option Nat :=
  let counts := List.range (text.length + 1)
  (if longest then counts.reverse else counts).find? fun count => pattern.matches (text.take count)

/-- The number of characters at the back of a text that a pattern stands for. -/
def Pattern.matchBack (pattern : Pattern) (longest : Bool) (text : List Char) : Option Nat :=
  let counts := List.range (text.length + 1)
  (if longest then counts.reverse else counts).find? fun count =>
    pattern.matches (text.drop (text.length - count))

end Workyard.Shell
