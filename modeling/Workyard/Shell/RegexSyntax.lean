/-
**The ways to write regular expressions.**

In the basic way, the characters that group, repeat and choose stand behind backslashes; in the extended
way they act by themselves.

* `Regex.read`: the expression that a text spells.
-/

import Workyard.Shell.Octets
import Workyard.Shell.Regex

namespace Workyard.Shell

/-- A way to write regular expressions. -/
structure Dialect where
  extended : Bool
  /-- Whether what acts on nothing, and what is left open, is refused. -/
  strict : Bool := true
  /-- Whether what repeats may not stand behind another such. -/
  once : Bool := false
  /-- Whether the name of a class must stand in two pairs of brackets. -/
  helps : Bool := true
  /-- Whether the ends of a range must be in order. -/
  ordered : Bool := true
deriving DecidableEq, Repr

/-- What is wrong with a regular expression. -/
inductive RegexFault where
  | invalid
  | openBracket
  | openGroup
  | closedGroup
  | nothingToRepeat
  | backslash
  | reference
  | openInterval
  | interval
  | range
  | className
  | collation
  | tooBig
  | lonelyClass
deriving DecidableEq, Repr

/-- The words for a fault. -/
def RegexFault.words : RegexFault → String
  | .invalid => "Invalid regular expression"
  | .openBracket => "Unmatched [, [^, [:, [., or [="
  | .openGroup => "Unmatched ( or \\("
  | .closedGroup => "Unmatched ) or \\)"
  | .nothingToRepeat => "Invalid preceding regular expression"
  | .backslash => "Trailing backslash"
  | .reference => "Invalid back reference"
  | .openInterval => "Unmatched \\\x7b"
  | .interval => "Invalid content of \\\x7b\\\x7d"
  | .range => "Invalid range end"
  | .className => "Invalid character class name"
  | .collation => "Invalid collation character"
  | .tooBig => "Regular expression too big"
  | .lonelyClass => "character class syntax is [[:space:]], not [:space:]"

namespace Regex

/-- A token. -/
inductive Token where
  | character (c : Char)
  | oneOf (accepted : OneOf)
  | bracket
  | opening
  | closing
  | bar
  | brace
  /-- Repeats what stands in front of it. -/
  | repeats (c : Char) (least : Nat) (most : Option Nat)
  | anchor (anchor : Anchor)
  | again (number : Nat)
deriving DecidableEq, Repr

/-- The characters of words. -/
def wordRanges : List (Char × Char) := ('_', '_') :: classRanges "alnum"

/-- The token behind a backslash. -/
def escapedToken (dialect : Dialect) (c : Char) : Token :=
  match c with
  | '<' => .anchor .wordStart
  | '>' => .anchor .wordEnd
  | 'b' => .anchor .wordEdge
  | 'B' => .anchor .insideWord
  | '\'' => .anchor .textEnd
  | 'w' => .oneOf ⟨false, wordRanges⟩
  | 'W' => .oneOf ⟨true, wordRanges⟩
  | 's' => .oneOf ⟨false, classRanges "space"⟩
  | 'S' => .oneOf ⟨true, classRanges "space"⟩
  | c =>
    if c.toNat = 96 then .anchor .textStart
    else if '1' ≤ c && c ≤ '9' then .again (c.toNat - '0'.toNat)
    else if dialect.extended then .character c
    else match c with
      | '(' => .opening
      | ')' => .closing
      | '|' => .bar
      | '+' => .repeats '+' 1 none
      | '?' => .repeats '?' 0 (some 1)
      | c => if c.toNat = 123 then .brace else .character c

/-- The token at the front of a text, and the text behind it; `fresh` at the beginning of a branch. -/
def token? (dialect : Dialect) (fresh : Bool) : List Char → Except RegexFault (Option (Token × List Char))
  | [] => .ok none
  | ['\\'] => .error .backslash
  | '\\' :: c :: rest => .ok (some (escapedToken dialect c, rest))
  | c :: rest =>
    let atEnd : Bool := match rest with
      | [] => true
      | '\\' :: d :: _ => !dialect.extended && (d = ')' || d = '|')
      | _ => false
    let token : Token := match c with
      | '*' => .repeats '*' 0 none
      | '.' => .oneOf ⟨true, []⟩
      | '[' => .bracket
      | '^' => if dialect.extended || fresh then .anchor .lineStart else .character c
      | '$' => if dialect.extended || atEnd then .anchor .lineEnd else .character c
      | c =>
        if !dialect.extended then .character c
        else match c with
          | '(' => .opening
          | ')' => .closing
          | '|' => .bar
          | '+' => .repeats '+' 1 none
          | '?' => .repeats '?' 0 (some 1)
          | c => if c.toNat = 123 then .brace else .character c
    .ok (some (token, rest))

/-! ### Brackets -/

/-- Reads what a mark such as a colon encloses inside brackets, behind the first mark. -/
def enclosed (mark : Char) : List Char → Option (List Char × List Char)
  | [] => none
  | c :: rest =>
    if c = mark && rest.head? = some ']' then some ([], rest.drop 1)
    else (enclosed mark rest).map fun found => (c :: found.1, found.2)

/-- Reads one end of a range inside brackets. -/
def bracketCharacter (text : List Char) : Except RegexFault (Char × List Char) :=
  match text with
  | [] => .error .openBracket
  | '[' :: '.' :: rest => match enclosed '.' rest with
    | some ([c], rest) => .ok (c, rest)
    | some _ => .error .collation
    | none => .error .openBracket
  | c :: rest => .ok (c, rest)

/-- Reads the ranges in brackets up to the closing one. -/
def bracketRanges (dialect : Dialect) : Nat → Bool → List Char → List (Char × Char) →
    Except RegexFault (List (Char × Char) × List Char)
  | 0, _, _, _ => .error .openBracket
  | fuel + 1, first, text, read =>
    match text with
    | [] => .error .openBracket
    | '[' :: ':' :: rest => match enclosed ':' rest with
      | none => .error .openBracket
      | some (name, rest) =>
        let ranges := classRanges (String.ofList name)
        if ranges.isEmpty then .error .className
        else bracketRanges dialect fuel false rest (ranges ++ read)
    | '[' :: '=' :: rest => match enclosed '=' rest with
      | some ([c], rest) => bracketRanges dialect fuel false rest ((c, c) :: read)
      | some _ => .error .collation
      | none => .error .openBracket
    | c :: rest =>
      if c = ']' && !first then .ok (read, rest)
      else do
        let (low, behind) ← bracketCharacter (c :: rest)
        match behind with
        | '-' :: next :: more =>
          if next = ']' then bracketRanges dialect fuel false behind ((low, low) :: read)
          else
            let (high, behind) ← bracketCharacter (next :: more)
            if dialect.ordered && high < low then throw .range
            bracketRanges dialect fuel false behind ((low, high) :: read)
        | behind => bracketRanges dialect fuel false behind ((low, low) :: read)

/-- Reads what stands in brackets, behind the opening one. -/
def bracket (dialect : Dialect) (text : List Char) : Except RegexFault (OneOf × List Char) := do
  let negated : Bool := text.head? = some '^'
  let inner := if negated then text.drop 1 else text
  if inner = [] then throw .invalid
  let (ranges, rest) ← bracketRanges dialect (inner.length + 1) true inner []
  let held := inner.take (inner.length - rest.length - 1)
  if dialect.helps && !negated && 2 < held.length && held.head? = some ':' && held.getLast? = some ':' then
    throw .lonelyClass
  return (⟨negated, ranges⟩, rest)

/-! ### Intervals -/

/-- The greatest number of an interval. -/
def maxRepeats : Nat := 32767

/-- What stands between braces, behind the opening one: the numbers, if they are some, and the text
behind the closing brace; none if there is no such brace. -/
def intervalText (dialect : Dialect) : List Char → Option (List Char × List Char)
  | [] => none
  | c :: rest =>
    if dialect.extended && c.toNat = 125 then some ([], rest)
    else if !dialect.extended && c = '\\' && rest.head?.map Char.toNat = some 125 then some ([], rest.drop 1)
    else (intervalText dialect rest).map fun found => (c :: found.1, found.2)

/-- The numbers of an interval, behind the opening brace; nothing if it is none and may be text. -/
def interval (dialect : Dialect) (text : List Char) :
    Except RegexFault (Option (Nat × Option Nat × List Char)) :=
  let loose := dialect.extended && !dialect.strict
  match intervalText dialect text with
  | none => if loose then .ok none else .error .openInterval
  | some (inner, rest) =>
    let first := inner.takeWhile Char.isDigit
    let refused : Except RegexFault (Option (Nat × Option Nat × List Char)) :=
      if loose then .ok none else .error .interval
    let bounded (least : Nat) (most : Option Nat) : Except RegexFault (Option (Nat × Option Nat × List Char)) :=
      if most.any (· < least) then .error .interval
      else if maxRepeats < most.getD least then .error .tooBig
      else .ok (some (least, most, rest))
    match inner.drop first.length with
    | [] => if first = [] then refused else bounded (valueIn 10 first) (some (valueIn 10 first))
    | ',' :: last =>
      if last.all Char.isDigit then
        bounded (valueIn 10 first) (if last = [] then none else some (valueIn 10 last))
      else refused
    | _ => refused

/-! ### Expressions -/

/-- What is known while an expression is read. -/
structure Reading where
  rest : List Char
  /-- The number of groups that were opened. -/
  opened : Nat := 0
  /-- The groups that were closed. -/
  closed : List Nat := []
  warnings : List String := []

/-- Reads on or stops at a fault. -/
abbrev Read := StateT Reading (Except RegexFault)

/-- The expression for one character. -/
def single (c : Char) : Regex := .character ⟨false, [(c, c)]⟩

/-- Goes on behind a token. -/
def leave (rest : List Char) : Read Unit := modify fun reading => { reading with rest }

/-- Reads what repeats an expression. -/
def repetitions (dialect : Dialect) : Nat → Regex → Read Regex
  | 0, body => return body
  | fuel + 1, body => do
    let follows : Read Bool := do
      match token? dialect false (← get).rest with
      | .ok (some (.repeats '*' _ _, _)) => return true
      | .ok (some (.brace, _)) => return true
      | _ => return false
    match ← token? dialect false (← get).rest with
    | some (.repeats _ least most, rest) =>
      leave rest
      if dialect.once && (← follows) then throw .nothingToRepeat
      repetitions dialect fuel (.repeated body least most)
    | some (.brace, rest) =>
      match ← interval dialect rest with
      | none => return body
      | some (least, most, rest) =>
        leave rest
        if dialect.once && (← follows) then throw .nothingToRepeat
        repetitions dialect fuel (.repeated body least most)
    | _ => return body

mutual

/-- Reads alternatives. -/
def alternatives (dialect : Dialect) (depth : Nat) : Nat → Read Regex
  | 0 => return .nothing
  | fuel + 1 => do
    let first ← branch dialect depth fuel true .nothing
    match ← token? dialect false (← get).rest with
    | some (.bar, rest) =>
      leave rest
      return .either first (← alternatives dialect depth fuel)
    | _ => return first

/-- Reads the pieces of a branch behind others; `fresh` if a caret would be an anchor. -/
def branch (dialect : Dialect) (depth : Nat) : Nat → Bool → Regex → Read Regex
  | 0, _, read => return read
  | fuel + 1, fresh, read => do
    let add (piece : Regex) : Regex := match read with
      | .nothing => piece
      | read => .sequence read piece
    let plain (c : Char) (rest : List Char) : Read Regex := do
      leave rest
      let piece ← repetitions dialect fuel (single c)
      branch dialect depth fuel false (add piece)
    match ← token? dialect fresh (← get).rest with
    | none => return read
    | some (.bar, _) => return read
    | some (.closing, rest) =>
      if depth ≠ 0 then return read
      else if dialect.extended && !dialect.strict then plain ')' rest
      else throw .closedGroup
    | some (.repeats c _ _, rest) =>
      if !dialect.extended then plain c rest
      else if dialect.strict then throw .nothingToRepeat
      else
        modify fun reading => { reading with
          rest, warnings := s!"{c} at start of expression" :: reading.warnings }
        branch dialect depth fuel true read
    | some (.brace, rest) =>
      if dialect.strict && (dialect.extended || dialect.once) then throw .nothingToRepeat
      else if !dialect.extended then plain '\x7b' rest
      else match ← interval dialect rest with
        | none => plain '\x7b' rest
        | some (_, _, rest) =>
          modify fun reading => { reading with
            rest, warnings := "\x7b...\x7d at start of expression" :: reading.warnings }
          branch dialect depth fuel true read
    | some (.anchor anchor, rest) =>
      leave rest
      branch dialect depth fuel true (add (.place anchor))
    | some (.character c, rest) => plain c rest
    | some (.oneOf accepted, rest) =>
      leave rest
      let piece ← repetitions dialect fuel (.character accepted)
      branch dialect depth fuel false (add piece)
    | some (.bracket, rest) =>
      let (accepted, rest) ← bracket dialect rest
      leave rest
      let piece ← repetitions dialect fuel (.character accepted)
      branch dialect depth fuel false (add piece)
    | some (.again number, rest) =>
      if !(← get).closed.contains number then throw .reference
      leave rest
      let piece ← repetitions dialect fuel (.again number)
      branch dialect depth fuel false (add piece)
    | some (.opening, rest) =>
      let number := (← get).opened + 1
      modify fun reading => { reading with rest, opened := number }
      let inner ← alternatives dialect (depth + 1) fuel
      match ← token? dialect false (← get).rest with
      | some (.closing, rest) =>
        modify fun reading => { reading with rest, closed := number :: reading.closed }
        let piece ← repetitions dialect fuel (.group number inner)
        branch dialect depth fuel false (add piece)
      | _ => throw .openGroup

end

/-- The expression that a text spells, the number of its groups, and what there is to be said about it. -/
def read (dialect : Dialect) (text : List Char) : Except RegexFault (Regex × Nat × List String) := do
  let (regex, reading) ← (alternatives dialect 0 (2 * text.length + 2)).run { rest := text }
  return (regex, reading.opened, reading.warnings.reverse)

end Regex

end Workyard.Shell
