/-
**The text that commands are read from.**

A source is text with the number of the line at hand, the token that was read last, and what has to be
known for the next one: which words are reserved, which stand for other text, and which documents are
still to be read at the end of the line.

* `Read`: what reads from a source; `Fault`: why text cannot be read;
* `next`, `look`: characters; a backslash at the end of a line joins it to the next one.
-/

import Workyard.Shell.Octets
import Workyard.Shell.Syntax

namespace Workyard.Shell

/-- Why text cannot be read, and at which line. -/
structure Fault where
  line : Nat
  words : String
  /-- The status with which a shell of the extended language goes on. -/
  status : Nat := 2
deriving DecidableEq, Repr

/-- A token. -/
inductive Token where
  /-- A word, with its text if nothing in it is quoted or to be replaced. -/
  | word (parts : Word) (bare : Option String)
  | reserved (name : String)
  | operator (symbol : String)
  /-- A redirection of a descriptor; a document may have its tabs dropped. -/
  | redirect (descriptor : Nat) (kind : RedirectKind) (dropsTabs : Bool)
  | newline
  | finish

/-- What is looked for in the next token. -/
structure Wanted where
  /-- Whether the ends of lines are stepped over. -/
  pastLines : Bool := false
  reserved : Bool := false
  aliases : Bool := false
  /-- Whether the word ends a document and nothing in it is replaced. -/
  plainly : Bool := false
deriving DecidableEq, Repr

/-- A document that is to be read at the end of the line. -/
structure Awaited where
  number : Nat
  ending : List Char
  dropsTabs : Bool
  quoted : Bool

/-- An alias whose text is being read. -/
structure ActiveAlias where
  name : String
  /-- The number of characters behind its text. -/
  behind : Nat
  /-- Whether its text ends in a blank, so that the next word may be an alias too. -/
  endsBlank : Bool

/-- The text ahead. -/
structure Source where
  rest : List Char
  /-- The text from the start of the line at hand on. -/
  top : List Char
  /-- More steps than reading the whole text can take. -/
  bound : Nat
  line : Nat := 1
  last : Token := .finish
  /-- Whether the last token is read again. -/
  again : Bool := false
  wanted : Wanted := {}
  aliases : List (String × List Char) := []
  active : List ActiveAlias := []
  awaited : List Awaited := []
  /-- The documents that were read, by number. -/
  documents : List (Nat × Word) := []
  /-- A number that no document has, nor any greater one. -/
  freshDocument : Nat := 0
  /-- Whether groups of patterns are read in words. -/
  groups : Bool := false
  /-- What is doubtful but no fault, newest first. -/
  warnings : List Fault := []

/-- Reading of command text. -/
abbrev Read := StateT Source (Except Fault)

/-- All of a text, from its first line on. -/
def Source.ofText (text : List Char) : Source := { rest := text, top := text, bound := 16 * text.length + 64 }

namespace Read

/-- Stops at a fault. -/
def fail {α : Type} (words : String) : Read α := do
  throw { line := (← get).line, words := s!"Syntax error: {words}" }

/-- More steps than the text can need. -/
def fuel : Read Nat := do return (← get).bound

/-- The next character, which is used. -/
def next : Read (Option Char) := do
  let source ← get
  match source.rest with
  | [] => return none
  | c :: rest =>
    if c = '\n' then set { source with rest, top := rest, line := source.line + 1 }
    else set { source with rest }
    return some c

/-- The next character, which is not used. -/
def look : Read (Option Char) := do return (← get).rest.head?

/-- A text without the joints of lines at its front, and their number. -/
def joinLines : List Char → List Char × Nat
  | '\\' :: '\n' :: rest =>
    let (rest, count) := joinLines rest
    (rest, count + 1)
  | rest => (rest, 0)

/-- Steps over joints of lines. -/
def joining : Read Unit :=
  modify fun source =>
    match source.rest with
    | '\\' :: _ =>
      let (rest, count) := joinLines source.rest
      { source with rest, line := source.line + count }
    | _ => source

/-- The next character behind joints of lines, which is not used. -/
def lookJoined : Read (Option Char) := do
  joining
  look

/-- Uses the character ahead if it is a certain one. -/
def accept (c : Char) : Read Bool := do
  if (← lookJoined) = some c then
    let _ ← next
    return true
  else return false

/-- Uses the characters that fit, joints of lines being stepped over. -/
def takeWhile (fits : Char → Bool) : Nat → List Char → Read (List Char)
  | 0, read => return read.reverse
  | fuel + 1, read => do
    match ← lookJoined with
    | some c =>
      if fits c then
        let _ ← next
        takeWhile fits fuel (c :: read)
      else return read.reverse
    | none => return read.reverse

/-- Says what is looked for in the next token. -/
def want (wanted : Wanted) : Read Unit := modify fun source => { source with wanted }

/-- Has the last token read again. -/
def unread : Read Unit := modify fun source => { source with again := true }

end Read

/-- The words with a meaning of their own at the start of a command. -/
def reservedWords : List String :=
  ["!", "case", "do", "done", "elif", "else", "esac", "fi", "for", "if", "in", "then", "until",
    "while", "\x7b", "\x7d"]

/-- A token in the words of a fault. -/
def Token.describe : Token → String
  | .finish => "end of file"
  | .newline => "newline"
  | .operator symbol => s!"\"{symbol}\""
  | .redirect _ _ _ => "redirection"
  | .reserved name => s!"\"{name}\""
  | .word _ _ => "word"

/-- Whether a token is an operator. -/
def Token.isOperator (token : Token) (symbol : String) : Bool :=
  match token with
  | .operator other => other = symbol
  | _ => false

/-- Whether a token is a reserved word. -/
def Token.isReserved (token : Token) (name : String) : Bool :=
  match token with
  | .reserved other => other = name
  | _ => false

namespace Read

/-- Stops at the last token, which cannot stand where it is. -/
def unexpected {α : Type} (expected : Option String) : Read α := do
  let found := (← get).last.describe
  match expected with
  | some expected => fail s!"{found} unexpected (expecting {expected})"
  | none => fail s!"{found} unexpected"

end Read

end Workyard.Shell
