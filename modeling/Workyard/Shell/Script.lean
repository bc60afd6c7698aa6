/-
**Reading scripts.**

A script is read one complete command at a time, so that what stands in front of a fault is still
carried out, and so that an alias is known from the next line on. A complete command ends at the end of a
line that nothing open runs over.

* `nextCommand`: the next complete command of a script, if there is one.
-/

import Workyard.Shell.Token

namespace Workyard.Shell

open Read

/-- What starts a command: reserved words are looked for, and aliases. -/
def starting : Wanted := { reserved := true, aliases := true }

/-- The same behind the ends of lines. -/
def startingPastLines : Wanted := { starting with pastLines := true }

/-- The reserved words that end what stands in front of them. -/
def endingWords : List String := ["do", "done", "elif", "else", "esac", "fi", "then", "\x7d"]

/-- Whether a token ends a list. -/
def Token.endsList : Token → Bool
  | .finish => true
  | .operator symbol => symbol = ")" || symbol = ";;"
  | .reserved name => endingWords.contains name
  | _ => false

/-- The builtins after which a function cannot be named. -/
def specialBuiltins : List String :=
  [".", ":", "break", "continue", "eval", "exec", "exit", "export", "readonly", "return", "set",
    "shift", "times", "trap", "unset"]

/-- The text of a word that ends a document. -/
def endingText : Word → List Char
  | [] => []
  | .plain text :: rest => text ++ endingText rest
  | .quoted text :: rest => text ++ endingText rest
  | _ :: rest => endingText rest

/-- Whether anything in a word is quoted. -/
def hasQuotes (word : Word) : Bool := word.any fun part => match part with
  | .quoted _ => true
  | _ => false

/-- What a word assigns, if it does. -/
def assignment? : Word → Option Assignment
  | .plain text :: rest =>
    let name := text.takeWhile (· ≠ '=')
    if isName name && name.length < text.length then
      let value := text.drop (name.length + 1)
      some (.mk (String.ofList name) [] false (if value = [] then rest else .plain value :: rest))
    else none
  | _ => none

/-- What has been read of a simple command, newest first. -/
structure Draft where
  assignments : List Assignment := []
  words : List Word := []
  redirects : List Redirect := []
  /-- The assignments and words as they were written, if they are kept. -/
  written : List (List Char) := []

/-- The commands of a list, which come in reverse. -/
def Command.ofReversed : List Command → Command
  | [only] => only
  | commands => .sequence commands.reverse

/-- Reads what a redirection goes to. -/
def redirectTarget (inner : Read Command) (descriptor : Nat) (kind : RedirectKind)
    (dropsTabs : Bool) : Read Redirect := do
  if kind = .here then want { plainly := true }
  match ← readToken inner with
  | .word parts _ =>
    if kind = .here then
      let source ← get
      let number := source.freshDocument
      set { source with
        freshDocument := number + 1
        awaited := source.awaited ++
          [{ number, ending := endingText parts, dropsTabs, quoted := hasQuotes parts : Awaited }] }
      return .document descriptor number
    else return .file descriptor kind parts
  | _ => unexpected none

/-- Reads all redirections ahead. -/
def redirects (inner : Read Command) : Nat → List Redirect → Read (List Redirect)
  | 0, read => return read.reverse
  | fuel + 1, read => do
    match ← readToken inner with
    | .redirect descriptor kind dropsTabs =>
      let one ← redirectTarget inner descriptor kind dropsTabs
      redirects inner fuel (one :: read)
    | _ =>
      unread
      return read.reverse

/-- Reads words up to something else, which is used. -/
def words (inner : Read Command) : Nat → List Word → Read (List Word)
  | 0, read => return read.reverse
  | fuel + 1, read => do
    match ← readToken inner with
    | .word parts _ => words inner fuel (parts :: read)
    | _ => return read.reverse

/-- The word that a token is, whatever it means elsewhere. -/
def Token.asWord : Token → Word
  | .word parts _ => parts
  | .reserved name => [.plain name.toList]
  | _ => []

/-- Reads the patterns of an arm from its first token on, and what stands behind them. -/
def patterns (inner : Read Command) : Nat → List Word → Token → Read (List Word)
  | 0, read, _ => return read.reverse
  | fuel + 1, read, token => do
    let read := token.asWord :: read
    if (← readToken inner).isOperator "|" then patterns inner fuel read (← readToken inner)
    else return read.reverse

/-- Uses the token that must stand here. -/
def expect (inner : Read Command) (symbol : String) : Read Unit := do
  let token ← readToken inner
  if !(token.isOperator symbol || token.isReserved symbol) then unexpected (some s!"\"{symbol}\"")

/-- How a list of commands ends. -/
inductive ListKind where
  /-- With the line. -/
  | line
  /-- With a word or an operator that closes it; it must not be empty. -/
  | body
  /-- The same, but it may be empty. -/
  | open
deriving DecidableEq, Repr

mutual

/-- Reads a list of commands behind those that come in reverse. -/
def list (kind : ListKind) : Nat → Bool → List Command → Read Command
  | 0, _, _ => fail "too deep"
  | fuel + 1, started, read => do
    let inner := list .open fuel false []
    want (if kind = .line then starting else startingPastLines)
    let token ← readToken inner
    match token with
    | .newline =>
      readDocuments inner
      return .ofReversed read
    | .finish =>
      readDocuments inner
      modify fun source => { source with again := true, last := .finish }
      return .ofReversed read
    | _ =>
      unread
      if (kind = .open || (kind = .body && started)) && token.endsList then return .ofReversed read
      else
        let command ← conjunction fuel
        let separator ← readToken inner
        let command := if separator.isOperator "&" then .background command else command
        let read := command :: read
        match separator with
        | .operator "&" => list kind fuel true read
        | .operator ";" => list kind fuel true read
        | .newline =>
          unread
          list kind fuel true read
        | .finish =>
          readDocuments inner
          modify fun source => { source with again := true, last := .finish }
          return .ofReversed read
        | _ =>
          if kind = .line then unexpected none
          else
            unread
            return .ofReversed read

/-- Reads commands joined by `&&` and `||`. -/
def conjunction : Nat → Read Command
  | 0 => fail "too deep"
  | fuel + 1 => do
    let first ← pipeline fuel
    conjunctionFrom fuel first

/-- Reads on behind a command that may be joined to others. -/
def conjunctionFrom : Nat → Command → Read Command
  | 0, first => return first
  | fuel + 1, first => do
    match ← readToken (list .open fuel false []) with
    | .operator "&&" =>
      want startingPastLines
      conjunctionFrom fuel (.both first (← pipeline fuel))
    | .operator "||" =>
      want startingPastLines
      conjunctionFrom fuel (.either first (← pipeline fuel))
    | _ =>
      unread
      return first

/-- Reads a pipeline. -/
def pipeline : Nat → Read Command
  | 0 => fail "too deep"
  | fuel + 1 => do
    let negated := (← readToken (list .open fuel false [])).isReserved "!"
    if negated then want starting else unread
    let first ← command fuel
    let commands ← pipelineFrom fuel [first]
    match negated, commands with
    | false, [only] => return only
    | _, _ => return .pipeline negated commands

/-- Reads on behind the first commands of a pipeline, which come in reverse. -/
def pipelineFrom : Nat → List Command → Read (List Command)
  | 0, read => return read.reverse
  | fuel + 1, read => do
    if (← readToken (list .open fuel false [])).isOperator "|" then
      want startingPastLines
      let next ← command fuel
      pipelineFrom fuel (next :: read)
    else
      unread
      return read.reverse

/-- Reads a command. -/
def command : Nat → Read Command
  | 0 => fail "too deep"
  | fuel + 1 => do
    let inner := list .open fuel false []
    let line := (← get).line
    let closing (symbol : String) (body : Command) : Read Command := do
      expect inner symbol
      withRedirects line body fuel
    match ← readToken inner with
    | .reserved "if" => closing "fi" (← branches fuel)
    | .reserved "while" => closing "done" (← loopOf false fuel)
    | .reserved "until" => closing "done" (← loopOf true fuel)
    | .reserved "for" =>
      match ← readToken inner with
      | .word _ (some name) =>
        if !isName name.toList then fail "Bad for loop variable"
        want startingPastLines
        let chosen ← match ← readToken inner with
          | .reserved "in" => do
            let chosen ← words inner (← Read.fuel) []
            match (← get).last with
            | .newline | .operator ";" => pure (some chosen)
            | _ => unexpected none
          | token => do
            if !token.isOperator ";" then unread
            pure none
        want startingPastLines
        expect inner "do"
        let body ← list .body fuel false []
        closing "done" (.each line name chosen body)
      | _ => fail "Bad for loop variable"
    | .reserved "case" =>
      match ← readToken inner with
      | .word subject _ =>
        want startingPastLines
        expect inner "in"
        let choices ← arms fuel []
        withRedirects line (.select line subject choices) fuel
      | _ => unexpected (some "word")
    | .operator "(" => do
      let body ← list .body fuel false []
      closing ")" (.subshell line body [])
    | .reserved "\x7b" => closing "\x7d" (← list .body fuel false [])
    | .word _ _ =>
      unread
      simple (← get).line fuel true {}
    | .redirect _ _ _ =>
      unread
      simple (← get).line fuel true {}
    | _ => unexpected none

/-- Reads the redirections behind a compound command. -/
def withRedirects (line : Nat) (body : Command) : Nat → Read Command
  | 0 => return body
  | fuel + 1 => do
    want starting
    match ← redirects (list .open fuel false []) (← Read.fuel) [], body with
    | [], body => return body
    | list, .subshell line body _ => return .subshell line body list
    | list, body => return .redirected line body list

/-- Reads the parts of a branch behind its first word. -/
def branches : Nat → Read Command
  | 0 => fail "too deep"
  | fuel + 1 => do
    let inner := list .open fuel false []
    let condition ← list .body fuel false []
    expect inner "then"
    let body ← list .body fuel false []
    match ← readToken inner with
    | .reserved "elif" => return .branch condition body (← branches fuel)
    | .reserved "else" => return .branch condition body (← list .body fuel false [])
    | _ =>
      unread
      return .branch condition body .nothing

/-- Reads a loop behind its first word. -/
def loopOf (untilTrue : Bool) : Nat → Read Command
  | 0 => fail "too deep"
  | fuel + 1 => do
    let condition ← list .body fuel false []
    expect (list .open fuel false []) "do"
    let body ← list .body fuel false []
    return .loop untilTrue condition body

/-- Reads the arms of a selection up to its end. -/
def arms : Nat → List (List Word × Command × Follow) → Read (List (List Word × Command × Follow))
  | 0, _ => fail "too deep"
  | fuel + 1, read => do
    let inner := list .open fuel false []
    want { pastLines := true, reserved := true }
    let token ← readToken inner
    if token.isReserved "esac" then return read.reverse
    else
      let token ← if token.isOperator "(" then readToken inner else pure token
      let chosen ← patterns inner (← Read.fuel) [] token
      if !(← get).last.isOperator ")" then unexpected (some "\")\"")
      let body ← list .open fuel false []
      want { pastLines := true, reserved := true }
      let token ← readToken inner
      let read := (chosen, body, .stop) :: read
      if token.isReserved "esac" then return read.reverse
      else if token.isOperator ";;" then arms fuel read
      else unexpected (some "\";;\"")

/-- Reads a simple command or the definition of a function. -/
def simple (line : Nat) : Nat → Bool → Draft → Read Command
  | 0, _, _ => fail "too deep"
  | fuel + 1, first, draft => do
    let inner := list .open fuel false []
    if first then want { aliases := true }
    match ← readToken inner with
    | .word parts _ =>
      match first, assignment? parts with
      | true, some assignment =>
        simple line fuel true { draft with assignments := assignment :: draft.assignments }
      | _, _ => simple line fuel false { draft with words := parts :: draft.words }
    | .redirect descriptor kind dropsTabs =>
      let one ← redirectTarget inner descriptor kind dropsTabs
      simple line fuel first { draft with redirects := one :: draft.redirects }
    | token =>
      match token.isOperator "(", draft with
      | true, ⟨[], [word], [], _⟩ =>
        expect inner ")"
        match bareText word with
        | some name =>
          if !isName name.toList || specialBuiltins.contains name then fail "Bad function name"
          want startingPastLines
          let line := (← get).line
          return .define line name (← command fuel)
        | none => fail "Bad function name"
      | _, _ =>
        unread
        return .simple line draft.assignments.reverse draft.words.reverse draft.redirects.reverse []

end

/-- The word that a text in double quotes is. -/
def template (text : List Char) : Except Fault Word := do
  let source := Source.ofText text
  let inner : Read Command := do list .open (← fuel) false []
  let ending : Awaited := { number := 0, ending := ['\n'], dropsTabs := false, quoted := false }
  let part : Read Weave := do
    weaveOn inner false (some ending) (← fuel) { layer := { rules := .double, doubled := true } }
  let (weave, _) ← part.run source
  return .quoted [] :: Stitch.parts weave.stitches

/-- The next complete command of a script, or none at its end, and what is behind it. -/
def nextCommand (source : Source) : Except Fault (Option Command × Source) := do
  let part : Read (Option Command) := do
    modify fun source => { source with again := false, wanted := {}, awaited := [] }
    let bound ← fuel
    let command ← list .line bound false []
    match command, (← get).last with
    | .sequence [], .finish => return none
    | command, _ => return some command
  part.run source

end Workyard.Shell
