/-
**Reading scripts of the extended language.**

A script is read one complete command at a time. What comes next is told from the characters ahead: a sign
of the language, a reserved word, an assignment, a redirection or any other word.

* `nextCommand`: the next complete command of a script, if there is one.
-/

import Workyard.Shell.Extended.Word
import Workyard.Shell.Script

namespace Workyard.Shell.Extended

open Read

/-! ### What comes next -/

/-- The signs of the language, longer ones before those they start with. -/
def signs : List String :=
  ["&>>", "<<<", "<<-", ";;&", "&&", "&>", "||", "|&", ";;", ";&", "<<", "<&", "<>", ">>", ">&", ">|",
    "&", "|", ";", "(", ")", "<", ">"]

/-- The words with a meaning of their own at the start of a command. -/
def reservedWords : List String :=
  ["if", "then", "elif", "else", "fi", "time", "for", "in", "until", "while", "do", "done", "case",
    "esac", "coproc", "select", "function", "\x7b", "\x7d", "[[", "]]", "!"]

/-- The reserved words that end what stands in front of them. -/
def endingWords : List String := ["then", "elif", "else", "fi", "do", "done", "esac", "\x7d"]

/-- Steps over blanks and comments. -/
def space : Read Unit := do blanks (← fuel)

/-- The sign ahead. -/
def signAhead : Read (Option String) := do
  space
  let rest := (← get).rest
  return signs.find? fun sign => sign.toList.isPrefixOf rest

/-- Uses the sign ahead if it is a certain one. -/
def acceptSign (sign : String) : Read Bool := do
  if (← signAhead) = some sign then
    modify fun source => { source with rest := source.rest.drop sign.length }
    return true
  else return false

/-- The word ahead, if nothing in it is quoted or to be replaced. -/
def bareAhead : Read (Option String) := do
  space
  let text := (← get).rest.takeWhile fun c => !isBreak c
  let solid := text.all fun c => ! ['\\', '\'', '"', '$', Char.ofNat 96].contains c
  return if text ≠ [] && solid then some (String.ofList text) else none

/-- Uses the word ahead if it is a certain one. -/
def acceptWord (name : String) : Read Bool := do
  if (← bareAhead) = some name then
    modify fun source => { source with rest := source.rest.drop name.length }
    return true
  else return false

/-- Puts the text of the alias ahead in its place, if the word ahead is one whose text is not being read. -/
def expandAlias : Nat → Read Unit
  | 0 => return
  | fuel + 1 => do
    match ← bareAhead with
    | none => return
    | some name =>
      let source ← get
      let active := source.active.filter fun one => one.behind < source.rest.length
      match source.aliases.lookup name with
      | none => return
      | some text =>
        if active.any (·.name = name) then return
        else
          let behind := source.rest.drop name.length
          let endsBlank : Bool := text.getLast?.any isSpace
          set { source with
            rest := text ++ behind, active := ⟨name, behind.length, endsBlank⟩ :: active }
          expandAlias fuel

/-- Does the same if the word ahead stands behind an alias whose text ends in a blank. -/
def expandBehind : Read Unit := do
  space
  let source ← get
  let passed (one : ActiveAlias) : Bool := source.rest.length ≤ one.behind
  if source.active.any fun one => one.endsBlank && passed one then
    set { source with active := source.active.filter fun one => !passed one }
    expandAlias (← fuel)

/-- Whether a word is ahead. -/
def isWordAhead : Read Bool := do
  space
  match (← get).rest with
  | '<' :: '(' :: _ => return true
  | '>' :: '(' :: _ => return true
  | c :: _ => return !isBreak c
  | [] => return false

/-! ### Faults -/

/-- Stops at text that ends too early. -/
def ended {α : Type} : Read α := do
  throw { line := ← lineBehind, words := "syntax error: unexpected end of file" }

/-- The token ahead in the words of a fault; nothing at the end of the text. -/
def tokenAhead (inner : Read Command) : Read (Option String) := do
  match ← signAhead with
  | some sign => return some sign
  | none =>
    let source ← get
    match source.rest with
    | [] => return none
    | '\n' :: _ => return some "newline"
    | _ =>
      let _ ← word inner
      let text := source.rest.take (source.rest.length - (← get).rest.length)
      set source
      return some (String.ofList text)

/-- Stops at the token ahead, which cannot stand where it is. -/
def unexpected {α : Type} (inner : Read Command) (endsEarly : Bool) : Read α := do
  match ← tokenAhead inner, endsEarly with
  | none, true => ended
  | token, _ =>
    let token := token.getD "newline"
    let text ← lineText
    throw { line := (← get).line, words := s!"syntax error near unexpected token `{token}'\n`{text}'" }

/-- Uses the reserved word that must stand here. -/
def expectWord (inner : Read Command) (name : String) : Read Unit := do
  if !(← acceptWord name) then unexpected inner true

/-! ### Documents -/

/-- Whether a line goes on in the next one. -/
def goesOn (line : List Char) : Bool := (line.reverse.takeWhile (· = '\\')).length % 2 = 1

/-- The lines of a document up to the one that ends it, each with its end; `true` if that one is there. A
line onto which another was joined cannot end it. -/
def documentLines (awaited : Awaited) : Nat → Bool → List Char → List (List Char) →
    List (List Char) × List Char × Bool
  | 0, _, rest, read => (read.reverse, rest, false)
  | _, _, [], read => (read.reverse, [], false)
  | fuel + 1, joined, rest, read =>
    let whole := rest.takeWhile (· ≠ '\n')
    let behind := rest.drop whole.length
    let line := if awaited.dropsTabs then whole.dropWhile (· = '\t') else whole
    if line = awaited.ending && !joined then (read.reverse, behind.drop 1, true)
    else
      documentLines awaited fuel (!awaited.quoted && goesOn line) (behind.drop 1)
        ((line ++ behind.take 1) :: read)

/-- Reads the documents that are awaited. -/
def readDocuments (inner : Read Command) : Read Unit := do
  let awaited := (← get).awaited
  modify fun source => { source with awaited := [] }
  for document in awaited do
    let source ← get
    let (lines, rest, complete) := documentLines document (source.rest.length + 1) false source.rest []
    let ended : Bool := (lines.getLastD ['\n']).getLast? = some '\n'
    let joined : Bool := !complete && !document.quoted && ended && goesOn ((lines.getLastD []).dropLast)
    let text := lines.flatten ++ (if ended && !joined then [] else ['\n'])
    let first ← if source.rest = [] then lineBehind else pure source.line
    let line := first + lines.length + (if complete then 1 else 0)
    set { source with rest, top := rest, line }
    let parts ← if document.quoted then pure [Part.quoted text]
      else within text do
        return Stitch.parts (← stitches inner { mode := .document, ends := fun _ => false } (← fuel) 0 [])
    modify fun after => { after with
      line, documents := (document.number, .quoted [] :: parts) :: after.documents }
    if !complete then
      let ending := String.ofList document.ending
      let words := s!"warning: here-document at line {first - 1} delimited by end-of-file (wanted `{ending}')"
      let warning : Fault := { line := if joined then line else line - 1, words }
      modify fun after => { after with warnings := warning :: after.warnings }

/-- Uses the end of the line ahead, and the documents behind it; `false` if something else is ahead. -/
def lineEnd (inner : Read Command) : Read Bool := do
  space
  if (← look) = some '\n' then
    let _ ← next
    readDocuments inner
    return true
  else return false

/-- Steps over the ends of lines. -/
def lineEnds (inner : Read Command) : Nat → Read Unit
  | 0 => return
  | fuel + 1 => do
    if ← lineEnd inner then lineEnds inner fuel

/-! ### Redirections -/

/-- What stands in front of the sign of a redirection: nothing, digits, or a name in braces. -/
def redirectFront : Read (Option (List Char)) := do
  space
  let rest := (← get).rest
  let digits := rest.takeWhile Char.isDigit
  let braced := match rest with
    | '\x7b' :: more =>
      let name := more.takeWhile isNameChar
      if isName name && (more.drop name.length).head? = some '\x7d' then '\x7b' :: name ++ ['\x7d'] else []
    | _ => []
  let front := if digits ≠ [] then digits else braced
  match rest.drop front.length with
  | '<' :: '(' :: _ => return none
  | '>' :: '(' :: _ => return none
  | '<' :: _ => return some front
  | '>' :: _ => return some front
  | '&' :: '>' :: _ => return if front = [] then some [] else none
  | _ => return none

/-- Reads the redirection ahead, if there is one. -/
def redirect? (inner : Read Command) : Read (Option Redirect) := do
  match ← redirectFront with
  | none => return none
  | some front =>
    modify fun source => { source with rest := source.rest.drop front.length }
    let sign := (← signAhead).getD ""
    modify fun source => { source with rest := source.rest.drop sign.length }
    if !(← isWordAhead) then unexpected inner false
    let target ← word inner
    let output : Bool := sign.startsWith ">"
    let descriptor := if front = [] then (if output then 1 else 0) else valueIn 10 front
    let kind : RedirectKind := match sign with
      | ">" => .output
      | ">>" => .append
      | ">|" => .clobber
      | "<>" => .readWrite
      | "<&" => .duplicate
      | ">&" => .duplicate
      | _ => .input
    match front with
    | '\x7b' :: name => return some (.named (String.ofList name.dropLast) kind target)
    | _ =>
      if sign = "&>" then return some (.both false target)
      else if sign = "&>>" then return some (.both true target)
      else if sign = "<<<" then return some (.text descriptor target)
      else if sign = "<<" || sign = "<<-" then
        let source ← get
        let number := source.freshDocument
        set { source with
          freshDocument := number + 1
          awaited := source.awaited ++
            [{ number, ending := endingText target, dropsTabs := sign = "<<-"
               quoted := hasQuotes target : Awaited }] }
        return some (.document descriptor number)
      else if sign = ">&" && front = [] && !(bareText target).any fun text =>
          text.toList.all fun c => c.isDigit || c = '-' then
        match bareText target with
        | some _ => return some (.both false target)
        | none => return some (.file descriptor kind target)
      else return some (.file descriptor kind target)

/-- Reads the redirections ahead. -/
def redirects (inner : Read Command) : Nat → List Redirect → Read (List Redirect)
  | 0, read => return read.reverse
  | fuel + 1, read => do
    match ← redirect? inner with
    | some one => redirects inner fuel (one :: read)
    | none => return read.reverse

/-! ### Conditions -/

/-- The questions about one word. -/
def questions : List String :=
  ["-a", "-b", "-c", "-d", "-e", "-f", "-g", "-h", "-k", "-n", "-o", "-p", "-r", "-s", "-t", "-u", "-v",
    "-w", "-x", "-z", "-G", "-L", "-N", "-O", "-R", "-S"]

/-- The comparisons of two words. -/
def comparisons : List String :=
  ["=", "==", "!=", "=~", "<", ">", "-eq", "-ne", "-lt", "-le", "-gt", "-ge", "-nt", "-ot", "-ef"]

/-- Stops at a fault in a condition. -/
def wrongTest {α : Type} (words : String) (near : String) : Read α := do
  let text ← lineText
  let first := if words = "" then "" else words ++ "\n"
  throw { line := (← get).line, words := s!"{first}syntax error near `{near}'\n`{text}'" }

/-- Reads a word of a condition. -/
def testWord (inner : Read Command) (pattern regular : Bool) : Read Word := do
  let ends (c : Char) : Bool :=
    if regular then c = ' ' || c = '\t' || c = '\n' || c = '&' || c = ';' || c = ')' || c = '<' || c = '>'
    else isBreak c
  Stitch.parts <$> stitches inner
    { mode := .bare, ends, nested := if regular then some ('(', ')') else none
      groups := pattern && !regular } (← fuel) 0 []

mutual

/-- Reads conditions joined by `||`. -/
def anyTest (inner : Read Command) : Nat → Read Test
  | 0 => fail "too deep"
  | fuel + 1 => do
    let first ← allTest inner fuel
    if ← acceptSign "||" then return .either first (← anyTest inner fuel) else return first

/-- Reads conditions joined by `&&`. -/
def allTest (inner : Read Command) : Nat → Read Test
  | 0 => fail "too deep"
  | fuel + 1 => do
    let first ← oneTest inner fuel
    lineEnds inner (← Read.fuel)
    if ← acceptSign "&&" then return .both first (← allTest inner fuel) else return first

/-- Reads one condition. -/
def oneTest (inner : Read Command) : Nat → Read Test
  | 0 => fail "too deep"
  | fuel + 1 => do
    lineEnds inner (← Read.fuel)
    if ← acceptSign "(" then
      let test ← anyTest inner fuel
      if ← acceptSign ")" then return test
      else
        let token := (← tokenAhead inner).getD "newline"
        wrongTest s!"unexpected token `{token}', expected `)'" token
    else if ← acceptWord "!" then return .not (← oneTest inner fuel)
    else
      let bare ← bareAhead
      if bare = some "]]" then wrongTest "" "]]"
      else if !(← isWordAhead) then
        let token := (← tokenAhead inner).getD "newline"
        wrongTest s!"unexpected token `{token}' in conditional command" token
      else
        let front ← get
        let first ← word inner
        let text := String.ofList (front.rest.take (front.rest.length - (← get).rest.length))
        match bare with
        | some question =>
          if questions.contains question && (← comparisonAhead).isNone then
            if (← bareAhead) = some "]]" || !(← isWordAhead) then
              let token := (← tokenAhead inner).getD "newline"
              let joint ← signAhead
              if token = "]]" || joint.isNone then
                wrongTest s!"unexpected argument `{token}' to conditional unary operator" token
              else return .one "-n" first
            else return .one question (← word inner)
          else behind first text
        | none => behind first text
where
  /-- The comparison ahead. -/
  comparisonAhead : Read (Option String) := do
    match ← signAhead with
    | some "<" => return some "<"
    | some ">" => return some ">"
    | _ => return (← bareAhead).filter comparisons.contains
  /-- Reads on behind the first word of a condition. -/
  behind (first : Word) (text : String) : Read Test := do
    match ← comparisonAhead with
    | some name =>
      modify fun source => { source with rest := source.rest.drop name.length }
      space
      let close : Bool := (← bareAhead) = some "]]"
      let missing : Bool := close || ((!(← isWordAhead)) && name ≠ "=~")
      if missing then
        let token := (← tokenAhead inner).getD "newline"
        wrongTest s!"unexpected argument `{token}' to conditional binary operator" token
      let isPattern : Bool := name = "=" || name = "==" || name = "!="
      return .two name first (← testWord inner isPattern (name = "=~"))
    | none =>
      if (← bareAhead) = some "]]" then return .one "-n" first
      else match ← signAhead with
        | some "&&" => return .one "-n" first
        | some "||" => return .one "-n" first
        | some ")" => return .one "-n" first
        | _ =>
          if ← isWordAhead then
            let token := (← tokenAhead inner).getD "newline"
            wrongTest "conditional binary operator expected" token
          else
            let source ← get
            lineEnds inner (← Read.fuel)
            if (← bareAhead) = some "]]" then return .one "-n" first
            else
              set source
              let token := (← tokenAhead inner).getD "newline"
              wrongTest s!"unexpected token `{token}', conditional binary operator expected"
                (if token = "newline" then text else token)

end

/-! ### Commands -/

/-- The words in front of an assignment that is an argument. -/
def declaringWords : List String := ["declare", "typeset", "local", "export", "readonly", "alias", "eval"]

/-- The text up to the end of an arithmetic expression in two parentheses, whose first two were used; none
if it is not one. -/
def sumText (inner : Read Command) : Read (Option (List Part)) := do
  let source ← get
  let inside ← stitches inner
    { mode := .sum, ends := fun c => c = ')', nested := some ('(', ')') } (← fuel) 0 []
  if (← look).isNone then unclosed source.line ')'
  let _ ← next
  match ← look with
  | none => unclosed source.line ')'
  | some ')' =>
    let _ ← next
    return some (Stitch.parts inside)
  | some _ => return none

mutual

/-- Reads a list of commands up to what ends it; `open` lists may be empty. -/
def list («open» : Bool) : Nat → Bool → List Command → Read Command
  | 0, _, _ => fail "too deep"
  | fuel + 1, started, read => do
    let inner := list true fuel false []
    lineEnds inner (← Read.fuel)
    let ahead ← signAhead
    let closing : Bool := ahead = some ")" || ahead = some ";;" || ahead = some ";&" || ahead = some ";;&"
    let ending : Bool := (← bareAhead).any endingWords.contains
    if (closing || ending) && («open» || started) then return .ofReversed read
    else if (← get).rest = [] then
      if «open» || started then return .ofReversed read else ended
    else
      let command ← conjunction fuel
      if ← acceptSign "&" then list «open» fuel true (.background command :: read)
      else if ← acceptSign ";" then list «open» fuel true (command :: read)
      else if (← look) = some '\n' then list «open» fuel true (command :: read)
      else
        -- Behind a command without a separator only what closes the list can stand.
        let ahead ← signAhead
        let closing : Bool := ahead.any fun sign => [")", ";;", ";&", ";;&"].contains sign
        if closing || (← get).rest = [] then return .ofReversed (command :: read)
        else unexpected inner true

/-- Reads commands joined by `&&` and `||`. -/
def conjunction : Nat → Read Command
  | 0 => fail "too deep"
  | fuel + 1 => do
    conjunctionFrom fuel (← pipeline fuel)

/-- Reads on behind a command that may be joined to others. -/
def conjunctionFrom : Nat → Command → Read Command
  | 0, first => return first
  | fuel + 1, first => do
    let inner := list true fuel false []
    if ← acceptSign "&&" then
      lineEnds inner (← Read.fuel)
      conjunctionFrom fuel (.both first (← pipeline fuel))
    else if ← acceptSign "||" then
      lineEnds inner (← Read.fuel)
      conjunctionFrom fuel (.either first (← pipeline fuel))
    else return first

/-- Reads a pipeline. -/
def pipeline : Nat → Read Command
  | 0 => fail "too deep"
  | fuel + 1 => do
    if ← acceptWord "time" then
      let _ ← acceptWord "-p"
      if (← isWordAhead) || (← signAhead) = some "(" then return .timed (← pipeline fuel)
      else return .timed .nothing
    else if ← acceptWord "!" then
      if (← isWordAhead) || (← signAhead).any fun sign => ["(", "<", ">", "&>", ">>"].contains sign then
        return .pipeline true [← pipeline fuel]
      else return .pipeline true [.nothing]
    else
      let commands ← pipelineFrom fuel [← command fuel]
      match commands with
      | [only] => return only
      | _ => return .pipeline false commands

/-- Reads on behind the first commands of a pipeline, which come in reverse. -/
def pipelineFrom : Nat → List Command → Read (List Command)
  | 0, read => return read.reverse
  | fuel + 1, read => do
    let inner := list true fuel false []
    if ← acceptSign "|" then
      lineEnds inner (← Read.fuel)
      pipelineFrom fuel ((← command fuel) :: read)
    else if ← acceptSign "|&" then
      lineEnds inner (← Read.fuel)
      let line := (← get).line
      let read := match read with
        | last :: rest => .redirected line last [.file 2 .duplicate [.plain ['1']]] :: rest
        | [] => []
      pipelineFrom fuel ((← command fuel) :: read)
    else return read.reverse

/-- Reads a command. -/
def command : Nat → Read Command
  | 0 => fail "too deep"
  | fuel + 1 => do
    let inner := list true fuel false []
    let body : Read Command := list false fuel false []
    expandAlias (← Read.fuel)
    let line := (← get).line
    let closing (name : String) (body : Command) : Read Command := do
      expectWord inner name
      withRedirects line body fuel
    -- The body of a loop stands between its words or in braces.
    let loopBody : Read Command := do
      if ← acceptWord "\x7b" then
        let commands ← body
        expectWord inner "\x7d"
        return commands
      else
        expectWord inner "do"
        let commands ← body
        expectWord inner "done"
        return commands
    let each (makes : String → Option (List Word) → Command → Command) : Read Command := do
      space
      if !(← isWordAhead) then unexpected inner true
      let front ← get
      let _ ← word inner
      let name := String.ofList (front.rest.take (front.rest.length - (← get).rest.length))
      lineEnds inner (← Read.fuel)
      let chosen ← if ← acceptWord "in" then do
          let chosen ← wordList fuel []
          if !((← acceptSign ";") || (← lineEnd inner)) then unexpected inner true
          pure (some chosen)
        else do
          let _ ← acceptSign ";"
          pure none
      lineEnds inner (← Read.fuel)
      let commands ← loopBody
      withRedirects line (makes name chosen commands) fuel
    match ← signAhead with
    | some "(" =>
      let _ ← next
      let source ← get
      let sum ← if source.rest.head? = some '(' then do
          let _ ← next
          sumText inner
        else pure none
      match sum with
      | some expression => withRedirects line (.calculation line expression) fuel
      | none =>
        set source
        let commands ← body
        if !(← acceptSign ")") then unexpected inner true
        withRedirects line (.subshell line commands []) fuel
    | some _ =>
      if (← redirectFront).isSome || (← isWordAhead) then simple none {} fuel
      else unexpected inner true
    | none =>
      match ← bareAhead with
      | some "if" =>
        let _ ← acceptWord "if"
        closing "fi" (← branches fuel)
      | some "while" =>
        let _ ← acceptWord "while"
        let condition ← body
        let commands ← loopBody
        withRedirects line (.loop false condition commands) fuel
      | some "until" =>
        let _ ← acceptWord "until"
        let condition ← body
        let commands ← loopBody
        withRedirects line (.loop true condition commands) fuel
      | some "for" =>
        let _ ← acceptWord "for"
        space
        if (← get).rest.take 2 = ['(', '('] then
          modify fun source => { source with rest := source.rest.drop 2 }
          let part (closing : Char) : Read (List Part) := do
            let line := (← get).line
            let inside ← stitches inner
              { mode := .sum, ends := fun c => c = closing, nested := some ('(', ')') } (← Read.fuel) 0 []
            if (← next).isNone then unclosed line ')'
            return Stitch.parts inside
          let start ← part ';'
          let condition ← part ';'
          let change ← part ')'
          if !(← accept ')') then unexpected inner true
          space
          if !(← acceptSign ";") then lineEnds inner (← Read.fuel)
          lineEnds inner (← Read.fuel)
          let commands ← loopBody
          withRedirects line (.counting line start condition change commands) fuel
        else each fun name chosen commands => .each line name chosen commands
      | some "select" =>
        let _ ← acceptWord "select"
        each fun name chosen commands => .menu line name chosen commands
      | some "case" =>
        let _ ← acceptWord "case"
        if !(← isWordAhead) then unexpected inner true
        let subject ← word inner
        lineEnds inner (← Read.fuel)
        expectWord inner "in"
        let choices ← arms fuel []
        withRedirects line (.select line subject choices) fuel
      | some "\x7b" =>
        let _ ← acceptWord "\x7b"
        closing "\x7d" (.group (← body))
      | some "[[" =>
        let _ ← acceptWord "[["
        let test ← anyTest inner fuel
        lineEnds inner (← Read.fuel)
        if !(← acceptWord "]]") then
          let token := (← tokenAhead inner).getD "newline"
          wrongTest s!"unexpected token `{token}' in conditional command" token
        withRedirects line (.condition line test) fuel
      | some "function" =>
        let _ ← acceptWord "function"
        if !(← isWordAhead) then unexpected inner true
        let front ← get
        let _ ← word inner
        let name := String.ofList (front.rest.take (front.rest.length - (← get).rest.length))
        if ← acceptSign "(" then
          if !(← acceptSign ")") then unexpected inner true
        lineEnds inner (← Read.fuel)
        functionBody name fuel
      | some name =>
        if reservedWords.contains name && name ≠ "in" && name ≠ "]]" && name ≠ "coproc" then
          unexpected inner true
        else simple none {} fuel
      | none =>
        if ← isWordAhead then simple none {} fuel else unexpected inner true

/-- Reads the words ahead. -/
def wordList : Nat → List Word → Read (List Word)
  | 0, read => return read.reverse
  | fuel + 1, read => do
    if ← isWordAhead then
      let one ← word (list true fuel false [])
      wordList fuel (one :: read)
    else return read.reverse

/-- Reads the body of a function. -/
def functionBody (name : String) : Nat → Read Command
  | 0 => fail "too deep"
  | fuel + 1 => do
    let inner := list true fuel false []
    lineEnds inner (← Read.fuel)
    let line := (← get).line
    let opens : Bool := (← signAhead) = some "(" || (← bareAhead).any fun name =>
      ["\x7b", "if", "for", "while", "until", "case", "select", "[["].contains name
    if opens then return .define line name (← command fuel) else unexpected inner true

/-- Reads the redirections behind a compound command. -/
def withRedirects (line : Nat) (body : Command) : Nat → Read Command
  | 0 => return body
  | fuel + 1 => do
    match ← redirects (list true fuel false []) (← Read.fuel) [], body with
    | [], body => return body
    | list, .subshell line body _ => return .subshell line body list
    | list, body => return .redirected line body list

/-- Reads the parts of a branch behind its first word. -/
def branches : Nat → Read Command
  | 0 => fail "too deep"
  | fuel + 1 => do
    let inner := list true fuel false []
    let condition ← list false fuel false []
    expectWord inner "then"
    let body ← list false fuel false []
    if ← acceptWord "elif" then return .branch condition body (← branches fuel)
    else if ← acceptWord "else" then return .branch condition body (← list false fuel false [])
    else return .branch condition body .nothing

/-- Reads the arms of a selection up to its end. -/
def arms : Nat → List (List Word × Command × Follow) → Read (List (List Word × Command × Follow))
  | 0, _ => fail "too deep"
  | fuel + 1, read => do
    let inner := list true fuel false []
    lineEnds inner (← Read.fuel)
    if ← acceptWord "esac" then return read.reverse
    else
      let _ ← acceptSign "("
      let chosen ← patterns fuel []
      if !(← acceptSign ")") then unexpected inner true
      let body ← list true fuel false []
      let follow : Option Follow ← if ← acceptSign ";;&" then pure (some .resume)
        else if ← acceptSign ";;" then pure (some .stop)
        else if ← acceptSign ";&" then pure (some .fall)
        else pure none
      let read := (chosen, body, follow.getD .stop) :: read
      match follow with
      | some _ => arms fuel read
      | none =>
        if ← acceptWord "esac" then return read.reverse else unexpected inner true

/-- Reads the patterns of an arm. -/
def patterns : Nat → List Word → Read (List Word)
  | 0, read => return read.reverse
  | fuel + 1, read => do
    let inner := list true fuel false []
    if !(← isWordAhead) then unexpected inner true
    let one ← word inner
    if ← acceptSign "|" then patterns fuel (one :: read) else return (one :: read).reverse

/-- Reads a simple command or the definition of a function. The line of a command is the one at which it is
clear that it is no function, once that is known. -/
def simple (settled : Option Nat) (draft : Draft) : Nat → Read Command
  | 0 => fail "too deep"
  | fuel + 1 => do
    let inner := list true fuel false []
    expandBehind
    let front ← get
    let begun : Bool := !(draft.assignments.isEmpty && draft.words.isEmpty && draft.redirects.isEmpty)
    let declares : Bool := match draft.words.reverse.map bareText with
      | some name :: _ => declaringWords.contains name
      | _ => false
    match ← redirect? inner with
    | some one =>
      let line ← if begun then pure front.line else do pure (← get).line
      simple (settled <|> some line) { draft with redirects := one :: draft.redirects } fuel
    | none =>
      if ← isWordAhead then
        let assigned ← if draft.words.isEmpty then assignment? inner else pure none
        match assigned with
        | some one =>
          let written := front.rest.take (front.rest.length - (← get).rest.length) :: draft.written
          simple (settled <|> some (← get).line)
            { draft with assignments := one :: draft.assignments, written } fuel
        | none =>
          let listed ← if declares then listArgument inner else pure none
          let one ← match listed with
            | some one => pure one
            | none =>
              set front
              word inner
          let line := (← get).line
          let written := front.rest.take (front.rest.length - (← get).rest.length) :: draft.written
          simple (settled <|> if begun then some line else none)
            { draft with words := one :: draft.words, written } fuel
      else if (← signAhead) = some "(" then
        match draft with
        | ⟨[], [name], [], _⟩ =>
          let text := bareText name
          let source ← get
          let _ ← acceptSign "("
          if !(← acceptSign ")") then unexpected inner true
          match text with
          | some name => functionBody name fuel
          | none =>
            set source
            unexpected inner true
        | _ => unexpected inner true
      else
        let line := settled.getD front.line
        return .simple line draft.assignments.reverse draft.words.reverse draft.redirects.reverse
          draft.written.reverse
where
  /-- Reads an argument that gives a variable a list. -/
  listArgument (inner : Read Command) : Read (Option Word) := do
    let source ← get
    match ← assignmentFront inner with
    | some (name, [], appends) =>
      if (← get).rest.head? = some '(' then
        let line := (← get).line
        let _ ← next
        let listed ← members inner line (← Read.fuel) []
        return some [.plain (name.toList ++ (if appends then ['+', '='] else ['='])), .list listed]
      else
        set source
        return none
    | _ =>
      set source
      return none

end

/-- The next complete command of a script, or none at its end, and what is behind it. -/
def nextCommand (source : Source) : Except Fault (Option Command × Source) := do
  let part : Read (Option Command) := do
    modify fun source => { source with awaited := [] }
    let bound ← fuel
    let inner : Read Command := list true bound false []
    lineEnds inner bound
    if (← get).rest = [] then return none
    else
      let command ← whole inner bound bound []
      if (← get).rest = [] then readDocuments inner else if !(← lineEnd inner) then unexpected inner false
      return some command
  part.run source
where
  /-- Reads commands up to the end of the line. -/
  whole (inner : Read Command) (bound : Nat) : Nat → List Command → Read Command
    | 0, read => return .ofReversed read
    | fuel + 1, read => do
      let command ← conjunction bound
      let (separated, command) ← if ← acceptSign "&" then pure (true, Command.background command)
        else if ← acceptSign ";" then pure (true, command)
        else pure (false, command)
      space
      let ahead ← look
      if separated && ahead ≠ none && ahead ≠ some '\n' then whole inner bound fuel (command :: read)
      else return .ofReversed (command :: read)

end Workyard.Shell.Extended
