/-
**Scripts that edit lines.**

A script is a row of commands, each with the lines that it is for. Commands in braces belong together; in
the row, a brace knows how far its group reaches.

* `EditCommand`: a command;
* `EditScript.read`: the commands of a script, or what is wrong with it and where.
-/

import Workyard.Shell.Program.Quoting
import Workyard.Shell.RegexSyntax

namespace Workyard.Shell.Program

/-- An expression, or the one that was used last. -/
structure EditPattern where
  regex : Option Regex
  groups : Nat
  ignoresCase : Bool := false
  manyLines : Bool := false

/-- What a line must be for a command. -/
inductive EditAddress where
  | line (number : Nat)
  | last
  | step (first step : Nat)
  | pattern (pattern : EditPattern)
  /-- Before the first line. -/
  | before

/-- Where the lines for a command end. -/
inductive EditEnd where
  | line (number : Nat)
  | last
  | pattern (pattern : EditPattern)
  | more (count : Nat)
  | multiple (count : Nat)

/-- A part of what is put in the place of a match. -/
inductive EditPart where
  | text (text : Octets)
  | group (number : Nat)
  /-- Changes the case of what follows. -/
  | case (letter : Char)

/-- What is put in the place of matches. -/
structure Substitution where
  pattern : EditPattern
  parts : List EditPart
  /-- Whether all matches are meant, and the first one that is. -/
  all : Bool := false
  first : Nat := 1
  prints : Bool := false
  file : Option Octets := none

/-- What a command does. -/
inductive EditAction where
  /-- A group up to a place in the row. -/
  | group (stop : Nat)
  | nothing
  | label (name : Octets)
  | number
  | append (text : Octets)
  | insert (text : Octets)
  | change (text : Octets)
  | branch (label : Octets)
  | branchIf (changed : Bool) (label : Octets)
  | delete
  | deleteFirst
  | name
  | recall
  | recallBehind
  | keep
  | keepBehind
  | list (width : Option Nat)
  | next
  | nextBehind
  | print
  | printFirst
  | quit (silent : Bool) (status : Nat)
  | readFile (name : Octets)
  | readLine (name : Octets)
  | substitute (substitution : Substitution)
  | write (first : Bool) (name : Octets)
  | exchange
  | translate (pairs : List (Char × Char))
  | clear

/-- A command with the lines it is for. -/
structure EditCommand where
  address : Option EditAddress := none
  stop : Option EditEnd := none
  inverted : Bool := false
  action : EditAction

/-- What is wrong with a script, with the length of what was not yet read. -/
inductive EditFault where
  | wrong (left : Nat) (words : Octets)
  /-- Something that has no place in the script. -/
  | whole (words : Octets)
  | unclosed

/-- Reads a script on. -/
abbrev EditRead := StateT Octets (Except EditFault)

namespace EditScript

/-- Stops at a fault. -/
def refuse {α : Type} (words : String) : EditRead α := do throw (.wrong (← get).length (octets words))

/-- Takes the next character. -/
def next? : EditRead (Option Char) := do
  match ← get with
  | [] => return none
  | c :: rest =>
    set rest
    return some c

/-- Steps over blanks. -/
def skipBlanks : EditRead Unit := modify fun text => text.dropWhile fun c => c = ' ' || c = '\t'

/-- Steps over all white space. -/
def skipSpace : EditRead Unit := modify fun text => text.dropWhile isSpace

/-- Takes digits as a number. -/
def number? : EditRead (Option Nat) := do
  let digits := (← get).takeWhile Char.isDigit
  modify fun text => text.drop digits.length
  return if digits = [] then none else some (valueIn 10 digits)

/-- Takes what comes up to a delimiter that is not behind a backslash; in an expression, one in brackets is
no delimiter. None if there is no such delimiter on the line. -/
def delimited (delimiter : Char) (inRegex : Bool) : Nat → Nat → Octets → Octets → Option Octets × Octets
  | 0, _, rest, _ => (none, rest)
  | _, _, [], _ => (none, [])
  | fuel + 1, inside, '\\' :: c :: rest, read =>
    if inside = 0 then
      if c = 'n' && inRegex then delimited delimiter inRegex fuel 0 rest ('\n' :: read)
      else if c = '\n' || (c = delimiter && (inRegex || c ≠ '&')) then
        delimited delimiter inRegex fuel 0 rest (c :: read)
      else delimited delimiter inRegex fuel 0 rest (c :: '\\' :: read)
    else if c = 'n' then delimited delimiter inRegex fuel 2 rest ('\n' :: read)
    else if c = ']' then delimited delimiter inRegex fuel 0 rest (']' :: '\\' :: read)
    else if escapeLetters.any (fun entry => entry.2 = c) then
      delimited delimiter inRegex fuel 2 rest (c :: '\\' :: read)
    else delimited delimiter inRegex fuel 2 (c :: rest) ('\\' :: read)
  | fuel + 1, inside, c :: rest, read =>
    if c = '\n' then (none, c :: rest)
    else if inside = 0 then
      if c = delimiter then (some read.reverse, rest)
      else if c = '[' && inRegex then
        if rest.head? = some '^' then delimited delimiter inRegex fuel 1 (rest.drop 1) ('^' :: c :: read)
        else delimited delimiter inRegex fuel 1 rest (c :: read)
      else delimited delimiter inRegex fuel 0 rest (c :: read)
    else if c = ']' && inside = 2 then delimited delimiter inRegex fuel 0 rest (c :: read)
    else if c = '[' && (rest.head? = some ':' || rest.head? = some '.' || rest.head? = some '=') then
      let mark := rest.headD ':'
      match Regex.enclosed mark (rest.drop 1) with
      | some (name, behind) =>
        delimited delimiter inRegex fuel 2 behind ((c :: mark :: name ++ [mark, ']']).reverse ++ read)
      | none => delimited delimiter inRegex fuel 2 rest (c :: read)
    else delimited delimiter inRegex fuel 2 rest (c :: read)

/-- Takes what comes up to a delimiter. -/
def upTo (delimiter : Char) (inRegex : Bool) (missing : String) : EditRead Octets := do
  let text ← get
  let (found, rest) := delimited delimiter inRegex (text.length + 1) 0 text []
  set rest
  match found with
  | some found => return found
  | none => refuse missing

/-- The character that an escape by number stands for, and the text behind it. -/
def numbered? (text : Octets) : Option (Char × Octets) :=
  let read (base count : Nat) (rest : Octets) : Option (Char × Octets) :=
    let digits := (rest.take count).takeWhile fun c => (digitIn base c).isSome
    if digits = [] then none else some (octetChar (valueIn base digits), rest.drop digits.length)
  match text with
  | 'd' :: rest => read 10 3 rest
  | 'o' :: rest => read 8 3 rest
  | 'x' :: rest => read 16 2 rest
  | 'c' :: c :: rest => some (octetChar (Nat.xor c.toUpper.toNat 64), rest)
  | _ => none

/-- A text in which escapes by letter or number are read and all others are kept. -/
def unescaped : Nat → Octets → Octets
  | 0, text => text
  | _, [] => []
  | fuel + 1, '\\' :: c :: rest =>
    match (escapeLetters.find? fun entry => entry.2 = c && c ≠ 'b' && c ≠ 'n').map (·.1) with
    | some letter => letter :: unescaped fuel rest
    | none => match numbered? (c :: rest) with
      | some (letter, rest) => letter :: unescaped fuel rest
      | none => '\\' :: c :: unescaped fuel rest
  | fuel + 1, c :: rest => c :: unescaped fuel rest

/-- The expression that a text spells; the empty text stands for the one that was used last. -/
def pattern (dialect : Dialect) (text : Octets) (ignoresCase manyLines : Bool) : EditRead EditPattern := do
  if text = [] then
    if ignoresCase || manyLines then refuse "cannot specify modifiers on empty regexp"
    return { regex := none, groups := 9 }
  match Regex.read dialect (unescaped (text.length + 1) text) with
  | .ok (regex, groups, _) => return { regex := some regex, groups, ignoresCase, manyLines }
  | .error .lonelyClass => throw (.whole (octets RegexFault.lonelyClass.words))
  | .error fault => refuse fault.words

/-- Takes the letters behind an expression of an address. -/
def addressLetters : Nat → Bool → Bool → EditRead (Bool × Bool)
  | 0, ignores, lines => return (ignores, lines)
  | fuel + 1, ignores, lines => do
    match ← get with
    | 'I' :: rest =>
      set rest
      addressLetters fuel true lines
    | 'M' :: rest =>
      set rest
      addressLetters fuel ignores true
    | _ => return (ignores, lines)

/-- Takes an expression between delimiters. -/
def addressPattern (dialect : Dialect) (delimiter : Char) : EditRead EditPattern := do
  let text ← upTo delimiter true "unterminated address regex"
  let (ignores, lines) ← addressLetters 8 false false
  pattern dialect text ignores lines

/-- Takes the first address of a command. -/
def firstAddress (dialect : Dialect) : EditRead (Option EditAddress) := do
  match ← get with
  | '/' :: rest =>
    set rest
    return some (.pattern (← addressPattern dialect '/'))
  | '\\' :: rest =>
    set rest
    match ← next? with
    | none => refuse "unterminated address regex"
    | some delimiter => return some (.pattern (← addressPattern dialect delimiter))
  | '$' :: rest =>
    set rest
    return some .last
  | c :: rest =>
    if c.isDigit then
      let first := (← number?).getD 0
      skipBlanks
      match ← get with
      | '~' :: rest =>
        set rest
        skipBlanks
        let step := (← number?).getD 0
        return some (if step = 0 then .line first else .step first step)
      | _ => return some (if first = 0 then .before else .line first)
    else if c = '+' || c = '~' then
      set rest
      let _ ← number?
      refuse "invalid usage of +N or ~N as first address"
    else return none
  | [] => return none

/-- Takes the second address of a command. -/
def secondAddress (dialect : Dialect) : EditRead EditEnd := do
  match ← get with
  | '+' :: rest =>
    set rest
    return .more ((← number?).getD 0)
  | '~' :: rest =>
    set rest
    return .multiple ((← number?).getD 0)
  | _ => match ← firstAddress dialect with
    | some (.line number) => return .line number
    | some .before => return .line 0
    | some .last => return .last
    | some (.pattern pattern) => return .pattern pattern
    | some (.step first _) => return .line first
    | none =>
      let _ ← next?
      refuse "unexpected `,'"

/-- Nothing more may come in a command. -/
def endOfCommand : EditRead Unit := do
  modify fun text => text.dropWhile fun c => c ≠ '\n' && isSpace c
  match ← get with
  | [] => return
  | '\n' :: rest => set rest
  | ';' :: rest => set rest
  | c :: rest =>
    if c = '\x7d' || c = '#' then return
    else
      set rest
      refuse "extra characters after command"

/-- Takes the rest of the line as the name of a file. -/
def fileName : EditRead Octets := do
  skipBlanks
  let name := (← get).takeWhile (· ≠ '\n')
  modify fun text => text.drop name.length
  if name = [] then refuse "missing filename in r/R/w/W commands"
  modify fun text => text.drop 1
  return name

/-- Takes a label. -/
def labelName : EditRead Octets := do
  skipBlanks
  let name := (← get).takeWhile fun c => !isSpace c && c ≠ ';'
  modify fun text => text.drop name.length
  return name

/-- Takes text up to the end of a line that is not behind a backslash. -/
def textLines : Nat → Octets → Octets → Octets × Octets
  | 0, rest, read => (read.reverse, rest)
  | _, [], read => (read.reverse, [])
  | fuel + 1, '\\' :: c :: rest, read =>
    match (escapeLetters.find? fun entry => entry.2 = c && c ≠ 'b').map (·.1) with
    | some letter => textLines fuel rest (letter :: read)
    | none => match numbered? (c :: rest) with
      | some (letter, rest) => textLines fuel rest (letter :: read)
      | none => textLines fuel rest (c :: read)
  | _, ['\\'], read => (read.reverse, [])
  | fuel + 1, c :: rest, read =>
    if c = '\n' then (read.reverse, rest) else textLines fuel rest (c :: read)

/-- Takes the text of a command that puts one out. -/
def commandText : EditRead Octets := do
  skipBlanks
  match ← get with
  | [] => refuse "expected \\ after `a', `c' or `i'"
  | text =>
    let text := match text with
      | '\\' :: rest =>
        let behind := rest.dropWhile fun c => c = ' ' || c = '\t'
        (match behind with
        | '\n' :: more => more
        | _ => rest)
      | text => text
    let (found, rest) := textLines (text.length + 1) text []
    set rest
    return if text = [] then [] else found ++ ['\n']

/-- The parts of a replacement. -/
def parts : Nat → Octets → Octets → List EditPart
  | 0, _, read => [.text read.reverse]
  | _, [], read => if read = [] then [] else [.text read.reverse]
  | fuel + 1, '\\' :: c :: rest, read =>
    let before : List EditPart := if read = [] then [] else [.text read.reverse]
    if c.isDigit then before ++ .group (c.toNat - '0'.toNat) :: parts fuel rest []
    else if "LUluE".toList.contains c then before ++ .case c :: parts fuel rest []
    else match (escapeLetters.find? fun entry => entry.2 = c && c ≠ 'b').map (·.1) with
      | some letter => parts fuel rest (letter :: read)
      | none => match numbered? (c :: rest) with
        | some (letter, rest) => parts fuel rest (letter :: read)
        | none => parts fuel rest (c :: read)
  | fuel + 1, '&' :: rest, read =>
    (if read = [] then [] else [.text read.reverse]) ++ .group 0 :: parts fuel rest []
  | fuel + 1, c :: rest, read => parts fuel rest (c :: read)

/-- Reads the letters behind a substitution. -/
def substitutionLetters (counted : Bool) (ignores lines : Bool) : Nat → Substitution →
    EditRead (Substitution × Bool × Bool)
  | 0, substitution => return (substitution, ignores, lines)
  | fuel + 1, substitution => do
    match ← get with
    | [] => return (substitution, ignores, lines)
    | c :: rest =>
      if c = '\x7d' || c = '#' then return (substitution, ignores, lines)
      else
        set rest
        match c with
        | '\n' => return (substitution, ignores, lines)
        | ';' => return (substitution, ignores, lines)
        | 'i' => substitutionLetters counted true lines fuel substitution
        | 'I' => substitutionLetters counted true lines fuel substitution
        | 'm' => substitutionLetters counted ignores true fuel substitution
        | 'M' => substitutionLetters counted ignores true fuel substitution
        | 'e' => substitutionLetters counted ignores lines fuel substitution
        | 'p' =>
          if substitution.prints then refuse "multiple `p' options to `s' command"
          substitutionLetters counted ignores lines fuel { substitution with prints := true }
        | 'g' =>
          if substitution.all then refuse "multiple `g' options to `s' command"
          substitutionLetters counted ignores lines fuel { substitution with all := true }
        | 'w' =>
          let name ← fileName
          return ({ substitution with file := some name }, ignores, lines)
        | c =>
          if c.isDigit then
            if counted then refuse "multiple number options to `s' command"
            set (c :: rest)
            let first := (← number?).getD 0
            if first = 0 then refuse "number option to `s' command may not be zero"
            substitutionLetters true ignores lines fuel { substitution with first }
          else if c = ' ' || c = '\t' || c = '\x0d' then
            substitutionLetters counted ignores lines fuel substitution
          else refuse "unknown option to `s'"

/-- The greatest group that parts name. -/
def greatestGroup (parts : List EditPart) : Nat :=
  parts.foldl (fun greatest part => match part with
    | .group number => max greatest number
    | _ => greatest) 0

/-- Reads a substitution behind its letter. -/
def substitution (dialect : Dialect) : EditRead EditAction := do
  let missing := "unterminated `s' command"
  match ← next? with
  | none => refuse missing
  | some delimiter =>
    if delimiter = '\n' || delimiter = '\\' then refuse missing
    let text ← upTo delimiter true missing
    let replacement ← upTo delimiter false missing
    let start : Substitution := {
      pattern := { regex := none, groups := 0 }, parts := parts (replacement.length + 1) replacement [] }
    let (found, ignores, lines) ← substitutionLetters false false false ((← get).length + 1) start
    let pattern ← pattern dialect text ignores lines
    let greatest := greatestGroup found.parts
    if pattern.groups < greatest then refuse s!"invalid reference \\{greatest} on `s' command's RHS"
    return .substitute { found with pattern }

/-- A text of a translation with its escapes read. -/
def translated (delimiter : Char) : Octets → Octets
  | '\\' :: c :: rest =>
    if c = 'n' then '\n' :: translated delimiter rest
    else if c = '\\' || c = delimiter then c :: translated delimiter rest
    else match (escapeLetters.find? fun entry => entry.2 = c).map (·.1) with
      | some letter => letter :: translated delimiter rest
      | none => '\\' :: c :: translated delimiter rest
  | c :: rest => c :: translated delimiter rest
  | [] => []

/-- Reads a translation behind its letter. -/
def translation : EditRead EditAction := do
  let missing := "unterminated `y' command"
  match ← next? with
  | none => refuse missing
  | some delimiter =>
    let before := translated delimiter (← upTo delimiter false missing)
    let behind := translated delimiter (← upTo delimiter false missing)
    if before.length ≠ behind.length then refuse "strings for `y' command are different lengths"
    endOfCommand
    return .translate (before.zip behind)

/-- Reads a command behind its addresses; `depth` is the number of groups around it. -/
def action (dialect : Dialect) (depth addresses : Nat) : EditRead EditAction := do
  let plain (action : EditAction) : EditRead EditAction := do
    endOfCommand
    return action
  let onlyOne : EditRead Unit := do
    if addresses = 2 then refuse "command only uses one address"
  let branching (make : Octets → EditAction) : EditRead EditAction := do
    let label ← labelName
    endOfCommand
    return make label
  match ← next? with
  | none => refuse "missing command"
  | some '#' =>
    if addresses ≠ 0 then refuse "comments don't accept any addresses"
    modify fun text => (text.dropWhile (· ≠ '\n')).drop 1
    return .nothing
  | some ':' =>
    if addresses ≠ 0 then refuse ": doesn't want any addresses"
    let label ← labelName
    if label = [] then refuse "\":\" lacks a label"
    modify fun text => if text.head? = some ';' then text.drop 1 else text
    return .label label
  | some '=' => plain .number
  | some 'a' => return .append (← commandText)
  | some 'i' => return .insert (← commandText)
  | some 'c' => return .change (← commandText)
  | some 'b' => branching .branch
  | some 't' => branching (.branchIf true)
  | some 'T' => branching (.branchIf false)
  | some 'd' => plain .delete
  | some 'D' => plain .deleteFirst
  | some 'F' => plain .name
  | some 'g' => plain .recall
  | some 'G' => plain .recallBehind
  | some 'h' => plain .keep
  | some 'H' => plain .keepBehind
  | some 'l' =>
    skipBlanks
    let width ← number?
    plain (.list width)
  | some 'n' => plain .next
  | some 'N' => plain .nextBehind
  | some 'p' => plain .print
  | some 'P' => plain .printFirst
  | some 'q' =>
    onlyOne
    skipBlanks
    let status ← number?
    plain (.quit false (status.getD 0))
  | some 'Q' =>
    onlyOne
    skipBlanks
    let status ← number?
    plain (.quit true (status.getD 0))
  | some 'r' => return .readFile (← fileName)
  | some 'R' => return .readLine (← fileName)
  | some 's' => substitution dialect
  | some 'v' =>
    let version ← labelName
    match version.splitOn '.' with
    | major :: minor =>
      if 4 < valueIn 10 major || (valueIn 10 major = 4 && 9 < valueIn 10 (minor.headD ['0'])) then
        refuse "expected newer version of sed"
    | [] => pure ()
    plain .nothing
  | some 'w' => return .write false (← fileName)
  | some 'W' => return .write true (← fileName)
  | some 'x' => plain .exchange
  | some 'y' => translation
  | some 'z' => plain .clear
  | some '\n' => refuse "missing command"
  | some ';' => refuse "missing command"
  | some c =>
    if c = '\x7b' then return .group 0
    else if c = '\x7d' then
      if depth = 0 then refuse "unexpected `\x7d'"
      if addresses ≠ 0 then refuse "\x7d doesn't want any addresses"
      endOfCommand
      return .nothing
    else throw (.wrong (← get).length (octets "unknown command: `" ++ [c, '\'']))

/-- Reads the commands of a script behind others, which come in reverse; `opened` are the places of the
groups around. -/
def commandsFrom (dialect : Dialect) : Nat → List Nat → Array EditCommand → EditRead (Array EditCommand)
  | 0, _, read => return read
  | fuel + 1, opened, read => do
    modify fun text => text.dropWhile fun c => isSpace c || c = ';'
    match ← get with
    | [] => if opened.isEmpty then return read else throw .unclosed
    | c :: _ =>
      let address ← firstAddress dialect
      skipSpace
      let stop ← if address.isSome && (← get).head? = some ',' then do
          modify fun text => text.drop 1
          skipSpace
          let stop ← secondAddress dialect
          pure (some stop)
        else pure none
      match address, stop with
      | some .before, some (.pattern _) => pure ()
      | some .before, _ =>
        let _ ← next?
        refuse "invalid usage of line address 0"
      | _, _ => pure ()
      skipSpace
      let inverted : Bool := (← get).head? = some '!'
      if inverted then
        modify fun text => text.drop 1
        skipSpace
        if (← get).head? = some '!' then
          let _ ← next?
          refuse "multiple `!'s"
      let addresses := (if address.isSome then 1 else 0) + (if stop.isSome then 1 else 0)
      let isClosing : Bool := (← get).head? = some '\x7d'
      let action ← action dialect opened.length addresses
      let place := read.size
      match action with
      | .group _ =>
        commandsFrom dialect fuel (place :: opened) (read.push ⟨address, stop, inverted, .group 0⟩)
      | action =>
        let read := read.push ⟨address, stop, inverted, action⟩
        if isClosing && c ≠ '\n' then
          match opened with
          | start :: outer =>
            let read := read.modify start fun command => { command with action := .group place }
            commandsFrom dialect fuel outer read
          | [] => commandsFrom dialect fuel [] read
        else commandsFrom dialect fuel opened read

/-- The commands of a script. -/
def read (dialect : Dialect) (text : Octets) : Except EditFault (Array EditCommand) :=
  (commandsFrom dialect (text.length + 2) [] #[]).run' text

/-- The place of a label. -/
def placeOf (commands : Array EditCommand) (label : Octets) : Option Nat :=
  commands.findIdx? fun command => match command.action with
    | .label name => name = label
    | _ => false

/-- A label to which a command leads but which is nowhere. -/
def missingLabel (commands : Array EditCommand) : Option Octets :=
  commands.toList.findSome? fun command => match command.action with
    | .branch label => if label ≠ [] && (placeOf commands label).isNone then some label else none
    | .branchIf _ label => if label ≠ [] && (placeOf commands label).isNone then some label else none
    | _ => none

end EditScript

end Workyard.Shell.Program
