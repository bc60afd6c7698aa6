/-
**Builtins for commands and their names.**

* `type`, `command`: what a name stands for, and carrying it out with functions left aside;
* `source`, `eval`: commands from a file or from arguments;
* `exit`, `return`, `leave`: the ways to stop early.
-/

import Workyard.Shell.Builtin.Command
import Workyard.Shell.Extended.Builtin.Output
import Workyard.Shell.Extended.Printing
import Workyard.Shell.Extended.Script

namespace Workyard.Shell.Extended.Builtin

open Shell.Builtin (track)

/-- The names of the builtins. -/
def names : List String :=
  [".", ":", "[", "alias", "bg", "bind", "break", "builtin", "caller", "cd", "command", "compgen",
    "complete", "compopt", "continue", "declare", "dirs", "disown", "echo", "enable", "eval", "exec", "exit",
    "export", "false", "fc", "fg", "getopts", "hash", "help", "history", "jobs", "kill", "let", "local",
    "logout", "mapfile", "popd", "printf", "pushd", "pwd", "read", "readarray", "readonly", "return", "set",
    "shift", "shopt", "source", "suspend", "test", "times", "trap", "true", "type", "typeset", "ulimit",
    "umask", "unalias", "unset", "wait"]

/-- Whether a name is that of a builtin that is to be used. -/
def isUsed (shell : State) (name : String) : Bool :=
  names.contains name && !shell.extra.disabled.contains name

/-! ### What a name stands for -/

/-- What a name of a command can stand for. -/
inductive Meaning where
  | alias (value : Octets)
  | keyword
  | function (body : Command)
  | builtin
  /-- A file, which may be known from before. -/
  | file (name : Octets) (known : Bool)

/-- All files that a name stands for. -/
def filesOf (shell : State) (tree : Files.Tree) (name : Octets) : List Octets :=
  let isThere (file : Octets) : Bool := match tree.find (spelled file) with
    | .ok node => isProgram node
    | .error _ => false
  if name.contains '/' then [name].filter isThere
  else ((placesOf ((shell.value "PATH").getD [])).map fun place =>
    if place = [] then name else place ++ '/' :: name).filter isThere

/-- All that a name stands for, what counts first; functions may be left aside. -/
def meanings (shell : State) (tree : Files.Tree) (functions : Bool) (name : Octets) : List Meaning :=
  let text := spelled name
  let aliases := if shell.extra.switches.contains "expand_aliases" then
      ((shell.aliases.lookup text).map Meaning.alias).toList else []
  let keyword := if reservedWords.contains text then [Meaning.keyword] else []
  let own := if functions then ((shell.functions.lookup text).map Meaning.function).toList else []
  let builtin := if isUsed shell text then [Meaning.builtin] else []
  let known := ((shell.tracked.lookup text).map fun file => Meaning.file file true).toList
  aliases ++ keyword ++ own ++ builtin ++ known ++
    (filesOf shell tree name).map fun file => .file file false

/-- What a name stands for, in words. -/
def Meaning.words (name : Octets) : Meaning → Octets
  | .alias value => name ++ octets (" is aliased to " ++ String.singleton (Char.ofNat 96)) ++ value ++ ['\'']
  | .keyword => name ++ octets " is a shell keyword"
  | .function body => name ++ octets " is a function\n" ++ (functionText (spelled name) body).dropLast
  | .builtin => name ++ octets " is a shell builtin"
  | .file place true => name ++ octets " is hashed (" ++ place ++ [')']
  | .file place false => name ++ octets " is " ++ place

/-- The kind of what a name stands for. -/
def Meaning.kind : Meaning → String
  | .alias _ => "alias"
  | .keyword => "keyword"
  | .function _ => "function"
  | .builtin => "builtin"
  | .file _ _ => "file"

/-- What a name stands for in the shortest form. -/
def Meaning.short (name : Octets) : Meaning → Octets
  | .alias value => octets "alias " ++ name ++ '=' :: inSingle value
  | .file place _ => place
  | _ => name

/-- The file of a meaning. -/
def Meaning.file? : Meaning → Option Octets
  | .file place _ => some place
  | _ => none

/-- Says what names stand for. -/
def type (arguments : List Octets) : Act Nat := do
  match ← options "afptP" "" arguments with
  | none => return 2
  | some (read, words) =>
    let mut status := 0
    for name in words do
      let shell ← get
      let tree ← tree
      let all : Bool := has read 'a'
      let found := meanings shell tree (!has read 'f') name
      let found := if all then found.filter fun meaning => match meaning with
          | .file _ known => !known
          | _ => true
        else found.take 1
      let found := if has read 'P' then
          (let files := filesOf shell tree name
          (if all then files else files.take 1).map (Meaning.file · false))
        else if has read 'p' then found.filter fun meaning => meaning.file?.isSome else found
      if found = [] then
        if !(has read 'p' && !(meanings shell tree (!has read 'f') name).isEmpty) then
          status := 1
          if !has read 't' && !has read 'p' && !has read 'P' then complain (name ++ octets ": not found")
      else
        let _ ← put 0 (found.flatMap fun meaning =>
          (if has read 't' then octets meaning.kind
          else if has read 'p' || has read 'P' then meaning.file?.getD []
          else meaning.words name) ++ ['\n'])
    return status

/-- Carries out a command with functions left aside, or says what names stand for. -/
def command (services : Services) (arguments : List Octets) : Act Nat := do
  match ← options "pvV" "" arguments with
  | none => return 2
  | some (read, words) =>
    if words = [] then return 0
    else if has read 'v' || has read 'V' then
      let mut any := false
      for name in words do
        match meanings (← get) (← tree) true name with
        | meaning :: _ =>
          any := true
          let _ ← put 0 ((if has read 'V' then meaning.words name else meaning.short name) ++ ['\n'])
        | [] => if has read 'V' then complain (name ++ octets ": not found")
      return if any then 0 else 1
    else during [] (services.command words)

/-- Carries out a builtin. -/
def builtin (services : Services) (arguments : List Octets) : Act Nat := do
  plainly arguments fun words => do
    match words with
    | [] => return 0
    | name :: _ =>
      if isUsed (← get) (spelled name) then services.command words
      else failing (name ++ octets ": not a shell builtin")

/-- Shows, keeps or forgets where programs are. -/
def hash (arguments : List Octets) : Act Nat := do
  match ← options "dlrt" "p" arguments with
  | none => return 2
  | some (read, words) =>
    if has read 'r' then modify fun shell => { shell with
      tracked := [], extra := { shell.extra with uses := [] } }
    let shell ← get
    if words = [] then
      if has read 'r' then return 0
      else if shell.tracked = [] then
        put 0 (octets "hash: hash table empty\n")
      else if has read 'l' then
        put 0 (shell.tracked.flatMap fun entry =>
          octets "builtin hash -p " ++ entry.2 ++ octets s!" {entry.1}\n")
      else
        put 0 (octets "hits\tcommand\n" ++ shell.tracked.flatMap fun entry =>
          rightIn 4 (decimal (shell.extra.uses.filter (· = entry.1)).length) ++ '\t' :: entry.2 ++ ['\n'])
    else
      let mut status := 0
      for name in words do
        let text := spelled name
        let missing : Act Nat := failing (name ++ octets ": not found")
        match lastOf read 'p' with
        | some file => track name file
        | none =>
          if has read 't' then
            match (← get).tracked.lookup text with
            | some file =>
              let _ ← put 0 ((if words.length = 1 then [] else name ++ ['\t']) ++ file ++ ['\n'])
            | none => status ← missing
          else if has read 'd' then
            if ((← get).tracked.lookup text).isSome then
              modify fun shell => { shell with tracked := shell.tracked.filter (·.1 ≠ text) }
            else status ← missing
          else if !name.contains '/' && !names.contains text && ((← get).functions.lookup text).isNone then
            match (← get).programFile (← tree) name with
            | .ok file => track name file
            | .error _ => status ← missing
      return status

/-! ### Aliases -/

/-- An alias as it is shown. -/
def aliasLine (entry : String × Octets) : Octets :=
  octets s!"alias {entry.1}=" ++ inSingle entry.2 ++ ['\n']

/-- Shows or keeps aliases. -/
def keepAliases (arguments : List Octets) : Act Nat := do
  match ← options "p" "" arguments with
  | none => return 2
  | some (read, words) =>
    if words = [] || has read 'p' then
      let sorted := (← get).aliases.mergeSort fun first second => first.1 ≤ second.1
      let _ ← put 0 (sorted.flatMap aliasLine)
    let mut status := 0
    for word in words do
      let name := word.takeWhile (· ≠ '=')
      let text := spelled name
      if name.length < word.length && name ≠ [] then
        if name.any fun c => isSpace c || ['/', '$', Char.ofNat 96, '"', '\'', '\\', ';', '&', '|', '<', '>', '(', ')'].contains c then
          let back := String.singleton (Char.ofNat 96)
          status ← failing (octets back ++ name ++ octets "': invalid alias name")
        else
          let value := word.drop (name.length + 1)
          modify fun shell => { shell with aliases := (text, value) :: shell.aliases.filter (·.1 ≠ text) }
      else match (← get).aliases.lookup (spelled word) with
        | some value => let _ ← put 0 (aliasLine (spelled word, value))
        | none => status ← failing (word ++ octets ": not found")
    return status

/-- Forgets aliases. -/
def dropAliases (arguments : List Octets) : Act Nat := do
  match ← options "a" "" arguments with
  | none => return 2
  | some (read, words) =>
    if has read 'a' then
      modify fun shell => { shell with aliases := [] }
      return 0
    else if words = [] then misused
    else
      let mut status := 0
      for name in words do
        let text := spelled name
        if ((← get).aliases.lookup text).isSome then
          modify fun shell => { shell with aliases := shell.aliases.filter (·.1 ≠ text) }
        else status ← failing (name ++ octets ": not found")
      return status

/-- Says which builtins are to be used. -/
def enable (arguments : List Octets) : Act Nat := do
  match ← options "adnps" "f" arguments with
  | none => return 2
  | some (read, words) =>
    let shell ← get
    if words = [] then
      let shown := names.filter fun name => has read 'a' || (isUsed shell name != has read 'n')
      put 0 (shown.flatMap fun name =>
        octets (if isUsed shell name then s!"enable {name}\n" else s!"enable -n {name}\n"))
    else
      let mut status := 0
      for name in words do
        let text := spelled name
        if !names.contains text then status ← failing (name ++ octets ": not a shell builtin")
        else
          modify fun shell =>
            let others := shell.extra.disabled.filter (· ≠ text)
            { shell with extra := { shell.extra with
                disabled := if has read 'n' then text :: others else others } }
      return status

/-- Says how builtins are used. -/
def help (arguments : List Octets) : Act Nat := do
  match ← options "dms" "" arguments with
  | none => return 2
  | some (_, words) =>
    let mut status := 0
    for name in words do
      match usages.lookup (spelled name) with
      | some usage => let _ ← put 0 (name ++ octets ": " ++ name ++ octets s!" {usage}\n")
      | none =>
        let back := String.singleton (Char.ofNat 96)
        status ← failing (octets s!"no help topics match {back}" ++ name ++
          octets s!"'.  Try {back}help help' or {back}man -k " ++ name ++ octets s!"' or {back}info " ++ name ++ octets "'.")
    return status

/-! ### Other commands -/

/-- Says from where the function at hand was called. -/
def caller (arguments : List Octets) : Act Nat := do
  plainly arguments fun words => do
    let shell ← get
    let listed (name : String) : List Octets := (((shell.dynamic name).map (·.members)).getD []).map (·.2)
    let lines := listed "BASH_LINENO"
    let sources := listed "BASH_SOURCE"
    let functions := listed "FUNCNAME"
    if shell.extra.calls = [] then return 1
    else match words with
      | [] => put 0 (lines.headD ['0'] ++ ' ' :: (sources[1]?).getD (octets "NULL") ++ ['\n'])
      | text :: _ => match count? text with
        | none =>
          complain (text ++ octets ": invalid number")
          misused
        | some number => match lines[number]?, functions[number + 1]?, sources[number + 1]? with
          | some line, some function, some source =>
            put 0 (line ++ ' ' :: function ++ ' ' :: source ++ ['\n'])
          | _, _, _ => return 1

/-- The file of commands that a name stands for. -/
def sourceFile (shell : State) (tree : Files.Tree) (name : Octets) : Option Octets :=
  if name.contains '/' then some name
  else
    let isThere (file : Octets) : Bool := match tree.find (spelled file) with
      | .ok ⟨.file _, _, _⟩ => true
      | _ => false
    let places := if shell.extra.switches.contains "sourcepath" then
        placesOf ((shell.value "PATH").getD []) else []
    ((places.map fun place => if place = [] then name else place ++ '/' :: name) ++ [name]).find? isThere

/-- Carries out the commands of a file. -/
def source (services : Services) (arguments : List Octets) : Act Nat := do
  plainly arguments fun words => do
    match words with
    | [] =>
      complain (octets "filename argument required")
      misused
    | name :: parameters =>
      let shell ← get
      let absent (reason : String) : Act Nat := during [] (failing (name ++ octets s!": {reason}"))
      match (sourceFile shell (← tree) name) with
      | none => absent "No such file or directory"
      | some file => match (← tree).openRead (spelled file) with
        | .error fault => absent s!"{fault.reason}"
        | .ok (_, node) =>
          if node.kind matches .directory then failing (name ++ octets ": is a directory")
          else
            modify fun shell => { shell with
              busyWith := []
              positional := if parameters = [] then shell.positional else parameters
              extra := { shell.extra with
                source := file, reading := []
                calls := ⟨"source", file, shell.line⟩ :: shell.extra.calls } }
            let result ← attempt (services.scriptFrom 1 (ofNumbers node.contents.1))
            modify fun after => { after with
              busyWith := shell.busyWith
              positional := if parameters = [] then after.positional else shell.positional
              extra := { after.extra with
                source := shell.extra.source, reading := shell.extra.reading, calls := shell.extra.calls } }
            match result with
            | .error (.returned status) => return status
            | other => settle other

/-- Carries out its arguments as a script. -/
def eval (services : Services) (arguments : List Octets) : Act Nat := do
  plainly arguments fun words => do
    let shell ← get
    modify fun shell => { shell with
      busyWith := [], extra := { shell.extra with reading := octets "eval" } }
    ensuring (services.scriptFrom shell.line (joinedBy [' '] words))
      (modify fun after => { after with
        busyWith := shell.busyWith, extra := { after.extra with reading := shell.extra.reading } })

/-- Carries out a program in place of the shell. -/
def exec (services : Services) (arguments : List Octets) : Act Nat := do
  match ← options "cl" "a" arguments with
  | none => return 2
  | some (read, words) =>
    match words with
    | [] => return 0
    | name :: rest =>
      let shell ← get
      if has read 'c' then
        modify fun shell => { shell with
          bindings := shell.bindings.map fun entry => (entry.1, { entry.2 with exported := false }) }
      let title := (lastOf read 'a').getD name
      let title := if has read 'l' then '-' :: title else title
      modify fun shell => { shell with extra := { shell.extra with title := if title = name then none else some title } }
      if shell.extra.switches.contains "execfail" then
        match ← attempt (services.replace (name :: rest)) with
        | .error (.exit status) => return status
        | .error other => throw other
        | .ok never => nomatch never
      else
        let never ← services.replace (name :: rest)
        nomatch never

/-- The status that an argument asks for, or else the last one; none behind a complaint. -/
def wantedStatus (arguments : List Octets) : Act (Option Nat) := do
  let words := if arguments.head? = some ['-', '-'] then arguments.drop 1 else arguments
  match words with
  | [] => return some (← get).status
  | text :: rest => match number? text with
    | none =>
      complain (text ++ octets ": numeric argument required")
      return none
    | some number =>
      if rest ≠ [] then refuse (octets "too many arguments")
      else return some (number % 256).toNat

/-- Ends the shell. -/
def exit (arguments : List Octets) : Act Nat := do
  throw (.exit ((← wantedStatus arguments).getD 2))

/-- Ends a function, or what is carried out of a file. -/
def returning (arguments : List Octets) : Act Nat := do
  if (← get).extra.calls = [] then
    complain (octets ("can only " ++ String.singleton (Char.ofNat 96) ++ "return' from a function or sourced script"))
    return 2
  else throw (.returned ((← wantedStatus arguments).getD 2))

/-- Leaves loops, or goes on with their next turns. -/
def leave (arguments : List Octets) (stop : Nat → Unwind) : Act Nat := do
  let loops := (← get).loops
  if loops = 0 then
    let back := String.singleton (Char.ofNat 96)
    complain (octets s!"only meaningful in a {back}for', {back}while', or {back}until' loop")
    return 0
  else
    let words := if arguments.head? = some ['-', '-'] then arguments.drop 1 else arguments
    match words.head?.map fun text => (text, number? text) with
    | none =>
      modify fun shell => { shell with status := 0 }
      throw (stop 1)
    | some (text, none) =>
      complain (text ++ octets ": numeric argument required")
      throw (.exit 128)
    | some (text, some levels) =>
      if words.length ≠ 1 then refuse (octets "too many arguments")
      else if levels ≤ 0 then
        complain (text ++ octets ": loop count out of range")
        modify fun shell => { shell with status := 1 }
        throw (.broken loops)
      else
        modify fun shell => { shell with status := 0 }
        throw (stop (min levels.toNat loops))

end Workyard.Shell.Extended.Builtin
