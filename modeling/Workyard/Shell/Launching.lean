/-
**Starting programs.**

A program is carried out in place of a process. A shell is one of the programs; it starts with what a
program gets and knows nothing else of the shell that started it.

* `runProgram`: carries out the program in a file in place of the process;
* `startProgram`: carries out a program in a process of its own.
-/

import Workyard.Files.Machine
import Workyard.Shell.Builtin
import Workyard.Shell.Program
import Workyard.Shell.Running

namespace Workyard.Shell

/-- The most programs that start each other. -/
def maxLaunches : Nat := 100

/-! ### Shells -/

/-- The variables of a new shell, and those that it got. -/
def freshBindings (shell : State) (place : Octets) : List (String × Variable) :=
  let plain (name text : String) : String × Variable := (name, { text := some (octets text) })
  let known := (Program.exported shell).filter fun entry =>
    isName entry.1.toList && ! ["IFS", "OPTIND", "PPID", "PS4"].contains entry.1
  let parent := ((shell.world.process? shell.process).map (·.parent)).getD 0
  let own := [plain "IFS" " \t\n", plain "OPTIND" "1", plain "PPID" (toString parent),
    plain "PS1" "# ", plain "PS2" "> ", plain "PS4" "+ "]
  own ++ (if (known.lookup "PATH").isSome then []
      else [plain "PATH" "/usr/local/sbin:/usr/local/bin:/usr/sbin:/usr/bin:/sbin:/bin"]) ++
    known.filter (·.1 ≠ "PWD") ++ [("PWD", { text := some place, exported := true })]

/-- The version of the extended language. -/
def languageVersion : List String := ["5", "2", "15", "1", "release", "x86_64-pc-linux-gnu"]

/-- The variables of a new shell of the extended language, and those that it got. -/
def extendedBindings (shell : State) (title place : Octets) : List (String × Variable) :=
  let plain (name text : String) : String × Variable := (name, { text := some (octets text) })
  let number (name text : String) : String × Variable :=
    (name, { text := some (octets text), fixed := true, marks := ['i'] })
  let known := (Program.exported shell).filter fun entry =>
    isName entry.1.toList && ! ["IFS", "OPTIND", "PPID", "PS4", "OLDPWD", "UID", "EUID", "PWD", "SHLVL",
      "_"].contains entry.1
  let ifMissing (entry : String × Variable) : List (String × Variable) :=
    if (known.lookup entry.1).isSome then [] else [entry]
  let parent := ((shell.world.process? shell.process).map (·.parent)).getD 0
  let level := (max 0 (((shell.value "SHLVL").bind signed?).getD 0 + 1)).toNat
  let level := if 1000 ≤ level then 1 else level
  let version := octets (".".intercalate (languageVersion.take 3) ++ "(1)-release")
  [("PWD", { text := some place, exported := true }),
    ("SHLVL", { text := some (decimal level), exported := true }),
    ("OLDPWD", { text := shell.value "OLDPWD", exported := true }), plain "IFS" " \t\n",
    plain "OPTIND" "1", plain "OPTERR" "1", plain "PS4" "+ ", plain "BASH" "/usr/bin/bash",
    ("BASH_VERSION", { text := some version }),
    ("BASH_VERSINFO", { Variable.ofRow (languageVersion.map octets) with fixed := true }),
    number "PPID" (toString parent), number "UID" "0", number "EUID" "0", plain "HOSTNAME" "localhost",
    plain "HOSTTYPE" "x86_64", plain "MACHTYPE" "x86_64-pc-linux-gnu", plain "OSTYPE" "linux-gnu",
    ("_", { text := some ((shell.value "_").getD title) }),
    plain "BASH_LOADABLES_PATH" ("/usr/local/lib/bash:/usr/lib/bash:/opt/local/lib/bash:" ++
      "/usr/pkg/lib/bash:/opt/pkg/lib/bash:.")] ++
    ifMissing (plain "PATH" "/usr/local/sbin:/usr/local/bin:/usr/sbin:/usr/bin:/sbin:/bin:.") ++
    ifMissing (plain "SHELL" "/bin/bash") ++ ifMissing (plain "TERM" "dumb") ++ known

/-- Makes the shell at hand a new one, which has only what a program gets. -/
def becomeShell (extended : Bool) (title : Octets) (positional : List Octets) : Act Unit := do
  let place := ((← me).map fun process => Builtin.pathName process.here).getD ['/']
  modify fun shell =>
    let place := match shell.value "PWD" with
      | some name =>
        let tree := shell.world.tree
        (match tree.entry (spelled name), tree.entry (spelled place) with
        | .ok (first, _), .ok (second, _) =>
          if first = second && name.head? = some '/' then name else place
        | _, _ => place)
      | none => place
    let ignored := ((shell.world.process? shell.process).map (·.ignored)).getD []
    { world := shell.world, process := shell.process, title, principal := shell.process, positional
      extended, options := if extended then Extended.firstOptions else []
      extra := { switches := if extended then Extended.firstSwitches else [] }
      bindings := if extended then extendedBindings shell title place else freshBindings shell place
      place, deaf := ignored }

/-- What is asked of a shell. -/
structure Demands where
  options : List (Bool × Char) := []
  named : List (Bool × Octets) := []
  switches : List (Bool × Octets) := []
  /-- Whether the script stands among the arguments. -/
  given : Bool := false

/-- Reads the options of a shell. -/
def demandsOf (demands : Demands) : Nat → List Octets → Demands × List Octets
  | 0, rest => (demands, rest)
  | _, ['-'] :: rest => (demands, rest)
  | _, ['-', '-'] :: rest => (demands, rest)
  | fuel + 1, (sign :: c :: letters) :: rest =>
    if sign = '-' || sign = '+' then
      let letters := c :: letters
      let on : Bool := sign = '-'
      let valued (letter : Char) (rest : List Octets) : List (Bool × Octets) × List Octets :=
        if letters.contains letter then
          (match rest with
          | name :: rest => ([(on, name)], rest)
          | [] => ([], []))
        else ([], rest)
      let (named, rest) := valued 'o' rest
      let (switches, rest) := valued 'O' rest
      demandsOf
        { options := demands.options ++
            (letters.filter fun c => c ≠ 'c' && c ≠ 'o' && c ≠ 'l' && c ≠ 'O').map (on, ·)
          named := demands.named ++ named
          switches := demands.switches ++ switches
          given := demands.given || (on && letters.contains 'c') } fuel rest
    else (demands, (sign :: c :: letters) :: rest)
  | _, rest => (demands, rest)

/-- Carries out a shell of the plain language. -/
def plainShell (inner : Inner) (call : Call) : Act Nat := do
  becomeShell false call.name []
  modify fun shell => { shell with line := 0 }
  let work : Act Nat := do
    let (demands, words) := demandsOf {} (call.arguments.length + 1) call.arguments
    for (on, letter) in demands.options do
      Builtin.setLetters on [letter]
    for (on, name) in demands.named do
      Builtin.setNamed on name
    let carryOut (title : Octets) (positional : List Octets) (script : Octets) : Act Nat := do
      modify fun shell => { shell with
        title, positional, line := 1, extra := { shell.extra with echoes := !demands.given } }
      runOwnScript inner false 1 script
    match demands.given, words with
    | true, script :: more => carryOut (more.headD call.name) (more.drop 1) script
    | true, [] => refuse (octets "-c requires an argument")
    | false, words =>
      if words = [] || demands.options.contains (true, 's') then
        modify fun shell => { shell with
          options := Builtin.arranged ('s' :: shell.options) }
        let (script, _) ← readAll 0
        carryOut call.name words script
      else
        let name := words.headD []
        match (← tree).openRead (spelled name) with
        | .ok (_, node) => carryOut name (words.drop 1) (ofNumbers node.contents.1)
        | .error _ =>
          complain (octets "cannot open " ++ name ++ octets ": No such file")
          throw (.exit 2)
  toEnd inner work

/-- Carries out a script that is read line by line, each command as soon as it is complete; what was read of
the next one is kept. -/
def runLines (inner : Inner) : Nat → Octets → Nat → Nat → Act Nat
  | 0, _, _, status => return status
  | fuel + 1, pending, line, status => do
    let (text, complete) ← readLine 0
    let atEnd : Bool := !complete && text = []
    let pending := pending ++ text ++ (if complete then ['\n'] else [])
    let shell ← get
    let source := { Source.ofText pending with
      line, groups := shell.patternRules.groups, freshDocument := shell.freshDocument }
    if atEnd && pending = [] then return status
    else
      let more : Bool := match Extended.nextCommand source with
        | .error fault => (octets "syntax error: unexpected end").isPrefixOf fault.words.toList ||
          (octets "unexpected EOF").isPrefixOf fault.words.toList
        | .ok (_, rest) => rest.warnings ≠ []
      if more && !atEnd then runLines inner fuel pending line status
      else
        let stop : Bool := match Extended.nextCommand source with
          | .error _ => true
          | .ok _ => false
        let status ← runOwnScript inner false line pending
        if stop || atEnd then return (← get).status
        else runLines inner fuel [] (line + (pending.filter (· = '\n')).length) status

/-- How a shell of the extended language is used. -/
def extendedUsage (title : Octets) : Octets :=
  octets "Usage:\t" ++ title ++ octets " [GNU long option] [option] ...\n\t" ++ title ++
    octets (" [GNU long option] [option] script-file ...\nGNU long options:\n\t--debug\n\t--debugger\n" ++
      "\t--dump-po-strings\n\t--dump-strings\n\t--help\n\t--init-file\n\t--login\n\t--noediting\n" ++
      "\t--noprofile\n\t--norc\n\t--posix\n\t--pretty-print\n\t--rcfile\n\t--restricted\n\t--verbose\n" ++
      "\t--version\nShell options:\n\t-ilrsD or -c command or -O shopt_option\t\t(invocation only)\n" ++
      "\t-abefhkmnptuvxBCEHPT or -o option\n")

/-- The long options of a shell of the extended language, with the letters of the options that they turn
on. -/
def longOptions : List (String × List Char) :=
  [("--norc", []), ("--noprofile", []), ("--posix", ['\x07']), ("--login", []), ("--noediting", []),
    ("--restricted", []), ("--verbose", ['v']), ("--debugger", []), ("--version", [])]

/-- Carries out a shell of the extended language. -/
def extendedShell (inner : Inner) (call : Call) : Act Nat := do
  becomeShell true call.name []
  modify fun shell => { shell with line := 0 }
  let long := call.arguments.takeWhile fun word => (longOptions.lookup (spelled word)).isSome
  let arguments := call.arguments.drop long.length
  let (demands, words) := demandsOf {} (arguments.length + 1) arguments
  let wrong := demands.options.find? fun (_, letter) => !Extended.optionLetters.contains letter
  let letters := long.flatMap fun word => (longOptions.lookup (spelled word)).getD []
  let work : Act Nat := do
    if long.contains (octets "--version") then
      let version := ".".intercalate (languageVersion.take 3)
      let machine := languageVersion.getLastD ""
      write 1 (octets s!"GNU bash, version {version}(1)-release ({machine})\n")
      return 0
    match wrong with
    | some (_, letter) =>
      let option := if letter = '-' then
          (arguments.find? fun word => word.take 2 = ['-', '-']).getD ['-', '-']
        else ['-', letter]
      write 2 (call.name ++ octets ": " ++ option ++ octets ": invalid option\n" ++ extendedUsage call.name)
      return 2
    | none =>
      for (on, letter) in letters.map (true, ·) ++ demands.options do
        Extended.Builtin.setLetter on letter
      for (on, name) in demands.named do
        if !(← during call.name (Extended.Builtin.setNamed on name)) then throw (.exit 2)
      for (on, name) in demands.switches do
        if !(← Extended.Builtin.setSwitch on name) then throw (.exit 2)
      let begin (title : Octets) (positional : List Octets) (options : List Char) (extra : Extra) :
          Act Unit :=
        modify fun shell => { shell with
          title, positional, line := 1, options := Extended.arranged (options ++ shell.options)
          extra := { extra with switches := shell.extra.switches } }
      match demands.given, words with
      | true, script :: more =>
        begin (more.headD call.name) (more.drop 1) ['c'] { given := true, reading := octets "-c" }
        putVariable "BASH_EXECUTION_STRING" (some { text := some script })
        runOwnScript inner true 1 script
      | true, [] =>
        write 2 (call.name ++ octets ": -c: option requires an argument\n")
        return 2
      | false, words =>
        if words = [] || demands.options.contains (true, 's') then
          begin call.name words ['s'] {}
          runLines inner maxPieces [] 1 0
        else
          let name := words.headD []
          match (← tree).openRead (spelled name) with
          | .ok (_, node) => match node.kind with
            | .directory =>
              write 2 (name ++ octets ": " ++ name ++ octets ": Is a directory\n")
              return 126
            | _ =>
              begin name (words.drop 1) [] {}
              runOwnScript inner false 1 (ofNumbers node.contents.1)
          | .error fault =>
            write 2 (call.name ++ octets ": " ++ name ++ octets s!": {fault.reason}\n")
            return 127
  toEnd inner work

/-! ### Programs -/

/-- What a file holds that can be carried out. -/
inductive Executable where
  | program (name : String)
  /-- A script for a program, with the words in front of its name. -/
  | script (interpreter : Octets) (words : List Octets)

/-- What can be carried out of the contents of a file; a script that names no program is one for a certain
shell. -/
def Executable.of (shell : Octets) (content : Octets) : Executable :=
  if Files.programMark.toList.isPrefixOf content then
    .program (String.ofList (content.drop Files.programMark.length))
  else if ['#', '!'].isPrefixOf content then
    let line := stripped ((content.drop 2).takeWhile (· ≠ '\n'))
    let interpreter := line.takeWhile fun c => c ≠ ' ' && c ≠ '\t'
    let argument := stripped (line.drop interpreter.length)
    .script interpreter (interpreter :: if argument = [] then [] else [argument])
  else .script shell [shell]

/-- Whether the contents of a file are those of a program for some machine, or no text. -/
def isBinary (content : Octets) : Bool :=
  !Files.programMark.toList.isPrefixOf content &&
    ((octets "\x7fELF").isPrefixOf content || ((content.take 80).takeWhile (· ≠ '\n')).contains '\x00')

/-- Leaves a shell of the extended language only with what a program gets, in the order in which that is
shown. -/
def leaveExtended (file : Octets) : Act Unit :=
  modify fun shell =>
    if shell.extended then
      let known := Program.exported { shell with
        bindings := shell.bindings.filter fun entry => entry.1 ≠ "_" && entry.2.shape = .single }
      let place (entry : String × Variable) : Nat := scattered (octets entry.1)
      let sorted := known.mergeSort fun first second => place first ≤ place second
      let sorted := sorted.map fun entry => (entry.1, { entry.2 with marks := [] })
      { shell with
        extended := false
        bindings := ("_", { text := some file, exported := true }) :: sorted.reverse }
    else shell

/-- Carries out the program in a file in place of the process. -/
def runProgram (inner : Inner) : Nat → Octets → List Octets → Act Empty
  | 0, _, _ => waitForEver
  | fuel + 1, file, words => do
    let name := words.headD []
    let channels := (← get).extra.channels
    modifyMe fun process => { process with
      caught := [], arrived := [], saved := []
      descriptors := process.descriptors.filter fun entry => entry.1 < 10 || channels.contains entry.1 }
    modify fun shell => { shell with traps := [], hidden := [], loops := 0 }
    sweep
    let content := match (← tree).read (spelled file) with
      | .ok content => ofNumbers content
      | .error _ => []
    let extended := (← get).extended
    if extended && isBinary content then
      complain (name ++ octets ": cannot execute binary file: Exec format error")
      finish (.exited 126)
    match Executable.of (octets (if extended then "/bin/bash" else "/bin/sh")) content with
    | .script interpreter front =>
      match (← tree).read (spelled interpreter) with
      | .ok _ => runProgram inner fuel interpreter (front ++ file :: words.drop 1)
      | .error _ =>
        complain (name ++ octets (if extended then ": cannot execute: required file not found" else ": not found"))
        finish (.exited 127)
    | .program program =>
      spend startTime
      leaveExtended file
      let call : Call := ⟨name, words.drop 1⟩
      let launcher : Launcher := ⟨runProgram inner fuel⟩
      modify fun shell => { shell with kept := [], keptSize := 0 }
      match programs.lookup program with
      | some work =>
        modify fun shell => { shell with title := name }
        let status ← work launcher call
        Program.flush
        finish (.exited status)
      | none =>
        if program = "dash" then
          let status ← plainShell inner call
          finish (.exited status)
        else if program = "bash" then
          let status ← extendedShell inner call
          finish (.exited status)
        else if program = "test" || program = "[" then
          match ← attempt (Builtin.test program call.arguments) with
          | .ok status => finish (.exited status)
          | .error _ => finish (.exited 2)
        else if program = "kill" then
          match ← attempt (Builtin.kill call.arguments) with
          | .ok status => finish (.exited status)
          | .error _ => finish (.exited 1)
        else finish (.exited 0)

/-! ### Programs by name -/

/-- The words of a shell of the extended language for what it cannot start, and the status. -/
def Missing.extendedWords (name : Octets) : Missing → String × Nat
  | .program => if name.contains '/' then ("No such file or directory", 127) else ("command not found", 127)
  | .permission => ("Permission denied", 126)
  | .place => ("Is a directory", 126)
  | .other fault => (fault.description.1, 126)

/-- Complains about a command that cannot be started. -/
def missing (name : Octets) (why : Missing) : Act Nat := do
  let shell ← get
  let placeless : Bool := why = .program && ((shell.value "PATH").getD []) = []
  let (words, status) := if !shell.extended then why.words
    else if placeless then ("No such file or directory", 127)
    else why.extendedWords name
  complain (name ++ octets s!": {words}")
  return status

/-- Why the file that a name stands for cannot be started, as a shell of the extended language sees it. -/
def Missing.seen (tree : Files.Tree) (name : Octets) (why : Missing) : Missing :=
  if name.contains '/' then match tree.find (spelled name) with
    | .ok ⟨.directory, _, _⟩ => .place
    | .ok _ => why
    | .error (.os .notFound) => .program
    | .error (.os fault) => .other fault
    | .error _ => why
  else match why with
    | .place => .program
    | why => why

/-- Carries out a program in place of the process. -/
def exec (inner : Inner) (words : List Octets) : Act Empty := do
  let name := words.headD []
  let shell ← get
  match shell.programFile (← tree) name with
  | .ok file => runProgram inner maxLaunches file (shell.extra.title.getD name :: words.drop 1)
  | .error why =>
    if shell.extended then
      match why.seen (← tree) name with
      | .program =>
        complain (name ++ octets (if name.contains '/' then ": No such file or directory" else ": not found"))
        throw (.exit 127)
      | why =>
        let reason := (why.extendedWords name).1
        if why = .place then during [] (complain (name ++ octets s!": {reason}"))
        complain (name ++ octets s!": cannot execute: {reason}")
        throw (.exit 126)
    else
      let status ← missing name why
      throw (.exit status)

/-- What a builtin can have done by the shell. -/
def services (inner : Inner) (direct : List Octets → Act Nat) : Services where
  script := runScript inner
  scriptFrom := runScriptFrom inner
  trace line := do traceLine (capture inner) (← handle? 2) line
  command := direct
  replace words := do
    modify fun shell => { shell with traps := shell.traps.filter fun trap => trap.1 ≠ 0 }
    exec inner words

/-- Carries out a program in a process of its own, or, as the last thing that the shell does, in place of
the shell. The text is that of the command. -/
def startProgram (inner : Inner) (final : Bool) (words : List Octets) (text : Octets) : Act Nat := do
  let name := words.headD []
  let shell ← get
  let tree ← tree
  let found : Except Missing Octets := match shell.programFile tree name with
    | .error why => .error (if shell.extended then why.seen tree name else why)
    | found => found
  match found with
  | .error why =>
    let direct : Bool := match why with
      | .program => true
      | .place => true
      | _ => false
    if direct then missing name why
    else
      let child ← subprocess id do
        let status ← missing name why
        finish (.exited status)
      await [child]
  | .ok file =>
    Builtin.track name file
    modify fun shell => { shell with extra := { shell.extra with uses := spelled name :: shell.extra.uses } }
    if final && shell.traps.all (·.2 = []) then
      if !shell.extra.piped then
        modify fun shell => { shell with
          bindings := shell.bindings.map fun entry => if entry.1 = "SHLVL" then
              (entry.1, { entry.2 with text := some (decimal (((entry.2.text).bind count?).getD 1 - 1)) })
            else entry }
      let never ← runProgram inner maxLaunches file words
      nomatch never
    else
      let child ← subprocess id (runProgram inner maxLaunches file words)
      let ended ← ending child
      if shell.extended then announceExtended true child ended text else announce ended
      return ended.status

/-- Carries out a builtin or a program for words, functions left aside. -/
def direct (inner : Inner) : Nat → List Octets → Act Nat
  | 0, _ => waitForEver
  | _, [] => return 0
  | fuel + 1, name :: arguments => do
    let shell ← get
    match builtin? shell (services inner (direct inner fuel)) (spelled name) arguments with
    | some action => if shell.extended then during name action else contained (during name action)
    | none => startProgram inner false (name :: arguments) []

end Workyard.Shell
