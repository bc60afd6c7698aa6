/-
**Programs that start other programs.**
-/

import Workyard.Shell.Builtin.Command
import Workyard.Shell.Builtin.Job
import Workyard.Shell.Floating
import Workyard.Shell.Program.Basic

namespace Workyard.Shell

/-- How a program has another one carried out. -/
structure Launcher where
  /-- Carries out a program, with the file that holds it and its words, in place of the process. -/
  exec : Octets → List Octets → Act Empty

namespace Program

/-- The variables that a program gets. -/
def exported (shell : State) : List (String × Variable) :=
  (shell.bindings.filter fun entry => entry.2.exported && entry.2.text.isSome).map fun entry =>
    (entry.1, { entry.2 with fixed := false })

/-- The words for a program that cannot be started, and the status. -/
def Missing.reason : Missing → Octets × Nat
  | .program => (octets "No such file or directory", 127)
  | .permission => (octets "Permission denied", 126)
  | .place => (octets "Permission denied", 126)
  | .other fault => (octets fault.description.1, 126)

/-- Carries out a program in place of the process, or complains about it. -/
def replaceBy (launcher : Launcher) (program : Octets) (complaint : Octets → Octets)
    (words : List Octets) : Act Nat := do
  let name := words.headD []
  match (← get).programFile (← tree) name with
  | .ok file =>
    let never ← launcher.exec file words
    nomatch never
  | .error missing =>
    let (reason, status) := Missing.reason missing
    let _ ← scold program (complaint name ++ octets ": " ++ reason)
    return status

/-- Carries out a program in a process of its own, and gives how it ended. -/
def runChild (launcher : Launcher) (program : Octets) (complaint : Octets → Octets)
    (words : List Octets) : Act Ending := do
  let child ← fork (fun process => process) do
    let status ← replaceBy launcher program complaint words
    finish (.exited status)
  ending child

/-- The variables that words in front of a program set. -/
def settings : List Octets → List (String × Octets) × List Octets
  | [] => ([], [])
  | word :: rest =>
    let name := word.takeWhile (· ≠ '=')
    if name.length < word.length then
      let (more, behind) := settings rest
      ((spelled name, word.drop (name.length + 1)) :: more, behind)
    else ([], word :: rest)

/-- Changes the variables of a program, or shows them. -/
def env (launcher : Launcher) (call : Call) : Act Nat :=
  let known : List Choice := [("i", "ignore-environment", .nothing), ("u", "unset", .value),
    ("0", "null", .nothing), ("C", "chdir", .value), ("S", "split-string", .value)]
  let arguments := call.arguments.map fun word => if word = ['-'] then ['-', 'i'] else word
  withOptions known false 125 { call with arguments } fun options => do
    if options.has "i" then
      modify fun shell => { shell with
        bindings := shell.bindings.map fun entry => (entry.1, { entry.2 with exported := false }) }
    for name in options.all "u" do
      putVariable (spelled name) none
    let words := ((options.last? "S").map fun text => (text.splitOn ' ').filter (· ≠ [])).getD [] ++
      options.rest
    let (set, command) := settings words
    for (name, text) in set do
      putVariable name (some { text := some text, exported := true })
    match options.last? "C" with
    | some place => match (← tree).entry (spelled place), (← tree).locate (spelled place) with
      | .ok (_, ⟨.directory, _, _⟩), .ok location =>
        modifyMe fun process => { process with here := location.path }
      | _, _ => do
        let _ ← scold call.name (octets "cannot change directory to '" ++ place ++
          octets "': No such file or directory")
        finish (.exited 125)
    | none => pure ()
    if command = [] then
      let ends := if options.has "0" then ['\x00'] else ['\n']
      put ((exported (← get)).reverse.flatMap fun entry =>
        octets s!"{entry.1}=" ++ entry.2.text.getD [] ++ ends)
      return 0
    else replaceBy launcher call.name inQuotes command

/-- The microseconds of a duration with a unit, none for one that never ends. -/
def duration? (text : Octets) : Option (Option Nat) :=
  match Floating.front .extended text with
  | none => none
  | some (value, unit) =>
    let factor := match unit with
      | [] => some 1
      | ['s'] => some 1
      | ['m'] => some 60
      | ['h'] => some 3600
      | ['d'] => some 86400
      | _ => none
    match factor, value with
    | none, _ => none
    | some factor, .finite negative mantissa exponent =>
      if negative && mantissa ≠ 0 then none
      else
        let (above, below) := Floating.size mantissa exponent
        some (some (above * factor * 1000000 / below))
    | some _, .infinite negative => if negative then none else some none
    | some _, .notNumber _ => none

/-- Waits for a time. -/
def sleep (call : Call) : Act Nat :=
  withOptions [] false 1 call fun options => do
    let wrong := options.rest.filter fun text => (duration? text).isNone
    if options.rest = [] then misused call.name (octets "missing operand")
    else if wrong ≠ [] then
      for text in wrong do
        let _ ← scold call.name (octets "invalid time interval " ++ inQuotes text)
      write 2 ((hint call.name).drop 1 ++ ['\n'])
      return 1
    else
      match options.rest.mapM fun text => (duration? text).join with
      | none => waitForEver
      | some times =>
        spend (times.foldl (· + ·) 0)
        return 0

/-- Carries out a program up to a time, and then sends it a signal. -/
def timeout (launcher : Launcher) (call : Call) : Act Nat :=
  let known : List Choice := [("s", "signal", .value), ("k", "kill-after", .value),
    ("v", "verbose", .nothing), ("", "preserve-status", .nothing), ("", "foreground", .nothing)]
  withOptions known false 125 call fun options => do
    let wrong (text : Octets) : Act Nat := do
      let _ ← misused call.name (octets "invalid time interval " ++ inQuotes text)
      return 125
    let named := (options.last? "s").map fun name =>
      let name := name.map Char.toUpper
      signal? (if (octets "SIG").isPrefixOf name then name.drop 3 else name)
    match options.rest, named, (options.last? "k").map duration? with
    | _, some none, _ => do
      let _ ← misused call.name (octets "invalid signal " ++ inQuotes ((options.last? "s").getD []))
      return 125
    | _, _, some none => wrong ((options.last? "k").getD [])
    | limit :: word :: words, _, later => match duration? limit with
      | none => wrong limit
      | some limit =>
        let signal := (named.join).getD 15
        let launched := octets "failed to run command "
        let child ← fork (fun process => { process with group := process.number }) do
          let status ← replaceBy launcher call.name (fun name => launched ++ inQuotes name) (word :: words)
          finish (.exited status)
        let now := (← world).clock
        let isOver (world : World) : Bool := !world.isAlive child
        let awaitUntil (time : Option Nat) : Act Unit := do
          match time with
          | some time => suspend { time := some time, ready := isOver }
          | none => waitFor isOver
        awaitUntil (match limit with
          | some (duration + 1) => some (now + duration + 1)
          | _ => none)
        let late : Bool := (← world).isAlive child
        if late then
          if options.has "v" then
            let _ ← scold call.name (octets s!"sending signal {signalName signal} to command " ++ inQuotes word)
          let receivers := (← world).processes.filter (·.group = child)
          for receiver in receivers do
            sendTo signal receiver.number
          match later with
          | some (some (some (duration + 1))) =>
            awaitUntil (some ((← world).clock + duration + 1))
            if (← world).isAlive child then
              if options.has "v" then
                let _ ← scold call.name (octets "sending signal KILL to command " ++ inQuotes word)
              for receiver in (← world).processes.filter (·.group = child) do
                sendTo 9 receiver.number
          | _ => pure ()
        let ending ← ending child
        match late, ending with
        | true, .killed 9 => return 137
        | true, ending => return if options.has "preserve-status" then ending.status else 124
        | false, ending => return ending.status
    | _, _, _ => do
      let _ ← misused call.name (octets "missing operand")
      return 125

/-- Carries out a program that does not mind being left alone. -/
def nohup (launcher : Launcher) (call : Call) : Act Nat :=
  withOptions [] false 125 call fun options => do
    if options.rest = [] then
      let _ ← misused call.name (octets "missing operand")
      return 125
    else
      modifyMe fun process => { process with ignored := 1 :: process.ignored }
      replaceBy launcher call.name (fun name => octets "failed to run command " ++ inQuotes name)
        options.rest

/-- Carries out a program with another priority, or says what it is. -/
def nice (launcher : Launcher) (call : Call) : Act Nat :=
  let arguments := match call.arguments with
    | ('-' :: c :: digits) :: rest =>
      if isDigits (c :: digits) then octets "-n" :: (c :: digits) :: rest else call.arguments
    | arguments => arguments
  withOptions [("n", "adjustment", .value)] false 125 { call with arguments } fun options => do
    match options.last? "n" with
    | some text =>
      if (signed? text).isNone then
        let _ ← misused call.name (octets "invalid adjustment " ++ inQuotes text)
        return 125
      else if options.rest = [] then
        let _ ← misused call.name (octets "a command must be given with an adjustment")
        return 125
      else replaceBy launcher call.name inQuotes options.rest
    | none =>
      if options.rest = [] then
        put ['0', '\n']
        return 0
      else replaceBy launcher call.name inQuotes options.rest

/-- Carries out a program in a group of its own. -/
def setsid (launcher : Launcher) (call : Call) : Act Nat :=
  withOptions [("w", "wait", .nothing), ("c", "ctty", .nothing), ("f", "fork", .nothing)] false 1 call
    fun options => do
      if options.rest = [] then
        write 2 (call.name ++ octets ": no command specified" ++ hint call.name ++ ['\n'])
        return 1
      else
        let own := (← get).process
        if ((← me).map (·.group)) = some own then
          let child ← fork (fun process => { process with group := process.number }) do
            let status ← replaceBy launcher call.name (fun name => octets "failed to execute " ++ name)
              options.rest
            finish (.exited status)
          if options.has "w" then return (← ending child).status else return 0
        else
          modifyMe fun process => { process with group := own }
          replaceBy launcher call.name (fun name => octets "failed to execute " ++ name) options.rest

/-- Carries out a program with changed buffers, which changes nothing here. -/
def stdbuf (launcher : Launcher) (call : Call) : Act Nat :=
  withOptions [("i", "input", .value), ("o", "output", .value), ("e", "error", .value)] false 125 call
    fun options => do
      if options.rest = [] then
        let _ ← misused call.name (octets "missing operand")
        return 125
      else if options.given = [] then
        let _ ← misused call.name (octets "you must specify a buffering mode option")
        return 125
      else
        replaceBy launcher call.name (fun name => octets "failed to run command " ++ inQuotes name)
          options.rest

end Program

end Workyard.Shell
