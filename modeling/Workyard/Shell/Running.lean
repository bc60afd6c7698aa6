/-
**Running scripts.**

A script is carried out one complete command after another, by what carries out a single command. A fault
in it ends the shell; in the extended language it only ends the command, and the next one follows.

* `runScript`: carries out a script;
* `toEnd`: carries out what a process does up to its end;
* `capturing`: carries out the commands inside words.
-/

import Workyard.Shell.Builtin.Job
import Workyard.Shell.Extended.Script

namespace Workyard.Shell

/-- How the commands inside a command are carried out. -/
abbrev Inner := Command → Act Nat

/-- The numbers by which more that can happen goes among the signals: before a command, behind one that
failed, and behind a function. -/
def commandEvent : Nat := 65

/-- A command has failed. -/
def failureEvent : Nat := 66

/-- A function has returned. -/
def returnEvent : Nat := 67

/-- Does a part of the work whose failure is looked at. -/
def tested {α : Type} (part : Act α) : Act α := do
  let before := (← get).tested
  modify fun shell => { shell with tested := true }
  ensuring part (modify fun shell => { shell with tested := before })

/-- The status of a fault. -/
def State.faultStatus (shell : State) : Nat := if shell.extended then 1 else 2

/-- Does a part of the work; a fault in it gives only a status. -/
def contained (part : Act Nat) : Act Nat := do
  match ← attempt part with
  | .error .failed => return (← get).faultStatus
  | other => settle other

/-- What a process that works for the shell gets from it. -/
def subprocess (change : Process → Process) (part : Act Empty) : Act Nat := do
  let _ ← takeNumber
  fork change part

/-- Remembers how the commands of a pipeline ended. -/
def remember (statuses : List Nat) : Act Unit :=
  modify fun shell => { shell with extra := { shell.extra with pipeline := statuses } }

/-- Whether a command is none at all. -/
def Command.isNothing : Command → Bool
  | .sequence [] => true
  | _ => false

/-- The faults in the text at hand, as a shell of the extended language complains about them. -/
def complainOf (fault : Fault) : Act Unit := do
  let shell ← get
  let source := if shell.extra.source = [] then shell.title else shell.extra.source
  let reading := if shell.extra.reading = [] then [] else shell.extra.reading ++ [':', ' ']
  for line in fault.words.splitOn "\n" do
    write 2 (source ++ [':', ' '] ++ reading ++ octets s!"line {fault.line}: {line}\n")

/-- Shows the lines that were read, if the shell does so. -/
def showRead (before after : Source) : Act Unit := do
  let text := before.rest.take (before.rest.length - after.rest.length)
  if (← get).options.contains 'v' && text ≠ [] then
    write 2 (if text.getLast? = some '\n' then text else text ++ ['\n'])

/-- Carries out the complete commands of a script of the extended language; the last of them may be the last
thing that the shell does. -/
def runExtended (inner : Inner) (final : Bool) : Nat → Source → Nat → Act Nat
  | 0, _, status => return status
  | fuel + 1, source, status => do
    let shell ← get
    let known := if shell.extra.switches.contains "expand_aliases" then shell.aliases else []
    match Extended.nextCommand { source with
        groups := shell.patternRules.groups, freshDocument := shell.freshDocument, warnings := []
        aliases := known } with
    | .error fault =>
      complainOf fault
      modify fun shell => { shell with status := fault.status }
      remember [fault.status]
      return fault.status
    | .ok (none, rest) =>
      showRead source rest
      return status
    | .ok (some command, rest) =>
      showRead source rest
      for warning in rest.warnings.reverse do
        modify fun shell => { shell with line := warning.line }
        complain (octets warning.words)
      let last : Bool := final && rest.rest.all isSpace
      modify fun shell => { shell with
        documents := rest.documents ++ shell.documents, freshDocument := rest.freshDocument
        extra := { shell.extra with final := last } }
      match ← attempt (inner command) with
      | .ok status => runExtended inner final fuel { rest with documents := [] } status
      | .error .failed =>
        modify fun shell => { shell with status := 1 }
        remember [1]
        runExtended inner final fuel { rest with documents := [] } 1
      | .error other => throw other

/-- Carries out the complete commands of a script. -/
def runCommands (inner : Inner) : Nat → Source → Nat → Act Nat
  | 0, _, status => return status
  | fuel + 1, source, status => do
    let shell ← get
    let shown (rest : Source) : Act Unit := if shell.extra.echoes then showRead source rest else pure ()
    match nextCommand { source with aliases := shell.aliases, freshDocument := shell.freshDocument } with
    | .error fault =>
      modify fun shell => { shell with line := fault.line }
      refuse (octets fault.words)
    | .ok (none, rest) =>
      shown rest
      return status
    | .ok (some command, rest) =>
      shown rest
      modify fun shell => { shell with
        documents := rest.documents ++ shell.documents, freshDocument := rest.freshDocument }
      let rest := { rest with documents := [] }
      if command.isNothing then runCommands inner fuel rest status
      else
        let status ← inner command
        runCommands inner fuel rest status

/-- Carries out the script of a shell, whose first line has a number. -/
def runOwnScript (inner : Inner) (final : Bool) (first : Nat) (script : Octets) : Act Nat := do
  let line := (← get).line
  let source := { Source.ofText script with line := first }
  let status ← if (← get).extended then runExtended inner final (script.length + 2) source 0
    else runCommands inner (script.length + 2) source 0
  modify fun shell => { shell with line }
  return status

/-- Carries out a script inside another one, whose first line has a number. -/
def runScriptFrom (inner : Inner) (first : Nat) (script : Octets) : Act Nat := do
  let echoes := (← get).extra.echoes
  modify fun shell => { shell with
    extra := { shell.extra with nesting := shell.extra.nesting + 1, echoes := false } }
  ensuring (runOwnScript inner false first script) (modify fun shell => { shell with
    extra := { shell.extra with nesting := shell.extra.nesting - 1, echoes } })

/-- Carries out a script inside another one. -/
def runScript (inner : Inner) (script : Octets) : Act Nat := runScriptFrom inner 1 script

/-! ### Signals -/

/-- Carries out what is to be done about something that has happened; the status stays as it was. -/
def answerEvent (inner : Inner) (event : Nat) : Act Unit := do
  match (← get).traps.lookup event with
  | some (c :: action) =>
    let before ← get
    -- What answers an event is not answered itself.
    modify fun shell => { shell with traps := shell.traps.filter (·.1 ≠ event) }
    let _ ← runScriptFrom inner before.line (c :: action)
    modify fun shell => { shell with
      status := before.status, traps := (event, c :: action) :: shell.traps.filter (·.1 ≠ event)
      extra := { shell.extra with pipeline := before.extra.pipeline } }
  | _ => pure ()

/-- Carries out what is to be done about signals that have come. -/
def answerSignals (script : Octets → Act Nat) : Act Unit := do
  let arrived := ((← me).map (·.arrived)).getD []
  if arrived ≠ [] then
    modifyMe fun process => { process with arrived := [] }
    for signal in arrived do
      match (← get).traps.lookup signal with
      | some (c :: action) =>
        let status := (← get).status
        let _ ← script (c :: action)
        modify fun shell => { shell with status }
      | _ => pure ()

/-- Keeps a status; one of a failure may end the shell. -/
def conclude (inner : Inner) (status : Nat) : Act Nat := do
  modify fun shell => { shell with status }
  let shell ← get
  if status ≠ 0 && !shell.tested then
    if shell.extended then answerEvent inner failureEvent
    if shell.options.contains 'e' then throw (.exit status)
  return status

/-! ### The end of a process -/

/-- Carries out what a process does, and what is to be done at its end. -/
def toEnd {α : Type} (inner : Inner) (part : Act Nat) : Act α := do
  let status ← match ← attempt part with
    | .ok status => pure status
    | .error (.exit status) => pure status
    | .error .failed => do pure (← get).faultStatus
    | .error (.returned status) => pure status
    | .error (.broken _) => pure 0
    | .error (.continued _) => pure 0
  modify fun shell => { shell with status, tested := true, hidden := [] }
  match (← get).traps.lookup 0 with
  | some (c :: action) =>
    modify fun shell => { shell with traps := shell.traps.filter (·.1 ≠ 0) }
    match ← attempt (runOwnScript inner false 1 (c :: action)) with
    | .error (.exit status) => finish (.exited (status % 256))
    | .error .failed => do finish (.exited (← get).faultStatus)
    | _ => finish (.exited (status % 256))
  | _ => finish (.exited (status % 256))

/-! ### Commands inside words -/

/-- What a shell that works for another one starts from. -/
def deeper (nesting : Nat) : Act Unit :=
  modify fun shell =>
    if shell.extended then { shell with
      options := if nesting = 0 then shell.options else shell.options.filter (· ≠ 'e')
      extra := { shell.extra with
        depth := shell.extra.depth + 1, nesting := shell.extra.nesting + nesting, channels := []
        final := true, piped := false } }
    else shell

/-- The word for a file whose contents a command gives that does nothing but read it. -/
def Command.contents? : Command → Option Word
  | .simple _ [] [] [.file 0 .input word] _ => some word
  | _ => none

/-- The greatest descriptor of a file by which a command is read or written. -/
def lastChannel : Nat := 63

/-- What carries out the commands inside words. -/
def capturing (inner : Inner) (fuel : Nat) : Capture where
  output := output fuel
  channel := channel
where
  /-- What commands write, without the ends of its last lines. -/
  output : Nat → Command → Act Octets
    | 0, _ => return []
    | fuel + 1, body => do
      if body.isNothing then
        modify fun shell => { shell with captured := some 0 }
        return []
      else
        let (reader, writer) ← newPipe
        let before := ((← me).map (·.descriptors)).getD []
        let contents := if (← get).extended then body.contents? else none
        let work : Act Nat := do
          deeper 1
          match contents with
          | none => inner body
          | some word =>
            let name ← joined ⟨output fuel, channel⟩ word
            match ← openFile { reads := true } name with
            | .error fault => refuse (name ++ octets s!": {fault.reason}")
            | .ok handle =>
              setHandle 0 (some handle)
              let (text, _) ← readAll 0
              write 1 text
              return 0
        let child ← subprocess (fun process => { process with
            descriptors := (1, writer) :: process.descriptors.filter (·.1 ≠ 1) }) (toEnd inner work)
        let place := before.foldl (fun place entry => max place (entry.1 + 1)) 10
        setHandle place (some reader)
        let (text, _) ← readAll place
        modifyMe fun process => { process with descriptors := before }
        sweep
        let status ← if (← get).extended then Ending.status <$> ending child else await [child]
        modify fun shell => { shell with captured := some status, status }
        return ((text.filter (· ≠ '\x00')).reverse.dropWhile (· = '\n')).reverse
  /-- Starts commands that are read from or written to by the name of a file. -/
  channel (reads : Bool) (body : Command) : Act Octets := do
    let (reader, writer) ← newPipe
    let (own, other) : Handle × Handle := if reads then (reader, writer) else (writer, reader)
    let used := (← get).extra.channels
    let child ← subprocess (fun process =>
        let kept := process.descriptors.filter fun entry =>
          entry.1 ≠ (if reads then 1 else 0) && !used.contains entry.1
        { process with descriptors := (if reads then 1 else 0, other) :: kept })
      (toEnd inner do
        deeper 0
        inner body)
    let descriptor := lastChannel - used.length
    setHandle descriptor (some own)
    modify fun shell => { shell with
      lastJob := some child, extra := { shell.extra with channels := descriptor :: shell.extra.channels } }
    return octets s!"/dev/fd/{descriptor}"

/-- What carries out the commands inside words. -/
def capture (inner : Inner) : Capture := capturing inner 1000

/-- Does a part of the work, and closes the files by which commands were read and written for it. -/
def withChannels {α : Type} (part : Act α) : Act α := do
  let before := (← get).extra.channels
  ensuring part do
    let opened := (← get).extra.channels.filter fun descriptor => !before.contains descriptor
    if opened ≠ [] then
      for descriptor in opened do
        setHandle descriptor none
      modify fun shell => { shell with extra := { shell.extra with channels := before } }
      sweep

/-! ### Traces -/

/-- The text in front of the traces of commands. -/
def traceFront (capture : Capture) : Act Octets := do
  let shell ← get
  match template ((shell.value "PS4").getD []) with
  | .error _ => return []
  | .ok word =>
    let options := shell.options
    modify fun shell => { shell with options := options.filter (· ≠ 'x') }
    let text ← ensuring (joined capture word) (modify fun shell => { shell with options })
    return match text with
      | c :: rest => if shell.extended then List.replicate (shell.extra.nesting + 1) c ++ rest else c :: rest
      | [] => []

/-- A word as it is shown among others that are carried out. -/
def tracedWord (text : Octets) : Octets :=
  let text := if text.contains listMark then text.takeWhile (· ≠ '=') else text
  if text = [] then ['\'', '\''] else if Extended.hasSpecial text then Extended.inSingle text else text

/-- Writes a line about what is carried out to where complaints went at first, if the shell does so. -/
def traceLine (capture : Capture) (handle : Option Handle) (line : Octets) : Act Unit := do
  if (← get).options.contains 'x' then
    let front ← traceFront capture
    let _ ← writeTo handle (front ++ line ++ ['\n'])

/-- Writes the words that are about to be carried out. -/
def trace (capture : Capture) (handle : Option Handle) (words : List Octets) : Act Unit := do
  let shell ← get
  if shell.options.contains 'x' && words ≠ [] then
    traceLine capture handle (joinedBy [' '] (if shell.extended then words.map tracedWord else words))

end Workyard.Shell
