/-
**Carrying out commands.**

Each form of command is carried out by `step`, which is told how to carry out the commands inside; `run`
ties the two together up to a depth.
-/

import Workyard.Shell.Launching
import Workyard.Shell.Redirection

namespace Workyard.Shell

/-- The most turns of a loop that are carried out. -/
def maxTurns : Nat := 3000000

/-! ### Simple commands -/

/-- An assignment as it is traced, given how it was written and the text of its value. -/
def tracedAssignment (assignment : Assignment) (written text : Octets) : Octets :=
  match assignment with
  | .mk _ _ _ [.list _] => written
  | .mk name index appends _ =>
    let place := if index.isEmpty then [] else '[' :: Extended.placeText index ++ [']']
    octets name ++ place ++ (if appends then ['+', '='] else ['=']) ++ (if text = [] then [] else tracedWord text)

/-- Gives variables their values, one after another; gives what they were before. In front of a command of
the extended language a fault does not matter. -/
def assignAll (capture : Capture) (handle : Option Handle) (lenient : Bool) :
    List (Assignment × Octets) → Act (List (String × Option Variable))
  | [] => return []
  | (assignment, written) :: rest => do
    let shell ← get
    let name := if shell.extended then shell.actual assignment.name else assignment.name
    match ← attempt (assignment.carryOut capture) with
    | .ok text =>
      if shell.extended then traceLine capture handle (tracedAssignment assignment written text)
    | .error .failed => if !lenient then throw .failed
    | .error other => throw other
    return (name, shell.held name) :: (← assignAll capture handle lenient rest)

/-- Marks variables for programs. -/
def exportAll (names : List String) : Act Unit :=
  modify fun shell => { shell with
    bindings := shell.bindings.map fun entry =>
      (entry.1, { entry.2 with exported := entry.2.exported || names.contains entry.1 }) }

/-- Gives variables back what they were, the last first. -/
def restore (before : List (String × Option Variable)) : Act Unit := do
  for (name, held) in before do
    putVariable name held

/-- The most functions of the plain language that may be running. -/
def maxCalls : Nat := 1000

/-- What else can happen in a function, unless an option says so. -/
def State.hiddenEvents (shell : State) : List Nat :=
  (if shell.options.contains 'T' then [] else [commandEvent, returnEvent]) ++
    (if shell.options.contains 'E' then [] else [failureEvent])

/-- Carries out a function. -/
def call (inner : Inner) (name : String) (body : Command) (arguments : List Octets) : Act Nat := do
  let before ← get
  if !before.extended && maxCalls ≤ before.hidden.length then
    refuse (octets "Maximum function recursion depth (1000) reached")
  let extra := before.extra
  let origin := (extra.origins.lookup name).getD extra.source
  let events := if before.extended then before.hiddenEvents else []
  modify fun shell =>
    { shell with
      positional := arguments, loops := 0, hidden := ([], none) :: shell.hidden
      optionPlace := if shell.extended then shell.optionPlace else {}
      traps := shell.traps.filter fun trap => !events.contains trap.1
      extra := { extra with source := origin, calls := ⟨name, origin, shell.line⟩ :: extra.calls } }
  let result ← attempt (inner body)
  if before.extended then
    match result with
    | .ok _ | .error (.returned _) => answerEvent inner returnEvent
    | _ => pure ()
  let (hidden, options) := (← get).hidden.headD ([], none)
  restore hidden
  modify fun shell =>
    { shell with
      positional := before.positional, loops := before.loops, hidden := before.hidden, line := before.line
      optionPlace := if shell.extended && !hidden.any (·.1 = "OPTIND") then shell.optionPlace
        else before.optionPlace
      options := options.getD shell.options
      traps := shell.traps.filter (fun trap => (before.traps.lookup trap.1).isNone || !events.contains trap.1) ++
        before.traps.filter fun trap => events.contains trap.1
      extra := { shell.extra with source := extra.source, calls := extra.calls } }
  match result with
  | .error (.returned status) => return status
  | other => settle other

/-- Carries out a simple command of the plain language. -/
def plainCommand (inner : Inner) (assignments : List Assignment) (words : List Word)
    (redirects : List Redirect) : Act Nat := do
  let capture := capture inner
  let arguments ← arguments capture words
  let assigned (handle : Option Handle) : Act (List (String × Option Variable)) := do
    let before ← assignAll capture handle false (assignments.map (·, []))
    let texts ← before.mapM fun entry => do
      return octets entry.1 ++ ['='] ++ ((← get).value entry.1).getD []
    trace capture handle (texts ++ arguments)
    return before.reverse
  match arguments with
  | [] =>
    conclude inner (← redirected inner redirects (pure 2) fun handle => do
      let _ ← assigned handle
      return (← get).captured.getD 0)
  | name :: rest =>
    let text := spelled name
    let services := services inner (direct inner 100)
    let function := (← get).functions.lookup text
    match specialBuiltins.contains text, function, plainBuiltin? services text rest with
    | true, _, some action =>
      if text = "exec" then
        let handle ← handle? 2
        redirect inner (← targets inner redirects)
        sweep
        let _ ← assigned handle
        conclude inner (← during name action)
      else
        conclude inner (← redirected inner redirects (throw .failed) fun handle => do
          let _ ← assigned handle
          during name action)
    | _, some body, _ =>
      conclude inner (← redirected inner redirects (pure 2) fun handle => do
        let before ← assigned handle
        ensuring (call inner text body rest) (restore before))
    | _, none, some action =>
      conclude inner (← redirected inner redirects (pure 2) fun handle => do
        let before ← assigned handle
        ensuring (contained (during name action)) (restore before))
    | _, none, none =>
      conclude inner (← redirected inner redirects (pure 2) fun handle => do
        let before ← assigned handle
        exportAll (before.map (·.1))
        ensuring (startProgram inner false arguments []) (restore before))

/-- Keeps the last argument of a command. -/
def keepLast (arguments : List Octets) : Act Unit :=
  putVariable "_" (some { text := some (arguments.getLastD []) })

/-- Carries out a simple command of the extended language, which may be the last thing that the shell
does. -/
def extendedCommand (inner : Inner) (final : Bool) (assignments : List Assignment) (words : List Word)
    (redirects : List Redirect) (written : List Octets) : Act Nat := do
  let capture := capture inner
  answerEvent inner commandEvent
  let handle ← handle? 2
  let arguments ← arguments capture words
  let before ← assignAll capture handle (arguments ≠ []) (assignments.zip written)
  let before := before.reverse
  for argument in arguments do
    if argument.contains listMark then
      traceLine capture handle (argument.filter (· ≠ listMark))
  trace capture handle arguments
  let status ← match arguments with
    | [] =>
      let captured := (← get).captured.getD 0
      let status ← redirected inner redirects (pure 1) fun _ => pure captured
      keepLast []
      pure status
    | name :: rest =>
      let text := spelled name
      let shell ← get
      exportAll (before.map (·.1))
      let work (part : Act Nat) : Act Nat := ensuring (do
          let status ← part
          keepLast arguments
          return status)
        (restore before)
      match shell.functions.lookup text, builtin? shell (services inner (direct inner 100)) text rest with
      | some body, _ => work (redirected inner redirects (pure 1) fun _ => call inner text body rest)
      | none, some action =>
        if text = "exec" then
          match ← attempt (redirectAll inner redirects) with
          | .ok _ =>
            sweep
            work (during name action)
          | .error .failed => pure 1
          | .error other => throw other
        else work (redirected inner redirects (pure 1) fun _ => during name action)
      | none, none =>
        work (redirected inner redirects (pure 1) fun _ =>
          let text := joinedBy [' '] (written ++ Extended.redirectsTexts redirects)
          startProgram inner (final && redirects.isEmpty) arguments text)
  remember [status]
  conclude inner status

/-! ### All commands -/

/-- Starts the stages of a pipeline, of which the first reads from a handle and the last may write to one;
gives their processes. -/
def stages (inner : Inner) (background : Bool) (output : Option Handle) :
    Option Handle → List Command → Act (List Nat)
  | _, [] => return []
  | input, body :: rest => do
    let (reader, writer) ← if rest.isEmpty then pure (none, output)
      else do
        let (reader, writer) ← newPipe
        pure (some reader, some writer)
    let child ← fork (fun process =>
        let others := process.descriptors.filter fun entry =>
          !(entry.1 = 0 && input.isSome) && !(entry.1 = 1 && writer.isSome)
        { process with
          descriptors := (input.map (0, ·)).toList ++ (writer.map (1, ·)).toList ++ others
          ignored := if background then 2 :: 3 :: process.ignored else process.ignored })
      (toEnd inner do
        if background then modify fun shell => { shell with deaf := 2 :: 3 :: shell.deaf }
        deeper 0
        modify fun shell => { shell with extra := { shell.extra with piped := !background } }
        inner body)
    return child :: (← stages inner background output reader rest)

/-- Starts processes in the background. -/
def startJob (processes : List Nat) (number : Nat) (text : Octets) : Act Unit :=
  modify fun shell => { shell with
    jobs := { number, processes, text } :: shell.jobs, lastJob := processes.getLast?, status := 0 }

/-- Waits for the stages of a pipeline; gives how each of them ended. -/
def awaitAll (processes : List Nat) : Act (List Nat) :=
  processes.mapM fun process => do
    let ended ← ending process
    if processes.getLast? = some process then announceExtended true process ended []
    return ended.status

/-- The status of a pipeline. -/
def State.pipelineStatus (shell : State) (statuses : List Nat) : Nat :=
  if shell.options.contains Extended.pipefail then (statuses.reverse.find? (· ≠ 0)).getD 0
  else statuses.getLastD 0

/-- Carries out a pipeline of the extended language. -/
def extendedPipeline (inner : Inner) (commands : List Command) : Act Nat := do
  let _ ← takeNumber
  let shell ← get
  let last := commands.getLastD .nothing
  let statuses ← if shell.extra.switches.contains "lastpipe" then do
      let (reader, writer) ← newPipe
      let before := ((← me).map (·.descriptors)).getD []
      let processes ← stages inner false (some writer) none commands.dropLast
      setHandle 0 (some reader)
      modifyMe fun process => { process with saved := before.map (·.2) ++ process.saved }
      sweep
      let saved := ((← me).map (·.saved)).getD []
      let result ← attempt (inner last)
      modifyMe fun process => { process with descriptors := before, saved := saved.drop before.length }
      sweep
      let statuses ← awaitAll processes
      pure (statuses ++ [← settle result])
    else do awaitAll (← stages inner false none none commands)
  remember statuses
  conclude inner ((← get).pipelineStatus statuses)

/-- Does a part of the work inside a loop; gives the status, and whether the loop goes on. -/
def turn (part : Act (Nat × Bool)) : Act (Nat × Bool) := do
  let status : Act Nat := do
    let shell ← get
    return if shell.extended then shell.status else 0
  match ← attempt part with
  | .ok result => return result
  | .error (.broken levels) => if levels ≤ 1 then return (← status, false) else throw (.broken (levels - 1))
  | .error (.continued levels) =>
    if levels ≤ 1 then return (← status, true) else throw (.continued (levels - 1))
  | .error other => throw other

/-- Does a part of the work as a loop. -/
def asLoop (part : Act Nat) : Act Nat := do
  modify fun shell => { shell with loops := shell.loops + 1 }
  ensuring part (modify fun shell => { shell with loops := shell.loops - 1 })

/-- Carries out a loop for as long as its condition says so. -/
def turns (inner : Inner) (untilTrue : Bool) (condition body : Command) : Nat → Nat → Act Nat
  | 0, _ => waitForEver
  | fuel + 1, status => do
    let (status, more) ← turn do
      let met ← tested (inner condition)
      if (met = 0) != untilTrue then return ((← inner body), true) else return (status, false)
    if more then turns inner untilTrue condition body fuel status else return status

/-- Carries out a loop over values; a line about it may be traced before each turn. -/
def forEach (inner : Inner) (line : Octets) (name : String) (body : Command) : List Octets → Nat → Act Nat
  | [], status => return status
  | value :: rest, _ => do
    let shell ← get
    if shell.extended then
      answerEvent inner commandEvent
      traceLine (capture inner) (← handle? 2) line
    if shell.extended && (shell.found name).any (·.fixed) then
      complain (octets s!"{name}: readonly variable")
      return 1
    else
      assign name value
      let (status, more) ← turn do return ((← inner body), true)
      if more then forEach inner line name body rest status else return status

/-- Carries out arms of which a pattern stands for the subject. -/
def choose (inner : Inner) (subject : Octets) : List (List Word × Command × Follow) → Act Nat
  | [] => return 0
  | (patterns, body, follow) :: rest => do
    let folds : Bool := (← get).extra.switches.contains "nocasematch"
    let isMatch (word : Word) : Act Bool := do
      if folds then
        let glyphs ← glyphs (capture inner) false true word
        let marked := (markedGlyphs glyphs).map fun c => (c.1.toLower, c.2)
        return (markedPattern (← get).patternRules marked).matches (subject.map Char.toLower)
      else return (← pattern (capture inner) word).matches subject
    if ← patterns.anyM isMatch then arm body follow rest
    else choose inner subject rest
where
  /-- Carries out an arm that was chosen, and what follows it. -/
  arm (body : Command) (follow : Follow) (rest : List (List Word × Command × Follow)) : Act Nat := do
    let status ← inner body
    match follow, rest with
    | .fall, (_, next, follow) :: rest => arm next follow rest
    | .resume, rest => if rest.isEmpty then return status else choose inner subject rest
    | _, _ => return status

/-- Carries out commands one after another; the last of them may be the last thing that the shell does. -/
def inTurn (inner : Inner) (final : Bool) : List Command → Nat → Act Nat
  | [], status => return status
  | command :: rest, _ => do
    modify fun shell => { shell with extra := { shell.extra with final := final && rest.isEmpty } }
    let status ← inner command
    inTurn inner final rest status

/-- The value of an expression between two parentheses, none behind a fault. -/
def sum (inner : Inner) (handle : Option Handle) (expression : List Part) : Act (Option Int) := do
  let capture := capture inner
  match ← attempt do
      let text ← joined capture expression
      traceLine capture handle (octets "(( " ++ text ++ octets " ))")
      during (octets "((") (Extended.evaluate text) with
  | .ok value => return some value
  | .error .failed => return none
  | .error other => throw other

/-- Carries out a loop that counts, for as long as its condition is not zero. -/
def counts (inner : Inner) (handle : Option Handle) (condition change : List Part) (body : Command) :
    Nat → Nat → Act Nat
  | 0, _ => waitForEver
  | fuel + 1, status => do
    let value ← if condition.isEmpty then pure (some 1) else sum inner handle condition
    match value with
    | none => return 1
    | some 0 => return status
    | some _ =>
      let (status, more) ← turn do return ((← inner body), true)
      if !more then return status
      else
        let changed ← if change.isEmpty then pure (some 1) else sum inner handle change
        if changed.isNone then return 1 else counts inner handle condition change body fuel status

/-- The words of a menu in columns, with their numbers. -/
def menuText (words : List Octets) : Octets :=
  let count := words.length
  let digits (number : Nat) : Nat := (toString number).length
  let widest := words.foldl (fun most word => max most word.length) 0
  let cell := widest + digits count + 4
  let columns := max (80 / cell) 1
  let rows := count / columns + (if count % columns = 0 then 0 else 1)
  let columns := count / max rows 1 + (if count % max rows 1 = 0 then 0 else 1)
  let rows := if rows = 1 then columns else rows
  let line (row : Nat) : Octets :=
    let cells := (words.zipIdx.filter fun entry => entry.2 % rows = row)
    (cells.zipIdx.flatMap fun ((word, index), column) =>
      let width := if column = 0 then digits rows else digits count
      let text := rightIn width (decimal (index + 1)) ++ [')', ' '] ++ word
      if column + 1 = cells.length then text else padded (column * cell) text ((column + 1) * cell)) ++ ['\n']
  ((List.range rows).map line).flatten
where
  /-- A text from one column on, filled up to another one by tabs and blanks. -/
  padded (start : Nat) (text : Octets) (stop : Nat) : Octets :=
    text ++ fill (start + text.length) stop (stop + 1)
  /-- Tabs and blanks from a column to another one. -/
  fill (start stop : Nat) : Nat → Octets
    | 0 => []
    | fuel + 1 =>
      if stop ≤ start then []
      else if start / 8 < stop / 8 then '\t' :: fill ((start / 8 + 1) * 8) stop fuel
      else ' ' :: fill (start + 1) stop fuel

/-- Lets one of some words be chosen, again and again. -/
def menu (inner : Inner) (name : String) (body : Command) (words : List Octets) : Nat → Bool → Nat → Act Nat
  | 0, _, _ => waitForEver
  | fuel + 1, shows, status => do
    if shows then write 2 (menuText words)
    write 2 (((← get).value "PS3").getD (octets "#? "))
    let (line, complete) ← readLine 0
    if !complete && line = [] then
      write 1 ['\n']
      return 1
    else
      assign "REPLY" line
      if line = [] then menu inner name body words fuel true status
      else
        let chosen := (count? line).bind fun number => if number = 0 then none else words[number - 1]?
        assign name (chosen.getD [])
        let (status, more) ← turn do return ((← inner body), true)
        if more then menu inner name body words fuel (((← get).value "REPLY").getD [] = []) status
        else return status

/-- A time as it is told: minutes and seconds. -/
def toldTime (microseconds : Nat) : String :=
  let milliseconds := microseconds / 1000
  let part := toString (milliseconds % 1000)
  let part := "".pushn '0' (3 - part.length) ++ part
  s!"{milliseconds / 60000}m{milliseconds / 1000 % 60}.{part}s"

/-- Whether a name can be that of a variable, which a shell of the extended language finds out only now. -/
def checkLoopName (name : String) : Act Bool := do
  if isName name.toList then return true
  else
    let back := String.singleton (Char.ofNat 96)
    complain (octets s!"{back}{name}': not a valid identifier")
    return false

/-- The name of the text at hand where functions are told by it. -/
def State.textName (shell : State) : Octets :=
  let extra := shell.extra
  if extra.source ≠ [] then extra.source
  else if extra.given then octets "environment"
  else if shell.options.contains 's' then octets "main"
  else shell.title

/-- Carries out a subshell. -/
def subshell (inner : Inner) (body : Command) (redirects : List Redirect) : Act Nat := do
  let extended := (← get).extended
  let targets ← if extended then pure [] else targets inner redirects
  let child ← subprocess id (toEnd inner do
    deeper 0
    if extended then redirectAll inner redirects else redirect inner targets
    inner body)
  if extended then
    let ended ← ending child
    let text := joinedBy ['\n'] (Extended.commandLines false (.subshell 0 body redirects))
    announceExtended true child ended text
    remember [ended.status]
    conclude inner ended.status
  else conclude inner (← await [child])

/-- Carries out a command, given how those inside are carried out. -/
def form (inner : Inner) (final : Bool) (command : Command) : Act Nat := do
  let extended := (← get).extended
  let atLine (line : Nat) : Act Unit := modify fun shell => { shell with line }
  let last : Act Unit := modify fun shell => { shell with extra := { shell.extra with final } }
  let traced (line : Octets) : Act Unit := do traceLine (capture inner) (← handle? 2) line
  let listed (words : Option (List Word)) : Act (List Octets) := do
    match words with
    | some words => arguments (capture inner) words
    | none => return (← get).positional
  let headed (word : String) (name : String) (words : Option (List Word)) : Octets :=
    let shown := match words with
      | some words => Extended.wordsTexts words
      | none => [octets "\"$@\""]
    octets s!"{word} {name} in " ++ joinedBy [' '] shown
  match command with
  | .simple line assignments words redirects written =>
    modify fun shell => { shell with line, captured := none }
    spend 1
    if extended then extendedCommand inner final assignments words redirects written
    else plainCommand inner assignments words redirects
  | .pipeline negated commands =>
    if negated then
      let status ← tested (match commands with
        | [only] => inner only
        | commands => inner (.pipeline false commands))
      let status := if status = 0 then 1 else 0
      modify fun shell => { shell with status }
      return status
    else if extended then extendedPipeline inner commands
    else
      let _ ← takeNumber
      conclude inner (← await (← stages inner false none none commands))
  | .both first second =>
    let status ← tested (inner first)
    last
    if status = 0 then inner second else pure status
  | .either first second =>
    let status ← tested (inner first)
    last
    if status ≠ 0 then inner second else pure status
  | .background body =>
    let number ← takeNumber
    let (processes, input) : List Command × Option Handle ← match body with
      | .pipeline false commands => pure (commands, none)
      | body => do
        match ← openFile { reads := true } (octets "/dev/null") with
        | .ok handle => pure ([body], some handle)
        | .error _ => pure ([body], none)
    let text := if extended then joinedBy ['\n'] (Extended.commandLines false body) else []
    startJob (← stages inner true none input processes) number text
    pure 0
  | .sequence commands => inTurn inner final commands 0
  | .group body => inner body
  | .subshell line body redirects =>
    atLine line
    subshell inner body redirects
  | .redirected line body redirects =>
    atLine line
    redirected inner redirects (conclude inner (if extended then 1 else 2)) fun _ => inner body
  | .branch condition body otherwise =>
    let status ← tested (inner condition)
    if status = 0 then inner body else inner otherwise
  | .loop untilTrue condition body => asLoop (turns inner untilTrue condition body maxTurns 0)
  | .each line name words body =>
    atLine line
    if extended && !(← checkLoopName name) then return 1
    else
      let values ← listed words
      asLoop (forEach inner (headed "for" name words) name body values 0)
  | .select line subject arms =>
    atLine line
    if extended then
      answerEvent inner commandEvent
      traced (octets "case " ++ Extended.wordText subject ++ octets " in")
    let subject ← joined (capture inner) subject
    choose inner subject arms
  | .define _ name body =>
    let shell ← get
    if shell.extra.fixedFunctions.contains name then
      complain (octets s!"{name}: readonly function")
      return 1
    else
      modify fun shell =>
        { shell with
          functions := (name, body) :: shell.functions.filter (·.1 ≠ name)
          extra := { shell.extra with
            origins := (name, shell.textName) :: shell.extra.origins.filter (·.1 ≠ name) } }
      pure 0
  | .counting line start condition change body =>
    atLine line
    let handle ← handle? 2
    let begun ← if start.isEmpty then pure (some 1) else sum inner handle start
    if begun.isNone then return 1
    else asLoop (counts inner handle condition change body maxTurns 0)
  | .menu line name words body =>
    atLine line
    if !(← checkLoopName name) then return 1
    else
      traced (headed "select" name words)
      let values ← listed words
      if values = [] then return 0 else asLoop (menu inner name body values maxTurns true 0)
  | .calculation line expression =>
    atLine line
    answerEvent inner commandEvent
    let status := match ← sum inner (← handle? 2) expression with
      | some 0 => 1
      | none => 1
      | some _ => 0
    remember [status]
    conclude inner status
  | .condition line test =>
    atLine line
    answerEvent inner commandEvent
    let status ← Extended.testStatus (capture inner) (← handle? 2) false test
    remember [status]
    conclude inner status
  | .timed body =>
    let start := (← world).clock
    let status ← inner body
    let taken := (← world).clock - start
    write 2 (octets s!"\nreal\t{toldTime taken}\nuser\t0m0.000s\nsys\t0m0.000s\n")
    return status

/-- Carries out a command, given how those inside are carried out, and answers signals behind it. -/
def step (inner : Inner) (command : Command) : Act Nat := do
  let shell ← get
  if shell.options.contains 'n' then return 0
  let final := shell.extra.final
  if shell.extended then
    modify fun shell => { shell with extra := { shell.extra with final := false } }
  let status ← if shell.extended then withChannels (form inner final command) else form inner final command
  modify fun shell => { shell with status }
  answerSignals (runScript inner)
  return status

/-- The greatest depth of commands inside each other. -/
def maxDepth : Nat := 20000

/-- Carries out a command, up to a depth. -/
def run : Nat → Command → Act Nat
  | 0, _ => waitForEver
  | fuel + 1, command => step (run fuel) command

end Workyard.Shell
