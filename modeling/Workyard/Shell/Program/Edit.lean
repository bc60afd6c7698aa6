/-
**Editing lines by a script.**

Line after line is taken into a space in which the commands of a script work, and is put out behind them.
There is a second space to keep text in.

* `Feed`: the lines of several files, taken one by one;
* `sed`: the program.
-/

import Workyard.Shell.Program.EditScript
import Workyard.Shell.Program.Plain

namespace Workyard.Shell.Program

/-! ### Lines of several files -/

/-- The lines that are still to be taken. -/
structure Feed where
  ends : Char := '\n'
  names : List Octets
  /-- The file that is open. -/
  current : Option Octets := none
  /-- The name of the file of the last line. -/
  name : Octets := ['-']
  lines : List Octets := []
  left : Octets := []
  /-- Whether a file was begun since the last line was taken. -/
  begun : Bool := false
  failed : Bool := false
  broken : Bool := false

/-- Closes the file that is open. -/
def Feed.close (feed : Feed) : Act Feed := do
  if feed.current ≠ some ['-'] then
    setHandle inputDescriptor none
    sweep
  return { feed with current := none }

/-- Sees to it that there is a line to take, if there is one in the file at hand or, if allowed, in those
behind it. -/
def Feed.fill (across : Bool) : Nat → Feed → Act Feed
  | 0, feed => return feed
  | fuel + 1, feed => do
    if !feed.lines.isEmpty then return feed
    else match feed.current with
      | some name => do
        match ← readPiece (if name = ['-'] then 0 else inputDescriptor) readRoom false with
        | .error fault =>
          write 2 ((← get).title ++ octets ": read error on " ++
            (if name = ['-'] then octets "stdin" else name) ++ octets ": " ++ reason fault ++ ['\n'])
          return { feed with names := [], current := none, broken := true }
        | .ok [] =>
          let feed ← feed.close
          if feed.left ≠ [] then return { feed with lines := [feed.left], left := [] }
          else if across then fill across fuel feed else return feed
        | .ok piece =>
          spend pieceTime
          let pieces := piecesOf feed.ends (feed.left ++ piece)
          let last := pieces.getLast?.getD []
          if last.getLast? = some feed.ends then fill across fuel { feed with lines := pieces, left := [] }
          else fill across fuel { feed with lines := pieces.dropLast, left := last }
      | none =>
        if !across then return feed
        else match feed.names with
          | [] => return feed
          | name :: names => do
            let feed := { feed with names }
            if name = ['-'] then fill across fuel { feed with current := some name, begun := true }
            else match ← openFile { reads := true } name with
              | .error fault =>
                write 2 ((← get).title ++ octets ": can't read " ++ name ++ octets ": " ++ reason fault ++ ['\n'])
                fill across fuel { feed with failed := true }
              | .ok handle =>
                setHandle inputDescriptor (some handle)
                fill across fuel { feed with current := some name, begun := true }

/-- Takes the next line, without its end and with whether it had one. -/
def Feed.take (feed : Feed) : Act (Option (Octets × Bool) × Feed) := do
  let feed ← feed.fill true maxPieces
  match feed.lines with
  | [] => return (none, feed)
  | line :: lines =>
    let feed := { feed with lines, name := feed.current.getD feed.name }
    if line.getLast? = some feed.ends then return (some (line.dropLast, true), feed)
    else return (some (line, false), feed)

/-! ### The spaces -/

/-- What is known while lines are edited. -/
structure Editing where
  feed : Feed
  space : Octets := []
  complete : Bool := true
  kept : Octets := []
  number : Nat := 0
  changed : Bool := false
  /-- What comes behind the line: texts, and files by name. -/
  queued : List (Octets × Bool) := []
  /-- The commands whose range has begun, with the line at which it ends if that is known. -/
  active : List (Nat × Nat) := []
  latest : Option EditPattern := none
  /-- Whether the end of a line is owed to what was put out. -/
  owed : Bool := false
  /-- What is to become the contents of the file, newest first. -/
  inPlace : Option (List Octets) := none
  /-- The descriptors of files to write to. -/
  outputs : List (Octets × Nat) := []
  /-- How much of files was read line by line. -/
  places : List (Octets × Nat) := []

/-- How the editing is done. -/
structure EditPlan where
  commands : Array EditCommand
  silent : Bool := false
  /-- Whether each file is by itself. -/
  separate : Bool := false
  /-- What is put behind the name of a file to keep it under, if files are changed. -/
  suffix : Option Octets := none
  ends : Char := '\n'
  width : Nat := 70

/-- What comes behind a command. -/
inductive EditFlow where
  | goOn (place : Nat)
  /-- The end of the script for this line. -/
  | done (prints : Bool)
  /-- The script again, for what is left. -/
  | again
  | stop (prints : Bool) (status : Nat)

/-- Puts out a text. -/
def Editing.say (state : Editing) (text : Octets) : Act Editing := do
  match state.inPlace with
  | some texts => return { state with inPlace := some (text :: texts) }
  | none =>
    put text
    return state

/-- Puts out the end of a line that is owed. -/
def Editing.settle (plan : EditPlan) (state : Editing) : Act Editing := do
  let settled := { state with owed := false }
  if state.owed then settled.say [plan.ends] else return state

/-- Puts out a line. -/
def Editing.line (plan : EditPlan) (state : Editing) (text : Octets) : Act Editing := do
  let state ← state.settle plan
  let state ← state.say (if state.complete then text ++ [plan.ends] else text)
  return { state with owed := !state.complete }

/-- Puts out what is queued. -/
def Editing.dump (plan : EditPlan) (state : Editing) : Act Editing := do
  let queued := state.queued
  let mut state := { state with queued := [] }
  for (text, isFile) in queued do
    state ← state.settle plan
    if isFile then
      match ← openFile { reads := true } text with
      | .error _ => pure ()
      | .ok handle =>
        setHandle (inputDescriptor + 1) (some handle)
        let (content, _) ← readAll (inputDescriptor + 1)
        setHandle (inputDescriptor + 1) none
        sweep
        state ← state.say content
    else state ← state.say text
  return state

/-- Whether a line is the last one. -/
def Editing.isLast (plan : EditPlan) (state : Editing) : Act (Editing × Bool) := do
  let feed ← state.feed.fill (!plan.separate) maxPieces
  return ({ state with feed }, feed.lines.isEmpty)

/-- The pattern that an empty one stands for. -/
def Editing.actual (state : Editing) (pattern : EditPattern) : Option (Regex × EditPattern) :=
  match pattern.regex with
  | some regex => some (regex, pattern)
  | none => state.latest.bind fun latest => latest.regex.map (·, latest)

/-- Stops at an empty pattern in front of all others. -/
def noPattern {α : Type} : Act α := do
  flush
  write 2 ((← get).title ++ octets ": -e expression #1, char 0: no previous regular expression\n")
  finish (.exited 1)

/-- Whether a pattern matches in the space. -/
def Editing.matches (state : Editing) (pattern : EditPattern) : Act (Editing × Bool) := do
  match state.actual pattern with
  | none => noPattern
  | some (regex, actual) =>
    let matching : Matching := {
      text := state.space.toArray, ignoresCase := actual.ignoresCase, manyLines := actual.manyLines }
    return ({ state with latest := some actual }, (regex.find? matching 0).isSome)

/-- Whether a line is what an address wants. -/
def Editing.fits (plan : EditPlan) (state : Editing) (address : EditAddress) : Act (Editing × Bool) := do
  match address with
  | .line number => return (state, state.number = number)
  | .last => state.isLast plan
  | .step first step =>
    return (state, first ≤ state.number && (state.number - first) % max step 1 = 0)
  | .pattern pattern => state.matches pattern
  | .before => return (state, false)

/-- Whether a range that has begun reaches a line; the range may be over then. -/
def Editing.within (plan : EditPlan) (state : Editing) (place line : Nat) (command : EditCommand) :
    Act (Editing × Bool) := do
  let closed (state : Editing) : Editing := { state with active := state.active.filter (·.1 ≠ place) }
  match command.stop with
  | some (.pattern pattern) =>
    let (state, met) ← state.matches pattern
    return (if met then closed state else state, true)
  | some .last =>
    let (state, met) ← state.isLast plan
    return (if met then closed state else state, true)
  | _ =>
    if state.number < line then return (state, true)
    else if state.number = line then return (closed state, true)
    else match command.address with
      | some address => (closed state).fits plan address
      | none => return (closed state, false)

/-- Whether a command is for the line at hand. -/
def Editing.selects (plan : EditPlan) (state : Editing) (place : Nat) (command : EditCommand) :
    Act (Editing × Bool) := do
  let (state, found) ← match command.address, command.stop with
    | none, _ => pure (state, true)
    | some address, none => state.fits plan address
    | some address, some stop => do
      match state.active.lookup place with
      | some line => state.within plan place line command
      | none =>
        let (state, met) ← state.fits plan address
        if !met then pure (state, false)
        else
          let starting (line : Nat) : Editing := { state with active := (place, line) :: state.active }
          match stop with
          | .line number => pure (if number ≤ state.number then state else starting number, true)
          | .more count => pure (if count = 0 then state else starting (state.number + count), true)
          | .multiple count =>
            let line := if count = 0 then state.number else (state.number / count + 1) * count
            pure (if line ≤ state.number then state else starting line, true)
          | .pattern _ => pure (starting 0, true)
          | .last => do
            let (state, met) ← state.isLast plan
            pure (if met then state else { state with active := (place, 0) :: state.active }, true)
  return (state, found != command.inverted)

/-! ### Substitution -/

/-- Texts with their case changed by the letters between them. -/
def casedText : List (Octets × Option Char) → Option Char → Option Char → Octets
  | [], _, _ => []
  | (_, some letter) :: rest, whole, _ =>
    if letter = 'u' || letter = 'l' then casedText rest whole (some letter)
    else casedText rest (if letter = 'E' then none else some letter) none
  | (text, none) :: rest, whole, once =>
    let changed := match whole with
      | some 'U' => text.map Char.toUpper
      | some 'L' => text.map Char.toLower
      | _ => text
    match changed, once with
    | c :: more, some 'u' => c.toUpper :: more ++ casedText rest whole none
    | c :: more, some 'l' => c.toLower :: more ++ casedText rest whole none
    | changed, once => changed ++ casedText rest whole once

/-- What is put in the place of a match. -/
def replacement (text : Array Char) (found : Match) (parts : List EditPart) : Octets :=
  casedText (parts.map fun part => match part with
    | .text text => (text, none)
    | .group number => ((found.taken text number).getD [], none)
    | .case letter => ([], some letter)) none none

/-- Replaces matches from a place on, behind a text in reverse pieces; `count` have come before. -/
def substituted (substitution : Substitution) (regex : Regex) (matching : Matching) :
    Nat → Nat → Nat → Option Nat → List Octets → Bool → List Octets × Bool
  | 0, _, _, _, read, changed => (read, changed)
  | fuel + 1, start, count, last, read, changed =>
    let text := matching.text
    let piece (start stop : Nat) : Octets := (text.extract start stop).toList
    let rest := piece start text.size :: read
    if text.size < start then (read, changed)
    else match regex.find? matching start with
      | none => (rest, changed)
      | some found =>
        let before := piece start found.start :: read
        let isEmpty : Bool := found.start = found.stop
        let step (read : List Octets) (count : Nat) (changed : Bool) : List Octets × Bool :=
          if isEmpty then
            substituted substitution regex matching fuel (found.stop + 1) count none
              (piece found.stop (found.stop + 1) :: read) changed
          else substituted substitution regex matching fuel found.stop count (some found.stop) read changed
        if isEmpty && last = some found.start then step before count changed
        else if count + 1 < substitution.first then step (piece found.start found.stop :: before) (count + 1) changed
        else
          let read := replacement text found substitution.parts :: before
          if substitution.all then step read (count + 1) true
          else (piece found.stop text.size :: read, true)

/-! ### Commands -/

/-- A line with all that is invisible spelled out, in parts of a greatest width. -/
def spelledLine (width : Nat) (text : Octets) : Octets :=
  let units := text.map fun c =>
    if c = '\\' then ['\\', '\\']
    else match escapeLetters.lookup c with
      | some letter => ['\\', letter]
      | none => if isPrintable c then [c] else '\\' :: threeOctal c
  let (read, _) := units.foldl (fun (state : Octets × Nat) item =>
    if width ≠ 0 && width - 1 < state.2 + item.length then
      (item.reverse ++ '\n' :: '\\' :: state.1, item.length)
    else (item.reverse ++ state.1, state.2 + item.length)) ([], 0)
  read.reverse ++ ['$', '\n']

/-- Writes a line to a file. -/
def Editing.writeLine (plan : EditPlan) (state : Editing) (name text : Octets) : Act Editing := do
  if name = octets "/dev/stdout" then state.line plan text
  else
    match state.outputs.lookup name with
    | some descriptor => write descriptor (text ++ [plan.ends])
    | none => if name = octets "/dev/stderr" then write 2 (text ++ [plan.ends])
    return state

/-- Takes the next line into the space, behind what is in it if that is kept. -/
def Editing.advance (plan : EditPlan) (state : Editing) (behind : Bool) : Act (Editing × Bool) := do
  let state ← state.dump plan
  let (line, feed) ← state.feed.take
  match line with
  | none => return ({ state with feed }, false)
  | some (text, complete) =>
    let restarts : Bool := feed.begun && plan.separate
    return ({ state with
      feed := { feed with begun := false }, complete, changed := false
      number := if restarts then 1 else state.number + 1
      active := if restarts then [] else state.active
      space := if behind then state.space ++ '\n' :: text else text }, true)

/-- The part of the space up to the end of its first line. -/
def firstLine (text : Octets) : Octets := text.takeWhile (· ≠ '\n')

/-- Carries out a command at a place. -/
def Editing.act (plan : EditPlan) (state : Editing) (place : Nat) (command : EditCommand) :
    Act (Editing × EditFlow) := do
  let goOn (state : Editing) : Act (Editing × EditFlow) := return (state, .goOn (place + 1))
  let jump (label : Octets) : EditFlow :=
    if label = [] then .goOn plan.commands.size
    else .goOn ((EditScript.placeOf plan.commands label).getD plan.commands.size)
  match command.action with
  | .group _ => goOn state
  | .nothing => goOn state
  | .label _ => goOn state
  | .number =>
    let state ← state.settle plan
    goOn (← state.say (decimal state.number ++ ['\n']))
  | .append text => goOn { state with queued := state.queued ++ [(text, false)] }
  | .insert text =>
    let state ← state.settle plan
    goOn (← state.say text)
  | .change text =>
    let inside : Bool := (state.active.lookup place).isSome && !command.inverted
    let state ← if inside then pure state else do
        let state ← state.settle plan
        state.say text
    return (state, .done false)
  | .branch label => return (state, jump label)
  | .branchIf wanted label =>
    let met : Bool := state.changed = wanted
    return ({ state with changed := false }, if met then jump label else .goOn (place + 1))
  | .delete => return (state, .done false)
  | .deleteFirst =>
    if state.space.contains '\n' then
      return ({ state with space := state.space.drop ((firstLine state.space).length + 1) }, .again)
    else return (state, .done false)
  | .name =>
    let state ← state.settle plan
    goOn (← state.say (state.feed.name ++ ['\n']))
  | .recall => goOn { state with space := state.kept }
  | .recallBehind => goOn { state with space := state.space ++ '\n' :: state.kept }
  | .keep => goOn { state with kept := state.space }
  | .keepBehind => goOn { state with kept := state.kept ++ '\n' :: state.space }
  | .list width =>
    let state ← state.settle plan
    goOn (← state.say (spelledLine (width.getD plan.width) state.space))
  | .next =>
    let (state, last) ← state.isLast { plan with separate := false }
    if last then return (state, .stop true 0)
    else
      let state ← if plan.silent then pure state else state.line plan state.space
      let (state, found) ← state.advance plan false
      if found then goOn state else return (state, .stop false 0)
  | .nextBehind =>
    let (state, last) ← state.isLast { plan with separate := false }
    if last then return (state, .stop true 0)
    else
      let (state, found) ← state.advance plan true
      if found then goOn state else return (state, .stop true 0)
  | .print => goOn (← state.line plan state.space)
  | .printFirst =>
    let state ← state.settle plan
    goOn (← state.say (firstLine state.space ++ ['\n']))
  | .quit silent status => return (state, .stop (!silent) status)
  | .readFile name => goOn { state with queued := state.queued ++ [(name, true)] }
  | .readLine name =>
    let content := match (← tree).read (spelled name) with
      | .ok content => ofNumbers content
      | .error _ => []
    let taken := (state.places.lookup name).getD 0
    let line := (content.drop taken).take (((content.drop taken).takeWhile (· ≠ '\n')).length + 1)
    if content.length ≤ taken then goOn state
    else goOn { state with
      places := (name, taken + line.length) :: state.places.filter (·.1 ≠ name)
      queued := state.queued ++ [(line, false)] }
  | .substitute substitution =>
    match state.actual substitution.pattern with
    | none => noPattern
    | some (regex, actual) =>
      let matching : Matching := {
        text := state.space.toArray, ignoresCase := actual.ignoresCase, manyLines := actual.manyLines }
      let (pieces, changed) := substituted substitution regex matching (2 * matching.text.size + 3) 0 0 none [] false
      let state := { state with latest := some actual }
      if !changed then goOn state
      else
        let state := { state with space := pieces.reverse.flatten, changed := true }
        let state ← if substitution.prints then state.line plan state.space else pure state
        match substitution.file with
        | some name => goOn (← state.writeLine plan name state.space)
        | none => goOn state
  | .write first name =>
    goOn (← state.writeLine plan name (if first then firstLine state.space else state.space))
  | .exchange => goOn { state with space := state.kept, kept := state.space }
  | .translate pairs => goOn { state with space := state.space.map fun c => (pairs.lookup c).getD c }
  | .clear => goOn { state with space := [] }

/-- The most commands that are carried out. -/
def maxEdits : Nat := Nat.pow 2 26

/-- Carries out the commands from a place on for the line at hand. -/
def Editing.run (plan : EditPlan) : Nat → Nat → Editing → Act (Editing × EditFlow)
  | 0, _, _ => waitForEver
  | fuel + 1, place, state => do
    match plan.commands[place]? with
    | none => return (state, .done true)
    | some command =>
      let (state, selected) ← state.selects plan place command
      if selected then
        let (state, flow) ← state.act plan place command
        match flow with
        | .goOn place =>
          if place = 0 then spend 1
          run plan fuel place state
        | flow => return (state, flow)
      else match command.action with
        | .group stop => run plan fuel (stop + 1) state
        | _ => run plan fuel (place + 1) state

/-- Edits line after line. -/
def Editing.lines (plan : EditPlan) : Nat → Bool → Editing → Act (Editing × Nat)
  | 0, _, state => return (state, 0)
  | fuel + 1, again, state => do
    let (state, found) ← if again then do
        let state ← state.dump plan
        pure (state, true)
      else state.advance plan false
    if !found then return (state, 0)
    else
      let (state, flow) ← state.run plan maxEdits 0
      match flow with
      | .again => lines plan fuel true state
      | .done prints =>
        let state ← if prints && !plan.silent then state.line plan state.space else pure state
        lines plan fuel false state
      | .stop prints status =>
        let state ← if prints && !plan.silent then state.line plan state.space else pure state
        let state ← state.dump plan
        if state.feed.current = some ['-'] then
          giveBack 0 ((state.feed.lines.flatten ++ state.feed.left).length)
        return (state, status)
      | .goOn _ => return (state, 0)

/-! ### The program -/

/-- The options of the program. -/
def sedChoices : List Choice :=
  [("n", "quiet", .nothing), ("n", "silent", .nothing), ("e", "expression", .value), ("f", "file", .value),
    ("E", "regexp-extended", .nothing), ("r", "", .nothing), ("i", "in-place", .perhaps),
    ("l", "line-length", .value), ("s", "separate", .nothing), ("u", "unbuffered", .nothing),
    ("z", "null-data", .nothing), ("z", "zero-terminated", .nothing), ("", "posix", .nothing),
    ("", "debug", .nothing), ("", "sandbox", .nothing), ("", "follow-symlinks", .nothing)]

/-- The words for what is wrong with a script made of expressions. -/
def EditFault.words (expressions : List Octets) (fault : EditFault) : Octets :=
  let script := joinedBy ['\n'] expressions
  let numbered (number position : Nat) (words : Octets) : Octets :=
    octets s!"-e expression #{number}, char {position}: " ++ words
  match fault with
  | .whole words => words
  | .unclosed => numbered (max expressions.length 1) 0 (octets "unmatched `\x7b'")
  | .wrong left words =>
    let position := script.length - left
    let (number, start) := expressions.foldl (fun (state : Nat × Nat × Nat) expression =>
      let (number, start, next) := state
      if next ≤ position && (number = 0 || next < position) then (number + 1, next, next + expression.length + 1)
      else (number, start, next)) (0, 0, 0) |> fun state => (state.1, state.2.1)
    numbered number (position - start) words

/-- Edits the lines of files by a script. -/
def sed (call : Call) : Act Nat :=
  withOptions sedChoices true 1 call fun options => do
    let mut expressions := []
    for (key, value) in options.given do
      if key = "e" then expressions := expressions ++ [value]
      else if key = "f" then
        let text? ← withInput value (fun fault => do
            write 2 (call.name ++ octets ": couldn't open file " ++ value ++ octets ": " ++ reason fault ++ ['\n'])
            return none)
          fun descriptor => do return some (← readAll descriptor).1
        match text? with
        | none => return 4
        | some text =>
          expressions := expressions ++ [if text.getLast? = some '\n' then text.dropLast else text]
    let explicit : Bool := options.has "e" || options.has "f"
    match explicit, options.rest with
    | false, [] =>
      write 2 (octets "Usage: " ++ call.name ++
        octets " [OPTION]... \x7bscript-only-if-no-other-script\x7d [input-file]...\n")
      return 1
    | explicit, rest =>
      let scripts := if explicit then expressions else [rest.headD []]
      let names := if explicit then rest else rest.drop 1
      let script := joinedBy ['\n'] scripts
      let quiet : Bool := options.has "n" || (octets "#n\n").isPrefixOf (script ++ ['\n'])
      let extended : Bool := options.has "E" || options.has "r"
      match EditScript.read { extended, once := !extended } script with
      | .error fault =>
        write 2 (call.name ++ octets ": " ++ fault.words scripts ++ ['\n'])
        return 1
      | .ok commands =>
        match EditScript.missingLabel commands with
        | some label =>
          write 2 (call.name ++ octets ": can't find label for jump to `" ++ label ++ octets "'\n")
          return 1
        | none =>
          let inPlace : Bool := options.has "i"
          let plan : EditPlan := {
            commands, silent := quiet, separate := options.has "s" || inPlace
            suffix := if inPlace then options.last? "i" else none
            ends := if options.has "z" then '\x00' else '\n'
            width := ((options.last? "l").map (valueIn 10)).getD 70 }
          let written := commands.toList.filterMap fun command => match command.action with
            | .write _ name => some name
            | .substitute substitution => substitution.file
            | _ => none
          let mut outputs := []
          for (name, index) in written.eraseDups.zipIdx do
            if name ≠ octets "/dev/stdout" && name ≠ octets "/dev/stderr" then
              match ← openFile { writes := true, truncates := true } name with
              | .ok handle =>
                setHandle (inputDescriptor + 2 + index) (some handle)
                outputs := (name, inputDescriptor + 2 + index) :: outputs
              | .error fault =>
                write 2 (call.name ++ octets ": couldn't open file " ++ name ++ octets ": " ++ reason fault ++ ['\n'])
                return 4
          let early := (commands.toList.zipIdx.filterMap fun (command, place) => match command.address with
            | some .before => some (place, 0)
            | _ => none)
          let start (names : List Octets) : Editing := {
            feed := { ends := plan.ends, names }, outputs, active := early }
          let ending (state : Editing) (status : Nat) : Nat :=
            if state.feed.broken then 4 else if status ≠ 0 then status else if state.feed.failed then 2 else 0
          if !inPlace then
            let (state, status) ← (start (inputNames names)).lines plan maxPieces false
            return ending state status
          else if names = [] then
            write 2 (call.name ++ octets ": no input files\n")
            return 1
          else
            let mut kept : Editing := start []
            let mut status := 0
            let mut ended := false
            for name in names do
              if !ended then
                match (← tree).entry (spelled name) with
                | .error fault =>
                  write 2 (call.name ++ octets ": can't read " ++ name ++ octets ": " ++ reason (fault) ++ ['\n'])
                  status := 2
                | .ok (number, ⟨.file content, _, _⟩) =>
                  let fresh : Editing := { kept with
                    feed := { ends := plan.ends, names := [name] }, number := 0, active := early
                    inPlace := some [], owed := false }
                  let (state, wanted) ← fresh.lines plan maxPieces false
                  let rest := state.feed.lines.flatten ++ state.feed.left
                  let text := (state.inPlace.getD []).reverse.flatten ++ rest
                  match plan.suffix with
                  | some (c :: suffix) =>
                    let suffix := c :: suffix
                    let copy := if suffix.contains '*' then
                        suffix.flatMap fun c => if c = '*' then lastPart name else [c]
                      else name ++ suffix
                    let _ ← inTree fun tree => (tree.write (spelled copy) content).map (·, ())
                  | _ => pure ()
                  modifyWorld fun world =>
                    { world with tree := world.dated.replace number (numbers text) }
                  kept := { state with inPlace := none }
                  if wanted ≠ 0 then
                    status := wanted
                    ended := true
                | .ok _ =>
                  write 2 (call.name ++ octets ": couldn't edit " ++ name ++ octets ": not a regular file\n")
                  status := 4
            return status

end Workyard.Shell.Program
