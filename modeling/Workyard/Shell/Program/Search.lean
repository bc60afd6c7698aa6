/-
**Looking for files.**

A directory is gone through with all in it, and for each file an expression is evaluated, which asks about
the file and does something with it.

* `Sought`: expressions;
* `Sought.read`: an expression from arguments;
* `find`: the program.
-/

import Workyard.Shell.Program.Arguments
import Workyard.Shell.Program.Question
import Workyard.Shell.RegexSyntax

namespace Workyard.Shell.Program

/-- A comparison of a number with a wanted one. -/
structure Wanted where
  order : Ordering
  number : Nat

/-- Whether a number is as wanted. -/
def Wanted.fits (wanted : Wanted) (number : Nat) : Bool := compare number wanted.number = wanted.order

/-- What is asked about a file, or done with it. -/
inductive Sought where
  | always (answer : Bool)
  | both (one other : Sought)
  | either (one other : Sought)
  | last (one other : Sought)
  | opposite (body : Sought)
  | name (pattern : Pattern) (folds path : Bool)
  | regex (regex : Regex) (folds : Bool)
  | kind (letters : List Char)
  | empty
  | size (wanted : Wanted) (unit : Nat)
  | age (wanted : Wanted) (unit : Nat)
  | links (wanted : Wanted)
  | newer (time : Nat)
  | same (number : Nat)
  | mode (bits : Nat) (how : Char)
  | owner (known : Bool)
  | print (ends : Char)
  | format (text : Octets)
  | listing
  | run (words : List Octets)
  | gather (place : Nat) (words : List Octets)
  | delete
  | prune
  | quit

/-- Whether something is done with files. -/
def Sought.acts : Sought → Bool
  | .both one other | .either one other | .last one other => one.acts || other.acts
  | .opposite body => body.acts
  | .print _ | .format _ | .listing | .run _ | .gather _ _ | .delete | .quit => true
  | _ => false

/-- Whether directories come behind what is in them. -/
def Sought.deletes : Sought → Bool
  | .both one other | .either one other | .last one other => one.deletes || other.deletes
  | .opposite body => body.deletes
  | .delete => true
  | _ => false

/-- How a directory is gone through. -/
structure SearchPlan where
  least : Nat := 0
  most : Option Nat := none
  behind : Bool := false

/-- The arguments that are left while an expression is read. -/
structure SearchArguments where
  rest : List Octets
  plan : SearchPlan := {}
  /-- The number of places for names that are gathered. -/
  places : Nat := 0

/-- Reads an expression; complaints are in words. -/
abbrev SearchRead (α : Type) := StateT SearchArguments (ExceptT Octets Act) α

namespace Sought

/-- Stops with a complaint. -/
def wrong {α : Type} (words : Octets) : SearchRead α := throw words

/-- Takes the next argument. -/
def take? : SearchRead (Option Octets) := do
  let state ← get
  match state.rest with
  | [] => return none
  | word :: rest =>
    set { state with rest }
    return some word

/-- Takes the value of a question. -/
def value (name : Octets) : SearchRead Octets := do
  match ← take? with
  | some word => return word
  | none => wrong (octets "missing argument to `" ++ name ++ ['\''])

/-- A comparison from a text with a sign in front. -/
def wanted? (text : Octets) : Option (Wanted × Octets) :=
  let (order, rest) := match text with
    | '+' :: rest => (Ordering.gt, rest)
    | '-' :: rest => (.lt, rest)
    | rest => (.eq, rest)
  let digits := rest.takeWhile Char.isDigit
  if digits = [] then none else some (⟨order, valueIn 10 digits⟩, rest.drop digits.length)

/-- Takes a comparison. -/
def wanted (name : Octets) : SearchRead Wanted := do
  let text ← value name
  match wanted? text with
  | some (wanted, []) => return wanted
  | _ => wrong (octets "invalid argument `" ++ text ++ octets "' to `" ++ name ++ ['\''])

/-- Takes the words of a command up to its end. -/
def commandWords (name : Octets) : Nat → List Octets → SearchRead (List Octets × Bool)
  | 0, _ => wrong (octets "missing argument to `" ++ name ++ ['\''])
  | fuel + 1, read => do
    match ← take? with
    | none => wrong (octets "missing argument to `" ++ name ++ ['\''])
    | some [';'] =>
      if read = [] then wrong (octets "missing argument to `" ++ name ++ ['\'']) else return (read.reverse, false)
    | some ['+'] =>
      if read.head? = some ['{', '}'] then return ((read.drop 1).reverse, true)
      else commandWords name fuel (['+'] :: read)
    | some word => commandWords name fuel (word :: read)

/-- The pattern that a text spells. -/
def patternOf (text : Octets) : Pattern := Pattern.ofMarked {} (text.length + 1) (text.map (·, true))

/-- Reads a question or an action. -/
def primary (word : Octets) : SearchRead Sought := do
  match spelled word with
  | "-true" => return .always true
  | "-false" => return .always false
  | "-name" => return .name (patternOf (← value word)) false false
  | "-iname" => return .name (patternOf ((← value word).map Char.toLower)) true false
  | "-path" | "-wholename" => return .name (patternOf (← value word)) false true
  | "-ipath" | "-iwholename" => return .name (patternOf ((← value word).map Char.toLower)) true true
  | "-regex" | "-iregex" =>
    match Regex.read { extended := false, helps := false } (← value word) with
    | .ok (form, _, _) => return .regex form (word = octets "-iregex")
    | .error fault => wrong (octets fault.words)
  | "-type" | "-xtype" =>
    let text ← value word
    let letters := text.filter (· ≠ ',')
    match letters.find? fun c => !"bcdpflsD".toList.contains c with
    | some c => wrong (octets s!"Unknown argument to {spelled word}: " ++ [c])
    | none => return .kind letters
  | "-empty" => return .empty
  | "-size" =>
    let text ← value word
    match wanted? text with
    | some (wanted, unit) => match unit with
      | [] | ['b'] => return .size wanted 512
      | ['c'] => return .size wanted 1
      | ['w'] => return .size wanted 2
      | ['k'] => return .size wanted 1024
      | ['M'] => return .size wanted (1024 * 1024)
      | ['G'] => return .size wanted (1024 * 1024 * 1024)
      | _ => wrong (octets "invalid -size type `" ++ unit ++ ['\''])
    | none => wrong (octets "Invalid argument `" ++ text ++ octets "' to -size")
  | "-mtime" | "-atime" | "-ctime" => return .age (← wanted word) 86400
  | "-mmin" | "-amin" | "-cmin" => return .age (← wanted word) 60
  | "-links" => return .links (← wanted word)
  | "-newer" | "-anewer" | "-cnewer" =>
    let name ← value word
    match (← tree).find (spelled name) with
    | .ok node => return .newer node.time
    | .error fault => wrong (inQuotes name ++ octets ": " ++ reason fault)
  | "-samefile" =>
    let name ← value word
    match (← tree).entry (spelled name) with
    | .ok (number, _) => return .same number
    | .error fault => wrong (inQuotes name ++ octets ": " ++ reason fault)
  | "-perm" =>
    let text ← value word
    let (how, digits) := match text with
      | '-' :: rest => ('-', rest)
      | '/' :: rest => ('/', rest)
      | rest => ('=', rest)
    match changedMode false 0 0 digits with
    | some bits => return .mode bits how
    | none => wrong (octets "invalid mode " ++ inQuotes text)
  | "-user" | "-group" | "-uid" | "-gid" =>
    let name ← value word
    return .owner (name = octets "root" || name = ['0'])
  | "-nouser" | "-nogroup" => return .always false
  | "-readable" | "-writable" => return .always true
  | "-executable" => return .either (.kind ['d']) (.mode 0o111 '/')
  | "-print" => return .print '\n'
  | "-print0" => return .print '\x00'
  | "-printf" => return .format (← value word)
  | "-ls" => return .listing
  | "-delete" =>
    modify fun state => { state with plan := { state.plan with behind := true } }
    return .delete
  | "-prune" => return .prune
  | "-quit" => return .quit
  | "-exec" | "-execdir" | "-ok" | "-okdir" =>
    let (words, gathers) ← commandWords word ((← get).rest.length + 1) []
    if gathers then
      let place := (← get).places
      modify fun state => { state with places := place + 1 }
      return .gather place words
    else return .run words
  | "-maxdepth" | "-mindepth" =>
    let text ← value word
    if !isDigits text then
      wrong (octets "Expected a positive decimal integer argument to " ++ word ++ octets ", but got " ++ inQuotes text)
    let number := valueIn 10 text
    let deepest : Bool := word = octets "-maxdepth"
    modify fun state =>
      let plan := if deepest then { state.plan with most := some number } else { state.plan with least := number }
      { state with plan }
    return .always true
  | "-depth" | "-d" =>
    modify fun state => { state with plan := { state.plan with behind := true } }
    return .always true
  | "-follow" | "-mount" | "-xdev" | "-noleaf" | "-daystart" | "-warn" | "-nowarn" | "-ignore_readdir_race" =>
    return .always true
  | "-regextype" =>
    let _ ← value word
    return .always true
  | _ =>
    if word.head? = some '-' then wrong (octets "unknown predicate `" ++ word ++ ['\''])
    else wrong (octets "paths must precede expression: `" ++ word ++ ['\''])

mutual

/-- Reads an expression of a strength: a list, alternatives, or what holds together. -/
def level (fuel strength : Nat) : SearchRead Sought := do
  match fuel with
  | 0 => wrong []
  | fuel + 1 =>
    if strength = 3 then
      match ← take? with
      | none => wrong (octets "expected an expression")
      | some ['!'] => return .opposite (← level fuel 3)
      | some ['('] =>
        let body ← level fuel 0
        match ← take? with
        | some [')'] => return body
        | _ => wrong (octets "invalid expression; I was expecting to find a ')' somewhere but did not see one.")
      | some word => if word = octets "-not" then return .opposite (← level fuel 3) else primary word
    else
      let first ← level fuel (strength + 1)
      more fuel strength first

/-- Reads what follows behind a first expression. -/
def more (fuel strength : Nat) (first : Sought) : SearchRead Sought := do
  match fuel with
  | 0 => return first
  | fuel + 1 =>
    match (← get).rest with
    | [] => return first
    | word :: _ =>
      let name := spelled word
      match strength with
      | 0 =>
        if name = "," then
          let _ ← take?
          more fuel 0 (.last first (← level fuel 1))
        else return first
      | 1 =>
        if name = "-o" || name = "-or" then
          let _ ← take?
          more fuel 1 (.either first (← level fuel 2))
        else return first
      | _ =>
        if name = "-a" || name = "-and" then
          let _ ← take?
          more fuel 2 (.both first (← level fuel 3))
        else if [",", "-o", "-or", ")"].contains name then return first
        else more fuel 2 (.both first (← level fuel 3))

end

/-- Reads an expression from arguments; nothing stands for printing. -/
def read : SearchRead Sought := do
  let words := (← get).rest
  if words = [] then return .print '\n'
  else
    let body ← level (16 * (words.length + 2)) 0
    match (← get).rest with
    | [] => return if body.acts then body else .both body (.print '\n')
    | [')'] :: _ => wrong (octets "invalid expression; you have too many ')'")
    | word :: _ => wrong (octets "paths must precede expression: `" ++ word ++ ['\''])

end Sought

/-! ### Going through directories -/

/-- How far a search has come. -/
structure Searching where
  failed : Bool := false
  /-- Whether the search is at its end. -/
  ended : Bool := false
  /-- Whether what is in the directory at hand is left out. -/
  pruned : Bool := false
  /-- The names that were gathered for commands, newest first. -/
  gathered : List (Nat × List Octets × List Octets) := []

/-- A file that was found: its name, how deep it lies, and the name it was found from. -/
structure Found where
  asked : Asked
  depth : Nat
  top : Octets

/-- What a format makes of a file. -/
def Found.text (found : Found) (tree : Files.Tree) : Nat → Octets → Octets
  | 0, _ => []
  | _, [] => []
  | fuel + 1, '\\' :: rest => match echoEscape false rest with
    | none => []
    | some (front, rest) => front ++ text found tree fuel rest
  | fuel + 1, '%' :: '%' :: rest => '%' :: text found tree fuel rest
  | fuel + 1, '%' :: rest =>
    let marks := rest.takeWhile fun c => "-0123456789".toList.contains c
    let name := found.asked.name
    let (value, behind) : Octets × Octets := match rest.drop marks.length with
      | 'p' :: rest => (name, rest)
      | 'f' :: rest => (lastPart name, rest)
      | 'h' :: rest => (if name.contains '/' then frontPart name else ['.'], rest)
      | 'P' :: rest => ((name.drop found.top.length).dropWhile (· = '/'), rest)
      | 'H' :: rest => (found.top, rest)
      | 'd' :: rest => (decimal found.depth, rest)
      | 's' :: rest => (decimal (nodeSize found.asked.node), rest)
      | 'm' :: rest => (modeDigits 1 found.asked.node.mode, rest)
      | 'M' :: rest => (kindLetter found.asked.node :: modeLetters found.asked.node.mode, rest)
      | 'n' :: rest => (found.asked.field tree 'h', rest)
      | 'i' :: rest => (decimal found.asked.number, rest)
      | 'u' :: rest | 'g' :: rest => (octets "root", rest)
      | 'U' :: rest | 'G' :: rest => (['0'], rest)
      | 'y' :: rest => ([if kindLetter found.asked.node = '-' then 'f' else kindLetter found.asked.node], rest)
      | 'l' :: rest => (match found.asked.node.kind with
        | .link target => octets target
        | _ => [], rest)
      | 'T' :: '@' :: rest => ((Moment.ofMicroseconds found.asked.node.time).written 100 (octets "%s.%N0"), rest)
      | 'T' :: c :: rest => ((Moment.ofMicroseconds found.asked.node.time).written 100 ['%', c], rest)
      | 't' :: rest => ((Moment.ofMicroseconds found.asked.node.time).written 100
          (octets "%a %b %e %H:%M:%S.%N0 %Y"), rest)
      | rest => ('%' :: marks ++ rest.take 1, rest.drop 1)
    let wide := valueIn 10 (marks.filter Char.isDigit)
    (if marks.head? = some '-' then leftIn wide value else rightIn wide value) ++ text found tree fuel behind
  | fuel + 1, c :: rest => c :: text found tree fuel rest

/-- Answers an expression for a file, and does what it wants done. -/
def Sought.answer (launcher : Launcher) (call : Call) (found : Found) : Sought → Searching → Act (Bool × Searching)
  | .always answer, state => return (answer, state)
  | .both one other, state => do
    let (first, state) ← one.answer launcher call found state
    if first && !state.ended then other.answer launcher call found state else return (false, state)
  | .either one other, state => do
    let (first, state) ← one.answer launcher call found state
    if first || state.ended then return (first, state) else other.answer launcher call found state
  | .last one other, state => do
    let (_, state) ← one.answer launcher call found state
    if state.ended then return (false, state) else other.answer launcher call found state
  | .opposite body, state => do
    let (answer, state) ← body.answer launcher call found state
    return (!answer, state)
  | .name pattern folds path, state =>
    let name := if path then found.asked.name else lastPart found.asked.name
    return (pattern.matches (if folds then name.map Char.toLower else name), state)
  | .regex form folds, state =>
    let matching : Matching := { text := found.asked.name.toArray, ignoresCase := folds }
    return ((matching.ends form ⟨0, []⟩).any fun reached => reached.position = matching.text.size, state)
  | .kind letters, state =>
    let letter := kindLetter found.asked.node
    return (letters.contains (if letter = '-' then 'f' else letter), state)
  | .empty, state => do
    let children ← namesIn found.asked.path
    return (match found.asked.node.kind with
      | .file content => content.isEmpty
      | .directory => children.isEmpty
      | _ => false, state)
  | .size wanted unit, state =>
    return (wanted.fits ((nodeSize found.asked.node + unit - 1) / unit), state)
  | .age wanted unit, state => do
    return (wanted.fits (((← tree).now - found.asked.node.time) / (unit * 1000000)), state)
  | .links wanted, state => do
    return (wanted.fits (linksTo (← tree) found.asked.path found.asked.number found.asked.node), state)
  | .newer time, state => return (decide (time < found.asked.node.time), state)
  | .same number, state => return (decide (found.asked.number = number), state)
  | .mode bits how, state =>
    let mode := found.asked.node.mode
    return (if how = '-' then mode &&& bits = bits else if how = '/' then bits = 0 || mode &&& bits ≠ 0
      else mode = bits, state)
  | .owner known, state => return (known, state)
  | .print ends, state => do
    put (found.asked.name ++ [ends])
    return (true, state)
  | .format text, state => do
    put (found.text (← tree) (text.length + 1) text)
    return (true, state)
  | .listing, state => do
    let plan : ListPlan := { form := .long, index := true, blocks := true }
    let file : Listed := {
      name := found.asked.name, path := found.asked.path, number := found.asked.number
      node := found.asked.node, target := match found.asked.node.kind with
        | .link target => some (octets target, none)
        | _ => none }
    put (plan.text (← tree) [file])
    return (true, state)
  | .run words, state => do
    flush
    let words := words.map fun word => placed ['{', '}'] found.asked.name (word.length + 1) word
    let ending ← runChild launcher call.name inQuotes words
    return (decide (ending = .exited 0), state)
  | .gather place words, state =>
    let before := match state.gathered.lookup place with
      | some (_, names) => names
      | none => []
    return (true, { state with
      gathered := (place, words, found.asked.name :: before) :: state.gathered.filter (·.1 ≠ place) })
  | .delete, state => do
    if found.asked.name = ['.'] then return (true, state)
    else
      let directory : Bool := match found.asked.node.kind with
        | .directory => true
        | _ => false
      match ← removeName found.asked.name directory with
      | .ok () => return (true, state)
      | .error fault =>
        let _ ← scold call.name (octets "cannot delete " ++ inQuotes found.asked.name ++ octets ": " ++ reason fault)
        return (false, { state with failed := true })
  | .prune, state => return (true, { state with pruned := true })
  | .quit, state => return (true, { state with ended := true })

/-- Goes through a file, and through all in it if it is a directory. -/
def searchFrom (launcher : Launcher) (call : Call) (plan : SearchPlan) (sought : Sought) (follow : Bool) (top : Octets) :
    Nat → Nat → Octets → Searching → Act Searching
  | 0, _, _, state => return state
  | fuel + 1, depth, name, state => do
    let place ← match ← spotOf name follow with
      | .ok place => pure (.ok place)
      | .error fault => do
        if follow then spotOf name else pure (.error fault)
    match place with
    | .error fault =>
      let _ ← scold call.name (inQuotes name ++ octets ": " ++ reason fault)
      return { state with failed := true }
    | .ok place => match place.found with
      | none => return state
      | some (number, node) =>
        let found : Found := ⟨{ name, path := place.path, number, node }, depth, top⟩
        let ask (state : Searching) : Act Searching := do
          if depth < plan.least || state.ended then return state
          else return (← sought.answer launcher call found state).2
        let inner (state : Searching) : Act Searching := do
          let allowed : Bool := plan.most.all fun most => depth < most
          if !place.isDirectory || !allowed || state.ended || state.pruned then return { state with pruned := false }
          else
            let mut state := state
            for child in ← namesIn place.path do
              if !state.ended then
                state ← searchFrom launcher call plan sought follow top fuel (depth + 1) (inside name child) state
            return state
        if plan.behind then
          let state ← inner state
          let state ← ask state
          return { state with pruned := false }
        else inner (← ask state)

/-- Looks for files. -/
def find (launcher : Launcher) (call : Call) : Act Nat := do
  let flags := call.arguments.takeWhile fun word => [['-', 'H'], ['-', 'L'], ['-', 'P']].contains word
  let follow : Bool := flags.getLast? = some ['-', 'L']
  let arguments := call.arguments.drop flags.length
  let isExpression (word : Octets) : Bool :=
    (word.head? = some '-' && 1 < word.length) || [['('], [')'], ['!'], [',']].contains word
  let tops := arguments.takeWhile fun word => !isExpression word
  let start : SearchArguments := { rest := arguments.drop tops.length }
  match ← (Sought.read.run start).run with
  | .error words => scold call.name words
  | .ok (sought, arguments) =>
    let mut state : Searching := {}
    for top in if tops = [] then [['.']] else tops do
      if !state.ended then
        state ← searchFrom launcher call arguments.plan sought follow top maxDepth 0 top state
    flush
    let mut status := if state.failed then 1 else 0
    for (_, words, names) in state.gathered.reverse do
      match ← runChild launcher call.name inQuotes (words ++ names.reverse) with
      | .exited 0 => pure ()
      | _ => status := 1
    return status

end Workyard.Shell.Program
