/-
**Builtins for variables, parameters and options.**
-/

import Workyard.Shell.Builtin.Basic

namespace Workyard.Shell.Builtin

/-! ### Options of the shell -/

/-- The options of a shell with their letters. -/
def optionNames : List (String × Char) :=
  [("errexit", 'e'), ("noglob", 'f'), ("ignoreeof", 'I'), ("interactive", 'i'), ("monitor", 'm'),
    ("noexec", 'n'), ("stdin", 's'), ("xtrace", 'x'), ("verbose", 'v'), ("vi", 'V'), ("emacs", 'E'),
    ("noclobber", 'C'), ("allexport", 'a'), ("notify", 'b'), ("nounset", 'u'), ("privileged", 'p'),
    ("nolog", '\x01'), ("debug", '\x02')]

/-- Options in the order in which they are shown. -/
def arranged (letters : List Char) : List Char :=
  ((optionNames.map (·.2)).filter letters.contains).reverse

/-- Turns an option on or off. -/
def setOption (on : Bool) (letter : Char) : Act Unit := do
  modify fun shell =>
    let others := shell.options.filter (· ≠ letter)
    { shell with options := arranged (if on then letter :: others else others) }
  if on && letter = 'm' then
    complain (octets "can't access tty; job control turned off")
    modify fun shell => { shell with options := shell.options.filter (· ≠ letter) }

/-- Shows the options. -/
def showOptions (asCommands : Bool) : Act Nat := do
  let on := (← get).options
  let lines := optionNames.map fun (name, letter) =>
    let sign := if on.contains letter then "-" else "+"
    if asCommands then octets s!"set {sign}o {name}\n"
    else leftIn 16 (octets name) ++ octets (if on.contains letter then "on\n" else "off\n")
  put ((if asCommands then [] else octets "Current option settings\n") ++ lines.flatten)

/-- Turns on or off the options that letters stand for; what is wrong with a letter is a fault. -/
def setLetters (on : Bool) : List Char → Act Unit
  | [] => return
  | letter :: rest => do
    if optionNames.any fun entry => entry.2 = letter && letter.isAlpha then
      setOption on letter
      setLetters on rest
    else refuse (octets "Illegal option -" ++ [letter])

/-- Turns an option on or off by its name. -/
def setNamed (on : Bool) (name : Octets) : Act Unit := do
  match optionNames.lookup (spelled name) with
  | some letter => setOption on letter
  | none => refuse (octets "Illegal option -o " ++ name)

/-- Reads options and positional parameters. -/
def setFrom : Nat → List Octets → Act Nat
  | 0, _ => return 0
  | _, [] => return 0
  | fuel + 1, word :: rest => do
    let keep (parameters : List Octets) : Act Nat := do
      modify fun shell => { shell with positional := parameters, optionPlace := {} }
      return 0
    match word with
    | ['-'] =>
      setOption false 'x'
      setOption false 'v'
      if rest = [] then return 0 else keep rest
    | ['+'] => if rest = [] then return 0 else keep rest
    | ['-', '-'] => keep rest
    | sign :: letters =>
      if sign = '-' || sign = '+' then
        let on : Bool := sign = '-'
        let plain := letters.takeWhile (· ≠ 'o')
        setLetters on plain
        if plain.length < letters.length then
          match rest with
          | [] => showOptions (!on)
          | name :: rest =>
            setNamed on name
            setLetters on (letters.drop (plain.length + 1))
            setFrom fuel rest
        else setFrom fuel rest
      else keep (word :: rest)
    | [] => keep (word :: rest)

/-- The variables with values, in the order of their names. -/
def sortedVariables (shell : State) : List (String × Variable) :=
  shell.bindings.mergeSort fun first second => first.1 ≤ second.1

/-- Sets options and positional parameters, or shows all variables. -/
def set (arguments : List Octets) : Act Nat := do
  if arguments = [] then
    put ((sortedVariables (← get)).flatMap fun (name, held) => match held.text with
      | some text => octets s!"{name}=" ++ quoted text ++ ['\n']
      | none => [])
  else setFrom (arguments.length + 1) arguments

/-! ### Variables -/

/-- Forgets variables or functions. -/
def unset (arguments : List Octets) : Act Nat := do
  let (read, names) ← options "vf" "" arguments
  let kind := (read.head?.map (·.1)).getD ' '
  for name in names do
    let text := spelled name
    if kind ≠ 'f' then
      if !isName name then refuse (name ++ octets ": bad variable name")
      if ((← get).held text).any (·.fixed) then refuse (octets s!"{text}: is read only")
      putVariable text none
      if text = "OPTIND" then placeOptions []
    else
      modify fun shell => { shell with functions := shell.functions.filter (·.1 ≠ text) }
  return 0

/-- Marks variables, which may get a value, or shows those that are marked. -/
def mark (command : String) (isMarked : Variable → Bool) (change : Variable → Variable)
    (arguments : List Octets) : Act Nat := do
  let (read, names) ← options "p" "" arguments
  if read ≠ [] || names = [] then
    put ((sortedVariables (← get)).flatMap fun (name, held) =>
      if isMarked held then
        octets s!"{command} {name}" ++ (match held.text with
          | some text => '=' :: quoted text
          | none => []) ++ ['\n']
      else [])
  else
    for argument in names do
      let name := argument.takeWhile (· ≠ '=')
      if !isName name then refuse (name ++ octets ": bad variable name")
      if name.length < argument.length then assign (spelled name) (argument.drop (name.length + 1))
      let held := ((← get).held (spelled name)).getD { text := none }
      putVariable (spelled name) (some (change held))
    return 0

/-- Makes variables those of the function at hand. -/
def hide (arguments : List Octets) : Act Nat := do
  for argument in arguments do
    let shell ← get
    match shell.hidden with
    | [] => refuse (octets "not in a function")
    | (hidden, kept) :: outer =>
      if argument = ['-'] then
        modify fun shell => { shell with hidden := (hidden, kept.or (some shell.options)) :: outer }
      else
        let name := argument.takeWhile (· ≠ '=')
        if !isName name then refuse (name ++ octets ": bad variable name")
        let text := spelled name
        let before := shell.held text
        modify fun shell => { shell with hidden := ((text, before) :: hidden, kept) :: outer }
        if name.length < argument.length then assign text (argument.drop (name.length + 1))
  return 0

/-- Drops positional parameters. -/
def shift (arguments : List Octets) : Act Nat := do
  let count ← match arguments with
    | [] => pure 1
    | text :: _ => number text
  if (← get).positional.length < count then refuse (octets "can't shift that many")
  modify fun shell =>
    { shell with positional := shell.positional.drop count, optionPlace := {} }
  return 0

/-! ### Reading lines -/

/-- Reads a line, in which a backslash keeps what follows it; `true` marks what it keeps. -/
def logicalLine (raw : Bool) : Nat → List (Char × Bool) → Act (List (Char × Bool) × Bool)
  | 0, read => return (read, false)
  | fuel + 1, read => do
    let (line, complete) ← readLine 0
    let line := line.filter (· ≠ '\x00')
    let rec marked : List Char → List (Char × Bool) × Bool
      | [] => ([], false)
      | ['\\'] => ([], true)
      | '\\' :: c :: rest => ((c, true) :: (marked rest).1, (marked rest).2)
      | c :: rest => ((c, false) :: (marked rest).1, (marked rest).2)
    if raw then return (read ++ line.map (·, false), complete)
    else
      let (text, joined) := marked line
      if joined && complete then logicalLine raw fuel (read ++ text)
      else return (read ++ text, complete)

/-- Gives the fields of a line to variables; the last gets all that is left. -/
def distribute (separators : Octets) : List String → List (Char × Bool) → List (String × Octets)
  | [], _ => []
  | [name], text =>
    let isBlank (c : Char × Bool) : Bool := !c.2 && isSpace c.1 && separators.contains c.1
    let isSeparator (c : Char × Bool) : Bool := !c.2 && separators.contains c.1
    let text := ((text.dropWhile isBlank).reverse.dropWhile isBlank).reverse
    let field := text.takeWhile fun c => !isSeparator c
    let behind := (text.drop field.length).dropWhile isBlank
    -- One separator behind the last field is dropped with it.
    let text := match behind with
      | [c] => if isSeparator c then field else text
      | _ => text
    [(name, text.map (·.1))]
  | name :: rest, text =>
    let isBlank (c : Char × Bool) : Bool := !c.2 && isSpace c.1 && separators.contains c.1
    let isSeparator (c : Char × Bool) : Bool := !c.2 && separators.contains c.1
    let text := text.dropWhile isBlank
    let field := text.takeWhile fun c => !isSeparator c
    let behind := (text.drop field.length).dropWhile isBlank
    let behind := match behind with
      | c :: more => if isSeparator c then more else behind
      | [] => []
    (name, field.map (·.1)) :: distribute separators rest behind

/-- Reads a line into variables. -/
def read (arguments : List Octets) : Act Nat := do
  let (options, names) ← options "r" "p" arguments
  match names with
  | [] => refuse (octets "arg count")
  | names =>
    let (line, complete) ← logicalLine (options.any (·.1 = 'r')) 100000 []
    for (name, text) in distribute (← get).separators (names.map spelled) line do
      if !isName name.toList then refuse (octets s!"{name}: bad variable name")
      assign name text
    return if complete then 0 else 1

/-! ### Reading options -/

/-- What reading an option gives: the letter, the value, and the place to go on from. -/
structure Choice where
  letter : Char
  value : Option Octets
  place : OptionPlace
  complaint : Octets := []
  more : Bool := true

/-- Whether a letter is one of those of options, and then whether it has a value. -/
def letterIn (letter : Char) : Octets → Option Bool
  | [] => none
  | [known] => if known = letter then some false else none
  | known :: ':' :: rest => if known = letter then some true else letterIn letter rest
  | known :: next :: rest => if known = letter then some false else letterIn letter (next :: rest)

/-- The letters that are left of the argument in which options were read, or else those of the next one,
with the number of the argument behind; none at the end of the options. -/
def lettersAhead (arguments : List Octets) (place : OptionPlace) : Option Octets × Nat :=
  let left : Octets := if place.index ≤ 1 then []
    else match place.inside, arguments[place.index - 2]? with
      | some offset, some argument => argument.drop offset
      | _, _ => []
  if left ≠ [] then (some left, place.index)
  else match arguments[place.index - 1]? with
    | some ['-', '-'] => (none, place.index + 1)
    | some ('-' :: c :: text) => (some (c :: text), place.index + 1)
    | _ => (none, place.index)

/-- The next option of arguments, which were read up to a place. -/
def choice (letters : Octets) (arguments : List Octets) (place : OptionPlace) : Choice :=
  let silent : Bool := letters.head? = some ':'
  match lettersAhead arguments place with
  | (some (letter :: more), index) =>
    let length := ((arguments[index - 2]?).getD []).length
    let inside : OptionPlace := { index, inside := some (length - more.length) }
    match letterIn letter letters, more, arguments[index - 1]? with
    | none, _, _ =>
      if silent then { letter := '?', value := some [letter], place := inside }
      else
        { letter := '?', value := none, place := inside
          complaint := octets "Illegal option -" ++ [letter, '\n'] }
    | some false, _, _ => { letter, value := some [], place := inside }
    | some true, [], some value => { letter, value := some value, place := { index := index + 1 } }
    | some true, [], none =>
      if silent then { letter := ':', value := some [letter], place := { index } }
      else
        { letter := '?', value := none, place := { index }
          complaint := octets "No arg for -" ++ letter :: octets " option\n" }
    | some true, value, _ => { letter, value := some value, place := { index } }
  | (_, index) => { letter := '?', value := none, place := { index }, more := false }

/-- Reads one option of the positional parameters or of further arguments into a variable. -/
def getopts (arguments : List Octets) : Act Nat := do
  match arguments with
  | letters :: name :: further =>
    let shell ← get
    let words := if further = [] then shell.positional else further
    let place := if words.length + 1 < shell.optionPlace.index then {} else shell.optionPlace
    let choice := choice letters words place
    if choice.complaint ≠ [] then write 2 choice.complaint
    match choice.value with
    | some value => if choice.more then assign "OPTARG" value
    | none => if choice.more then putVariable "OPTARG" none
    assign "OPTIND" (decimal choice.place.index)
    modify fun shell => { shell with optionPlace := choice.place }
    if !isName name then refuse (name ++ octets ": bad variable name")
    assign (spelled name) [choice.letter]
    return if choice.more then 0 else 1
  | _ => refuse (octets "Usage: getopts optstring var [arg...]")

end Workyard.Shell.Builtin
