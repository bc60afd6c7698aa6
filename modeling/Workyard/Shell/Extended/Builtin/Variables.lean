/-
**Builtins for variables and parameters.**

* `declare`: variables with what else they are to be, perhaps of the function at hand;
* `mark`: variables that programs get, and those that keep their values;
* `unset`, `shift`, `getopts`, `evaluateAll`: the other ways to change variables.
-/

import Workyard.Shell.Extended.Builtin.Options
import Workyard.Shell.Running

namespace Workyard.Shell.Extended.Builtin

open Shell.Builtin (put putting)

/-! ### Declarations -/

/-- What an argument declares. -/
structure Declared where
  name : String
  key : Option Octets
  appends : Bool
  value : Option Octets

/-- Reads what an argument declares; none if it names no variable. -/
def Declared.of? (text : Octets) : Option Declared :=
  let name := text.takeWhile isNameChar
  let (key, behind) : Option Octets × Octets := match text.drop name.length with
    | '[' :: rest =>
      let key := inside 0 rest
      (some key, rest.drop (key.length + 1))
    | behind => (none, behind)
  if !isName name then none
  else match behind with
    | [] => some ⟨spelled name, key, false, none⟩
    | '=' :: value => some ⟨spelled name, key, false, some value⟩
    | '+' :: '=' :: value => some ⟨spelled name, key, true, some value⟩
    | _ => none
where
  /-- The text up to the bracket that closes. -/
  inside : Nat → Octets → Octets
    | _, [] => []
    | 0, ']' :: _ => []
    | depth + 1, ']' :: rest => ']' :: inside depth rest
    | depth, '[' :: rest => '[' :: inside (depth + 1) rest
    | depth, c :: rest => c :: inside depth rest

/-- Makes a variable one of the function at hand. -/
def makeLocal (name : String) : Act Unit :=
  modify fun shell =>
    match shell.hidden with
    | [] => shell
    | (hidden, kept) :: outer =>
      if hidden.any (·.1 = name) then shell
      else
        let before := shell.held name
        let inherits : Bool := shell.extra.switches.contains "localvar_inherit"
        let fresh : Variable := if inherits then before.getD { text := none }
          else { text := none, exported := before.any (·.exported) }
        { shell with
          hidden := ((name, before) :: hidden, kept) :: outer
          bindings := (name, fresh) :: shell.bindings.filter (·.1 ≠ name)
          optionPlace := if name = "OPTIND" then {} else shell.optionPlace }

/-- Does a part of the work on a variable as it is outside of all functions. -/
def outside (name : String) (part : Act Nat) : Act Nat := do
  let shell ← get
  let isThere (frame : List (String × Option Variable) × Option (List Char)) : Bool :=
    frame.1.any (·.1 = name)
  match shell.hidden.reverse.find? isThere with
  | none => part
  | some frame =>
    let own := shell.held name
    putVariable name ((frame.1.lookup name).getD none)
    let status ← part
    let after := (← get).held name
    let last := shell.hidden.length - 1 - (shell.hidden.reverse.findIdx isThere)
    modify fun shell => { shell with
      hidden := shell.hidden.zipIdx.map fun (frame, index) => if index = last then
          (frame.1.map fun entry => if entry.1 = name then (name, after) else entry, frame.2)
        else frame }
    putVariable name own
    return status

/-- What declarations ask for. -/
structure Wish where
  on : List Char := []
  off : List Char := []

/-- Reads what declarations ask for, and the arguments behind; none behind a complaint. -/
def wishes (known : List Char) : Nat → Wish → List Octets → Act (Option (Wish × List Octets))
  | 0, wish, rest => return some (wish, rest)
  | _, wish, ['-', '-'] :: rest => return some (wish, rest)
  | fuel + 1, wish, (sign :: c :: letters) :: rest => do
    if sign = '-' || sign = '+' then
      let letters := c :: letters
      match letters.find? fun letter => !known.contains letter with
      | some letter =>
        complain (sign :: letter :: octets ": invalid option")
        let _ ← misused
        return none
      | none =>
        let wish : Wish := if sign = '-' then { wish with on := wish.on ++ letters }
          else { wish with off := wish.off ++ letters }
        wishes known fuel wish rest
    else return some (wish, (sign :: c :: letters) :: rest)
  | _, wish, rest => return some (wish, rest)

/-- Whether a variable has what declarations ask for. -/
def Wish.fits (wish : Wish) (held : Variable) : Bool :=
  let letters := Variable.letters held
  (wish.on.filter fun letter => letter ≠ 'p' && letter ≠ 'g').all letters.contains

/-- A variable changed as declarations ask for, its value and whether it keeps it left aside. -/
def Wish.change (wish : Wish) (held : Variable) : Variable :=
  let isOn (letter : Char) : Bool := wish.on.contains letter
  let marks := held.marks.filter fun mark => !wish.off.contains mark &&
    !(mark = 'l' && isOn 'u') && !(mark = 'u' && isOn 'l')
  let marks := ['i', 'l', 'u', 'n', 't'].foldl (fun marks mark =>
    if isOn mark && !marks.contains mark then marks ++ [mark] else marks) marks
  let shape : Shape := if isOn 'A' then .table else if isOn 'a' then .row else held.shape
  let shaped := if shape = held.shape then held
    else { held with shape, members := held.entries }
  { shaped with marks, exported := (held.exported || isOn 'x') && !wish.off.contains 'x' }

/-- Gives a variable the value that was declared; a list has a mark in front of its text. -/
def give (services : Services) (declared : Declared) (value : Octets) : Act Unit := do
  let name := declared.name
  let shape := (((← get).found name).map (·.shape)).getD .single
  let isList : Bool := declared.key.isNone && match value with
    | '(' :: _ => shape ≠ .single && value.getLast? = some ')'
    | c :: _ => c = listMark
    | [] => false
  if isList then
    let text := if value.head? = some listMark then value.drop 1 else value
    let options := (← get).options
    modify fun shell => { shell with options := options.filter (· ≠ 'x') }
    let _ ← during [] (services.script (octets name ++ octets (if declared.appends then "+=" else "=") ++ text))
    modify fun shell => { shell with options := arranged (options ++ shell.options) }
  else match declared.key with
    | none =>
      if declared.appends then keep name (← extendedValue name ((← get).value name) value)
      else assign name value
    | some key =>
      let key ← memberKey name key
      let before := ((← get).found name).bind (·.entries.lookup key)
      if declared.appends then keepMember name key (← extendedValue name before value)
      else assignMember name key value

/-- Carries out a declaration of a variable. -/
def declareOne (services : Services) (own : Bool) (wish : Wish) (argument : Octets) : Act Nat := do
  match Declared.of? argument with
  | none => wrongName argument
  | some declared =>
    let refers : Bool := wish.on.contains 'n' || wish.off.contains 'n'
    let shell ← get
    let name := if refers then declared.name else shell.actual declared.name
    let work : Act Nat := do
      let held := (← get).held name
      let changes : Bool := declared.value.isSome || wish.off.contains 'r'
      if held.any (·.fixed) && changes then failing (octets s!"{name}: readonly variable")
      else
        if own then makeLocal name
        let held := ((← get).held name).getD { text := none }
        if held.shape = .table && wish.on.contains 'a' then
          failing (octets s!"{name}: cannot convert associative to indexed array")
        else if held.shape = .row && wish.on.contains 'A' then
          failing (octets s!"{name}: cannot convert indexed to associative array")
        else if held.shape ≠ .single && (wish.off.contains 'a' || wish.off.contains 'A') then
          failing (octets s!"{name}: cannot destroy array variables in this way")
        else
          let wish := if declared.key.isSome && held.shape = .single && !wish.on.contains 'A' then
            { wish with on := 'a' :: wish.on } else wish
          if refers then
            let target := (declared.value.map fun value => some value).getD held.text
            putVariable name (some { wish.change held with text := target })
          else
            putVariable name (some (wish.change held))
            if let some value := declared.value then give services { declared with name } value
          if wish.on.contains 'r' then
            if let some held := (← get).held name then
              putVariable name (some { held with fixed := true })
          return 0
    if wish.on.contains 'g' then outside name work else work

/-- Shows functions, or their names, or shares them or keeps them as they are. -/
def declareFunctions (wish : Wish) (names : List Octets) : Act Nat := do
  let shell ← get
  if names = [] then
    put ((sortedFunctions shell).flatMap fun (name, body) =>
      if wish.on.contains 'F' then octets s!"declare -f {name}\n" else functionText name body)
  else
    let mut status := 0
    for name in names do
      let text := spelled name
      match shell.functions.lookup text with
      | none => status := 1
      | some body =>
        if wish.on.contains 'r' then
          modify fun shell => { shell with
            extra := { shell.extra with fixedFunctions := text :: shell.extra.fixedFunctions } }
        else if wish.on.contains 'x' then
          modify fun shell => { shell with
            extra := { shell.extra with sharedFunctions := text :: shell.extra.sharedFunctions } }
        else
          let _ ← put (if wish.on.contains 'F' then name ++ ['\n'] else functionText text body)
    return status

/-- Shows the declarations of variables. -/
def showDeclared (held : List (String × Variable)) : Act Nat :=
  put (held.flatMap fun (name, one) => declaration name one ++ ['\n'])

/-- Declares variables, those of the function at hand if there is one, or shows how they were declared. -/
def declare (services : Services) (inFunction : Bool) (arguments : List Octets) : Act Nat := do
  let shell ← get
  if inFunction && shell.hidden = [] then failing (octets "can only be used in a function")
  else match ← wishes "aAfFgiIlnprtux".toList (arguments.length + 1) {} arguments with
    | none => return 2
    | some (wish, names) =>
      if inFunction && names = [['-']] then
        modify fun shell => { shell with
          hidden := match shell.hidden with
            | (hidden, kept) :: outer => (hidden, kept.or (some shell.options)) :: outer
            | [] => [] }
        return 0
      else if wish.on.contains 'f' || wish.on.contains 'F' then declareFunctions wish names
      else if names = [] then
        if inFunction then
          let own := ((shell.hidden.head?.map (·.1)).getD []).map (·.1)
          showDeclared ((allVariables shell).filter fun entry => own.contains entry.1)
        else if wish.on = [] && wish.off = [] then showAll
        else showDeclared ((allVariables shell).filter fun entry => wish.fits entry.2)
      else if wish.on.contains 'p' then
        let mut status := 0
        for name in names do
          let text := spelled name
          match (shell.dynamic text).or (shell.held text) with
          | some held => let _ ← showDeclared [(text, held)]
          | none =>
            complain (name ++ octets ": not found")
            status := 1
        return status
      else
        let own : Bool := shell.hidden ≠ [] && !wish.on.contains 'g'
        let mut status := 0
        for name in names do
          let one ← declareOne services own wish name
          status := max status one
        return status

/-- Marks variables, or shows those that are marked. -/
def mark (services : Services) (fixes : Bool) (arguments : List Octets) : Act Nat := do
  match ← options (if fixes then "aAfp" else "fnp") "" arguments with
  | none => return 2
  | some (read, names) =>
    let shell ← get
    if names = [] then
      if has read 'f' then
        let chosen := if fixes then shell.extra.fixedFunctions else shell.extra.sharedFunctions
        put ((sortedFunctions shell).flatMap fun (name, body) => if chosen.contains name then
            functionText name body ++ octets (if fixes then s!"declare -fr {name}\n" else s!"declare -fx {name}\n")
          else [])
      else
        let isMarked (held : Variable) : Bool := if fixes then held.fixed else held.exported
        let shape : Option Shape := if has read 'A' then some .table else if has read 'a' then some .row
          else none
        showDeclared ((allVariables shell).filter fun entry =>
          isMarked entry.2 && shape.all (· = entry.2.shape))
    else if has read 'f' then
      let mut status := 0
      for name in names do
        let text := spelled name
        if (shell.functions.lookup text).isNone then
          complain (name ++ octets ": not a function")
          status := 1
        else modify fun shell =>
          let extra := shell.extra
          let extra := if fixes then { extra with fixedFunctions := text :: extra.fixedFunctions }
            else if has read 'n' then
              { extra with sharedFunctions := extra.sharedFunctions.filter (· ≠ text) }
            else { extra with sharedFunctions := text :: extra.sharedFunctions }
          { shell with extra }
      return status
    else
      let mut status := 0
      for argument in names do
        let one ← markOne read argument
        status := max status one
      return status
where
  /-- Marks a variable. -/
  markOne (read : List (Char × Octets)) (argument : Octets) : Act Nat := do
    match Declared.of? argument with
    | none => wrongName argument
    | some declared =>
      if declared.key.isSome then wrongName argument
      else
        let name := (← get).actual declared.name
        if declared.value.isSome && !(← mayKeep false name) then return 1
        else
          let held := ((← get).held name).getD { text := none }
          let wish : Wish := { on := if has read 'A' then ['A'] else if has read 'a' then ['a'] else [] }
          putVariable name (some (wish.change held))
          if let some value := declared.value then
            if value.head? ≠ some listMark then
              services.trace (octets name ++ '=' :: if value = [] then [] else tracedWord value)
            give services { declared with name } value
          let held := ((← get).held name).getD { text := none }
          putVariable name (some (if fixes then { held with fixed := true }
            else { held with exported := !has read 'n' }))
          return 0

/-! ### Other changes -/

/-- Forgets a variable, or a member of a list; `false` behind a complaint. -/
def forget (name : String) (key : Option Octets) : Act Bool := do
  let shell ← get
  let actual := shell.actual name
  match shell.held actual with
  | none => return true
  | some held =>
    if held.fixed then
      complain (octets s!"{actual}: cannot unset: readonly variable")
      return false
    else
      match key with
      | none => putVariable actual none
      | some key =>
        if (key = ['@'] || key = ['*']) && held.shape = .row then putVariable actual none
        else
          let key ← memberKey actual key
          if held.shape = .single then
            if key = ['0'] then putVariable actual none
          else putVariable actual (some (held.drop key))
      if actual = "OPTIND" then placeOptions []
      return true

/-- Forgets variables or functions. -/
def unset (arguments : List Octets) : Act Nat := do
  match ← options "fvn" "" arguments with
  | none => return 2
  | some (read, names) =>
    if has read 'f' && has read 'v' then
      failing (octets "cannot simultaneously unset a function and a variable")
    else
      let mut status := 0
      for name in names do
        let one ← unsetOne read name
        status := max status one
      return status
where
  /-- Forgets a function. -/
  unsetFunction (name : String) : Act Nat := do
    let shell ← get
    if shell.extra.fixedFunctions.contains name then
      failing (octets s!"{name}: cannot unset: readonly function")
    else
      modify fun shell => { shell with functions := shell.functions.filter (·.1 ≠ name) }
      return 0
  /-- Forgets a variable or a function. -/
  unsetOne (read : List (Char × Octets)) (name : Octets) : Act Nat := do
    let text := spelled name
    if has read 'f' then unsetFunction text
    else match reference? name with
      | none => if has read 'v' then wrongName name else unsetFunction text
      | some (named, key) =>
        let shell ← get
        if has read 'n' then
          putVariable named none
          return 0
        else if key.isSome || has read 'v' || (shell.held (shell.actual named)).isSome then
          return if ← forget named key then 0 else 1
        else unsetFunction text

/-- Drops positional parameters. -/
def shift (arguments : List Octets) : Act Nat := do
  let numeric : Bool := match arguments.headD [] with
    | '-' :: c :: _ => c.isDigit
    | _ => false
  (if numeric then (· arguments) else plainly arguments) fun arguments => do
    let positional := (← get).positional
    match arguments with
    | _ :: _ :: _ => refuse (octets "too many arguments")
    | words =>
      match (words.head?.map number?).getD (some 1) with
      | none => failing (words.headD [] ++ octets ": numeric argument required")
      | some count =>
        if count < 0 then failing (words.headD [] ++ octets ": shift count out of range")
        else if positional.length < count.toNat then
          if (← get).extra.switches.contains "shift_verbose" then
            complain (octets s!"{count}: shift count out of range")
          return 1
        else
          modify fun shell => { shell with positional := positional.drop count.toNat }
          return 0

/-- The status of a value: a failure if it is zero. -/
def truthStatus (value : Int) : Nat := if value = 0 then 1 else 0

/-- Evaluates its arguments. -/
def evaluateAll (arguments : List Octets) : Act Nat := do
  let expressions := if arguments.head? = some ['-', '-'] then arguments.drop 1 else arguments
  if expressions = [] then failing (octets "expression expected")
  else
    match ← attempt (expressions.foldlM (fun _ text => evaluate text) 0) with
    | .ok value => return truthStatus value
    | .error .failed => return 1
    | .error other => throw other

/-! ### Options of scripts -/

/-- What reading an option gives: the letter, the value, and the place to go on from. -/
structure Choice where
  letter : Char
  value : Option Octets := none
  place : OptionPlace
  complaint : Octets := []
  more : Bool := true

/-- The next option of arguments, which were read up to a place: the number of the argument at hand and how
many of its characters were used. -/
def choice (letters : Octets) (arguments : List Octets) (place : OptionPlace) : Choice :=
  let index := max place.index 1
  let behind : OptionPlace := { index := index + 1 }
  let silent : Bool := letters.head? = some ':'
  let letters := if silent then letters.drop 1 else letters
  match arguments[index - 1]?, place.inside with
  | none, _ => { letter := '?', place := { index }, more := false }
  | some ['-', '-'], none => { letter := '?', place := behind, more := false }
  | some argument, inside =>
    if inside.isNone && (argument.head? ≠ some '-' || argument.length < 2) then
      { letter := '?', place := { index }, more := false }
    else
      let offset := inside.getD 1
      match argument.drop offset with
      | [] => { letter := '?', place := behind, more := false }
      | letter :: more =>
        let next : OptionPlace := if more = [] then behind else { index, inside := some (offset + 1) }
        match Shell.Builtin.letterIn letter letters, more with
        | some false, _ => if letter = ':' then unknown silent letter next else { letter, place := next }
        | some true, [] => match arguments[index]? with
          | some value => { letter, value := some value, place := { index := index + 2 } }
          | none =>
            if silent then { letter := ':', value := some [letter], place := behind }
            else
              { letter := '?', place := behind
                complaint := octets ": option requires an argument -- " ++ [letter, '\n'] }
        | some true, value => { letter, value := some value, place := behind }
        | none, _ => unknown silent letter next
where
  /-- A letter that is not known. -/
  unknown (silent : Bool) (letter : Char) (place : OptionPlace) : Choice :=
    if silent then { letter := '?', value := some [letter], place }
    else { letter := '?', place, complaint := octets ": illegal option -- " ++ [letter, '\n'] }

/-- Reads one option of the positional parameters or of further arguments into a variable. -/
def getopts (arguments : List Octets) : Act Nat := do
  plainly arguments fun arguments => do
    match arguments with
    | letters :: name :: further =>
      let shell ← get
      let words := if further = [] then shell.positional else further
      let choice := choice letters words shell.optionPlace
      if choice.complaint ≠ [] && shell.value "OPTERR" ≠ some ['0'] then
        write 2 (shell.title ++ choice.complaint)
      match choice.value with
      | some value => assign "OPTARG" value
      | none => putVariable "OPTARG" none
      assign "OPTIND" (decimal choice.place.index)
      modify fun shell => { shell with optionPlace := choice.place }
      if !isName name then wrongName name
      else if !(← mayKeep false (spelled name)) then return 2
      else
        assign (spelled name) [choice.letter]
        return if choice.more then 0 else 1
    | _ => misused

end Workyard.Shell.Extended.Builtin
