/-
**Builtins for options and switches.**

* `set`: options, positional parameters, and all variables;
* `shopt`: switches.
-/

import Workyard.Shell.Builtin.Variables
import Workyard.Shell.Extended.Builtin.Basic
import Workyard.Shell.Extended.Printing

namespace Workyard.Shell.Extended.Builtin

open Shell.Builtin (put putting)

/-- Turns an option on or off. -/
def setLetter (on : Bool) (letter : Char) : Act Unit :=
  modify fun shell =>
    let others := shell.options.filter (· ≠ letter)
    { shell with options := arranged (if on then letter :: others else others) }

/-- Turns an option on or off by its name; `false` behind a complaint if there is none. -/
def setNamed (on : Bool) (name : Octets) : Act Bool := do
  match optionNames.lookup (spelled name) with
  | some letter =>
    setLetter on letter
    return true
  | none =>
    complain (name ++ octets ": invalid option name")
    return false

/-- Turns a switch on or off; `false` behind a complaint if there is none. -/
def setSwitch (on : Bool) (name : Octets) : Act Bool := do
  let text := spelled name
  if switchNames.contains text then
    modify fun shell =>
      let others := shell.extra.switches.filter (· ≠ text)
      { shell with extra := { shell.extra with switches := if on then text :: others else others } }
    return true
  else
    complain (name ++ octets ": invalid shell option name")
    return false

/-- A line about what is on or off. -/
def standingLine (name : String) (on : Bool) : Octets :=
  leftIn 15 (octets name) ++ octets (if on then "\ton\n" else "\toff\n")

/-- A line that turns an option on or off. -/
def optionCommand (name : String) (on : Bool) : Octets :=
  octets (if on then s!"set -o {name}\n" else s!"set +o {name}\n")

/-- Shows the options. -/
def showOptions (asCommands : Bool) : Act Nat := do
  let on := (← get).options
  put (optionNames.flatMap fun (name, letter) =>
    if asCommands then optionCommand name (on.contains letter) else standingLine name (on.contains letter))

/-- Reads the letters of options in front of arguments; they come in order, each with whether it is turned
on and perhaps with a name. None behind a complaint. -/
def demands : Nat → List Octets → Act (Option (List (Bool × Char × Option Octets) × Option (List Octets)))
  | 0, _ => return some ([], none)
  | _, [] => return some ([], none)
  | fuel + 1, word :: rest => do
    match word with
    | ['-', '-'] => return some ([], some rest)
    | ['-'] =>
      return some ([(false, 'x', none), (false, 'v', none)], if rest = [] then none else some rest)
    | sign :: c :: more =>
      if sign = '-' || sign = '+' then
        let on : Bool := sign = '-'
        let letters := c :: more
        match letters.find? fun letter => letter ≠ 'o' && !"abefhkmnptuvxBCEHPT".toList.contains letter with
        | some letter =>
          complain (sign :: letter :: octets ": invalid option")
          let _ ← misused
          return none
        | none =>
          let named : Bool := letters.contains 'o'
          let (name, rest) := if named then (match rest with
              | name :: behind =>
                if name.head? = some '-' || name.head? = some '+' then (none, rest) else (some name, behind)
              | [] => (none, [])) else (none, rest)
          match ← demands fuel rest with
          | none => return none
          | some (behind, parameters) =>
            let own := letters.map fun letter => (on, letter, if letter = 'o' then name else none)
            return some (own ++ behind, parameters)
      else return some ([], some (word :: rest))
    | _ => return some ([], some (word :: rest))

/-- A variable as it is shown among all. -/
def variableLine (name : String) (held : Variable) : Octets :=
  match held.shape with
  | .single => match held.text with
    | some text => octets name ++ '=' :: shownValue text ++ ['\n']
    | none => []
  | shape => octets name ++ '=' :: listText shape held.members ++ ['\n']

/-- The variables in the order of their names, those that are made up among them. -/
def allVariables (shell : State) : List (String × Variable) :=
  let made := ["BASHOPTS", "BASH_ALIASES", "BASH_ARGC", "BASH_ARGV", "BASH_CMDS", "BASH_LINENO",
    "BASH_SOURCE", "DIRSTACK", "GROUPS", "SHELLOPTS"].filterMap fun name =>
      (shell.dynamic name).map (name, ·)
  (made ++ shell.bindings.filter fun entry => (shell.dynamic entry.1).isNone).mergeSort
    fun first second => first.1 ≤ second.1

/-- The functions in the order of their names. -/
def sortedFunctions (shell : State) : List (String × Command) :=
  shell.functions.mergeSort fun first second => first.1 ≤ second.1

/-- Shows all variables and functions. -/
def showAll : Act Nat := do
  let shell ← get
  let values := (allVariables shell).flatMap fun (name, held) => variableLine name held
  let functions := (sortedFunctions shell).flatMap fun (name, body) => functionText name body
  put (values ++ functions)

/-- Sets options and positional parameters, or shows all variables. -/
def set (arguments : List Octets) : Act Nat := do
  if arguments = [] then showAll
  else match ← demands (arguments.length + 1) arguments with
    | none => return 2
    | some (demands, parameters) =>
      let mut status := 0
      for (on, letter, name) in demands do
        if status = 0 then
          if letter ≠ 'o' then setLetter on letter
          else match name with
            | none =>
              let _ ← showOptions (!on)
            | some name => if !(← setNamed on name) then status := 2
      if status = 0 then
        if let some parameters := parameters then
          modify fun shell => { shell with positional := parameters }
      return status

/-- Shows or turns switches. -/
def shopt (arguments : List Octets) : Act Nat := do
  match ← options "pqsuo" "" arguments with
  | none => return 2
  | some (read, names) =>
    let shell ← get
    let asOptions : Bool := has read 'o'
    let isOn (name : String) : Bool := if asOptions then
        (optionNames.lookup name).any shell.options.contains
      else shell.extra.switches.contains name
    let known := if asOptions then optionNames.map (·.1) else switchNames
    let line (name : String) : Octets :=
      if has read 'p' then
        (if asOptions then optionCommand name (isOn name)
        else octets (if isOn name then s!"shopt -s {name}\n" else s!"shopt -u {name}\n"))
      else standingLine name (isOn name)
    if has read 's' && has read 'u' then
      failing (octets "cannot set and unset shell options simultaneously")
    else if names = [] then
      if has read 'q' then return 0
      else put ((known.filter fun name =>
        if has read 's' then isOn name else if has read 'u' then !isOn name else true).flatMap line)
    else if has read 's' || has read 'u' then
      let mut status := 0
      for name in names do
        let done ← if asOptions then setNamed (has read 's') name else setSwitch (has read 's') name
        if !done then status := 1
      return status
    else
      let mut status := 0
      for name in names do
        let text := spelled name
        if known.contains text then
          if !isOn text then status := 1
          if !has read 'q' then
            let _ ← put (line text)
        else
          complain (name ++ octets (if asOptions then ": invalid option name" else ": invalid shell option name"))
          status := 1
      return status

end Workyard.Shell.Extended.Builtin
