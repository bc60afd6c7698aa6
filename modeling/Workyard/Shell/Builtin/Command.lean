/-
**Finding commands by name.**

A name is that of a reserved word, an alias, a function, a builtin, or a program in one of the places
where programs are looked for.
-/

import Workyard.Shell.Builtin.Basic
import Workyard.Shell.Condition

namespace Workyard.Shell

/-- The names of the commands that a shell carries out by itself. -/
def builtinNames : List String :=
  [":", "true", "false", "echo", "printf", "exit", "return", "break", "continue", "shift", "set",
    "unset", "export", "readonly", "read", "test", "[", "cd", "chdir", "pwd", "kill", "trap", "wait",
    "eval", "exec", "local", "command", "type", "umask", ".", "times", "hash", "jobs", "ulimit",
    "alias", "unalias", "getopts", "fg", "bg"]

/-- Why a command cannot be started. -/
inductive Missing where
  | program
  | permission
  /-- Only a directory has the name. -/
  | place
  | other (fault : OsFault)
deriving DecidableEq, Repr

/-- The words of a shell for what it cannot start, and the status. -/
def Missing.words : Missing → String × Nat
  | .program => ("not found", 127)
  | .permission => ("Permission denied", 126)
  | .place => ("Permission denied", 127)
  | .other fault => (fault.description.1, if [.tooManyLinks, .nameTooLong].contains fault then 127 else 126)

/-- The places where programs are looked for. -/
def placesOf (path : Octets) : List Octets := path.splitOn ':'

/-- The file in one of the places under which a name stands, if one can be carried out. -/
def search (tree : Files.Tree) (name : Octets) : List Octets → Except Missing Octets
  | [] => .error .program
  | place :: rest =>
    let full := if place = [] then name else place ++ '/' :: name
    match tree.find (spelled full) with
    | .ok node =>
      if isProgram node then .ok full
      else match search tree name rest with
        | .ok found => .ok found
        | .error _ => .error (if node.kind matches .directory then .place else .permission)
    | .error _ => search tree name rest

/-- The file that a name of a command stands for. -/
def State.programFile (shell : State) (tree : Files.Tree) (name : Octets) : Except Missing Octets :=
  if name.contains '/' then match tree.find (spelled name) with
    | .ok node => if isProgram node then .ok name else .error .permission
    | .error (.os .notFound) => .error .program
    | .error (.os .notADirectory) => .error .program
    | .error (.os fault) => .error (.other fault)
    | .error _ => .error .program
  else
    let isThere (file : Octets) : Bool := match tree.find (spelled file) with
      | .ok node => isProgram node
      | .error _ => false
    match (shell.tracked.lookup (spelled name)).filter isThere, shell.value "PATH" with
    | some file, _ => .ok file
    | none, none => .error .program
    | none, some path => search tree name (placesOf path)

namespace Builtin

/-- Remembers where a program was found. -/
def track (name : Octets) (file : Octets) : Act Unit :=
  if name.contains '/' then pure ()
  else modify fun shell => { shell with
    tracked := (spelled name, file) :: shell.tracked.filter (·.1 ≠ spelled name) }

/-! ### What a name stands for -/

/-- What a name stands for, in words or in the shortest form; none if nothing. -/
def meaning (short : Bool) (name : Octets) : Act (Option Octets) := do
  let shell ← get
  let text := spelled name
  let say (words : String) : Option Octets := some (if short then name else name ++ octets s!" is {words}")
  if reservedWords.contains text then return say "a shell keyword"
  else match shell.aliases.lookup text with
    | some value => return some (if short then octets "alias " ++ name ++ '=' :: quoted value
        else name ++ octets " is an alias for " ++ value)
    | none =>
      if (shell.functions.lookup text).isSome then return say "a shell function"
      else if specialBuiltins.contains text then return say "a special shell builtin"
      else if builtinNames.contains text then return say "a shell builtin"
      else
        let tree ← tree
        let found := if name.contains '/' then
            (if (tree.find text).toBool then some name else none)
          else (shell.programFile tree name).toOption
        let known := (shell.tracked.lookup text).isSome
        if let some file := found then track name file
        return found.map fun file =>
          if short then file
          else name ++ octets (if known then " is a tracked alias for " else " is ") ++ file

/-- Says what a name stands for. -/
def describe (short : Bool) (name : Octets) : Act Nat := do
  match ← meaning short name with
  | some words => put (words ++ ['\n'])
  | none =>
    if short then return 127
    else putting 127 (name ++ octets ": not found\n")

/-- Says what several names stand for. -/
def describeAll (names : List Octets) : Act Nat := do
  let mut status := 0
  for name in names do
    let one ← describe false name
    status := max status one
  return status

/-- Shows or changes what is remembered about programs. -/
def hash (arguments : List Octets) : Act Nat := do
  let (options, names) ← options "r" "" arguments
  if options ≠ [] then
    modify fun shell => { shell with tracked := [] }
    return 0
  else if names = [] then
    put ((← get).tracked.reverse.flatMap fun entry => entry.2 ++ ['\n'])
  else
    let mut status := 0
    for name in names do
      if !builtinNames.contains (spelled name) then
        match (← get).programFile (← tree) name with
        | .ok file => track name file
        | .error _ =>
          complain (name ++ octets ": not found")
          status := 1
    return status

/-! ### Aliases -/

/-- The place of an alias among all of them. -/
def aliasPlace (name : String) : Nat :=
  let numbers := (octets name).map Char.toNat
  (numbers.foldl (· + ·) (numbers.headD 0 * 16)) % 39

/-- An alias in the form in which it is shown. -/
def aliasLine (entry : String × Octets) : Octets := octets entry.1 ++ '=' :: quoted entry.2 ++ ['\n']

/-- Shows or keeps aliases. -/
def keepAliases (arguments : List Octets) : Act Nat := do
  if arguments = [] then
    put (((← get).aliases.mergeSort fun first second =>
      aliasPlace first.1 ≤ aliasPlace second.1).flatMap aliasLine)
  else
    let mut status := 0
    let mut shown := []
    for argument in arguments do
      let name := argument.takeWhile (· ≠ '=')
      let text := spelled name
      let aliases := (← get).aliases
      if name.length < argument.length && name ≠ [] then
        let value := argument.drop (name.length + 1)
        modify fun shell => { shell with
          aliases := if (aliases.lookup text).isSome then
              aliases.map fun entry => if entry.1 = text then (text, value) else entry
            else aliases ++ [(text, value)] }
      else match aliases.lookup (spelled argument) with
        | some value => shown := shown ++ aliasLine (spelled argument, value)
        | none =>
          write 2 (octets "alias: " ++ argument ++ octets " not found\n")
          status := 1
    putting status shown

/-- Forgets aliases. -/
def dropAliases (arguments : List Octets) : Act Nat := do
  let (options, names) ← options "a" "" arguments
  if options ≠ [] then
    modify fun shell => { shell with aliases := [] }
    return 0
  else
    let mut status := 0
    for name in names do
      let text := spelled name
      if ((← get).aliases.lookup text).isSome then
        modify fun shell => { shell with aliases := shell.aliases.filter (·.1 ≠ text) }
      else
        write 2 (octets "unalias: " ++ name ++ octets " not found\n")
        status := 1
    return status

end Builtin

end Workyard.Shell
