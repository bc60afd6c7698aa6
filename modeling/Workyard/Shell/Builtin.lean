/-
**Commands that a shell carries out by itself.**

They work on the state of the shell. A complaint of one of the special ones ends the shell.

* `builtin?`: a command by its name.
-/

import Workyard.Shell.Builtin.Command
import Workyard.Shell.Builtin.Job
import Workyard.Shell.Builtin.Place
import Workyard.Shell.Builtin.Variables
import Workyard.Shell.Extended.Builtin
import Workyard.Shell.Format

namespace Workyard.Shell

namespace Builtin

/-- Puts out its arguments with blanks between them. -/
def echo (arguments : List Octets) : Act Nat :=
  let (silent, arguments) := match arguments with
    | ['-', 'n'] :: rest => (true, rest)
    | other => (false, other)
  let (text, ended) := unescape (joinedBy [' '] arguments)
  put (if silent || ended then text else text ++ ['\n'])

/-- How the arguments are printed. -/
def printing : Manner where
  escape text :=
    let (c, rest) := escape text
    some ([c], rest)
  unescape := unescape
  noNumber text := text ++ octets ": expected numeric value"
  more text := text ++ octets ": not completely converted"
  beyond text := text ++ octets ": Numerical result out of range"
  useless directive := directive ++ octets ": invalid directive"
  missing _ := octets "missing format character"

/-- Formats and puts out its arguments. -/
def printf (arguments : List Octets) : Act Nat := do
  match ← operands arguments with
  | [] => refuse (octets "usage: printf format [arg ...]")
  | format :: rest =>
    let result := printed printing format rest
    let mut text := []
    let mut wrong := false
    for piece in result.printed do
      match piece with
      | .text more => text := more :: text
      | .complaint words =>
        complain words
        wrong := true
    let status ← put text.reverse.flatten
    return if result.broken then 2 else if wrong then 1 else status

/-- Leaves loops. -/
def leave (arguments : List Octets) (stop : Nat → Unwind) : Act Nat := do
  let levels ← match arguments with
    | [] => pure 1
    | text :: _ => number text
  if levels = 0 then refuse (octets "Illegal number: 0")
  let loops := (← get).loops
  if loops = 0 then return 0 else throw (stop (min levels loops))

/-- Whether the words of a condition are true. -/
def test (name : String) (arguments : List Octets) : Act Nat := do
  let words := if name = "[" then
      (if arguments.getLast? = some [']'] then some arguments.dropLast else none)
    else some arguments
  match words with
  | none => refuse (octets "missing ]")
  | some words => match holds (← tree) words with
    | .ok value => return if value then 0 else 1
    | .error complaint => refuse complaint

/-- The file of commands that a name stands for. -/
def sourceFile (shell : State) (tree : Files.Tree) (name : Octets) : Option Octets :=
  if name.contains '/' then some name
  else (placesOf ((shell.value "PATH").getD [])).findSome? fun place =>
    let full := if place = [] then name else place ++ '/' :: name
    match tree.find (spelled full) with
    | .ok ⟨.file _, _, _⟩ => some full
    | _ => none

/-- Carries out the commands of a file. -/
def source (services : Services) (arguments : List Octets) : Act Nat := do
  match ← operands arguments with
  | [] => return 0
  | name :: _ =>
    match sourceFile (← get) (← tree) name with
    | none => refuse (name ++ octets ": not found")
    | some file => match (← tree).openRead (spelled file) with
      | .error _ => refuse (octets "cannot open " ++ file ++ octets ": No such file")
      | .ok (_, node) =>
        let busy := (← get).busyWith
        modify fun shell => { shell with busyWith := file }
        let result ← attempt (services.script (ofNumbers node.contents.1))
        modify fun shell => { shell with busyWith := busy }
        match result with
        | .error (.returned status) => return status
        | other => settle other

/-- The status that an argument asks for, or else the last one. -/
def wantedStatus (arguments : List Octets) : Act Nat := do
  match arguments with
  | [] => return (← get).status
  | text :: _ => number text

end Builtin

open Builtin in
/-- A command that a shell of the plain language carries out by itself. -/
def plainBuiltin? (services : Services) (name : String) (arguments : List Octets) : Option (Act Nat) :=
  match name with
  | ":" => some (pure 0)
  | "true" => some (pure 0)
  | "false" => some (pure 1)
  | "echo" => some (Builtin.echo arguments)
  | "printf" => some (Builtin.printf arguments)
  | "exit" => some do throw (.exit (← wantedStatus arguments))
  | "return" => some do throw (.returned (← wantedStatus arguments))
  | "break" => some (leave arguments .broken)
  | "continue" => some (leave arguments .continued)
  | "shift" => some (shift arguments)
  | "set" => some (Builtin.set arguments)
  | "unset" => some (unset arguments)
  | "export" => some (mark "export" (·.exported) (fun held => { held with exported := true }) arguments)
  | "readonly" => some (mark "readonly" (·.fixed) (fun held => { held with fixed := true }) arguments)
  | "local" => some (hide arguments)
  | "read" => some (Builtin.read arguments)
  | "getopts" => some (getopts arguments)
  | "test" => some (test "test" arguments)
  | "[" => some (test "[" arguments)
  | "cd" => some (cd arguments)
  | "chdir" => some (cd arguments)
  | "pwd" => some (pwd arguments)
  | "kill" => some (kill arguments)
  | "trap" => some (trap arguments)
  | "wait" => some (wait arguments)
  | "jobs" => some (jobs arguments)
  | "fg" => some (moveJob arguments)
  | "bg" => some (moveJob arguments)
  | "eval" => some (services.script (joinedBy [' '] arguments))
  | "exec" => some do
    match ← operands arguments with
    | [] => return 0
    | words =>
      let never ← services.replace words
      nomatch never
  | "command" => some do
    let (options, words) ← options "pvV" "" arguments
    match options.head?.map (·.1), words with
    | _, [] => return 0
    | some 'v', name :: _ => describe true name
    | some 'V', name :: _ => describe false name
    | _, words => services.command words
  | "type" => some (describeAll arguments)
  | "umask" => some (umask arguments)
  | "ulimit" => some (ulimit arguments)
  | "." => some (source services arguments)
  | "times" => some (put (octets "0m0.000000s 0m0.000000s\n0m0.000000s 0m0.000000s\n"))
  | "hash" => some (hash arguments)
  | "alias" => some (keepAliases arguments)
  | "unalias" => some (dropAliases arguments)
  | _ => none

/-- A command that the shell carries out by itself. -/
def builtin? (shell : State) (services : Services) (name : String) (arguments : List Octets) : Option (Act Nat) :=
  if shell.extended then
    if shell.extra.disabled.contains name then none else Extended.builtin? services name arguments
  else plainBuiltin? services name arguments

end Workyard.Shell
