/-
**The commands that a shell of the extended language carries out by itself.**

* `builtin?`: a command by its name.
-/

import Workyard.Shell.Extended.Builtin.Command
import Workyard.Shell.Extended.Builtin.Input
import Workyard.Shell.Extended.Builtin.Job
import Workyard.Shell.Extended.Builtin.Place
import Workyard.Shell.Extended.Builtin.Variables
import Workyard.Shell.Extended.Condition

namespace Workyard.Shell.Extended

namespace Builtin

/-- Whether the words of a condition are true. -/
def test (inBrackets : Bool) (arguments : List Octets) : Act Nat := do
  let complaint (words : Octets) : Act Nat := do
    complain words
    return 2
  if inBrackets && arguments.getLast? ≠ some [']'] then
    complaint (octets ("missing " ++ String.singleton (Char.ofNat 96) ++ "]'"))
  else
    let words := if inBrackets then arguments.dropLast else arguments
    let asking : Asking :=
      { shell := (← get), tree := (← tree), closing := if inBrackets then some [']'] else none }
    match wordsHold asking words with
    | .ok value => return if value then 0 else 1
    | .error words => complaint words

end Builtin

open Extended.Builtin in
/-- A command that the shell carries out by itself. -/
def builtin? (services : Services) (name : String) (arguments : List Octets) : Option (Act Nat) :=
  match name with
  | ":" | "true" => some (pure 0)
  | "false" => some (pure 1)
  | "." | "source" => some (source services arguments)
  | "[" => some (test true arguments)
  | "test" => some (test false arguments)
  | "alias" => some (keepAliases arguments)
  | "bg" | "fg" => some moveJob
  | "bind" | "complete" | "compopt" | "compgen" | "fc" | "history" => some (pure 0)
  | "break" => some (leave arguments .broken)
  | "builtin" => some (builtin services arguments)
  | "caller" => some (caller arguments)
  | "cd" => some (cd arguments)
  | "command" => some (Builtin.command services arguments)
  | "continue" => some (leave arguments .continued)
  | "declare" | "typeset" => some (declare services false arguments)
  | "dirs" => some (dirs arguments)
  | "disown" => some (disown arguments)
  | "echo" => some (Builtin.echo arguments)
  | "enable" => some (enable arguments)
  | "eval" => some (Builtin.eval services arguments)
  | "exec" => some (Builtin.exec services arguments)
  | "exit" => some (Builtin.exit arguments)
  | "export" => some (mark services false arguments)
  | "getopts" => some (getopts arguments)
  | "hash" => some (hash arguments)
  | "help" => some (help arguments)
  | "jobs" => some (jobs services arguments)
  | "kill" => some (kill arguments)
  | "let" => some (evaluateAll arguments)
  | "local" => some (declare services true arguments)
  | "logout" => some (failing (octets ("not login shell: use " ++ String.singleton (Char.ofNat 96) ++ "exit'")))
  | "mapfile" | "readarray" => some (mapLines services arguments)
  | "popd" => some (popd arguments)
  | "printf" => some (Builtin.printf arguments)
  | "pushd" => some (pushd arguments)
  | "pwd" => some (pwd arguments)
  | "read" => some (Builtin.read arguments)
  | "readonly" => some (mark services true arguments)
  | "return" => some (returning arguments)
  | "set" => some (Builtin.set arguments)
  | "shift" => some (shift arguments)
  | "shopt" => some (shopt arguments)
  | "suspend" => some (failing (octets "cannot suspend: no job control"))
  | "times" => some (put 0 (octets "0m0.000s 0m0.000s\n0m0.000s 0m0.000s\n"))
  | "trap" => some (trap arguments)
  | "type" => some (type arguments)
  | "ulimit" => some (ulimit arguments)
  | "umask" => some (umask arguments)
  | "unalias" => some (dropAliases arguments)
  | "unset" => some (unset arguments)
  | "wait" => some (wait arguments)
  | _ => none

end Workyard.Shell.Extended
