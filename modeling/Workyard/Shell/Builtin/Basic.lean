/-
**What builtins have in common.**

* `Services`: what a builtin can have done by the shell;
* `options`: the options in front of the other arguments, each a letter that a builtin knows;
* `number`: an argument that must be a number;
* `put`: what a builtin puts out.
-/

import Workyard.Shell.Expansion
import Workyard.Shell.Script

namespace Workyard.Shell

/-- What a builtin can have done by the shell. -/
structure Services where
  /-- Carries out a script in this shell. -/
  script : Octets → Act Nat
  /-- Carries out a script whose first line has a number. -/
  scriptFrom : Nat → Octets → Act Nat
  /-- Carries out a command, functions left aside. -/
  command : List Octets → Act Nat
  /-- Carries out a program in place of the shell. -/
  replace : List Octets → Act Empty
  /-- Writes a line about what is carried out, if the shell does so. -/
  trace : Octets → Act Unit

namespace Builtin

/-- The number that a command wants. -/
def number (text : Octets) : Act Nat := countOf text

/-- Writes what a command puts out. -/
def put (text : Octets) : Act Nat := do
  match ← writeAll 1 text with
  | .ok _ => return 0
  | .error _ =>
    complain ((← get).busyWith ++ octets ": I/O error")
    return 1

/-- Writes what a command puts out, for its status. -/
def putting (status : Nat) (text : Octets) : Act Nat := do
  let failed ← put text
  return if failed = 0 then status else failed

/-- Reads options on inside an argument. -/
def letters (known : List Char) (valued : List Char) : Octets → List Octets →
    List (Char × Octets) → Act (List (Char × Octets) × List Octets)
  | [], rest, read => return (read, rest)
  | letter :: more, rest, read => do
    if valued.contains letter then
      match more, rest with
      | [], [] => refuse (octets "No arg for -" ++ letter :: octets " option")
      | [], value :: rest => return ((letter, value) :: read, rest)
      | value, rest => return ((letter, value) :: read, rest)
    else if known.contains letter then letters known valued more rest ((letter, []) :: read)
    else refuse (octets "Illegal option -" ++ [letter])

/-- Reads the options in front of arguments, which come in reverse of their order, and the rest. Letters
with values take them from the same argument or from the next one. -/
def options (known valued : String) (arguments : List Octets) :
    Act (List (Char × Octets) × List Octets) :=
  go (arguments.length + 1) arguments []
where
  /-- Reads on behind options, which come in reverse. -/
  go : Nat → List Octets → List (Char × Octets) → Act (List (Char × Octets) × List Octets)
    | 0, rest, read => return (read, rest)
    | _, [], read => return (read, [])
    | _, ['-', '-'] :: rest, read => return (read, rest)
    | fuel + 1, ('-' :: c :: more) :: rest, read => do
      let (read, rest) ← letters known.toList valued.toList (c :: more) rest read
      go fuel rest read
    | _, rest, read => return (read, rest)

/-- The arguments behind options where there are none to be read. -/
def operands (arguments : List Octets) : Act (List Octets) := do
  return (← options "" "" arguments).2

/-- A text in single quotes. -/
def quoted (text : Octets) : Octets :=
  '\'' :: (text.flatMap fun c => if c = '\'' then octets "'\"'\"'" else [c]) ++ ['\'']

end Builtin

end Workyard.Shell
