/-
**What the builtins of the extended language have in common.**

* `usages`: how they are used;
* `options`: the options in front of the other arguments;
* `failing`: a complaint and the status of a failure.
-/

import Workyard.Shell.Builtin.Basic

namespace Workyard.Shell.Extended.Builtin

/-- How the builtins are used, by their names. -/
def usages : List (String × String) :=
  let read := "[-d delim] [-n count] [-O origin] [-s count] [-t] [-u fd] [-C callback] [-c quantum] [array]"
  [(".", "filename [arguments]"), ("source", "filename [arguments]"), ("alias", "[-p] [name[=value] ... ]"),
    ("bg", "[job_spec ...]"), ("builtin", "[shell-builtin [arg ...]]"), ("caller", "[expr]"),
    ("cd", "[-L|[-P [-e]] [-@]] [dir]"), ("command", "[-pVv] command [arg ...]"),
    ("declare", "[-aAfFgiIlnrtux] [name[=value] ...] or declare -p [-aAfFilnrtux] [name ...]"),
    ("dirs", "[-clpv] [+N] [-N]"), ("disown", "[-h] [-ar] [jobspec ... | pid ...]"),
    ("enable", "[-a] [-dnps] [-f filename] [name ...]"), ("eval", "[arg ...]"),
    ("exec", "[-cl] [-a name] [command [argument ...]] [redirection ...]"), ("exit", "[n]"),
    ("export", "[-fn] [name[=value] ...] or export -p"), ("fg", "[job_spec]"),
    ("getopts", "optstring name [arg ...]"), ("hash", "[-lr] [-p pathname] [-dt] [name ...]"),
    ("help", "[-dms] [pattern ...]"),
    ("history", "[-c] [-d offset] [n] or history -anrw [filename] or history -ps arg [arg...]"),
    ("jobs", "[-lnprs] [jobspec ...] or jobs -x command [args]"),
    ("kill", "[-s sigspec | -n signum | -sigspec] pid | jobspec ... or kill -l [sigspec]"),
    ("let", "arg [arg ...]"), ("local", "[option] name[=value] ..."), ("mapfile", read),
    ("readarray", read), ("popd", "[-n] [+N | -N]"), ("printf", "[-v var] format [arguments]"),
    ("pushd", "[-n] [+N | -N | dir]"), ("pwd", "[-LP]"),
    ("read", "[-ers] [-a array] [-d delim] [-i text] [-n nchars] [-N nchars] [-p prompt] [-t timeout] " ++
      "[-u fd] [name ...]"),
    ("readonly", "[-aAf] [name[=value] ...] or readonly -p"), ("return", "[n]"),
    ("set", "[-abefhkmnptuvxBCEHPT] [-o option-name] [--] [-] [arg ...]"), ("shift", "[n]"),
    ("shopt", "[-pqsu] [-o] [optname ...]"), ("suspend", "[-f]"), ("times", ""),
    ("trap", "[-lp] [[arg] signal_spec ...]"), ("type", "[-afptP] name [name ...]"),
    ("typeset", "[-aAfFgiIlnrtux] name[=value] ... or typeset -p [-aAfFilnrtux] [name ...]"),
    ("ulimit", "[-SHabcdefiklmnpqrstuvxPRT] [limit]"), ("umask", "[-p] [-S] [mode]"),
    ("unalias", "[-a] name [name ...]"), ("unset", "[-f] [-v] [-n] [name ...]"),
    ("wait", "[-fn] [-p var] [id ...]")]

/-- Says how the builtin at work is used. -/
def misused : Act Nat := do
  let name := spelled (← get).busyWith
  let words := (usages.lookup name).getD ""
  write 2 (octets s!"{name}: usage: {name} {words}\n")
  return 2

/-- Complains, and gives the status of a failure. -/
def failing (words : Octets) : Act Nat := do
  complain words
  return 1

/-- Complains of a name that no variable can have. -/
def wrongName (name : Octets) : Act Nat := do
  let back := String.singleton (Char.ofNat 96)
  failing (octets back ++ name ++ octets "': not a valid identifier")

/-- Options with their values in order, and the arguments behind them. -/
abbrev Choices := List (Char × Octets) × List Octets

/-- Reads options on inside an argument; none behind a complaint. -/
def letters (known valued : List Char) : Octets → List Octets → List (Char × Octets) → Act (Option Choices)
  | [], rest, read => return some (read, rest)
  | letter :: more, rest, read => do
    if valued.contains letter then
      match more, rest with
      | [], [] =>
        complain (['-', letter] ++ octets ": option requires an argument")
        let _ ← misused
        return none
      | [], value :: rest => return some ((letter, value) :: read, rest)
      | value, rest => return some ((letter, value) :: read, rest)
    else if known.contains letter then letters known valued more rest ((letter, []) :: read)
    else
      complain (['-', letter] ++ octets ": invalid option")
      let _ ← misused
      return none

/-- Reads the options in front of arguments; none behind a complaint about them. Letters with values take
them from the same argument or from the next one. -/
def options (known valued : String) (arguments : List Octets) : Act (Option Choices) :=
  go (arguments.length + 1) arguments []
where
  /-- Reads on behind options, which come in reverse. -/
  go : Nat → List Octets → List (Char × Octets) → Act (Option Choices)
    | 0, rest, read => return some (read.reverse, rest)
    | _, ['-', '-'] :: rest, read => return some (read.reverse, rest)
    | fuel + 1, ('-' :: c :: more) :: rest, read => do
      match ← letters known.toList valued.toList (c :: more) rest read with
      | none => return none
      | some (read, rest) => go fuel rest read
    | _, rest, read => return some (read.reverse, rest)

/-- The value of the last option with a letter. -/
def lastOf (read : List (Char × Octets)) (letter : Char) : Option Octets := read.reverse.lookup letter

/-- Whether an option was given. -/
def has (read : List (Char × Octets)) (letter : Char) : Bool := (read.lookup letter).isSome

/-- Carries out a builtin that has no options of its own. -/
def plainly (arguments : List Octets) (work : List Octets → Act Nat) : Act Nat := do
  match ← options "" "" arguments with
  | none => return 2
  | some (_, rest) => work rest

/-- Whether a variable may be given a value; if not, this is complained of, perhaps in the name of the
builtin at work. -/
def mayKeep (named : Bool) (name : String) : Act Bool := do
  let shell ← get
  if ((shell.found name).any (·.fixed)) then
    modify fun shell => { shell with busyWith := if named then shell.busyWith else [] }
    complain (octets s!"{name}: readonly variable")
    modify fun after => { after with busyWith := shell.busyWith }
    return false
  else return true

/-- The name of a variable and the key of a member of it, as an argument spells them; none if it does not. -/
def reference? (text : Octets) : Option (String × Option Octets) :=
  let name := text.takeWhile isNameChar
  if !isName name then none
  else match text.drop name.length with
    | [] => some (spelled name, none)
    | '[' :: rest =>
      if rest.getLast? = some ']' && rest.length ≠ 1 then some (spelled name, some rest.dropLast) else none
    | _ => none

/-- Gives a variable, or the member of a list that an argument spells, a value; `false` behind a
complaint. -/
def store (target text : Octets) : Act Bool := do
  match reference? target with
  | none =>
    let _ ← wrongName target
    return false
  | some (name, key) =>
    if !(← mayKeep false name) then return false
    else
      match key with
      | none => assign name text
      | some key => assignMember name (← memberKey name key) text
      return true

/-- The number that a text is as a whole. -/
def number? (text : Octets) : Option Int :=
  if text.all isSpace then none else numberOf text

end Workyard.Shell.Extended.Builtin
