/-
**Variables and their values.**

A variable holds a value or a list. Some are made up when they are asked for, and some stand for another
one.

* `State.value`: the value of a variable;
* `keep`, `keepMember`: give a variable, or a member of a list, a value;
* `State.parameter`: the value of a parameter.
-/

import Workyard.Shell.Extended.Setting
import Workyard.Shell.Stream

namespace Workyard.Shell

/-! ### Lists -/

/-- The number by which a key is placed in a table. -/
def scattered (key : Octets) : Nat :=
  key.foldl (fun value c => (value * 16777619 % Nat.pow 2 32) ^^^ c.toNat) 2166136261 % 1024

namespace Variable

/-- The members of a variable; a value is a list of one. -/
def entries (held : Variable) : List (Octets × Octets) :=
  match held.shape with
  | .single => (held.text.map (['0'], ·)).toList
  | _ => held.members

/-- A list with other members. -/
def withMembers (held : Variable) (shape : Shape) (members : List (Octets × Octets)) : Variable :=
  { held with shape, members, text := members.lookup ['0'] }

/-- Puts a new member in front of the first one that a test tells. -/
def insertBefore (stands : Octets → Bool) (member : Octets × Octets) :
    List (Octets × Octets) → List (Octets × Octets)
  | [] => [member]
  | other :: rest => if stands other.1 then member :: other :: rest else other :: insertBefore stands member rest

/-- A variable in which a member has a value. -/
def put (held : Variable) (key text : Octets) : Variable :=
  let members := held.entries
  let shape := if held.shape = .single then .row else held.shape
  let replaced := members.map fun member => if member.1 = key then (key, text) else member
  let later (other : Octets) : Bool := if shape = .table then scattered key ≤ scattered other
    else valueIn 10 key < valueIn 10 other
  if held.shape = .single && key = ['0'] then { held with text := some text }
  else held.withMembers shape (if (members.lookup key).isSome then replaced
    else insertBefore later (key, text) members)

/-- A variable without a member. -/
def drop (held : Variable) (key : Octets) : Variable :=
  held.withMembers held.shape (held.members.filter (·.1 ≠ key))

/-- The number behind the last member of a row. -/
def behind (held : Variable) : Nat :=
  held.entries.foldl (fun most member => max most (valueIn 10 member.1 + 1)) 0

/-- The row of some values. -/
def ofRow (values : List Octets) : Variable :=
  let members := values.zipIdx.map fun (text, index) => (decimal index, text)
  { text := values.head?, shape := .row, members }

/-- The table of some values. -/
def ofTable (values : List (Octets × Octets)) : Variable :=
  values.foldl (fun held entry => held.put entry.1 entry.2) { text := none, shape := .table }

end Variable

/-! ### Values -/

/-- The next number by chance. -/
def nextSeed (seed : Nat) : Nat :=
  let seed := if seed = 0 then 123459876 else seed
  let value : Int := 16807 * ((seed % 127773 : Nat) : Int) - 2836 * ((seed / 127773 : Nat) : Int)
  (if value < 0 then value + 2147483647 else value).toNat

/-- A variable that is made up when it is asked for. -/
def State.dynamic (shell : State) (name : String) : Option Variable :=
  let single (text : Octets) : Option Variable := some { text := some text }
  let calls := shell.extra.calls
  let row (values : List Octets) : Option Variable := some (.ofRow values)
  let main : List Octets := if shell.extra.given || calls = [] then [] else [octets "main"]
  match name, shell.extended with
  | _, false => none
  | "LINENO", true => single (decimal shell.line)
  | "PIPESTATUS", true => row (shell.extra.pipeline.map decimal)
  | "FUNCNAME", true =>
    if calls.all (·.name = "source") then none
    else row (calls.map (fun calling => octets calling.name) ++ main)
  | "BASH_SOURCE", true => row (calls.map (·.source) ++ if shell.extra.given then [] else [shell.title])
  | "BASH_LINENO", true =>
    row (calls.map (fun calling => decimal calling.line) ++ if shell.extra.given then [] else [['0']])
  | "BASHPID", true => single (decimal shell.process)
  | "BASH_SUBSHELL", true => single (decimal shell.extra.depth)
  | "SECONDS", true => single (decimal (shell.world.clock / 1000000))
  | "EPOCHSECONDS", true => single (decimal (shell.world.dated.now / 1000000000))
  | "DIRSTACK", true => row (shell.place :: shell.extra.directories)
  | "GROUPS", true => row [['0']]
  | "BASH_ARGC", true => row []
  | "BASH_ARGV", true => row []
  | "BASH_ALIASES", true =>
    some (.ofTable (shell.aliases.map fun entry => (octets entry.1, entry.2)))
  | "BASH_CMDS", true => some (.ofTable (shell.tracked.map fun entry => (octets entry.1, entry.2)))
  | "SHELLOPTS", true =>
    let on := Extended.optionNames.filter fun entry => shell.options.contains entry.2
    some { text := some (Extended.listedNames (on.map (·.1))), fixed := true }
  | "BASHOPTS", true =>
    let on := Extended.switchNames.filter shell.extra.switches.contains
    some { text := some (Extended.listedNames on), fixed := true }
  | "RANDOM", true =>
    let value := nextSeed shell.extra.seed
    single (decimal (((value >>> 16) ^^^ (value &&& 65535)) &&& 32767))
  | _, true => none

/-- A variable by its name. -/
def State.held (shell : State) (name : String) : Option Variable := shell.bindings.lookup name

/-- The name of the variable that a name stands for. -/
def State.actual (shell : State) (name : String) : String :=
  if shell.extended then go 10 name else name
where
  /-- Follows references. -/
  go : Nat → String → String
    | 0, name => name
    | fuel + 1, name => match shell.held name with
      | some held =>
        if held.marks.contains 'n' then match held.text with
          | some target => go fuel (spelled target)
          | none => name
        else name
      | none => name

/-- What a name stands for. -/
def State.found (shell : State) (name : String) : Option Variable :=
  (shell.dynamic name).or (shell.held (shell.actual name))

/-- The value of a variable. -/
def State.value (shell : State) (name : String) : Option Octets := (shell.found name).bind (·.text)

/-- Keeps a variable as it is to be. -/
def putVariable (name : String) (held : Option Variable) : Act Unit :=
  modify fun shell =>
    let others := shell.bindings.filter (·.1 ≠ name)
    { shell with
      bindings := match held with
        | some held => (name, held) :: others
        | none => others }

/-- The count that a text must be. -/
def countOf (text : Octets) : Act Nat :=
  match count? text with
  | some count => pure count
  | none => refuse (octets "Illegal number: " ++ text)

/-- Begins to read options where the variable for their place says. -/
def placeOptions (text : Octets) : Act Unit := do
  let count ← if (← get).extended then pure ((count? text).getD 1) else countOf text
  modify fun shell => { shell with optionPlace := { index := max count 1 } }

/-- Stops at a variable that keeps its value. -/
def refuseFixed {α : Type} (name : String) : Act α := do
  if (← get).extended then during [] (refuse (octets s!"{name}: readonly variable"))
  else refuse (octets s!"{name}: is read only")

/-- A value as a variable takes it, in large or small letters if it was declared so. -/
def Variable.suited (held : Variable) (text : Octets) : Octets :=
  if held.marks.contains 'u' then text.map Char.toUpper
  else if held.marks.contains 'l' then text.map Char.toLower
  else text

/-- Gives a member of a list a value. -/
def keepMember (name : String) (key text : Octets) : Act Unit := do
  let shell ← get
  let name := shell.actual name
  let held := (shell.held name).getD { text := none, exported := shell.options.contains 'a' }
  if held.fixed then refuseFixed name
  putVariable name (some (held.put key (held.suited text)))

/-- Gives a variable a value. -/
def keep (name : String) (text : Octets) : Act Unit := do
  let shell ← get
  let name := shell.actual name
  match shell.held name with
  | some held =>
    if held.fixed then refuseFixed name
    if held.shape = .single then
      putVariable name (some { held with
        text := some (held.suited text), exported := held.exported || shell.options.contains 'a' })
    else keepMember name ['0'] text
  | none => putVariable name (some { text := some text, exported := shell.options.contains 'a' })
  if name = "OPTIND" then placeOptions text
  if name = "PATH" then modify fun shell => { shell with tracked := [] }
  if shell.extended && name = "RANDOM" then
    modify fun shell => { shell with
      bindings := shell.bindings.filter (·.1 ≠ "RANDOM")
      extra := { shell.extra with seed := ((numberOf text).getD 0).toNat } }

/-- The value of a parameter that is not a list. -/
def State.parameter (shell : State) (name : String) : Option Octets :=
  match name with
  | "#" => some (decimal shell.positional.length)
  | "?" => some (decimal shell.status)
  | "$" => some (decimal shell.principal)
  | "!" => shell.lastJob.map decimal
  | "-" => some (shell.options.filter Char.isAlpha)
  | _ =>
    if isDigits name.toList then
      match valueIn 10 name.toList with
      | 0 => some shell.title
      | index + 1 => shell.positional[index]?
    else shell.value name

/-- The separators of fields. -/
def State.separators (shell : State) : Octets := (shell.value "IFS").getD [' ', '\t', '\n']

/-- Stops at a parameter that has no value, if the shell minds. -/
def checkSet (name : String) : Act Unit := do
  let shell ← get
  if shell.options.contains 'u' then
    if shell.extended then abandon (octets s!"{name}: unbound variable")
    else refuse (octets s!"{name}: parameter not set")

end Workyard.Shell
