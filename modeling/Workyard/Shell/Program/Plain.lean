/-
**Programs that only put something out.**

What they put out is made of their arguments, or says who and where they are.
-/

import Workyard.Shell.Builtin.Place
import Workyard.Shell.Format
import Workyard.Shell.Program.Basic

namespace Workyard.Shell.Program

/-- Complains about an argument too many. -/
def extra (call : Call) (argument : Octets) : Act Nat :=
  misused call.name (octets "extra operand " ++ inQuotes argument)

/-- Complains about missing arguments. -/
def lacking (call : Call) : Act Nat := misused call.name (octets "missing operand")

/-! ### Texts -/

/-- The escape at the front of a text behind a backslash, of which zeros may stand in front of octal
digits; nothing if it ends all output. -/
def echoEscape (zeros : Bool) (text : Octets) : Option (Octets × Octets) :=
  let octal (text : Octets) : Octets × Octets :=
    let digits := (text.take 3).takeWhile fun c => (digitIn 8 c).isSome
    ([octetChar (valueIn 8 digits)], text.drop digits.length)
  match text with
  | 'c' :: _ => none
  | 'x' :: rest =>
    let digits := (rest.take 2).takeWhile fun c => (digitIn 16 c).isSome
    some (if digits = [] then (['\\', 'x'], rest)
      else ([octetChar (valueIn 16 digits)], rest.drop digits.length))
  | '0' :: c :: rest =>
    some (if zeros && (digitIn 8 c).isSome then octal (c :: rest) else octal ('0' :: c :: rest))
  | c :: rest =>
    if (digitIn 8 c).isSome then some (octal (c :: rest))
    else
      let (c, rest) := escape (c :: rest)
      some ([c], rest)
  | [] => some (['\\'], [])

/-- A text with its escapes read, and whether one ends all output. -/
def echoText : Nat → Octets → Octets × Bool
  | 0, text => (text, false)
  | _, [] => ([], false)
  | fuel + 1, '\\' :: text => match echoEscape true text with
    | none => ([], true)
    | some (front, rest) =>
      let (behind, ended) := echoText fuel rest
      (front ++ behind, ended)
  | fuel + 1, c :: text =>
    let (behind, ended) := echoText fuel text
    (c :: behind, ended)

/-- The options in front of what is to be put out: whether escapes are read, and whether the line has no
end. -/
def echoOptions (escapes unended : Bool) : List Octets → Bool × Bool × List Octets
  | ('-' :: c :: letters) :: rest =>
    if (c :: letters).all fun c => c = 'n' || c = 'e' || c = 'E' then
      let last := (c :: letters).reverse.find? (· ≠ 'n')
      echoOptions ((last.map fun c => decide (c = 'e')).getD escapes) (unended || (c :: letters).contains 'n') rest
    else (escapes, unended, ('-' :: c :: letters) :: rest)
  | rest => (escapes, unended, rest)

/-- Puts out its arguments. -/
def echo (call : Call) : Act Nat := do
  let (escapes, unended, words) := echoOptions false false call.arguments
  let text := joinedBy [' '] words
  let (text, ended) := if escapes then echoText (text.length + 1) text else (text, false)
  put (if ended || unended then text else text ++ ['\n'])
  return 0

/-- How arguments are printed. -/
def printing : Manner where
  precision := .extended
  firstBits := 4
  escape text := match text with
    | '"' :: rest => some (['"'], rest)
    | text => echoEscape false text
  unescape text := echoText (text.length + 1) text
  noNumber text := inQuotes text ++ octets ": expected a numeric value"
  more text := inQuotes text ++ octets ": value not completely converted"
  beyond text := inQuotes text ++ octets ": Numerical result out of range"
  sizeFirst := true
  useless directive := directive ++ octets ": invalid conversion specification"
  missing directive := directive ++ octets ": invalid conversion specification"
  modifiers := ['h', 'j', 'l', 'L', 't', 'z']
  quoting := ['q']
  quote := asWordBeside []

/-- Formats and puts out its arguments. -/
def printf (call : Call) : Act Nat := do
  let words := if call.arguments.head? = some ['-', '-'] then call.arguments.drop 1 else call.arguments
  match words with
  | [] => lacking call
  | format :: rest =>
    let result := printed printing format rest
    let mut status := 0
    for piece in result.printed do
      match piece with
      | .text text => put text
      | .complaint words =>
        let _ ← scold call.name words
        status := 1
    match result.arguments with
    | argument :: _ =>
      if !result.ended then
        let _ ← scold call.name (octets "warning: ignoring excess arguments, starting with " ++
          inQuotes argument)
    | [] => pure ()
    return status

/-- The microseconds that a lot of octets takes. -/
def bulkTime : Nat := 1000

/-- Puts out a line for ever. -/
def yes (call : Call) : Act Nat :=
  withOptions [] false 1 call fun options => do
    let line := (if options.rest = [] then ['y'] else joinedBy [' '] options.rest) ++ ['\n']
    go (repeated (max readRoom line.length / line.length * line.length) line) maxPieces
where
  /-- Puts out a text again and again. -/
  go (text : Octets) : Nat → Act Nat
    | 0 => return 0
    | fuel + 1 => do
      putNow text
      spend bulkTime
      go text fuel

/-! ### Names of files -/

/-- A name without the slashes behind it. -/
def withoutSlashes (name : Octets) : Octets :=
  match (name.reverse.dropWhile (· = '/')).reverse with
  | [] => name.take 1
  | name => name

/-- The last part of a name. -/
def lastPart (name : Octets) : Octets :=
  let name := withoutSlashes name
  if name = ['/'] then name else (name.reverse.takeWhile (· ≠ '/')).reverse

/-- A name without its last part. -/
def frontPart (name : Octets) : Octets :=
  let name := withoutSlashes name
  let front := (name.reverse.dropWhile (· ≠ '/')).reverse
  if front = [] then ['.'] else withoutSlashes front

/-- Puts out the last parts of names. -/
def basename (call : Call) : Act Nat :=
  let known : List Choice := [("a", "multiple", .nothing), ("s", "suffix", .value), ("z", "zero", .nothing)]
  withOptions known false 1 call fun options => do
    let several : Bool := options.has "a" || options.has "s"
    let ends := if options.has "z" then '\x00' else '\n'
    let line (suffix name : Octets) : Octets :=
      let part := lastPart name
      let short := part.take (part.length - suffix.length)
      (if suffix ≠ [] && short ≠ [] && part ≠ ['/'] && part = short ++ suffix then short else part) ++ [ends]
    match options.rest, several with
    | [], _ => lacking call
    | names, true =>
      put (names.flatMap (line ((options.last? "s").getD [])))
      return 0
    | [name], false =>
      put (line [] name)
      return 0
    | [name, suffix], false =>
      put (line suffix name)
      return 0
    | _ :: _ :: argument :: _, false => extra call argument

/-- Puts out names without their last parts. -/
def dirname (call : Call) : Act Nat :=
  withOptions [("z", "zero", .nothing)] false 1 call fun options => do
    if options.rest = [] then lacking call
    else
      let ends := if options.has "z" then '\x00' else '\n'
      put (options.rest.flatMap fun name => frontPart name ++ [ends])
      return 0

/-! ### Who and where -/

/-- Puts out the directory in which it works. -/
def pwd (call : Call) : Act Nat :=
  withOptions [("L", "logical", .nothing), ("P", "physical", .nothing)] true 1 call fun options => do
    if options.rest ≠ [] then
      let _ ← scold call.name (octets "ignoring non-option arguments")
    let here := ((← me).map fun process => Builtin.pathName process.here).getD ['/']
    put (here ++ ['\n'])
    return 0

/-- Puts out the variables that it gets. -/
def printenv (call : Call) : Act Nat :=
  withOptions [("0", "null", .nothing)] false 2 call fun options => do
    let ends := if options.has "0" then '\x00' else '\n'
    let known := (← get).bindings.filter fun entry => entry.2.exported && entry.2.text.isSome
    if options.rest = [] then
      put (known.reverse.flatMap fun entry => octets s!"{entry.1}=" ++ entry.2.text.getD [] ++ [ends])
      return 0
    else
      let mut status := 0
      for name in options.rest do
        match (known.lookup (spelled name)).bind (·.text) with
        | some text => put (text ++ [ends])
        | none => status := 1
      return status

/-- Puts out a line if no arguments are given. -/
def saying (line : Octets) (call : Call) : Act Nat :=
  withOptions [] true 1 call fun options => do
    match options.rest with
    | argument :: _ => extra call argument
    | [] =>
      put (line ++ ['\n'])
      return 0

/-- Says who is at work. -/
def whoIs (call : Call) : Act Nat :=
  let known : List Choice := [("u", "user", .nothing), ("g", "group", .nothing), ("G", "groups", .nothing),
    ("n", "name", .nothing), ("r", "real", .nothing), ("z", "zero", .nothing), ("a", "", .nothing)]
  withOptions known true 1 call fun options => do
    let wanted := options.given.filter fun entry => ["u", "g", "G"].contains entry.1
    let named : Bool := options.has "n"
    if wanted = [] && (named || options.has "r") then
      scold call.name (octets "cannot print only names or real IDs in default format")
    else if wanted = [] && options.has "z" then
      scold call.name (octets "option --zero not permitted in default format")
    else if (wanted.map (·.1)).eraseDups.length > 1 then
      scold call.name (octets "cannot print \"only\" of more than one choice")
    else
      let ends := if options.has "z" then '\x00' else '\n'
      let mut status := 0
      for name in if options.rest = [] then [octets "root"] else options.rest do
        match accountOf (← tree) name with
        | none =>
          let _ ← scold call.name (inQuotes name ++ octets ": no such user")
          status := 1
        | some number =>
          let both := decimal number ++ '(' :: name ++ [')']
          put (if wanted = [] then
              octets "uid=" ++ both ++ octets " gid=" ++ both ++ octets " groups=" ++ both ++ ['\n']
            else (if named then name else decimal number) ++ [ends])
      return status
where
  /-- The number of an account. -/
  accountOf (tree : Files.Tree) (name : Octets) : Option Nat :=
    (match tree.read "/etc/passwd" with
      | .ok content => bareLinesOf (ofNumbers content)
      | .error _ => []).findSome? fun (line : Octets) => match line.splitOn ':' with
        | account :: _ :: number :: _ => if account = name then some (valueIn 10 number) else none
        | _ => none

/-- Says what machine it is. -/
def uname (call : Call) : Act Nat :=
  let parts : List (String × String × String) :=
    [("s", "kernel-name", "Linux"), ("n", "nodename", "localhost"), ("r", "kernel-release", "6.1.0"),
      ("v", "kernel-version", "#1 SMP"), ("m", "machine", "x86_64"), ("p", "processor", "x86_64"),
      ("i", "hardware-platform", "x86_64"), ("o", "operating-system", "GNU/Linux")]
  let known : List Choice := ("a", "all", .nothing) ::
    parts.map fun (letter, long, _) => (letter, long, .nothing)
  withOptions known true 1 call fun options => do
    match options.rest with
    | argument :: _ => extra call argument
    | [] =>
      let wanted := parts.filter fun (letter, _, _) =>
        options.has "a" || options.has letter || (options.given = [] && letter = "s")
      put (joinedBy [' '] (wanted.map fun (_, _, text) => octets text) ++ ['\n'])
      return 0

/-- Says that there is no terminal. -/
def tty (call : Call) : Act Nat :=
  withOptions [("s", "silent", .nothing), ("s", "quiet", .nothing)] true 2 call fun options => do
    match options.rest with
    | argument :: _ =>
      let _ ← extra call argument
      return 2
    | [] =>
      if !options.has "s" then put (octets "not a tty\n")
      return 1

/-- Does nothing and succeeds. -/
def succeed (_ : Call) : Act Nat := return 0

/-- Does nothing and fails. -/
def fail (_ : Call) : Act Nat := return 1

end Workyard.Shell.Program
