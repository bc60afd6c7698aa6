/-
**Builtins that put out their arguments.**
-/

import Workyard.Shell.Extended.Builtin.Basic
import Workyard.Shell.Format
import Workyard.Shell.Program.Calendar

namespace Workyard.Shell.Extended.Builtin

/-- The words for a fault in writing. -/
def writeWords (fault : IoFault) : Octets := octets s!"write error: {fault.reason}"

/-- Writes what a builtin puts out, for its status. -/
def put (status : Nat) (text : Octets) : Act Nat := do
  match ← writeAll 1 text with
  | .ok _ => return status
  | .error fault => failing (writeWords fault)

/-- What stands for the escape at the front of a text behind a backslash, and the text behind it; nothing if
it ends all output. Octal digits may need a zero in front of them. -/
def escapeIn (zeroFirst endsOutput : Bool) (text : Octets) : Option (Octets × Octets) :=
  let octal (digits : Octets) (rest : Octets) : Option (Octets × Octets) :=
    some ([octetChar (valueIn 8 digits)], rest)
  let wide (letter : Char) (most : Nat) (rest : Octets) : Option (Octets × Octets) :=
    let digits := (rest.take most).takeWhile fun c => (digitIn 16 c).isSome
    if digits = [] then some (['\\', letter], rest)
    else
      let value := valueIn 16 digits
      some (if letter = 'x' then [octetChar value] else wideCharacter digits.length value,
        rest.drop digits.length)
  match text with
  | 'a' :: rest => some (['\x07'], rest)
  | 'b' :: rest => some (['\x08'], rest)
  | 'e' :: rest => some (['\x1b'], rest)
  | 'E' :: rest => some (['\x1b'], rest)
  | 'f' :: rest => some (['\x0c'], rest)
  | 'n' :: rest => some (['\n'], rest)
  | 'r' :: rest => some (['\x0d'], rest)
  | 't' :: rest => some (['\t'], rest)
  | 'v' :: rest => some (['\x0b'], rest)
  | '\\' :: rest => some (['\\'], rest)
  | 'x' :: rest => wide 'x' 2 rest
  | 'u' :: rest => wide 'u' 4 rest
  | 'U' :: rest => wide 'U' 8 rest
  | 'c' :: rest => if endsOutput then none else some (['\\', 'c'], rest)
  | c :: rest =>
    if (digitIn 8 c).isSome then
      if c = '0' && (zeroFirst || endsOutput) then
        let digits := (rest.take 3).takeWhile fun c => (digitIn 8 c).isSome
        octal digits (rest.drop digits.length)
      else if zeroFirst then some (['\\', c], rest)
      else
        let digits := (text.take 3).takeWhile fun c => (digitIn 8 c).isSome
        octal digits (text.drop digits.length)
    else if !endsOutput && (c = '"' || c = '\'' || c = '?') then some ([c], rest)
    else some (['\\', c], rest)
  | [] => some (['\\'], [])

/-- A text with its escapes read, behind what comes in reverse; `true` if one ends all output. -/
def unescaped (zeroFirst : Bool) : Nat → Octets → Octets → Octets × Bool
  | 0, read, _ => (read.reverse, false)
  | _, read, [] => (read.reverse, false)
  | fuel + 1, read, '\\' :: rest =>
    match escapeIn zeroFirst true rest with
    | none => (read.reverse, true)
    | some (text, rest) => unescaped zeroFirst fuel (text.reverse ++ read) rest
  | fuel + 1, read, c :: rest => unescaped zeroFirst fuel (c :: read) rest

/-- Puts out its arguments with blanks between them. -/
def echo (arguments : List Octets) : Act Nat := do
  let isOption (word : Octets) : Bool :=
    word.head? = some '-' && word.length ≠ 1 && (word.drop 1).all fun c => c = 'n' || c = 'e' || c = 'E'
  let given := (arguments.takeWhile isOption).flatMap (·.drop 1)
  let words := arguments.drop (arguments.takeWhile isOption).length
  let last := (given.filter (· ≠ 'n')).getLast?
  let escapes : Bool := last = some 'e' || (last = none && (← get).extra.switches.contains "xpg_echo")
  let text := joinedBy [' '] words
  let (text, ended) := if escapes then unescaped true (text.length + 1) [] text else (text, false)
  put 0 (if given.contains 'n' || ended then text else text ++ ['\n'])

/-- The words for a text that is no number, which depend on what it begins like. -/
def numberWords (text : Octets) : Octets :=
  let kind := match text with
    | '0' :: 'x' :: _ => "hex "
    | '0' :: c :: _ => if c.isDigit then "octal " else ""
    | _ => ""
  text ++ octets s!": invalid {kind}number"

/-- How the arguments are printed at a time of day. -/
def printing (now : Nat) : Manner where
  precision := .extended
  firstBits := 4
  escape := escapeIn false false
  unescape text := unescaped false (text.length + 1) [] text
  noNumber := numberWords
  more := numberWords
  beyond text := octets "warning: " ++ text ++ octets ": Numerical result out of range"
  useless directive :=
    let back := String.singleton (Char.ofNat 96)
    octets back ++ directive.drop (directive.length - 1) ++ octets "': invalid format character"
  missing directive :=
    let back := String.singleton (Char.ofNat 96)
    octets back ++ directive ++ octets "': missing format character"
  modifiers := ['h', 'j', 'l', 'L', 't', 'z']
  quoting := ['q', 'Q']
  quote := withBackslashes
  silent := ['n']
  time := some fun format argument =>
    let seconds : Int := match argument with
      | none => now / 1000000
      | some text => match numberOf text with
        | some value => if value = -1 || value = -2 then now / 1000000 else value
        | none => 0
    let format := if format = [] then octets "%X" else format
    (Program.Moment.mk seconds 0).written (format.length + 1) format

/-- Formats its arguments, and puts the text out or gives it to a variable. -/
def printf (arguments : List Octets) : Act Nat := do
  match ← options "" "v" arguments with
  | none => return 2
  | some (read, words) =>
    match lastOf read 'v', words with
    | target, words =>
      if target.any fun name => (reference? name).isNone then
        let _ ← wrongName (target.getD [])
        return 2
      else match words with
        | [] => misused
        | format :: rest =>
          let result := printed (printing ((← world).dated.now)) format rest
          let mut status := 0
          let mut text : Octets := []
          for piece in result.printed do
            match piece with
            | .text more => text := text ++ more
            | .complaint words =>
              if !(octets "warning").isPrefixOf words then status := 1
              -- The lines that are complete go out before the complaint.
              if target.isNone && text.contains '\n' then
                let rest := (text.reverse.takeWhile (· ≠ '\n')).reverse
                let one ← put 0 (text.take (text.length - rest.length))
                status := max status one
                text := rest
              complain words
          match target with
          | none => put status text
          | some name => return if ← store name text then status else 1

end Workyard.Shell.Extended.Builtin
