/-
**Words of the extended language.**

A word is read in frames: text between double quotes, what stands behind an operator in braces, a document
and an arithmetic expression each have their own rules of which characters act, and each says where it
ends.

* `stitches`: reads on in a frame;
* `word`: a word, which ends in front of a blank or an operator;
* `assignmentFront`: the name and the place that a word assigns to.
-/

import Workyard.Shell.Pattern
import Workyard.Shell.Token

namespace Workyard.Shell.Extended

open Read

/-- The rules by which characters act. -/
inductive Mode where
  /-- All quotes act. -/
  | bare
  /-- Between double quotes. -/
  | quoted
  /-- Behind an operator in braces between double quotes. -/
  | operand
  /-- In the lines behind a command. -/
  | document
  /-- In an arithmetic expression. -/
  | sum
deriving DecidableEq, Repr

/-- What is read together. -/
structure Frame where
  mode : Mode
  /-- Whether a character that acts ends it. -/
  ends : Char → Bool
  /-- What opens and closes inside it, so that no end counts in between. -/
  nested : Option (Char × Char) := none
  /-- Whether the groups of patterns are read as a part of it. -/
  groups : Bool := false
  /-- Whether names of files by which commands are read can stand in it. -/
  channels : Bool := false

/-- What is wrong with text that ends before what was opened in a line is closed. -/
def openFault (line : Nat) (closing : Char) : Fault :=
  let mark := String.singleton closing
  { line, words := s!"unexpected EOF while looking for matching `{mark}'" }

/-- Stops at text that ends before what was opened in a line is closed. -/
def unclosed {α : Type} (line : Nat) (closing : Char) : Read α := throw (openFault line closing)

/-- The text of the line at hand. -/
def lineText : Read String := do
  return String.ofList ((← get).top.takeWhile (· ≠ '\n'))

/-- The line behind the last one. -/
def lineBehind : Read Nat := do
  let source ← get
  return if source.top = [] then source.line else source.line + 1

/-- Reads up to a character that closes; a backslash takes away the meaning of what follows it if that is
wanted. -/
def upTo (closing : Char) (escapes : Bool) (line : Nat) : Nat → List Char → Read (List Char)
  | 0, _ => unclosed line closing
  | fuel + 1, read => do
    match ← next with
    | none => unclosed line closing
    | some '\\' =>
      if escapes then match ← next with
        | none => unclosed line closing
        | some c => upTo closing escapes line fuel (c :: '\\' :: read)
      else upTo closing escapes line fuel ('\\' :: read)
    | some c => if c = closing then return read.reverse else upTo closing escapes line fuel (c :: read)

/-- The octets of the character with a number, where all characters are octets. -/
def wideCharacter (digits : Nat) (value : Nat) : List Char :=
  if value < 128 then [Char.ofNat value]
  else
    let text := (Nat.toDigits 16 value).map Char.toUpper
    '\\' :: (if digits = 4 then 'u' else 'U') :: List.replicate (digits - text.length) '0' ++ text

/-- The text of a word in which escapes stand for characters. -/
def escaped : Nat → List Char → List Char
  | 0, _ => []
  | _, [] => []
  | fuel + 1, '\\' :: c :: rest =>
    let numbered (base most : Nat) (text : List Char) : Nat × List Char :=
      let digits := (text.take most).takeWhile fun c => (digitIn base c).isSome
      (valueIn base digits, text.drop digits.length)
    let wide (most : Nat) : List Char :=
      let (value, behind) := numbered 16 most rest
      if behind.length = rest.length then '\\' :: c :: escaped fuel rest
      else wideCharacter most value ++ escaped fuel behind
    let letter (d : Char) : List Char := d :: escaped fuel rest
    match c with
    | 'a' => letter '\x07'
    | 'b' => letter '\x08'
    | 'e' => letter '\x1b'
    | 'E' => letter '\x1b'
    | 'f' => letter '\x0c'
    | 'n' => letter '\n'
    | 'r' => letter '\x0d'
    | 't' => letter '\t'
    | 'v' => letter '\x0b'
    | 'x' =>
      let (value, behind) := numbered 16 2 rest
      if behind.length = rest.length then '\\' :: 'x' :: escaped fuel rest
      else if value = 0 then [] else octetChar value :: escaped fuel behind
    | 'u' => wide 4
    | 'U' => wide 8
    | 'c' => match rest with
      | d :: rest => octetChar (d.toUpper.toNat ^^^ 64 &&& 127) :: escaped fuel rest
      | [] => ['\\', 'c']
    | _ =>
      if ['\\', '\'', '"', '?'].contains c then letter c
      else if (digitIn 8 c).isSome then
        let (value, behind) := numbered 8 3 (c :: rest)
        if value % 256 = 0 then [] else octetChar value :: escaped fuel behind
      else '\\' :: c :: escaped fuel rest
  | fuel + 1, c :: rest => c :: escaped fuel rest

/-- Adds letters to stitches. -/
def letters (quoted : Bool) (text : List Char) (read : List Stitch) : List Stitch :=
  (text.map (.letter quoted)).reverse ++ read

/-- Reads a part of the work in another text, with its own lines. -/
def within {α : Type} (text : List Char) (part : Read α) : Read α := do
  let source ← get
  set { source with rest := text, top := text, awaited := [] }
  let result ← part
  modify fun after => { after with
    rest := source.rest, top := source.top, line := source.line, awaited := source.awaited }
  return result

/-- Reads what is done with a parameter in braces, up to what stands behind the operator; none if there is no
such operator. -/
def operator : Read (Option Operator) := do
  match ← next with
  | some '%' => return some (.dropBack (← accept '%'))
  | some '#' => return some (.dropFront (← accept '#'))
  | some '-' => return some (.default false)
  | some '=' => return some (.assign false)
  | some '?' => return some (.require false)
  | some '+' => return some (.replace false)
  | some '^' => return some (.recase .large (← accept '^'))
  | some ',' => return some (.recase .small (← accept ','))
  | some '~' => return some (.recase .other (← accept '~'))
  | some '/' =>
    if ← accept '/' then return some (.substitute .every)
    else if ← accept '#' then return some (.substitute .front)
    else if ← accept '%' then return some (.substitute .back)
    else return some (.substitute .first)
  | some ':' =>
    if ← accept '-' then return some (.default true)
    else if ← accept '=' then return some (.assign true)
    else if ← accept '?' then return some (.require true)
    else if ← accept '+' then return some (.replace true)
    else return some (.slice false)
  | some '@' => match ← next with
    | some letter => return some (.transform letter)
    | none => return none
  | _ => return none

/-- Whether what was read last is a character that can open a group. -/
def behindOpening : List Stitch → Bool
  | .letter false c :: _ => opensGroup c
  | _ => false

/-- Reads the name of a parameter in braces. -/
def parameterName : Read (Option String) := do
  match ← lookJoined with
  | none => return none
  | some c =>
    if isNameStart c then return some (String.ofList (← takeWhile isNameChar (← fuel) []))
    else if c.isDigit then return some (String.ofList (← takeWhile Char.isDigit (← fuel) []))
    else if specialNames.contains c then
      let _ ← next
      return some (String.singleton c)
    else return none

/-- Steps over all up to the brace that closes what is open. -/
def skipBraces (line : Nat) : Nat → Nat → Read Unit
  | 0, _ => unclosed line '\x7d'
  | fuel + 1, depth => do
    match ← next with
    | none => unclosed line '\x7d'
    | some '\x7d' => if depth = 0 then return else skipBraces line fuel (depth - 1)
    | some '\x7b' => skipBraces line fuel (depth + 1)
    | some '\\' => do
      let _ ← next
      skipBraces line fuel depth
    | some '\'' => do
      let _ ← upTo '\'' false line fuel []
      skipBraces line fuel depth
    | some '"' => do
      let _ ← upTo '"' true line fuel []
      skipBraces line fuel depth
    | some _ => skipBraces line fuel depth

mutual

/-- Reads on in a frame, up to its end, which is not used. What was read comes in reverse, and the depth is
that of what is nested. -/
def stitches (inner : Read Command) (frame : Frame) : Nat → Nat → List Stitch → Read (List Stitch)
  | 0, _, read => return read
  | fuel + 1, depth, read => do
    let on (read : List Stitch) : Read (List Stitch) := stitches inner frame fuel depth read
    let quotes : Bool := frame.mode ≠ .bare
    let source ← get
    match source.rest with
    | [] => return read
    | c :: behind =>
      if depth = 0 && frame.ends c && !(frame.channels && (c = '<' || c = '>') && behind.head? = some '(') &&
          !(frame.groups && c = '(' && behindOpening read) then return read
      else
        let _ ← next
        if c = '\\' then
          match ← look, frame.mode with
          | none, _ => on (.letter true '\\' :: read)
          | some '\n', _ =>
            let _ ← next
            on read
          | some d, .bare =>
            let _ ← next
            on (.letter true d :: read)
          | some d, mode =>
            let acts : Bool := d = '$' || d = Char.ofNat 96 || d = '\\' ||
              (d = '"' && mode ≠ .document && mode ≠ .sum) || (d = '\x7d' && mode = .operand)
            if acts then
              let _ ← next
              on (.letter true d :: read)
            else on (.letter true '\\' :: read)
        else if c = '\'' && frame.mode = .bare then
          let text ← upTo '\'' false source.line fuel []
          on (.quotes :: letters true text (.quotes :: read))
        else if c = '"' && frame.mode = .sum then on read
        else if c = '"' && frame.mode ≠ .document then
          let inside ← stitches inner { mode := .quoted, ends := fun c => c = '"' } fuel 0 (.quotes :: read)
          if (← next).isNone then unclosed source.line '"'
          on (.quotes :: inside)
        else if c = '$' then on (← dollar inner quotes fuel read)
        else if c = Char.ofNat 96 then
          let text ← upTo (Char.ofNat 96) true source.line fuel []
          let doubled : Bool := frame.mode = .quoted || frame.mode = .operand
          let body ← within (plainOf doubled text) inner
          on (.part (.output quotes body) :: read)
        else if frame.channels && (c = '<' || c = '>') && behind.head? = some '(' then
          let _ ← next
          let body ← command inner
          on (.part (.channel (c = '<') body) :: read)
        else if frame.groups && c = '(' && (0 < depth || behindOpening read) then
          stitches inner frame fuel (depth + 1) (.letter false c :: read)
        else if frame.groups && c = ')' && 0 < depth then
          stitches inner frame fuel (depth - 1) (.letter false c :: read)
        else
          let read := Stitch.letter quotes c :: read
          match frame.nested with
          | some (opening, closing) =>
            if c = opening then stitches inner frame fuel (depth + 1) read
            else if c = closing then stitches inner frame fuel (depth - 1) read
            else on read
          | none => on read
where
  /-- A text between back quotes as it is read. -/
  plainOf (doubled : Bool) : List Char → List Char
    | '\\' :: c :: rest =>
      if c = '\\' || c = '$' || c = Char.ofNat 96 || (doubled && c = '"') then c :: plainOf doubled rest
      else '\\' :: c :: plainOf doubled rest
    | c :: rest => c :: plainOf doubled rest
    | [] => []
  /-- Reads commands up to a parenthesis. -/
  command (inner : Read Command) : Read Command := do
    let source ← get
    set { source with awaited := [] }
    let body ← inner
    if !(← accept ')') then unclosed (← lineBehind) ')'
    modify fun after => { after with awaited := source.awaited }
    return body

/-- Reads what a dollar sign stands in front of. -/
def dollar (inner : Read Command) (inQuotes : Bool) : Nat → List Stitch → Read (List Stitch)
  | 0, read => return read
  | fuel + 1, read => do
    let source ← get
    let behind := Read.joinLines source.rest
    let parameter (name : String) : Read (List Stitch) :=
      return .part (.parameter inQuotes name .value []) :: read
    let sum (closing : Char) (doubled : Bool) (opening : Char) : Read (Option (List Stitch)) := do
      let inside ← stitches inner
        { mode := .sum, ends := fun c => c = closing, nested := some (opening, closing) } fuel 0 []
      if (← next).isNone then unclosed source.line closing
      if doubled then
        match ← look with
        | none => unclosed source.line closing
        | some c =>
          if c ≠ closing then return none
          else let _ ← next
      return some (.part (.arithmetic inQuotes (Stitch.parts inside)) :: read)
    match behind.1 with
    | [] => return .letter inQuotes '$' :: read
    | c :: more =>
      joining
      if c = '(' then
        let _ ← next
        let opened ← get
        let found ← if more.head? = some '(' then do
            let _ ← next
            sum ')' true '('
          else pure none
        match found with
        | some read => return read
        | none =>
          set { opened with awaited := [] }
          let body ← inner
          let last ← if more.head? = some '(' then pure source.line else lineBehind
          if !(← accept ')') then unclosed last ')'
          modify fun after => { after with awaited := source.awaited }
          return .part (.output inQuotes body) :: read
      else if c = '[' then
        let _ ← next
        return (← sum ']' false '[').getD read
      else if c = '\x7b' then
        let _ ← next
        return .part (← braced inner inQuotes fuel) :: read
      else if c = '\'' && !inQuotes then
        let _ ← next
        let text ← upTo '\'' true source.line fuel []
        return .quotes :: letters true (escaped (text.length + 1) text) (.quotes :: read)
      else if c = '"' && !inQuotes then return read
      else if isNameStart c then parameter (String.ofList (← takeWhile isNameChar fuel []))
      else if c.isDigit || specialNames.contains c then
        let _ ← next
        parameter (String.singleton c)
      else return .letter inQuotes '$' :: read

/-- Reads a parameter behind an opening brace. -/
def braced (inner : Read Command) (inQuotes : Bool) : Nat → Read Part
  | 0 => fail "too deep"
  | fuel + 1 => do
    let source ← get
    let invalid : Read Part := do
      set source
      skipBraces source.line fuel 0
      let text := source.rest.take (source.rest.length - (← get).rest.length)
      return .member inQuotes false (String.ofList ('$' :: '\x7b' :: text)) [] .invalid [] []
    let closes : Read Bool := do return (← lookJoined) = some '\x7d'
    let measured : Bool := source.rest.head? = some '#' &&
      (source.rest.drop 1).head?.any (fun c => c ≠ '\x7d') &&
      !((source.rest.drop 1).head?.any (fun c => !isNameChar c && !specialNames.contains c)) &&
      !(((source.rest.drop 1).head?.any fun c => !isNameChar c) && source.rest[2]? ≠ some '\x7d')
    let indirect : Bool := source.rest.head? = some '!' &&
      (source.rest.drop 1).head?.any fun c => isNameChar c || c = '#' || c = '@' || c = '*'
    if measured || indirect then let _ ← next
    match ← parameterName with
    | none => invalid
    | some name =>
      let index : List Part ← if isName name.toList && (← look) = some '[' then do
          let _ ← next
          let inside ← stitches inner
            { mode := .bare, ends := fun c => c = ']', nested := some ('[', ']') } fuel 0 []
          if (← next).isNone then unclosed source.line '\x7d'
          pure (Stitch.parts inside)
        else pure []
      let plain : Bool := index.isEmpty && !indirect
      let made (operator : Operator) (first second : List Part) : Part :=
        if plain && !isExtended operator then .parameter inQuotes name operator first
        else .member inQuotes indirect name index operator first second
      if ← closes then
        let _ ← next
        return made (if measured then .length else .value) [] []
      else if measured then invalid
      else if indirect && index.isEmpty && isName name.toList &&
          ((← get).rest.take 2 = ['*', '\x7d'] || (← get).rest.take 2 = ['@', '\x7d']) then
        let separately := (← next) = some '@'
        let _ ← next
        return .member inQuotes false name [] (.names separately) [] []
      else
        match ← operator with
        | none => if (← get).rest = [] then unclosed source.line '\x7d' else invalid
        | some (.transform letter) =>
          if ← closes then
            let _ ← next
            return made (.transform letter) [] []
          else invalid
        | some (.slice _) =>
          let part (ends : Char → Bool) : Read (List Part) := do
            return Stitch.parts (← stitches inner { mode := .sum, ends, nested := some ('(', ')') } fuel 0 [])
          let first ← part fun c => c = ':' || c = '\x7d'
          let limited ← accept ':'
          let second ← if limited then part fun c => c = '\x7d' else pure []
          if (← next).isNone then unclosed source.line '\x7d'
          return made (.slice limited) first second
        | some operator =>
          let patterned : Bool := match operator with
            | .dropFront _ => true
            | .dropBack _ => true
            | .substitute _ => true
            | .recase _ _ => true
            | _ => false
          let replaces : Bool := match operator with
            | .substitute _ => true
            | _ => false
          let mode : Mode := if inQuotes && !patterned then .operand else .bare
          let part (ends : Char → Bool) : Read (List Part) := do
            return Stitch.parts (← stitches inner { mode, ends, groups := source.groups } fuel 0 [])
          -- A stroke right behind two others is what is to be replaced.
          let stroke ← if operator = .substitute .every then accept '/' else pure false
          let first ← part fun c => c = '\x7d' || (replaces && c = '/')
          let first := if stroke then .plain ['/'] :: first else first
          let second ← if replaces && (← accept '/') then part fun c => c = '\x7d' else pure []
          if (← next).isNone then unclosed source.line '\x7d'
          return made operator first second
where
  /-- Whether an operator is one of the extended language alone. -/
  isExtended : Operator → Bool
    | .slice _ => true
    | .substitute _ => true
    | .recase _ _ => true
    | .transform _ => true
    | .names _ => true
    | _ => false

end

/-- The frame of a word among others. -/
def wordFrame (groups : Bool) : Frame := { mode := .bare, ends := isBreak, groups, channels := true }

/-- Reads a word, which may go on behind parts that were read. -/
def wordFrom (inner : Read Command) (read : List Stitch) : Read Word := do
  return Stitch.parts (← stitches inner (wordFrame (← get).groups) (← fuel) 0 read)

/-- Reads a word. -/
def word (inner : Read Command) : Read Word := wordFrom inner []

/-- Steps over blanks and comments. -/
def blanks : Nat → Read Unit
  | 0 => return
  | fuel + 1 => do
    match ← lookJoined with
    | some ' ' | some '\t' => do
      let _ ← next
      blanks fuel
    | some '#' => modify fun source => { source with rest := source.rest.dropWhile (· ≠ '\n') }
    | _ => return

/-- Steps over blanks, comments and the ends of lines. -/
def blankLines : Nat → Read Unit
  | 0 => return
  | fuel + 1 => do
    blanks (← Read.fuel)
    if (← look) = some '\n' then
      let _ ← next
      blankLines fuel

/-- The name and the place that the word ahead assigns to, and whether it appends; uses them. -/
def assignmentFront (inner : Read Command) : Read (Option (String × List Part × Bool)) := do
  let source ← get
  if !source.rest.head?.any isNameStart then return none
  else
    let name := String.ofList (source.rest.takeWhile isNameChar)
    let behind := source.rest.drop name.length
    let ending (index : List Part) : Read (Option (String × List Part × Bool)) := do
      match (← get).rest with
      | '=' :: rest =>
        modify fun source => { source with rest }
        return some (name, index, false)
      | '+' :: '=' :: rest =>
        modify fun source => { source with rest }
        return some (name, index, true)
      | _ =>
        set source
        return none
    match behind with
    | '[' :: rest =>
      set { source with rest }
      let inside ← stitches inner
        { mode := .bare, ends := fun c => c = ']', nested := some ('[', ']') } (← fuel) 0 []
      if (← next).isNone then
        set source
        return none
      else ending (.quoted [] :: Stitch.parts inside)
    | _ =>
      set { source with rest := behind }
      ending []

/-- Reads the members of a list up to the parenthesis that closes it. -/
def members (inner : Read Command) (line : Nat) : Nat → List Member → Read (List Member)
  | 0, _ => unclosed line ')'
  | fuel + 1, read => do
    blankLines (← Read.fuel)
    match ← look with
    | none => throw { openFault line ')' with status := 1 }
    | some ')' =>
      let _ ← next
      return read.reverse
    | some '[' =>
      let source ← get
      let _ ← next
      let inside ← stitches inner
        { mode := .bare, ends := fun c => c = ']', nested := some ('[', ']') } (← Read.fuel) 0 []
      let key := Stitch.parts inside
      match (← get).rest with
      | ']' :: '=' :: rest =>
        modify fun source => { source with rest }
        members inner line fuel (.at key false (← word inner) :: read)
      | ']' :: '+' :: '=' :: rest =>
        modify fun source => { source with rest }
        members inner line fuel (.at key true (← word inner) :: read)
      | _ =>
        set source
        plain fuel read
    | some _ => plain fuel read
where
  /-- Reads a member without a key. -/
  plain (fuel : Nat) (read : List Member) : Read (List Member) := do
    let before := (← get).rest.length
    let value ← word inner
    if (← get).rest.length = before then
      let sign := String.singleton ((← look).getD ' ')
      let text ← lineText
      let words := s!"syntax error near unexpected token `{sign}'\n`{text}'"
      throw { line := (← get).line, words, status := 1 }
    else members inner line fuel (.next value :: read)

/-- Reads the assignment ahead, if there is one. -/
def assignment? (inner : Read Command) : Read (Option Assignment) := do
  match ← assignmentFront inner with
  | none => return none
  | some (name, index, appends) =>
    let source ← get
    if source.rest.head? = some '(' then
      let _ ← next
      return some (.mk name index appends [.list (← members inner source.line (← fuel) [])])
    else return some (.mk name index appends (← word inner))

end Workyard.Shell.Extended
