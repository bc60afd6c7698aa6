/-
**Cutting command text into tokens.**

A token is a word, a redirection, an operator or the end of a line. A word is read with its quotes,
parameters and substitutions in layers: each layer has the rules of what it stands in, and a parameter in
braces opens a new one if it brings other rules.

* `readToken`: the next token, where an `inner` reader takes the commands inside words;
* `readDocuments`: the documents that are awaited at the end of a line.
-/

import Workyard.Shell.Source

namespace Workyard.Shell

open Read

/-- The rules by which characters are read. -/
inductive Rules where
  | plain
  | single
  | double
  | arithmetic
deriving DecidableEq, Repr

/-- A layer of a word. -/
structure Layer where
  rules : Rules
  /-- Whether a backslash keeps its meaning only in front of a few characters. -/
  doubled : Bool := false
  /-- The braces that are open. -/
  braces : Nat := 0
  /-- Those of them that were opened in double quotes. -/
  doubledBraces : Nat := 0
  /-- Whether double quotes stand inside braces. -/
  innerQuotes : Bool := false
  /-- Whether the layer ends with its last brace. -/
  ownBrace : Bool := false
  parentheses : Nat := 0
deriving Repr

/-- A stitch of a word being read. -/
inductive Stitch where
  | letter (quoted : Bool) (c : Char)
  /-- Quotes begin or end. -/
  | quotes
  | part (part : Part)

/-- What is open in a word, and the stitches in front of it in reverse. -/
inductive Place where
  | parameter (inQuotes : Bool) (name : String) (operator : Operator) (before : List Stitch)
  | arithmetic (inQuotes : Bool) (before : List Stitch)

/-- A word being read. -/
structure Weave where
  layer : Layer
  outer : List Layer := []
  /-- In reverse. -/
  stitches : List Stitch := []
  places : List Place := []
  /-- Whether anything was quoted. -/
  quoted : Bool := false

/-- Whether a part in quotes stands for any number of arguments. -/
def Part.isSpread : Part → Bool
  | .parameter true name .value [] => name = "@"
  | .member true _ _ _ (.names separately) _ _ => separately
  | .member true _ name [] operator _ _ => name = "@" && operator ≠ .length
  | .member true _ _ [.plain ['@']] operator _ _ => operator ≠ .length
  | _ => false

namespace Stitch

/-- The letters of one kind at the front. -/
def run (quoted : Bool) : List Stitch → List Char
  | .letter other c :: rest => if other = quoted then c :: run quoted rest else []
  | _ => []

/-- The parts that stitches make. Quotes around nothing but a part that stands for any number of arguments
leave no trace. -/
def assemble : Nat → List Stitch → List Part
  | 0, _ => []
  | _, [] => []
  | fuel + 1, .letter quoted c :: rest =>
    let more := run quoted rest
    (if quoted then .quoted (c :: more) else .plain (c :: more)) :: assemble fuel (rest.drop more.length)
  | fuel + 1, .quotes :: .part whole :: .quotes :: rest =>
    if whole.isSpread then whole :: assemble fuel rest
    else .quoted [] :: assemble fuel (.part whole :: .quotes :: rest)
  | fuel + 1, .quotes :: rest => .quoted [] :: assemble fuel rest
  | fuel + 1, .part whole :: rest => whole :: assemble fuel rest

/-- The parts of stitches in reverse. -/
def parts (reversed : List Stitch) : List Part := assemble (reversed.length + 1) reversed.reverse

end Stitch

namespace Weave

/-- Adds a stitch. -/
def add (weave : Weave) (stitch : Stitch) : Weave := { weave with stitches := stitch :: weave.stitches }

/-- Whether the layer at hand quotes. -/
def inQuotes (weave : Weave) : Bool := weave.layer.rules = .double || weave.layer.rules = .single

/-- Adds a character that means nothing. -/
def put (weave : Weave) (c : Char) : Weave := weave.add (.letter weave.inQuotes c)

/-- Opens a layer. -/
def push (weave : Weave) (layer : Layer) : Weave :=
  { weave with layer, outer := weave.layer :: weave.outer }

/-- Closes a layer. -/
def pop (weave : Weave) : Weave :=
  match weave.outer with
  | layer :: outer => { weave with layer, outer }
  | [] => weave

/-- Closes what was opened last. -/
def close (weave : Weave) : Weave :=
  match weave.places with
  | .parameter inQuotes name operator before :: places =>
    { weave with
      stitches := .part (.parameter inQuotes name operator (Stitch.parts weave.stitches)) :: before
      places }
  | .arithmetic inQuotes before :: places =>
    { weave with
      stitches := .part (.arithmetic inQuotes (Stitch.parts weave.stitches)) :: before
      places }
  | [] => weave

end Weave

/-- The parameters named by one sign. -/
def specialNames : List Char := ['@', '*', '#', '?', '-', '$', '!']

/-- Whether a character ends a word. -/
def isBreak (c : Char) : Bool :=
  [' ', '\t', '\n', ';', '&', '|', '<', '>', '(', ')'].contains c

/-- Reads up to a back quote; a backslash in front of certain characters is dropped. -/
def backQuoted (doubled : Bool) : Nat → List Char → Read (List Char)
  | 0, _ => fail "EOF in backquote substitution"
  | fuel + 1, read => do
    joining
    match ← next with
    | none => fail "EOF in backquote substitution"
    | some '`' => return read.reverse
    | some '\\' => match ← next with
      | none => fail "EOF in backquote substitution"
      | some c =>
        if c = '`' || c = '\\' || c = '$' || (doubled && c = '"') then backQuoted doubled fuel (c :: read)
        else backQuoted doubled fuel (c :: '\\' :: read)
    | some c => backQuoted doubled fuel (c :: read)

/-- Reads commands between back quotes. -/
def backQuotedCommand (inner : Read Command) (doubled : Bool) : Read Command := do
  let text ← backQuoted doubled (← fuel) []
  let source ← get
  set { source with rest := text, line := 1, again := false, active := [], awaited := [] }
  let body ← inner
  modify fun after => { after with
    rest := source.rest, line := source.line, again := false, active := source.active
    awaited := source.awaited, wanted := {} }
  return body

/-- Reads the name behind an opening brace, and whether its length is meant. -/
def bracedName : Read (Option String × Bool) := do
  let bound ← fuel
  match ← lookJoined with
  | none => return (none, false)
  | some '#' =>
    let _ ← next
    match ← lookJoined with
    | some c =>
      if isNameStart c then return (some (String.ofList (← takeWhile isNameChar bound [])), true)
      else if c.isDigit then return (some (String.ofList (← takeWhile Char.isDigit bound [])), true)
      else if c = '\x7d' then return (some "#", false)
      else
        -- A sign is measured only if the brace closes right behind it.
        let source ← get
        let _ ← next
        if (← lookJoined) = some '\x7d' then
          return (if specialNames.contains c then some (String.singleton c) else none,
            specialNames.contains c)
        else
          set source
          return (some "#", false)
    | none => return (some "#", false)
  | some c =>
    if isNameStart c then return (some (String.ofList (← takeWhile isNameChar bound [])), false)
    else if c.isDigit then return (some (String.ofList (← takeWhile Char.isDigit bound [])), false)
    else if c = '\x7d' then return (none, false)
    else
      let _ ← next
      return (if specialNames.contains c then some (String.singleton c) else none, false)

/-- Reads what is done with a parameter in braces; `none` if the braces end. -/
def bracedOperator : Read Operator := do
  match ← lookJoined with
  | none => return .invalid
  | some '\x7d' =>
    let _ ← next
    return .value
  | some '%' =>
    let _ ← next
    return .dropBack (← accept '%')
  | some '#' =>
    let _ ← next
    return .dropFront (← accept '#')
  | some c =>
    let _ ← next
    let colon : Bool := c = ':'
    let sign ← if colon then next else pure (some c)
    match sign with
    | some '-' => return .default colon
    | some '=' => return .assign colon
    | some '?' => return .require colon
    | some '+' => return .replace colon
    | _ => return .invalid

/-- Reads what follows a dollar sign. -/
def substitution (inner : Read Command) (weave : Weave) : Read Weave := do
  let inQuotes := weave.inQuotes
  match ← lookJoined with
  | some '(' =>
    let _ ← next
    if ← accept '(' then
      return { weave.push { rules := .arithmetic, doubled := true } with
        places := .arithmetic inQuotes weave.stitches :: weave.places, stitches := [] }
    else
      let source ← get
      set { source with again := false, awaited := [] }
      let body ← inner
      if !(← get).last.isOperator ")" then unexpected (some "\")\"")
      modify fun after => { after with again := false, awaited := source.awaited, wanted := {} }
      return weave.add (.part (.output inQuotes body))
  | some '\x7b' =>
    let _ ← next
    let (name, measured) ← bracedName
    let (operator, closed) : Operator × Bool ← match name, measured with
      | none, _ => pure (.invalid, false)
      | some _, true => do
        let closed ← accept '\x7d'
        pure (if closed then .length else .invalid, closed)
      | some _, false => do
        let operator ← bracedOperator
        pure (operator, operator = .value)
    let name := name.getD ""
    if closed then return weave.add (.part (.parameter inQuotes name operator []))
    else
      let rules : Rules := if operator.takesPattern then .plain
        else if weave.layer.rules = .arithmetic then .double
        else weave.layer.rules
      let weave := { weave with
        places := .parameter inQuotes name operator weave.stitches :: weave.places, stitches := [] }
      let weave := if rules ≠ weave.layer.rules || weave.layer.innerQuotes then
          weave.push { rules, doubled := rules ≠ .plain, ownBrace := true }
        else weave
      return { weave with layer := { weave.layer with
        braces := weave.layer.braces + 1
        doubledBraces := weave.layer.doubledBraces + (if weave.layer.doubled then 1 else 0) } }
  | some c =>
    if isNameStart c then
      let name ← takeWhile isNameChar (← fuel) []
      return weave.add (.part (.parameter inQuotes (String.ofList name) .value []))
    else if c.isDigit || specialNames.contains c then
      let _ ← next
      return weave.add (.part (.parameter inQuotes (String.singleton c) .value []))
    else return weave.put '$'
  | none => return weave.put '$'

/-- Whether a document ends here; uses the line that ends it. -/
def documentEnds (awaited : Awaited) : Read Bool := do
  let source ← get
  let rest := if awaited.dropsTabs then source.rest.dropWhile (· = '\t') else source.rest
  set { source with rest }
  let line := rest.takeWhile (· ≠ '\n')
  if rest ≠ [] && line = awaited.ending then
    set { source with rest := rest.drop (line.length + 1), line := source.line + 1 }
    return true
  else return false

/-- Reads on in a word or in a document. -/
def weaveOn (inner : Read Command) (plainly : Bool) (document : Option Awaited) :
    Nat → Weave → Read Weave
  | 0, _ => fail "Unterminated quoted string"
  | fuel + 1, weave => do
    let on := weaveOn inner plainly document fuel
    let layer := weave.layer
    let rules := layer.rules
    let ahead ← if rules = .single then look else lookJoined
    match ahead with
    | none => return weave
    | some c =>
      if isBreak c && rules = .plain && layer.braces = 0 then return weave
      else
        let _ ← next
        let quotes (weave : Weave) : Weave := if document.isNone then weave.add .quotes else weave
        if c = '\n' then
          let weave := weave.put c
          match document with
          | some awaited => if ← documentEnds awaited then return weave else on weave
          | none => on weave
        else if c = '\\' && rules ≠ .single then
          match ← next with
          | none => on { weave.add (.letter true '\\') with quoted := weave.quoted }
          | some d =>
            let kept : Bool := layer.doubled && d ≠ '\\' && d ≠ '`' && d ≠ '$' &&
              (d ≠ '"' || (document.isSome && layer.braces = 0)) && (d ≠ '\x7d' || layer.braces = 0)
            let weave := if kept then weave.add (.letter true '\\') else weave
            on { weave.add (.letter true d) with quoted := true }
        else if c = '\'' && rules = .plain then
          on (quotes { weave with layer := { layer with rules := .single } })
        else if c = '"' && rules = .plain then
          on (quotes { weave with layer := { layer with
            rules := .double, doubled := true
            innerQuotes := layer.innerQuotes != decide (0 < layer.braces) } })
        else if (c = '"' && rules = .double) || (c = '\'' && rules = .single) then
          if document.isSome && layer.braces = 0 then on (weave.put c)
          else
            let layer := if layer.doubledBraces = 0 then { layer with rules := .plain, doubled := false }
              else layer
            let layer := if c = '"' then { layer with
                innerQuotes := layer.innerQuotes != decide (0 < layer.braces) } else layer
            on (quotes { weave with layer, quoted := true })
        else if rules = .single then on (weave.put c)
        else if c = '$' then
          if plainly then on (weave.put c) else on (← substitution inner weave)
        else if c = '`' then
          if plainly then on (weave.put c)
          else
            let body ← backQuotedCommand inner layer.doubled
            on (weave.add (.part (.output weave.inQuotes body)))
        else if c = '\x7d' && 0 < layer.braces && !layer.innerQuotes then
          let layer := { layer with braces := layer.braces - 1 }
          let weave := weave.close
          if layer.braces = 0 && layer.ownBrace then on { weave with layer }.pop
          else on { weave with layer := { layer with doubledBraces := layer.doubledBraces - 1 } }
        else if c = '(' && rules = .arithmetic then
          on { weave.put c with layer := { layer with parentheses := layer.parentheses + 1 } }
        else if c = ')' && rules = .arithmetic then
          if 0 < layer.parentheses then
            on { weave.put c with layer := { layer with parentheses := layer.parentheses - 1 } }
          else if ← accept ')' then on weave.close.pop
          else on (weave.put c)
        else on (weave.put c)

/-- Refuses a word in which something is still open. -/
def checkClosed (inDocument : Bool) (weave : Weave) : Read Unit := do
  if weave.layer.rules = .arithmetic then fail "Missing '))'"
  if weave.layer.rules ≠ .plain && !inDocument then fail "Unterminated quoted string"
  if 0 < weave.layer.braces then fail "Missing '\x7d'"

/-- Reads the documents that are awaited. -/
def readDocuments (inner : Read Command) : Read Unit := do
  let awaited := (← get).awaited
  modify fun source => { source with awaited := [] }
  for document in awaited do
    let rules : Rules := if document.quoted then .single else .double
    let weave : Weave := { layer := { rules, doubled := !document.quoted } }
    let weave ← if ← documentEnds document then pure weave
      else weaveOn inner false (some document) (← fuel) weave
    checkClosed true weave
    modify fun source => { source with
      documents := (document.number, .quoted [] :: Stitch.parts weave.stitches) :: source.documents }

/-- The text of a part that is neither quoted nor to be replaced. -/
def Part.bare? : Part → Option (List Char)
  | .plain text => some text
  | _ => none

/-- The text of a word in which nothing is quoted or to be replaced. -/
def bareText (word : Word) : Option String :=
  (word.mapM Part.bare?).map fun texts => String.ofList texts.flatten

/-- Steps over blanks and comments. -/
def skipBlanks : Nat → Read Unit
  | 0 => return
  | fuel + 1 => do
    match ← lookJoined with
    | some ' ' | some '\t' => do
      let _ ← next
      skipBlanks fuel
    | some '#' =>
      modify fun source => { source with rest := source.rest.dropWhile (· ≠ '\n') }
    | _ => return

/-- Reads the rest of a redirection, whose first sign is used. -/
def redirection (descriptor : Option Nat) (output : Bool) : Read Token := do
  let token (kind : RedirectKind) (dropsTabs : Bool) : Token :=
    .redirect (descriptor.getD (if output then 1 else 0)) kind dropsTabs
  if output then
    if ← accept '>' then return token .append false
    else if ← accept '|' then return token .clobber false
    else if ← accept '&' then return token .duplicate false
    else return token .output false
  else
    if ← accept '<' then return token .here (← accept '-')
    else if ← accept '&' then return token .duplicate false
    else if ← accept '>' then return token .readWrite false
    else return token .input false

/-- Reads a word, or a redirection with the number in front of it. -/
def wordToken (inner : Read Command) : Read Token := do
  let plainly := (← get).wanted.plainly
  let weave ← weaveOn inner plainly none (← fuel) { layer := { rules := .plain } }
  checkClosed false weave
  let parts := Stitch.parts weave.stitches
  let bare := if weave.quoted then none else bareText parts
  let descriptor? : Option (Option Nat) := match bare.map String.toList with
    | some [] => some none
    | some [c] => if c.isDigit then some (some (c.toNat - '0'.toNat)) else none
    | _ => none
  match ← lookJoined, descriptor? with
  | some '>', some descriptor =>
    let _ ← next
    redirection descriptor true
  | some '<', some descriptor =>
    let _ ← next
    redirection descriptor false
  | _, _ => return .word parts bare

/-- Reads a token from the text. -/
def freshToken (inner : Read Command) : Read Token := do
  skipBlanks (← fuel)
  let double (c : Char) (one two : String) : Read Token := do
    let _ ← next
    return .operator (if ← accept c then two else one)
  match ← lookJoined with
  | none => return .finish
  | some '\n' =>
    let _ ← next
    return .newline
  | some '&' => double '&' "&" "&&"
  | some '|' => double '|' "|" "||"
  | some ';' => double ';' ";" ";;"
  | some '(' =>
    let _ ← next
    return .operator "("
  | some ')' =>
    let _ ← next
    return .operator ")"
  | _ => wordToken inner

/-- Reads the next token or the last one again. -/
def anyToken (inner : Read Command) : Read Token := do
  let source ← get
  if source.again then
    set { source with again := false }
    return source.last
  else
    let before := source.rest.length
    let token ← freshToken inner
    modify fun source =>
      let after := source.rest.length
      let left (active : ActiveAlias) : Bool := active.behind ≤ before && after < active.behind
      let blank := source.active.any fun active => left active && active.endsBlank
      { source with
        last := token
        wanted := { source.wanted with aliases := source.wanted.aliases || blank }
        active := source.active.filter fun active => active.behind ≤ after }
    return token

/-- Reads tokens until one is not the end of a line, if that is wanted. -/
def tokenPastLines (inner : Read Command) : Nat → Read Token
  | 0 => anyToken inner
  | fuel + 1 => do
    match ← anyToken inner, (← get).wanted.pastLines with
    | .newline, true =>
      readDocuments inner
      tokenPastLines inner fuel
    | token, _ => return token

/-- Reads the next token as it is wanted. -/
def readToken (inner : Read Command) : Read Token := do
  go (← fuel)
where
  /-- Reads on, perhaps in the text of an alias. -/
  go : Nat → Read Token
    | 0 => anyToken inner
    | steps + 1 => do
      let token ← tokenPastLines inner (← fuel)
      let source ← get
      let wanted := source.wanted
      match token with
      | .word _ (some bare) =>
        if wanted.reserved && reservedWords.contains bare then
          set { source with wanted := {}, last := .reserved bare }
          return .reserved bare
        else match wanted.aliases, source.aliases.lookup bare with
          | true, some text =>
            if source.active.any fun active => active.name = bare then
              set { source with wanted := {} }
              return token
            else
              set { source with
                rest := text ++ source.rest
                bound := source.bound + 16 * text.length
                active := ⟨bare, source.rest.length,
                  text.getLast? = some ' ' || text.getLast? = some '\t'⟩ :: source.active }
              go steps
          | _, _ =>
            set { source with wanted := {} }
            return token
      | _ =>
        set { source with wanted := {} }
        return token

end Workyard.Shell
