/-
**From words to arguments.**

The parts of a word become glyphs, which remember where they come from: text of the command itself, the
value of something, or anything in quotes. Only values are split at separators, only what is not in
quotes acts in patterns, and quotes make an argument even if nothing is in them. A field that is a pattern
of file names gives the names, if there are any.

* `arguments`: the arguments that words stand for;
* `joined`, `pattern`: a word where one text, or a pattern, is wanted;
* `Assignment.carryOut`: gives a variable the value of a word, or of several.
-/

import Workyard.Shell.Extended.Arithmetic
import Workyard.Shell.Extended.Brace
import Workyard.Shell.Extended.Value

namespace Workyard.Shell

/-- Where a character comes from. -/
inductive Origin where
  | written
  | value
  | quoted
deriving DecidableEq, Repr

/-- A part of an argument to be. -/
inductive Glyph where
  | letter (origin : Origin) (c : Char)
  /-- Quotes, perhaps around nothing. -/
  | quotes
  /-- The border between the members of a list. -/
  | border
deriving DecidableEq, Repr

/-- What carries out the commands inside words. -/
structure Capture where
  /-- Gives what commands write. -/
  output : Command → Act Octets
  /-- Starts commands and gives the name of a file by which they are read from or written to. -/
  channel : Bool → Command → Act Octets

/-! ### Values of variables -/

/-- A value as a variable takes it: one that counts takes the value of an expression. -/
def counted (name : String) (text : Octets) : Act Octets := do
  let shell ← get
  if shell.extended && (shell.held (shell.actual name)).any (·.marks.contains 'i') then
    return (toString (← Extended.evaluate text)).toList
  else return text

/-- Gives a variable a value. -/
def assign (name : String) (text : Octets) : Act Unit := do keep name (← counted name text)

/-- Gives a member of a list a value. -/
def assignMember (name : String) (key text : Octets) : Act Unit := do
  keepMember name key (← counted name text)

/-- Puts a text behind a value; to one that counts, the value of an expression is added. -/
def extendedValue (name : String) (before : Option Octets) (text : Octets) : Act Octets := do
  let shell ← get
  if (shell.held (shell.actual name)).any (·.marks.contains 'i') then
    let first ← Extended.evaluate (before.getD [])
    let second ← Extended.evaluate text
    return (toString (wrapped (first + second))).toList
  else return before.getD [] ++ text

/-- Gives a variable a list; each value may have a key, and may be put behind the one that is there. -/
def assignList (name : String) (appends : Bool) (values : List (Option Octets × Bool × Octets)) :
    Act Unit := do
  let shell ← get
  let name := shell.actual name
  let held := (shell.held name).getD { text := none, exported := shell.options.contains 'a' }
  if held.fixed then refuseFixed name
  let shape : Shape := if held.shape = .table then .table else .row
  let start := held.withMembers shape (if appends then held.entries else [])
  putVariable name (some { start with marks := '=' :: start.marks.filter (· ≠ '=') })
  if shape = .table && values.all (·.1.isNone) then pairs name values
  else row name (if appends then held.behind else 0) values
where
  /-- Keys and values in turn. -/
  pairs (name : String) : List (Option Octets × Bool × Octets) → Act Unit
    | (_, _, key) :: (_, _, text) :: rest => do
      assignMember name key text
      pairs name rest
    | [(_, _, key)] => assignMember name key []
    | [] => return
  /-- Values with numbers, from one on. -/
  row (name : String) (index : Nat) : List (Option Octets × Bool × Octets) → Act Unit
    | [] => return
    | (key, appended, text) :: rest => do
      let place ← match key with
        | some key => Extended.memberKey name key
        | none => pure (decimal index)
      let before := (((← get).held name).bind (·.entries.lookup place))
      let text ← if appended then extendedValue name before text else pure text
      assignMember name place text
      row name (valueIn 10 place + 1) rest

/-! ### Glyphs -/

/-- The glyphs of a value. -/
def valueGlyphs (inQuotes : Bool) (text : Octets) : List Glyph :=
  text.map (.letter (if inQuotes then .quoted else .value))

/-- The glyphs of a list of values. -/
def listGlyphs (inQuotes : Bool) (values : List Octets) : List Glyph :=
  let each := values.map fun text =>
    (if inQuotes then [Glyph.quotes] else []) ++ valueGlyphs inQuotes text
  (each.intersperse [.border]).flatten

/-- The text of glyphs, with blanks between the members of a list. -/
def glyphText (glyphs : List Glyph) : Octets :=
  glyphs.flatMap fun glyph => match glyph with
    | .letter _ c => [c]
    | .border => [' ']
    | _ => []

/-- Removes what a pattern stands for at the front or at the back. -/
def trimmed (front longest : Bool) (pattern : Pattern) (text : Octets) : Octets :=
  if front then match pattern.matchFront longest text with
    | some count => text.drop count
    | none => text
  else match pattern.matchBack longest text with
    | some count => text.take (text.length - count)
    | none => text

/-- What is read in the patterns of a shell. -/
def State.patternRules (shell : State) : PatternRules where
  groups := shell.extended && shell.extra.switches.contains "extglob"
  caret := shell.extended

/-- The pattern of characters, each with whether it acts in it. -/
def markedPattern (rules : PatternRules) (marked : List (Char × Bool)) : Pattern :=
  Pattern.ofMarked rules (marked.length + 1) marked

/-- The characters of glyphs, each with whether it acts. -/
def markedGlyphs (glyphs : List Glyph) : List (Char × Bool) :=
  glyphs.filterMap fun glyph => match glyph with
    | .letter origin c => some (c, decide (origin ≠ .quoted))
    | _ => none

/-- The pattern of glyphs. -/
def glyphPattern (rules : PatternRules) (glyphs : List Glyph) : Pattern :=
  markedPattern rules (markedGlyphs glyphs)

/-- Evaluates an arithmetic text. -/
def calculate (text : Octets) : Act Int := do
  let shell ← get
  if shell.extended then Extended.evaluate text
  else
    let bindings := shell.bindings.filterMap fun entry => entry.2.text.map (entry.1, ·)
    match Arithmetic.evaluate bindings text with
    | .error fault => refuse (fault.message text)
    | .ok (value, after) =>
      for (name, text) in (after.take (after.length - bindings.length)).reverse do
        assign name text
      return value

/-- The home of an account. -/
def accountHome (tree : Files.Tree) (name : Octets) : Option Octets :=
  match tree.read "/etc/passwd" with
  | .error _ => none
  | .ok content => ((bareLinesOf (ofNumbers content)).map (·.splitOn ':')).findSome? fun fields =>
    if fields.head? = some name then fields[5]? else none

/-- The directory to go back to that a number stands for, which counts from the last one behind a minus
sign. -/
def State.directory (shell : State) (name : Octets) : Option Octets :=
  let all := shell.place :: shell.extra.directories
  match name with
  | '-' :: digits => all.reverse[valueIn 10 digits]?
  | '+' :: digits => all[valueIn 10 digits]?
  | digits => all[valueIn 10 digits]?

/-- The directory that a tilde at the front of a text stands for, and the text behind its name. What
follows the text, if anything does, belongs to the name. -/
def tilde? (inAssignment : Bool) (text : Octets) (followed : Bool) : Act (Option (Octets × Octets)) := do
  match text with
  | '~' :: rest =>
    let name := rest.takeWhile fun c => c ≠ '/' && !(inAssignment && c = ':')
    let behind := rest.drop name.length
    if behind = [] && followed then return none
    else
      let shell ← get
      let home ← if name = [] then pure ((shell.value "HOME").or (if shell.extended then some (octets "/root") else none))
        else if shell.extended && name = ['+'] then pure (shell.value "PWD")
        else if shell.extended && name = ['-'] then pure (shell.value "OLDPWD")
        else if shell.extended && isDigits (if name.head? = some '+' || name.head? = some '-' then name.drop 1 else name) then
          pure (shell.directory name)
        else pure (accountHome (← tree) name)
      return home.map (·, behind)
  | _ => return none

/-- The glyphs of text that stands for itself, in which a tilde may stand for a directory. -/
def writtenGlyphs (inAssignment : Bool) (followed : Bool) : Nat → Bool → Octets → Act (List Glyph)
  | 0, _, text => return text.map (.letter .written)
  | fuel + 1, atFront, text => do
    let (home, text) ← if atFront then do
        match ← tilde? inAssignment text followed with
        | some (home, behind) => pure (valueGlyphs true home, behind)
        | none => pure ([], text)
      else pure ([], text)
    if inAssignment then
      let before := text.takeWhile (· ≠ ':')
      match text.drop before.length with
      | [] => return home ++ before.map (.letter .written)
      | _ :: behind =>
        let rest ← writtenGlyphs inAssignment followed fuel true behind
        return home ++ before.map (.letter .written) ++ .letter .written ':' :: rest
    else return home ++ text.map (.letter .written)

/-- The value of a parameter; taking a number by chance uses it up. -/
def parameterText (name : String) : Act (Option Octets) := do
  let shell ← get
  if shell.extended && name = "RANDOM" then
    modify fun shell => { shell with extra := { shell.extra with seed := nextSeed shell.extra.seed } }
  return shell.parameter name

/-- What a part of a variable stands for. -/
def standing (name : String) (which : Extended.Which) : Act Extended.Standing := do
  let shell ← get
  let positional := shell.positional.zipIdx.map fun (text, index) => (decimal (index + 1), text)
  match which with
  | .whole =>
    if name = "@" || name = "*" then return .values (name = "@") positional
    else return .value (← parameterText name)
  | .all separately => return .values separately (((shell.found name).map (·.entries)).getD [])
  | .at key =>
    let key ← Extended.memberKey name key
    return .value ((shell.found name).bind (·.entries.lookup key))

/-- The glyphs of values, which are given separately or together. -/
def valuesGlyphs (shell : State) (inQuotes separately : Bool) (values : List Octets) : List Glyph :=
  if inQuotes && !separately then
    let separator := match shell.value "IFS" with
      | some (c :: _) => [c]
      | some [] => []
      | none => [' ']
    valueGlyphs true (values.intersperse separator).flatten
  else listGlyphs inQuotes values

/-- The glyphs of what a parameter stands for. -/
def Extended.Standing.glyphs (shell : State) (inQuotes : Bool) : Extended.Standing → List Glyph
  | .value text => valueGlyphs inQuotes (text.getD [])
  | .values separately entries => valuesGlyphs shell inQuotes separately (entries.map (·.2))

/-- What a parameter stands for, each value being changed. -/
def Extended.Standing.map (change : Octets → Octets) : Extended.Standing → Extended.Standing
  | .value text => .value (text.map change)
  | .values separately entries => .values separately (entries.map fun entry => (entry.1, change entry.2))

/-- Text that stands in for a value is split like one. -/
def asValue (glyphs : List Glyph) : List Glyph :=
  glyphs.map fun glyph => match glyph with
    | .letter .written c => .letter .value c
    | other => other

/-- What glyphs put for a match: a sign that is not quoted stands for the match itself. -/
def replacementText (glyphs : List Glyph) (matched : Octets) : Octets :=
  glyphs.flatMap fun glyph => match glyph with
    | .letter origin c => if c = '&' && origin ≠ .quoted then matched else [c]
    | .border => [' ']
    | .quotes => []

/-- The part of what a parameter stands for from a place on. -/
def slice (name : String) (lengthText : Octets) (start : Int) (length : Option Int)
    (standing : Extended.Standing) : Act Extended.Standing := do
  let negative {α : Type} : Act α := refuse (lengthText ++ octets ": substring expression < 0")
  let title := (← get).title
  match standing with
  | .value text =>
    let text := text.getD []
    match Extended.span text.length start length with
    | some (front, count) => return .value (some ((text.drop front).take count))
    | none => negative
  | .values separately entries =>
    let positional : Bool := name = "@" || name = "*"
    let entries := if positional && 0 ≤ start then (['0'], title) :: entries else entries
    let behind : Int := if positional then entries.length + (if 0 ≤ start then 0 else 1)
      else entries.foldl (fun most entry => max most (valueIn 10 entry.1 + 1)) 0
    let start := if start < 0 then start + behind else start
    if start < 0 then return .values separately []
    else
      let rest := entries.filter fun entry => start ≤ (valueIn 10 entry.1 : Int)
      match length with
      | none => return .values separately rest
      | some length => if length < 0 then negative else return .values separately (rest.take length.toNat)

/-- What shows or declares a parameter as a letter says. -/
def transformation (letter : Char) (name : String) (which : Extended.Which)
    (standing : Extended.Standing) : Act (Option Extended.Standing) := do
  let shell ← get
  let held := shell.found name
  let letters := (held.map Extended.Variable.letters).getD []
  match letter, standing with
  | 'a', .value _ => return some (.value (some letters))
  | 'a', .values separately entries => return some (.values separately (entries.map fun entry => (entry.1, letters)))
  | 'A', .value text =>
    let front := if letters = [] then [] else octets "declare -" ++ letters ++ [' ']
    return some (.value (text.map fun text =>
      front ++ octets name ++ '=' :: Extended.quotedAlways text))
  | 'A', .values separately _ =>
    match which, held with
    | .all _, some held => return some (.values separately [(['0'], Extended.declaration name held)])
    | _, _ =>
      let words := shell.positional.map Extended.quotedAlways
      return some (.values separately [(['0'], octets "set -- " ++ joinedBy [' '] words)])
  | 'K', .values separately entries =>
    let shown := entries.map fun (key, text) =>
      Extended.shownKey ((held.map (·.shape)).getD .row) key ++ ' ' :: Extended.declaredValue text
    return some (.values separately [(['0'], joinedBy [' '] shown)])
  | 'k', .values separately entries =>
    return some (.values separately (entries.flatMap fun (key, text) => [(key, key), (key, text)]))
  | _, standing =>
    return (Extended.transformed letter []).map fun _ =>
      standing.map fun text => (Extended.transformed letter text).getD []

/-- The parameter that the value of another one names. -/
def referred (name : String) (which : Extended.Which) : Act (String × Extended.Which) := do
  match ← standing name which with
  | .value (some text) => match Extended.reference? text with
    | some found => return found
    | none =>
      if text = [] then refuse (octets s!"{name}: invalid indirect expansion")
      else refuse (text ++ octets ": invalid variable name")
  | _ => refuse (octets s!"{name}: invalid indirect expansion")

mutual

/-- The glyphs of the parts of a word; at its front a tilde may stand for a directory. -/
def glyphs (capture : Capture) (inAssignment : Bool) : Bool → List Part → Act (List Glyph)
  | _, [] => return []
  | atFront, part :: rest => do
    let first ← partGlyphs capture inAssignment atFront (!rest.isEmpty) part
    return first ++ (← glyphs capture inAssignment false rest)

/-- The glyphs of a part. -/
def partGlyphs (capture : Capture) (inAssignment atFront followed : Bool) : Part → Act (List Glyph)
  | .plain text => writtenGlyphs inAssignment followed (text.length + 1) atFront text
  | .quoted text => return .quotes :: text.map (.letter .quoted)
  | .output inQuotes body => do return valueGlyphs inQuotes (← capture.output body)
  | .channel reads body => do return valueGlyphs true (← capture.channel reads body)
  | .list _ => return []
  | .arithmetic inQuotes expression => do
    let text := glyphText (← glyphs capture false false expression)
    return valueGlyphs inQuotes (toString (← calculate text)).toList
  | .parameter inQuotes name operator operand => do
    let isList : Bool := name = "@" || name = "*"
    let value ← if isList then pure none else parameterText name
    let shell ← get
    let own : List Glyph := if isList then valuesGlyphs shell inQuotes (name = "@") shell.positional
      else valueGlyphs inQuotes (value.getD [])
    let isSet : Bool := isList || value.isSome
    let isThere (colon : Bool) : Bool := isSet && !(colon && glyphText own = []) &&
      !(shell.extended && isList && shell.positional = [])
    match operator with
    | .value =>
      if !isSet then checkSet name
      return own
    | .length =>
      if !isSet then checkSet name
      return valueGlyphs inQuotes (decimal (if shell.extended && isList then shell.positional.length
        else (glyphText own).length))
    | .default colon =>
      if isThere colon then return own else asValue <$> glyphs capture false true operand
    | .replace colon =>
      if isThere colon then asValue <$> glyphs capture false true operand else return []
    | .assign colon =>
      if isThere colon then return own
      else
        let text := glyphText (← glyphs capture false true operand)
        if isName name.toList then
          assign name text
          return valueGlyphs inQuotes text
        else if shell.extended then refuse (octets s!"${name}: cannot assign in this way")
        else refuse (octets s!"{name}: bad variable name")
    | .require colon =>
      if isThere colon then return own
      else missing name colon (glyphText (← glyphs capture false true operand))
    | .dropFront longest =>
      if !isSet then checkSet name
      let pattern := glyphPattern shell.patternRules (← glyphs capture false true operand)
      return changed shell inQuotes isList own (trimmed true longest pattern)
    | .dropBack longest =>
      if !isSet then checkSet name
      let pattern := glyphPattern shell.patternRules (← glyphs capture false true operand)
      return changed shell inQuotes isList own (trimmed false longest pattern)
    | _ => refuse (octets "Bad substitution")
  | .member inQuotes indirect name index operator first second => do
    match operator with
    | .invalid => refuse (octets s!"{name}: bad substitution")
    | .names separately =>
      let shell ← get
      return valuesGlyphs shell inQuotes separately (Extended.namesFrom shell name)
    | operator =>
      let which : Extended.Which ← match index with
        | [] => pure .whole
        | [.plain ['@']] => pure (.all true)
        | [.plain ['*']] => pure (.all false)
        | index => do pure (.at (glyphText (← glyphs capture false false index)))
      let target : Option Octets := match which, indirect, (← get).held name with
        | .whole, true, some held => if held.marks.contains 'n' then held.text else none
        | _, _, _ => none
      if let some target := target then return valueGlyphs inQuotes target
      let keys : Option Bool := match which, operator, indirect with
        | .all separately, .value, true => some separately
        | _, _, _ => none
      match keys with
      | some separately =>
        let shell ← get
        let entries := ((shell.found name).map (·.entries)).getD []
        return valuesGlyphs shell inQuotes separately (entries.map (·.1))
      | none =>
        let (name, which) ← if indirect then referred name which else pure (name, which)
        let own ← standing name which
        let shell ← get
        let label := match which with
          | .at key => name ++ "[" ++ spelled key ++ "]"
          | _ => name
        let isSet : Bool := match own with
          | .value text => text.isSome
          | .values _ entries => !entries.isEmpty
        let text := glyphText (own.glyphs shell false)
        let isThere (colon : Bool) : Bool := isSet && !(colon && text = [])
        let minds : Bool := match own with
          | .value none => true
          | _ => false
        match operator with
        | .value =>
          if minds then checkSet label
          return own.glyphs shell inQuotes
        | .length =>
          if minds then checkSet label
          match own with
          | .value text => return valueGlyphs inQuotes (decimal (text.getD []).length)
          | .values _ entries => return valueGlyphs inQuotes (decimal entries.length)
        | .default colon =>
          if isThere colon then return own.glyphs shell inQuotes
          else asValue <$> glyphs capture false true first
        | .replace colon =>
          if isThere colon then asValue <$> glyphs capture false true first else return []
        | .assign colon =>
          if isThere colon then return own.glyphs shell inQuotes
          else
            let text := glyphText (← glyphs capture false true first)
            match which with
            | .whole => assign name text
            | .at key => assignMember name (← Extended.memberKey name key) text
            | .all _ => refuse (octets s!"{label}: cannot assign in this way")
            return valueGlyphs inQuotes text
        | .require colon =>
          if isThere colon then return own.glyphs shell inQuotes
          else missing label colon (glyphText (← glyphs capture false true first))
        | .dropFront longest =>
          if minds then checkSet label
          let pattern := glyphPattern shell.patternRules (← glyphs capture false true first)
          return (own.map (trimmed true longest pattern)).glyphs shell inQuotes
        | .dropBack longest =>
          if minds then checkSet label
          let pattern := glyphPattern shell.patternRules (← glyphs capture false true first)
          return (own.map (trimmed false longest pattern)).glyphs shell inQuotes
        | .slice limited =>
          if minds then
            checkSet label
            return []
          else
            let label := match which with
              | .all separately => label ++ (if separately then "[@]" else "[*]")
              | _ => label
            let text := glyphText (← glyphs capture false false first)
            let start ← during (octets label) (calculate text)
            let lengthText := glyphText (← glyphs capture false false second)
            let length ← if limited then some <$> during (octets label) (calculate lengthText) else pure none
            return (← slice name lengthText start length own).glyphs shell inQuotes
        | .substitute occurrence =>
          if minds then checkSet label
          let pattern := glyphPattern shell.patternRules (← glyphs capture false true first)
          let replacement := replacementText (← glyphs capture false true second)
          return (own.map (Extended.substituted occurrence pattern replacement)).glyphs shell inQuotes
        | .recase letters every =>
          if minds then checkSet label
          let pattern := glyphPattern shell.patternRules (← glyphs capture false true first)
          return (own.map (Extended.recased letters every pattern)).glyphs shell inQuotes
        | .transform letter =>
          if minds then checkSet label
          match ← transformation letter name which own with
          | some shown => return shown.glyphs shell inQuotes
          | none =>
            let letter := String.singleton letter
            abandon (octets ("$\x7b" ++ label ++ "@" ++ letter ++ "\x7d: bad substitution"))
        | _ => refuse (octets s!"{label}: bad substitution")
where
  /-- Complains about a parameter that is missing. -/
  missing (name : String) (colon : Bool) (words : Octets) : Act (List Glyph) := do
    let shell ← get
    let words := if words ≠ [] then words
      else if !colon then octets "parameter not set"
      else if shell.extended then octets "parameter null or not set"
      else octets "parameter not set or null"
    if shell.extended then abandon (octets s!"{name}: " ++ words) else refuse (octets s!"{name}: " ++ words)
  /-- The glyphs of a value that is changed, or of each value of a list. -/
  changed (shell : State) (inQuotes isList : Bool) (own : List Glyph) (change : Octets → Octets) :
      List Glyph :=
    if isList && shell.extended then valuesGlyphs shell inQuotes true (shell.positional.map change)
    else valueGlyphs inQuotes (change (glyphText own))

end

/-! ### Fields -/

/-- A field: its characters, each with whether it acts in a pattern. -/
abbrev Field := List (Char × Bool)

/-- Fields being cut. -/
structure Cutting where
  /-- The finished fields, newest first. -/
  fields : List Field := []
  /-- The field at hand in reverse. -/
  field : Field := []
  /-- Whether the field at hand is one even if it is empty. -/
  begun : Bool := false
  /-- Whether blanks ended the last field. -/
  afterBlank : Bool := false

namespace Cutting

/-- Finishes the field at hand. -/
def finish (state : Cutting) (always : Bool) : Cutting :=
  let real : Bool := state.field ≠ [] || state.begun || always
  { fields := if real then state.field.reverse :: state.fields else state.fields }

/-- Goes on with a glyph. -/
def step (separators : Octets) (state : Cutting) (glyph : Glyph) : Cutting :=
  match glyph with
  | .quotes => { state with begun := true, afterBlank := false }
  | .border => state.finish false
  | .letter .value c =>
    if separators.contains c then
      if isSpace c then { state.finish false with afterBlank := state.afterBlank || state.field ≠ [] }
      else if state.afterBlank then { state with afterBlank := false }
      else state.finish true
    else { state with field := (c, true) :: state.field, begun := true, afterBlank := false }
  | .letter origin c =>
    { state with
      field := (c, decide (origin ≠ .quoted)) :: state.field, begun := true, afterBlank := false }

/-- The fields of glyphs. -/
def run (separators : Octets) (glyphs : List Glyph) : List Field :=
  ((glyphs.foldl (step separators) {}).finish false).fields.reverse

end Cutting

/-! ### Names of files -/

/-- The text of a field. -/
def Field.text (field : Field) : Octets := field.map (·.1)


/-- The text of a field in which a backslash keeps what follows it. -/
def Field.unescaped : Field → Octets
  | ('\\', true) :: (c, _) :: rest => c :: unescaped rest
  | (c, _) :: rest => c :: unescaped rest
  | [] => []

/-- The pieces of a field between slashes. -/
def Field.pieces (field : Field) : List Field :=
  match field with
  | [] => [[]]
  | ('/', _) :: rest => [] :: pieces rest
  | c :: rest => match pieces rest with
    | [] => [[c]]
    | first :: more => (c :: first) :: more

/-- How names of files are matched. -/
structure Globbing where
  rules : PatternRules := {}
  /-- Whether names that start with a point are matched like others. -/
  hidden : Bool := false
  /-- Whether large and small letters are the same. -/
  folds : Bool := false
  /-- Whether two stars stand for any number of directories. -/
  deep : Bool := false
  /-- Whether the directory itself and the one around it have names. -/
  dots : Bool := true

/-- The way in which a shell matches names of files. -/
def State.globbing (shell : State) : Globbing where
  rules := shell.patternRules
  hidden := shell.extra.switches.contains "dotglob"
  folds := shell.extra.switches.contains "nocaseglob"
  deep := shell.extra.switches.contains "globstar"
  dots := !shell.extended

/-- Whether a field may be a pattern. -/
def Field.isPattern (how : Globbing) (field : Field) : Bool :=
  (field.any fun c => c.2 && (c.1 = '*' || c.1 = '?' || c.1 = '[')) ||
    (how.rules.groups && (field.zip (field.drop 1)).any fun (c, next) =>
      c.2 && opensGroup c.1 && next = ('(', true))

namespace Globbing

/-- The names in the directory at a front that a piece stands for. -/
def entries (how : Globbing) (tree : Files.Tree) (front : Octets) (piece : Field) : List Octets :=
  let place := spelled (if front = [] then ['.'] else front)
  match tree.find place, tree.locate place with
  | .ok ⟨.directory, _, _⟩, .ok location =>
    let folded (name : Octets) : Octets := if how.folds then name.map Char.toLower else name
    let pattern := markedPattern how.rules
      (if how.folds then piece.map fun c => (c.1.toLower, c.2) else piece)
    let pointed : Bool := (piece.head?.map (·.1)) = some '.' ||
      (piece.take 2).map (·.1) = ['\\', '.']
    let names := (if how.dots then [".", ".."] else []) ++ tree.children location.path
    (names.map octets).filterMap fun name =>
      if (name.head? = some '.' && !pointed && !how.hidden) || !pattern.matches (folded name) then none
      else some (front ++ name)
  | _, _ => []

/-- The names of what is in a directory and in those inside it, directories alone or all. -/
def below (how : Globbing) (tree : Files.Tree) (onlyDirectories : Bool) : Nat → Octets → List Octets
  | 0, _ => []
  | fuel + 1, front =>
    (entries how tree front [('*', true)]).flatMap fun name =>
      match tree.find (spelled name) false with
      | .ok ⟨.directory, _, _⟩ => name :: below how tree onlyDirectories fuel (name ++ ['/'])
      | _ => if onlyDirectories then [] else [name]

/-- The names that pieces of a pattern stand for, behind a name that is there. -/
def names (how : Globbing) (tree : Files.Tree) : Octets → List Field → List Octets
  | _, [] => []
  | front, [last] =>
    if how.deep && last = [('*', true), ('*', true)] then below how tree false 100 front
    else if last.isPattern how then entries how tree front last
    else
      let name := front ++ Field.unescaped last
      if (tree.find (spelled name) false).toBool then [name] else []
  | front, piece :: rest =>
    if how.deep && piece = [('*', true), ('*', true)] then
      names how tree front rest ++
        (below how tree true 100 front).flatMap fun name => names how tree (name ++ ['/']) rest
    else if piece.isPattern how then
      (entries how tree front piece).flatMap fun name => names how tree (name ++ ['/']) rest
    else names how tree (front ++ Field.unescaped piece ++ ['/']) rest

end Globbing

/-- The arguments that a field stands for. -/
def fieldArguments (field : Field) : Act (List Octets) := do
  let shell ← get
  let how := shell.globbing
  if field.isPattern how && !shell.options.contains 'f' then
    match how.names (← tree) [] field.pieces with
    | [] =>
      if !shell.extended then return [field.text]
      else if shell.extra.switches.contains "nullglob" then return []
      else if shell.extra.switches.contains "failglob" then
        refuse (octets "no match: " ++ field.text)
      else return [field.text]
    | names => return names.mergeSort fun first second => byOctets first second ≠ .gt
  else return [field.text]

/-- The builtins of which an argument may assign, as a word in front of a command does. -/
def State.assigningBuiltins (shell : State) : List String :=
  if shell.extended then ["declare", "typeset", "local", "export", "readonly"]
  else ["export", "readonly", "local", "alias"]

/-- The value of a word that assigns. -/
def assignedText (capture : Capture) (word : Word) : Act Octets := do
  return glyphText (← glyphs capture true true word)

/-- The front of a word that looks like an assignment, and the value behind it. -/
def assigningWord? : Word → Option (Octets × Word)
  | .plain text :: rest =>
    let name := text.takeWhile (· ≠ '=')
    let bare := if name.getLast? = some '+' then name.dropLast else name
    if isName bare && name.length < text.length then
      let value := text.drop (name.length + 1)
      some (name ++ ['='], if value = [] then rest else .plain value :: rest)
    else none
  | _ => none

/-- The arguments that a word stands for, no more words being made of it. -/
def plainArguments (capture : Capture) (word : Word) : Act (List Octets) := do
  let shell ← get
  let glyphs ← match shell.extended, assigningWord? word with
    | true, some (front, value) => do
      pure (front.map (.letter .written) ++ (← glyphs capture true true value))
    | _, _ => glyphs capture false true word
  let fields := Cutting.run (← get).separators glyphs
  return (← fields.mapM fieldArguments).flatten

/-- The values of the members of a list. -/
def memberValues (capture : Capture) : List Member → Act (List (Option Octets × Bool × Octets))
  | [] => return []
  | .next word :: rest => do
    let words ← (Extended.alternatives word).mapM (plainArguments capture)
    return words.flatten.map (none, false, ·) ++ (← memberValues capture rest)
  | .at key appends value :: rest => do
    let key := glyphText (← glyphs capture false false key)
    let text ← assignedText capture value
    return (some key, appends, text) :: (← memberValues capture rest)

/-- What stands in front of the text of a list that an argument assigns. -/
def listMark : Char := '\x01'

/-- The values of the members of a list as a text from which they can be read again. -/
def valuesText (values : List (Option Octets × Bool × Octets)) : Octets :=
  let shown := values.map fun (key, appends, text) =>
    (match key with
    | some key => '[' :: Extended.inSingle key ++ (if appends then octets "]+=" else octets "]=")
    | none => []) ++ Extended.inSingle text
  '(' :: joinedBy [' '] shown ++ [')']

/-- The arguments that a word stands for. -/
def wordArguments (capture : Capture) (assigns : Bool) (word : Word) : Act (List Octets) := do
  match assigns, assigningWord? word with
  | true, some (front, [.list members]) =>
    return [front ++ listMark :: valuesText (← memberValues capture members)]
  | true, some (front, value) => return [front ++ (← assignedText capture value)]
  | _, _ => plainArguments capture word

/-- The arguments that words stand for, of which the first may say how the others are read. -/
def arguments (capture : Capture) (words : List Word) : Act (List Octets) := do
  let shell ← get
  let words := if shell.extended then words.flatMap Extended.alternatives else words
  go shell.assigningBuiltins false [] words
where
  /-- Reads on behind arguments, which come in reverse. -/
  go (assigning : List String) (assigns : Bool) (read : List Octets) : List Word → Act (List Octets)
    | [] => return read.reverse
    | word :: rest => do
      let more ← wordArguments capture assigns word
      let read := more.reverse ++ read
      let assigns : Bool := assigns || (match read.reverse.filter (· ≠ octets "command") with
        | name :: _ => assigning.contains (spelled name)
        | [] => false)
      go assigning assigns read rest

/-- The one text that a word stands for. -/
def joined (capture : Capture) (word : Word) : Act Octets := do
  return glyphText (← glyphs capture false true word)

/-- The pattern that a word stands for. -/
def pattern (capture : Capture) (word : Word) : Act Pattern := do
  let glyphs ← glyphs capture false true word
  return glyphPattern (← get).patternRules glyphs

/-- Gives a variable what an assignment says; gives the text that its value was made of, unless that was a
list. -/
def Assignment.carryOut (capture : Capture) : Assignment → Act Octets
  | .mk name [] appends [.list members] => do
    assignList name appends (← memberValues capture members)
    return []
  | .mk name [] false value => do
    let text ← assignedText capture value
    assign name text
    return text
  | .mk name [] true value => do
    let text ← assignedText capture value
    keep name (← extendedValue name ((← get).value name) text)
    return text
  | .mk name index appends value => do
    let key := glyphText (← glyphs capture false false index)
    let text ← assignedText capture value
    if key = [] || key = ['@'] || key = ['*'] then
      refuse (octets s!"{name}[" ++ key ++ octets "]: bad array subscript")
    let key ← Extended.memberKey name key
    let before := ((← get).found name).bind (·.entries.lookup key)
    let value ← if appends then extendedValue name before text else counted name text
    keepMember name key value
    return text

/-- The name of the variable that an assignment gives a value. -/
def Assignment.name : Assignment → String
  | .mk name _ _ _ => name

end Workyard.Shell
