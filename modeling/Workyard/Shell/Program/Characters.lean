/-
**Programs that work on single characters.**

* `tr`: puts characters in the place of others, or drops them;
* `cut`: keeps a part of each line;
* `rev`, `fold`, `expand`: lines in reverse, or of a greatest width, or without tabs.
-/

import Workyard.Shell.Pattern
import Workyard.Shell.Program.Plain

namespace Workyard.Shell.Program

/-! ### Sets of characters -/

/-- A part of a set of characters. -/
inductive SetPart where
  | characters (text : Octets)
  | named (name : String)
  | same (c : Char)
  /-- A character again and again, as often as is needed if there is no number. -/
  | again (c : Char) (count : Option Nat)
deriving DecidableEq, Repr

/-- The characters of a class, in ascending order. -/
def charactersOf (name : String) : Octets :=
  let ranges := classRanges name
  ((List.range 256).map Char.ofNat).filter fun c => ranges.any fun range => range.1 ≤ c && c ≤ range.2

/-- The names of the classes. -/
def classNames : List String :=
  ["alnum", "alpha", "blank", "cntrl", "digit", "graph", "lower", "print", "punct", "space", "upper",
    "xdigit"]

/-- A text with its escapes read, each character with whether it was one. -/
def plainOrEscaped : Nat → Octets → List (Char × Bool)
  | 0, _ => []
  | _, [] => []
  | _, ['\\'] => [('\\', false)]
  | fuel + 1, '\\' :: c :: rest =>
    let digits := ((c :: rest).take 3).takeWhile fun c => (digitIn 8 c).isSome
    if digits ≠ [] then
      let digits := if 255 < valueIn 8 digits then digits.take 2 else digits
      (octetChar (valueIn 8 digits), true) :: plainOrEscaped fuel ((c :: rest).drop digits.length)
    else
      let letter := (escapeLetters.find? fun entry => entry.2 = c).map (·.1)
      (letter.getD c, true) :: plainOrEscaped fuel rest
  | fuel + 1, c :: rest => (c, false) :: plainOrEscaped fuel rest

/-- A character as it is shown in a complaint. -/
def shownInSet (c : Char) : Octets := if isPrintable c then [c] else '\\' :: threeOctal c

/-- Reads what is in brackets at the front of a set, and the number of characters that it takes. -/
def bracketed? (text : List (Char × Bool)) : Except Octets (Option (SetPart × Nat)) :=
  let closed (mark : Char) (inner : List (Char × Bool)) : Option Octets :=
    let counts := List.range inner.length
    (counts.find? fun index =>
      inner[index]? = some (mark, false) && inner[index + 1]? = some (']', false)).map fun index =>
        (inner.take index).map (·.1)
  match text with
  | ('[', false) :: (':', false) :: inner =>
    match closed ':' inner with
    | some name =>
      let name := spelled name
      if classNames.contains name then .ok (some (.named name, name.length + 4))
      else .error (octets "invalid character class " ++ inQuotes (octets name))
    | none => .ok none
  | ('[', false) :: ('=', false) :: inner =>
    match closed '=' (if inner.head?.map (·.1) = some '=' then ('x', false) :: inner.drop 1 else inner) with
    | some [_] => .ok (some (.same ((inner.headD (' ', false)).1), 5))
    | some [] => .error (octets "missing equivalence class character '[==]'")
    | some several =>
      .error (several ++ octets ": equivalence class operand must be a single character")
    | none => .ok none
  | ('[', false) :: (c, _) :: ('*', false) :: inner =>
    let digits := inner.takeWhile (· ≠ (']', false))
    if digits.length = inner.length then .ok none
    else
      let text := digits.map (·.1)
      if text = [] then .ok (some (.again c none, 4))
      else
        let base := if text.head? = some '0' then 8 else 10
        if text.all fun c => (digitIn base c).isSome then
          let count := valueIn base text
          .ok (some (.again c (if count = 0 then none else some count), text.length + 4))
        else .error (octets "invalid repeat count " ++ inQuotes text ++ octets " in [c*n] construct")
  | _ => .ok none

/-- The parts of a set. -/
def setParts : Nat → List (Char × Bool) → Except Octets (List SetPart)
  | 0, _ => .ok []
  | _, [] => .ok []
  | fuel + 1, (c, escaped) :: rest => do
    match ← bracketed? ((c, escaped) :: rest) with
    | some (part, length) =>
      return part :: (← setParts fuel (((c, escaped) :: rest).drop length))
    | none => match rest with
      | ('-', false) :: (last, _) :: more =>
        if last < c then
          throw (octets "range-endpoints of " ++ inQuotes (shownInSet c ++ '-' :: shownInSet last) ++
            octets " are in reverse collating sequence order")
        let row := (List.range (last.toNat + 1 - c.toNat)).map fun index => Char.ofNat (c.toNat + index)
        return .characters row :: (← setParts fuel more)
      | _ => return .characters [c] :: (← setParts fuel rest)

/-- The parts that a text stands for. -/
def setOf (text : Octets) : Except Octets (List SetPart) :=
  setParts (text.length + 1) (plainOrEscaped (text.length + 1) text)

/-- The characters of a part, where one that is repeated as needed comes so often. -/
def SetPart.spread (needed : Nat) : SetPart → Octets
  | .characters text => text
  | .named name => charactersOf name
  | .same c => [c]
  | .again c none => List.replicate needed c
  | .again c (some count) => List.replicate count c

/-- The number of characters of parts, without those that are repeated as needed. -/
def sizeOfParts (parts : List SetPart) : Nat := (parts.flatMap (·.spread 0)).length

/-- Whether a part is repeated as needed. -/
def SetPart.isEndless : SetPart → Bool
  | .again _ none => true
  | _ => false

/-- The characters that are not among others. -/
def complementOf (set : Octets) : Octets :=
  ((List.range 256).map Char.ofNat).filter fun c => !set.contains c

/-- What is put in the place of characters: the pairs of the two sets. -/
def replacements (complement truncates : Bool) (first second : List SetPart) :
    Except Octets (List (Char × Char) × Octets) := do
  if (second.filter SetPart.isEndless).length > 1 then
    throw (octets "only one [c*] repeat construct may appear in string2")
  if second.any fun part => part matches .same _ then
    throw (octets "[=c=] expressions may not appear in string2 when translating")
  if second.any fun part => match part with
      | .named name => name ≠ "upper" && name ≠ "lower"
      | _ => false then
    throw (octets "when translating, the only character classes that may appear in\nstring2 are 'upper' and 'lower'")
  let plain := first.flatMap (·.spread 1)
  let before := if complement then complementOf plain else plain
  let behind := second.flatMap (·.spread (before.length - sizeOfParts second))
  if behind = [] && !truncates then
    throw (octets "when not truncating set1, string2 must be non-empty")
  if complement && (first.any fun part => part matches .named _) && behind.eraseDups.length > 1 then
    throw (octets "when translating with complemented character classes,\nstring2 must map all characters in the domain to one")
  let endsNamed : Bool := match second.getLast? with
    | some (.named _) => true
    | _ => false
  if behind.length < before.length && endsNamed && !truncates then
    throw (octets "when translating with string1 longer than string2,\nthe latter string must not end with a character class")
  let behind := if truncates then behind
    else behind ++ List.replicate (before.length - behind.length) (behind.getLast?.getD ' ')
  return (before.zip behind, behind)

/-- Puts characters in the place of others, drops some, or keeps only one of several that are the same. -/
def tr (call : Call) : Act Nat :=
  let known : List Choice := [("c", "complement", .nothing), ("C", "", .nothing), ("d", "delete", .nothing),
    ("s", "squeeze-repeats", .nothing), ("t", "truncate-set1", .nothing)]
  withOptions known false 1 call fun options => do
    let complement : Bool := options.has "c" || options.has "C"
    let deletes := options.has "d"
    let squeezes := options.has "s"
    let least := if deletes = squeezes then 2 else 1
    let most := if deletes && !squeezes then 1 else 2
    let count := options.rest.length
    if count = 0 then lacking call
    else if count < least then
      let why := if deletes then "Two strings must be given when both deleting and squeezing repeats."
        else "Two strings must be given when translating."
      misused call.name (octets "missing operand after " ++ inQuotes (options.rest.getLastD []) ++
        octets s!"\n{why}")
    else if most < count then
      let argument := options.rest.getD most []
      misused call.name (octets "extra operand " ++ inQuotes argument ++
        (if count = 2 then octets "\nOnly one string may be given when deleting without squeezing repeats."
        else []))
    else
      for text in options.rest do
        if ((text.reverse.takeWhile (· = '\\')).length) % 2 = 1 then
          let _ ← scold call.name
            (octets "warning: an unescaped backslash at end of string is not portable")
      let plan : Except Octets (List (Char × Char) × Octets × Octets) := do
        let sets ← options.rest.mapM setOf
        let first := sets.headD []
        if first.any SetPart.isEndless then
          throw (octets "the [c*] repeat construct may not appear in string1")
        let set := first.flatMap (·.spread 1)
        let set := if complement then complementOf set else set
        match sets.drop 1 with
        | [] => return ([], if deletes then set else [], if deletes then [] else set)
        | second :: _ =>
          if deletes then
            if second.any SetPart.isEndless then
              throw (octets "the [c*] construct may appear in string2 only when translating")
            return ([], set, second.flatMap (·.spread 1))
          else
            let (pairs, targets) ← replacements complement (options.has "t") first second
            return (pairs.reverse, [], if squeezes then targets else [])
      match plan with
      | .error words => scold call.name words
      | .ok (pairs, dropped, squeezed) =>
        let table : Array Char := (((List.range 256).map Char.ofNat).map fun c =>
          (pairs.lookup c).getD c).toArray
        let dropTable : Array Bool := (((List.range 256).map Char.ofNat).map dropped.contains).toArray
        let squeezeTable : Array Bool := (((List.range 256).map Char.ofNat).map squeezed.contains).toArray
        let (_, fault) ← eachChunk 0 (fun (last : Option Char) chunk => do
          let kept := chunk.filter fun c => !(dropTable.getD c.toNat false)
          let (text, last) := kept.foldl (fun (state : Octets × Option Char) c =>
            let c := table.getD c.toNat c
            if squeezeTable.getD c.toNat false && state.2 = some c then state
            else (c :: state.1, some c)) ([], last)
          put text.reverse
          return (last, true)) none
        match fault with
        | some fault => scold call.name (octets "read error: " ++ reason fault)
        | none => return 0

/-! ### Parts of lines -/

/-- Reads a list of ranges, in which things have the name of fields or of positions. -/
def rangesOf (fields : Bool) (text : Octets) : Except Octets (List (Nat × Option Nat)) :=
  go (text.length + 1) text
where
  /-- Reads one range after another. -/
  go : Nat → Octets → Except Octets (List (Nat × Option Nat))
    | 0, _ => .ok []
    | fuel + 1, text => do
      let one := text.takeWhile fun c => c ≠ ',' && c ≠ ' ' && c ≠ '\t'
      let range ← range one text
      match text.drop one.length with
      | [] => return [range]
      | _ :: rest => return range :: (← go fuel rest)
  /-- The words for things that are counted from one. -/
  fromOne : Octets :=
    octets (if fields then "fields are numbered from 1" else "byte/character positions are numbered from 1")
  /-- The number that digits are. -/
  number (digits : Octets) : Except Octets Nat :=
    if Nat.pow 2 64 - 1 ≤ valueIn 10 digits then
      .error (octets (if fields then "field number " else "byte/character offset ") ++ inQuotes digits ++
        octets " is too large")
    else .ok (valueIn 10 digits)
  /-- Reads a range at the front of a text. -/
  range (one text : Octets) : Except Octets (Nat × Option Nat) := do
    let first := one.takeWhile Char.isDigit
    match one.drop first.length with
    | [] =>
      let value ← number first
      if value = 0 then throw fromOne
      return (value, some value)
    | '-' :: behind =>
      let low ← number first
      if first ≠ [] && low = 0 then throw fromOne
      let last := behind.takeWhile Char.isDigit
      match behind.drop last.length with
      | [] =>
        if first = [] && last = [] then throw (octets "invalid range with no endpoint: -")
        let low := if first = [] then 1 else low
        if last = [] then return (low, none)
        let high ← number last
        if high < low then throw (octets "invalid decreasing range")
        return (low, some high)
      | '-' :: _ =>
        throw (octets (if fields then "invalid field range" else "invalid byte or character range"))
      | _ => throw (wrong (text.drop (first.length + 1 + last.length)))
    | _ => throw (wrong (text.drop first.length))
  /-- The words for what is no number. -/
  wrong (text : Octets) : Octets :=
    octets (if fields then "invalid field value " else "invalid byte/character position ") ++ inQuotes text

/-- Ranges in ascending order, those that meet made one. -/
def mergedRanges (ranges : List (Nat × Option Nat)) : List (Nat × Option Nat) :=
  let sorted := ranges.mergeSort fun one other => one.1 ≤ other.1
  (sorted.foldl (fun (merged : List (Nat × Option Nat)) range =>
    match merged with
    | (low, high) :: rest =>
      match high, range.2 with
      | none, _ => merged
      | some last, high =>
        if range.1 ≤ last then (low, high.map (max last)) :: rest else range :: merged
    | [] => [range]) []).reverse

/-- The ranges of all that is in none of others. -/
def rangesBetween (start : Nat) : List (Nat × Option Nat) → List (Nat × Option Nat)
  | [] => [(start, none)]
  | (low, high) :: rest =>
    let before := if start < low then [(start, some (low - 1))] else []
    match high with
    | none => before
    | some high => before ++ rangesBetween (high + 1) rest

/-- Keeps a part of each line. -/
def cut (call : Call) : Act Nat :=
  let known : List Choice := [("b", "bytes", .value), ("c", "characters", .value), ("f", "fields", .value),
    ("d", "delimiter", .value), ("s", "only-delimited", .nothing), ("n", "", .nothing),
    ("z", "zero-terminated", .nothing), ("", "complement", .nothing), ("", "output-delimiter", .value)]
  withOptions known true 1 call fun options => do
    let lists := options.given.filter fun entry => ["b", "c", "f"].contains entry.1
    let delimiter := options.last? "d"
    match lists with
    | [] => misused call.name (octets "you must specify a list of bytes, characters, or fields")
    | _ :: _ :: _ => misused call.name (octets "only one list may be specified")
    | [(key, text)] =>
      let fields : Bool := key = "f"
      if delimiter.any fun text => 1 < text.length then
        misused call.name (octets "the delimiter must be a single character")
      else if !fields && delimiter.isSome then
        misused call.name (octets "an input delimiter may be specified only when operating on fields")
      else if !fields && options.has "s" then
        misused call.name (octets "suppressing non-delimited lines makes sense\n\tonly when operating on fields")
      else match rangesOf fields text with
        | .error words => misused call.name words
        | .ok ranges =>
          let ranges := mergedRanges ranges
          let ranges := if options.has "complement" then rangesBetween 1 ranges else ranges
          let ends := if options.has "z" then '\x00' else '\n'
          let delimiter := ((delimiter.getD ['\t']).headD '\x00')
          let between := (options.last? "output-delimiter").getD (if fields then [delimiter] else [])
          let isIn (index : Nat) (range : Nat × Option Nat) : Bool :=
            range.1 ≤ index && range.2.all fun high => index ≤ high
          let part {α : Type} (items : List α) : List (List α) :=
            ranges.map fun range =>
              let behind := items.drop (range.1 - 1)
              match range.2 with
              | some high => behind.take (high + 1 - range.1)
              | none => behind
          let kept (line : Octets) : Octets :=
            if fields then
              if line.contains delimiter then joinedBy between (part (line.splitOn delimiter)).flatten ++ [ends]
              else if options.has "s" then [] else line ++ [ends]
            else joinedBy between ((part line).filter (· ≠ [])) ++ [ends]
          if fields && delimiter = ends then
            let (text, missing) ← allContents call.name options.rest
            let lines := (piecesOf ends text).map fun line =>
              if line.getLast? = some ends then line.dropLast else line
            let chosen := (lines.zipIdx.filter fun (_, index) => ranges.any (isIn (index + 1))).map (·.1)
            if text ≠ [] then put (joinedBy between chosen ++ [ends])
            return if missing = 0 then 0 else 1
          else
            let (_, missing) ← eachLineOf ends call.name options.rest (fun _ line _ => do
              put (kept line)
              return ((), true)) ()
            return if missing = 0 then 0 else 1

/-- Puts out lines in reverse. -/
def rev (call : Call) : Act Nat :=
  withOptions [] true 1 call fun options => do
    let mut status := 0
    for name in inputNames options.rest do
      let wrong ← withInput name
        (fun fault => do
          let _ ← scold call.name (octets "cannot open " ++ name ++ octets ": " ++ reason fault)
          return true)
        fun descriptor => do
          let _ ← eachLine '\n' descriptor (fun _ line complete => do
            put (if complete then line.reverse ++ ['\n'] else line.reverse)
            return ((), true)) ()
          return false
      if wrong then status := 1
    return status

/-! ### Columns -/

/-- The column behind a character. -/
def columnAfter (column : Nat) (c : Char) : Nat :=
  if c = '\x08' then column - 1
  else if c = '\x0d' then 0
  else if c = '\t' then column / 8 * 8 + 8 else column + 1

/-- A line in parts of a greatest width, perhaps only behind blanks; `read` holds a part in reverse. -/
def folded (after : Nat → Char → Nat) (atBlanks : Bool) (width : Nat) :
    Nat → Octets → Octets → Nat → List Octets
  | 0, _, read, _ => [read.reverse]
  | _, [], read, _ => [read.reverse]
  | fuel + 1, c :: rest, read, column =>
    let next := after column c
    if next ≤ width || read = [] then folded after atBlanks width fuel rest (c :: read) next
    else
      let behind := read.takeWhile fun c => c ≠ ' ' && c ≠ '\t'
      if atBlanks && behind.length < read.length then
        let kept := behind.reverse
        (read.drop behind.length).reverse ::
          folded after atBlanks width fuel (c :: rest) behind (kept.foldl after 0)
      else read.reverse :: folded after atBlanks width fuel (c :: rest) [] 0

/-- Puts out lines in parts of a greatest width. -/
def fold (call : Call) : Act Nat :=
  let known : List Choice := [("b", "bytes", .nothing), ("s", "spaces", .nothing), ("w", "width", .value)]
  let arguments := call.arguments.map fun word => match word with
    | '-' :: digits => if isDigits digits then '-' :: 'w' :: digits else word
    | word => word
  withOptions known true 1 { call with arguments } fun options => do
    let text := (options.last? "w").getD (octets "80")
    let wrong := octets "invalid number of columns: " ++ inQuotes text
    if !isDigits text then scold call.name wrong
    else if valueIn 10 text = 0 then scold call.name (wrong ++ octets ": Numerical result out of range")
    else if Nat.pow 2 64 - 10 < valueIn 10 text then
      scold call.name (wrong ++ octets ": Value too large for defined data type")
    else
      let after : Nat → Char → Nat := if options.has "b" then fun column _ => column + 1 else columnAfter
      let (_, missing) ← eachLineOf '\n' call.name options.rest (fun _ line complete => do
        let parts := folded after (options.has "s") (valueIn 10 text) (3 * line.length + 1) line [] 0
        put (joinedBy ['\n'] parts ++ if complete then ['\n'] else [])
        return ((), true)) ()
      return if missing = 0 then 0 else 1

/-- The next stop of a tab behind a column. -/
def stopAfter (stops : List Nat) (column : Nat) : Nat :=
  match stops with
  | [] => column / 8 * 8 + 8
  | [every] => column / every * every + every
  | stops => (stops.find? (column < ·)).getD (column + 1)

/-- A line with blanks in the place of tabs; `front` if only those in front of all else. -/
def expanded (stops : List Nat) (front : Bool) : Octets → Nat → Octets
  | [], _ => []
  | c :: rest, column =>
    if c = '\t' then
      let next := stopAfter stops column
      List.replicate (next - column) ' ' ++ expanded stops front rest next
    else if front && c ≠ ' ' then c :: rest
    else c :: expanded stops front rest (if c = '\x08' then column - 1 else column + 1)

/-- Puts out lines with blanks in the place of tabs. -/
def expand (call : Call) : Act Nat :=
  let known : List Choice := [("i", "initial", .nothing), ("t", "tabs", .value)]
  let arguments := call.arguments.map fun word => match word with
    | '-' :: digits => if isDigits digits then '-' :: 't' :: digits else word
    | word => word
  withOptions known true 1 { call with arguments } fun options => do
    let text := (options.last? "t").getD []
    let words := (text.map fun c => if c = ',' then ' ' else c).splitOn ' ' |>.filter (· ≠ [])
    let stops := words.map (valueIn 10)
    match words.find? fun word => !isDigits word with
    | some word => scold call.name (octets "tab size contains invalid character(s): " ++ inQuotes word)
    | none =>
      if stops.contains 0 then scold call.name (octets "tab size cannot be 0")
      else if (stops.zip (stops.drop 1)).any fun pair => pair.2 ≤ pair.1 then
        scold call.name (octets "tab sizes must be ascending")
      else
        let (_, missing) ← eachLineOf '\n' call.name options.rest (fun _ line complete => do
          put (expanded stops (options.has "i") line 0 ++ if complete then ['\n'] else [])
          return ((), true)) ()
        return if missing = 0 then 0 else 1

end Workyard.Shell.Program
