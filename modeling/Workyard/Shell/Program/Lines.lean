/-
**Programs that work on lines.**

* `uniq`: lines that are the same as their neighbours;
* `wc`: the number of lines, words and octets;
* `nl`: lines with numbers;
* `paste`, `comm`: the lines of several files side by side.
-/

import Workyard.Shell.Program.Sorting

namespace Workyard.Shell.Program

/-! ### Neighbours -/

/-- The part of a line in which it is compared with others. -/
def comparedPart (fields characters : Nat) (width : Option Nat) (line : Octets) : Octets :=
  let rec skip : Nat → Octets → Octets
    | 0, text => text
    | count + 1, text =>
      skip count ((text.dropWhile fun c => c = ' ' || c = '\t').dropWhile fun c => c ≠ ' ' && c ≠ '\t')
  let part := (skip (min fields line.length) line).drop characters
  (width.map part.take).getD part

/-- Neighbours that are the same, as groups. -/
def groupsOf (key : Octets → Octets) : List Octets → List (List Octets)
  | [] => []
  | line :: rest =>
    match groupsOf key rest with
    | (next :: same) :: groups =>
      if key line = key next then (line :: next :: same) :: groups else [line] :: (next :: same) :: groups
    | groups => [line] :: groups

/-- Puts out lines, of those that are the same only the first. -/
def uniq (call : Call) : Act Nat :=
  let known : List Choice := [("c", "count", .nothing), ("d", "repeated", .nothing), ("D", "", .nothing),
    ("D", "all-repeated", .perhaps), ("f", "skip-fields", .value), ("i", "ignore-case", .nothing),
    ("s", "skip-chars", .value), ("u", "unique", .nothing), ("z", "zero-terminated", .nothing),
    ("w", "check-chars", .value), ("group", "group", .perhaps)]
  let arguments := call.arguments.map fun word => match word with
    | '-' :: digits => if isDigits digits then '-' :: 'f' :: digits else word
    | word => word
  withOptions known true 1 { call with arguments } fun options => do
    let numbers := [("f", "fields to skip"), ("s", "bytes to skip"), ("w", "bytes to compare")]
    let wrong := numbers.findSome? fun (key, what) => (options.last? key).bind fun text =>
      if isDigits text then none else some (text ++ octets s!": invalid number of {what}")
    let number (key : String) : Option Nat := (options.last? key).map (valueIn 10)
    match wrong with
    | some words => scold call.name words
    | none =>
      match options.rest.drop 2 with
      | argument :: _ => extra call argument
      | [] =>
      if options.has "group" && ["c", "d", "D", "u"].any options.has then
        misused call.name (octets "--group is mutually exclusive with -c/-d/-D/-u")
      else if options.has "D" && options.has "c" then
        misused call.name (octets "printing all duplicated lines and repeat counts is meaningless")
      else
        let ends := if options.has "z" then '\x00' else '\n'
        let key (line : Octets) : Octets :=
          let part := comparedPart ((number "f").getD 0) ((number "s").getD 0) (number "w") line
          if options.has "i" then part.map Char.toLower else part
        let name := (options.rest.head?).getD ['-']
        withInput name (fun fault => scoldFile call.name name fault) fun descriptor => do
          let failed : Bool ← match (options.rest.drop 1).head? with
            | some output =>
              if output = ['-'] then pure false
              else match ← openFile { writes := true, truncates := true } output with
                | .ok handle => do
                  setHandle 1 (some handle)
                  pure false
                | .error fault => do
                  let _ ← scoldFile call.name output fault
                  pure true
            | none => pure false
          if failed then return 1
          let showGroup (group : List Octets) : Octets :=
            let first := group.headD []
            let twice : Bool := 1 < group.length
            if options.has "D" then
              (if twice && !options.has "u" then group.flatMap (· ++ [ends]) else [])
            else if (options.has "d" && !twice) || (options.has "u" && twice) then []
            else (if options.has "c" then rightIn 7 (decimal group.length) ++ [' '] else []) ++ first ++ [ends]
          if options.has "group" || options.has "D" then
            let (text, fault) ← readAll descriptor
            match fault with
            | some fault => scold call.name (octets "error reading " ++ asQuotedWord name ++ octets ": " ++
                reason fault)
            | none =>
              let lines := (piecesOf ends text).map fun line =>
                if line.getLast? = some ends then line.dropLast else line
              let groups := groupsOf key lines
              let how := spelled ((options.last? (if options.has "group" then "group" else "D")).getD [])
              let shown := if options.has "group" then groups.map fun group => group.flatMap (· ++ [ends])
                else (groups.map showGroup).filter (· ≠ [])
              let how := if options.has "group" && how = "" then "separate" else how
              put (match how with
                | "separate" => joinedBy [ends] shown
                | "prepend" => shown.flatMap fun group => ends :: group
                | "append" => shown.flatMap fun group => group ++ [ends]
                | "both" => if shown = [] then [] else ends :: shown.flatMap fun group => group ++ [ends]
                | _ => shown.flatten)
              return 0
          else
            let same (one other : Octets) : Bool := key one = key other
            let (left, fault) ← eachLine ends descriptor (fun (state : Option (Octets × Nat)) line _ => do
              match state with
              | none => return (some (line, 1), true)
              | some (first, count) =>
                if same first line then return (some (first, count + 1), true)
                else
                  put (showGroup (List.replicate count first))
                  return (some (line, 1), true)) none
            match fault with
            | some fault => scold call.name (octets "error reading " ++ asQuotedWord name ++ octets ": " ++
                reason fault)
            | none =>
              match left with
              | some (first, count) => put (showGroup (List.replicate count first))
              | none => pure ()
              return 0

/-! ### Counting -/

/-- What is counted. -/
structure Counts where
  lines : Nat := 0
  words : Nat := 0
  octets : Nat := 0
  longest : Nat := 0
  /-- Whether the last octet was in a word, and the column behind it. -/
  inWord : Bool := false
  column : Nat := 0

/-- The counts with one more octet. -/
def Counts.add (counts : Counts) (c : Char) : Counts :=
  let counts := { counts with octets := counts.octets + 1 }
  if isSpace c then
    let column := if c = '\t' then counts.column / 8 * 8 + 8
      else if c = ' ' then counts.column + 1 else if c = '\x0b' then counts.column else 0
    { counts with
      lines := if c = '\n' then counts.lines + 1 else counts.lines
      inWord := false, column, longest := max counts.longest (max counts.column column) }
  else if isPrintable c then
    { counts with
      words := if counts.inWord then counts.words else counts.words + 1
      inWord := true, column := counts.column + 1, longest := max counts.longest (counts.column + 1) }
  else counts

/-- The sum of two counts. -/
def Counts.sum (one other : Counts) : Counts :=
  { lines := one.lines + other.lines, words := one.words + other.words
    octets := one.octets + other.octets, longest := max one.longest other.longest }

/-- The size of what a name or the standard input stands for, if it is a file; none if it is not there. -/
def sizeOf? (name : Option Octets) : Act (Option (Option Nat)) := do
  let sizeOfNode (node : Files.Node) : Option Nat := match node.kind with
    | .file content => some content.length
    | _ => none
  match name with
  | none =>
    match ← handle? 0 with
    | some (.file index) =>
      let node := ((← world).opened.lookup index).map (·.node)
      return some ((node.bind (← tree).node?).bind sizeOfNode)
    | some _ => return some none
    | none => return none
  | some name => match (← tree).find (spelled name) with
    | .ok node => return some (sizeOfNode node)
    | .error _ => return none

/-- Counts lines, words and octets. -/
def wc (call : Call) : Act Nat :=
  let known : List Choice := [("c", "bytes", .nothing), ("m", "chars", .nothing), ("l", "lines", .nothing),
    ("w", "words", .nothing), ("L", "max-line-length", .nothing), ("", "total", .value)]
  withOptions known true 1 call fun options => do
    let plain : Bool := ! ["c", "m", "l", "w", "L"].any options.has
    let wants (key : String) : Bool := plain && ["l", "w", "c"].contains key || options.has key
    let columns := ["l", "w", "m", "c", "L"].filter wants
    let names : List (Option Octets) := if options.rest = [] then [none] else options.rest.map some
    let sizes ← names.mapM fun name => sizeOf? (if name = some ['-'] then none else name)
    let width :=
      if (names.length = 1 && columns.length = 1) || sizes.head? = some none then 1
      else
        let total := (sizes.map fun size => (size.join).getD 0).foldl (· + ·) 0
        let least := if sizes.any fun size => size = some none then 7 else 1
        max (decimal total).length least
    let total := String.ofList ((options.last? "total").getD (octets "auto"))
    let width := if total = "only" then 1 else width
    let row (counts : Counts) (name : Option Octets) : Octets :=
      let number (key : String) : Nat := match key with
        | "l" => counts.lines
        | "w" => counts.words
        | "L" => counts.longest
        | _ => counts.octets
      joinedBy [' '] (columns.map fun key => rightIn width (decimal (number key))) ++
        (match name with
        | some name => ' ' :: (if name.contains '\n' then asWord name else name)
        | none => []) ++ ['\n']
    let mut sum : Counts := {}
    let mut status := 0
    for name in names do
      if name = some [] then
        let _ ← scold call.name (octets "invalid zero-length file name")
        status := 1
      else
        let counts? ← withInput (name.getD ['-'])
          (fun fault => do
            let _ ← scoldFile call.name (name.getD ['-']) fault
            return (none : Option (Counts × Bool)))
          fun descriptor => do
            let (counts, fault) ← eachChunk descriptor (fun (counts : Counts) chunk =>
              return (chunk.foldl Counts.add counts, true)) {}
            match fault with
            | some fault =>
              let _ ← scoldFile call.name (name.getD ['-']) fault
              return some (counts, true)
            | none => return some (counts, false)
        match counts? with
        | none => status := 1
        | some (counts, failed) =>
          if failed then status := 1
          sum := sum.sum counts
          if total ≠ "only" then put (row counts name)
    let several : Bool := 1 < names.length
    if total = "only" then put (row sum none)
    else if total = "always" || (total = "auto" && several) then put (row sum (some (octets "total")))
    return status

/-! ### Lines with numbers -/

/-- How lines are numbered. -/
structure Numbering where
  style : Octets := ['t']
  form : String := "rn"
  width : Nat := 6
  separator : Octets := ['\t']
  step : Int := 1

/-- A number in its form and width. -/
def Numbering.number (how : Numbering) (value : Int) : Octets :=
  let digits := decimal value.natAbs
  let sign := if value < 0 then ['-'] else []
  match how.form with
  | "ln" => leftIn how.width (sign ++ digits)
  | "rz" => sign ++ List.replicate (how.width - sign.length - digits.length) '0' ++ digits
  | _ => rightIn how.width (sign ++ digits)

/-- Puts out lines with numbers. -/
def nl (call : Call) : Act Nat :=
  let known : List Choice := [("b", "body-numbering", .value), ("f", "footer-numbering", .value),
    ("h", "header-numbering", .value), ("i", "line-increment", .value), ("l", "join-blank-lines", .value),
    ("n", "number-format", .value), ("p", "no-renumber", .nothing), ("s", "number-separator", .value),
    ("v", "starting-line-number", .value), ("w", "number-width", .value), ("d", "section-delimiter", .value)]
  withOptions known true 1 call fun options => do
    let style := (options.last? "b").getD ['t']
    let form := spelled ((options.last? "n").getD (octets "rn"))
    let width := (options.last? "w").getD ['6']
    let start := (options.last? "v").getD ['1']
    let step := (options.last? "i").getD ['1']
    if !(style = ['t'] || style = ['a'] || style = ['n'] || style.head? = some 'p') then
      misused call.name (octets "invalid body numbering style: " ++ inQuotes style)
    else if ! ["ln", "rn", "rz"].contains form then
      misused call.name (octets "invalid line numbering format: " ++ inQuotes (octets form))
    else if !isDigits width then scold call.name (octets "invalid line number field width: " ++ inQuotes width)
    else if valueIn 10 width = 0 then
      scold call.name (octets "invalid line number field width: " ++ inQuotes width ++
        octets ": Numerical result out of range")
    else match signed? start, signed? step with
      | none, _ => scold call.name (octets "invalid starting line number: " ++ inQuotes start)
      | _, none => scold call.name (octets "invalid line number increment: " ++ inQuotes step)
      | some start, some step =>
        let how : Numbering := {
          style, form, width := valueIn 10 width, step
          separator := (options.last? "s").getD ['\t'] }
        let blank := List.replicate (how.width + how.separator.length) ' '
        let (_, missing) ← eachLineOf '\n' call.name options.rest (fun (state : Int × Bool) line _ => do
          let (number, inBody) := state
          match String.ofList line with
          | "\\:\\:\\:" =>
            put ['\n']
            return ((start, false), true)
          | "\\:\\:" =>
            put ['\n']
            return ((start, true), true)
          | "\\:" =>
            put ['\n']
            return ((start, false), true)
          | _ =>
            if inBody && (style = ['a'] || (style = ['t'] && line ≠ [])) then
              put (how.number number ++ how.separator ++ line ++ ['\n'])
              return ((number + how.step, inBody), true)
            else
              put (blank ++ line ++ ['\n'])
              return ((number, inBody), true)) (start, true)
        return if missing = 0 then 0 else 1

/-! ### Side by side -/

/-- The separators that a list of them stands for, none for nothing between. -/
def separatorsOf : Octets → Except Octets (List Octets)
  | [] => .ok []
  | ['\\'] => .error []
  | '\\' :: c :: rest => do
    let one : Octets := match c with
      | '0' => []
      | c => [((escapeLetters.find? fun entry => entry.2 = c).map (·.1)).getD c]
    return one :: (← separatorsOf rest)
  | c :: rest => return [c] :: (← separatorsOf rest)

/-- Texts with separators between them, taken in turn. -/
def joinedInTurn (separators : List Octets) (texts : List Octets) : Octets :=
  let count := max separators.length 1
  (texts.zipIdx.map fun (text, index) =>
    if index = 0 then text else separators.getD ((index - 1) % count) [] ++ text).flatten

/-- Puts out the lines of files side by side. -/
def paste (call : Call) : Act Nat :=
  let known : List Choice := [("d", "delimiters", .value), ("s", "serial", .nothing),
    ("z", "zero-terminated", .nothing)]
  withOptions known true 1 call fun options => do
    let list := (options.last? "d").getD ['\t']
    match separatorsOf (if list = [] then ['\\', '0'] else list) with
    | .error _ =>
      scold call.name (octets "delimiter list ends with an unescaped backslash: " ++ list)
    | .ok separators =>
      let ends := if options.has "z" then '\x00' else '\n'
      let bare (line : Octets) : Octets := if line.getLast? = some ends then line.dropLast else line
      let names := inputNames options.rest
      let serial := options.has "s"
      let mut files : List (Octets × List Octets) := []
      let mut status := 0
      for name in names do
        if name = ['-'] && files.any (·.1 = ['-']) then files := (name, []) :: files
        else match ← contents? call.name name with
          | some text =>
            let lines := (piecesOf ends text).map bare
            if serial then put (joinedInTurn separators lines ++ [ends])
            files := (name, lines) :: files
          | none =>
            if !serial then return 1
            status := 1
      if serial then return status
      else
        let shared := (files.find? fun file => file.1 = ['-'] && file.2 ≠ []).map (·.2) |>.getD []
        let places := (files.filter (·.1 = ['-'])).length
        let dealt (place : Nat) : List Octets :=
          (shared.zipIdx.filter fun (_, index) => index % places = place).map (·.1)
        let columns := (files.reverse.foldl (fun (state : List (List Octets) × Nat) file =>
          if file.1 = ['-'] then (dealt state.2 :: state.1, state.2 + 1) else (file.2 :: state.1, state.2))
          ([], 0)).1.reverse
        let height := columns.foldl (fun height column => max height column.length) 0
        let rows := (List.range height).map fun index => columns.map fun column => column.getD index []
        put (rows.flatMap fun row => joinedInTurn separators row ++ [ends])
        return 0

/-- Goes through two rows of lines in order; each line with the number of its column. -/
def merged : Nat → List Octets → List Octets → List (Nat × Octets)
  | 0, _, _ => []
  | _, [], [] => []
  | fuel + 1, line :: rest, [] => (1, line) :: merged fuel rest []
  | fuel + 1, [], line :: rest => (2, line) :: merged fuel [] rest
  | fuel + 1, one :: first, other :: second => match byOctets one other with
    | .lt => (1, one) :: merged fuel first (other :: second)
    | .gt => (2, other) :: merged fuel (one :: first) second
    | .eq => (3, one) :: merged fuel first second

/-- The place of the first line that is not in order. -/
def disorder (lines : List Octets) : Option Nat :=
  (lines.zip (lines.drop 1)).findIdx? fun (one, other) => byOctets one other = .gt

/-- Puts out the lines that are only in the first of two files, only in the second, or in both. -/
def comm (call : Call) : Act Nat :=
  let known : List Choice := [("1", "", .nothing), ("2", "", .nothing), ("3", "", .nothing),
    ("z", "zero-terminated", .nothing), ("", "check-order", .nothing), ("", "nocheck-order", .nothing),
    ("", "total", .nothing), ("", "output-delimiter", .value)]
  withOptions known true 1 call fun options => do
    match options.rest with
    | [] => lacking call
    | [name] => misused call.name (octets "missing operand after " ++ inQuotes name)
    | _ :: _ :: argument :: _ => extra call argument
    | [first, second] =>
      let ends := if options.has "z" then '\x00' else '\n'
      let bare (line : Octets) : Octets := if line.getLast? = some ends then line.dropLast else line
      match ← contents? call.name first with
      | none => return 1
      | some one => match ← contents? call.name second with
        | none => return 1
        | some other =>
          let (one, other) := ((piecesOf ends one).map bare, (piecesOf ends other).map bare)
          let separator := match options.last? "output-delimiter" with
            | some [] => ['\x00']
            | some text => text
            | none => ['\t']
          let front (column : Nat) : Octets :=
            (((List.range (column - 1)).filter fun before =>
              !options.has (toString (before + 1))).map fun _ => separator).flatten
          let rows := merged (one.length + other.length + 1) one other
          let mut warned := false
          let mut lefts := 0
          let mut rights := 0
          for (column, line) in rows do
            if column ≠ 2 then lefts := lefts + 1
            if column ≠ 1 then rights := rights + 1
            if !options.has (toString column) then put (front column ++ line ++ [ends])
            if !options.has "nocheck-order" && !warned then
              let complaint := if (disorder one).any fun place => column ≠ 2 && place + 1 = lefts then some "1"
                else if (disorder other).any fun place => column ≠ 1 && place + 1 = rights then some "2" else none
              match complaint with
              | some number =>
                let _ ← scold call.name (octets s!"file {number} is not in sorted order")
                warned := true
                if options.has "check-order" then return 1
              | none => pure ()
          if options.has "total" then
            let count (column : Nat) : Octets := decimal (rows.filter (·.1 = column)).length
            put (count 1 ++ separator ++ count 2 ++ separator ++ count 3 ++ separator ++ octets "total" ++ [ends])
          if warned then scold call.name (octets "input is not in sorted order")
          else return 0

end Workyard.Shell.Program
