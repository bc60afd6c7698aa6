/-
**Differences of files.**

Two files have lines in common, as many as can be found in the same order. What is not in common changed
from one file to the other.

* `changesOf`: the changes from one list of lines to another;
* `diff`: the program.
-/

import Workyard.Shell.Program.Calendar
import Workyard.Shell.Program.Question

namespace Workyard.Shell.Program

/-- A change: where lines of the first file are gone and where lines of the second came, with how many. -/
structure Change where
  place : Nat
  gone : Nat
  newPlace : Nat
  came : Nat
deriving DecidableEq, Repr

/-- Lengths of longest common parts of what is left of two lists, from a place of the first on: the row for
each place of the second. -/
def commonRow {α : Type} [BEq α] (line : α) (others : List α) (below : List Nat) : List Nat :=
  match others, below with
  | other :: others, here :: next :: rest =>
    let row := commonRow line others (next :: rest)
    (if line == other then next + 1 else max here (row.headD 0)) :: row
  | _, _ => [0]

/-- The rows for all places of the first list. -/
def commonRows {α : Type} [BEq α] (lines others : List α) : List (Array Nat) :=
  let (rows, _) := lines.foldr (fun line (state : List (Array Nat) × List Nat) =>
    let row := commonRow line others state.2
    (row.toArray :: state.1, row)) ([], List.replicate (others.length + 1) 0)
  rows ++ [(List.replicate (others.length + 1) 0).toArray]

/-- Which lines are not in common, from the front on: for each a place in the first or in the second. -/
def walkCommon {α : Type} [BEq α] (rows : Array (Array Nat)) (lines others : Array α) : Nat → Nat → Nat → List (Bool × Nat)
  | 0, _, _ => []
  | fuel + 1, i, j =>
    let length (i j : Nat) : Nat := (rows.getD i #[]).getD j 0
    match lines[i]?, others[j]? with
    | none, none => []
    | some _, none => (true, i) :: walkCommon rows lines others fuel (i + 1) j
    | none, some _ => (false, j) :: walkCommon rows lines others fuel i (j + 1)
    | some line, some other =>
      if line == other then walkCommon rows lines others fuel (i + 1) (j + 1)
      else if length i (j + 1) ≤ length (i + 1) j then (true, i) :: walkCommon rows lines others fuel (i + 1) j
      else (false, j) :: walkCommon rows lines others fuel i (j + 1)

/-- A run of marked lines moved on behind lines that are like its own, for as far as that goes. -/
def slide {α : Type} [BEq α] (lines : Array α) : Nat → List Bool → Nat → List Bool
  | 0, marks, _ => marks
  | fuel + 1, marks, place =>
    match (marks.drop place).findIdx? (fun marked => marked) with
    | none => marks
    | some skip =>
      let start := place + skip
      let count := ((marks.drop start).takeWhile (fun marked => marked)).length
      let stop := start + count
      match lines[start]?, lines[stop]? with
      | some first, some behind =>
        if first == behind then slide lines fuel ((marks.set start false).set stop true) (start + 1)
        else slide lines fuel marks stop
      | _, _ => marks

/-- The changes that marks on lines stand for. -/
def gathered : Nat → Nat → Nat → List Bool → List Bool → List Change
  | 0, _, _, _, _ => []
  | fuel + 1, i, j, gone, came =>
    let first := (gone.takeWhile (fun marked => marked)).length
    let second := (came.takeWhile (fun marked => marked)).length
    let change := if first = 0 && second = 0 then [] else [⟨i, first, j, second⟩]
    match gone.drop first, came.drop second with
    | _ :: gone, _ :: came => change ++ gathered fuel (i + first + 1) (j + second + 1) gone came
    | _, _ => change

/-- The changes from one list of lines to another. -/
def changesOf {α : Type} [BEq α] (lines others : List α) : List Change :=
  let rows := (commonRows lines others).toArray
  let marks := walkCommon rows lines.toArray others.toArray (lines.length + others.length + 1) 0 0
  let gone := (List.range lines.length).map fun index => marks.contains (true, index)
  let came := (List.range others.length).map fun index => marks.contains (false, index)
  let gone := slide lines.toArray (2 * lines.length + 2) gone 0
  let came := slide others.toArray (2 * others.length + 2) came 0
  gathered (lines.length + others.length + 2) 0 0 gone came

/-! ### Writing -/

/-- Lines with a mark in front of each. -/
def marked (mark : String) (lines : List Octets) : Octets :=
  lines.flatMap fun line => octets mark ++ (if line.getLast? = some '\n' then line
    else line ++ octets "\n\\ No newline at end of file\n")

/-- A part of a list. -/
def between (lines : List Octets) (start count : Nat) : List Octets := (lines.drop start).take count

/-- A range of lines in digits. -/
def rangeText (start count : Nat) : Octets :=
  if count ≤ 1 then decimal (start + count) else decimal (start + 1) ++ ',' :: decimal (start + count)

/-- Changes in the plain form. -/
def plainChanges (lines others : List Octets) (changes : List Change) : Octets :=
  changes.flatMap fun change =>
    let letter := if change.gone = 0 then 'a' else if change.came = 0 then 'd' else 'c'
    rangeText change.place change.gone ++ letter :: rangeText change.newPlace change.came ++ ['\n'] ++
      marked "< " (between lines change.place change.gone) ++
      (if letter = 'c' then octets "---\n" else []) ++
      marked "> " (between others change.newPlace change.came)

/-- Changes that are close to each other, together. -/
def hunks (context : Nat) : List Change → List (List Change)
  | [] => []
  | change :: rest => match hunks context rest with
    | (next :: more) :: others =>
      if next.place ≤ change.place + change.gone + 2 * context then (change :: next :: more) :: others
      else [change] :: (next :: more) :: others
    | others => [change] :: others

/-- The range of a hunk with the lines around it. -/
def hunkRange (context size start stop : Nat) : Nat × Nat :=
  let first := start - context
  (first, min size (stop + context) - first)

/-- Changes in one text, with the lines around them. -/
def unifiedChanges (context : Nat) (lines others : List Octets) (changes : List Change) : Octets :=
  (hunks context changes).flatMap fun hunk =>
    let first := hunk.headD ⟨0, 0, 0, 0⟩
    let last := hunk.getLast?.getD first
    let (start, count) := hunkRange context lines.length first.place (last.place + last.gone)
    let (newStart, newCount) := hunkRange context others.length first.newPlace (last.newPlace + last.came)
    let range (start count : Nat) : Octets :=
      decimal (if count = 0 then start else start + 1) ++ (if count = 1 then [] else ',' :: decimal count)
    let (text, reached) := hunk.foldl (fun (state : Octets × Nat) change =>
      (state.1 ++ marked " " (between lines state.2 (change.place - state.2)) ++
        marked "-" (between lines change.place change.gone) ++
        marked "+" (between others change.newPlace change.came), change.place + change.gone)) ([], start)
    octets "@@ -" ++ range start count ++ octets " +" ++ range newStart newCount ++ octets " @@\n" ++ text ++
      marked " " (between lines reached (start + count - reached))

/-- Changes in two texts, with the lines around them. -/
def contextChanges (context : Nat) (lines others : List Octets) (changes : List Change) : Octets :=
  (hunks context changes).flatMap fun hunk =>
    let first := hunk.headD ⟨0, 0, 0, 0⟩
    let last := hunk.getLast?.getD first
    let (start, count) := hunkRange context lines.length first.place (last.place + last.gone)
    let (newStart, newCount) := hunkRange context others.length first.newPlace (last.newPlace + last.came)
    let range (start count : Nat) : Octets :=
      if count ≤ 1 then decimal (start + count) else decimal (start + 1) ++ ',' :: decimal (start + count)
    let half (lines : List Octets) (start count : Nat) (mark : String) (part : Change → Nat × Nat) : Octets :=
      let (text, reached) := hunk.foldl (fun (state : Octets × Nat) change =>
        let (place, size) := part change
        let mark := if change.gone ≠ 0 && change.came ≠ 0 then "! " else mark
        (state.1 ++ marked "  " (between lines state.2 (place - state.2)) ++ marked mark (between lines place size),
          place + size)) ([], start)
      text ++ marked "  " (between lines reached (start + count - reached))
    octets "***************\n*** " ++ range start count ++ octets " ****\n" ++
      (if hunk.any (·.gone ≠ 0) then half lines start count "- " (fun change => (change.place, change.gone)) else []) ++
      octets "--- " ++ range newStart newCount ++ octets " ----\n" ++
      (if hunk.any (·.came ≠ 0) then half others newStart newCount "+ " (fun change => (change.newPlace, change.came)) else [])

/-! ### The program -/

/-- What of a line counts when lines are compared. -/
def comparedLine (options : Options) (line : Octets) : Octets :=
  let line := if options.has "i" then line.map Char.toLower else line
  let line := if options.has "strip-trailing-cr" && (line.reverse.take 2).reverse = ['\x0d', '\n'] then
    line.dropLast.dropLast ++ ['\n'] else line
  if options.has "w" then line.filter fun c => !isSpace c
  else if options.has "b" then joinedBy [' '] (((line.reverse.dropWhile isSpace).reverse).splitOnP isSpace |>.filter (· ≠ []))
  else line

/-- Compares two files; gives the status. -/
def diffFiles (call : Call) (options : Options) (one other : Octets) : Act Nat := do
  let missing (name : Octets) (fault : IoFault) : Act (Option Octets) := do
    let _ ← scold call.name (name ++ octets ": " ++ reason fault)
    return none
  let contents (name : Octets) : Act (Option Octets) := do
    if options.has "N" && name ≠ ['-'] && !((← tree).find (spelled name)).toBool then return some []
    else withInput name (missing name) fun descriptor => do
      let (text, fault) ← readAll descriptor
      match fault with
      | none => return some text
      | some fault => missing name fault
  let first ← contents one
  let second ← contents other
  match first, second with
  | some first, some second =>
    let lines := linesOf first
    let others := linesOf second
    let blank (line : Octets) : Bool := line.all isSpace
    let changes := changesOf (lines.map (comparedLine options)) (others.map (comparedLine options))
    let changes := if options.has "B" then changes.filter fun change =>
        !((between lines change.place change.gone ++ between others change.newPlace change.came).all blank) else changes
    if changes.isEmpty then
      if options.has "s" then
        put (octets "Files " ++ one ++ octets " and " ++ other ++ octets " are identical\n")
      return 0
    else if options.has "q" then
      put (octets "Files " ++ one ++ octets " and " ++ other ++ octets " differ\n")
      return 1
    else
      let tree ← tree
      let title (mark : String) (name : Octets) : Octets :=
        let time := match tree.find (spelled name) with
          | .ok node => node.time
          | .error _ => tree.now
        let label := octets mark ++ ' ' :: name
        label ++ '\t' :: (Moment.ofMicroseconds time).written 100 (octets "%Y-%m-%d %H:%M:%S.%N %z") ++ ['\n']
      let labels := options.all "label"
      let titled (mark : String) (index : Nat) (name : Octets) : Octets := match labels[index]? with
        | some label => octets mark ++ ' ' :: label ++ ['\n']
        | none => title mark name
      let count (key : String) : Nat := ((options.last? key).map (valueIn 10)).getD 3
      match options.lastOf? ["u", "U", "c", "C", "unified", "context", "normal"] with
      | some "u" | some "U" | some "unified" =>
        let context := if (options.last? "unified").any (· ≠ []) then count "unified" else count "U"
        put (titled "---" 0 one ++ titled "+++" 1 other ++ unifiedChanges context lines others changes)
      | some "c" | some "C" | some "context" =>
        let context := if (options.last? "context").any (· ≠ []) then count "context" else count "C"
        put (titled "***" 0 one ++ titled "---" 1 other ++ contextChanges context lines others changes)
      | _ => put (plainChanges lines others changes)
      return 1
  | _, _ => return 2

/-- Compares two directories; gives the status. -/
def diffDirectories (call : Call) (options : Options) (front : Octets) : Nat → Octets → Octets → Act Nat
  | 0, _, _ => return 0
  | fuel + 1, one, other => do
    let namesOf (name : Octets) : Act (List Octets) := do
      match ← spotOf name true with
      | .ok found => namesIn found.path
      | .error _ => return []
    let first ← namesOf one
    let second ← namesOf other
    let mut status := 0
    for name in (first ++ second.filter fun name => !first.contains name).mergeSort fun a b => byOctets a b ≠ .gt do
      let here := inside one name
      let there := inside other name
      if !second.contains name && !options.has "N" then
        put (octets "Only in " ++ one ++ octets ": " ++ name ++ ['\n'])
        status := max status 1
      else if !first.contains name && !options.has "N" then
        put (octets "Only in " ++ other ++ octets ": " ++ name ++ ['\n'])
        status := max status 1
      else
        match ← isDirectoryName here, ← isDirectoryName there with
        | true, true =>
          if options.has "r" then status := max status (← diffDirectories call options front fuel here there)
          else put (octets "Common subdirectories: " ++ here ++ octets " and " ++ there ++ ['\n'])
        | true, false | false, true =>
          let tree ← tree
          let kind (name : Octets) : Octets := match tree.find (spelled name) with
            | .ok node => octets (kindWords node)
            | .error _ => []
          put (octets "File " ++ here ++ octets " is a " ++ kind here ++ octets " while file " ++ there ++
            octets " is a " ++ kind there ++ ['\n'])
          status := max status 1
        | false, false =>
          let before := (← get).keptSize
          let written := (← get).kept.length
          let found ← diffFiles call options here there
          let quiet : Bool := options.has "q"
          -- The call is shown in front of what differs.
          if found = 1 && !quiet && (before, written) ≠ ((← get).keptSize, (← get).kept.length) then
            modify fun shell =>
              let line := octets "diff" ++ front ++ ' ' :: here ++ ' ' :: there ++ ['\n']
              match shell.kept with
              | text :: rest => { shell with kept := text :: line :: rest, keptSize := shell.keptSize + line.length }
              | [] => shell
          status := max status found
    return status

/-- Shows where files differ. -/
def diff (call : Call) : Act Nat :=
  let known : List Choice := [("", "normal", .nothing), ("q", "brief", .nothing), ("s", "report-identical-files", .nothing),
    ("c", "", .nothing), ("C", "", .value), ("", "context", .perhaps), ("u", "", .nothing), ("U", "", .value),
    ("", "unified", .perhaps), ("", "label", .value), ("L", "", .value), ("r", "recursive", .nothing),
    ("N", "new-file", .nothing), ("i", "ignore-case", .nothing), ("b", "ignore-space-change", .nothing),
    ("w", "ignore-all-space", .nothing), ("B", "ignore-blank-lines", .nothing), ("", "strip-trailing-cr", .nothing),
    ("a", "text", .nothing), ("d", "minimal", .nothing), ("", "color", .perhaps), ("Z", "ignore-trailing-space", .nothing),
    ("E", "ignore-tab-expansion", .nothing), ("p", "show-c-function", .nothing), ("t", "expand-tabs", .nothing),
    ("", "no-dereference", .nothing), ("", "speed-large-files", .nothing)]
  let misuse (words : Octets) : Act Nat := do
    let _ ← scold call.name (words ++ ['\n'] ++ call.name ++ octets ": Try '" ++ call.name ++
      octets " --help' for more information.")
    return 2
  match Options.read known true call.arguments with
  | .error words => misuse words
  | .ok options => do
    let options := { options with given := options.given.map fun (key, value) => (if key = "L" then "label" else key, value) }
    match options.rest with
    | [] => misuse (octets "missing operand after " ++ inQuotes (call.arguments.getLast?.getD call.name))
    | [word] => misuse (octets "missing operand after " ++ inQuotes word)
    | [one, other] =>
      match ← isDirectoryName one, ← isDirectoryName other with
      | true, true =>
        let front := (call.arguments.filter fun word => word.head? = some '-' && 1 < word.length).flatMap (' ' :: ·)
        diffDirectories call options front maxDepth one other
      | true, false => diffFiles call options (inside one (lastPart other)) other
      | false, true => diffFiles call options one (inside other (lastPart one))
      | false, false => diffFiles call options one other
    | _ :: _ :: word :: _ => misuse (octets "extra operand " ++ inQuotes word)

end Workyard.Shell.Program
