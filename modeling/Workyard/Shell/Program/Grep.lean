/-
**Looking for lines.**

A line is found if one of several expressions matches in it, perhaps as a whole word or as the whole
line. What is put out of it, and of its neighbours, depends on the options.

* `Search.spans`: the places in a line where it matches;
* `grep`: the program.
-/

import Workyard.Shell.Program.Plain
import Workyard.Shell.RegexSyntax

namespace Workyard.Shell.Program

/-- What is looked for, and what is put out. -/
structure Search where
  expressions : List Regex := []
  ignoresCase : Bool := false
  wholeWords : Bool := false
  wholeLines : Bool := false
  /-- Whether the lines are wanted in which nothing matches. -/
  inverted : Bool := false
  /-- Whether only the number of lines is wanted. -/
  counts : Bool := false
  /-- Whether only the names of files are wanted, of those with lines or of those without. -/
  names : Option Bool := none
  silent : Bool := false
  numbers : Bool := false
  offsets : Bool := false
  titles : Bool := false
  onlyMatches : Bool := false
  most : Option Nat := none
  before : Nat := 0
  after : Nat := 0
  separator : Option Octets := none
  ends : Char := '\n'
  /-- Whether every file is taken for text. -/
  asText : Bool := false
  nameEnd : Char := ':'

namespace Search

/-- Where the expressions match from a place on, the longest first. -/
def stopsAt (search : Search) (matching : Matching) (start : Nat) : List Nat :=
  let stops := search.expressions.flatMap fun regex =>
    (matching.ends regex ⟨start, []⟩).map (·.position)
  let stops := if search.expressions.length ≤ 1 then stops
    else stops.mergeSort fun one other => other ≤ one
  let accepts (stop : Nat) : Bool :=
    if search.wholeLines then start = 0 && stop = matching.text.size
    else if search.wholeWords then !matching.isWordBefore start && !matching.isWordAt stop
    else true
  stops.filter accepts

/-- The first place from another on where the expressions match. -/
def spanFrom (search : Search) (matching : Matching) : Nat → Nat → Option (Nat × Nat)
  | 0, _ => none
  | fuel + 1, start =>
    match search.stopsAt matching start with
    | stop :: _ => some (start, stop)
    | [] => spanFrom search matching fuel (start + 1)

/-- Whether a line is found. -/
def finds (search : Search) (matching : Matching) : Bool :=
  (if search.wholeLines then !(search.stopsAt matching 0).isEmpty
  else (search.spanFrom matching (matching.text.size + 1) 0).isSome) != search.inverted

/-- The places from another on in which it matches something. -/
def spansFrom (search : Search) (matching : Matching) : Nat → Nat → List (Nat × Nat)
  | 0, _ => []
  | fuel + 1, start =>
    match search.spanFrom matching (matching.text.size + 1 - start) start with
    | none => []
    | some (first, last) =>
      if first = last then spansFrom search matching fuel (first + 1)
      else (first, last) :: spansFrom search matching fuel last

/-- The places in which it matches something. -/
def spans (search : Search) (matching : Matching) : List (Nat × Nat) :=
  search.spansFrom matching (matching.text.size + 1) 0

end Search

/-- How far a search in a file has come. -/
structure Searched where
  number : Nat := 0
  offset : Nat := 0
  /-- The number of lines that were found. -/
  found : Nat := 0
  /-- The last lines, newest first. -/
  last : List (Nat × Nat × Octets) := []
  /-- The number of lines that are still wanted behind the last one found. -/
  wanted : Nat := 0
  /-- The number of the last line that was put out. -/
  shown : Option Nat := none
  binary : Bool := false

/-- A line as it is put out behind what is known about it. -/
def Search.line (search : Search) (name : Octets) (mark : Char) (number offset : Nat) (text : Octets) : Octets :=
  (if search.titles then name ++ [if search.nameEnd = ':' then mark else search.nameEnd] else []) ++
    (if search.numbers then decimal number ++ [mark] else []) ++
    (if search.offsets then decimal offset ++ [mark] else []) ++ text ++ [search.ends]

/-- The name under which a file is put out. -/
def searchTitle (label : Octets) (name : Octets) : Octets := if name = ['-'] then label else name

/-- Looks for lines in a file; gives the number of those that were found. -/
def Search.file (search : Search) (label name : Octets) (anyShown : Bool) (descriptor : Nat) :
    Act ((Nat × Bool) × Option IoFault) := do
  let title := searchTitle label name
  let quiet : Bool := search.silent || search.counts || search.names.isSome
  let context : Bool := 0 < search.before || 0 < search.after
  let start : Searched := {}
  if search.most = some 0 then return ((0, anyShown), none)
  let (state, fault) ← eachSeenLine search.ends descriptor
    (fun state chunk => if !search.asText && search.ends ≠ '\x00' && chunk.contains '\x00' then
      { state with binary := true } else state)
    (fun state text _ => do
      let number := state.number + 1
      let offset := state.offset
      let state := { state with number, offset := offset + text.length + 1 }
      let matching : Matching := { text := text.toArray, ignoresCase := search.ignoresCase }
      let enough : Bool := search.most.any fun most => most ≤ state.found
      if !enough && search.finds matching then
        let state := { state with found := state.found + 1 }
        if search.silent || search.names.isSome then return (state, false)
        else if state.binary && !search.counts then return (state, false)
        else
          let ended : Bool := search.most = some state.found
          if quiet then return (state, !ended)
          else
            let earlier := state.last.reverse.filter fun line => state.shown.all (· < line.1)
            let first := ((earlier.head?).map (·.1)).getD number
            let gap : Bool := match state.shown with
              | some shown => shown + 1 < first
              | none => anyShown
            if context && gap then
              match search.separator with
              | some separator => put (separator ++ ['\n'])
              | none => pure ()
            if !search.onlyMatches then
              for (number, offset, text) in earlier do
                put (search.line title '-' number offset text)
              put (search.line title ':' number offset text)
            else if !search.inverted then
              for (first, last) in search.spans matching do
                put (search.line title ':' number (offset + first) ((text.take last).drop first))
            return ({ state with last := [], shown := some number, wanted := search.after }, !ended || 0 < search.after)
      else if enough then
        if 0 < state.wanted && !quiet then
          if !search.onlyMatches then put (search.line title '-' number offset text)
          return ({ state with wanted := state.wanted - 1 }, 1 < state.wanted)
        else return (state, false)
      else if 0 < state.wanted && !quiet then
        if !search.onlyMatches then put (search.line title '-' number offset text)
        return ({ state with wanted := state.wanted - 1, shown := some number }, true)
      else return ({ state with last := ((number, offset, text) :: state.last).take search.before }, true)) start
  if state.binary && 0 < state.found && !quiet then
    put ((← get).title ++ octets ": " ++ title ++ octets ": binary file matches\n")
  match search.names with
  | some withLines =>
    if !search.silent && withLines = decide (0 < state.found) && fault.isNone then
      put (title ++ [if search.nameEnd = ':' then '\n' else search.nameEnd])
  | none =>
    if search.counts && !search.silent && fault.isNone then
      put ((if search.titles then title ++ [search.nameEnd] else []) ++ decimal state.found ++ ['\n'])
  return ((state.found, anyShown || state.shown.isSome), fault)

/-- The options of the program. -/
def grepChoices : List Choice :=
  [("E", "extended-regexp", .nothing), ("F", "fixed-strings", .nothing), ("G", "basic-regexp", .nothing),
    ("P", "perl-regexp", .nothing), ("e", "regexp", .value), ("f", "file", .value),
    ("i", "ignore-case", .nothing), ("y", "", .nothing), ("", "no-ignore-case", .nothing),
    ("w", "word-regexp", .nothing), ("x", "line-regexp", .nothing), ("z", "null-data", .nothing),
    ("s", "no-messages", .nothing), ("v", "invert-match", .nothing), ("V", "version", .nothing),
    ("m", "max-count", .value), ("b", "byte-offset", .nothing), ("n", "line-number", .nothing),
    ("", "line-buffered", .nothing), ("H", "with-filename", .nothing), ("h", "no-filename", .nothing),
    ("", "label", .value), ("o", "only-matching", .nothing), ("q", "quiet", .nothing),
    ("q", "silent", .nothing), ("", "binary-files", .value), ("a", "text", .nothing), ("I", "", .nothing),
    ("d", "directories", .value), ("D", "devices", .value), ("r", "recursive", .nothing),
    ("R", "dereference-recursive", .nothing), ("", "include", .value), ("", "exclude", .value),
    ("", "exclude-dir", .value), ("L", "files-without-match", .nothing), ("l", "files-with-matches", .nothing),
    ("c", "count", .nothing), ("T", "initial-tab", .nothing), ("Z", "null", .nothing),
    ("B", "before-context", .value), ("A", "after-context", .value), ("C", "context", .value),
    ("", "color", .perhaps), ("", "colour", .perhaps), ("U", "binary", .nothing), ("u", "unix-byte-offsets", .nothing),
    ("", "group-separator", .value), ("", "no-group-separator", .nothing)]

/-- The words about how the program is used. -/
def grepUsage : Octets :=
  octets "Usage: grep [OPTION]... PATTERNS [FILE]...\nTry 'grep --help' for more information.\n"

/-- The expression that matches a text as it is. -/
def literally (text : Octets) : Regex :=
  text.foldr (fun c regex => .sequence (.character ⟨false, [(c, c)]⟩) regex) .nothing

/-- The way in which the patterns are written. -/
def patternKind (options : Options) : Except Unit String :=
  match (options.given.filter fun entry => ["E", "F", "G", "P"].contains entry.1).reverse.map (·.1) with
  | [] => .ok "G"
  | kind :: others => if others.all (· = kind) then .ok kind else .error ()

/-- The arguments with a number in the place of an option made the context. -/
def withContext (arguments : List Octets) : List Octets :=
  arguments.map fun word => match word with
    | '-' :: digits => if isDigits digits then '-' :: 'C' :: digits else word
    | word => word

/-- The names of the files in directories. -/
def filesWithin : Nat → Bool → Octets → Act (List Octets)
  | 0, _, name => return [name]
  | fuel + 1, top, name => do
    let text := if name = [] then ['.'] else name
    match (← tree).find (spelled text) top, (← tree).locate (spelled text) top with
    | .ok ⟨.directory, _, _⟩, .ok location =>
      let children := (← tree).children location.path
      let found ← children.mapM fun child =>
        let inside := if name = [] then octets child else if name.getLast? = some '/' then name ++ octets child
          else name ++ '/' :: octets child
        filesWithin fuel false inside
      return found.flatten
    | .ok ⟨.file _, _, _⟩, _ => return [name]
    | .ok _, _ => return if top then [name] else []
    | .error _, _ => return [name]

/-- Looks for lines. -/
def grepWith (call : Call) (preset : List Octets) : Act Nat := do
  let usage : Act Nat := do
    write 2 grepUsage
    return 2
  match Options.read grepChoices true (withContext (preset ++ call.arguments)) with
  | .error words =>
    let _ ← scold call.name words
    usage
  | .ok options =>
    let given (keys : List String) : Bool := keys.any options.has
    let explicit ← options.given.mapM fun (key, value) => do
      match key with
      | "e" => return some (some (value.splitOn '\n'))
      | "f" => match ← contents? call.name value with
        | some text => return some (some (bareLinesOf text))
        | none => return some none
      | _ => return none
    let explicit := explicit.filterMap fun patterns => patterns
    if explicit.any (·.isNone) then return 2
    else if explicit = [] && options.rest = [] then usage
    else match patternKind options with
      | .error () =>
        let _ ← scold call.name (octets "conflicting matchers specified")
        return 2
      | .ok kind =>
        let patterns := if explicit = [] then (options.rest.headD []).splitOn '\n'
          else (explicit.filterMap fun patterns => patterns).flatten
        let names := if explicit = [] then options.rest.drop 1 else options.rest
        let dialect : Dialect := { extended := kind = "E" || kind = "P", strict := !(kind = "E") }
        let read : Except RegexFault (List (Regex × List String)) := patterns.mapM fun pattern =>
          if kind = "F" then .ok (literally pattern, [])
          else (Regex.read dialect pattern).map fun (regex, _, warnings) => (regex, warnings)
        match read with
        | .error fault =>
          let _ ← scold call.name (octets fault.words)
          return 2
        | .ok read =>
          if options.has "u" then
            let _ ← scold call.name (octets "warning: --unix-byte-offsets (-u) is obsolete")
          for warning in read.flatMap (·.2) do
            let _ ← scold call.name (octets s!"warning: {warning}")
          let contexts := [("A", options.last? "A"), ("B", options.last? "B"), ("C", options.last? "C")]
          match contexts.findSome? fun entry => entry.2.bind fun text => if isDigits text then none else some text with
          | some text =>
            let _ ← scold call.name (text ++ octets ": invalid context length argument")
            return 2
          | none =>
          let context (key : String) : Nat :=
            (((options.last? key).or (options.last? "C")).map (valueIn 10)).getD 0
          let most := options.last? "m"
          if most.any fun text => (signed? text).isNone then
            let _ ← scold call.name (octets "invalid max count")
            return 2
          else
            let deep : Bool := given ["r", "R"] || options.last? "d" = some (octets "recurse")
            let names := if names = [] then [if deep then [] else ['-']] else names
            let several : Bool := 1 < names.length || deep
            let namesWanted : Option Bool := match options.lastOf? ["l", "L"] with
              | some "l" => some true
              | some _ => some false
              | none => none
            let search : Search := {
              expressions := read.map (·.1), ignoresCase := given ["i", "y"], wholeWords := given ["w"]
              wholeLines := given ["x"], inverted := given ["v"], counts := given ["c"]
              names := namesWanted, silent := given ["q"], numbers := given ["n"]
              offsets := given ["b"], onlyMatches := given ["o"]
              titles := match options.lastOf? ["H", "h"] with
                | some "H" => true
                | some _ => false
                | none => several
              most := most.bind fun text => (signed? text).bind fun value =>
                if value < 0 then none else some value.toNat
              before := if given ["o"] then 0 else context "B"
              after := if given ["o"] then 0 else context "A"
              separator := if given ["no-group-separator"] then none
                else some ((options.last? "group-separator").getD (octets "--"))
              ends := if given ["z"] then '\x00' else '\n'
              asText := given ["a", "U"] || options.last? "binary-files" = some (octets "text")
              nameEnd := if given ["Z"] then '\x00' else ':' }
            let label := (options.last? "label").getD (octets "(standard input)")
            let chosen (name : Octets) : Bool :=
              let last := lastPart name
              let fits (key : String) : List Bool := (options.all key).map fun text =>
                (Pattern.ofMarked {} (text.length + 1) (text.map (·, true))).matches last
              ((fits "include").any (fun fit => fit) || options.all "include" = []) &&
                !(fits "exclude").any fun fit => fit
            let names ← if deep then do
                let found ← names.mapM (filesWithin 100 true)
                pure (found.flatten.filter chosen)
              else pure names
            let mut found := false
            let mut failed := false
            let mut shown := false
            for name in names do
              if !(search.silent && found) then
                let complain (fault : IoFault) : Act Unit := do
                  if !options.has "s" then
                    let _ ← scold call.name ((if name = ['-'] then label else name) ++ octets ": " ++ reason fault)
                let (count, wasShown, wrong) ← withInput name
                  (fun fault => do
                    complain fault
                    return (0, shown, true))
                  fun descriptor => do
                    let ((count, wasShown), fault) ← search.file label name shown descriptor
                    match fault with
                    | none => return (count, wasShown, false)
                    | some fault =>
                      if options.last? "d" = some (octets "skip") then return (count, wasShown, false)
                      else
                        complain fault
                        return (count, wasShown, true)
                if 0 < count then found := true
                if wrong then failed := true
                shown := wasShown
            return if failed && !(search.silent && found) then 2 else if found then 0 else 1

/-- Looks for lines. -/
def grep (call : Call) : Act Nat := grepWith call []

/-- Looks for lines by extended expressions. -/
def egrep (call : Call) : Act Nat := grepWith { call with name := octets "grep" } [octets "-E"]

/-- Looks for lines by texts as they are. -/
def fgrep (call : Call) : Act Nat := grepWith { call with name := octets "grep" } [octets "-F"]

/-- Looks for lines in directories. -/
def rgrep (call : Call) : Act Nat := grepWith { call with name := octets "grep" } [octets "-r"]

end Workyard.Shell.Program
