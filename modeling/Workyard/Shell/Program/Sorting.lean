/-
**Sorting lines.**

Lines are compared by keys, one after another, and at last as a whole. A key is a part of a line with an
order of its own: by octets, by numbers, by months, or by versions.

* `sort`: puts out lines in order.
-/

import Workyard.Shell.Floating
import Workyard.Shell.Program.Plain

namespace Workyard.Shell.Program

/-! ### Orders -/

/-- A number in decimal digits: whether it is negative, and its digits before and behind the point. -/
def decimalFront (text : Octets) : Bool × Octets × Octets :=
  let text := text.dropWhile fun c => c = ' ' || c = '\t' || c = '\n'
  let negative : Bool := text.head? = some '-'
  let text := if negative then text.drop 1 else text
  let whole := text.takeWhile Char.isDigit
  let fraction := match text.drop whole.length with
    | '.' :: rest => rest.takeWhile Char.isDigit
    | _ => []
  (negative, whole.dropWhile (· = '0'), (fraction.reverse.dropWhile (· = '0')).reverse)

/-- The order of two decimal numbers without sign. -/
def bySize (one other : Octets × Octets) : Ordering :=
  ((compare one.1.length other.1.length).then (byOctets one.1 other.1)).then (byOctets one.2 other.2)

/-- The order of the numbers at the fronts of two texts. -/
def byNumber (one other : Octets) : Ordering :=
  let (firstNegative, first) := decimalFront one
  let (secondNegative, second) := decimalFront other
  let isZero (number : Octets × Octets) : Bool := number.1 = [] && number.2 = []
  match firstNegative && !isZero first, secondNegative && !isZero second with
  | false, false => bySize first second
  | true, true => bySize second first
  | true, false => .lt
  | false, true => .gt

/-- The place of the unit behind a number. -/
def unitPlace (text : Octets) : Nat :=
  let text := text.dropWhile fun c => c = ' ' || c = '\t' || c = '-'
  let behind := (text.dropWhile Char.isDigit)
  let behind := match behind with
    | '.' :: rest => rest.dropWhile Char.isDigit
    | rest => rest
  match behind with
  | c :: _ => (("KMGTPEZYRQ".toList.idxOf? (if c = 'k' then 'K' else c)).map (· + 1)).getD 0
  | [] => 0

/-- The order of numbers with units. -/
def byUnits (one other : Octets) : Ordering :=
  let zero : Octets := ['0']
  let sign (text : Octets) : Ordering := byNumber text zero
  match sign one, sign other with
  | .gt, .gt => (compare (unitPlace one) (unitPlace other)).then (byNumber one other)
  | .lt, .lt => (compare (unitPlace other) (unitPlace one)).then (byNumber one other)
  | _, _ => byNumber one other

/-- The order of numbers of any form; what is none comes first. -/
def byFloating (one other : Octets) : Ordering :=
  match Floating.front .extended one, Floating.front .extended other with
  | none, none => .eq
  | none, some _ => .lt
  | some _, none => .gt
  | some (first, _), some (second, _) => match first, second with
    | .notNumber _, .notNumber _ => .eq
    | .notNumber _, _ => .lt
    | _, .notNumber _ => .gt
    | first, second => (Floating.compare? first second).getD .eq

/-- The months. -/
def months : List String :=
  ["JAN", "FEB", "MAR", "APR", "MAY", "JUN", "JUL", "AUG", "SEP", "OCT", "NOV", "DEC"]

/-- The number of the month at the front of a text, zero if there is none. -/
def monthOf (text : Octets) : Nat :=
  let name := String.ofList (((text.dropWhile isSpace).take 3).map Char.toUpper)
  ((months.idxOf? name).map (· + 1)).getD 0

/-- The weight of a character in a version. -/
def versionWeight : Option Char → Int
  | none => -1
  | some c =>
    if c.isDigit then 0
    else if c.isAlpha then c.toNat
    else if c = '~' then -2 else c.toNat + 256

/-- The order of two versions: of digits as numbers, and of all else by weight. -/
def byVersion : Nat → Octets → Octets → Ordering
  | 0, _, _ => .eq
  | fuel + 1, one, other =>
    if one = [] && other = [] then .eq
    else
      let letters (text : Octets) : Octets := text.takeWhile fun c => !c.isDigit
      let (first, second) := (letters one, letters other)
      let length := max first.length second.length
      let weights (text : Octets) : List Int := (List.range length).map fun index => versionWeight text[index]?
      match (((weights one).zip (weights other)).map fun pair => compare pair.1 pair.2).find? (· ≠ .eq) with
      | some order => order
      | none =>
        let digits (text : Octets) : Octets := text.takeWhile Char.isDigit
        let (one, other) := (one.drop length, other.drop length)
        let (first, second) := (digits one, digits other)
        match bySize (first.dropWhile (· = '0'), []) (second.dropWhile (· = '0'), []) with
        | .eq => byVersion fuel (one.drop first.length) (other.drop second.length)
        | order => order

/-- A name without what stands for the kind of a file. -/
def withoutKinds : Nat → Octets → Octets
  | 0, name => name
  | fuel + 1, name =>
    let last := (name.reverse.takeWhile (· ≠ '.')).reverse
    let front := name.take (name.length - last.length - 1)
    match last with
    | c :: more =>
      if last.length < name.length && front ≠ [] && (c.isAlpha || c = '~') &&
          more.all fun c => c.isAlphanum || c = '~' then withoutKinds fuel front
      else name
    | [] => name

/-- The order of two names that hold versions. -/
def byVersionName (one other : Octets) : Ordering :=
  let fuel := one.length + other.length + 2
  let rank (name : Octets) : Nat :=
    if name = [] then 0 else if name = ['.'] then 1 else if name = ['.', '.'] then 2
    else if name.head? = some '.' then 3 else 4
  (compare (rank one) (rank other)).then
    ((byVersion fuel (withoutKinds fuel one) (withoutKinds fuel other)).then (byVersion fuel one other))

/-! ### Keys -/

/-- How a key is compared. -/
structure KeyOrder where
  /-- The letter of the order, none for that of octets. -/
  letter : Option Char := none
  reverse : Bool := false
  folds : Bool := false
  onlyWords : Bool := false
  onlyPrintable : Bool := false
  startBlanks : Bool := false
  endBlanks : Bool := false
deriving DecidableEq

/-- A key: from a field and a character in it to another one. -/
structure Key where
  field : Nat := 0
  character : Nat := 0
  /-- None for the end of the line. -/
  lastField : Option Nat := none
  lastCharacter : Nat := 0
  order : KeyOrder := {}

/-- Whether a character separates fields. -/
def isFieldBlank (c : Char) : Bool := c = ' ' || c = '\t' || c = '\n'

/-- Drops fields from the front. -/
def dropFields (separator : Option Char) : Nat → Octets → Octets
  | 0, text => text
  | count + 1, text => match separator with
    | some separator => dropFields (some separator) count ((text.dropWhile (· ≠ separator)).drop 1)
    | none => dropFields none count ((text.dropWhile isFieldBlank).dropWhile fun c => !isFieldBlank c)

/-- The part of a line that a key stands for. -/
def Key.part (key : Key) (separator : Option Char) (line : Octets) : Octets :=
  let start := dropFields separator key.field line
  let start := if key.order.startBlanks then start.dropWhile isFieldBlank else start
  let begins := line.length - (start.drop key.character).length
  let ends := match key.lastField with
    | none => line.length
    | some last =>
      if key.lastCharacter = 0 then match separator with
        | some separator =>
          let behind := dropFields (some separator) last line
          line.length - behind.length + (behind.takeWhile (· ≠ separator)).length
        | none => line.length - (dropFields none (last + 1) line).length
      else
        let behind := dropFields separator last line
        let behind := if key.order.endBlanks then behind.dropWhile isFieldBlank else behind
        line.length - (behind.drop key.lastCharacter).length
  (line.take ends).drop begins

/-- The order of two parts by the order of a key. -/
def KeyOrder.compare (order : KeyOrder) (one other : Octets) : Ordering :=
  let seen (text : Octets) : Octets :=
    let text := if order.onlyWords then text.filter fun c => c.isAlphanum || isFieldBlank c else text
    let text := if order.onlyPrintable then text.filter isPrintable else text
    if order.folds then text.map Char.toUpper else text
  let result := match order.letter with
    | some 'n' => byNumber one other
    | some 'g' => byFloating one other
    | some 'h' => byUnits one other
    | some 'M' => Ord.compare (monthOf one) (monthOf other)
    | some 'V' => byVersionName one other
    | _ => byOctets (seen one) (seen other)
  if order.reverse then result.swap else result

/-- Adds what a letter says to an order. -/
def KeyOrder.with? (order : KeyOrder) (atStart atEnd : Bool) (letter : Char) : Option KeyOrder :=
  match letter with
  | 'b' => some { order with
      startBlanks := order.startBlanks || atStart, endBlanks := order.endBlanks || atEnd }
  | 'd' => some { order with onlyWords := true }
  | 'f' => some { order with folds := true }
  | 'i' => some { order with onlyPrintable := true }
  | 'r' => some { order with reverse := true }
  | _ => if ['n', 'g', 'h', 'M', 'V', 'R'].contains letter then some { order with letter := some letter }
    else none

/-- Reads the letters behind a place of a key. -/
def orderLetters (atStart : Bool) : Octets → KeyOrder → KeyOrder × Octets
  | [], order => (order, [])
  | c :: rest, order => match order.with? atStart (!atStart) c with
    | some order => orderLetters atStart rest order
    | none => (order, c :: rest)

/-- Reads a key. -/
def Key.ofText (text : Octets) : Except Octets Key := do
  let bad {α : Type} (why : String) : Except Octets α :=
    .error (octets s!"{why}: invalid field specification " ++ inQuotes text)
  let count (why : String) (text : Octets) : Except Octets (Nat × Octets) :=
    let digits := text.takeWhile Char.isDigit
    if digits = [] then .error (octets s!"{why}: invalid count at start of " ++ inQuotes text)
    else .ok (min (valueIn 10 digits) (Nat.pow 2 63), text.drop digits.length)
  let (field, rest) ← count "invalid number at field start" text
  if field = 0 then bad "field number is zero"
  let (character, rest) ← match rest with
    | '.' :: more => do
      let (character, rest) ← count "invalid number after '.'" more
      if character = 0 then bad "character offset is zero"
      pure (character - 1, rest)
    | rest => pure (0, rest)
  let (order, rest) := orderLetters true rest {}
  match rest with
  | [] => return { field := field - 1, character, order }
  | ',' :: more =>
    let (last, rest) ← count "invalid number after ','" more
    if last = 0 then bad "field number is zero"
    let (lastCharacter, rest) ← match rest with
      | '.' :: more => count "invalid number after '.'" more
      | rest => pure (0, rest)
    let (order, rest) := orderLetters false rest order
    if rest ≠ [] then bad "stray character in field spec"
    return { field := field - 1, character, lastField := some (last - 1), lastCharacter, order }
  | _ => bad "stray character in field spec"

/-! ### The program -/

/-- The letters of options that do not go together in an order. -/
def KeyOrder.clash (order : KeyOrder) (letters : List Char) : Option Octets :=
  let kinds := letters.eraseDups.filter fun c => ['n', 'g', 'h', 'M'].contains c
  let others := letters.eraseDups.filter fun c => c = 'R' || c = 'V' || c = 'd' || c = 'i'
  let sorted (letters : List Char) : Octets := letters.mergeSort fun one other => one.toNat ≤ other.toNat
  if 1 < kinds.length || (kinds ≠ [] && others ≠ []) ||
      (order.letter ≠ none && others.any fun c => c = 'd' || c = 'i') then
    some (octets "options '-" ++ sorted (kinds ++ others) ++ octets "' are incompatible")
  else none

/-- What sorting is to do. -/
structure SortPlan where
  keys : List Key
  separator : Option Char
  stable : Bool
  unique : Bool
  reverse : Bool

/-- A line with the parts that its keys stand for. -/
abbrev Keyed := Octets × List Octets

/-- The order of two lines by their keys. -/
def SortPlan.byKeys (plan : SortPlan) (one other : Keyed) : Ordering :=
  ((plan.keys.zip (one.2.zip other.2)).map fun (key, first, second) =>
    key.order.compare first second).find? (· ≠ .eq) |>.getD .eq

/-- The order of two lines. -/
def SortPlan.compare (plan : SortPlan) (one other : Keyed) : Ordering :=
  match plan.byKeys one other with
  | .eq =>
    if plan.stable || plan.unique then .eq
    else
      let whole := byOctets one.1 other.1
      if plan.reverse then whole.swap else whole
  | order => order

/-- A line with the parts that its keys stand for. -/
def SortPlan.keyed (plan : SortPlan) (line : Octets) : Keyed :=
  (line, plan.keys.map fun key => key.part plan.separator line)

/-- Lines in order, of those with the same keys only the first if so wanted. -/
def SortPlan.sorted (plan : SortPlan) (lines : List Octets) : List Octets :=
  let sorted := (lines.map plan.keyed).mergeSort fun one other => plan.compare one other ≠ .gt
  if plan.unique then
    ((sorted.foldl (fun (kept : List Keyed) line => match kept with
      | last :: _ => if plan.byKeys last line = .eq then kept else line :: kept
      | [] => [line]) []).reverse).map (·.1)
  else sorted.map (·.1)

/-- The options of the program. -/
def sortChoices : List Choice :=
  [("b", "ignore-leading-blanks", .nothing), ("d", "dictionary-order", .nothing),
    ("f", "ignore-case", .nothing), ("g", "general-numeric-sort", .nothing),
    ("i", "ignore-nonprinting", .nothing), ("M", "month-sort", .nothing),
    ("h", "human-numeric-sort", .nothing), ("n", "numeric-sort", .nothing),
    ("R", "random-sort", .nothing), ("r", "reverse", .nothing), ("V", "version-sort", .nothing),
    ("c", "", .nothing), ("c", "check", .perhaps), ("C", "", .nothing), ("k", "key", .value),
    ("m", "merge", .nothing), ("o", "output", .value), ("s", "stable", .nothing),
    ("S", "buffer-size", .value), ("t", "field-separator", .value), ("T", "temporary-directory", .value),
    ("u", "unique", .nothing), ("z", "zero-terminated", .nothing), ("", "parallel", .value),
    ("", "debug", .nothing), ("", "sort", .value)]

/-- What options ask for. -/
def SortPlan.ofOptions (options : Options) : Except Octets SortPlan := do
  let letters := options.given.filterMap fun entry => match entry.1.toList with
    | [c] => if ['b', 'd', 'f', 'g', 'i', 'M', 'h', 'n', 'R', 'r', 'V'].contains c then some c else none
    | _ => none
  let order := letters.foldl (fun (order : KeyOrder) c => (order.with? true true c).getD order) {}
  let keys ← (options.all "k").mapM Key.ofText
  let separator ← match options.all "t" with
    | [] => pure none
    | texts => do
      if texts.any (· = []) then throw (octets "empty tab")
      match texts.find? fun text => 1 < text.length && text ≠ ['\\', '0'] with
      | some text => throw (octets "multi-character tab " ++ inQuotes text)
      | none => pure ()
      if 1 < texts.eraseDups.length then throw (octets "incompatible tabs")
      pure ((texts.head?.map fun text => if text = ['\\', '0'] then ['\x00'] else text).bind (·.head?))
  let isPlain (key : Key) : Bool := key.order = {}
  let keys := if keys = [] then [{ order }] else keys.map fun key => if isPlain key then { key with order } else key
  match keys.findSome? fun key =>
      key.order.clash (if key.order = order then letters
        else key.order.letter.toList ++ (if key.order.onlyWords then ['d'] else []) ++
          (if key.order.onlyPrintable then ['i'] else [])) with
  | some words => throw words
  | none => pure ()
  if (options.has "c" || options.has "C") && options.has "o" then
    let letter := if options.has "C" then "C" else "c"
    throw (octets s!"options '-{letter}o' are incompatible")
  if options.has "c" && options.has "C" then throw (octets "options '-cC' are incompatible")
  return { keys, separator, stable := options.has "s", unique := options.has "u", reverse := order.reverse }

/-- Complains about a file. -/
def sortFault (call : Call) (words name : Octets) (fault : IoFault) : Act Nat := do
  let _ ← scold call.name (words ++ octets ": " ++ asWord name ++ octets ": " ++ reason fault)
  return 2

/-- Puts out lines in order, or finds out whether they are. -/
def sort (call : Call) : Act Nat :=
  withOptions sortChoices true 2 call fun options => do
    match SortPlan.ofOptions options with
    | .error words =>
      let _ ← scold call.name words
      return 2
    | .ok plan =>
      let checks : Bool := options.has "c" || options.has "C"
      let ends := if options.has "z" then '\x00' else '\n'
      let bare (line : Octets) : Octets := if line.getLast? = some ends then line.dropLast else line
      let names := inputNames options.rest
      if checks && 1 < names.length then
        let _ ← scold call.name (octets "extra operand " ++ inQuotes (names.getD 1 []) ++
          octets " not allowed with -c")
        return 2
      let mut read : List (List Octets) := []
      for name in names do
        let outcome ← withInput name
          (fun fault => do
            let words := if checks then "open failed" else "cannot read"
            let _ ← sortFault call (octets words) name fault
            return none)
          fun descriptor => do
            let (text, fault) ← readAll descriptor
            match fault with
            | some fault =>
              let _ ← sortFault call (octets "read failed") name fault
              return none
            | none => return some ((piecesOf ends text).map bare)
        match outcome with
        | none => return 2
        | some more => read := more :: read
      let lines := read.reverse.flatten
      if checks then
        let keyed := lines.map plan.keyed
        let wrong := ((keyed.zip (keyed.drop 1)).zipIdx.find? fun ((one, other), _) =>
          match plan.compare one other with
          | .gt => true
          | .eq => plan.unique
          | .lt => false)
        match wrong with
        | none => return 0
        | some ((_, line), index) =>
          if !options.has "C" then
            let _ ← scold call.name (asWord (names.headD []) ++ octets s!":{index + 2}: disorder: " ++ line.1)
          return 1
      else
        let text := (plan.sorted lines).flatMap fun line => line ++ [ends]
        match options.last? "o" with
        | none =>
          put text
          return 0
        | some name => match ← openFile { writes := true, truncates := true } name with
          | .error fault => sortFault call (octets "open failed") name fault
          | .ok handle =>
            let _ ← writeTo (some handle) text
            return 0

end Workyard.Shell.Program
