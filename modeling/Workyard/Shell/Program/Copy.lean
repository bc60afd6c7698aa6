/-
**Programs that put out what they read.**

They put out all of it or a part, perhaps with the invisible made visible, or in reverse.
-/

import Workyard.Shell.Program.Plain

namespace Workyard.Shell.Program

/-- The words for a file that only programs of this kind read. -/
def forReading (name : Octets) (fault : IoFault) : Octets :=
  octets "cannot open " ++ asQuotedWord name ++ octets " for reading: " ++ reason fault

/-! ### Whole files -/

/-- How files are put out. -/
structure Display where
  numbers : Bool := false
  /-- Only lines that are not empty have numbers. -/
  onlyFull : Bool := false
  squeezes : Bool := false
  ends : Bool := false
  tabs : Bool := false
  hidden : Bool := false

/-- What is known while files are put out: the number of the line, whether it is at its beginning, and
the number of ends of lines that came last. -/
structure Displayed where
  number : Nat := 0
  ends : Nat := 1

/-- An octet with the invisible made visible. -/
def shown (display : Display) (c : Char) : Octets :=
  if c = '\t' then (if display.tabs then ['^', 'I'] else [c])
  else if !display.hidden then [c]
  else
    let low (value : Nat) : Octets :=
      if value < 32 then ['^', Char.ofNat (value + 64)]
      else if value = 127 then ['^', '?'] else [Char.ofNat value]
    if c.toNat < 128 then low c.toNat else 'M' :: '-' :: low (c.toNat - 128)

/-- Puts out a text with what is to be seen in it. -/
def display (how : Display) : Octets → Displayed → Octets → Octets × Displayed
  | [], state, read => (read.reverse, state)
  | c :: rest, state, read =>
    if c = '\n' && how.squeezes && 2 ≤ state.ends then display how rest state read
    else
      let counts : Bool := state.ends ≠ 0 && how.numbers && !(how.onlyFull && c = '\n')
      let number := if counts then state.number + 1 else state.number
      let front := if counts then rightIn 6 (decimal number) ++ ['\t'] else []
      if c = '\n' then
        display how rest { number, ends := state.ends + 1 }
          ('\n' :: (if how.ends then ['$'] else []) ++ front.reverse ++ read)
      else
        let text := if c = '\x0d' && how.ends && rest.head? = some '\n' then ['^', 'M'] else shown how c
        display how rest { number, ends := 0 } (text.reverse ++ front.reverse ++ read)

/-- The file that a descriptor leads to. -/
def openedAt (descriptor : Nat) : Act (Option Opened) := do
  match ← handle? descriptor with
  | some (.file index) => return (← world).opened.lookup index
  | _ => return none

/-- Whether a descriptor reads what is still to be written. -/
def readsItself (descriptor : Nat) : Act Bool := do
  match ← openedAt descriptor, ← openedAt 1 with
  | some input, some output =>
    let size := match ((← tree).node? output.node).map Files.Node.kind with
      | some (.file content) => content.length
      | _ => 0
    let place := if output.appends then size else output.position
    return input.node = output.node && input.position < place
  | _, _ => return false

/-- Puts out files one after another. -/
def cat (call : Call) : Act Nat :=
  let known : List Choice := [("b", "number-nonblank", .nothing), ("n", "number", .nothing),
    ("s", "squeeze-blank", .nothing), ("v", "show-nonprinting", .nothing), ("E", "show-ends", .nothing),
    ("T", "show-tabs", .nothing), ("A", "show-all", .nothing), ("e", "", .nothing), ("t", "", .nothing),
    ("u", "", .nothing)]
  withOptions known true 1 call fun options => do
    let any (keys : List String) : Bool := keys.any options.has
    let how : Display := {
      numbers := any ["n", "b"], onlyFull := any ["b"], squeezes := any ["s"]
      ends := any ["E", "A", "e"], tabs := any ["T", "A", "t"], hidden := any ["v", "A", "e", "t"] }
    let plain : Bool := !(how.numbers || how.squeezes || how.ends || how.tabs || how.hidden)
    if (← handle? 1).isNone then
      write 2 (call.name ++ octets ": standard output: Bad file descriptor\n")
      return 1
    let mut state : Displayed := {}
    let mut status := 0
    for name in inputNames options.rest do
      let (result, wrong) ← withInput name
        (fun fault => do
          let _ ← scoldFile call.name name fault
          return (state, true))
        fun descriptor => do
          if ← readsItself descriptor then
            let _ ← scold call.name (asWord name ++ octets ": input file is output file")
            return (state, true)
          else
            let (result, fault) ← eachChunk descriptor (fun state chunk => do
              if plain then
                putNow chunk
                return (state, true)
              else
                let (text, state) := display how chunk state []
                putNow text
                return (state, true)) state
            match fault with
            | some fault =>
              let _ ← scoldFile call.name name fault
              return (result, true)
            | none => return (result, false)
      state := result
      if wrong then status := 1
    return status

/-- Puts out the lines of files, the last first. -/
def tac (call : Call) : Act Nat :=
  withOptions [("b", "before", .nothing), ("r", "regex", .nothing), ("s", "separator", .value)] true 1 call
    fun options => do
      let separator := ((options.last? "s").getD ['\n']).headD '\n'
      let mut status := 0
      for name in inputNames options.rest do
        let text? ← withInput name
          (fun fault => do
            let _ ← scold call.name (octets "failed to open " ++ asQuotedWord name ++
              octets " for reading: " ++ reason fault)
            return none)
          fun descriptor => do
            let (text, fault) ← readAll descriptor
            if fault.isSome then
              let _ ← scold call.name (asWord name ++ octets ": read error: Invalid argument")
              return none
            else return some text
        match text? with
        | none => status := 1
        | some text => put (piecesOf separator text).reverse.flatten
      return status

/-- Puts out what it reads, and writes it into files too. -/
def tee (call : Call) : Act Nat :=
  withOptions [("a", "append", .nothing), ("i", "ignore-interrupts", .nothing), ("p", "", .nothing)] true 1 call
    fun options => do
      let mut descriptors := []
      let mut status := 0
      for (name, index) in options.rest.zipIdx do
        match ← openFile { writes := true, appends := options.has "a", truncates := !options.has "a" } name with
        | .ok handle =>
          setHandle (inputDescriptor + index) (some handle)
          descriptors := (inputDescriptor + index, name) :: descriptors
        | .error fault =>
          let _ ← scoldFile call.name name fault
          status := 1
      let outputs := (1, octets "standard output") :: descriptors.reverse
      let (broken, _) ← eachChunk 0 (fun (broken : List Nat) chunk => do
        let mut broken := broken
        for (descriptor, name) in outputs do
          if !broken.contains descriptor then
            match ← writeAll descriptor chunk with
            | .ok () => pure ()
            | .error fault =>
              let shown := if descriptor = 1 then inQuotes name else asWord name
              write 2 (call.name ++ octets ": " ++ shown ++ octets ": " ++ reason fault ++ ['\n'])
              broken := descriptor :: broken
        return (broken, broken.length < outputs.length)) []
      return if broken = [] then status else 1

/-! ### Parts of files -/

/-- How much of a file is wanted. -/
structure Amount where
  count : Nat := 10
  /-- Octets and not lines. -/
  ofOctets : Bool := false
  /-- Counted from the other end. -/
  otherEnd : Bool := false

/-- What several files are put out with: a title in front of each. -/
def titled (name : Octets) (first : Bool) : Octets :=
  (if first then [] else ['\n']) ++ octets "==> " ++
    (if name = ['-'] then octets "standard input" else name) ++ octets " <==\n"

/-- The options of programs that put out parts of files. -/
def partChoices : List Choice :=
  [("n", "lines", .value), ("c", "bytes", .value), ("q", "quiet", .nothing), ("q", "silent", .nothing),
    ("v", "verbose", .nothing), ("z", "zero-terminated", .nothing)]

/-- The amount that options ask for; `other` is the sign of what is counted from the other end. -/
def amount? (other same : Char) (options : Options) : Except Octets Amount :=
  match options.given.reverse.find? fun entry => entry.1 = "n" || entry.1 = "c" with
  | none => .ok {}
  | some (key, text) =>
    let ofOctets : Bool := key = "c"
    let otherEnd : Bool := text.head? = some other
    let digits := if otherEnd || text.head? = some same then text.drop 1 else text
    let wrong := octets (if ofOctets then "invalid number of bytes: " else "invalid number of lines: ")
    match multiple? digits with
    | none => .error (wrong ++ inQuotes digits)
    | some count =>
      if Nat.pow 2 64 ≤ count then .error (wrong ++ inQuotes digits ++ octets ": Value too large for defined data type")
      else .ok { count, ofOctets, otherEnd }

/-- The options in the argument at the front in the old form of a number and letters. -/
def oldForm (signs letters : Octets) : List Octets → List Octets
  | (sign :: c :: text) :: rest =>
    let digits := (c :: text).takeWhile Char.isDigit
    let more := (c :: text).drop digits.length
    if signs.contains sign && digits ≠ [] && more.all letters.contains then
      let unit := if more.contains 'c' then octets "-c" else octets "-n"
      unit :: (if sign = '+' then sign :: digits else digits) :: (more.filter fun c => c = 'q' || c = 'v' || c = 'z' || c = 'f').map (fun c => ['-', c]) ++ rest
    else (sign :: c :: text) :: rest
  | arguments => arguments

/-- Does the work of a program that puts out parts of files. -/
def partsOf (call : Call) (known : List Choice) (other same : Char) (arguments : List Octets)
    (odd : Octets) (work : Options → Amount → Nat → Act (Option IoFault)) : Act Nat := do
  match Options.read known true arguments with
  | .error words =>
    let start := octets "invalid option -- '"
    let letter := (words.drop start.length).headD ' '
    if start.isPrefixOf words && letter.isDigit then
      if odd.head? = some 'o' then scold call.name (odd ++ [letter])
      else misused call.name (odd ++ [letter])
    else misused call.name words
  | .ok options => match amount? other same options with
    | .error words => scold call.name words
    | .ok amount =>
      let names := inputNames options.rest
      let titles : Bool := options.has "v" || (1 < names.length && !options.has "q")
      let mut status := 0
      let mut first := true
      for name in names do
        let (wrong, opened) ← withInput name
          (fun fault => do
            let _ ← scold call.name (forReading name fault)
            return (true, false))
          fun descriptor => do
            if titles then put (titled name first)
            match ← work options amount descriptor with
            | none => return (false, true)
            | some fault =>
              let name := if name = ['-'] then octets "standard input" else name
              let _ ← scold call.name (octets "error reading " ++ asQuotedWord name ++ octets ": " ++
                reason fault)
              return (true, true)
        if opened then first := false
        if wrong then status := 1
      return status

/-- Puts out the first part of files. -/
def head (call : Call) : Act Nat :=
  let arguments := oldForm ['-'] (octets "bckmlqvz") call.arguments
  partsOf call partChoices '-' '+' arguments (octets "invalid trailing option -- ") fun options amount descriptor => do
    let ends := if options.has "z" then '\x00' else '\n'
    if amount.otherEnd then
      let (text, fault) ← readAll descriptor
      if amount.ofOctets then put (text.take (text.length - amount.count))
      else
        let lines := piecesOf ends text
        put (lines.take (lines.length - amount.count)).flatten
      return fault
    else if amount.count = 0 then return none
    else if amount.ofOctets then
      let (_, fault) ← eachChunk descriptor (fun left chunk => do
        put (chunk.take left)
        if left < chunk.length then giveBack descriptor (chunk.length - left)
        return (left - chunk.length, chunk.length < left)) amount.count
      return fault
    else
      let (_, fault) ← eachLine ends descriptor (fun left line complete => do
        put (if complete then line ++ [ends] else line)
        return (left - 1, 1 < left)) amount.count
      return fault

/-- Puts out the last part of files. -/
def tail (call : Call) : Act Nat :=
  let known : List Choice := partChoices ++ [("f", "", .nothing), ("f", "follow", .perhaps),
    ("F", "", .nothing), ("s", "sleep-interval", .value), ("", "pid", .value), ("", "retry", .nothing)]
  let old : Bool := call.arguments.length = 1 ||
    (call.arguments.length = 2 && !((call.arguments.getD 1 []).head? = some '-' &&
      1 < (call.arguments.getD 1 []).length))
  let arguments := if old then oldForm ['-', '+'] (octets "bcfl") call.arguments else call.arguments
  partsOf call known '+' '-' arguments (octets "option used in invalid context -- ") fun options amount descriptor => do
    let ends := if options.has "z" then '\x00' else '\n'
    let fault ← if amount.otherEnd then do
        let (text, fault) ← readAll descriptor
        if amount.ofOctets then put (text.drop (amount.count - 1))
        else put ((piecesOf ends text).drop (amount.count - 1)).flatten
        pure fault
      else if amount.ofOctets then do
        let (text, fault) ← readAll descriptor
        put (text.drop (text.length - amount.count))
        pure fault
      else do
        let ((last, _), fault) ← eachLine ends descriptor (fun (state : List Octets × Nat) line complete => do
          let (lines, size) := state
          let lines := (if complete then line ++ [ends] else line) :: lines
          if 2 * amount.count + 1000 < size then return ((lines.take amount.count, amount.count), true)
          else return ((lines, size + 1), true)) ([], 0)
        put (last.take amount.count).reverse.flatten
        pure fault
    if options.has "f" || options.has "F" then
      flush
      waitForEver
    else return fault

end Workyard.Shell.Program
