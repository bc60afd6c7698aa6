/-
**What programs have in common.**

A program is called by a name, which stands in front of its complaints, and with arguments, of which
some are options. Options may stand between other arguments.

* `Options.read`: the options and the other arguments;
* `withInput`: the use of a file to read from;
* `eachChunk`, `eachLine`: going through what is read piece by piece.
-/

import Workyard.Shell.Program.Quoting
import Workyard.Shell.Stream

namespace Workyard.Shell

/-- How a program is called. -/
structure Call where
  /-- The name it was started with. -/
  name : Octets
  arguments : List Octets

namespace Program

/-- The octets that a program keeps before it writes them. -/
def keptRoom : Nat := 4096

/-- The words for a fault of a file. -/
def reason (fault : IoFault) : Octets := octets fault.reason

/-- Writes at once what a program puts out; it ends if that cannot be done. -/
def putNow (text : Octets) : Act Unit := do
  match ← writeAll 1 text with
  | .ok () => pure ()
  | .error fault =>
    write 2 ((← get).title ++ octets ": write error: " ++ reason fault ++ ['\n'])
    finish (.exited 1)

/-- Writes what is kept. -/
def flush : Act Unit := do
  let kept := (← get).kept
  modify fun shell => { shell with kept := [], keptSize := 0 }
  if !kept.isEmpty then putNow kept.reverse.flatten

/-- Puts out a text, which is kept until there is enough to be written. -/
def put (text : Octets) : Act Unit := do
  modify fun shell => { shell with
    kept := text :: shell.kept, keptSize := shell.keptSize + text.length }
  let shell ← get
  if keptRoom < shell.keptSize then
    let text := shell.kept.reverse.flatten
    let count := shell.keptSize - shell.keptSize % keptRoom
    modify fun shell => { shell with kept := [text.drop count], keptSize := shell.keptSize % keptRoom }
    putNow (text.take count)

/-- Writes the complaint of a program behind all that it has put out. -/
def scold (program words : Octets) : Act Nat := do
  flush
  write 2 (program ++ [':', ' '] ++ words ++ ['\n'])
  return 1

/-- The hint behind a complaint about how a program is used. -/
def hint (program : Octets) : Octets :=
  octets "\nTry '" ++ program ++ octets " --help' for more information."

/-- Complains about how a program is used. -/
def misused (program words : Octets) : Act Nat := scold program (words ++ hint program)

/-! ### Options -/

/-- Whether an option has a value. -/
inductive Needs where
  | nothing
  | value
  /-- Only in the same argument. -/
  | perhaps
deriving DecidableEq, Repr

/-- An option: its letter or nothing, its long name or nothing, and whether it has a value. It goes by its
letter, or by its long name if it has no letter. -/
abbrev Choice := String × String × Needs

/-- The options that were given, in order, with their values, and the other arguments. -/
structure Options where
  given : List (String × Octets) := []
  rest : List Octets := []

namespace Options

/-- Whether an option was given. -/
def has (options : Options) (key : String) : Bool := options.given.any (·.1 = key)

/-- The last value of an option. -/
def last? (options : Options) (key : String) : Option Octets :=
  (options.given.reverse.find? (·.1 = key)).map (·.2)

/-- All values of an option. -/
def all (options : Options) (key : String) : List Octets :=
  (options.given.filter (·.1 = key)).map (·.2)

/-- The last of several options that was given. -/
def lastOf? (options : Options) (keys : List String) : Option String :=
  (options.given.reverse.find? fun entry => keys.contains entry.1).map (·.1)

/-- The key of an option. -/
def key (choice : Choice) : String := if choice.1 = "" then choice.2.1 else choice.1

/-- Reads the letters of an argument. -/
def letters (known : List Choice) : Octets → List Octets → List (String × Octets) →
    Except Octets (List (String × Octets) × List Octets)
  | [], rest, read => .ok (read, rest)
  | letter :: more, rest, read =>
    match known.find? fun choice => choice.1 = String.singleton letter with
    | none => .error (octets "invalid option -- '" ++ [letter, '\''])
    | some choice => match choice.2.2, more, rest with
      | .nothing, more, rest => letters known more rest ((key choice, []) :: read)
      | .perhaps, more, rest => .ok ((key choice, more) :: read, rest)
      | .value, [], [] => .error (octets "option requires an argument -- '" ++ [letter, '\''])
      | .value, [], value :: rest => .ok ((key choice, value) :: read, rest)
      | .value, more, rest => .ok ((key choice, more) :: read, rest)

/-- Reads a long option. -/
def long (known : List Choice) (word : Octets) (rest : List Octets) (read : List (String × Octets)) :
    Except Octets (List (String × Octets) × List Octets) :=
  let name := word.takeWhile (· ≠ '=')
  let value := if name.length < word.length then some (word.drop (name.length + 1)) else none
  let exact := known.filter fun choice => choice.2.1 ≠ "" && choice.2.1.toList = name
  let close := known.filter fun choice => choice.2.1 ≠ "" && name.isPrefixOf choice.2.1.toList
  match exact.head?.or (if (close.map key).eraseDups.length = 1 then close.head? else none) with
  | none =>
    if close = [] then .error (octets "unrecognized option '--" ++ name ++
      (if value.isSome then word.drop name.length else []) ++ ['\''])
    else .error (octets "option '" ++ octets "--" ++ word ++ octets "' is ambiguous; possibilities:" ++
      close.flatMap fun choice => octets s!" '--{choice.2.1}'")
  | some choice => match choice.2.2, value, rest with
    | .nothing, none, rest => .ok ((key choice, []) :: read, rest)
    | .nothing, some _, _ => .error (octets s!"option '--{choice.2.1}' doesn't allow an argument")
    | .perhaps, value, rest => .ok ((key choice, value.getD []) :: read, rest)
    | .value, some value, rest => .ok ((key choice, value) :: read, rest)
    | .value, none, value :: rest => .ok ((key choice, value) :: read, rest)
    | .value, none, [] => .error (octets s!"option '--{choice.2.1}' requires an argument")

/-- Reads arguments behind options and other arguments, which come in reverse. -/
def readFrom (known : List Choice) (mixed : Bool) : Nat → List Octets → List (String × Octets) →
    List Octets → Except Octets Options
  | 0, rest, given, others => .ok ⟨given.reverse, others.reverse ++ rest⟩
  | _, [], given, others => .ok ⟨given.reverse, others.reverse⟩
  | _, ['-', '-'] :: rest, given, others => .ok ⟨given.reverse, others.reverse ++ rest⟩
  | fuel + 1, ('-' :: '-' :: word) :: rest, given, others =>
    match long known word rest given with
    | .ok (given, rest) => readFrom known mixed fuel rest given others
    | .error words => .error words
  | fuel + 1, ('-' :: c :: word) :: rest, given, others =>
    match letters known (c :: word) rest given with
    | .ok (given, rest) => readFrom known mixed fuel rest given others
    | .error words => .error words
  | fuel + 1, word :: rest, given, others =>
    if mixed then readFrom known mixed fuel rest given (word :: others)
    else .ok ⟨given.reverse, others.reverse ++ word :: rest⟩

/-- Reads arguments, of which only those in front are options unless these are `mixed` with others. -/
def read (known : List Choice) (mixed : Bool) (arguments : List Octets) : Except Octets Options :=
  readFrom known mixed (arguments.length + 1) arguments [] []

end Options

/-- Does the work of a program with its options; `misuse` is the status for those that mean nothing. -/
def withOptions (known : List Choice) (mixed : Bool) (misuse : Nat) (call : Call)
    (work : Options → Act Nat) : Act Nat := do
  match Options.read known mixed call.arguments with
  | .ok options => work options
  | .error words =>
    let _ ← misused call.name words
    return misuse

/-- The options with one letter each and no values. -/
def flags (letters : String) : List Choice :=
  letters.toList.map fun c => (String.singleton c, "", .nothing)

/-! ### Numbers in arguments -/

/-- The number of a text with a multiplier behind it. -/
def multiple? (text : Octets) : Option Nat :=
  let digits := text.takeWhile Char.isDigit
  let powers (base : Nat) (letter : Char) : Option Nat :=
    (["K", "M", "G", "T", "P", "E"].map (·.toList.headD ' ')).idxOf? letter |>.map fun index => Nat.pow base (index + 1)
  let factor := match text.drop digits.length with
    | [] => some 1
    | ['b'] => some 512
    | ['k'] => some 1024
    | ['m'] => some (1024 * 1024)
    | ['k', 'B'] => some 1000
    | [c] => powers 1024 c
    | [c, 'B'] => powers 1000 c
    | [c, 'i', 'B'] => powers 1024 c
    | _ => none
  if digits = [] then none else factor.map (· * valueIn 10 digits)

/-! ### Files -/

/-- The descriptor by which a program reads a file. -/
def inputDescriptor : Nat := 20

/-- Does something with a file to read from, or with what is ahead for a minus sign; otherwise `failed`
gets the fault. -/
def withInput {α : Type} (name : Octets) (failed : IoFault → Act α) (work : Nat → Act α) : Act α := do
  if name = ['-'] then work 0
  else match ← openFile { reads := true } name with
    | .error fault => failed fault
    | .ok handle =>
      setHandle inputDescriptor (some handle)
      let result ← attempt (work inputDescriptor)
      setHandle inputDescriptor none
      sweep
      settle result

/-- Complains about a file. -/
def scoldFile (program name : Octets) (fault : IoFault) : Act Nat :=
  scold program (asWord name ++ octets ": " ++ reason fault)

/-- All that a file holds, or nothing but a complaint. -/
def contents? (program name : Octets) : Act (Option Octets) :=
  withInput name (fun fault => do
      let _ ← scoldFile program name fault
      return none)
    fun descriptor => do
      let (text, fault) ← readAll descriptor
      match fault with
      | none => return some text
      | some fault =>
        let _ ← scoldFile program name fault
        return none

/-- The names of files to read, or the minus sign if there are none. -/
def inputNames (names : List Octets) : List Octets := if names = [] then [['-']] else names

/-- All that several files hold, and the number of those that cannot be read. -/
def allContents (program : Octets) (names : List Octets) : Act (Octets × Nat) := do
  let mut texts := []
  let mut missing := 0
  for name in inputNames names do
    match ← contents? program name with
    | some text => texts := text :: texts
    | none => missing := missing + 1
  return (texts.reverse.flatten, missing)

/-! ### Piece by piece -/

/-- The microseconds that a piece takes. -/
def pieceTime : Nat := 100

/-- Goes through what is read in pieces, for as long as there is a new state. -/
def eachChunk {σ : Type} (descriptor : Nat) (step : σ → Octets → Act (σ × Bool)) (start : σ) :
    Act (σ × Option IoFault) :=
  go maxPieces start
where
  /-- Reads on with a state. -/
  go : Nat → σ → Act (σ × Option IoFault)
    | 0, state => return (state, none)
    | fuel + 1, state => do
      match ← readPiece descriptor readRoom false with
      | .error fault => return (state, some fault)
      | .ok [] => return (state, none)
      | .ok piece =>
        spend pieceTime
        let (state, more) ← step state piece
        if more then go fuel state else return (state, none)

/-- Goes through lines, each without its end and with whether it had one, for as long as wanted; what is
read is seen before its lines. What is left of a piece behind the last line is given back where that can
be done. -/
def eachSeenLine {σ : Type} (ends : Char) (descriptor : Nat) (see : σ → Octets → σ)
    (step : σ → Octets → Bool → Act (σ × Bool)) (start : σ) : Act (σ × Option IoFault) := do
  let ((state, left, going), fault) ← eachChunk descriptor chunk (start, [], true)
  if going && left ≠ [] && fault.isNone then
    let (state, _) ← step state left false
    return (state, none)
  else return (state, fault)
where
  /-- Goes through the lines of a piece. -/
  lines : List Octets → σ → Act (σ × Octets × Bool)
    | [], state => return (state, [], true)
    | line :: rest, state => do
      if line.getLast? = some ends then
        let (state, more) ← step state line.dropLast true
        if more then lines rest state
        else
          giveBack descriptor (rest.flatten.length)
          return (state, [], false)
      else return (state, line, true)
  /-- Goes on with a piece. -/
  chunk (state : σ × Octets × Bool) (piece : Octets) : Act ((σ × Octets × Bool) × Bool) := do
    let (state, left, _) := state
    let state := see state piece
    if piece.contains ends then
      let (state, left, going) ← lines (piecesOf ends (left ++ piece)) state
      return ((state, left, going), going)
    else return ((state, left ++ piece, true), true)

/-- Goes through lines, each without its end and with whether it had one, for as long as wanted. -/
def eachLine {σ : Type} (ends : Char) (descriptor : Nat) (step : σ → Octets → Bool → Act (σ × Bool))
    (start : σ) : Act (σ × Option IoFault) :=
  eachSeenLine ends descriptor (fun state _ => state) step start

/-- Goes through the lines of several files one after another; gives the last state and the number of files
that could not be read. -/
def eachLineOf {σ : Type} (ends : Char) (program : Octets) (names : List Octets)
    (step : σ → Octets → Bool → Act (σ × Bool)) (start : σ) : Act (σ × Nat) :=
  go (inputNames names) start 0
where
  /-- Goes on with more files. -/
  go : List Octets → σ → Nat → Act (σ × Nat)
    | [], state, missing => return (state, missing)
    | name :: rest, state, missing => do
      let (state, failed) ← withInput name
        (fun fault => do
          let _ ← scoldFile program name fault
          return (state, true))
        fun descriptor => do
          let (state, fault) ← eachLine ends descriptor step state
          match fault with
          | some fault =>
            let _ ← scoldFile program name fault
            return (state, true)
          | none => return (state, false)
      go rest state (missing + (if failed then 1 else 0))

end Program

end Workyard.Shell
