/-
**Programs started with arguments that are read.**

What is read is taken apart at blanks, as far as no quotes keep it together, or line by line.

* `Items.read`: the arguments in a text;
* `xargs`: the program.
-/

import Workyard.Shell.Program.Launch

namespace Workyard.Shell.Program

/-- What is wrong with a text from which arguments are read. -/
inductive ItemFault where
  | quote (mark : Char)

/-- An argument that is read, and whether its line ends behind it. -/
abbrev Item := Octets × Bool

/-- The arguments in a text. `word` has what was read of one, in reverse, if one has begun; where `lines` are
wanted blanks do not end an argument. -/
def itemsOf (lines : Bool) (stop : Option Octets) : Nat → Octets → Option Octets → List Item → Except ItemFault (List Item)
  | 0, _, _, read => .ok read.reverse
  | _, [], word, read => .ok ((match word with
      | some word => (word.reverse, true) :: read
      | none => read).reverse)
  | fuel + 1, c :: rest, word, read =>
    let blank : Bool := c = ' ' || c = '\t'
    if c = '\n' || (blank && !lines) then
      -- The end of a line behind a blank does not count.
      let ends : Bool := c = '\n' || (rest.dropWhile fun c => c = ' ' || c = '\t') = []
      match word with
      | some word =>
        if stop = some word.reverse then .ok read.reverse
        else itemsOf lines stop fuel rest none ((word.reverse, ends) :: read)
      | none => itemsOf lines stop fuel rest none read
    else if blank && word.isNone then itemsOf lines stop fuel rest none read
    else if c = '\'' || c = '"' then
      let inner := rest.takeWhile fun d => d ≠ c && d ≠ '\n'
      match rest.drop inner.length with
      | d :: behind =>
        if d = c then itemsOf lines stop fuel behind (some (inner.reverse ++ word.getD [])) read
        else .error (.quote c)
      | [] => .error (.quote c)
    else match c, rest with
      | '\\', d :: rest => itemsOf lines stop fuel rest (some (d :: word.getD [])) read
      | c, rest => itemsOf lines stop fuel rest (some (c :: word.getD [])) read

/-- Arguments in groups of so many. -/
def grouped {α : Type} (size : Nat) : Nat → List α → List (List α)
  | 0, _ => []
  | _, [] => []
  | fuel + 1, items => items.take size :: grouped size fuel (items.drop size)

/-- Arguments in groups of so many lines. -/
def byLines (size : Nat) : Nat → List Item → Nat → List Octets → List (List Octets)
  | 0, _, _, _ => []
  | _, [], _, read => if read = [] then [] else [read.reverse]
  | fuel + 1, (word, ends) :: rest, count, read =>
    if ends && count + 1 = size then (word :: read).reverse :: byLines size fuel rest 0 []
    else byLines size fuel rest (if ends then count + 1 else count) (word :: read)

/-- Arguments in groups that are not longer than a limit, with what is in front of each. -/
def byLength (front limit : Nat) : Nat → List Octets → Nat → List Octets → List (List Octets)
  | 0, _, _, _ => []
  | _, [], _, read => if read = [] then [] else [read.reverse]
  | fuel + 1, word :: rest, size, read =>
    let next := size + word.length + 1
    if limit < next && read ≠ [] then read.reverse :: byLength front limit fuel (word :: rest) front []
    else byLength front limit fuel rest next (word :: read)

/-- A text in which another stands in the place of a mark. -/
def placed (mark item : Octets) : Nat → Octets → Octets
  | 0, text => text
  | _, [] => []
  | fuel + 1, c :: rest =>
    if mark ≠ [] && mark.isPrefixOf (c :: rest) then item ++ placed mark item fuel ((c :: rest).drop mark.length)
    else c :: placed mark item fuel rest

/-- The options of the program. -/
def xargsChoices : List Choice :=
  [("0", "null", .nothing), ("a", "arg-file", .value), ("d", "delimiter", .value), ("E", "", .value), ("e", "eof", .perhaps),
    ("I", "", .value), ("i", "replace", .perhaps), ("L", "max-lines", .value), ("l", "", .perhaps),
    ("n", "max-args", .value), ("o", "open-tty", .nothing), ("P", "max-procs", .value), ("p", "interactive", .nothing),
    ("r", "no-run-if-empty", .nothing), ("s", "max-chars", .value), ("t", "verbose", .nothing), ("x", "exit", .nothing),
    ("", "show-limits", .nothing), ("", "process-slot-var", .value)]

/-- Starts a program with arguments that are read. -/
def xargs (launcher : Launcher) (call : Call) : Act Nat :=
  withOptions xargsChoices false 1 call fun options => do
    let number (key : String) : Option Nat := (options.last? key).bind fun text => if isDigits text then some (valueIn 10 text) else none
    let wrong := ["n", "L", "s", "P"].find? fun key => (options.last? key).isSome && (number key).isNone
    let zero := ["n", "L", "s"].find? fun key => number key = some 0
    match wrong, zero with
    | some key, _ =>
      misused call.name (octets "invalid number \"" ++ (options.last? key).getD [] ++ octets s!"\" for -{key} option")
    | none, some key =>
      misused call.name (octets s!"value 0 for -{key} option should be >= 1")
    | none, none =>
      let mark := match options.lastOf? ["I", "i"] with
        | some key => match options.last? key with
          | some (c :: mark) => some (c :: mark)
          | _ => some ['{', '}']
        | none => none
      let last := options.lastOf? ["I", "i", "L", "l", "n"]
      let clash : Option (String × String) := if mark.isSome && options.has "n" && (last = some "I" || last = some "i") then
          some ("--max-args", "--replace/-I/-i")
        else none
      match clash with
      | some (dropped, kept) =>
        let _ ← scold call.name (octets s!"warning: options {dropped} and {kept} are mutually exclusive, ignoring previous {dropped} value")
      | none => pure ()
      let mark := if last = some "n" || last = some "L" || last = some "l" then none else mark
      let command := if options.rest = [] then [octets "echo"] else options.rest
      let (text, failed) ← match options.last? "a" with
        | none => do pure ((← readAll 0).1, false)
        | some name => do match ← contents? call.name name with
          | some text => pure (text, false)
          | none => pure ([], true)
      if failed then return 1
      else
        let separator : Option Char := if options.has "0" then some '\x00' else match options.last? "d" with
          | some ['\\', 'n'] => some '\n'
          | some ['\\', 't'] => some '\t'
          | some ['\\', '0'] => some '\x00'
          | some (c :: _) => some c
          | _ => none
        let items : Except ItemFault (List Item) := match separator with
          | some separator => .ok ((piecesOf separator text).map fun piece =>
              (if piece.getLast? = some separator then piece.dropLast else piece, true))
          | none => itemsOf mark.isSome ((options.last? "E").or (options.last? "e")) (text.length + 1) text none []
        match items with
        | .error (.quote c) =>
          let kind := octets (if c = '\'' then "single" else "double")
          scold call.name (octets "unmatched " ++ kind ++
            octets " quote; by default quotes are special to xargs unless you use the -0 option")
        | .ok items =>
          let fuel := items.length + 1
          let words := items.map (·.1)
          let commands : List (List Octets) := match mark with
            | some mark => words.map fun item => command.map fun word => placed mark item (word.length + 1) word
            | none =>
              let groups : List (List Octets) := if last = some "L" || last = some "l" then
                  byLines ((number "L").getD 1) (2 * fuel) items 0 []
                else match number "n" with
                  | some size => grouped size fuel words
                  | none =>
                    let front := (command.map fun word => word.length + 1).foldl (· + ·) 0
                    byLength front ((number "s").getD 131072) (2 * fuel) words front []
              let groups := if groups = [] && !options.has "r" && !options.has "L" then [[]] else groups
              groups.map (command ++ ·)
          run (options.has "t") commands 0
where
  /-- Starts one command after another. -/
  run (tells : Bool) : List (List Octets) → Nat → Act Nat
    | [], status => return status
    | words :: rest, status => do
      if tells then write 2 (joinedBy [' '] (words.map (asWordBeside [])) ++ ['\n'])
      let child ← fork (fun process => process) do
        match ← openFile { reads := true } (octets "/dev/null") with
        | .ok handle => setHandle 0 (some handle)
        | .error _ => pure ()
        let status ← replaceBy launcher call.name (fun name => name) words
        finish (.exited status)
      let name := words.headD []
      match ← ending child with
      | .exited 0 => run tells rest status
      | .exited 127 => return 127
      | .exited 126 => return 126
      | .exited 255 =>
        let _ ← scold call.name (name ++ octets ": exited with status 255; aborting")
        return 124
      | .exited _ => run tells rest 123
      | .killed signal =>
        let _ ← scold call.name (name ++ octets s!": terminated by signal {signal}")
        return 125

end Workyard.Shell.Program
