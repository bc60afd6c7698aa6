/-
**Programs that answer questions about files.**

* `stat`: what is known about files;
* `readlink`, `realpath`: where names lead;
* `which`: where programs are found;
* `cmp`: where files differ.
-/

import Workyard.Shell.Condition
import Workyard.Shell.Program.Creation
import Workyard.Shell.Program.Listing
import Workyard.Shell.Program.Removal

namespace Workyard.Shell.Program

/-! ### What is known -/

/-- A file about which something is asked. -/
structure Asked where
  name : Octets
  path : Files.Path
  number : Nat
  node : Files.Node

/-- The bits of a kind in front of the permissions. -/
def kindBits (node : Files.Node) : Nat :=
  match node.kind with
  | .directory => 0o040000
  | .file _ => 0o100000
  | .device _ => 0o020000
  | .link _ => 0o120000
  | .pipe => 0o010000

/-- What a letter of a format stands for, for a file. -/
def Asked.field (asked : Asked) (tree : Files.Tree) (letter : Char) : Octets :=
  let node := asked.node
  let number (value : Nat) : Octets := decimal value
  let moment := Moment.ofMicroseconds node.time
  let device := match node.kind with
    | .device device => deviceNumbers device
    | _ => (0, 0)
  let hexadecimal (value : Nat) : Octets := Nat.toDigits 16 value
  match letter with
  | 'a' => modeDigits 1 node.mode
  | 'A' => kindLetter node :: modeLetters node.mode
  | 'b' => number (2 * nodeBlocks node)
  | 'B' => number 512
  | 'd' => number 64
  | 'D' => hexadecimal 64
  | 'f' => hexadecimal (kindBits node + node.mode)
  | 'F' => octets (kindWords node)
  | 'g' | 'u' => ['0']
  | 'G' | 'U' => octets "root"
  | 'h' => number (linksTo tree asked.path asked.number node)
  | 'i' => number asked.number
  | 'm' => ['/']
  | 'n' => asked.name
  | 'N' => match node.kind with
    | .link target => asQuotedWord asked.name ++ octets " -> " ++ asQuotedWord (octets target)
    | _ => asQuotedWord asked.name
  | 'o' => number 4096
  | 's' => number (nodeSize node)
  | 'r' => number (device.1 * 256 + device.2)
  | 't' => hexadecimal device.1
  | 'T' => hexadecimal device.2
  | 'w' | 'x' | 'y' | 'z' => moment.written 200 (octets "%Y-%m-%d %H:%M:%S.%N %z")
  | 'W' | 'X' | 'Y' | 'Z' => moment.written 200 (octets "%s")
  | _ => ['?']

/-- What a format makes of a file; escapes are read if wanted. -/
def Asked.text (asked : Asked) (tree : Files.Tree) (escapes : Bool) : Nat → Octets → Octets
  | 0, _ => []
  | _, [] => []
  | fuel + 1, '%' :: rest =>
    let marks := rest.takeWhile fun c => "#-+0 '".toList.contains c
    let width := (rest.drop marks.length).takeWhile Char.isDigit
    let behind := (rest.drop marks.length).drop width.length
    let places := match behind with
      | '.' :: rest => '.' :: rest.takeWhile Char.isDigit
      | _ => []
    match behind.drop places.length with
    | [] => ['%']
    | '%' :: more => '%' :: text asked tree escapes fuel more
    | letter :: more =>
      let value := asked.field tree letter
      let value := if marks.contains '#' && letter = 'a' then '0' :: value else value
      let value := if places ≠ [] && !"WXYZ".toList.contains letter then value.take (valueIn 10 (places.drop 1)) else value
      let wide := valueIn 10 width
      let blanks := List.replicate (wide - value.length)
        (if marks.contains '0' && !marks.contains '-' && value.all Char.isDigit then '0' else ' ')
      (if marks.contains '-' then value ++ blanks else blanks ++ value) ++ text asked tree escapes fuel more
  | fuel + 1, '\\' :: rest =>
    if escapes then
      match echoEscape false rest with
      | none => []
      | some (front, rest) => front ++ text asked tree escapes fuel rest
    else '\\' :: text asked tree escapes fuel rest
  | fuel + 1, c :: rest => c :: text asked tree escapes fuel rest

/-- The format in which everything is said. -/
def fullFormat (node : Files.Node) : String :=
  let name := "  File: %N\n"
  let device := match node.kind with
    | .device _ => "Device: 0,64\tInode: %-11i Links: %-5h Device type: %t,%T\n"
    | _ => "Device: 0,64\tInode: %-11i Links: %h\n"
  name ++ "  Size: %-10s\tBlocks: %-10b IO Block: %-6o %F\n" ++ device ++
    "Access: (%04a/%10.10A)  Uid: (%5u/%8U)   Gid: (%5g/%8G)\nAccess: %x\nModify: %y\nChange: %z\n Birth: %w\n"

/-- Says what is known about files. -/
def stat (call : Call) : Act Nat :=
  let known : List Choice := [("L", "dereference", .nothing), ("f", "file-system", .nothing),
    ("c", "format", .value), ("", "printf", .value), ("t", "terse", .nothing), ("", "cached", .value)]
  withOptions known true 1 call fun options => do
    if options.rest = [] then lacking call
    else
      let mut status := 0
      for name in options.rest do
        match ← spotOf name (options.has "L") with
        | .error fault =>
          status ← scold call.name (octets (if options.has "f" then "cannot read file system information for "
            else "cannot statx ") ++ asQuotedWord name ++ octets ": " ++ reason fault)
        | .ok found => match found.found with
          | none => pure ()
          | some (number, node) =>
            let asked : Asked := { name, path := found.path, number, node }
            let tree ← tree
            match options.lastOf? ["c", "printf"] with
            | some key =>
              let format := (options.last? key).getD []
              put (asked.text tree (key = "printf") (format.length + 1) format ++ (if key = "c" then ['\n'] else []))
            | none =>
              let format := octets (if options.has "t" then "%n %s %b %f %u %g %D %i %h %t %T %X %Y %Z %W %o\n"
                else (fullFormat node).replace "%N" "%n")
              put (asked.text tree false (format.length + 1) format)
      return status

/-! ### Where names lead -/

/-- How much of a name must be there. -/
inductive Reach where
  | all | front | none
deriving DecidableEq

/-- The path that the parts of a name lead to, if none of them need be there. -/
def looseWay (tree : Files.Tree) : Nat → Nat → Files.Path → List (List Char) → Files.Path
  | 0, _, path, _ => path
  | _, _, path, [] => path
  | fuel + 1, links, path, part :: rest =>
    if part = [] || part = ['.'] then looseWay tree fuel links path rest
    else if part = ['.', '.'] then looseWay tree fuel links path.dropLast rest
    else
      let next := path ++ [String.ofList part]
      match links, (tree.get? next).map Files.Node.kind with
      | links + 1, some (.link target) =>
        let start := if target.startsWith "/" then [] else path
        looseWay tree fuel links start (Files.parts target.toList ++ rest)
      | links, _ => looseWay tree fuel links next rest

/-- The parts of a name without those that lead nowhere. -/
def straightParts (parts : List (List Char)) : List (List Char) :=
  (parts.foldl (fun read part =>
    if part = [] || part = ['.'] then read
    else if part = ['.', '.'] then read.drop 1
    else part :: read) []).reverse

/-- The path that a name leads to. -/
def pathOf (reach : Reach) (name : Octets) : Act (Except IoFault Files.Path) := do
  let tree ← tree
  let text := spelled name
  if name = [] then return .error (.os .notFound)
  else match reach with
    | .none =>
      let start := if name.head? = some '/' then [] else tree.here
      return .ok (looseWay tree (1000 + name.length) Files.maxLinks start (Files.parts text.toList))
    | .all => match tree.entry text, tree.locate text with
      | .ok _, .ok location => return .ok location.path
      | .error fault, _ => return .error fault
      | _, .error fault => return .error fault
    | .front => match tree.locate text with
      | .error fault => return .error fault
      | .ok location =>
        let kind := (location.number.bind tree.node?).map Files.Node.kind
        match kind, location.mustBeDirectory with
        | some .directory, _ => return .ok location.path
        | some _, true => return .error (.os .notADirectory)
        | _, _ => return .ok location.path

/-- Puts out what links stand for, or where names lead. -/
def readlink (call : Call) : Act Nat :=
  let known : List Choice := [("f", "canonicalize", .nothing), ("e", "canonicalize-existing", .nothing),
    ("m", "canonicalize-missing", .nothing), ("n", "no-newline", .nothing), ("q", "quiet", .nothing),
    ("s", "silent", .nothing), ("v", "verbose", .nothing), ("z", "zero", .nothing)]
  withOptions known true 1 call fun options => do
    if options.rest = [] then lacking call
    else
      let ends := if options.has "z" then ['\x00'] else ['\n']
      let ends := if options.has "n" && options.rest.length = 1 then [] else ends
      let mut status := 0
      for name in options.rest do
        let answer : Except IoFault Octets ← match options.lastOf? ["f", "e", "m"] with
          | some key => do
            let reach : Reach := if key = "e" then .all else if key = "f" then .front else .none
            match ← pathOf reach name with
            | .ok path => pure (.ok (Builtin.pathName path))
            | .error fault => pure (.error fault)
          | none => do
            match ← spotOf name with
            | .error fault => pure (.error fault)
            | .ok found => match found.found with
              | some (_, ⟨.link target, _, _⟩) => pure (.ok (octets target))
              | _ => pure (.error (.os .invalid))
        match answer with
        | .ok text => put (text ++ ends)
        | .error fault =>
          status := 1
          if options.has "v" then
            let _ ← scold call.name (asWord name ++ octets ": " ++ reason fault)
      return status

/-- Puts out where names lead. -/
def realpath (call : Call) : Act Nat :=
  let known : List Choice := [("e", "canonicalize-existing", .nothing), ("m", "canonicalize-missing", .nothing),
    ("L", "logical", .nothing), ("P", "physical", .nothing), ("q", "quiet", .nothing),
    ("s", "strip", .nothing), ("s", "no-symlinks", .nothing), ("z", "zero", .nothing), ("", "relative-to", .value),
    ("", "relative-base", .value)]
  withOptions known true 1 call fun options => do
    if options.rest = [] then lacking call
    else
      let ends := if options.has "z" then ['\x00'] else ['\n']
      let here := (← tree).here
      let find (name : Octets) : Act (Except IoFault Files.Path) := do
        let last := options.lastOf? ["e", "m"]
        if name = [] then return .error (.os .notFound)
        else
          let full := if name.head? = some '/' then name else inside (Builtin.pathName here) name
          let straight := (straightParts (Files.parts full)).map String.ofList
          if options.has "s" then
            if last = some "m" then return .ok straight
            else match ← pathOf (if last = some "e" then .all else .front) full with
              | .ok _ => return .ok straight
              | .error fault => return .error fault
          else
            let name := if options.lastOf? ["L", "P"] = some "L" then Builtin.pathName straight else name
            pathOf (match last with
              | some "e" => .all
              | some _ => .none
              | none => .front) name
      let place (key : String) : Act (Option Files.Path) := do
        match options.last? key with
        | none => return none
        | some name => match ← find name with
          | .ok path => return some path
          | .error _ => return none
      let base ← place "relative-base"
      let start := (← place "relative-to").or base
      let mut status := 0
      for name in options.rest do
        match ← find name with
        | .error fault =>
          status := 1
          if !options.has "q" then
            let _ ← scold call.name ((if name = [] then ['\'', '\''] else asWord name) ++ octets ": " ++ reason fault)
        | .ok path =>
          let below : Bool := base.all fun base => Files.Tree.isWithin base path
          put ((match start with
            | some start => if below then wayBetween start path else Builtin.pathName path
            | none => Builtin.pathName path) ++ ends)
      return status

/-! ### Where programs are found -/

/-- Puts out where programs are found. -/
def which (call : Call) : Act Nat := do
  let options := call.arguments.takeWhile fun word => word.head? = some '-' && 1 < word.length
  let letters := (options.map (·.drop 1)).flatten
  let names := call.arguments.drop options.length
  match letters.find? fun c => c ≠ 'a' && c ≠ 's' && c ≠ '-' with
  | some letter =>
    put (octets "Illegal option -" ++ [letter] ++ octets "\nUsage: /usr/bin/which [-as] args\n")
    return 2
  | none =>
    let tree ← tree
    let places := ((((← get).held "PATH").bind (·.text)).getD []).splitOn ':'
    let mut status := if names = [] then 1 else 0
    for name in names do
      let runs (file : Octets) : Bool := match tree.find (spelled file) with
        | .ok node => isProgram node
        | .error _ => false
      let found := if name.contains '/' then (if runs name then [name] else [])
        else (places.map fun place => if place = [] then name else inside place name).filter runs
      let found := if letters.contains 'a' then found else found.take 1
      if found = [] then status := 1
      if !letters.contains 's' then put (found.flatMap (· ++ ['\n']))
    return status

/-! ### Where files differ -/

/-- Compares the octets of two files. -/
def cmp (call : Call) : Act Nat :=
  let known : List Choice := [("b", "print-bytes", .nothing), ("i", "ignore-initial", .value),
    ("l", "verbose", .nothing), ("n", "bytes", .value), ("s", "quiet", .nothing), ("s", "silent", .nothing)]
  match Options.read known true call.arguments with
  | .error words => do
    let _ ← scold call.name (words ++ octets "\n" ++ call.name ++ octets ": Try '" ++ call.name ++
      octets " --help' for more information.")
    return 2
  | .ok options => do
    match options.rest with
    | [] | _ :: _ :: _ :: _ :: _ :: _ =>
      let words := match options.rest with
        | [] => octets "missing operand after " ++ inQuotes call.name
        | words => octets "extra operand " ++ inQuotes (words.getD 4 [])
      let _ ← scold call.name (words ++ ['\n'] ++ call.name ++ octets ": Try '" ++ call.name ++
        octets " --help' for more information.")
      return 2
    | one :: rest =>
      let other := rest.headD ['-']
      let skips := (options.last? "i").map fun text => text.splitOn ':'
      let skip (index : Nat) : Nat :=
        match rest[index + 1]?, skips with
        | some text, _ => (multiple? text).getD 0
        | none, some texts => (multiple? ((texts[index]?).getD (texts.headD []))).getD 0
        | none, none => 0
      let contents (name : Octets) : Act (Option Octets) :=
        withInput name (fun fault => do
            let _ ← if options.has "s" then pure 2 else scold call.name (name ++ octets ": " ++ reason fault)
            return none)
          fun descriptor => do
            let (text, fault) ← readAll descriptor
            match fault with
            | none => return some text
            | some fault =>
              let _ ← if options.has "s" then pure 2 else scold call.name (name ++ octets ": " ++ reason fault)
              return none
      match ← contents one with
      | none => return 2
      | some first => match ← contents other with
        | none => return 2
        | some second =>
          let limit := (options.last? "n").bind multiple?
          let cut (text : Octets) : Octets := match limit with
            | some count => text.take count
            | none => text
          let first := cut (first.drop (skip 0))
          let second := cut (second.drop (skip 1))
          let differing := ((first.zip second).zipIdx).filter fun ((a, b), _) => a ≠ b
          let quiet : Bool := options.has "s"
          let shown (c : Char) : Octets :=
            if isPrintable c then [c]
            else if c.toNat < 32 then ['^', Char.ofNat (c.toNat + 64)]
            else if c.toNat = 127 then octets "^?" else [c]
          let shorter : Option (Octets × Octets) := if first.length < second.length then some (one, first)
            else if second.length < first.length then some (other, second) else none
          let complainEnd : Act Unit := do
            match shorter with
            | none => pure ()
            | some (name, text) =>
              if !quiet then
                let words := if text = [] then octets " which is empty"
                  else octets s!" after byte {text.length}" ++ (if options.has "l" then [] else
                    let lines := text.count '\n'
                    if text.getLast? = some '\n' then octets s!", line {lines}"
                    else octets s!", in line {lines + 1}")
                let _ ← scold call.name (octets "EOF on " ++ name ++ words)
          if options.has "l" then
            let width := (decimal (min first.length second.length)).length
            for ((a, b), index) in differing do
              if !quiet then
                put (rightIn width (decimal (index + 1)) ++ ' ' :: rightIn 3 (Nat.toDigits 8 a.toNat) ++
                  (if options.has "b" then ' ' :: leftIn 4 (shown a) else []) ++ ' ' ::
                  rightIn 3 (Nat.toDigits 8 b.toNat) ++
                  (if options.has "b" then ' ' :: shown b else []) ++ ['\n'])
            complainEnd
            return if differing = [] && shorter.isNone then 0 else 1
          else
            match differing with
            | ((a, b), index) :: _ =>
              if !quiet then
                let line := (first.take index).count '\n' + 1
                let octal (c : Char) : Octets := rightIn 3 (Nat.toDigits 8 c.toNat)
                put (one ++ ' ' :: other ++ octets (if options.has "b" then " differ: byte " else " differ: char ") ++
                  decimal (index + 1) ++ octets s!", line {line}" ++ (if options.has "b" then
                    octets " is " ++ octal a ++ ' ' :: shown a ++ ' ' :: octal b ++ ' ' :: shown b else []) ++ ['\n'])
              return 1
            | [] =>
              complainEnd
              return if shorter.isNone then 0 else 1

end Workyard.Shell.Program
