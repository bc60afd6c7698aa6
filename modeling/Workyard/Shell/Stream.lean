/-
**Reading and writing.**

A process reads and writes by way of its descriptors. It waits for a pipe that is empty until somebody
writes into it or nobody can any more, and for one that is full until there is room; who writes into a
pipe that nobody reads gets a signal.

* `openFile`: opens a file by name;
* `readPiece`, `readLine`, `readAll`: the ways to read;
* `writeAll`: writes all of a text.
-/

import Workyard.Shell.Process

namespace Workyard.Shell

/-! ### Descriptors -/

/-- What a descriptor leads to. -/
def handle? (descriptor : Nat) : Act (Option Handle) := do
  return (← me).bind fun process => process.descriptors.lookup descriptor

/-- Makes a descriptor lead somewhere else. -/
def setHandle (descriptor : Nat) (handle : Option Handle) : Act Unit :=
  modifyMe fun process =>
    let others := process.descriptors.filter (·.1 ≠ descriptor)
    { process with descriptors := match handle with
        | some handle => (descriptor, handle) :: others
        | none => others }

/-- Forgets what nobody holds any more. -/
def sweep : Act Unit := modifyWorld World.swept

/-- The descriptor that a name of a device stands for. -/
def deviceDescriptor (name : Octets) : Option Nat :=
  match String.ofList name with
  | "/dev/stdin" => some 0
  | "/dev/stdout" => some 1
  | "/dev/stderr" => some 2
  | _ =>
    let digits := if (octets "/dev/fd/").isPrefixOf name then name.drop 8
      else if (octets "/proc/self/fd/").isPrefixOf name then name.drop 14 else []
    if isDigits digits then some (valueIn 10 digits) else none

/-- How a file is opened. -/
structure Opening where
  reads : Bool := false
  writes : Bool := false
  appends : Bool := false
  truncates : Bool := false
  /-- Whether a file that is there is refused. -/
  creates : Bool := false

/-- Opens a node of the tree. -/
def openNode (how : Opening) (number : Nat) : Act Handle := do
  let node := (← tree).node? number
  match node.map Files.Node.kind with
  | some .pipe => do
    let index ← match (← world).named.lookup number with
      | some index => pure index
      | none =>
        let (changed, index) := (← world).addPipe
        modifyWorld fun _ => { changed with named := (number, index) :: changed.named }
        pure index
    let counts (world : World) : Nat × Nat :=
      ((world.pipes.lookup index).map fun pipe => (pipe.readings, pipe.writings)).getD (0, 0)
    let before := counts (← world)
    modifyWorld fun world => { world with
      pipes := world.pipes.map fun entry => if entry.1 = index then
          (index, { entry.2 with
            readings := entry.2.readings + (if how.reads then 1 else 0)
            writings := entry.2.writings + (if how.writes then 1 else 0) })
        else entry }
    let handle : Handle := .pipe index how.reads how.writes
    if how.reads && how.writes then return handle
    else
      -- The end is held while the process waits for somebody at the other one.
      let spare := 1000 + index
      setHandle spare (some handle)
      waitFor fun world =>
        if how.reads then world.isFed index || before.2 < (counts world).2
        else world.isRead index || before.1 < (counts world).1
      setHandle spare none
      return handle
  | kind =>
    match kind with
    | some (.file _) => if how.truncates then modifyWorld fun world =>
        { world with tree := world.dated.replace number [] }
    | _ => pure ()
    let (changed, index) := (← world).addOpened
      { node := number, reads := how.reads, writes := how.writes, appends := how.appends }
    modifyWorld fun _ => changed
    return .file index

/-- Opens a file by name. -/
def openFile (how : Opening) (name : Octets) : Act (Except IoFault Handle) := do
  match deviceDescriptor name with
  | some number => match ← handle? number with
    | none => return .error (.os .notFound)
    | some .caller => return .ok .caller
    | some (.pipe index _ _) => return .ok (.pipe index how.reads how.writes)
    | some (.file index) => match (← world).opened.lookup index with
      | some opened => return .ok (← openNode how opened.node)
      | none => return .error (.os .notFound)
  | none =>
    let text := spelled name
    if how.writes then
      if how.creates && ((← tree).find text).toBool then return .error (.os .alreadyExists)
      else match ← inTree fun tree => tree.openAppend text with
        | .error fault => return .error fault
        | .ok number => return .ok (← openNode how number)
    else match (← tree).openRead text with
      | .error fault => return .error fault
      | .ok (number, _) => return .ok (← openNode how number)

/-- A pipe, with the ends to read and to write. -/
def newPipe : Act (Handle × Handle) := do
  let (changed, index) := (← world).addPipe
  modifyWorld fun _ => changed
  return (.pipe index true false, .pipe index false true)

/-- A pipe in which a text waits. -/
def pipeWith (text : Octets) : Act Handle := do
  let (changed, index) := (← world).addPipe
  modifyWorld fun _ => { changed with
    pipes := replaceIn index (if text = [] then {} else Pipe.put {} text) changed.pipes }
  return .pipe index true false

/-! ### Reading -/

/-- The octets that a device gives. -/
def deviceOctets (device : Files.Device) (count : Nat) : Octets :=
  match device with
  | .zeros | .full => List.replicate count '\x00'
  | .noise => (List.range count).map fun index => Char.ofNat ((index * index * 167 + index * 59 + 41) / 7 % 256)
  | _ => []

/-- Reads from an open file. -/
def readOpened (index limit : Nat) (line : Bool) : Act (Except IoFault Octets) := do
  let shell ← get
  match shell.world.opened.lookup index with
  | none => return .error (.os .badDescriptor)
  | some opened =>
    if !opened.reads then return .error (.os .badDescriptor)
    else match (shell.world.tree.node? opened.node).map Files.Node.kind with
      | some (.file content) =>
        let piece := ofNumbers ((content.drop opened.position).take limit)
        let piece := if line then piece.take ((piece.takeWhile (· ≠ '\n')).length + 1) else piece
        modifyWorld fun world => { world with
          opened := replaceIn index
            { opened with position := opened.position + piece.length } world.opened }
        return .ok piece
      | some .directory => return .error (.os .isADirectory)
      | some (.device device) => return .ok (deviceOctets device limit)
      | _ => return .ok []

/-- Reads what comes next, up to a number of octets and perhaps only up to the end of a line; nothing at
the end of all. -/
def readPiece (descriptor limit : Nat) (line : Bool) : Act (Except IoFault Octets) := do
  match ← handle? descriptor with
  | some (.pipe index true _) =>
    waitFor fun world =>
      ((world.pipes.lookup index).any fun pipe => decide (0 < pipe.size)) || !world.isFed index
    match (← world).pipes.lookup index with
    | none => return .ok []
    | some pipe =>
      let (piece, pipe) := pipe.take limit line
      modifyWorld fun world => { world with pipes := replaceIn index pipe world.pipes }
      return .ok piece
  | some (.file index) => readOpened index limit line
  | _ => return .error (.os .badDescriptor)

/-- The octets that are read at once. -/
def readRoom : Nat := 8192

/-- The most pieces that are read one after another. -/
def maxPieces : Nat := Nat.pow 2 24

/-- Reads a line, without its end; `false` if the end of all came first. -/
def readLine (descriptor : Nat) : Act (Octets × Bool) :=
  go maxPieces []
where
  /-- Reads on behind what comes in reverse. -/
  go : Nat → List Octets → Act (Octets × Bool)
    | 0, read => return (read.reverse.flatten, false)
    | fuel + 1, read => do
      match ← readPiece descriptor readRoom true with
      | .error _ => return (read.reverse.flatten, false)
      | .ok [] => return (read.reverse.flatten, false)
      | .ok piece =>
        if piece.getLast? = some '\n' then return ((piece.dropLast :: read).reverse.flatten, true)
        else go fuel (piece :: read)

/-- Reads to the end of all, or up to a fault. -/
def readAll (descriptor : Nat) : Act (Octets × Option IoFault) :=
  go maxPieces []
where
  /-- Reads on behind what comes in reverse. -/
  go : Nat → List Octets → Act (Octets × Option IoFault)
    | 0, read => return (read.reverse.flatten, none)
    | fuel + 1, read => do
      match ← readPiece descriptor pipeRoom false with
      | .error fault => return (read.reverse.flatten, some fault)
      | .ok [] => return (read.reverse.flatten, none)
      | .ok piece => go fuel (piece :: read)

/-- Gives octets back to an open file, where that can be done. -/
def giveBack (descriptor count : Nat) : Act Unit := do
  match ← handle? descriptor with
  | some (.file index) => modifyWorld fun world => { world with
      opened := world.opened.map fun entry => if entry.1 = index then
          (index, { entry.2 with position := entry.2.position - count })
        else entry }
  | _ => pure ()

/-! ### Writing -/

/-- What a process may write of a text from a position of a file on; none for all of it. -/
def withinLimit (process : Option Process) (position : Nat) (text : Octets) : Option Octets :=
  match process.bind fun process => (process.limit .fileSize).soft with
  | none => none
  | some size => if position + text.length ≤ size then none else some (text.take (size - position))

/-- Writes into an open file. -/
def writeOpened (index : Nat) (text : Octets) : Act (Except IoFault Unit) := do
  let shell ← get
  match shell.world.opened.lookup index with
  | none => return .error (.os .badDescriptor)
  | some opened =>
    if !opened.writes then return .error (.os .badDescriptor)
    else
      let position := match opened.appends, (shell.world.tree.node? opened.node).map Files.Node.kind with
        | true, some (.file content) => content.length
        | _, _ => opened.position
      let isFile : Bool := match (shell.world.tree.node? opened.node).map Files.Node.kind with
        | some (.file _) => true
        | _ => false
      let part := if isFile then withinLimit (shell.world.process? shell.process) position text else none
      let piece := part.getD text
      let tree := shell.world.dated
      match tree.writeAt opened.node position (numbers piece) with
      | .error fault => return .error fault
      | .ok tree =>
        modifyWorld fun world => { world with
          tree
          opened := replaceIn index
            { opened with position := position + piece.length } world.opened }
        if part.isNone then return .ok ()
        else
          sendTo 25 shell.process
          return .error (.os .fileTooLarge)

/-- Writes into a pipe as there is room. -/
def writePipe (index : Nat) : Nat → Octets → Act (Except IoFault Unit)
  | 0, _ => return .ok ()
  | _, [] => return .ok ()
  | fuel + 1, text => do
    let room (world : World) : Nat :=
      pipeRoom - ((world.pipes.lookup index).map (·.size)).getD 0
    let enough := if text.length ≤ 4096 then text.length else 1
    waitFor fun world => !world.isRead index || enough ≤ room world
    if !(← world).isRead index then
      sendTo 13 (← get).process
      return .error (.os .brokenPipe)
    else
      let now := text.take (room (← world))
      modifyWorld fun world => { world with
        pipes := world.pipes.map fun entry =>
          if entry.1 = index then (index, entry.2.put now) else entry }
      writePipe index fuel (text.drop now.length)

/-- Writes all of a text to what a descriptor leads to. -/
def writeTo (handle : Option Handle) (text : Octets) : Act (Except IoFault Unit) := do
  match handle with
  | some .caller =>
    if text ≠ [] then modifyWorld fun world =>
      { world with written := (world.clock, text) :: world.written }
    return .ok ()
  | some (.pipe index _ true) => writePipe index (text.length + 1) text
  | some (.file index) => if text = [] then return .ok () else writeOpened index text
  | _ => return if text = [] then .ok () else .error (.os .badDescriptor)

/-- Writes all of a text. -/
def writeAll (descriptor : Nat) (text : Octets) : Act (Except IoFault Unit) := do
  writeTo (← handle? descriptor) text

/-- Writes a text if that can be done. -/
def write (descriptor : Nat) (text : Octets) : Act Unit := do
  let _ ← writeAll descriptor text

/-! ### Complaints -/

/-- The text at hand by its name and the line. -/
def State.origin (shell : State) : Octets :=
  if shell.extended then
    (if shell.extra.source = [] then shell.title else shell.extra.source) ++ octets s!": line {shell.line}: "
  else shell.title ++ octets s!": {shell.line}: "

/-- Does a part of the work in the name of a builtin. -/
def during {α : Type} (name : Octets) (part : Act α) : Act α := do
  let before := (← get).busyWith
  modify fun shell => { shell with busyWith := name }
  ensuring part (modify fun shell => { shell with busyWith := before })

/-- Writes a complaint of the shell. -/
def complain (words : Octets) : Act Unit := do
  let shell ← get
  let busy := if shell.busyWith = [] then [] else shell.busyWith ++ [':', ' ']
  write 2 (shell.origin ++ busy ++ words ++ ['\n'])

/-- Writes a complaint of the shell and stops at a fault. -/
def refuse {α : Type} (words : Octets) : Act α := do
  complain words
  throw .failed

/-- Writes a complaint of the shell and ends it. -/
def abandon {α : Type} (words : Octets) : Act α := do
  complain words
  let shell ← get
  throw (.exit (if shell.extra.given && shell.process = shell.principal then 127 else 1))

end Workyard.Shell
