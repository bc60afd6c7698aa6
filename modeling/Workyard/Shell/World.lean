/-
**What processes share.**

A world has files, pipes and processes. A process holds descriptors, which lead to files that are open, to
the ends of pipes, or to the caller, who keeps what is written together with its time. Nothing in a pipe
is there for ever: it is at its end once nobody holds an end to write into it.

* `World.send`: what a signal does to a process;
* `World.finish`: the end of a process;
* `World.spawn`: a new process, which has what its parent has.

Time is counted in microseconds.
-/

import Workyard.Files.Tree
import Workyard.Shell.Limit
import Workyard.Shell.Octets
import Workyard.Shell.Signal

namespace Workyard.Shell

/-- What a descriptor leads to. -/
inductive Handle where
  | caller
  | pipe (index : Nat) (reads writes : Bool)
  | file (index : Nat)
deriving DecidableEq, Repr

/-- A file that is open. -/
structure Opened where
  node : Nat
  position : Nat := 0
  reads : Bool := false
  writes : Bool := false
  /-- Whether everything is written behind all that is there. -/
  appends : Bool := false
deriving Repr

/-- What passes octets on. -/
structure Pipe where
  /-- What comes next. -/
  front : List Octets := []
  /-- What comes after that, newest first. -/
  back : List Octets := []
  size : Nat := 0
  /-- How often it was opened by name, to read and to write. -/
  readings : Nat := 0
  writings : Nat := 0

/-- The most octets that wait in a pipe. -/
def pipeRoom : Nat := 65536

/-- Puts octets into a pipe. -/
def Pipe.put (pipe : Pipe) (text : Octets) : Pipe :=
  { pipe with back := text :: pipe.back, size := pipe.size + text.length }

/-- Takes what comes next from a pipe, up to a number of octets and perhaps up to the end of a line. -/
def Pipe.take (pipe : Pipe) (limit : Nat) (line : Bool) : Octets × Pipe :=
  let (front, back) := if pipe.front = [] then (pipe.back.reverse, []) else (pipe.front, pipe.back)
  match front with
  | [] => ([], pipe)
  | first :: rest =>
    let piece := first.take limit
    let piece := if line then
        let before := piece.takeWhile (· ≠ '\n')
        piece.take (before.length + 1)
      else piece
    let left := first.drop piece.length
    (piece, { pipe with
      front := if left = [] then rest else left :: rest, back
      size := pipe.size - piece.length })

/-- How a process ended. -/
inductive Ending where
  | exited (status : Nat)
  | killed (signal : Nat)
deriving DecidableEq, Repr

/-- The status by which an ending is known. -/
def Ending.status : Ending → Nat
  | .exited status => status
  | .killed signal => 128 + signal

/-- A process. -/
structure Process where
  number : Nat
  parent : Nat
  group : Nat
  descriptors : List (Nat × Handle)
  /-- What descriptors led to before they were made to lead elsewhere for a while. -/
  saved : List Handle := []
  /-- The directory from which it reads names. -/
  here : Files.Path
  /-- The permissions that what it creates does not get. -/
  mask : Nat := 0o022
  ignored : List Nat := []
  caught : List Nat := []
  /-- The signals that were caught and are not yet answered. -/
  arrived : List Nat := []
  halted : Bool := false
  /-- The limits that were set. -/
  limits : List (Resource × Limit) := []
  ending : Option Ending := none

/-- The limit of a process for a resource. -/
def Process.limit (process : Process) (resource : Resource) : Limit :=
  (process.limits.lookup resource).getD (.atFirst resource)

/-- What all processes share. -/
structure World where
  clock : Nat := 0
  tree : Files.Tree
  pipes : List (Nat × Pipe) := []
  opened : List (Nat × Opened) := []
  /-- The pipes that have names, by the numbers of their nodes. -/
  named : List (Nat × Nat) := []
  processes : List Process := []
  /-- A number that no process has, nor any greater one. -/
  freshProcess : Nat := 1001
  /-- An index that no pipe and no open file has, nor any greater one. -/
  freshIndex : Nat := 1
  /-- What was written for the caller and when, newest first. -/
  written : List (Nat × Octets) := []

/-- Entries in which an index has a value. -/
def replaceIn {α : Type} (index : Nat) (value : α) (entries : List (Nat × α)) : List (Nat × α) :=
  (index, value) :: entries.filter (·.1 ≠ index)

namespace World

/-- The microseconds from the beginning of the calendar to the beginning of the clock. -/
def calendarStart : Nat := 1748779200000000

/-- The tree of files, in which what is changed gets the time of the clock. -/
def dated (world : World) : Files.Tree := { world.tree with now := calendarStart + world.clock }

/-- The process with a number. -/
def process? (world : World) (number : Nat) : Option Process :=
  world.processes.find? (·.number = number)

/-- Whether a process has not ended. -/
def isAlive (world : World) (number : Nat) : Bool :=
  (world.process? number).any (·.ending.isNone)

/-- Changes a process. -/
def update (world : World) (number : Nat) (change : Process → Process) : World :=
  { world with processes := world.processes.map fun process =>
      if process.number = number then change process else process }

/-- Whether a process holds what a condition wants. -/
def holds (world : World) (wanted : Handle → Bool) : Bool :=
  world.processes.any fun process =>
    (process.descriptors.any fun entry => wanted entry.2) || process.saved.any wanted

/-- Whether somebody can write into a pipe. -/
def isFed (world : World) (index : Nat) : Bool :=
  world.holds fun handle => match handle with
    | .pipe other _ writes => other = index && writes
    | _ => false

/-- Whether somebody can read from a pipe. -/
def isRead (world : World) (index : Nat) : Bool :=
  world.holds fun handle => match handle with
    | .pipe other reads _ => other = index && reads
    | _ => false

/-- The world without the pipes and open files that nobody holds. A pipe with a name stays. -/
def swept (world : World) : World :=
  { world with
    pipes := world.pipes.filter fun entry =>
      world.named.any (·.2 = entry.1) || world.isFed entry.1 || world.isRead entry.1
    opened := world.opened.filter fun entry => world.holds fun handle => handle = .file entry.1 }

/-- The process as it is after the end of another one: a child of that one has no parent any more, and is
no longer known if it has ended itself. -/
def outliving (ended : Nat) (process : Process) : Option Process :=
  if process.parent = ended then
    (if process.ending.isSome then none else some { process with parent := 1 })
  else if process.number = ended && process.parent = 1 then none
  else some process

/-- A process with a signal that it caught. -/
def arriving (signal : Nat) (process : Process) : Process :=
  if process.arrived.contains signal then process
  else { process with arrived := process.arrived ++ [signal] }

/-- The end of a process, of which its parent may want to be told. -/
def finish (world : World) (number : Nat) (ending : Ending) : World :=
  let parent := ((world.process? number).map (·.parent)).getD 0
  let world := world.update number fun process =>
    { process with ending := process.ending.or (some ending), descriptors := [], saved := [], halted := false }
  let world := world.update parent fun process =>
    if process.caught.contains 17 then arriving 17 process else process
  swept { world with processes := world.processes.filterMap (outliving number) }

/-- What a signal does to a process; nothing if it has ended. -/
def send (world : World) (signal : Nat) (number : Nat) : World :=
  match world.process? number with
  | none => world
  | some process =>
    if process.ending.isSome || signal = 0 then world
    else if signal = 9 then world.finish number (.killed signal)
    else if signal = 19 then world.update number fun process => { process with halted := true }
    else if signal = 18 then
      let woken := world.update number fun process => { process with halted := false }
      if process.caught.contains signal then
        woken.update number (arriving signal)
      else
        match process.arrived.find? fun signal => !process.caught.contains signal with
        | some fatal => woken.finish number (.killed fatal)
        | none => woken
    else if process.ignored.contains signal then world
    else if process.caught.contains signal then
      world.update number (arriving signal)
    else match reaction signal with
      | .nothing => world
      | .stops => world.update number fun process => { process with halted := true }
      | .ends =>
        if process.halted then world.update number (arriving signal)
        else world.finish number (.killed signal)

/-- A new process, which has what its parent has but no traps, with a change to it; gives also its
number. -/
def spawn (world : World) (parent : Nat) (change : Process → Process) : World × Nat :=
  let number := world.freshProcess
  let processes := match world.process? parent with
    | some process =>
      world.processes ++
        [change { process with number, parent, caught := [], arrived := [], ending := none }]
    | none => world.processes
  ({ world with processes, freshProcess := number + 1 }, number)

/-- A new pipe; gives also its index. -/
def addPipe (world : World) : World × Nat :=
  ({ world with
      pipes := (world.freshIndex, {}) :: world.pipes
      freshIndex := world.freshIndex + 1 }, world.freshIndex)

/-- A newly opened file; gives also its index. -/
def addOpened (world : World) (opened : Opened) : World × Nat :=
  ({ world with
      opened := (world.freshIndex, opened) :: world.opened
      freshIndex := world.freshIndex + 1 }, world.freshIndex)

end World

end Workyard.Shell
