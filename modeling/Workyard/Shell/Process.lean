/-
**What a shell does.**

An action of a process works on the state of its shell and on the world, may wait for others, and may be
stopped early.

* `Act`: an action; `Unwind`: what stops it early;
* `suspend`, `fork`, `finish`: the cuts in the course of a process;
* `attempt`: an action with what stopped it.
-/

import Workyard.Shell.Course
import Workyard.Shell.Syntax

namespace Workyard.Shell

/-- What a variable can hold. -/
inductive Shape where
  | single
  /-- Members by numbers. -/
  | row
  /-- Members by texts. -/
  | table
deriving DecidableEq, Repr

/-- A variable of a shell. -/
structure Variable where
  /-- The value; of a list, that of the member zero. -/
  text : Option Octets
  exported : Bool := false
  fixed : Bool := false
  shape : Shape := .single
  /-- The members of a list by their keys, in the order in which they are shown. -/
  members : List (Octets × Octets) := []
  /-- The letters of what else it was declared to be. -/
  marks : List Char := []

/-- What a shell does about a signal. -/
abbrev Trap := Nat × Octets

/-- Processes that were started in the background as one command. -/
structure Job where
  number : Nat
  /-- In the order of a pipeline. -/
  processes : List Nat
  /-- What is known about their ends. -/
  endings : List (Nat × Ending) := []
  /-- Whether the shell has told about the end. -/
  told : Bool := false
  /-- Whether the shell was asked to wait for it. -/
  waited : Bool := false
  /-- The command as it is shown. -/
  text : Octets := []

/-- How far options were read. -/
structure OptionPlace where
  /-- The number of the next argument. -/
  index : Nat := 1
  /-- The number of characters that were read of the argument before, unless that is done with. -/
  inside : Option Nat := none

/-- A function that is running. -/
structure Calling where
  name : String
  /-- The name of the text that defined it, and the line at which it was called. -/
  source : Octets
  line : Nat

/-- What a shell keeps besides, most of it one of the extended language. -/
structure Extra where
  /-- Whether the shell was given its script as an argument. -/
  given : Bool := false
  /-- The name of the text at hand, unless it is the title of the shell. -/
  source : Octets := []
  /-- How the text at hand is called where it cannot be read. -/
  reading : Octets := []
  /-- The functions that are running, newest first. -/
  calls : List Calling := []
  /-- The names of the texts that defined functions. -/
  origins : List (String × Octets) := []
  /-- The switches that are on. -/
  switches : List String := []
  /-- The builtins that are not to be used. -/
  disabled : List String := []
  /-- The functions that programs get, and those that stay as they are. -/
  sharedFunctions : List String := []
  fixedFunctions : List String := []
  /-- How the commands of the last pipeline ended. -/
  pipeline : List Nat := [0]
  /-- The directories to go back to, newest first. -/
  directories : List Octets := []
  /-- What the next number by chance is made of. -/
  seed : Nat := 42
  /-- The number of shells around this one, and of those of them that are inside words. -/
  depth : Nat := 0
  nesting : Nat := 0
  /-- Whether the lines of the script at hand are shown as they are read, if the shell does so at all. -/
  echoes : Bool := false
  /-- Whether the command at hand is the last one that the shell carries out. -/
  final : Bool := false
  /-- Whether the shell carries out a stage of a pipeline. -/
  piped : Bool := false
  /-- What the shell around this one does about signals, for as long as it is shown as what this one does. -/
  outerTraps : List Trap := []
  /-- The jobs of the shell around this one, which are shown as those of this one. -/
  outerJobs : List Job := []
  /-- How often programs were started by bare names, one name for each time. -/
  uses : List String := []
  /-- The descriptors of files by which commands are read and written. -/
  channels : List Nat := []
  /-- The name that a program gets which is carried out in place of the shell, unless it is its own. -/
  title : Option Octets := none

/-- A shell at one point of its course. -/
structure State where
  world : World
  process : Nat
  /-- The name that stands in front of complaints. -/
  title : Octets
  /-- Whether it knows the extended language. -/
  extended : Bool := false
  extra : Extra := {}
  /-- The process that `$$` stands for. -/
  principal : Nat
  line : Nat := 1
  /-- The builtin at work, which is named in complaints. -/
  busyWith : Octets := []
  status : Nat := 0
  bindings : List (String × Variable) := []
  functions : List (String × Command) := []
  aliases : List (String × Octets) := []
  positional : List Octets := []
  traps : List Trap := []
  /-- The letters of the options that are on. -/
  options : List Char := []
  /-- Whether a failure is looked at by what comes next. -/
  tested : Bool := false
  loops : Nat := 0
  /-- The status of the last script inside a word of the command at hand. -/
  captured : Option Nat := none
  /-- The variables that each running function hides, and the options it keeps. -/
  hidden : List (List (String × Option Variable) × Option (List Char)) := []
  jobs : List Job := []
  lastJob : Option Nat := none
  optionPlace : OptionPlace := {}
  /-- The directory as it was named, by way of links. -/
  place : Octets := ['/']
  /-- The programs that were found by bare names, newest first. -/
  tracked : List (String × Octets) := []
  /-- The documents behind commands, by number. -/
  documents : List (Nat × Word) := []
  /-- A number that no document has, nor any greater one. -/
  freshDocument : Nat := 0
  /-- The signals that were ignored when the shell began, for good. -/
  deaf : List Nat := []
  /-- What a program has put out but not yet written, newest first, and its size. -/
  kept : List Octets := []
  keptSize : Nat := 0

/-- What stops an action early. -/
inductive Unwind where
  | exit (status : Nat)
  /-- A fault, which ends the shell unless a command contains it. -/
  | failed
  | returned (status : Nat)
  | broken (levels : Nat)
  | continued (levels : Nat)
deriving DecidableEq, Repr

/-- An action, which is told how the course of the process goes on behind it. -/
def Act (α : Type) : Type := State → (Except Unwind α → State → Course) → Course

namespace Act

instance : Monad Act where
  pure value := fun shell next => next (.ok value) shell
  bind first second := fun shell next =>
    first shell fun result shell => match result with
      | .ok value => second value shell next
      | .error stop => next (.error stop) shell

instance : MonadStateOf State Act where
  get := fun shell next => next (.ok shell) shell
  set shell := fun _ next => next (.ok ()) shell
  modifyGet change := fun shell next =>
    let (value, shell) := change shell
    next (.ok value) shell

instance : MonadExceptOf Unwind Act where
  throw stop := fun shell next => next (.error stop) shell
  tryCatch part handle := fun shell next =>
    part shell fun result shell => match result with
      | .ok value => next (.ok value) shell
      | .error stop => handle stop shell next

end Act

/-- Runs a part to its end, however it is stopped. -/
def attempt {α : Type} (part : Act α) : Act (Except Unwind α) := fun shell next =>
  part shell fun result shell => next (.ok result) shell

/-- Goes on with a result. -/
def settle {α : Type} (result : Except Unwind α) : Act α := fun shell next => next result shell

/-- Does a part of the work and something behind it, however it is stopped. -/
def ensuring {α : Type} (part : Act α) (behind : Act Unit) : Act α := do
  let result ← attempt part
  behind
  settle result

/-! ### The world -/

/-- What all processes share. -/
def world : Act World := do return (← get).world

/-- Changes what all processes share. -/
def modifyWorld (change : World → World) : Act Unit :=
  modify fun shell => { shell with world := change shell.world }

/-- The process at work. -/
def me : Act (Option Process) := do
  let shell ← get
  return shell.world.process? shell.process

/-- Changes the process at work. -/
def modifyMe (change : Process → Process) : Act Unit :=
  modify fun shell => { shell with world := shell.world.update shell.process change }

/-- The tree of files as the process at work sees it. -/
def tree : Act Files.Tree := do
  let shell ← get
  let tree := shell.world.dated
  return match shell.world.process? shell.process with
    | some process => { tree with here := process.here, mask := process.mask }
    | none => tree

/-- Keeps a changed tree of files. -/
def setTree (tree : Files.Tree) : Act Unit := modifyWorld fun world => { world with tree }

/-- Does something to the tree of files. -/
def inTree {α : Type} (change : Files.Tree → Except IoFault (Files.Tree × α)) : Act (Except IoFault α) := do
  match change (← tree) with
  | .ok (tree, value) =>
    setTree tree
    return .ok value
  | .error fault => return .error fault

/-! ### Cuts -/

/-- The process is not there any more. -/
def vanish {α : Type} : Act α := fun shell _ => .ended shell.world

/-- Ends the process. -/
def finish {α : Type} (ending : Ending) : Act α := fun shell _ =>
  .ended (shell.world.finish shell.process ending)

/-- Waits for what is demanded. -/
def suspend (demand : Demand) : Act Unit := fun shell next =>
  .waits shell.world demand fun world => next (.ok ()) { shell with world }

/-- Waits for a state of the world. -/
def waitFor (ready : World → Bool) : Act Unit := do
  if !ready (← world) then suspend { ready }

/-- Waits for ever. -/
def waitForEver {α : Type} : Act α := fun shell _ =>
  .waits shell.world {} fun world => .ended world

/-- Lets time pass. -/
def spend (duration : Nat) : Act Unit := do
  suspend { time := some ((← world).clock + duration) }

/-- The microseconds that starting a process takes its parent. -/
def forkCost : Nat := 50

/-- Whether a new process does the same about a signal, or what else can happen, as its parent. -/
def State.passesOn (shell : State) (trap : Trap) : Bool :=
  trap.2 = [] || (trap.1 = 66 && shell.options.contains 'E') ||
    ((trap.1 = 65 || trap.1 = 67) && shell.options.contains 'T')

/-- Starts a process that does a part of the work; gives its number. What it holds may be changed. -/
def fork (change : Process → Process) (part : Act Empty) : Act Nat := do
  let shell ← get
  let (world, child) := shell.world.spawn shell.process change
  modifyWorld fun _ => world
  let start (world : World) : Course :=
    part { shell with
        world, process := child, jobs := [], lastJob := shell.lastJob
        traps := shell.traps.filter shell.passesOn
        extra := { shell.extra with
          outerTraps := shell.traps, outerJobs := shell.jobs ++ shell.extra.outerJobs } }
      fun result shell => match result with
        | .ok never => nomatch never
        | .error _ => .ended (shell.world.finish shell.process (.exited 2))
  let cut : Act Unit := fun shell next =>
    .forks shell.world child start fun world => next (.ok ()) { shell with world }
  cut
  spend forkCost
  return child

/-- Sends a signal to a process, which may be the one at work. -/
def sendTo (signal number : Nat) : Act Unit := do
  modifyWorld fun world => world.send signal number
  let shell ← get
  if !shell.world.isAlive shell.process then vanish

/-- The children of the process at work that have ended and of which this is not known yet. -/
def World.departed (world : World) (parent : Nat) : List (Nat × Ending) :=
  world.processes.filterMap fun process =>
    if process.parent = parent then process.ending.map (process.number, ·) else none

/-- Takes notice of the end of a child. -/
def reap (number : Nat) : Act Unit :=
  modify fun shell => { shell with
    world := { shell.world with
      processes := shell.world.processes.filter (·.number ≠ number) }
    jobs := match (shell.world.process? number).bind (·.ending) with
      | some ending => shell.jobs.map fun job =>
        if job.processes.contains number then
          { job with endings := (number, ending) :: job.endings } else job
      | none => shell.jobs }

/-- Takes notice of all children that have ended, the oldest first, up to a certain one. -/
def reapUpTo (last : Option Nat) : Act Unit := do
  let shell ← get
  for (number, _) in shell.world.departed shell.process do
    let known : Bool := ((← world).process? number).isSome
    let beyond : Bool := last.any fun last => ((shell.world.process? last).isSome && last < number)
    if known && !beyond then reap number

/-- Waits for the end of a child. -/
def ending (number : Nat) : Act Ending := do
  waitFor fun world => !world.isAlive number
  let found := ((← world).process? number).bind (·.ending)
  reapUpTo (some number)
  return found.getD (.exited 127)

end Workyard.Shell
