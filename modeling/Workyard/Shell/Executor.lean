/-
**A machine that carries out commands.**

This is one kernel, for runs: a plain machine with a tree of files and the programs named after its shell.
A command is handed to a shell as its script. If the shell itself has not ended in its time, all that it
started is killed. What it left in the background is waited for otherwise. No theorem is about this
machine; what holds of executors holds with every kernel.

* `Executor.kernel`: what starts programs on the machine;
* `Executor.execute`: the output of a command, or why it did not succeed.
-/

import Workyard.Execution.Executor
import Workyard.Shell.Evaluation

namespace Workyard.Shell

/-- An executor, and the files of the machine on which it carries out commands. -/
structure Executor extends Workyard.Executor where
  tree : Files.Tree := Files.Tree.machine ["work"]

/-- The octets from which on a text is too long to be an argument of a program. -/
def argumentLimit : Nat := 131072

namespace Executor

/-- The variables that the shell gets. -/
def environment (executor : Executor) : List (String × Variable) :=
  [("HOME", "/root"), ("PATH", "/usr/local/sbin:/usr/local/bin:/usr/sbin:/usr/bin:/sbin:/bin"),
    ("PWD", "/" ++ "/".intercalate executor.tree.here)].map fun entry =>
      (entry.1, { text := some (octets entry.2), exported := true })

/-- The number of the process in which a command is carried out. -/
def principal : Nat := 1000

/-- The world in which a command is carried out: nothing can be read, and all that is written goes to the
caller. -/
def world (executor : Executor) : World :=
  let nothing : Opened := { node := (executor.tree.number? ["dev", "null"]).getD 0, reads := true }
  { tree := executor.tree
    opened := [(0, nothing)]
    processes := [{
      number := principal, parent := 0, group := principal, here := executor.tree.here
      descriptors := [(0, .file 0), (1, .caller), (2, .caller)] }] }

/-- The shell in which a command is carried out. -/
def process (executor : Executor) (world : World) : State where
  world
  process := principal
  title := octets executor.shell
  principal
  bindings := executor.environment

/-- The file of the shell, or why it cannot be started. -/
def file (executor : Executor) : Except OsFault Octets :=
  let name := octets executor.shell
  match (executor.process executor.world).programFile executor.tree name with
  | .ok file => .ok file
  | .error .permission => .error .permissionDenied
  | .error .place => .error .permissionDenied
  | .error (.other fault) => .error fault
  | .error .program =>
    if name.contains '/' then match executor.tree.find executor.shell with
      | .error (.os fault) => .error fault
      | _ => .error .notFound
    else if name = ['.'] || name = ['.', '.'] then .error .permissionDenied
    else if Files.maxPart < name.length then .error .nameTooLong
    else .error .notFound

/-- Why a command cannot be started. -/
def refusal (executor : Executor) (command : String) : Option IoFault :=
  if command.toList.contains '\x00' || executor.shell.toList.contains '\x00' then some .nulInArgument
  else match executor.file with
    | .error fault => some (.os fault)
    | .ok _ =>
      if argumentLimit ≤ Text.Utf8.size command.toList then some (.os .argumentsTooLong) else none

/-- The microseconds up to which a command is carried out: an hour if no time is given. -/
def horizon (time : Option Nat) : Nat :=
  match time with
  | some limit => limit * 1000
  | none => 3600 * 1000000

/-- The most cuts in the courses of all processes. -/
def maxCuts : Nat := Nat.pow 2 40

/-- What a shell leaves: how it ended, none if it did not in its time, and the world. -/
def outcome (executor : Executor) (command : String) (time : Option Nat) : Option Ending × World :=
  let words := [octets executor.shell, ['-', 'c'], octets command]
  let file := executor.file.toOption.getD []
  let start (world : World) : Course :=
    runProgram (run maxDepth) maxLaunches file words (executor.process world) fun _ shell =>
      .ended shell.world
  let ended (world : World) : Bool := !world.isAlive principal
  let (world, threads) := carryOn (horizon time) ended maxCuts executor.world
    [⟨principal, { ready := fun _ => true }, start⟩]
  match (world.process? principal).bind (·.ending) with
  | none => (none, world)
  | some ending =>
    if time.any fun limit => limit * 1000 ≤ world.clock then (none, world)
    else
      -- What is left in the background still writes.
      let silent (world : World) : Bool := !world.holds fun handle => handle = .caller
      let (world, _) := carryOn (world.clock + 3600 * 1000000) silent maxCuts world threads
      (some ending, world)

/-- What was written up to a time. -/
def written (world : World) (upTo : Option Nat) : Octets :=
  let inTime (writing : Nat × Octets) : Bool := upTo.all fun time => writing.1 ≤ time
  (world.written.reverse.filter inTime).flatMap (·.2)

/-- What is seen of a command that is given so many milliseconds. The clock that measures it stands
still. -/
def sight (executor : Executor) (command : String) (time : Option Nat) : Sight :=
  let (ending, world) := executor.outcome command time
  match ending with
  | some (.exited status) => ⟨.ok (some (.exited status)), .ok (numbers (written world none)), 0⟩
  | some (.killed signal) => ⟨.ok (some (.killed signal)), .ok (numbers (written world none)), 0⟩
  | none => ⟨.ok none, .ok (numbers (written world (some (horizon time)))), 0⟩

/-- What starts programs on the machine. -/
def kernel (executor : Executor) : Kernel where
  start shell command :=
    let executor := { executor with shell }
    match executor.refusal command with
    | some fault => .error fault.message
    | none => .ok (executor.sight command)

/-- Carries out a command on the machine. -/
def execute (executor : Executor) (command : String) : Except ExecFailure Success :=
  executor.toExecutor.execute executor.kernel command

end Executor

end Workyard.Shell
