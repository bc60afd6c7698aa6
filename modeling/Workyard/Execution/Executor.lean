/-
**Carrying out commands with a shell.**

An executor has its shell carry out a command, waits for the shell, for a limited time if it has a limit,
and takes what was written. Starting programs, waiting for them and reading their pipes is done by a
kernel, about which nothing is known here but what it answers.

* `Executor.execute`: the output of a command, or why it did not succeed.
-/

import Workyard.Execution.Failure

namespace Workyard

/-- How a program ended. -/
inductive ExitStatus where
  | exited (status : Nat)
  | killed (signal : Nat)
deriving DecidableEq, Repr

/-- The status with which a program ended, if no signal killed it. -/
def ExitStatus.code? : ExitStatus → Option Int
  | .exited status => some status
  | .killed _ => none

/-- What is seen of a program that is given so much time and is then killed with all that it started. -/
structure Sight where
  /-- How it ended by itself, none if it had to be killed, or why it could not be waited for. -/
  ending : Except String (Option ExitStatus)
  /-- What was written into its pipe until nobody could write any more, or why that could not be read. -/
  written : Except String (List UInt8)
  /-- The milliseconds between two looks at the clock, which may go back. -/
  elapsed : Int

/-- What starts programs. -/
structure Kernel where
  /-- Starts a shell on a command, with nothing to read and one pipe for all that it writes. It is seen
  once it is said how many milliseconds it is given; none if it is never killed. -/
  start (shell command : String) : Except String (Option Nat → Sight)

/-- How commands are carried out. -/
structure Executor where
  /-- The name of the shell. -/
  shell : String := "/bin/sh"
  /-- The time that a command may take, in milliseconds. -/
  maxRuntime : Option Nat := none

/-- The text that octets make up, as far as they do. -/
def textOf (octets : List UInt8) : String := String.ofList (Text.Utf8.decodeLossy octets)

/-- What comes of a program that is seen in this way. A fault in waiting is told before one in reading. -/
def Sight.result (sight : Sight) : Except ExecFailure Success :=
  match sight.ending, sight.written with
  | .error reason, _ => .error (.ioFailed reason)
  | .ok _, .error reason => .error (.ioFailed reason)
  | .ok ending, .ok octets =>
    match ending with
    | none => .error (.timedOut sight.elapsed (textOf octets))
    | some (.exited 0) => .ok ⟨sight.elapsed, textOf octets⟩
    | some status => .error (.exited status.code? (textOf octets))

/-- Carries out a command. -/
def Executor.execute (executor : Executor) (kernel : Kernel) (command : String) :
    Except ExecFailure Success :=
  match kernel.start executor.shell command with
  | .error reason => .error (.spawnFailed reason)
  | .ok child => (child executor.maxRuntime).result

end Workyard
