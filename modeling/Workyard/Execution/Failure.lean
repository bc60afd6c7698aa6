/-
**Commands that did not succeed.**

A command fails by its exit status, by a signal, by running too long, or by never starting. All of
these are final: none of them says that the worker was lost. Captured output can be cut down to its
last octets; the cut falls on a character boundary and is announced in front of what is kept.

* `outputTail_of_le`: short output is kept as it is.
-/

import Workyard.Text.Utf8

namespace Workyard

/-- Why a command did not succeed. -/
inductive ExecFailure where
  /-- It ended with a status other than zero, or with none on a signal. -/
  | exited (code : Option Int) (output : String)
  /-- It could not be started. -/
  | spawnFailed (reason : String)
  /-- It was killed after so many milliseconds. -/
  | timedOut (afterMs : Int) (output : String)
  /-- Its output could not be read. -/
  | ioFailed (reason : String)
deriving DecidableEq, Repr

namespace ExecFailure

/-- The words for the failure, with the captured output in brackets. -/
def message : ExecFailure → String
  | .exited (some code) output => s!"exit status {code}: [{output}]"
  | .exited none output => s!"exit status: terminated by signal: [{output}]"
  | .spawnFailed reason => s!"exit status: spawn failed: {reason}"
  | .timedOut afterMs output => s!"exit status: killed after {afterMs}ms: [{output}]"
  | .ioFailed reason => s!"exit status: IO error: {reason}"

/-- The captured output, empty if there never was any. -/
def output : ExecFailure → String
  | .exited _ output | .timedOut _ output => output
  | .spawnFailed _ | .ioFailed _ => ""

/-- The exit status, if the command ended with one. -/
def exitCode : ExecFailure → Option Int
  | .exited code _ => code
  | _ => none

/-- The last octets of an output, at most `limit` of them, behind a note of how many were cut. -/
def outputTail (limit : Nat) (output : String) : String :=
  let text := output.toList
  let size := Text.Utf8.size text
  if size ≤ limit then output
  else
    let (cut, kept) := Text.Utf8.dropOctets (size - limit) text
    s!"[{cut} bytes truncated]" ++ String.ofList kept

/-- The failure with its output cut down to the last `limit` octets. -/
def truncated (limit : Nat) : ExecFailure → ExecFailure
  | .exited code output => .exited code (outputTail limit output)
  | .timedOut afterMs output => .timedOut afterMs (outputTail limit output)
  | other => other

theorem outputTail_of_le {limit : Nat} {output : String}
    (small : Text.Utf8.size output.toList ≤ limit) : outputTail limit output = output := by
  simp [outputTail, small]

end ExecFailure

/-- The most octets of output that a failure carries to the dispatcher. -/
def maxFailureOutput : Nat := 256 * 1024

/-- A command that succeeded. -/
structure Success where
  durationMs : Int
  output : String
deriving DecidableEq, Repr

/-- How a call of a worker failed. -/
inductive CallFailure where
  /-- The command ran and did not succeed, for the reason given. -/
  | process (reason : String)
  /-- The call itself failed, so that nothing is known about the command. -/
  | transport (reason : String)
deriving DecidableEq, Repr

namespace CallFailure

/-- The words for the failure. -/
def message : CallFailure → String
  | .process reason => s!"remote process failed: {reason}"
  | .transport reason => s!"transport failure: {reason}"

/-- Whether nothing is known about the command. -/
def isTransport : CallFailure → Bool
  | .process _ => false
  | .transport _ => true

end CallFailure

end Workyard
