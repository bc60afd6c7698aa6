/-
**The service of a manager.**

A manager takes commands, registrations of workers and the end of the input for a dispatcher. What is
blank is refused.

* `submit`, `register`: refuse blank text and pass on the rest;
* `eofReply`: what one who ended the input is told once the dispatcher has stopped.
-/

import Workyard.Endpoint
import Workyard.Rpc.Error
import Workyard.Yard.Basic

namespace Workyard.Rpc.Manager

variable {σ : Type}

/-- The answer for what must not be empty. -/
def emptyError (noun : String) : Error := .ofFailure (.validation s!"{noun} must not be empty")

/-- Takes a command. -/
def submit (setting : Yard.Setting σ) (command : String) (yard : Yard σ) :
    Yard σ × Except Error Wire.Submitted :=
  if Text.allBlank command.toList then (yard, .error (emptyError "command"))
  else match yard.submit setting command with
    | (yard, .ok id) => (yard, .ok ⟨id⟩)
    | (yard, .error error) => (yard, .error (.ofFailure (.dispatch error)))

/-- Takes on a worker under its full address, calls to it taking at most `limit` milliseconds. -/
def register (limit : Option Nat) (address : String) (yard : Yard σ) :
    Yard σ × Except Error Wire.Registered :=
  if Text.allBlank address.toList then (yard, .error (emptyError "address"))
  else
    let (yard, accepted) := yard.addWorker (Endpoint.workerUrl address) limit
    (yard, .ok ⟨accepted⟩)

/-- Ends the input; a dispatcher that has stopped needs no telling. -/
def endOfInput (yard : Yard σ) : Yard σ := yard.endOfInput.1

/-- What one who ended the input is told, if the dispatcher has stopped. -/
def eofReply (yard : Yard σ) : Option (Except Error Wire.Summary) :=
  yard.board.await.map fun
    | .ok tally => .ok (.ofTally tally)
    | .error error => .error (.ofFailure (.dispatch error))

end Workyard.Rpc.Manager
