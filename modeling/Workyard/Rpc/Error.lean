/-
**Errors as services answer them.**

A service answers an error with a number, a message and, for a command that did not succeed, its
details. The number `processFailed` says that the command was run and the answer is final; no other
failure of a service has it.

* `Error.ofExecution`: the answer for a command that did not succeed;
* `Error.ofFailure`: the answer for a failure of any part;
* `Error.toJson`: how it is written.
-/

import Workyard.Failure
import Workyard.Wire.Reply

namespace Workyard.Rpc

/-- An error as a service answers it. -/
structure Error where
  code : Int
  message : String
  data : Option Wire.FailureDetail := none
deriving DecidableEq, Repr

namespace Error

/-- The number for what the caller should not have asked. -/
def invalid : Int := 4000

/-- The number for what comes too late. -/
def conflict : Int := 4002

/-- The number for a command that did not succeed. -/
def processFailed : Int := 4100

/-- The number for a fault inside. -/
def internal : Int := 5000

/-- The number for a fault of the system underneath. -/
def system : Int := 5002

/-- The answer for a command that did not succeed; long output is cut. -/
def ofExecution (failure : ExecFailure) : Error :=
  let failure := failure.truncated maxFailureOutput
  { code := processFailed, message := failure.message
    data := some ⟨failure.exitCode, failure.output⟩ }

/-- The answer for a failure of any part. -/
def ofFailure (failure : Failure) : Error :=
  match failure with
  | .execution failure => ofExecution failure
  | .dispatch .closed => { code := conflict, message := failure.words }
  | .validation _ | .dispatch _ | .serialization _ | .source _ =>
    { code := invalid, message := failure.words }
  | .io _ | .call _ | .transport _ => { code := system, message := failure.words }
  | .config _ | .internal _ => { code := internal, message := failure.words }

/-- The error as a service writes it; one without details has no member for them. -/
def toJson (error : Error) : Json :=
  .object ([("code", .int error.code), ("message", .string error.message)] ++
    match error.data with
    | some detail => [("data", detail.toJson)]
    | none => [])

end Error

end Workyard.Rpc
