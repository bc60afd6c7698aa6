/-
**Failures of the application.**

Each part of the library fails in its own terms. A `Failure` holds any of them, so that a caller
who uses several parts has one type to deal with, and puts the part's name in front of its words.
-/

import Workyard.Job
import Workyard.Json.Fault
import Workyard.Command.Reader
import Workyard.Execution.Failure

namespace Workyard

/-- A failure of any part. -/
inductive Failure where
  | dispatch (error : DispatchError)
  | validation (words : String)
  | io (fault : IoFault)
  | serialization (fault : Json.Fault)
  | config (words : String)
  | source (fault : Command.SourceFault)
  | execution (failure : ExecFailure)
  | call (failure : CallFailure)
  | transport (words : String)
  | internal (words : String)
deriving DecidableEq, Repr

namespace Failure

/-- The words of the part that failed. -/
def words : Failure → String
  | .dispatch error => error.message
  | .validation words => words
  | .io fault => fault.message
  | .serialization fault => fault.message
  | .config words => words
  | .source fault => fault.message
  | .execution failure => failure.message
  | .call failure => failure.message
  | .transport words => words
  | .internal words => words

/-- What the words of a failure start with. -/
def heading : Failure → String
  | .dispatch _ => "Domain error"
  | .validation _ => "Validation error"
  | .io _ => "IO error"
  | .serialization _ => "Serialization error"
  | .config _ => "Configuration error"
  | .source _ => "Command source error"
  | .execution _ => "Execution error"
  | .call _ => "Call error"
  | .transport _ => "Transport error"
  | .internal _ => "Internal error"

/-- The words for the failure. -/
def message (failure : Failure) : String := s!"{failure.heading}: {failure.words}"

/-- The words of what caused the failure, outermost first. -/
def causes : Failure → List String
  | .source (.unreadable line fault) =>
    [(Command.SourceFault.unreadable line fault).message, fault.message]
  | .dispatch error => [error.message]
  | .io fault => [fault.message]
  | .serialization fault => [fault.message]
  | .source fault => [fault.message]
  | .execution failure => [failure.message]
  | .call failure => [failure.message]
  | _ => []

end Failure

end Workyard
