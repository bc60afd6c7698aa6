/-
**What can go wrong with a call.**

A call can be refused by the service, get lost on the way, or be answered with something that is no
answer to it. For whoever drives a worker only one distinction matters: whether the command is known
to have been run.

* `LinkFailure.callFailure`: only the number for a command that did not succeed says that it was run;
* `ClientFailure.ofLink`, `ClientFailure.toFailure`: the same for clients of a manager.
-/

import Workyard.Rpc.Error

namespace Workyard.Client

/-- How a call failed. -/
inductive LinkFailure where
  /-- The service answered an error. -/
  | refused (code : Int) (message : String)
  /-- The call or its answer was lost. -/
  | lost (words : String)
  | timedOut
  /-- The client has to be started again. Why it stopped is not kept: whoever drives a manager drops it,
  and for one who drives a worker it is only part of the words. -/
  | restartNeeded
  /-- The answer is no JSON or of another shape. -/
  | unreadable (fault : Json.Fault)
  /-- Anything else that the package for calls can fail with; nobody here tells these apart. -/
  | other (words : String)
deriving DecidableEq, Repr

/-- The words for the failure. -/
def LinkFailure.message : LinkFailure → String
  | .refused code message => s!"ErrorObject \x7b code: {code}, message: {Json.quote message} \x7d"
  | .lost words => words
  | .timedOut => "Request timeout"
  | .restartNeeded => "The background task closed; restart required"
  | .unreadable fault => s!"Parse error: {fault.message}"
  | .other words => s!"Custom error: {words}"

/-- The number by which a client knows that a command was run and did not succeed. -/
def LinkFailure.processFailed : Int := 4100

/-- What the failure says about the command. -/
def LinkFailure.callFailure : LinkFailure → CallFailure
  | .refused code message =>
    if code = LinkFailure.processFailed then .process message
    else .transport (LinkFailure.refused code message).message
  | failure => .transport failure.message

/-- How a call of a manager failed. -/
inductive ClientFailure where
  | connection (words : String)
  | rpc (code : Int) (message : String)
  | serialization (fault : Json.Fault)
  | transport (words : String)
  | other (words : String)
deriving DecidableEq, Repr

namespace ClientFailure

/-- The failure of a manager's client when a call failed. -/
def ofLink : LinkFailure → ClientFailure
  | .refused code message => .rpc code message
  | .lost words => .transport words
  | .timedOut => .transport "request timed out"
  | .restartNeeded => .connection "Connection restart needed"
  | .unreadable fault => .serialization fault
  | .other words => .other (LinkFailure.other words).message

/-- The words for the failure. -/
def message : ClientFailure → String
  | .connection words => s!"Connection error: {words}"
  | .rpc code message => s!"RPC error ({code}): {message}"
  | .serialization fault => s!"Serialization error: {fault.message}"
  | .transport words => s!"Transport error: {words}"
  | .other words => s!"Other error: {words}"

/-- The failure among those of all parts. -/
def toFailure (failure : ClientFailure) : Failure :=
  match failure with
  | .rpc _ _ | .other _ => .internal failure.message
  | .serialization fault => .serialization fault
  | .connection _ | .transport _ => .transport failure.message

end ClientFailure

end Workyard.Client
