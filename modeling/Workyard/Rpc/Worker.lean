/-
**The service of a worker.**

A worker runs commands for others and answers session checks.
-/

import Workyard.Rpc.Error

namespace Workyard.Rpc.Worker

/-- The version that a worker answers. -/
def version : String := "0.1.0"

/-- The answer to a session check. -/
def ping : Wire.Pong := ⟨version⟩

/-- The answer once a command has come out. -/
def reply : Except ExecFailure Success → Except Error Unit
  | .ok _ => .ok ()
  | .error failure => .error (.ofExecution (failure.truncated maxFailureOutput))

end Workyard.Rpc.Worker
