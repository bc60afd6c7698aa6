/-
**What clients ask of services.**

A call names a method and brings its parameters: one string under a name, or nothing. A client
writes them and a service reads them; one that expects nothing takes whatever has the form of a
record.

* `Call.parameters`: the parameters as a client writes them;
* `Method.scan`: the call that a service reads from parameters.
-/

import Workyard.Json.Record

namespace Workyard.Wire

open Json

/-- What can be asked of a worker or a manager. -/
inductive Method where
  /-- A worker runs a command. -/
  | execute
  /-- A worker says that it is there. -/
  | ping
  /-- A manager takes on a worker. -/
  | register
  /-- A manager takes a command. -/
  | submit
  /-- A manager is told that the input has ended. -/
  | endOfInput
  /-- A manager gives its counters. -/
  | stats
deriving DecidableEq, Repr

/-- The name of a method, with its version. -/
def Method.name : Method → String
  | .execute => "worker.execute.v1"
  | .ping => "worker.ping.v1"
  | .register => "manager.register.v1"
  | .submit => "jobs.submit.v1"
  | .endOfInput => "jobs.eof.v1"
  | .stats => "admin.stats.v1"

/-- The name under which a client writes the one string of a method, if it writes one. -/
def Method.argument? : Method → Option String
  | .execute | .submit => some "command"
  | .register => some "address"
  | .ping | .endOfInput | .stats => none

/-- The name under which a service looks for the one string of a method, if it expects one. -/
def Method.field? : Method → Option String
  | .execute | .submit => some "command"
  | .register => some "address"
  | .ping | .endOfInput | .stats => none

/-- A method with the string it takes, empty if it takes none. -/
structure Call where
  method : Method
  argument : String := ""
deriving DecidableEq, Repr

/-- The parameters as a client writes them. One that writes no string leaves them out of its message; the
empty list, which a service takes as well, stands for that here. -/
def Call.parameters (call : Call) : Json :=
  match call.method.argument? with
  | some name => record [name] [.text call.argument]
  | none => .list []

/-- Reads a string by its name. -/
def Scan.argument (name : String) : Scan String := do
  match ← Scan.fields [(name, .text)] with
  | [.text argument] => return argument
  | _ => Scan.failHere .otherShape

/-- Reads the parameters of a method as a service does. -/
def Method.scan (method : Method) : Scan Call := do
  match method.field? with
  | some name => return ⟨method, ← Scan.argument name⟩
  | none =>
    let _ ← Scan.optionalFields []
    return ⟨method, ""⟩

end Workyard.Wire
