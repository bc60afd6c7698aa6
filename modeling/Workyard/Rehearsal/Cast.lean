/-
**Scripted workers.**

In a rehearsal workers do what a script says: they cannot be reached, they leave each call open until
it is finished from outside, or they run commands with the stub, dropping the calls that the script
names. A call is open until its outcome is there or its limit has passed; if both are there at once
the outcome counts.

* `OpenCall.outcome?`: the outcome of a call at a time.
-/

import Workyard.Execution.Stub
import Workyard.Yard.Proxy

namespace Workyard.Rehearsal

open Yard

/-- What a worker does. -/
inductive Script where
  /-- Leaves each call open. -/
  | gated
  /-- Cannot be reached. -/
  | down
  /-- Runs commands, but drops the calls marked here, in order; later calls run. -/
  | runs (drops : List Bool)
deriving DecidableEq, Repr

/-- A worker, and the commands it has got if it runs any. -/
structure Worker where
  address : String
  script : Script
  received : List String := []
deriving DecidableEq, Repr

/-- A call that a proxy waits for. -/
structure OpenCall where
  proxy : Nat
  /-- The address, if the call stays open until it is finished from outside. -/
  gate : Option String
  /-- The outcome, to be had from a time on; none as long as nobody has given it. -/
  result : Option (Nat × Outcome)
  /-- When the call is given up. -/
  deadline : Option Nat
  /-- The limit that set the deadline. -/
  limit : Nat := 0

/-- The outcome of a call at a time. -/
def OpenCall.outcome? (now : Nat) (call : OpenCall) : Option Outcome :=
  let late := match call.deadline with
    | some deadline => if deadline ≤ now then some (Outcome.late call.limit) else none
    | none => none
  match call.result with
  | some (due, outcome) => if due ≤ now then some outcome else late
  | none => late

/-- The times at which something happens to a call. -/
def OpenCall.times (call : OpenCall) : List Nat :=
  (call.result.map (·.1)).toList ++ call.deadline.toList

/-- The outcome of a call that the stub runs. -/
def stubOutcome (command : String) : Outcome :=
  match Stub.run command with
  | .ok _ => .ok ()
  | .error failure => .error (.process failure.message)

/-- The outcome of a call whose connection breaks. -/
def brokenOutcome : Outcome := .error (.transport "connection reset by peer")

/-- A call made now, and the worker after it. -/
def Worker.call (now proxy : Nat) (limit : Option Nat) (command : String) (worker : Worker) :
    OpenCall × Worker :=
  let deadline := limit.map (now + ·)
  let limit := limit.getD 0
  match worker.script with
  | .gated => (⟨proxy, some worker.address, none, deadline, limit⟩, worker)
  | .down => (⟨proxy, none, some (now, brokenOutcome), deadline, limit⟩, worker)
  | .runs drops =>
    let result := if drops.head? = some true then (now, brokenOutcome)
      else (now + Stub.delay command, stubOutcome command)
    (⟨proxy, none, some result, deadline, limit⟩,
      { worker with script := .runs drops.tail, received := worker.received ++ [command] })

end Workyard.Rehearsal
