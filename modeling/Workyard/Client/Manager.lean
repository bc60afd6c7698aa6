/-
**Clients of managers.**

A client registers workers, submits commands, ends the input and asks for counters. It keeps the final
counts that ending the input has brought, and takes the commands of a command source.
-/

import Workyard.Client.Link
import Workyard.Command.Post
import Workyard.Endpoint

namespace Workyard.Client

/-- A client: what is behind its link, and the final counts. -/
structure Manager (σ : Type) where
  state : σ
  summary : Option Wire.Summary := none

namespace Manager

variable {σ α : Type}

/-- The link to the manager at an address, over which nothing is sent yet. -/
def connect (dialer : Dialer σ) (address : String) : Except ClientFailure (Link σ) :=
  (dialer.link (Endpoint.managerUrl address)).mapError .connection

/-- A call with its answer read. -/
def request (link : Link σ) (scan : Json.Scan α) (call : Wire.Call) (client : Manager σ) :
    Manager σ × Except ClientFailure α :=
  let (state, result) := link.request scan call client.state
  ({ client with state }, result.mapError ClientFailure.ofLink)

/-- Registers a worker; false if the manager does not take it on. -/
def register (link : Link σ) (address : String) (client : Manager σ) :
    Manager σ × Except ClientFailure Bool :=
  let (client, result) := client.request link Wire.Registered.scan ⟨.register, address⟩
  (client, result.map (·.accepted))

/-- Submits a command. -/
def submit (link : Link σ) (command : String) (client : Manager σ) :
    Manager σ × Except ClientFailure JobId :=
  let (client, result) := client.request link Wire.Submitted.scan ⟨.submit, command⟩
  (client, result.map (·.jobId))

/-- Ends the input and keeps the final counts. -/
def endOfInput (link : Link σ) (client : Manager σ) :
    Manager σ × Except ClientFailure Wire.Summary :=
  match client.request link Wire.Summary.scan ⟨.endOfInput, ""⟩ with
  | (client, .ok summary) => ({ client with summary := some summary }, .ok summary)
  | failed => failed

/-- Asks for the counters. -/
def stats (link : Link σ) (client : Manager σ) : Manager σ × Except ClientFailure Stats :=
  client.request link Stats.scan ⟨.stats, ""⟩

/-- A client as a taker of commands. -/
def sink (link : Link σ) : Command.Sink (Manager σ) where
  submit client command :=
    let (client, result) := client.submit link command
    (client, result.mapError ClientFailure.toFailure)
  endOfInput client :=
    let (client, result) := client.endOfInput link
    (client, (result.mapError ClientFailure.toFailure).map fun _ => ())

end Manager

end Workyard.Client
