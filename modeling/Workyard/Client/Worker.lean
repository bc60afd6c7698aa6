/-
**Clients of workers.**

A client has a worker run commands. Nothing is sent when it is made; who wants a session has it checked
first, and the check has to be answered in time.

* `connect`: a session with the worker at an address.
-/

import Workyard.Client.Link
import Workyard.Endpoint

namespace Workyard.Client.Worker

variable {σ : Type}

/-- What a failed call says about a command. -/
def classify {α : Type} : σ × Except LinkFailure α → σ × Except CallFailure α
  | (state, result) => (state, result.mapError LinkFailure.callFailure)

/-- Checks the session. -/
def ping (link : Link σ) (state : σ) : σ × Except CallFailure Wire.Pong :=
  classify (link.request Wire.Pong.scan ⟨.ping, ""⟩ state)

/-- Has the worker run a command. -/
def execute (link : Link σ) (command : String) (state : σ) : σ × Except CallFailure Unit :=
  classify (link.request scanNothing ⟨.execute, command⟩ state)

/-- The client for an address. -/
def create (dialer : Dialer σ) (address : String) : Except CallFailure (Link σ) :=
  (dialer.link (Endpoint.workerUrl address)).mapError .transport

/-- The seconds within which a session check has to be answered. -/
def checkSeconds : Nat := 10

/-- Opens a session. Whether the check comes too late is up to the network. -/
def connect (dialer : Dialer σ) (late : Bool) (address : String) (state : σ) :
    σ × Except CallFailure (Link σ) :=
  match create dialer address with
  | .error failure => (state, .error failure)
  | .ok link =>
    let (state, pong) := ping link state
    let words := s!"no answer from {Endpoint.workerUrl address} within {checkSeconds}s"
    (state, if late then .error (.transport words) else pong.map fun _ => link)

end Workyard.Client.Worker
