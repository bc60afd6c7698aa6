/-
**Links to services.**

A link takes a call to a service and brings back the text of what was answered, or how the call
failed.

* `Link.request`: a call with its answer read;
* `Dialer.link`: the link for an address.
-/

import Workyard.Client.Failure
import Workyard.Wire.Call

namespace Workyard.Client

/-- The way to a service; `σ` is what is behind it. -/
structure Link (σ : Type) where
  send : σ → Wire.Call → σ × Except LinkFailure String

namespace Link

variable {σ α : Type}

/-- A call with its answer read. -/
def request (link : Link σ) (scan : Json.Scan α) (call : Wire.Call) (state : σ) :
    σ × Except LinkFailure α :=
  match link.send state call with
  | (state, .ok text) => (state, (Json.scanText scan text).mapError .unreadable)
  | (state, .error failure) => (state, .error failure)

/-- A link on which every call is lost. -/
def severed (fault : IoFault) : Link σ := ⟨fun state _ => (state, .error (.lost fault.message))⟩

end Link

/-- How links are made for full addresses, which a package for calls takes apart; it refuses those that
it cannot use and says why. -/
structure Dialer (σ : Type) where
  dial : String → Except String (Link σ)

/-- The link for a full address. -/
def Dialer.link {σ : Type} (dialer : Dialer σ) (url : String) : Except String (Link σ) :=
  (dialer.dial url).mapError fun words => s!"Failed to create client for {url}: {words}"

/-- Reads an answer that says nothing. -/
def scanNothing : Json.Scan Unit := do
  match ← Json.Scan.needToken .endInValue with
  | 'n' => Json.Scan.advance; Json.Scan.word ['u', 'l', 'l']
  | _ => Json.Scan.refuseShape

end Workyard.Client
