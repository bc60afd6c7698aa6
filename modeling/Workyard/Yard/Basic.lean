/-
**A dispatcher and the proxies around it.**

A yard is a dispatcher with its channel of events, the proxies of workers, and callers who ask for
work themselves. Everyone but the dispatcher only appends to the channel; the dispatcher takes the
oldest event, does all that it calls for, and publishes its ending in the same step. What is left in
the channel then is lost: those who asked for work get none and those who asked for counters get the
ones that the ending stands for. Closing the channel and publishing the ending are one step here; those
who ask for counters between the two are met by a run's `Snapshot`s.

* `Yard.submit`, `Yard.endOfInput`, `Yard.report`: what clients call, with their answers;
* `Yard.process`, `Yard.abandon`: the steps of the dispatcher;
* `Yard.advanceProxy`: one step of a proxy;
* `Action`, `Yard.act`: all steps of the whole, each of which may or may not be possible.
-/

import Workyard.Dispatch.Completion
import Workyard.Dispatch.Log
import Workyard.Yard.Proxy
import Workyard.Yard.Registry

namespace Workyard.Yard

open Dispatch

/-- Who waits for a job: a proxy or a caller, by number. -/
inductive Requester where
  | proxy (number : Nat)
  | caller (number : Nat)
deriving DecidableEq, Repr

/-- Someone other than a proxy who asks for a job. -/
inductive Caller where
  /-- Waits for an answer. -/
  | waiting
  /-- Has an answer. -/
  | answered (job : Option Job)
  /-- Has given up. -/
  | withdrawn
deriving DecidableEq, Repr

/-- What a yard works with: its log, and the identifier of each submission. -/
structure Setting (σ : Type) where
  log : Log σ
  identify : Nat → JobId

/-- An event in the channel; those who ask for counters have numbers. -/
abbrev Message := Event Requester Nat

end Workyard.Yard

namespace Workyard

open Dispatch

/-- A dispatcher, its channel, and those around it; `σ` is what the log keeps. -/
structure Yard (σ : Type) where
  dispatcher : Dispatcher Yard.Requester := {}
  /-- The events not handled yet, the oldest first. -/
  channel : List Yard.Message := []
  board : Board := {}
  /-- The number of identifiers used. -/
  issued : Nat := 0
  proxies : List Yard.Proxy := []
  callers : List Yard.Caller := []
  /-- The number of those, besides proxies and callers, who could still send events. -/
  clients : Nat := 1
  registry : Yard.Registry := {}
  /-- The proxies of the pool that nobody has come to wait for. -/
  unjoined : List Nat := []
  /-- The number of those who asked for counters. -/
  askers : Nat := 0
  /-- The counters given to those who asked. -/
  answers : List (Nat × Stats) := []
  log : σ

namespace Yard

variable {σ : Type}

/-- Whether the dispatcher still takes events: until its ending is published, which happens in the step
in which the channel is closed. -/
def isOpen (yard : Yard σ) : Bool := !yard.board.isClosed

/-- Appends an event to the channel. -/
def push (yard : Yard σ) (message : Message) : Yard σ :=
  { yard with channel := yard.channel ++ [message] }

/-- What an ending stands for in counters, nothing counted as long as there is none. -/
def finalStats (yard : Yard σ) : Stats :=
  match yard.board.ending with
  | some ending => ending.stats
  | none => { gotEof := true, closed := true }

/-! ### What clients call -/

/-- Submits a command; an identifier is used even if the dispatcher has stopped. -/
def submit (setting : Setting σ) (command : String) (yard : Yard σ) :
    Yard σ × Except DispatchError JobId :=
  let id := setting.identify (yard.issued + 1)
  let yard := { yard with issued := yard.issued + 1 }
  if yard.isOpen then (yard.push (.submit ⟨id, command⟩), .ok id) else (yard, .error .closed)

/-- Sends an event that has no answer of its own. -/
def send (message : Message) (yard : Yard σ) : Yard σ × Except DispatchError Unit :=
  if yard.isOpen then (yard.push message, .ok ()) else (yard, .error .closed)

/-- Says that no more commands will be submitted. -/
def endOfInput (yard : Yard σ) : Yard σ × Except DispatchError Unit := yard.send .endOfInput

/-- Reports on a job. -/
def report (report : Report) (yard : Yard σ) : Yard σ × Except DispatchError Unit :=
  yard.send (.report report)

/-- Asks for the counters under a new number, to be found among the answers. -/
def askStats (yard : Yard σ) : Yard σ × Nat :=
  let asker := yard.askers
  let yard := { yard with askers := asker + 1 }
  (if yard.isOpen then yard.push (.stats asker)
    else { yard with answers := (asker, yard.finalStats) :: yard.answers }, asker)

/-- A new caller asks for a job, under a new number. -/
def request (yard : Yard σ) : Yard σ × Nat :=
  let number := yard.callers.length
  (if yard.isOpen then
      ({ yard with callers := yard.callers ++ [Caller.waiting] }).push (.request (.caller number))
    else { yard with callers := yard.callers ++ [.answered none] }, number)

/-- A caller who still waits gives up. -/
def withdraw (number : Nat) (yard : Yard σ) : Yard σ :=
  if yard.callers[number]? = some Caller.waiting then
    { yard with callers := yard.callers.set number .withdrawn }
  else yard

/-- Starts a proxy, under a new number, that belongs to no pool. -/
def startProxy (address : String) (limit : Option Nat) (yard : Yard σ) : Yard σ × Nat :=
  ({ yard with proxies := yard.proxies ++ [{ address, limit, pooled := false }] },
    yard.proxies.length)

/-- Starts a proxy of the pool unless the dispatcher has stopped or the address has one. -/
def addWorker (address : String) (limit : Option Nat) (yard : Yard σ) : Yard σ × Bool :=
  if !yard.isOpen then (yard, false)
  else match yard.registry.add address with
    | (_, false) => (yard, false)
    | (registry, true) =>
      ({ yard with
          registry
          proxies := yard.proxies ++ [{ address, limit }]
          unjoined := yard.unjoined ++ [yard.proxies.length] }, true)

/-! ### The dispatcher -/

/-- What has become of one who asked for a job. -/
def presence (yard : Yard σ) : Requester → Presence
  | .proxy number => match yard.proxies[number]? with
    | some proxy => if proxy.phase = .waiting then .present else .gone
    | none => .gone
  | .caller number => if yard.callers[number]? = some .waiting then .present else .gone

/-- Answers one who asked for a job. -/
def hand (job : Option Job) (yard : Yard σ) : Requester → Yard σ
  | .proxy number => { yard with
      proxies := yard.proxies.modify number fun proxy => { proxy with phase := .handed job } }
  | .caller number => if yard.callers[number]? = some .waiting then
      { yard with callers := yard.callers.set number (.answered job) }
    else yard

/-- What is lost in the channel when the dispatcher stops. -/
def discard (yard : Yard σ) : Message → Yard σ
  | .request requester => yard.hand none requester
  | .stats asker => { yard with answers := (asker, yard.finalStats) :: yard.answers }
  | _ => yard

/-- Stops: the ending is published, the channel emptied. -/
def stop (ending : Ending) (lost : List Message) (yard : Yard σ) : Yard σ :=
  lost.foldl discard { yard with channel := [], board := (yard.board.publish ending).leave }

/-- Does what a turn of the dispatcher calls for, `rest` being the events behind it. -/
def take (log : Log σ) (turn : Turn Requester Nat) (rest : List Message) (yard : Yard σ) :
    Yard σ :=
  let yard := { yard with
    dispatcher := turn.dispatcher
    channel := rest
    answers := turn.answer.toList ++ yard.answers
    log := log.record yard.log turn.entry }
  let yard := turn.delivered.foldl (fun yard (requester, job) => yard.hand (some job) requester) yard
  let yard := turn.released.foldl (hand none) yard
  match turn.ending with
  | some ending => yard.stop ending rest
  | none => yard

/-- The dispatcher handles the oldest event. -/
def process (log : Log σ) (yard : Yard σ) : Option (Yard σ) :=
  if !yard.isOpen then none
  else match yard.channel with
    | [] => none
    | event :: rest => some (yard.take log (yard.dispatcher.handle yard.presence event) rest)

/-- Whether anyone is left who could send an event. -/
def isAttended (yard : Yard σ) : Bool :=
  0 < yard.clients || yard.proxies.any (·.phase.exit?.isNone) || yard.callers.any (· = .waiting)

/-- The dispatcher stops because nobody is left. -/
def abandon (log : Log σ) (yard : Yard σ) : Option (Yard σ) :=
  if yard.isOpen && yard.channel.isEmpty && !yard.isAttended then
    some (yard.take log yard.dispatcher.abandon [])
  else none

/-! ### Proxies -/

/-- Takes a proxy to a phase; one of the pool that lost its worker gives the address back. -/
def setPhase (number : Nat) (proxy : Proxy) (phase : Phase) (yard : Yard σ) : Yard σ :=
  { yard with
    proxies := yard.proxies.set number { proxy with phase }
    registry := match phase.exit? with
      | none | some .drained => yard.registry
      | some _ => if proxy.pooled then (yard.registry.remove proxy.address).1 else yard.registry }

/-- A proxy's attempt to connect succeeds or fails. -/
def connect (number : Nat) (success : Bool) (yard : Yard σ) : Option (Yard σ) := do
  let proxy ← yard.proxies[number]?
  match proxy.phase with
  | .connecting => some (yard.setPhase number proxy (.connected success))
  | _ => none

/-- A proxy's call comes out. -/
def callEnded (number : Nat) (outcome : Outcome) (yard : Yard σ) : Option (Yard σ) := do
  let proxy ← yard.proxies[number]?
  match proxy.phase with
  | .calling job => some (yard.setPhase number proxy (.reporting (outcome.report job)))
  | _ => none

/-- What a proxy does of its own: it asks for a job, looks at what it was given, or reports. -/
def advanceProxy (number : Nat) (yard : Yard σ) : Option (Yard σ) := do
  let proxy ← yard.proxies[number]?
  match proxy.phase with
  | .idle =>
    if yard.isOpen then some ((yard.setPhase number proxy .waiting).push (.request (.proxy number)))
    else some (yard.setPhase number proxy (.handed none))
  | .handed job => some (yard.setPhase number proxy (.collected job))
  | .reporting report =>
    let (yard, taken) := yard.report report
    some (yard.setPhase number proxy (.reported report (taken matches .ok _)))
  | _ => none

/-! ### All steps -/

/-- A step of the whole. -/
inductive Action where
  | submit (command : String)
  | endOfInput
  | report (report : Report)
  | askStats
  | request
  | withdraw (caller : Nat)
  | startProxy (address : String) (limit : Option Nat)
  | addWorker (address : String) (limit : Option Nat)
  /-- One more client could send events. -/
  | hold
  /-- One client fewer could. -/
  | release
  | process
  | abandon
  | connect (proxy : Nat) (success : Bool)
  | callEnded (proxy : Nat) (outcome : Outcome)
  | advanceProxy (proxy : Nat)

/-- What a step makes of a yard, if it is possible. -/
def act (setting : Setting σ) (yard : Yard σ) : Action → Option (Yard σ)
  | .submit command => some (yard.submit setting command).1
  | .endOfInput => some yard.endOfInput.1
  | .report report => some (yard.report report).1
  | .askStats => some yard.askStats.1
  | .request => some yard.request.1
  | .withdraw caller => some (yard.withdraw caller)
  | .startProxy address limit => some (yard.startProxy address limit).1
  | .addWorker address limit => some (yard.addWorker address limit).1
  | .hold => some { yard with clients := yard.clients + 1 }
  | .release => some { yard with clients := yard.clients - 1 }
  | .process => yard.process setting.log
  | .abandon => yard.abandon setting.log
  | .connect proxy success => yard.connect proxy success
  | .callEnded proxy outcome => yard.callEnded proxy outcome
  | .advanceProxy proxy => yard.advanceProxy proxy

end Yard

end Workyard
