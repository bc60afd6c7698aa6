/-
**Rehearsals, step by step.**

A rehearsal is a sequence of things done to a yard from outside. After each of them the tasks run
until all wait, and what can be seen is noted: the answer, what has happened, the counters, the known
addresses, and what the log has gained. What is only sent, without letting the tasks run, is seen with
the next thing done.

* `Session.perform`: one thing done, and what is seen of it.
-/

import Workyard.Rehearsal.Stage
import Workyard.Yard.Sink

namespace Workyard.Rehearsal

open Dispatch Yard

/-- The job that a report is about. -/
inductive Subject where
  /-- The job that this caller got. -/
  | ofCaller (name : String)
  | job (job : Job)

/-- Something done from outside. -/
inductive Deed where
  | submit (command : String)
  /-- Submits a command as a command source does. -/
  | offer (command : String)
  /-- Posts the commands of a text. -/
  | post (octets : List UInt8)
  | endOfInput
  | request (caller : String)
  | cancel (caller : String)
  | report (subject : Subject) (verdict : Job → Report)
  | isClosed
  /-- Looks at the ending as those who wait for it do. -/
  | closed
  /-- Looks at what has become of the dispatcher's own task. -/
  | result
  /-- Gives up all access to the yard. -/
  | leave
  | addWorker (address : String)
  | joinAll
  | startProxy (address : String) (limit : Option Nat)
  | finish (address : String) (outcome : Outcome)
  | advance (milliseconds : Nat)
  | received (address : String)
  | managerRegister (address : String)
  | managerSubmit (command : String)
  | managerStats
  | managerEndOfInput (waiter : String)

/-- What is answered. -/
inductive Answer where
  | nothing
  /-- Access to the yard has been given up. -/
  | inaccessible
  /-- The caller got no job. -/
  | noJob
  | truth (value : Bool)
  | submitted (result : Except DispatchError JobId)
  | offered (result : Except Failure JobId)
  | posted (result : Except Failure Nat)
  | sent (result : Except DispatchError Unit)
  | closed (result : Option (Except DispatchError Tally))
  | result (result : Option (Except DispatchError Tally))
  | received (commands : Option (List String))
  | registered (reply : Except Rpc.Error Wire.Registered)
  | taken (reply : Except Rpc.Error Wire.Submitted)
  | stats (stats : Stats)

/-- What is seen once all tasks wait. -/
structure View where
  happenings : List Happening
  /-- The counters, as long as there is access to them. -/
  stats : Option Stats
  /-- The addresses with a proxy, as long as there is access to them. -/
  known : Option (List String)
  /-- What the log has gained. -/
  gained : Kept

/-- A rehearsal under way. -/
structure Session where
  stage : Stage Kept
  /-- The most milliseconds that a call of the pool may take. -/
  limit : Option Nat := none
  /-- Whether there is access to the yard. -/
  accessible : Bool := true
  /-- What the log held when it was last looked at. -/
  seen : Kept := {}

namespace Session

/-- Whether a deed needs access to the yard. -/
def needsAccess : Deed → Bool
  | .cancel _ | .result | .leave | .finish _ _ | .advance _ | .received _ => false
  | _ => true

/-- Changes the yard and wakes the dispatcher if there is something for it. -/
def change (yard : Yard Kept) (session : Session) : Session :=
  { session with stage := { session.stage with yard }.wakeDispatcher }

/-- The number of the last caller of a name. -/
def caller? (name : String) (session : Session) : Option Nat :=
  let last := (session.stage.callers.reverse.findIdx? (· = name))
  last.map fun index => session.stage.callers.length - 1 - index

/-- The job that the last caller of a name to be given one got. -/
def jobOf? (name : String) (session : Session) : Option Job :=
  let answers := session.stage.callers.zip session.stage.yard.callers
  answers.reverse.findSome? fun
    | (caller, .answered job) => if caller = name then job else none
    | _ => none

/-- The counters as one who asks is told. -/
def stats (session : Session) : Stats :=
  if session.stage.yard.isOpen then session.stage.yard.dispatcher.ledger.stats
  else session.stage.yard.finalStats

/-- How the dispatcher ended, if it did. -/
def ending? (session : Session) : Option (Except DispatchError Tally) :=
  session.stage.yard.board.await

/-- The first call of an address that stays open. -/
def openCall? (address : String) (session : Session) : Option OpenCall :=
  session.stage.calls.find? fun call => call.gate = some address && call.result.isNone

/-- Gives an open call its outcome. -/
def finishCall (call : OpenCall) (outcome : Outcome) (session : Session) : Session :=
  let stage := session.stage
  let calls := stage.calls.map fun other =>
    if other.proxy = call.proxy then { other with result := some (stage.now, outcome) } else other
  { session with stage := { stage with calls }.wake (.proxy call.proxy) }

/-- Adds one who holds on to the yard until it is done. -/
def held (stage : Stage Kept) : Yard Kept := { stage.yard with clients := stage.yard.clients + 1 }

/-- Does something, without letting the tasks run. -/
def begin (session : Session) (deed : Deed) : Session × Answer :=
  let stage := session.stage
  let yard := stage.yard
  match deed with
  | .submit command =>
    let (yard, result) := yard.submit stage.setting command
    (session.change yard, .submitted result)
  | .offer command =>
    let (yard, result) := (Yard.sink stage.setting).submit yard command
    (session.change yard, .offered result)
  | .post octets =>
    let reader := Command.Reader.ofStream ⟨octets, none⟩
    let (yard, result) := Command.post (Yard.sink stage.setting) reader yard
    (session.change yard, .posted result)
  | .endOfInput =>
    let (yard, result) := yard.endOfInput
    (session.change yard, .sent result)
  | .request name =>
    let (yard, number) := yard.request
    let stage := { stage with yard, callers := stage.callers ++ [name] }
    let stage := if yard.isOpen then stage.wakeDispatcher else stage.wake (.caller number)
    ({ session with stage }, .nothing)
  | .cancel name => match session.caller? name with
    | none => (session, .truth false)
    | some number =>
      if yard.callers[number]? = some Caller.waiting then
        let stage := { stage with aborted := number :: stage.aborted }
        ({ session with stage := stage.wake (.caller number) }, .truth true)
      else (session, .truth false)
  | .report subject verdict =>
    let job := match subject with
      | .ofCaller name => session.jobOf? name
      | .job job => some job
    match job with
    | none => (session, .noJob)
    | some job =>
      let (yard, result) := yard.report (verdict job)
      (session.change yard, .sent result)
  | .isClosed => (session, .truth yard.board.isClosed)
  | .closed => (session, .closed session.ending?)
  | .result => (session, .result session.ending?)
  | .leave =>
    if session.accessible then
      ({ session with accessible := false }.change { yard with clients := yard.clients - 1 },
        .nothing)
    else (session, .nothing)
  | .addWorker address =>
    let number := yard.proxies.length
    match yard.addWorker address session.limit with
    | (yard, true) =>
      ({ session with stage := { stage with yard }.wake (.proxy number) }, .truth true)
    | (_, false) => (session, .truth false)
  | .joinAll =>
    let stage := { stage with yard := held stage, joins := stage.joins ++ [({} : Join)] }
    ({ session with stage := stage.wake (.join (stage.joins.length - 1)) }, .nothing)
  | .startProxy address limit =>
    let (yard, number) := yard.startProxy address limit
    ({ session with stage := { stage with yard }.wake (.proxy number) }, .nothing)
  | .finish address outcome => match session.openCall? address with
    | none => (session, .truth false)
    | some call => (session.finishCall call outcome, .truth true)
  | .advance milliseconds => ({ session with stage := stage.advance milliseconds }, .nothing)
  | .received address => (session, .received <| match stage.worker? address with
    | some worker => match worker.script with
      | .runs _ => some worker.received
      | _ => none
    | none => none)
  | .managerRegister address =>
    let number := yard.proxies.length
    let (yard, reply) := Rpc.Manager.register session.limit address yard
    let stage := { stage with yard }
    let stage := if number < yard.proxies.length then stage.wake (.proxy number) else stage
    ({ session with stage }, .registered reply)
  | .managerSubmit command =>
    let (yard, reply) := Rpc.Manager.submit stage.setting command yard
    (session.change yard, .taken reply)
  | .managerStats =>
    let (yard, asker) := yard.askStats
    let session := session.change yard
    let session := { session with stage := session.stage.settle }
    (session, .stats ((session.stage.yard.answers.lookup asker).getD {}))
  | .managerEndOfInput name =>
    let stage := { stage with
      yard := Rpc.Manager.endOfInput (held stage), waiters := stage.waiters ++ [(name, false)] }
    ({ session with stage := (stage.wakeDispatcher).wake (.waiter (stage.waiters.length - 1)) },
      .nothing)

/-- What the log holds beyond what was seen. -/
def gained (session : Session) : Kept :=
  let kept := session.stage.yard.log
  ⟨kept.ok.drop session.seen.ok.length, kept.failed.drop session.seen.failed.length⟩

/-- Lets the tasks run and looks. -/
def look (session : Session) : Session × View :=
  let session := { session with stage := session.stage.settle }
  let view :=
    { happenings := session.stage.happenings
      stats := if session.accessible then some session.stats else none
      known := if session.accessible then some session.stage.yard.registry.addresses else none
      gained := session.gained }
  ({ session with stage := { session.stage with happenings := [] }
                  seen := session.stage.yard.log }, view)

/-- Does something and, if the tasks are to run, looks at what has come of it. -/
def perform (session : Session) (deed : Deed) (settles : Bool) :
    Session × Answer × Option View :=
  let (session, answer) :=
    if needsAccess deed && !session.accessible then (session, Answer.inaccessible)
    else session.begin deed
  if settles then
    let (session, view) := session.look
    (session, answer, some view)
  else (session, answer, none)

end Session

end Workyard.Rehearsal
