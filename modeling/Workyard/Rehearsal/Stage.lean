/-
**Running a yard with scripted workers.**

Everyone in a yard is a task: the dispatcher, each proxy, each caller, and those who wait for the end
or for the pool. Tasks that have something to do stand in a queue and run in turn, each until it has
to wait; one that is woken while it stands in the queue keeps its place. Time stands still until it is
moved. All that tasks do to the yard are steps of the yard.

* `Stage.poll`: a task runs until it has to wait;
* `Stage.settle`: tasks run until all of them wait.
-/

import Workyard.Rehearsal.Cast
import Workyard.Rpc.Manager
import Workyard.Yard.Join

namespace Workyard.Rehearsal

open Dispatch Yard

/-- Someone who does something of its own. -/
inductive Task where
  | dispatcher
  | proxy (number : Nat)
  | caller (number : Nat)
  /-- One who has ended the input and waits for the counts. -/
  | waiter (number : Nat)
  /-- One who waits for the pool. -/
  | join (number : Nat)
deriving DecidableEq, Repr

/-- The task that an answer wakes. -/
def Task.ofRequester : Requester → Task
  | .proxy number => .proxy number
  | .caller number => .caller number

/-- What can be seen from outside. -/
inductive Happening where
  /-- A caller has got its answer. -/
  | answered (caller : String) (job : Option Job)
  /-- The pool has been waited for. -/
  | joined (exits : List Exit)
  /-- A proxy outside the pool has ended. -/
  | ended (address : String) (exit : Exit)
  /-- A call that stays open has begun. -/
  | called (address command : String)
  /-- One who ended the input has got the counts. -/
  | counted (waiter : String) (reply : Except Rpc.Error Wire.Summary)

/-- A yard on which tasks run; `σ` is what the log keeps. -/
structure Stage (σ : Type) where
  setting : Setting σ
  yard : Yard σ
  workers : List Worker := []
  /-- The time in milliseconds. -/
  now : Nat := 0
  /-- The tasks with something to do, the next one first. -/
  ready : List Task := [.dispatcher]
  /-- The calls that proxies wait for, in the order in which they began. -/
  calls : List OpenCall := []
  /-- The names of the callers. -/
  callers : List String := []
  /-- The callers who are to give up. -/
  aborted : List Nat := []
  /-- Those who have ended the input, and whether they have been answered. -/
  waiters : List (String × Bool) := []
  joins : List Join := []
  /-- What has happened, in order. -/
  happenings : List Happening := []

namespace Stage

variable {σ : Type}

/-- Puts a task into the queue unless it is there. -/
def wake (task : Task) (stage : Stage σ) : Stage σ :=
  if stage.ready.contains task then stage else { stage with ready := stage.ready ++ [task] }

/-- Wakes tasks in order. -/
def wakeAll (tasks : List Task) (stage : Stage σ) : Stage σ :=
  tasks.foldl (fun stage task => stage.wake task) stage

/-- Notes what has happened. -/
def note (happening : Happening) (stage : Stage σ) : Stage σ :=
  { stage with happenings := stage.happenings ++ [happening] }

/-- Wakes the dispatcher if it has an event to handle or nobody is left who could send one. -/
def wakeDispatcher (stage : Stage σ) : Stage σ :=
  if stage.yard.isOpen && (!stage.yard.channel.isEmpty || !stage.yard.isAttended) then
    stage.wake .dispatcher
  else stage

/-- Those who have an answer after a turn, `rest` being the events behind it. -/
def answeredBy (turn : Turn Requester Nat) (rest : List Message) : List Requester :=
  turn.delivered.map (·.1) ++ turn.released ++
    if turn.ending.isSome then
      rest.filterMap fun
        | .request requester => some requester
        | _ => none
    else []

/-- Goes on with the yard after a turn. -/
def afterTurn (turn : Turn Requester Nat) (rest : List Message) (yard : Yard σ)
    (stage : Stage σ) : Stage σ :=
  let stage := { stage with yard }.wakeAll ((answeredBy turn rest).map Task.ofRequester)
  if turn.ending.isSome then
    stage.wakeAll ((List.range stage.waiters.length).map Task.waiter)
  else stage

/-- The dispatcher handles all events in the channel, and stops if it has to. -/
def pollDispatcher : Nat → Stage σ → Stage σ
  | 0, stage => stage
  | fuel + 1, stage =>
    match stage.yard.process stage.setting.log, stage.yard.channel with
    | some yard, event :: rest =>
      let turn := stage.yard.dispatcher.handle stage.yard.presence event
      pollDispatcher fuel (stage.afterTurn turn rest yard)
    | _, _ => match stage.yard.abandon stage.setting.log with
      | some yard => stage.afterTurn stage.yard.dispatcher.abandon [] yard
      | none => stage

/-- The worker of an address. -/
def worker? (stage : Stage σ) (address : String) : Option Worker :=
  stage.workers.find? (·.address = address)

/-- Whether a worker can be reached. -/
def isReachable (stage : Stage σ) (address : String) : Bool :=
  match stage.worker? address with
  | some worker => worker.script ≠ .down
  | none => false

/-- A proxy begins a call. -/
def beginCall (number : Nat) (proxy : Proxy) (job : Job) (stage : Stage σ) : Stage σ :=
  match stage.worker? proxy.address with
  | none => stage
  | some worker =>
    let (call, worker) := worker.call stage.now number proxy.limit job.command
    let stage := { stage with
      calls := stage.calls ++ [call]
      workers := stage.workers.map fun other =>
        if other.address = worker.address then worker else other }
    if call.gate.isSome then stage.note (.called proxy.address job.command) else stage

/-- What follows when a proxy has ended. -/
def afterExit (number : Nat) (proxy : Proxy) (exit : Exit) (stage : Stage σ) : Stage σ :=
  let stage := if proxy.pooled then stage else stage.note (.ended proxy.address exit)
  let waiting := (List.range stage.joins.length).filter fun join =>
    (stage.joins[join]?.bind (·.batch.head?)) = some number
  (stage.wakeAll (waiting.map Task.join)).wakeDispatcher

/-- A proxy goes on until it has to wait. -/
def pollProxy (number : Nat) : Nat → Stage σ → Stage σ
  | 0, stage => stage
  | fuel + 1, stage => match stage.yard.proxies[number]? with
    | none => stage
    | some proxy => match proxy.phase with
      | .waiting => stage
      | .ended exit => stage.afterExit number proxy exit
      | .connecting => match stage.yard.connect number (stage.isReachable proxy.address) with
        | some yard => pollProxy number fuel { stage with yard }
        | none => stage
      | .calling job => match stage.calls.find? (·.proxy = number) with
        | none => pollProxy number fuel (stage.beginCall number proxy job)
        | some call => match call.outcome? stage.now with
          | none => stage
          | some outcome => match stage.yard.callEnded number outcome with
            | some yard => pollProxy number fuel { stage with
                yard, calls := stage.calls.filter (·.proxy ≠ number) }
            | none => stage
      | .idle | .handed _ | .reporting _ => match stage.yard.advanceProxy number with
        | some yard => pollProxy number fuel { stage with yard }.wakeDispatcher
        | none => stage

/-- A caller sees its answer or gives up. -/
def pollCaller (number : Nat) (stage : Stage σ) : Stage σ :=
  if stage.aborted.contains number then
    { stage with yard := stage.yard.withdraw number }.wakeDispatcher
  else match stage.yard.callers[number]?, stage.callers[number]? with
    | some (.answered job), some name => (stage.note (.answered name job)).wakeDispatcher
    | _, _ => stage

/-- One who has ended the input gets the counts if they are there. -/
def pollWaiter (number : Nat) (stage : Stage σ) : Stage σ :=
  match stage.waiters[number]?, Rpc.Manager.eofReply stage.yard with
  | some (name, false), some reply =>
    ({ stage with
        waiters := stage.waiters.set number (name, true)
        yard := { stage.yard with clients := stage.yard.clients - 1 } }.note
      (.counted name reply)).wakeDispatcher
  | _, _ => stage

/-- One who waits for the pool goes on until it has to wait. -/
def pollJoin (number : Nat) : Nat → Stage σ → Stage σ
  | 0, stage => stage
  | fuel + 1, stage => match stage.joins[number]? with
    | none => stage
    | some join => match join.step stage.yard with
      | none => stage
      | some (yard, join) =>
        let stage := { stage with yard, joins := stage.joins.set number join }
        if join.finished then
          ({ stage with yard := { yard with clients := yard.clients - 1 } }.note
            (.joined join.exits)).wakeDispatcher
        else pollJoin number fuel stage

/-- A task runs until it has to wait. -/
def poll (task : Task) (stage : Stage σ) : Stage σ :=
  match task with
  | .dispatcher => stage.pollDispatcher (stage.yard.channel.length + 1)
  | .proxy number => stage.pollProxy number 16
  | .caller number => stage.pollCaller number
  | .waiter number => stage.pollWaiter number
  | .join number => stage.pollJoin number (2 * stage.yard.proxies.length + 4)

/-- The number of those that can still have something to do. -/
def size (stage : Stage σ) : Nat :=
  stage.yard.channel.length + stage.yard.dispatcher.ledger.outstanding +
    stage.yard.proxies.length + stage.yard.callers.length + stage.waiters.length +
    stage.joins.length + stage.ready.length

/-- Runs the tasks in the queue, at most so many. -/
def runReady : Nat → Stage σ → Stage σ
  | 0, stage => stage
  | fuel + 1, stage => match stage.ready with
    | [] => stage
    | task :: rest => runReady fuel ({ stage with ready := rest }.poll task)

/-- Runs tasks until all of them wait. -/
def settle (stage : Stage σ) : Stage σ := stage.runReady (16 * stage.size + 64)

/-- The next time up to `horizon` at which something happens: the very next if tasks stand in the queue,
else that of a call. -/
def nextTime? (horizon : Nat) (stage : Stage σ) : Option Nat :=
  let times := stage.calls.flatMap OpenCall.times ++
    if stage.ready.isEmpty then [] else [stage.now + 1]
  (times.filter fun time => stage.now < time && time ≤ horizon).min?

/-- Moves time to `horizon`, stopping wherever something happens. -/
def advanceTo (horizon : Nat) : Nat → Stage σ → Stage σ
  | 0, stage => { stage with now := horizon }
  | fuel + 1, stage => match stage.nextTime? horizon with
    | none => { stage with now := horizon }
    | some time =>
      let stage := { stage with now := time }
      let due := stage.calls.filter fun call => call.times.contains time
      advanceTo horizon fuel (stage.wakeAll (due.map fun call => .proxy call.proxy)).settle

/-- Lets so many milliseconds pass. -/
def advance (milliseconds : Nat) (stage : Stage σ) : Stage σ :=
  stage.advanceTo (stage.now + milliseconds) (4 * (stage.size + stage.calls.length) + 16)

end Stage

end Workyard.Rehearsal
