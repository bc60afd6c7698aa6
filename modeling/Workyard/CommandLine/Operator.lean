/-
**The operator's program.**

The operator runs a file of commands on workers, hosts a dispatcher for others, sends a file of commands
to such a host, or asks it for its counters.

* `Order.read`: what words order;
* `operate`: what becomes of the program, and the machine after it.
-/

import Workyard.Client.Manager
import Workyard.Command.File
import Workyard.CommandLine.Machine
import Workyard.Files.CompletionLog
import Workyard.Rehearsal.Stage
import Workyard.Yard.Sink

namespace Workyard.CommandLine

open Workyard.Command (postFile)

/-- What every host of a dispatcher is told. -/
structure Hosting where
  workers : List String
  okLog : String
  failLog : String
  /-- The most seconds that a call may take. -/
  callLimit : Option Nat
deriving DecidableEq, Repr

/-- What the operator wants. -/
inductive Task where
  /-- Run the commands of a file. -/
  | run (file : String) (hosting : Hosting) (listen : Option String)
  /-- Host a dispatcher that takes commands from others. -/
  | host (hosting : Hosting) (listen : String)
  /-- Send the commands of a file to a manager. -/
  | submit (manager file : String)
  /-- Show a manager's counters. -/
  | status (manager : String) (json : Bool)
deriving DecidableEq, Repr

/-- The task and the name of the operational log. -/
structure Order where
  task : Task
  logFile : Option String
deriving DecidableEq, Repr

namespace Order

/-- The options of every host of a dispatcher. -/
def hostingSwitches : List Switch :=
  [{ name := "worker", arity := .many, fallback := some "DISTRIBUTE_WORKERS" },
    { name := "ok-log" }, { name := "fail-log" }, { name := "call-timeout", accepts := isCount }]

/-- The option for the command file. -/
def fileSwitch : Switch := { name := "cmdfile", fallback := some "DISTRIBUTE_CMDFILE" }

/-- The option for a manager's address. -/
def managerSwitch : Switch := { name := "manager", fallback := some "DISTRIBUTE_MANAGER" }

/-- The options before the name of the command. -/
def outer : Grammar where
  switches := [logFileSwitch]
  commands := ["run", "manager", "submit", "status", "help"]
  versioned := true

/-- The options behind the name of a command. -/
def inner (command : String) : Grammar where
  switches := logFileSwitch :: match command with
    | "run" => fileSwitch :: { name := "listen" } :: hostingSwitches
    | "manager" => { name := "listen", fallback := some "DISTRIBUTE_LISTEN" } :: hostingSwitches
    | "submit" => [managerSwitch, fileSwitch]
    | "status" => [managerSwitch, { name := "json", arity := .flag }]
    | _ => []

/-- What options tell a host of a dispatcher. -/
def hosting (given : Given) : Hosting where
  workers := given.texts "worker"
  okLog := given.text "ok-log" "ok.log"
  failLog := given.text "fail-log" "fail.log"
  callLimit := given.number? "call-timeout"

/-- The command file. -/
def file (given : Given) : String := given.text "cmdfile" "cmds"

/-- The manager's address. -/
def manager (given : Given) : String := given.text "manager" "127.0.0.1"

/-- The task of a command with its options. -/
def taskOf (command : String) (given : Given) : Task :=
  match command with
  | "run" => .run (file given) (hosting given) (given.text? "listen")
  | "manager" => .host (hosting given) (given.text "listen" "0.0.0.0:1235")
  | "submit" => .submit (manager given) (file given)
  | _ => .status (manager given) (given.isSet "json")

/-- Reads words. The operational log may be named before or behind the command; there it counts
more. -/
def read (environment : List (String × String)) (words : List String) : Except Stop Order := do
  let level ← outer.readWords [] words
  match level.command with
  | none => .error .usage
  | some ("help", rest) =>
    if rest.all outer.commands.contains && rest.length ≤ 1 then .error .help else .error .usage
  | some (command, rest) =>
    let inside ← (inner command).readWords [] rest
    let outside : Given := level.given.filter fun (name, _) => (inside.given.lookup name).isNone
    let given ← Grammar.fill environment (inside.given ++ outside) (inner command).switches
    return ⟨taskOf command given, given.text? "log-file"⟩

end Order

/-! ### Carrying out -/

/-- The stage of a host whose dispatcher records into files. -/
abbrev Host := Rehearsal.Stage Files.Tree

/-- Opens the completion logs and starts a proxy for each worker, none of which can be reached. -/
def startHost (machine : Machine) (hosting : Hosting) : Machine × Except Report Host :=
  let okName := machine.expand hosting.okLog
  let failName := machine.expand hosting.failLog
  match Files.openLogs machine.tree okName failName with
  | (tree, .error fault) =>
    ({ machine with tree }, .error ⟨"Failed to open completion logs", [fault.message]⟩)
  | (tree, .ok files) =>
    let setting : Yard.Setting Files.Tree := ⟨files.log ⟨0⟩, JobId.numbered⟩
    let limit := hosting.callLimit.map (· * 1000)
    let yard := hosting.workers.foldl
      (fun yard worker => (yard.addWorker (Endpoint.workerUrl worker) limit).1)
      ({ log := tree } : Yard Files.Tree)
    let ready := .dispatcher :: (List.range yard.proxies.length).map Rehearsal.Task.proxy
    ({ machine with tree }, .ok { setting, yard, ready })

/-- Listens for registrations and commands. -/
def serve (machine : Machine) (address : String) : Except Report Nat :=
  match Listen.parse address.toList with
  | .error fault => .error ⟨fault.message, []⟩
  | .ok place =>
    (machine.serve place).mapError fun words => ⟨s!"Manager RPC server start failed: {words}", []⟩

/-- A failure behind what was attempted. -/
def Report.ofFailure (attempt : String) (failure : Failure) : Report :=
  ⟨attempt, failure.message :: failure.causes⟩

/-- What becomes of a host, and of the machine, once all that can be done without others is done. -/
def conclude (machine : Machine) (host : Host) : Machine × Fate :=
  let yard := host.settle.yard
  ({ machine with tree := yard.log }, yard.board.await.map fun
    | .ok tally => .success (summaryText machine.isColoured tally)
    | .error error => .failure ⟨s!"dispatcher aborted: {error.message}", []⟩)

/-- Runs the commands of a file. -/
def run (machine : Machine) (file : String) (hosting : Hosting) (listen : Option String) :
    Machine × Fate :=
  if hosting.workers.isEmpty && listen.isNone then
    let words := "no workers: give at least one --worker or --listen for registrations"
    (machine, some (.failure ⟨words, []⟩))
  else match startHost machine hosting with
    | (machine, .error report) => (machine, some (.failure report))
    | (machine, .ok host) =>
      let served := match listen with
        | some address => (serve machine address).map some
        | none => .ok none
      match served with
      | .error report => (machine, some (.failure report))
      | .ok _ =>
        let name := machine.expand file
        let (yard, posted) := postFile machine.tree name (Yard.sink host.setting) host.yard
        match posted with
        | .error failure =>
          (machine, some (.failure (.ofFailure "Command source failed" failure)))
        | .ok _ => conclude machine { host with yard }

/-- Hosts a dispatcher for others. -/
def host (machine : Machine) (hosting : Hosting) (listen : String) : Machine × Fate :=
  match startHost machine hosting with
  | (machine, .error report) => (machine, some (.failure report))
  | (machine, .ok host) => match serve machine listen with
    | .error report => (machine, some (.failure report))
    | .ok _ => conclude machine host

/-- The link to a manager, if a client can be made for it. -/
def connect (machine : Machine) (address : String) : Except Report (Client.Link Unit) :=
  (Client.Manager.connect machine.network.dialer address).mapError fun failure => ⟨failure.message, []⟩

/-- Sends the commands of a file to a manager. -/
def submit (machine : Machine) (manager file : String) : Machine × Fate :=
  match connect machine manager with
  | .error report => (machine, some (.failure report))
  | .ok link =>
    let name := machine.expand file
    let (client, posted) :=
      postFile machine.tree name (Client.Manager.sink link) ({ state := () } : Client.Manager Unit)
    (machine, some <| match posted, client.summary with
      | .error failure, _ => .failure (.ofFailure "Submission failed" failure)
      | .ok _, none => .failure ⟨"Manager did not report final counts", []⟩
      | .ok _, some summary => .success (summaryText machine.isColoured ⟨summary.succeeded, summary.failed⟩))

/-- Shows a manager's counters. -/
def status (machine : Machine) (manager : String) (json : Bool) : Machine × Fate :=
  match connect machine manager with
  | .error report => (machine, some (.failure report))
  | .ok link =>
    let url := Endpoint.managerUrl manager
    let (_, result) :=
      ({ state := () } : Client.Manager Unit).stats link
    (machine, some <| match result with
      | .error failure =>
        .failure ⟨s!"Failed to reach manager at {url}", [failure.message]⟩
      | .ok stats =>
        .success (if json then stats.toJson.indented 0 ++ "\n" else statsText machine.isColoured url stats))

/-- Carries out a task. -/
def perform (machine : Machine) : Task → Machine × Fate
  | .run file hosting listen => run machine file hosting listen
  | .host hosting listen => host machine hosting listen
  | .submit manager file => submit machine manager file
  | .status manager json => status machine manager json

/-- What the program says of its version. -/
def operatorVersion : String := "distribute 0.1.0\n"

/-- Reads words and carries out what they say. -/
def operate (machine : Machine) (words : List String) : Machine × Fate :=
  match Order.read machine.environment words with
  | .error stop => (machine, some (stop.finish operatorVersion))
  | .ok order => match machine.openLog order.logFile with
    | (machine, .error report) => (machine, some (.failure report))
    | (machine, .ok ()) => perform machine order.task

end Workyard.CommandLine
