/-
**The worker's program.**

A worker listens for calls, announces itself to a manager if it is told one, and serves until it is
stopped. That a manager cannot be reached does not keep it from serving.

* `serveWorker`: how the program comes to serve, or ends before;
* `Serving.answer`: how it answers a call;
* `Serving.stop`: how it ends once it is stopped.
-/

import Workyard.Client.Manager
import Workyard.CommandLine.Machine
import Workyard.Execution.Executor
import Workyard.Rpc.Worker

namespace Workyard.CommandLine

/-- What a worker is told. -/
structure Service where
  port : Nat
  host : String
  manager : Option String
  advertise : Option String
  /-- The most seconds that a command may run. -/
  maxRuntime : Option Nat
  shell : String
  logFile : Option String
deriving DecidableEq, Repr

namespace Service

/-- The options of a worker. -/
def grammar : Grammar where
  switches :=
    [{ name := "port", fallback := some "DISTRIBUTE_WORKER_PORT"
       accepts := fun text => (port? text).isSome },
      { name := "host", fallback := some "DISTRIBUTE_WORKER_HOST" },
      { name := "manager", fallback := some "DISTRIBUTE_MANAGER" },
      { name := "advertise", fallback := some "DISTRIBUTE_ADVERTISE" },
      { name := "max-runtime", accepts := isCount }, { name := "shell" }, logFileSwitch]
  versioned := true

/-- Reads words. -/
def read (environment : List (String × String)) (words : List String) : Except Stop Service := do
  let level ← grammar.read environment words
  let given := level.given
  return {
    port := ((given.text? "port").bind port?).getD Endpoint.workerPort
    host := given.text "host" (String.ofList Listen.anyHost)
    manager := given.text? "manager"
    advertise := given.text? "advertise"
    maxRuntime := given.number? "max-runtime"
    shell := given.text "shell" "/bin/sh"
    logFile := given.text? "log-file" }

end Service

/-- What the worker's program says of its version. -/
def workerVersion : String := "distribute-worker 0.1.0\n"

/-- How a worker carries out commands. -/
def Service.executor (service : Service) (machine : Machine) : Executor where
  shell := machine.expand service.shell
  maxRuntime := service.maxRuntime.map (· * 1000)

/-- A worker that serves. -/
structure Serving where
  service : Service
  /-- Whether a manager has taken it on when it announced itself. -/
  registered : Bool

/-- The answer to a call with a command. -/
def Serving.answer (serving : Serving) (machine : Machine) (kernel : Kernel) (command : String) :
    Except Rpc.Error Unit :=
  Rpc.Worker.reply ((serving.service.executor machine).execute kernel command)

/-- How a worker ends that is stopped: its calls are carried out to their end. -/
def Serving.stop (_ : Serving) : Finish := .success ""

/-- Announces a worker to a manager under an address. That it fails does no harm. -/
def announce (machine : Machine) (manager address : String) : Bool :=
  match Client.Manager.connect machine.network.dialer manager with
  | .error _ => false
  | .ok link => match (({ state := () } : Client.Manager Unit).register link address).2 with
    | .ok accepted => accepted
    | .error _ => false

/-- The address under which a worker announces itself, if it is told none; the machine may have no name. -/
def ownAddress (machine : Machine) (port : Nat) : Except Report String :=
  match machine.hostName with
  | some name => .ok s!"{name}:{port}"
  | none => .error ⟨"Hostname is not valid UTF-8; pass --advertise", []⟩

/-- Announces a worker that serves at a port, if it is told a manager. -/
def Service.announced (service : Service) (machine : Machine) (port : Nat) : Except Report Serving :=
  match service.manager with
  | none => .ok ⟨service, false⟩
  | some manager => do
    let address ← match service.advertise with
      | some address => .ok address
      | none => ownAddress machine port
    return ⟨service, announce machine manager address⟩

/-- Reads words and comes to serve; the program may end before. -/
def serveWorker (machine : Machine) (words : List String) : Machine × Except Finish Serving :=
  match Service.read machine.environment words with
  | .error stop => (machine, .error (stop.finish workerVersion))
  | .ok service => match machine.openLog service.logFile with
    | (machine, .error report) => (machine, .error (.failure report))
    | (machine, .ok ()) => match machine.serve ⟨service.host.toList, service.port⟩ with
      | .error words => (machine, .error (.failure ⟨s!"RPC server start failed: {words}", []⟩))
      | .ok port => (machine, (service.announced machine port).mapError .failure)

end Workyard.CommandLine
