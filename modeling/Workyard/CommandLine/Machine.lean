/-
**The machine that a program runs on.**

A program finds files, an environment and a network. File names may start with a tilde, which stands
for the home directory. What the network does is not said here; programs only ask it for links and to be
listened for.
-/

import Workyard.Client.Link
import Workyard.CommandLine.Options
import Workyard.CommandLine.Report
import Workyard.Endpoint
import Workyard.Files.Machine

namespace Workyard.CommandLine

/-- What a network does for a program. -/
structure Network where
  /-- How links to managers are made. -/
  dialer : Client.Dialer Unit
  /-- Listens at a place, or says why it cannot. It gives the port, which it chooses itself instead of 0. -/
  listen : Listen → Except IoFault Nat

/-- What a program finds. -/
structure Machine where
  tree : Files.Tree
  network : Network
  /-- The variables of the environment. -/
  environment : List (String × String) := []
  /-- The home directory of the account, for when the environment does not tell it. -/
  accountHome : String := "/root"
  /-- The name of the machine, if it is a text. -/
  hostName : Option String := some "localhost"

/-- What becomes of a program: it ends, or it waits for others. -/
abbrev Fate := Option Finish

namespace Machine

/-- The home directory. -/
def home (machine : Machine) : String :=
  match machine.environment.lookup "HOME" with
  | some name => if name.isEmpty then machine.accountHome else name
  | none => machine.accountHome

/-- Whether what is written has colours although nobody may be looking. -/
def isColoured (machine : Machine) : Bool :=
  (machine.environment.lookup "CLICOLOR_FORCE").any (· ≠ "0")

/-- A file name with the home directory in place of a tilde. -/
def expand (machine : Machine) (name : String) : String :=
  match name.toList with
  | ['~'] => machine.home
  | '~' :: '/' :: rest => machine.home ++ "/" ++ String.ofList rest
  | _ => name

/-- Opens the operational log, if there is to be one. -/
def openLog (machine : Machine) (name : Option String) : Machine × Except Report Unit :=
  match name with
  | none => (machine, .ok ())
  | some name =>
    let path := machine.expand name
    match machine.tree.openAppend path with
    | .ok (tree, _) => ({ machine with tree }, .ok ())
    | .error fault => (machine, .error ⟨s!"Failed to open log file {path}", [fault.message]⟩)

/-- Starts a service at a place and gives its port. -/
def serve (machine : Machine) (place : Listen) : Except String Nat :=
  (machine.network.listen place).mapError fun fault =>
    s!"Failed to build server on {String.ofList place.address}: {fault.message}"

end Machine

/-- How a command line that is not carried out ends; what a program says of itself is not its
business here. -/
def Stop.finish (version : String) : Stop → Finish
  | .usage => { status := 2 }
  | .help => .success ""
  | .version => .success version

/-- The option for the operational log. -/
def logFileSwitch : Switch := { name := "log-file", fallback := some "DISTRIBUTE_LOG_FILE" }

end Workyard.CommandLine
