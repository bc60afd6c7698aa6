/-
**What services answer.**

A worker answers a session check with its version, a manager answers a registration, a submission and
the end of the input. A command that did not succeed is answered with details beside the message. A
service writes these records and a client reads them.

* `Summary.ofTally`: the final counts as a manager gives them.
-/

import Workyard.Wire.Job

namespace Workyard.Wire

open Json

/-- The answer to a session check. -/
structure Pong where
  version : String
deriving DecidableEq, Repr

/-- The answer to a registration. -/
structure Registered where
  accepted : Bool
deriving DecidableEq, Repr

/-- The answer to a submission. -/
structure Submitted where
  jobId : JobId
deriving DecidableEq, Repr

/-- The final counts. -/
structure Summary where
  succeeded : Nat
  failed : Nat
  completed : Nat
deriving DecidableEq, Repr

/-- The details of a command that did not succeed. -/
structure FailureDetail where
  exitCode : Option Int
  output : String
deriving DecidableEq, Repr

/-- The final counts of a tally. -/
def Summary.ofTally (tally : Tally) : Summary := ⟨tally.ok, tally.failed, tally.completed⟩

/-! ### Writing -/

/-- The answer as a service writes it. -/
def Pong.toJson (pong : Pong) : Json := record ["version"] [.text pong.version]

@[inherit_doc Pong.toJson]
def Registered.toJson (registered : Registered) : Json :=
  record ["accepted"] [.flag registered.accepted]

@[inherit_doc Pong.toJson]
def Submitted.toJson (submitted : Submitted) : Json := record ["job_id"] [.text submitted.jobId]

@[inherit_doc Pong.toJson]
def Summary.toJson (summary : Summary) : Json :=
  record ["succeeded", "failed", "completed"]
    [.count summary.succeeded, .count summary.failed, .count summary.completed]

/-- The details as a service writes them. -/
def FailureDetail.toJson (detail : FailureDetail) : Json :=
  record ["exit_code", "output"] [.status detail.exitCode, .text detail.output]

/-! ### Reading -/

/-- The answer as a client reads it. -/
def Pong.scan : Scan Pong := do
  match ← Scan.fields [("version", .text)] with
  | [.text version] => return ⟨version⟩
  | _ => Scan.failHere .otherShape

@[inherit_doc Pong.scan]
def Registered.scan : Scan Registered := do
  match ← Scan.fields [("accepted", .flag)] with
  | [.flag accepted] => return ⟨accepted⟩
  | _ => Scan.failHere .otherShape

@[inherit_doc Pong.scan]
def Submitted.scan : Scan Submitted := do
  match ← Scan.fields [("job_id", .text)] with
  | [.text jobId] => return ⟨jobId⟩
  | _ => Scan.failHere .otherShape

@[inherit_doc Pong.scan]
def Summary.scan : Scan Summary := do
  match ← Scan.fields [("succeeded", .count), ("failed", .count), ("completed", .count)] with
  | [.count succeeded, .count failed, .count completed] => return ⟨succeeded, failed, completed⟩
  | _ => Scan.failHere .otherShape

/-- The details as a client reads them. -/
def FailureDetail.scan : Scan FailureDetail := do
  match ← Scan.fields [("exit_code", .status), ("output", .text)] with
  | [.status exitCode, .text output] => return ⟨exitCode, output⟩
  | _ => Scan.failHere .otherShape

end Workyard.Wire
