/-
**The proxy of a worker.**

A proxy stands for one worker. It connects, and from then on asks the dispatcher for a job, has the
worker run it, and reports. It ends when there is no more work, when connecting fails, and when a
call is lost: then it sends the job back and gives the worker up.

* `Phase.connected`, `Phase.collected`, `Phase.reported`: where a proxy goes from a phase;
* `Phase.held?`: the job in its hands.
-/

import Workyard.Job
import Workyard.Execution.Failure

namespace Workyard.Yard

/-- How a proxy ended. -/
inductive Exit where
  /-- There is no more work. -/
  | drained
  /-- A call was lost. -/
  | disconnected
  /-- The worker could not be reached. -/
  | connectFailed
deriving DecidableEq, Repr

/-- What came of having a worker run a command. -/
abbrev Outcome := Except CallFailure Unit

instance : DecidableEq Outcome
  | .ok _, .ok _ => .isTrue rfl
  | .error a, .error b => decidable_of_iff (a = b) (by simp)
  | .ok _, .error _ => .isFalse (by simp)
  | .error _, .ok _ => .isFalse (by simp)

/-- The report on a job whose call came out this way. -/
def Outcome.report (job : Job) : Outcome → Report
  | .ok () => .ok job
  | .error (.process reason) => .fail job reason
  | .error (.transport _) => .repost job

/-- The outcome of a call that took longer than its limit. There are no clocks in a yard: a call may come
out in any way at any time, and this is one of the ways. -/
def Outcome.late (limit : Nat) : Outcome := .error (.transport s!"call timed out after {limit}ms")

/-- Where a proxy stands. -/
inductive Phase where
  | connecting
  /-- Connected and about to ask for a job. -/
  | idle
  /-- Has asked for a job. -/
  | waiting
  /-- Has been given a job, or told that there is none. -/
  | handed (job : Option Job)
  /-- The worker runs the job. -/
  | calling (job : Job)
  /-- The call is over and not reported. -/
  | reporting (report : Report)
  | ended (exit : Exit)
deriving DecidableEq, Repr

namespace Phase

/-- The phase after connecting. -/
def connected (success : Bool) : Phase := if success then .idle else .ended .connectFailed

/-- The phase after looking at what the dispatcher gave. -/
def collected : Option Job → Phase
  | some job => .calling job
  | none => .ended .drained

/-- The phase after sending a report, which a stopped dispatcher does not take. -/
def reported (report : Report) (taken : Bool) : Phase :=
  if !taken then .ended .drained
  else match report with
    | .repost _ => .ended .disconnected
    | _ => .idle

/-- How the proxy ended, if it did. -/
def exit? : Phase → Option Exit
  | .ended exit => some exit
  | _ => none

/-- The job that the proxy holds: delivered to it and not reported. -/
def held? : Phase → Option Job
  | .handed job => job
  | .calling job => some job
  | .reporting report => some report.job
  | _ => none

end Phase

/-- A proxy. -/
structure Proxy where
  address : String
  /-- The most milliseconds that a call may take. No step looks at it: whoever ends a call that has taken
  longer ends it with `Outcome.late`. -/
  limit : Option Nat := none
  /-- Whether it belongs to the pool, which keeps its address registered. -/
  pooled : Bool := true
  phase : Phase := .connecting
deriving DecidableEq, Repr

end Workyard.Yard
