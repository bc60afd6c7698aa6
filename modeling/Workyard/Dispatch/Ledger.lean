/-
**The ledger of a dispatcher.**

The ledger holds the jobs waiting to be handed out, as a stack whose top is first, and the jobs
handed out and not reported. It counts what is outstanding, resolved and sent back, and remembers
that the input has ended. It is complete when the input has ended and nothing is outstanding.

* `Ledger.apply`: accepts a report on a job in flight and no other.
-/

import Workyard.Job

namespace Workyard.Dispatch

/-- The bookkeeping of a dispatcher. -/
structure Ledger where
  /-- The jobs to hand out, the next one first. -/
  queue : List Job := []
  /-- The jobs handed out, by identifier. -/
  inFlight : List Job := []
  /-- The number of jobs submitted and not resolved. -/
  outstanding : Nat := 0
  tally : Tally := {}
  reposted : Nat := 0
  gotEof : Bool := false
  closed : Bool := false
deriving DecidableEq, Repr

/-- The jobs without those of this identifier. -/
def without (id : JobId) (jobs : List Job) : List Job := jobs.filter fun job => job.id ≠ id

namespace Ledger

/-- Puts a new job on top. -/
def post (ledger : Ledger) (job : Job) : Ledger :=
  { ledger with outstanding := ledger.outstanding + 1, queue := job :: ledger.queue }

/-- Takes the top job and marks it as handed out. -/
def takeNext (ledger : Ledger) : Option (Job × Ledger) :=
  match ledger.queue with
  | [] => none
  | job :: rest =>
    some (job, { ledger with queue := rest, inFlight := job :: without job.id ledger.inFlight })

/-- Takes back a job that did not reach the one who asked for it. -/
def returnUndelivered (ledger : Ledger) (job : Job) : Ledger :=
  { ledger with inFlight := without job.id ledger.inFlight, queue := job :: ledger.queue }

/-- Whether a job of this identifier is handed out. -/
def isInFlight (ledger : Ledger) (id : JobId) : Bool := ledger.inFlight.any fun job => job.id = id

/-- Accepts a report on a job that is in flight. -/
def apply (ledger : Ledger) (report : Report) : Except DispatchError Ledger :=
  if ledger.isInFlight report.job.id then
    let settled := { ledger with inFlight := without report.job.id ledger.inFlight }
    match report with
    | .ok _ => .ok { settled with
        tally := { settled.tally with ok := settled.tally.ok + 1 }
        outstanding := settled.outstanding - 1 }
    | .fail _ _ => .ok { settled with
        tally := { settled.tally with failed := settled.tally.failed + 1 }
        outstanding := settled.outstanding - 1 }
    | .repost job => .ok { settled with
        reposted := settled.reposted + 1
        queue := job :: settled.queue }
  else .error (.unknownJob report.job.id)

/-- Notes that the input has ended. -/
def endOfInput (ledger : Ledger) : Ledger := { ledger with gotEof := true }

/-- Whether it is news that the input has ended. -/
def awaitsEnd (ledger : Ledger) : Bool := !ledger.gotEof

/-- The input has ended and nothing is outstanding. -/
def isComplete (ledger : Ledger) : Bool := ledger.gotEof && ledger.outstanding = 0

/-- Notes that the dispatcher has closed. -/
def close (ledger : Ledger) : Ledger := { ledger with closed := true }

/-- The counters. -/
def stats (ledger : Ledger) : Stats where
  outstanding := ledger.outstanding
  queued := ledger.queue.length
  inFlight := ledger.inFlight.length
  ok := ledger.tally.ok
  failed := ledger.tally.failed
  reposted := ledger.reposted
  gotEof := ledger.gotEof
  closed := ledger.closed

/-- A report is accepted exactly if its job is in flight. -/
theorem apply_isOk_iff (ledger : Ledger) (report : Report) :
    (∃ next, ledger.apply report = .ok next) ↔ ledger.isInFlight report.job.id = true := by
  unfold apply
  by_cases known : ledger.isInFlight report.job.id = true
  · rw [if_pos known]
    cases report <;> simp [known]
  · rw [if_neg known]
    simp [known]

end Ledger

end Workyard.Dispatch
