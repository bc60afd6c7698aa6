/-
**Jobs and what becomes of them.**

A job is a shell command under an identifier. A worker's report on it is terminal (it succeeded or
it failed) or sends it back to be done by another worker. Terminal reports are counted in a tally;
a snapshot of all counters is a `Stats`.

* `Report`: what a worker says about a job;
* `DispatchError`: what a dispatcher cannot do.
-/

import Workyard.Text.Hex

namespace Workyard

/-- The identifier of a job. -/
abbrev JobId := String

/-- The identifier with this number. -/
def JobId.numbered (number : Nat) : JobId := "job-" ++ toString number

namespace JobId

/-- How an identifier by chance looks: any digits in place of `x`, one of four in place of `y`. -/
def pattern : List Char := "xxxxxxxx-xxxx-4xxx-yxxx-xxxxxxxxxxxx".toList

/-- Fills a pattern with digits, four bits of chance for each. -/
def fill (chance : Nat) : List Char → List Char
  | [] => []
  | 'x' :: rest => Text.hexDigit (chance % 16) :: fill (chance / 16) rest
  | 'y' :: rest => Text.hexDigit (8 + chance % 4) :: fill (chance / 16) rest
  | c :: rest => c :: fill chance rest

/-- Whether a text fills a pattern. -/
def fits : List Char → List Char → Bool
  | [], text => text.isEmpty
  | 'x' :: rest, c :: text => "0123456789abcdef".toList.contains c && fits rest text
  | 'y' :: rest, c :: text => "89ab".toList.contains c && fits rest text
  | mark :: rest, c :: text => mark = c && fits rest text
  | _ :: _, [] => false

/-- The identifier that chance makes. -/
def random (chance : Nat) : JobId := String.ofList (fill chance pattern)

/-- Whether an identifier can be one by chance. -/
def isRandom (id : JobId) : Bool := fits pattern id.toList

theorem fits_fill (chance : Nat) (pattern : List Char) : fits pattern (fill chance pattern) = true := by
  have any : ∀ value < 16, "0123456789abcdef".toList.contains (Text.hexDigit value) = true := by decide
  have few : ∀ value < 4, "89ab".toList.contains (Text.hexDigit (8 + value)) = true := by decide
  induction chance, pattern using fill.induct with
  | case1 => rfl
  | case2 chance rest hypothesis =>
    exact Bool.and_eq_true_iff.mpr ⟨any _ (Nat.mod_lt _ (by decide)), hypothesis⟩
  | case3 chance rest hypothesis =>
    exact Bool.and_eq_true_iff.mpr ⟨few _ (Nat.mod_lt _ (by decide)), hypothesis⟩
  | case4 chance c rest other more hypothesis => simp [fill, fits, hypothesis]

/-- Chance makes no other identifiers. -/
theorem isRandom_random (chance : Nat) : isRandom (random chance) = true := by
  rw [isRandom, random, String.toList_ofList]
  exact fits_fill chance pattern

end JobId

/-- A command to be run once. -/
structure Job where
  id : JobId
  command : String
deriving DecidableEq, Repr

/-- What a worker says about a job that it was given. -/
inductive Report where
  /-- The command ran and succeeded. -/
  | ok (job : Job)
  /-- The command did not succeed, for the reason given. -/
  | fail (job : Job) (reason : String)
  /-- The worker was lost; the job has to be done again. -/
  | repost (job : Job)
deriving DecidableEq, Repr

/-- The job reported on. -/
def Report.job : Report → Job
  | .ok job | .fail job _ | .repost job => job

/-- Whether nothing more is to be done for the job. -/
def Report.isTerminal : Report → Bool
  | .ok _ | .fail _ _ => true
  | .repost _ => false

/-- The counts of terminal reports. -/
structure Tally where
  ok : Nat := 0
  failed : Nat := 0
deriving DecidableEq, Repr

/-- The number of terminal reports. -/
def Tally.completed (tally : Tally) : Nat := tally.ok + tally.failed

/-- The tally in words. -/
def Tally.summary (tally : Tally) : String :=
  s!"{tally.ok} succeeded, {tally.failed} failed, {tally.completed} completed"

/-- A snapshot of a dispatcher's counters. -/
structure Stats where
  /-- Submitted and not resolved. -/
  outstanding : Nat := 0
  /-- Waiting to be handed out. -/
  queued : Nat := 0
  /-- Handed out and not reported. -/
  inFlight : Nat := 0
  ok : Nat := 0
  failed : Nat := 0
  /-- Reports that sent a job back. -/
  reposted : Nat := 0
  /-- No more jobs will be submitted. -/
  gotEof : Bool := false
  closed : Bool := false
deriving DecidableEq, Repr

/-- The terminal counts of a snapshot. -/
def Stats.tally (stats : Stats) : Tally := ⟨stats.ok, stats.failed⟩

/-- What a dispatcher cannot do. -/
inductive DispatchError where
  /-- A report names a job that is not in flight. -/
  | unknownJob (id : JobId)
  /-- The dispatcher has stopped. -/
  | closed
  /-- Nobody is left who could submit or report. -/
  | abandoned (outstanding : Nat)
deriving DecidableEq, Repr

/-- The words for the error. -/
def DispatchError.message : DispatchError → String
  | .unknownJob id => s!"Result reported for unknown job: {id}"
  | .closed => "Dispatcher is closed"
  | .abandoned outstanding => s!"Dispatcher abandoned with {outstanding} job(s) outstanding"

end Workyard
