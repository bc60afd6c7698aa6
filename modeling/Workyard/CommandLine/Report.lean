/-
**What a program says at its end.**

A program ends with a status, what it has written, and, if it failed, what went wrong and why. Some
programs do not end: they wait for others.
-/

import Workyard.Job
import Workyard.Json.Value
import Workyard.Wire.Job

namespace Workyard.CommandLine

/-- What went wrong, with its causes, the nearest first. -/
structure Report where
  message : String
  causes : List String := []
deriving DecidableEq, Repr

/-- The text with `margin` behind each line break. -/
def hang (margin : String) (text : String) : String :=
  String.ofList (text.toList.flatMap fun c => if c = '\n' then '\n' :: margin.toList else [c])

/-- The causes in words, numbered if there are several. -/
def Report.causeLines (report : Report) : List String :=
  match report.causes with
  | [cause] => ["    " ++ hang "    " cause]
  | causes => causes.mapIdx fun index cause =>
    let number := toString index
    let start := String.ofList (List.replicate (5 - number.length) ' ') ++ number
    start ++ ": " ++ hang "       " cause

/-- The report in words. -/
def Report.text (report : Report) : String :=
  let causes := if report.causes.isEmpty then ""
    else "\n\nCaused by:" ++ String.join (report.causeLines.map ("\n" ++ ·))
  s!"Error: {report.message}{causes}\n"

/-- How a program ended. -/
structure Finish where
  status : Nat
  output : String := ""
  complaint : String := ""
deriving DecidableEq, Repr

/-- The end of a program that succeeded. -/
def Finish.success (output : String) : Finish := { status := 0, output }

/-- The end of a program that failed. -/
def Finish.failure (report : Report) : Finish := { status := 1, complaint := report.text }

/-! ### Tables -/

/-- The text with blanks behind it. -/
def padRight (width : Nat) (text : String) : String :=
  text ++ String.ofList (List.replicate (width - text.length) ' ')

/-- A row of a table. -/
def tableRow (widths : List Nat) (cells : List String) : String :=
  "|" ++ String.join ((widths.zip cells).map fun (width, cell) => " " ++ padRight width cell ++ " |")

/-- A line between the rows of a table. -/
def tableRule (widths : List Nat) : String :=
  "+" ++ String.join (widths.map fun width => String.ofList (List.replicate (width + 2) '-') ++ "+")

/-- The lines of a table, of which the first row is the head. -/
def tableLines (rows : List (List String)) : List String :=
  let columns := (rows.map List.length).foldl max 0
  let widths := (List.range columns).map fun column =>
    (rows.map fun row => (row.getD column "").length).foldl max 0
  let rule := tableRule widths
  rule :: rows.flatMap fun row => [tableRow widths row, rule]

/-- Lines, each with its end. -/
def unlines (lines : List String) : String := String.join (lines.map (· ++ "\n"))

/-- A text in a style of the terminal, if there are to be any. -/
def styled (coloured : Bool) (style text : String) : String :=
  if coloured then s!"\x1b[{style}m{text}\x1b[0m" else text

/-- The final counts. -/
def summaryText (coloured : Bool) (tally : Tally) : String :=
  let headline := if tally.failed = 0 then styled coloured "1;32" "✓ All commands succeeded"
    else styled coloured "1;31" s!"✗ {tally.failed} command(s) failed"
  unlines ([headline, ""] ++ tableLines [["succeeded", "failed", "completed"],
    [toString tally.ok, toString tally.failed, toString tally.completed]])

/-- The word for the state of a dispatcher. -/
def stateWord (coloured : Bool) (stats : Stats) : String :=
  if stats.closed then styled coloured "33" "CLOSED"
  else if stats.gotEof then styled coloured "36" "DRAINING"
  else styled coloured "32" "RUNNING"

/-- The counters of a manager's dispatcher. -/
def statsText (coloured : Bool) (manager : String) (stats : Stats) : String :=
  let heading := styled coloured "1;36" "Dispatcher Status"
  let managerLabel := styled coloured "1" "Manager:"
  let stateLabel := styled coloured "1" "State:"
  let state := stateWord coloured stats
  unlines ([heading, s!"  {managerLabel} {manager}", s!"  {stateLabel} {state}", ""] ++
    tableLines [["field", "value"], ["outstanding", toString stats.outstanding],
      ["queued", toString stats.queued], ["in flight", toString stats.inFlight],
      ["succeeded", toString stats.ok], ["failed", toString stats.failed],
      ["reposted", toString stats.reposted], ["end of input", toString stats.gotEof]])

end Workyard.CommandLine
