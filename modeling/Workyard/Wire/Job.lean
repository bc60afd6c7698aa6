/-
**Commands, jobs and counters as JSON.**

A command is a string; a job, a tally and a snapshot of the counters are records. Each has its form
and a scanner that reads it back.
-/

import Workyard.Job
import Workyard.Json.Record

namespace Workyard

open Json

/-- Reads a command. -/
def Json.Scan.command : Scan String := Scan.textField

/-- A job as JSON. -/
def Job.toJson (job : Job) : Json := record ["id", "command"] [.text job.id, .text job.command]

/-- Reads a job. -/
def Job.scan : Scan Job := do
  match ← Scan.fields [("id", .text), ("command", .text)] with
  | [.text id, .text command] => return ⟨id, command⟩
  | _ => Scan.failHere .otherShape

/-- A tally as JSON. -/
def Tally.toJson (tally : Tally) : Json :=
  record ["ok", "failed"] [.count tally.ok, .count tally.failed]

/-- Reads a tally. -/
def Tally.scan : Scan Tally := do
  match ← Scan.fields [("ok", .count), ("failed", .count)] with
  | [.count ok, .count failed] => return ⟨ok, failed⟩
  | _ => Scan.failHere .otherShape

/-- Counters as JSON. -/
def Stats.toJson (stats : Stats) : Json :=
  record
    ["outstanding", "queued", "in_flight", "ok", "failed", "reposted", "got_eof", "closed"]
    [.count stats.outstanding, .count stats.queued, .count stats.inFlight, .count stats.ok,
      .count stats.failed, .count stats.reposted, .flag stats.gotEof, .flag stats.closed]

/-- The names and kinds of the counters. -/
def Stats.schema : Schema :=
  [("outstanding", .count), ("queued", .count), ("in_flight", .count), ("ok", .count),
    ("failed", .count), ("reposted", .count), ("got_eof", .flag), ("closed", .flag)]

/-- Reads counters. -/
def Stats.scan : Scan Stats := do
  match ← Scan.fields Stats.schema with
  | [.count outstanding, .count queued, .count inFlight, .count ok, .count failed,
      .count reposted, .flag gotEof, .flag closed] =>
    return { outstanding, queued, inFlight, ok, failed, reposted, gotEof, closed }
  | _ => Scan.failHere .otherShape

end Workyard
