/-
**Completion logs in files.**

A completion log in files appends successes to one file and failures to another, each entry with the
time at which it was recorded. Both files are only ever appended to.

* `entryText`: what an entry looks like;
* `openLogs`: opens both files, creating the first before the second is looked at.
-/

import Workyard.Dispatch.Log
import Workyard.Files.Tree
import Workyard.Text.Blank
import Workyard.Timestamp

namespace Workyard.Files

open Dispatch

/-- The numbers of the two opened files. -/
structure LogFiles where
  ok : Nat
  failed : Nat
deriving DecidableEq, Repr

/-- The text of an entry; the reason of a failure loses the blanks at its end. -/
def entryText (time : Timestamp) : Entry → String
  | .ok command => s!"{time.text} [{command}]\n"
  | .failed command reason =>
    let reason := String.ofList (Text.trimEnd reason.toList)
    s!"{time.text} [{command}] {reason}\n"

/-- The file that an entry goes to. -/
def LogFiles.file (files : LogFiles) : Entry → Nat
  | .ok _ => files.ok
  | .failed _ _ => files.failed

/-- Appends an entry; there may be no room for it. -/
def LogFiles.record (files : LogFiles) (time : Timestamp) (tree : Tree) (entry : Entry) :
    Except IoFault Tree :=
  tree.append (files.file entry) (Text.Utf8.encode (entryText time entry))

/-- The files as a completion log, all entries being recorded at one time. -/
def LogFiles.log (files : LogFiles) (time : Timestamp) : Log Tree :=
  ⟨fun tree entry => match files.record time tree entry with
    | .ok tree => (tree, .ok ())
    | .error fault => (tree, .error fault)⟩

/-- Opens the file of successes, then that of failures. If the second cannot be opened the first has
been created. -/
def openLogs (tree : Tree) (okName failedName : String) : Tree × Except IoFault LogFiles :=
  match tree.openAppend okName with
  | .error fault => (tree, .error fault)
  | .ok (tree, ok) => match tree.openAppend failedName with
    | .error fault => (tree, .error fault)
    | .ok (tree, failed) => (tree, .ok ⟨ok, failed⟩)

end Workyard.Files
