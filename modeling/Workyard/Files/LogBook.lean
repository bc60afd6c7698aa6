/-
**A log book: files, an open completion log, and a clock.**

A log that cannot be opened leaves the one that was open in place. Files are named from the directory
of the book.
-/

import Workyard.Files.CompletionLog

namespace Workyard.Files

/-- A tree, the log open in it, and the time. -/
structure LogBook where
  tree : Tree
  files : Option LogFiles := none
  clock : Timestamp := ⟨0⟩

namespace LogBook

/-- The full name of a file. -/
def fullName (book : LogBook) (name : String) : String :=
  if name.startsWith "/" then name else "/" ++ "/".intercalate book.tree.here ++ "/" ++ name

/-- Opens a completion log. -/
def openFiles (book : LogBook) (okName failedName : String) : LogBook × Except IoFault Unit :=
  match openLogs book.tree (book.fullName okName) (book.fullName failedName) with
  | (tree, .ok files) => ({ book with tree, files := some files }, .ok ())
  | (tree, .error fault) => ({ book with tree }, .error fault)

/-- Records an entry in the open log, if there is one. -/
def record? (book : LogBook) (entry : Dispatch.Entry) : Option (LogBook × Except IoFault Unit) :=
  book.files.map fun files => match files.record book.clock book.tree entry with
    | .ok tree => ({ book with tree }, .ok ())
    | .error fault => (book, .error fault)

/-- Writes a file. -/
def write (book : LogBook) (name text : String) : LogBook × Except IoFault Unit :=
  match book.tree.write (book.fullName name) (Text.Utf8.encode text) with
  | .ok tree => ({ book with tree }, .ok ())
  | .error fault => (book, .error fault)

/-- Reads a file as text. -/
def read (book : LogBook) (name : String) : Except IoFault String := do
  match Text.Utf8.decode (← book.tree.read (book.fullName name)) with
  | .ok text => .ok (String.ofList text)
  | .error _ => .error (.other "stream did not contain valid UTF-8")

end LogBook

end Workyard.Files
