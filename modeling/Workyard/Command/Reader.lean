/-
**Reading commands from lines.**

A stream of octets is cut into physical lines at line feeds; a carriage return right before one
belongs to it. Lines are grouped into commands: a line that ends in a backslash goes on in the next
line, the backslash dropped. A group of nothing but blanks is no command. A line that is not UTF-8 or
could not be read is a fault; the group it interrupts is lost and reading can go on behind it.

* `lines`: the physical lines of a stream, each read or faulty;
* `Reader.next`: the next command, fault or end;
* `Reader.commands`: the commands up to the first fault.
-/

import Workyard.Files.Fault
import Workyard.Text.Blank
import Workyard.Text.Utf8

namespace Workyard.Command

/-- Why a line could not be read. -/
inductive LineFault where
  | encoding (fault : Text.Utf8.Fault)
  | io (fault : IoFault)
deriving DecidableEq, Repr

/-- The words for the fault. -/
def LineFault.message : LineFault → String
  | .encoding fault => fault.message
  | .io fault => fault.message

/-- A physical line without its end. -/
abbrev Line := Except LineFault (List Char)

/-- Octets, and a fault met once behind them. -/
structure Stream where
  octets : List UInt8
  fault : Option IoFault := none

/-- The octet that ends a line. -/
def lineFeed : UInt8 := 10

/-- The octet dropped before a line feed. -/
def carriageReturn : UInt8 := 13

/-- The octets before each line feed, and those behind the last; `line` holds the octets of the
line being cut and `cut` the lines before it, both in reverse. -/
def splitFrom (line : List UInt8) (cut : List (List UInt8)) :
    List UInt8 → List (List UInt8) × List UInt8
  | [] => (cut.reverse, line.reverse)
  | octet :: rest =>
    if octet = lineFeed then
      let ended := match line with
        | last :: before => if last = carriageReturn then before else line
        | [] => line
      splitFrom [] (ended.reverse :: cut) rest
    else splitFrom (octet :: line) cut rest

/-- The octets of each ended line without its end, and those of the unended last line. -/
def splitLines (octets : List UInt8) : List (List UInt8) × List UInt8 := splitFrom [] [] octets

/-- The line of these octets. -/
def readLine (octets : List UInt8) : Line := (Text.Utf8.decode octets).mapError .encoding

/-- The physical lines of a stream. A fault interrupts the unended line, which is read behind it: it is
assumed that whoever cuts the lines keeps what it has of that line. This matters only to one who reads on
behind such a fault. -/
def lines (stream : Stream) : List Line :=
  let (ended, last) := splitLines stream.octets
  ended.map readLine
    ++ (match stream.fault with | some fault => [.error (.io fault)] | none => [])
    ++ (if last.isEmpty then [] else [readLine last])

/-- Why reading commands stopped. Lines count from one, faulty ones left out. -/
inductive SourceFault where
  | unreadable (line : Nat) (fault : LineFault)
  /-- The input ends in a group that starts at this line. -/
  | unterminated (line : Nat)
deriving DecidableEq, Repr

/-- The words for the fault. -/
def SourceFault.message : SourceFault → String
  | .unreadable line fault => s!"failed to read line {line}: {fault.message}"
  | .unterminated line => s!"continuation starting at line {line} runs past end of input"

/-- The line at which the fault is reported. -/
def SourceFault.line : SourceFault → Nat
  | .unreadable line _ | .unterminated line => line

/-- The lines not read yet and the number of lines read. -/
structure Reader where
  lines : List Line
  read : Nat := 0

/-- What a reader finds next. -/
inductive Step where
  | command (text : List Char)
  | fault (fault : SourceFault)
  | done
deriving DecidableEq, Repr

/-- The line without the backslash that it ends in, if it does. -/
def continued? (line : List Char) : Option (List Char) :=
  if line.getLast? = some '\\' then some line.dropLast else none

/-- Reads on in a group that holds `group` so far, `start` being the line where it started to be
continued; `read` lines were read before. -/
def nextFrom (group : List Char) (start : Option Nat) (read : Nat) : List Line → Step × Reader
  | [] => (match start with
      | some line => .fault (.unterminated line)
      | none => .done, ⟨[], read⟩)
  | .error fault :: rest => (.fault (.unreadable (read + 1) fault), ⟨rest, read⟩)
  | .ok line :: rest => match continued? line with
    | some head => nextFrom (group ++ head) (start <|> some (read + 1)) (read + 1) rest
    | none =>
      let text := group ++ line
      if Text.allBlank text then nextFrom [] none (read + 1) rest
      else (.command text, ⟨rest, read + 1⟩)

/-- The next command, fault or end. -/
def Reader.next (reader : Reader) : Step × Reader := nextFrom [] none reader.read reader.lines

/-- A reader at the start of a stream. -/
def Reader.ofStream (stream : Stream) : Reader := ⟨Command.lines stream, 0⟩

theorem nextFrom_length (group : List Char) (start : Option Nat) (read : Nat) (lines : List Line) :
    (nextFrom group start read lines).2.lines.length ≤ lines.length := by
  induction lines generalizing group start read with
  | nil => simp [nextFrom]
  | cons line rest hypothesis =>
    cases line with
    | error fault => simp [nextFrom]
    | ok text =>
      rw [nextFrom]
      split
      · exact Nat.le_succ_of_le (hypothesis _ _ _)
      · simp only
        split
        · exact Nat.le_succ_of_le (hypothesis _ _ _)
        · simp

/-- While lines are left, reading takes at least one of them. -/
theorem nextFrom_length_lt (group : List Char) (start : Option Nat) (read : Nat)
    (lines : List Line) (nonempty : lines ≠ []) :
    (nextFrom group start read lines).2.lines.length < lines.length := by
  cases lines with
  | nil => exact absurd rfl nonempty
  | cons line rest =>
    cases line with
    | error fault => simp [nextFrom]
    | ok text =>
      rw [nextFrom]
      split
      · exact Nat.lt_succ_of_le (nextFrom_length _ _ _ _)
      · simp only
        split
        · exact Nat.lt_succ_of_le (nextFrom_length _ _ _ _)
        · simp

/-- All that a reader finds up to the end, going on behind faults. -/
def Reader.steps (reader : Reader) : List Step :=
  if _nonempty : reader.lines = [] then []
  else reader.next.1 :: Reader.steps reader.next.2
termination_by reader.lines.length
decreasing_by exact nextFrom_length_lt _ _ _ _ _nonempty

/-- The commands up to the first fault, and the fault. -/
def collect : List Step → List (List Char) × Option SourceFault
  | [] | .done :: _ => ([], none)
  | .fault fault :: _ => ([], some fault)
  | .command text :: rest =>
    let (commands, fault) := collect rest
    (text :: commands, fault)

/-- The commands that a reader finds before its first fault, and the fault if there is one. -/
def Reader.commands (reader : Reader) : List (List Char) × Option SourceFault :=
  collect reader.steps

end Workyard.Command
