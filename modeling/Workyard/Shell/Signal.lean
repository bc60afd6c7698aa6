/-
**Signals.**

A signal is a small number with a name and, for what ends a process, words that are shown.
-/

import Workyard.Text.Numeral

namespace Workyard.Shell

/-- The signals by number and name, and the words for a process that one ended. -/
def signals : List (Nat × String × String) :=
  [(1, "HUP", "Hangup"), (2, "INT", "Interrupt"), (3, "QUIT", "Quit"),
    (4, "ILL", "Illegal instruction"), (5, "TRAP", "Trace/breakpoint trap"), (6, "ABRT", "Aborted"),
    (7, "BUS", "Bus error"), (8, "FPE", "Floating point exception"), (9, "KILL", "Killed"),
    (10, "USR1", "User defined signal 1"), (11, "SEGV", "Segmentation fault"),
    (12, "USR2", "User defined signal 2"), (13, "PIPE", "Broken pipe"), (14, "ALRM", "Alarm clock"),
    (15, "TERM", "Terminated"), (17, "CHLD", "Child exited"),
    (18, "CONT", "Continued"), (19, "STOP", "Stopped (signal)"), (20, "TSTP", "Stopped"),
    (21, "TTIN", "Stopped (tty input)"), (22, "TTOU", "Stopped (tty output)"),
    (23, "URG", "Urgent I/O condition"), (24, "XCPU", "CPU time limit exceeded"),
    (25, "XFSZ", "File size limit exceeded"), (26, "VTALRM", "Virtual timer expired"),
    (27, "PROF", "Profiling timer expired"), (28, "WINCH", "Window changed"), (29, "IO", "I/O possible"),
    (30, "PWR", "Power failure"), (31, "SYS", "Bad system call")]

/-- The name of a signal; those without one go by their numbers. -/
def signalName (number : Nat) : String :=
  match signals.find? (·.1 = number) with
  | some (_, name, _) => name
  | none =>
    if number = 34 then "RTMIN"
    else if 34 < number && number < 50 then s!"RTMIN+{number - 34}"
    else if 50 ≤ number && number < 64 then s!"RTMAX-{64 - number}"
    else if number = 64 then "RTMAX"
    else s!"{number}"

/-- What a process does when a signal reaches it that it does not care about. -/
inductive Reaction where
  | ends
  | stops
  | nothing
deriving DecidableEq, Repr

/-- What a signal does by itself. -/
def reaction (signal : Nat) : Reaction :=
  if [17, 18, 23, 28].contains signal then .nothing
  else if [19, 20, 21, 22].contains signal then .stops
  else .ends

/-- The signal with a number or a name; zero stands for the end of the shell. -/
def signal? (text : List Char) : Option Nat :=
  if text ≠ [] && text.all Char.isDigit then
    match Text.readDigits 64 0 text with
    | .ok number => some number
    | .error _ => none
  else
    let name := String.ofList text
    if name = "EXIT" then some 0
    else (signals.find? (·.2.1 = name)).map (·.1)

/-- The words for a process that a signal ended, none for those that go without saying. -/
def endWords (signal : Nat) : Option String :=
  if signal = 2 || signal = 13 then none
  else (signals.find? (·.1 = signal)).map (·.2.2)

end Workyard.Shell
