/-
**An executor for rehearsals.**

The stub runs no program. It knows four commands by their look: `false` fails, `echo` and `sleep`
do what they say, and everything else succeeds silently.
-/

import Workyard.Execution.Failure
import Workyard.Text.Blank
import Workyard.Text.Numeral

namespace Workyard.Stub

/-- The text behind a word and a blank, if it starts with them. -/
def behind? (word : String) (text : List Char) : Option (List Char) :=
  let start := word.toList ++ [' ']
  if start.isPrefixOf text then some (text.drop start.length) else none

/-- How many milliseconds a command takes. -/
def delay (command : String) : Nat :=
  match behind? "sleep" (Text.trim command.toList) with
  | none => 0
  | some numeral => match Text.parseUnsigned Text.maxU64 numeral with
    | .ok milliseconds => milliseconds
    | .error _ => 0

/-- What comes of a command. -/
def run (command : String) : Except ExecFailure Success :=
  let text := Text.trim command.toList
  if text = "false".toList then .error (.exited (some 1) "")
  else .ok ⟨1, match behind? "echo" text with
    | some words => String.ofList (words ++ ['\n'])
    | none => ""⟩

end Workyard.Stub
