/-
**A sink that keeps what it is given.**

A recorder notes every command before it answers, and can be told to fail at one of them or at the end
of the input.
-/

import Workyard.Command.Post

namespace Workyard.Command

/-- The commands given, in order, and how often the input was ended. -/
structure Recorder where
  submitted : List String := []
  ends : Nat := 0

/-- The recorder as a sink; the command of the number `failAt` is refused. -/
def Recorder.sink (failAt : Option Nat) (refusal : Failure) (endRefusal : Option Failure) :
    Sink Recorder where
  submit recorder command :=
    let recorder := { recorder with submitted := recorder.submitted ++ [command] }
    let count := recorder.submitted.length
    (recorder, if failAt = some count then .error refusal else .ok (JobId.numbered count))
  endOfInput recorder :=
    ({ recorder with ends := recorder.ends + 1 }, match endRefusal with
      | some failure => .error failure
      | none => .ok ())

end Workyard.Command
