/-
**Publishing how a dispatcher ended.**

A board shows whether a dispatcher still runs and, once it has stopped, how it ended. The dispatcher
alone writes on it and leaves when it is done; others look at it or wait for an ending.
-/

import Workyard.Dispatch.Loop

namespace Workyard.Dispatch

/-- The last ending published, if any, and whether the publisher is still there. -/
structure Board where
  ending : Option Ending := none
  attended : Bool := true
deriving DecidableEq, Repr

namespace Board

/-- Shows an ending; only a publisher that is still there can. -/
def publish (board : Board) (ending : Ending) : Board :=
  if board.attended then { board with ending := some ending } else board

/-- The publisher leaves. -/
def leave (board : Board) : Board := { board with attended := false }

/-- Whether an ending is shown. -/
def isClosed (board : Board) : Bool := board.ending.isSome

/-- What one who waits gets now: nothing as long as an ending can still come. -/
def await (board : Board) : Option (Except DispatchError Tally) :=
  match board.ending with
  | some ending => some ending.result
  | none => if board.attended then none else some (.error .closed)

end Board

end Workyard.Dispatch
