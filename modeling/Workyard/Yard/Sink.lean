/-
**Posting commands to a yard.**

A dispatcher takes commands from a command source through its channel.
-/

import Workyard.Command.Post
import Workyard.Yard.Basic

namespace Workyard.Yard

/-- A dispatcher as a taker of commands. -/
def sink {σ : Type} (setting : Setting σ) : Command.Sink (Yard σ) where
  submit yard command :=
    let (yard, result) := yard.submit setting command
    (yard, result.mapError .dispatch)
  endOfInput yard :=
    let (yard, result) := yard.endOfInput
    (yard, result.mapError .dispatch)

end Workyard.Yard
