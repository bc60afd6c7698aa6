/-
**Waiting for all proxies of the pool.**

One who waits takes all proxies that nobody has taken yet and waits for each in turn, in the order in
which they were added. Proxies added meanwhile are taken next; when there are none the wait is over.

* `Join.step`: takes a batch, notes one exit, or finishes.
-/

import Workyard.Yard.Basic

namespace Workyard.Yard

/-- One who waits for the proxies of the pool. -/
structure Join where
  /-- The proxies taken and not seen to end. -/
  batch : List Nat := []
  /-- How those before them ended, in order. -/
  exits : List Exit := []
  finished : Bool := false
deriving DecidableEq, Repr

/-- How a proxy ended, if it did. -/
def exit? {σ : Type} (yard : Yard σ) (number : Nat) : Option Exit :=
  yard.proxies[number]?.bind (·.phase.exit?)

/-- What one who waits does next, if it need not wait for a proxy. -/
def Join.step {σ : Type} (yard : Yard σ) (join : Join) : Option (Yard σ × Join) :=
  if join.finished then none
  else match join.batch with
    | [] => some (if yard.unjoined = [] then (yard, { join with finished := true })
        else ({ yard with unjoined := [] }, { join with batch := yard.unjoined }))
    | number :: rest => (yard.exit? number).map fun exit =>
      (yard, { join with batch := rest, exits := join.exits ++ [exit] })

end Workyard.Yard
