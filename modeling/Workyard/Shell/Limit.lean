/-
**What a process may use no more of.**

For each resource there is a limit that counts and a bound up to which that may be raised. The bound can be
lowered but never raised again.

* `Limit.change`: the limit with other values, or why it cannot have them.
-/

import Workyard.Files.Fault

namespace Workyard.Shell

/-- What there are limits for. -/
inductive Resource where
  | time
  | realTime
  | fileSize
  | dataSize
  | stackSize
  | coreSize
  | residentSize
  | lockedSize
  | processes
  | openFiles
  | addressSpace
  | locks
  | messageQueues
  | niceness
  | priority
  | pendingSignals
deriving DecidableEq, Repr

/-- A limit; nothing stands for as much as one likes. -/
structure Limit where
  /-- What counts. -/
  soft : Option Nat := none
  /-- What that can be raised to. -/
  hard : Option Nat := none
deriving DecidableEq, Repr

namespace Limit

/-- Whether a value is beyond a bound. -/
def isBeyond : Option Nat → Option Nat → Bool
  | _, none => false
  | none, some _ => true
  | some value, some bound => bound < value

/-- A limit with another value for the parts that are asked for. -/
def replaced (limit : Limit) (soft hard : Bool) (value : Option Nat) : Limit :=
  { soft := if soft then value else limit.soft, hard := if hard then value else limit.hard }

/-- The limit with other values, or why it cannot have them. -/
def change (limit : Limit) (soft hard : Bool) (value : Option Nat) : Except OsFault Limit :=
  let changed := limit.replaced soft hard value
  if isBeyond changed.soft changed.hard then .error .invalid
  else if isBeyond changed.hard limit.hard then .error .notPermitted
  else .ok changed

/-- A limit whose two values are the same. -/
def both (value : Nat) : Limit := ⟨some value, some value⟩

/-- The limits before any are set. -/
def atFirst : Resource → Limit
  | .stackSize => ⟨some 8388608, none⟩
  | .lockedSize => both 8388608
  | .openFiles => both 1048576
  | .messageQueues => both 819200
  | .niceness => both 0
  | .priority => both 0
  | .pendingSignals => both 128619
  | _ => {}

end Limit

end Workyard.Shell
