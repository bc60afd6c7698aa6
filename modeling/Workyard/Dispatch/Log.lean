/-
**Completion logs.**

A completion log takes the terminal results of a dispatcher one at a time and may fail at any of
them; the dispatcher goes on regardless. A log is given by what it does with an entry, `σ` being what
it has kept so far.

* `Log.memory`: keeps the successes and the failures apart, each in order.
-/

import Workyard.Dispatch.Loop
import Workyard.Files.Fault

namespace Workyard.Dispatch

/-- A completion log. -/
structure Log (σ : Type) where
  /-- Takes an entry, and fails or does not. -/
  write : σ → Entry → σ × Except IoFault Unit

/-- What a log holds after an entry; a failure is passed over. -/
def Log.record {σ : Type} (log : Log σ) (kept : σ) : Option Entry → σ
  | none => kept
  | some entry => (log.write kept entry).1

/-- Successes and failures, each in order. -/
structure Kept where
  ok : List String := []
  failed : List (String × String) := []
deriving DecidableEq, Repr

/-- The results with one more. -/
def Kept.add (kept : Kept) : Entry → Kept
  | .ok command => { kept with ok := kept.ok ++ [command] }
  | .failed command reason => { kept with failed := kept.failed ++ [(command, reason)] }

/-- The results, successes first. -/
def Kept.entries (kept : Kept) : List Entry :=
  kept.ok.map .ok ++ kept.failed.map fun (command, reason) => .failed command reason

/-- Keeps everything. -/
def Log.memory : Log Kept := ⟨fun kept entry => (kept.add entry, .ok ())⟩

/-- Keeps nothing. -/
def Log.nothing {σ : Type} : Log σ := ⟨fun kept _ => (kept, .ok ())⟩

/-- Fails at every entry. -/
def Log.broken {σ : Type} (fault : IoFault) : Log σ := ⟨fun kept _ => (kept, .error fault)⟩

end Workyard.Dispatch
