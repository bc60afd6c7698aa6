/-
**Processes side by side.**

The course of a process is cut where it has to wait, for a time or for something that others do, and
where it starts another one. Everything between two cuts happens at once. `carryOn` goes on with the
process whose turn comes first; of several at the same time, with the one that waited longest.
-/

import Workyard.Shell.World

namespace Workyard.Shell

/-- What a process waits for: a time, or a state of the world, or whichever comes first. -/
structure Demand where
  time : Option Nat := none
  ready : World → Bool := fun _ => false

/-- The course of a process from one cut to the next. -/
inductive Course where
  | ended (world : World)
  | waits (world : World) (demand : Demand) (resume : World → Course)
  | forks (world : World) (child : Nat) (start : World → Course) (resume : World → Course)

/-- A process and what it waits for. -/
structure Thread where
  process : Nat
  demand : Demand
  resume : World → Course

/-- The time at which it is a process's turn, none if that is not known. -/
def Thread.due (world : World) (thread : Thread) : Option Nat :=
  if (world.process? thread.process).any (·.halted) then none
  else if thread.demand.ready world then some world.clock
  else thread.demand.time.map (max world.clock)

/-- The microseconds after which a new process is at work. -/
def forkTime : Nat := 300

/-- The thread whose turn comes first, its time, and the other threads. -/
def nextThread (world : World) : List Thread → Option (Nat × Thread × List Thread)
  | [] => none
  | thread :: rest =>
    match thread.due world, nextThread world rest with
    | none, none => none
    | none, some (time, first, others) => some (time, first, thread :: others)
    | some time, none => some (time, thread, rest)
    | some time, some (other, first, others) =>
      if time ≤ other then some (time, thread, rest) else some (other, first, thread :: others)

/-- Goes on up to a time, or until a goal is reached, or until nobody has anything to do. -/
def carryOn (horizon : Nat) (goal : World → Bool) : Nat → World → List Thread → World × List Thread
  | 0, world, threads => (world, threads)
  | fuel + 1, world, threads =>
    if goal world then (world, threads)
    else
      let threads := threads.filter fun thread => world.isAlive thread.process
      match nextThread world threads with
      | none => ({ world with clock := max world.clock horizon }, threads)
      | some (time, thread, others) =>
        if horizon < time then ({ world with clock := horizon }, threads)
        else match thread.resume { world with clock := time } with
          | .ended world => carryOn horizon goal fuel world others
          | .waits world demand resume =>
            carryOn horizon goal fuel world (others ++ [⟨thread.process, demand, resume⟩])
          | .forks world child start resume =>
            let now : Demand := ⟨some world.clock, fun _ => false⟩
            let later : Demand := ⟨some (world.clock + forkTime), fun _ => false⟩
            carryOn horizon goal fuel world
              (⟨thread.process, now, resume⟩ :: (others ++ [⟨child, later, start⟩]))

end Workyard.Shell
