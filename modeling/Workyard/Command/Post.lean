/-
**Posting commands to a sink.**

A sink takes commands one at a time and then the end of the input. Posting gives a sink the commands
of a reader in order and, if all went well to the end, the end of the input; at the first fault of
the reader or the sink it stops.

* `post`: the number of commands posted, or the first failure.
-/

import Workyard.Failure

namespace Workyard.Command

/-- Something that takes commands, `σ` being what it remembers. -/
structure Sink (σ : Type) where
  /-- Takes one command. -/
  submit : σ → String → σ × Except Failure JobId
  /-- Takes the end of the input. -/
  endOfInput : σ → σ × Except Failure Unit

variable {σ : Type}

/-- Gives the sink these commands in order and then what ends them; `posted` were given before. -/
def postFrom (sink : Sink σ) (fault : Option SourceFault) (state : σ) (posted : Nat) :
    List (List Char) → σ × Except Failure Nat
  | [] => match fault with
    | some fault => (state, .error (.source fault))
    | none => match sink.endOfInput state with
      | (state, .ok ()) => (state, .ok posted)
      | (state, .error failure) => (state, .error failure)
  | command :: rest => match sink.submit state (String.ofList command) with
    | (state, .ok _) => postFrom sink fault state (posted + 1) rest
    | (state, .error failure) => (state, .error failure)

/-- Gives the sink the commands of the reader and the end of the input. -/
def post (sink : Sink σ) (reader : Reader) (state : σ) : σ × Except Failure Nat :=
  let (commands, fault) := reader.commands
  postFrom sink fault state 0 commands

end Workyard.Command
