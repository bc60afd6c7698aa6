/-
**Posting the commands of a file.**

A file that cannot be opened is a fault of the configuration; one that can be opened and not read is a
fault of the command source.
-/

import Workyard.Command.Post
import Workyard.Files.Tree

namespace Workyard.Command

/-- The stream of an opened node. -/
def Stream.ofNode (node : Files.Node) : Stream := ⟨node.contents.1, node.contents.2⟩

/-- Gives a sink the commands of a file and the end of the input. -/
def postFile {σ : Type} (tree : Files.Tree) (name : String) (sink : Sink σ) (state : σ) :
    σ × Except Failure Nat :=
  match tree.openRead name with
  | .error fault => (state, .error (.config s!"failed to open {name}: {fault.message}"))
  | .ok (_, node) => post sink (.ofStream (.ofNode node)) state

end Workyard.Command
