/-
**The operator's program on a real machine.**

Only here are files, the environment and the terminal touched. The files that the words of the command
line and the environment name are read before the program is carried out, and the files that it leaves
changed are written behind it. The machine is taken to reach nobody.
-/

import Workyard.CommandLine.Operator
import Workyard.Network

namespace Workyard

open CommandLine (Machine)

/-- The variables of the environment that the program looks at. -/
def watchedVariables : List String :=
  ["DISTRIBUTE_WORKERS", "DISTRIBUTE_CMDFILE", "DISTRIBUTE_MANAGER", "DISTRIBUTE_LISTEN",
    "DISTRIBUTE_LOG_FILE", "HOME", "CLICOLOR_FORCE"]

/-- The path of a name from the root. -/
def pathOf (here : Files.Path) (name : String) : Files.Path :=
  if name.startsWith "/" then Files.rooted name else here ++ Files.rooted name

/-- The name of a path from the root. -/
def nameOf (path : Files.Path) : String := "/" ++ "/".intercalate path

/-- A tree with a file in it and all directories above. -/
def planted (tree : Files.Tree) (path : Files.Path) (octets : List UInt8) : Files.Tree :=
  let above := (List.range path.length).map path.take
  (above.foldl (fun tree directory => tree.set directory .directory) tree).set path (.file octets)

/-- Reads the files that are there under some names. -/
def readFiles (tree : Files.Tree) : List String → IO Files.Tree
  | [] => return tree
  | name :: rest => do
    let tree ← try
        let content ← IO.FS.readBinFile name
        pure (planted tree (pathOf tree.here name) content.toList)
      catch _ => pure tree
    readFiles tree rest

/-- Writes the files that are not what they were before. -/
def writeFiles (before after : Files.Tree) : List Files.Path → IO Unit
  | [] => return
  | path :: rest => do
    match (after.get? path).map Files.Node.kind, (before.get? path).map Files.Node.kind with
    | some (.file octets), some (.file old) =>
      if old ≠ octets then IO.FS.writeBinFile (nameOf path) ⟨octets.toArray⟩
    | some (.file octets), _ => IO.FS.writeBinFile (nameOf path) ⟨octets.toArray⟩
    | _, _ => pure ()
    writeFiles before after rest

end Workyard

open Workyard in
/-- Carries out the operator's program. -/
def main (words : List String) : IO UInt32 := do
  let here := pathOf [] (toString (← IO.currentDir))
  let environment ← watchedVariables.filterMapM fun name => do
    return (← IO.getEnv name).map (name, ·)
  let tree ← readFiles (Files.Tree.machine here)
    (words ++ environment.map (·.2) ++ ["cmds", "ok.log", "fail.log"])
  let (machine, fate) := CommandLine.operate
    { tree, network := Network.isolated [], environment } words
  writeFiles tree machine.tree (machine.tree.names.map (·.1))
  match fate with
  | some finish =>
    (← IO.getStdout).putStr finish.output
    (← IO.getStderr).putStr finish.complaint
    return UInt32.ofNat finish.status
  | none => return 0
