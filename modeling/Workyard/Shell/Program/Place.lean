/-
**Names that programs work on.**

A program that makes, removes or moves files works on the last part of a name in the directory in front of
it, whatever that part stands for.

* `Spot`: where a name leads, without following a link at its end;
* `addNode`, `removeName`: new names and names taken away.
-/

import Workyard.Shell.Builtin.Place
import Workyard.Shell.Program.Plain

namespace Workyard.Shell.Program

/-- Where a name leads. -/
structure Spot where
  name : Octets
  path : Files.Path
  /-- The node there, if there is one. -/
  found : Option (Nat × Files.Node)
  /-- Whether slashes stand behind the name. -/
  slashed : Bool

/-- What is there is a directory. -/
def Spot.isDirectory (spot : Spot) : Bool :=
  match spot.found with
  | some (_, ⟨.directory, _, _⟩) => true
  | _ => false

/-- What is there is a link. -/
def Spot.isLink (spot : Spot) : Bool :=
  match spot.found with
  | some (_, ⟨.link _, _, _⟩) => true
  | _ => false

/-- Where a name leads; a link at its end is followed or not. -/
def spot (name : Octets) (follow : Bool := false) : Act (Except IoFault Spot) := do
  let tree ← tree
  let bare := withoutSlashes name
  match tree.locate (spelled bare) follow with
  | .error fault => return .error fault
  | .ok location =>
    let found := location.number.bind fun number => (tree.node? number).map (number, ·)
    return .ok { name, path := location.path, found, slashed := bare.length < name.length }

/-- Where a name leads to something; what is no directory has no slashes behind it. -/
def spotOf (name : Octets) (follow : Bool := false) : Act (Except IoFault Spot) := do
  match ← spot name follow with
  | .error fault => return .error fault
  | .ok found =>
    let found ← if found.slashed && found.isLink then spot name true else pure (.ok found)
    match found with
    | .error fault => return .error fault
    | .ok found =>
      if found.found.isNone then return .error (.os .notFound)
      else if found.slashed && !found.isDirectory then return .error (.os .notADirectory)
      else return .ok found

/-- Whether a name is that of a directory. -/
def isDirectoryName (name : Octets) : Act Bool := do
  return match (← tree).find (spelled name) with
    | .ok ⟨.directory, _, _⟩ => true
    | _ => false

/-- A name in a directory. -/
def inside (directory name : Octets) : Octets :=
  if directory.getLast? = some '/' then directory ++ name else directory ++ '/' :: name

/-- The number of a node under a name that was free. -/
def addNode (name : Octets) (kind : Files.Kind) (mode : Nat) : Act (Except IoFault Nat) := do
  match ← spot name with
  | .error fault => return .error fault
  | .ok found =>
    if found.found.isSome then return .error (.os .alreadyExists)
    else match kind, found.slashed with
      | .directory, _ | _, false => inTree fun tree => tree.createAt ⟨found.path, none, false⟩ kind mode
      | _, true => return .error (.os .notFound)

/-- Gives a node another name. -/
def addName (name : Octets) (number : Nat) : Act (Except IoFault Unit) := do
  match ← spot name with
  | .error fault => return .error fault
  | .ok found =>
    if found.found.isSome then return .error (.os .alreadyExists)
    else if found.slashed then return .error (.os .notFound)
    else
      setTree ((← tree).name found.path number)
      return .ok ()

/-- Puts another node in the place of one. -/
def changeNode (number : Nat) (change : Files.Node → Files.Node) : Act Unit := do
  let tree ← tree
  match tree.node? number with
  | some node => setTree (tree.put number (change node))
  | none => pure ()

/-- Whether something else stands on a directory of the machine. -/
def isMounted (path : Files.Path) : Bool := [[], ["proc"], ["sys"], ["dev"]].contains path

/-- Takes a name away, which is that of a directory or not as wanted. -/
def removeName (name : Octets) (directory : Bool) : Act (Except IoFault Unit) := do
  let last := lastPart name
  if directory && last = ['.'] then return .error (.os .invalid)
  else if directory && last = ['.', '.'] then return .error (.os .notEmpty)
  else match ← spot name with
    | .error fault => return .error fault
    | .ok found =>
      let tree ← tree
      if found.found.isNone then return .error (.os .notFound)
      else if found.isDirectory then
        if !directory then return .error (.os .isADirectory)
        else if isMounted found.path then return .error (.os .busy)
        else if tree.children found.path ≠ [] then return .error (.os .notEmpty)
        else
          setTree (tree.remove found.path)
          return .ok ()
      else if directory || found.slashed then return .error (.os .notADirectory)
      else
        setTree (tree.remove found.path)
        return .ok ()

/-- The names in a directory. -/
def namesIn (path : Files.Path) : Act (List Octets) := do
  return ((← tree).children path).map octets

/-- The mode that an option gives, if it means something. -/
def modeOption (options : Options) (usual : Nat) : Act (Option Nat) := do
  match options.last? "m" with
  | none => return some ((← tree).masked usual)
  | some text => return changedMode true (← tree).mask usual text

/-- The deepest directories that are gone through. -/
def maxDepth : Nat := 1024

/-- Says something if it is wanted. -/
def tell (wanted : Bool) (words : Octets) : Act Unit := if wanted then put (words ++ ['\n']) else pure ()

end Workyard.Shell.Program
