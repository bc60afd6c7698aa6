/-
**Files by name.**

A tree has nodes, each with a number, and names for them: paths from the root. A node is a directory, a
file, a device, or a link that stands for another name. A name is walked from left to right and the first
thing wrong with it decides: what is walked through must be a directory, a part must not be too long, and
it must exist.

* `Tree.locate`: the place that a name leads to, which may be free;
* `Tree.read`, `Tree.openAppend`, `Tree.write`: what programs do with names;
* `Tree.append`, `Tree.remove`, `Tree.move`: what they do with nodes.
-/

import Workyard.Files.Fault
import Workyard.Text.Utf8

namespace Workyard.Files

/-- A device. -/
inductive Device where
  /-- Is empty and takes everything. -/
  | sink
  /-- Gives zeros for ever and takes everything. -/
  | zeros
  /-- Gives zeros for ever and has no room for anything. -/
  | full
  /-- Gives any octets for ever and takes everything. -/
  | noise
  /-- Cannot be opened where nobody sits at a terminal. -/
  | terminal
deriving DecidableEq, Repr

/-- What a node is. -/
inductive Kind where
  | directory
  | file (octets : List UInt8)
  | device (device : Device)
  /-- Stands for another name. -/
  | link (target : String)
  /-- Passes octets from one process to another. -/
  | pipe

/-- A node. -/
structure Node where
  kind : Kind
  /-- The permissions, three bits each for the owner, the group and all others. -/
  mode : Nat
  /-- The microseconds at which it was last changed. -/
  time : Nat := 0

/-- A file that anybody can read. -/
def Node.file (octets : List UInt8) : Node := ⟨.file octets, 0o644, 0⟩

/-- A directory that anybody can enter. -/
def Node.directory : Node := ⟨.directory, 0o755, 0⟩

/-- The octets that an opened node gives and the fault behind them; a directory can be opened but not
read. -/
def Node.contents (node : Node) : List UInt8 × Option IoFault :=
  match node.kind with
  | .directory => ([], some (.os .isADirectory))
  | .file octets => (octets, none)
  | _ => ([], none)

/-- The parts of a path from the root. -/
abbrev Path := List String

/-- Nodes with their names, and the path from which relative names are read. -/
structure Tree where
  names : List (Path × Nat)
  nodes : List (Nat × Node)
  here : Path
  /-- A number that no node has, nor any greater one. -/
  fresh : Nat
  /-- The permissions that new nodes do not get. -/
  mask : Nat := 0o022
  /-- The time of changes. -/
  now : Nat := 0

/-- Where a name leads. -/
structure Location where
  path : Path
  /-- The number of the node there, if there is one. -/
  number : Option Nat
  /-- Whether the name can only be that of a directory. -/
  mustBeDirectory : Bool

/-- The most octets of a name. -/
def maxName : Nat := 4095

/-- The most octets of a part of a name. -/
def maxPart : Nat := 255

/-- The most links on the way of a name. -/
def maxLinks : Nat := 40

/-- The parts of a name between slashes. -/
def parts (name : List Char) : List (List Char) :=
  match name with
  | [] => [[]]
  | '/' :: rest => [] :: parts rest
  | c :: rest => match parts rest with
    | [] => [[c]]
    | first :: more => (c :: first) :: more

namespace Tree

/-- The number of the node under a path. -/
def number? (tree : Tree) (path : Path) : Option Nat := tree.names.lookup path

/-- The node with a number. -/
def node? (tree : Tree) (number : Nat) : Option Node := tree.nodes.lookup number

/-- The node under a path. -/
def get? (tree : Tree) (path : Path) : Option Node := (tree.number? path).bind tree.node?

/-- The tree with another node under a number. -/
def put (tree : Tree) (number : Nat) (node : Node) : Tree :=
  { tree with nodes := (number, node) :: tree.nodes.filter (·.1 ≠ number) }

/-- The tree with the present as the time of the directory in which a path lies. -/
def mark (tree : Tree) (path : Path) : Tree :=
  match tree.number? path.dropLast with
  | some number => match tree.node? number with
    | some node => tree.put number { node with time := tree.now }
    | none => tree
  | none => tree

/-- The tree with a name for a node. -/
def name (tree : Tree) (path : Path) (number : Nat) : Tree :=
  { tree with names := (path, number) :: tree.names.filter (·.1 ≠ path) }.mark path

/-- The tree with a node under a path that is free; gives also its number. -/
def create (tree : Tree) (path : Path) (node : Node) : Tree × Nat :=
  let number := tree.fresh
  (({ tree with fresh := number + 1 }.put number { node with time := tree.now }).name path number, number)

/-- The tree with a node under a path. -/
def set (tree : Tree) (path : Path) (node : Node) : Tree :=
  match tree.number? path with
  | some number => tree.put number { node with time := tree.now }
  | none => (tree.create path node).1

/-- What stands under a path. -/
def look (tree : Tree) (path : Path) (mustBeDirectory : Bool) : Location :=
  ⟨path, tree.number? path, mustBeDirectory⟩

/-- Refuses a path through which nothing can be reached. -/
def enter (tree : Tree) (path : Path) : Except OsFault Unit :=
  match (tree.get? path).map Node.kind with
  | some .directory => .ok ()
  | some _ => .error .notADirectory
  | none => .error .notFound

/-- Walks on from a path, over so many links; a link at the end is followed or not. -/
def walk (tree : Tree) (follow : Bool) (links : Nat) (path : Path) (way : List (List Char)) :
    Except OsFault Location :=
  match way with
  | [] => .ok (tree.look path true)
  | part :: rest => do
    tree.enter path
    if part = [] || part = ['.'] then tree.walk follow links path rest
    else if part = ['.', '.'] then tree.walk follow links path.dropLast rest
    else if maxPart < Text.Utf8.size part then .error .nameTooLong
    else
      let next := path ++ [String.ofList part]
      let target? : Option String := match (tree.get? next).map Node.kind with
        | some (.link target) => if rest = [] && !follow then none else some target
        | _ => none
      match target?, links with
      | some _, 0 => .error .tooManyLinks
      | some target, links + 1 =>
        let start := if target.startsWith "/" then [] else path
        tree.walk follow links start (parts target.toList ++ rest)
      | none, links =>
        if rest = [] then .ok (tree.look next false)
        else if rest.all (· = []) then .ok (tree.look next true)
        else tree.walk follow links next rest
termination_by (links, way.length)

/-- The place that a name leads to; only its last part need not exist. -/
def locate (tree : Tree) (name : String) (follow : Bool := true) : Except IoFault Location :=
  let chars := name.toList
  if chars.contains '\x00' then .error .nulInName
  else if chars = [] then .error (.os .notFound)
  else if maxName < Text.Utf8.size chars then .error (.os .nameTooLong)
  else (tree.walk follow maxLinks (if chars.head? = some '/' then [] else tree.here)
    (parts chars)).mapError .os

/-- The number of the node that a name leads to, and the node. -/
def entry (tree : Tree) (name : String) (follow : Bool := true) : Except IoFault (Nat × Node) := do
  let location ← tree.locate name follow
  match location.number.bind fun number => (tree.node? number).map (number, ·) with
  | none => .error (.os .notFound)
  | some (number, node) => match node.kind, location.mustBeDirectory with
    | .directory, _ => .ok (number, node)
    | _, true => .error (.os .notADirectory)
    | _, false => .ok (number, node)

/-- The node that a name leads to. -/
def find (tree : Tree) (name : String) (follow : Bool := true) : Except IoFault Node :=
  (tree.entry name follow).map (·.2)

/-- The node that a name leads to, which is opened. -/
def openRead (tree : Tree) (name : String) : Except IoFault (Nat × Node) := do
  match ← tree.entry name with
  | (_, ⟨.device .terminal, _, _⟩) => .error (.os .noDevice)
  | found => .ok found

/-- Reads a whole file. -/
def read (tree : Tree) (name : String) : Except IoFault (List UInt8) := do
  match (← tree.openRead name).2.contents with
  | (octets, none) => .ok octets
  | (_, some fault) => .error fault

/-- The directories in which nothing can be created. -/
def sealedRoots : List (String × OsFault) := [("proc", .notFound), ("sys", .permissionDenied)]

/-- The permissions of a new node. -/
def masked (tree : Tree) (mode : Nat) : Nat := mode &&& (0o7777 ^^^ tree.mask)

/-- Creates a node at a place that is free. -/
def createAt (tree : Tree) (location : Location) (kind : Kind) (mode : Nat) :
    Except IoFault (Tree × Nat) :=
  match location.path.head?.bind fun root => sealedRoots.lookup root with
  | some fault => .error (.os fault)
  | none => .ok (tree.create location.path ⟨kind, tree.masked mode, tree.now⟩)

/-- The number of a file to write to, which is created if it is free. -/
def openAppend (tree : Tree) (name : String) : Except IoFault (Tree × Nat) := do
  let location ← tree.locate name
  match location.number.bind fun number => (tree.node? number).map (number, ·) with
  | some (number, node) => match node.kind, location.mustBeDirectory with
    | .directory, _ => .error (.os .isADirectory)
    | _, true => .error (.os .isADirectory)
    | .device .terminal, _ => .error (.os .noDevice)
    | _, _ => .ok (tree, number)
  | none =>
    if location.mustBeDirectory then .error (.os .isADirectory)
    else tree.createAt location (.file []) 0o666

/-- Appends to an opened file. -/
def append (tree : Tree) (number : Nat) (octets : List UInt8) : Except IoFault Tree :=
  match tree.node? number with
  | some node => match node.kind with
    | .file before => .ok (tree.put number { node with kind := .file (before ++ octets), time := tree.now })
    | .device .full => if octets.isEmpty then .ok tree else .error (.os .noSpace)
    | _ => .ok tree
  | none => .ok tree

/-- Writes into an opened file from a position on; a gap in front of it is filled with zeros. -/
def writeAt (tree : Tree) (number position : Nat) (octets : List UInt8) : Except IoFault Tree :=
  match tree.node? number with
  | some node => match node.kind with
    | .file before =>
      let gap := List.replicate (position - before.length) 0
      let after := before.take position ++ gap ++ octets ++ before.drop (position + octets.length)
      .ok (tree.put number { node with kind := .file after, time := tree.now })
    | .device .full => if octets.isEmpty then .ok tree else .error (.os .noSpace)
    | _ => .ok tree
  | none => .ok tree

/-- Gives an opened file new contents; other nodes are left as they are. -/
def replace (tree : Tree) (number : Nat) (octets : List UInt8) : Tree :=
  match tree.node? number with
  | some ⟨.file _, mode, _⟩ => tree.put number ⟨.file octets, mode, tree.now⟩
  | _ => tree

/-- Gives a file new contents. -/
def write (tree : Tree) (name : String) (octets : List UInt8) : Except IoFault Tree := do
  let (tree, number) ← tree.openAppend name
  (tree.replace number []).append number octets

/-- The names in a directory, in ascending order. -/
def children (tree : Tree) (path : Path) : List String :=
  (tree.names.filterMap fun (other, _) =>
    match other.getLast? with
    | some last => if other.dropLast = path then some last else none
    | none => none).mergeSort fun one other => one ≤ other

/-- Whether a path is one of those that start with another. -/
def isWithin (path other : Path) : Bool := path.isPrefixOf other

/-- Takes away a name and all names in it. -/
def remove (tree : Tree) (path : Path) : Tree :=
  { tree with names := tree.names.filter fun (other, _) => !isWithin path other }.mark path

/-- Gives a node and all in it another name. -/
def move (tree : Tree) (source target : Path) : Tree :=
  let (moved, others) := tree.names.partition fun (other, _) => isWithin source other
  let moving : Tree := { tree with
    names := moved.map (fun (other, number) => (target ++ other.drop source.length, number)) ++
      others.filter fun (other, _) => !isWithin target other }
  (moving.mark source).mark target

/-- The number of names of a node. -/
def linkCount (tree : Tree) (number : Nat) : Nat := (tree.names.filter (·.2 = number)).length

end Tree

end Workyard.Files
