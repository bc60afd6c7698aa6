/-
**Conditions.**

A condition compares texts or numbers, asks about files, or joins other conditions. Three words with an
operator between two texts are always a comparison.

* `holds`: whether the words of a condition are true.
-/

import Workyard.Files.Tree
import Workyard.Shell.Octets

namespace Workyard.Shell

/-- A comparison of two words. -/
inductive Comparison where
  | sameText | otherText | textBefore | textAfter
  | equal | unequal | less | lessEqual | greater | greaterEqual
  | newer | older | sameFile
deriving DecidableEq, Repr

/-- The comparisons by name. -/
def comparisons : List (String × Comparison) :=
  [("=", .sameText), ("!=", .otherText), ("<", .textBefore), (">", .textAfter), ("-eq", .equal),
    ("-ne", .unequal), ("-lt", .less), ("-le", .lessEqual), ("-gt", .greater), ("-ge", .greaterEqual),
    ("-nt", .newer), ("-ot", .older), ("-ef", .sameFile)]

/-- The questions about one word. -/
def questions : List String :=
  ["-n", "-z", "-b", "-c", "-d", "-e", "-f", "-g", "-G", "-h", "-k", "-L", "-O", "-p", "-r", "-s",
    "-S", "-t", "-u", "-w", "-x"]

/-- The number that a word must be. -/
def wantedNumber (word : Octets) : Except Octets Int :=
  match numberOf word with
  | some value => if word.all isSpace then .error (octets "Illegal number: " ++ word) else .ok value
  | none => .error (octets "Illegal number: " ++ word)

/-- Whether a comparison holds. -/
def Comparison.holds (comparison : Comparison) (tree : Files.Tree) (left right : Octets) : Except Octets Bool := do
  let numerically (test : Int → Int → Bool) : Except Octets Bool := do
    return test (← wantedNumber left) (← wantedNumber right)
  let times : Option (Nat × Nat) := match tree.find (spelled left), tree.find (spelled right) with
    | .ok first, .ok second => some (first.time, second.time)
    | _, _ => none
  match comparison with
  | .sameText => return left = right
  | .otherText => return left ≠ right
  | .textBefore => return left < right
  | .textAfter => return right < left
  | .equal => numerically (fun first second => decide (first = second))
  | .unequal => numerically (fun first second => decide (first ≠ second))
  | .less => numerically (fun first second => decide (first < second))
  | .lessEqual => numerically (fun first second => decide (first ≤ second))
  | .greater => numerically (fun first second => decide (second < first))
  | .greaterEqual => numerically (fun first second => decide (second ≤ first))
  | .newer => return (times.map fun (first, second) => decide (second < first)).getD false
  | .older => return (times.map fun (first, second) => decide (first < second)).getD false
  | .sameFile => return match tree.entry (spelled left), tree.entry (spelled right) with
    | .ok (first, _), .ok (second, _) => first = second
    | _, _ => false

/-- Whether a file may be carried out. -/
def isProgram (node : Files.Node) : Bool :=
  match node.kind with
  | .file _ => node.mode &&& 0o111 ≠ 0
  | _ => false

/-- The answer to a question about a node. -/
def nodeAnswer (question : String) (node : Files.Node) : Bool :=
  let has (bit : Nat) : Bool := node.mode &&& bit ≠ 0
  match question, node.kind with
  | "-d", .directory => true
  | "-f", .file _ => true
  | "-c", .device _ => true
  | "-p", .pipe => true
  | "-s", .file content => !content.isEmpty
  | "-s", .directory => true
  | "-x", .directory => true
  | "-x", _ => isProgram node
  | "-u", _ => has 0o4000
  | "-g", _ => has 0o2000
  | "-k", _ => has 0o1000
  | _, _ => ["-e", "-r", "-w", "-O", "-G"].contains question

/-- The answer to a question about a word. -/
def answer (tree : Files.Tree) (question : String) (word : Octets) : Except Octets Bool :=
  match question with
  | "-n" => .ok (word ≠ [])
  | "-z" => .ok (word = [])
  | "-t" => do
    let _ ← wantedNumber word
    return false
  | "-h" | "-L" => .ok (match tree.find (spelled word) false with
    | .ok ⟨.link _, _, _⟩ => true
    | _ => false)
  | _ => .ok (match tree.find (spelled word) with
    | .ok node => nodeAnswer question node
    | .error _ => false)

/-- Whether a word is a question that the words behind it leave as one. -/
def isQuestion (word : Octets) (behind : List Octets) : Bool :=
  questions.contains (spelled word) && match behind with
    | [] => false
    | [_] => true
    | next :: _ => (comparisons.lookup (spelled next)).isNone

mutual

/-- Reads conditions joined by `-o`. -/
def anyOf (tree : Files.Tree) : Nat → List Octets → Except Octets (Bool × List Octets)
  | 0, words => .ok (false, words)
  | fuel + 1, words => do
    let (first, rest) ← allOf tree fuel words
    match rest with
    | ['-', 'o'] :: rest =>
      let (second, rest) ← anyOf tree fuel rest
      return (first || second, rest)
    | _ => return (first, rest)

/-- Reads conditions joined by `-a`. -/
def allOf (tree : Files.Tree) : Nat → List Octets → Except Octets (Bool × List Octets)
  | 0, words => .ok (false, words)
  | fuel + 1, words => do
    let (first, rest) ← single tree fuel words
    match rest with
    | ['-', 'a'] :: rest =>
      let (second, rest) ← allOf tree fuel rest
      return (first && second, rest)
    | _ => return (first, rest)

/-- Reads one condition. -/
def single (tree : Files.Tree) : Nat → List Octets → Except Octets (Bool × List Octets)
  | 0, words => .ok (false, words)
  | _, [] => .ok (false, [])
  | fuel + 1, word :: rest => do
    let comparison := rest.head?.bind fun next => comparisons.lookup (spelled next)
    if word = ['!'] && rest ≠ [] && comparison.isNone then
      let (value, rest) ← single tree fuel rest
      return (!value, rest)
    else if word = ['('] && rest ≠ [] && comparison.isNone then
      let (value, rest) ← anyOf tree fuel rest
      match rest with
      | [')'] :: rest => return (value, rest)
      | _ => throw (octets "closing paren expected")
    else if isQuestion word rest then
      match rest with
      | subject :: rest => return (← answer tree (spelled word) subject, rest)
      | [] => return (true, [])
    else match comparison, rest with
      | some comparison, _ :: right :: rest => return (← comparison.holds tree word right, rest)
      | some _, name :: [] => throw (name ++ octets ": argument expected")
      | _, _ => return (word ≠ [], rest)

end

/-- Whether the words of a condition are true, or the complaint about them. -/
def holds (tree : Files.Tree) (words : List Octets) : Except Octets Bool := do
  let compared := match words with
    | [left, name, right] =>
      (comparisons.lookup (spelled name)).map fun comparison => comparison.holds tree left right
    | _ => none
  match compared with
  | some result => result
  | none =>
    let (value, rest) ← anyOf tree (4 * words.length + 4) words
    match rest with
    | [] => return value
    | _ :: _ =>
      let used := words.length - rest.length
      throw ((words[used - 1]?).getD [] ++ octets ": unexpected operator")

end Workyard.Shell
