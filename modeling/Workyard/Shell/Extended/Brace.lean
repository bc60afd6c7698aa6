/-
**Words with alternatives.**

A word in which braces hold pieces between commas, or the ends of a sequence, stands for several words, one
for each choice. Braces that hold neither are letters like others.

* `alternatives`: the words that a word stands for.
-/

import Workyard.Shell.Octets
import Workyard.Shell.Syntax

namespace Workyard.Shell.Extended

/-- A piece of a word: a letter that may act, or a part that cannot. -/
inductive Atom where
  | letter (c : Char)
  | solid (part : Part)

namespace Atom

/-- The atoms of a word. -/
def ofWord (word : Word) : List Atom :=
  word.flatMap fun part => match part with
    | .plain text => text.map .letter
    | part => [.solid part]

/-- The word of atoms. -/
def toWord : List Atom → Word
  | [] => []
  | .solid part :: rest => part :: toWord rest
  | .letter c :: rest => match toWord rest with
    | .plain text :: more => .plain (c :: text) :: more
    | more => .plain [c] :: more

/-- Whether an atom is a certain letter. -/
def is (c : Char) : Atom → Bool
  | .letter d => c = d
  | .solid _ => false

/-- The letter of an atom. -/
def letter? : Atom → Option Char
  | .letter c => some c
  | .solid _ => none

end Atom

/-- The number of atoms in front of the brace that closes what is open; only one behind a comma or behind
two points does. -/
def closingPlace (separated : Bool) (level count : Nat) : List Atom → Option Nat
  | [] => none
  | atom :: rest =>
    if atom.is '\x7d' && level = 0 && separated then some count
    else
      let pointed : Bool := atom.is '.' && rest.head?.any (Atom.is '.') &&
        !(rest.drop 1).head?.any (Atom.is '\x7d')
      let separated := separated || (level = 0 && (atom.is ',' || pointed))
      let level := if atom.is '\x7b' then level + 1
        else if atom.is '\x7d' then level - 1 else level
      closingPlace separated level (count + 1) rest

/-- What stands in front of the first braces that hold alternatives, in them, and behind them. -/
def splitBraces (before : List Atom) : List Atom → Option (List Atom × List Atom × List Atom)
  | [] => none
  | atom :: rest =>
    let lonely : Bool := before.isEmpty && rest.head?.any (Atom.is '\x7d')
    if atom.is '\x7b' && !lonely then match closingPlace false 0 0 rest with
      | some count => some (before.reverse, rest.take count, rest.drop (count + 1))
      | none => splitBraces (atom :: before) rest
    else splitBraces (atom :: before) rest

/-- The pieces between the commas that stand in no further braces. -/
def commaPieces (level : Nat) (piece : List Atom) : List Atom → List (List Atom)
  | [] => [piece.reverse]
  | atom :: rest =>
    if atom.is ',' && level = 0 then piece.reverse :: commaPieces 0 [] rest
    else
      let level := if atom.is '\x7b' then level + 1
        else if atom.is '\x7d' then level - 1 else level
      commaPieces level (atom :: piece) rest

/-- The steps of a sequence between two numbers. -/
def stepsBetween (first last step : Int) : List Int :=
  let step : Int := if step = 0 then 1 else step.natAbs
  let count := ((last - first).natAbs : Int) / step
  (List.range (count.toNat + 1)).map fun (index : Nat) =>
    if first ≤ last then first + step * (index : Int) else first - step * (index : Int)

/-- A number in at least so many characters, zeros being put behind its sign. -/
def padded (width : Nat) (value : Int) : Octets :=
  let digits := (toString value.natAbs).toList
  let sign := if value < 0 then ['-'] else []
  sign ++ List.replicate (width - sign.length - digits.length) '0' ++ digits

/-- The members of the sequence that a text in braces stands for. -/
def sequence? (text : Octets) : Option (List Octets) :=
  let pieces := (spelled text).splitOn ".."
  let step? : Option Int := match pieces with
    | [_, _] => some 1
    | [_, _, step] => signed? (octets step)
    | _ => none
  match pieces, step? with
  | first :: last :: _, some step =>
    let firstText := octets first
    let lastText := octets last
    match signed? firstText, signed? lastText with
    | some first, some last =>
      let isPadded (text : Octets) : Bool :=
        (text.head? = some '0' && 1 < text.length) || (text.take 2 = ['-', '0'] && 2 < text.length)
      let width := if isPadded firstText || isPadded lastText then max firstText.length lastText.length else 0
      some ((stepsBetween first last step).map (padded width))
    | none, none => match firstText, lastText with
      | [low], [high] =>
        if low.isAlpha && high.isAlpha then
          some ((stepsBetween low.toNat high.toNat step).map fun value =>
            let c := octetChar value.toNat
            if c = '\\' then [] else [c])
        else none
      | _, _ => none
    | _, _ => none
  | _, _ => none

/-- Every text of one list in front of every text of another. -/
def joinedAlternatives (first second : List (List Atom)) : List (List Atom) :=
  first.flatMap fun one => second.map fun other => one ++ other

/-- The rows of atoms that a row stands for. -/
def expandBraces : Nat → List Atom → List (List Atom)
  | 0, atoms => [atoms]
  | fuel + 1, atoms =>
    match splitBraces [] atoms with
    | none => [atoms]
    | some (before, inside, behind) =>
      let pieces := commaPieces 0 [] inside
      let chosen : List (List Atom) :=
        if pieces.length = 1 then
          match (inside.mapM Atom.letter?).bind sequence? with
          | some values => values.map fun text => text.map .letter
          | none => [.letter '\x7b' :: inside ++ [.letter '\x7d']]
        else pieces.flatMap (expandBraces fuel)
      joinedAlternatives (chosen.map (before ++ ·))
        (if behind.isEmpty then [[]] else expandBraces fuel behind)

/-- The words that a word stands for. -/
def alternatives (word : Word) : List Word :=
  let atoms := Atom.ofWord word
  if atoms.any (Atom.is '\x7b') then (expandBraces (atoms.length + 1) atoms).map Atom.toWord else [word]

end Workyard.Shell.Extended
