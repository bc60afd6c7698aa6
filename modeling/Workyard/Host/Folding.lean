/-
**Folding of host names.**

Names that differ only in case, width or style are the same host. A name is folded by replacing such
characters by common ones and leaving out invisible ones; some characters make a name invalid.

* `fold`: the folded form of a name, if it has one;
* `isSettled`: whether a character is left as it is.
-/

import Workyard.Host.FoldingData
import Workyard.Text.Packed

namespace Workyard.Host.Folding

open Text (Entry Ranges Sorted hexValue runs)

/-- The characters that no host name has. -/
def refused : Ranges := .ofText refusedData

/-- The characters that are left out. -/
def dropped : Ranges := .ofText droppedData

/-- The numbers between plus signs. -/
def sums (run : List Char) : List Nat :=
  let (found, last) := run.foldr (fun c (state : List (List Char) × List Char) =>
    if c = '+' then (state.2 :: state.1, []) else (state.1, c :: state.2)) ([], [])
  (last :: found).map hexValue

/-- What runs say from a character on. -/
def foldEntries (next : Nat) : List (List Char) → List (Entry (List Nat))
  | [] => []
  | run :: rest =>
    if run.getLast? = some ':' then foldEntries (hexValue run.dropLast) rest
    else
      let target := run.takeWhile (· ≠ '*')
      let count := run.drop (target.length + 1)
      let last := if count.isEmpty then next else next + hexValue count - 1
      ⟨next, last, sums target⟩ :: foldEntries (last + 1) rest

/-- What characters are replaced by; characters in a row are replaced by characters in a row. -/
def replacements : Sorted (List Nat) := (foldEntries 0 (runs foldData.toList)).toArray

/-- What a character is replaced by, if it is. -/
def replacement? (c : Char) : Option (List Char) :=
  (replacements.find? c.toNat).map fun entry =>
    entry.value.map fun number => Char.ofNat (number + (c.toNat - entry.first))

/-- Whether a character is left as it is. -/
def isSettled (c : Char) : Bool :=
  !refused.covers c.toNat && !dropped.covers c.toNat && (replacement? c).isNone

/-- The folded form of a name. -/
def fold (name : List Char) : Option (List Char) :=
  if name.any fun c => refused.covers c.toNat then none
  else some (name.flatMap fun c => if dropped.covers c.toNat then [] else (replacement? c).getD [c])

end Workyard.Host.Folding
