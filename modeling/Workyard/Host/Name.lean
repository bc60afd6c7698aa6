/-
**Host names in all letters.**

A name is made of labels between dots. It is folded and composed, and labels that are spelled in ASCII
are decoded; then each label must be one that can be read in one way only, made of characters that are
left as they are.

* `settled?`: the settled form of a name, if it is a host name.
-/

import Workyard.Host.Folding
import Workyard.Host.Numeric
import Workyard.Host.Punycode
import Workyard.Text.Direction
import Workyard.Text.Joining

namespace Workyard.Host.Name

/-- The characters of ASCII that no host name has, besides controls. -/
def forbidden : List Char :=
  [' ', '#', '/', ':', '<', '>', '?', '@', '[', '\\', ']', '^', '|', '%', '\x7f']

/-- Whether a character can stand in a host name as far as ASCII is concerned. -/
def isAllowed (c : Char) : Bool := 0x20 ≤ c.toNat && !forbidden.contains c

/-- Whether a character is one of ASCII. -/
def isAscii (c : Char) : Bool := c.toNat < 0x80

/-- The greatest length of a label with characters beyond ASCII. -/
def maxLabel : Nat := 1000

/-- The greatest length of the spelling of a label. -/
def maxSpelling : Nat := 2000

/-- What stands in front of the spelling of a label in ASCII. -/
def spellingMark : List Char := ['x', 'n', '-', '-']

/-- Whether a label starts and is joined as it should, and is not too long. -/
def isSound (label : List Char) : Bool :=
  !label.head?.any Text.isMark && Text.joinersFit label &&
    (label.all isAscii || label.length ≤ maxLabel)

/-- The label that is spelled. It must be one that is left as it is. -/
def respelled? (spelling : List Char) : Option (List Char) := do
  if spelling.getLast? = some '-' || maxSpelling < spelling.length then none
  else
    let label ← Punycode.decode spelling
    if label.isEmpty || !label.all Folding.isSettled || Text.Canonical.composed label ≠ label then none
    else some label

/-- The label that is meant. -/
def label? (label : List Char) : Option (List Char) := do
  let meant ← if spellingMark.isPrefixOf label then respelled? (label.drop spellingMark.length)
    else some label
  if meant.all isAllowed && isSound meant then some meant else none

/-- The settled form of a name. -/
def settled? (name : List Char) : Option (List Char) := do
  let folded ← Folding.fold name
  let labels ← (Text.split '.' (Text.Canonical.composed folded)).mapM label?
  if labels.any Text.isRightToLeft && !labels.all Text.isOrderly then none
  else some (['.'].intercalate labels)

end Workyard.Host.Name
