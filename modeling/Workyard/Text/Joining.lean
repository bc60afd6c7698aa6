/-
**Marks and joiners.**

A mark combines with the character in front of it. A joiner is an invisible character that changes how
the letters around it are joined; it makes sense only behind a sign that suppresses a vowel or, for the
one that separates, between letters that would join.

* `isMark`: whether a character is a mark;
* `joinersFit`: whether each joiner of a text makes sense.
-/

import Workyard.Text.Canonical
import Workyard.Text.JoiningData

namespace Workyard.Text

namespace Joining

/-- The characters that combine with the one in front of them. -/
def marks : Ranges := .ofText markData

/-- The letters that join to what is on their left. -/
def leftJoining : Ranges := .ofText leftData

/-- The letters that join to what is on their right. -/
def rightJoining : Ranges := .ofText rightData

/-- The letters that join on both sides. -/
def dualJoining : Ranges := .ofText dualData

/-- The characters that joining passes over. -/
def transparent : Ranges := .ofText transparentData

/-- The combining class of signs that suppress a vowel. -/
def vowelSuppressing : Nat := 9

/-- The joiner that separates. -/
def separating : Char := '\u200c'

/-- The joiner that connects. -/
def connecting : Char := '\u200d'

/-- Whether the next character that joining does not pass over joins on one side. -/
def meets (oneSide : Ranges) (text : List Char) : Bool :=
  match text.dropWhile fun c => transparent.covers c.toNat with
  | c :: _ => oneSide.covers c.toNat || dualJoining.covers c.toNat
  | [] => false

/-- Whether each joiner of a text makes sense; what is in front of the text comes in reverse. -/
def fit (before : List Char) : List Char → Bool
  | [] => true
  | c :: rest =>
    let suppressed : Bool := before.head?.any fun sign =>
      Canonical.combiningClass sign = vowelSuppressing
    let fine : Bool :=
      if c = connecting then suppressed
      else if c = separating then
        suppressed || (meets leftJoining before && meets rightJoining rest)
      else true
    fine && fit (c :: before) rest

end Joining

/-- Whether a character is a mark. -/
def isMark (c : Char) : Bool := Joining.marks.covers c.toNat

/-- Whether each joiner of a text makes sense. -/
def joinersFit (text : List Char) : Bool := Joining.fit [] text

end Workyard.Text
