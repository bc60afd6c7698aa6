/-
**Directions of writing.**

Each character has a class for the direction in which it is written. A label of a name in which
anything is written from right to left must not leave open how it is to be read: what it may start and
end with and what may stand between depends on the direction of its first letter.

* `isRightToLeft`: whether a text brings a direction from right to left;
* `isOrderly`: whether a label can be read in one way only.
-/

import Workyard.Text.DirectionData
import Workyard.Text.Packed

namespace Workyard.Text

/-- The class of a character for the direction of writing. -/
inductive Direction where
  | leftToRight
  | rightToLeft
  | arabicLetter
  | arabicNumber
  | europeanNumber
  | europeanSeparator
  | commonSeparator
  | europeanTerminator
  | nonspacing
  | boundaryNeutral
  | otherNeutral
deriving DecidableEq, Repr

namespace Direction

/-- The sets of all classes but that of letters from left to right. -/
def sets : List (Ranges × Direction) :=
  [(.ofText nonspacingData, .nonspacing), (.ofText otherNeutralData, .otherNeutral),
    (.ofText rightToLeftData, .rightToLeft), (.ofText arabicLetterData, .arabicLetter),
    (.ofText arabicNumberData, .arabicNumber), (.ofText europeanNumberData, .europeanNumber),
    (.ofText europeanSeparatorData, .europeanSeparator),
    (.ofText commonSeparatorData, .commonSeparator),
    (.ofText europeanTerminatorData, .europeanTerminator),
    (.ofText boundaryNeutralData, .boundaryNeutral)]

/-- The class of a character. -/
def of (c : Char) : Direction :=
  ((sets.find? fun set => set.1.covers c.toNat).map (·.2)).getD .leftToRight

/-- Whether a class brings a direction from right to left. -/
def isBackward (direction : Direction) : Bool :=
  [rightToLeft, arabicLetter, arabicNumber].contains direction

/-- Whether a class can stand in a label of either direction. -/
def isNeutral (direction : Direction) : Bool :=
  [europeanNumber, europeanSeparator, commonSeparator, europeanTerminator, otherNeutral,
    boundaryNeutral, nonspacing].contains direction

end Direction

/-- Whether anything in a text is written from right to left. -/
def isRightToLeft (text : List Char) : Bool := text.any fun c => (Direction.of c).isBackward

/-- Whether a label in which directions may be mixed can be read in one way only. -/
def isOrderly (label : List Char) : Bool :=
  let classes := label.map Direction.of
  let core := (classes.reverse.dropWhile (· = .nonspacing)).reverse
  match classes.head?, core.getLast? with
  | some .leftToRight, some last =>
    core.all (fun direction => direction = .leftToRight || direction.isNeutral) &&
      [Direction.leftToRight, .europeanNumber].contains last
  | some first, some last =>
    [Direction.rightToLeft, .arabicLetter].contains first &&
      core.all (fun direction => direction.isBackward || direction.isNeutral) &&
      (last.isBackward || last = .europeanNumber) &&
      !(core.contains .arabicNumber && core.contains .europeanNumber)
  | none, _ => true
  | _, none => false

end Workyard.Text
