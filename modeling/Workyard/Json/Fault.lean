/-
**What can be wrong with a JSON text.**

A fault names the first thing that is wrong, reading from left to right, and where: lines count
from one, columns count the octets read on the line. Faults fall into three classes: the text ends
too early, it breaks the grammar, or it is JSON of another shape than the one wanted.
-/

namespace Workyard.Json

/-- The first thing wrong with a text. -/
inductive FaultKind where
  | endInValue
  | endInString
  | endInList
  | endInObject
  | expectedWord
  | expectedValue
  | expectedColon
  | expectedListEnd
  | expectedObjectEnd
  | trailingComma
  | trailingCharacters
  | keyNotString
  | controlCharacter
  | invalidEscape
  | loneSurrogate
  | brokenSurrogatePair
  | invalidNumber
  | numberOutOfRange
  | nestedTooDeep
  | otherShape
  /-- A value of this kind stands where the text of one was wanted. -/
  | notText (found : String)
deriving DecidableEq, Repr

/-- The three classes of faults. -/
inductive Category where
  | incomplete
  | grammar
  | shape
deriving DecidableEq, Repr

/-- The class of a fault. -/
def FaultKind.category : FaultKind → Category
  | .endInValue | .endInString | .endInList | .endInObject => .incomplete
  | .otherShape | .notText _ => .shape
  | _ => .grammar

/-- The words for a fault, without its place. -/
def FaultKind.words : FaultKind → String
  | .endInValue => "EOF while parsing a value"
  | .endInString => "EOF while parsing a string"
  | .endInList => "EOF while parsing a list"
  | .endInObject => "EOF while parsing an object"
  | .expectedWord => "expected ident"
  | .expectedValue => "expected value"
  | .expectedColon => "expected `:`"
  | .expectedListEnd => "expected `,` or `]`"
  | .expectedObjectEnd => "expected `,` or `\x7d`"
  | .trailingComma => "trailing comma"
  | .trailingCharacters => "trailing characters"
  | .keyNotString => "key must be a string"
  | .controlCharacter => "control character (\\u0000-\\u001F) found while parsing a string"
  | .invalidEscape => "invalid escape"
  | .loneSurrogate => "lone leading surrogate in hex escape"
  | .brokenSurrogatePair => "unexpected end of hex escape"
  | .invalidNumber => "invalid number"
  | .numberOutOfRange => "number out of range"
  | .nestedTooDeep => "recursion limit exceeded"
  | .otherShape => "unexpected shape"
  | .notText found => s!"invalid type: {found}, expected raw value"

/-- A fault and its place. -/
structure Fault where
  kind : FaultKind
  line : Nat
  column : Nat
deriving DecidableEq, Repr

/-- The class of a fault. -/
def Fault.category (fault : Fault) : Category := fault.kind.category

/-- The words for a fault with its place. -/
def Fault.message (fault : Fault) : String :=
  s!"{fault.kind.words} at line {fault.line} column {fault.column}"

end Workyard.Json
