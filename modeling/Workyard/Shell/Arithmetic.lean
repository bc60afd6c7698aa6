/-
**Arithmetic of signed numbers of sixty-four bits.**

An expression has numbers, variables, the usual operators with their usual ranks, and assignments. What
is not reached by `&&`, `||` or a choice changes nothing.

* `Arithmetic.parse`: an expression from its text;
* `Arithmetic.evaluate`: its value, and the variables as it leaves them.
-/

import Workyard.Shell.Octets

namespace Workyard.Shell

namespace Arithmetic

/-- An operator between two values. -/
inductive Binary where
  | times | quotient | modulo | plus | minus | shiftLeft | shiftRight
  | less | lessEqual | greater | greaterEqual | equal | unequal
  | bitAnd | bitXor | bitOr
deriving DecidableEq, Repr

/-- The operators with their symbols and ranks; the higher binds tighter. -/
def binaries : List (String × Binary × Nat) :=
  [("<<", .shiftLeft, 8), (">>", .shiftRight, 8), ("<=", .lessEqual, 7), (">=", .greaterEqual, 7),
    ("==", .equal, 6), ("!=", .unequal, 6), ("*", .times, 10), ("/", .quotient, 10), ("%", .modulo, 10),
    ("+", .plus, 9), ("-", .minus, 9), ("<", .less, 7), (">", .greater, 7), ("&", .bitAnd, 5),
    ("^", .bitXor, 4), ("|", .bitOr, 3)]

/-- An operator in front of a value. -/
inductive Unary where
  | not
  | complement
  | negate
  | keep
deriving DecidableEq, Repr

/-- An expression. -/
inductive Expression where
  | number (value : Int)
  | named (name : String)
  | unary (operator : Unary) (operand : Expression)
  | binary (operator : Binary) (left right : Expression)
  | both (left right : Expression)
  | either (left right : Expression)
  | choice (condition yes no : Expression)
  | assign (name : String) (value : Expression)
deriving Repr

/-- Why an expression has no value. -/
inductive Fault where
  | expectingPrimary
  | expectingEnd
  | expectingColon
  | expectingParenthesis
  | divisionByZero
  /-- A variable holds a text that is no number. -/
  | illegalNumber (text : List Char)
deriving DecidableEq, Repr

/-- Reading of an expression. -/
abbrev Read := StateT (List Char) (Except Fault)

/-- The symbols of operators, longer ones before those they start with. -/
def symbols : List String :=
  ["<<=", ">>=", "<<", ">>", "<=", ">=", "==", "!=", "&&", "||", "+=", "-=", "*=", "/=", "%=", "&=",
    "^=", "|=", "=", "+", "-", "*", "/", "%", "&", "^", "|", "!", "~", "<", ">", "?", ":", "(", ")"]

/-- The operator ahead, blanks being dropped. -/
def symbol? : Read (Option String) := do
  modify (·.dropWhile isSpace)
  let text ← get
  return symbols.find? fun symbol => symbol.toList.isPrefixOf text

/-- Uses an operator. -/
def use (symbol : String) : Read Unit := modify (·.drop symbol.length)

/-- Uses an operator that must stand here. -/
def expect (symbol : String) (fault : Fault) : Read Unit := do
  if (← symbol?) = some symbol then use symbol else throw fault

/-- Uses the name ahead if there is one. -/
def name? : Read (Option String) := do
  modify (·.dropWhile isSpace)
  let text ← get
  if text.head?.any isNameStart then
    let name := text.takeWhile isNameChar
    set (text.drop name.length)
    return some (String.ofList name)
  else return none

mutual

/-- Reads an assignment or a choice. -/
def assignment : Nat → Read Expression
  | 0 => throw .expectingPrimary
  | fuel + 1 => do
    let start ← get
    match ← name? with
    | some name => match ← symbol? with
      | some "=" =>
        use "="
        return .assign name (← assignment fuel)
      | some symbol =>
        match binaries.find? fun entry => entry.1 ++ "=" = symbol with
        | some (_, operator, _) =>
          if [Binary.lessEqual, .greaterEqual, .equal, .unequal].contains operator || symbol = "<="
              || symbol = ">=" then
            set start
            choice fuel
          else
            use symbol
            return .assign name (.binary operator (.named name) (← assignment fuel))
        | none =>
          set start
          choice fuel
      | none =>
        set start
        choice fuel
    | none => choice fuel

/-- Reads a choice or what binds tighter. -/
def choice : Nat → Read Expression
  | 0 => throw .expectingPrimary
  | fuel + 1 => do
    let condition ← disjunction fuel
    if (← symbol?) = some "?" then
      use "?"
      let yes ← assignment fuel
      expect ":" .expectingColon
      return .choice condition yes (← choice fuel)
    else return condition

/-- Reads operands of `||`. -/
def disjunction : Nat → Read Expression
  | 0 => throw .expectingPrimary
  | fuel + 1 => do
    let left ← conjunction fuel
    if (← symbol?) = some "||" then
      use "||"
      return .either left (← disjunction fuel)
    else return left

/-- Reads operands of `&&`. -/
def conjunction : Nat → Read Expression
  | 0 => throw .expectingPrimary
  | fuel + 1 => do
    let left ← operandsFrom fuel 0 (← primary fuel)
    if (← symbol?) = some "&&" then
      use "&&"
      return .both left (← conjunction fuel)
    else return left

/-- Reads on behind an operand, as long as operators bind at least so tight. -/
def operandsFrom : Nat → Nat → Expression → Read Expression
  | 0, _, left => return left
  | fuel + 1, rank, left => do
    match ← symbol? with
    | none => return left
    | some symbol => match binaries.find? (·.1 = symbol) with
      | none => return left
      | some (_, operator, own) =>
        if own < rank then return left
        else
          use symbol
          let right ← operandsFrom fuel (own + 1) (← primary fuel)
          operandsFrom fuel rank (.binary operator left right)

/-- Reads an operand. -/
def primary : Nat → Read Expression
  | 0 => throw .expectingPrimary
  | fuel + 1 => do
    match ← symbol? with
    | some "(" =>
      use "("
      let inside ← assignment fuel
      expect ")" .expectingParenthesis
      return inside
    | some "!" => use "!"; return .unary .not (← primary fuel)
    | some "~" => use "~"; return .unary .complement (← primary fuel)
    | some "-" => use "-"; return .unary .negate (← primary fuel)
    | some "+" => use "+"; return .unary .keep (← primary fuel)
    | some _ => throw .expectingPrimary
    | none => match ← name? with
      | some name => return .named name
      | none => match numberFront (← get) with
        | some (value, rest) =>
          set rest
          return .number (min (value : Int) greatest)
        | none => throw .expectingPrimary

end

/-- The expression of a text. -/
def parse (text : List Char) : Except Fault Expression := do
  let (expression, rest) ← (assignment (8 * text.length + 8)).run text
  if rest.all isSpace then return expression else throw .expectingEnd

/-- Variables and their texts, the newest first. -/
abbrev Variables := List (String × List Char)

/-- Evaluation of an expression. -/
abbrev Evaluate := StateT Variables (Except Fault)

/-- One for true and zero for false. -/
def truth (condition : Bool) : Int := if condition then 1 else 0

/-- The bits of a number of sixty-four bits. -/
def bits (value : Int) : Nat := (Int.emod value (Int.pow 2 64)).toNat

/-- What an operator makes of two values. -/
def Binary.apply (operator : Binary) (left right : Int) : Except Fault Int :=
  let amount := bits right % 64
  match operator with
  | .times => .ok (wrapped (left * right))
  | .quotient => if right = 0 then .error .divisionByZero else .ok (wrapped (left.tdiv right))
  | .modulo => if right = 0 then .error .divisionByZero else .ok (left.tmod right)
  | .plus => .ok (wrapped (left + right))
  | .minus => .ok (wrapped (left - right))
  | .shiftLeft => .ok (wrapped (left * Int.pow 2 amount))
  | .shiftRight => .ok (left.fdiv (Int.pow 2 amount))
  | .less => .ok (truth (left < right))
  | .lessEqual => .ok (truth (left ≤ right))
  | .greater => .ok (truth (right < left))
  | .greaterEqual => .ok (truth (right ≤ left))
  | .equal => .ok (truth (left = right))
  | .unequal => .ok (truth (left ≠ right))
  | .bitAnd => .ok (wrapped (bits left &&& bits right : Nat))
  | .bitXor => .ok (wrapped (bits left ^^^ bits right : Nat))
  | .bitOr => .ok (wrapped (bits left ||| bits right : Nat))

/-- The value of an expression. -/
def Expression.value : Expression → Evaluate Int
  | .number value => return value
  | .named name => do
    let text := ((← get).lookup name).getD []
    match numberOf text with
    | some value => return value
    | none => throw (.illegalNumber text)
  | .unary operator operand => do
    let value ← operand.value
    return match operator with
      | .not => truth (value = 0)
      | .complement => -value - 1
      | .negate => wrapped (-value)
      | .keep => value
  | .binary operator left right => do
    let left ← left.value
    let right ← right.value
    operator.apply left right
  | .both left right => do
    if (← left.value) = 0 then return 0 else return truth ((← right.value) ≠ 0)
  | .either left right => do
    if (← left.value) ≠ 0 then return 1 else return truth ((← right.value) ≠ 0)
  | .choice condition yes no => do
    if (← condition.value) ≠ 0 then yes.value else no.value
  | .assign name value => do
    let value ← value.value
    modify fun bindings => (name, (toString value).toList) :: bindings
    return value

/-- The value of a text, and the variables as it leaves them. -/
def evaluate (bindings : Variables) (text : List Char) : Except Fault (Int × Variables) := do
  (← parse text).value.run bindings

/-- The words for a fault in a text. -/
def Fault.message (fault : Fault) (text : List Char) : List Char :=
  let quote (words : String) := s!"arithmetic expression: {words}: \"".toList ++ text ++ ['"']
  match fault with
  | .expectingPrimary => quote "expecting primary"
  | .expectingEnd => quote "expecting EOF"
  | .expectingColon => quote "expecting ':'"
  | .expectingParenthesis => quote "expecting ')'"
  | .divisionByZero => quote "division by zero"
  | .illegalNumber text => "Illegal number: ".toList ++ text

end Arithmetic

end Workyard.Shell
