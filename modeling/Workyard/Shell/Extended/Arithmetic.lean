/-
**Arithmetic of the extended language.**

An expression is evaluated as it is read, so that the first thing that is wrong with it is what is
complained about. A name stands for the value of its variable, which is an expression itself; a part that
cannot count any more is read but changes nothing.

* `evaluate`: the value of a text.
-/

import Workyard.Shell.Arithmetic
import Workyard.Shell.Binding

namespace Workyard.Shell.Extended

/-- A token of an expression. -/
inductive Symbol where
  | finish
  | number
  | name
  | sign (text : String)
  /-- An operator that also assigns. -/
  | assigns (operator : String)
  /-- Adds or takes one away in front of a name. -/
  | step (up : Bool)
deriving DecidableEq, Repr

/-- How far an expression has been read. -/
structure Reader where
  /-- All of it. -/
  text : Octets
  rest : Octets
  /-- The text from the token at hand on. -/
  start : Octets := []
  current : Symbol := .finish
  last : Symbol := .finish
  value : Int := 0
  name : String := ""
  /-- The text between the brackets behind the name. -/
  key : Option Octets := none
  /-- The number of reasons for which nothing is changed. -/
  idle : Nat := 0
  /-- The number of variables whose values are being evaluated. -/
  depth : Nat := 0

/-- Evaluation of an expression. -/
abbrev Sum := StateT Reader Act

namespace Sum

/-- Does something that the shell can do. -/
def lift {α : Type} (part : Act α) : Sum α := fun reader => do return (← part, reader)

/-- Complains about an expression and stops. -/
def wrong {α : Type} (words : String) : Sum α := do
  let reader ← get
  lift (refuse (reader.text.dropWhile isSpace ++ octets s!": {words} (error token is \"" ++ reader.start ++
    ['"', ')']))

/-- The signs of operators, longer ones before those they start with. -/
def operators : List String :=
  ["<<=", ">>=", "==", "!=", ">=", "<=", "<<", ">>", "&&", "||", "**", "*=", "/=", "%=", "+=", "-=",
    "&=", "^=", "|=", "=", ">", "<", "+", "-", "*", "/", "%", "!", "(", ")", "&", "|", "^", "~", "?", ":",
    ","]

/-- The value of the text of a number. -/
def constant (text : Octets) : Sum Int := do
  let (base, digits, based) := match text with
    | '0' :: 'x' :: rest => (16, rest, true)
    | '0' :: 'X' :: rest => (16, rest, true)
    | '0' :: rest => (8, rest, true)
    | _ => (10, text, false)
  let front := digits.takeWhile (· ≠ '#')
  if front.length < digits.length then
    if based then wrong "invalid number"
    let value ← read 10 front
    if value < 2 || 64 < value then wrong "invalid arithmetic base"
    if digits.length = front.length + 1 then wrong "invalid integer constant"
    return wrapped (← read value.toNat (digits.drop (front.length + 1)))
  else return wrapped (← read base digits)
where
  /-- The value of digits in a base. -/
  read (base : Nat) (digits : Octets) : Sum Int := do
    let mut value : Int := 0
    for c in digits do
      let digit := if c.isDigit then c.toNat - 48
        else if 'a' ≤ c && c ≤ 'z' then c.toNat - 87
        else if 'A' ≤ c && c ≤ 'Z' then c.toNat - (if base ≤ 36 then 55 else 29)
        else if c = '@' then 62 else if c = '_' then 63 else 64
      if base ≤ digit then wrong "value too great for base"
      value := value * base + digit
    return value

/-- The length of a text between brackets behind the first one, with the one that closes it; none if there is
none. -/
def bracketLength : Nat → Nat → Octets → Option Nat
  | _, _, [] => none
  | depth, count, ']' :: rest => if depth = 0 then some count else bracketLength (depth - 1) (count + 1) rest
  | depth, count, '[' :: rest => bracketLength (depth + 1) (count + 1) rest
  | depth, count, _ :: rest => bracketLength depth (count + 1) rest

/-- Keeps a new token. -/
def became (symbol : Symbol) (rest : Octets) : Sum Unit :=
  modify fun reader => { reader with last := reader.current, current := symbol, rest }

/-- Whether a symbol may stand in front of a value. -/
def awaitsValue (symbol : Symbol) : Bool := symbol ≠ .number && symbol ≠ .name

/-- What an operator makes of two values. -/
def combine (operator : String) (left right : Int) : Sum Int := do
  match operator with
  | "**" =>
    if right < 0 then wrong "exponent less than 0"
    else
      let rec power : Nat → Int → Nat → Int → Int
        | 0, _, _, read => read
        | fuel + 1, base, count, read =>
          if count = 0 then read
          else power fuel (wrapped (base * base)) (count / 2)
            (if count % 2 = 1 then wrapped (read * base) else read)
      return power 64 left right.toNat 1
  | _ =>
    match Arithmetic.binaries.find? (·.1 = operator) with
    | some (_, binary, _) => match binary.apply left right with
      | .ok value => return value
      | .error _ => wrong "division by 0"
    | none => return left

/-- The operators of each rank but the first two, the one that binds loosest in front. -/
def ranks : List (List String) :=
  [["|"], ["^"], ["&"], ["==", "!="], ["<=", ">=", "<", ">"], ["<<", ">>"], ["+", "-"], ["*", "/", "%"]]

/-- Whether the token at hand is a sign. -/
def isSign (text : String) : Sum Bool := do return (← get).current = .sign text

/-- Does a part of the work, which changes nothing if that is wanted. -/
def idly {α : Type} (idle : Bool) (part : Sum α) : Sum α := do
  if idle then
    modify fun reader => { reader with idle := reader.idle + 1 }
    let value ← part
    modify fun reader => { reader with idle := reader.idle - 1 }
    return value
  else part

/-- Gives a variable a value, where that counts. -/
def assign (evaluateKey : Octets → Act Octets) (name : String) (key : Option Octets) (value : Int) :
    Sum Unit := do
  if (← get).idle = 0 then
    let text := (toString value).toList
    match key with
    | none => lift (keep name text)
    | some key => lift do keepMember name (← evaluateKey key) text

mutual

/-- The value of a text, by way of so many variables. -/
def evaluateFrom : Nat → Nat → Octets → Act Int
  | 0, _, _ => return 0
  | fuel + 1, depth, text => do
    if text.all isSpace then return 0
    else
      let work : Sum Int := do
        token fuel
        let value ← commas fuel
        if (← get).current ≠ .finish then wrong "syntax error in expression"
        return value
      return (← work.run { text, rest := text, depth }).1

/-- The key of a member that a text between brackets means. -/
def keyFrom : Nat → Nat → String → Octets → Act Octets
  | 0, _, _, key => return key
  | fuel + 1, depth, name, key => do
    match (← get).found name with
    | some held =>
      if held.shape = .table then return key
      else
        let index ← evaluateFrom fuel depth key
        let index := if index < 0 then index + held.behind else index
        if index < 0 then refuse (octets s!"{name}[" ++ key ++ octets "]: bad array subscript")
        else return decimal index.toNat
    | none =>
      let index ← evaluateFrom fuel depth key
      if index < 0 then refuse (octets s!"{name}[" ++ key ++ octets "]: bad array subscript")
      else return decimal index.toNat

/-- The value of the variable at hand. -/
def variableValue : Nat → Sum Int
  | 0 => return 0
  | fuel + 1 => do
    let reader ← get
    if reader.idle ≠ 0 then return 0
    else
      let text ← lift do
        match reader.key with
        | none =>
          let text := (← State.value <$> MonadStateOf.get) reader.name
          if text.isNone then checkSet reader.name
          return text.getD []
        | some key =>
          let key ← keyFrom fuel reader.depth reader.name key
          return (((← MonadStateOf.get : State).found reader.name).bind (·.entries.lookup key)).getD []
      if 1023 < reader.depth then wrong "expression recursion level exceeded"
      lift (evaluateFrom fuel (reader.depth + 1) text)

/-- Reads the next token. -/
def token : Nat → Sum Unit
  | 0 => return
  | fuel + 1 => do
    modify fun reader => { reader with rest := reader.rest.dropWhile isSpace }
    let reader ← get
    let text := reader.rest
    match text with
    | [] => became .finish []
    | c :: behind =>
      modify fun reader => { reader with start := text }
      if isNameStart c then
        let name := text.takeWhile isNameChar
        let rest := text.drop name.length
        let (key, rest) ← match rest with
          | '[' :: inside => match bracketLength 0 0 inside with
            | some count => pure (some (inside.take count), inside.drop (count + 1))
            | none => wrong "bad array subscript"
          | _ => pure (none, rest)
        modify fun reader => { reader with name := String.ofList name, key }
        let ahead := rest.dropWhile isSpace
        let assigned : Bool := ahead.head? = some '=' && (ahead.drop 1).head? ≠ some '='
        let stepped : Bool := match reader.current with
          | .step _ => true
          | _ => false
        let value ← if assigned && !stepped then pure 0 else variableValue fuel
        modify fun reader => { reader with value }
        became .name rest
      else if c.isDigit then
        let digits := text.takeWhile fun c => c.isAlphanum || c = '#' || c = '@' || c = '_'
        let rest := text.drop digits.length
        -- A complaint about a number shows the expression only up to its end.
        modify fun reader => { reader with
          text := reader.text.take (reader.text.length - rest.length), start := digits }
        let value ← constant digits
        modify fun after => { after with value, text := reader.text, start := text }
        became .number rest
      else
        let doubled : Bool := (c = '+' || c = '-') && behind.head? = some c
        if doubled && ((behind.drop 1).dropWhile isSpace).head?.any isNameStart then
          became (.step (c = '+')) (behind.drop 1)
        else match operators.find? fun (sign : String) => sign.toList.isPrefixOf text with
          | none =>
            if awaitsValue reader.current then wrong "syntax error: operand expected"
            else wrong "syntax error: invalid arithmetic operator"
          | some sign =>
            let rest := text.drop sign.length
            let comparing : Bool := ["=", "==", "!=", ">=", "<="].contains sign
            if sign.endsWith "=" && !comparing then
              became (.assigns (String.ofList sign.toList.dropLast)) rest
            else became (.sign sign) rest

/-- Expressions one after another, of which the last counts. -/
def commas : Nat → Sum Int
  | 0 => return 0
  | fuel + 1 => do
    let value ← assignment fuel
    if ← isSign "," then
      token fuel
      commas fuel
    else return value

/-- An assignment or a choice. -/
def assignment : Nat → Sum Int
  | 0 => return 0
  | fuel + 1 => do
    let value ← choice fuel
    let reader ← get
    let assigned (operator : Option String) : Sum Int := do
      if reader.last ≠ .name then wrong "attempted assignment to non-variable"
      token fuel
      let right ← assignment fuel
      let result ← match operator with
        | some operator =>
          if right = 0 && reader.idle ≠ 0 then pure 0 else combine operator value right
        | none => pure right
      assign (keyFrom fuel reader.depth reader.name) reader.name reader.key result
      modify fun reader => { reader with last := .number }
      return result
    match reader.current with
    | .sign "=" => assigned none
    | .assigns operator => assigned (some operator)
    | _ => return value

/-- A choice between two expressions. -/
def choice : Nat → Sum Int
  | 0 => return 0
  | fuel + 1 => do
    let condition ← either fuel
    if ← isSign "?" then
      token fuel
      if (← get).current = .finish || (← isSign ":") then wrong "expression expected"
      let first ← idly (condition = 0) (commas fuel)
      if !(← isSign ":") then wrong "`:' expected for conditional expression"
      let second ← idly (condition ≠ 0) do
        token fuel
        if (← get).current = .finish then wrong "expression expected"
        choice fuel
      modify fun reader => { reader with last := .sign "?" }
      return if condition ≠ 0 then first else second
    else return condition

/-- Expressions of which one must not be zero. -/
def either : Nat → Sum Int
  | 0 => return 0
  | fuel + 1 => do eitherFrom fuel (← both fuel)

/-- Reads on behind a value of which one must not be zero. -/
def eitherFrom : Nat → Int → Sum Int
  | 0, left => return left
  | fuel + 1, left => do
    if ← isSign "||" then
      let right ← idly (left ≠ 0) do
        token fuel
        both fuel
      modify fun reader => { reader with last := .sign "||" }
      eitherFrom fuel (Arithmetic.truth (left ≠ 0 || right ≠ 0))
    else return left

/-- Expressions of which none must be zero. -/
def both : Nat → Sum Int
  | 0 => return 0
  | fuel + 1 => do bothFrom fuel (← binary fuel ranks)

/-- Reads on behind a value of which none must be zero. -/
def bothFrom : Nat → Int → Sum Int
  | 0, left => return left
  | fuel + 1, left => do
    if ← isSign "&&" then
      let right ← idly (left = 0) do
        token fuel
        binary fuel ranks
      modify fun reader => { reader with last := .sign "&&" }
      bothFrom fuel (Arithmetic.truth (left ≠ 0 && right ≠ 0))
    else return left

/-- Values joined by operators of a rank and of those that bind tighter. -/
def binary : Nat → List (List String) → Sum Int
  | 0, _ => return 0
  | fuel + 1, [] => power fuel
  | fuel + 1, rank :: tighter => do binaryFrom fuel rank tighter (← binary fuel tighter)

/-- Reads on behind a value at a rank. -/
def binaryFrom : Nat → List String → List (List String) → Int → Sum Int
  | 0, _, _, left => return left
  | fuel + 1, rank, tighter, left => do
    let reader ← get
    match reader.current with
    | .sign sign =>
      if rank.contains sign then
        let behind := reader.rest.dropWhile isSpace
        token fuel
        let right ← binary fuel tighter
        let divides : Bool := right = 0 && (sign = "/" || sign = "%")
        let value ← if divides && reader.idle ≠ 0 then pure 0
          else do
            if divides then modify fun reader => { reader with start := behind }
            combine sign left right
        modify fun reader => { reader with last := .number }
        binaryFrom fuel rank tighter value
      else return left
    | _ => return left

/-- A power. -/
def power : Nat → Sum Int
  | 0 => return 0
  | fuel + 1 => do
    let base ← unary fuel
    if ← isSign "**" then
      token fuel
      let exponent ← power fuel
      modify fun reader => { reader with last := .number }
      combine "**" base exponent
    else return base

/-- A value with operators in front of it. -/
def unary : Nat → Sum Int
  | 0 => return 0
  | fuel + 1 => do
    let applied (change : Int → Int) : Sum Int := do
      token fuel
      let value ← unary fuel
      modify fun reader => { reader with last := .number }
      return change value
    match (← get).current with
    | .sign "!" => applied fun value => Arithmetic.truth (value = 0)
    | .sign "~" => applied fun value => -value - 1
    | .sign "-" => applied fun value => wrapped (-value)
    | .sign "+" => applied id
    | _ => primary fuel

/-- A number, a variable or an expression in parentheses. -/
def primary : Nat → Sum Int
  | 0 => return 0
  | fuel + 1 => do
    let reader ← get
    match reader.current with
    | .step up =>
      token fuel
      let reader ← get
      if reader.current ≠ .name then wrong "identifier expected after pre-increment or pre-decrement"
      let value := wrapped (reader.value + (if up then 1 else -1))
      assign (keyFrom fuel reader.depth reader.name) reader.name reader.key value
      modify fun reader => { reader with current := .number }
      token fuel
      return value
    | .sign "(" =>
      token fuel
      let value ← commas fuel
      if !(← isSign ")") then wrong "missing `)'"
      token fuel
      return value
    | .number =>
      token fuel
      return reader.value
    | .name =>
      let ahead := reader.rest.dropWhile isSpace
      let stepped (up : Bool) : Sum Int := do
        assign (keyFrom fuel reader.depth reader.name) reader.name reader.key
          (wrapped (reader.value + (if up then 1 else -1)))
        modify fun reader => { reader with current := .number, rest := ahead.drop 2, start := ahead }
        token fuel
        return reader.value
      match ahead with
      | '+' :: '+' :: _ => stepped true
      | '-' :: '-' :: _ => stepped false
      | _ =>
        token fuel
        return reader.value
    | _ => wrong "syntax error: operand expected"

end

end Sum

/-- The steps that an evaluation may take inside each other. -/
def maxSteps : Nat := 100000

/-- The value of a text. -/
def evaluate (text : Octets) : Act Int := Sum.evaluateFrom maxSteps 0 text

/-- The key of a member of a variable that a text between brackets means. -/
def memberKey (name : String) (key : Octets) : Act Octets := during [] (Sum.keyFrom maxSteps 0 name key)

end Workyard.Shell.Extended
